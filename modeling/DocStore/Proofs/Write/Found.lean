import DocStore.Proofs.FieldType.Literal
import DocStore.Proofs.Query.Compile
import DocStore.Proofs.Schema.Declare
import DocStore.Proofs.Schema.Place
import DocStore.Proofs.Write.Search

/-!
# Finding what was inserted

A document is inserted with a single value in some field, and then asked for by that value. What is
stored is the value in its canonical form, and only some kinds put what a query asks for into that
form as well.
-/

namespace DocStore

variable {m : Model} {source : Source} {doc fields : Fields} {key : String} {v : Value}
  {kind : Kind} {opts : Options} {before after : List (Path × FieldType)} {schema : Schema}

-- ---------------------------------------------------------------------------
-- The query
-- ---------------------------------------------------------------------------

/-- The query for a value in a field. -/
def Selector.holding (key : String) (v : Value) : Selector := .spec (.object [(key, v)])

namespace Model

end Model

end DocStore
