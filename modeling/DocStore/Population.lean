import DocStore.Schema.Selector
import DocStore.SortSpec

/-!
# Population specs

Which paths of a document are to be resolved to documents of other models, and how a list of
references is filtered, sorted and cut.
-/

namespace DocStore

structure PopulationSpec where
  path : Path
  /-- The model to look in; the type of the path names one if this does not. -/
  model : Option String := none
  selector : Option Selector := none
  sort : Option SortSpec := none
  skip : Nat := 0
  limit : Option Nat := none

abbrev Population := List PopulationSpec

namespace Population

/-- The paths of a text of words. -/
def ofText (s : String) : Population := (Text.words s).map fun w => { path := Path.ofText w }

/-- The spec that an object describes. Negative counts are zero. -/
private def ofFields (fields : Fields) : Except Error PopulationSpec :=
  match (fields.get? "path").bind Value.string? with
  | none => .error (.population .noPath)
  | some path => .ok {
      path := Path.ofText path
      model := (fields.get? "model").bind Value.string?
      selector := (fields.get? "match").map Selector.spec
      sort := (fields.get? "sort").map SortSpec.ofValue
      skip := (((fields.get? "skip").bind Value.number?).map Number.toUInt64).getD 0
      limit := ((fields.get? "limit").bind Value.number?).map Number.toUInt64 }

mutual
def ofValue : Value → Except Error Population
  | .string s => .ok (ofText s)
  | .object fields => (ofFields fields).map fun spec => [spec]
  | .array items => ofItems items
  | v => .error (.population (.notASpec v.typeName))
def ofItems : List Value → Except Error Population
  | [] => .ok []
  | v :: rest => do
    let here ← ofValue v
    let more ← ofItems rest
    .ok (here ++ more)
end

end Population

end DocStore
