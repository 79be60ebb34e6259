import DocStore.Proofs.FieldType.Canonical
import DocStore.Proofs.FieldType.Normal

/-!
# Literals

A field of most kinds holds a single value, which may be given in other forms as well; the form that
is stored is the canonical one. A query for the value as it was given matches what is stored if the
kind coerces what a query asks for, and else only if the form given was canonical.
-/

namespace DocStore

/-- The kinds whose fields hold single values. -/
def Kind.IsLiteral : Kind → Prop
  | .mixed | .object | .virtual _ => False
  | _ => True

namespace Kind

variable {kind : Kind} {v w : Value}

theorem IsLiteral.concrete (literal : kind.IsLiteral) (field : VirtualField) :
    kind ≠ .virtual field := by
  rintro rfl
  exact literal.elim

end Kind

end DocStore
