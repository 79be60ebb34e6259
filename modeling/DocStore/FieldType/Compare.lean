import DocStore.FieldType.Coerce
import DocStore.Value.Order

/-!
# Order and match

Comparing two stored values of a type, and a stored value with one written in a query.
-/

namespace DocStore

namespace FieldType

def compareItems (item : Value → Value → Ordering) : List Value → List Value → Ordering
  | [], [] => .eq
  | [], _ => .lt
  | _, [] => .gt
  | v :: l, w :: m => (item v w).then (compareItems item l m)

/-- The order of values of a type. Null comes first. -/
def compare : FieldType → Value → Value → Ordering
  | _, .null, .null => .eq
  | _, .null, _ => .lt
  | _, _, .null => .gt
  | .leaf _ _, v, w => v.order w
  | .array child _, .array l, .array m => compareItems child.compare l m
  | .array _ _, v, w => v.order w

def matchItems (item : Value → Value → Bool) : List Value → List Value → Bool
  | [], [] => true
  | v :: l, w :: m => item v w && matchItems item l m
  | _, _ => false

end FieldType

/-- Kinds whose values are also written in other forms; a query may use those. -/
def Kind.coercesQueries : Kind → Bool
  | .number | .integer | .date | .buffer => true
  | _ => false

namespace FieldType

/-- Whether a stored value is the one that a query asks for. Null matches null only. -/
def isMatch : FieldType → Value → Value → Bool
  | _, .null, .null => true
  | _, .null, _ => false
  | _, _, .null => false
  | .leaf kind _, v, query => v.equal (if kind.coercesQueries then kind.coerce query else query)
  | .array child _, .array l, .array m => matchItems child.isMatch l m
  | .array _ _, _, _ => false

end FieldType

end DocStore
