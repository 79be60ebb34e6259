import DocStore.Value

/-!
# Fields

Look-up and change of single members. A changed member keeps its place, a new one goes last.
-/

namespace DocStore.Fields

def get? (fields : Fields) (key : String) : Option Value := List.lookup key fields

def contains (fields : Fields) (key : String) : Bool := (get? fields key).isSome

def insert (key : String) (v : Value) : Fields → Fields
  | [] => [(key, v)]
  | (k, w) :: rest => if k == key then (k, v) :: rest else (k, w) :: insert key v rest

def erase (key : String) (fields : Fields) : Fields := fields.filter fun (k, _) => k != key

/-- Members in order; a repeated key overwrites the earlier value and keeps its place. -/
def ofList (members : List (String × Value)) : Fields :=
  members.foldl (fun fields (k, v) => insert k v fields) []

def keys (fields : Fields) : List String := List.map Prod.fst fields

end DocStore.Fields
