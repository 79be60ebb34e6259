import DocStore.Number

/-!
# Interchange trees

A tree of the interchange format as it is written: whole numbers apart from others, members in the
order of the text, repeated ones included.
-/

namespace DocStore

inductive Json where
  | null
  | bool (b : Bool)
  | integer (n : Int)
  | real (x : Number)
  | string (s : String)
  | array (items : List Json)
  | object (members : List (String × Json))
deriving Inhabited

end DocStore
