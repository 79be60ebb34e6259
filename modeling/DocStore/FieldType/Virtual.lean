import DocStore.Value.Json
import DocStore.Value.Path

/-!
# Joined fields

The getter and setter of a virtual field that shows others as one text.
-/

namespace DocStore.VirtualField

/-- The texts at some paths with a separator between them; null if one of them is missing. -/
def joined (paths : List Path) (separator : String) (doc : Fields) : Value :=
  let found := paths.map doc.atD
  if found.any Value.isNull then .null else .string (separator.intercalate (found.map Value.text))

/-- At most `limit` pieces; the last one has the rest of the text. -/
def pieces (limit : Nat) (separator s : String) : List String :=
  let all := s.splitOn separator
  if limit == 0 then []
  else if all.length ≤ limit then all
  else all.take (limit - 1) ++ [separator.intercalate (all.drop (limit - 1))]

/-- Stores the pieces of a text at as many paths. -/
def split (paths : List Path) (separator : String) (doc : Fields) (v : Value) : Fields :=
  (paths.zip (pieces paths.length separator v.text)).foldl
    (fun doc (path, piece) => doc.set path (.string piece)) doc

end DocStore.VirtualField
