import DocStore.FieldType.Compare
import DocStore.Schema
import DocStore.Text.Blank

/-!
# Sort keys

The paths that documents are sorted by, each ascending or descending, the first one foremost.
-/

namespace DocStore

structure SortKey where
  path : Path
  descending : Bool := false
deriving DecidableEq, Repr

abbrev SortSpec := List SortKey

namespace SortSpec

/-- A word of a sort text: a path after a minus, or after any number of pluses. -/
private def keyOfWord (word : String) : SortKey :=
  match word.toList with
  | '-' :: rest => ⟨Path.ofText (String.ofList rest), true⟩
  | s => ⟨Path.ofText (String.ofList (s.dropWhile (· == '+'))), false⟩

def ofText (s : String) : SortSpec := (Text.words s).map keyOfWord

/-- Whether a direction is downwards: a number below zero, or a word that says so. -/
private def isDescending : Value → Bool
  | .number x => !x.isNaN && x.key < 0
  | .string s =>
    let word := s.toLower
    word == "desc" || word == "descending" || word == "-1"
  | _ => false

/-- Keys from a text of words or from an object of directions. Anything else sorts by nothing. -/
def ofValue : Value → SortSpec
  | .string s => ofText s
  | .object fields => fields.map fun (path, direction) => ⟨Path.ofText path, isDescending direction⟩
  | _ => []

def compare (schema : Schema) : SortSpec → Fields → Fields → Ordering
  | [], _, _ => .eq
  | key :: rest, a, b =>
    let o := (schema.typeFor key.path).compare (a.atD key.path) (b.atD key.path)
    (if key.descending then o.swap else o).then (compare schema rest a b)

def inOrder (spec : SortSpec) (schema : Schema) (a b : Fields) : Bool :=
  spec.compare schema a b != Ordering.gt

end SortSpec

end DocStore
