/-!
# Blank characters

The characters with the Unicode property White_Space, and trimming by them.
-/

namespace DocStore.Text

def isBlank (c : Char) : Bool :=
  let n := c.toNat
  (9 ≤ n && n ≤ 13) || n == 0x20 || n == 0x85 || n == 0xA0 || n == 0x1680
    || (0x2000 ≤ n && n ≤ 0x200A) || n == 0x2028 || n == 0x2029 || n == 0x202F || n == 0x205F
    || n == 0x3000

def dropBlanks (s : List Char) : List Char := s.dropWhile isBlank

def trim (s : List Char) : List Char := (dropBlanks (dropBlanks s).reverse).reverse

def words (s : String) : List String :=
  let (word, done) := s.toList.foldr
    (fun c (word, done) =>
      if isBlank c then ([], if word.isEmpty then done else word :: done) else (c :: word, done))
    (([] : List Char), ([] : List (List Char)))
  ((if word.isEmpty then done else word :: done)).map String.ofList

end DocStore.Text
