import DocStore.Text.Digits
import DocStore.Unicode.CaseFold
import DocStore.Unicode.Category
import DocStore.Unicode.Property
import DocStore.Unicode.Script

/-!
# Sets of characters

Sets given by ranges of code points and by operations on sets, and the sets that Unicode has names
for.
-/

namespace DocStore.Unicode

open DocStore.Text

inductive CharSet where
  | ranges (l : List (Nat × Nat))
  | union (a b : CharSet)
  | inter (a b : CharSet)
  | diff (a b : CharSet)
  | complement (a : CharSet)
  /-- The characters that differ in case only from one of the set. -/
  | folded (a : CharSet)
  /-- The same among the letters of ASCII. -/
  | foldedAscii (a : CharSet)

namespace CharSet

def empty : CharSet := .ranges []

def range (low high : Nat) : CharSet := .ranges [(low, high)]

def single (c : Char) : CharSet := range c.toNat c.toNat

def unionAll (l : List CharSet) : CharSet := l.foldl .union empty

def symmetric (a b : CharSet) : CharSet := .union (.diff a b) (.diff b a)

def foldGroups : List (List Nat) :=
  (foldRows.flatMap fun row => row.splitOn " ").map fun group =>
    (group.splitOn "/").filterMap fun c => natOfHex? c.toList

def variants (n : Nat) : List Nat := (foldGroups.find? (·.contains n)).getD [n]

def variantsAscii (n : Nat) : List Nat :=
  if 0x41 ≤ n && n ≤ 0x5A then [n, n + 0x20]
  else if 0x61 ≤ n && n ≤ 0x7A then [n, n - 0x20]
  else [n]

def contains : CharSet → Nat → Bool
  | .ranges l, n => l.any fun (low, high) => low ≤ n && n ≤ high
  | .union a b, n => a.contains n || b.contains n
  | .inter a b, n => a.contains n && b.contains n
  | .diff a b, n => a.contains n && !b.contains n
  | .complement a, n => !a.contains n
  | .folded a, n => (variants n).any a.contains
  | .foldedAscii a, n => (variantsAscii n).any a.contains

/-- How many bytes a character of the set takes at most, summed over the ranges. -/
def weight : CharSet → Nat
  | .ranges l =>
    l.foldl (fun n (_, high) =>
      n + if high < 0x80 then 1 else if high < 0x800 then 2 else if high < 0x10000 then 3 else 4) 0
  | .union a b | .inter a b | .diff a b => a.weight + b.weight
  | .complement a | .folded a | .foldedAscii a => a.weight + 1

end CharSet

open CharSet

private def parseRanges (lines : List String) : List (Nat × Nat) :=
  (lines.flatMap fun line => line.splitOn " ").filterMap fun word =>
    match word.splitOn "-" with
    | [a] => (natOfHex? a.toList).map fun n => (n, n)
    | [a, b] => do
      let low ← natOfHex? a.toList
      let high ← natOfHex? b.toList
      some (low, high)
    | _ => none

private def findRow? {α : Type} (names : α → String) (rows : List α) (name : String) : Option α :=
  rows.find? fun row => ((names row).splitOn " ").contains name

private def categoryRanges (name : String) : List (Nat × Nat) :=
  ((findRow? Prod.fst categoryRows name).map fun row => parseRanges row.2).getD []

/-- A general category or a group of them, by one of its names. -/
def category? (name : String) : Option CharSet :=
  if name == "any" then some (range 0 0x10FFFF)
  else if name == "ascii" then some (range 0 0x7F)
  else if name == "assigned" then some (.complement (.ranges (categoryRanges "cn")))
  else match findRow? Prod.fst categoryGroups name with
    | some group => some (.ranges (group.2.flatMap categoryRanges))
    | none => (findRow? Prod.fst categoryRows name).map fun row => .ranges (parseRanges row.2)

def script? (name : String) : Option CharSet :=
  (findRow? Prod.fst scriptRows name).map fun row => .ranges (parseRanges row.2)

/-- A property that a character has or has not, by one of its names. -/
def property? (name : String) : Option CharSet :=
  (findRow? PropertyRow.names propertyRows name).map fun row =>
    let base := (row.categories.splitOn " ").flatMap categoryRanges
    let all : CharSet := .ranges (base ++ parseRanges row.extra)
    if row.exceptions.isEmpty then all else .diff all (.ranges (parseRanges row.exceptions))

/-- Letters, marks, decimal digits, connecting punctuation and joiners. -/
def wordCharacters : CharSet :=
  unionAll (["alphabetic", "joincontrol"].filterMap property?
    ++ ["m", "nd", "pc"].filterMap category?)

def decimalDigits : CharSet := (category? "nd").getD empty

def blanks : CharSet := (property? "whitespace").getD empty

/-- A name in lower case without separators, and without the word `is` in front. What is not ASCII
does not count. -/
def looseName (name : List Char) : String :=
  let startsWithIs := match name with
    | a :: b :: _ => (a == 'i' || a == 'I') && (b == 's' || b == 'S')
    | _ => false
  let body := (if startsWithIs then name.drop 2 else name).filter fun c =>
    c.toNat < 0x80 && !(c == ' ' || c == '_' || c == '-')
  let norm := String.ofList (body.map Char.toLower)
  if startsWithIs && norm == "c" then "isc" else norm

/-- The set that a name stands for: a property, a category or a script. Some names of properties
are taken as those of categories. -/
def byName? (name : List Char) : Option CharSet :=
  let name := looseName name
  let asProperty :=
    if name == "cf" || name == "sc" || name == "lc" then none else property? name
  asProperty <|> category? name <|> script? name

def byValue? (property value : List Char) : Option CharSet :=
  let property := looseName property
  let value := looseName value
  if property == "gc" || property == "generalcategory" then category? value
  else if property == "sc" || property == "script" || property == "scx"
      || property == "scriptextensions" then script? value
  else none

end DocStore.Unicode
