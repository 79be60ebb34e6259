/-!
# Cursors

A place in a text, with the line and column that indentation is measured by. Line breaks are
brought to one form before a text is read.
-/

namespace DocStore.Yaml

/-- A break is a line feed, a line separator or a paragraph separator. -/
def isBreak (c : Char) : Bool := c == '\n' || c.toNat == 0x2028 || c.toNat == 0x2029

def isBlank (c : Char) : Bool := c == ' ' || c == '\t'

/-- The characters that a text may hold. -/
def isAllowed (c : Char) : Bool :=
  let n := c.toNat
  n == 9 || n == 10 || n == 13 || (0x20 ≤ n && n ≤ 0x7E) || n == 0x85
    || (0xA0 ≤ n && n ≤ 0xFFFD) || 0x10000 ≤ n

/-- Every break but the separators becomes a line feed. -/
def unifyBreaks : List Char → List Char
  | '\r' :: '\n' :: rest => '\n' :: unifyBreaks rest
  | c :: rest =>
    (if c == '\r' || c.toNat == 0x85 then '\n' else c) :: unifyBreaks rest
  | [] => []

def byteOrderMark : Char := Char.ofNat 0xFEFF

structure Cursor where
  rest : List Char
  index : Nat := 0
  line : Nat := 0
  column : Nat := 0

namespace Cursor

def advance : Cursor → Cursor
  | ⟨c :: rest, index, line, column⟩ =>
    if isBreak c then ⟨rest, index + 1, line + 1, 0⟩ else ⟨rest, index + 1, line, column + 1⟩
  | cursor => cursor

def advanceBy (n : Nat) (cursor : Cursor) : Cursor := n.repeat advance cursor

def peek? (cursor : Cursor) : Option Char := cursor.rest.head?

def ahead? (cursor : Cursor) (n : Nat) : Option Char := cursor.rest[n]?

/-- The characters from here that satisfy `p`, and the cursor after them. -/
def span (p : Char → Bool) (cursor : Cursor) : List Char × Cursor :=
  let taken := cursor.rest.takeWhile p
  (taken, cursor.advanceBy taken.length)

def skipBlanks (cursor : Cursor) : Cursor := (cursor.span isBlank).2

/-- The rest of a line is a comment when it starts with its mark. -/
def skipComment (cursor : Cursor) : Cursor :=
  if cursor.peek? == some '#' then (cursor.span fun c => !isBreak c).2 else cursor

end Cursor

def endsWord : Option Char → Bool
  | some c => isBlank c || isBreak c
  | none => true

def endsLine : Option Char → Bool
  | some c => isBreak c
  | none => true

/-- Three equal marks at the start of a line, and then the end of a word. -/
def Cursor.isAtMarker (cursor : Cursor) (mark : Char) : Bool :=
  cursor.column == 0 && cursor.rest.take 3 == [mark, mark, mark] && endsWord (cursor.ahead? 3)

def Cursor.isAtDocumentMarker (cursor : Cursor) : Bool :=
  cursor.isAtMarker '-' || cursor.isAtMarker '.'

end DocStore.Yaml
