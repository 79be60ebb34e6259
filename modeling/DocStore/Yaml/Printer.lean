import DocStore.Json
import DocStore.Number.Layout
import DocStore.Text.Digits
import DocStore.Yaml.Cursor
import DocStore.Yaml.Literal

/-!
# Configuration text

A tree with an item or an entry a line, two columns a level. A string is written as it is if it then
reads back as the same string; a string with line feeds is written line by line, any other in
quotes.
-/

namespace DocStore.Yaml

open DocStore.Text

/-! ### What a string allows -/

def isPrintable (c : Char) : Bool :=
  let n := c.toNat
  n == 10 || (0x20 ≤ n && n ≤ 0x7E) || (0xA0 ≤ n && n ≤ 0xFFFD && c != byteOrderMark) || 0x10000 ≤ n

/-- The breaks of a text that is not brought to one form. -/
def isAnyBreak (c : Char) : Bool := isBreak c || c == '\r' || c.toNat == 0x85

def isMark (c : Char) : Bool := "#,[]\x7b\x7d&*!|>'\"%@\x60".toList.contains c

/-- A mark inside a text ends a plain string: a colon before a gap, a comment after one. -/
def hasMarkInside (before : Option Char) : List Char → Bool
  | [] => false
  | c :: rest =>
    (c == ':' && endsWord rest.head?) || (c == '#' && endsWord before)
      || hasMarkInside (some c) rest

/-- The text would be taken for something else than a plain string. -/
def isMarked : List Char → Bool
  | [] => false
  | c :: rest =>
    let text := c :: rest
    isMark c || ((c == '?' || c == '-') && endsWord rest.head?)
      || text.take 3 == ['-', '-', '-'] || text.take 3 == ['.', '.', '.']
      || hasMarkInside none text

/-- Some character is followed by one of another kind. -/
def hasPair (p q : Char → Bool) (s : List Char) : Bool :=
  (s.zip s.tail).any fun (a, b) => p a && q b

def isSpace (c : Char) : Bool := c == ' '

def allowsPlain (s : List Char) : Bool :=
  !s.isEmpty && s.all (fun c => isPrintable c && !isAnyBreak c)
    && !s.head?.any isSpace && !s.getLast?.any isSpace && !isMarked s

def allowsQuotes (s : List Char) : Bool :=
  s.all isPrintable && !hasPair isSpace isAnyBreak s && !hasPair isAnyBreak isSpace s

def allowsBlock (s : List Char) : Bool :=
  s.all isPrintable && !hasPair isSpace isAnyBreak s && !s.getLast?.any isSpace

/-- A plain text that stands for something else than itself. -/
def isLiteral (s : String) : Bool :=
  s.isEmpty || Literal.isNull s || (Literal.bool? s).isSome || Literal.isPadded s
    || (match Literal.whole s with
        | .none => false
        | _ => true)
    || (Literal.real? s).isSome

/-! ### Strings -/

private def margin (column : Nat) : String := "".pushn ' ' column

private def hexUpper (n : Nat) : Char := (hexChar n).toUpper

private def hexDigits : Nat → Nat → List Char
  | 0, _ => []
  | width + 1, n => hexDigits width (n / 16) ++ [hexUpper (n % 16)]

private def escapeName? (c : Char) : Option Char :=
  match c.toNat with
  | 0x00 => some '0'
  | 0x07 => some 'a'
  | 0x08 => some 'b'
  | 0x09 => some 't'
  | 0x0A => some 'n'
  | 0x0B => some 'v'
  | 0x0C => some 'f'
  | 0x0D => some 'r'
  | 0x1B => some 'e'
  | 0x22 => some '"'
  | 0x5C => some '\\'
  | 0x85 => some 'N'
  | 0x2028 => some 'L'
  | 0x2029 => some 'P'
  | _ => none

private def escaped (c : Char) : List Char :=
  match escapeName? c with
  | some name => ['\\', name]
  | none =>
    if isPrintable c then [c]
    else
      let n := c.toNat
      if n ≤ 0xFF then '\\' :: 'x' :: hexDigits 2 n
      else if n ≤ 0xFFFF then '\\' :: 'u' :: hexDigits 4 n
      else '\\' :: 'U' :: hexDigits 8 n

def doubleQuoted (s : List Char) : List Char := '"' :: s.flatMap escaped ++ ['"']

/-- The characters of quoted text. Quotes are doubled, and what follows a break is indented. -/
private def singleQuotedRest (column : Nat) (afterBreak : Bool) : List Char → List Char
  | [] => if afterBreak then (margin column).toList else []
  | c :: rest =>
    if isBreak c then c :: singleQuotedRest column true rest
    else
      (if afterBreak then (margin column).toList else [])
        ++ (if c == '\'' then ['\'', '\''] else [c]) ++ singleQuotedRest column false rest

def singleQuoted (column : Nat) (s : List Char) : List Char :=
  '\'' :: singleQuotedRest column false s ++ ['\'']

/-- The lines of a block, each indented. A line feed is added unless the block ends in a break. -/
private def indentedLines (column : Nat) (afterBreak : Bool) : List Char → List Char
  | [] => if afterBreak then [] else ['\n']
  | c :: rest =>
    if isBreak c then c :: indentedLines column true rest
    else (if afterBreak then (margin column).toList else []) ++ c :: indentedLines column false rest

/-- How the breaks at the end of a block count: none, one, or all of them. -/
private def keeping (s : List Char) : List Char :=
  match s.reverse with
  | c :: d :: _ => if !isBreak c then ['-'] else if isBreak d then ['+'] else []
  | [c] => if isBreak c then ['+'] else ['-']
  | [] => ['-']

/-- A string line by line. The indentation is told if the first line starts with a gap. -/
def block (column : Nat) (s : List Char) : List Char :=
  let indentation := if s.head?.any fun c => isSpace c || isBreak c then ['2'] else []
  '|' :: indentation ++ keeping s ++ '\n' :: indentedLines column true s

/-- A string without line feeds: as it is, or in the quotes that it allows. -/
def lineText (column : Nat) (s : String) : List Char :=
  let cs := s.toList
  if !isLiteral s && allowsPlain cs then cs
  else if allowsQuotes cs then singleQuoted column cs
  else doubleQuoted cs

def stringLine (column : Nat) (s : String) : String :=
  let cs := s.toList
  String.ofList <|
    if !cs.contains '\n' then lineText column s ++ ['\n']
    else if allowsBlock cs then block column cs
    else doubleQuoted cs ++ ['\n']

/-! ### Trees -/

/-- A key that can stand before its colon: on one line and not too long. -/
def isShortKey (key : String) : Bool := key.utf8ByteSize ≤ 128 && !key.toList.any isAnyBreak

def leafLine (column : Nat) : Json → String
  | .null => "null\n"
  | .bool true => "true\n"
  | .bool false => "false\n"
  | .integer n => toString n ++ "\n"
  | .real x => Number.configuration.text x ++ "\n"
  | .string s => stringLine column s
  | .array _ => "[]\n"
  | .object _ => "\x7b\x7d\n"

mutual
/-- A tree after the mark of an item or entry in a column. What stands under a key starts on a new
line, and its items are not indented. -/
def nodeText (column : Nat) (underKey : Bool) : Json → String
  | .array (item :: rest) =>
    if underKey then itemsText column ("\n" ++ margin column) (item :: rest)
    else itemsText (column + 2) " " (item :: rest)
  | .object (entry :: rest) =>
    entriesText (column + 2) (if underKey then "\n" ++ margin (column + 2) else " ")
      (entry :: rest)
  | leaf => " " ++ leafLine (column + 2) leaf
def itemsText (column : Nat) (lead : String) : List Json → String
  | [] => ""
  | item :: rest =>
    lead ++ "-" ++ nodeText column false item ++ itemsText column (margin column) rest
def entriesText (column : Nat) (lead : String) : List (String × Json) → String
  | [] => ""
  | (key, j) :: rest =>
    let entry :=
      if isShortKey key then String.ofList (lineText 0 key) ++ ":" ++ nodeText column true j
      else "? " ++ stringLine (column + 2) key ++ margin column ++ ":" ++ nodeText column false j
    lead ++ entry ++ entriesText column (margin column) rest
end

def text : Json → String
  | .array (item :: rest) => itemsText 0 "" (item :: rest)
  | .object (entry :: rest) => entriesText 0 "" (entry :: rest)
  | leaf => leafLine 2 leaf

end DocStore.Yaml
