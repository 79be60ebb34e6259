import DocStore.Json
import DocStore.Number.Layout
import DocStore.Text.Digits

/-!
# Interchange text

The compact text of a tree, and the text with one member a line.
-/

namespace DocStore.Json

open DocStore.Text

def escape (c : Char) : List Char :=
  match c with
  | '"' => ['\\', '"']
  | '\\' => ['\\', '\\']
  | '\n' => ['\\', 'n']
  | '\r' => ['\\', 'r']
  | '\t' => ['\\', 't']
  | c =>
    if c.toNat == 8 then ['\\', 'b']
    else if c.toNat == 12 then ['\\', 'f']
    else if c.toNat < 0x20 then
      ['\\', 'u', '0', '0', hexChar (c.toNat / 16), hexChar (c.toNat % 16)]
    else [c]

/-- A string in quotes. Quotes, backslashes and control characters are escaped. -/
def quoted (s : String) : String :=
  String.ofList ('"' :: s.toList.flatMap escape ++ ['"'])

mutual
def text : Json → String
  | .null => "null"
  | .bool true => "true"
  | .bool false => "false"
  | .integer n => toString n
  | .real x => if x.isFinite then Number.interchange.text x else "null"
  | .string s => quoted s
  | .array items => "[" ++ itemsText items ++ "]"
  | .object members => "\x7b" ++ membersText members ++ "\x7d"
def itemsText : List Json → String
  | [] => ""
  | [j] => j.text
  | j :: k :: rest => j.text ++ "," ++ itemsText (k :: rest)
def membersText : List (String × Json) → String
  | [] => ""
  | [(key, j)] => quoted key ++ ":" ++ j.text
  | (key, j) :: m :: rest => quoted key ++ ":" ++ j.text ++ "," ++ membersText (m :: rest)
end

private def margin (depth : Nat) : String := "\n".pushn ' ' (2 * depth)

mutual
/-- The text with an item or a member a line, two blanks a level. -/
def prettyAt (depth : Nat) : Json → String
  | .array [] => "[]"
  | .array items => "[" ++ prettyItems (depth + 1) items ++ margin depth ++ "]"
  | .object [] => "\x7b\x7d"
  | .object members => "\x7b" ++ prettyMembers (depth + 1) members ++ margin depth ++ "\x7d"
  | j => j.text
def prettyItems (depth : Nat) : List Json → String
  | [] => ""
  | [j] => margin depth ++ j.prettyAt depth
  | j :: k :: rest => margin depth ++ j.prettyAt depth ++ "," ++ prettyItems depth (k :: rest)
def prettyMembers (depth : Nat) : List (String × Json) → String
  | [] => ""
  | [(key, j)] => margin depth ++ quoted key ++ ": " ++ j.prettyAt depth
  | (key, j) :: m :: rest =>
    margin depth ++ quoted key ++ ": " ++ j.prettyAt depth ++ "," ++ prettyMembers depth (m :: rest)
end

def pretty (j : Json) : String := j.prettyAt 0

end DocStore.Json
