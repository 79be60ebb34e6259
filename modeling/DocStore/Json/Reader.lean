import DocStore.Json.Numeral

/-!
# Reading interchange text

A reader takes a tree off the front of a text. Nesting is limited; the limit is also what the
recursion is on.
-/

namespace DocStore.Json

open DocStore.Text

def isSpace (c : Char) : Bool := c == ' ' || c == '\n' || c == '\t' || c == '\r'

def skipSpace (s : List Char) : List Char := s.dropWhile isSpace

def expect : List Char → List Char → Option (List Char)
  | [], s => some s
  | c :: cs, d :: s => if c == d then expect cs s else none
  | _ :: _, [] => none

def unit? : List Char → Option (Nat × List Char)
  | a :: b :: c :: d :: rest => (natOfHex? [a, b, c, d]).map (·, rest)
  | _ => none

/-- The character of an escape written by its number. A pair of surrogates is one character, a
single surrogate is none. -/
def numbered? (s : List Char) : Option (Char × List Char) := do
  let (n, rest) ← unit? s
  if 0xD800 ≤ n && n < 0xDC00 then
    let rest ← expect ['\\', 'u'] rest
    let (m, rest) ← unit? rest
    if 0xDC00 ≤ m && m < 0xE000 then
      some (Char.ofNat (0x10000 + (n - 0xD800) * 0x400 + (m - 0xDC00)), rest)
    else none
  else if 0xDC00 ≤ n && n < 0xE000 then none
  else some (Char.ofNat n, rest)

def escaped? : List Char → Option (Char × List Char)
  | '"' :: rest => some ('"', rest)
  | '\\' :: rest => some ('\\', rest)
  | '/' :: rest => some ('/', rest)
  | 'b' :: rest => some (Char.ofNat 8, rest)
  | 'f' :: rest => some (Char.ofNat 12, rest)
  | 'n' :: rest => some ('\n', rest)
  | 'r' :: rest => some ('\r', rest)
  | 't' :: rest => some ('\t', rest)
  | 'u' :: rest => numbered? rest
  | _ => none

/-- The rest of a string after its opening quote. The fuel is the length of the text. -/
def stringRest (fuel : Nat) (s : List Char) : Option (List Char × List Char) :=
  match fuel, s with
  | fuel + 1, c :: rest =>
    if c == '"' then some ([], rest)
    else if c == '\\' then do
      let (d, rest) ← escaped? rest
      let (more, rest) ← stringRest fuel rest
      some (d :: more, rest)
    else if c.toNat < 0x20 then none
    else do
      let (more, rest) ← stringRest fuel rest
      some (c :: more, rest)
  | _, _ => none

def readString (s : List Char) : Option (String × List Char) :=
  (stringRest s.length s).map fun (cs, rest) => (String.ofList cs, rest)

def itemsRest (item : List Char → Option (Json × List Char)) (fuel : Nat)
    (s : List Char) : Option (List Json × List Char) :=
  match fuel with
  | 0 => none
  | fuel + 1 => do
    let (j, rest) ← item (skipSpace s)
    match skipSpace rest with
    | ',' :: rest =>
      let (more, rest) ← itemsRest item fuel rest
      some (j :: more, rest)
    | ']' :: rest => some ([j], rest)
    | _ => none

def membersRest (item : List Char → Option (Json × List Char)) (fuel : Nat)
    (s : List Char) : Option (List (String × Json) × List Char) :=
  match fuel with
  | 0 => none
  | fuel + 1 => do
    let rest ← expect ['"'] (skipSpace s)
    let (key, rest) ← readString rest
    let rest ← expect [':'] (skipSpace rest)
    let (j, rest) ← item (skipSpace rest)
    match skipSpace rest with
    | ',' :: rest =>
      let (more, rest) ← membersRest item fuel rest
      some ((key, j) :: more, rest)
    | '\x7d' :: rest => some ([(key, j)], rest)
    | _ => none

/-- Takes a tree that nests arrays and objects at most `depth` deep off the front of the text. -/
def read : Nat → List Char → Option (Json × List Char)
  | _, 'n' :: rest => (expect ['u', 'l', 'l'] rest).map (.null, ·)
  | _, 't' :: rest => (expect ['r', 'u', 'e'] rest).map (.bool true, ·)
  | _, 'f' :: rest => (expect ['a', 'l', 's', 'e'] rest).map (.bool false, ·)
  | _, '"' :: rest => (readString rest).map fun (s, rest) => (.string s, rest)
  | _, '-' :: rest => readNumeral true rest
  | 0, '[' :: _ => none
  | 0, '\x7b' :: _ => none
  | depth + 1, '[' :: rest =>
    match skipSpace rest with
    | ']' :: rest => some (.array [], rest)
    | rest => (itemsRest (read depth) rest.length rest).map fun (l, rest) => (.array l, rest)
  | depth + 1, '\x7b' :: rest =>
    match skipSpace rest with
    | '\x7d' :: rest => some (.object [], rest)
    | rest => (membersRest (read depth) rest.length rest).map fun (l, rest) => (.object l, rest)
  | _, s => readNumeral false s

def nestingLimit : Nat := 127

def ofText? (text : String) : Option Json := do
  let (j, rest) ← read nestingLimit (skipSpace text.toList)
  if (skipSpace rest).isEmpty then some j else none

end DocStore.Json
