import DocStore.Text.Digits
import DocStore.Yaml.Token

/-!
# Names in a text

Anchors, tags and directives, each read off a cursor.
-/

namespace DocStore.Yaml

open DocStore.Text

def isNameChar (c : Char) : Bool :=
  isDigit c || ('a' ≤ c && c ≤ 'z') || ('A' ≤ c && c ≤ 'Z') || c == '_' || c == '-'

def readName? (cursor : Cursor) : Option (String × Cursor) :=
  let (name, next) := cursor.span isNameChar
  let closed := match next.peek? with
    | some c => endsWord (some c) || ['?', ':', ',', ']', '\x7d', '%', '@', Char.ofNat 0x60].contains c
    | none => true
  if name.isEmpty || !closed then none else some (String.ofList name, next)

/-! ### Tags -/

/-- Marks that a tag may hold. Commas and brackets are only for whole addresses. -/
private def isTagChar (whole : Bool) (c : Char) : Bool :=
  isNameChar c || ";/?:@&=+$.%!~*'()".toList.contains c || (whole && [',', '[', ']'].contains c)

/-- The bytes of a text in which a byte may be written by `%` and two digits. -/
private def unescape? : List Char → Option (List UInt8)
  | [] => some []
  | '%' :: a :: b :: rest => do
    let bytes ← bytesOfHex? [a, b]
    let more ← unescape? rest
    some (bytes ++ more)
  | '%' :: _ => none
  | c :: rest => (unescape? rest).map (String.utf8EncodeChar c ++ ·)

private def readAddress? (whole : Bool) (cursor : Cursor) : Option (String × Cursor) := do
  let (written, next) := cursor.span (isTagChar whole)
  let bytes ← unescape? written
  let text ← String.fromUTF8? ⟨bytes.toArray⟩
  some (text, next)

/-- A handle is `!`, or a name between two of them. -/
private def splitHandle (cursor : Cursor) : String × Cursor :=
  let (name, next) := cursor.advance.span isNameChar
  if next.peek? == some '!' then ("!" ++ String.ofList name ++ "!", next.advance)
  else ("!", cursor.advance)

private def isTagEnd (inFlow : Bool) (cursor : Cursor) : Bool :=
  endsWord cursor.peek? || (inFlow && cursor.peek? == some ',')

/-- A tag as a handle and a suffix; the cursor is at its mark. A tag by address has no handle. A
lone mark is a suffix. -/
def readTag? (inFlow : Bool) (cursor : Cursor) : Option (Token × Cursor) := do
  if cursor.ahead? 1 == some '<' then
    let (suffix, next) ← readAddress? true (cursor.advanceBy 2)
    if suffix.isEmpty || next.peek? != some '>' then none
    else if isTagEnd inFlow next.advance then some (.tag "" suffix, next.advance)
    else none
  else
    let (handle, next) := splitHandle cursor
    let (suffix, next) ← readAddress? false next
    if !isTagEnd inFlow next then none
    else if handle != "!" then
      if suffix.isEmpty then none else some (.tag handle suffix, next)
    else if suffix.isEmpty then some (.tag "" "!", next)
    else some (.tag "!" suffix, next)

/-! ### Directives -/

/-- A number of at most nine digits. -/
private def readVersionPart? (cursor : Cursor) : Option (Nat × Cursor) :=
  let (digits, next) := cursor.span isDigit
  if digits.isEmpty || 9 < digits.length then none else some (natOfDigits digits, next)

private def readVersion? (cursor : Cursor) : Option (Token × Cursor) := do
  let (major, next) ← readVersionPart? cursor.skipBlanks
  if next.peek? != some '.' then none
  else
    let (minor, next) ← readVersionPart? next.advance
    some (.version major minor, next)

private def readShorthand? (cursor : Cursor) : Option (Token × Cursor) := do
  let start := cursor.skipBlanks
  if start.peek? != some '!' then none
  else
    let (name, next) := start.advance.span isNameChar
    let closed := next.peek? == some '!'
    if !closed && !name.isEmpty then none
    else
      let (handle, next) := splitHandle start
      if !next.peek?.any isBlank then none
      else
        let (expansion, next) ← readAddress? true next.skipBlanks
        if expansion.isEmpty || !endsWord next.peek? then none
        else some (.tagShorthand handle expansion, next)

/-- A directive up to the end of its line; the cursor is at its mark. -/
def readDirective? (cursor : Cursor) : Option (Token × Cursor) := do
  let (name, next) := cursor.advance.span isNameChar
  if !endsWord next.peek? then none
  else
    let (token, next) ←
      if name == ['Y', 'A', 'M', 'L'] then readVersion? next
      else if name == ['T', 'A', 'G'] then readShorthand? next
      else none
    let next := next.skipBlanks.skipComment
    if endsLine next.peek? then some (token, next.advance) else none

end DocStore.Yaml
