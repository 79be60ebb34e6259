import DocStore.Yaml.Token.Scalar
import DocStore.Yaml.Token.Tag

/-!
# Cutting a text into tokens

Indentation opens and closes block collections. What stands before a colon turns out to be a key
only when the colon is reached; until then its place among the tokens is remembered.
-/

namespace DocStore.Yaml

structure PendingKey where
  place : Nat
  cursor : Cursor
  /-- Nothing else than a key can stand here. -/
  required : Bool

structure Scan where
  cursor : Cursor
  tokens : Array Token := #[]
  /-- The columns of the open block collections, innermost first. -/
  indents : List Nat := []
  keyAllowed : Bool := true
  /-- The pending key of the block context and of each open flow collection, innermost first. -/
  pending : List (Option PendingKey) := [none]

namespace Scan

def inFlow (scan : Scan) : Bool := 1 < scan.pending.length

def push (token : Token) (next : Cursor) (scan : Scan) : Scan :=
  { scan with tokens := scan.tokens.push token, cursor := next }

/-- Opens a block collection at a column that is further in than the last one. Its token stands at
`place`. -/
private def openBlock (column place : Nat) (token : Token) (scan : Scan) : Scan :=
  if scan.inFlow || scan.indents.head?.any (column ≤ ·) then scan
  else { scan with
    indents := column :: scan.indents, tokens := scan.tokens.insertIdxIfInBounds place token }

/-- Closes the block collections that are further in than `inside` tells. -/
private def closeBlocks (inside : Nat → Bool) (scan : Scan) : Scan :=
  if scan.inFlow then scan
  else
    let closed := scan.indents.takeWhile inside
    { scan with
      indents := scan.indents.dropWhile inside
      tokens := scan.tokens ++ (closed.map fun _ => Token.blockEnd) }

/-- A key has to end on the line it started on, within 1024 characters. -/
private def dropStaleKeys (scan : Scan) : Option Scan := do
  let pending ← scan.pending.mapM fun key =>
    match key with
    | some k =>
      if k.cursor.line < scan.cursor.line || k.cursor.index + 1024 < scan.cursor.index then
        if k.required then none else some none
      else some key
    | none => some none
  some { scan with pending }

private def dropKey (scan : Scan) : Option Scan :=
  match scan.pending with
  | some key :: outer =>
    if key.required then none else some { scan with pending := none :: outer }
  | _ => some scan

private def markKey (scan : Scan) : Option Scan :=
  if scan.keyAllowed then do
    let required := !scan.inFlow && scan.indents.head? == some scan.cursor.column
    let scan ← scan.dropKey
    let key : PendingKey := ⟨scan.tokens.size, scan.cursor, required⟩
    some { scan with pending := some key :: scan.pending.tail }
  else some scan

/-- Goes past blanks, comments and empty lines. A new line of block context may start with a key. -/
private def skipGap : Nat → Scan → Scan
  | 0, scan => scan
  | fuel + 1, scan =>
    let cursor := scan.cursor
    match cursor.peek? with
    | some c =>
      if c == ' ' || (c == '\t' && (scan.inFlow || !scan.keyAllowed))
          || (c == byteOrderMark && cursor.column == 0) then
        skipGap fuel { scan with cursor := cursor.advance }
      else if c == '#' then skipGap fuel { scan with cursor := cursor.skipComment }
      else if isBreak c then
        skipGap fuel
          { scan with cursor := cursor.advance, keyAllowed := scan.keyAllowed || !scan.inFlow }
      else scan
    | none => scan

/-! ### One token -/

private def atDocumentMark (token : Token) (scan : Scan) : Option Scan := do
  let scan ← (scan.closeBlocks fun _ => true).dropKey
  some { (scan.push token (scan.cursor.advanceBy 3)) with keyAllowed := false }

private def atDirective (scan : Scan) : Option Scan := do
  let scan ← (scan.closeBlocks fun _ => true).dropKey
  let (token, next) ← readDirective? scan.cursor
  some { (scan.push token next) with keyAllowed := false }

private def atFlowStart (token : Token) (scan : Scan) : Option Scan := do
  let scan ← scan.markKey
  some { (scan.push token scan.cursor.advance) with
    keyAllowed := true, pending := none :: scan.pending }

private def atFlowEnd (token : Token) (scan : Scan) : Option Scan := do
  let scan ← scan.dropKey
  let pending := if scan.inFlow then scan.pending.tail else scan.pending
  some { (scan.push token scan.cursor.advance) with keyAllowed := false, pending }

private def atFlowEntry (scan : Scan) : Option Scan := do
  let scan ← scan.dropKey
  some { (scan.push .flowEntry scan.cursor.advance) with keyAllowed := true }

/-- A mark of block context has to stand where a key could. In flow context it opens nothing. -/
private def openAtMark (collection : Token) (scan : Scan) : Option Scan :=
  if scan.inFlow then some scan
  else if !scan.keyAllowed then none
  else some (scan.openBlock scan.cursor.column scan.tokens.size collection)

private def atEntry (scan : Scan) : Option Scan := do
  let scan ← scan.openAtMark .sequenceStart
  let scan ← scan.dropKey
  some { (scan.push .entry scan.cursor.advance) with keyAllowed := true }

private def atKey (scan : Scan) : Option Scan := do
  let scan ← scan.openAtMark .mappingStart
  let scan ← scan.dropKey
  some { (scan.push .key scan.cursor.advance) with keyAllowed := !scan.inFlow }

/-- A colon makes a key of what is pending. Without anything pending the key is missing. -/
private def atValue (scan : Scan) : Option Scan :=
  match scan.pending with
  | some key :: outer =>
    let scan := { scan with
      tokens := scan.tokens.insertIdxIfInBounds key.place .key, pending := none :: outer }
    let scan := scan.openBlock key.cursor.column key.place .mappingStart
    some { (scan.push .value scan.cursor.advance) with keyAllowed := false }
  | _ => do
    let scan ← scan.openAtMark .mappingStart
    some { (scan.push .value scan.cursor.advance) with keyAllowed := !scan.inFlow }

/-- Something that may be a key or the start of one. -/
private def atContent (read : Cursor → Option (Token × Cursor)) (scan : Scan) : Option Scan := do
  let scan ← scan.markKey
  let (token, next) ← read scan.cursor
  some { (scan.push token next) with keyAllowed := false }

private def atPlain (scan : Scan) : Option Scan := do
  let scan ← scan.markKey
  let indent := (scan.indents.head?.map (· + 1)).getD 0
  let scalar ← PlainScalar.read? scan.inFlow indent scan.cursor
  some { (scan.push (.scalar .plain (String.ofList scalar.text)) scalar.next) with
    keyAllowed := scalar.broken }

private def atBlockScalar (style : Style) (scan : Scan) : Option Scan := do
  let scan ← scan.dropKey
  let (text, next) ← readBlock? (style == .folded) scan.indents.head? scan.cursor
  some { (scan.push (.scalar style (String.ofList text)) next) with keyAllowed := true }

private def readQuotedToken? (cursor : Cursor) : Option (Token × Cursor) :=
  (readQuoted? cursor).map fun (text, next) => (.scalar .quoted (String.ofList text), next)

private def isIndicator (c : Char) : Bool :=
  "-?:,[]#&*!|>'\"%@".toList.contains c || c == '\x7b' || c == '\x7d' || c == Char.ofNat 0x60

private def startsPlain (inFlow : Bool) (c : Char) (next : Option Char) : Bool :=
  (!isIndicator c && !isBlank c) || (c == '-' && !next.any isBlank)
    || (!inFlow && (c == '?' || c == ':') && !endsWord next)

/-- Cuts the token that starts with `c` at the cursor. -/
private def cut (c : Char) (scan : Scan) : Option Scan :=
  let cursor := scan.cursor
  let next := cursor.ahead? 1
  let flow := scan.inFlow
  if cursor.column == 0 && c == '%' then scan.atDirective
  else if cursor.isAtMarker '-' then scan.atDocumentMark .documentStart
  else if cursor.isAtMarker '.' then scan.atDocumentMark .documentEnd
  else if c == '[' then scan.atFlowStart .flowSequenceStart
  else if c == '\x7b' then scan.atFlowStart .flowMappingStart
  else if c == ']' then scan.atFlowEnd .flowSequenceEnd
  else if c == '\x7d' then scan.atFlowEnd .flowMappingEnd
  else if c == ',' then scan.atFlowEntry
  else if c == '-' && endsWord next then scan.atEntry
  else if c == '?' && (flow || endsWord next) then scan.atKey
  else if c == ':' && (flow || endsWord next) then scan.atValue
  else if c == '*' then
    scan.atContent fun cursor => (readName? cursor.advance).map fun (n, next) => (.alias n, next)
  else if c == '&' then
    scan.atContent fun cursor => (readName? cursor.advance).map fun (n, next) => (.anchor n, next)
  else if c == '!' then scan.atContent (readTag? flow)
  else if c == '|' && !flow then scan.atBlockScalar .literal
  else if c == '>' && !flow then scan.atBlockScalar .folded
  else if c == '\'' || c == '"' then scan.atContent readQuotedToken?
  else if startsPlain flow c next then scan.atPlain
  else none

private def run : Nat → Scan → Option (Array Token)
  | 0, _ => none
  | fuel + 1, scan => do
    let scan ← (scan.skipGap (scan.cursor.rest.length + 1)).dropStaleKeys
    match scan.cursor.peek? with
    | none =>
      let scan ← (scan.closeBlocks fun _ => true).dropKey
      some scan.tokens
    | some c =>
      let scan ← (scan.closeBlocks (scan.cursor.column < ·)).cut c
      run fuel scan

end Scan

def Token.ofText? (text : String) : Option (List Token) :=
  let cs := text.toList
  if !cs.all isAllowed then none
  else
    let cs := unifyBreaks (if cs.head? == some byteOrderMark then cs.tail else cs)
    (Scan.run (cs.length + 1) { cursor := { rest := cs } }).map Array.toList

end DocStore.Yaml
