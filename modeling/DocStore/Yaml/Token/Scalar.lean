import DocStore.Text.Digits
import DocStore.Yaml.Token

/-!
# Scalars in a text

Plain, quoted and block scalars, from their first character on. Each reader gives the text that
the scalar stands for and the cursor after it.
-/

namespace DocStore.Yaml

open DocStore.Text

/-- Line folding: one break becomes a blank, of several the first is dropped. -/
def folded : List Char → List Char
  | [] => []
  | c :: more => if c != '\n' then c :: more else if more.isEmpty then [' '] else more

structure Gap where
  /-- The blanks before the first break. -/
  blanks : List Char := []
  breaks : List Char := []
  broken : Bool := false
  next : Cursor

/-- Reads blanks and breaks. A tab that indents by less than `indent` is refused. -/
private def readGap (indent : Nat) : Nat → Gap → Option Gap
  | 0, gap => some gap
  | fuel + 1, gap =>
    match gap.next.peek? with
    | none => some gap
    | some c =>
      let next := gap.next.advance
      if isBlank c then
        if gap.broken then
          if c == '\t' && gap.next.column < indent then none
          else readGap indent fuel { gap with next }
        else readGap indent fuel { gap with blanks := gap.blanks ++ [c], next }
      else if isBreak c then
        readGap indent fuel { gap with breaks := gap.breaks ++ [c], broken := true, next }
      else some gap

def Gap.read? (indent : Nat) (cursor : Cursor) : Option Gap :=
  readGap indent cursor.rest.length { next := cursor }

def Gap.text (gap : Gap) : List Char :=
  if gap.breaks.isEmpty then gap.blanks else folded gap.breaks

/-! ### Plain scalars -/

private def flowMarks : List Char := [',', '[', ']', '\x7b', '\x7d']

/-- A colon that would start a value ends a plain scalar, and so does a flow mark in a flow
collection. -/
private def endsPlain (inFlow : Bool) (c : Char) (next : Option Char) : Bool :=
  (c == ':' && endsWord next) || (inFlow && flowMarks.contains c)

private def isStrayColon (inFlow : Bool) (c : Char) (next : Option Char) : Bool :=
  inFlow && c == ':' && next.any ('?' :: flowMarks).contains

structure PlainScalar where
  text : List Char
  next : Cursor
  broken : Bool

private def plainFrom (inFlow : Bool) (indent : Nat) : Nat → PlainScalar → Option PlainScalar
  | 0, scalar => some scalar
  | fuel + 1, scalar =>
    match scalar.next.peek? with
    | none => some scalar
    | some c =>
      let after := scalar.next.ahead? 1
      if !isBlank c && !isBreak c then
        if isStrayColon inFlow c after then none
        else if endsPlain inFlow c after then some scalar
        else plainFrom inFlow indent fuel
          ⟨scalar.text ++ [c], scalar.next.advance, false⟩
      else
        match Gap.read? indent scalar.next with
        | none => none
        | some gap =>
          let stop : PlainScalar := ⟨scalar.text, gap.next, gap.broken⟩
          let ended := (!inFlow && gap.next.column < indent) || gap.next.isAtDocumentMarker
            || gap.next.peek? == some '#'
          match gap.next.peek? with
          | none => some stop
          | some c =>
            let after := gap.next.ahead? 1
            if ended then some stop
            else if isStrayColon inFlow c after then none
            else if endsPlain inFlow c after then some stop
            else plainFrom inFlow indent fuel
              ⟨scalar.text ++ gap.text ++ [c], gap.next.advance, false⟩

/-- A plain scalar whose further lines are indented by at least `indent`. -/
def PlainScalar.read? (inFlow : Bool) (indent : Nat) (cursor : Cursor) : Option PlainScalar :=
  plainFrom inFlow indent cursor.rest.length ⟨[], cursor, false⟩

/-! ### Quoted scalars -/

private def namedEscape? : Char → Option Nat
  | '0' => some 0
  | 'a' => some 7
  | 'b' => some 8
  | 't' => some 9
  | '\t' => some 9
  | 'n' => some 10
  | 'v' => some 11
  | 'f' => some 12
  | 'r' => some 13
  | 'e' => some 27
  | ' ' => some 32
  | '"' => some 34
  | '/' => some 47
  | '\\' => some 92
  | 'N' => some 0x85
  | '_' => some 0xA0
  | 'L' => some 0x2028
  | 'P' => some 0x2029
  | _ => none

private def escapeLength? : Char → Option Nat
  | 'x' => some 2
  | 'u' => some 4
  | 'U' => some 8
  | _ => none

/-- The character of an escape, from the character after the backslash on. -/
private def escape? (cursor : Cursor) : Option (Char × Cursor) := do
  let c ← cursor.peek?
  let next := cursor.advance
  match namedEscape? c with
  | some n => some (Char.ofNat n, next)
  | none =>
    let count ← escapeLength? c
    let digits := next.rest.take count
    if digits.length != count then none
    else
      let n ← natOfHex? digits
      if n.isValidChar then some (Char.ofNat n, next.advanceBy count) else none

private def quotedFrom (mark : Char) : Nat → Cursor → Option (List Char × Cursor)
  | 0, _ => none
  | fuel + 1, cursor => do
    let c ← cursor.peek?
    let next := cursor.advance
    if cursor.isAtDocumentMarker then none
    else if isBlank c || isBreak c then
      let gap ← Gap.read? 0 cursor
      let (more, last) ← quotedFrom mark fuel gap.next
      some (gap.text ++ more, last)
    else if c == mark then
      if mark == '\'' && next.peek? == some mark then
        let (more, last) ← quotedFrom mark fuel next.advance
        some (mark :: more, last)
      else some ([], next)
    else if c == '\\' && mark == '"' then
      if next.peek?.any isBreak then
        -- an escaped break joins two lines; the breaks after it stay
        let gap ← readGap 0 next.rest.length { broken := true, next := next.advance }
        let (more, last) ← quotedFrom mark fuel gap.next
        some (gap.breaks ++ more, last)
      else
        let (d, next) ← escape? next
        let (more, last) ← quotedFrom mark fuel next
        some (d :: more, last)
    else
      let (more, last) ← quotedFrom mark fuel next
      some (c :: more, last)

/-- A quoted scalar; the cursor is at its opening quote. -/
def readQuoted? (cursor : Cursor) : Option (List Char × Cursor) := do
  let mark ← cursor.peek?
  quotedFrom mark cursor.rest.length cursor.advance

/-! ### Block scalars -/

inductive Chomping where
  | strip
  | clip
  | keep
deriving DecidableEq

private def chomping? : Option Char → Option Chomping
  | some '-' => some .strip
  | some '+' => some .keep
  | _ => none

/-- A digit from one to nine at the cursor; a zero is refused. -/
private def indentDigit? (cursor : Cursor) : Option (Option Nat × Cursor) :=
  match cursor.peek? with
  | some c =>
    if !isDigit c then some (none, cursor)
    else if c == '0' then none
    else some (some (digitValue c), cursor.advance)
  | none => some (none, cursor)

/-- The header of a block scalar: chomping and indentation, in either order. -/
private def blockHeader? (cursor : Cursor) : Option (Chomping × Option Nat × Cursor) := do
  match chomping? cursor.peek? with
  | some chomping =>
    let (digit, next) ← indentDigit? cursor.advance
    some (chomping, digit, next)
  | none =>
    let (digit, next) ← indentDigit? cursor
    match digit, chomping? next.peek? with
    | some _, some chomping => some (chomping, digit, next.advance)
    | _, _ => some (.clip, digit, next)

/-- The empty lines in front of a line of a block scalar. -/
private structure Lead where
  breaks : List Char := []
  widest : Nat := 0
  next : Cursor

/-- Reads indentation and empty lines. Without a known indentation every space counts. -/
private def readLead (indent : Option Nat) : Nat → Lead → Option Lead
  | 0, lead => some lead
  | fuel + 1, lead =>
    let inside := indent.all (lead.next.column < ·)
    match lead.next.peek? with
    | some ' ' =>
      if inside then readLead indent fuel { lead with next := lead.next.advance }
      else some lead
    | some c =>
      let widest := max lead.widest lead.next.column
      if inside && c == '\t' then none
      else if isBreak c then
        readLead indent fuel { breaks := lead.breaks ++ [c], widest, next := lead.next.advance }
      else some { lead with widest }
    | none => some { lead with widest := max lead.widest lead.next.column }

private structure BlockText where
  text : List Char := []
  /-- The break that ended the last line, not yet written. -/
  last : List Char := []
  wasBlank : Bool := false

/-- Adds what stands between two lines. Folding joins lines that do not start with a blank. -/
private def BlockText.join (fold blank : Bool) (breaks : List Char) (block : BlockText) :
    List Char :=
  if fold && block.last.head? == some '\n' && !block.wasBlank && !blank then
    block.text ++ (if breaks.isEmpty then [' '] else breaks)
  else block.text ++ block.last ++ breaks

private def blockLines (fold : Bool) (indent : Nat) :
    Nat → BlockText → Lead → Option (BlockText × Lead)
  | 0, block, lead => some (block, lead)
  | fuel + 1, block, lead =>
    match lead.next.peek? with
    | some c =>
      if lead.next.column != indent then some (block, lead)
      else do
        let blank := isBlank c
        let (line, ending) := lead.next.span fun c => !isBreak c
        let block : BlockText :=
          { text := block.join fold blank lead.breaks ++ line, last := ending.peek?.toList,
            wasBlank := blank }
        let next := ending.advance
        let lead ← readLead (some indent) (next.rest.length + 1) { next }
        blockLines fold indent fuel block lead
    | none => some (block, lead)

/-- A block scalar; the cursor is at its mark. `parent` is the indentation around it, if any. -/
def readBlock? (fold : Bool) (parent : Option Nat) (cursor : Cursor) :
    Option (List Char × Cursor) := do
  let (chomping, digit, next) ← blockHeader? cursor.advance
  let next := next.skipBlanks.skipComment
  if !endsLine next.peek? then none
  else
    let next := next.advance
    let known := digit.map (parent.getD 0 + ·)
    let lead ← readLead known (next.rest.length + 1) { next }
    let indent := known.getD (max lead.widest (max ((parent.map (· + 1)).getD 0) 1))
    let (block, lead) ← blockLines fold indent next.rest.length {} lead
    let text := match chomping with
      | .strip => block.text
      | .clip => block.text ++ block.last
      | .keep => block.text ++ block.last ++ lead.breaks
    some (text, lead.next)

end DocStore.Yaml
