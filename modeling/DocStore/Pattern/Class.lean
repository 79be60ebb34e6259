import DocStore.Pattern
import DocStore.Text.Blank

/-!
# Reading classes and escapes

The parts of a pattern's text that stand for sets of characters: escapes, and classes in brackets
with ranges, nested classes and operations.
-/

namespace DocStore.Pattern

open DocStore.Text DocStore.Unicode

private def dropComment (s : List Char) : List Char := (s.dropWhile (· != '\n')).drop 1

/-- Drops blanks and comments where they do not count. The fuel is the length of the text. -/
private def dropSpace : Nat → List Char → List Char
  | 0, s => s
  | fuel + 1, s =>
    match dropBlanks s with
    | '#' :: rest => dropSpace fuel (dropComment rest)
    | s => s

def skip (flags : Flags) (s : List Char) : List Char :=
  if flags.spaced then dropSpace (s.length + 1) s else s

/-- The set with the variants of its characters, if case does not count. -/
def close (flags : Flags) (s : CharSet) : CharSet :=
  if !flags.ignoreCase then s
  else if flags.unicode then .folded s
  else .foldedAscii s

/-- The complement, which without Unicode would hold what is no character. -/
def negate? (flags : Flags) (negated : Bool) (s : CharSet) : Option CharSet :=
  if !negated then some s
  else if flags.unicode then some (.complement s)
  else none

inductive Atom where
  | char (c : Char)
  | set (s : CharSet)
  | boundary (b : Boundary)

/-! ### Named sets -/

private def digits (flags : Flags) : CharSet :=
  if flags.unicode then decimalDigits else range '0' '9'
where range (a b : Char) : CharSet := .range a.toNat b.toNat

private def spaces (flags : Flags) : CharSet :=
  if flags.unicode then blanks else .ranges [(9, 13), (0x20, 0x20)]

private def asciiWord : CharSet := .ranges [(0x30, 0x39), (0x41, 0x5A), (0x5F, 0x5F), (0x61, 0x7A)]

def word (flags : Flags) : CharSet := if flags.unicode then wordCharacters else asciiWord

/-- The sets of ASCII characters that have a name in brackets. -/
private def asciiClass? (name : String) : Option CharSet :=
  match name with
  | "alnum" => some (.ranges [(0x30, 0x39), (0x41, 0x5A), (0x61, 0x7A)])
  | "alpha" => some (.ranges [(0x41, 0x5A), (0x61, 0x7A)])
  | "ascii" => some (.range 0 0x7F)
  | "blank" => some (.ranges [(9, 9), (0x20, 0x20)])
  | "cntrl" => some (.ranges [(0, 0x1F), (0x7F, 0x7F)])
  | "digit" => some (.range 0x30 0x39)
  | "graph" => some (.range 0x21 0x7E)
  | "lower" => some (.range 0x61 0x7A)
  | "print" => some (.range 0x20 0x7E)
  | "punct" => some (.ranges [(0x21, 0x2F), (0x3A, 0x40), (0x5B, 0x60), (0x7B, 0x7E)])
  | "space" => some (.ranges [(9, 13), (0x20, 0x20)])
  | "upper" => some (.range 0x41 0x5A)
  | "word" => some asciiWord
  | "xdigit" => some (.ranges [(0x30, 0x39), (0x41, 0x46), (0x61, 0x66)])
  | _ => none

/-! ### Escapes -/

private def charOfNat? (n : Nat) : Option Char :=
  if n.isValidChar then some (Char.ofNat n) else none

private def hexDigits (flags : Flags) : Nat → List Char → Option (List Char × List Char)
  | 0, s => some ([], s)
  | count + 1, c :: rest =>
    if (hexDigit? c).isSome then do
      let (more, rest) ← hexDigits flags count (skip flags rest)
      some (c :: more, rest)
    else none
  | _ + 1, [] => none

/-- Characters up to a closing brace. The fuel is the length of the text. -/
private def braced (flags : Flags) : Nat → List Char → Option (List Char × List Char)
  | 0, _ => none
  | _, [] => none
  | fuel + 1, c :: rest =>
    if c == '\x7d' then some ([], rest)
    else do
      let (more, rest) ← braced flags fuel (skip flags rest)
      some (c :: more, rest)

/-- A character by its number: two, four or eight digits, or any number of them in braces. -/
private def numbered (flags : Flags) (width : Nat) (s : List Char) : Option (Char × List Char) := do
  let (digits, rest) ← match skip flags s with
    | '\x7b' :: rest => braced flags (rest.length + 1) (skip flags rest)
    | s => hexDigits flags width s
  let n ← natOfHex? digits
  let c ← charOfNat? n
  some (c, skip flags rest)

private def cut (separator : List Char) : List Char → Option (List Char × List Char)
  | [] => none
  | c :: rest =>
    if separator.isPrefixOf (c :: rest) then some ([], (c :: rest).drop separator.length)
    else (cut separator rest).map fun (a, b) => (c :: a, b)

/-- The set that a name in braces stands for, and whether it is written as an exclusion. -/
private def namedSet? (name : List Char) : Option (CharSet × Bool) :=
  match cut ['!', '='] name with
  | some (property, v) => (byValue? property v).map (·, true)
  | none =>
    match cut [':'] name with
    | some (property, v) => (byValue? property v).map (·, false)
    | none =>
      match cut ['='] name with
      | some (property, v) => (byValue? property v).map (·, false)
      | none => (byName? name).map (·, false)

private def unicodeSet (flags : Flags) (negated : Bool) (s : List Char) :
    Option (CharSet × List Char) := do
  let ((found, exclusion), rest) ← match skip flags s with
    | '\x7b' :: rest => do
      let (name, rest) ← braced flags (rest.length + 1) (skip flags rest)
      let named ← namedSet? name
      some (named, rest)
    | c :: rest =>
      if c == '\\' then none
      else do
        let found ← byName? [c]
        some ((found, false), skip flags rest)
    | [] => none
  if !flags.unicode then none
  else do
    let found ← negate? flags (negated != exclusion) (close flags found)
    some (found, rest)

private def isEscapable (c : Char) : Bool :=
  c.toNat < 0x80 && !c.isAlphanum && c != '<' && c != '>'

/-- The boundary that a name in braces after `b` stands for. What is no name at all belongs to a
repetition. -/
private def namedBoundary (flags : Flags) (s : List Char) : Option (Boundary × List Char) :=
  let plain := (Boundary.edge (word flags), s)
  match s with
  | '\x7b' :: rest =>
    match skip flags rest with
    | [] => none
    | c :: _ =>
      if !(c.isAlpha || c == '-') then some plain
      else do
        let (name, rest) ← braced flags (rest.length + 1) (skip flags rest)
        if !name.all (fun c => c.isAlpha || c == '-') then none
        else match String.ofList name with
          | "start" => some (.wordStart (word flags), rest)
          | "end" => some (.wordEnd (word flags), rest)
          | "start-half" => some (.halfStart (word flags), rest)
          | "end-half" => some (.halfEnd (word flags), rest)
          | _ => none
  | _ => some plain

def escape (flags : Flags) : List Char → Option (Atom × List Char)
  | [] => none
  | c :: rest =>
    let perl (negated : Bool) (s : CharSet) : Option (Atom × List Char) :=
      (negate? flags negated s).map fun s => (.set s, skip flags rest)
    let number (width : Nat) : Option (Atom × List Char) := do
      let (d, rest) ← numbered flags width rest
      -- without Unicode two digits are a byte, and one beyond ASCII is no character
      if !flags.unicode && width == 2 && 0x7F < d.toNat && d.toNat ≤ 0xFF then none
      else some (.char d, rest)
    let literal (n : Nat) : Option (Atom × List Char) := some (.char (Char.ofNat n), rest)
    match c with
    | 'x' => number 2
    | 'u' => number 4
    | 'U' => number 8
    | 'p' => (unicodeSet flags false rest).map fun (s, rest) => (.set s, rest)
    | 'P' => (unicodeSet flags true rest).map fun (s, rest) => (.set s, rest)
    | 'd' => perl false (digits flags)
    | 'D' => perl true (digits flags)
    | 's' => perl false (spaces flags)
    | 'S' => perl true (spaces flags)
    | 'w' => perl false (word flags)
    | 'W' => perl true (word flags)
    | 'a' => literal 7
    | 'f' => literal 12
    | 't' => literal 9
    | 'n' => literal 10
    | 'r' => literal 13
    | 'v' => literal 11
    | 'A' => some (.boundary .textStart, rest)
    | 'z' => some (.boundary .textEnd, rest)
    | 'b' => (namedBoundary flags rest).map fun (b, rest) => (.boundary b, rest)
    | 'B' => some (.boundary (.noEdge (word flags)), rest)
    | '<' => some (.boundary (.wordStart (word flags)), rest)
    | '>' => some (.boundary (.wordEnd (word flags)), rest)
    | c => if isEscapable c then some (.char c, rest) else none

/-! ### Classes -/

inductive SetOperation where
  | inter
  | diff
  | symmetric

def SetOperation.apply : SetOperation → CharSet → CharSet → CharSet
  | .inter, a, b => .inter a b
  | .diff, a, b => .diff a b
  | .symmetric, a, b => .symmetric a b

structure OpenClass where
  negated : Bool
  pending : Option (CharSet × SetOperation) := none
  items : List CharSet

namespace OpenClass

/-- The items since the last operation, joined to what stands before it. -/
private def collected (flags : Flags) (c : OpenClass) : CharSet :=
  let last := CharSet.unionAll c.items
  match c.pending with
  | none => last
  | some (first, op) => op.apply (Pattern.close flags first) (Pattern.close flags last)

private def add (c : OpenClass) (s : CharSet) : OpenClass := { c with items := c.items ++ [s] }

private def operate (flags : Flags) (op : SetOperation) (c : OpenClass) : OpenClass :=
  { c with pending := some (c.collected flags, op), items := [] }

private def finish (flags : Flags) (c : OpenClass) : Option CharSet :=
  negate? flags c.negated (Pattern.close flags (c.collected flags))

end OpenClass

private def takeDashes (flags : Flags) : Nat → List Char → List CharSet × List Char
  | fuel + 1, '-' :: rest =>
    let (more, rest) := takeDashes flags fuel (skip flags rest)
    (.single '-' :: more, rest)
  | _, s => ([], s)

/-- The start of a class after its bracket. Dashes in front stand for themselves, and so does a
closing bracket that is the first item. -/
private def openClass (flags : Flags) (s : List Char) : OpenClass × List Char :=
  let (negated, s) := match skip flags s with
    | '^' :: rest => (true, skip flags rest)
    | s => (false, s)
  let (dashes, s) := takeDashes flags s.length s
  match dashes, s with
  | [], ']' :: rest => ({ negated, items := [.single ']'] }, skip flags rest)
  | dashes, s => ({ negated, items := dashes }, s)

/-- A named class of ASCII characters in brackets of its own. -/
private def bracketedName (flags : Flags) (s : List Char) : Option (CharSet × List Char) := do
  let rest ← match s with
    | ':' :: rest => some rest
    | _ => none
  let (negated, rest) := match rest with
    | '^' :: rest => (true, rest)
    | rest => (false, rest)
  let (name, rest) ← cut [':'] rest
  let rest ← match rest with
    | ']' :: rest => some rest
    | _ => none
  let named ← asciiClass? (String.ofList name)
  let closed := Pattern.close flags named
  some (if negated then closed.complement else closed, rest)

private def classAtom (flags : Flags) : List Char → Option (Atom × List Char)
  | '\\' :: rest => escape flags rest
  | c :: rest => some (.char c, rest)
  | [] => none

private def fitsClass (flags : Flags) (c : Char) : Bool := flags.unicode || c.toNat < 0x80

private def classItem (flags : Flags) (s : List Char) : Option (CharSet × List Char) := do
  let (first, rest) ← classAtom flags s
  let rest := skip flags rest
  let alone : Option (CharSet × List Char) := match first with
    | .char c => if fitsClass flags c then some (.single c, rest) else none
    | .set found => some (found, rest)
    | .boundary _ => none
  match rest with
  | [] => none
  | '-' :: after =>
    match skip flags after with
    | ']' :: _ | '-' :: _ => alone
    | after => do
      let (second, rest) ← classAtom flags after
      match first, second with
      | .char low, .char high =>
        if low ≤ high && fitsClass flags low && fitsClass flags high then
          some (.range low.toNat high.toNat, rest)
        else none
      | _, _ => none
  | _ => alone

/-- Reads on in a class with classes around it, innermost first. The fuel is the length of the
text. -/
private def readClasses (flags : Flags) :
    Nat → OpenClass → List OpenClass → List Char → Option (CharSet × List Char)
  | 0, _, _, _ => none
  | fuel + 1, current, outer, s =>
    match skip flags s with
    | [] => none
    | '[' :: rest =>
      match bracketedName flags rest with
      | some (named, rest) =>
        if !flags.unicode && isComplement named then none
        else readClasses flags fuel (current.add named) outer rest
      | none =>
        let (inner, rest) := openClass flags rest
        readClasses flags fuel inner (current :: outer) rest
    | ']' :: rest =>
      match current.finish flags, outer with
      | none, _ => none
      | some whole, [] => some (whole, rest)
      | some inner, around :: outer => readClasses flags fuel (around.add inner) outer rest
    | '&' :: '&' :: rest => readClasses flags fuel (current.operate flags .inter) outer rest
    | '-' :: '-' :: rest => readClasses flags fuel (current.operate flags .diff) outer rest
    | '~' :: '~' :: rest => readClasses flags fuel (current.operate flags .symmetric) outer rest
    | s =>
      match classItem flags s with
      | none => none
      | some (item, rest) => readClasses flags fuel (current.add item) outer rest
where
  isComplement : CharSet → Bool
    | .complement _ => true
    | _ => false

def bracketed (flags : Flags) (s : List Char) : Option (CharSet × List Char) :=
  let (first, rest) := openClass flags s
  readClasses flags (s.length + 1) first [] rest

end DocStore.Pattern
