import DocStore.Pattern.Class

/-!
# Reading patterns

The text of a pattern is read from left to right. Groups that are open wait with what stands before
them; flags that are set inside a group end with it.
-/

namespace DocStore.Pattern

open DocStore.Text DocStore.Unicode

/-- One term of a sequence. A change of flags is a term that cannot be repeated. -/
inductive Term where
  | pattern (p : Pattern)
  | flags

/-- What has been read since the last opening parenthesis: the choices before the last bar and the
terms since, the last one first. -/
structure OpenGroup where
  choices : List Pattern := []
  terms : List Term := []
  flags : Flags

namespace OpenGroup

private def push (g : OpenGroup) (p : Pattern) : OpenGroup :=
  { g with terms := .pattern p :: g.terms }

private def sequenceRead (g : OpenGroup) : Pattern :=
  match g.terms.reverse.filterMap fun t => match t with
    | .pattern p => some p
    | .flags => none with
  | [p] => p
  | l => .sequence l

private def bar (g : OpenGroup) : OpenGroup :=
  { g with choices := g.choices ++ [g.sequenceRead], terms := [] }

private def finish (g : OpenGroup) : Pattern :=
  if g.choices.isEmpty then g.sequenceRead else .choice (g.choices ++ [g.sequenceRead])

end OpenGroup

/-! ### Flags and group names -/

private def setFlag (value : Bool) (c : Char) (f : Flags) : Option Flags :=
  match c with
  | 'i' => some { f with ignoreCase := value }
  | 'm' => some { f with multiLine := value }
  | 's' => some { f with dotAll := value }
  | 'u' => some { f with unicode := value }
  | 'R' => some { f with carriageReturn := value }
  | 'x' => some { f with spaced := value }
  | 'U' => some f
  | _ => none

/-- Letters that set flags, those after a minus that clear them, up to a colon or a closing
parenthesis. No letter and no minus stands twice, and the minus does not stand last. -/
private def readFlags (seen : List Char) (value : Bool) (f : Flags) :
    List Char → Option (Flags × List Char × List Char)
  | [] => none
  | c :: rest =>
    if c == ':' || c == ')' then
      if seen.head? == some '-' then none else some (f, seen, c :: rest)
    else if seen.contains c then none
    else if c == '-' then readFlags (c :: seen) false f rest
    else match setFlag value c f with
      | some f => readFlags (c :: seen) value f rest
      | none => none

private def isNameStart (c : Char) : Bool :=
  c == '_' || ((property? "alphabetic").any fun s => s.contains c.toNat)

private def isNameCharacter (c : Char) : Bool :=
  c == '.' || c == '[' || c == ']' || isNameStart c
    || ((category? "n").any fun s => s.contains c.toNat)

private def readName (s : List Char) : Option (List Char × List Char) :=
  let name := s.takeWhile (· != '>')
  match name, s.drop name.length with
  | c :: more, '>' :: rest =>
    if isNameStart c && more.all isNameCharacter then some (name, rest) else none
  | _, _ => none

/-! ### Repetitions -/

private def countBound : Nat := pow2 32

private def readCount (flags : Flags) (s : List Char) : Option (Nat × List Char) :=
  let (digits, rest) := digitsOf flags (s.length + 1) (dropBlanks s)
  let n := natOfDigits digits
  if digits.isEmpty || countBound ≤ n then none else some (n, skip flags (dropBlanks rest))
where
  digitsOf (flags : Flags) : Nat → List Char → List Char × List Char
    | fuel + 1, c :: rest =>
      if isDigit c then
        let (more, rest) := digitsOf flags fuel (skip flags rest)
        (c :: more, rest)
      else ([], c :: rest)
    | _, s => ([], s)

private def readBounds (flags : Flags) (s : List Char) :
    Option ((Nat × Option Nat) × List Char) := do
  let (min, rest) ← readCount flags (skip flags s)
  match rest with
  | '\x7d' :: rest => some ((min, some min), rest)
  | ',' :: rest =>
    match skip flags rest with
    | '\x7d' :: rest => some ((min, none), rest)
    | rest => do
      let (max, rest) ← readCount flags rest
      match rest with
      | '\x7d' :: rest => if min ≤ max then some ((min, some max), rest) else none
      | _ => none
  | _ => none

private def dropLazy : List Char → List Char
  | '?' :: rest => rest
  | s => s

private def repeatLast (g : OpenGroup) (min : Nat) (max : Option Nat) : Option OpenGroup :=
  match g.terms with
  | .pattern p :: before => some { g with terms := .pattern (.repetition p min max) :: before }
  | _ => none

/-! ### Terms -/

private def literal (flags : Flags) (c : Char) : Pattern := .set (close flags (.single c))

private def ofAtom (flags : Flags) : Atom → Pattern
  | .char c => literal flags c
  | .set s => .set s
  | .boundary b => .boundary b

private def dot? (flags : Flags) : Option Pattern :=
  if !flags.unicode then none
  else if flags.dotAll then some (.set (.range 0 0x10FFFF))
  else if flags.carriageReturn then some (.set (.complement (.ranges [(10, 10), (13, 13)])))
  else some (.set (.complement (.single '\n')))

private def caret (flags : Flags) : Boundary :=
  if flags.multiLine then .lineStart flags.carriageReturn else .textStart

private def dollar (flags : Flags) : Boundary :=
  if flags.multiLine then .lineEnd flags.carriageReturn else .textEnd

/-- How far reading has got: the innermost open group, those around it, and the names in use. -/
structure Progress where
  current : OpenGroup
  outer : List OpenGroup := []
  names : List (List Char) := []

namespace Progress

private def enter (p : Progress) (flags : Flags) : Progress :=
  { p with current := { flags }, outer := p.current :: p.outer }

private def named (p : Progress) (s : List Char) : Option (Progress × List Char) := do
  let (name, rest) ← readName s
  if p.names.contains name then none
  else some ({ p.enter p.current.flags with names := name :: p.names }, rest)

/-- Opens a group, or sets flags, after an opening parenthesis. -/
private def openGroup (p : Progress) (s : List Char) : Option (Progress × List Char) :=
  let flags := p.current.flags
  match skip flags s with
  | '?' :: 'P' :: '<' :: rest => p.named rest
  | '?' :: '<' :: rest =>
    match rest with
    | '=' :: _ | '!' :: _ => none
    | rest => p.named rest
  | '?' :: rest =>
    match readFlags [] true flags rest with
    | none | some (_, [], ')' :: _) => none
    | some (f, _, ')' :: rest) =>
      some ({ p with current := { p.current with flags := f, terms := .flags :: p.current.terms } },
        rest)
    | some (f, _, rest) => some (p.enter f, rest.drop 1)
  | s => some (p.enter flags, s)

private def closeGroup (p : Progress) : Option Progress :=
  match p.outer with
  | [] => none
  | around :: outer =>
    some { p with current := around.push (.group p.current.finish), outer }

private def step (p : Progress) : List Char → Option (Progress × List Char)
  | [] => none
  | c :: rest =>
    let flags := p.current.flags
    let pushed (q : Pattern) (rest : List Char) : Option (Progress × List Char) :=
      some ({ p with current := p.current.push q }, rest)
    let repeated (min : Nat) (max : Option Nat) (rest : List Char) :
        Option (Progress × List Char) :=
      (repeatLast p.current min max).map fun g => ({ p with current := g }, rest)
    match c with
    | '(' => p.openGroup rest
    | ')' => p.closeGroup.map (·, rest)
    | '|' => some ({ p with current := p.current.bar }, rest)
    | '[' => do
      let (s, rest) ← bracketed flags rest
      pushed (.set s) rest
    | '?' => repeated 0 (some 1) (dropLazy rest)
    | '*' => repeated 0 none (dropLazy rest)
    | '+' => repeated 1 none (dropLazy rest)
    | '\x7b' => do
      let ((min, max), rest) ← readBounds flags rest
      repeated min max (dropLazy (skip flags rest))
    | '\\' => do
      let (atom, rest) ← escape flags rest
      pushed (ofAtom flags atom) rest
    | '.' => do
      let q ← dot? flags
      pushed q rest
    | '^' => pushed (.boundary (caret flags)) rest
    | '$' => pushed (.boundary (dollar flags)) rest
    | c => pushed (literal flags c) rest

end Progress

/-- Reads terms to the end of the text. The fuel is the length of the text. -/
private def readAll : Nat → Progress → List Char → Option Pattern
  | 0, _, _ => none
  | fuel + 1, p, s =>
    match skip p.current.flags s with
    | [] => if p.outer.isEmpty then some p.current.finish else none
    | s => do
      let (p, rest) ← p.step s
      readAll fuel p rest

/-- The pattern that a text stands for, within the limits. -/
def ofText? (flags : Flags) (s : String) : Option Pattern := do
  let p ← readAll (s.length + 1) { current := { flags } } s.toList
  if p.depth ≤ depthLimit && p.weight ≤ weightLimit then some p else none

end DocStore.Pattern
