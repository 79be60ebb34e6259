import DocStore.Number.Power
import DocStore.Unicode.CharSet

/-!
# Patterns

Regular expressions. A pattern holds of a text if some piece of the text has the form it describes,
so how eagerly a repetition takes characters makes no difference.
-/

namespace DocStore

open Unicode

inductive Boundary where
  | textStart
  | textEnd
  /-- The start of a line; with the flag also carriage returns end lines. -/
  | lineStart (carriageReturn : Bool)
  | lineEnd (carriageReturn : Bool)
  /-- Beside the place lie a character of the set and one that is not. -/
  | edge (word : CharSet)
  | noEdge (word : CharSet)
  | wordStart (word : CharSet)
  | wordEnd (word : CharSet)
  | halfStart (word : CharSet)
  | halfEnd (word : CharSet)

inductive Pattern where
  | set (s : CharSet)
  | boundary (b : Boundary)
  | sequence (l : List Pattern)
  | choice (l : List Pattern)
  | repetition (p : Pattern) (min : Nat) (max : Option Nat)
  | group (p : Pattern)

namespace Pattern

structure Flags where
  ignoreCase : Bool := false
  multiLine : Bool := false
  dotAll : Bool := false
  /-- Classes and boundaries look at all of Unicode, not just at ASCII. -/
  unicode : Bool := true
  carriageReturn : Bool := false
  /-- Blanks and comments in the text of the pattern do not count. -/
  spaced : Bool := false

/-! ### Limits -/

mutual
def depth : Pattern → Nat
  | .set _ | .boundary _ => 0
  | .sequence l | .choice l => depths l + 1
  | .repetition p _ _ | .group p => p.depth + 1
def depths : List Pattern → Nat
  | [] => 0
  | p :: rest => max p.depth (depths rest)
end

mutual
/-- The size of the pattern with every repetition written out. -/
def weight : Pattern → Nat
  | .set s => s.weight
  | .boundary _ => 1
  | .sequence l | .choice l => weights l + 1
  | .repetition p _ (some max) => p.weight * max + 1
  | .repetition p min none => p.weight * Nat.max 1 min + 1
  | .group p => p.weight
def weights : List Pattern → Nat
  | [] => 0
  | p :: rest => p.weight + weights rest
end

def depthLimit : Nat := 250

def weightLimit : Nat := 10 * pow2 20 / 32

end Pattern

end DocStore
