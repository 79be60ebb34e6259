import DocStore.Pattern

/-!
# Matching

The places of a text are numbered from 0 before its first character. A set of places is a number
whose bits are the places. A pattern takes the set of places where a piece may start to the set of
places where one that has its form may end.
-/

namespace DocStore

open Unicode

/-- A text with the code points before and after each of its places. -/
structure Subject where
  size : Nat
  places : List (Option Nat × Option Nat)

namespace Subject

private def placesFrom (before : Option Nat) : List Char → List (Option Nat × Option Nat)
  | [] => [(before, none)]
  | c :: rest => (before, some c.toNat) :: placesFrom (some c.toNat) rest

def ofText (s : String) : Subject :=
  let chars := s.toList
  { size := chars.length, places := placesFrom none chars }

def placesWhere (subject : Subject) (test : Option Nat → Option Nat → Bool) : Nat :=
  (subject.places.zipIdx.filter fun ((before, after), _) => test before after).foldl
    (fun set (_, i) => set ||| pow2 i) 0

def allPlaces (subject : Subject) : Nat := pow2 (subject.size + 1) - 1

end Subject

namespace Boundary

private def isNewline (n : Nat) : Bool := n == 0x0A
private def isReturn (n : Nat) : Bool := n == 0x0D

/-- Whether the condition holds between two characters; none stands for an end of the text. -/
def holds (before after : Option Nat) : Boundary → Bool
  | .textStart => before.isNone
  | .textEnd => after.isNone
  | .lineStart false => before.isNone || before.any isNewline
  | .lineEnd false => after.isNone || after.any isNewline
  | .lineStart true =>
    before.isNone || before.any isNewline || (before.any isReturn && !after.any isNewline)
  | .lineEnd true =>
    after.isNone || after.any isReturn || (after.any isNewline && !before.any isReturn)
  | .edge word => before.any word.contains != after.any word.contains
  | .noEdge word => before.any word.contains == after.any word.contains
  | .wordStart word => !before.any word.contains && after.any word.contains
  | .wordEnd word => before.any word.contains && !after.any word.contains
  | .halfStart word => !before.any word.contains
  | .halfEnd word => !after.any word.contains

end Boundary

namespace Pattern

private def iterate (f : Nat → Nat) : Nat → Nat → Nat
  | 0, places => places
  | n + 1, places => iterate f n (f places)

/-- Adds the places reached by up to that many steps, while there are new ones. -/
private def closure (f : Nat → Nat) : Nat → Nat → Nat
  | 0, places => places
  | n + 1, places =>
    let more := places ||| f places
    if more == places then places else closure f n more

mutual
/-- The places where pieces that start at the given ones may end. More repetitions than the text has
places are not needed. -/
def ends (subject : Subject) : Pattern → Nat → Nat
  | .set s, places => (places &&& subject.placesWhere fun _ after => after.any s.contains) <<< 1
  | .boundary b, places => places &&& subject.placesWhere fun before after => b.holds before after
  | .sequence l, places => endsOfAll subject l places
  | .choice l, places => endsOfAny subject l places
  | .group p, places => ends subject p places
  | .repetition p min max, places =>
    let bound := subject.size + 1
    let first := iterate (ends subject p) (Nat.min min bound) places
    closure (ends subject p) (((max.map (· - min)).getD bound).min bound) first
def endsOfAll (subject : Subject) : List Pattern → Nat → Nat
  | [], places => places
  | p :: rest, places => endsOfAll subject rest (ends subject p places)
def endsOfAny (subject : Subject) : List Pattern → Nat → Nat
  | [], _ => 0
  | p :: rest, places => ends subject p places ||| endsOfAny subject rest places
end

def isMatch (p : Pattern) (s : String) : Bool :=
  let subject := Subject.ofText s
  ends subject p subject.allPlaces != 0

end Pattern

end DocStore
