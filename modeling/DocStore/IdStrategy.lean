import DocStore.Calendar.Instant
import DocStore.Text.Digits

/-!
# Fresh ids

Three written forms of a large random number, and the source that random numbers and the present
time are taken from.
-/

namespace DocStore

inductive IdStrategy where
  | ulid
  | uuid
  | nanoid
deriving DecidableEq, Repr, Inhabited

namespace IdStrategy

def name : IdStrategy → String
  | .ulid => "ulid"
  | .uuid => "uuid"
  | .nanoid => "nanoid"

def ofName? : String → Option IdStrategy
  | "ulid" => some .ulid
  | "uuid" => some .uuid
  | "nanoid" => some .nanoid
  | _ => none

/-- The `count` digits of a number to the given base, the last one first. -/
private def digits (base : Nat) : Nat → Nat → List Nat
  | 0, _ => []
  | count + 1, n => n % base :: digits base count (n / base)

private def spell (alphabet : String) (count n : Nat) : List Char :=
  let letters := alphabet.toList
  (digits letters.length count n).reverse.map fun d => letters.getD d '0'

def ofEntropy (strategy : IdStrategy) (n : Nat) : String :=
  match strategy with
  | .ulid => String.ofList (spell "0123456789abcdefghjkmnpqrstvwxyz" 26 (n % pow2 128))
  | .nanoid =>
    String.ofList
      (spell "_-0123456789abcdefghijklmnopqrstuvwxyzABCDEFGHIJKLMNOPQRSTUVWXYZ" 21 n)
  | .uuid =>
    -- the version and the variant take the place of two digits
    let h := spell "0123456789abcdef" 30 n
    let part (start count : Nat) := (h.drop start).take count
    let variant := ['8', '9', 'a', 'b'].getD (n / pow2 120 % 4) '8'
    String.ofList (part 0 8 ++ ['-'] ++ part 8 4 ++ ['-', '4'] ++ part 12 3 ++ ['-', variant]
      ++ part 15 3 ++ ['-'] ++ part 18 12)

/-- The form that a text has, told by its length and its characters. -/
def ofForm? (s : String) : Option IdStrategy :=
  let letters := s.toList
  let hasForm (length : Nat) (p : Char → Bool) := letters.length == length && letters.all p
  if hasForm 21 fun c => c.isAlphanum || c == '_' || c == '-' then some .nanoid
  else if hasForm 26 fun c => c.isLower || Text.isDigit c then some .ulid
  else if hasForm 36 fun c => (Text.hexDigit? c).isSome || c == '-' then some .uuid
  else none

end IdStrategy

/-- Where random numbers and the present time come from. Every place that needs a random number
asks for it under a trail of its own. -/
structure Source where
  entropy : List Nat → Nat
  now : Instant
  trail : List Nat := []

namespace Source

def branch (source : Source) (n : Nat) : Source := { source with trail := n :: source.trail }

def ofSeed (seed : Nat) (now : Instant) : Source :=
  let mix (h n : Nat) := (h * 0x9E3779B97F4A7C15F39CC0605CEDC835 + 2 * n + 1) % pow2 128
  { entropy := fun trail => mix (trail.foldl mix seed) 0 * 0xD1342543DE82EF95C2B2AE3D27D4EB4F, now }

def freshId (source : Source) (strategy : IdStrategy) : String :=
  strategy.ofEntropy (source.entropy source.trail)

end Source

end DocStore
