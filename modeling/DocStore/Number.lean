import DocStore.Number.Power

/-!
# Numbers

A number is an IEEE 754 binary64. Everything here is read off the bits, in integers, so that the
order, the equality and the conversions can be reasoned about without floating-point lemmas.
-/

namespace DocStore

abbrev Number := Float

namespace Number

def bits (x : Number) : Nat := x.toBits.toNat

/-- The bits without the sign: they grow with the absolute value. -/
def magnitude (x : Number) : Nat := x.bits % pow2 63

def isNegative (x : Number) : Bool := decide (pow2 63 ≤ x.bits)

/-- The magnitude of infinity; above it lie the NaNs. -/
def infinityBits : Nat := 0x7FF * pow2 52

def isNaN (x : Number) : Bool := decide (infinityBits < x.magnitude)

def isFinite (x : Number) : Bool := decide (x.magnitude < infinityBits)

def isZero (x : Number) : Bool := x.magnitude == 0

def ofMagnitude (negative : Bool) (magnitude : Nat) : Number :=
  Float.ofBits (UInt64.ofNat (magnitude + if negative then pow2 63 else 0))

def zero : Number := ofMagnitude false 0
def nan : Number := ofMagnitude false (0x7FF8 * pow2 48)
def infinity (negative : Bool) : Number := ofMagnitude negative infinityBits

/-- Signed magnitude. Numbers other than NaN are ordered like their keys; both zeros have key 0. -/
def key (x : Number) : Int :=
  if x.isNegative then -(x.magnitude : Int) else x.magnitude

/-- Numerical equality: a NaN equals nothing, the two zeros are equal. -/
def equal (x y : Number) : Bool :=
  !x.isNaN && !y.isNaN && x.key == y.key

/-- Numerical order; a NaN ties with everything. -/
def order (x y : Number) : Ordering :=
  if x.isNaN || y.isNaN then .eq else compare x.key y.key

/-! ### Significand and exponent

A finite number is its sign times `significand * 2 ^ exponent`. -/

def exponentField (x : Number) : Nat := x.magnitude / pow2 52

def significand (x : Number) : Nat :=
  if x.exponentField == 0 then x.magnitude else pow2 52 + x.magnitude % pow2 52

def exponent (x : Number) : Int := (max x.exponentField 1 : Int) - 1075

def roundQuotient (n d : Nat) : Nat :=
  let q := n / d
  let r := n % d
  if 2 * r < d then q
  else if d < 2 * r then q + 1
  else q + q % 2

/-- The binary exponent of `n / d`: the greatest `b` with `2 ^ b ≤ n / d`. -/
def binaryExponent (n d : Nat) : Int :=
  let b : Int := (n.log2 : Int) - d.log2
  if d * pow2 b.toNat ≤ n * pow2 (-b).toNat then b else b - 1

/-- The number nearest to `n / d`, ties to even; infinite from half a unit above the greatest. -/
def ofQuotient (negative : Bool) (n d : Nat) : Number :=
  if n == 0 then ofMagnitude negative 0
  else
    let t := max (binaryExponent n d - 52) (-1074)
    let q := roundQuotient (n * pow2 (-t).toNat) (d * pow2 t.toNat)
    ofMagnitude negative (min infinityBits (q + (t + 1074).toNat * pow2 52))

def ofNat (n : Nat) : Number := ofQuotient false n 1

def ofInt (n : Int) : Number := ofQuotient (decide (n < 0)) n.natAbs 1

/-! ### Integers -/

/-- The absolute value of a finite number, its fraction dropped. -/
def wholePart (x : Number) : Nat :=
  x.significand * pow2 x.exponent.toNat / pow2 (-x.exponent).toNat

def isIntegral (x : Number) : Bool :=
  x.isFinite && x.significand * pow2 x.exponent.toNat % pow2 (-x.exponent).toNat == 0

def toInt (x : Number) : Int :=
  if x.isNegative then -(x.wholePart : Int) else x.wholePart

/-- The fraction dropped; the sign is kept, also that of a zero. -/
def truncate (x : Number) : Number :=
  if x.isFinite then ofQuotient x.isNegative x.wholePart 1 else x

/-- Integers below this bound have neighbours at distance one and are written without a fraction. -/
def exactBound : Nat := pow2 53

/-- The integer to write for a number that has no fraction and is below the exact bound. -/
def exactInt? (x : Number) : Option Int :=
  if x.isIntegral && decide (x.wholePart < exactBound) then some x.toInt else none

/-- The integer part, clamped to `lo … hi`; a NaN becomes 0. -/
def clamp (lo hi : Int) (x : Number) : Int :=
  if x.isNaN then 0
  else if x.isFinite then max lo (min hi x.toInt)
  else if x.isNegative then lo else hi

/-- The integer part as a signed 64-bit integer, clamped. -/
def toInt64 (x : Number) : Int := clamp (-(pow2 63 : Int)) ((pow2 63 : Int) - 1) x

/-- The integer part as an unsigned 64-bit integer, clamped. -/
def toUInt64 (x : Number) : Nat := (clamp 0 ((pow2 64 : Int) - 1) x).toNat

/-! ### Arithmetic -/

/-- The exact remainder of the truncating division, with the sign of the dividend. -/
def remainder (x y : Number) : Number :=
  if x.isNaN || y.isNaN || !x.isFinite || y.isZero then nan
  else if !y.isFinite || x.isZero then x
  else
    let e := min x.exponent y.exponent
    let a := x.significand * pow2 (x.exponent - e).toNat
    let b := y.significand * pow2 (y.exponent - e).toNat
    ofQuotient x.isNegative (a % b * pow2 e.toNat) (pow2 (-e).toNat)

/-- The lesser of two numbers; the other one if one is NaN, the second on a tie. -/
def lesser (x y : Number) : Number :=
  if x.isNaN then y else if y.isNaN then x else if x.key < y.key then x else y

/-- The greater of two numbers; the other one if one is NaN, the second on a tie. -/
def greater (x y : Number) : Number :=
  if x.isNaN then y else if y.isNaN then x else if y.key < x.key then x else y

end Number

end DocStore
