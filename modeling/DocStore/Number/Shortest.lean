import DocStore.Number

/-!
# Shortest decimals

The decimal with the fewest digits among those that round to a given number, and of these the
nearest one. A number reads back from every decimal inside its rounding interval, so the search
looks at ever finer decimal grids until one has a point in that interval.
-/

namespace DocStore.Number

structure Decimal where
  digits : Nat
  scale : Int
deriving DecidableEq, Repr

/-- Which of two equally near decimals is written. -/
inductive Tie where
  | even
  | up
deriving DecidableEq, Repr

/-- Whether of `k` and `k + 1` the second one is nearer to `k + rest / den`. -/
def Tie.takesUpper (tie : Tie) (k rest den : Nat) : Bool :=
  match compare (2 * rest) den with
  | .lt => false
  | .gt => true
  | .eq => match tie with
    | .even => k % 2 == 1
    | .up => true

/-- The reals that round to a number, in units of a common power of two: `low … high` around
`value`, the ends included when `closed`. -/
structure Interval where
  low : Nat
  value : Nat
  high : Nat
  unit : Int
  closed : Bool

/-- The rounding interval of a finite nonzero number. Below a power of two the neighbour is half
as far away. -/
def interval (x : Number) : Interval :=
  let m := x.significand
  let below := if m == pow2 52 && decide (-1074 < x.exponent) then 1 else 2
  { low := 4 * m - below, value := 4 * m, high := 4 * m + 2,
    unit := x.exponent - 2, closed := m % 2 == 0 }

namespace Interval

/-- What the value and the ends are multiplied by in units of `10 ^ scale`. -/
def up (i : Interval) (scale : Int) : Nat := pow2 i.unit.toNat * pow10 (-scale).toNat

def den (i : Interval) (scale : Int) : Nat := pow2 (-i.unit).toNat * pow10 scale.toNat

/-- The point `k` of a grid lies in the interval. -/
def holds (i : Interval) (scale : Int) (k : Nat) : Bool :=
  let low := i.low * i.up scale
  let high := i.high * i.up scale
  let point := k * i.den scale
  if i.closed then decide (low ≤ point) && decide (point ≤ high)
  else decide (low < point) && decide (point < high)

/-- The grid point of the interval nearest to its value, if there is one. -/
def nearest? (i : Interval) (tie : Tie) (scale : Int) : Option Nat :=
  let value := i.value * i.up scale
  let den := i.den scale
  let k := value / den
  let upper := tie.takesUpper k (value % den) den
  let first := if upper then k + 1 else k
  let second := if upper then k else k + 1
  if i.holds scale first then some first
  else if i.holds scale second then some second
  else none

/-- The greatest `k` with `10 ^ k` at most the value. -/
def decimalExponent (i : Interval) : Int :=
  let guess := Int.fdiv (((i.value.log2 : Int) + i.unit) * 30103) 100000
  let reaches (k : Int) : Bool :=
    decide (pow10 k.toNat * pow2 (-i.unit).toNat ≤ i.value * pow2 i.unit.toNat * pow10 (-k).toNat)
  if reaches (guess + 1) then guess + 1
  else if reaches guess then guess
  else guess - 1

end Interval

def Decimal.trim (fuel : Nat) (d : Decimal) : Decimal :=
  match fuel with
  | 0 => d
  | fuel + 1 =>
    if d.digits % 10 == 0 && d.digits != 0 then trim fuel ⟨d.digits / 10, d.scale + 1⟩ else d

/-- The shortest decimal of a finite nonzero number's absolute value. Seventeen digits always
suffice. -/
def shortest (tie : Tie) (x : Number) : Decimal :=
  let i := x.interval
  let top := i.decimalExponent
  let found := (List.range 17).findSome? fun (n : Nat) =>
    (i.nearest? tie (top - n)).map fun k => Decimal.mk k (top - n)
  ((found.getD ⟨0, 0⟩).trim 20)

end DocStore.Number
