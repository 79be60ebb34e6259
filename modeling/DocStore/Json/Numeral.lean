import DocStore.Json
import DocStore.Text.Digits

/-!
# Numerals of interchange text

Digits are gathered while they fit a 64-bit word; further ones only move the decimal point. Without
point and exponent a numeral that fits 64 bits is an integer. Any other becomes the gathered word
as a number, multiplied or divided once by a power of ten. This rounds up to three times, so the
result may be a neighbour of the nearest number.
-/

namespace DocStore.Json

open DocStore.Text

/-- What has been read of a numeral: the digits that fit and the power of ten they are in. -/
structure Gathered where
  significand : Nat
  exponent : Int

def fits (significand : Nat) (c : Char) : Bool :=
  decide (10 * significand + digitValue c < pow2 64)

/-- Gathers digits, each one moving the point by `shift`, up to the first one that does not fit. -/
def gather (shift : Int) (g : Gathered) : List Char → Gathered × List Char
  | [] => (g, [])
  | c :: rest =>
    if isDigit c && fits g.significand c then
      gather shift ⟨10 * g.significand + digitValue c, g.exponent + shift⟩ rest
    else (g, c :: rest)

/-- The greatest exponent that is read; what lies beyond overflows. -/
def exponentBound : Nat := pow2 31 - 1

/-- The number `significand * 10 ^ exponent` by one product or quotient; none if it is infinite.
Below the least power the quotient is taken in steps of `10 ^ 308`. -/
def scale (significand : Nat) (exponent : Int) : Option Number :=
  let start := Number.ofNat significand
  let power (k : Nat) := Number.ofNat (pow10 k)
  let rec down (fuel : Nat) (x : Number) (k : Nat) : Number :=
    match fuel with
    | 0 => x
    | fuel + 1 =>
      if k ≤ 308 then x / power k
      else if x.isZero then x
      else down fuel (x / power 308) (k - 308)
  if 0 ≤ exponent then
    let k := exponent.toNat
    if k ≤ 308 then
      let x := start * power k
      if x.isFinite then some x else none
    else if start.isZero then some start else none
  else some (down 8 start (-exponent).toNat)

def signed (negative : Bool) (x : Number) : Json := .real (if negative then -x else x)

def finishExponent (negative : Bool) (g : Gathered) (s : List Char) :
    Option (Json × List Char) :=
  let (down, s) := match s with
    | '+' :: rest => (false, rest)
    | '-' :: rest => (true, rest)
    | s => (false, s)
  let (digits, rest) := splitDigits s
  if digits.isEmpty then none
  else
    let e := natOfDigits digits
    if exponentBound < e then
      if g.significand != 0 && !down then none
      else some (signed negative Number.zero, rest)
    else do
      let x ← scale g.significand (g.exponent + if down then -(e : Int) else e)
      some (signed negative x, rest)

def finishReal (negative : Bool) (g : Gathered) : List Char → Option (Json × List Char)
  | c :: rest =>
    if c == 'e' || c == 'E' then finishExponent negative g rest
    else do
      let x ← scale g.significand g.exponent
      some (signed negative x, c :: rest)
  | [] => do
    let x ← scale g.significand g.exponent
    some (signed negative x, [])

def finishFraction (negative : Bool) (g : Gathered) (s : List Char) :
    Option (Json × List Char) :=
  let (h, rest) := gather (-1) g s
  match s with
  | c :: _ => if isDigit c then finishReal negative h (rest.dropWhile isDigit) else none
  | [] => none

/-- A whole number is an integer while it fits a word; minus zero and what lies below the least
signed word are not. -/
def whole (negative : Bool) (n : Nat) : Json :=
  if !negative then .integer n
  else if n == 0 || pow2 63 < n then .real (-Number.ofNat n)
  else .integer (-(n : Int))

def readNumeral (negative : Bool) (s : List Char) : Option (Json × List Char) :=
  let (g, rest) := gather 0 ⟨0, 0⟩ s
  match s with
  | [] => none
  | c :: after =>
    if !isDigit c then none
    else if c == '0' && (after.head?.any isDigit) then none
    else
      -- digits that did not fit move the point
      let (extra, rest) := splitDigits rest
      let g := { g with exponent := extra.length }
      match rest with
      | '.' :: rest => finishFraction negative g rest
      | d :: _ =>
        if d == 'e' || d == 'E' || !extra.isEmpty then finishReal negative g rest
        else some (whole negative g.significand, rest)
      | [] =>
        if !extra.isEmpty then finishReal negative g rest
        else some (whole negative g.significand, rest)

end DocStore.Json
