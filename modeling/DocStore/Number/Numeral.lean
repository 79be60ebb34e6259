import DocStore.Number
import DocStore.Text.Digits

/-!
# Numerals

The decimal numerals that stand for numbers: an optional sign, digits with an optional point and
at least one digit, an optional exponent; or `inf`, `infinity`, `nan` in any case. The value is the
nearest number.
-/

namespace DocStore.Number

open DocStore.Text

def splitSign : List Char → Bool × List Char
  | '-' :: rest => (true, rest)
  | '+' :: rest => (false, rest)
  | s => (false, s)

def splitFraction : List Char → List Char × List Char
  | '.' :: rest => splitDigits rest
  | s => ([], s)

def exponentPart? : List Char → Option Int
  | [] => some 0
  | c :: rest =>
    if c == 'e' || c == 'E' then
      let (negative, digits) := splitSign rest
      if digits.isEmpty || !digits.all isDigit then none
      else some (if negative then -(natOfDigits digits : Int) else natOfDigits digits)
    else none

/-- The number nearest to `digits * 10 ^ exponent`. Far outside the range of numbers the power is
not computed. -/
def ofDecimal (negative : Bool) (digits : Nat) (exponent : Int) : Number :=
  let lead := exponent + (toString digits).length
  if digits == 0 || lead < -400 then ofMagnitude negative 0
  else if 400 < lead then infinity negative
  else ofQuotient negative (digits * pow10 exponent.toNat) (pow10 (-exponent).toNat)

def ofNumeral? (s : List Char) : Option Number :=
  let (negative, body) := splitSign s
  let word := String.ofList (body.map Char.toLower)
  if word == "inf" || word == "infinity" then some (infinity negative)
  else if word == "nan" then some nan
  else
    let (whole, rest) := splitDigits body
    let (fraction, rest) := splitFraction rest
    if whole.isEmpty && fraction.isEmpty then none
    else (exponentPart? rest).map fun e =>
      ofDecimal negative (natOfDigits (whole ++ fraction)) (e - fraction.length)

end DocStore.Number
