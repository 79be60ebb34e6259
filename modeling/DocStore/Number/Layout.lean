import DocStore.Number.Shortest

/-!
# Number texts

How the shortest decimal of a number is laid out in each place where numbers are written.
-/

namespace DocStore.Number

structure Layout where
  tie : Tie
  /-- Leading exponents written positionally, both ends included; all of them when absent. -/
  positional : Option (Int × Int)
  /-- A whole number written positionally ends in `.0`. -/
  pointZero : Bool
  positiveExponent : String
  notANumber : String
  infinite : String

def zeros (n : Nat) : String := "".pushn '0' n

/-- The digits with a point after the first `lead + 1` of them. -/
def positionalText (layout : Layout) (digits : String) (lead : Int) : String :=
  let count : Int := digits.length
  if lead < 0 then "0." ++ zeros (-lead - 1).toNat ++ digits
  else if count ≤ lead + 1 then
    digits ++ zeros (lead + 1 - count).toNat ++ (if layout.pointZero then ".0" else "")
  else (digits.take (lead + 1).toNat).copy ++ "." ++ (digits.drop (lead + 1).toNat).copy

def scientificText (layout : Layout) (digits : String) (lead : Int) : String :=
  let fraction := (digits.drop 1).copy
  (digits.take 1).copy ++ (if fraction.isEmpty then "" else "." ++ fraction)
    ++ "e" ++ (if 0 ≤ lead then layout.positiveExponent else "") ++ toString lead

def Layout.decimal (layout : Layout) (d : Decimal) : String :=
  let digits := toString d.digits
  let lead := d.scale + digits.length - 1
  match layout.positional with
  | none => positionalText layout digits lead
  | some (lo, hi) =>
    if lo ≤ lead && lead ≤ hi then positionalText layout digits lead
    else scientificText layout digits lead

def Layout.text (layout : Layout) (x : Number) : String :=
  if x.isNaN then layout.notANumber
  else
    let sign := if x.isNegative then "-" else ""
    if !x.isFinite then sign ++ layout.infinite
    else if x.isZero then sign ++ "0" ++ (if layout.pointZero then ".0" else "")
    else sign ++ layout.decimal (x.shortest layout.tie)

/-- Interchange text: `1.5`, `1e+16`, `1e-7`. What is not finite has no text of its own. -/
def interchange : Layout :=
  { tie := .even, positional := some (-5, 15), pointZero := true, positiveExponent := "+",
    notANumber := "null", infinite := "null" }

/-- Configuration text: like interchange text, without the plus and with texts for all numbers. -/
def configuration : Layout :=
  { tie := .even, positional := some (-5, 15), pointZero := true, positiveExponent := "",
    notANumber := ".nan", infinite := ".inf" }

/-- Plain text, as in messages: always positional, no fraction for whole numbers. -/
def plain : Layout :=
  { tie := .up, positional := none, pointZero := false, positiveExponent := "",
    notANumber := "NaN", infinite := "inf" }

end DocStore.Number
