import DocStore.Number.Numeral

/-!
# Literals

The plain scalars that stand for something else than their text: nothing, truth values, whole
numbers and others.
-/

namespace DocStore.Yaml.Literal

open DocStore.Text

def isNull (text : String) : Bool := ["null", "Null", "NULL", "~"].contains text

def bool? (text : String) : Option Bool :=
  if ["true", "True", "TRUE"].contains text then some true
  else if ["false", "False", "FALSE"].contains text then some false
  else none

/-- Digits with a zero in front are no number. -/
def isPadded (text : String) : Bool :=
  let digits := match text.toList with
    | '-' :: rest => rest
    | '+' :: rest => rest
    | cs => cs
  match digits with
  | '0' :: d :: rest => (d :: rest).all isDigit
  | _ => false

private def natOfRadix? (radix : Nat) (digits : List Char) : Option Nat :=
  if digits.isEmpty then none
  else digits.foldlM
    (fun n c => (hexDigit? c).bind fun d => if d < radix then some (radix * n + d) else none) 0

/-- A number without its sign: digits in tens, or in another radix after its mark. -/
private def unsigned? : List Char → Option Nat
  | '0' :: 'x' :: rest => natOfRadix? 16 rest
  | '0' :: 'o' :: rest => natOfRadix? 8 rest
  | '0' :: 'b' :: rest => natOfRadix? 2 rest
  | digits => natOfRadix? 10 digits

/-- A whole number that is not written as negative. -/
private def positive? (text : String) : Option Nat :=
  if isPadded text then none
  else
    match text.toList with
    | '+' :: rest => unsigned? rest
    | cs => unsigned? cs

/-- A natural number of at most 64 bits. -/
def natural? (text : String) : Option Nat := (positive? text).filter (· < pow2 64)

private def whole? (text : String) : Option Int :=
  match text.toList with
  | '-' :: rest => if isPadded text then none else (unsigned? rest).map fun n => -(n : Int)
  | _ => (positive? text).map Int.ofNat

inductive Whole where
  | none
  | number (n : Int)
  /-- Too large for 64 bits and yet a whole number, of at most 128 bits. -/
  | tooLarge

def whole (text : String) : Whole :=
  match whole? text with
  | some n =>
    if -(pow2 63 : Int) ≤ n && n < pow2 64 then .number n
    else if -(pow2 127 : Int) ≤ n && n < pow2 128 then .tooLarge
    else .none
  | none => .none

/-- A number; the infinities and what is not a number have words of their own. -/
def real? (text : String) : Option Number :=
  let (positive, body) := match text.toList with
    | '+' :: rest => (true, rest)
    | cs => (false, cs)
  if positive && (body.head? == some '+' || body.head? == some '-') then none
  else if [".inf", ".Inf", ".INF"].contains (String.ofList body) then some (Number.infinity false)
  else if ["-.inf", "-.Inf", "-.INF"].contains text then some (Number.infinity true)
  else if [".nan", ".NaN", ".NAN"].contains text then some Number.nan
  else (Number.ofNumeral? body).filter fun x => x.isFinite

end DocStore.Yaml.Literal
