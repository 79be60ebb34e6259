import DocStore.Calendar.Stamp
import DocStore.FieldType
import DocStore.Number.Numeral
import DocStore.Text.Blank
import DocStore.Value.Json

/-!
# Coercion

Turning a value into the canonical form of a type where it has one. A value without such a form is
left as it is, for validation to refuse.
-/

namespace DocStore

namespace Value

/-- The number that a value stands for: a truth value, a date in milliseconds, a numeral. -/
def asNumber? : Value → Option Number
  | .number x => some x
  | .bool b => some (Number.ofNat (if b then 1 else 0))
  | .date t => some (Number.ofInt t.toMillis)
  | .string s => Number.ofNumeral? (Text.trim s.toList)
  | _ => none

def asByte? : Value → Option UInt8
  | .number x =>
    if x.isIntegral && x.wholePart ≤ 255 && (x.isZero || !x.isNegative) then
      some (UInt8.ofNat x.wholePart)
    else none
  | _ => none

/-- Texts for absence and falsehood are false, all others true. -/
def asBool : Value → Bool
  | .string s => !(s == "" || s == "false" || s == "0")
  | v => v.isTruthy

def asDate : Value → Value
  | .string s => match Instant.ofText? s with
    | some t => .date t
    | none => .string s
  | .number x => match Instant.ofNumber? x with
    | some t => .date t
    | none => .number x
  | v => v

/-- Hexadecimal digits and arrays of bytes become buffers. -/
def asBuffer : Value → Value
  | .string s => match Text.bytesOfHex? s.toList with
    | some bytes => .buffer bytes
    | none => .string s
  | .array items => match items.mapM asByte? with
    | some bytes => .buffer bytes
    | none => .array items
  | v => v

def operands : Value → List Value
  | .array items => items
  | v => [v]

end Value

namespace Kind

def coerce : Kind → Value → Value
  | .string, .number x => .string (Value.number x).text
  | .string, .bool b => .string (Value.bool b).text
  | .string, .date t => .string t.text
  | .number, v => match v.asNumber? with
    | some x => .number x
    | none => v
  | .integer, v => match v.asNumber? with
    | some x => .number x.truncate
    | none => v
  | .boolean, v => .bool v.asBool
  | .date, v => v.asDate
  | .buffer, v => v.asBuffer
  | .id _, .number x => .string (Value.number x).text
  | .virtual _, _ => .null
  | _, v => v

end Kind

namespace FieldType

/-- The canonical form of a value. Null stays null; an array type makes a single value an array of
one. -/
def coerce : FieldType → Value → Value
  | _, .null => .null
  | .leaf kind _, v => kind.coerce v
  | .array child _, .array items => .array (items.map child.coerce)
  | .array child _, v => .array [child.coerce v]

/-- The value of an absent field: its default, an empty array, a fresh id if one is required. -/
def default (source : Source) (type : FieldType) : Value :=
  match type.options.default with
  | some (.fixed v) => v
  | some .now => .date source.now
  | none => match type with
    | .array .. => .array []
    | .leaf (.id strategy) options =>
      if options.required then .string (source.freshId strategy) else .null
    | .leaf .. => .null

/-- Coerces a value; null becomes the default. -/
def cast (source : Source) (type : FieldType) (v : Value) : Value :=
  if v.isNull then type.default source else type.coerce v

end FieldType

end DocStore
