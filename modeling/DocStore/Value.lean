import DocStore.Calendar.Instant

/-!
# Values

The dynamically typed values that documents hold. Dates and buffers exist at run time only; in
interchange text they are strings. An object keeps its members in insertion order.
-/

namespace DocStore

inductive Value where
  | null
  | bool (b : Bool)
  | number (x : Number)
  | string (s : String)
  | date (t : Instant)
  | buffer (bytes : List UInt8)
  | array (items : List Value)
  | object (fields : List (String × Value))
deriving Inhabited

/-- The members of an object or of a document. -/
abbrev Fields := List (String × Value)

namespace Value

def isNull : Value → Bool
  | .null => true
  | _ => false

def string? : Value → Option String
  | .string s => some s
  | _ => none

def number? : Value → Option Number
  | .number x => some x
  | _ => none

def bool? : Value → Option Bool
  | .bool b => some b
  | _ => none

def date? : Value → Option Instant
  | .date t => some t
  | _ => none

def array? : Value → Option (List Value)
  | .array items => some items
  | _ => none

def object? : Value → Option Fields
  | .object fields => some fields
  | _ => none

/-- Null, false, zero, NaN and the empty string are false. -/
def isTruthy : Value → Bool
  | .null => false
  | .bool b => b
  | .number x => !x.isZero && !x.isNaN
  | .string s => !s.isEmpty
  | _ => true

def typeName : Value → String
  | .null => "null"
  | .bool _ => "boolean"
  | .number _ => "number"
  | .string _ => "string"
  | .date _ => "date"
  | .buffer _ => "buffer"
  | .array _ => "array"
  | .object _ => "object"

end Value

end DocStore
