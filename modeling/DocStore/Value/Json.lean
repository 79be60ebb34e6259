import DocStore.Calendar.Stamp
import DocStore.Json.Printer
import DocStore.Value.Fields

/-!
# Values as interchange trees

Dates are written as time stamps, buffers as hexadecimal digits, numbers without a value in
interchange text as null.
-/

namespace DocStore

/-- A number without a fraction below the exact bound is a whole number; one that is not finite is
null. -/
def Number.toJson (x : Number) : Json :=
  match x.exactInt? with
  | some n => .integer n
  | none => if x.isFinite then .real x else .null

namespace Value

mutual
def toJson : Value → Json
  | .null => .null
  | .bool b => .bool b
  | .number x => x.toJson
  | .string s => .string s
  | .date t => .string t.text
  | .buffer bytes => .string (String.ofList (Text.hex bytes))
  | .array items => .array (toJsonItems items)
  | .object fields => .object (toJsonFields fields)
def toJsonItems : List Value → List Json
  | [] => []
  | v :: rest => v.toJson :: toJsonItems rest
def toJsonFields : List (String × Value) → List (String × Json)
  | [] => []
  | (k, v) :: rest => (k, v.toJson) :: toJsonFields rest
end

mutual
/-- The value of a tree. Of repeated members the last value counts, at the first one's place. -/
def ofJson : Json → Value
  | .null => .null
  | .bool b => .bool b
  | .integer n => .number (Number.ofInt n)
  | .real x => .number x
  | .string s => .string s
  | .array items => .array (ofJsonItems items)
  | .object members => .object (ofJsonMembers members [])
def ofJsonItems : List Json → List Value
  | [] => []
  | j :: rest => ofJson j :: ofJsonItems rest
def ofJsonMembers : List (String × Json) → Fields → Fields
  | [], done => done
  | (k, j) :: rest, done => ofJsonMembers rest (done.insert k (ofJson j))
end

/-- The text of a value: a string itself, anything else as compact interchange text. -/
def text : Value → String
  | .string s => s
  | v => v.toJson.text

end Value

end DocStore
