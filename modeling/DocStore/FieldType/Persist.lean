import DocStore.FieldType.Coerce

/-!
# Persistence

The form in which the values of a type are kept in a file, and the way back.
-/

namespace DocStore

namespace Kind

/-- Truth values are kept as 0 and 1, dates as time stamps, buffers as hexadecimal digits, virtual
fields not at all. -/
def persist : Kind → Value → Value
  | .boolean, .bool b => .number (Number.ofNat (if b then 1 else 0))
  | .date, .date t => .string t.text
  | .buffer, .buffer bytes => .string (String.ofList (Text.hex bytes))
  | .virtual _, _ => .null
  | _, v => v

def restore : Kind → Value → Value
  | .boolean, v => .bool v.asBool
  | .date, v => v.asDate
  | .buffer, v => v.asBuffer
  | _, v => v

end Kind

namespace FieldType

def persist : FieldType → Value → Value
  | _, .null => .null
  | .leaf kind _, v => kind.persist v
  | .array child _, .array items => .array (items.map child.persist)
  | .array _ _, v => v

def restore : FieldType → Value → Value
  | _, .null => .null
  | .leaf kind _, v => kind.restore v
  | .array child _, .array items => .array (items.map child.restore)
  | .array _ _, v => v

end FieldType

end DocStore
