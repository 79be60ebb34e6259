import DocStore.Error
import DocStore.FieldType
import DocStore.Value.Order

/-!
# Validation

Checking that a value is in the canonical form of a type. Null means that the field is absent. A
virtual field passes its value on to its setter, which changes the document at hand; so the result
comes with the document, also after a failure.
-/

namespace DocStore

namespace Kind

def fault? : Kind → Value → Option Fault
  | .mixed, _ | .virtual _, _ => none
  | .string, .string _ => none
  | .string, v => some (.notA .string v)
  | .number, .number x => if x.isNaN then some .notANumber else none
  | .number, v => some (.notA .number v)
  | .integer, .number x =>
    if x.isNaN then some .notANumber
    else if x.isIntegral then none
    else some (.notAnInteger x)
  | .integer, v => some (.notA .number v)
  | .boolean, .bool _ => none
  | .boolean, v => some (.notA .boolean v)
  | .date, .date _ => none
  | .date, v => some (.notA .date v)
  | .object, .object _ => none
  | .object, v => some (.notA .object v)
  | .buffer, .buffer _ => none
  | .buffer, v => some (.notA .buffer v)
  | .id _, .string s => if s.isEmpty then some (.notA .id (.string s)) else none
  | .id _, v => some (.notA .id v)
  | .enumeration elements, v =>
    if elements.any (fun e => e.equal v) then none else some (.notOneOf elements v)

end Kind

namespace VirtualField

/-- Assigns a value to the field. Null assigns nothing. -/
def assign (field : VirtualField) (v : Value) (doc : Fields) : Fields :=
  match v, field.setter with
  | .null, _ | _, none => doc
  | v, some setter => setter doc v

end VirtualField

namespace FieldType

def validateItems (check : Value → Fields → Except Error Value × Fields) :
    List Value → Fields → Except Error (List Value) × Fields
  | [], doc => (.ok [], doc)
  | v :: rest, doc =>
    match check v doc with
    | (.error e, doc) => (.error e, doc)
    | (.ok w, doc) =>
      let (result, doc) := validateItems check rest doc
      (result.map (w :: ·), doc)

/-- The value to store, null for none, and the document as the check leaves it. -/
def validate (path : Path) : FieldType → Value → Fields → Except Error Value × Fields
  | .leaf (.virtual field) _, v, doc => (.ok .null, field.assign v doc)
  | .leaf kind options, v, doc =>
    (if v.isNull then
        if options.required then .error (.validation path .missing) else .ok .null
      else match kind.fault? v with
        | some fault => .error (.validation path fault)
        | none => .ok v, doc)
  | .array child options, v, doc =>
    match v with
    | .null => (if options.required then .error (.validation path .missing) else .ok .null, doc)
    | .array items =>
      let (result, doc) := validateItems (child.validate path) items doc
      (result.map Value.array, doc)
    | v => (.error (.validation path (.notA .array v)), doc)

end FieldType

end DocStore
