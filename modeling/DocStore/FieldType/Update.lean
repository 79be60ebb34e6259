import DocStore.Error
import DocStore.FieldType.Query

/-!
# Update operators

The operators that a type supports and the value that they leave in a field, null for none. One that
is not supported leaves the value as it is.
-/

namespace DocStore

def Kind.supportsUpdate : Kind → UpdateOperator → Bool
  | .number, op | .integer, op => op.isNumeric
  | .date, op => op == .inc || op == .dec
  | _, _ => false

namespace Value

/-- Arithmetic on a number; anything else counts as zero. -/
def updateNumber (path : Path) (op : UpdateOperator) (v operand : Value) : Except Error Value :=
  match operand with
  | .number y =>
    let x := v.number?.getD Number.zero
    .ok (match op with
      | .inc => .number (x + y)
      | .dec => .number (x - y)
      | .mul => .number (x * y)
      | .div => .number (x / y)
      | .mod => .number (x.remainder y)
      | .max => .number (x.greater y)
      | .min => .number (x.lesser y)
      | _ => v)
  | _ => .error (.validation path (.operandNotANumber op))

/-- Shifts a date by milliseconds. The least 64-bit number has no negative and shifts nothing. -/
def updateDate (path : Path) (op : UpdateOperator) (v operand : Value) : Except Error Value :=
  match operand with
  | .number y =>
    let ms := y.toInt64
    if ms == -(pow2 63 : Int) then .error (.validation path .dateOutOfRange)
    else match v with
      | .date t =>
        match t.addMillis? (if op == .dec then -ms else ms) with
        | some t => .ok (.date t)
        | none => .error (.validation path .dateOutOfRange)
      | v => .ok v
  | _ => .error (.validation path (.operandNotMilliseconds op))

/-- How many items an operand removes; a negative count removes from the other end. -/
def removalCount : Value → Int
  | .bool true => 1
  | .number x => if x.isFinite then x.toInt64 else 0
  | _ => 0

end Value

namespace FieldType

/-- Removes items from the front, or from the back for a negative count. -/
def removeFront (items : List Value) (count : Int) : List Value :=
  if 0 ≤ count then items.drop count.toNat else items.take (items.length - count.natAbs)

def addNew (child : FieldType) (items : List Value) : List Value → List Value
  | [] => items
  | v :: rest =>
    addNew child (if child.containsMatch items v then items else items ++ [v]) rest

/-- The operators of arrays. A value that is no array counts as an array of one. -/
def updateItems (child : FieldType) (op : UpdateOperator) (v operand : Value) : Value :=
  if v.isNull && (op == .shift || op == .pop || op == .pull) then v
  else
    let items := match v with
      | .null => []
      | v => v.operands
    let incoming := operand.operands.map child.coerce
    .array (match op with
      | .push => items ++ incoming
      | .unshift => incoming ++ items
      | .pull => items.filter fun item => !incoming.any (child.isMatch item)
      | .addToSet => child.addNew items incoming
      | .shift => removeFront items operand.removalCount
      | .pop => removeFront items (-operand.removalCount)
      | _ => items)

def supportsUpdate (type : FieldType) (op : UpdateOperator) : Bool :=
  op.isBase || match type with
    | .leaf kind _ => kind.supportsUpdate op
    | .array .. => op.isArray

/-- The value that an operator leaves in a field and the document around it, which renaming
changes. -/
def update (path : Path) (type : FieldType) (op : UpdateOperator) (v operand : Value)
    (doc : Fields) : Except Error (Value × Fields) :=
  if type.supportsUpdate op then
    match op with
    | .set => .ok (operand, doc)
    | .unset => .ok (if operand.isTruthy then .null else v, doc)
    | .rename =>
      match operand with
      | .string target => .ok (.null, if v.isNull then doc else doc.set (Path.ofText target) v)
      | _ => .error (.validation path .targetNotAString)
    | op =>
      match type with
      | .array child _ => .ok (child.updateItems op v operand, doc)
      | .leaf .date _ => (v.updateDate path op operand).map (·, doc)
      | .leaf _ _ => (v.updateNumber path op operand).map (·, doc)
  else .ok (v, doc)

end FieldType

end DocStore
