import DocStore.FieldType.Compare
import DocStore.Operator

/-!
# Query operators

The operators that a type supports and when they hold of a stored value. One that is not supported
holds of every value.
-/

namespace DocStore

def Kind.supportsQuery : Kind → QueryOperator → Bool
  | .string, op | .mixed, op | .enumeration _, op => op == .regex || op == .length
  | .date, op => op == .day || op == .month || op == .year
  | _, _ => false

namespace FieldType

def supportsQuery (type : FieldType) (op : QueryOperator) : Bool :=
  op.isBase || match type with
    | .leaf kind _ => kind.supportsQuery op
    | .array .. => op == .size || op == .length || op == .all

/-- Tests how a value stands to an operand. Null stands in no order. -/
def ordered (type : FieldType) (test : Ordering → Bool) (v operand : Value) : Bool :=
  !v.isNull && test (type.compare v (type.coerce operand))

def within (type : FieldType) (v operand : Value) : Bool :=
  match operand with
  | .array [low, high] => type.ordered Ordering.isGE v low && type.ordered Ordering.isLE v high
  | _ => false

end FieldType

namespace Value

def isCount (v : Value) (n : Nat) : Bool :=
  match v with
  | .number x => x.equal (Number.ofNat n)
  | _ => false

def length : Value → Nat
  | .string s => s.length
  | .array items => items.length
  | _ => 0

/-- Whether the part of a date that an operator names is the operand. -/
def datePartIs (op : QueryOperator) (v operand : Value) : Bool :=
  match v, operand with
  | .date t, .number x =>
    let date := Calendar.Date.ofDayNumber t.dayNumber
    let part : Option Int := match op with
      | .day => some date.day
      | .month => some date.month
      | .year => some date.year
      | _ => none
    part.any fun n => x.equal (Number.ofInt n)
  | _, _ => false

end Value

namespace FieldType

def containsMatch (child : FieldType) (items : List Value) (operand : Value) : Bool :=
  items.any fun item => child.isMatch item operand

def queryItems? (child : FieldType) (op : QueryOperator) (v operand : Value) : Option Bool :=
  let items := v.array?.getD []
  match op with
  | .isIn => some (operand.operands.any (child.containsMatch items))
  | .notIn => some (!operand.operands.any (child.containsMatch items))
  | .all => some (operand.operands.all (child.containsMatch items))
  | .size | .length => some (operand.isCount items.length)
  | _ => none

/-- The operators of every type. Patterns are matched elsewhere. -/
def queryValue (type : FieldType) (op : QueryOperator) (v operand : Value) : Bool :=
  match op with
  | .exist => !v.isNull == operand.isTruthy
  | .eq => type.isMatch v operand
  | .ne => !type.isMatch v operand
  | .lt => type.ordered Ordering.isLT v operand
  | .lte => type.ordered Ordering.isLE v operand
  | .gt => type.ordered Ordering.isGT v operand
  | .gte => type.ordered Ordering.isGE v operand
  | .isIn => operand.operands.any (type.isMatch v)
  | .notIn => !operand.operands.any (type.isMatch v)
  | .within => type.within v operand
  | .without => !v.isNull && !type.within v operand
  | .length => operand.isCount v.length
  | .day | .month | .year => v.datePartIs op operand
  | .regex | .size | .all => true

def query (type : FieldType) (op : QueryOperator) (v operand : Value) : Bool :=
  if type.supportsQuery op then
    match type with
    | .array child _ => (child.queryItems? op v operand).getD (type.queryValue op v operand)
    | .leaf .. => type.queryValue op v operand
  else true

end FieldType

end DocStore
