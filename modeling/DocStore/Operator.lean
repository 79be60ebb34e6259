/-!
# Operators

The operators of queries and updates and the keys they are written by.
-/

namespace DocStore

inductive QueryOperator where
  | exist | eq | ne | lt | lte | gt | gte | isIn | notIn | within | without
  | regex | length | size | all | day | month | year
deriving DecidableEq, Repr

namespace QueryOperator

def ofName? : String → Option QueryOperator
  | "$exist" | "$exists" => some .exist
  | "$eq" => some .eq
  | "$ne" => some .ne
  | "$lt" => some .lt
  | "$lte" | "$max" => some .lte
  | "$gt" => some .gt
  | "$gte" | "$min" => some .gte
  | "$in" => some .isIn
  | "$nin" => some .notIn
  | "$within" => some .within
  | "$without" => some .without
  | "$regex" => some .regex
  | "$length" => some .length
  | "$size" => some .size
  | "$all" => some .all
  | "$day" => some .day
  | "$month" => some .month
  | "$year" => some .year
  | _ => none

def name : QueryOperator → String
  | .exist => "$exist"
  | .eq => "$eq"
  | .ne => "$ne"
  | .lt => "$lt"
  | .lte => "$lte"
  | .gt => "$gt"
  | .gte => "$gte"
  | .isIn => "$in"
  | .notIn => "$nin"
  | .within => "$within"
  | .without => "$without"
  | .regex => "$regex"
  | .length => "$length"
  | .size => "$size"
  | .all => "$all"
  | .day => "$day"
  | .month => "$month"
  | .year => "$year"

def isBase : QueryOperator → Bool
  | .exist | .eq | .ne | .lt | .lte | .gt | .gte | .isIn | .notIn | .within | .without => true
  | _ => false

end QueryOperator

inductive UpdateOperator where
  | set | unset | rename
  | inc | dec | mul | div | mod | max | min
  | push | unshift | pull | shift | pop | addToSet
deriving DecidableEq, Repr

namespace UpdateOperator

def ofName? : String → Option UpdateOperator
  | "$set" => some .set
  | "$unset" => some .unset
  | "$rename" => some .rename
  | "$inc" => some .inc
  | "$dec" => some .dec
  | "$mul" => some .mul
  | "$div" => some .div
  | "$mod" => some .mod
  | "$max" => some .max
  | "$min" => some .min
  | "$push" | "$append" => some .push
  | "$unshift" | "$prepend" => some .unshift
  | "$pull" => some .pull
  | "$shift" => some .shift
  | "$pop" => some .pop
  | "$addToSet" => some .addToSet
  | _ => none

def name : UpdateOperator → String
  | .set => "$set"
  | .unset => "$unset"
  | .rename => "$rename"
  | .inc => "$inc"
  | .dec => "$dec"
  | .mul => "$mul"
  | .div => "$div"
  | .mod => "$mod"
  | .max => "$max"
  | .min => "$min"
  | .push => "$push"
  | .unshift => "$unshift"
  | .pull => "$pull"
  | .shift => "$shift"
  | .pop => "$pop"
  | .addToSet => "$addToSet"

def isBase : UpdateOperator → Bool
  | .set | .unset | .rename => true
  | _ => false

def isNumeric : UpdateOperator → Bool
  | .inc | .dec | .mul | .div | .mod | .max | .min => true
  | _ => false

def isArray : UpdateOperator → Bool
  | .push | .unshift | .pull | .shift | .pop | .addToSet => true
  | _ => false

end UpdateOperator

/-- A key that names an operator, known or not, and no field. -/
def isOperatorKey (key : String) : Bool := key.toList.head? == some '$'

theorem isOperatorKey_dotted (key text : String) :
    isOperatorKey (key ++ "." ++ text) = isOperatorKey key := by
  unfold isOperatorKey
  rw [String.toList_append, String.toList_append]
  cases key.toList <;> rfl

end DocStore
