import DocStore.Value.Fields

/-!
# Equality and order of values

Objects are equal whatever the order of their members. In the order of values an object counts as
its members sorted by key.
-/

namespace DocStore

namespace Value

mutual
def equal : Value → Value → Bool
  | .null, .null => true
  | .bool a, .bool b => a == b
  | .number x, .number y => x.equal y
  | .string s, .string t => s == t
  | .date s, .date t => s == t
  | .buffer a, .buffer b => a == b
  | .array l, .array m => equalItems l m
  | .object a, .object b => a.length == b.length && equalFields a b
  | _, _ => false
def equalItems : List Value → List Value → Bool
  | [], [] => true
  | v :: l, w :: m => equal v w && equalItems l m
  | _, _ => false
def equalFields : List (String × Value) → Fields → Bool
  | [], _ => true
  | (k, v) :: rest, b =>
    (match b.get? k with
      | some w => equal v w
      | none => false) && equalFields rest b
end

instance : BEq Value := ⟨equal⟩

/-- Puts a member in front of the first one with a greater key. -/
def insertByKey (entry : String × Value) : Fields → Fields
  | [] => [entry]
  | e :: rest => if entry.1 < e.1 then entry :: e :: rest else e :: insertByKey entry rest

mutual
def sorted : Value → Value
  | .array items => .array (sortedItems items)
  | .object fields => .object (sortedFields fields [])
  | v => v
def sortedItems : List Value → List Value
  | [] => []
  | v :: rest => sorted v :: sortedItems rest
def sortedFields : List (String × Value) → Fields → Fields
  | [], done => done
  | (k, v) :: rest, done => sortedFields rest (insertByKey (k, sorted v) done)
end

def rank : Value → Nat
  | .null => 0
  | .bool _ => 1
  | .number _ => 2
  | .string _ => 3
  | .date _ => 4
  | .buffer _ => 5
  | .array _ => 6
  | .object _ => 7

def orderBytes : List UInt8 → List UInt8 → Ordering
  | [], [] => .eq
  | [], _ => .lt
  | _, [] => .gt
  | a :: l, b :: m => (compare a b).then (orderBytes l m)

mutual
/-- The order of values whose objects are sorted. -/
def orderSorted : Value → Value → Ordering
  | .bool a, .bool b => compare a b
  | .number x, .number y => x.order y
  | .string s, .string t => compare s t
  | .date s, .date t => s.order t
  | .buffer a, .buffer b => orderBytes a b
  | .array l, .array m => orderItems l m
  | .object a, .object b => orderFields a b
  | v, w => compare v.rank w.rank
def orderItems : List Value → List Value → Ordering
  | [], [] => .eq
  | [], _ => .lt
  | _, [] => .gt
  | v :: l, w :: m => (orderSorted v w).then (orderItems l m)
def orderFields : List (String × Value) → List (String × Value) → Ordering
  | [], [] => .eq
  | [], _ => .lt
  | _, [] => .gt
  | (k, v) :: l, (j, w) :: m => ((compare k j).then (orderSorted v w)).then (orderFields l m)
end

/-- The order of values: by type, then inside the type. -/
def order (v w : Value) : Ordering := orderSorted v.sorted w.sorted

end Value

/-- Objects are equal when their members are, in any order. -/
def Fields.equal (a b : Fields) : Bool := (Value.object a).equal (Value.object b)

end DocStore
