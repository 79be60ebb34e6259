import DocStore.Document

/-!
# Queries

A query is a list of records of one model, at one moment. Every step makes a new query from it.
-/

namespace DocStore

/-- What a query can hold: documents, or plain fields. -/
class Record (α : Type) where
  fields : α → Fields
  attach : Reference → α → α
  populated? : (Fields → Reference → Populated) → α → Path → Option Populated
  /-- The whole record, and how many getters ran for it. -/
  tree : α → Json × Nat

instance : Record Document where
  fields := Document.fields
  attach := Document.attach
  populated? resolve doc path := (doc.populated? resolve path).1
  tree doc :=
    let (json, read) := doc.toJson
    (json, read.getterRuns - doc.getterRuns)

instance : Record Fields where
  fields := id
  attach _ fields := fields
  populated? _ _ _ := none
  tree fields := ((Value.object fields).toJson, 0)

structure Query (α : Type) where
  model : ModelHandle
  items : List α

namespace Query

variable {α : Type}

def withItems (q : Query α) (items : List α) : Query α := { q with items }

/-! ### Positions -/

/-- A position counted from the front, or from the back if it is negative, inside the list. -/
def bound (length : Nat) (index : Int) : Nat :=
  if index < 0 then length - index.natAbs else min index.toNat length

/-- The item at a position; a negative one counts from the back. -/
def get? (q : Query α) (index : Int) : Option α :=
  if index < 0 then
    if index.natAbs ≤ q.items.length then q.items[q.items.length - index.natAbs]? else none
  else q.items[index.toNat]?

def first? (q : Query α) : Option α := q.items.head?
def last? (q : Query α) : Option α := q.items.getLast?

/-- The items from one position up to another, or up to the end. -/
def slice (q : Query α) (start : Int) (stop : Option Int) : Query α :=
  let length := q.items.length
  let start := bound length start
  let stop := (stop.map (bound length)).getD length
  q.withItems ((q.items.take stop).drop start)

def limit (q : Query α) (n : Nat) : Query α := q.withItems (q.items.take n)
def skip (q : Query α) (n : Nat) : Query α := q.withItems (q.items.drop n)
def reverse (q : Query α) : Query α := q.withItems q.items.reverse

def shuffle (source : Source) (q : Query α) : Query α :=
  let drawn := q.items.zipIdx.map fun (item, i) =>
    let source := source.branch i
    (source.entropy source.trail, item)
  q.withItems ((drawn.mergeSort fun a b => decide (a.1 ≤ b.1)).map Prod.snd)

/-! ### Contents -/

variable [Record α]

/-- Sorts by keys. Items that compare equal keep their order. -/
def sort (q : Query α) (spec : SortSpec) : Query α :=
  q.withItems (q.items.mergeSort fun a b =>
    spec.inOrder q.model.schema (Record.fields a) (Record.fields b))

def find (q : Query α) (selector : Selector) : Except Error (Query α) :=
  (q.model.schema.compileQuery selector).map fun p =>
    q.withItems (q.items.filter fun item => p.holds (Record.fields item))

def findOne (q : Query α) (selector : Selector) : Except Error (Option α) :=
  (q.model.schema.compileQuery selector).map fun p =>
    q.items.find? fun item => p.holds (Record.fields item)

/-- The ids of the items; an item without one is left out. -/
def ids (q : Query α) : List String := q.items.filterMap fun item => textId (Record.fields item)

def attach (q : Query α) (references : List Reference) : Query α :=
  q.withItems (q.items.map fun item => references.foldl (fun item r => Record.attach r item) item)

omit [Record α]

def filter (q : Query α) (p : α → Nat → Bool) : Query α :=
  q.withItems ((q.items.zipIdx.filter fun (item, i) => p item i).map Prod.fst)

def map {β : Type} (q : Query α) (f : α → Nat → β) : List β :=
  q.items.zipIdx.map fun (item, i) => f item i

def reduce {β : Type} (q : Query α) (start : β) (f : β → α → Nat → β) : β :=
  q.items.zipIdx.foldl (fun acc (item, i) => f acc item i) start

def reduceRight {β : Type} (q : Query α) (start : β) (f : β → α → Nat → β) : β :=
  q.items.zipIdx.foldr (fun (item, i) acc => f acc item i) start

def all (q : Query α) (p : α → Nat → Bool) : Bool := q.items.zipIdx.all fun (item, i) => p item i
def any (q : Query α) (p : α → Nat → Bool) : Bool := q.items.zipIdx.any fun (item, i) => p item i

end Query

end DocStore
