import DocStore.Value.Fields

/-!
# Collections

The stored documents of a model by their ids. An id keeps its place for good: when its document is
removed an empty slot stays behind, and a later document of that id fills it again.
-/

namespace DocStore

structure Collection where
  /-- Slots in the order in which their ids came up first. -/
  slots : List (String × Option Fields) := []
  size : Nat := 0

namespace Collection

/-- All ids that ever held a document, in order. -/
def order (c : Collection) : List String := c.slots.map Prod.fst

def find? (c : Collection) (id : String) : Option Fields := (c.slots.lookup id).join

def contains (c : Collection) (id : String) : Bool := (c.find? id).isSome

def live (c : Collection) : List Fields := c.slots.filterMap Prod.snd

/-- Writes the slot of an id; a new one goes last. -/
def writeSlot (id : String) (content : Option Fields) :
    List (String × Option Fields) → List (String × Option Fields)
  | [] => [(id, content)]
  | (k, old) :: rest =>
    if k == id then (k, content) :: rest else (k, old) :: writeSlot id content rest

def put (c : Collection) (id : String) (doc : Fields) : Collection :=
  { slots := writeSlot id (some doc) c.slots,
    size := if c.contains id then c.size else c.size + 1 }

/-- Empties the slot of an id. An id without a document stays as it is. -/
def erase (c : Collection) (id : String) : Collection :=
  if c.contains id then { slots := writeSlot id none c.slots, size := c.size - 1 } else c

end Collection

end DocStore
