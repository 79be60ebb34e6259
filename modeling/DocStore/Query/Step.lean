import DocStore.Realm.Population

/-!
# Steps of a query

A step narrows, orders or populates what a query holds, or is refused.
-/

namespace DocStore

inductive QueryStep where
  | sort (spec : SortSpec)
  | skip (count : Nat)
  | limit (count : Nat)
  | slice (start : Int) (stop : Option Int)
  | reverse
  | shuffle
  | find (selector : Selector)
  /-- Keeps the records for which a test of fields and position holds. -/
  | filter (test : Fields → Nat → Bool)
  | populate (population : Population)

namespace Query

variable {α : Type} [Record α]

/-- Takes a step. -/
def take (r : Realm) (source : Source) (q : Query α) : QueryStep → Except Error (Query α)
  | .sort spec => .ok (q.sort spec)
  | .skip count => .ok (q.skip count)
  | .limit count => .ok (q.limit count)
  | .slice start stop => .ok (q.slice start stop)
  | .reverse => .ok q.reverse
  | .shuffle => .ok (q.shuffle source)
  | .find selector => q.find selector
  | .filter test => .ok (q.filter fun item i => test (Record.fields item) i)
  | .populate population => r.populateAll q population

end Query

end DocStore
