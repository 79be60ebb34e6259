/-!
# Memos

A value that is computed when it is first asked for and kept until it is reset.
-/

namespace DocStore

structure Memo (α : Type) where
  value : Option α := none
  runs : Nat := 0

namespace Memo

variable {α : Type}

/-- The value, and the memo that holds it. -/
def get (compute : Unit → α) (memo : Memo α) : α × Memo α :=
  match memo.value with
  | some v => (v, memo)
  | none =>
    let v := compute ()
    (v, { value := some v, runs := memo.runs + 1 })

def reset (memo : Memo α) : Memo α := { memo with value := none }

variable {memo : Memo α} {v : α}

theorem get_of_value (kept : memo.value = some v) (compute : Unit → α) :
    memo.get compute = (v, memo) := by
  rw [get, kept]

theorem get_of_empty (empty : memo.value = none) (compute : Unit → α) :
    memo.get compute = (compute (), { value := some (compute ()), runs := memo.runs + 1 }) := by
  rw [get, empty]

end Memo

end DocStore
