import DocStore.Lock.Session

/-!
# One step on a lock

What a single lock or unlock does before the callback that it starts takes its own steps. Running a
list of steps is performing them one at a time with the steps of a started callback put in front of
the rest, so whatever every step keeps holds in the middle of a callback as well.
-/

namespace DocStore

/-- A request that would take the lock if it were its turn. -/
def LockRequest.isLive (tickets : List TicketState) : LockRequest → Bool
  | .callback _ _ => true
  | .ticket n => tickets[n]? == some .waiting

namespace Lock

/-- The lock after one step, and the callback that it was given to. -/
def perform (l : Lock) : LockStep → Lock × Option (String × List LockStep)
  | .lock label body =>
    if l.locked then ({ l with queue := l.queue ++ [.callback label body] }, none)
    else ({ l with locked := true }, some (label, body))
  | .unlock => passOn l.tickets l.queue

/-- The lock after a ticket is left behind, and the callback that it was given to. -/
def leave (l : Lock) (n : Nat) : Lock × Option (String × List LockStep) :=
  let left := { l with tickets := l.tickets.set n .abandoned }
  if l.isGranted n then left.perform .unlock else (left, none)

/-- Takes the steps of the callback that was given the lock, then the rest. -/
def finish (rest : List LockStep) : Lock × Option (String × List LockStep) → Lock × List String
  | (l, none) => l.run rest
  | (l, some (label, body)) =>
    let (l, labels) := l.run (body ++ rest)
    (l, label :: labels)

theorem run_nil (l : Lock) : l.run [] = (l, []) := by
  rw [run]

theorem run_cons (l : Lock) (step : LockStep) (rest : List LockStep) :
    l.run (step :: rest) = finish rest (l.perform step) := by
  cases step with
  | lock label body =>
    rw [run, perform]
    split <;> rfl
  | unlock =>
    rw [run, perform]
    split <;> (rename_i h; rw [h]; rfl)

theorem abandon_eq (l : Lock) (n : Nat) : l.abandon n = finish [] (l.leave n) := by
  rw [abandon, leave]
  split
  · exact run_cons _ _ _
  · exact (run_nil _).symm

-- ---------------------------------------------------------------------------
-- Handing over
-- ---------------------------------------------------------------------------

/-- The lock goes to the first live request, and those in front of it are discarded. -/
theorem passOn_eq (tickets : List TicketState) (queue : List LockRequest) :
    passOn tickets queue =
      match queue.dropWhile (!·.isLive tickets) with
      | [] => ({ tickets }, none)
      | .callback label body :: rest => (⟨true, rest, tickets⟩, some (label, body))
      | .ticket n :: rest => (⟨true, rest, tickets.set n .granted⟩, none) := by
  induction queue with
  | nil => rfl
  | cons r rest ih =>
    cases r with
    | callback label body => simp [passOn, LockRequest.isLive]
    | ticket n =>
      by_cases waits : tickets[n]? = some .waiting
      · simp [passOn, LockRequest.isLive, waits]
      · rw [passOn, if_neg (by simpa using waits), ih,
          List.dropWhile_cons_of_pos (by simpa [LockRequest.isLive] using waits)]

/-- The three ways in which a lock is handed over. -/
inductive HandedOver (tickets : List TicketState) (queue : List LockRequest) :
    Lock × Option (String × List LockStep) → Prop
  | freed : (∀ r ∈ queue, r.isLive tickets = false) →
      HandedOver tickets queue ({ tickets }, none)
  | called {gone label body rest} : queue = gone ++ .callback label body :: rest →
      (∀ r ∈ gone, r.isLive tickets = false) →
      HandedOver tickets queue (⟨true, rest, tickets⟩, some (label, body))
  | granted {gone n rest} : queue = gone ++ .ticket n :: rest →
      (∀ r ∈ gone, r.isLive tickets = false) → tickets[n]? = some .waiting →
      HandedOver tickets queue (⟨true, rest, tickets.set n .granted⟩, none)

theorem passOn_handedOver (tickets : List TicketState) (queue : List LockRequest) :
    HandedOver tickets queue (passOn tickets queue) := by
  have split := List.takeWhile_append_dropWhile (p := (!·.isLive tickets)) (l := queue)
  have gone : ∀ r ∈ queue.takeWhile (!·.isLive tickets), r.isLive tickets = false := by
    intro r mem
    simpa using List.all_eq_true.mp List.all_takeWhile r mem
  have live := List.head?_dropWhile_not (!·.isLive tickets) queue
  rw [passOn_eq]
  cases h : queue.dropWhile (!·.isLive tickets) with
  | nil =>
    rw [h, List.append_nil] at split
    exact .freed (split ▸ gone)
  | cons r rest =>
    rw [h] at split live
    cases r with
    | callback label body => exact .called split.symm gone
    | ticket n => exact .granted split.symm gone (by simpa [LockRequest.isLive] using live)

end Lock

/-- An acquisition that is dropped, before a callback that gets the lock takes its steps. -/
def Acquisition.leave (l : Lock) : Acquisition → Lock × Option (String × List LockStep)
  | .created => (l, none)
  | .queued n | .held n => l.leave n

theorem Acquisition.drop_eq (a : Acquisition) (l : Lock) :
    a.drop l = Lock.finish [] (a.leave l) := by
  cases a with
  | created => exact (Lock.run_nil l).symm
  | queued n => exact l.abandon_eq n
  | held n => exact l.abandon_eq n

end DocStore
