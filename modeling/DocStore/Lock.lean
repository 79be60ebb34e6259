/-!
# The lock of a collection

A lock is handed over in the order in which it was asked for. A request is a callback, which runs
when it gets the lock and may itself lock and unlock, or a ticket, which its owner looks at from
time to time. A ticket whose owner has gone is passed over.
-/

namespace DocStore

inductive LockStep where
  | lock (label : String) (body : List LockStep)
  | unlock

inductive LockRequest where
  | callback (label : String) (body : List LockStep)
  | ticket (n : Nat)

inductive TicketState where
  | waiting
  | granted
  | abandoned
deriving DecidableEq, Repr

structure Lock where
  locked : Bool := false
  /-- The requests behind the holder, the oldest first. -/
  queue : List LockRequest := []
  /-- The states of all tickets that were ever drawn. -/
  tickets : List TicketState := []

mutual
/-- How many steps a step holds, itself included. -/
def LockStep.weight : LockStep → Nat
  | .lock _ body => LockStep.weights body + 1
  | .unlock => 1
def LockStep.weights : List LockStep → Nat
  | [] => 0
  | s :: rest => s.weight + LockStep.weights rest
end

def LockRequest.weight : LockRequest → Nat
  | .callback _ body => LockStep.weights body
  | .ticket _ => 0

def LockRequest.weights : List LockRequest → Nat
  | [] => 0
  | r :: rest => r.weight + LockRequest.weights rest

namespace Lock

/-- The lock after its holder gave it back, and the callback that it was handed to. -/
def passOn (tickets : List TicketState) :
    List LockRequest → Lock × Option (String × List LockStep)
  | [] => ({ tickets }, none)
  | .callback label body :: rest => ({ locked := true, queue := rest, tickets }, some (label, body))
  | .ticket n :: rest =>
    if tickets[n]? == some .waiting then
      ({ locked := true, queue := rest, tickets := tickets.set n .granted }, none)
    else passOn tickets rest

private theorem weights_append (a b : List LockStep) :
    LockStep.weights (a ++ b) = LockStep.weights a + LockStep.weights b := by
  induction a with
  | nil => simp [LockStep.weights]
  | cons s rest ih => simp [LockStep.weights, ih]; omega

private theorem weights_push (queue : List LockRequest) (r : LockRequest) :
    LockRequest.weights (queue ++ [r]) = LockRequest.weights queue + r.weight := by
  induction queue with
  | nil => simp [LockRequest.weights]
  | cons _ rest ih => simp [LockRequest.weights, ih]; omega

private theorem weights_passOn (tickets : List TicketState) (queue : List LockRequest) :
    LockRequest.weights (passOn tickets queue).1.queue
        + LockStep.weights (((passOn tickets queue).2.map Prod.snd).getD [])
      ≤ LockRequest.weights queue := by
  induction queue with
  | nil => simp [passOn, LockRequest.weights, LockStep.weights]
  | cons r rest ih =>
    cases r with
    | callback label body =>
      simp [passOn, LockRequest.weights, LockRequest.weight]
      omega
    | ticket n =>
      simp only [passOn]
      split
      · simp [LockRequest.weights, LockRequest.weight, LockStep.weights]
      · simpa [LockRequest.weights, LockRequest.weight] using ih

/-- Performs steps in order. A callback that gets the lock runs at once, before the steps that
follow. The result lists the callbacks that ran. -/
def run (lock : Lock) : List LockStep → Lock × List String
  | [] => (lock, [])
  | .lock label body :: rest =>
    if lock.locked then run { lock with queue := lock.queue ++ [.callback label body] } rest
    else
      let (l, labels) := run { lock with locked := true } (body ++ rest)
      (l, label :: labels)
  | .unlock :: rest =>
    match _h : passOn lock.tickets lock.queue with
    | (next, none) => run next rest
    | (next, some (label, body)) =>
      let (l, labels) := run next (body ++ rest)
      (l, label :: labels)
termination_by steps => LockStep.weights steps + LockRequest.weights lock.queue
decreasing_by
  · simp [LockStep.weights, LockStep.weight, weights_push, LockRequest.weight]
    omega
  · simp [LockStep.weights, LockStep.weight, weights_append]
  · have le := weights_passOn lock.tickets lock.queue
    simp only [_h] at le
    simp only [LockStep.weights, LockStep.weight]
    omega
  · have le := weights_passOn lock.tickets lock.queue
    simp only [_h, Option.map_some, Option.getD_some] at le
    simp only [LockStep.weights, LockStep.weight, weights_append]
    omega

def unlock (l : Lock) : Lock × List String := l.run [.unlock]

/-- Draws a ticket: granted at once if the lock is free, else queued. -/
def drawTicket (l : Lock) : Lock × Nat :=
  let n := l.tickets.length
  if l.locked then
    ({ l with queue := l.queue ++ [.ticket n], tickets := l.tickets ++ [.waiting] }, n)
  else ({ l with locked := true, tickets := l.tickets ++ [.granted] }, n)

def isGranted (l : Lock) (n : Nat) : Bool := l.tickets[n]? == some .granted

/-- Leaves a ticket behind. One that was granted gives the lock back. -/
def abandon (l : Lock) (n : Nat) : Lock × List String :=
  let left := { l with tickets := l.tickets.set n .abandoned }
  if l.isGranted n then left.unlock else (left, [])

end Lock

end DocStore
