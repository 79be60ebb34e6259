import Mathlib.Data.List.Perm.Basic
import DocStore.Proofs.Lock.Line
import DocStore.Proofs.Lock.Step

/-!
# All who use a lock

Clients that lock with callbacks and acquisitions that come and go, one step after the other in any
order. A step of a callback is a step of its own, and a client unlocks only when a callback holds
the lock. Whatever they do, the lock is held by one of them if it says so and by none otherwise.
-/

namespace DocStore

def LockRequest.label? : LockRequest → Option String
  | .callback label _ => some label
  | .ticket _ => none

namespace Acquisition

def ticket? : Acquisition → Option Nat
  | .created => none
  | .queued n | .held n => some n

/-- The lock is this acquisition's: it has the guard, or the grant was sent and not looked at. -/
def holds (l : Lock) : Acquisition → Bool
  | .created => false
  | .queued n => l.isGranted n
  | .held _ => true

/-- The request that a look makes: the first one joins the queue. -/
def joining (l : Lock) : Acquisition → List LockRequest
  | .created => [.ticket l.tickets.length]
  | _ => []

/-- The ticket whose turn has not come. -/
def pending (l : Lock) : Acquisition → List Nat
  | .queued n => if l.isGranted n then [] else [n]
  | _ => []

end Acquisition

namespace Lock

/-- The tickets that a step granted. -/
def granting (old new : Lock) : List Nat :=
  (List.range new.tickets.length).filter fun n => new.isGranted n && !old.isGranted n

/-- The requests that are seen to take the lock in a step. -/
def takers (old : Lock) (out : Lock × Option (String × List LockStep)) : List LockRequest :=
  out.2.toList.map (fun (label, body) => .callback label body) ++ (old.granting out.1).map .ticket

structure Crowd where
  lock : Lock := {}
  /-- The steps that each client still has to take. -/
  clients : List (List LockStep) := []
  acquisitions : List Acquisition := []
  /-- How many callbacks ran and were not unlocked. -/
  running : Nat := 0
  /-- The requests in the order in which they were made. -/
  joined : List LockRequest := []
  /-- The requests in the order in which they took the lock. -/
  taken : List LockRequest := []
  /-- The tickets that were left behind before their turn. -/
  left : List Nat := []

inductive Move where
  | begin (steps : List LockStep)
  | step (client : Nat)
  | create
  | poll (acquisition : Nat)
  /-- Drops the future or the guard. A callback that gets the lock runs as a new client. -/
  | drop (acquisition : Nat)

namespace Crowd

def see (c : Crowd) (out : Lock × Option (String × List LockStep)) : Crowd :=
  { c with
    lock := out.1
    running := c.running + out.2.toList.length
    taken := c.taken ++ c.lock.takers out }

/-- The steps of the callback that a step started. -/
def started (out : Lock × Option (String × List LockStep)) : List LockStep :=
  (out.2.map Prod.snd).getD []

/-- The crowd after a move, if it is one that can be made. -/
def move (c : Crowd) : Move → Option Crowd
  | .begin steps => some { c with clients := c.clients ++ [steps] }
  | .step i =>
    match c.clients[i]? with
    | none | some [] => none
    | some (.lock label body :: rest) =>
      let out := c.lock.perform (.lock label body)
      some { c.see out with
        joined := c.joined ++ [.callback label body]
        clients := c.clients.set i (started out ++ rest) }
    | some (.unlock :: rest) =>
      if c.running = 0 then none
      else
        let out := c.lock.perform .unlock
        some { { c with running := c.running - 1 }.see out with
          clients := c.clients.set i (started out ++ rest) }
  | .create => some { c with acquisitions := c.acquisitions ++ [.created] }
  | .poll k =>
    c.acquisitions[k]?.map fun a =>
      let (lock, seen) := a.poll c.lock
      { c.see (lock, none) with
        acquisitions := c.acquisitions.set k seen
        joined := c.joined ++ a.joining c.lock }
  | .drop k =>
    c.acquisitions[k]?.map fun a =>
      let out := a.leave c.lock
      { c.see out with
        acquisitions := c.acquisitions.eraseIdx k
        clients := c.clients ++ [started out]
        left := c.left ++ a.pending c.lock }

def run : Crowd → List Move → Option Crowd
  | c, [] => some c
  | c, m :: rest => (c.move m).bind (·.run rest)

/-- The labels of the callbacks that ran. -/
def labels (c : Crowd) : List String := c.taken.filterMap (·.label?)

/-- Those who have the lock: callbacks, guards, and grants that were not looked at. -/
def holders (c : Crowd) : Nat := c.running + c.acquisitions.countP (·.holds c.lock)

-- ---------------------------------------------------------------------------
-- What a move can be
-- ---------------------------------------------------------------------------

inductive Moved (c : Crowd) : Crowd → Prop
  | begun (clients) : Moved c { c with clients }
  | locked (label body clients) :
      Moved c { c.see (c.lock.perform (.lock label body)) with
        joined := c.joined ++ [.callback label body], clients }
  | unlocked (clients) : 0 < c.running →
      Moved c { { c with running := c.running - 1 }.see (c.lock.perform .unlock) with clients }
  | created : Moved c { c with acquisitions := c.acquisitions ++ [.created] }
  | polled {k a} : c.acquisitions[k]? = some a →
      Moved c { c.see ((a.poll c.lock).1, none) with
        acquisitions := c.acquisitions.set k (a.poll c.lock).2
        joined := c.joined ++ a.joining c.lock }
  | dropped {k a} (clients) : c.acquisitions[k]? = some a →
      Moved c { c.see (a.leave c.lock) with
        acquisitions := c.acquisitions.eraseIdx k, clients
        left := c.left ++ a.pending c.lock }

theorem moved_of_move {c c' : Crowd} (h : c.move m = some c') : Moved c c' := by
  cases m with
  | begin steps =>
    cases h
    exact .begun _
  | create =>
    cases h
    exact .created
  | poll k =>
    obtain ⟨a, ha, rfl⟩ := Option.map_eq_some_iff.mp h
    exact .polled ha
  | drop k =>
    obtain ⟨a, ha, rfl⟩ := Option.map_eq_some_iff.mp h
    exact .dropped _ ha
  | step i =>
    simp only [move] at h
    split at h
    · cases h
    · cases h
    · cases h
      exact .locked _ _ _
    · split at h
      · cases h
      · cases h
        exact .unlocked _ (by omega)

theorem move_step {c c' : Crowd} (mine : c.clients[i]? = some steps)
    (h : c.move (.step i) = some c') :
    ∃ step rest, steps = step :: rest ∧ c'.lock = (c.lock.perform step).1 ∧
      c'.clients[i]? = some (started (c.lock.perform step) ++ rest) ∧
      c'.labels = c.labels ++ (c.lock.perform step).2.toList.map Prod.fst := by
  have bound := (List.getElem?_eq_some_iff.mp mine).1
  have called : ∀ out, (c.lock.takers out).filterMap (·.label?) = out.2.toList.map Prod.fst := by
    rintro ⟨l, _ | _⟩ <;> simp [takers, LockRequest.label?]
  rw [move, mine] at h
  cases steps with
  | nil => cases h
  | cons step rest =>
    refine ⟨step, rest, rfl, ?_⟩
    cases step with
    | lock label body =>
      cases h
      simp [see, labels, bound, called]
    | unlock =>
      dsimp only at h
      split at h
      · cases h
      · cases h
        simp [see, labels, bound, called]

/-- A client whom nobody disturbs does what running its steps at one go does. -/
theorem run_alone {c c' : Crowd} (mine : c.clients[i]? = some steps)
    (ran : c.run (List.replicate k (.step i)) = some c') (ended : c'.clients[i]? = some []) :
    c'.lock = (c.lock.run steps).1 ∧ c'.labels = c.labels ++ (c.lock.run steps).2 := by
  induction k generalizing c steps with
  | zero =>
    cases ran
    obtain rfl : steps = [] := Option.some.inj (mine.symm.trans ended)
    simp [run_nil]
  | succ k ih =>
    obtain ⟨next, moved, ran⟩ := Option.bind_eq_some_iff.mp ran
    obtain ⟨step, rest, rfl, lock, clients, labels⟩ := move_step mine moved
    obtain ⟨final, all⟩ := ih clients ran
    rw [run_cons, final, all, lock, labels]
    cases c.lock.perform step with
    | mk l out => cases out <;> simp [finish, started]

/-- What every move keeps holds after every run. -/
theorem run_induction {P : Crowd → Prop} (keeps : ∀ {c c'}, P c → Moved c c' → P c')
    {c c' : Crowd} (start : P c) (ran : c.run moves = some c') : P c' := by
  induction moves generalizing c with
  | nil =>
    cases ran
    exact start
  | cons m rest ih =>
    obtain ⟨next, moved, ran⟩ := Option.bind_eq_some_iff.mp ran
    exact ih (keeps start (moved_of_move moved)) ran

end Crowd

-- ---------------------------------------------------------------------------
-- Who has the lock
-- ---------------------------------------------------------------------------

variable {l : Lock} {tickets : List TicketState} {queue : List LockRequest}
  {out : Lock × Option (String × List LockStep)} {acquisitions : List Acquisition}

theorem getElem?_drawn {state s : TicketState} :
    (tickets ++ [s])[n]? = some state ↔
      tickets[n]? = some state ∨ n = tickets.length ∧ s = state := by
  rw [List.getElem?_append]
  split
  · rw [or_iff_left (by omega)]
  · rename_i out
    rw [List.getElem?_eq_none (Nat.not_lt.mp out), List.getElem?_singleton]
    by_cases last : n = tickets.length
    · simp [last]
    · simp [last, show n - tickets.length ≠ 0 by omega]

theorem getElem?_marked {state s : TicketState} (bound : n < tickets.length) :
    (tickets.set n s)[k]? = some state ↔
      k ≠ n ∧ tickets[k]? = some state ∨ k = n ∧ s = state := by
  by_cases same : n = k
  · subst same
    simp [bound]
  · simp [same, Ne.symm same]

/-- A lock that this many callbacks hold, and this ticket. -/
structure HeldBy (l : Lock) (running : Nat) (grant : Option Nat) : Prop where
  granted : ∀ n, l.tickets[n]? = some .granted ↔ grant = some n
  holders : running + grant.toList.length = if l.locked then 1 else 0
  free : l.locked = false → l.queue = []

theorem HandedOver.heldBy (h : HandedOver tickets queue out)
    (ungranted : ∀ n : Nat, tickets[n]? ≠ some .granted) :
    ∃ grant, HeldBy out.1 out.2.toList.length grant := by
  cases h with
  | freed => exact ⟨none, by simpa using ungranted, rfl, fun _ => rfl⟩
  | called => exact ⟨none, by simpa using ungranted, rfl, by simp⟩
  | @granted _ n _ _ _ waits =>
    refine ⟨some n, fun k => ?_, rfl, by simp⟩
    rw [getElem?_marked (List.getElem?_eq_some_iff.mp waits).1]
    simp [ungranted, eq_comm (a := k)]

theorem HeldBy.lock (h : HeldBy l running grant) (label : String) (body : List LockStep) :
    HeldBy (l.perform (.lock label body)).1
      (running + (l.perform (.lock label body)).2.toList.length) grant := by
  have holders := h.holders
  cases locked : l.locked with
  | true => exact ⟨by simpa [perform, locked] using h.granted,
      by simpa [perform, locked] using holders, by simp [perform, locked]⟩
  | false =>
    refine ⟨by simpa [perform, locked] using h.granted, ?_, by simp [perform, locked]⟩
    simp only [locked, perform, Bool.false_eq_true, if_false, if_true, Option.toList_some,
      List.length_singleton] at holders ⊢
    omega

/-- No callback runs while a ticket has the lock. -/
theorem HeldBy.idle (h : HeldBy l running (some n)) : running = 0 := by
  have holders := h.holders
  simp only [Option.toList_some, List.length_singleton] at holders
  split at holders <;> omega

theorem HeldBy.unlock (h : HeldBy l running grant) (runs : 0 < running) :
    ∃ grant', HeldBy (l.perform .unlock).1
      (running - 1 + (l.perform .unlock).2.toList.length) grant' := by
  have last : running - 1 = 0 := by
    have holders := h.holders
    split at holders <;> omega
  obtain rfl : grant = none := by
    cases grant with
    | none => rfl
    | some n => exact absurd h.idle (Nat.ne_of_gt runs)
  rw [last, Nat.zero_add]
  exact (passOn_handedOver _ _).heldBy (by simpa using h.granted)

theorem HeldBy.drawTicket (h : HeldBy l running grant) :
    ∃ grant', HeldBy l.drawTicket.1 running grant' := by
  have holders := h.holders
  cases locked : l.locked with
  | true =>
    refine ⟨grant, fun n => ?_, by simpa [Lock.drawTicket, locked] using holders,
      by simp [Lock.drawTicket, locked]⟩
    simp [Lock.drawTicket, locked, getElem?_drawn, h.granted n]
  | false =>
    have free : running = 0 ∧ grant.toList.length = 0 := by
      simp only [locked, Bool.false_eq_true, if_false] at holders
      omega
    obtain rfl : grant = none := by simpa using free.2
    refine ⟨some l.tickets.length, fun n => ?_, by simp [Lock.drawTicket, locked, free.1],
      by simp [Lock.drawTicket, locked]⟩
    simp [Lock.drawTicket, locked, getElem?_drawn, h.granted n, eq_comm (a := n)]

theorem HeldBy.poll (h : HeldBy l running grant) (a : Acquisition) :
    ∃ grant', HeldBy (a.poll l).1 running grant' := by
  cases a with
  | created => exact h.drawTicket
  | queued n => exact ⟨grant, h⟩
  | held n => exact ⟨grant, h⟩

/-- A ticket that was granted gives the lock back, another one just goes. -/
theorem HeldBy.leave (h : HeldBy l running grant) (bound : n < l.tickets.length) :
    ∃ grant', HeldBy (l.leave n).1 (running + (l.leave n).2.toList.length) grant' := by
  cases granted : l.isGranted n with
  | false =>
    simp only [Lock.leave, granted, Bool.false_eq_true, if_false]
    refine ⟨grant, fun k => ?_, h.holders, h.free⟩
    have other : grant ≠ some n := by
      intro held
      simp [isGranted_iff.mpr ((h.granted n).mpr held)] at granted
    rw [getElem?_marked bound, h.granted k]
    simpa using fun held same => other (held.trans (congrArg some same))
  | true =>
    obtain rfl := (h.granted n).mp (isGranted_iff.mp granted)
    simp only [Lock.leave, granted, if_true, h.idle, Nat.zero_add]
    refine (passOn_handedOver _ _).heldBy fun k held => ?_
    rw [getElem?_marked bound, h.granted k] at held
    simp [eq_comm] at held

theorem HeldBy.drop (h : HeldBy l running grant) (a : Acquisition)
    (bound : ∀ n ∈ a.ticket?, n < l.tickets.length) :
    ∃ grant', HeldBy (a.leave l).1 (running + (a.leave l).2.toList.length) grant' := by
  cases a with
  | created => exact ⟨grant, h⟩
  | queued n => exact h.leave (bound n rfl)
  | held n => exact h.leave (bound n rfl)

-- ---------------------------------------------------------------------------
-- Whose the tickets are
-- ---------------------------------------------------------------------------

/-- Every ticket that was not left behind is one acquisition's. -/
structure Owned (tickets : List TicketState) (acquisitions : List Acquisition) : Prop where
  nodup : (acquisitions.filterMap (·.ticket?)).Nodup
  held : ∀ n, .held n ∈ acquisitions → tickets[n]? = some .granted
  owner : ∀ n, n ∈ acquisitions.filterMap (·.ticket?) ↔
    tickets[n]? = some .waiting ∨ tickets[n]? = some .granted

theorem Owned.perm (h : Owned tickets acquisitions) (same : acquisitions.Perm others) :
    Owned tickets others where
  nodup := (same.filterMap _).nodup_iff.mp h.nodup
  held n mem := h.held n (same.mem_iff.mpr mem)
  owner n := (same.filterMap _).mem_iff.symm.trans (h.owner n)

theorem Owned.lt_length (h : Owned tickets acquisitions)
    (mem : n ∈ acquisitions.filterMap (·.ticket?)) : n < tickets.length := by
  rcases (h.owner n).mp mem with found | found <;> exact (List.getElem?_eq_some_iff.mp found).1

theorem Owned.set_granted (h : Owned tickets acquisitions) (waits : tickets[n]? = some .waiting) :
    Owned (tickets.set n .granted) acquisitions := by
  have bound := (List.getElem?_eq_some_iff.mp waits).1
  refine ⟨h.nodup, fun k mem => ?_, fun k => (h.owner k).trans ?_⟩
  · have held := h.held k mem
    rw [getElem?_marked bound]
    refine .inl ⟨?_, held⟩
    rintro rfl
    simp [waits] at held
  · simp only [getElem?_marked bound]
    by_cases same : k = n
    · simp [same, waits]
    · simp [same]

theorem Owned.handedOver (h : Owned tickets acquisitions) (handed : HandedOver tickets queue out) :
    Owned out.1.tickets acquisitions := by
  cases handed with
  | freed => exact h
  | called => exact h
  | granted _ _ waits => exact h.set_granted waits

theorem Owned.perform (h : Owned l.tickets acquisitions) (step : LockStep) :
    Owned (l.perform step).1.tickets acquisitions := by
  cases step with
  | lock label body =>
    simp only [Lock.perform]
    split <;> exact h
  | unlock => exact h.handedOver (passOn_handedOver _ _)

theorem Owned.draw (h : Owned tickets acquisitions)
    (shown : a = .queued tickets.length ∧ state = .waiting ∨
      a = .held tickets.length ∧ state = .granted) :
    Owned (tickets ++ [state]) (a :: acquisitions) := by
  have ticket : a.ticket? = some tickets.length := by
    rcases shown with ⟨rfl, -⟩ | ⟨rfl, -⟩ <;> rfl
  refine ⟨?_, fun n mem => ?_, fun n => ?_⟩
  · rw [List.filterMap_cons_some ticket]
    exact List.nodup_cons.mpr ⟨fun mem => absurd (h.lt_length mem) (Nat.lt_irrefl _), h.nodup⟩
  · rw [getElem?_drawn]
    rcases List.mem_cons.mp mem with rfl | mem
    · right
      simpa using shown
    · exact .inl (h.held n mem)
  · rw [List.filterMap_cons_some ticket, List.mem_cons, h.owner n]
    simp only [getElem?_drawn]
    rcases shown with ⟨-, rfl⟩ | ⟨-, rfl⟩ <;> simp <;> tauto

theorem Owned.poll (h : Owned l.tickets (a :: acquisitions)) :
    Owned (a.poll l).1.tickets ((a.poll l).2 :: acquisitions) := by
  cases a with
  | created =>
    have rest : Owned l.tickets acquisitions :=
      ⟨h.nodup, fun n mem => h.held n (List.mem_cons_of_mem _ mem), h.owner⟩
    cases locked : l.locked with
    | true =>
      simpa [Acquisition.poll, Lock.drawTicket, locked, isGranted] using rest.draw (.inl ⟨rfl, rfl⟩)
    | false =>
      simpa [Acquisition.poll, Lock.drawTicket, locked, isGranted] using rest.draw (.inr ⟨rfl, rfl⟩)
  | held n => exact h
  | queued n =>
    simp only [Acquisition.poll]
    split
    · rename_i granted
      refine ⟨h.nodup, fun k mem => ?_, h.owner⟩
      rcases List.mem_cons.mp mem with same | mem
      · cases same
        exact isGranted_iff.mp granted
      · exact h.held k (List.mem_cons_of_mem _ mem)
    · exact h

theorem Owned.without (h : Owned tickets (a :: acquisitions)) (ticket : a.ticket? = some n) :
    Owned (tickets.set n .abandoned) acquisitions := by
  have nodup := h.nodup
  rw [List.filterMap_cons_some ticket] at nodup
  obtain ⟨fresh, nodup⟩ := List.nodup_cons.mp nodup
  have mine : n ∈ (a :: acquisitions).filterMap (·.ticket?) := by
    simp [List.filterMap_cons_some ticket]
  have bound := h.lt_length mine
  have owned : ∀ k, k ∈ acquisitions.filterMap (·.ticket?) ↔
      k ≠ n ∧ k ∈ (a :: acquisitions).filterMap (·.ticket?) := by
    intro k
    rw [List.filterMap_cons_some ticket, List.mem_cons]
    constructor
    · intro mem
      exact ⟨fun same => fresh (same ▸ mem), .inr mem⟩
    · rintro ⟨ne, same | mem⟩
      · exact absurd same ne
      · exact mem
  refine ⟨nodup, fun k mem => ?_, fun k => ?_⟩
  · rw [getElem?_marked bound]
    refine .inl ⟨?_, h.held k (List.mem_cons_of_mem _ mem)⟩
    rintro rfl
    exact fresh (List.mem_filterMap.mpr ⟨_, mem, rfl⟩)
  · rw [owned k, h.owner k]
    simp [getElem?_marked bound, and_or_left]

theorem Owned.leave (h : Owned l.tickets (a :: acquisitions)) :
    Owned (a.leave l).1.tickets acquisitions := by
  have goes : ∀ n, a.ticket? = some n → Owned (l.leave n).1.tickets acquisitions := by
    intro n ticket
    have rest : Owned (l.tickets.set n .abandoned) acquisitions := h.without ticket
    simp only [Lock.leave]
    split
    · exact rest.perform .unlock
    · exact rest
  cases a with
  | created => exact ⟨h.nodup, fun n mem => h.held n (List.mem_cons_of_mem _ mem), h.owner⟩
  | queued n => exact goes n rfl
  | held n => exact goes n rfl

/-- The acquisitions that have the lock are those whose ticket is granted. -/
theorem Owned.countP_holds (owned : Owned l.tickets acquisitions)
    (held : HeldBy l running grant) :
    acquisitions.countP (·.holds l) = grant.toList.length := by
  have granted : acquisitions.countP (·.holds l)
      = (acquisitions.filterMap (·.ticket?)).countP l.isGranted := by
    rw [List.countP_filterMap]
    refine List.countP_congr fun a mem => ?_
    cases a with
    | created => simp [Acquisition.holds, Acquisition.ticket?]
    | queued n => simp [Acquisition.holds, Acquisition.ticket?]
    | held n =>
      simp [Acquisition.holds, Acquisition.ticket?, isGranted_iff.mpr (owned.held n mem)]
  rw [granted]
  cases grant with
  | none =>
    refine List.countP_eq_zero.mpr fun n _ isGranted => ?_
    simpa using (held.granted n).mp (isGranted_iff.mp isGranted)
  | some n =>
    have mine : n ∈ acquisitions.filterMap (·.ticket?) :=
      (owned.owner n).mpr (.inr ((held.granted n).mpr rfl))
    calc (acquisitions.filterMap (·.ticket?)).countP l.isGranted
        = (acquisitions.filterMap (·.ticket?)).count n := by
          refine List.countP_congr fun k _ => ?_
          rw [isGranted_iff, held.granted k]
          simp [eq_comm (a := k)]
      _ = 1 := (owned.nodup.count (a := n)).trans (if_pos mine)

-- ---------------------------------------------------------------------------
-- Every run
-- ---------------------------------------------------------------------------

namespace Crowd

/-- What every move keeps. -/
structure Orderly (c : Crowd) : Prop where
  held : ∃ grant, HeldBy c.lock c.running grant
  owned : Owned c.lock.tickets c.acquisitions

theorem orderly_empty : Orderly {} where
  held := ⟨none, by simp, rfl, fun _ => rfl⟩
  owned := ⟨.nil, by simp, by simp⟩

theorem Orderly.moved {c c' : Crowd} (h : Orderly c) (moved : Moved c c') : Orderly c' := by
  obtain ⟨grant, held⟩ := h.held
  cases moved with
  | begun => exact ⟨⟨grant, held⟩, h.owned⟩
  | locked label body => exact ⟨⟨grant, held.lock label body⟩, h.owned.perform _⟩
  | unlocked _ runs => exact ⟨held.unlock runs, h.owned.perform _⟩
  | created =>
    refine ⟨⟨grant, held⟩, ?_⟩
    have last : (Acquisition.created :: c.acquisitions).Perm (c.acquisitions ++ [.created]) :=
      (List.perm_append_singleton _ _).symm
    have new : Owned c.lock.tickets (.created :: c.acquisitions) :=
      ⟨h.owned.nodup, by simpa using h.owned.held, h.owned.owner⟩
    exact new.perm last
  | @polled k a found =>
    obtain ⟨bound, rfl⟩ := List.getElem?_eq_some_iff.mp found
    refine ⟨held.poll _, ?_⟩
    have first := h.owned.perm (List.getElem_cons_eraseIdx_perm bound).symm
    exact first.poll.perm (List.set_perm_cons_eraseIdx bound _).symm
  | @dropped k a _ found =>
    obtain ⟨bound, rfl⟩ := List.getElem?_eq_some_iff.mp found
    have first := h.owned.perm (List.getElem_cons_eraseIdx_perm bound).symm
    refine ⟨held.drop _ fun n ticket => ?_, first.leave⟩
    exact first.lt_length (by rw [List.filterMap_cons_some ticket]; exact List.mem_cons_self)

theorem Orderly.holders (h : Orderly c) : c.holders = if c.lock.locked then 1 else 0 := by
  obtain ⟨grant, held⟩ := h.held
  rw [Crowd.holders, h.owned.countP_holds held, held.holders]

theorem Orderly.nobody_waits (h : Orderly c) (unlocked : c.lock.locked = false) : c.lock.queue = [] := by
  obtain ⟨grant, held⟩ := h.held
  exact held.free unlocked

theorem run_orderly (ran : run {} moves = some c) : Orderly c :=
  run_induction Orderly.moved orderly_empty ran

/-- Mutual exclusion, and no lock without a holder: after every run the lock has one holder if it
says that it is locked and none otherwise, nobody waits for a lock that is free, and it is free
once all callbacks were unlocked and every acquisition is gone or was never looked at. -/
theorem run_exclusive (ran : run {} moves = some c) :
    c.holders = (if c.lock.locked then 1 else 0) ∧
      (c.lock.locked = false → c.lock.queue = []) ∧
      (c.running = 0 → (∀ a ∈ c.acquisitions, a.ticket? = none) →
        c.lock.locked = false ∧ c.lock.queue = []) := by
  have orderly := run_orderly ran
  refine ⟨orderly.holders, orderly.nobody_waits, fun idle gone => ?_⟩
  have none : c.acquisitions.countP (·.holds c.lock) = 0 := by
    refine List.countP_eq_zero.mpr fun a mem => ?_
    cases a with
    | created => simp [Acquisition.holds]
    | queued n => simpa [Acquisition.ticket?] using gone _ mem
    | held n => simpa [Acquisition.ticket?] using gone _ mem
  have unlocked : c.lock.locked = false := by
    have holders := orderly.holders
    rw [Crowd.holders, idle, none] at holders
    cases locked : c.lock.locked with
    | false => rfl
    | true => simp [locked] at holders
  exact ⟨unlocked, orderly.nobody_waits unlocked⟩

/-- A callback asks for the lock again and unlocks, which grants a ticket that is then dropped
unseen: the lock goes on to the callback behind it, and is free when that one unlocks. -/
theorem run_exclusive_unseen :
    let nested : List LockStep := [.lock "outer" [.lock "inner" [.unlock], .unlock]]
    let moves : List Move := [.begin nested, .step 0, .create, .poll 0, .step 0, .step 0]
    ∃ granted passed freed,
      run {} moves = some granted ∧ granted.running = 0 ∧ granted.holders = 1 ∧
      run {} (moves ++ [.drop 0]) = some passed ∧ passed.running = 1 ∧ passed.holders = 1 ∧
      run {} (moves ++ [.drop 0, .step 1]) = some freed ∧ freed.lock.locked = false := by
  intro nested moves
  have granted : run {} moves = some _ := rfl
  have passed : run {} (moves ++ [.drop 0]) = some _ := rfl
  have freed : run {} (moves ++ [.drop 0, .step 1]) = some _ := rfl
  have gone : ∀ a ∈ ([] : List Acquisition), a.ticket? = none := by simp
  exact ⟨_, _, _, granted, rfl, (run_exclusive granted).1, passed, rfl, (run_exclusive passed).1,
    freed, ((run_exclusive freed).2.2 rfl gone).1⟩

end Crowd

end Lock

end DocStore
