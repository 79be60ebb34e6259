import DocStore.Proofs.Lock.Crowd

/-!
# The order in which a lock is taken

Requests take the lock in the order in which they were made. Those whose owner left before their
turn are passed over, all of them up to the next live one in a single unlock.
-/

namespace DocStore

/-- A request that nobody left behind. -/
def LockRequest.stays (left : List Nat) : LockRequest → Bool
  | .callback _ _ => true
  | .ticket n => !left.contains n

def LockRequest.ticket? : LockRequest → Option Nat
  | .callback _ _ => none
  | .ticket n => some n

namespace Lock

variable {l old new : Lock} {tickets : List TicketState} {queue passed joined taken : List LockRequest}
  {out : Lock × Option (String × List LockStep)} {left : List Nat}

-- ---------------------------------------------------------------------------
-- Who is seen to take the lock
-- ---------------------------------------------------------------------------

theorem granting_eq_nil (kept : ∀ k, new.isGranted k = true → old.isGranted k = true) :
    old.granting new = [] := by
  refine List.filter_eq_nil_iff.mpr fun k _ both => ?_
  simp only [Bool.and_eq_true, Bool.not_eq_true'] at both
  simp [kept k both.1] at both

theorem granting_eq_singleton (now : new.isGranted n = true) (before : old.isGranted n = false)
    (kept : ∀ k, k ≠ n → new.isGranted k = true → old.isGranted k = true) :
    old.granting new = [n] := by
  have only : ∀ k, (new.isGranted k && !old.isGranted k) = (k == n) := by
    intro k
    by_cases same : k = n
    · simp [same, now, before]
    · cases granted : new.isGranted k with
      | false => simp [same]
      | true => simp [same, kept k same granted]
  have bound : n < new.tickets.length := (List.getElem?_eq_some_iff.mp (isGranted_iff.mp now)).1
  simp only [granting, only, List.filter_beq]
  rw [List.nodup_range.count, if_pos (List.mem_range.mpr bound), List.replicate_one]

-- ---------------------------------------------------------------------------
-- Requests in line
-- ---------------------------------------------------------------------------

/-- The requests that joined are those that were passed and those in the queue. Of the first ones
all that stayed have taken the lock, in order. -/
structure InTurn (l : Lock) (passed joined taken : List LockRequest) (left : List Nat) : Prop where
  joined_eq : joined = passed ++ l.queue
  taken_eq : taken = passed.filter (·.stays left)
  past : ∀ n, .ticket n ∈ passed → l.tickets[n]? ≠ some .waiting
  queued : ∀ n, .ticket n ∈ l.queue → l.tickets[n]? = some .waiting ∨ n ∈ left
  drawn : joined.filterMap (·.ticket?) = List.range l.tickets.length
  gone : ∀ n ∈ left, l.tickets[n]? = some .abandoned

/-- Those who are passed over have left. -/
theorem InTurn.skipped (h : InTurn l passed joined taken left) {front : List LockRequest}
    (sub : front ⊆ l.queue) (dead : ∀ r ∈ front, r.isLive l.tickets = false) :
    front.filter (·.stays left) = [] := by
  refine List.filter_eq_nil_iff.mpr fun r mem => ?_
  have dead := dead r mem
  cases r with
  | callback label body => cases dead
  | ticket n =>
    rcases h.queued n (sub mem) with waits | left
    · simp [LockRequest.isLive, waits] at dead
    · simpa [LockRequest.stays] using left

theorem InTurn.not_left (h : InTurn l passed joined taken left)
    (waits : l.tickets[n]? = some .waiting) : n ∉ left := by
  intro mem
  simp [h.gone n mem] at waits

theorem InTurn.not_waiting (h : InTurn l passed joined taken left) {front : List LockRequest}
    (dead : ∀ r ∈ front, r.isLive l.tickets = false) :
    ∀ n, .ticket n ∈ passed ++ front → l.tickets[n]? ≠ some .waiting := by
  intro n mem waits
  rcases List.mem_append.mp mem with mem | mem
  · exact h.past n mem waits
  · simpa [LockRequest.isLive, waits] using dead _ mem

theorem InTurn.lt_length (h : InTurn l passed joined taken left) (mem : .ticket n ∈ joined) :
    n < l.tickets.length := by
  refine List.mem_range.mp (h.drawn ▸ ?_)
  exact List.mem_filterMap.mpr ⟨_, mem, rfl⟩

/-- A ticket is in the line once. -/
theorem InTurn.alone (h : InTurn l passed joined taken left)
    (split : l.queue = front ++ .ticket n :: rest) : .ticket n ∉ rest := by
  intro mem
  have nodup : (joined.filterMap (·.ticket?)).Nodup := h.drawn ▸ List.nodup_range
  have cons : (.ticket n :: rest).filterMap (·.ticket?) = n :: rest.filterMap (·.ticket?) := rfl
  rw [h.joined_eq, split, List.filterMap_append, List.filterMap_append, cons] at nodup
  have last := (List.nodup_append.mp (List.nodup_append.mp nodup).2.1).2.1
  exact (List.nodup_cons.mp last).1 (List.mem_filterMap.mpr ⟨_, mem, rfl⟩)

/-- The first request that is not passed over is the next to take the lock. -/
theorem InTurn.served (h : InTurn l passed joined taken left) {front rest : List LockRequest}
    {r : LockRequest} (split : l.queue = front ++ r :: rest)
    (dead : ∀ r ∈ front, r.isLive l.tickets = false) (stays : r.stays left = true) :
    joined = passed ++ front ++ [r] ++ rest ∧
      taken ++ [r] = (passed ++ front ++ [r]).filter (·.stays left) := by
  have skipped := h.skipped (split ▸ List.subset_append_left _ _) dead
  refine ⟨by simp [h.joined_eq, split], ?_⟩
  rw [List.filter_append, List.filter_append, skipped, List.filter_cons_of_pos stays]
  simp [h.taken_eq]

/-- A hand-over passes those who left and the one that takes the lock. What the lock granted before
the step is compared with the lock that the step began with. -/
theorem InTurn.handedOver (h : InTurn l passed joined taken left)
    (handed : HandedOver l.tickets l.queue out)
    (granted : ∀ k, l.isGranted k = true → old.isGranted k = true)
    (waiting : ∀ k, l.tickets[k]? = some .waiting → old.isGranted k = false) :
    ∃ passed', InTurn out.1 passed' joined (taken ++ old.takers out) left := by
  cases handed with
  | freed dead =>
    have nobody : old.granting { tickets := l.tickets } = [] := granting_eq_nil granted
    have skipped := h.skipped (fun _ mem => mem) dead
    refine ⟨passed ++ l.queue, by simpa using h.joined_eq, ?_, h.not_waiting dead, by simp,
      h.drawn, h.gone⟩
    simp [takers, nobody, h.taken_eq, skipped]
  | @called front label body rest split dead =>
    have nobody : old.granting ⟨true, rest, l.tickets⟩ = [] := granting_eq_nil granted
    obtain ⟨joined_eq, taken_eq⟩ := h.served split dead rfl
    refine ⟨_, joined_eq, by simpa [takers, nobody] using taken_eq, ?_, ?_, h.drawn, h.gone⟩
    · intro n mem
      exact h.not_waiting dead n (by simpa using mem)
    · intro n mem
      exact h.queued n (split ▸ List.mem_append_right _ (List.mem_cons_of_mem _ mem))
  | @granted front n rest split dead waits =>
    have bound := (List.getElem?_eq_some_iff.mp waits).1
    have one : old.granting ⟨true, rest, l.tickets.set n .granted⟩ = [n] := by
      refine granting_eq_singleton (by simp [isGranted, bound]) (waiting n waits) fun k ne now => ?_
      exact granted k (by simpa [isGranted, List.getElem?_set_ne (Ne.symm ne)] using now)
    obtain ⟨joined_eq, taken_eq⟩ := h.served split dead
      (by simpa [LockRequest.stays] using h.not_left waits)
    refine ⟨_, joined_eq, by simpa [takers, one] using taken_eq, ?_, ?_, by simpa using h.drawn, ?_⟩
    · intro k mem
      rw [ne_eq, getElem?_marked bound]
      rintro (⟨ne, still⟩ | ⟨-, same⟩)
      · exact h.not_waiting dead k (by simpa [ne] using mem) still
      · cases same
    · intro k mem
      have ne : k ≠ n := by
        rintro rfl
        exact h.alone split mem
      rw [getElem?_marked bound]
      refine (h.queued k ?_).imp (.inl ⟨ne, ·⟩) id
      exact split ▸ List.mem_append_right _ (List.mem_cons_of_mem _ mem)
    · intro k left
      rw [getElem?_marked bound]
      refine .inl ⟨?_, h.gone k left⟩
      rintro rfl
      exact h.not_left waits left

-- ---------------------------------------------------------------------------
-- Joining and leaving
-- ---------------------------------------------------------------------------

/-- A callback joins the line, or takes the lock at once if nobody has it. -/
theorem InTurn.lock (h : InTurn l passed joined taken left)
    (free : l.locked = false → l.queue = []) (label : String) (body : List LockStep) :
    ∃ passed', InTurn (l.perform (.lock label body)).1 passed'
      (joined ++ [.callback label body])
      (taken ++ l.takers (l.perform (.lock label body))) left := by
  have nobody : ∀ queue, l.granting ⟨true, queue, l.tickets⟩ = [] := fun _ =>
    granting_eq_nil fun _ now => now
  have drawn : (joined ++ [LockRequest.callback label body]).filterMap (·.ticket?)
      = List.range l.tickets.length := by
    simpa [LockRequest.ticket?] using h.drawn
  cases locked : l.locked with
  | true =>
    simp only [perform, locked, if_true]
    exact ⟨passed, by simp [h.joined_eq], by simpa [takers, nobody] using h.taken_eq, h.past,
      by simpa using h.queued, drawn, h.gone⟩
  | false =>
    simp only [perform, locked, Bool.false_eq_true, if_false]
    refine ⟨passed ++ [.callback label body], by simp [h.joined_eq, free locked], ?_,
      by simpa using h.past, h.queued, drawn, h.gone⟩
    simp [takers, nobody, h.taken_eq, LockRequest.stays]

/-- A ticket joins the line, or takes the lock at once if nobody has it. -/
theorem InTurn.drawTicket (h : InTurn l passed joined taken left)
    (free : l.locked = false → l.queue = []) :
    ∃ passed', InTurn l.drawTicket.1 passed' (joined ++ [.ticket l.tickets.length])
      (taken ++ l.takers (l.drawTicket.1, none)) left := by
  have drawn : ∀ s : TicketState,
      (joined ++ [LockRequest.ticket l.tickets.length]).filterMap (·.ticket?)
        = List.range (l.tickets ++ [s]).length := by
    intro s
    rw [List.filterMap_append, h.drawn]
    simp [LockRequest.ticket?, List.range_succ]
  have gone : ∀ s : TicketState, ∀ n ∈ left, (l.tickets ++ [s])[n]? = some .abandoned :=
    fun s n mem => getElem?_drawn.mpr (.inl (h.gone n mem))
  have fresh : l.tickets.length ∉ left := fun mem => by simpa using h.gone _ mem
  have past : ∀ k, .ticket k ∈ passed → k < l.tickets.length ∧ l.tickets[k]? ≠ some .waiting :=
    fun k mem => ⟨h.lt_length (by simp [h.joined_eq, mem]), h.past k mem⟩
  cases locked : l.locked with
  | true =>
    have nobody : l.granting ⟨true, l.queue ++ [.ticket l.tickets.length],
        l.tickets ++ [.waiting]⟩ = [] := by
      refine granting_eq_nil fun k now => isGranted_iff.mpr ?_
      simpa [getElem?_drawn] using isGranted_iff.mp now
    simp only [Lock.drawTicket, locked, if_true]
    refine ⟨passed, by simp [h.joined_eq], by simpa [takers, nobody] using h.taken_eq, ?_, ?_,
      drawn _, gone _⟩
    · intro k mem
      obtain ⟨bound, past⟩ := past k mem
      simp [getElem?_drawn, past, Nat.ne_of_lt bound]
    · intro k mem
      rcases List.mem_append.mp mem with mem | mem
      · exact (h.queued k mem).imp (fun waits => getElem?_drawn.mpr (.inl waits)) id
      · exact .inl (getElem?_drawn.mpr (.inr ⟨by simpa using mem, rfl⟩))
  | false =>
    have one : l.granting ⟨true, l.queue, l.tickets ++ [.granted]⟩ = [l.tickets.length] := by
      refine granting_eq_singleton (by simp [isGranted]) (by simp [isGranted]) fun k ne now => ?_
      exact isGranted_iff.mpr (by simpa [getElem?_drawn, ne] using isGranted_iff.mp now)
    simp only [Lock.drawTicket, locked, Bool.false_eq_true, if_false]
    refine ⟨passed ++ [.ticket l.tickets.length], by simp [h.joined_eq, free locked], ?_, ?_,
      by simp [free locked], drawn _, gone _⟩
    · simp [takers, one, h.taken_eq, LockRequest.stays, fresh]
    · intro k mem
      rw [ne_eq, getElem?_drawn]
      rintro (waits | ⟨-, same⟩)
      · rcases List.mem_append.mp mem with mem | mem
        · exact (past k mem).2 waits
        · have bound := (List.getElem?_eq_some_iff.mp waits).1
          simp at mem
          omega
      · cases same

theorem InTurn.poll (h : InTurn l passed joined taken left)
    (free : l.locked = false → l.queue = []) (a : Acquisition) :
    ∃ passed', InTurn (a.poll l).1 passed' (joined ++ a.joining l)
      (taken ++ l.takers ((a.poll l).1, none)) left := by
  have same : taken ++ l.takers (l, none) = taken := by
    simp [takers, granting_eq_nil (fun k now => now)]
  cases a with
  | created => exact h.drawTicket free
  | queued n => exact ⟨passed, by simpa [Acquisition.poll, Acquisition.joining, same] using h⟩
  | held n => exact ⟨passed, by simpa [Acquisition.poll, Acquisition.joining, same] using h⟩

/-- A ticket that still waits stays in the queue, to be passed over. -/
theorem InTurn.abandon_waiting (h : InTurn l passed joined taken left)
    (waits : l.tickets[n]? = some .waiting) :
    InTurn { l with tickets := l.tickets.set n .abandoned } passed joined taken (left ++ [n]) := by
  have bound := (List.getElem?_eq_some_iff.mp waits).1
  refine ⟨h.joined_eq, ?_, fun k mem => ?_, fun k mem => ?_, by simpa using h.drawn,
    fun k mem => ?_⟩
  · rw [h.taken_eq]
    refine List.filter_congr fun r mem => ?_
    cases r with
    | callback label body => rfl
    | ticket k =>
      have ne : k ≠ n := by
        rintro rfl
        exact h.past k mem waits
      simp [LockRequest.stays, ne]
  · rw [ne_eq, getElem?_marked bound]
    simpa using fun _ => h.past k mem
  · rw [getElem?_marked bound]
    by_cases same : k = n
    · simp [same]
    · exact (h.queued k mem).imp (.inl ⟨same, ·⟩) (List.mem_append_left _)
  · rw [getElem?_marked bound]
    by_cases same : k = n
    · exact .inr ⟨same, rfl⟩
    · exact .inl ⟨same, h.gone k (by simpa [same] using mem)⟩

/-- A ticket that was granted had its turn. -/
theorem InTurn.abandon_granted (h : InTurn l passed joined taken left)
    (granted : l.tickets[n]? = some .granted) :
    InTurn { l with tickets := l.tickets.set n .abandoned } passed joined taken left := by
  have bound := (List.getElem?_eq_some_iff.mp granted).1
  refine ⟨h.joined_eq, h.taken_eq, fun k mem => ?_, fun k mem => ?_, by simpa using h.drawn,
    fun k mem => ?_⟩
  · rw [ne_eq, getElem?_marked bound]
    simpa using fun _ => h.past k mem
  · rw [getElem?_marked bound]
    refine (h.queued k mem).imp (fun waits => .inl ⟨?_, waits⟩) id
    rintro rfl
    simp [granted] at waits
  · rw [getElem?_marked bound]
    exact (eq_or_ne k n).symm.imp (⟨·, h.gone k mem⟩) (⟨·, rfl⟩)

theorem InTurn.leave (h : InTurn l passed joined taken left)
    (owned : Owned l.tickets (a :: acquisitions)) :
    ∃ passed', InTurn (a.leave l).1 passed' joined (taken ++ l.takers (a.leave l))
      (left ++ a.pending l) := by
  have goes : ∀ n, l.isGranted n = true → ∃ passed', InTurn (l.leave n).1 passed' joined
      (taken ++ l.takers (l.leave n)) left := by
    intro n granted
    have state := isGranted_iff.mp granted
    have bound := (List.getElem?_eq_some_iff.mp state).1
    simp only [Lock.leave, granted, if_true]
    refine (h.abandon_granted state).handedOver (passOn_handedOver _ _) (fun k now => ?_)
      (fun k waits => ?_)
    · have now := (getElem?_marked bound).mp (isGranted_iff.mp now)
      exact isGranted_iff.mpr (by simpa using now : k ≠ n ∧ l.tickets[k]? = some .granted).2
    · have waits := (getElem?_marked bound).mp waits
      have waits : k ≠ n ∧ l.tickets[k]? = some .waiting := by simpa using waits
      simp [isGranted, waits.2]
  have mine : ∀ n, a.ticket? = some n → l.isGranted n = false → l.tickets[n]? = some .waiting := by
    intro n ticket ungranted
    refine ((owned.owner n).mp ?_).resolve_right fun granted => ?_
    · simp [List.filterMap_cons_some ticket]
    · simp [isGranted_iff.mpr granted] at ungranted
  cases a with
  | created =>
    refine ⟨passed, ?_⟩
    simpa [Acquisition.leave, Acquisition.pending, takers, granting_eq_nil (fun k now => now)]
      using h
  | held n =>
    have granted := isGranted_iff.mpr (owned.held n List.mem_cons_self)
    simpa [Acquisition.leave, Acquisition.pending] using goes n granted
  | queued n =>
    cases granted : l.isGranted n with
    | true => simpa [Acquisition.leave, Acquisition.pending, granted] using goes n granted
    | false =>
      have waits := mine n rfl granted
      have nobody : l.granting { l with tickets := l.tickets.set n .abandoned } = [] := by
        refine granting_eq_nil fun k now => isGranted_iff.mpr ?_
        have bound := (List.getElem?_eq_some_iff.mp waits).1
        have now := (getElem?_marked bound).mp (isGranted_iff.mp now)
        exact (by simpa using now : k ≠ n ∧ l.tickets[k]? = some .granted).2
      refine ⟨passed, ?_⟩
      simpa [Acquisition.leave, Lock.leave, Acquisition.pending, granted, takers, nobody]
        using h.abandon_waiting waits

-- ---------------------------------------------------------------------------
-- Every run
-- ---------------------------------------------------------------------------

namespace Crowd

def Queued (c : Crowd) : Prop := ∃ passed, InTurn c.lock passed c.joined c.taken c.left

theorem queued_empty : Queued {} := ⟨[], rfl, rfl, by simp, by simp, rfl, by simp⟩

theorem Queued.moved {c c' : Crowd} (h : Queued c) (orderly : Orderly c) (moved : Moved c c') :
    Queued c' := by
  obtain ⟨passed, h⟩ := h
  cases moved with
  | begun => exact ⟨passed, h⟩
  | created => exact ⟨passed, h⟩
  | locked label body => exact h.lock orderly.nobody_waits label body
  | unlocked =>
    refine h.handedOver (passOn_handedOver _ _) (fun _ now => now) fun k waits => ?_
    simp [isGranted, waits]
  | @polled k a => exact h.poll orderly.nobody_waits a
  | @dropped k a _ found =>
    obtain ⟨bound, rfl⟩ := List.getElem?_eq_some_iff.mp found
    exact h.leave (orderly.owned.perm (List.getElem_cons_eraseIdx_perm bound).symm)

theorem dropWhile_congr {p q : LockRequest → Bool} {requests : List LockRequest}
    (same : ∀ r ∈ requests, p r = q r) : requests.dropWhile p = requests.dropWhile q := by
  induction requests with
  | nil => rfl
  | cons r rest ih =>
    rw [List.dropWhile_cons, List.dropWhile_cons, same r List.mem_cons_self,
      ih fun r mem => same r (List.mem_cons_of_mem _ mem)]

theorem run_queued (ran : run {} moves = some c) : Queued c := by
  have both : Orderly c ∧ Queued c :=
    run_induction (P := fun c => Orderly c ∧ Queued c)
      (fun h moved => ⟨h.1.moved moved, h.2.moved h.1 moved⟩) ⟨orderly_empty, queued_empty⟩ ran
  exact both.2

/-- First come, first served: after every run the requests that joined are those whose turn has
come and those in the queue. The ones that took the lock are the former in their order, without
those that were left before their turn, and no ticket is drawn twice. An unlock discards all
requests in front that were left and gives the lock to the next one, or frees it. -/
theorem run_in_order (ran : run {} moves = some c) :
    (∃ passed, c.joined = passed ++ c.lock.queue ∧ c.taken = passed.filter (·.stays c.left)) ∧
      c.taken.Sublist c.joined ∧ (c.joined.filterMap (·.ticket?)).Nodup ∧
      c.lock.perform .unlock =
        match c.lock.queue.dropWhile (!·.stays c.left) with
        | [] => ({ c.lock with locked := false, queue := [] }, none)
        | .callback label body :: rest =>
          ({ c.lock with locked := true, queue := rest }, some (label, body))
        | .ticket n :: rest =>
          (⟨true, rest, c.lock.tickets.set n .granted⟩, none) := by
  obtain ⟨passed, h⟩ := run_queued ran
  have inOrder : c.taken.Sublist c.joined := by
    rw [h.joined_eq, h.taken_eq]
    exact List.filter_sublist.trans (List.sublist_append_left _ _)
  refine ⟨⟨passed, h.joined_eq, h.taken_eq⟩, inOrder, h.drawn ▸ List.nodup_range, ?_⟩
  have same : ∀ r ∈ c.lock.queue, (!r.stays c.left) = !r.isLive c.lock.tickets := by
    intro r mem
    cases r with
    | callback label body => rfl
    | ticket n =>
      rcases h.queued n mem with waits | left
      · simp [LockRequest.stays, LockRequest.isLive, waits, h.not_left waits]
      · simp [LockRequest.stays, LockRequest.isLive, left, h.gone n left]
  rw [dropWhile_congr same]
  exact passOn_eq _ _

/-- A ticket is drawn and left while a callback holds the lock: the callback behind it is next, and
then the ticket behind that one. -/
theorem run_in_order_left :
    let steps : List LockStep := [.lock "a" [], .lock "b" [], .unlock, .unlock]
    let moves : List Move := [.begin steps, .step 0, .create, .poll 0, .step 0, .create, .poll 1,
      .drop 0, .step 0, .step 0]
    ∃ c, run {} moves = some c ∧ c.left = [0] ∧
      c.joined = [.callback "a" [], .ticket 0, .callback "b" [], .ticket 1] ∧
      c.taken = [.callback "a" [], .callback "b" [], .ticket 1] ∧ c.taken.Sublist c.joined := by
  intro steps moves
  have ran : run {} moves = some {
      lock := ⟨true, [], [.abandoned, .granted]⟩
      clients := [[], []]
      acquisitions := [.queued 1]
      joined := [.callback "a" [], .ticket 0, .callback "b" [], .ticket 1]
      taken := [.callback "a" [], .callback "b" [], .ticket 1]
      left := [0] } := by
    simp only [moves, steps]
    rfl
  exact ⟨_, ran, rfl, rfl, rfl, (run_in_order ran).2.1⟩

end Crowd

end Lock

end DocStore
