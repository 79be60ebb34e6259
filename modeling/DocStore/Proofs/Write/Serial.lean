import DocStore.Proofs.Write.Ledger
import Mathlib.Data.List.Induction

/-!
# Writes are serializable

Whatever the order in which writes are looked at and dropped, and however often their hooks pause,
the collection is the one that the settled writes make when each runs on its own, in the order in
which they were looked at first; and each write that came to its end has the answer it has there.
-/

namespace DocStore.Task

-- ---------------------------------------------------------------------------
-- What a schedule comes to
-- ---------------------------------------------------------------------------

def Pool.start (m : Model) (writes : List (Source × Request)) : Pool :=
  ⟨m, writes.map fun (source, request) => .fresh source request⟩

def Turn.looked? : Turn → Option Nat
  | .poll n => some n
  | .drop _ => none

/-- The tasks of a schedule in the order in which they are looked at first. -/
def firstLooks (turns : List Turn) : List Nat := (turns.filterMap Turn.looked?).eraseDups

/-- Some time in a schedule the task is past its commit or comes to an end. -/
def Pool.settles (pool : Pool) (turns : List Turn) (n : Nat) : Bool :=
  (List.range (turns.length + 1)).any fun k =>
    ((pool.run (turns.take k)).1.tasks[n]?).any isSettled

/-- The entries of a ledger in the order in which they were made. -/
def Serialized (m₀ : Model) (writes : List (Source × Request)) (looked : List Nat) (b : Board)
    (m : Model) : Prop :=
  ∃ gone held line, gone ++ held.toList ++ line = looked ∧ Ledger m₀ writes b m gone held line

section
variable {m₀ m : Model} {writes : List (Source × Request)} {b : Board} {gone line looked : List Nat}
  {held : Option Nat} {n ticket : Nat} {task : Task} {w : Source × Request}

-- ---------------------------------------------------------------------------
-- One step
-- ---------------------------------------------------------------------------

theorem Board.put_same (ht : b.tasks[n]? = some task)
    (steady : task.isSettled = true → b.settled n = true) : b.put n task = b := by
  obtain ⟨tasks, settled⟩ := b
  obtain ⟨hn, rfl⟩ := List.getElem?_eq_some_iff.mp ht
  simp only [put, List.set_getElem_self, mk.injEq, true_and]
  funext k
  by_cases hk : k = n
  · subst hk
    cases hs : isSettled tasks[k] <;> simp_all
  · simp [hk]

theorem Board.bind_ticketOf_put (notHeld : n ∉ held.toList) :
    held.bind (b.put n task).ticketOf = held.bind b.ticketOf := by
  cases held with
  | none => rfl
  | some k =>
    refine ticketOf_put_of_ne ?_
    rintro rfl
    simp at notHeld

theorem Ledger.ticket_of_holder (h : Ledger m₀ writes b m gone (some n) line) :
    ∃ ticket, b.ticketOf n = some ticket ∧ m.lock.isGranted ticket = true := by
  obtain ⟨w, task, hw, ht, -, ⟨ticket, hticket⟩, -⟩ := h.served
  have drew : b.ticketOf n = some ticket := by simp [Board.ticketOf, ht, hticket]
  exact ⟨ticket, drew, h.lock.granted ticket (by simp [drew])⟩

theorem Ledger.hold (h : Ledger m₀ writes b m gone (some n) line) (hw : writes[n]? = some w)
    (holds : Holds (left m₀ writes b gone) next w (b.settled n || task.isSettled) task)
    (ticket : task.ticket? = b.ticketOf n) (lock : next.lock = m.lock) :
    Ledger m₀ writes (b.put n task) next gone (some n) line := by
  obtain ⟨notGone, notLine⟩ := h.apart
  refine ⟨h.put, ?_, ?_⟩
  · simp only [Served, left_put notGone]
    exact Board.Has.put_self h.served hw holds
  · rw [Board.filterMap_ticketOf_put notLine, Option.bind_some,
      Board.ticketOf_put_self h.served.inRange, ticket, lock]
    exact h.lock

theorem Ledger.release (h : Ledger m₀ writes b m gone (some n) line) (hw : writes[n]? = some w)
    (drew : b.ticketOf n = some ticket) (past : Past w (b.settled n || task.isSettled) task)
    (answer : ∀ reply, task = .done reply →
      reply = ((left m₀ writes b gone).perform w.1 w.2).result)
    (model : next = (if b.settled n || task.isSettled
      then ((left m₀ writes b gone).perform w.1 w.2).model
      else left m₀ writes b gone).withLock next.lock)
    (lock : next.lock = (m.lock.abandon ticket).1) :
    Serialized m₀ writes (gone ++ n :: line) (b.put n task) next := by
  obtain ⟨notGone, notLine⟩ := h.apart
  have put : Entries m₀ writes (b.put n task) gone (some n) line := h.toEntries.put
  have closed := put.close hw (Board.put_tasks_self h.served.inRange)
    (by rwa [Board.put_settled_self]) (by rwa [left_put notGone])
  have tickets := h.lock
  rw [Option.bind_some, drew] at tickets
  obtain ⟨gone', held, line', order, ledger⟩ := closed.handOver (m := next)
    (by rw [left_concat hw, Board.put_settled_self, left_put notGone]; exact model)
    (by rw [Board.filterMap_ticketOf_put notLine, lock]; exact tickets.abandon_holder)
  exact ⟨gone', held, line', by simpa using order, ledger⟩

theorem isSettled_poll (m : Model) (settled : task.isSettled = true) :
    (task.poll m).task.isSettled = true := by
  cases task with
  | after ticket c pending =>
    simp only [poll, goAfter]
    rcases advance_cases m ⟨ticket, c.document⟩ pending.pauses pending.hooks with
      ⟨rest, more, ha, -⟩ | ⟨more, ha, -⟩ | ⟨e, more, ha, -⟩ <;> rw [ha] <;> rfl
  | done reply => rfl
  | _ => simp [isSettled] at settled

theorem Ledger.pollHolder (h : Ledger m₀ writes b m gone (some n) line)
    (ht : b.tasks[n]? = some task) :
    Serialized m₀ writes (gone ++ n :: line) (b.put n (task.poll m).task) (task.poll m).model := by
  obtain ⟨ticket, drew, granted⟩ := h.ticket_of_holder
  obtain ⟨w, _, hw, ht', settled, -, notices, tracks⟩ := h.served
  obtain rfl := Option.some.inj (ht.symm.trans ht')
  have hticket : task.ticket? = some ticket := by simpa [Board.ticketOf, ht] using drew
  have stays : (b.settled n || (task.poll m).task.isSettled) = (task.poll m).task.isSettled := by
    cases hs : task.isSettled with
    | true => simp [isSettled_poll m hs]
    | false => simp [settled, hs]
  obtain ⟨tracks, keeps⟩ := tracks.poll hticket granted
  generalize task.poll m = look at tracks keeps stays
  rcases keeps with ⟨same, lock⟩ | ⟨reply, ended, lock⟩
  · refine ⟨gone, some n, line, by simp, h.hold hw ?_ (same.trans drew.symm) lock⟩
    exact ⟨stays, ⟨ticket, same⟩, _, tracks⟩
  · obtain ⟨model, task', more⟩ := look
    simp only at ended lock tracks stays
    subst ended
    refine h.release hw drew (by rw [stays]; exact .done) ?_ ?_ lock
    · rintro _ ⟨⟩
      exact tracks.of_done.2.1
    · rw [stays]
      exact tracks.of_done.1

theorem Ledger.dropHolder (h : Ledger m₀ writes b m gone (some n) line)
    (ht : b.tasks[n]? = some task) :
    Serialized m₀ writes (gone ++ n :: line) (b.put n (task.drop m).2) (task.drop m).1 := by
  obtain ⟨ticket, drew, -⟩ := h.ticket_of_holder
  obtain ⟨w, _, hw, ht', settled, -, notices, tracks⟩ := h.served
  obtain rfl := Option.some.inj (ht.symm.trans ht')
  have hticket : task.ticket? = some ticket := by simpa [Board.ticketOf, ht] using drew
  have dropped : task.drop m = ({ m with lock := (m.lock.abandon ticket).1 }, .dropped) := by
    cases task <;> simp only [ticket?, reduceCtorEq, Option.some.injEq] at hticket <;>
      simp only [drop, hticket]
  rw [dropped]
  refine h.release hw drew .dropped (by rintro _ ⟨⟩) ?_ rfl
  rw [settled]
  cases tracks with
  | waiting => rfl
  | before => rfl
  | after result hooks model =>
    rw [model]
    rfl
  | done => simp [ticket?] at hticket

theorem Board.filterMap_ticketOf_drop (h : line.Nodup) (tickets : (line.filterMap b.ticketOf).Nodup)
    (mem : n ∈ line) (drew : b.ticketOf n = some ticket) (inRange : n < b.tasks.length) :
    line.filterMap (b.put n .dropped).ticketOf = (line.filterMap b.ticketOf).erase ticket := by
  obtain ⟨first, rest, rfl⟩ := List.append_of_mem mem
  obtain ⟨-, restNodup, apart⟩ := List.nodup_append.mp h
  have notFirst : n ∉ first := fun hn => apart n hn n List.mem_cons_self rfl
  have notRest : n ∉ rest := (List.nodup_cons.mp restNodup).1
  simp only [List.filterMap_append, List.filterMap_cons, drew, ticketOf_put_self inRange, ticket?,
    filterMap_ticketOf_put notFirst, filterMap_ticketOf_put notRest] at tickets ⊢
  have notIn : ticket ∉ first.filterMap b.ticketOf := fun hmem =>
    (List.nodup_append.mp tickets).2.2 ticket hmem ticket List.mem_cons_self rfl
  rw [List.erase_append_right _ notIn, List.erase_cons_head]

theorem Ledger.leave (h : Ledger m₀ writes b m gone held line) (lock : Lock) (notGone : n ∉ gone)
    (notHeld : n ∉ held.toList) (unsettled : b.settled n = false)
    (tickets : lock.Line (held.bind b.ticketOf) (line.filterMap (b.put n .dropped).ticketOf)) :
    Ledger m₀ writes (b.put n .dropped) (m.withLock lock) gone held line := by
  refine ⟨h.toEntries.drop notGone notHeld unsettled, h.served.put notGone notHeld lock, ?_⟩
  rwa [Board.bind_ticketOf_put notHeld]

-- ---------------------------------------------------------------------------
-- Any task
-- ---------------------------------------------------------------------------

theorem Board.put_put (unsettled : first.isSettled = false) :
    (b.put n first).put n task = b.put n task := by
  simp only [put, List.set_set, unsettled, Bool.and_false, Bool.or_false]

theorem Tracks.handle (h : Tracks base source request notices m task) : m.handle = base.handle := by
  cases h with
  | waiting => rfl
  | before => rfl
  | after result hooks model =>
    rw [model]
    exact Model.perform_handle base source request
  | done => exact Model.perform_handle base source request

theorem Ledger.prepare (h : Ledger m₀ writes b m gone held line) :
    m.prepare request = m₀.prepare request := by
  refine Model.prepare_congr (Eq.trans ?_ (serial_handle m₀ writes (b.ran gone)))
  have served := h.served
  cases held with
  | none =>
    have same : m = (left m₀ writes b gone).withLock m.lock := served
    rw [same]
    rfl
  | some n =>
    obtain ⟨w, task, -, -, -, -, notices, tracks⟩ := served
    exact tracks.handle

theorem Ledger.enter (h : Ledger m₀ writes b m gone held line) (lock : Lock)
    (new : n ∉ gone ++ held.toList ++ line) (hw : writes[n]? = some w)
    (entry : Behind m₀ w task.isSettled task)
    (tickets : lock.Line (held.bind b.ticketOf)
      (line.filterMap b.ticketOf ++ task.ticket?.toList)) :
    Ledger m₀ writes (b.put n task) (m.withLock lock) gone held (line ++ [n]) := by
  have inRange : n < b.tasks.length := h.length ▸ (List.getElem?_eq_some_iff.mp hw).1
  obtain ⟨⟨notGone, notHeld⟩, notLine⟩ : (n ∉ gone ∧ n ∉ held.toList) ∧ n ∉ line := by
    simpa [List.mem_append, not_or, and_assoc] using new
  refine ⟨h.toEntries.push hw new entry, h.served.put notGone notHeld lock, ?_⟩
  have last : [n].filterMap (b.put n task).ticketOf = task.ticket?.toList := by
    cases ht : task.ticket? <;> simp [Board.ticketOf_put_self inRange, ht]
  rw [Board.bind_ticketOf_put notHeld, List.filterMap_append, Board.filterMap_ticketOf_put notLine,
    last]
  exact tickets

theorem Ledger.unsettled (h : Ledger m₀ writes b m gone held line) (ht : b.tasks[n]? = some task)
    (unlooked : n ∉ gone ++ held.toList ++ line) :
    b.settled n = false ∧ ∃ w, writes[n]? = some w ∧ Unlooked w false task := by
  have inRange : n < writes.length := h.length ▸ (List.getElem?_eq_some_iff.mp ht).1
  obtain ⟨w, _, hw, ht', was⟩ := h.unlooked n inRange unlooked
  obtain rfl := Option.some.inj (ht.symm.trans ht')
  generalize b.settled n = settled at was
  cases was with
  | fresh => exact ⟨rfl, _, hw, .fresh⟩
  | dropped => exact ⟨rfl, _, hw, .dropped⟩

/-- Who finds the lock free is served at once: all who are in line are over. -/
theorem Ledger.serve (h : Ledger m₀ writes b m gone none line)
    (new : n ∉ gone ++ (none : Option Nat).toList ++ line)
    (hw : writes[n]? = some (source, request)) (ht : b.tasks[n]? = some task)
    (prepared : m.prepare request = .ok job) :
    Ledger m₀ writes (b.put n (.waiting m.lock.drawTicket.2 source job))
      (m.withLock m.lock.drawTicket.1) (gone ++ line) (some n) [] := by
  have tickets := h.lock.drawTicket_free
  have inRange := (List.getElem?_eq_some_iff.mp ht).1
  obtain ⟨notGone, notLine⟩ : n ∉ gone ∧ n ∉ line := by simpa using new
  have ticketless := List.filterMap_eq_nil_iff.mp h.lock.waiting_eq_nil
  have entry : Behind m₀ (source, request) (isSettled (.waiting m.lock.drawTicket.2 source job))
      (.waiting m.lock.drawTicket.2 source job) :=
    .waiting (h.prepare.symm.trans prepared)
  obtain ⟨entries, same⟩ := (h.toEntries.push hw new entry).absorb fun k hk => by
    have ne : k ≠ n := by
      rintro rfl
      exact notLine hk
    rw [Board.ticketOf_put_of_ne ne]
    exact ticketless k hk
  refine ⟨entries.next, ⟨_, _, hw, Board.put_tasks_self inRange, ?_⟩, ?_⟩
  · rw [same, left_put notGone, Board.put_settled_self, (h.unsettled ht new).1, Bool.false_or]
    refine ⟨rfl, ⟨_, rfl⟩, [], ?_⟩
    rw [show m = (left m₀ writes b gone).withLock m.lock from h.served]
    exact .waiting (by rw [left_prepare, ← h.prepare, prepared])
  · simpa [Board.ticketOf_put_self inRange, ticket?] using tickets

theorem Ledger.pollFresh (h : Ledger m₀ writes b m gone held line)
    (new : n ∉ gone ++ held.toList ++ line) (hw : writes[n]? = some (source, request))
    (ht : b.tasks[n]? = some task) :
    Serialized m₀ writes (gone ++ held.toList ++ line ++ [n])
      (b.put n (poll m (.fresh source request)).task) (poll m (.fresh source request)).model := by
  cases prepared : m.prepare request with
  | error e =>
    simp only [poll, prepared]
    refine ⟨gone, held, line ++ [n], by simp, h.enter m.lock new hw ?_ ?_⟩
    · exact .refused (h.prepare.symm.trans prepared)
    · simpa [ticket?] using h.lock
  | ok job =>
    cases held with
    | some k =>
      obtain ⟨ticket, drew, granted⟩ := h.ticket_of_holder
      have tickets := h.lock
      simp only [Option.bind_some, drew] at tickets
      have joined := tickets.drawTicket_held
      have waits := joined.not_isGranted (List.mem_append_right _ List.mem_cons_self)
      simp only [poll, prepared, waits, Bool.false_eq_true, if_false]
      refine ⟨gone, some k, line ++ [n], by simp, h.enter _ new hw ?_ ?_⟩
      · exact .waiting (h.prepare.symm.trans prepared)
      · simpa only [Option.bind_some, drew, ticket?, Option.toList_some] using joined
    | none =>
      have granted := h.lock.drawTicket_free.granted _ rfl
      have inRange := (List.getElem?_eq_some_iff.mp ht).1
      have step := (h.serve new hw ht prepared).pollHolder (Board.put_tasks_self inRange)
      rw [Board.put_put rfl] at step
      simpa [poll, prepared, granted, Model.withLock] using step

/-- Where a task stands that was looked at: it is over, or it holds the lock, or it waits. -/
theorem Ledger.place (h : Ledger m₀ writes b m gone held line) (ht : b.tasks[n]? = some task)
    (looked : n ∈ gone ++ held.toList ++ line) :
    (task.isOver = true ∧ (task.isSettled = true → b.settled n = true)) ∨ held = some n ∨
    n ∈ line ∧ n ∉ gone ∧ n ∉ held.toList ∧ b.settled n = false ∧
      ∃ ticket source job, task = .waiting ticket source job := by
  rcases List.mem_append.mp looked with mem | mem
  · rcases List.mem_append.mp mem with mem | mem
    · obtain ⟨w, _, -, ht', past⟩ := h.past n mem
      obtain rfl := Option.some.inj (ht.symm.trans ht')
      generalize b.settled n = settled at past
      cases past with
      | done => exact .inl ⟨rfl, fun _ => rfl⟩
      | dropped => exact .inl ⟨rfl, by simp [isSettled]⟩
    · exact .inr (.inl (Option.mem_toList.mp mem))
  · obtain ⟨w, _, -, ht', behind⟩ := h.behind n mem
    obtain rfl := Option.some.inj (ht.symm.trans ht')
    obtain ⟨-, -, apart⟩ := List.nodup_append.mp h.nodup
    generalize b.settled n = settled at behind
    cases behind with
    | refused => exact .inl ⟨rfl, fun _ => rfl⟩
    | dropped => exact .inl ⟨rfl, by simp [isSettled]⟩
    | waiting =>
      refine .inr (.inr ⟨mem, fun hn => ?_, fun hn => ?_, rfl, _, _, _, rfl⟩)
      · exact apart n (List.mem_append_left _ hn) n mem rfl
      · exact apart n (List.mem_append_right _ hn) n mem rfl

theorem poll_of_isOver (m : Model) (ended : task.isOver = true) : task.poll m = ⟨m, task, []⟩ := by
  cases task <;> simp only [isOver, Bool.false_eq_true] at ended <;> rfl

theorem drop_of_isOver (m : Model) (ended : task.isOver = true) : task.drop m = (m, task) := by
  cases task <;> simp only [isOver, Bool.false_eq_true] at ended <;> rfl

theorem Serialized.poll (h : Serialized m₀ writes looked b m) (ht : b.tasks[n]? = some task) :
    Serialized m₀ writes (if n ∈ looked then looked else looked ++ [n])
      (b.put n (task.poll m).task) (task.poll m).model := by
  obtain ⟨gone, held, line, rfl, ledger⟩ := h
  by_cases mem : n ∈ gone ++ held.toList ++ line
  · rw [if_pos mem]
    rcases ledger.place ht mem with ⟨ended, steady⟩ | rfl | ⟨mem, -, -, -, ticket, source, job, rfl⟩
    · rw [poll_of_isOver m ended, Board.put_same ht steady]
      exact ⟨gone, held, line, rfl, ledger⟩
    · simpa using ledger.pollHolder ht
    · have drew : ticket ∈ line.filterMap b.ticketOf :=
        List.mem_filterMap.mpr ⟨n, mem, by simp [Board.ticketOf, ht, ticket?]⟩
      simp only [Task.poll, ledger.lock.not_isGranted drew, Bool.false_eq_true, if_false]
      rw [Board.put_same ht (by simp [isSettled])]
      exact ⟨gone, held, line, rfl, ledger⟩
  · rw [if_neg mem]
    obtain ⟨-, w, hw, unlooked⟩ := ledger.unsettled ht mem
    cases unlooked with
    | fresh => exact ledger.pollFresh mem hw ht
    | dropped =>
      refine ⟨gone, held, line ++ [n], by simp, ledger.enter m.lock mem hw .dropped ?_⟩
      simpa [Task.poll, ticket?] using ledger.lock

theorem Serialized.drop (h : Serialized m₀ writes looked b m) (ht : b.tasks[n]? = some task) :
    Serialized m₀ writes looked (b.put n (task.drop m).2) (task.drop m).1 := by
  obtain ⟨gone, held, line, rfl, ledger⟩ := h
  by_cases mem : n ∈ gone ++ held.toList ++ line
  · rcases ledger.place ht mem with ⟨ended, steady⟩ | rfl |
      ⟨mem, notGone, notHeld, unsettled, ticket, source, job, rfl⟩
    · rw [drop_of_isOver m ended, Board.put_same ht steady]
      exact ⟨gone, held, line, rfl, ledger⟩
    · simpa using ledger.dropHolder ht
    · have drew : b.ticketOf n = some ticket := by simp [Board.ticketOf, ht, ticket?]
      refine ⟨gone, held, line, rfl, ledger.leave _ notGone notHeld unsettled ?_⟩
      rw [Board.filterMap_ticketOf_drop (List.nodup_append.mp ledger.nodup).2.1 ledger.lock.nodup
        mem drew (List.getElem?_eq_some_iff.mp ht).1]
      exact ledger.lock.abandon_waiting (List.mem_filterMap.mpr ⟨n, mem, drew⟩)
  · obtain ⟨unsettled, w, hw, unlooked⟩ := ledger.unsettled ht mem
    obtain ⟨⟨notGone, notHeld⟩, notLine⟩ : (n ∉ gone ∧ n ∉ held.toList) ∧ n ∉ line := by
      simpa [List.mem_append, not_or, and_assoc] using mem
    have same : task.drop m = (m, .dropped) := by cases unlooked <;> rfl
    rw [same]
    refine ⟨gone, held, line, rfl, ledger.leave m.lock notGone notHeld unsettled ?_⟩
    rw [Board.filterMap_ticketOf_put notLine]
    exact ledger.lock

-- ---------------------------------------------------------------------------
-- A whole schedule
-- ---------------------------------------------------------------------------

theorem Pool.run_concat (pool : Pool) (turns : List Turn) (turn : Turn) :
    (pool.run (turns ++ [turn])).1 = ((pool.run turns).1.take turn).1 := by
  induction turns generalizing pool with
  | nil => rfl
  | cons first rest ih => exact ih (pool.take first).1

theorem Pool.settles_concat (pool : Pool) (turns : List Turn) (turn : Turn) :
    pool.settles (turns ++ [turn]) n = (pool.settles turns n ||
      ((pool.run (turns ++ [turn])).1.tasks[n]?).any isSettled) := by
  have before : ∀ k ∈ List.range (turns.length + 1),
      (turns ++ [turn]).take k = turns.take k := fun k hk =>
    List.take_append_of_le_length (Nat.le_of_lt_succ (List.mem_range.mp hk))
  rw [settles, List.length_append, List.length_singleton, List.range_succ, List.any_append,
    List.any_cons, List.any_nil, Bool.or_false, List.take_of_length_le (by simp), settles]
  congr 1
  rw [Bool.eq_iff_iff, List.any_eq_true, List.any_eq_true]
  exact exists_congr fun k => and_congr_right fun hk => by rw [before k hk]

theorem Pool.settles_of_isSettled {pool : Pool} {turns : List Turn}
    (settled : ((pool.run turns).1.tasks[n]?).any isSettled = true) :
    pool.settles turns n = true :=
  List.any_eq_true.mpr ⟨turns.length, by simp, by simpa using settled⟩

def Pool.board (pool : Pool) (turns : List Turn) : Board :=
  ⟨(pool.run turns).1.tasks, pool.settles turns⟩

theorem Pool.board_concat {pool : Pool} {turns : List Turn}
    (tasks : (pool.run (turns ++ [turn])).1.tasks = (pool.run turns).1.tasks.set n task)
    (inRange : n < (pool.run turns).1.tasks.length) :
    pool.board (turns ++ [turn]) = (pool.board turns).put n task := by
  simp only [board, Board.put, tasks, Board.mk.injEq, true_and]
  funext k
  rw [settles_concat, tasks]
  by_cases same : k = n
  · subst same
    simp [inRange]
  · rw [List.getElem?_set_ne (Ne.symm same), beq_eq_false_iff_ne.mpr same, Bool.false_and,
      Bool.or_false, Bool.or_eq_left_iff_imp]
    exact settles_of_isSettled

theorem Pool.board_concat_self {pool : Pool} {turns : List Turn}
    (tasks : (pool.run (turns ++ [turn])).1.tasks = (pool.run turns).1.tasks) :
    pool.board (turns ++ [turn]) = pool.board turns := by
  simp only [board, tasks, Board.mk.injEq, true_and]
  funext k
  rw [settles_concat, tasks, Bool.or_eq_left_iff_imp]
  exact settles_of_isSettled

theorem firstLooks_poll (turns : List Turn) (n : Nat) :
    firstLooks (turns ++ [.poll n]) =
      if n ∈ firstLooks turns then firstLooks turns else firstLooks turns ++ [n] := by
  have last : [Turn.poll n].filterMap Turn.looked? = [n] := rfl
  have removeAll : ∀ seen : List Nat, ([n].removeAll seen).eraseDups =
      if n ∈ seen then [] else [n] := by
    intro seen
    by_cases h : n ∈ seen <;> simp [List.removeAll, h, List.eraseDups_cons]
  have mem : n ∈ firstLooks turns ↔ n ∈ turns.filterMap Turn.looked? := List.mem_eraseDups
  rw [firstLooks, List.filterMap_append, List.eraseDups_append, last, removeAll, ← firstLooks]
  simp only [mem]
  split <;> simp

theorem firstLooks_drop (turns : List Turn) (n : Nat) :
    firstLooks (turns ++ [.drop n]) = firstLooks turns := by
  have last : [Turn.drop n].filterMap Turn.looked? = [] := rfl
  rw [firstLooks, List.filterMap_append, last, List.append_nil, ← firstLooks]

/-- What is looked at first, as far as it is there. -/
def entered (writes : List (Source × Request)) (turns : List Turn) : List Nat :=
  (firstLooks turns).filter (· < writes.length)

theorem entered_poll (inRange : n < writes.length) (turns : List Turn) :
    entered writes (turns ++ [.poll n]) =
      if n ∈ entered writes turns then entered writes turns else entered writes turns ++ [n] := by
  rw [entered, firstLooks_poll]
  by_cases h : n ∈ firstLooks turns
  · simp [entered, h, inRange]
  · simp [entered, h, inRange]

theorem entered_poll_of_le (outOfRange : writes.length ≤ n) (turns : List Turn) :
    entered writes (turns ++ [.poll n]) = entered writes turns := by
  rw [entered, firstLooks_poll]
  split
  · rfl
  · simp [entered, Nat.not_lt.mpr outOfRange]

theorem Pool.start_serialized (idle : m.lock.Line none []) :
    Serialized m writes [] ((start m writes).board []) m := by
  have fresh : ∀ n (hn : n < writes.length),
      (start m writes).tasks[n]? = some (.fresh writes[n].1 writes[n].2) := by
    intro n hn
    simp [start, hn]
  refine ⟨[], none, [], rfl, ⟨.nil, by simp [board, run, start], ?_, by simp, by simp,
    by simp [Board.ran]⟩, rfl, by simpa using idle⟩
  intro n hn _
  refine ⟨writes[n], _, List.getElem?_eq_getElem hn, fresh n hn, ?_⟩
  have unsettled : (board (start m writes) []).settled n = false := by
    simp [board, settles, run, fresh n hn, isSettled]
  rw [unsettled]
  exact .fresh

theorem Pool.run_serialized (writes : List (Source × Request)) (idle : m.lock.Line none [])
    (turns : List Turn) :
    Serialized m writes (entered writes turns) ((start m writes).board turns)
      ((start m writes).run turns).1.model := by
  induction turns using List.reverseRecOn with
  | nil => exact start_serialized idle
  | append_singleton turns turn ih =>
    have length : ((start m writes).run turns).1.tasks.length = writes.length := by
      obtain ⟨gone, held, line, -, ledger⟩ := ih
      exact ledger.length
    have next := (start m writes).run_concat turns turn
    cases turn with
    | poll n =>
      cases ht : ((start m writes).run turns).1.tasks[n]? with
      | none =>
        have outOfRange : writes.length ≤ n := length ▸ List.getElem?_eq_none_iff.mp ht
        simp only [take, ht] at next
        rw [board_concat_self (by rw [next]), entered_poll_of_le outOfRange, next]
        exact ih
      | some task =>
        have inRange := (List.getElem?_eq_some_iff.mp ht).1
        simp only [take, ht] at next
        rw [board_concat (by rw [next]) inRange, entered_poll (length ▸ inRange), next]
        exact ih.poll ht
    | drop n =>
      have same : entered writes (turns ++ [.drop n]) = entered writes turns := by
        rw [entered, firstLooks_drop, entered]
      cases ht : ((start m writes).run turns).1.tasks[n]? with
      | none =>
        simp only [take, ht] at next
        rw [board_concat_self (by rw [next]), same, next]
        exact ih
      | some task =>
        simp only [take, ht] at next
        rw [board_concat (by rw [next]) (List.getElem?_eq_some_iff.mp ht).1, same, next]
        exact ih.drop ht

-- ---------------------------------------------------------------------------
-- The end of a schedule
-- ---------------------------------------------------------------------------

/-- When everybody who is not through leaves, nothing but the lock is changed. -/
theorem Serialized.leaveAll (h : Serialized m₀ writes order b m) (count : Nat) :
    ∃ (b' : Board) (lock : Lock), Serialized m₀ writes order b' (m.withLock lock) ∧
      b'.settled = b.settled ∧
      (∀ (n : Nat) (reply : Reply),
        b.tasks[n]? = some (.done reply) → b'.tasks[n]? = some (.done reply)) ∧
      ∀ n < count, b'.ticketOf n = none := by
  induction count with
  | zero => exact ⟨b, m.lock, h, rfl, fun _ _ ht => ht, by simp⟩
  | succ count ih =>
    obtain ⟨b', lock, h', settled, done, ticketless⟩ := ih
    by_cases ticket : b'.ticketOf count = none
    · refine ⟨b', lock, h', settled, done, fun n hn => ?_⟩
      rcases Nat.lt_succ_iff_lt_or_eq.mp hn with hn | rfl
      · exact ticketless n hn
      · exact ticket
    · obtain ⟨task, ht, hticket⟩ : ∃ task, b'.tasks[count]? = some task ∧ task.ticket? ≠ none := by
        cases ht : b'.tasks[count]? with
        | none => simp [Board.ticketOf, ht] at ticket
        | some task => exact ⟨task, rfl, by simpa [Board.ticketOf, ht] using ticket⟩
      have inRange := (List.getElem?_eq_some_iff.mp ht).1
      obtain ⟨lock', model, dropped⟩ : ∃ lock', (task.drop (m.withLock lock)).1 = m.withLock lock' ∧
          (task.drop (m.withLock lock)).2 = .dropped := by
        cases task <;> simp only [ticket?, ne_eq, not_true_eq_false] at hticket <;>
          exact ⟨_, rfl, rfl⟩
      have left := h'.drop ht
      rw [model, dropped] at left
      refine ⟨_, lock', left, ?_, ?_, ?_⟩
      · rw [← settled]
        funext k
        simp [Board.put, isSettled]
      · intro n reply hr
        have hr := done n reply hr
        refine (Board.put_tasks_of_ne ?_).trans hr
        rintro rfl
        obtain rfl := Option.some.inj (ht.symm.trans hr)
        simp [ticket?] at hticket
      · intro n hn
        rcases Nat.lt_succ_iff_lt_or_eq.mp hn with hn | rfl
        · exact (Board.ticketOf_put_of_ne (Nat.ne_of_lt hn)).trans (ticketless n hn)
        · exact Board.ticketOf_put_self inRange

theorem Serialized.outcome (h : Serialized m₀ writes order b m) :
    m.collection = (serial m₀ writes (b.ran order)).1.collection ∧
      ∀ (n : Nat) (reply : Reply), b.tasks[n]? = some (.done reply) →
        (n, reply) ∈ (b.ran order).zip (serial m₀ writes (b.ran order)).2 := by
  obtain ⟨b', lock, ⟨gone, held, line, rfl, ledger⟩, settled, done, ticketless⟩ :=
    h.leaveAll writes.length
  have same : b.ran = b'.ran := by
    funext order
    simp only [Board.ran, settled]
  rw [same]
  cases held with
  | some n =>
    obtain ⟨ticket, drew, -⟩ := ledger.ticket_of_holder
    have inRange : n < writes.length := ledger.length ▸ ledger.served.inRange
    simp [ticketless n inRange] at drew
  | none =>
    have entries : Entries m₀ writes b' gone none (line ++ []) := by simpa using ledger.toEntries
    obtain ⟨entries, hleft⟩ := entries.absorb fun n hn =>
      ticketless n (ledger.length ▸ (ledger.behind n hn).inRange)
    simp only [Option.toList_none, List.append_nil]
    refine ⟨?_, fun n reply ht => ?_⟩
    · have served : m.withLock lock = (left m₀ writes b' gone).withLock lock := ledger.served
      have same := congrArg Model.collection served
      rw [← hleft] at same
      exact same
    · have ht' := done n reply ht
      have inRange : n < writes.length := entries.length ▸ (List.getElem?_eq_some_iff.mp ht').1
      have mem : n ∈ gone ++ line := by
        refine Decidable.byContradiction fun new => ?_
        obtain ⟨_, task, -, htask, unlooked⟩ := entries.unlooked n inRange (by simpa using new)
        obtain rfl := Option.some.inj (ht'.symm.trans htask)
        generalize b'.settled n = settled at unlooked
        cases unlooked
      refine entries.replies n (List.mem_filter.mpr ⟨mem, ?_⟩) reply ht'
      obtain ⟨_, task, -, htask, past⟩ := entries.past n mem
      obtain rfl := Option.some.inj (ht'.symm.trans htask)
      generalize b'.settled n = settled at past
      cases past
      rfl

theorem Pool.mem_entered_of_settles (idle : m.lock.Line none []) {turns : List Turn}
    (settled : (start m writes).settles turns n = true) : n ∈ entered writes turns := by
  refine Decidable.byContradiction fun new => ?_
  obtain ⟨k, -, hk⟩ := List.any_eq_true.mp settled
  have inRange : n < writes.length := by
    obtain ⟨_, _, _, -, early⟩ := run_serialized writes idle (turns.take k)
    rw [← early.length]
    refine Nat.lt_of_not_le fun outOfRange => ?_
    simp only [board] at outOfRange
    simp [List.getElem?_eq_none outOfRange] at hk
  obtain ⟨gone, held, line, order, ledger⟩ := run_serialized writes idle turns
  obtain ⟨_, task, -, -, unlooked⟩ := ledger.unlooked n inRange (order ▸ new)
  rw [show ((start m writes).board turns).settled n = true from settled] at unlooked
  cases unlooked

end

/-- Writes to a model that nobody else writes to are serializable, for every schedule. -/
theorem run_serializable (m : Model) (writes : List (Source × Request)) (turns : List Turn)
    (unlocked : m.lock.locked = false) (empty : m.lock.queue = []) :
    let start := Pool.start m writes
    let final := (start.run turns).1
    let ran := (firstLooks turns).filter (start.settles turns)
    let serial := m.performEach (ran.filterMap (writes[·]?))
    final.model.collection = serial.1.collection ∧
      (∀ (n : Nat) (reply : Reply),
        final.tasks[n]? = some (.done reply) → (n, reply) ∈ ran.zip serial.2) ∧
      ∀ n, start.settles turns n = true → n ∈ ran := by
  intro start final ran serial
  have idle := Lock.line_free unlocked empty
  have mem : ∀ n, start.settles turns n = true → n ∈ firstLooks turns ∧ n < writes.length := by
    intro n settled
    simpa [entered] using Pool.mem_entered_of_settles idle settled
  have same : (start.board turns).ran (entered writes turns) = ran := by
    simp only [Board.ran, entered, List.filter_filter]
    refine List.filter_congr fun n _ => Bool.and_eq_left_iff_imp.mpr fun settled => ?_
    exact decide_eq_true (mem n settled).2
  have outcome := (Pool.run_serialized writes idle turns).outcome
  rw [same] at outcome
  exact ⟨outcome.1, outcome.2, fun n settled => List.mem_filter.mpr ⟨(mem n settled).1, settled⟩⟩

/-- A removal that is looked at before the insertion, and dropped after it. -/
theorem run_serializable_overlap :
    let m : Model := { handle := ⟨0, "notes", Schema.initial⟩ }
    let source : Source := ⟨fun _ => 0, ⟨0, 0⟩, []⟩
    let writes := [(source, .insert (.object [("_id", .string "a")])), (source, .remove "a")]
    let turns := [.poll 1, .poll 0, .poll 1, .drop 1]
    let start := Pool.start m writes
    let final := (start.run turns).1
    let ran := (firstLooks turns).filter (start.settles turns)
    let serial := m.performEach (ran.filterMap (writes[·]?))
    (m.lock.locked = false ∧ m.lock.queue = []) ∧ ran = [1, 0] ∧
      final.model.collection = serial.1.collection ∧
      (∀ (n : Nat) (reply : Reply),
        final.tasks[n]? = some (.done reply) → (n, reply) ∈ ran.zip serial.2) ∧
      ∀ n, start.settles turns n = true → n ∈ ran :=
  ⟨⟨rfl, rfl⟩, by decide +kernel, run_serializable _ _ _ rfl rfl⟩

end DocStore.Task
