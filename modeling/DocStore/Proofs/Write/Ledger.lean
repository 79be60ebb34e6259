import DocStore.Proofs.Lock.Line
import DocStore.Proofs.Write.Holder

/-!
# The ledger of a schedule

Tasks are entered in the order in which they are looked at first. At every moment the entries fall
into three parts: those that are over, the one that holds the lock, and those behind it. The model
is what the settled entries of the first part leave when they are performed one after the other.
-/

namespace DocStore

/-- Performs writes one after the other, whatever they come to. -/
def Model.performEach (m : Model) : List (Source × Request) → Model × List Reply
  | [] => (m, [])
  | (source, request) :: rest =>
    let first := m.perform source request
    let (m, replies) := first.model.performEach rest
    (m, first.result :: replies)

theorem Model.performEach_append (m : Model) (first rest : List (Source × Request)) :
    m.performEach (first ++ rest) =
      (((m.performEach first).1.performEach rest).1,
        (m.performEach first).2 ++ ((m.performEach first).1.performEach rest).2) := by
  induction first generalizing m with
  | nil => rfl
  | cons write first ih =>
    obtain ⟨source, request⟩ := write
    simp only [List.cons_append, performEach, ih]

namespace Task

/-- A write that is past its commit or came to an end. -/
def isSettled : Task → Bool
  | .after .. | .done _ => true
  | _ => false

/-- Tasks by their numbers, and which of them were ever settled: one that is dropped after its
commit remains so. -/
structure Board where
  tasks : List Task
  settled : Nat → Bool

namespace Board

def put (b : Board) (n : Nat) (task : Task) : Board where
  tasks := b.tasks.set n task
  settled k := b.settled k || (k == n && task.isSettled)

def ticketOf (b : Board) (n : Nat) : Option Nat := b.tasks[n]?.bind ticket?

def ran (b : Board) (order : List Nat) : List Nat := order.filter b.settled

variable {b : Board} {n k : Nat} {task : Task}

theorem put_tasks_self (inRange : n < b.tasks.length) : (b.put n task).tasks[n]? = some task := by
  simp [put, inRange]

theorem put_tasks_of_ne (ne : k ≠ n) : (b.put n task).tasks[k]? = b.tasks[k]? := by
  simp [put, Ne.symm ne]

theorem put_settled_self : (b.put n task).settled n = (b.settled n || task.isSettled) := by
  simp [put]

theorem put_settled_of_ne (ne : k ≠ n) : (b.put n task).settled k = b.settled k := by
  simp [put, ne]

theorem ticketOf_put_of_ne (ne : k ≠ n) : (b.put n task).ticketOf k = b.ticketOf k := by
  simp [ticketOf, put_tasks_of_ne ne]

theorem ticketOf_put_self (inRange : n < b.tasks.length) :
    (b.put n task).ticketOf n = task.ticket? := by
  simp [ticketOf, put_tasks_self inRange]

theorem ran_put (notMem : n ∉ order) : (b.put n task).ran order = b.ran order :=
  List.filter_congr fun _ hk => put_settled_of_ne fun same => notMem (same ▸ hk)

theorem filterMap_ticketOf_put {order : List Nat} (notMem : n ∉ order) :
    order.filterMap (b.put n task).ticketOf = order.filterMap b.ticketOf := by
  induction order with
  | nil => rfl
  | cons k rest ih =>
    obtain ⟨ne, notMem⟩ := not_or.mp (mt List.mem_cons.mpr notMem)
    rw [List.filterMap_cons, List.filterMap_cons, ih notMem, ticketOf_put_of_ne (Ne.symm ne)]

/-- Something holds of a task, of the write that it was to be, and of whether it was settled. -/
def Has (b : Board) (writes : List (Source × Request)) (n : Nat)
    (P : Source × Request → Bool → Task → Prop) : Prop :=
  ∃ w task, writes[n]? = some w ∧ b.tasks[n]? = some task ∧ P w (b.settled n) task

theorem Has.put_of_ne (h : b.Has writes k P) (ne : k ≠ n) : (b.put n task).Has writes k P := by
  obtain ⟨w, other, hw, ht, hp⟩ := h
  exact ⟨w, other, hw, (put_tasks_of_ne ne).trans ht, by rwa [put_settled_of_ne ne]⟩

theorem Has.put_self (h : b.Has writes n P) (hw : writes[n]? = some w)
    (holds : Q w (b.settled n || task.isSettled) task) : (b.put n task).Has writes n Q := by
  obtain ⟨-, other, -, ht, -⟩ := h
  obtain ⟨inRange, -⟩ := List.getElem?_eq_some_iff.mp ht
  exact ⟨w, task, hw, put_tasks_self inRange, by rwa [put_settled_self]⟩

theorem Has.inRange (h : b.Has writes n P) : n < b.tasks.length := by
  obtain ⟨-, other, -, ht, -⟩ := h
  exact (List.getElem?_eq_some_iff.mp ht).1

end Board

-- ---------------------------------------------------------------------------
-- The parts of a ledger
-- ---------------------------------------------------------------------------

inductive Unlooked : Source × Request → Bool → Task → Prop
  | fresh : Unlooked (source, request) false (.fresh source request)
  | dropped : Unlooked w false .dropped

inductive Past : Source × Request → Bool → Task → Prop
  | done : Past w true (.done reply)
  | dropped : Past w settled .dropped

/-- A task behind the holder: it waits, or it was refused without the lock, or its owner left. -/
inductive Behind (m : Model) : Source × Request → Bool → Task → Prop
  | waiting (prepared : m.prepare request = .ok job) :
      Behind m (source, request) false (.waiting ticket source job)
  | refused (refused : m.prepare request = .error e) :
      Behind m (source, request) true (.done (.error e))
  | dropped : Behind m w false .dropped

/-- A task that holds the lock since the model was `base`. -/
structure Holds (base m : Model) (w : Source × Request) (settled : Bool) (task : Task) : Prop where
  settled : settled = task.isSettled
  ticket : ∃ ticket, task.ticket? = some ticket
  tracks : ∃ left, Tracks base w.1 w.2 left m task

/-- What tasks leave when their writes are performed one after the other, and their answers. -/
def serial (m : Model) (writes : List (Source × Request)) (order : List Nat) : Model × List Reply :=
  m.performEach (order.filterMap (writes[·]?))

/-- The tasks that are gone, the one that is served, and the line behind it. -/
structure Entries (m₀ : Model) (writes : List (Source × Request)) (b : Board)
    (gone : List Nat) (held : Option Nat) (line : List Nat) : Prop where
  nodup : (gone ++ held.toList ++ line).Nodup
  length : b.tasks.length = writes.length
  unlooked : ∀ n < writes.length, n ∉ gone ++ held.toList ++ line → b.Has writes n Unlooked
  past : ∀ n ∈ gone, b.Has writes n Past
  behind : ∀ n ∈ line, b.Has writes n (Behind m₀)
  replies : ∀ n ∈ b.ran gone, ∀ reply, b.tasks[n]? = some (.done reply) →
    (n, reply) ∈ (b.ran gone).zip (serial m₀ writes (b.ran gone)).2

/-- The model that the tasks which are gone leave behind. -/
def left (m₀ : Model) (writes : List (Source × Request)) (b : Board) (gone : List Nat) : Model :=
  (serial m₀ writes (b.ran gone)).1

/-- The model as it is while nobody or some task holds the lock. -/
def Served (m₀ : Model) (writes : List (Source × Request)) (b : Board) (m : Model)
    (gone : List Nat) : Option Nat → Prop
  | none => m = (left m₀ writes b gone).withLock m.lock
  | some n => b.Has writes n (Holds (left m₀ writes b gone) m)

structure Ledger (m₀ : Model) (writes : List (Source × Request)) (b : Board) (m : Model)
    (gone : List Nat) (held : Option Nat) (line : List Nat) : Prop
    extends Entries m₀ writes b gone held line where
  served : Served m₀ writes b m gone held
  lock : m.lock.Line (held.bind b.ticketOf) (line.filterMap b.ticketOf)

section
variable {m₀ m : Model} {writes : List (Source × Request)} {b : Board} {gone line : List Nat}
  {held : Option Nat} {n : Nat} {task : Task} {w : Source × Request}

-- ---------------------------------------------------------------------------
-- The serial run
-- ---------------------------------------------------------------------------

theorem serial_concat (hw : writes[n]? = some w) :
    serial m₀ writes (order ++ [n]) =
      (((serial m₀ writes order).1.perform w.1 w.2).model,
        (serial m₀ writes order).2 ++ [((serial m₀ writes order).1.perform w.1 w.2).result]) := by
  simp only [serial, List.filterMap_append, List.filterMap_cons, hw, List.filterMap_nil,
    Model.performEach_append]
  rfl

theorem serial_length (inRange : ∀ n ∈ order, n < writes.length) :
    (serial m₀ writes order).2.length = order.length := by
  have each : ∀ (m : Model) ws, (m.performEach ws).2.length = ws.length := by
    intro m ws
    induction ws generalizing m with
    | nil => rfl
    | cons write ws ih => simp only [Model.performEach, List.length_cons, ih]
  rw [serial, each]
  induction order with
  | nil => rfl
  | cons k rest ih =>
    obtain ⟨hk, hrest⟩ := List.forall_mem_cons.mp inRange
    simp only [List.filterMap_cons, List.getElem?_eq_getElem hk, List.length_cons, ih hrest]

theorem serial_handle (m : Model) (writes : List (Source × Request)) (order : List Nat) :
    (serial m writes order).1.handle = m.handle := by
  rw [serial]
  induction order.filterMap (writes[·]?) generalizing m with
  | nil => rfl
  | cons write rest ih =>
    rw [Model.performEach]
    exact (ih _).trans (Model.perform_handle m write.1 write.2)

theorem left_prepare : (left m₀ writes b gone).prepare request = m₀.prepare request :=
  Model.prepare_congr (serial_handle m₀ writes (b.ran gone))

theorem ran_concat_of_settled (settled : b.settled n = true) :
    b.ran (gone ++ [n]) = b.ran gone ++ [n] := by
  simp [Board.ran, settled]

theorem ran_concat_of_not_settled (settled : b.settled n = false) :
    b.ran (gone ++ [n]) = b.ran gone := by
  simp [Board.ran, settled]

theorem left_concat (hw : writes[n]? = some w) :
    left m₀ writes b (gone ++ [n]) =
      if b.settled n then ((left m₀ writes b gone).perform w.1 w.2).model
      else left m₀ writes b gone := by
  cases settled : b.settled n with
  | true => simp only [left, ran_concat_of_settled settled, serial_concat hw, if_true]
  | false => simp [left, ran_concat_of_not_settled settled]

theorem left_put (notMem : n ∉ gone) :
    left m₀ writes (b.put n task) gone = left m₀ writes b gone := by
  rw [left, Board.ran_put notMem, left]

-- ---------------------------------------------------------------------------
-- Entries
-- ---------------------------------------------------------------------------

theorem Board.has_put_of_mem {order : List Nat} (h : ∀ k ∈ order, b.Has writes k P)
    (notMem : n ∉ order) :
    ∀ k ∈ order, (b.put n task).Has writes k P :=
  fun k hk => (h k hk).put_of_ne fun same => notMem (same ▸ hk)

theorem Entries.replies_put (h : Entries m₀ writes b gone held line) (notMem : n ∉ gone) :
    ∀ k ∈ (b.put n task).ran gone, ∀ reply, (b.put n task).tasks[k]? = some (.done reply) →
      (k, reply) ∈ ((b.put n task).ran gone).zip
        (serial m₀ writes ((b.put n task).ran gone)).2 := by
  rw [Board.ran_put notMem]
  intro k hk reply ht
  have ne : k ≠ n := fun same => notMem (same ▸ (List.mem_filter.mp hk).1)
  exact h.replies k hk reply ((Board.put_tasks_of_ne ne).symm.trans ht)

theorem Tracks.withLock (h : Tracks base source request notices m task) (lock : Lock) :
    Tracks base source request notices (m.withLock lock) task := by
  cases h with
  | waiting prepared => exact .waiting prepared
  | before planned hooks => exact .before planned hooks
  | after result notices model =>
    refine .after ?_ ?_ ((congrArg (·.withLock lock) model).trans Model.withLock_withLock)
    · rwa [Model.withLock_runHooks]
    · rwa [Model.withLock_runHooks]
  | done => exact .done

theorem Served.put (h : Served m₀ writes b m gone held) (notGone : n ∉ gone)
    (notHeld : n ∉ held.toList) (lock : Lock) :
    Served m₀ writes (b.put n task) (m.withLock lock) gone held := by
  cases held with
  | none =>
    simp only [Served, left_put notGone] at h ⊢
    rw [h, Model.withLock_withLock, Model.withLock_lock]
  | some k =>
    obtain ⟨w, task, hw, ht, settled, hticket, notices, tracks⟩ := h
    simp only [Served, left_put notGone]
    refine Board.Has.put_of_ne ⟨w, task, hw, ht, settled, hticket, notices, tracks.withLock _⟩ ?_
    rintro rfl
    simp at notHeld

theorem Entries.drop (h : Entries m₀ writes b gone held line) (notGone : n ∉ gone)
    (notHeld : n ∉ held.toList) (unsettled : b.settled n = false) :
    Entries m₀ writes (b.put n .dropped) gone held line := by
  have dropped (P) (has : b.Has writes n P) {Q} (holds : ∀ w, Q w false .dropped) :
      (b.put n .dropped).Has writes n Q := by
    obtain ⟨w, task, hw, ht, hp⟩ := has
    exact Board.Has.put_self ⟨w, task, hw, ht, hp⟩ hw (by rw [unsettled]; exact holds w)
  refine ⟨h.nodup, by simpa [Board.put] using h.length, fun k hk new => ?_,
    Board.has_put_of_mem h.past notGone, fun k hk => ?_, h.replies_put notGone⟩
  · by_cases same : k = n
    · subst same
      exact dropped _ (h.unlooked k hk new) fun _ => .dropped
    · exact (h.unlooked k hk new).put_of_ne same
  · by_cases same : k = n
    · subst same
      exact dropped _ (h.behind k hk) fun _ => .dropped
    · exact (h.behind k hk).put_of_ne same

theorem Entries.push (h : Entries m₀ writes b gone held line) (hw : writes[n]? = some w)
    (new : n ∉ gone ++ held.toList ++ line) (entry : Behind m₀ w task.isSettled task) :
    Entries m₀ writes (b.put n task) gone held (line ++ [n]) := by
  have inRange : n < writes.length := (List.getElem?_eq_some_iff.mp hw).1
  have was := h.unlooked n inRange new
  obtain ⟨⟨notGone, notHeld⟩, notLine⟩ : (n ∉ gone ∧ n ∉ held.toList) ∧ n ∉ line := by
    simpa [List.mem_append, not_or, and_assoc] using new
  refine ⟨?_, by simpa [Board.put] using h.length, ?_, Board.has_put_of_mem h.past notGone, ?_,
    h.replies_put notGone⟩
  · rw [← List.append_assoc]
    refine List.nodup_append.mpr ⟨h.nodup, by simp, ?_⟩
    rintro a ha b hb rfl
    exact new (List.mem_singleton.mp hb ▸ ha)
  · intro k hk hnew
    rw [← List.append_assoc, List.mem_append, not_or] at hnew
    exact (h.unlooked k hk hnew.1).put_of_ne (by simpa using hnew.2)
  · refine List.forall_mem_append.mpr ⟨Board.has_put_of_mem h.behind notLine, ?_⟩
    rintro k hk
    obtain rfl := List.mem_singleton.mp hk
    refine Board.Has.put_self was hw ?_
    obtain ⟨_, old, -, -, was⟩ := was
    generalize b.settled k = settled at was
    cases was <;> simpa using entry

theorem Entries.apart (h : Entries m₀ writes b gone (some n) line) : n ∉ gone ∧ n ∉ line := by
  have nodup : (gone ++ n :: line).Nodup := by simpa using h.nodup
  obtain ⟨-, right, disjoint⟩ := List.nodup_append.mp nodup
  exact ⟨fun mem => disjoint n mem n List.mem_cons_self rfl, (List.nodup_cons.mp right).1⟩

theorem Entries.put (h : Entries m₀ writes b gone (some n) line) :
    Entries m₀ writes (b.put n task) gone (some n) line := by
  obtain ⟨notGone, notLine⟩ := h.apart
  refine ⟨h.nodup, by simpa [Board.put] using h.length, ?_, Board.has_put_of_mem h.past notGone,
    Board.has_put_of_mem h.behind notLine, h.replies_put notGone⟩
  intro k hk hnew
  refine (h.unlooked k hk hnew).put_of_ne ?_
  rintro rfl
  simp at hnew

theorem Entries.next (h : Entries m₀ writes b gone none (n :: line)) :
    Entries m₀ writes b gone (some n) line where
  nodup := by simpa using h.nodup
  length := h.length
  unlooked k hk hnew := h.unlooked k hk (by simpa using hnew)
  past := h.past
  behind := (List.forall_mem_cons.mp h.behind).2
  replies := h.replies

theorem Entries.close (h : Entries m₀ writes b gone (some n) line) (hw : writes[n]? = some w)
    (ht : b.tasks[n]? = some task) (past : Past w (b.settled n) task)
    (answer : ∀ reply, task = .done reply →
      reply = ((left m₀ writes b gone).perform w.1 w.2).result) :
    Entries m₀ writes b (gone ++ [n]) none line where
  nodup := by simpa using h.nodup
  length := h.length
  unlooked k hk hnew := h.unlooked k hk (by simpa using hnew)
  past := by
    refine List.forall_mem_append.mpr ⟨h.past, fun k hk => ?_⟩
    obtain rfl := List.mem_singleton.mp hk
    exact ⟨w, task, hw, ht, past⟩
  behind := h.behind
  replies := by
    cases settled : b.settled n with
    | false =>
      rw [ran_concat_of_not_settled settled]
      exact h.replies
    | true =>
      have inRange : ∀ k ∈ b.ran gone, k < writes.length := fun k hk =>
        h.length ▸ (h.past k (List.mem_filter.mp hk).1).inRange
      rw [ran_concat_of_settled settled, serial_concat hw,
        List.zip_append (serial_length inRange).symm]
      intro k hk reply hr
      rcases List.mem_append.mp hk with hk | hk
      · exact List.mem_append_left _ (h.replies k hk reply hr)
      · obtain rfl := List.mem_singleton.mp hk
        refine List.mem_append_right _ ?_
        have same := answer reply (Option.some.inj (ht.symm.trans hr))
        simpa [left] using same

-- ---------------------------------------------------------------------------
-- Handing the lock over
-- ---------------------------------------------------------------------------

/-- Those at the front of the line who have no ticket are over, and change nothing. -/
theorem Entries.absorb (h : Entries m₀ writes b gone none (first ++ rest))
    (ended : ∀ n ∈ first, b.ticketOf n = none) :
    Entries m₀ writes b (gone ++ first) none rest ∧
      left m₀ writes b (gone ++ first) = left m₀ writes b gone := by
  induction first generalizing gone with
  | nil => simpa using h
  | cons n first ih =>
    obtain ⟨w, task, hw, ht, behind⟩ := h.behind n (by simp)
    have noTicket : task.ticket? = none := by simpa [Board.ticketOf, ht] using ended n (by simp)
    have inert : ∀ settled, Behind m₀ w settled task → Past w settled task ∧
        (if settled then ((left m₀ writes b gone).perform w.1 w.2).model
          else left m₀ writes b gone) = left m₀ writes b gone ∧
        ∀ reply, task = .done reply →
          reply = ((left m₀ writes b gone).perform w.1 w.2).result := by
      intro settled behind
      cases behind with
      | waiting prepared => simp [ticket?] at noTicket
      | dropped => exact ⟨.dropped, by simp, by simp⟩
      | refused refused =>
        have refused := (left_prepare : (left m₀ writes b gone).prepare _ = _).trans refused
        refine ⟨.done, ?_, ?_⟩
        · simp [Model.perform, refused, bind, Except.bind]
        · rintro reply ⟨⟩
          simp [Model.perform, refused, bind, Except.bind]
    obtain ⟨past, same, answer⟩ := inert _ behind
    have step := (Entries.next h).close hw ht past answer
    have same := (left_concat hw).trans same
    obtain ⟨entries, hleft⟩ := ih step (fun k hk => ended k (List.mem_cons_of_mem _ hk))
    rw [List.append_assoc] at entries hleft
    exact ⟨entries, hleft.trans same⟩

theorem Entries.handOver (h : Entries m₀ writes b gone none line)
    (model : m = (left m₀ writes b gone).withLock m.lock)
    (lock : m.lock.Line (line.filterMap b.ticketOf).head? (line.filterMap b.ticketOf).tail) :
    ∃ gone' held line', gone' ++ held.toList ++ line' = gone ++ line ∧
      Ledger m₀ writes b m gone' held line' := by
  cases tickets : line.filterMap b.ticketOf with
  | nil =>
    rw [tickets] at lock
    exact ⟨gone, none, line, by simp, h, model, by simpa [tickets] using lock⟩
  | cons ticket waiting =>
    rw [tickets] at lock
    obtain ⟨first, n, rest, rfl, ended, hn, rfl⟩ := List.filterMap_eq_cons_iff.mp tickets
    obtain ⟨entries, same⟩ := h.absorb ended
    refine ⟨gone ++ first, some n, rest, by simp, entries.next, ?_, by simpa [hn] using lock⟩
    obtain ⟨w, task, hw, ht, behind⟩ := h.behind n (by simp)
    have hasTicket : task.ticket? = some ticket := by simpa [Board.ticketOf, ht] using hn
    refine ⟨w, task, hw, ht, ?_⟩
    rw [same, model]
    generalize b.settled n = settled at behind
    cases behind with
    | refused refused => simp [ticket?] at hasTicket
    | dropped => simp [ticket?] at hasTicket
    | waiting prepared =>
      exact ⟨rfl, ⟨_, hasTicket⟩, [], .waiting (by rwa [left_prepare])⟩

end

end Task

end DocStore
