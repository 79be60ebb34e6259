import DocStore.Proofs.Write.Protocol
import DocStore.Write.Task

/-!
# The write that holds the lock

While one write holds the lock nobody else commits. Whatever the pauses of its hooks, it goes
through the states of the same write performed at once, and it keeps its ticket until it is over.
-/

namespace DocStore

namespace Model

def withLock (m : Model) (lock : Lock) : Model := { m with lock }

variable {m : Model} {lock other : Lock} {plan : Plan} {hooks : List Hook} {doc : Document}
  {phase : Phase} {action : Action} {c : Commit}

@[simp] theorem withLock_withLock : (m.withLock lock).withLock other = m.withLock other := rfl
@[simp] theorem withLock_lock : (m.withLock lock).lock = lock := rfl
@[simp] theorem withLock_plan : (m.withLock lock).plan source job = m.plan source job := rfl
@[simp] theorem withLock_hooks : (m.withLock lock).hooks phase action = m.hooks phase action := rfl
@[simp] theorem withLock_notice : (m.withLock lock).notice label doc = m.notice label doc := rfl

theorem withLock_commit :
    (m.withLock lock).commit plan = ((m.commit plan).1.withLock lock, (m.commit plan).2) := by
  cases plan <;> rfl

@[simp] theorem hooks_commit : (m.commit plan).1.hooks phase action = m.hooks phase action := by
  cases plan <;> rfl

@[simp] theorem withLock_runHooks :
    (m.withLock lock).runHooks doc hooks = m.runHooks doc hooks := by
  induction hooks with
  | nil => rfl
  | cons h rest ih => simp only [runHooks, ih, withLock_notice]

theorem execute_of_error
    (h : m.runHooks c.document (m.hooks .before c.change.action) = (.error e, left)) :
    m.execute (.commit c) = ⟨m, left, .error e⟩ := by
  simp only [execute, h]

theorem execute_of_ok
    (h : m.runHooks c.document (m.hooks .before c.change.action) = (.ok (), left)) :
    m.execute (.commit c) = ⟨(m.commit (.commit c)).1,
      left ++ (m.commit (.commit c)).2 ++
        ((m.commit (.commit c)).1.runHooks c.document (m.hooks .after c.change.action)).2,
      ((m.commit (.commit c)).1.runHooks c.document (m.hooks .after c.change.action)).1.map
        fun _ => some c.document⟩ := by
  simp only [execute, h]
  rfl

theorem prepare_congr {base : Model} (h : m.handle = base.handle) :
    m.prepare request = base.prepare request := by
  cases request <;> simp only [prepare, schema, h]

theorem perform_handle (m : Model) (source : Source) (request : Request) :
    (m.perform source request).model.handle = m.handle := by
  simp only [perform]
  split
  · rename_i plan _
    cases plan with
    | load collection => rfl
    | commit c =>
      simp only [execute]
      split <;> rfl
  · rfl

end Model

namespace Task

/-- The ticket of a task that asked for the lock and is not over. -/
def ticket? : Task → Option Nat
  | .waiting ticket _ _ | .before ticket _ _ | .after ticket _ _ => some ticket
  | _ => none

/-- A task that got the lock when the model was `base` is in a state of the write performed at once,
and has left some of its notices behind. -/
inductive Tracks (base : Model) (source : Source) (request : Request) :
    List Notice → Model → Task → Prop
  | waiting (prepared : base.prepare request = .ok job) :
      Tracks base source request [] (base.withLock lock) (.waiting ticket source job)
  | before (planned : base.perform source request = base.execute (.commit c))
      (hooks : base.runHooks c.document (base.hooks .before c.change.action) =
        ((base.runHooks c.document pending.hooks).1,
          left ++ (base.runHooks c.document pending.hooks).2)) :
      Tracks base source request left (base.withLock lock) (.before ticket c pending)
  | after (result : (base.perform source request).result =
        (m.runHooks c.document pending.hooks).1.map fun _ => some c.document)
      (notices : (base.perform source request).notices =
        left ++ (m.runHooks c.document pending.hooks).2)
      (model : m = (base.perform source request).model.withLock lock) :
      Tracks base source request left m (.after ticket c pending)
  | done : Tracks base source request (base.perform source request).notices
      ((base.perform source request).model.withLock lock)
      (.done (base.perform source request).result)

/-- The task still has its ticket, or it is over and has given it back. -/
def Keeps (lock : Lock) (ticket : Nat) (look : Look) : Prop :=
  (look.task.ticket? = some ticket ∧ look.model.lock = lock) ∨
  ∃ result, look.task = .done result ∧ look.model.lock = (lock.abandon ticket).1

-- ---------------------------------------------------------------------------
-- Hooks with pauses
-- ---------------------------------------------------------------------------

@[simp] theorem hooks_start : (Pending.start visit hooks).hooks = hooks := by
  cases hooks <;> rfl

/-- A pause cuts a run of hooks in two, and nothing else. -/
theorem advance_cases (m : Model) (visit : Visit) (pauses : Nat) (hooks : List Hook) :
    (∃ rest left, advance m visit pauses hooks = (.stopped rest, left) ∧
      m.runHooks visit.document hooks = ((m.runHooks visit.document rest.hooks).1,
        left ++ (m.runHooks visit.document rest.hooks).2)) ∨
    (∃ left, advance m visit pauses hooks = (.finished, left) ∧
      m.runHooks visit.document hooks = (.ok (), left)) ∨
    ∃ e left, advance m visit pauses hooks = (.failed e, left) ∧
      m.runHooks visit.document hooks = (.error e, left) := by
  induction hooks generalizing pauses with
  | nil => exact .inr (.inl ⟨[], by cases pauses <;> rfl, rfl⟩)
  | cons h rest ih =>
    cases pauses with
    | succ pauses => exact .inl ⟨⟨pauses, h :: rest⟩, [], rfl, rfl⟩
    | zero =>
      cases hc : h.check visit.document with
      | error e =>
        refine .inr (.inr ⟨e, [m.notice h.label visit.document], ?_, ?_⟩)
        · simp only [advance, hc]
        · simp only [Model.runHooks, hc]
      | ok u =>
        simp only [advance, Model.runHooks, hc]
        rcases ih (Pending.start visit rest).pauses with
          ⟨stop, left, ha, hr⟩ | ⟨left, ha, hr⟩ | ⟨e, left, ha, hr⟩
        · exact .inl ⟨stop, _, by rw [ha], by rw [hr]; rfl⟩
        · exact .inr (.inl ⟨_, by rw [ha], by rw [hr]⟩)
        · exact .inr (.inr ⟨e, _, by rw [ha], by rw [hr]⟩)

-- ---------------------------------------------------------------------------
-- Going on
-- ---------------------------------------------------------------------------

/-- A look at the holder: the task goes on tracking its write, and keeps its ticket. -/
structure Goes (base : Model) (source : Source) (request : Request) (left : List Notice)
    (lock : Lock) (ticket : Nat) (look : Look) : Prop where
  tracks : Tracks base source request (left ++ look.notices) look.model look.task
  keeps : Keeps lock ticket look

section
variable {base m : Model} {source : Source} {request : Request} {left more : List Notice}
  {lock : Lock} {ticket : Nat} {c : Commit} {pending : Pending} {look : Look}

theorem Goes.leaving (h : Goes base source request (left ++ more) lock ticket look) :
    Goes base source request left lock ticket (look.leaving more) where
  tracks := by simpa [Look.leaving] using h.tracks
  keeps := h.keeps

theorem finish_goes (model : m = (base.perform source request).model.withLock m.lock)
    (notices : (base.perform source request).notices = left)
    (result : (base.perform source request).result = reply) :
    Goes base source request left m.lock ticket (finish m ticket reply) where
  tracks := by
    subst notices result
    simp only [finish, List.append_nil]
    rw [model]
    exact .done
  keeps := .inr ⟨reply, rfl, rfl⟩

theorem goAfter_goes (model : m = (base.perform source request).model.withLock m.lock)
    (notices : (base.perform source request).notices =
      left ++ (m.runHooks c.document pending.hooks).2)
    (result : (base.perform source request).result =
      (m.runHooks c.document pending.hooks).1.map fun _ => some c.document) :
    Goes base source request left m.lock ticket (goAfter m ticket c pending) := by
  simp only [goAfter]
  rcases advance_cases m ⟨ticket, c.document⟩ pending.pauses pending.hooks with
    ⟨rest, more, ha, run⟩ | ⟨more, ha, run⟩ | ⟨e, more, ha, run⟩ <;> rw [ha] <;>
    rw [run] at notices result
  · exact ⟨.after result (by rw [notices, List.append_assoc]) model, .inl ⟨rfl, rfl⟩⟩
  · exact (finish_goes model notices result).leaving
  · exact (finish_goes model notices result).leaving

theorem goBefore_goes (planned : base.perform source request = base.execute (.commit c))
    (hooks : base.runHooks c.document (base.hooks .before c.change.action) =
      ((base.runHooks c.document pending.hooks).1,
        left ++ (base.runHooks c.document pending.hooks).2)) :
    Goes base source request left lock ticket
      (goBefore (base.withLock lock) ticket c pending) := by
  simp only [goBefore]
  rcases advance_cases (base.withLock lock) ⟨ticket, c.document⟩ pending.pauses pending.hooks with
    ⟨rest, more, ha, run⟩ | ⟨more, ha, run⟩ | ⟨e, more, ha, run⟩ <;> rw [ha] <;>
    simp only [Model.withLock_runHooks] at run <;> rw [run] at hooks
  · exact ⟨.before planned (by rw [hooks, List.append_assoc]), .inl ⟨rfl, rfl⟩⟩
  · -- the commit lies in this look, and the hooks after it begin
    have performed := planned.trans (Model.execute_of_ok hooks)
    simp only [Model.withLock_commit, Model.withLock_hooks, Model.hooks_commit]
    refine Goes.leaving (goAfter_goes (m := (base.commit (.commit c)).1.withLock lock) ?_ ?_ ?_)
    · rw [performed]
      rfl
    · rw [performed]
      simp
    · rw [performed]
      simp
  · have performed := planned.trans (Model.execute_of_error hooks)
    refine (finish_goes (m := base.withLock lock) ?_ ?_ ?_).leaving
    · rw [performed]
      rfl
    · rw [performed]
    · rw [performed]

theorem goLocked_goes (prepared : base.prepare request = .ok job) :
    Goes base source request [] lock ticket
      (goLocked (base.withLock lock) ticket source job) := by
  simp only [goLocked, Model.withLock_plan]
  cases hp : base.plan source job with
  | error e =>
    have performed : base.perform source request = { model := base, result := .error e } := by
      simp only [Model.perform, prepared, bind, Except.bind, hp]
    refine finish_goes (m := base.withLock lock) ?_ ?_ ?_ <;> rw [performed]
    rfl
  | ok plan =>
    have performed : base.perform source request = base.execute plan := by
      simp only [Model.perform, prepared, bind, Except.bind, hp]
    cases plan with
    | commit c => exact goBefore_goes performed (by simp)
    | load collection =>
      refine finish_goes (m := (base.commit (.load collection)).1.withLock lock) ?_ ?_ ?_ <;>
        rw [performed] <;> rfl

theorem Tracks.of_done (h : Tracks base source request left m (.done reply)) :
    m = (base.perform source request).model.withLock m.lock ∧
      reply = (base.perform source request).result ∧
      left = (base.perform source request).notices := by
  cases h
  exact ⟨rfl, rfl, rfl⟩

theorem Tracks.poll (h : Tracks base source request left m task) (drew : task.ticket? = some ticket)
    (granted : m.lock.isGranted ticket = true) :
    Goes base source request left m.lock ticket (task.poll m) := by
  cases h with
  | waiting prepared =>
    obtain rfl := Option.some.inj drew
    rw [Model.withLock_lock] at granted
    simp only [Task.poll, Model.withLock_lock, granted, if_true]
    exact goLocked_goes prepared
  | before planned hooks =>
    obtain rfl := Option.some.inj drew
    exact goBefore_goes planned hooks
  | after result notices model =>
    obtain rfl := Option.some.inj drew
    refine goAfter_goes ?_ notices result
    rw [model]
    rfl
  | done => simp [ticket?] at drew

end

end Task

end DocStore
