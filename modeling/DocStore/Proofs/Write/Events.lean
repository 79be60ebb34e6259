import DocStore.Proofs.Write.Replay

/-!
# The events of a schedule

Whatever the order in which writes are looked at and dropped, whichever hooks fail, and wherever
owners leave: the events that are told make a copy of the collection. A look at a task commits once
at most and tells one event of it, and between the planning of a write and its commit nobody else
commits.
-/

namespace DocStore

/-- The second model is the first one with another collection and another lock. -/
structure Model.Alike (m m' : Model) : Prop where
  handle : m'.handle = m.handle
  listeners : m'.listeners = m.listeners
  behavior : m'.behavior = m.behavior

namespace Task

/-- A task that can go on: its request is one on a document, its commit can be carried out as things
are, and the recorder will not mistake its hooks. -/
inductive Ready (read : String → Option Change) (m : Model) : Task → Prop
  | fresh (byId : request.IsById) : Ready read m (.fresh source request)
  | waiting (byId : request.IsById) (prepared : m.prepare request = .ok job) :
      Ready read m (.waiting ticket source job)
  | before (due : c.Due m) (quiet : ∀ h ∈ pending.hooks, read h.label = none) :
      Ready read m (.before ticket c pending)
  | after (quiet : ∀ h ∈ pending.hooks, read h.label = none) :
      Ready read m (.after ticket c pending)
  | done : Ready read m (.done reply)
  | dropped : Ready read m .dropped

/-- A look that changes nothing but the lock. -/
structure Idles (read : String → Option Change) (m : Model) (look : Look) : Prop where
  alike : m.Alike look.model
  kept : look.model.collection = m.collection
  silent : Event.heard read look.notices = []
  ready : Ready read look.model look.task

/-- A look that carries out one commit and tells one event. -/
structure Commits (read : String → Option Change) (m : Model) (c : Commit) (look : Look) :
    Prop where
  due : c.Due m
  alike : m.Alike look.model
  applied : look.model.collection = m.collection.apply (.commit c)
  heard : Event.heard read look.notices = [⟨c.change, c.document⟩]
  ready : Ready read look.model look.task

end Task

variable {read : String → Option Change} {m m' : Model} {source : Source} {request : Request}
  {c : Commit}

theorem Commit.Due.congr (due : c.Due m) (handle : m'.handle = m.handle)
    (kept : m'.collection = m.collection) : c.Due m' := by
  obtain ⟨used, ⟨source, document⟩, admits, removed⟩ := due
  refine ⟨kept ▸ used, ⟨source, ?_⟩, ?_, kept ▸ removed⟩
  · simpa only [Model.documentOf, Model.schema, handle] using document
  · simpa only [Model.schema, handle] using admits

theorem Commit.Fits.due (fits : c.Fits m source request)
    (admits : c.change ≠ .remove → m.schema.Admits c.id c.fields c.change) : c.Due m :=
  ⟨fits.used, ⟨_, fits.document⟩, admits, fits.removed⟩

theorem Model.Alike.trans {last : Model} (first : m.Alike m') (second : m'.Alike last) :
    m.Alike last :=
  ⟨second.handle.trans first.handle, second.listeners.trans first.listeners,
    second.behavior.trans first.behavior⟩

theorem Model.alike_withLock (m : Model) (lock : Lock) : m.Alike (m.withLock lock) :=
  ⟨rfl, rfl, rfl⟩

theorem Model.alike_commit (m : Model) (c : Commit) : m.Alike (m.commit (.commit c)).1 :=
  ⟨rfl, rfl, rfl⟩

theorem Model.Alike.records (alike : m.Alike m') (records : m.Records read) : m'.Records read :=
  ⟨alike.listeners ▸ records.listens, alike.behavior ▸ records.apart⟩

theorem Model.Records.hooks (records : m.Records read) (phase : Phase) (action : Action) :
    ∀ h ∈ m.hooks phase action, read h.label = none :=
  fun h mem => records.apart h (List.mem_filter.mp mem).1

theorem Model.Records.heard_commit (records : m.Records read) (c : Commit) :
    Event.heard read (m.commit (.commit c)).2 = [⟨c.change, c.document⟩] := by
  have labels := congrArg (List.map fun change => (⟨change, c.document⟩ : Event))
    (records.listens c.change)
  rw [List.map_filterMap] at labels
  simp only [Model.commit, Event.heard, List.filterMap_map]
  exact labels

namespace Task

-- ---------------------------------------------------------------------------
-- One look
-- ---------------------------------------------------------------------------

/-- Only what is about to be committed depends on the collection. -/
theorem Ready.congr {task : Task} (ready : Ready read m task) (handle : m'.handle = m.handle)
    (kept : ∀ ticket c pending, task = .before ticket c pending → m'.collection = m.collection) :
    Ready read m' task := by
  cases ready with
  | fresh byId => exact .fresh byId
  | waiting byId prepared => exact .waiting byId ((Model.prepare_congr handle).trans prepared)
  | before due quiet => exact .before (due.congr handle (kept _ _ _ rfl)) quiet
  | after quiet => exact .after quiet
  | done => exact .done
  | dropped => exact .dropped

section
variable {look : Look} {more : List Notice} {pending : Pending} {hooks : List Hook}
  {ticket : Nat} {task : Task}

theorem Idles.leaving (idles : Idles read m look) (silent : Event.heard read more = []) :
    Idles read m (look.leaving more) where
  alike := idles.alike
  kept := idles.kept
  silent := by
    rw [Look.leaving, Event.heard_append, silent, idles.silent]
    rfl
  ready := idles.ready

/-- Hooks that the recorder cannot read are heard of neither while they run nor later. -/
theorem heard_advance (visit : Visit) (pauses : Nat) (quiet : ∀ h ∈ hooks, read h.label = none) :
    Event.heard read (advance m visit pauses hooks).2 = [] ∧
      ∀ rest left, advance m visit pauses hooks = (.stopped rest, left) →
        ∀ h ∈ rest.hooks, read h.label = none := by
  induction hooks generalizing pauses with
  | nil => cases pauses <;> simp [advance, Event.heard]
  | cons h hooks ih =>
    obtain ⟨silent, quiet'⟩ := List.forall_mem_cons.mp quiet
    cases pauses with
    | succ pauses =>
      refine ⟨by simp [advance, Event.heard], fun rest left stops => ?_⟩
      simp only [advance, Prod.mk.injEq, Progress.stopped.injEq] at stops
      rw [← stops.1]
      exact quiet
    | zero =>
      have notice : Event.heard read [m.notice h.label visit.document] = [] := by
        simp [Event.heard, Model.notice, silent]
      cases hc : h.check visit.document with
      | error e => simpa [advance, hc] using notice
      | ok u =>
        obtain ⟨later, stops⟩ := ih (Pending.start visit hooks).pauses quiet'
        simp only [advance, hc]
        refine ⟨?_, fun rest left stopped => ?_⟩
        · rw [← List.singleton_append, Event.heard_append, notice, later]
          rfl
        · simp only [Prod.mk.injEq] at stopped
          exact stops rest _ (Prod.ext stopped.1 rfl)

theorem finish_idles (m : Model) (ticket : Nat) (reply : Reply) :
    Idles read m (finish m ticket reply) :=
  ⟨m.alike_withLock _, rfl, rfl, .done⟩

theorem goAfter_idles (quiet : ∀ h ∈ pending.hooks, read h.label = none) :
    Idles read m (goAfter m ticket c pending) := by
  obtain ⟨silent, stops⟩ :=
    heard_advance (m := m) ⟨ticket, c.document⟩ pending.pauses quiet
  simp only [goAfter]
  generalize hadv : advance m ⟨ticket, c.document⟩ pending.pauses pending.hooks = progress at *
  obtain ⟨progress, left⟩ := progress
  cases progress with
  | stopped rest => exact ⟨m.alike_withLock m.lock, rfl, silent, .after (stops rest left rfl)⟩
  | finished => exact (finish_idles m ticket _).leaving silent
  | failed e => exact (finish_idles m ticket _).leaving silent

/-- The look idles, or it carries out a commit. -/
def Does (read : String → Option Change) (m : Model) (look : Look) : Prop :=
  Idles read m look ∨ ∃ c, Commits read m c look

theorem Does.of_withLock {lock : Lock} (does : Does read (m.withLock lock) look) :
    Does read m look := by
  have alike := m.alike_withLock lock
  rcases does with idles | ⟨c, commits⟩
  · exact .inl ⟨alike.trans idles.alike, idles.kept, idles.silent, idles.ready⟩
  · exact .inr ⟨c, commits.due.congr rfl rfl, alike.trans commits.alike, commits.applied,
      commits.heard, commits.ready⟩

theorem goBefore_does (records : m.Records read) (due : c.Due m)
    (quiet : ∀ h ∈ pending.hooks, read h.label = none) :
    Does read m (goBefore m ticket c pending) := by
  obtain ⟨silent, stops⟩ :=
    heard_advance (m := m) ⟨ticket, c.document⟩ pending.pauses quiet
  simp only [goBefore]
  generalize advance m ⟨ticket, c.document⟩ pending.pauses pending.hooks = progress at *
  obtain ⟨progress, left⟩ := progress
  cases progress with
  | stopped rest =>
    exact .inl ⟨m.alike_withLock m.lock, rfl, silent, .before due (stops rest left rfl)⟩
  | failed e => exact .inl ((finish_idles m ticket _).leaving silent)
  | finished =>
    -- the commit tells its event, the hooks after it nothing
    have after : Idles read (m.commit (.commit c)).1 (goAfter (m.commit (.commit c)).1 ticket c
        (Pending.start ⟨ticket, c.document⟩
          ((m.commit (.commit c)).1.hooks .after c.change.action))) := by
      refine goAfter_idles ?_
      rw [hooks_start, Model.hooks_commit]
      exact records.hooks .after c.change.action
    refine .inr ⟨c, due, (m.alike_commit c).trans after.alike, after.kept, ?_, after.ready⟩
    simp only at silent
    simp only [Look.leaving, Event.heard_append, silent, after.silent, records.heard_commit c]
    rfl

theorem goLocked_does (records : m.Records read) (byId : request.IsById)
    (prepared : m.prepare request = .ok job) : Does read m (goLocked m ticket source job) := by
  have plans := m.plans source byId
  rw [prepared] at plans
  simp only [goLocked]
  rcases plans with ⟨e, planned, -⟩ | ⟨c, planned, fits, admits⟩
  · rw [show m.plan source job = .error e from planned]
    exact .inl (finish_idles m ticket _)
  · rw [show m.plan source job = .ok (.commit c) from planned]
    refine goBefore_does records (fits.due admits) ?_
    rw [hooks_start]
    exact records.hooks .before c.change.action

theorem Ready.poll (ready : Ready read m task) (records : m.Records read) :
    Does read m (task.poll m) := by
  have idle (task : Task) (ready : Ready read m task) : Does read m ⟨m, task, []⟩ :=
    .inl ⟨m.alike_withLock m.lock, rfl, rfl, ready⟩
  cases ready with
  | @fresh source request byId =>
    cases prepared : m.prepare request with
    | error e =>
      simp only [Task.poll, prepared]
      exact idle _ .done
    | ok job =>
      simp only [Task.poll, prepared]
      split
      · have records := (m.alike_withLock m.lock.drawTicket.1).records records
        exact (goLocked_does records byId prepared).of_withLock
      · exact .inl ⟨m.alike_withLock _, rfl, rfl, .waiting byId prepared⟩
  | waiting byId prepared =>
    simp only [Task.poll]
    split
    · exact goLocked_does records byId prepared
    · exact idle _ (.waiting byId prepared)
  | before due quiet => exact goBefore_does records due quiet
  | after quiet => exact .inl (goAfter_idles quiet)
  | done => exact idle _ .done
  | dropped => exact idle _ .dropped

theorem Ready.drop (ready : Ready read m task) :
    Idles read m ⟨(task.drop m).1, (task.drop m).2, []⟩ := by
  cases ready with
  | done => exact ⟨m.alike_withLock m.lock, rfl, rfl, .done⟩
  | fresh | dropped => exact ⟨m.alike_withLock m.lock, rfl, rfl, .dropped⟩
  | waiting | before | after => exact ⟨m.alike_withLock _, rfl, rfl, .dropped⟩

end

-- ---------------------------------------------------------------------------
-- One commit at a time
-- ---------------------------------------------------------------------------

section
variable {m₀ : Model} {writes : List (Source × Request)} {b : Board} {gone line : List Nat}
  {held : Option Nat} {n k ticket : Nat} {task : Task} {pending : Pending}

/-- A task between its plan and its commit holds the lock. -/
theorem Ledger.holds (h : Ledger m₀ writes b m gone held line)
    (ht : b.tasks[k]? = some (.before ticket c pending)) : held = some k := by
  by_cases looked : k ∈ gone ++ held.toList ++ line
  · rcases h.place ht looked with ⟨ended, -⟩ | holds | ⟨-, -, -, -, _, _, _, waits⟩
    · cases ended
    · exact holds
    · cases waits
  · obtain ⟨-, w, -, unlooked⟩ := h.unsettled ht looked
    cases unlooked

/-- While another task holds the lock, a look leaves the collection as it is. -/
theorem Ledger.poll_other (h : Ledger m₀ writes b m gone (some k) line)
    (ht : b.tasks[n]? = some task) (other : n ≠ k) :
    (task.poll m).model.collection = m.collection := by
  obtain ⟨ticket, drew, granted⟩ := h.ticket_of_holder
  by_cases looked : n ∈ gone ++ (some k).toList ++ line
  · rcases h.place ht looked with ⟨ended, -⟩ | holds | ⟨mem, -, -, -, ticket, source, job, rfl⟩
    · rw [poll_of_isOver m ended]
    · exact absurd (Option.some.inj holds).symm other
    · have drew : ticket ∈ line.filterMap b.ticketOf :=
        List.mem_filterMap.mpr ⟨n, mem, by simp [Board.ticketOf, ht, ticket?]⟩
      simp only [Task.poll, h.lock.not_isGranted drew, Bool.false_eq_true, if_false]
  · obtain ⟨-, w, -, unlooked⟩ := h.unsettled ht looked
    cases unlooked with
    | dropped => rfl
    | @fresh source request =>
      cases prepared : m.prepare request with
      | error e => simp only [Task.poll, prepared]
      | ok job =>
        have tickets := h.lock
        simp only [Option.bind_some, drew] at tickets
        have waits := tickets.drawTicket_held.not_isGranted
          (List.mem_append_right _ List.mem_cons_self)
        simp only [Task.poll, prepared, waits, Bool.false_eq_true, if_false]

end

-- ---------------------------------------------------------------------------
-- A whole schedule
-- ---------------------------------------------------------------------------

/-- What holds at every moment: nothing but the collection and the lock has changed, every task can
go on, and the events so far make a copy of the model. -/
structure Pool.Follows (read : String → Option Change) (m₀ : Model) (pool : Pool)
    (events : List Event) : Prop where
  alike : m₀.Alike pool.model
  ready : ∀ (n : Nat) task, pool.tasks[n]? = some task → Ready read pool.model task
  told : pool.model.Told events

section
variable {m₀ : Model} {writes : List (Source × Request)} {pool : Pool} {events : List Event}
  {looked : List Nat} {b : Board} {n : Nat} {task : Task}

theorem Pool.run_concat_notices (pool : Pool) (turns : List Turn) (turn : Turn) :
    (pool.run (turns ++ [turn])).2 = (pool.run turns).2 ++ ((pool.run turns).1.take turn).2 := by
  induction turns generalizing pool with
  | nil => simp [run]
  | cons first rest ih =>
    simp only [List.cons_append, run, ih (pool.take first).1, List.append_assoc]

theorem Pool.ready_set (next : Ready read m task)
    (others : ∀ (k : Nat) other, n ≠ k → pool.tasks[k]? = some other → Ready read m other) :
    ∀ (k : Nat) other, (pool.tasks.set n task)[k]? = some other → Ready read m other := by
  intro k other held
  by_cases here : n = k
  · subst here
    have inRange : n < pool.tasks.length := by
      simpa using (List.getElem?_eq_some_iff.mp held).1
    rw [List.getElem?_set_self inRange] at held
    exact Option.some.inj held ▸ next
  · rw [List.getElem?_set_ne here] at held
    exact others k other here held

/-- A task that is not about to commit does not care what the others commit. -/
theorem Pool.Follows.step {next : Model} {more : List Event}
    (follows : Pool.Follows read m₀ pool events) (alike : pool.model.Alike next)
    (told : next.Told (events ++ more)) (ready : Ready read next task)
    (kept : ∀ (k : Nat) ticket c pending, n ≠ k →
      pool.tasks[k]? = some (.before ticket c pending) → next.collection = pool.model.collection) :
    Pool.Follows read m₀ ⟨next, pool.tasks.set n task⟩ (events ++ more) where
  alike := follows.alike.trans alike
  ready := Pool.ready_set ready fun k other ne held =>
    (follows.ready k other held).congr alike.handle fun ticket c pending same =>
      kept k ticket c pending ne (same ▸ held)
  told := told

/-- A look that idles is followed without a word. -/
theorem Pool.Follows.idle {look : Look} (follows : Pool.Follows read m₀ pool events)
    (idles : Idles read pool.model look) :
    Pool.Follows read m₀ ⟨look.model, pool.tasks.set n look.task⟩ events := by
  have told := follows.told.congr idles.alike.handle idles.kept
  rw [← List.append_nil events] at told ⊢
  exact follows.step idles.alike told idles.ready fun _ _ _ _ _ _ => idles.kept

theorem Pool.Follows.poll (follows : Pool.Follows read m₀ pool events) (records : m₀.Records read)
    (schema : m₀.schema.IsSteadfast) (stocked : pool.model.Stocked)
    (keyed : pool.model.collection.Keyed) (serialized : Serialized m₀ writes looked b pool.model)
    (tasks : b.tasks = pool.tasks) (ht : pool.tasks[n]? = some task) :
    Pool.Follows read m₀
      ⟨(task.poll pool.model).model, pool.tasks.set n (task.poll pool.model).task⟩
      (events ++ Event.heard read (task.poll pool.model).notices) := by
  rcases (follows.ready n task ht).poll (follows.alike.records records) with idles | ⟨c, commits⟩
  · rw [idles.silent, List.append_nil]
    exact follows.idle idles
  have schema : pool.model.schema.IsSteadfast := by
    rw [Model.schema, follows.alike.handle]
    exact schema
  have told := follows.told.commit commits.due stocked schema keyed commits.alike.handle
    commits.applied
  rw [commits.heard]
  refine follows.step commits.alike told commits.ready fun k ticket c pending ne held => ?_
  -- a task that is about to commit holds the lock, so this look has not committed
  obtain ⟨gone, holder, line, -, ledger⟩ := serialized
  rw [← tasks] at ht held
  obtain rfl := ledger.holds held
  exact ledger.poll_other ht ne

/-- What a schedule has made of an empty collection so far is what some writes make of it that are
performed one after the other. -/
theorem Pool.run_sound (schema : m₀.schema.IsSteadfast) (empty : m₀.collection = {})
    (idle : m₀.lock.Line none []) (byId : ∀ w ∈ writes, w.2.IsById) (turns : List Turn)
    (handle : ((start m₀ writes).run turns).1.model.handle = m₀.handle) :
    ((start m₀ writes).run turns).1.model.Stocked ∧
      ((start m₀ writes).run turns).1.model.collection.Keyed := by
  have outcome := (run_serialized writes idle turns).outcome.1
  have order : ∀ order : List Nat, ∀ w ∈ order.filterMap (writes[·]?), w ∈ writes := by
    intro order w mem
    obtain ⟨n, -, held⟩ := List.mem_filterMap.mp mem
    exact List.mem_of_getElem? held
  generalize ((start m₀ writes).board turns).ran (entered writes turns) = ran at outcome
  have keyed := Model.performEach_keyed (m := m₀) schema.toIsNamed
    (empty ▸ Collection.keyed_empty) (ran.filterMap (writes[·]?))
  have reached : (serial m₀ writes ran).1.Reachable :=
    Model.performEach_induction (P := Model.Reachable) _
      (fun w mem m _ reached => .write reached w.1 (byId w (order ran w mem))) (.empty empty)
  have same : ((start m₀ writes).run turns).1.model.schema = (serial m₀ writes ran).1.schema := by
    rw [Model.schema, Model.schema, handle, serial_handle]
  refine ⟨⟨?_, ?_⟩, outcome ▸ keyed⟩ <;> rw [outcome, same]
  · exact reached.stocked.admitted
  · exact reached.stocked.issued

theorem Pool.run_follows (records : m₀.Records read) (schema : m₀.schema.IsSteadfast)
    (empty : m₀.collection = {}) (idle : m₀.lock.Line none [])
    (byId : ∀ w ∈ writes, w.2.IsById) (turns : List Turn) :
    Pool.Follows read m₀ ((start m₀ writes).run turns).1
      (Event.heard read ((start m₀ writes).run turns).2) := by
  induction turns using List.reverseRecOn with
  | nil =>
    refine ⟨⟨rfl, rfl, rfl⟩, fun n task held => ?_, fun source => ?_, ?_⟩
    · obtain ⟨w, mem, rfl⟩ := List.mem_map.mp (List.mem_of_getElem? held)
      exact .fresh (byId w mem)
    · simp [run, start, Model.copy, empty, Copy.replay, Event.heard]
    · simp [run, start, Model.count, empty, Event.heard]
  | append_singleton turns turn ih =>
    obtain ⟨stocked, keyed⟩ := run_sound schema empty idle byId turns ih.alike.handle
    have serialized := run_serialized writes idle turns
    rw [run_concat, run_concat_notices, Event.heard_append]
    cases turn with
    | poll n =>
      cases ht : ((start m₀ writes).run turns).1.tasks[n]? with
      | none => simpa [take, ht, Event.heard] using ih
      | some task =>
        simp only [take, ht]
        exact ih.poll records schema stocked keyed serialized rfl ht
    | drop n =>
      cases ht : ((start m₀ writes).run turns).1.tasks[n]? with
      | none => simpa [take, ht, Event.heard] using ih
      | some task =>
        simp only [take, ht, Event.heard, List.filterMap_nil, List.append_nil]
        exact ih.idle (ih.ready n task ht).drop

end

/-- For every schedule of writes to an empty collection, the events that were told make a copy of
it: the documents of a query, in their order, and as many as were inserted and not removed. -/
theorem Pool.run_replayed {m : Model} (schema : m.schema.IsSteadfast) (empty : m.collection = {})
    (unlocked : m.lock.locked = false) (idle : m.lock.queue = []) (records : m.Records read)
    (writes : List (Source × Request)) (byId : ∀ w ∈ writes, w.2.IsById) (turns : List Turn) :
    let run := (Pool.start m writes).run turns
    let events := Event.heard read run.2
    (∀ source, (Copy.replay events).documents = (run.1.model.query source).items) ∧
      run.1.model.count + events.countP (Event.isOf .remove) =
        events.countP (Event.isOf .insert) := by
  intro run events
  have line := Lock.line_free unlocked idle
  have follows := Pool.run_follows records schema empty line byId turns
  obtain ⟨stocked, -⟩ := Pool.run_sound schema empty line byId turns follows.alike.handle
  have schema : run.1.model.schema.IsSteadfast := by
    rw [Model.schema, follows.alike.handle]
    exact schema
  exact ⟨follows.told.documents stocked schema, follows.told.count⟩

/-- A failure after each commit, a removal that its owner leaves, and an id that comes back. -/
theorem Pool.run_replayed_back :
    let audit : Hook :=
      { phase := .after, action := .save, label := "audit", check := fun _ => .error (.hook "no") }
    let guard : Hook :=
      { phase := .before, action := .remove, label := "guard", pauses := fun _ => 1,
        check := fun _ => .ok () }
    let m : Model :=
      { handle := ⟨0, "notes", Schema.initial⟩, behavior := { hooks := [audit, guard] },
        listeners := [⟨.insert, "insert"⟩, ⟨.update, "update"⟩, ⟨.remove, "remove"⟩] }
    let source : Source := ⟨fun _ => 0, ⟨0, 0⟩, []⟩
    let doc (id : String) : Value := .object [("_id", .string id)]
    let writes := [(source, .insert (doc "a")), (source, .insert (doc "b")), (source, .remove "a"),
      (source, .remove "a"), (source, .save (doc "a"))]
    let run := (Pool.start m writes).run
      [.poll 0, .poll 2, .poll 1, .drop 2, .poll 1, .poll 3, .poll 3, .poll 4]
    let events := Event.heard Change.ofName? run.2
    (m.schema.IsSteadfast ∧ m.collection = {} ∧ m.lock.locked = false ∧ m.lock.queue = [] ∧
      m.Records Change.ofName? ∧ ∀ w ∈ writes, w.2.IsById) ∧
      events.map Event.change = [.insert, .insert, .remove, .insert] ∧
      (Copy.replay events).documents.map Document.id? = [some "a", some "b"] ∧
      (∀ source, (Copy.replay events).documents = (run.1.model.query source).items) ∧
      run.1.model.count + events.countP (Event.isOf .remove) =
        events.countP (Event.isOf .insert) := by
  intro audit guard m source doc writes run events
  have schema : m.schema.IsSteadfast :=
    { Schema.isNamed_initial with
      constant := fun entry mem => by
        obtain rfl := List.mem_singleton.mp mem
        simp [FieldType.IsConstant, FieldType.options] }
  have records : m.Records Change.ofName? := by
    refine ⟨fun change => by cases change <;> rfl, ?_⟩
    simp [m, audit, guard, Change.ofName?]
  have byId : ∀ w ∈ writes, w.2.IsById := by simp [writes, Request.IsById]
  exact ⟨⟨schema, rfl, rfl, rfl, records, byId⟩, by decide +kernel, by decide +kernel,
    Pool.run_replayed schema rfl rfl rfl records writes byId _⟩

end Task

end DocStore
