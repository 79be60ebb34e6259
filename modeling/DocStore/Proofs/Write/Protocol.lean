import DocStore.Proofs.Write.Plan

/-!
# The protocol of a write

A write that runs on its own either fails before its commit, and then nothing has changed and nobody
but hooks before the commit has seen the document, or it commits: hooks, one slot, listeners of one
change, hooks, in this order. A failure after the commit is reported and undoes nothing.
-/

namespace DocStore

/-- Hooks run on a document in order, all of them or up to the first one that refuses it. -/
inductive HooksRun (doc : Document) : List Hook → List Hook → Except Error Unit → Prop
  | all (passed : ∀ h ∈ hooks, h.check doc = .ok ()) : HooksRun doc hooks hooks (.ok ())
  | upTo (passed : ∀ h ∈ before, h.check doc = .ok ()) (failed : h.check doc = .error e) :
      HooksRun doc (before ++ h :: rest) (before ++ [h]) (.error e)

/-- What is left behind by those who are shown a document at one moment. -/
def Model.noticesOf (m : Model) (doc : Document) (labels : List String) : List Notice :=
  labels.map fun label => m.notice label doc

/-- A hook before the commit refused the document. -/
def Outcome.Vetoed (outcome : Outcome (Option Document)) (m : Model) (c : Commit) : Prop :=
  ∃ ran e, HooksRun c.document (m.hooks .before c.change.action) ran (.error e) ∧
    outcome = ⟨m, m.noticesOf c.document (ran.map Hook.label), .error e⟩

/-- The write was carried out. -/
structure Outcome.Committed (outcome : Outcome (Option Document)) (m : Model) (c : Commit) :
    Prop where
  passed : ∀ h ∈ m.hooks .before c.change.action, h.check c.document = .ok ()
  /-- Nothing but the collection has changed. -/
  model : outcome.model = { m with collection := outcome.model.collection }
  slot : outcome.model.collection.slot? c.id =
    some (if c.change = .remove then none else some c.fields)
  others : ∀ id ≠ c.id, outcome.model.collection.slot? id = m.collection.slot? id
  order : outcome.model.collection.order =
    if c.id ∈ m.collection.order then m.collection.order else m.collection.order ++ [c.id]
  size : outcome.model.collection.size = match c.change with
    | .insert => m.collection.size + 1
    | .update => m.collection.size
    | .remove => m.collection.size - 1
  /-- Hooks before the commit, listeners of its change, hooks after it; the answer is the document
  unless one of the last refused it. -/
  run : ∃ ran result, HooksRun c.document (m.hooks .after c.change.action) ran result ∧
    outcome.notices =
      m.noticesOf c.document ((m.hooks .before c.change.action).map Hook.label) ++
      outcome.model.noticesOf c.document
        ((m.listeners.filter (·.change == c.change)).map Listener.label) ++
      outcome.model.noticesOf c.document (ran.map Hook.label) ∧
    outcome.result = result.map fun _ => some c.document

-- ---------------------------------------------------------------------------
-- Hooks
-- ---------------------------------------------------------------------------

theorem HooksRun.cons (passed : h.check doc = .ok ()) (run : HooksRun doc hooks ran result) :
    HooksRun doc (h :: hooks) (h :: ran) result := by
  cases run with
  | all rest => exact .all (List.forall_mem_cons.mpr ⟨passed, rest⟩)
  | upTo rest failed =>
    rw [← List.cons_append, ← List.cons_append]
    exact .upTo (List.forall_mem_cons.mpr ⟨passed, rest⟩) failed

theorem HooksRun.eq_all (run : HooksRun doc hooks ran (.ok ())) :
    ran = hooks ∧ ∀ h ∈ hooks, h.check doc = .ok () := by
  cases run with
  | all passed => exact ⟨rfl, passed⟩

theorem Model.runHooks_run (m : Model) (doc : Document) (hooks : List Hook) :
    ∃ ran, HooksRun doc hooks ran (m.runHooks doc hooks).1 ∧
      (m.runHooks doc hooks).2 = m.noticesOf doc (ran.map Hook.label) := by
  induction hooks with
  | nil => exact ⟨[], .all (by simp), rfl⟩
  | cons h rest ih =>
    obtain ⟨ran, run, notices⟩ := ih
    cases hc : h.check doc with
    | error e =>
      refine ⟨[h], ?_, by simp [runHooks, hc, noticesOf]⟩
      have run : HooksRun doc ([] ++ h :: rest) ([] ++ [h]) (.error e) := .upTo (by simp) hc
      simpa [runHooks, hc] using run
    | ok u =>
      refine ⟨h :: ran, ?_, by simp [runHooks, hc, notices, noticesOf]⟩
      simpa [runHooks, hc] using run.cons hc

/-- None of the hooks around an action refuses the document. -/
def Model.Passes (m : Model) (action : Action) (d : Document) : Prop :=
  ∀ phase, ∀ h ∈ m.hooks phase action, h.check d = .ok ()

/-- No hook refuses any document. -/
def Model.NeverRefuses (m : Model) : Prop := ∀ action d, m.Passes action d

theorem Model.runHooks_ok_iff {m : Model} {d : Document} {hooks : List Hook} :
    (m.runHooks d hooks).1 = .ok () ↔ ∀ h ∈ hooks, h.check d = .ok () := by
  induction hooks with
  | nil => simp [runHooks]
  | cons h rest ih =>
    cases checked : h.check d with
    | error e => simp [runHooks, checked]
    | ok u => simp [runHooks, checked, ih]

theorem Model.passes_iff {m : Model} {action : Action} {d : Document} :
    m.Passes action d ↔ (m.runHooks d (m.hooks .before action)).1 = .ok () ∧
      (m.runHooks d (m.hooks .after action)).1 = .ok () := by
  rw [runHooks_ok_iff, runHooks_ok_iff]
  constructor
  · intro passes
    exact ⟨passes .before, passes .after⟩
  · rintro ⟨before, after⟩ phase
    cases phase with
    | before => exact before
    | after => exact after

theorem Model.runHooks_commit (m : Model) (plan : Plan) (d : Document) (hooks : List Hook) :
    ((m.commit plan).1.runHooks d hooks).1 = (m.runHooks d hooks).1 := by
  induction hooks with
  | nil => rfl
  | cons h rest ih =>
    cases checked : h.check d with
    | error e => simp [runHooks, checked]
    | ok u => simp [runHooks, checked, ih]

-- ---------------------------------------------------------------------------
-- The collection after a commit
-- ---------------------------------------------------------------------------

namespace Collection

variable {c : Commit} {collection : Collection}

theorem slot?_apply (used : c.change = .remove → collection.contains c.id = true) :
    (collection.apply (.commit c)).slot? c.id =
      some (if c.change = .remove then none else some c.fields) := by
  obtain ⟨change, id, fields, document⟩ := c
  cases change with
  | remove => exact slot?_erase_self (used rfl)
  | _ => exact slot?_put_self

theorem slot?_apply_of_ne (ne : other ≠ c.id) :
    (collection.apply (.commit c)).slot? other = collection.slot? other := by
  obtain ⟨change, id, fields, document⟩ := c
  cases change with
  | remove => exact slot?_erase_of_ne ne
  | _ => exact slot?_put_of_ne ne

theorem order_apply (used : c.change = .remove → collection.contains c.id = true) :
    (collection.apply (.commit c)).order =
      if c.id ∈ collection.order then collection.order else collection.order ++ [c.id] := by
  obtain ⟨change, id, fields, document⟩ := c
  cases change with
  | remove => exact order_erase.trans (if_pos (mem_order (used rfl))).symm
  | _ => exact order_put

theorem size_apply (used : collection.contains c.id = true ↔ c.change ≠ .insert) :
    (collection.apply (.commit c)).size = match c.change with
      | .insert => collection.size + 1
      | .update => collection.size
      | .remove => collection.size - 1 := by
  obtain ⟨change, id, fields, document⟩ := c
  cases change with
  | insert => simp [apply, put, show collection.contains id = false by simpa using used]
  | update => simp [apply, put, show collection.contains id = true by simpa using used]
  | remove => simp [apply, erase, show collection.contains id = true by simpa using used]

end Collection

-- ---------------------------------------------------------------------------
-- The whole write
-- ---------------------------------------------------------------------------

theorem Model.execute_commit (m : Model) (c : Commit)
    (used : m.collection.contains c.id = true ↔ c.change ≠ .insert) :
    (m.execute (.commit c)).Vetoed m c ∨ (m.execute (.commit c)).Committed m c := by
  obtain ⟨ran, run, notices⟩ := m.runHooks_run c.document (m.hooks .before c.change.action)
  cases before : m.runHooks c.document (m.hooks .before c.change.action) with
  | mk result left =>
    rw [before] at run notices
    obtain rfl := notices
    cases result with
    | error e => exact .inl ⟨ran, e, run, by simp only [execute, before]⟩
    | ok u =>
      obtain ⟨rfl, passed⟩ := run.eq_all
      obtain ⟨ran, run, notices⟩ := (m.commit (.commit c)).1.runHooks_run c.document
        (m.hooks .after c.change.action)
      have removing : c.change = .remove → m.collection.contains c.id = true :=
        fun h => used.mpr (by simp [h])
      have result : m.execute (.commit c) = ⟨(m.commit (.commit c)).1,
          m.noticesOf c.document ((m.hooks .before c.change.action).map Hook.label) ++
            (m.commit (.commit c)).2 ++
            (m.commit (.commit c)).1.noticesOf c.document (ran.map Hook.label),
          ((m.commit (.commit c)).1.runHooks c.document
            (m.hooks .after c.change.action)).1.map fun _ => some c.document⟩ := by
        rw [← notices]
        simp only [execute, before]
        rfl
      refine .inr ⟨passed, ?_, ?_, ?_, ?_, ?_, ran, _, run, ?_, ?_⟩ <;> rw [result]
      · rfl
      · exact Collection.slot?_apply removing
      · exact fun id ne => Collection.slot?_apply_of_ne ne
      · exact Collection.order_apply removing
      · exact Collection.size_apply used
      · simp only [commit, noticesOf, List.map_map, Function.comp_def]

/-- A commit is answered by its document exactly when no hook refuses that. -/
theorem Model.execute_ok_iff {m : Model} {c : Commit} {d : Option Document} :
    (m.execute (.commit c)).result = .ok d ↔
      m.Passes c.change.action c.document ∧ some c.document = d := by
  rw [passes_iff]
  cases before : m.runHooks c.document (m.hooks .before c.change.action) with
  | mk result left =>
    cases result with
    | error e => simp [execute, before]
    | ok u =>
      have after := m.runHooks_commit (.commit c) c.document
        (m.hooks .after c.change.action)
      simp only [execute, before, true_and, ← after]
      rw [map_eq_ok]
      constructor
      · rintro ⟨_, ran, same⟩
        exact ⟨ran, same⟩
      · rintro ⟨ran, same⟩
        exact ⟨(), ran, same⟩

/-- A commit that no hook refuses changes the collection and nothing else. -/
theorem Model.execute_model {m : Model} {c : Commit}
    (passes : m.Passes c.change.action c.document) :
    (m.execute (.commit c)).model = { m with collection := m.collection.apply (.commit c) } := by
  have before := (passes_iff.mp passes).1
  cases ran : m.runHooks c.document (m.hooks .before c.change.action) with
  | mk result left =>
    obtain rfl : result = .ok () := by rwa [ran] at before
    simp only [execute, ran]
    rfl

/-- A write on one document is refused, vetoed or committed. -/
theorem Model.perform_atomic (m : Model) (source : Source) (request : Request)
    (byId : request.IsById) :
    (∃ e, m.perform source request = ⟨m, [], .error e⟩ ∧ m.Refuses request e) ∨
    ∃ c : Commit, c.Fits m source request ∧
      ((m.perform source request).Vetoed m c ∨ (m.perform source request).Committed m c) := by
  rcases m.plans source byId with ⟨e, hp, refuses⟩ | ⟨c, hp, fits, -⟩
  · exact .inl ⟨e, by simp only [perform, hp], refuses⟩
  · refine .inr ⟨c, fits, ?_⟩
    simpa only [perform, hp] using m.execute_commit c fits.used

/-- A hook that fails after the commit. -/
theorem Model.perform_atomic_insert :
    let audit : Hook :=
      { phase := .after, action := .save, label := "audit", check := fun _ => .error (.hook "no") }
    let m : Model :=
      { handle := ⟨0, "notes", Schema.initial⟩, behavior := { hooks := [audit] } }
    let source : Source := ⟨fun _ => 0, ⟨0, 0⟩, []⟩
    let request : Request := .insert (.object [("_id", .string "a")])
    request.IsById ∧
      ((∃ e, m.perform source request = ⟨m, [], .error e⟩ ∧ m.Refuses request e) ∨
      ∃ c : Commit, c.Fits m source request ∧
        ((m.perform source request).Vetoed m c ∨ (m.perform source request).Committed m c)) :=
  ⟨trivial, Model.perform_atomic _ _ _ trivial⟩

end DocStore
