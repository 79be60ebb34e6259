import DocStore.Proofs.Write.Slots

/-!
# Two ways of searching

A search by the model tests the fields as they are kept, a step of a query tests the documents that
were read from them. Both find the same exactly when reading changes nothing. Writes only store what
reading leaves alone; a load stores what it is given.
-/

namespace DocStore

/-- What the options leave of a list. -/
def FindOptions.page {α : Type} (options : FindOptions) (found : List α) : List α :=
  match options.limit with
  | some n => (found.drop options.skip).take n
  | none => found.drop options.skip

def Query.page {α : Type} (options : FindOptions) (q : Query α) : Query α :=
  match options.limit with
  | some n => (q.skip options.skip).limit n
  | none => q.skip options.skip

/-- The searches of a model find what the steps of a query over all its documents find, whatever
either of them draws while it reads, and are refused for the same reasons. -/
structure Model.SearchesAgree (m : Model) : Prop where
  find : ∀ source other selector options, m.find source selector options =
    ((m.query other).find selector).map (Query.page options)
  findLean : ∀ source other selector options, m.findLean source selector options =
    ((m.query other).find selector).map fun found =>
      ⟨found.model, (found.page options).items.map Document.fields⟩
  findOne : ∀ source other selector, m.findOne source selector =
    ((m.query other).find selector).map Query.first?

-- ---------------------------------------------------------------------------
-- What is drawn
-- ---------------------------------------------------------------------------

namespace Schema

variable {schema : Schema} {source other : Source} {doc : Fields}

theorem fillEntry_congr_source (now : source.now = other.now)
    (drawn : source.entropy source.trail = other.entropy other.trail)
    (entry : Path × FieldType) (doc : Fields) :
    fillEntry source entry doc = fillEntry other entry doc := by
  have same (type : FieldType) : type.default source = type.default other := by
    simp only [FieldType.default, Source.freshId, now, drawn]
  simp only [fillEntry, FieldType.cast, same]

/-- Filling draws from the branches of its source and nowhere else. -/
theorem fill_congr_source (now : source.now = other.now)
    (drawn : ∀ n, source.entropy (n :: source.trail) = other.entropy (n :: other.trail)) :
    schema.fill source doc = schema.fill other doc := by
  rw [fill, fill]
  generalize 0 = n
  induction schema.entries generalizing n doc with
  | nil => rfl
  | cons entry rest ih =>
    have now : (source.branch n).now = (other.branch n).now := now
    rw [fillFrom, fillFrom, fillEntry_congr_source now (drawn n), ih]

end Schema

-- ---------------------------------------------------------------------------
-- Reading that changes nothing
-- ---------------------------------------------------------------------------

namespace Model

variable {m : Model} {source other : Source} {found : List Fields} {p : Predicate}

theorem scan_eq (m : Model) (selector : Selector) (options : FindOptions) :
    m.scan selector options = (m.schema.compileQuery selector).map fun p =>
      options.page (m.collection.live.filter p.holds) := by
  simp only [scan]
  cases m.schema.compileQuery selector <;> rfl

theorem SearchesAgree.filter (agree : m.SearchesAgree) (p : Fields → Bool)
    (source other : Source) : m.documentsOf source (m.collection.live.filter p) =
      (m.documentsOf other m.collection.live).filter fun doc => p doc.fields := by
  have same : Except.ok (Query.mk m.handle (m.documentsOf source (m.collection.live.filter p))) =
      .ok (Query.mk m.handle
        ((m.documentsOf other m.collection.live).filter fun doc => p doc.fields)) :=
    agree.find source other (.test p) {}
  exact congrArg Query.items (Except.ok.inj same)

/-- A search for one stored document shows it as it is stored. -/
theorem SearchesAgree.still (agree : m.SearchesAgree) :
    ∀ doc ∈ m.collection.live, ∀ source, m.schema.fill source doc = doc := by
  classical
  intro doc stored source
  -- a source whose first branch draws what the given one does
  let first : Source :=
    { entropy := fun trail => source.entropy (trail.headD 0 :: source.trail), now := source.now }
  have drawn : m.schema.fill (first.branch 0) doc = m.schema.fill source doc :=
    Schema.fill_congr_source rfl fun _ => rfl
  have same := agree.filter (fun fields => decide (fields = doc)) first first
  have mem : doc ∈ m.collection.live.filter fun fields => decide (fields = doc) := by
    simpa using stored
  cases found : m.collection.live.filter fun fields => decide (fields = doc) with
  | nil => simp [found] at mem
  | cons d rest =>
    have one : d = doc := by
      have mem : d ∈ m.collection.live.filter fun fields => decide (fields = doc) := by simp [found]
      simpa using (List.mem_filter.mp mem).2
    have shown : m.documentOf (first.branch 0) d ∈ m.documentsOf first (d :: rest) :=
      List.mem_cons_self
    rw [← found, same] at shown
    have kept : (m.documentOf (first.branch 0) d).fields = doc := by
      simpa using (List.mem_filter.mp shown).2
    rw [← drawn, ← one]
    exact kept.trans one.symm

end Model

end DocStore
