import DocStore.Proofs.Write.Slots

/-!
# Following the changes of a model

Who hears of every change, with the document that it was about, can keep a copy of the collection.
The copy is kept by the rules that the names of the changes suggest; that these are what a commit
does to the collection is shown here for one commit.
-/

namespace DocStore

/-- A change as listeners are told about it. -/
structure Event where
  change : Change
  document : Document

/-- What a listener makes of the notices whose labels it can read. -/
def Event.heard (read : String → Option Change) (notices : List Notice) : List Event :=
  notices.filterMap fun notice => (read notice.label).map fun change => ⟨change, notice.document⟩

theorem Event.heard_append (read : String → Option Change) (first more : List Notice) :
    heard read (first ++ more) = heard read first ++ heard read more :=
  List.filterMap_append

def Event.isOf (change : Change) (event : Event) : Bool := event.change == change

/-- A listener to every change, who cannot read what hooks and other listeners leave behind. -/
structure Model.Records (m : Model) (read : String → Option Change) : Prop where
  listens : ∀ change,
    (m.listeners.filter (·.change == change)).filterMap (fun l => read l.label) = [change]
  apart : ∀ h ∈ m.behavior.hooks, read h.label = none

/-- Documents by their ids, where removed ones leave their places behind. -/
abbrev Copy := List (String × Option Document)

namespace Copy

def overwrite (copy : Copy) (id : String) (held : Option Document) : Copy :=
  copy.map fun e => if e.1 = id then (id, held) else e

/-- An insertion appends a document, or revives it at its old place; an update overwrites it; a
removal deletes it. -/
def follow (copy : Copy) (event : Event) : Copy :=
  match event.document.id?, event.change with
  | none, _ => copy
  | some id, .insert =>
    if id ∈ copy.map Prod.fst then copy.overwrite id (some event.document)
    else copy ++ [(id, some event.document)]
  | some id, .update => copy.overwrite id (some event.document)
  | some id, .remove => copy.overwrite id none

def replay (events : List Event) : Copy := events.foldl follow []

def documents (copy : Copy) : List Document := copy.filterMap Prod.snd

@[simp] theorem replay_concat (events : List Event) (event : Event) :
    replay (events ++ [event]) = (replay events).follow event := by
  simp [replay]

end Copy

-- ---------------------------------------------------------------------------
-- One slot
-- ---------------------------------------------------------------------------

namespace Collection

theorem writeSlot_of_mem {slots : List (String × Option Fields)} {id : String}
    (nodup : (slots.map Prod.fst).Nodup) (mem : id ∈ slots.map Prod.fst) (held : Option Fields) :
    writeSlot id held slots = slots.map fun e => if e.1 = id then (id, held) else e := by
  induction slots with
  | nil => simp at mem
  | cons e rest ih =>
    obtain ⟨k, old⟩ := e
    obtain ⟨fresh, nodup⟩ := List.nodup_cons.mp nodup
    by_cases here : k = id
    · subst here
      have others : ∀ e ∈ rest, (if e.1 = k then (k, held) else e) = e := by
        refine fun e mem => if_neg fun same => fresh ?_
        exact List.mem_map.mpr ⟨e, mem, same⟩
      rw [List.map_cons, if_pos rfl, List.map_congr_left others, List.map_id']
      simp [writeSlot]
    · have mem : id ∈ rest.map Prod.fst := by simpa [Ne.symm here] using mem
      simp [writeSlot, here, ih nodup mem]

end Collection

-- ---------------------------------------------------------------------------
-- The copy of a model
-- ---------------------------------------------------------------------------

namespace Model

variable {m : Model} {source other : Source} {id : String} {doc : Fields}

/-- The copy that shows each document as it is read now. -/
def copy (m : Model) (source : Source) : Copy :=
  m.collection.slots.map fun e => (e.1, e.2.map (m.documentOf source))

@[simp] theorem keys_copy (m : Model) (source : Source) :
    (m.copy source).map Prod.fst = m.collection.order := by
  simp [copy, Collection.order]

theorem documents_copy (m : Model) (source : Source) :
    (m.copy source).documents = m.collection.live.map (m.documentOf source) := by
  rw [Copy.documents, copy, List.filterMap_map, Collection.live, List.map_filterMap]
  rfl

theorem copy_congr {m' : Model} (handle : m'.handle = m.handle) (source : Source) :
    m'.copy source =
      m'.collection.slots.map fun e => (e.1, e.2.map (m.documentOf source)) := by
  have same : m'.documentOf source = m.documentOf source := by
    funext fields
    simp only [documentOf, schema, handle]
  rw [copy, same]

/-- A slot that is written shows in the copy. -/
theorem copy_of_writeSlot {m' : Model} {held : Option Fields} (handle : m'.handle = m.handle)
    (slots : m'.collection.slots = Collection.writeSlot id held m.collection.slots)
    (nodup : m.collection.order.Nodup) (mem : id ∈ m.collection.order) (source : Source) :
    m'.copy source = (m.copy source).overwrite id (held.map (m.documentOf source)) := by
  rw [copy_congr handle, copy, Copy.overwrite, slots, Collection.writeSlot_of_mem nodup mem,
    List.map_map, List.map_map]
  refine List.map_congr_left fun e _ => ?_
  by_cases here : e.1 = id <;> simp [here]

end Model

-- ---------------------------------------------------------------------------
-- One commit
-- ---------------------------------------------------------------------------

/-- The commit was planned on the collection as it is. -/
structure Commit.Due (c : Commit) (m : Model) : Prop where
  used : m.collection.contains c.id = true ↔ c.change ≠ .insert
  document : ∃ source, c.document = m.documentOf source c.fields
  admits : c.change ≠ .remove → m.schema.Admits c.id c.fields c.change
  removed : c.change = .remove → m.collection.find? c.id = some c.fields

/-- A schema whose checked documents look the same whenever they are read. -/
structure Schema.IsSteadfast (schema : Schema) : Prop extends schema.IsNamed where
  constant : ∀ entry ∈ schema.entries, entry.2.IsConstant

namespace Schema

variable {schema : Schema} {id : String} {doc : Fields} {change : Change}

theorem IsNamed.at?_of_admits (named : schema.IsNamed) (admits : schema.Admits id doc change) :
    doc.at? idPath = some (.string id) := by
  cases admits with
  | named source fields own checked => exact named.at?_of_idOf checked own
  | given source fields checked => exact named.at?_of_given checked

theorem IsNamed.textId_fill (named : schema.IsNamed) (admits : schema.Admits id doc change)
    (source : Source) : textId (schema.fill source doc) = some id := by
  obtain ⟨type, mem, text⟩ := named.textual
  obtain ⟨_, _, checked⟩ := admits.passed
  have held := named.at?_of_admits admits
  have safe := named.isSafe mem text checked held
  have kept := safe.fillFrom (List.Subset.refl _) named.stored held source 0
  exact congrArg (·.bind Value.string?) kept

end Schema

variable {m : Model} {c : Commit}

theorem Model.documentOf_congr (m : Model) {id : String} {doc : Fields} {change : Change}
    (schema : m.schema.IsSteadfast) (admits : m.schema.Admits id doc change)
    (source other : Source) : m.documentOf source doc = m.documentOf other doc := by
  obtain ⟨_, _, checked⟩ := admits.passed
  exact congrArg (Document.ofFields m.handle)
    (schema.fill_congr schema.constant checked source other)

theorem Commit.Due.admitted (due : c.Due m) (stocked : m.Stocked) :
    ∃ change, m.schema.Admits c.id c.fields change := by
  by_cases removes : c.change = .remove
  · exact stocked.admitted c.id c.fields (Collection.mem_slots_of_find? (due.removed removes))
  · exact ⟨c.change, due.admits removes⟩

/-- The event of a commit shows the document as everybody reads it. -/
theorem Commit.Due.shown (due : c.Due m) (stocked : m.Stocked) (schema : m.schema.IsSteadfast) :
    c.document.id? = some c.id ∧ ∀ source, c.document = m.documentOf source c.fields := by
  obtain ⟨change, admits⟩ := due.admitted stocked
  obtain ⟨drawn, document⟩ := due.document
  rw [document]
  exact ⟨schema.textId_fill admits drawn, m.documentOf_congr schema admits drawn⟩

namespace Model

variable {events : List Event}

/-- The copy follows a commit by its event. -/
theorem follow_copy {m' : Model} (due : c.Due m) (stocked : m.Stocked)
    (schema : m.schema.IsSteadfast) (nodup : m.collection.order.Nodup)
    (handle : m'.handle = m.handle)
    (applied : m'.collection = m.collection.apply (.commit c)) (source : Source) :
    (m.copy source).follow ⟨c.change, c.document⟩ = m'.copy source := by
  obtain ⟨own, shown⟩ := due.shown stocked schema
  have used := due.used
  obtain ⟨change, id, fields, document⟩ := c
  simp only at own shown used
  have document : some document = (some fields).map (m.documentOf source) :=
    congrArg some (shown source)
  cases change with
  | insert =>
    simp only [Copy.follow, own, keys_copy, document]
    have slots : m'.collection.slots = _ := congrArg Collection.slots applied
    split
    · rename_i known
      exact (copy_of_writeSlot handle slots nodup known source).symm
    · rename_i fresh
      simp only [copy_congr handle, applied, Collection.apply, Collection.put_of_fresh fresh,
        List.map_append, List.map_cons, List.map_nil]
      rfl
  | update =>
    have slots : m'.collection.slots = _ := congrArg Collection.slots applied
    have known := Collection.mem_order (used.mpr (by simp))
    simp only [Copy.follow, own, document]
    exact (copy_of_writeSlot handle slots nodup known source).symm
  | remove =>
    have known := used.mpr (by simp)
    have slots : m'.collection.slots = Collection.writeSlot id none m.collection.slots := by
      simp [applied, Collection.apply, Collection.erase, known]
    simp only [Copy.follow, own]
    exact (copy_of_writeSlot handle slots nodup (Collection.mem_order known) source).symm

/-- The events so far make a copy of the model, and they count its documents. -/
structure Told (m : Model) (events : List Event) : Prop where
  copy : ∀ source, Copy.replay events = m.copy source
  count : m.count + events.countP (Event.isOf .remove) = events.countP (Event.isOf .insert)

theorem Told.congr {m' : Model} (told : m.Told events) (handle : m'.handle = m.handle)
    (kept : m'.collection = m.collection) : m'.Told events where
  copy source := by rw [told.copy source, copy_congr handle, kept, Model.copy]
  count := by rw [Model.count, kept]; exact told.count

theorem Told.commit {m' : Model} (told : m.Told events) (due : c.Due m) (stocked : m.Stocked)
    (schema : m.schema.IsSteadfast) (keyed : m.collection.Keyed) (handle : m'.handle = m.handle)
    (applied : m'.collection = m.collection.apply (.commit c)) :
    m'.Told (events ++ [⟨c.change, c.document⟩]) where
  copy source := by
    rw [Copy.replay_concat, told.copy source]
    exact follow_copy due stocked schema keyed.nodup handle applied source
  count := by
    have before := told.count
    have size := Collection.size_apply due.used
    simp only [Model.count, applied, size, List.countP_append, List.countP_singleton,
      Event.isOf] at before ⊢
    cases change : c.change with
    | insert =>
      simp
      omega
    | update => simpa [change] using before
    | remove =>
      have positive := (consistent_of_keyed keyed).positive c.id (due.used.mpr (by simp [change]))
      simp
      omega

/-- The documents of the copy are those of a query. -/
theorem Told.documents (told : m.Told events) (stocked : m.Stocked)
    (schema : m.schema.IsSteadfast) (source : Source) :
    (Copy.replay events).documents = (m.query source).items := by
  rw [told.copy source, documents_copy, query, documentsOf]
  have same : ∀ e ∈ m.collection.live.zipIdx,
      m.documentOf (source.branch e.2) e.1 = (m.documentOf source ∘ Prod.fst) e := by
    intro e mem
    obtain ⟨id, mem⟩ := Collection.mem_live.mp (List.fst_mem_of_mem_zipIdx mem)
    obtain ⟨change, admits⟩ := stocked.admitted id e.1 mem
    exact m.documentOf_congr schema admits _ _
  rw [List.map_congr_left same, ← List.map_map, List.zipIdx_map_fst]

end Model

end DocStore
