import DocStore.Proofs.Write.Events
import DocStore.Proofs.Write.Load
import DocStore.Proofs.Write.Search
import DocStore.Proofs.Write.Sequence

/-!
# Writes on what a selector wants

A write by selector looks the documents up, reads their ids off them and then makes one write for
each id. It reaches every document that it found exactly when each one shows the id under which it
is stored.
-/

namespace DocStore

-- ---------------------------------------------------------------------------
-- Entries
-- ---------------------------------------------------------------------------

namespace Collection

variable {c : Collection} {id : String} {doc : Fields} {targets : List (String × Fields)}

theorem Tidy.find?_of_mem (tidy : c.Tidy) (mem : (id, doc) ∈ c.entries) :
    c.find? id = some doc := by
  obtain ⟨pre, post, slots⟩ := List.append_of_mem (mem_entries.mp mem)
  have nodup := tidy.nodup
  rw [order, slots, List.map_append, List.nodup_append] at nodup
  have fresh : ∀ e ∈ pre, (id != e.1) = true := fun e early =>
    bne_iff_ne.mpr fun same =>
      nodup.2.2 e.1 (List.mem_map_of_mem early) id (by simp) same.symm
  have found : c.slots.lookup id = some (some doc) :=
    List.lookup_eq_some_iff.mpr ⟨pre, post, slots, fresh⟩
  rw [find?, found, Option.join_some]

theorem entries_erase (tidy : c.Tidy) (used : c.contains id = true) :
    (c.erase id).entries = c.entries.filter fun e => e.1 != id := by
  rw [erase, if_pos used, entries, writeSlot_of_mem tidy.nodup (mem_order used), entries,
    List.filterMap_map, List.filter_filterMap]
  refine List.filterMap_congr fun e _ => ?_
  obtain ⟨k, held⟩ := e
  by_cases here : k = id
  · subst here
    cases held <;> simp [Option.filter]
  · cases held <;> simp [here, Option.filter]

end Collection

namespace Model

variable {m : Model} {source : Source} {id : String} {doc : Fields} {p : Predicate}
  {targets : List (String × Fields)}

/-- Every stored document shows the id under which it is stored, whatever is filled in. -/
def IsLegible (m : Model) : Prop :=
  ∀ id doc, (id, doc) ∈ m.collection.entries → ∀ source,
    textId (m.schema.fill source doc) = some id

-- ---------------------------------------------------------------------------
-- What is found
-- ---------------------------------------------------------------------------

/-- The entries whose documents a predicate wants. -/
def wanted (m : Model) (p : Predicate) : List (String × Fields) :=
  m.collection.entries.filter fun e => p.holds e.2

theorem filter_live (m : Model) (p : Predicate) :
    m.collection.live.filter p.holds = (m.wanted p).map Prod.snd := by
  rw [Collection.live_eq_map, List.filter_map]
  rfl

theorem find_eq (m : Model) (source : Source) {selector : Selector}
    (compiled : m.schema.compileQuery selector = .ok p) :
    m.find source selector {} =
      .ok ⟨m.handle, m.documentsOf source ((m.wanted p).map Prod.snd)⟩ := by
  rw [find, scan_eq, compiled, ← filter_live]
  rfl

/-- The ids that are read off documents are those under which the documents are stored. -/
theorem ids_documentsOf (shown : ∀ e ∈ targets, ∀ source,
      textId (m.schema.fill source e.2) = some e.1) (source : Source) :
    Query.ids ⟨m.handle, m.documentsOf source (targets.map Prod.snd)⟩ = targets.map Prod.fst := by
  have each : ∀ e ∈ targets.zipIdx,
      textId (m.schema.fill (source.branch e.2) e.1.2) = some e.1.1 := fun e mem =>
    shown e.1 (List.fst_mem_of_mem_zipIdx mem) _
  rw [Query.ids, documentsOf, List.zipIdx_map, List.map_map, List.filterMap_map]
  refine (List.filterMap_congr (g := some ∘ Prod.fst ∘ Prod.fst) each).trans ?_
  rw [List.filterMap_eq_map, ← List.map_map, List.zipIdx_map_fst]

-- ---------------------------------------------------------------------------
-- Removals
-- ---------------------------------------------------------------------------

theorem perform_remove (stored : m.collection.find? id = some doc) (source : Source)
    (passes : m.Passes .remove (m.documentOf (source.branch 1) doc)) :
    (m.perform source (.remove id)).result = .ok (some (m.documentOf (source.branch 1) doc)) ∧
      (m.perform source (.remove id)).model =
        { m with collection := m.collection.erase id } := by
  have planned : m.prepare (.remove id) >>= m.plan source = .ok (.commit
      { change := .remove, id, fields := doc, document := m.documentOf (source.branch 1) doc }) := by
    change m.plan source (.remove id) = _
    simp only [plan, stored]
  simp only [perform, planned]
  exact ⟨execute_ok_iff.mpr ⟨passes, rfl⟩, execute_model passes⟩

theorem performAll_of_ok {request : Request} {left : Model} {d : Option Document}
    (first : (m.perform (source.branch 0) request).result = .ok d)
    (model : (m.perform (source.branch 0) request).model = left) (rest : List Request) :
    (m.performAll source (request :: rest)).result =
        (left.performAll (source.branch 1) rest).result.map (d.toList ++ ·) ∧
      (m.performAll source (request :: rest)).model =
        (left.performAll (source.branch 1) rest).model := by
  subst model
  simp only [performAll, first, and_self]

/-- The documents are those of the entries, one for each and in their order. -/
def Shows (m : Model) (docs : List Document) (targets : List (String × Fields)) : Prop :=
  List.Forall₂ (fun e d => ∃ source, d = m.documentOf source e.2) targets docs

theorem performAll_remove (tidy : m.collection.Tidy) (passes : m.NeverRefuses)
    (stored : ∀ e ∈ targets, m.collection.find? e.1 = some e.2)
    (nodup : (targets.map Prod.fst).Nodup) (source : Source) :
    let outcome := m.performAll source ((targets.map Prod.fst).map .remove)
    (∃ docs, outcome.result = .ok docs ∧ m.Shows docs targets) ∧
      outcome.model.collection.entries =
        m.collection.entries.filter fun e => decide (e.1 ∉ targets.map Prod.fst) := by
  induction targets generalizing m source with
  | nil => exact ⟨⟨[], rfl, .nil⟩, by simp [performAll]⟩
  | cons e rest ih =>
    obtain ⟨first, others⟩ := List.forall_mem_cons.mp stored
    obtain ⟨fresh, nodup⟩ := List.nodup_cons.mp nodup
    obtain ⟨answer, model⟩ := perform_remove first (source.branch 0) (passes .remove _)
    let left : Model := { m with collection := m.collection.erase e.1 }
    have kept : ∀ e ∈ rest, left.collection.find? e.1 = some e.2 := fun other mem => by
      have ne : other.1 ≠ e.1 := fun same => fresh (same ▸ List.mem_map_of_mem mem)
      have slot : left.collection.slot? other.1 = m.collection.slot? other.1 :=
        Collection.slot?_erase_of_ne ne
      rw [Collection.find?_eq_join, slot, ← Collection.find?_eq_join, others other mem]
    obtain ⟨⟨docs, result, shown⟩, entries⟩ :=
      ih (m := left) (tidy.erase e.1) passes kept nodup (source.branch 1)
    obtain ⟨whole, last⟩ := performAll_of_ok answer model ((rest.map Prod.fst).map .remove)
    refine ⟨⟨_ :: docs, whole.trans (congrArg _ result), .cons ⟨_, rfl⟩ shown⟩, ?_⟩
    have erased := Collection.entries_erase tidy (contains_of_find? first)
    refine (congrArg (·.collection.entries) last).trans (entries.trans ?_)
    rw [erased, List.filter_filter]
    refine List.filter_congr fun other _ => ?_
    rw [Bool.eq_iff_iff]
    simp only [Bool.and_eq_true, decide_eq_true_eq, bne_iff_ne, List.map_cons, List.mem_cons,
      not_or]
    exact and_comm

/-- A removal by selector gives back every match and leaves all else. -/
structure Removes (m : Model) (p : Predicate) (outcome : Outcome (List Document)) : Prop where
  live : outcome.model.collection.live = m.collection.live.filter fun doc => !p.holds doc
  answer : ∃ docs, outcome.result = .ok docs ∧ m.Shows docs (m.wanted p)

theorem performOn_eq (legible : m.IsLegible) {selector : Selector}
    (compiled : m.schema.compileQuery selector = .ok p) (source : Source)
    (request : String → Request) : m.performOn source selector request =
      m.performAll (source.branch 1) (((m.wanted p).map Prod.fst).map request) := by
  have shown : ∀ e ∈ m.wanted p, ∀ source, textId (m.schema.fill source e.2) = some e.1 :=
    fun e mem => legible e.1 e.2 (List.mem_of_mem_filter mem)
  simp only [performOn, find_eq m _ compiled, ids_documentsOf shown]

theorem IsLegible.removes (legible : m.IsLegible) (tidy : m.collection.Tidy)
    (passes : m.NeverRefuses) {selector : Selector}
    (compiled : m.schema.compileQuery selector = .ok p) (source : Source) :
    m.Removes p (m.removeAll source selector) := by
  have stored : ∀ e ∈ m.wanted p, m.collection.find? e.1 = some e.2 := fun e mem =>
    tidy.find?_of_mem (List.mem_of_mem_filter mem)
  have nodup : ((m.wanted p).map Prod.fst).Nodup :=
    tidy.nodup_entries.sublist (List.filter_sublist.map Prod.fst)
  obtain ⟨answer, entries⟩ := performAll_remove tidy passes stored nodup (source.branch 1)
  rw [removeAll, performOn_eq legible compiled]
  refine ⟨?_, answer⟩
  rw [Collection.live_eq_map, Collection.live_eq_map, entries, List.filter_map]
  refine congrArg (List.map Prod.snd) (List.filter_congr fun e mem => ?_)
  have only : e.1 ∈ (m.wanted p).map Prod.fst ↔ p.holds e.2 = true := by
    constructor
    · intro named
      obtain ⟨other, wanted, same⟩ := List.mem_map.mp named
      have held : some other.2 = some e.2 :=
        (stored other wanted).symm.trans (same ▸ tidy.find?_of_mem mem)
      exact Option.some.inj held ▸ (List.mem_filter.mp wanted).2
    · intro holds
      exact List.mem_map_of_mem (List.mem_filter.mpr ⟨mem, holds⟩)
  rw [Bool.eq_iff_iff, decide_eq_true_eq, only]
  simp

/-- A write that names an id leaves the slots of all others as they are. -/
theorem perform_frame {request : Request} {other : String} (byId : request.IsById)
    (named : request.id? = some other) (ne : id ≠ other) (source : Source) :
    (m.perform source request).model.collection.slot? id = m.collection.slot? id := by
  rcases m.perform_atomic source request byId with ⟨e, refused, -⟩ | ⟨c, fits, vetoed | committed⟩
  · rw [refused]
  · obtain ⟨ran, e, -, outcome⟩ := vetoed
    rw [outcome]
  · exact committed.others id (fits.named other named ▸ ne)

theorem performAll_frame {requests : List Request}
    (apart : ∀ request ∈ requests, request.IsById ∧ ∃ other, request.id? = some other ∧ id ≠ other)
    (source : Source) :
    (m.performAll source requests).model.collection.slot? id = m.collection.slot? id := by
  induction requests generalizing m source with
  | nil => rfl
  | cons request rest ih =>
    obtain ⟨⟨byId, other, named, ne⟩, later⟩ := List.forall_mem_cons.mp apart
    have first := m.perform_frame byId named ne (source.branch 0)
    simp only [performAll]
    split
    · exact first
    · exact (ih later (source.branch 1)).trans first

theorem mem_ids {found : List Fields}
    (mem : id ∈ Query.ids ⟨m.handle, m.documentsOf source found⟩) :
    ∃ fields ∈ found, ∃ i, textId (m.schema.fill (source.branch i) fields) = some id := by
  obtain ⟨d, shown, read⟩ := List.mem_filterMap.mp mem
  obtain ⟨fields, held, i, rfl⟩ := mem_documentsOf shown
  exact ⟨fields, held, i, read⟩

/-- If a removal of one document reaches it wherever it is stored, it shows its id. -/
theorem isLegible_of_removes (tidy : m.collection.Tidy)
    (removes : ∀ source selector p, m.schema.compileQuery selector = .ok p →
      m.Removes p (m.removeAll source selector)) : m.IsLegible := by
  classical
  intro id doc mem source
  by_contra hidden
  -- a source whose branches draw what the given one does
  let first : Source :=
    { entropy := fun trail => source.entropy (trail.headD 0 :: source.trail), now := source.now }
  let selector : Selector := .test fun fields => decide (fields = doc)
  let p : Predicate := .test fun fields => decide (fields = doc)
  have compiled : m.schema.compileQuery selector = .ok p := rfl
  have wanted : ∀ fields ∈ (m.wanted p).map Prod.snd, fields = doc := by
    intro fields mem
    obtain ⟨e, held, rfl⟩ := List.mem_map.mp mem
    exact of_decide_eq_true (List.mem_filter.mp held).2
  have apart : id ∉ Query.ids
      ⟨m.handle, m.documentsOf (first.branch 0) ((m.wanted p).map Prod.snd)⟩ := by
    intro named
    obtain ⟨fields, held, i, read⟩ := mem_ids named
    rw [wanted fields held] at read
    exact hidden (read ▸ congrArg textId (Schema.fill_congr_source rfl fun _ => rfl))
  have kept : (m.removeAll first selector).model.collection.slot? id = m.collection.slot? id := by
    simp only [removeAll, performOn, find_eq m _ compiled]
    refine performAll_frame (List.forall_mem_map.mpr fun other named => ?_) _
    exact ⟨trivial, other, rfl, fun same => apart (same ▸ named)⟩
  have stored : (m.removeAll first selector).model.collection.find? id = some doc := by
    rw [Collection.find?_eq_join, kept, ← Collection.find?_eq_join, tidy.find?_of_mem mem]
  have left := Collection.mem_live_of_find? stored
  rw [(removes first selector p compiled).live] at left
  have gone := (List.mem_filter.mp left).2
  simp [p, Predicate.holds] at gone

-- ---------------------------------------------------------------------------
-- Updates
-- ---------------------------------------------------------------------------

variable {update : Value} {d : Document} {out : Fields}

/-- An update by selector answers and stores for every target what an update of that one document
does, made on its own, and leaves all else. -/
structure Updates (m : Model) (update : Value) (targets : List (String × Fields))
    (after : Collection) (docs : List Document) : Prop where
  each : List.Forall₂ (fun e d => ∃ source,
    (m.perform source (.update e.1 update)).result = .ok (some d) ∧
    after.find? e.1 = (m.perform source (.update e.1 update)).model.collection.find? e.1)
    targets docs
  others : ∀ id, id ∉ targets.map Prod.fst → after.slot? id = m.collection.slot? id
  order : after.order = m.collection.order

theorem Rewrites.each {after : Collection} (rewrites : m.Rewrites source id update d out)
    (held : after.find? id = some out) :
    (m.perform source (.update id update)).result = .ok (some d) ∧
      after.find? id = (m.perform source (.update id update)).model.collection.find? id := by
  obtain ⟨result, model⟩ := rewrites.perform
  refine ⟨result, held.trans ?_⟩
  rw [model]
  exact Collection.find?_put_self.symm

theorem performAll_update (nodup : (targets.map Prod.fst).Nodup) {docs : List Document}
    (ok : (m.performAll source ((targets.map Prod.fst).map (.update · update))).result = .ok docs) :
    m.Updates update targets
      (m.performAll source ((targets.map Prod.fst).map (.update · update))).model.collection docs := by
  induction targets generalizing m source docs with
  | nil =>
    obtain rfl : [] = docs := Except.ok.inj ok
    exact ⟨.nil, fun _ _ => rfl, rfl⟩
  | cons e rest ih =>
    obtain ⟨fresh, nodup⟩ := List.nodup_cons.mp nodup
    cases first : (m.perform (source.branch 0) (.update e.1 update)).result with
    | error fault =>
      simp only [List.map_cons, performAll, first] at ok
      cases ok
    | ok answer =>
      obtain ⟨d, out, rfl, rewrites⟩ := rewrites_of_perform first
      obtain ⟨-, model⟩ := rewrites.perform
      obtain ⟨whole, last⟩ :=
        performAll_of_ok first model ((rest.map Prod.fst).map (.update · update))
      obtain ⟨docs, result, rfl⟩ := map_eq_ok.mp (whole.symm.trans ok)
      obtain ⟨each, others, order⟩ := ih nodup result
      obtain ⟨_, _, _, _, stored, _⟩ := rewrites.makes
      rw [List.map_cons, List.map_cons, last]
      constructor
      · have apart : ∀ other ∈ rest, other.1 ≠ e.1 := fun other mem same =>
          fresh (same ▸ List.mem_map_of_mem mem)
        refine .cons ⟨_, rewrites.each ?_⟩ (((List.forall₂_and_left _ _).mpr ⟨apart, each⟩).imp ?_)
        · rw [Collection.find?_eq_join, others e.1 fresh]
          exact Collection.find?_put_self
        · -- the update of another document finds it as it was before this one
          rintro other d ⟨ne, source, answered, held⟩
          obtain ⟨d, out', same, alone⟩ := rewrites_of_perform answered
          obtain rfl := Option.some.inj same
          refine ⟨source, (alone.congr ?_).each ?_⟩
          · rw [Collection.find?_eq_join, Collection.slot?_put_of_ne ne, Collection.find?_eq_join]
          · rw [held, alone.perform.2]
            exact Collection.find?_put_self
      · intro id apart
        rw [List.map_cons, List.mem_cons, not_or] at apart
        rw [others id apart.2]
        exact Collection.slot?_put_of_ne apart.1
      · rw [order]
        exact Collection.order_put.trans (if_pos (Collection.mem_order (contains_of_find? stored)))

-- ---------------------------------------------------------------------------
-- Reachable states
-- ---------------------------------------------------------------------------

/-- A number is stored under its text. -/
theorem perform_insert_number (source : Source) :
    let empty : Model := { handle := ⟨0, "pets", Schema.initial.declare idPath (.ofKind .number)⟩ }
    let pet : Fields := [("_id", .number 5)]
    (empty.perform source (.insert (.object pet))).model =
      { empty with collection := { slots := [("5", some pet)], size := 1 } } := by
  intro empty pet
  have named : idOf pet = some "5" := congrArg some (by decide +kernel)
  have planned : empty.prepare (.insert (.object pet)) >>= empty.plan source =
      .ok (empty.storing source .insert "5" pet) := by
    have filled : empty.schema.fill (source.branch 0) pet = pet := rfl
    change empty.planInsert source pet = _
    simp only [planInsert, filled, named]
    rfl
  simp only [perform, planned]
  rfl

theorem Reachable.isLegible (reached : m.Reachable) (named : m.schema.IsNamed) : m.IsLegible := by
  intro id doc mem source
  obtain ⟨change, admits⟩ := reached.stocked.admitted id doc (Collection.mem_entries.mp mem)
  exact named.textId_fill admits source

/-- Without a hook that refuses, removals by selector reach every match and nothing else exactly
when every stored document shows its id as a text, and then so do the updates that are answered. A
schema whose ids are texts makes sure of it. -/
theorem Reachable.reaches_matches_iff (reached : m.Reachable) (passes : m.NeverRefuses) :
    ((∀ source selector p, m.schema.compileQuery selector = .ok p →
        m.Removes p (m.removeAll source selector)) ↔ m.IsLegible) ∧
      (m.IsLegible → ∀ source selector p update docs, m.schema.compileQuery selector = .ok p →
        (m.updateAll source selector update).result = .ok docs →
        m.Updates update (m.wanted p) (m.updateAll source selector update).model.collection docs) ∧
      (m.schema.IsNamed → m.IsLegible) := by
  refine ⟨⟨isLegible_of_removes reached.tidy, ?_⟩, ?_, reached.isLegible⟩
  · exact fun legible source selector p compiled =>
      legible.removes reached.tidy passes compiled source
  · intro legible source selector p update docs compiled ok
    have nodup : ((m.wanted p).map Prod.fst).Nodup :=
      reached.tidy.nodup_entries.sublist (List.filter_sublist.map Prod.fst)
    have whole : m.updateAll source selector update = m.performAll (source.branch 1)
        (((m.wanted p).map Prod.fst).map (.update · update)) :=
      performOn_eq legible compiled source _
    rw [whole] at ok ⊢
    exact performAll_update nodup ok

/-- Two pets, and the one of three years is removed. -/
theorem Reachable.reaches_matches_iff_text :
    let empty : Model := { handle := ⟨0, "pets", Schema.initial⟩ }
    let source : Source := ⟨fun _ => 0, ⟨0, 0⟩, []⟩
    let pet (id : String) (age : Number) : Value :=
      .object [("_id", .string id), ("age", .number age)]
    let first := (empty.perform source (.insert (pet "a" 3))).model
    let m := (first.perform source (.insert (pet "b" 5))).model
    let selector : Selector := .test fun doc => (doc.atD ⟨"age", []⟩).equal (.number 3)
    m.Reachable ∧ m.NeverRefuses ∧ (∃ p, m.schema.compileQuery selector = .ok p ∧
      m.Removes p (m.removeAll source selector)) := by
  intro empty source pet first m selector
  have started : first.Reachable := .write (.empty rfl) source trivial
  have reached : m.Reachable := .write started source trivial
  have behavior : m.behavior = {} := by
    simp only [m, first, empty, source, pet]
    cbv
  have passes : m.NeverRefuses := by
    intro action d phase h mem
    simp [hooks, behavior] at mem
  have named : m.schema.IsNamed := by
    have same : m.schema = Schema.initial :=
      (perform_schema ..).trans ((perform_schema ..).trans rfl)
    exact same ▸ Schema.isNamed_initial
  obtain ⟨removes, -, legible⟩ := reached.reaches_matches_iff passes
  exact ⟨reached, passes, _, rfl, removes.mpr (legible named) source selector _ rfl⟩

/-- The ids are numbers, and what was found is passed over in silence. -/
theorem not_reaches_matches_number :
    let schema := Schema.initial.declare idPath (.ofKind .number)
    let empty : Model := { handle := ⟨0, "pets", schema⟩ }
    let source : Source := ⟨fun _ => 0, ⟨0, 0⟩, []⟩
    let pet : Fields := [("_id", .number 5)]
    let m := (empty.perform source (.insert (.object pet))).model
    let removal := m.removeAll source .everything
    m.Reachable ∧ m.NeverRefuses ∧ m.schema.compileQuery .everything = .ok (.all []) ∧
      m.collection.live = [pet] ∧ m.collection.live.filter (Predicate.all []).holds = [pet] ∧
      removal.result = .ok [] ∧ removal.model.collection.live = [pet] ∧
      ¬ m.Removes (.all []) removal := by
  intro schema empty source pet m removal
  have inserted : m = { empty with collection := { slots := [("5", some pet)], size := 1 } } :=
    perform_insert_number source
  have reached : m.Reachable := .write (.empty rfl) source trivial
  have passes : m.NeverRefuses := by
    intro action d phase h mem
    simp [hooks, inserted, empty] at mem
  have compiled : m.schema.compileQuery .everything = .ok (.all []) := rfl
  have live : m.collection.live = [pet] := by
    rw [inserted]
    rfl
  have wanted : m.wanted (.all []) = [("5", pet)] := by
    rw [inserted]
    rfl
  have matching : m.collection.live.filter (Predicate.all []).holds = [pet] := by
    rw [filter_live, wanted]
    rfl
  -- the id is read as a text, which the stored number is not
  have hidden (source : Source) : textId (m.schema.fill source pet) = none := by
    rw [inserted]
    rfl
  have ids : Query.ids
      ⟨m.handle, m.documentsOf (source.branch 0) ((m.wanted (.all [])).map Prod.snd)⟩ = [] := by
    rw [wanted]
    exact List.filterMap_cons_none (hidden _)
  have removed : removal = { model := m, result := .ok [] } := by
    simp only [removal, removeAll, performOn, find_eq m _ compiled, ids]
    rfl
  refine ⟨reached, passes, compiled, live, matching, congrArg Outcome.result removed, ?_, ?_⟩
  · rw [removed]
    exact live
  · intro removes
    have none : removal.model.collection.live = [] := by
      rw [removes.live, live]
      rfl
    rw [removed, live] at none
    cases none

end Model

end DocStore
