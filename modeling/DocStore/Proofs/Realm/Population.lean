import DocStore.Proofs.Document.Copies
import DocStore.Proofs.Realm.Reference

/-!
# Populated documents

A reference is followed when it is first asked for, by the fields that the document has then and to
the documents that are stored then. What was found is kept: nothing that is written to the models
changes it, and nothing that is assigned to the document itself.
-/

namespace DocStore

namespace Document

variable {doc : Document} {path : Path} {ref : Reference} {shown : Populated}

-- ---------------------------------------------------------------------------
-- Attachments
-- ---------------------------------------------------------------------------

/-- What is attached at a path. -/
def attachmentAt? (doc : Document) (path : Path) : Option Attachment :=
  doc.attachments.find? (·.path == path)

theorem attachmentAt?_attach (doc : Document) (ref : Reference) (path : Path) :
    (doc.attach ref).attachmentAt? path =
      if path = ref.spec.path then some { reference := ref } else doc.attachmentAt? path := by
  simp only [attachmentAt?, attach, List.find?_append]
  by_cases here : path = ref.spec.path
  · subst here
    have others : (doc.attachments.filter (·.path != ref.spec.path)).find?
        (·.path == ref.spec.path) = none := by simp
    rw [others, Option.none_or, if_pos rfl]
    exact List.find?_cons_of_pos (beq_self_eq_true ref.spec.path)
  · have others : (doc.attachments.filter (·.path != ref.spec.path)).find? (·.path == path) =
        doc.attachments.find? (·.path == path) := by
      rw [List.find?_filter]
      congr 1
      funext a
      by_cases at_ : a.path = path <;> simp [at_, here]
    have apart : ({ reference := ref } : Attachment).path ≠ path := Ne.symm here
    simp [others, here, apart]

theorem populated?_fst (realm : Realm) (source : Source) (doc : Document) (path : Path) :
    (realm.populated? source doc path).1 =
      (doc.attachmentAt? path).map fun a => (a.read (realm.resolve source doc.fields)).1 :=
  readAt_fst path

theorem attachmentAt?_populated? (realm : Realm) (source : Source) (doc : Document)
    (other path : Path) :
    (realm.populated? source doc other).2.attachmentAt? path = (doc.attachmentAt? path).map fun a =>
      if path = other then (a.read (realm.resolve source doc.fields)).2 else a :=
  find?_readAt (fun _ => rfl) other path

/-- Whether an act asks for what is attached at a path. -/
def Act.asksFor (path : Path) : Act → Bool
  | .populated _ _ other => other == path
  | _ => false

theorem attachmentAt?_perform {act : Act} (unasked : act.asksFor path = false) (doc : Document) :
    (doc.perform act).attachmentAt? path = doc.attachmentAt? path := by
  cases act with
  | get other =>
    simp only [perform, get]
    split <;> rfl
  | set other value => rfl
  | toJson => rfl
  | populated realm source other =>
    have apart : path ≠ other := fun same => by simp [Act.asksFor, same] at unasked
    rw [perform, attachmentAt?_populated?]
    simp [apart]

-- ---------------------------------------------------------------------------
-- References that wait and references that were followed
-- ---------------------------------------------------------------------------

/-- The reference is attached at its path and was not followed yet. -/
def Awaits (doc : Document) (ref : Reference) : Prop :=
  doc.attachmentAt? ref.spec.path = some { reference := ref }

/-- The reference at a path was followed, and this was found. -/
def Keeps (doc : Document) (path : Path) (shown : Populated) : Prop :=
  ∃ a, doc.attachmentAt? path = some a ∧ a.memo.value = some shown

theorem Awaits.after {acts : List Act} (awaits : doc.Awaits ref)
    (unasked : ∀ act ∈ acts, act.asksFor ref.spec.path = false) : (doc.after acts).Awaits ref := by
  induction acts generalizing doc with
  | nil => exact awaits
  | cons act rest ih =>
    obtain ⟨first, others⟩ := List.forall_mem_cons.mp unasked
    exact ih ((attachmentAt?_perform first doc).trans awaits) others

theorem Awaits.populated?_fst (awaits : doc.Awaits ref) (realm : Realm) (source : Source) :
    (realm.populated? source doc ref.spec.path).1 = some (realm.resolve source doc.fields ref) := by
  rw [Document.populated?_fst, awaits]
  rfl

theorem Awaits.populated?_snd (awaits : doc.Awaits ref) (realm : Realm) (source : Source) :
    (realm.populated? source doc ref.spec.path).2.Keeps ref.spec.path
      (realm.resolve source doc.fields ref) := by
  refine ⟨(Attachment.read (realm.resolve source doc.fields) { reference := ref }).2, ?_, rfl⟩
  rw [attachmentAt?_populated?, awaits, Option.map_some, if_pos rfl]

theorem Keeps.populated?_fst (keeps : doc.Keeps path shown) (realm : Realm) (source : Source) :
    (realm.populated? source doc path).1 = some shown := by
  obtain ⟨a, at_, kept⟩ := keeps
  rw [Document.populated?_fst, at_, Option.map_some, Attachment.read, Memo.get_of_value kept]

theorem Keeps.perform (keeps : doc.Keeps path shown) (act : Act) :
    (doc.perform act).Keeps path shown := by
  cases asked : act.asksFor path with
  | false =>
    rw [Keeps, attachmentAt?_perform asked]
    exact keeps
  | true =>
    cases act with
    | populated realm source other =>
      obtain ⟨a, at_, kept⟩ := keeps
      refine ⟨a, ?_, kept⟩
      rw [Document.perform, attachmentAt?_populated?, at_, Option.map_some, Attachment.read,
        Memo.get_of_value kept, ite_self]
    | _ => simp [Act.asksFor] at asked

theorem Keeps.after (keeps : doc.Keeps path shown) (acts : List Act) :
    (doc.after acts).Keeps path shown := by
  induction acts generalizing doc with
  | nil => exact keeps
  | cons act rest ih => exact ih (keeps.perform act)

-- ---------------------------------------------------------------------------
-- Populating
-- ---------------------------------------------------------------------------

def attachAll (doc : Document) (refs : List Reference) : Document :=
  refs.foldl (fun doc ref => doc.attach ref) doc

theorem attachAll_fields (doc : Document) (refs : List Reference) :
    (doc.attachAll refs).fields = doc.fields := by
  induction refs generalizing doc with
  | nil => rfl
  | cons ref rest ih => exact ih (doc.attach ref)

theorem awaits_attach (doc : Document) (ref : Reference) : (doc.attach ref).Awaits ref := by
  rw [Awaits, attachmentAt?_attach, if_pos rfl]

theorem Awaits.attachAll {refs : List Reference} (awaits : doc.Awaits ref)
    (others : ∀ other ∈ refs, other.spec.path ≠ ref.spec.path) : (doc.attachAll refs).Awaits ref := by
  induction refs generalizing doc with
  | nil => exact awaits
  | cons other rest ih =>
    obtain ⟨first, others⟩ := List.forall_mem_cons.mp others
    refine ih ?_ others
    rw [Awaits, attachmentAt?_attach, if_neg (Ne.symm first)]
    exact awaits

end Document

namespace Realm

open Document (Act Use lines)

variable {r : Realm} {start doc : Document} {m : Model} {population before after : Population}
  {spec : PopulationSpec} {ref : Reference}

theorem populate_eq_ok_iff (own : r.model? start.model.number = some m) :
    r.populate start population = .ok doc ↔
      ∃ refs, List.Forall₂ (r.Refers m) population refs ∧ start.attachAll refs = doc := by
  simp only [populate, own, map_eq_ok, references_eq_ok_iff]
  rfl

theorem exists_populate_eq_error_iff (own : r.model? start.model.number = some m) :
    (∃ e, r.populate start population = .error e) ↔
      ∃ spec ∈ population, ∃ e, r.Refuses m spec e := by
  simp only [populate, own, map_eq_error, exists_references_eq_error_iff]

theorem map_spec_eq {refs : List Reference} (each : List.Forall₂ (r.Refers m) population refs) :
    refs.map (·.spec) = population := by
  induction each with
  | nil => rfl
  | cons first _ ih => rw [List.map_cons, first.spec_eq, ih]

/-- The last spec of a path is the one whose reference waits there. -/
theorem populate_awaits (own : r.model? start.model.number = some m)
    (populated : r.populate start (before ++ spec :: after) = .ok doc)
    (last : ∀ other ∈ after, other.path ≠ spec.path) :
    ∃ ref, r.Refers m spec ref ∧ doc.Awaits ref := by
  obtain ⟨refs, each, rfl⟩ := (populate_eq_ok_iff own).mp populated
  have later : List.Forall₂ (r.Refers m) (spec :: after) (refs.drop before.length) := by
    simpa using List.forall₂_drop before.length each
  obtain ⟨ref, others, refers, more, rest⟩ := List.forall₂_cons_left_iff.mp later
  have split : refs = refs.take before.length ++ ref :: others := by
    rw [← rest, List.take_append_drop]
  refine ⟨ref, refers, ?_⟩
  rw [split, Document.attachAll, List.foldl_append, List.foldl_cons]
  refine (Document.awaits_attach _ ref).attachAll fun other mem => ?_
  rw [refers.spec_eq]
  exact last other.spec (map_spec_eq more ▸ List.mem_map_of_mem mem)

/-- Populating checks all specs before any document is looked up. If none is refused, the last spec of
a path counts there; when it is asked for first it shows what the field leads to by then, and the same
ever after. -/
theorem populate_shows (own : r.model? start.model.number = some m) (population : Population) :
    (∀ r' : Realm, r'.emptied = r.emptied → r'.populate start population = r.populate start population) ∧
    ((∃ e, r.populate start population = .error e) ↔
      ∃ spec ∈ population, ∃ e, r.Refuses m spec e) ∧
    ∀ doc, r.populate start population = .ok doc → doc.fields = start.fields ∧
      ∀ before spec after, population = before ++ spec :: after →
        (∀ other ∈ after, other.path ≠ spec.path) →
        ∃ ref, r.Refers m spec ref ∧ ∀ earlier, (∀ act ∈ earlier, act.asksFor spec.path = false) →
          ∀ (now : Realm) target source, now.model? ref.target.number = some target →
            ∃ shown, ref.Shows target (doc.after earlier).fields shown ∧
              (now.populated? source (doc.after earlier) spec.path).1 = some shown ∧
              ∀ later (other : Realm) source', (other.populated? source'
                ((now.populated? source (doc.after earlier) spec.path).2.after later)
                spec.path).1 = some shown := by
  refine ⟨fun r' same => ?_, exists_populate_eq_error_iff own, fun doc populated => ⟨?_, ?_⟩⟩
  · rw [← r'.populate_emptied, same, populate_emptied]
  · obtain ⟨refs, -, rfl⟩ := (populate_eq_ok_iff own).mp populated
    exact start.attachAll_fields refs
  · rintro before spec after rfl last
    obtain ⟨ref, refers, awaits⟩ := populate_awaits own populated last
    refine ⟨ref, refers, fun earlier unasked now target source held => ?_⟩
    rw [← refers.spec_eq] at unasked ⊢
    have awaits := awaits.after unasked
    refine ⟨_, resolve_shows held source _, awaits.populated?_fst now source, ?_⟩
    intro later other source'
    exact ((awaits.populated?_snd now source).after later).populated?_fst other source'

/-- Libraries by name, the last one first and that one left out. The second spec of the path counts, a
tag that is gone is passed over, and what was found outlives the tags. -/
theorem populate_shows_libraries :
    let tags : Path := ⟨"tags", []⟩
    let type : FieldType := .array (.leaf .string { reference := some "Tag" }) {}
    let lib (id name : String) : Fields :=
      [("_id", .string id), ("name", .string name), ("kind", .string "lib")]
    let tag : Model :=
      { handle := ⟨0, "Tag", Schema.initial⟩, database := some 0
        collection := { slots := [("t1", some (lib "t1" "async")), ("t2", some (lib "t2" "rust")),
          ("t3", some [("_id", .string "t3"), ("name", .string "talk")])], size := 3 } }
    let post : Model :=
      { handle := ⟨1, "Post", Schema.initial.declareAll [(tags, type)]⟩, database := some 0 }
    let r : Realm :=
      { models := [tag, post]
        databases := [{ settings := {}, registry := [("Tag", 0), ("Post", 1)] }] }
    let ids : List Value := ["t1", "gone", "t3", "t2", "t1"].map Value.string
    let start := Document.ofFields post.handle [("_id", .string "p"), ("tags", .array ids)]
    let libraries : PopulationSpec :=
      { path := tags, selector := some (.spec (.object [("kind", .string "lib")])),
        sort := some [⟨⟨"name", []⟩, true⟩], skip := 1 }
    let source : Source := ⟨fun _ => 0, ⟨0, 0⟩, []⟩
    ∃ doc, r.model? start.model.number = some post ∧
      r.populate start [{ path := tags }, libraries] = .ok doc ∧
      (r.populated? source doc tags).1 = some (.many [lib "t1" "async", lib "t1" "async"]) ∧
      (r.emptied.populated? source (r.populated? source doc tags).2 tags).1 =
        some (.many [lib "t1" "async", lib "t1" "async"]) := by
  intro tags type lib tag post r ids start libraries source
  have own : r.model? start.model.number = some post := rfl
  obtain ⟨-, -, shows⟩ := populate_shows own [{ path := tags }, libraries]
  obtain ⟨-, shows⟩ := shows _ rfl
  obtain ⟨ref, refers, shows⟩ := shows [{ path := tags }] libraries [] rfl (by simp)
  have taken : r.reference post libraries = .ok _ := rfl
  obtain rfl := Except.ok.inj (taken.symm.trans refers.eq)
  obtain ⟨shown, -, first, ever⟩ := shows [] (by simp) r tag source rfl
  obtain rfl : shown = .many [lib "t1" "async", lib "t1" "async"] :=
    Option.some.inj (first.symm.trans (by cbv))
  exact ⟨_, own, rfl, first, ever [] r.emptied source⟩

end Realm

end DocStore
