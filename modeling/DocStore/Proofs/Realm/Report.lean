import DocStore.Proofs.Schema.Guarded
import DocStore.Proofs.Write.Selected
import DocStore.Realm.Report

/-!
# Reports and writes

A report casts each document once more and checks it, where a write that replaces a document gives
it its id back before it is cast. The two agree on which documents are in order. What they say of
one that is not may differ in the text of an object that stands in the place of the id.
-/

namespace DocStore

open Schema

/-- Casting an id once more does not change what is shown of it. -/
def Schema.ShowsOnce (schema : Schema) (id : String) : Prop :=
  ∀ first second : Source,
    ((schema.fill second (schema.fill first [(idPath.head, .string id)])).atD idPath).text =
      ((schema.fill first [(idPath.head, .string id)]).atD idPath).text

/-- What a report finds in a document, against the answer when it is replaced by itself. -/
structure Findings.Foretell (findings : Findings) (m : Model) (id : String) (doc : Document) :
    Prop where
  single : findings.errors.length ≤ 1
  lists : ∀ source, findings.errors ≠ [] ↔ ∃ path fault,
    (m.perform source (.replace id (.object doc.fields))).result =
      .error (.validation path fault)
  text : ∀ source path fault, (m.perform source (.replace id (.object doc.fields))).result =
      .error (.validation path fault) → ∀ e ∈ findings.errors,
    (e.message = (Error.validation path fault).message ↔ m.schema.ShowsOnce id)
  /-- Without a default below the id the texts are the same. -/
  bare : IsBare m.schema.entries → findings.id = id ∧ m.schema.ShowsOnce id

variable {m : Model} {source first second third : Source} {schema : Schema} {stored fields : Fields}
  {id : String} {v w : Value} {path : Path} {fault : Fault}

-- ---------------------------------------------------------------------------
-- Two checks
-- ---------------------------------------------------------------------------

theorem Fault.text_notA : (Fault.notA expected v).text = (Fault.notA expected w).text ↔
    v.text = w.text := by
  unfold Fault.text
  dsimp only
  rw [String.append_left_inj, String.append_left_inj, String.append_left_inj,
    String.append_right_inj]

theorem Error.message_validation {other : Fault} : (Error.validation path fault).message =
    (Error.validation path other).message ↔ fault.text = other.text := by
  unfold Error.message
  dsimp only
  rw [String.append_right_inj]

namespace Schema

namespace Guarded

/-- Without a default below the id it makes no difference whether a document gets its id back before
it is filled once more. -/
theorem fill_again (guarded : schema.Guarded) (bare : IsBare schema.entries)
    (named : idOf stored = some id) (first second third : Source) :
    schema.fill third ((schema.fill first stored).insert idPath.head (.string id)) =
      schema.fill second (schema.fill first stored) := by
  have held : (schema.fill first stored).get? idPath.head = some (.string id) :=
    (guarded.at?_fill_named named first).resolve_right (fun other => other.1 bare) |>.2
  rw [Fields.insert_eq_self held]
  exact fill_fill_eq guarded.once first third second

/-- With one, an object is refused in either case: the one that an id comes to when it is cast
twice, and the one that it comes to at once. -/
theorem check_again (guarded : schema.Guarded) (covered : ¬ IsBare schema.entries)
    (named : idOf stored = some id) (first second third : Source) : ∃ twice once,
    (schema.check (schema.fill second (schema.fill first stored))).1 =
      .error (.validation idPath (.notA .id twice)) ∧
    (schema.check (schema.fill third
        ((schema.fill first stored).insert idPath.head (.string id)))).1 =
      .error (.validation idPath (.notA .id once)) ∧
    (twice.text = once.text ↔ schema.ShowsOnce id) := by
  obtain ⟨v, -, name⟩ := idOf_eq_some.mp named
  have text : (Value.string id).name? = some id := Value.name?_string name
  have single : idOf [(idPath.head, .string id)] = some id := text
  have given : idOf ((schema.fill first stored).insert idPath.head (.string id)) = some id :=
    (idOf_of_at? Fields.get?_insert_self).trans text
  obtain ⟨-, found, shown⟩ :=
    (guarded.at?_fill_named named first).resolve_left fun other => covered other.1
  obtain ⟨twice, again⟩ := guarded.at?_fill_object shown second
  obtain ⟨-, once, atOnce⟩ :=
    (guarded.at?_fill_named given third).resolve_left fun other => covered other.1
  refine ⟨.object twice, .object once, by rw [guarded.check_object again],
    by rw [guarded.check_object atOnce], ?_⟩
  -- the id alone comes to the same two objects
  have alone (s t : Source) :
      (schema.fill s [(idPath.head, .string id)]).at? idPath = some (.object once) ∧
        (schema.fill t (schema.fill s [(idPath.head, .string id)])).at? idPath =
          some (.object twice) := by
    have like : (schema.fill s [(idPath.head, .string id)]).at? idPath = some (.object found) :=
      (guarded.at?_fill_of_idOf single named s first).trans shown
    exact ⟨(guarded.at?_fill_of_idOf single given s third).trans atOnce,
      (guarded.at?_fill_congr like shown (by simp) rfl t second).trans again⟩
  constructor
  · intro same s t
    rw [Fields.atD_of_at? (alone s t).1, Fields.atD_of_at? (alone s t).2, same]
  · intro shows
    have same := shows first second
    rwa [Fields.atD_of_at? (alone first second).1,
      Fields.atD_of_at? (alone first second).2] at same

theorem showsOnce (guarded : schema.Guarded) (bare : IsBare schema.entries)
    (text : (Value.string id).name? = some id) : schema.ShowsOnce id := by
  intro first second
  have single : idOf [(idPath.head, .string id)] = some id := text
  obtain ⟨-, once⟩ := (guarded.at?_fill_named single first).resolve_right fun other => other.1 bare
  obtain ⟨-, twice⟩ := (guarded.at?_fill_named ((idOf_of_at? once).trans text) second).resolve_right
    fun other => other.1 bare
  rw [Fields.atD_of_at? once, Fields.atD_of_at? twice]

/-- What is stored under an id has it. -/
theorem names (guarded : schema.Guarded) : schema.Names := by
  intro id doc change admits text
  cases admits with
  | named source fields own checked => exact idOf_checkEntries guarded.keepsId checked own
  | given source fields checked =>
    have given : idOf (fields.insert idPath.head (.string id)) = some id :=
      (idOf_of_at? Fields.get?_insert_self).trans text
    rcases guarded.at?_fill_named given (source.branch 0) with ⟨-, held⟩ | ⟨-, c, object⟩
    · exact idOf_checkEntries guarded.keepsId checked ((idOf_of_at? held).trans text)
    · rw [guarded.check_object object] at checked
      cases (Prod.mk.inj checked).1

end Guarded

end Schema

-- ---------------------------------------------------------------------------
-- Replacing
-- ---------------------------------------------------------------------------

namespace Model

/-- No hook runs before a save, and none that runs after it blames a field of the document. -/
structure SavesFreely (m : Model) : Prop where
  before : m.hooks .before .save = []
  after : ∀ hook ∈ m.hooks .after .save, ∀ doc path fault,
    hook.check doc ≠ .error (.validation path fault)

theorem SavesFreely.execute_ne (free : m.SavesFreely) {c : Commit} (saves : c.change = .update) :
    (m.execute (.commit c)).result ≠ .error (.validation path fault) := by
  intro failed
  have save : c.change.action = .save := by rw [saves]; rfl
  simp only [execute, save, free.before, runHooks, map_eq_error] at failed
  obtain ⟨ran, run, -⟩ := (m.commit (.commit c)).1.runHooks_run c.document (m.hooks .after .save)
  have failed : ((m.commit (.commit c)).1.runHooks c.document (m.hooks .after .save)).1 =
      .error (.validation path fault) := failed
  rw [failed] at run
  generalize hooks : m.hooks .after .save = after at run
  cases run with
  | upTo passed refused =>
    exact free.after _ (by simp [hooks]) c.document path fault refused

/-- A replacement is refused as invalid exactly when the check refuses it. -/
theorem SavesFreely.perform_replace (free : m.SavesFreely)
    (used : m.collection.contains id = true) (source : Source) (fields : Fields) :
    (m.perform source (.replace id (.object fields))).result = .error (.validation path fault) ↔
      (m.schema.check (m.schema.fill (source.branch 0)
        (fields.insert idPath.head (.string id)))).1 = .error (.validation path fault) := by
  have planned : m.prepare (.replace id (.object fields)) >>= m.plan source =
      m.planReplace source id fields := by
    change m.plan source (.replace id fields) = _
    rw [plan, if_pos used]
  simp only [perform, planned]
  cases result : m.schema.check (m.schema.fill (source.branch 0)
    (fields.insert idPath.head (.string id))) with
  | mk verdict out =>
    cases verdict with
    | error e => simp [planReplace, checked, result, bind, Except.bind]
    | ok u =>
      have stored : m.planReplace source id fields = .ok (m.storing source .update id out) := by
        simp [planReplace, checked, result, bind, Except.bind]
      simp only [stored, reduceCtorEq, iff_false]
      exact free.execute_ne rfl

end Model

-- ---------------------------------------------------------------------------
-- Reports
-- ---------------------------------------------------------------------------

/-- What a model holds was left there by writes and loads, whatever hooks and listeners it has. -/
def Model.IsReached (m : Model) : Prop :=
  ∃ (start : Model) (writes : List (Source × Request)), start.schema = m.schema ∧
    start.collection = {} ∧ m.collection = (start.performEach writes).1.collection

theorem Model.IsReached.keyed (reached : m.IsReached) (names : m.schema.Names) :
    m.collection.Keyed := by
  obtain ⟨start, writes, schema, empty, left⟩ := reached
  rw [left]
  exact Model.performEach_keyed_of_names (schema ▸ names) (empty ▸ Collection.keyed_empty) writes

theorem forall₂_zipIdx {R : α → β → Prop} {l : List α} {k : List β} (each : List.Forall₂ R l k)
    (n : Nat) : List.Forall₂ (fun a e => R a e.1) l (k.zipIdx n) := by
  induction each generalizing n with
  | nil => exact .nil
  | cons first _ ih => exact .cons first (ih (n + 1))

namespace Realm

theorem mem_findings_errors {r : Realm} {doc : Document} {e : Error} :
    e ∈ (r.findings m source doc).errors ↔
      (m.schema.check (m.schema.fill source doc.fields)).1 = .error e := by
  cases verdict : (m.schema.check (m.schema.fill source doc.fields)).1 with
  | ok u => simp [findings, verdict]
  | error e' => simp [findings, verdict, eq_comm]

theorem length_findings_errors (r : Realm) (m : Model) (source : Source) (doc : Document) :
    (r.findings m source doc).errors.length ≤ 1 := by
  simp only [findings]
  split <;> simp

theorem findings_errors_ne_nil {r : Realm} {doc : Document} :
    (r.findings m source doc).errors ≠ [] ↔ ∃ path fault,
      (m.schema.check (m.schema.fill source doc.fields)).1 = .error (.validation path fault) := by
  constructor
  · intro some
    obtain ⟨e, mem⟩ := List.exists_mem_of_ne_nil _ some
    have failed := mem_findings_errors.mp mem
    obtain ⟨path, fault, rfl⟩ := check_error failed
    exact ⟨path, fault, failed⟩
  · rintro ⟨path, fault, failed⟩
    exact List.ne_nil_of_mem (mem_findings_errors.mpr failed)

/-- What is found in a stored document is what replacing it would come to. -/
theorem foretell_findings (r : Realm) (guarded : m.schema.Guarded) (free : m.SavesFreely)
    (used : m.collection.contains id = true) (named : idOf stored = some id)
    (lookup source : Source) : (r.findings m source (m.documentOf lookup stored)).Foretell m id
      (m.documentOf lookup stored) := by
  obtain ⟨v, -, name⟩ := idOf_eq_some.mp named
  have shown : (m.documentOf lookup stored).fields = m.schema.fill lookup stored := rfl
  refine ⟨length_findings_errors .., fun other => ?_, ?_, fun bare => ⟨?_, ?_⟩⟩
  · simp only [findings_errors_ne_nil, free.perform_replace used, shown]
    by_cases bare : IsBare m.schema.entries
    · rw [guarded.fill_again bare named lookup source (other.branch 0)]
    · obtain ⟨twice, once, found, told, -⟩ :=
        guarded.check_again bare named lookup source (other.branch 0)
      simp only [found, told]
      exact iff_of_true ⟨_, _, rfl⟩ ⟨_, _, rfl⟩
  · intro other path fault failed e mem
    rw [mem_findings_errors, shown] at mem
    rw [free.perform_replace used, shown] at failed
    by_cases bare : IsBare m.schema.entries
    · rw [guarded.fill_again bare named lookup source (other.branch 0), mem] at failed
      obtain rfl := Except.error.inj failed
      exact iff_of_true rfl (guarded.showsOnce bare (Value.name?_string name))
    · obtain ⟨twice, once, found, told, shows⟩ :=
        guarded.check_again bare named lookup source (other.branch 0)
      obtain rfl := Except.error.inj (found.symm.trans mem)
      obtain ⟨rfl, rfl⟩ := Error.validation.inj (Except.error.inj (told.symm.trans failed))
      rw [Error.message_validation, Fault.text_notA, shows]
  · obtain ⟨-, held⟩ := (guarded.at?_fill_named named lookup).resolve_right
      fun covered => covered.1 bare
    exact congrArg (fun found => (found.bind Value.string?).getD "") held
  · exact guarded.showsOnce bare (Value.name?_string name)

theorem shows_query (m : Model) (source : Source) :
    m.Shows (m.query source).items m.collection.entries := by
  have stored : List.Forall₂ (fun e fields => fields = e.2) m.collection.entries
      m.collection.live := by
    rw [Collection.live_eq_map, List.forall₂_map_right_iff]
    exact List.forall₂_same.mpr fun _ _ => rfl
  rw [Model.Shows, Model.query, Model.documentsOf, List.forall₂_map_right_iff]
  refine (forall₂_zipIdx stored 0).imp ?_
  rintro e ⟨fields, i⟩ rfl
  exact ⟨_, rfl⟩

/-- After any run of writes and loads a report counts every document and tells what would come of
replacing it by itself: it has an error exactly if that would be refused as invalid, with the same
text exactly if an id that is cast once more shows the same. The report itself is a reading: nothing
comes of it but what it says. -/
theorem report_foretells (guarded : m.schema.Guarded) (free : m.SavesFreely)
    (reached : m.IsReached) (r : Realm) (source : Source) :
    (r.report m source).checked = m.count ∧
      ∃ all : List Findings,
        (r.report m source).documents =
          all.filter (fun found => !found.errors.isEmpty || !found.warnings.isEmpty) ∧
        List.Forall₂ (fun e found => ∃ doc,
          (∃ lookup, m.findById lookup e.1 = some doc) ∧
          (m.schema.DrawsNothing → ∀ lookup, m.findById lookup e.1 = some doc) ∧
          found.Foretell m e.1 doc) m.collection.entries all := by
  have keyed := reached.keyed guarded.names
  refine ⟨?_, _, rfl, ?_⟩
  · simp [report, Model.count, Model.query, Model.documentsOf, keyed.size]
  rw [List.forall₂_map_right_iff]
  have stored : ∀ e ∈ m.collection.entries,
      m.collection.find? e.1 = some e.2 ∧ idOf e.2 = some e.1 := fun e mem =>
    ⟨keyed.toTidy.find?_of_mem mem, keyed.named e.1 e.2 (Collection.mem_entries.mp mem)⟩
  have shown := forall₂_zipIdx (shows_query m (source.branch 0)) 0
  refine ((List.forall₂_and_left _ _).mpr ⟨stored, shown⟩).imp ?_
  rintro e ⟨doc, i⟩ ⟨⟨held, named⟩, lookup, rfl⟩
  have found (lookup : Source) : m.findById lookup e.1 = some (m.documentOf lookup e.2) := by
    rw [Model.findById, held, Option.map_some]
  refine ⟨_, ⟨lookup, found lookup⟩, fun nothing other => ?_, ?_⟩
  · rw [found, Model.documentOf, Model.documentOf, nothing.fill_eq named other lookup]
  · exact foretell_findings r guarded free (Model.contains_of_find? held) named lookup _

/-- A document that was loaded with a text for a virtual field, whose setter makes an age of it. -/
theorem report_foretells_age :
    let years : VirtualField := { setter := some fun doc v => doc.set ⟨"age", []⟩ v }
    let declared : List (Path × FieldType) := [
      (⟨"years", []⟩, .ofKind (.virtual years)), (⟨"age", []⟩, .ofKind .number)]
    let audit : Hook :=
      { phase := .after, action := .save, label := "audit", check := fun _ => .error (.hook "no") }
    let m : Model :=
      { handle := ⟨0, "pets", initial.declareAll declared⟩, behavior := { hooks := [audit] },
        collection := { slots := [("a", some [("_id", .string "a"), ("years", .string "three")])],
                        size := 1 } }
    let source : Source := ⟨fun _ => 0, ⟨0, 0⟩, []⟩
    let report := report {} m source
    (m.schema.Guarded ∧ m.SavesFreely ∧ m.IsReached ∧ m.schema.DrawsNothing) ∧
      report.documents.map (fun found => (found.id, found.errors.map Error.message)) =
        [("a", ["Validation error: `age` `three` is not a number!"])] ∧
      report.checked = m.count ∧ ∃ all : List Findings,
        report.documents =
          all.filter (fun found => !found.errors.isEmpty || !found.warnings.isEmpty) ∧
        List.Forall₂ (fun e found => ∃ doc,
          (∃ lookup, m.findById lookup e.1 = some doc) ∧
          (m.schema.DrawsNothing → ∀ lookup, m.findById lookup e.1 = some doc) ∧
          found.Foretell m e.1 doc) m.collection.entries all := by
  let years : VirtualField := { setter := some fun doc v => doc.set ⟨"age", []⟩ v }
  let declared : List (Path × FieldType) := [
    (⟨"years", []⟩, .ofKind (.virtual years)), (⟨"age", []⟩, .ofKind .number)]
  let audit : Hook :=
    { phase := .after, action := .save, label := "audit", check := fun _ => .error (.hook "no") }
  let stored : Fields := [("_id", .string "a"), ("years", .string "three")]
  let m : Model :=
    { handle := ⟨0, "pets", initial.declareAll declared⟩, behavior := { hooks := [audit] },
      collection := { slots := [("a", some stored)], size := 1 } }
  let source : Source := ⟨fun _ => 0, ⟨0, 0⟩, []⟩
  have entries : m.schema.entries =
      (idPath, .leaf (.id .nanoid) { required := true }) :: declared := rfl
  have nothing : m.schema.DrawsNothing := by
    rw [Schema.DrawsNothing, entries]
    simp only [declared, List.forall_mem_cons]
    exact ⟨fun _ => .inl trivial, fun _ => .inr fun _ _ => rfl, fun _ => .inr fun _ _ => rfl,
      by simp⟩
  have sets (v : Value) (doc : Fields) : (years.assign v doc).at? idPath = doc.at? idPath := by
    cases v <;> first | rfl | exact Fields.at?_set_of_parts (Path.parts_single.mpr (by decide))
  have spares : ∀ entry ∈ m.schema.entries, entry.2.SparesPath idPath := by
    rw [entries]
    simp only [declared, List.forall_mem_cons]
    refine ⟨FieldType.sparesPath_of_stored rfl _, fun field mem => ?_,
      FieldType.sparesPath_of_stored rfl _, by simp⟩
    obtain rfl := List.mem_singleton.mp mem
    exact sets
  have guarded : m.schema.Guarded :=
    ⟨⟨declared, entries⟩, distinct_declareAll declared, spares, nothing.once⟩
  have free : m.SavesFreely := ⟨rfl, by simp [m, audit, Model.hooks]⟩
  have reached : m.IsReached :=
    ⟨{ m with collection := {} }, [(source, .load [.object [("_id", .string "a"),
      ("years", .string "three")]])], rfl, rfl, rfl⟩
  exact ⟨⟨guarded, free, reached, nothing⟩, by decide +kernel,
    report_foretells guarded free reached {} source⟩

/-- A default below the id that is a text for a number. What is reported is the object after its
number was cast, what replacing the document comes to is the object with the text. And a hook after
the commit may blame a document that is in order: of that a report knows nothing. -/
theorem report_not_foretells :
    let five : FieldType := .leaf .number { default := some (.fixed (.string "5")) }
    let source : Source := ⟨fun _ => 0, ⟨0, 0⟩, []⟩
    let pets : Collection := { slots := [("a", some [("_id", .string "a")])], size := 1 }
    let cover : Model :=
      { handle := ⟨0, "pets", initial.declareAll [(⟨"_id", ["x"]⟩, five)]⟩, collection := pets }
    let blame : Hook :=
      { phase := .after, action := .save, label := "blame",
        check := fun _ => .error (.validation idPath .missing) }
    let plain : Model :=
      { handle := ⟨0, "pets", initial⟩, behavior := { hooks := [blame] }, collection := pets }
    let replaced (m : Model) (doc : Document) :=
      (m.perform source (.replace "a" (.object doc.fields))).result
    (cover.schema.Guarded ∧ cover.schema.DrawsNothing ∧ cover.SavesFreely ∧ cover.IsReached ∧
      (report {} cover source).documents.map (fun found => found.errors.map Error.message) =
        [["Validation error: `_id` `\x7b\"x\":5\x7d` is not a valid id!"]] ∧
      ∃ doc e, cover.findById source "a" = some doc ∧ replaced cover doc = .error e ∧
        e.message = "Validation error: `_id` `\x7b\"x\":\"5\"\x7d` is not a valid id!") ∧
    (plain.schema.Guarded ∧ plain.schema.DrawsNothing ∧ plain.hooks .before .save = [] ∧
      plain.IsReached ∧ (report {} plain source).documents = [] ∧
      ∃ doc, plain.findById source "a" = some doc ∧
        replaced plain doc = .error (.validation idPath .missing)) := by
  let five : FieldType := .leaf .number { default := some (.fixed (.string "5")) }
  let source : Source := ⟨fun _ => 0, ⟨0, 0⟩, []⟩
  let pets : Collection := { slots := [("a", some [("_id", .string "a")])], size := 1 }
  let cover : Model :=
    { handle := ⟨0, "pets", initial.declareAll [(⟨"_id", ["x"]⟩, five)]⟩, collection := pets }
  let blame : Hook :=
    { phase := .after, action := .save, label := "blame",
      check := fun _ => .error (.validation idPath .missing) }
  let plain : Model :=
    { handle := ⟨0, "pets", initial⟩, behavior := { hooks := [blame] }, collection := pets }
  let load : List (Source × Request) := [(source, .load [.object [("_id", .string "a")]])]
  have covered : cover.schema.entries = (idPath, .leaf (.id .nanoid) { required := true }) ::
      [(⟨"_id", ["x"]⟩, five)] := rfl
  have nothing : cover.schema.DrawsNothing := by
    rw [Schema.DrawsNothing, covered]
    simp only [List.forall_mem_cons]
    exact ⟨fun _ => .inl trivial, fun _ => .inr fun _ _ => rfl, by simp⟩
  have spares : ∀ entry ∈ cover.schema.entries, entry.2.SparesPath idPath := by
    rw [covered]
    simp only [List.forall_mem_cons]
    exact ⟨FieldType.sparesPath_of_stored rfl _, FieldType.sparesPath_of_stored rfl _, by simp⟩
  have drawsNothing : plain.schema.DrawsNothing := by
    rintro entry mem -
    obtain rfl := List.mem_singleton.mp mem
    exact .inl rfl
  have coverGuarded : cover.schema.Guarded := ⟨⟨_, covered⟩, by decide, spares, nothing.once⟩
  have plainGuarded : plain.schema.Guarded := by
    refine ⟨⟨[], rfl⟩, by decide, fun entry mem => ?_, drawsNothing.once⟩
    obtain rfl := List.mem_singleton.mp mem
    exact FieldType.sparesPath_of_stored rfl _
  have coverReached : cover.IsReached := ⟨{ cover with collection := {} }, load, rfl, rfl, rfl⟩
  have plainReached : plain.IsReached := ⟨{ plain with collection := {} }, load, rfl, rfl, rfl⟩
  have free : cover.SavesFreely := ⟨rfl, fun _ mem => absurd mem List.not_mem_nil⟩
  exact ⟨⟨coverGuarded, nothing, free, coverReached, by decide +kernel, _, _, rfl, rfl,
    by decide +kernel⟩, plainGuarded, drawsNothing, rfl, plainReached, rfl, _, rfl, rfl⟩

end Realm

end DocStore
