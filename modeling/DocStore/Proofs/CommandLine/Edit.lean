import DocStore.CommandLine.Run
import DocStore.Proofs.Database.Edit

/-!
# Runs that edit a database

A run that inserts, updates or removes a document writes the whole file anew, and no other file. The
file then holds what it held but for the edit, unless it had a version, a number in it does not come
back from its text, or what the edit leaves behind cannot be read.
-/

namespace DocStore

variable {id name model : String} {file : DatabaseFile} {trees : List Json} {edit : Edit}

-- ---------------------------------------------------------------------------
-- Loading
-- ---------------------------------------------------------------------------

/-- Each document holds an id of its own as a text, the empty one excepted. -/
structure AreTidy (docs : List Value) : Prop where
  named : ∀ v ∈ docs, ∃ id, v.textId? = some id ∧ id ≠ ""
  distinct : (docs.map Value.textId?).Nodup

instance (docs : List Value) : Decidable (AreTidy docs) :=
  decidable_of_iff ((∀ v ∈ docs, v.textId?.any (· ≠ "") = true) ∧ (docs.map Value.textId?).Nodup)
    ⟨fun h => ⟨fun v mem => by simpa [Option.any_eq_true] using h.1 v mem, h.2⟩,
      fun h => ⟨fun v mem => by simpa [Option.any_eq_true] using h.named v mem, h.distinct⟩⟩

theorem forall_of_forall₂ {α β : Type} {R : α → β → Prop} {P : β → Prop} {l : List α} {m : List β}
    (pairs : List.Forall₂ R l m) (each : ∀ a b, R a b → P b) : ∀ b ∈ m, P b := by
  induction pairs with
  | nil => simp
  | cons first _ ih => exact List.forall_mem_cons.mpr ⟨each _ _ first, ih⟩

namespace Collection

/-- The documents that persisted ones are loaded as, with their ids. -/
structure Loads (trees : List Json) (entries : List (String × Fields)) : Prop where
  each : List.Forall₂ (fun j e => Value.ofJson j = .object e.2 ∧ e.2.IsNamed e.1) trees entries
  proper : AreProper entries

theorem Loads.documents {entries : List (String × Fields)} (loads : Loads trees entries) :
    (ofEntries entries).documents = trees.map Value.ofJson := by
  rw [documents_ofEntries]
  have each := loads.each
  clear loads
  induction each with
  | nil => rfl
  | cons first _ ih => rw [List.map_cons, List.map_cons, ih, first.1]

theorem exists_loads (tidy : AreTidy (trees.map Value.ofJson)) :
    ∃ entries, Loads trees entries := by
  obtain ⟨entries, each⟩ : ∃ entries : List (String × Fields), List.Forall₂
      (fun j e => Value.ofJson j = .object e.2 ∧ e.2.IsNamed e.1) trees entries := by
    refine exists_forall₂ fun j mem => ?_
    obtain ⟨id, own, nonempty⟩ := tidy.named _ (List.mem_map_of_mem mem)
    obtain ⟨doc, same, held⟩ := Value.textId?_eq_some.mp own
    exact ⟨(id, doc), same, held, nonempty⟩
  have ids : (trees.map Value.ofJson).map Value.textId? = entries.map fun e => some e.1 := by
    clear tidy
    induction each with
    | nil => rfl
    | cons first _ ih =>
      simp only [List.map_cons, first.1, first.2.textId]
      exact congrArg _ ih
  refine ⟨entries, each, forall_of_forall₂ each fun j e h => h.2, ?_,
    forall_of_forall₂ each fun j e h => .ofMembers (j := j) (by rw [h.1]; rfl)⟩
  have distinct := ids ▸ tidy.distinct
  exact (List.nodup_map_iff (f := some) (Option.some_injective _)).mp
    (by simpa [Function.comp_def] using distinct)

end Collection

/-- The documents that the models of a file are loaded with. -/
def DatabaseFile.Loads (file : DatabaseFile)
    (entries : List (String × List (String × Fields))) : Prop :=
  List.Forall₂ (fun e l => l.1 = e.1 ∧ Collection.Loads e.2 l.2) file.models entries

/-- Models with the documents that they are loaded with. -/
def collections (entries : List (String × List (String × Fields))) : List (String × Collection) :=
  entries.map fun e => (e.1, .ofEntries e.2)

namespace DatabaseFile

variable {entries : List (String × List (String × Fields))}

theorem exists_loads (tidy : ∀ e ∈ file.contents, AreTidy e.2) :
    ∃ entries, file.Loads entries := by
  refine exists_forall₂ fun e mem => ?_
  obtain ⟨entries, loads⟩ :=
    Collection.exists_loads (tidy _ (List.mem_map.mpr ⟨e, mem, rfl⟩))
  exact ⟨(e.1, entries), rfl, loads⟩

theorem Loads.contents (loads : file.Loads entries) :
    file.contents = (collections entries).map fun e => (e.1, e.2.documents) := by
  rw [DatabaseFile.contents, collections, List.map_map]
  unfold Loads at loads
  generalize file.models = models at loads ⊢
  induction loads with
  | nil => rfl
  | cons first _ ih =>
    rw [List.map_cons, List.map_cons, ih, Function.comp_apply, first.2.documents, first.1]

theorem Loads.collections (loads : file.Loads entries) :
    List.Forall₂ (fun e l => l.1 = e.1 ∧
      Collection.ofPersisted Schema.initial e.2 {} = .ok l.2) file.models (collections entries) :=
  List.forall₂_map_right_iff.mpr (loads.imp fun _ _ first =>
    ⟨first.1, Collection.ofPersisted_eq_ofEntries first.2.each first.2.proper.nodup⟩)

theorem Loads.proper (loads : file.Loads entries) :
    ∀ e ∈ entries, Collection.AreProper e.2 :=
  forall_of_forall₂ loads fun _ _ h => h.2.proper

theorem Loads.inOrder (loads : file.Loads entries) (inOrder : InOrder file.models) :
    InOrder (DocStore.collections entries) := by
  have held : InOrder file.contents := List.pairwise_map.mpr inOrder
  refine held.of_names ?_
  rw [loads.contents, List.map_map]
  rfl

end DatabaseFile

namespace CommandLine

open Realm (holding)

-- ---------------------------------------------------------------------------
-- Directories
-- ---------------------------------------------------------------------------

namespace Directory

variable {d after : Directory} {place other : Place} {text : String}

theorem text?_write (written : d.write place text = .ok after) : after.text? place = some text := by
  simp only [write] at written
  split at written
  · cases written
  · cases written
    simp [text?]

/-- Writing a file leaves all others alone. -/
theorem text?_write_of_ne (written : d.write place text = .ok after) (ne : other ≠ place) :
    after.text? other = d.text? other := by
  have spared : ∀ files : List (Place × String),
      (files.filter (·.1 != place)).lookup other = files.lookup other := by
    intro files
    induction files with
    | nil => rfl
    | cons f rest ih =>
      obtain ⟨there, content⟩ := f
      by_cases same : there = place
      · have apart : (other == there) = false := beq_eq_false_iff_ne.mpr (same ▸ ne)
        simp [same, List.lookup_cons, same ▸ apart, ih]
      · simp only [List.filter_cons, bne_iff_ne.mpr same, if_true, List.lookup_cons, ih]
  simp only [write] at written
  split at written
  · cases written
  · cases written
    simp [text?, List.lookup_cons, beq_eq_false_iff_ne.mpr ne, spared]

end Directory

-- ---------------------------------------------------------------------------
-- Commands
-- ---------------------------------------------------------------------------

/-- The model that a command edits, and how. -/
def Command.edit? : Command → Option (String × Edit)
  | .insert model _ => some (model, .append)
  | .update model id _ => some (model, .change id)
  | .remove model id false => some (model, .remove id)
  | _ => none

variable {r : Realm} {n : Nat} {source : Source} {db : String} {answer : Answer}
  {command : Command}

theorem writeAnswer_ok {m : Model} {request : Request} {shown : Document → Json}
    (ok : writeAnswer m source request shown = .ok answer) :
    (∃ reply, (m.perform source request).result = .ok reply) ∧
      answer.written = some (m.perform source request).model := by
  simp only [writeAnswer, bind_eq_ok, Except.ok.injEq] at ok
  obtain ⟨reply, done, rfl⟩ := ok
  exact ⟨⟨reply, done⟩, rfl⟩

/-- An edit is one write to the model that it names. -/
theorem Command.answer_ok (edits : command.edit? = some (model, edit))
    (ok : command.answer r n source db = .ok answer) :
    ∃ m request, r.lookUp? n model = some m ∧ request.edit? = some edit ∧ request.IsOfTree ∧
      (∃ reply, (m.perform source request).result = .ok reply) ∧
      answer.written = some (m.perform source request).model := by
  have got {m : Model} (held : r.get n model = .ok m) : r.lookUp? n model = some m := by
    simp only [Realm.get] at held
    split at held
    · exact Except.ok.inj held ▸ ‹_›
    · cases held
  cases command with
  | insert name doc =>
    cases edits
    simp only [Command.answer, bind_eq_ok] at ok
    obtain ⟨tree, -, m, held, ok⟩ := ok
    exact ⟨m, .insert (Value.ofJson tree), got held, rfl, ⟨tree, rfl⟩, writeAnswer_ok ok⟩
  | update name id text =>
    cases edits
    simp only [Command.answer, bind_eq_ok] at ok
    obtain ⟨tree, -, m, held, ok⟩ := ok
    exact ⟨m, .update id (Value.ofJson tree), got held, rfl, trivial, writeAnswer_ok ok⟩
  | remove name id dry =>
    cases dry with
    | true => cases edits
    | false =>
      cases edits
      simp only [Command.answer, bind_eq_ok] at ok
      obtain ⟨m, held, ok⟩ := ok
      exact ⟨m, .remove id, got held, rfl, trivial, writeAnswer_ok ok⟩
  | _ => cases edits

variable {i : Invocation} {d after : Directory} {text : String} {words : List String}

/-- A run without a schema works on the models of its file and no others. -/
theorem Invocation.openDatabase_ok {models : List (String × Collection)} (schema : i.schema = none)
    (read : d.read? i.place = .ok (some text)) (decoded : DatabaseFile.ofText? text = some file)
    (each : List.Forall₂ (fun e l => l.1 = e.1 ∧
      Collection.ofPersisted Schema.initial e.2 {} = .ok l.2) file.models models)
    (nodup : (models.map Prod.fst).Nodup) (source : Source) :
    i.openDatabase source d = .ok (holding { file := some i.db } models, 0) := by
  have loaded : (holding { file := some i.db } []).loadModels 0 source file.models = _ :=
    Realm.loadModels_holding source each (by simpa using nodup)
  have silent : ∀ stored, Realm.callback? { file := some i.db } stored = none := by
    intro stored
    simp only [Realm.callback?]
    repeat' split
    all_goals rfl
  have settings : ∀ models, (holding { file := some i.db } models).settingsOf 0 =
    { file := some i.db } := fun _ => rfl
  have path : (holding { file := some i.db } []).file 0 = .ok i.db := rfl
  simp only [openDatabase, schema, read, Realm.openDatabase_eq_holding, bind, Except.bind,
    Realm.load, path, Realm.loadText, decoded, loaded, settings, silent]
  rfl

/-- A run that exits well has an answer. -/
theorem Invocation.exists_answer (well : (i.run source d).exitCode = 0) :
    ∃ answer, i.answer source d = .ok (answer, (i.run source d).directory) := by
  cases asked : i.answer source d with
  | error e =>
    simp [run, asked, Run.exitCode, Failure.exitCode] at well
  | ok found => exact ⟨found.1, by simp [run, asked]⟩

/-- What is saved after one collection was edited. -/
theorem saved_edit {entries : List (String × List (String × Fields))} {settings : Settings}
    {after : Collection} {doc : Value} {n : Nat} (version : settings.version = 0)
    (loads : file.Loads entries) (inOrder : DatabaseFile.InOrder (collections entries))
    (there : (collections entries)[n]? = some (model, .ofEntries e))
    (documents : after.documents = edit.apply doc (Collection.ofEntries e).documents)
    (exported : Realm.exported after = after.documents.map Value.toJson) :
    ((holding settings (collections entries)).putModel (.plain n model after)).saved 0 =
      (DatabaseFile.unversioned (edit.within model doc file.contents)).text := by
  have inOrder' : DatabaseFile.InOrder (Realm.replace model after (collections entries)) :=
    inOrder.of_names (Realm.map_fst_replace ..)
  rw [Realm.putModel_holding inOrder.nodup there, Realm.saved_holding inOrder', version]
  refine congrArg
    (fun models => DatabaseFile.text { version := 0, engine := engineVersion, models }) ?_
  rw [loads.contents, Edit.within, Realm.replace]
  simp only [List.map_map]
  refine List.map_congr_left fun f mem => ?_
  simp only [Function.comp_apply]
  by_cases same : f.1 = model
  · have one : f = (model, .ofEntries e) :=
      List.inj_on_of_nodup_map inOrder.nodup mem (List.mem_of_getElem? there) same
    rw [if_pos same, if_pos same, one, exported, documents]
  · obtain ⟨g, own, rfl⟩ := List.mem_map.mp mem
    rw [if_neg same, if_neg same, (loads.proper g own).exported]

/-- A run that edits a database writes its file as of version 0, with the edit in the model that it
names and every other document as it was read; and it leaves all other files alone. -/
theorem Invocation.run_edit (schema : i.schema = none)
    (edits : i.command.edit? = some (model, edit)) (held : d.text? i.place = some text)
    (decoded : DatabaseFile.ofText? text = some file)
    (tidy : ∀ e ∈ file.contents, AreTidy e.2)
    (well : (i.run source d).exitCode = 0) :
    ∃ docs doc, (model, docs) ∈ file.contents ∧ edit.Finds docs ∧
      (edit.stores = true → edit.Leaves doc docs) ∧
      (i.run source d).directory.text? i.place = some (DatabaseFile.unversioned
        (edit.within model (.object doc) file.contents)).text ∧
      ∀ other ≠ i.place, (i.run source d).directory.text? other = d.text? other := by
  obtain ⟨answer, asked⟩ := exists_answer well
  obtain ⟨entries, loads⟩ := DatabaseFile.exists_loads tidy
  have inOrder := loads.inOrder (DatabaseFile.isDecoded_of_ofText? decoded).inOrder
  simp only [Invocation.answer, bind_eq_ok] at asked
  obtain ⟨⟨r, n⟩, opened, answer', answered, asked⟩ := asked
  -- had there been a folder in place of the file, the run would have failed
  have read : d.read? i.place = .ok (some text) := by
    by_cases folder : d.isFolder i.place = true
    · simp [openDatabase, schema, Directory.read?, folder, bind, Except.bind] at opened
    · simp [Directory.read?, folder, held]
  rw [openDatabase_ok schema read decoded loads.collections inOrder.nodup] at opened
  cases opened
  obtain ⟨m, request, found, asks, ofTree, ⟨reply, done⟩, written⟩ :=
    Command.answer_ok edits answered
  obtain ⟨n, c, there, rfl⟩ := Realm.exists_of_lookUp?_holding found
  obtain ⟨e, own, same⟩ := List.mem_map.mp (List.mem_of_getElem? there)
  cases same
  have proper := loads.proper e own
  obtain ⟨after, doc, changed, documents, finds, leaves⟩ :=
    Model.perform_edit proper ofTree asks done
  have versionless : ({ file := some i.db } : Settings).version = 0 := rfl
  have saved := saved_edit versionless loads inOrder there documents
    (Edit.exported_apply proper documents leaves)
  simp only [written, changed, saved, bind_eq_ok, Except.ok.injEq, Prod.mk.injEq] at asked
  obtain ⟨final, put, rfl, here⟩ := asked
  rw [← here]
  refine ⟨_, doc, ?_, finds, leaves, Directory.text?_write put,
    fun other ne => Directory.text?_write_of_ne put ne⟩
  rw [loads.contents]
  exact List.mem_map_of_mem (List.mem_map_of_mem own)

/-- A run that exits well after an edit has written its file anew and left all others alone. What is
read of the file is what the edit alone makes of it exactly if it had version 0, the numbers of all
other documents come back from their texts, and the document that the edit leaves behind can be
read. -/
theorem run_confined_iff (understood : Invocation.ofWords words = .ok i) (schema : i.schema = none)
    (edits : i.command.edit? = some (model, edit)) (held : d.text? i.place = some text)
    (decoded : DatabaseFile.ofText? text = some file)
    (tidy : ∀ e ∈ file.contents, AreTidy e.2)
    (well : (run source d words).exitCode = 0) :
    ∃ docs doc, (model, docs) ∈ file.contents ∧ edit.Finds docs ∧
      (edit.stores = true → edit.Leaves doc docs) ∧
      let after := (run source d words).directory
      let written := DatabaseFile.unversioned (edit.within model (.object doc) file.contents)
      after.text? i.place = some written.text ∧
      (∀ other ≠ i.place, after.text? other = d.text? other) ∧
      ((∃ found, DatabaseFile.ofText? written.text = some found ∧
          edit.Confined model file found) ↔
        file.version = 0 ∧
        (∀ v, edit.Bystander model file.contents v →
          ∀ x, Value.Occurs (.number x) v → x.isSmallWhole = true ∨ x.isKept = true) ∧
        (edit.stores = true →
          (Value.object doc).toJson.nestsIn DatabaseFile.documentDepth = true ∧
          ∀ x, Value.Occurs (.number x) (.object doc) → x.isReadable = true)) := by
  have runs : run source d words = i.run source d := by rw [run, understood]
  rw [runs] at well ⊢
  obtain ⟨docs, doc, addressed, finds, leaves, written, others⟩ :=
    Invocation.run_edit schema edits held decoded tidy well
  exact ⟨docs, doc, addressed, finds, leaves, written, others,
    Edit.confined_iff (DatabaseFile.isDecoded_of_ofText? decoded) addressed finds leaves⟩

/-- A dog is removed and another one stays, together with its age. -/
theorem run_confined_iff_removed :
    let source : Source := ⟨fun _ => 0, ⟨0, 0⟩, []⟩
    let file : DatabaseFile := { engine := engineVersion, models := [("dogs",
      [.object [("_id", .string "rex")], .object [("_id", .string "tip"), ("age", .integer 3)]])] }
    let d : Directory := ⟨[(["db.json"], file.text)]⟩
    let run := run source d ["remove", "dogs", "rex"]
    (DatabaseFile.ofText? file.text = some file ∧ (∀ e ∈ file.contents, AreTidy e.2) ∧
      run.exitCode = 0) ∧
    ∃ text found, run.directory.text? ["db.json"] = some text ∧
      DatabaseFile.ofText? text = some found ∧ (Edit.remove "rex").Confined "dogs" file found := by
  intro source file d run
  have decoded : DatabaseFile.ofText? file.text = some file := by
    rw [DatabaseFile.ofText?_text (by decide) (by unfold DatabaseFile.InOrder; decide)]
    rfl
  have tidy : ∀ e ∈ file.contents, AreTidy e.2 := by decide
  have well : run.exitCode = 0 := by decide +kernel
  refine ⟨⟨decoded, tidy, well⟩, ?_⟩
  have bystanders : ∀ v, (Edit.remove "rex").Bystander "dogs" file.contents v →
      ∀ x, Value.Occurs (.number x) v → x.isSmallWhole = true ∨ x.isKept = true := by
    rintro v ⟨name, docs, held, mem, spared⟩ x inner
    obtain ⟨rfl, rfl⟩ := Prod.mk.inj (List.mem_singleton.mp held)
    rcases List.mem_cons.mp mem with rfl | mem
    · exact absurd rfl (spared rfl)
    · obtain rfl := List.mem_singleton.mp mem
      have three : x = Number.ofInt 3 := by
        obtain ⟨k, w, member, inner⟩ := (Value.occurs_object.mp inner).resolve_left (by simp)
        rcases List.mem_cons.mp member with text | member
        · cases text
          cases inner
        · cases List.mem_singleton.mp member
          exact Value.occurs_number.mp inner
      exact .inl (three ▸ by decide +kernel)
  obtain ⟨docs, doc, -, -, -, written, -, confined⟩ :=
    run_confined_iff (i := ⟨"db.json", none, .yaml, .remove "dogs" "rex" false⟩) rfl rfl rfl rfl
      decoded tidy well
  obtain ⟨found, read, same⟩ := confined.mpr ⟨rfl, bystanders, by simp [Edit.stores]⟩
  exact ⟨_, found, written, read, same⟩

/-- A file of version 3 has version 0 after a dog was removed from it. -/
theorem run_not_confined :
    let source : Source := ⟨fun _ => 0, ⟨0, 0⟩, []⟩
    let file : DatabaseFile := { version := 3, engine := engineVersion, models := [("dogs",
      [.object [("_id", .string "rex")], .object [("_id", .string "tip"), ("age", .integer 3)]])] }
    let d : Directory := ⟨[(["db.json"], file.text)]⟩
    let run := run source d ["remove", "dogs", "rex"]
    (DatabaseFile.ofText? file.text = some file ∧ (∀ e ∈ file.contents, AreTidy e.2) ∧
      run.exitCode = 0) ∧
    ∃ text found, run.directory.text? ["db.json"] = some text ∧
      DatabaseFile.ofText? text = some found ∧ found.version = 0 ∧
      ¬ (Edit.remove "rex").Confined "dogs" file found := by
  intro source file d run
  have decoded : DatabaseFile.ofText? file.text = some file := by
    rw [DatabaseFile.ofText?_text (by decide) (by unfold DatabaseFile.InOrder; decide)]
    rfl
  have after : ((run.directory.text? ["db.json"]).bind DatabaseFile.ofText?).map
      DatabaseFile.version = some 0 := by decide +kernel
  obtain ⟨found, both, version⟩ := Option.map_eq_some_iff.mp after
  obtain ⟨text, written, read⟩ := Option.bind_eq_some_iff.mp both
  refine ⟨⟨decoded, by decide, by decide +kernel⟩, text, found, written, read, version, ?_⟩
  intro confined
  have same : found.version = 3 := confined.version
  omega

end CommandLine

end DocStore
