import DocStore.Proofs.Realm.Edit

/-!
# Edits in the text of a file

What is read back from a file in which one document was edited. The other documents are equal to
what they were exactly if all their numbers come back, whatever was done to the one.
-/

namespace DocStore

open DatabaseFile (documentDepth)

variable {edit : Edit} {id model : String} {doc v w : Value} {docs found : List Value}
  {models : List (String × List Value)} {file : DatabaseFile} {text : String}

-- ---------------------------------------------------------------------------
-- Contents
-- ---------------------------------------------------------------------------

namespace DatabaseFile

/-- The documents of each model as values. -/
def contents (file : DatabaseFile) : List (String × List Value) :=
  file.models.map fun e => (e.1, e.2.map Value.ofJson)

/-- The file that is written for a database without a version. -/
def unversioned (models : List (String × List Value)) : DatabaseFile :=
  { version := 0, engine := engineVersion
    models := models.map fun e => (e.1, e.2.map Value.toJson) }

/-- The documents of a model as they are read back. -/
def readModel? (e : String × List Value) : Option (String × List Value) :=
  (e.2.mapM (Value.readBack? documentDepth)).map (e.1, ·)

theorem map_rereadModel? (e : String × List Value) :
    (rereadModel? documentDepth (e.1, e.2.map Value.toJson)).map
      (fun found => (found.1, found.2.map Value.ofJson)) = readModel? e := by
  have docs : ((e.2.map Value.toJson).mapM (Json.reread? documentDepth)).map
      (List.map Value.ofJson) = e.2.mapM (Value.readBack? documentDepth) := by
    rw [Json.map_mapM, List.mapM_map]
    rfl
  rw [rereadModel?, readModel?, ← docs]
  simp only [Option.map_map]
  rfl

/-- What is read of a file is version 0 and what is read of its documents. -/
theorem map_ofText?_unversioned (inOrder : InOrder models) :
    (ofText? (unversioned models).text).map (fun after => (after.version, after.contents)) =
      (models.mapM readModel?).map (0, ·) := by
  have inOrder : InOrder (unversioned models).models := List.pairwise_map.mpr inOrder
  have small : (unversioned models).version < pow2 32 := (by decide : 0 < pow2 32)
  have each : ((unversioned models).models.mapM (rereadModel? documentDepth)).map
      (List.map fun e => (e.1, e.2.map Value.ofJson)) = models.mapM readModel? := by
    rw [unversioned, Json.map_mapM, List.mapM_map]
    exact congrArg (List.mapM · models) (funext map_rereadModel?)
  rw [ofText?_text small inOrder, ← each]
  simp only [Option.map_map]
  rfl

theorem exists_ofText?_unversioned_iff {P : Nat → List (String × List Value) → Prop}
    (inOrder : InOrder models) :
    (∃ after, ofText? (unversioned models).text = some after ∧ P after.version after.contents) ↔
      ∃ found, models.mapM readModel? = some found ∧ P 0 found := by
  have both := map_ofText?_unversioned inOrder
  constructor
  · rintro ⟨after, read, holds⟩
    rw [read, Option.map_some] at both
    obtain ⟨found, back, same⟩ := Option.map_eq_some_iff.mp both.symm
    obtain ⟨version, rfl⟩ := Prod.mk.inj same
    exact ⟨_, back, version ▸ holds⟩
  · rintro ⟨found, back, holds⟩
    rw [back, Option.map_some] at both
    obtain ⟨after, read, same⟩ := Option.map_eq_some_iff.mp both
    obtain ⟨version, rfl⟩ := Prod.mk.inj same
    exact ⟨after, read, version ▸ holds⟩

end DatabaseFile

-- ---------------------------------------------------------------------------
-- Edits
-- ---------------------------------------------------------------------------

/-- Equal documents in the same order. -/
def AreAlike (before after : List Value) : Prop :=
  List.Forall₂ (fun v w => v.equal w = true) before after

namespace Edit

/-- The edit made in one of the models. -/
def within (edit : Edit) (model : String) (doc : Value) (models : List (String × List Value)) :
    List (String × List Value) :=
  models.map fun e => if e.1 = model then (e.1, edit.apply doc e.2) else e

/-- The edit took place, and the documents that it spares are equal to what they were and in the
same order. -/
def Makes (edit : Edit) (before after : List Value) : Prop :=
  match edit with
  | .append => ∃ same doc, after = same ++ [doc] ∧ AreAlike before same
  | .change id => List.Forall₂ (fun v w =>
      if v.textId? = some id then w.textId? = some id else v.equal w = true) before after
  | .remove id => AreAlike (before.filter fun v => v.textId? ≠ some id) after

/-- The edit took place in one of the models, and the others are what they were. -/
def MakesIn (edit : Edit) (model : String) (before after : List (String × List Value)) : Prop :=
  List.Forall₂ (fun b a => b.1 = a.1 ∧
    if b.1 = model then edit.Makes b.2 a.2 else AreAlike b.2 a.2) before after

/-- A file has become another one by the edit in one of its models alone. -/
structure Confined (edit : Edit) (model : String) (before after : DatabaseFile) : Prop where
  version : after.version = before.version
  models : edit.MakesIn model before.contents after.contents

/-- A document in one of the models that the edit has nothing to do with. -/
def Bystander (edit : Edit) (model : String) (models : List (String × List Value)) (v : Value) :
    Prop :=
  ∃ name docs, (name, docs) ∈ models ∧ v ∈ docs ∧ (name = model → edit.Spares v)

end Edit

-- ---------------------------------------------------------------------------
-- Documents
-- ---------------------------------------------------------------------------

theorem exists_forall₂ {α β : Type} {R : α → β → Prop} {l : List α} (each : ∀ e ∈ l, ∃ a, R e a) :
    ∃ found, List.Forall₂ R l found := by
  induction l with
  | nil => exact ⟨[], .nil⟩
  | cons e rest ih =>
    obtain ⟨⟨a, here⟩, later⟩ := List.forall_mem_cons.mp each
    obtain ⟨found, related⟩ := ih later
    exact ⟨a :: found, .cons here related⟩

/-- Everything is found, and of everything what is asked for. -/
theorem exists_mapM_iff {α β : Type} {f : α → Option β} {R : α → β → Prop} {l : List α} :
    (∃ found, l.mapM f = some found ∧ List.Forall₂ R l found) ↔
      ∀ e ∈ l, ∃ a, f e = some a ∧ R e a := by
  constructor
  · rintro ⟨found, each, related⟩
    have pairs := Json.mapM_eq_some_iff.mp each
    clear each
    induction pairs with
    | nil => simp
    | cons first _ ih =>
      obtain ⟨here, later⟩ := List.forall₂_cons.mp related
      exact List.forall_mem_cons.mpr ⟨⟨_, first, here⟩, ih later⟩
  · intro each
    obtain ⟨found, both⟩ := exists_forall₂ each
    exact ⟨found, Json.mapM_eq_some_iff.mpr (both.imp fun _ _ h => h.1), both.imp fun _ _ h => h.2⟩

theorem exists_alike_iff : (∃ found, docs.mapM (Value.readBack? documentDepth) = some found ∧
    AreAlike docs found) ↔ ∀ v ∈ docs, v.IsKept documentDepth :=
  exists_mapM_iff

/-- A document comes back under its id. -/
theorem textId?_of_readBack? {doc : Fields} {depth : Nat} (named : doc.IsNamed id)
    (once : doc.HasKeysOnce) (back : Value.readBack? depth (.object doc) = some w) :
    w.textId? = some id := by
  cases depth with
  | zero => cases back
  | succ depth =>
    rw [Value.readBack?_object once, Option.map_eq_some_iff] at back
    obtain ⟨found, back, rfl⟩ := back
    refine Value.textId?_eq_some.mpr ⟨found, rfl, ?_⟩
    have held : doc.get? "_id" = some (.string id) := named.held
    rw [idPath, Fields.at?_single, Value.get?_of_readMember? back, held]
    cases depth <;> rfl

namespace Edit

/-- What is read back of the documents of a model is what the edit makes of them exactly if those
that it spares come back, and what it leaves behind can be read. -/
theorem exists_makes_iff {doc : Fields} (found : edit.Finds docs)
    (leaves : edit.stores = true → edit.Leaves doc docs) :
    (∃ found, (edit.apply (.object doc) docs).mapM (Value.readBack? documentDepth) = some found ∧
      edit.Makes docs found) ↔
    (∀ v ∈ docs, edit.Spares v → v.IsKept documentDepth) ∧
      (edit.stores = true → (Value.readBack? documentDepth (.object doc)).isSome) := by
  cases edit with
  | append =>
    simp only [Makes, apply, Spares, stores, true_implies, ← exists_alike_iff, List.mapM_append,
      Option.bind_eq_bind, Option.bind_eq_some_iff, Option.isSome_iff_exists]
    constructor
    · rintro ⟨_, ⟨first, kept, last, read, all⟩, same, w, rfl, alike⟩
      have single : last.length = 1 := (Json.mapM_eq_some_iff.mp read).length_eq.symm
      obtain ⟨w', rfl⟩ := List.length_eq_one_iff.mp single
      obtain ⟨rfl, -⟩ := List.append_inj' (Option.some.inj all) rfl
      exact ⟨⟨_, kept, alike⟩, w', (List.forall₂_cons.mp (Json.mapM_eq_some_iff.mp read)).1⟩
    · rintro ⟨⟨same, first, alike⟩, w, back⟩
      exact ⟨same ++ [w], ⟨same, first, [w], by simp [back], rfl⟩, same, w, rfl, alike⟩
  | change id =>
    obtain ⟨id', named, same⟩ := (leaves rfl).named
    obtain rfl : id' = id := same
    simp only [Makes, apply, Spares, stores, true_implies, List.mapM_map, exists_mapM_iff,
      Function.comp_apply]
    constructor
    · intro each
      refine ⟨fun v mem other => ?_, ?_⟩
      · simpa [Value.IsKept, other] using each v mem
      · obtain ⟨v, mem, own⟩ := found
        obtain ⟨w, back, -⟩ := each v mem
        rw [if_pos own] at back
        simp [back]
    · rintro ⟨each, readable⟩ v mem
      by_cases own : v.textId? = some id'
      · obtain ⟨w, back⟩ := Option.isSome_iff_exists.mp readable
        have named := textId?_of_readBack? named (leaves rfl).once back
        exact ⟨w, by simpa [own] using back, by simpa [own] using named⟩
      · simpa [Value.IsKept, own] using each v mem own
  | remove id =>
    simp only [Makes, apply, Spares, stores, exists_alike_iff, Bool.false_eq_true, false_implies,
      and_true, List.mem_filter, decide_eq_true_eq, and_imp]

-- ---------------------------------------------------------------------------
-- Files
-- ---------------------------------------------------------------------------

/-- What comes back of a document of a file depends on its numbers alone. -/
theorem isKept_of_decoded (decoded : file.IsDecoded) (held : (name, docs) ∈ file.contents)
    (mem : v ∈ docs) : v.IsKept documentDepth ↔
      ∀ x, Value.Occurs (.number x) v → x.isSmallWhole = true ∨ x.isKept = true := by
  obtain ⟨⟨name, trees⟩, there, same⟩ := List.mem_map.mp held
  cases same
  obtain ⟨j, inside, rfl⟩ := List.mem_map.mp mem
  have nests := Value.nestsIn_toJson_ofJson (decoded.nests _ _ there j inside)
  rw [Value.isKept_iff (Value.ofJson_isTree j) nests]
  exact forall₂_congr fun x _ => ⟨.inr, fun kept => kept.elim Number.isKept_of_isSmallWhole id⟩

theorem exists_readModel?_iff (name : String) (docs : List Value) (Q : List Value → Prop) :
    (∃ a, DatabaseFile.readModel? (name, docs) = some a ∧ name = a.1 ∧ Q a.2) ↔
      ∃ found, docs.mapM (Value.readBack? documentDepth) = some found ∧ Q found := by
  simp only [DatabaseFile.readModel?, Option.map_eq_some_iff]
  constructor
  · rintro ⟨_, ⟨found, back, rfl⟩, -, holds⟩
    exact ⟨found, back, holds⟩
  · rintro ⟨found, back, holds⟩
    exact ⟨_, ⟨found, back, rfl⟩, rfl, holds⟩

theorem exists_within_iff {doc : Fields} (nodup : (models.map Prod.fst).Nodup)
    (addressed : (model, docs) ∈ models) (found : edit.Finds docs)
    (leaves : edit.stores = true → edit.Leaves doc docs) :
    (∃ found, (edit.within model (.object doc) models).mapM DatabaseFile.readModel? = some found ∧
      edit.MakesIn model models found) ↔
    (∀ v, edit.Bystander model models v → v.IsKept documentDepth) ∧
      (edit.stores = true → (Value.readBack? documentDepth (.object doc)).isSome) := by
  have own := (exists_readModel?_iff model (edit.apply (.object doc) docs) (edit.Makes docs)).trans
    (exists_makes_iff found leaves)
  have other (name : String) (l : List Value) :=
    (exists_readModel?_iff name l (AreAlike l)).trans exists_alike_iff
  have one {l : List Value} (held : (model, l) ∈ models) : l = docs :=
    congrArg Prod.snd (List.inj_on_of_nodup_map nodup held addressed rfl)
  unfold MakesIn
  rw [within, List.mapM_map, exists_mapM_iff]
  constructor
  · intro each
    have here := each _ addressed
    simp only [Function.comp_apply, if_true] at here
    refine ⟨?_, (own.mp here).2⟩
    rintro v ⟨name, l, held, mem, spared⟩
    by_cases same : name = model
    · subst same
      obtain rfl := one held
      exact (own.mp here).1 v mem (spared rfl)
    · have there := each _ held
      simp only [Function.comp_apply, if_neg same] at there
      exact (other name l).mp there v mem
  · rintro ⟨kept, readable⟩ ⟨name, l⟩ held
    by_cases same : name = model
    · subst same
      obtain rfl := one held
      simp only [Function.comp_apply, if_true]
      exact own.mpr ⟨fun v mem spared => kept v ⟨name, l, held, mem, fun _ => spared⟩, readable⟩
    · simp only [Function.comp_apply, if_neg same]
      exact (other name l).mpr fun v mem => kept v ⟨name, l, held, mem, fun h => absurd h same⟩

theorem inOrder_within (inOrder : DatabaseFile.InOrder models) (edit : Edit) (model : String)
    (doc : Value) : DatabaseFile.InOrder (edit.within model doc models) := by
  refine List.pairwise_map.mpr (inOrder.imp fun less => ?_)
  split <;> split <;> exact less

/-- What is read of the file in which an edit was written down is what the edit alone makes of the
file exactly if the file had version 0, the numbers in all other documents come back, and the
document that the edit leaves behind can be read. -/
theorem confined_iff {doc : Fields} (decoded : file.IsDecoded)
    (addressed : (model, docs) ∈ file.contents) (found : edit.Finds docs)
    (leaves : edit.stores = true → edit.Leaves doc docs) :
    let written := DatabaseFile.unversioned (edit.within model (.object doc) file.contents)
    (∃ after, DatabaseFile.ofText? written.text = some after ∧ edit.Confined model file after) ↔
    file.version = 0 ∧
    (∀ v, edit.Bystander model file.contents v →
      ∀ x, Value.Occurs (.number x) v → x.isSmallWhole = true ∨ x.isKept = true) ∧
    (edit.stores = true → (Value.object doc).toJson.nestsIn documentDepth = true ∧
      ∀ x, Value.Occurs (.number x) (.object doc) → x.isReadable = true) := by
  intro written
  have inOrder : DatabaseFile.InOrder file.contents := List.pairwise_map.mpr decoded.inOrder
  have readable : (Value.readBack? documentDepth (.object doc)).isSome ↔
      (Value.object doc).toJson.nestsIn documentDepth = true ∧
        ∀ x, Value.Occurs (.number x) (.object doc) → x.isReadable = true := by
    rw [Value.readBack?, Option.isSome_map, Value.isSome_reread?_iff]
  have kept : (∀ v, edit.Bystander model file.contents v → v.IsKept documentDepth) ↔
      ∀ v, edit.Bystander model file.contents v →
        ∀ x, Value.Occurs (.number x) v → x.isSmallWhole = true ∨ x.isKept = true := by
    refine forall₂_congr fun v bystander => ?_
    obtain ⟨name, docs, held, mem, -⟩ := bystander
    exact isKept_of_decoded decoded held mem
  rw [← kept, ← readable, ← exists_within_iff inOrder.nodup addressed found leaves]
  have read := DatabaseFile.exists_ofText?_unversioned_iff
    (inOrder_within inOrder edit model (.object doc))
    (P := fun version found => version = file.version ∧ edit.MakesIn model file.contents found)
  constructor
  · rintro ⟨after, text, confined⟩
    obtain ⟨found, back, version, same⟩ := read.mp ⟨after, text, confined.version, confined.models⟩
    exact ⟨version.symm, found, back, same⟩
  · rintro ⟨version, found, back, same⟩
    obtain ⟨after, text, version, same⟩ := read.mpr ⟨found, back, version.symm, same⟩
    exact ⟨after, text, version, same⟩

end Edit

end DocStore
