import DocStore.Proofs.Realm.Population

/-!
# Populated copies

What a copy of a populated document shows is what its field led to when the reference was first asked
for along its line. An assignment lets go of the virtual fields but not of that, so what is shown is
current as long as the same documents are referred to.
-/

namespace DocStore

open Document (Act Use lines)

namespace Document

variable {doc : Document} {ref : Reference}

/-- Asking shows what the field led to before the first act that asked, or leads to now if none
did. -/
theorem Awaits.exists_shows {acts : List Act} {m : Model} {now : Realm} (awaits : doc.Awaits ref)
    (unchanged : ∀ realm source path, Act.populated realm source path ∈ acts →
      realm.model? ref.target.number = some m)
    (held : now.model? ref.target.number = some m) (source : Source) :
    ∃ shown, (now.populated? source (doc.after acts) ref.spec.path).1 = some shown ∧
      ref.Shows m (doc.after (acts.takeWhile fun act => !act.asksFor ref.spec.path)).fields shown := by
  induction acts generalizing doc with
  | nil => exact ⟨_, awaits.populated?_fst now source, Realm.resolve_shows held source _⟩
  | cons act rest ih =>
    cases asked : act.asksFor ref.spec.path with
    | false =>
      rw [List.takeWhile_cons_of_pos (by simp [asked])]
      exact ih ((attachmentAt?_perform asked doc).trans awaits)
        fun realm source path mem => unchanged realm source path (.tail _ mem)
    | true =>
      rw [List.takeWhile_cons_of_neg (by simp [asked])]
      cases act with
      | populated realm source' path =>
        obtain rfl : path = ref.spec.path := beq_iff_eq.mp asked
        have held' := unchanged realm source' _ (.head _)
        have keeps := (awaits.populated?_snd realm source').after rest
        exact ⟨_, keeps.populated?_fst now source, Realm.resolve_shows held' source' doc.fields⟩
      | _ => simp [Act.asksFor] at asked

end Document

namespace Realm

variable {r : Realm} {start doc : Document} {m : Model} {before after : Population}
  {spec : PopulationSpec}

/-- A copy of a populated document shows the documents that its field held the ids of when it was
first asked along its line. Those are the documents of the ids that it holds now, if the ids with a
document are the same; and if nothing is filtered, moved or cut and no document has two ids, only
then. -/
theorem populated_current_iff (own : r.model? start.model.number = some m)
    (populated : r.populate start (before ++ spec :: after) = .ok doc)
    (last : ∀ other ∈ after, other.path ≠ spec.path) :
    ∃ ref, r.Refers m spec ref ∧ ∀ uses (i : Nat) line copy target (now : Realm) source,
      (lines uses)[i]? = some line → (doc.copies uses)[i]? = some copy →
      (∀ realm source path, Act.populated realm source path ∈ line →
        realm.model? ref.target.number = some target) →
      now.model? ref.target.number = some target →
      ∃ shown seen, (now.populated? source copy spec.path).1 = some shown ∧
        seen = (doc.after (line.takeWhile fun act => !act.asksFor spec.path)).fields ∧
        ref.Shows target seen shown ∧
        (ref.live target seen = ref.live target copy.fields → ref.Shows target copy.fields shown) ∧
        (ref.IsPlain → target.Distinguishes →
          (ref.Shows target copy.fields shown ↔ ref.live target seen = ref.live target copy.fields)) := by
  obtain ⟨ref, refers, awaits⟩ := populate_awaits own populated last
  refine ⟨ref, refers, fun uses i line copy target now source along held unchanged there => ?_⟩
  obtain rfl : doc.after line = copy := by
    rw [Document.copies_eq, List.getElem?_map, along] at held
    exact Option.some.inj held
  obtain ⟨shown, found, shows⟩ := awaits.exists_shows unchanged there source
  rw [refers.spec_eq] at found shows
  exact ⟨shown, _, found, rfl, shows, shows.of_live, fun plain apart => shows.iff_live plain apart⟩

/-- The author is changed before a copy asks for it, and the title after that. -/
theorem populated_current_iff_retitled :
    let author : Path := ⟨"author", []⟩
    let user (id name : String) : Fields := [("_id", .string id), ("name", .string name)]
    let users : Model :=
      { handle := ⟨0, "User", Schema.initial⟩, database := some 0
        collection := { slots := [("u1", some (user "u1" "Ada")), ("u2", some (user "u2" "Grace"))],
                        size := 2 } }
    let type : FieldType := .leaf .string { reference := some "User" }
    let posts : Model :=
      { handle := ⟨1, "Post", Schema.initial.declareAll [(author, type)]⟩, database := some 0 }
    let r : Realm :=
      { models := [users, posts]
        databases := [{ settings := {}, registry := [("User", 0), ("Post", 1)] }] }
    let start := Document.ofFields posts.handle [("_id", .string "p"), ("author", .string "u1")]
    let source : Source := ⟨fun _ => 0, ⟨0, 0⟩, []⟩
    let uses : List Use := [.act 0 (.set author (.string "u2")), .clone 0,
      .act 1 (.populated r source author), .act 1 (.set ⟨"title", []⟩ (.string "Hi"))]
    ∃ doc copy, ∃ ref : Reference, r.model? start.model.number = some posts ∧
      r.populate start [{ path := author }] = .ok doc ∧ (doc.copies uses)[1]? = some copy ∧
      (r.populated? source copy author).1 = some (.one (some (user "u2" "Grace"))) ∧
      ref.Shows users copy.fields (.one (some (user "u2" "Grace"))) := by
  intro author user users type posts r start source uses
  have own : r.model? start.model.number = some posts := rfl
  have populated : r.populate start ([] ++ { path := author } :: []) = .ok _ := rfl
  obtain ⟨ref, refers, current⟩ := populated_current_iff own populated (by simp)
  have taken : r.reference posts { path := author } = .ok _ := rfl
  obtain rfl := Except.ok.inj (taken.symm.trans refers.eq)
  have unchanged : ∀ realm source' path, Act.populated realm source' path ∈
      [.set author (.string "u2"), .populated r source author,
        .set ⟨"title", []⟩ (.string "Hi")] → realm.model? 0 = some users := by
    simp only [List.mem_cons]
    rintro realm source' path (h | h | h | h) <;> cases h
    rfl
  obtain ⟨shown, seen, found, rfl, -, shows, -⟩ :=
    current uses 1 _ _ users r source rfl rfl unchanged rfl
  obtain rfl : shown = .one (some (user "u2" "Grace")) := Option.some.inj (found.symm.trans rfl)
  exact ⟨_, _, _, own, rfl, rfl, found, shows rfl⟩

/-- A post whose author is changed after it was asked for goes on showing the author before. -/
theorem not_populated_current :
    let author : Path := ⟨"author", []⟩
    let user (id name : String) : Fields := [("_id", .string id), ("name", .string name)]
    let users : Model :=
      { handle := ⟨0, "User", Schema.initial⟩, database := some 0
        collection := { slots := [("u1", some (user "u1" "Ada")), ("u2", some (user "u2" "Grace"))],
                        size := 2 } }
    let type : FieldType := .leaf .string { reference := some "User" }
    let posts : Model :=
      { handle := ⟨1, "Post", Schema.initial.declareAll [(author, type)]⟩, database := some 0 }
    let r : Realm :=
      { models := [users, posts]
        databases := [{ settings := {}, registry := [("User", 0), ("Post", 1)] }] }
    let start := Document.ofFields posts.handle [("_id", .string "p"), ("author", .string "u1")]
    let source : Source := ⟨fun _ => 0, ⟨0, 0⟩, []⟩
    let uses : List Use := [.act 0 (.populated r source author), .act 0 (.set author (.string "u2"))]
    ∃ doc copy, r.populate start [{ path := author }] = .ok doc ∧
      (doc.copies uses)[0]? = some copy ∧ copy.fields.at? author = some (.string "u2") ∧
      (r.populated? source copy author).1 = some (.one (some (user "u1" "Ada"))) ∧
      ∀ ref, r.Refers posts { path := author } ref →
        ¬ ref.Shows users copy.fields (.one (some (user "u1" "Ada"))) := by
  intro author user users type posts r start source uses
  refine ⟨_, _, rfl, rfl, rfl, rfl, fun ref refers shows => ?_⟩
  have taken : r.reference posts { path := author } = .ok _ := rfl
  obtain rfl := Except.ok.inj (taken.symm.trans refers.eq)
  cases shows with
  | one _ finds =>
    obtain ⟨source', stored, held, read⟩ : users.Reads "u2" (user "u1" "Ada") :=
      (List.forall₂_cons.mp finds).1
    obtain rfl : user "u2" "Grace" = stored := Option.some.inj held
    have same : user "u2" "Grace" = user "u1" "Ada" := read
    simp [user] at same

end Realm

end DocStore
