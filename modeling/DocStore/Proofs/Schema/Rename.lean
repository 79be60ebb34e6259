import DocStore.Proofs.Schema.Frame
import DocStore.Schema.Mutation

/-!
# Renaming

A renamed field is written at its new path first and removed from its old one afterwards. So what
becomes of it depends on how the two paths lie: the removal takes away the new field as well where
the old path is the new one or leads to it, and takes a part of it where the old path goes on from
the new one.
-/

namespace DocStore

variable {doc : Fields} {v : Value} {p t : Path}

-- ---------------------------------------------------------------------------
-- Two steps on a document
-- ---------------------------------------------------------------------------

namespace Fields

/-- Moves a value to a path. -/
def move (doc : Fields) (p t : Path) (v : Value) : Fields := (doc.set t v).remove p

/-- Nothing of a value is lost when it is moved. -/
structure MovesWhole (p t : Path) (v : Value) : Prop where
  other : t ≠ p
  outside : ¬ t.IsBelow p
  /-- Where the old path goes on from the new one, the value holds nothing. -/
  nothing : ∀ r (c : Fields), p = t ++ r → v = .object c → c.at? r = none

theorem at?_move_of_parts {q : Path} (old : Path.Parts p q) (new : Path.Parts t q) :
    (doc.move p t v).at? q = doc.at? q := by
  unfold move
  rw [at?_remove_of_parts old, at?_set_of_parts new]

/-- A value that is moved to a path above it loses what it holds at its own old place. -/
theorem at?_move_up (r : Path) (c : Fields) :
    (doc.move (t ++ r) t (.object c)).at? t = some (.object (c.remove r)) := by
  unfold move
  rw [remove_append at?_set_self, at?_set_self]

theorem at?_move_up_other (up : p.IsBelow t) (other : ∀ c, v ≠ .object c) :
    (doc.move p t v).at? t = some v := by
  unfold move
  rw [remove_eq_self (at?_set_below up other), at?_set_self]

theorem at?_move_iff : (doc.move p t v).at? t = some v ↔ MovesWhole p t v := by
  rcases Path.cases_lie p t with rfl | up | down | parts
  · refine iff_of_false ?_ fun whole => whole.other rfl
    simp [move]
  · constructor
    · intro held
      refine ⟨?_, ?_, ?_⟩
      · rintro rfl
        exact (Path.isBelow_iff.mp up).2 rfl
      · exact fun down => (Path.isBelow_iff.mp (up.trans down)).2 rfl
      · rintro r c rfl rfl
        rw [at?_move_up] at held
        obtain same : c.remove r = c := by simpa using held
        rw [← same, at?_remove_self]
    · intro whole
      by_cases object : ∃ c, v = .object c
      · obtain ⟨c, rfl⟩ := object
        obtain ⟨r, rfl⟩ := Path.isBelow_iff_append.mp up
        rw [at?_move_up, remove_eq_self (whole.nothing r c rfl rfl)]
      · exact at?_move_up_other up (not_exists.mp object)
  · refine iff_of_false ?_ fun whole => whole.outside down
    simp [move, at?_remove_of_isBelow down]
  · refine iff_of_true ?_ ⟨parts.1.symm, parts.2.2, ?_⟩
    · unfold move
      rw [at?_remove_of_parts parts, at?_set_self]
    · rintro r - rfl
      exact absurd (Path.isBelow_iff_append.mpr ⟨r, rfl⟩) parts.2.1

end Fields

-- ---------------------------------------------------------------------------
-- The update
-- ---------------------------------------------------------------------------

namespace Schema

/-- An update that renames one field. -/
def moving (p t : String) : Value := .object [("$rename", .object [(p, .string t)])]

theorem compileUpdate_moving (schema : Schema) (p t : String) :
    schema.compileUpdate (moving p t) =
      .ok [.operator (Path.ofText p) (schema.typeFor (Path.ofText p)) .rename (.string t)] := by
  have named : UpdateOperator.ofName? "$rename" = some .rename := rfl
  have key : isOperatorKey "$rename" = true := by decide
  simp [compileUpdate, moving, mutationsOfMember, named, key, operation,
    FieldType.supportsUpdate, UpdateOperator.isBase, bind, Except.bind, pure, Except.pure]

theorem applyAll_rename (type : FieldType) (t : String) (held : doc.at? p = some v)
    (present : v ≠ .null) :
    Mutation.applyAll [.operator p type .rename (.string t)] doc =
      (.ok (), doc.move p (Path.ofText t) v) := by
  have value : doc.atD p = v := Fields.atD_of_at? held
  have kept : v.isNull = false := by
    cases v <;> first | rfl | exact absurd rfl present
  have base : type.supportsUpdate .rename = true := by
    simp [FieldType.supportsUpdate, UpdateOperator.isBase]
  simp only [Mutation.applyAll, Mutation.apply, FieldType.update, base, value, kept, if_true,
    bind, Except.bind, Bool.false_eq_true, if_false]
  rfl

/-- Renaming a field that holds a value goes through, leaves alone what lies on one line with neither
path, and leaves the value at the new path exactly when it moves as a whole. -/
theorem rename_keeps_iff (schema : Schema) (p t : String)
    (held : doc.at? (Path.ofText p) = some v) (present : v ≠ .null) :
    ∃ mutations out, schema.compileUpdate (moving p t) = .ok mutations ∧
      Mutation.applyAll mutations doc = (.ok (), out) ∧
      (out.at? (Path.ofText t) = some v ↔ Fields.MovesWhole (Path.ofText p) (Path.ofText t) v) ∧
      ∀ q : Path, Path.Parts (Path.ofText p) q → Path.Parts (Path.ofText t) q →
        out.at? q = doc.at? q :=
  ⟨_, _, compileUpdate_moving schema p t, applyAll_rename _ t held present,
    Fields.at?_move_iff, fun _ => Fields.at?_move_of_parts⟩

/-- A first name that becomes the title stays whole, and the last name stays. -/
theorem rename_keeps_iff_apart :
    let name : Value := .object [("first", .string "Ann"), ("last", .string "Lee")]
    let doc : Fields := [("name", name)]
    doc.at? (Path.ofText "name.first") = some (.string "Ann") ∧ Value.string "Ann" ≠ .null ∧
      ∃ mutations out, initial.compileUpdate (moving "name.first" "title") = .ok mutations ∧
        Mutation.applyAll mutations doc = (.ok (), out) ∧
        out.at? (Path.ofText "title") = some (.string "Ann") ∧
        out.at? (Path.ofText "name.last") = some (.string "Lee") := by
  intro name doc
  have first : Path.ofText "name.first" = ⟨"name", ["first"]⟩ := by cbv
  have last : Path.ofText "name.last" = ⟨"name", ["last"]⟩ := by cbv
  have title : Path.ofText "title" = ⟨"title", []⟩ := by cbv
  have held : doc.at? (Path.ofText "name.first") = some (.string "Ann") := by
    rw [first]
    rfl
  obtain ⟨mutations, out, compiled, applied, moved, kept⟩ :=
    rename_keeps_iff initial "name.first" "title" held (by simp)
  refine ⟨held, by simp, mutations, out, compiled, applied, moved.mpr ?_, ?_⟩
  · rw [first, title]
    exact ⟨by decide, by simp, nofun⟩
  · rw [last, kept _ (by simp [first, Path.parts_cons, Path.parts_single])
      (by simp [title, Path.parts_single])]
    rfl

/-- A field that is renamed to itself, or into itself, is gone; one that takes the place of the
object around it loses its own member of its name. -/
theorem rename_loses :
    let inner : Value := .object [("b", .string "lost"), ("c", .string "kept")]
    let result (doc : Fields) (p t : String) :=
      (initial.compileUpdate (moving p t)).map fun mutations => Mutation.applyAll mutations doc
    result [("a", .string "x")] "a" "a" = .ok (.ok (), []) ∧
      result [("a", .string "x")] "a" "a.b" = .ok (.ok (), []) ∧
      result [("a", .object [("b", inner)])] "a.b" "a" =
        .ok (.ok (), [("a", .object [("c", .string "kept")])]) := by
  refine ⟨?_, ?_, ?_⟩ <;> cbv

end Schema

end DocStore
