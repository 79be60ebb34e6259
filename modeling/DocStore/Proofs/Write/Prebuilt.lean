import DocStore.Proofs.Schema.Refill
import DocStore.Write

/-!
# Documents that are built first

A document that is built before it is inserted is filled twice. As long as no default comes late
that makes no difference.
-/

namespace DocStore.Model

open Schema

theorem perform_insert_filled {m : Model} {source : Source} {a b : Fields}
    (same : m.schema.fill (source.branch 0) a = m.schema.fill (source.branch 0) b) :
    m.perform source (.insert (.object a)) = m.perform source (.insert (.object b)) := by
  have planned : m.planInsert source a = m.planInsert source b := by
    simp only [planInsert, same]
  simp only [perform, prepare, membersOf, Except.map, bind, Except.bind, plan, planned]

/-- If what lies above a declared path may be any object and defaults are constants in form,
documents with their ids are filled once and for all exactly if no default comes late; then it makes
no difference to an insertion whether the document was built first. No default comes late if no path
begins with an empty key. -/
theorem insert_newDocument (m : Model) (firm : m.schema.Firm) :
    ((∀ doc, m.schema.Carries doc → ∀ first second,
      m.schema.fill second (m.schema.fill first doc) = m.schema.fill first doc) ↔
        m.schema.Timely) ∧
    (m.schema.Timely → ∀ fields, m.schema.Carries fields → ∀ source other,
      ∃ d, m.newDocument other (.object fields) = .ok d ∧
        m.perform source (.insert (.object d.fields)) =
          m.perform source (.insert (.object fields))) ∧
    (∀ declared, m.schema = initial.declareAll declared →
      (∀ field ∈ declared, field.1.head ≠ "") → m.schema.Timely) := by
  refine ⟨firm.fill_fill_iff, fun timely fields carries source other => ⟨_, rfl, ?_⟩,
    fun declared built plain => ?_⟩
  · refine perform_insert_filled ?_
    have again : m.schema.fill (source.branch 0) (m.schema.fill other fields) =
        m.schema.fill other fields := firm.fill_fill timely carries other _
    exact again.trans (firm.fillFrom_eq (fun _ mem => mem) carries other (source.branch 0) 0)
  · rw [built]
    exact (inOrder_declareAll plain).timely

/-- A pet is given an age of five by the default of the pet. -/
theorem insert_newDocument_aged :
    let age : Value := .object [("age", .string "5")]
    let declared : List (Path × FieldType) := [
      (⟨"pet", []⟩, .leaf .mixed { default := some (.fixed age) }),
      (⟨"pet", ["age"]⟩, .ofKind .number)]
    let m : Model := { handle := ⟨0, "pets", initial.declareAll declared⟩ }
    let source : Source := ⟨fun _ => 0, ⟨0, 0⟩, []⟩
    let fields : Fields := [("_id", .string "a")]
    m.schema.Firm ∧ m.schema.Carries fields ∧ (∀ field ∈ declared, field.1.head ≠ "") ∧
      (m.perform source (.insert (.object fields))).result.isOk = true ∧
      ∃ d, m.newDocument source (.object fields) = .ok d ∧
        m.perform source (.insert (.object d.fields)) =
          m.perform source (.insert (.object fields)) := by
  let age : Value := .object [("age", .string "5")]
  let declared : List (Path × FieldType) := [
    (⟨"pet", []⟩, .leaf .mixed { default := some (.fixed age) }),
    (⟨"pet", ["age"]⟩, .ofKind .number)]
  let m : Model := { handle := ⟨0, "pets", initial.declareAll declared⟩ }
  have entries : m.schema.entries =
      (idPath, .leaf (.id .nanoid) { required := true }) :: declared := rfl
  have firm : m.schema.Firm := by
    refine ⟨distinct_declareAll declared, ?_, ?_⟩
    · simp [entries, declared, FieldType.IsOpen, idPath]
    · simp [entries, declared, FieldType.options, FieldType.ofKind, FieldType.coerce, Kind.coerce]
  have carries : m.schema.Carries [("_id", .string "a")] :=
    carries_of_id (by simp [entries, declared, FieldType.IsRequiredId, FieldType.ofKind]) rfl
  have plain : ∀ field ∈ declared, field.1.head ≠ "" := by simp [declared]
  have timely := (insert_newDocument m firm).2.2 declared rfl plain
  exact ⟨firm, carries, plain, rfl, (insert_newDocument m firm).2.1 timely _ carries _ _⟩

/-- The same default under a path that begins with an empty key. It comes after the age, and only a
second filling makes a number of the text: built first, the document is taken, else it is
refused. -/
theorem insert_newDocument_late :
    let age : Value := .object [("age", .string "5")]
    let declared : List (Path × FieldType) := [
      (⟨"", ["pet", "age"]⟩, .ofKind .number),
      (⟨"", ["pet"]⟩, .leaf .mixed { default := some (.fixed age) })]
    let m : Model := { handle := ⟨0, "pets", initial.declareAll declared⟩ }
    let source : Source := ⟨fun _ => 0, ⟨0, 0⟩, []⟩
    let fields : Fields := [("_id", .string "a")]
    m.schema.Firm ∧ m.schema.Carries fields ∧
      (m.perform source (.insert (.object fields))).result.isOk = false ∧
      ∃ d, m.newDocument source (.object fields) = .ok d ∧
        (m.perform source (.insert (.object d.fields))).result.isOk = true := by
  let age : Value := .object [("age", .string "5")]
  let declared : List (Path × FieldType) := [
    (⟨"", ["pet", "age"]⟩, .ofKind .number),
    (⟨"", ["pet"]⟩, .leaf .mixed { default := some (.fixed age) })]
  let schema := initial.declareAll declared
  have entries : schema.entries = (idPath, .leaf (.id .nanoid) { required := true }) ::
      (⟨"", []⟩, .ofKind .object) :: (⟨"pet", []⟩, .ofKind .object) :: declared := rfl
  have firm : schema.Firm := by
    refine ⟨distinct_declareAll declared, ?_, ?_⟩
    · simp [entries, declared, FieldType.IsOpen, FieldType.ofKind, idPath]
    · simp [entries, declared, FieldType.options, FieldType.ofKind, FieldType.coerce, Kind.coerce]
  have carries : schema.Carries [("_id", .string "a")] :=
    carries_of_id (by simp [entries, declared, FieldType.IsRequiredId, FieldType.ofKind]) rfl
  exact ⟨firm, carries, rfl, _, rfl, rfl⟩

end DocStore.Model
