import DocStore.Realm.Population

/-!
# Copies of a document

A copy takes along what was computed for the document so far; from then on it is used on its own. So
a copy is the document after what was done along its line: with the document up to the copying, and
with the copy since.
-/

namespace DocStore.Document

variable {α β : Type} {i : Nat}

-- ---------------------------------------------------------------------------
-- Acts
-- ---------------------------------------------------------------------------

/-- What is done with a document. Whoever asks for a reference finds the models as they are by
then. -/
inductive Act where
  | get (path : Path)
  | set (path : Path) (value : Value)
  | toJson
  | populated (realm : Realm) (source : Source) (path : Path)

def perform (doc : Document) : Act → Document
  | .get path => (doc.get path).2
  | .set path value => doc.set path value
  | .toJson => doc.toJson.2
  | .populated realm source path => (realm.populated? source doc path).2

def after (doc : Document) (acts : List Act) : Document := acts.foldl perform doc

def Act.Sets : Act → Prop
  | .set .. => True
  | _ => False

theorem perform_model (doc : Document) (act : Act) : (doc.perform act).model = doc.model := by
  cases act with
  | get path =>
    simp only [perform, get]
    split <;> rfl
  | _ => rfl

theorem perform_fields {act : Act} (keeps : ¬ act.Sets) (doc : Document) :
    (doc.perform act).fields = doc.fields := by
  cases act with
  | get path =>
    simp only [perform, get]
    split <;> rfl
  | set path value => exact absurd trivial keeps
  | _ => rfl

theorem after_model (doc : Document) (acts : List Act) : (doc.after acts).model = doc.model := by
  induction acts generalizing doc with
  | nil => rfl
  | cons act rest ih => exact (ih _).trans (doc.perform_model act)

-- ---------------------------------------------------------------------------
-- Copies
-- ---------------------------------------------------------------------------

/-- A use of copies, which are numbered in the order in which they are made. -/
inductive Use where
  | act (copy : Nat) (act : Act)
  | clone (copy : Nat)

namespace Use

/-- Uses copies of anything that acts change. The use of a copy that there is not does nothing. -/
def perform (step : α → Act → α) (copies : List α) : Use → List α
  | .act i a => copies.modify i (step · a)
  | .clone i => copies ++ copies[i]?.toList

/-- What a use does to one of the copies. -/
def actOn? (i : Nat) : Use → Option Act
  | .act j a => if j = i then some a else none
  | .clone _ => none

theorem perform_map {step : α → Act → α} {step' : β → Act → β} {f : α → β}
    (same : ∀ a act, f (step a act) = step' (f a) act) (copies : List α) (use : Use) :
    (use.perform step copies).map f = use.perform step' (copies.map f) := by
  cases use with
  | act j a =>
    refine List.ext_getElem? fun i => ?_
    simp only [perform, List.getElem?_map, List.getElem?_modify]
    by_cases here : j = i <;> cases copies[i]? <;> simp [here, same]
  | clone j => cases held : copies[j]? <;> simp [perform, held]

theorem getElem?_perform {step : α → Act → α} {copies : List α} {a : α} (held : copies[i]? = some a)
    (use : Use) : (use.perform step copies)[i]? = some ((use.actOn? i).toList.foldl step a) := by
  have inside : i < copies.length := (List.getElem?_eq_some_iff.mp held).1
  cases use with
  | act j a => by_cases here : j = i <;> simp [perform, actOn?, here, held]
  | clone j => simp [perform, actOn?, List.getElem?_append_left inside, held]

end Use

def copies (doc : Document) (uses : List Use) : List Document :=
  uses.foldl (Use.perform perform) [doc]

/-- What was done along the line of each copy. -/
def lines (uses : List Use) : List (List Act) :=
  uses.foldl (Use.perform fun line act => line ++ [act]) [[]]

theorem foldl_copies (doc : Document) (uses : List Use) (lines : List (List Act)) :
    uses.foldl (Use.perform perform) (lines.map doc.after) =
      (uses.foldl (Use.perform fun line act => line ++ [act]) lines).map doc.after := by
  induction uses generalizing lines with
  | nil => rfl
  | cons use rest ih =>
    have step : Use.perform perform (lines.map doc.after) use =
        (use.perform (fun line act => line ++ [act]) lines).map doc.after :=
      (use.perform_map (fun line act => List.foldl_append ..) lines).symm
    rw [List.foldl_cons, List.foldl_cons, step, ih]

theorem copies_eq (doc : Document) (uses : List Use) :
    doc.copies uses = (lines uses).map doc.after := foldl_copies doc uses [[]]

theorem exists_after {start doc : Document} {uses : List Use}
    (held : (start.copies uses)[i]? = some doc) : ∃ acts, start.after acts = doc := by
  rw [copies_eq, List.getElem?_map, Option.map_eq_some_iff] at held
  obtain ⟨acts, -, same⟩ := held
  exact ⟨acts, same⟩

/-- No use of one copy touches another: each becomes what is done to it. -/
theorem getElem?_copies_append {start doc : Document} {uses : List Use}
    (held : (start.copies uses)[i]? = some doc) (more : List Use) :
    (start.copies (uses ++ more))[i]? = some (doc.after (more.filterMap (Use.actOn? i))) := by
  rw [copies, List.foldl_append]
  change (more.foldl _ (start.copies uses))[i]? = _
  generalize start.copies uses = now at held
  induction more generalizing now doc with
  | nil => exact held
  | cons use rest ih =>
    rw [List.foldl_cons, ih _ (use.getElem?_perform held), List.filterMap_cons]
    cases use.actOn? i <;> rfl

end DocStore.Document
