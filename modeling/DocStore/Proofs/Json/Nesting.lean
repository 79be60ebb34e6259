import DocStore.Json.Reader

/-!
# Nesting

What the reader finds nests no deeper than it was allowed to look.
-/

namespace DocStore.Json

open DocStore.Text

variable {s rest : List Char} {j : Json} {items : List Json} {members : List (String × Json)}
  {depth fuel : Nat}

/-- Arrays and objects lie at most `depth` deep in each other. -/
def nestsIn : Nat → Json → Bool
  | 0, .array _ => false
  | 0, .object _ => false
  | depth + 1, .array items => items.all (nestsIn depth)
  | depth + 1, .object members => members.all fun e => nestsIn depth e.2
  | _, _ => true

/-- A number, whole or not. -/
def isNumber : Json → Bool
  | .integer _ | .real _ => true
  | _ => false

theorem nestsIn_of_isNumber (number : j.isNumber = true) : j.nestsIn depth = true := by
  cases j with
  | integer n => cases depth <;> rfl
  | real x => cases depth <;> rfl
  | _ => cases number

-- ---------------------------------------------------------------------------
-- Numerals
-- ---------------------------------------------------------------------------

/-- Every tree that a reader comes to has a property. -/
def Yields (P : Json → Prop) (found : Option (Json × List Char)) : Prop :=
  ∀ j rest, found = some (j, rest) → P j

section

variable {P : Json → Prop} {negative : Bool} {g : Gathered}

theorem yields_none : Yields P none := nofun

theorem yields_some (holds : P j) : Yields P (some (j, rest)) := by
  rintro _ _ ⟨⟩
  exact holds

theorem yields_bind {α : Type} {o : Option α} {f : α → Option (Json × List Char)}
    (each : ∀ a, Yields P (f a)) : Yields P (o >>= f) := by
  cases o with
  | none => exact yields_none
  | some a => exact each a

theorem yields_map {α : Type} {o : Option α} {f : α → Json × List Char}
    (each : ∀ a, o = some a → P (f a).1) : Yields P (o.map f) := by
  cases o with
  | none => exact yields_none
  | some a => exact yields_some (each a rfl)

theorem finishExponent_yields :
    Yields (fun j => j.isNumber = true) (finishExponent negative g s) := by
  simp only [finishExponent]
  repeat' split
  all_goals first
    | exact yields_none
    | exact yields_some rfl
    | exact yields_bind fun _ => yields_some rfl

theorem finishReal_yields : Yields (fun j => j.isNumber = true) (finishReal negative g s) := by
  unfold finishReal
  repeat' split
  all_goals first
    | exact finishExponent_yields
    | exact yields_bind fun _ => yields_some rfl

theorem finishFraction_yields :
    Yields (fun j => j.isNumber = true) (finishFraction negative g s) := by
  simp only [finishFraction]
  repeat' split
  all_goals first
    | exact yields_none
    | exact finishReal_yields

theorem whole_isNumber (n : Nat) : (whole negative n).isNumber = true := by
  unfold whole
  repeat' split
  all_goals rfl

theorem readNumeral_yields : Yields (fun j => j.isNumber = true) (readNumeral negative s) := by
  simp only [readNumeral]
  repeat' split
  all_goals first
    | exact yields_none
    | exact finishFraction_yields
    | exact finishReal_yields
    | exact yields_some (whole_isNumber _)

end

-- ---------------------------------------------------------------------------
-- Trees
-- ---------------------------------------------------------------------------

section

variable {item : List Char → Option (Json × List Char)} {P : Json → Prop}
  (each : ∀ s, Yields P (item s))

include each

theorem itemsRest_forall (found : itemsRest item fuel s = some (items, rest)) :
    ∀ j ∈ items, P j := by
  induction fuel generalizing s items rest with
  | zero => simp [itemsRest] at found
  | succ fuel ih =>
    simp only [itemsRest, Option.bind_eq_bind, Option.bind_eq_some_iff] at found
    obtain ⟨⟨j, after⟩, first, found⟩ := found
    have here := each _ j after first
    split at found
    · obtain ⟨⟨more, _⟩, others, found⟩ := Option.bind_eq_some_iff.mp found
      cases found
      exact List.forall_mem_cons.mpr ⟨here, ih others⟩
    · cases found
      simpa using here
    · cases found

theorem membersRest_forall (found : membersRest item fuel s = some (members, rest)) :
    ∀ e ∈ members, P e.2 := by
  induction fuel generalizing s members rest with
  | zero => simp [membersRest] at found
  | succ fuel ih =>
    simp only [membersRest, Option.bind_eq_bind, Option.bind_eq_some_iff] at found
    obtain ⟨_, -, ⟨key, _⟩, -, _, -, ⟨j, after⟩, first, found⟩ := found
    have here := each _ j after first
    split at found
    · obtain ⟨⟨more, _⟩, others, found⟩ := Option.bind_eq_some_iff.mp found
      cases found
      exact List.forall_mem_cons.mpr ⟨here, ih others⟩
    · cases found
      simpa using here
    · cases found

end

/-- A reader keeps to its limit if the one for the parts of a tree does. -/
theorem read_nestsIn_of_parts
    (below : ∀ d, depth = d + 1 → ∀ s, Yields (fun j => j.nestsIn d = true) (read d s)) :
    Yields (fun j => j.nestsIn depth = true) (read depth s) := by
  have scalar {j : Json} (h : j.nestsIn 0 = true) : j.nestsIn depth = true := by
    cases j <;> cases depth <;> simp_all [nestsIn]
  have number {found : Option (Json × List Char)}
      (h : Yields (fun j => j.isNumber = true) found) :
      Yields (fun j => j.nestsIn depth = true) found :=
    fun j rest found => nestsIn_of_isNumber (h j rest found)
  unfold read
  split
  · exact yields_map fun _ _ => scalar rfl
  · exact yields_map fun _ _ => scalar rfl
  · exact yields_map fun _ _ => scalar rfl
  · exact yields_map fun _ _ => scalar rfl
  · exact number readNumeral_yields
  · exact yields_none
  · exact yields_none
  · rename_i d _
    split
    · exact yields_some (by simp [nestsIn])
    · refine yields_map fun found read => ?_
      exact List.all_eq_true.mpr (itemsRest_forall (below d rfl) read)
  · rename_i d _
    split
    · exact yields_some (by simp [nestsIn])
    · refine yields_map fun found read => ?_
      exact List.all_eq_true.mpr (membersRest_forall (below d rfl) read)
  · exact number readNumeral_yields

/-- The reader keeps to its limit. -/
theorem read_nestsIn (depth : Nat) (s : List Char) :
    Yields (fun j => j.nestsIn depth = true) (read depth s) := by
  induction depth generalizing s with
  | zero => exact read_nestsIn_of_parts (by simp)
  | succ depth ih =>
    refine read_nestsIn_of_parts fun d same => ?_
    obtain rfl : depth = d := by omega
    exact ih

theorem ofText?_nestsIn {text : String} (found : ofText? text = some j) :
    j.nestsIn nestingLimit = true := by
  simp only [ofText?, Option.bind_eq_bind, Option.bind_eq_some_iff] at found
  obtain ⟨⟨i, rest⟩, read, found⟩ := found
  split at found
  · cases found
    exact read_nestsIn _ _ _ _ read
  · cases found

end DocStore.Json
