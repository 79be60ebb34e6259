import DocStore.Proofs.Value.Path

/-!
# Paths and their texts

A text stands for one path, and is the text of it again. One text goes on from another after a
point exactly if its path lies below the path of the other.
-/

namespace DocStore.Path

variable {p q : Path} {s t : String}

@[simp] theorem text_single (s : String) : text ⟨s, []⟩ = s := String.intercalate_singleton

theorem text_append (p q : Path) : (p ++ q).text = p.text ++ "." ++ q.text :=
  String.intercalate_append_of_ne_nil (List.cons_ne_nil _ _) (List.cons_ne_nil _ _)

theorem cons_eq_append (head key : String) (rest : List String) :
    (⟨head, key :: rest⟩ : Path) = ⟨head, []⟩ ++ ⟨key, rest⟩ := rfl

/-- A text has no point, or it goes on after its first one. -/
theorem split_induction {P : String → Prop} (plain : ∀ s, '.' ∉ s.toList → P s)
    (dotted : ∀ s t, '.' ∉ s.toList → P t → P (s ++ "." ++ t)) (s : String) : P s := by
  by_cases point : '.' ∈ s.toList
  · obtain ⟨first, more, split, before⟩ := List.eq_append_cons_of_mem point
    have shorter : more.length < s.toList.length := by
      simp only [split, List.length_append, List.length_cons]
      omega
    have whole : s = String.ofList first ++ "." ++ String.ofList more := by
      rw [← String.toList_inj]
      simp [split]
    rw [whole]
    exact dotted _ _ (by simpa using before) (split_induction plain dotted (String.ofList more))
  · exact plain s point
termination_by s.toList.length
decreasing_by simpa using shorter

theorem text_ofText (s : String) : (ofText s).text = s := by
  induction s using split_induction with
  | plain s point => rw [ofText_plain point, text_single]
  | dotted s t point ih => rw [ofText_append, text_append, ih, ofText_plain point, text_single]

theorem ofText_injective (same : ofText s = ofText t) : s = t := by
  rw [← text_ofText s, same, text_ofText]

theorem isBelow_ofText_iff : (ofText s).IsBelow (ofText t) ↔ ∃ inner, s = t ++ "." ++ inner := by
  rw [isBelow_iff_append]
  constructor
  · rintro ⟨r, whole⟩
    refine ⟨r.text, ?_⟩
    rw [← text_ofText s, whole, text_append, text_ofText]
  · rintro ⟨inner, rfl⟩
    exact ⟨ofText inner, ofText_append t inner⟩

-- ---------------------------------------------------------------------------
-- Paths that their texts stand for
-- ---------------------------------------------------------------------------

/-- No key holds a point, so that the text tells the keys apart. -/
def IsSplit (p : Path) : Prop := ∀ key ∈ p.keys, '.' ∉ key.toList

theorem isSplit_single : IsSplit ⟨s, []⟩ ↔ '.' ∉ s.toList := List.forall_mem_singleton

theorem isSplit_append : (p ++ q).IsSplit ↔ p.IsSplit ∧ q.IsSplit := by
  have keys : (p ++ q).keys = p.keys ++ q.keys := rfl
  rw [IsSplit, keys, List.forall_mem_append]
  rfl

theorem isSplit_ofText (s : String) : (ofText s).IsSplit := by
  induction s using split_induction with
  | plain s point => rwa [ofText_plain point, isSplit_single]
  | dotted s t point ih =>
    rw [ofText_append, isSplit_append, ofText_plain point, isSplit_single]
    exact ⟨point, ih⟩

theorem IsSplit.ofText_text (split : p.IsSplit) : ofText p.text = p := by
  obtain ⟨head, rest⟩ := p
  induction rest generalizing head with
  | nil => rw [text_single, ofText_plain (isSplit_single.mp split)]
  | cons key rest ih =>
    rw [cons_eq_append, isSplit_append, isSplit_single] at split
    rw [cons_eq_append, text_append, ofText_append, text_single, ofText_plain split.1,
      ih key split.2]

/-- No empty key leads on to another. -/
def IsRooted (p : Path) : Prop := p.head ≠ "" ∨ p.rest = []

theorem isRooted_ofText (plain : s.toList.head? ≠ some '.') : (ofText s).IsRooted := by
  cases path : ofText s with
  | mk head rest =>
    cases rest with
    | nil => exact .inr rfl
    | cons key rest =>
      refine .inl ?_
      rintro rfl
      apply plain
      rw [← text_ofText s, path, cons_eq_append, text_append, text_single]
      simp

theorem IsRooted.of_isBelow (below : p.IsBelow q) (rooted : p.IsRooted) : q.IsRooted := by
  obtain ⟨r, rfl⟩ := isBelow_iff_append.mp below
  rcases rooted with plain | single
  · exact .inl plain
  · exact absurd single (List.append_ne_nil_of_right_ne_nil _ (List.cons_ne_nil _ _))

end DocStore.Path
