import DocStore.Proofs.Value.Path

/-!
# Paths as lenses

Reading, setting and taking out a path hang together as for a lens: what was set is read, a second
value replaces the first, setting what is there changes nothing, and what is taken out is what was
read. Two paths of which neither leads through the other do not notice each other, not even where a
value that is no object gives way.
-/

namespace DocStore

/-- Neither path leads through the other if neither has all keys of the other in front. -/
theorem Path.parts_of_keys {p q : Path} (left : ¬ p.keys <+: q.keys) (right : ¬ q.keys <+: p.keys) :
    Parts p q := by
  refine ⟨?_, ?_, ?_⟩
  · rintro rfl
    exact left (List.prefix_refl _)
  · rintro ⟨key, rest, keys⟩
    exact right ⟨key :: rest, keys.symm⟩
  · rintro ⟨key, rest, keys⟩
    exact left ⟨key :: rest, keys.symm⟩

namespace Fields

variable {d : Fields} {p q : Path} {v w : Value}

theorem set_set : set (set d p v) p w = set d p w := by
  obtain ⟨k, ks⟩ := p
  induction ks generalizing k d with
  | nil => exact insert_insert
  | cons j js ih => rw [set_cons, set_cons, set_cons, child_insert_self, insert_insert, ih]

/-- What is taken out is what was there. -/
theorem detach_fst : (detach d p).1 = at? d p := by
  obtain ⟨k, ks⟩ := p
  induction ks generalizing k d with
  | nil => rfl
  | cons j js ih =>
    by_cases held : get? d k = some (.object (child d k))
    · rw [detach_cons held, at?_cons]
      exact ih j
    · rw [detach_cons_eq_self held]
      have absent : at? d ⟨k, j :: js⟩ = none :=
        Option.eq_none_iff_forall_ne_some.mpr fun _ found => held (get?_of_at?_cons found)
      exact absent.symm

/-- The laws of a path, and of two paths beside each other. -/
theorem path_lens (d : Fields) (p q : Path) (v w : Value) :
    (d.set p v).at? p = some v ∧
    (d.set p v).set p w = d.set p w ∧
    (d.at? p = some v → d.set p v = d) ∧
    ((d.detach p).1 = d.at? p ∧ (d.detach p).2.at? p = none) ∧
    (¬ p.keys <+: q.keys → ¬ q.keys <+: p.keys →
      (d.set p v).at? q = d.at? q ∧ (d.detach p).2.at? q = d.at? q) := by
  refine ⟨at?_set_self, set_set, set_eq_self, ⟨detach_fst, at?_remove_self⟩, fun left right => ?_⟩
  have parts := Path.parts_of_keys left right
  exact ⟨at?_set_of_parts parts, at?_remove_of_parts parts⟩

/-- A truth value gives way to an object with an empty key, and nothing comes up beside it. -/
theorem path_lens_scalar :
    let d : Fields := [("a", .bool true), ("b", .null)]
    let p := Path.ofText "a..x"
    let q := Path.ofText "a.y"
    (¬ p.keys <+: q.keys ∧ ¬ q.keys <+: p.keys) ∧
      d.set p (.string "new") =
        [("a", .object [("", .object [("x", .string "new")])]), ("b", .null)] ∧
      d.at? q = none ∧ (d.set p (.string "new")).at? q = none ∧ (d.detach p).2.at? q = none := by
  intro d p q
  have left : ¬ p.keys <+: q.keys := by decide +kernel
  have right : ¬ q.keys <+: p.keys := by decide +kernel
  obtain ⟨-, -, -, -, apart⟩ := path_lens d p q (.string "new") .null
  obtain ⟨set, detached⟩ := apart left right
  exact ⟨⟨left, right⟩, rfl, rfl, set, detached⟩

end Fields

end DocStore
