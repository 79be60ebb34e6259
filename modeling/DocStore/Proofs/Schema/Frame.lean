import DocStore.Proofs.Schema.Pass

/-!
# What the passes leave alone

A document in form is changed at some paths, and then filled and checked again. The passes bring
what was changed back into form. Everywhere else they find what they left behind the last time, and
nothing that they do at the changed paths reaches there.
-/

namespace DocStore

open FieldType

-- ---------------------------------------------------------------------------
-- Paths apart from others
-- ---------------------------------------------------------------------------

namespace Path

variable {p q r : Path} {touched : List Path}

/-- The path lies on one line with none of the others. -/
def IsApartFrom (q : Path) (touched : List Path) : Prop := ∀ p ∈ touched, Parts p q

theorem IsBelow.trans (h : p.IsBelow q) (h' : q.IsBelow r) : p.IsBelow r := by
  obtain ⟨key, rest, hp⟩ := h
  obtain ⟨key', rest', hq⟩ := h'
  exact ⟨key', rest' ++ key :: rest, by simp [hp, hq]⟩

theorem keys_injective (h : p.keys = q.keys) : p = q := by
  obtain ⟨k, ks⟩ := p
  obtain ⟨i, ls⟩ := q
  obtain ⟨rfl, rfl⟩ := List.cons.inj h
  rfl

theorem isBelow_iff : q.IsBelow p ↔ p.keys <+: q.keys ∧ p ≠ q := by
  constructor
  · rintro ⟨key, rest, h⟩
    refine ⟨⟨_, h.symm⟩, ?_⟩
    rintro rfl
    have := congrArg List.length h
    simp at this
  · rintro ⟨⟨more, h⟩, ne⟩
    cases more with
    | nil => exact absurd (keys_injective (by simpa using h)) ne
    | cons key rest => exact ⟨key, rest, h.symm⟩

/-- What parts from a path parts from everything below it. -/
theorem Parts.below (parts : Parts p q) (below : r.IsBelow q) : Parts p r := by
  obtain ⟨ne, notBelow, notAbove⟩ := parts
  refine ⟨?_, fun h => notBelow (h.trans below), fun h => ?_⟩
  · rintro rfl
    exact notBelow below
  · -- two paths that lead to the same one lie on one line
    obtain ⟨toP, -⟩ := isBelow_iff.mp h
    obtain ⟨toQ, -⟩ := isBelow_iff.mp below
    rcases List.prefix_or_prefix_of_prefix toP toQ with pq | qp
    · exact notAbove (isBelow_iff.mpr ⟨pq, ne⟩)
    · exact notBelow (isBelow_iff.mpr ⟨qp, ne.symm⟩)

theorem IsApartFrom.below (apart : q.IsApartFrom touched) (below : r.IsBelow q) :
    r.IsApartFrom touched :=
  fun t mem => (apart t mem).below below

end Path

-- ---------------------------------------------------------------------------
-- Changes
-- ---------------------------------------------------------------------------

namespace Fields

/-- A document after changes at some paths, against the one before. -/
structure KeepsApart (touched : List Path) (before after : Fields) : Prop where
  same : ∀ q : Path, q.IsApartFrom touched → after.at? q = before.at? q
  /-- Nothing comes to be absent that such a path leads through. -/
  held : ∀ p q : Path, q.IsApartFrom touched → q.IsBelow p →
    after.atD p = .null → before.atD p = .null

variable {touched : List Path} {before doc : Fields} {p q t : Path}

theorem at?_set_below (below : q.IsBelow p) (other : ∀ c, w ≠ .object c) :
    (doc.set p w).at? q = none :=
  at?_below below (by simpa using other)

theorem KeepsApart.refl (doc : Fields) : KeepsApart touched doc doc :=
  ⟨fun _ _ => rfl, fun _ _ _ _ => id⟩

theorem KeepsApart.set (keeps : KeepsApart touched before doc) (mem : t ∈ touched) (v : Value) :
    KeepsApart touched before (doc.set t v) := by
  refine ⟨fun q apart => ?_, fun p q apart below null => ?_⟩
  · rw [at?_set_of_parts (apart t mem), keeps.same q apart]
  · rcases Path.cases_lie t p with rfl | down | up | parts
    · exact absurd below (apart _ mem).2.2
    · obtain ⟨c, hc⟩ := at?_set_of_isBelow (d := doc) (v := v) down
      rw [atD_of_at? hc] at null
      cases null
    · exact absurd (below.trans up) (apart t mem).2.2
    · rw [atD, at?_set_of_parts parts] at null
      exact keeps.held p q apart below null

theorem KeepsApart.remove (keeps : KeepsApart touched before doc) (mem : t ∈ touched) :
    KeepsApart touched before (doc.remove t) := by
  refine ⟨fun q apart => ?_, fun p q apart below null => ?_⟩
  · rw [at?_remove_of_parts (apart t mem), keeps.same q apart]
  · rcases Path.cases_lie t p with rfl | down | up | parts
    · exact absurd below (apart _ mem).2.2
    · rcases at?_remove_above (d := doc) down with same | ⟨-, c, -, hc⟩
      · rw [atD, same] at null
        exact keeps.held p q apart below null
      · rw [atD_of_at? hc] at null
        cases null
    · exact absurd (below.trans up) (apart t mem).2.2
    · rw [atD, at?_remove_of_parts parts] at null
      exact keeps.held p q apart below null

end Fields

-- ---------------------------------------------------------------------------
-- Filling
-- ---------------------------------------------------------------------------

section

open Schema Fields

variable {entry : Path × FieldType} {entries : List (Path × FieldType)} {source : Source}
  {touched : List Path} {before doc out : Fields} {q : Path} {schema : Schema}

/-- At a path that leads to one that is kept, filling either has nothing to do or puts a value there
that is no object; and then there was nothing below before. -/
theorem Schema.fillEntry_above (source : Source) (stored : entry.2.virtuals = [])
    (settled : Settled entry before) (keeps : KeepsApart touched before doc)
    (apart : q.IsApartFrom touched) (above : q.IsBelow entry.1) :
    fillEntry source entry doc = doc ∨
      ∃ w, fillEntry source entry doc = doc.set entry.1 w ∧ (∀ c, w ≠ .object c) ∧
        ∀ r : Path, r.IsBelow entry.1 → before.at? r = none := by
  rcases fillEntry_eq (isVirtual_eq_false stored) source doc with ⟨-, same⟩ | ⟨hw, set⟩
  · exact .inl same
  by_cases null : doc.atD entry.1 = .null
  · have absent := settled.filled (keeps.held entry.1 q apart above null) source
    exact absurd (by rw [null]; exact absent) hw
  rw [cast_of_ne_null null] at hw set
  by_cases same : entry.2.coerce (doc.atD entry.1) = doc.atD entry.1
  · rw [same, set_eq_self (at?_eq_some_atD null)] at set
    exact .inl set
  · refine .inr ⟨_, set, (coerce_eq_self_or _ _).resolve_left same, fun r below => ?_⟩
    refine Option.eq_none_iff_forall_ne_some.mpr fun v hv => same ?_
    obtain ⟨c, hc⟩ := at?_of_isBelow below hv
    have taken := settled.checked.taken
    rw [atD_of_at? hc] at taken
    exact coerce_of_accepts_object stored taken _

theorem Fields.KeepsApart.fillEntry (keeps : KeepsApart touched before doc)
    (stored : entry.2.virtuals = []) (settled : Settled entry before) :
    KeepsApart touched before (fillEntry source entry doc) := by
  have kept : entry.1.IsApartFrom touched → Schema.fillEntry source entry doc = doc :=
    fun apart => fillEntry_eq_self stored (settled.congr (keeps.same _ apart))
  rcases fillEntry_eq (isVirtual_eq_false stored) source doc with ⟨-, same⟩ | ⟨hw, set⟩
  · rwa [same]
  constructor
  · intro q apart
    rcases Path.cases_lie entry.1 q with rfl | down | up | parts
    · rw [kept apart, keeps.same _ apart]
    · rw [kept (apart.below down), keeps.same q apart]
    · rcases fillEntry_above source stored settled keeps apart up with
        same | ⟨w, set, other, nothing⟩
      · rw [same, keeps.same q apart]
      · rw [set, at?_set_below up other, nothing q up]
    · rw [set, at?_set_of_parts parts, keeps.same q apart]
  · intro p q apart below null
    rcases Path.cases_lie entry.1 p with rfl | down | up | parts
    · rw [set, atD_of_at? at?_set_self] at null
      exact absurd null hw
    · obtain ⟨c, hc⟩ := at?_set_of_isBelow (d := doc)
        (v := entry.2.cast source (doc.atD entry.1)) down
      rw [set, atD_of_at? hc] at null
      cases null
    · rcases fillEntry_above source stored settled keeps apart (below.trans up) with
        same | ⟨w, -, -, nothing⟩
      · rw [same] at null
        exact keeps.held p q apart below null
      · simp [atD, nothing p up]
    · rw [set, atD, at?_set_of_parts parts] at null
      exact keeps.held p q apart below null

theorem Fields.KeepsApart.fillFrom (keeps : KeepsApart touched before doc)
    (stored : ∀ entry ∈ entries, entry.2.virtuals = [])
    (settled : ∀ entry ∈ entries, Settled entry before) (n : Nat) :
    KeepsApart touched before (fillFrom source n entries doc) := by
  induction entries generalizing doc n with
  | nil => exact keeps
  | cons entry rest ih =>
    obtain ⟨storedFirst, storedRest⟩ := List.forall_mem_cons.mp stored
    obtain ⟨settledFirst, settledRest⟩ := List.forall_mem_cons.mp settled
    exact ih (keeps.fillEntry storedFirst settledFirst) storedRest settledRest (n + 1)

-- ---------------------------------------------------------------------------
-- Checking
-- ---------------------------------------------------------------------------

theorem Fields.KeepsApart.checkEntry (keeps : KeepsApart touched before doc)
    (stored : entry.2.virtuals = []) (settled : Settled entry before)
    (ok : checkEntry entry doc = (.ok (), out)) : KeepsApart touched before out := by
  obtain ⟨-, ⟨rfl, -⟩ | ⟨rfl, null⟩⟩ := checkEntry_ok stored ok
  · exact keeps
  have touches : ¬ entry.1.IsApartFrom touched := by
    intro apart
    rw [keeps.same _ apart] at null
    exact settled.checked.present null
  constructor
  · intro q apart
    rcases Path.cases_lie entry.1 q with rfl | down | up | parts
    · exact absurd apart touches
    · exact absurd (apart.below down) touches
    · rw [at?_remove_of_isBelow up, ← keeps.same q apart,
        at?_eq_none_of_isBelow up (atD_of_at? null)]
    · rw [at?_remove_of_parts parts, keeps.same q apart]
  · intro p q apart below gone
    by_cases here : entry.1 = p
    · subst here
      exact keeps.held _ q apart below (atD_of_at? null)
    rcases at?_remove_null null here with same | ⟨-, c, c', -, held⟩
    · rw [atD, same] at gone
      exact keeps.held p q apart below gone
    · rw [atD_of_at? held] at gone
      cases gone

/-- What a document in form keeps through some changes, it keeps through both passes. -/
theorem Schema.Plain.keepsApart (plain : schema.Plain)
    (settled : ∀ entry ∈ schema.entries, Settled entry before)
    (keeps : KeepsApart touched before doc)
    (ok : schema.check (schema.fill source doc) = (.ok (), out)) :
    KeepsApart touched before out :=
  checkEntries_induction
    (fun entry mem _ _ keeps => keeps.checkEntry (plain.stored entry mem) (settled entry mem))
    ok (keeps.fillFrom plain.stored settled 0)

end

end DocStore
