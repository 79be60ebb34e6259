import DocStore.Proofs.Schema.Frame

/-!
# Documents that are alike

Two documents are alike at a path if they hold the same there or an object each. The same change
keeps them alike: at and below the changed path they hold what was put there, above it an object
each. Where they hold exactly the same they go on to do so.
-/

namespace DocStore

-- ---------------------------------------------------------------------------
-- Paths on one line with others
-- ---------------------------------------------------------------------------

namespace Path

variable {p q r s t : Path} {touched : List Path}

/-- The path is one of the others or lies below one. -/
def IsWithin (q : Path) (touched : List Path) : Prop := ∃ t ∈ touched, q = t ∨ q.IsBelow t

/-- The path leads to one of the others, and is none of them nor below one. -/
structure LeadsTo (q : Path) (touched : List Path) : Prop where
  target : ∃ t ∈ touched, t.IsBelow q
  outside : ¬ q.IsWithin touched

theorem cases_touched (q : Path) (touched : List Path) :
    q.IsWithin touched ∨ q.LeadsTo touched ∨ q.IsApartFrom touched := by
  by_cases within : q.IsWithin touched
  · exact .inl within
  by_cases leads : ∃ t ∈ touched, t.IsBelow q
  · exact .inr (.inl ⟨leads, within⟩)
  refine .inr (.inr fun t mem => ?_)
  rcases cases_lie t q with same | up | down | parts
  · exact absurd ⟨t, mem, .inl same.symm⟩ within
  · exact absurd ⟨t, mem, up⟩ leads
  · exact absurd ⟨t, mem, .inr down⟩ within
  · exact parts

theorem IsWithin.below (within : q.IsWithin touched) (below : r.IsBelow q) :
    r.IsWithin touched := by
  obtain ⟨t, mem, rfl | down⟩ := within
  · exact ⟨q, mem, .inr below⟩
  · exact ⟨t, mem, .inr (below.trans down)⟩

theorem IsWithin.parts (within : q.IsWithin touched) (apart : r.IsApartFrom touched) :
    Parts q r := by
  obtain ⟨t, mem, rfl | down⟩ := within
  · exact apart q mem
  · exact ((apart t mem).symm.below down).symm

/-- What leads to a path that leads to others leads to them. -/
theorem LeadsTo.above (leads : q.LeadsTo touched) (above : q.IsBelow r) : r.LeadsTo touched := by
  obtain ⟨⟨t, mem, down⟩, outside⟩ := leads
  exact ⟨⟨t, mem, down.trans above⟩, fun within => outside (within.below above)⟩

theorem IsApartFrom.not_above (apart : q.IsApartFrom touched) (mem : t ∈ touched) :
    ¬ t.IsBelow q :=
  (apart t mem).2.1

/-- What leads to some paths is none apart from them and below none of those. -/
theorem LeadsTo.not_above (leads : q.LeadsTo touched) (apart : r.IsApartFrom touched) :
    q ≠ r ∧ ¬ q.IsBelow r := by
  obtain ⟨⟨t, mem, down⟩, -⟩ := leads
  refine ⟨?_, fun below => apart.not_above mem (down.trans below)⟩
  rintro rfl
  exact apart.not_above mem down

end Path

namespace Fields

variable {a b c d before : Fields} {p q r t : Path} {v : Value} {touched : List Path}

-- ---------------------------------------------------------------------------
-- The same change of two documents
-- ---------------------------------------------------------------------------

/-- The members of the object at a path; none if there is no object. -/
def inside (d : Fields) (p : Path) : Fields :=
  match d.at? p with
  | some (.object c) => c
  | _ => []

theorem inside_congr (same : a.at? p = b.at? p) : a.inside p = b.inside p := by
  unfold inside
  rw [same]

theorem set_append (d : Fields) (p q : Path) (v : Value) :
    d.set (p ++ q) v = d.set p (.object ((d.inside p).set q v)) := by
  obtain ⟨k, ks⟩ := p
  induction ks generalizing k d with
  | nil => rfl
  | cons j js ih =>
    have deeper : (d.child k).inside ⟨j, js⟩ = d.inside ⟨k, j :: js⟩ := by
      unfold inside
      rw [at?_cons]
    rw [set_cons, ← deeper]
    exact congrArg (fun c => insert k (.object c) d) (ih (d.child k) j)

theorem at?_congr_below (same : a.at? p = b.at? p) (below : q.IsBelow p) : a.at? q = b.at? q := by
  by_cases object : ∃ c, a.at? p = some (.object c)
  · obtain ⟨c, held⟩ := object
    obtain ⟨r, rfl⟩ := Path.isBelow_iff_append.mp below
    rw [at?_append held, at?_append (same ▸ held)]
  · have other := not_exists.mp object
    rw [at?_below below other, at?_below below (same ▸ other)]

/-- At a changed path and below it there is what was put there. -/
theorem at?_set_within (within : q = p ∨ q.IsBelow p) : (a.set p v).at? q = (b.set p v).at? q := by
  have own : (a.set p v).at? p = (b.set p v).at? p := by simp
  rcases within with rfl | below
  · exact own
  · exact at?_congr_below own below

theorem at?_set_congr (same : a.at? q = b.at? q) (p : Path) (v : Value) :
    (a.set p v).at? q = (b.set p v).at? q := by
  rcases Path.cases_lie p q with rfl | above | below | parts
  · exact at?_set_within (.inl rfl)
  · obtain ⟨r, rfl⟩ := Path.isBelow_iff_append.mp above
    rw [set_append, set_append, at?_set_self, at?_set_self, inside_congr same]
  · exact at?_set_within (.inr below)
  · rw [at?_set_of_parts parts, at?_set_of_parts parts, same]

theorem at?_remove_congr (same : a.at? q = b.at? q) (p : Path) :
    (a.remove p).at? q = (b.remove p).at? q := by
  rcases Path.cases_lie p q with rfl | above | below | parts
  · rw [at?_remove_self, at?_remove_self]
  · by_cases object : ∃ c, a.at? q = some (.object c)
    · obtain ⟨c, held⟩ := object
      obtain ⟨r, rfl⟩ := Path.isBelow_iff_append.mp above
      rw [remove_append held, remove_append (same ▸ held), at?_set_self, at?_set_self]
    · have other := not_exists.mp object
      rw [remove_eq_self (at?_below above other), remove_eq_self (at?_below above (same ▸ other)),
        same]
  · rw [at?_remove_of_isBelow below, at?_remove_of_isBelow below]
  · rw [at?_remove_of_parts parts, at?_remove_of_parts parts, same]

-- ---------------------------------------------------------------------------
-- Alike at a path
-- ---------------------------------------------------------------------------

/-- The documents hold the same at the path, or an object each. -/
def AlikeAt (q : Path) (a b : Fields) : Prop :=
  a.at? q = b.at? q ∨ ∃ c c', a.at? q = some (.object c) ∧ b.at? q = some (.object c')

theorem AlikeAt.symm (alike : AlikeAt q a b) : AlikeAt q b a := by
  rcases alike with same | ⟨c, c', left, right⟩
  · exact .inl same.symm
  · exact .inr ⟨c', c, right, left⟩

theorem AlikeAt.trans (first : AlikeAt q a b) (second : AlikeAt q b d) : AlikeAt q a d := by
  rcases first with same | ⟨c, c', left, right⟩ <;> rcases second with same' | ⟨e, e', left', right'⟩
  · exact .inl (same.trans same')
  · exact .inr ⟨e, e', same.trans left', right'⟩
  · exact .inr ⟨c, c', left, same' ▸ right⟩
  · exact .inr ⟨c, e', left, right'⟩

theorem AlikeAt.atD_eq_null (alike : AlikeAt q a b) (null : a.atD q = .null) :
    b.atD q = .null := by
  rcases alike with same | ⟨c, c', left, -⟩
  · rw [atD, ← same]
    exact null
  · rw [atD_of_at? left] at null
    cases null

theorem AlikeAt.set (alike : AlikeAt q a b) (p : Path) (v : Value) :
    AlikeAt q (a.set p v) (b.set p v) := by
  rcases alike with same | ⟨c, c', left, right⟩
  · exact .inl (at?_set_congr same p v)
  rcases Path.cases_lie p q with rfl | above | below | parts
  · exact .inl (at?_set_within (.inl rfl))
  · obtain ⟨e, left⟩ := at?_set_of_isBelow (d := a) (v := v) above
    obtain ⟨e', right⟩ := at?_set_of_isBelow (d := b) (v := v) above
    exact .inr ⟨e, e', left, right⟩
  · exact .inl (at?_set_within (.inr below))
  · exact .inr ⟨c, c', (at?_set_of_parts parts).trans left, (at?_set_of_parts parts).trans right⟩

/-- An object stays one when something below it or beside it is removed. -/
theorem at?_remove_object (held : a.at? q = some (.object c)) (lies : p.IsBelow q ∨ Path.Parts p q) :
    ∃ c', (a.remove p).at? q = some (.object c') := by
  rcases lies with above | parts
  · rcases at?_remove_above (d := a) above with same | ⟨-, c', -, left⟩
    · exact ⟨c, same.trans held⟩
    · exact ⟨c', left⟩
  · exact ⟨c, (at?_remove_of_parts parts).trans held⟩

theorem AlikeAt.remove (alike : AlikeAt q a b) (p : Path) :
    AlikeAt q (a.remove p) (b.remove p) := by
  rcases alike with same | ⟨c, c', left, right⟩
  · exact .inl (at?_remove_congr same p)
  have objects (lies : p.IsBelow q ∨ Path.Parts p q) : AlikeAt q (a.remove p) (b.remove p) := by
    obtain ⟨e, left⟩ := at?_remove_object left lies
    obtain ⟨e', right⟩ := at?_remove_object right lies
    exact .inr ⟨e, e', left, right⟩
  rcases Path.cases_lie p q with rfl | above | below | parts
  · exact .inl (by rw [at?_remove_self, at?_remove_self])
  · exact objects (.inl above)
  · exact .inl (by rw [at?_remove_of_isBelow below, at?_remove_of_isBelow below])
  · exact objects (.inr parts)

-- ---------------------------------------------------------------------------
-- Alike along some paths
-- ---------------------------------------------------------------------------

/-- The documents hold the same at some paths, and are alike at all that lead there. -/
structure SameAlong (touched : List Path) (a b : Fields) : Prop where
  same : ∀ t ∈ touched, a.at? t = b.at? t
  around : ∀ t ∈ touched, ∀ q, t.IsBelow q → AlikeAt q a b

theorem SameAlong.within (along : SameAlong touched a b) (within : q.IsWithin touched) :
    a.at? q = b.at? q := by
  obtain ⟨t, mem, rfl | below⟩ := within
  · exact along.same q mem
  · exact at?_congr_below (along.same t mem) below

theorem SameAlong.alike (along : SameAlong touched a b) (leads : q.LeadsTo touched) :
    AlikeAt q a b := by
  obtain ⟨⟨t, mem, down⟩, -⟩ := leads
  exact along.around t mem q down

theorem SameAlong.set (along : SameAlong touched a b) (p : Path) (v : Value) :
    SameAlong touched (a.set p v) (b.set p v) :=
  ⟨fun t mem => at?_set_congr (along.same t mem) p v,
    fun t mem q down => (along.around t mem q down).set p v⟩

theorem SameAlong.remove (along : SameAlong touched a b) (p : Path) :
    SameAlong touched (a.remove p) (b.remove p) :=
  ⟨fun t mem => at?_remove_congr (along.same t mem) p,
    fun t mem q down => (along.around t mem q down).remove p⟩

-- ---------------------------------------------------------------------------
-- More at a path
-- ---------------------------------------------------------------------------

/-- Nothing may become something, and anything an object; else the path holds what it held. -/
def RisesAt (q : Path) (a b : Fields) : Prop :=
  a.atD q = .null ∨ a.at? q = b.at? q ∨ ∃ c, b.at? q = some (.object c)

theorem RisesAt.refl (q : Path) (a : Fields) : RisesAt q a a := .inr (.inl rfl)

theorem RisesAt.of_object (held : b.at? q = some (.object c)) : RisesAt q a b :=
  .inr (.inr ⟨c, held⟩)

theorem RisesAt.atD_eq_null (rises : RisesAt q a b) (null : b.atD q = .null) :
    a.atD q = .null := by
  rcases rises with null | same | ⟨c, held⟩
  · exact null
  · rwa [atD, same]
  · rw [atD_of_at? held] at null
    cases null

theorem RisesAt.object (rises : RisesAt q a b) (held : a.at? q = some (.object c)) :
    ∃ c', b.at? q = some (.object c') := by
  rcases rises with null | same | objects
  · rw [atD_of_at? held] at null
    cases null
  · exact ⟨c, same ▸ held⟩
  · exact objects

theorem RisesAt.trans (first : RisesAt q a b) (second : RisesAt q b d) : RisesAt q a d := by
  rcases second with null | same | objects
  · exact .inl (first.atD_eq_null null)
  · rcases first with null | same' | ⟨c, held⟩
    · exact .inl null
    · exact .inr (.inl (same'.trans same))
    · exact .of_object (same ▸ held)
  · exact .inr (.inr objects)

theorem AlikeAt.rises (alike : AlikeAt q a b) : RisesAt q a b := by
  rcases alike with same | ⟨-, c', -, right⟩
  · exact .inr (.inl same)
  · exact .of_object right

/-- A path that leads on rises when something is written below or beside it. -/
theorem risesAt_set (lies : p.IsBelow q ∨ Path.Parts p q) : RisesAt q d (d.set p v) := by
  rcases lies with above | parts
  · obtain ⟨c, held⟩ := at?_set_of_isBelow (d := d) (v := v) above
    exact .of_object held
  · exact .inr (.inl (at?_set_of_parts parts).symm)

end Fields

end DocStore
