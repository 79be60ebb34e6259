import DocStore.Value.Path

/-!
# Laws of members and paths

What a member or a path holds after a change at another one. Of two paths either they are the same,
or one leads through the other, or they part at some key; only in the last case does a change at one
never touch the other.
-/

namespace DocStore

namespace Fields

/-! ### Members -/

theorem get?_cons : get? ((k, w) :: rest) key = if key == k then some w else get? rest key := by
  simp only [get?, List.lookup_cons]
  cases key == k <;> rfl

@[simp] theorem get?_nil : get? [] key = none := rfl

@[simp] theorem get?_insert_self : get? (insert key v d) key = some v := by
  induction d with
  | nil => simp [insert, get?_cons]
  | cons entry rest ih =>
    obtain ⟨k, w⟩ := entry
    by_cases h : k = key
    · simp [insert, get?_cons, h]
    · simp [insert, get?_cons, h, Ne.symm h, ih]

theorem get?_insert_of_ne (h : other ≠ key) : get? (insert key v d) other = get? d other := by
  induction d with
  | nil => simp [insert, get?_cons, h]
  | cons entry rest ih =>
    obtain ⟨k, w⟩ := entry
    by_cases hk : k = key
    · simp [insert, get?_cons, hk, h]
    · simp [insert, get?_cons, hk, ih]

@[simp] theorem get?_erase_self : get? (erase key d) key = none := by
  induction d with
  | nil => rfl
  | cons entry rest ih =>
    obtain ⟨k, w⟩ := entry
    by_cases h : k = key
    · simpa [erase, h] using ih
    · simpa [erase, h, get?_cons, Ne.symm h] using ih

theorem get?_erase_of_ne (h : other ≠ key) : get? (erase key d) other = get? d other := by
  induction d with
  | nil => rfl
  | cons entry rest ih =>
    obtain ⟨k, w⟩ := entry
    by_cases hk : k = key
    · subst hk
      simpa [erase, get?_cons, h] using ih
    · simp only [erase] at ih
      simp [erase, hk, get?_cons, ih]

theorem insert_eq_self (h : get? d key = some v) : insert key v d = d := by
  induction d with
  | nil => simp at h
  | cons entry rest ih =>
    obtain ⟨k, w⟩ := entry
    by_cases hk : k = key
    · simp [get?_cons, hk] at h
      simp [insert, hk, h]
    · simp [get?_cons, Ne.symm hk] at h
      simp [insert, hk, ih h]

theorem insert_insert : insert key w (insert key v d) = insert key w d := by
  induction d with
  | nil => simp [insert]
  | cons entry rest ih =>
    obtain ⟨k, u⟩ := entry
    by_cases hk : k = key
    · simp [insert, hk]
    · simp [insert, hk, ih]

/-- A change of a member that is there may wait for one elsewhere. -/
theorem insert_comm (ne : key ≠ other) (h : get? d key = some x) :
    insert other w (insert key v d) = insert key v (insert other w d) := by
  induction d with
  | nil => simp at h
  | cons entry rest ih =>
    obtain ⟨k, u⟩ := entry
    by_cases hk : k = key
    · subst hk
      simp [insert, ne]
    · have h : get? rest key = some x := by simpa [get?_cons, Ne.symm hk] using h
      by_cases ho : k = other
      · simp [insert, ho, Ne.symm ne]
      · simp [insert, hk, ho, ih h]

theorem erase_eq_self (h : get? d key = none) : erase key d = d := by
  induction d with
  | nil => rfl
  | cons entry rest ih =>
    obtain ⟨k, w⟩ := entry
    by_cases hk : k = key
    · simp [get?_cons, hk] at h
    · simp [get?_cons, Ne.symm hk] at h
      have := ih h
      simp only [erase] at this
      simp [erase, hk, this]

end Fields

/-! ### How two paths lie -/

namespace Path

/-- The path has the keys of the other one and more. -/
def IsBelow (q p : Path) : Prop := ∃ key rest, q.keys = p.keys ++ key :: rest

def Parts (p q : Path) : Prop := p ≠ q ∧ ¬ p.IsBelow q ∧ ¬ q.IsBelow p

theorem Parts.symm (h : Parts p q) : Parts q p := ⟨h.1.symm, h.2.2, h.2.1⟩

theorem cases_lie (p q : Path) : p = q ∨ p.IsBelow q ∨ q.IsBelow p ∨ Parts p q := by
  by_cases h : p = q
  · exact .inl h
  · by_cases hb : p.IsBelow q
    · exact .inr (.inl hb)
    · by_cases ha : q.IsBelow p
      · exact .inr (.inr (.inl ha))
      · exact .inr (.inr (.inr ⟨h, hb, ha⟩))

@[simp] theorem not_isBelow_single : ¬ IsBelow ⟨k, []⟩ p := by
  rintro ⟨key, rest, h⟩
  have := congrArg List.length h
  simp [keys] at this

@[simp] theorem cons_isBelow_single : IsBelow ⟨k, j :: js⟩ ⟨i, []⟩ ↔ k = i := by
  constructor
  · rintro ⟨key, rest, h⟩
    simp [keys] at h
    exact h.1
  · rintro rfl
    exact ⟨j, js, rfl⟩

@[simp] theorem cons_isBelow_cons :
    IsBelow ⟨k, j :: js⟩ ⟨i, l :: ls⟩ ↔ k = i ∧ IsBelow ⟨j, js⟩ ⟨l, ls⟩ := by
  constructor
  · rintro ⟨key, rest, h⟩
    simp only [keys, List.cons_append, List.cons.injEq] at h
    exact ⟨h.1, key, rest, by simpa [keys] using h.2⟩
  · rintro ⟨rfl, key, rest, h⟩
    simp only [keys, List.cons_append] at h
    exact ⟨key, rest, by simp [keys, h]⟩

theorem parts_single : Parts ⟨k, []⟩ ⟨i, ls⟩ ↔ k ≠ i := by
  cases ls with
  | nil => simp [Parts]
  | cons l ls => simp [Parts, eq_comm]

theorem parts_cons : Parts ⟨k, j :: js⟩ ⟨i, l :: ls⟩ ↔ k ≠ i ∨ Parts ⟨j, js⟩ ⟨l, ls⟩ := by
  by_cases h : k = i
  · subst h
    simp [Parts]
  · simp [Parts, h, Ne.symm h]

end Path

/-! ### Paths -/

namespace Fields

@[simp] theorem at?_nil : at? [] p = none := by
  obtain ⟨k, ks⟩ := p
  cases ks <;> rfl

@[simp] theorem at?_single : at? d ⟨k, []⟩ = get? d k := rfl

@[simp] theorem set_single : set d ⟨k, []⟩ v = insert k v d := rfl

@[simp] theorem remove_single : remove d ⟨k, []⟩ = erase k d := rfl

theorem child_of_object (h : get? d k = some (.object c)) : child d k = c := by
  simp [child, h]

@[simp] theorem child_insert_self : child (insert k (.object c) d) k = c :=
  child_of_object get?_insert_self

theorem child_insert_of_ne (h : i ≠ k) : child (insert k v d) i = child d i := by
  simp [child, get?_insert_of_ne h]

theorem child_erase_of_ne (h : i ≠ k) : child (erase k d) i = child d i := by
  simp [child, get?_erase_of_ne h]

theorem at?_cons : at? d ⟨k, j :: js⟩ = at? (child d k) ⟨j, js⟩ := by
  simp only [at?, getAt, child]
  split
  · rfl
  · exact (at?_nil (p := ⟨j, js⟩)).symm

theorem get?_of_at?_cons (h : at? d ⟨k, j :: js⟩ = some v) :
    get? d k = some (.object (child d k)) := by
  simp only [at?, getAt] at h
  split at h
  · rename_i c hc
    rw [child_of_object hc, hc]
  · simp at h

theorem set_cons :
    set d ⟨k, j :: js⟩ v = insert k (.object (set (child d k) ⟨j, js⟩ v)) d := rfl

theorem detach_cons (h : get? d k = some (.object (child d k))) :
    detach d ⟨k, j :: js⟩ =
      ((detach (child d k) ⟨j, js⟩).1, insert k (.object (remove (child d k) ⟨j, js⟩)) d) := by
  simp only [detach, detachAt]
  rw [h]
  rfl

theorem detach_cons_eq_self (h : get? d k ≠ some (.object (child d k))) :
    detach d ⟨k, j :: js⟩ = (none, d) := by
  simp only [detach, detachAt]
  split
  · rename_i c hc
    rw [child_of_object hc] at h
    exact absurd hc h
  · rfl

theorem remove_cons (h : get? d k = some (.object (child d k))) :
    remove d ⟨k, j :: js⟩ = insert k (.object (remove (child d k) ⟨j, js⟩)) d :=
  congrArg Prod.snd (detach_cons h)

theorem remove_cons_eq_self (h : get? d k ≠ some (.object (child d k))) :
    remove d ⟨k, j :: js⟩ = d :=
  congrArg Prod.snd (detach_cons_eq_self h)

theorem at?_of_isBelow (below : q.IsBelow p) (h : at? d q = some v) :
    ∃ c, at? d p = some (.object c) := by
  obtain ⟨k, ks⟩ := q
  obtain ⟨i, ls⟩ := p
  induction ks generalizing k i ls d with
  | nil => exact absurd below Path.not_isBelow_single
  | cons j js ih =>
    cases ls with
    | nil =>
      obtain rfl := Path.cons_isBelow_single.mp below
      exact ⟨_, get?_of_at?_cons h⟩
    | cons l ls =>
      obtain ⟨rfl, inner⟩ := Path.cons_isBelow_cons.mp below
      rw [at?_cons] at h ⊢
      exact ih _ h _ _ inner

/-- Nothing is below what is no object. -/
theorem at?_below (below : q.IsBelow p) (other : ∀ c, at? d p ≠ some (.object c)) :
    at? d q = none := by
  refine Option.eq_none_iff_forall_ne_some.mpr fun v hv => ?_
  obtain ⟨c, hc⟩ := at?_of_isBelow below hv
  exact other c hc

/-! ### Setting a path -/

@[simp] theorem at?_set_self : at? (set d p v) p = some v := by
  obtain ⟨k, ks⟩ := p
  induction ks generalizing k d with
  | nil => simp
  | cons j js ih => rw [set_cons, at?_cons, child_insert_self, ih]

theorem set_eq_self (h : at? d p = some v) : set d p v = d := by
  obtain ⟨k, ks⟩ := p
  induction ks generalizing k d with
  | nil => exact insert_eq_self h
  | cons j js ih =>
    have hk := get?_of_at?_cons h
    rw [at?_cons] at h
    rw [set_cons, ih _ h]
    exact insert_eq_self hk

theorem at?_set_of_parts (parts : Path.Parts p q) : at? (set d p v) q = at? d q := by
  obtain ⟨k, ks⟩ := p
  obtain ⟨i, ls⟩ := q
  induction ks generalizing k i ls d with
  | nil =>
    have ne : i ≠ k := Ne.symm (Path.parts_single.mp parts)
    cases ls with
    | nil => exact get?_insert_of_ne ne
    | cons l ls => rw [at?_cons, at?_cons, set_single, child_insert_of_ne ne]
  | cons j js ih =>
    rw [set_cons]
    by_cases hk : i = k
    · subst hk
      cases ls with
      | nil => exact absurd rfl (Path.parts_single.mp parts.symm)
      | cons l ls =>
        rw [at?_cons, at?_cons, child_insert_self]
        exact ih _ _ _ ((Path.parts_cons.mp parts).resolve_left (by simp))
    · cases ls with
      | nil => exact get?_insert_of_ne hk
      | cons l ls => rw [at?_cons, at?_cons, child_insert_of_ne hk]

theorem at?_set_of_isBelow (below : p.IsBelow q) : ∃ c, at? (set d p v) q = some (.object c) :=
  at?_of_isBelow below at?_set_self

/-! ### Removing a path -/

@[simp] theorem at?_remove_self : at? (remove d p) p = none := by
  obtain ⟨k, ks⟩ := p
  induction ks generalizing k d with
  | nil => simp
  | cons j js ih =>
    by_cases h : get? d k = some (.object (child d k))
    · rw [remove_cons h, at?_cons, child_insert_self, ih]
    · rw [remove_cons_eq_self h]
      exact Option.eq_none_iff_forall_ne_some.mpr fun _ hv => h (get?_of_at?_cons hv)

theorem remove_eq_self (h : at? d p = none) : remove d p = d := by
  obtain ⟨k, ks⟩ := p
  induction ks generalizing k d with
  | nil => exact erase_eq_self h
  | cons j js ih =>
    by_cases hk : get? d k = some (.object (child d k))
    · rw [at?_cons] at h
      rw [remove_cons hk, ih _ h]
      exact insert_eq_self hk
    · exact remove_cons_eq_self hk

theorem at?_remove_of_parts (parts : Path.Parts p q) : at? (remove d p) q = at? d q := by
  obtain ⟨k, ks⟩ := p
  obtain ⟨i, ls⟩ := q
  induction ks generalizing k i ls d with
  | nil =>
    have ne : i ≠ k := Ne.symm (Path.parts_single.mp parts)
    cases ls with
    | nil => exact get?_erase_of_ne ne
    | cons l ls => rw [at?_cons, at?_cons, remove_single, child_erase_of_ne ne]
  | cons j js ih =>
    by_cases h : get? d k = some (.object (child d k))
    · rw [remove_cons h]
      by_cases hk : i = k
      · subst hk
        cases ls with
        | nil => exact absurd rfl (Path.parts_single.mp parts.symm)
        | cons l ls =>
          rw [at?_cons, at?_cons, child_insert_self]
          exact ih _ _ _ ((Path.parts_cons.mp parts).resolve_left (by simp))
      · cases ls with
        | nil => exact get?_insert_of_ne hk
        | cons l ls => rw [at?_cons, at?_cons, child_insert_of_ne hk]
    · rw [remove_cons_eq_self h]

theorem at?_remove_of_isBelow (below : q.IsBelow p) : at? (remove d p) q = none :=
  at?_below below (by simp)

/-- Removing a path leaves everything above it absent, or an object, or as it was. -/
theorem at?_remove_above (below : p.IsBelow q) :
    at? (remove d p) q = at? d q ∨
      ∃ c c', at? d q = some (.object c) ∧ at? (remove d p) q = some (.object c') := by
  cases h : at? d p with
  | none => exact .inl (by rw [remove_eq_self h])
  | some v =>
    refine .inr ?_
    obtain ⟨c, hc⟩ := at?_of_isBelow below h
    refine ⟨c, ?_⟩
    obtain ⟨k, ks⟩ := p
    obtain ⟨i, ls⟩ := q
    induction ks generalizing k i ls d with
    | nil => exact absurd below Path.not_isBelow_single
    | cons j js ih =>
      rw [remove_cons (get?_of_at?_cons h)]
      cases ls with
      | nil =>
        obtain rfl := Path.cons_isBelow_single.mp below
        exact ⟨_, hc, get?_insert_self⟩
      | cons l ls =>
        obtain ⟨rfl, inner⟩ := Path.cons_isBelow_cons.mp below
        rw [at?_cons] at h hc
        rw [at?_cons, at?_cons, child_insert_self]
        exact ih _ h _ _ hc inner

end Fields

/-! ### A path that goes on -/

theorem Path.isBelow_iff_append : Path.IsBelow q p ↔ ∃ r, q = p ++ r := by
  obtain ⟨k, ks⟩ := q
  constructor
  · rintro ⟨key, rest, h⟩
    refine ⟨⟨key, rest⟩, ?_⟩
    obtain ⟨rfl, rfl⟩ := List.cons.inj h
    rfl
  · rintro ⟨r, h⟩
    obtain ⟨rfl, rfl⟩ := Path.mk.inj h
    exact ⟨r.head, r.rest, rfl⟩

namespace Fields

/-- A change of a field that is there may wait for one at a path beside it. -/
theorem set_comm (parts : Path.Parts p q) (h : at? d p = some x) :
    set (set d p v) q w = set (set d q w) p v := by
  obtain ⟨k, ks⟩ := p
  obtain ⟨i, ls⟩ := q
  induction ks generalizing k i ls d with
  | nil =>
    have ne : k ≠ i := Path.parts_single.mp parts
    cases ls with
    | nil => exact insert_comm ne h
    | cons l ls =>
      rw [set_single, set_cons, child_insert_of_ne ne.symm, insert_comm ne h]
      rfl
  | cons j js ih =>
    have held := get?_of_at?_cons h
    by_cases hk : k = i
    · subst hk
      cases ls with
      | nil => exact absurd rfl (Path.parts_single.mp parts.symm)
      | cons l ls =>
        rw [at?_cons] at h
        simp only [set_cons, child_insert_self, insert_insert,
          ih _ h _ _ ((Path.parts_cons.mp parts).resolve_left (by simp))]
    · cases ls with
      | nil =>
        rw [set_cons, set_single, insert_comm hk held, set_single, set_cons, child_insert_of_ne hk]
      | cons l ls =>
        rw [set_cons, set_cons, child_insert_of_ne (Ne.symm hk), insert_comm hk held, set_cons,
          set_cons, child_insert_of_ne hk]

/-- What is no object gives way to an empty one when something below it is set. -/
theorem set_set_below (below : Path.IsBelow q p) (other : ∀ c, at? d p ≠ some (.object c)) :
    set (set d p (.object [])) q w = set d q w := by
  obtain ⟨r, rfl⟩ := Path.isBelow_iff_append.mp below
  obtain ⟨k, ks⟩ := p
  induction ks generalizing k d with
  | nil =>
    have none : child d k = [] := by
      unfold child
      split
      · rename_i c held
        exact absurd held (other c)
      · rfl
    change set (insert k (.object []) d) ⟨k, r.head :: r.rest⟩ w = set d ⟨k, r.head :: r.rest⟩ w
    rw [set_cons, set_cons, child_insert_self, insert_insert, none]
  | cons j js ih =>
    have inner := ih j (d := child d k) (fun c object => other c (at?_cons.trans object))
      (Path.isBelow_iff_append.mpr ⟨r, rfl⟩)
    change set (set d ⟨k, j :: js⟩ (.object [])) ⟨k, j :: (js ++ r.keys)⟩ w =
      set d ⟨k, j :: (js ++ r.keys)⟩ w
    rw [set_cons, set_cons, set_cons, child_insert_self, insert_insert]
    exact congrArg (fun c => insert k (.object c) d) inner

theorem at?_append (h : at? d p = some (.object c)) (q : Path) : at? d (p ++ q) = at? c q := by
  obtain ⟨k, ks⟩ := p
  induction ks generalizing k d with
  | nil =>
    change at? d ⟨k, q.head :: q.rest⟩ = at? c q
    rw [at?_cons, child_of_object h]
  | cons j js ih =>
    rw [at?_cons] at h
    exact at?_cons.trans (ih _ h)

theorem remove_append (h : at? d p = some (.object c)) (q : Path) :
    remove d (p ++ q) = set d p (.object (remove c q)) := by
  obtain ⟨k, ks⟩ := p
  induction ks generalizing k d with
  | nil =>
    obtain rfl := child_of_object h
    exact remove_cons h
  | cons j js ih =>
    have held := get?_of_at?_cons h
    rw [at?_cons] at h
    refine (remove_cons held).trans ?_
    rw [set_cons]
    exact congrArg (fun c => insert k (.object c) d) (ih _ h)

end Fields

end DocStore
