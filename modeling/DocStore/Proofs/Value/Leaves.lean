import DocStore.Proofs.Value.Path

/-!
# Leaves of a document

What a document holds at the ends of its paths. Changing a path that ends in a leaf changes that
leaf and nothing else, so a pass over a document comes down to what it does to each leaf.
-/

namespace DocStore

namespace Value

/-- Anything but an object. -/
def IsLeaf (v : Value) : Prop := ∀ c, v ≠ .object c

theorem leaf_or_object (v : Value) : v.IsLeaf ∨ ∃ c, v = .object c := by
  cases v with
  | object c => exact .inr ⟨c, rfl⟩
  | _ => exact .inl fun c => by simp

/-- No two members of an object, however deep, have one key. Objects in arrays do not count. -/
inductive Distinct : Value → Prop
  | leaf : v.IsLeaf → Distinct v
  | object : (fields.map Prod.fst).Nodup → (∀ k v, (k, v) ∈ fields → Distinct v) →
      Distinct (.object fields)

/-- What holds of a document with distinct keys if it holds of the objects among its members. -/
@[elab_as_elim]
theorem Distinct.induction {motive : (d : Fields) → (Value.object d).Distinct → Prop}
    (object : ∀ d nodup members,
      (∀ k c (mem : (k, .object c) ∈ d), motive c (members k (.object c) mem)) →
        motive d (.object nodup members))
    (d : Fields) (distinct : (Value.object d).Distinct) : motive d distinct := by
  have any : ∀ {v : Value} (distinct : v.Distinct) (d) (whole : v = .object d),
      motive d (whole ▸ distinct) := by
    intro v distinct
    induction distinct with
    | leaf leaf => exact fun d whole => absurd whole (leaf d)
    | object nodup members ih =>
      rintro _ ⟨⟩
      exact object _ nodup members fun k c mem => ih k (.object c) mem c rfl
  exact any distinct d rfl

end Value

mutual
/-- Changes the leaves of a value, given the function for the paths from a member of that key. -/
def Value.mapLeaves (f : Path → Value → Value) (key : String) : Value → Value
  | .object c => .object (Fields.mapLeaves (fun q => f (⟨key, []⟩ ++ q)) c)
  | v => f ⟨key, []⟩ v
/-- Changes each leaf of a document by a function of its path. -/
def Fields.mapLeaves (f : Path → Value → Value) : Fields → Fields
  | [] => []
  | (k, v) :: rest => (k, v.mapLeaves f k) :: Fields.mapLeaves f rest
end

/-- The function makes no object of a leaf. -/
def KeepsLeaves (f : Path → Value → Value) : Prop := ∀ p v, v.IsLeaf → (f p v).IsLeaf

theorem KeepsLeaves.below {f : Path → Value → Value} (keeps : KeepsLeaves f) (key : String) :
    KeepsLeaves fun q => f (⟨key, []⟩ ++ q) :=
  fun _ _ leaf => keeps _ _ leaf

theorem Value.mapLeaves_leaf {v : Value} (leaf : v.IsLeaf) (f : Path → Value → Value)
    (key : String) : v.mapLeaves f key = f ⟨key, []⟩ v := by
  cases v with
  | object c => exact absurd rfl (leaf c)
  | _ => rfl

namespace Fields

variable {f g : Path → Value → Value} {d c : Fields} {p : Path} {k : String} {v w : Value}

theorem mapLeaves_eq_map (f : Path → Value → Value) (d : Fields) :
    d.mapLeaves f = d.map fun e => (e.1, e.2.mapLeaves f e.1) := by
  induction d with
  | nil => rfl
  | cons entry rest ih => rw [mapLeaves, ih, List.map_cons]

@[simp] theorem map_fst_mapLeaves : (d.mapLeaves f).map Prod.fst = d.map Prod.fst := by
  rw [mapLeaves_eq_map, List.map_map]
  rfl

-- ---------------------------------------------------------------------------
-- Members
-- ---------------------------------------------------------------------------

theorem get?_of_mem (nodup : (d.map Prod.fst).Nodup) (mem : (k, v) ∈ d) : d.get? k = some v := by
  induction d with
  | nil => simp at mem
  | cons entry rest ih =>
    obtain ⟨j, w⟩ := entry
    obtain ⟨fresh, nodup⟩ := List.nodup_cons.mp nodup
    rcases List.mem_cons.mp mem with same | later
    · cases same
      simp [get?_cons]
    · have ne : k ≠ j := by
        rintro rfl
        exact fresh (List.mem_map.mpr ⟨_, later, rfl⟩)
      simpa [get?_cons, ne] using ih nodup later

theorem mem_of_get? (h : d.get? k = some v) : (k, v) ∈ d := by
  obtain ⟨pre, post, rfl, -⟩ := List.lookup_eq_some_iff.mp h
  simp

theorem insert_eq_map (nodup : (d.map Prod.fst).Nodup) (held : d.get? k = some v) (w : Value) :
    insert k w d = d.map fun e => if e.1 = k then (k, w) else e := by
  induction d with
  | nil => simp at held
  | cons entry rest ih =>
    obtain ⟨j, u⟩ := entry
    obtain ⟨fresh, nodup⟩ := List.nodup_cons.mp nodup
    by_cases same : j = k
    · subst same
      have others : rest.map (fun e => if e.1 = j then (j, w) else e) = rest := by
        refine (List.map_congr_left fun entry mem => ?_).trans (List.map_id' rest)
        have ne : entry.1 ≠ j := fun same => fresh (same ▸ List.mem_map.mpr ⟨_, mem, rfl⟩)
        simp [ne]
      simp [insert, others]
    · have held : get? rest k = some v := by simpa [get?_cons, Ne.symm same] using held
      simp [insert, same, ih nodup held]

theorem get?_mapLeaves : (d.mapLeaves f).get? k = (d.get? k).map (·.mapLeaves f k) := by
  induction d with
  | nil => rfl
  | cons entry rest ih =>
    obtain ⟨j, u⟩ := entry
    rw [mapLeaves, get?_cons, get?_cons, ih]
    by_cases same : k = j
    · simp [same]
    · simp [same]

theorem child_mapLeaves (keeps : KeepsLeaves f) :
    child (d.mapLeaves f) k = (child d k).mapLeaves fun q => f (⟨k, []⟩ ++ q) := by
  simp only [child, get?_mapLeaves]
  cases d.get? k with
  | none => rfl
  | some v =>
    rcases v.leaf_or_object with leaf | ⟨c, rfl⟩
    · rw [Option.map_some, Value.mapLeaves_leaf leaf]
      have still := keeps ⟨k, []⟩ v leaf
      split
      · rename_i c h
        exact absurd (Option.some.inj h) (still c)
      · split
        · rename_i c h
          exact absurd (Option.some.inj h) (leaf c)
        · rfl
    · rfl

-- ---------------------------------------------------------------------------
-- Paths
-- ---------------------------------------------------------------------------

theorem at?_mapLeaves_leaf (keeps : KeepsLeaves f) (held : d.at? p = some v) (leaf : v.IsLeaf) :
    (d.mapLeaves f).at? p = some (f p v) := by
  obtain ⟨k, ks⟩ := p
  induction ks generalizing k d f with
  | nil =>
    rw [at?_single] at held ⊢
    rw [get?_mapLeaves, held, Option.map_some, Value.mapLeaves_leaf leaf]
  | cons j js ih =>
    rw [at?_cons] at held ⊢
    rw [child_mapLeaves keeps, ih (keeps.below k) _ held]
    rfl

theorem at?_mapLeaves_object (keeps : KeepsLeaves f) (held : d.at? p = some (.object c)) :
    ∃ c', (d.mapLeaves f).at? p = some (.object c') := by
  obtain ⟨k, ks⟩ := p
  induction ks generalizing k d f with
  | nil =>
    rw [at?_single] at held ⊢
    exact ⟨_, by rw [get?_mapLeaves, held]; rfl⟩
  | cons j js ih =>
    rw [at?_cons] at held ⊢
    rw [child_mapLeaves keeps]
    exact ih (keeps.below k) _ held

theorem at?_mapLeaves_none (keeps : KeepsLeaves f) (absent : d.at? p = none) :
    (d.mapLeaves f).at? p = none := by
  obtain ⟨k, ks⟩ := p
  induction ks generalizing k d f with
  | nil =>
    rw [at?_single] at absent ⊢
    rw [get?_mapLeaves, absent]
    rfl
  | cons j js ih =>
    rw [at?_cons] at absent ⊢
    rw [child_mapLeaves keeps]
    exact ih (keeps.below k) _ absent

-- ---------------------------------------------------------------------------
-- Documents with distinct keys
-- ---------------------------------------------------------------------------

theorem nodup_of_distinct (distinct : (Value.object d).Distinct) : (d.map Prod.fst).Nodup := by
  cases distinct with
  | leaf leaf => exact absurd rfl (leaf d)
  | object nodup _ => exact nodup

theorem distinct_of_mem (distinct : (Value.object d).Distinct) (mem : (k, v) ∈ d) :
    v.Distinct := by
  cases distinct with
  | leaf leaf => exact absurd rfl (leaf d)
  | object _ members => exact members k v mem

/-- Two functions that agree on the leaves that a document has. -/
theorem mapLeaves_congr (distinct : (Value.object d).Distinct)
    (same : ∀ p v, d.at? p = some v → v.IsLeaf → f p v = g p v) :
    d.mapLeaves f = d.mapLeaves g := by
  induction d, distinct using Value.Distinct.induction generalizing f g with
  | object d nodup members ih =>
    rw [mapLeaves_eq_map, mapLeaves_eq_map]
    refine List.map_congr_left ?_
    rintro ⟨k, v⟩ mem
    have held := get?_of_mem nodup mem
    rcases v.leaf_or_object with leaf | ⟨c, rfl⟩
    · rw [Value.mapLeaves_leaf leaf, Value.mapLeaves_leaf leaf, same ⟨k, []⟩ v held leaf]
    · have inner : Fields.mapLeaves (fun q => f (⟨k, []⟩ ++ q)) c
          = Fields.mapLeaves (fun q => g (⟨k, []⟩ ++ q)) c := by
        refine ih k c mem fun p v found leaf => same _ v ?_ leaf
        rw [← child_of_object held] at found
        exact at?_cons.trans found
      simp only [Value.mapLeaves, inner]

theorem mapLeaves_mapLeaves (distinct : (Value.object d).Distinct) (keeps : KeepsLeaves f) :
    (d.mapLeaves f).mapLeaves g = d.mapLeaves fun p v => g p (f p v) := by
  induction d, distinct using Value.Distinct.induction generalizing f g with
  | object d nodup members ih =>
    rw [mapLeaves_eq_map, mapLeaves_eq_map, mapLeaves_eq_map, List.map_map]
    refine List.map_congr_left ?_
    rintro ⟨k, v⟩ mem
    simp only [Function.comp_apply]
    rcases v.leaf_or_object with leaf | ⟨c, rfl⟩
    · rw [Value.mapLeaves_leaf leaf, Value.mapLeaves_leaf leaf,
        Value.mapLeaves_leaf (keeps _ _ leaf)]
    · have inner := ih k c mem (g := fun q => g (⟨k, []⟩ ++ q)) (keeps.below k)
      simp only [Value.mapLeaves, inner]

theorem distinct_mapLeaves (distinct : (Value.object d).Distinct) (keeps : KeepsLeaves f) :
    (Value.object (d.mapLeaves f)).Distinct := by
  induction d, distinct using Value.Distinct.induction generalizing f with
  | object d nodup members ih =>
    refine .object (by rwa [map_fst_mapLeaves]) fun k w mem => ?_
    rw [mapLeaves_eq_map] at mem
    obtain ⟨⟨j, v⟩, found, same⟩ := List.mem_map.mp mem
    cases same
    rcases v.leaf_or_object with leaf | ⟨c, rfl⟩
    · exact .leaf (Value.mapLeaves_leaf leaf f j ▸ keeps _ _ leaf)
    · exact ih j c found (keeps.below j)

theorem mapLeaves_value_eq_self (distinct : v.Distinct) (same : ∀ p u, p.head = k → f p u = u) :
    v.mapLeaves f k = v := by
  induction distinct generalizing f k with
  | leaf leaf => rw [Value.mapLeaves_leaf leaf, same _ _ rfl]
  | object nodup members ih =>
    rw [Value.mapLeaves, mapLeaves_eq_map]
    refine congrArg Value.object ((List.map_congr_left ?_).trans (List.map_id' _))
    rintro ⟨j, u⟩ mem
    exact congrArg (Prod.mk j) (ih j u mem fun p u _ => same _ u rfl)

theorem mapLeaves_eq_self (distinct : (Value.object d).Distinct) (same : ∀ p u, f p u = u) :
    d.mapLeaves f = d := by
  rw [mapLeaves_eq_map]
  refine (List.map_congr_left ?_).trans (List.map_id' _)
  rintro ⟨k, v⟩ mem
  exact congrArg (Prod.mk k)
    (mapLeaves_value_eq_self (distinct_of_mem distinct mem) fun p u _ => same p u)

theorem under_eq_iff {q : Path} : (⟨k, []⟩ : Path) ++ q = ⟨k, j :: js⟩ ↔ q = ⟨j, js⟩ := by
  obtain ⟨i, is⟩ := q
  show (⟨k, i :: is⟩ : Path) = ⟨k, j :: js⟩ ↔ _
  simp

/-- Setting a path that ends in a leaf. -/
theorem set_eq_mapLeaves (distinct : (Value.object d).Distinct) (held : d.at? p = some v)
    (leaf : v.IsLeaf) (w : Value) :
    d.set p w = d.mapLeaves fun q u => if q = p then w else u := by
  obtain ⟨k, ks⟩ := p
  induction ks generalizing k d with
  | nil =>
    rw [at?_single] at held
    rw [set_single, insert_eq_map (nodup_of_distinct distinct) held, mapLeaves_eq_map]
    refine List.map_congr_left ?_
    rintro ⟨i, u⟩ mem
    by_cases same : i = k
    · subst same
      obtain rfl : u = v :=
        Option.some.inj ((get?_of_mem (nodup_of_distinct distinct) mem).symm.trans held)
      simp [Value.mapLeaves_leaf leaf]
    · simp only [same, if_false]
      rw [mapLeaves_value_eq_self (distinct_of_mem distinct mem)]
      rintro q u rfl
      exact if_neg fun h => same (congrArg Path.head h)
  | cons j js ih =>
    have object := get?_of_at?_cons held
    rw [at?_cons] at held
    have inner := ih (distinct_of_mem distinct (mem_of_get? object)) j held
    rw [set_cons, insert_eq_map (nodup_of_distinct distinct) object, mapLeaves_eq_map]
    refine List.map_congr_left ?_
    rintro ⟨i, u⟩ mem
    by_cases same : i = k
    · subst same
      obtain rfl : u = .object (child d i) :=
        Option.some.inj ((get?_of_mem (nodup_of_distinct distinct) mem).symm.trans object)
      simp only [if_true, Value.mapLeaves, under_eq_iff, inner]
    · simp only [same, if_false]
      rw [mapLeaves_value_eq_self (distinct_of_mem distinct mem)]
      rintro q u rfl
      exact if_neg fun h => same (congrArg Path.head h)

end Fields

end DocStore
