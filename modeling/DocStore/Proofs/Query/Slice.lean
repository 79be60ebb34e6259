import DocStore.Query

/-!
# Positions and slices

A signed position stands for a place in the list of items, or for one before or after it. A slice is
cut between places that were moved into the list; a single item is there only if its place is.
-/

namespace DocStore.Query

variable {α : Type}

/-- The place of a position: negative ones count from the back. -/
def place (length : Nat) (index : Int) : Int := if index < 0 then length + index else index

/-- The place, or the end of the list that is next to it. -/
def placeWithin (length : Nat) (index : Int) : Int := max 0 (min (place length index) length)

/-- Where a slice stops. Without a position that is the end of the list. -/
def stopWithin (length : Nat) (stop : Option Int) : Int := stop.elim length (placeWithin length)

-- ---------------------------------------------------------------------------
-- Bounds
-- ---------------------------------------------------------------------------

theorem bound_eq (length : Nat) (index : Int) :
    (bound length index : Int) = placeWithin length index := by
  simp only [bound, placeWithin, place]
  split <;> omega

theorem bound_le (length : Nat) (index : Int) : bound length index ≤ length := by
  have within := bound_eq length index
  simp only [placeWithin] at within
  omega

theorem bound_zero (length : Nat) : bound length 0 = 0 := by simp [bound]

/-- A slice is cut between numbers of items that do not exceed the length of the list. -/
theorem exists_items_slice (q : Query α) (start : Int) (stop : Option Int) :
    ∃ n ≤ q.items.length, ∃ m ≤ q.items.length,
      (n : Int) = placeWithin q.items.length start ∧ (m : Int) = stopWithin q.items.length stop ∧
        (q.slice start stop).items = (q.items.take m).drop n := by
  refine ⟨_, bound_le _ start, ?_⟩
  cases stop with
  | none => exact ⟨_, Nat.le_refl _, bound_eq _ start, rfl, rfl⟩
  | some stop => exact ⟨_, bound_le _ stop, bound_eq _ start, bound_eq _ stop, rfl⟩

-- ---------------------------------------------------------------------------
-- Items by their places
-- ---------------------------------------------------------------------------

theorem filter_zipIdx_lt (items : List α) (first n : Nat) :
    (items.zipIdx first).filter (fun p => p.2 < first + n) = (items.take n).zipIdx first := by
  induction items generalizing first n with
  | nil => simp
  | cons item rest ih =>
    cases n with
    | zero =>
      refine List.filter_eq_nil_iff.mpr fun p mem => ?_
      have := List.le_snd_of_mem_zipIdx mem
      simp only [decide_eq_true_eq]
      omega
    | succ n =>
      have later := ih (first + 1) n
      simp only [Nat.add_assoc, Nat.add_comm 1 n] at later
      simp [List.zipIdx_cons, later]

theorem filter_zipIdx_le (items : List α) (first n : Nat) :
    (items.zipIdx first).filter (fun p => first + n ≤ p.2) = (items.drop n).zipIdx (first + n) := by
  induction items generalizing first n with
  | nil => simp
  | cons item rest ih =>
    cases n with
    | zero =>
      refine List.filter_eq_self.mpr fun p mem => ?_
      simpa using List.le_snd_of_mem_zipIdx mem
    | succ n =>
      have later := ih (first + 1) n
      simp only [Nat.add_assoc, Nat.add_comm 1 n] at later
      simp [List.zipIdx_cons, later]

/-- What is cut out between two numbers of items, by the places of the items. -/
theorem map_fst_filter_zipIdx (items : List α) (n m : Nat) :
    (items.zipIdx.filter fun p => n ≤ p.2 ∧ p.2 < m).map Prod.fst = (items.take m).drop n := by
  have upTo := filter_zipIdx_lt items 0 m
  have onwards := filter_zipIdx_le (items.take m) 0 n
  simp only [Nat.zero_add] at upTo onwards
  simp only [Bool.decide_and, ← List.filter_filter, upTo, onwards, List.zipIdx_map_fst]

-- ---------------------------------------------------------------------------
-- Slices and single items
-- ---------------------------------------------------------------------------

theorem items_slice (q : Query α) (start : Int) (stop : Option Int) :
    (q.slice start stop).items =
      (q.items.zipIdx.filter fun p => placeWithin q.items.length start ≤ p.2 ∧
        p.2 < stopWithin q.items.length stop).map Prod.fst := by
  obtain ⟨n, -, m, -, first, last, cut⟩ := q.exists_items_slice start stop
  rw [cut, ← first, ← last, ← map_fst_filter_zipIdx]
  simp only [Int.ofNat_le, Int.ofNat_lt]

theorem items_slice_append (q : Query α) (k : Int) :
    (q.slice 0 (some k)).items ++ (q.slice k none).items = q.items := by
  change (q.items.take (bound q.items.length k)).drop (bound q.items.length 0) ++
    (q.items.take q.items.length).drop (bound q.items.length k) = q.items
  rw [bound_zero, List.drop_zero, List.take_length, List.take_append_drop]

/-- The item at a position inside the list is the one at its place. -/
theorem get?_of_inside {q : Query α} {index : Int} (low : -q.items.length ≤ index)
    (high : index < q.items.length) :
    q.get? index = q.items[bound q.items.length index]? := by
  simp only [get?, bound]
  split
  · rw [if_pos (by omega)]
  · rw [Nat.min_eq_left (by omega)]

theorem get?_of_outside {q : Query α} {index : Int}
    (outside : ¬ (-q.items.length ≤ index ∧ index < q.items.length)) : q.get? index = none := by
  simp only [get?]
  split
  · rw [if_neg (by omega)]
  · exact List.getElem?_eq_none (by omega)

theorem bound_lt {length : Nat} {index : Int} (low : -length ≤ index) (high : index < length) :
    bound length index < length := by
  have within := bound_eq length index
  simp only [placeWithin, place] at within
  split at within <;> omega

theorem isSome_get?_iff (q : Query α) (index : Int) :
    (q.get? index).isSome = true ↔ -q.items.length ≤ index ∧ index < q.items.length := by
  by_cases inside : -q.items.length ≤ index ∧ index < q.items.length
  · rw [get?_of_inside inside.1 inside.2, List.getElem?_eq_getElem (bound_lt inside.1 inside.2)]
    simp [inside]
  · simp [get?_of_outside inside, inside]

/-- The item at a position is the first one of the slice from there on. -/
theorem get?_eq_first? (q : Query α) (index : Int) :
    q.get? index =
      if -q.items.length ≤ index ∧ index < q.items.length then (q.slice index none).first?
      else none := by
  split
  · rename_i inside
    have cut : (q.slice index none).items = q.items.drop (bound q.items.length index) :=
      congrArg (List.drop _) List.take_length
    rw [first?, cut, List.head?_drop, get?_of_inside inside.1 inside.2]
  · exact get?_of_outside (by assumption)

/-- Two slices at one position make up the list. A slice is cut inside the list and has the items
whose places lie between those of its positions. An item is at a position exactly if that is inside
the list; then it is the first one of the slice from there on. -/
theorem slice_partition (q : Query α) (k start index : Int) (stop : Option Int) :
    (q.slice 0 (some k)).items ++ (q.slice k none).items = q.items ∧
    (∃ n ≤ q.items.length, ∃ m ≤ q.items.length,
      (n : Int) = placeWithin q.items.length start ∧ (m : Int) = stopWithin q.items.length stop ∧
        (q.slice start stop).items = (q.items.take m).drop n) ∧
    (q.slice start stop).items =
      (q.items.zipIdx.filter fun p => placeWithin q.items.length start ≤ p.2 ∧
        p.2 < stopWithin q.items.length stop).map Prod.fst ∧
    ((q.get? index).isSome = true ↔ -q.items.length ≤ index ∧ index < q.items.length) ∧
    q.get? index =
      if -q.items.length ≤ index ∧ index < q.items.length then (q.slice index none).first?
      else none :=
  ⟨q.items_slice_append k, q.exists_items_slice start stop, q.items_slice start stop,
    q.isSome_get?_iff index, q.get?_eq_first? index⟩

end DocStore.Query
