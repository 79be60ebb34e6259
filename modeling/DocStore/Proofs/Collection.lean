import DocStore.Collection

/-!
# Laws of collections

Storing and removing a document writes the slot of its id and no other. The order of the ids only
ever grows at its end.
-/

namespace DocStore.Collection

variable {c : Collection} {id k other : String} {doc d : Fields}

/-- What the slot of an id holds: nothing at all before the id came up, then a document or none. -/
def slot? (c : Collection) (id : String) : Option (Option Fields) := c.slots.lookup id

theorem find?_eq_join (c : Collection) (id : String) : c.find? id = (c.slot? id).join := rfl

theorem contains_iff : c.contains id = true ↔ ∃ doc, c.slot? id = some (some doc) := by
  simp only [contains, find?_eq_join]
  rcases c.slot? id with _ | _ | doc <;> simp

-- ---------------------------------------------------------------------------
-- One slot
-- ---------------------------------------------------------------------------

theorem lookup_writeSlot (id other : String) (content : Option Fields)
    (slots : List (String × Option Fields)) :
    (writeSlot id content slots).lookup other =
      if other = id then some content else slots.lookup other := by
  induction slots with
  | nil =>
    by_cases h : other = id
    · simp [writeSlot, h]
    · simp [writeSlot, h]
  | cons entry rest ih =>
    obtain ⟨k, old⟩ := entry
    by_cases hk : k = id
    · subst hk
      by_cases h : other = k
      · simp [writeSlot, h]
      · simp [writeSlot, h, List.lookup_cons, beq_eq_false_iff_ne.mpr h]
    · by_cases h : other = k
      · subst h
        simp [writeSlot, hk]
      · simp [writeSlot, hk, List.lookup_cons, beq_eq_false_iff_ne.mpr h, ih]

theorem map_fst_writeSlot (id : String) (content : Option Fields)
    (slots : List (String × Option Fields)) :
    (writeSlot id content slots).map Prod.fst =
      if id ∈ slots.map Prod.fst then slots.map Prod.fst else slots.map Prod.fst ++ [id] := by
  induction slots with
  | nil => simp [writeSlot]
  | cons entry rest ih =>
    obtain ⟨k, old⟩ := entry
    by_cases hk : k = id
    · simp [writeSlot, hk]
    · simp only [writeSlot, beq_iff_eq, hk, if_false, List.map_cons, ih, List.mem_cons,
        Ne.symm hk, false_or]
      split <;> rfl

theorem mem_writeSlot {held : Option Fields} {rest : List (String × Option Fields)}
    (h : (k, held) ∈ writeSlot id content rest) : (k, held) ∈ rest ∨ (k = id ∧ held = content) := by
  induction rest with
  | nil => simpa [writeSlot] using h
  | cons entry rest ih =>
    obtain ⟨k', old⟩ := entry
    simp only [writeSlot] at h
    split at h
    · rename_i same
      rcases List.mem_cons.mp h with h | h
      · simp_all
      · exact .inl (List.mem_cons_of_mem _ h)
    · rcases List.mem_cons.mp h with h | h
      · exact .inl (h ▸ List.mem_cons_self)
      · exact (ih h).imp_left (List.mem_cons_of_mem _)

/-- A slot that is written twice holds what was written last. -/
theorem writeSlot_writeSlot (id : String) (early content : Option Fields)
    (slots : List (String × Option Fields)) :
    writeSlot id content (writeSlot id early slots) = writeSlot id content slots := by
  induction slots with
  | nil => simp [writeSlot]
  | cons entry rest ih =>
    obtain ⟨k, old⟩ := entry
    by_cases own : k = id
    · simp [writeSlot, own]
    · simp [writeSlot, own, ih]

-- ---------------------------------------------------------------------------
-- Storing
-- ---------------------------------------------------------------------------

@[simp] theorem slot?_put_self : (put c id doc).slot? id = some (some doc) := by
  simp [slot?, put, lookup_writeSlot]

theorem slot?_put_of_ne (h : other ≠ id) : (put c id doc).slot? other = c.slot? other := by
  simp [slot?, put, lookup_writeSlot, h]

theorem order_put : (put c id doc).order = if id ∈ c.order then c.order else c.order ++ [id] :=
  map_fst_writeSlot ..

theorem find?_put_self : (put c id doc).find? id = some doc := by
  rw [find?_eq_join, slot?_put_self, Option.join_some]

theorem contains_put_self : (put c id doc).contains id = true :=
  contains_iff.mpr ⟨doc, slot?_put_self⟩

theorem put_put (c : Collection) (id : String) (early doc : Fields) :
    (c.put id early).put id doc = c.put id doc := by
  have used : (c.put id early).contains id = true := contains_put_self
  unfold put at used ⊢
  rw [if_pos used, writeSlot_writeSlot]

theorem mem_slots_put (h : (k, some d) ∈ (put c id doc).slots) :
    (k, some d) ∈ c.slots ∨ (k = id ∧ d = doc) :=
  (mem_writeSlot h).imp_right fun ⟨hk, hd⟩ => ⟨hk, Option.some.inj hd⟩

-- ---------------------------------------------------------------------------
-- Removing
-- ---------------------------------------------------------------------------

theorem slot?_erase_self (h : c.contains id = true) : (erase c id).slot? id = some none := by
  simp [slot?, erase, h, lookup_writeSlot]

theorem slot?_erase_of_ne (h : other ≠ id) : (erase c id).slot? other = c.slot? other := by
  simp only [erase]
  split
  · simp [slot?, lookup_writeSlot, h]
  · rfl

theorem mem_order (h : c.contains id = true) : id ∈ c.order := by
  obtain ⟨doc, hdoc⟩ := contains_iff.mp h
  obtain ⟨pre, post, hslots, -⟩ := List.lookup_eq_some_iff.mp hdoc
  simp [order, hslots]

@[simp] theorem order_erase : (erase c id).order = c.order := by
  simp only [erase]
  split
  · rename_i h
    exact (map_fst_writeSlot ..).trans (if_pos (mem_order h))
  · rfl

theorem mem_slots_erase (h : (k, some d) ∈ (erase c id).slots) : (k, some d) ∈ c.slots := by
  simp only [erase] at h
  split at h
  · exact (mem_writeSlot h).resolve_right (by simp)
  · exact h

theorem mem_live : doc ∈ c.live ↔ ∃ id, (id, some doc) ∈ c.slots := by
  simp [live]

theorem mem_slots_of_find? (h : c.find? id = some doc) : (id, some doc) ∈ c.slots := by
  obtain ⟨pre, post, hslots, -⟩ := List.lookup_eq_some_iff.mp (Option.join_eq_some_iff.mp h)
  simp [hslots]

theorem mem_live_of_find? (h : c.find? id = some doc) : doc ∈ c.live :=
  mem_live.mpr ⟨id, mem_slots_of_find? h⟩

-- ---------------------------------------------------------------------------
-- Counting
-- ---------------------------------------------------------------------------

theorem length_live (c : Collection) : c.live.length = c.slots.countP (·.2.isSome) := by
  rw [live, List.length_filterMap_eq_countP]

theorem countP_writeSlot (id : String) (content : Option Fields)
    (slots : List (String × Option Fields)) :
    (writeSlot id content slots).countP (·.2.isSome) + (slots.lookup id).join.isSome.toNat =
      slots.countP (·.2.isSome) + content.isSome.toNat := by
  induction slots with
  | nil => cases content <;> simp [writeSlot]
  | cons entry rest ih =>
    obtain ⟨k, old⟩ := entry
    by_cases same : k = id
    · subst same
      cases old <;> cases content <;> simp [writeSlot]
    · simp only [writeSlot, beq_iff_eq, same, if_false, List.countP_cons, List.lookup_cons,
        beq_eq_false_iff_ne.mpr (Ne.symm same)]
      omega

/-- Every id has one slot, and the size is the number of documents. -/
structure Tidy (c : Collection) : Prop where
  nodup : c.order.Nodup
  size : c.size = c.live.length

theorem countP_write (c : Collection) (id : String) (content : Option Fields) :
    (writeSlot id content c.slots).countP (·.2.isSome) + (c.contains id).toNat =
      c.live.length + content.isSome.toNat := by
  rw [length_live]
  exact countP_writeSlot id content c.slots

theorem Tidy.put (tidy : c.Tidy) (id : String) (doc : Fields) : (put c id doc).Tidy := by
  refine ⟨?_, ?_⟩
  · rw [order_put]
    split
    · exact tidy.nodup
    · rename_i fresh
      refine List.nodup_append.mpr ⟨tidy.nodup, by simp, ?_⟩
      rintro k mem _ last rfl
      exact fresh (List.mem_singleton.mp last ▸ mem)
  · have count := c.countP_write id (some doc)
    rw [length_live]
    simp only [Collection.put, tidy.size]
    cases used : c.contains id <;> simp [used] at count ⊢ <;> omega

theorem Tidy.erase (tidy : c.Tidy) (id : String) : (erase c id).Tidy := by
  cases used : c.contains id with
  | false => simpa [Collection.erase, used] using tidy
  | true =>
    refine ⟨by rw [order_erase]; exact tidy.nodup, ?_⟩
    have count := c.countP_write id none
    rw [length_live]
    simp only [Collection.erase, used, if_true, tidy.size]
    simp [used] at count
    omega

/-- The ids and the documents that are there. -/
def entries (c : Collection) : List (String × Fields) :=
  c.slots.filterMap fun e => e.2.map (e.1, ·)

theorem mem_entries : (id, doc) ∈ c.entries ↔ (id, some doc) ∈ c.slots := by
  simp only [entries, List.mem_filterMap, Option.map_eq_some_iff, Prod.mk.injEq]
  constructor
  · rintro ⟨⟨k, held⟩, mem, d, rfl, rfl, rfl⟩
    exact mem
  · exact fun mem => ⟨_, mem, doc, rfl, rfl, rfl⟩

theorem live_eq_map (c : Collection) : c.live = c.entries.map Prod.snd := by
  rw [live, entries, List.map_filterMap]
  refine congrArg (List.filterMap · c.slots) (funext fun e => ?_)
  cases e.2 <;> rfl

theorem Tidy.nodup_entries (tidy : c.Tidy) : (c.entries.map Prod.fst).Nodup := by
  have sub : ∀ slots : List (String × Option Fields),
      ((slots.filterMap fun e => e.2.map (e.1, ·)).map Prod.fst).Sublist (slots.map Prod.fst) := by
    intro slots
    induction slots with
    | nil => exact .slnil
    | cons e rest ih =>
      obtain ⟨k, _ | d⟩ := e
      · exact ih.cons k
      · exact ih.cons_cons k
  exact tidy.nodup.sublist (sub c.slots)

theorem put_of_fresh (fresh : id ∉ c.order) (doc : Fields) :
    put c id doc = { slots := c.slots ++ [(id, some doc)], size := c.size + 1 } := by
  have unused : c.contains id = false := Bool.eq_false_iff.mpr (mt mem_order fresh)
  have last : ∀ slots : List (String × Option Fields), id ∉ slots.map Prod.fst →
      writeSlot id (some doc) slots = slots ++ [(id, some doc)] := by
    intro slots fresh
    induction slots with
    | nil => rfl
    | cons e rest ih =>
      obtain ⟨k, old⟩ := e
      simp only [List.map_cons, List.mem_cons, not_or] at fresh
      simp [writeSlot, Ne.symm fresh.1, ih fresh.2]
  simp [put, unused, last c.slots fresh]

end DocStore.Collection
