import DocStore.Value.Path

/-!
# Keys of an object

Whatever is written into an object or taken out of it, each key comes up once.
-/

namespace DocStore.Fields

variable {fields : Fields} {k : String} {v : Value}

/-- No key comes up twice at the top. -/
def HasKeysOnce (fields : Fields) : Prop := (fields.map Prod.fst).Nodup

theorem mem_insert (mem : e ∈ fields.insert k v) : e = (k, v) ∨ e ∈ fields := by
  induction fields with
  | nil => simpa [insert] using mem
  | cons first rest ih =>
    simp only [insert] at mem
    split at mem
    · rename_i same
      rcases List.mem_cons.mp mem with rfl | later
      · exact .inl (by rw [beq_iff_eq.mp same])
      · exact .inr (.tail _ later)
    · rcases List.mem_cons.mp mem with same | later
      · exact .inr (same ▸ .head _)
      · exact (ih later).imp_right (.tail _)

theorem HasKeysOnce.insert (once : fields.HasKeysOnce) (k : String) (v : Value) :
    (fields.insert k v).HasKeysOnce := by
  induction fields with
  | nil => simp [HasKeysOnce, Fields.insert]
  | cons first rest ih =>
    obtain ⟨fresh, nodup⟩ := List.nodup_cons.mp once
    simp only [Fields.insert]
    split
    · exact List.nodup_cons.mpr ⟨fresh, nodup⟩
    · rename_i other
      refine List.nodup_cons.mpr ⟨fun mem => ?_, ih nodup⟩
      obtain ⟨e, held, key⟩ := List.mem_map.mp mem
      rcases mem_insert held with rfl | held
      · exact other (by simpa using key.symm)
      · exact fresh (key ▸ List.mem_map_of_mem held)

theorem HasKeysOnce.erase (once : fields.HasKeysOnce) (k : String) :
    (fields.erase k).HasKeysOnce :=
  once.sublist (List.filter_sublist.map Prod.fst)

theorem HasKeysOnce.set (once : fields.HasKeysOnce) (p : Path) (v : Value) :
    (fields.set p v).HasKeysOnce := by
  obtain ⟨k, rest⟩ := p
  cases rest with
  | nil => exact once.insert k v
  | cons j js => exact once.insert k _

theorem HasKeysOnce.remove (once : fields.HasKeysOnce) (p : Path) :
    (fields.remove p).HasKeysOnce := by
  obtain ⟨k, rest⟩ := p
  cases rest with
  | nil => exact once.erase k
  | cons j js =>
    simp only [Fields.remove, detach, detachAt]
    split
    · exact once.insert k _
    · exact once

end DocStore.Fields
