import DocStore.Proofs.Schema.Pass

/-!
# Passes of a schema with virtual fields

Each step of checking leaves the field of its own path as it should be. Whether it still is at the
end is up to the steps after it: a setter may write anywhere, also into fields that were checked
before, and nobody looks at those again.
-/

namespace DocStore

def FieldType.IsEnumeration : FieldType → Prop
  | .leaf (.enumeration _) _ => True
  | _ => False

namespace Schema

open FieldType

/-- A virtual field holds nothing, any other one is absent or holds what its type takes. -/
def Sound (entry : Path × FieldType) (doc : Fields) : Prop :=
  if entry.2.isVirtual then doc.at? entry.1 = none
  else entry.2.Accepts entry.1 (doc.atD entry.1)

/-- The step of a path may change the field of another one: it runs setters, or it removes a member
from an object that is listed as a whole. -/
def Touches (later earlier : Path × FieldType) : Prop :=
  later.2.virtuals ≠ [] ∨ later.1.IsBelow earlier.1 ∧ earlier.2.IsEnumeration

/-- The step of a path does not spoil the field of another one. -/
def Spares (later earlier : Path × FieldType) : Prop :=
  ∀ doc out, Sound earlier doc → checkEntry later doc = (.ok (), out) → Sound earlier out

variable {entry earlier later : Path × FieldType} {entries : List (Path × FieldType)}
  {doc out : Fields}

-- ---------------------------------------------------------------------------
-- One step
-- ---------------------------------------------------------------------------

theorem atD_store : (store path v doc).atD path = v := by
  by_cases null : v = .null
  · rw [null]
    exact congrArg (Option.getD · .null) Fields.at?_remove_self
  · rw [store_of_ne_null null, Fields.atD_of_at? Fields.at?_set_self]

theorem checkEntry_sound (ok : checkEntry entry doc = (.ok (), out)) : Sound entry out := by
  obtain ⟨path, type⟩ := entry
  simp only [checkEntry] at ok
  split at ok
  · simp at ok
  · rename_i v doc' hv
    obtain ⟨-, rfl⟩ := Prod.mk.inj ok
    simp only [Sound, atD_store]
    split
    · rename_i isVirtual
      obtain ⟨field, options, rfl⟩ : ∃ field options, type = .leaf (.virtual field) options := by
        cases type with
        | array child options => simp [FieldType.isVirtual, virtual?] at isVirtual
        | leaf kind options =>
          cases kind <;> first
            | exact ⟨_, _, rfl⟩
            | simp [FieldType.isVirtual, virtual?] at isVirtual
      obtain ⟨verdict, rfl⟩ := Prod.mk.inj hv
      obtain rfl := Except.ok.inj verdict
      exact Fields.at?_remove_self
    · exact accepts_of_ok (congrArg Prod.fst hv)

theorem accepts_object_of (stored : entry.2.isVirtual = false) (unlisted : ¬ entry.2.IsEnumeration)
    (taken : entry.2.Accepts entry.1 (.object c)) (c' : Fields) :
    entry.2.Accepts entry.1 (.object c') := by
  obtain ⟨path, type⟩ := entry
  cases type with
  | array child options => simp [Accepts, validate] at taken
  | leaf kind options =>
    cases kind with
    | mixed | object => rfl
    | enumeration elements => exact absurd trivial unlisted
    | virtual field => simp [FieldType.isVirtual, virtual?] at stored
    | _ => simp [Accepts, validate, Value.isNull, Kind.fault?] at taken

/-- A step without setters spares every field but a listed object that it reaches into. -/
theorem spares_of_not_touches (apart : ¬ Touches later earlier) : Spares later earlier := by
  obtain ⟨stored, unlisted⟩ : later.2.virtuals = [] ∧
      (later.1.IsBelow earlier.1 → ¬ earlier.2.IsEnumeration) := by
    simpa [Touches] using apart
  intro doc out sound ok
  obtain ⟨-, ⟨rfl, -⟩ | ⟨rfl, null⟩⟩ := checkEntry_ok stored ok
  · exact sound
  simp only [Sound] at sound ⊢
  by_cases same : later.1 = earlier.1
  · rw [same] at null
    rw [Fields.atD_of_at? null, null] at sound
    obtain ⟨-, taken⟩ : earlier.2.isVirtual = false ∧ earlier.2.Accepts earlier.1 .null := by
      simpa using sound
    simpa [same, Fields.atD] using fun _ => taken
  rcases at?_remove_null null same with kept | ⟨below, c, c', before, after⟩
  · rwa [Fields.atD, kept]
  · rw [Fields.atD_of_at? before, before] at sound
    rw [Fields.atD_of_at? after]
    split at sound
    · simp at sound
    · rename_i stored
      rw [if_neg stored]
      exact accepts_object_of (by simpa using stored) (unlisted below) sound c'

theorem checkEntry_virtual (field : VirtualField) :
    checkEntry (path, .leaf (.virtual field) opts) doc =
      (.ok (), (field.assign (doc.atD path) doc).remove path) := rfl

/-- What a setter leaves alone, and what does not lie on the way to its field, stays. -/
theorem at?_checkEntry_virtual {field : VirtualField} (parts : Path.Parts path other)
    (frame : ∀ v doc, (field.assign v doc).at? other = doc.at? other)
    (ok : checkEntry (path, .leaf (.virtual field) opts) doc = (.ok (), out)) :
    out.at? other = doc.at? other := by
  rw [checkEntry_virtual] at ok
  obtain ⟨-, rfl⟩ := Prod.mk.inj ok
  rw [Fields.at?_remove_of_parts parts, frame]

theorem spares_of_frame {field : VirtualField} (parts : Path.Parts path earlier.1)
    (frame : ∀ v doc, (field.assign v doc).at? earlier.1 = doc.at? earlier.1) :
    Spares (path, .leaf (.virtual field) opts) earlier := by
  intro doc out sound ok
  have same := at?_checkEntry_virtual parts frame ok
  simpa only [Sound, Fields.atD, same] using sound

-- ---------------------------------------------------------------------------
-- A whole pass
-- ---------------------------------------------------------------------------

theorem checkEntries_sound
    (spares : entries.Pairwise fun earlier later => Touches later earlier → Spares later earlier)
    (ok : checkEntries entries doc = (.ok (), out)) : ∀ entry ∈ entries, Sound entry out := by
  induction entries generalizing doc with
  | nil => simp
  | cons first rest ih =>
    obtain ⟨next, step, ok⟩ := checkEntries_cons ok
    obtain ⟨sparesFirst, sparesRest⟩ := List.pairwise_cons.mp spares
    refine List.forall_mem_cons.mpr ⟨?_, ih sparesRest ok⟩
    refine checkEntries_induction (fun later mem doc out => ?_) ok (checkEntry_sound step)
    by_cases touches : Touches later first
    · exact sparesFirst later mem touches doc out
    · exact spares_of_not_touches touches doc out

end Schema

end DocStore
