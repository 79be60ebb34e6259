import DocStore.Proofs.FieldType.Validate
import DocStore.Proofs.Schema.Alike
import DocStore.Schema.Mutation

/-!
# Mutations

A mutation writes its own path and, if it renames the field there, one more. What it writes depends
on what it finds at its own path and on nothing else in the document.
-/

namespace DocStore

namespace Mutation

/-- The paths that a mutation writes. -/
def targets : Mutation → List Path
  | .set path _ => [path]
  | .operator path _ .rename (.string target) => [path, Path.ofText target]
  | .operator path .. => [path]

variable {mutation : Mutation} {mutations first second : List Mutation} {a a' b : Fields}

theorem path_mem_targets : path ∈ (operator path type op operand).targets := by
  unfold targets
  split <;> simp_all

/-- An operator leaves the document around its field as it is, unless it renames the field; and what
it does, it does to any document with the same value. -/
theorem update_eq_ok (h : FieldType.update path type op v operand a = .ok (w, a')) :
    (a' = a ∧ ∀ b, FieldType.update path type op v operand b = .ok (w, b)) ∨
    ∃ target, (op = .rename ∧ operand = .string target) ∧ a' = a.set (Path.ofText target) v ∧
      ∀ b, FieldType.update path type op v operand b
        = .ok (w, b.set (Path.ofText target) v) := by
  by_cases supported : type.supportsUpdate op = true
  · simp only [FieldType.update, supported, if_true] at h ⊢
    cases op with
    | rename =>
      cases operand with
      | string target =>
        obtain ⟨rfl, rfl⟩ := Prod.mk.inj (Except.ok.inj h)
        cases v.isNull with
        | true => exact .inl ⟨rfl, fun _ => rfl⟩
        | false => exact .inr ⟨target, ⟨rfl, rfl⟩, rfl, fun _ => rfl⟩
      | _ => cases h
    | set | unset =>
      obtain ⟨rfl, rfl⟩ := Prod.mk.inj (Except.ok.inj h)
      exact .inl ⟨rfl, fun _ => rfl⟩
    | _ =>
      cases type with
      | array child options =>
        obtain ⟨rfl, rfl⟩ := Prod.mk.inj (Except.ok.inj h)
        exact .inl ⟨rfl, fun _ => rfl⟩
      | leaf kind options =>
        cases kind with
        | _ =>
          obtain ⟨_, computed, same⟩ := map_eq_ok.mp h
          obtain ⟨rfl, rfl⟩ := Prod.mk.inj same
          exact .inl ⟨rfl, fun _ => map_eq_ok.mpr ⟨_, computed, rfl⟩⟩
  · simp only [FieldType.update, supported] at h ⊢
    obtain ⟨rfl, rfl⟩ := Prod.mk.inj (Except.ok.inj h)
    exact .inl ⟨rfl, fun _ => rfl⟩

/-- Where a relation of documents gives them the same values at the targets and outlives the same
writes, it outlives a mutation. -/
theorem apply_both {P : Fields → Fields → Prop}
    (agree : ∀ t ∈ mutation.targets, ∀ a b, P a b → a.atD t = b.atD t)
    (set : ∀ t ∈ mutation.targets, ∀ v a b, P a b → P (a.set t v) (b.set t v))
    (remove : ∀ t ∈ mutation.targets, ∀ a b, P a b → P (a.remove t) (b.remove t))
    (h : mutation.apply a = .ok a') (start : P a b) : ∃ b', mutation.apply b = .ok b' ∧ P a' b' := by
  cases mutation with
  | set path v =>
    obtain rfl := Except.ok.inj h
    exact ⟨_, rfl, set path (List.mem_singleton.mpr rfl) v a b start⟩
  | operator path type op operand =>
    obtain ⟨⟨w, around⟩, updated, done⟩ := bind_eq_ok.mp h
    obtain rfl := Except.ok.inj done
    have own : path ∈ (operator path type op operand).targets := path_mem_targets
    have follows : ∃ around', FieldType.update path type op (b.atD path) operand b
        = .ok (w, around') ∧ P around around' := by
      rw [← agree path own a b start]
      rcases update_eq_ok updated with ⟨rfl, same⟩ | ⟨target, ⟨rfl, rfl⟩, rfl, same⟩
      · exact ⟨b, same b, start⟩
      · exact ⟨_, same b, set _ (by simp [targets]) _ a b start⟩
    obtain ⟨around', updated', start⟩ := follows
    refine ⟨_, bind_eq_ok.mpr ⟨_, updated', rfl⟩, ?_⟩
    split
    · exact remove path own _ _ start
    · exact set path own w _ _ start

theorem applyAll_both {P : Fields → Fields → Prop}
    (agree : ∀ t ∈ mutations.flatMap targets, ∀ a b, P a b → a.atD t = b.atD t)
    (set : ∀ t ∈ mutations.flatMap targets, ∀ v a b, P a b → P (a.set t v) (b.set t v))
    (remove : ∀ t ∈ mutations.flatMap targets, ∀ a b, P a b → P (a.remove t) (b.remove t))
    (h : applyAll mutations a = (.ok (), a')) (start : P a b) :
    ∃ b', applyAll mutations b = (.ok (), b') ∧ P a' b' := by
  induction mutations generalizing a b with
  | nil =>
    obtain ⟨-, rfl⟩ := Prod.mk.inj h
    exact ⟨b, rfl, start⟩
  | cons mutation rest ih =>
    simp only [List.flatMap_cons, List.forall_mem_append] at agree set remove
    simp only [applyAll] at h
    split at h
    · rename_i next step
      obtain ⟨next', step', between⟩ := apply_both agree.1 set.1 remove.1 step start
      simp only [applyAll, step']
      exact ih agree.2 set.2 remove.2 h between
    · simp at h

/-- What the writes of mutations preserve, the mutations preserve. -/
theorem applyAll_preserves {P : Fields → Prop}
    (set : ∀ t ∈ mutations.flatMap targets, ∀ v doc, P doc → P (doc.set t v))
    (remove : ∀ t ∈ mutations.flatMap targets, ∀ doc, P doc → P (doc.remove t))
    (h : applyAll mutations a = (.ok (), a')) (start : P a) : P a' := by
  -- the document keeps pace with itself
  obtain ⟨b', -, -, preserved⟩ := applyAll_both (P := fun a b => a = b ∧ P a)
    (fun t _ a b same => congrArg (Fields.atD · t) same.1)
    (fun t mem v a b same => ⟨congrArg (Fields.set · t v) same.1, set t mem v a same.2⟩)
    (fun t mem a b same => ⟨congrArg (Fields.remove · t) same.1, remove t mem a same.2⟩)
    h ⟨rfl, start⟩
  exact preserved

end Mutation

end DocStore
