import DocStore.FieldType.Validate
import Mathlib.Data.List.Forall2

/-!
# What validation gives

A type either takes a value as it is or refuses it at the path that was asked for. Only a virtual
field touches the document.
-/

namespace DocStore

-- ---------------------------------------------------------------------------
-- Results
-- ---------------------------------------------------------------------------

theorem bind_eq_ok {x : Except ε α} {f : α → Except ε β} :
    x >>= f = .ok b ↔ ∃ a, x = .ok a ∧ f a = .ok b := by
  cases x <;> simp [bind, Except.bind]

theorem bind_eq_error {x : Except ε α} {f : α → Except ε β} :
    x >>= f = .error e ↔ x = .error e ∨ ∃ a, x = .ok a ∧ f a = .error e := by
  cases x <;> simp [bind, Except.bind]

@[simp] theorem map_eq_ok {x : Except ε α} {f : α → β} :
    x.map f = .ok b ↔ ∃ a, x = .ok a ∧ f a = b := by
  cases x <;> simp [Except.map]

@[simp] theorem map_eq_error {x : Except ε α} {f : α → β} : x.map f = .error e ↔ x = .error e := by
  cases x <;> simp [Except.map]

theorem mapM_eq_ok_iff {f : α → Except ε β} {l : List α} {found : List β} :
    l.mapM f = .ok found ↔ List.Forall₂ (fun a b => f a = .ok b) l found := by
  induction l generalizing found with
  | nil => simp [pure, Except.pure, eq_comm]
  | cons a rest ih =>
    simp only [List.mapM_cons, bind_eq_ok, ih, List.forall₂_cons_left_iff, pure, Except.pure,
      Except.ok.injEq]
    constructor
    · rintro ⟨b, first, others, each, rfl⟩
      exact ⟨b, others, first, each, rfl⟩
    · rintro ⟨b, others, first, each, rfl⟩
      exact ⟨b, first, others, each, rfl⟩

theorem exists_mapM_eq_error_iff {f : α → Except ε β} {l : List α} :
    (∃ e, l.mapM f = .error e) ↔ ∃ a ∈ l, ∃ e, f a = .error e := by
  induction l with
  | nil => simp [pure, Except.pure]
  | cons a rest ih =>
    rw [List.exists_mem_cons_iff, ← ih]
    cases first : f a with
    | error e => simp [first, bind, Except.bind]
    | ok b => cases later : rest.mapM f <;> simp [first, later, bind, Except.bind, pure, Except.pure]

namespace FieldType

/-- The virtual fields that a value of the type may be assigned to. -/
def virtuals : FieldType → List VirtualField
  | .leaf (.virtual field) _ => [field]
  | .leaf _ _ => []
  | .array child _ => child.virtuals

theorem virtuals_leaf_eq_nil :
    virtuals (.leaf kind opts) = [] ↔ ∀ field, kind ≠ .virtual field := by
  cases kind <;> simp [virtuals]

theorem isVirtual_eq_false (h : virtuals type = []) : type.isVirtual = false := by
  cases type with
  | leaf kind options => cases kind <;> first | rfl | simp [virtuals] at h
  | array child options => rfl

-- ---------------------------------------------------------------------------
-- One type
-- ---------------------------------------------------------------------------

theorem validate_leaf (h : ∀ field, kind ≠ .virtual field) :
    validate path (.leaf kind opts) v doc =
      (if v.isNull then
          if opts.required then .error (.validation path .missing) else .ok .null
        else match kind.fault? v with
          | some fault => .error (.validation path fault)
          | none => .ok v, doc) := by
  cases kind with
  | virtual field => exact absurd rfl (h field)
  | _ => rfl

theorem validateItems_error
    (check : ∀ v doc, (f v doc).1 = .error e → ∃ fault, e = .validation path fault)
    (h : (validateItems f items doc).1 = .error e) : ∃ fault, e = .validation path fault := by
  induction items generalizing doc with
  | nil => simp [validateItems] at h
  | cons v rest ih =>
    cases hv : f v doc with
    | mk result doc' =>
      cases result with
      | error e' =>
        simp only [validateItems, hv, Except.error.injEq] at h
        exact check v doc (by rw [hv, h])
      | ok w =>
        simp only [validateItems, hv, map_eq_error] at h
        exact ih h

/-- What a type refuses, it refuses at the path that was asked for. -/
theorem validate_error (h : (validate path type v doc).1 = .error e) :
    ∃ fault, e = .validation path fault := by
  induction type generalizing v doc with
  | leaf kind options =>
    by_cases hk : ∃ field, kind = .virtual field
    · obtain ⟨field, rfl⟩ := hk
      simp [validate] at h
    · rw [validate_leaf (by simpa using hk)] at h
      repeat' split at h
      all_goals simp only [Except.error.injEq, reduceCtorEq] at h
      all_goals exact ⟨_, h.symm⟩
  | array child options ih =>
    cases v with
    | array items =>
      simp only [validate, map_eq_error] at h
      exact validateItems_error (fun _ _ => ih) h
    | null =>
      simp only [validate] at h
      split at h <;> simp only [Except.error.injEq, reduceCtorEq] at h
      exact ⟨_, h.symm⟩
    | _ =>
      simp only [validate, Except.error.injEq] at h
      exact ⟨_, h.symm⟩

-- ---------------------------------------------------------------------------
-- Any type
-- ---------------------------------------------------------------------------

theorem validateItems_fst (check : ∀ v doc, (f v doc).1 = g v) :
    (validateItems f items doc).1 = items.mapM g := by
  induction items generalizing doc with
  | nil => rfl
  | cons v rest ih =>
    simp only [List.mapM_cons, ← check v doc]
    cases hv : f v doc with
    | mk result doc' =>
      cases result with
      | error e => simp only [validateItems, hv, bind, Except.bind]
      | ok w =>
        have hrest : (validateItems f rest doc').1 = rest.mapM g := ih
        simp only [validateItems, hv, bind, Except.bind, ← hrest]
        cases (validateItems f rest doc').1 <;> rfl

/-- What the document holds has no say in whether a value is taken. -/
theorem validate_fst : (validate path type v doc).1 = (validate path type v []).1 := by
  induction type generalizing v doc with
  | leaf kind options =>
    by_cases hk : ∃ field, kind = .virtual field
    · obtain ⟨field, rfl⟩ := hk
      rfl
    · rw [validate_leaf (by simpa using hk), validate_leaf (by simpa using hk)]
  | array child options ih =>
    cases v with
    | array items =>
      simp only [validate, validateItems_fst (f := validate path child) fun _ _ => ih]
    | _ => rfl

theorem mapM_results {g : α → Except ε α} (check : ∀ v w, g v = .ok w → g w = .ok w)
    (h : List.mapM g items = .ok items') : List.mapM g items' = .ok items' := by
  induction items generalizing items' with
  | nil =>
    obtain rfl : [] = items' := by simpa [pure, Except.pure] using h
    rfl
  | cons v rest ih =>
    simp only [List.mapM_cons, bind_eq_ok, pure, Except.pure, Except.ok.injEq] at h
    obtain ⟨w, hv, rest', hrest, rfl⟩ := h
    simp [List.mapM_cons, check v w hv, ih hrest, bind, Except.bind, pure, Except.pure]

-- ---------------------------------------------------------------------------
-- Types without virtual fields
-- ---------------------------------------------------------------------------

theorem validateItems_eq (check : ∀ v doc, f v doc = (g v, doc)) :
    validateItems f items doc = (items.mapM g, doc) := by
  induction items with
  | nil => rfl
  | cons v rest ih =>
    simp only [validateItems, check, List.mapM_cons, bind, Except.bind]
    cases g v with
    | error e => rfl
    | ok w =>
      simp only [ih]
      cases rest.mapM g <;> rfl

theorem validate_eq (h : virtuals type = []) :
    validate path type v doc = ((validate path type v []).1, doc) := by
  induction type generalizing v doc with
  | leaf kind options =>
    rw [validate_leaf (virtuals_leaf_eq_nil.mp h), validate_leaf (virtuals_leaf_eq_nil.mp h)]
  | array child options ih =>
    cases v with
    | array items =>
      simp only [validate, validateItems_eq (f := validate path child) fun _ _ => ih h]
    | _ => rfl

theorem mapM_ok {g : α → Except ε α} (check : ∀ v w, g v = .ok w → w = v)
    (h : List.mapM g items = .ok items') : items' = items ∧ ∀ v ∈ items, g v = .ok v := by
  induction items generalizing items' with
  | nil => simpa [pure, Except.pure] using h.symm
  | cons v rest ih =>
    simp only [List.mapM_cons, bind_eq_ok, pure, Except.pure, Except.ok.injEq] at h
    obtain ⟨w, hv, rest', hrest, rfl⟩ := h
    obtain rfl := check v w hv
    obtain ⟨rfl, each⟩ := ih hrest
    exact ⟨rfl, List.forall_mem_cons.mpr ⟨hv, each⟩⟩

theorem validate_ok (h : virtuals type = []) (ok : (validate path type v doc).1 = .ok w) :
    w = v := by
  induction type generalizing v doc w with
  | leaf kind options =>
    rw [validate_leaf (virtuals_leaf_eq_nil.mp h)] at ok
    cases v <;> simp only [Value.isNull, if_true, Bool.false_eq_true, if_false] at ok
    all_goals split at ok <;> simp only [Except.ok.injEq, reduceCtorEq] at ok
    all_goals exact ok.symm
  | array child options ih =>
    cases v with
    | array items =>
      simp only [validate, validateItems_eq (f := validate path child) fun _ _ => validate_eq h,
        map_eq_ok] at ok
      obtain ⟨items', hitems, rfl⟩ := ok
      rw [(mapM_ok (fun _ _ => ih h) hitems).1]
    | null =>
      simp only [validate] at ok
      split at ok <;> simp only [Except.ok.injEq, reduceCtorEq] at ok
      exact ok.symm
    | _ => simp [validate] at ok

/-- The type takes the value at a path as it is. -/
def Accepts (path : Path) (type : FieldType) (v : Value) : Prop :=
  (validate path type v []).1 = .ok v

theorem accepts_of_validate (h : virtuals type = [])
    (ok : (validate path type v doc).1 = .ok w) : Accepts path type v ∧ w = v := by
  obtain rfl := validate_ok h ok
  exact ⟨validate_fst.symm.trans ok, rfl⟩

/-- What a check gives would be taken as it is. -/
theorem accepts_of_ok (ok : (validate path type v doc).1 = .ok w) : Accepts path type w := by
  induction type generalizing v doc w with
  | leaf kind options =>
    by_cases hk : ∃ field, kind = .virtual field
    · obtain ⟨field, rfl⟩ := hk
      obtain rfl : .null = w := Except.ok.inj ok
      rfl
    · obtain ⟨taken, rfl⟩ := accepts_of_validate (virtuals_leaf_eq_nil.mpr (by simpa using hk)) ok
      exact taken
  | array child options ih =>
    cases v with
    | array items =>
      simp only [validate, validateItems_fst (f := validate path child) fun _ _ => validate_fst,
        map_eq_ok] at ok
      obtain ⟨items', hitems, rfl⟩ := ok
      simp only [Accepts, validate,
        validateItems_fst (f := validate path child) fun _ _ => validate_fst,
        mapM_results (fun _ _ => ih) hitems, Except.map]
    | null =>
      rw [validate_fst] at ok
      simp only [validate] at ok
      split at ok <;> simp only [Except.ok.injEq, reduceCtorEq] at ok
      rename_i optional
      simp [Accepts, ← ok, validate, optional]
    | _ => simp [validate] at ok

theorem accepts_items (h : virtuals child = [])
    (taken : Accepts path (.array child opts) (.array items)) :
    ∀ v ∈ items, Accepts path child v := by
  simp only [Accepts, validate, map_eq_ok, Value.array.injEq, exists_eq_right,
    validateItems_eq (f := validate path child) fun _ _ => validate_eq h] at taken
  exact (mapM_ok (fun _ _ => validate_ok h) taken).2

end FieldType

end DocStore
