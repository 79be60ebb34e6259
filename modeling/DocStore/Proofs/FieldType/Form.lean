import DocStore.Proofs.FieldType.Canonical

/-!
# The form of a type

A type takes the values that are in its form, and those only; coercing leaves them alone, and once
coerced a value stays as it is. Casting puts the default of a type in the place of null, and does not
coerce it. So casting twice is casting once exactly when coercing would leave the default alone.
-/

namespace DocStore

/-- The values other than null in which a field of the kind is stored. A virtual field has none. -/
inductive Kind.Holds : Kind → Value → Prop
  | mixed : Holds .mixed v
  | string : Holds .string (.string s)
  | number : x.isNaN = false → Holds .number (.number x)
  | integer : x.isIntegral = true → Holds .integer (.number x)
  | boolean : Holds .boolean (.bool b)
  | date : Holds .date (.date t)
  | object : Holds .object (.object fields)
  | buffer : Holds .buffer (.buffer bytes)
  | id : s ≠ "" → Holds (.id strategy) (.string s)
  | listed : e ∈ elements → e.equal v = true → Holds (.enumeration elements) v

/-- The value is in the form of the type. Null stands for an absent field. -/
inductive FieldType.Holds : FieldType → Value → Prop
  | absent : type.isRequired = false → Holds type .null
  | leaf : v ≠ .null → kind.Holds v → Holds (.leaf kind opts) v
  | array : (∀ v ∈ items, Holds child v) → Holds (.array child opts) (.array items)

-- ---------------------------------------------------------------------------
-- What is taken
-- ---------------------------------------------------------------------------

namespace Kind

variable {kind : Kind} {v : Value}

theorem Holds.fault? (held : kind.Holds v) : kind.fault? v = none := by
  cases held with
  | number real => simp [Kind.fault?, real]
  | integer integral =>
    have finite := (Number.isIntegral_iff _).mp integral
    simp [Kind.fault?, integral, Number.isNaN_of_isFinite finite.1]
  | id named => simp [Kind.fault?, named]
  | @listed elements e v mem same =>
    have found : elements.any (fun e => e.equal v) = true := List.any_eq_true.mpr ⟨e, mem, same⟩
    simp only [Kind.fault?, found, if_true]
  | _ => rfl

theorem holds_of_fault? (concrete : ∀ field, kind ≠ .virtual field)
    (taken : kind.fault? v = none) : kind.Holds v := by
  cases kind with
  | virtual field => exact absurd rfl (concrete field)
  | mixed => exact .mixed
  | integer =>
    cases v with
    | number x => exact .integer (isIntegral_of_fault? taken)
    | _ => cases taken
  | number =>
    cases v with
    | number x =>
      simp only [fault?, ite_eq_right_iff, reduceCtorEq, imp_false] at taken
      exact .number (Bool.eq_false_iff.mpr taken)
    | _ => cases taken
  | id strategy =>
    cases v with
    | string s =>
      simp only [fault?, ite_eq_right_iff, reduceCtorEq, imp_false] at taken
      exact .id (by simpa using taken)
    | _ => cases taken
  | enumeration elements =>
    simp only [fault?, ite_eq_left_iff, reduceCtorEq, imp_false, not_not] at taken
    obtain ⟨e, mem, same⟩ := List.any_eq_true.mp taken
    exact .listed mem same
  | string | boolean | date | object | buffer =>
    cases v with
    | string | bool | date | object | buffer => first | constructor | cases taken
    | _ => cases taken

end Kind

namespace FieldType

variable {type child : FieldType} {opts : Options} {path : Path} {v : Value} {items : List Value}
  {source : Source}

theorem accepts_null (concrete : virtuals type = []) :
    Accepts path type .null ↔ type.isRequired = false := by
  cases type with
  | leaf kind opts =>
    rw [Accepts, validate_leaf (virtuals_leaf_eq_nil.mp concrete)]
    cases required : opts.required <;> simp [Value.isNull, isRequired, options, required]
  | array child opts =>
    cases required : opts.required <;> simp [Accepts, validate, isRequired, options, required]

theorem accepts_of_items (each : ∀ v ∈ items, Accepts path child v) :
    Accepts path (.array child opts) (.array items) := by
  have all : items.mapM (fun v => (validate path child v []).1) = .ok items := by
    induction items with
    | nil => rfl
    | cons v rest ih =>
      obtain ⟨first, later⟩ := List.forall_mem_cons.mp each
      simp only [List.mapM_cons, bind_eq_ok]
      exact ⟨v, first, rest, ih later, rfl⟩
  simp only [Accepts, validate, validateItems_fst (f := validate path child) fun _ _ => validate_fst,
    all, Except.map]

theorem accepts_iff (concrete : virtuals type = []) : Accepts path type v ↔ type.Holds v := by
  induction type generalizing v with
  | leaf kind opts =>
    have stored := virtuals_leaf_eq_nil.mp concrete
    constructor
    · intro taken
      by_cases null : v = .null
      · subst null
        exact .absent ((accepts_null concrete).mp taken)
      · exact .leaf null (Kind.holds_of_fault? stored (fault?_of_accepts concrete null taken))
    · rintro (optional | ⟨present, held⟩)
      · exact (accepts_null concrete).mpr optional
      · exact accepts_of_fault? concrete present held.fault?
  | array child opts ih =>
    have inner : virtuals child = [] := concrete
    constructor
    · intro taken
      cases v with
      | null => exact .absent ((accepts_null concrete).mp taken)
      | array items => exact .array fun v mem => (ih inner).mp (accepts_items inner taken v mem)
      | _ => simp [Accepts, validate] at taken
    · rintro (optional | _ | each)
      · exact (accepts_null concrete).mpr optional
      · exact accepts_of_items fun v mem => (ih inner).mpr (each v mem)

/-- Coercing twice is coercing once, and a type without virtual fields takes exactly the values that
are in its form: it gives back the very value, which coercing leaves as it is, and leaves the document
alone. -/
theorem validate_holds (concrete : virtuals type = []) :
    (∀ v, type.coerce (type.coerce v) = type.coerce v) ∧
      ∀ path v doc,
        (∀ w, (validate path type v doc).1 = .ok w → w = v ∧ type.coerce v = v) ∧
        ((∃ w, (validate path type v doc).1 = .ok w) ↔ type.Holds v) ∧
        (validate path type v doc).2 = doc := by
  refine ⟨type.coerce_coerce, fun path v doc => ⟨?_, ?_, ?_⟩⟩
  · intro w taken
    obtain ⟨accepted, rfl⟩ := accepts_of_validate concrete taken
    exact ⟨rfl, coerce_of_accepts concrete accepted⟩
  · have same : Accepts path type v ↔ type.Holds v := accepts_iff concrete
    rw [← same]
    constructor
    · rintro ⟨w, taken⟩
      exact (accepts_of_validate concrete taken).1
    · intro accepted
      exact ⟨v, validate_fst.trans accepted⟩
  · rw [validate_eq concrete]

/-- Integers in arrays of arrays, nulls between them. -/
theorem validate_holds_nested :
    let type : FieldType := .array (.array (.ofKind .integer) {}) {}
    let path : Path := ⟨"grid", []⟩
    let v : Value := .array [.array [.number (Number.ofNat 3), .null], .null]
    virtuals type = [] ∧ (validate path type v []).1 = .ok v ∧ type.Holds v ∧ type.coerce v = v ∧
      type.coerce (.string "x") = .array [.array [.string "x"]] ∧
      ¬ type.Holds (.array [.array [.string "x"]]) := by
  intro type path v
  have concrete : virtuals type = [] := rfl
  have integral : (Number.ofNat 3).isIntegral = true := by decide +kernel
  have held : type.Holds v := by
    refine .array (List.forall_mem_cons.mpr ⟨.array ?_, List.forall_mem_singleton.mpr (.absent rfl)⟩)
    refine List.forall_mem_cons.mpr ⟨.leaf nofun (.integer integral), ?_⟩
    exact List.forall_mem_singleton.mpr (.absent rfl)
  obtain ⟨-, each⟩ := validate_holds concrete
  obtain ⟨same, takes, -⟩ := each path v []
  obtain ⟨w, taken⟩ := takes.mpr held
  obtain ⟨rfl, coerced⟩ := same w taken
  refine ⟨rfl, taken, held, coerced, rfl, fun other => ?_⟩
  obtain ⟨w, taken⟩ := (each path _ []).2.1.mpr other
  cases taken

-- ---------------------------------------------------------------------------
-- Casts
-- ---------------------------------------------------------------------------

theorem cast_null (source : Source) (type : FieldType) :
    type.cast source .null = type.default source :=
  rfl

theorem cast_coerce (stored : type.isVirtual = false) (present : v ≠ .null) (source : Source) :
    type.cast source (type.coerce v) = type.coerce v := by
  rw [cast_of_ne_null (coerce_ne_null stored present), coerce_coerce]

/-- What a default is cast to does not depend on the time and on random numbers any more. -/
theorem cast_default (type : FieldType) (source later : Source) :
    type.cast later (type.default source) = type.coerce (type.default source) := by
  by_cases null : type.default source = .null
  · rw [null, cast_null, default_eq_null null]
    cases type <;> rfl
  · exact cast_of_ne_null null later type

/-- Coercing leaves the default that is given for the type as it is, whatever the time. -/
structure KeepsDefault (type : FieldType) : Prop where
  fixed : ∀ d, type.options.default = some (.fixed d) → type.coerce d = d
  now : type.options.default = some .now → ∀ t, type.coerce (.date t) = .date t

theorem coerce_default (type : FieldType) :
    (∀ source, type.coerce (type.default source) = type.default source) ↔ type.KeepsDefault := by
  constructor
  · intro same
    have drawn (t : Instant) := same { entropy := fun _ => 0, now := t }
    refine ⟨fun d given => ?_, fun given t => ?_⟩
    · simpa only [default, given] using drawn Inhabited.default
    · simpa only [default, given] using drawn t
  · rintro ⟨fixed, now⟩ source
    cases given : type.options.default with
    | some d =>
      cases d with
      | fixed d => simpa only [default, given] using fixed d given
      | now => simpa only [default, given] using now given source.now
    | none =>
      simp only [default, given]
      split
      · rfl
      · split <;> rfl
      · rfl

/-- Casting twice is casting once exactly when coercing leaves the default as it is, so always where
none is given. Only null can be cast to something else the second time, and nothing changes the third
time. -/
theorem cast_cast_iff (stored : type.isVirtual = false) :
    ((∀ source later v, type.cast later (type.cast source v) = type.cast source v) ↔
        type.KeepsDefault) ∧
      (type.options.default = none → type.KeepsDefault) ∧
      (∀ source later v, v ≠ .null → type.cast later (type.cast source v) = type.cast source v) ∧
      ∀ source later again v, type.cast again (type.cast later (type.cast source v)) =
        type.cast later (type.cast source v) := by
  have other (source later : Source) (v : Value) (present : v ≠ .null) :
      type.cast later (type.cast source v) = type.cast source v := by
    rw [cast_of_ne_null present, cast_coerce stored present]
  refine ⟨?_, fun none => ⟨fun d given => ?_, fun given => ?_⟩, other, ?_⟩
  · rw [← coerce_default]
    constructor
    · intro same source
      rw [← cast_default type source source]
      exact same source source .null
    · intro keeps source later v
      by_cases null : v = .null
      · rw [null, cast_null, cast_default, keeps]
      · exact other source later v null
  · simp [none] at given
  · simp [none] at given
  · intro source later again v
    by_cases null : v = .null
    · by_cases absent : type.default source = .null
      · simp only [null, cast_null, absent, default_eq_null absent]
      · rw [null, cast_null, cast_default, cast_coerce stored absent]
    · rw [other source later v null, other source again v null]

/-- Arrays of dates in an array, with a default of that form. -/
theorem cast_cast_iff_nested :
    let epoch : Value := .array [.array [.date ⟨0, 0⟩, .null]]
    let type : FieldType := .array (.array (.ofKind .date) {}) { default := some (.fixed epoch) }
    type.isVirtual = false ∧ type.KeepsDefault ∧ (∀ source, type.cast source .null = epoch) ∧
      ∀ source later v, type.cast later (type.cast source v) = type.cast source v := by
  intro epoch type
  have keeps : type.KeepsDefault := by
    constructor
    · rintro d given
      obtain rfl : epoch = d := by simpa [type, options] using given
      rfl
    · intro given
      simp [type, options] at given
  exact ⟨rfl, keeps, fun _ => rfl, (cast_cast_iff rfl).1.mpr keeps⟩

/-- A numeral that is the default of a number is cast to itself first and to the number then, and a
text that is the default of an array to itself and to an array of one. -/
theorem not_cast_cast :
    let number : FieldType := .leaf .number { default := some (.fixed (.string "5")) }
    let array : FieldType := .array (.ofKind .string) { default := some (.fixed (.string "x")) }
    number.isVirtual = false ∧ array.isVirtual = false ∧ ∀ source,
      (number.cast source .null = .string "5" ∧
        number.cast source (number.cast source .null) = .number (Number.ofNat 5) ∧
        number.cast source (number.cast source .null) ≠ number.cast source .null) ∧
      array.cast source .null = .string "x" ∧
        array.cast source (array.cast source .null) = .array [.string "x"] ∧
        array.cast source (array.cast source .null) ≠ array.cast source .null := by
  intro number array
  refine ⟨rfl, rfl, fun source => ⟨⟨rfl, rfl, ?_⟩, rfl, rfl, ?_⟩⟩
  · show Value.number (Number.ofNat 5) ≠ .string "5"
    nofun
  · show Value.array [.string "x"] ≠ .string "x"
    nofun

end FieldType

end DocStore
