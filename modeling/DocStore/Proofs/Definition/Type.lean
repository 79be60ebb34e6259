import DocStore.Definition
import DocStore.Proofs.FieldType.Validate

/-!
# The type of a definition

A definition gives a type unless it leads, through the items of arrays, to one with a fault: an
enumeration without values, or a value or a default that stands for nothing.
-/

namespace DocStore

/-! ### What is given -/

/-- The default that a datum stands for. Of dates alone it may be the present moment. -/
inductive TypeName.Takes (type : TypeName) : Option Yaml.Datum → Option Default → Prop
  | nothing : Takes type none none
  | now : type = .date → Takes type (some (.string "now")) (some .now)
  | fixed {d v} : ¬ (type = .date ∧ d = .string "now") → d.toValue? = some v →
      Takes type (some d) (some (.fixed v))

structure FieldTraits.Gives (traits : FieldTraits) (type : TypeName) (options : Options) :
    Prop where
  required : options.required = traits.required
  reference : options.reference = traits.reference
  default : type.Takes traits.default options.default

mutual
/-- The kind is that of the name, the type of items and the options are those that are stated. -/
inductive FieldDefinition.Gives : FieldDefinition → FieldType → Prop
  | array {traits items fields child options} : items.Gives child → traits.Gives .array options →
      FieldDefinition.Gives (.mk .array traits items fields) (.array child options)
  | enumeration {traits items fields elements options} : traits.values ≠ [] →
      List.Forall₂ (fun d v => d.toValue? = some v) traits.values elements →
      traits.Gives .enumeration options →
      FieldDefinition.Gives (.mk .enumeration traits items fields)
        (.leaf (.enumeration elements) options)
  | id {traits items fields options} : traits.Gives .id options →
      FieldDefinition.Gives (.mk .id traits items fields)
        (.leaf (.id (traits.strategy.getD .nanoid)) options)
  | plain {type kind traits items fields options} : type ∉ [.array, .enumeration, .id] →
      TypeName.ofName? kind.name = some type → traits.Gives type options →
      FieldDefinition.Gives (.mk type traits items fields) (.leaf kind options)
/-- A name alone is a definition that states nothing else. An enumeration needs its values, so by
its name it is mixed. -/
inductive ItemDefinition.Gives : ItemDefinition → FieldType → Prop
  | anything : ItemDefinition.Gives .anything .mixed
  | enumeration : ItemDefinition.Gives (.named .enumeration) .mixed
  | named {type given} : type ≠ .enumeration →
      FieldDefinition.Gives (.mk type {} .anything []) given →
      ItemDefinition.Gives (.named type) given
  | defined {field given} : field.Gives given → ItemDefinition.Gives (.defined field) given
end

/-! ### Faults -/

inductive FieldDefinition.IsFaulty : FieldDefinition → Prop
  | noValues {traits items fields} : traits.values = [] →
      IsFaulty (.mk .enumeration traits items fields)
  | value {traits items fields d} : d ∈ traits.values → d.toValue? = none →
      IsFaulty (.mk .enumeration traits items fields)
  | default {type traits items fields d} : traits.default = some d → d.toValue? = none →
      IsFaulty (.mk type traits items fields)

/-- A definition leads to itself and, where its type is one of some, to what its items lead to. -/
inductive FieldDefinition.LeadsTo (through : TypeName → Prop) :
    FieldDefinition → FieldDefinition → Prop
  | self {field} : LeadsTo through field field
  | items {type traits item fields inner} : through type → LeadsTo through item inner →
      LeadsTo through (.mk type traits (.defined item) fields) inner

/-- It leads to a fault through the items of arrays. -/
def FieldDefinition.Fails (field : FieldDefinition) : Prop :=
  ∃ inner, field.LeadsTo (· = .array) inner ∧ inner.IsFaulty

/-! ### Options -/

variable {type : TypeName} {traits : FieldTraits}

theorem valueOf_eq_ok_iff {d : Yaml.Datum} {v : Value} :
    valueOf d = .ok v ↔ d.toValue? = some v := by
  unfold valueOf
  split <;> simp_all

theorem exists_valueOf_eq_error_iff {d : Yaml.Datum} :
    (∃ e, valueOf d = .error e) ↔ d.toValue? = none := by
  unfold valueOf
  split <;> simp_all

namespace FieldTraits

theorem defaultOf_now : defaultOf .date (.string "now") = .ok .now := rfl

theorem defaultOf_eq {d : Yaml.Datum} (other : ¬ (type = .date ∧ d = .string "now")) :
    defaultOf type d = (valueOf d).map .fixed := by
  unfold defaultOf
  split
  · have undated : type ≠ .date := fun dated => other ⟨dated, rfl⟩
    simp [undated, valueOf, Yaml.Datum.toValue?, Except.map]
  · rfl

/-- The outcome for a default is what the type takes, or an error if it stands for nothing. -/
theorem defaultOf_eq_ok_iff {d : Yaml.Datum} {default : Default} :
    defaultOf type d = .ok default ↔ type.Takes (some d) (some default) := by
  constructor
  · intro given
    by_cases now : type = .date ∧ d = .string "now"
    · obtain ⟨rfl, rfl⟩ := now
      obtain rfl : Default.now = default := Except.ok.inj given
      exact .now rfl
    · rw [defaultOf_eq now] at given
      obtain ⟨v, value, rfl⟩ := map_eq_ok.mp given
      exact .fixed now (valueOf_eq_ok_iff.mp value)
  · rintro (_ | rfl | ⟨other, value⟩)
    · rfl
    · rw [defaultOf_eq other, valueOf_eq_ok_iff.mpr value]
      rfl

theorem exists_defaultOf_eq_error_iff {d : Yaml.Datum} :
    (∃ e, defaultOf type d = .error e) ↔ d.toValue? = none := by
  by_cases now : type = .date ∧ d = .string "now"
  · obtain ⟨rfl, rfl⟩ := now
    simp [defaultOf_now, Yaml.Datum.toValue?]
  · simp only [defaultOf_eq now, map_eq_error, exists_valueOf_eq_error_iff]

/-- What is made of a default that may not be stated. -/
def defaultOf? (type : TypeName) : Option Yaml.Datum → Except Error (Option Default)
  | none => .ok none
  | some d => (defaultOf type d).map some

theorem defaultOf?_eq_ok_iff {stated : Option Yaml.Datum} {default : Option Default} :
    defaultOf? type stated = .ok default ↔ type.Takes stated default := by
  cases stated with
  | none =>
    constructor
    · intro made
      exact Except.ok.inj made ▸ .nothing
    · rintro ⟨⟩
      rfl
  | some d =>
    simp only [defaultOf?, map_eq_ok, defaultOf_eq_ok_iff]
    constructor
    · rintro ⟨taken, takes, rfl⟩
      exact takes
    · intro takes
      obtain ⟨taken, rfl⟩ : ∃ taken, default = some taken := by cases takes <;> exact ⟨_, rfl⟩
      exact ⟨taken, takes, rfl⟩

theorem options_eq (traits : FieldTraits) (type : TypeName) :
    traits.options type = (defaultOf? type traits.default).map fun default =>
      { required := traits.required, default, reference := traits.reference } := by
  cases stated : traits.default with
  | none => simp only [options, stated]; rfl
  | some d =>
    simp only [options, stated, defaultOf?]
    cases defaultOf type d <;> rfl

theorem options_eq_ok_iff {options : Options} :
    traits.options type = .ok options ↔ traits.Gives type options := by
  simp only [options_eq, map_eq_ok, defaultOf?_eq_ok_iff]
  constructor
  · rintro ⟨default, takes, rfl⟩
    exact ⟨rfl, rfl, takes⟩
  · obtain ⟨required, default, reference⟩ := options
    rintro ⟨rfl, rfl, takes⟩
    exact ⟨default, takes, rfl⟩

theorem exists_options_eq_error_iff :
    (∃ e, traits.options type = .error e) ↔ ∃ d, traits.default = some d ∧ d.toValue? = none := by
  simp only [options_eq, map_eq_error]
  cases traits.default with
  | none => simp [defaultOf?]
  | some d =>
    simp only [defaultOf?, map_eq_error, exists_defaultOf_eq_error_iff, Option.some.injEq,
      exists_eq_left']

end FieldTraits

/-! ### Types -/

namespace FieldDefinition

variable {items : ItemDefinition} {fields : List (String × FieldDefinition)} {path : Path}
  {given : FieldType}

theorem toType_enumeration : toType path (.mk .enumeration traits items fields) = .ok given ↔
    Gives (.mk .enumeration traits items fields) given := by
  have made : toType path (.mk .enumeration traits items fields) = .ok given ↔
      traits.values ≠ [] ∧ ∃ elements, traits.values.mapM valueOf = .ok elements ∧
        ∃ options, traits.options .enumeration = .ok options ∧
          FieldType.leaf (.enumeration elements) options = given := by
    by_cases empty : traits.values = [] <;> simp [toType, empty, bind_eq_ok]
  simp only [made, mapM_eq_ok_iff, valueOf_eq_ok_iff, FieldTraits.options_eq_ok_iff]
  constructor
  · rintro ⟨some, elements, each, options, opts, rfl⟩
    exact .enumeration some each opts
  · rintro (_ | ⟨some, each, opts⟩ | _ | ⟨other, -, -⟩)
    · exact ⟨some, _, each, _, opts, rfl⟩
    · simp at other

theorem toType_id : toType path (.mk .id traits items fields) = .ok given ↔
    Gives (.mk .id traits items fields) given := by
  simp only [toType, bind_eq_ok, FieldTraits.options_eq_ok_iff, Except.ok.injEq]
  constructor
  · rintro ⟨options, opts, rfl⟩
    exact .id opts
  · rintro (_ | _ | opts | ⟨other, -, -⟩)
    · exact ⟨_, opts, rfl⟩
    · simp at other

theorem toType_plain (plain : type ∉ [.array, .enumeration, .id]) :
    toType path (.mk type traits items fields) =
      (traits.options type).map fun options => type.bare.withOptions options := by
  cases type <;> first | rfl | simp at plain

/-- The kinds that have a name of their own. -/
theorem bare_eq_leaf_iff (plain : type ∉ [.array, .enumeration, .id]) {kind : Kind} :
    type.bare = .leaf kind {} ↔ TypeName.ofName? kind.name = some type := by
  constructor
  · intro bare
    cases type <;> first | (cases bare; rfl) | simp at plain
  · intro named
    cases kind <;> simp [Kind.name, TypeName.ofName?] at named <;> subst named <;>
      first | rfl | simp at plain

theorem exists_bare_eq_leaf (plain : type ∉ [.array, .enumeration, .id]) :
    ∃ kind, type.bare = .leaf kind {} := by
  cases type <;> first | exact ⟨_, rfl⟩ | simp at plain

theorem toType_plain_eq_ok_iff (plain : type ∉ [.array, .enumeration, .id]) :
    toType path (.mk type traits items fields) = .ok given ↔
      Gives (.mk type traits items fields) given := by
  obtain ⟨kind, bare⟩ := exists_bare_eq_leaf plain
  simp only [toType_plain plain, map_eq_ok, FieldTraits.options_eq_ok_iff, bare]
  constructor
  · rintro ⟨options, opts, rfl⟩
    exact .plain plain ((bare_eq_leaf_iff plain).mp bare) opts
  · intro gives
    cases gives with
    | plain _ named opts =>
      obtain rfl := (FieldType.leaf.inj (bare.symm.trans ((bare_eq_leaf_iff plain).mpr named))).1
      exact ⟨_, opts, rfl⟩
    | _ => simp at plain

end FieldDefinition

/-- A definition that states nothing but a name gives the type of the name. -/
theorem FieldDefinition.gives_bare_iff {given : FieldType} (single : type ≠ .enumeration) :
    FieldDefinition.Gives (.mk type {} .anything []) given ↔ type.bare = given := by
  by_cases plain : type ∉ [.array, .enumeration, .id]
  · obtain ⟨kind, bare⟩ := FieldDefinition.exists_bare_eq_leaf plain
    have made : FieldDefinition.toType idPath (.mk type {} .anything []) = .ok given ↔ _ :=
      FieldDefinition.toType_plain_eq_ok_iff plain
    rw [← made, FieldDefinition.toType_plain plain, bare]
    exact ⟨Except.ok.inj, congrArg Except.ok⟩
  · simp only [List.mem_cons, List.not_mem_nil, or_false, not_not, single, false_or] at plain
    rcases plain with rfl | rfl
    · constructor
      · rintro (⟨⟨⟩, opts⟩ | _ | _ | ⟨other, -, -⟩)
        · obtain rfl := Except.ok.inj (FieldTraits.options_eq_ok_iff.mpr opts)
          rfl
        · simp at other
      · rintro rfl
        exact .array .anything (FieldTraits.options_eq_ok_iff.mp rfl)
    · have made : FieldDefinition.toType idPath (.mk .id {} .anything []) = .ok given ↔ _ :=
        FieldDefinition.toType_id
      rw [← made]
      exact ⟨Except.ok.inj, congrArg Except.ok⟩

theorem ItemDefinition.gives_named_iff {given : FieldType} :
    ItemDefinition.Gives (.named type) given ↔ type.bare = given := by
  constructor
  · rintro (_ | _ | ⟨single, gives⟩)
    · rfl
    · exact (FieldDefinition.gives_bare_iff single).mp gives
  · rintro rfl
    by_cases enumeration : type = .enumeration
    · subst enumeration
      exact .enumeration
    · exact .named enumeration ((FieldDefinition.gives_bare_iff enumeration).mpr rfl)

mutual
/-- A definition has no other type than the one that it gives. -/
theorem FieldDefinition.toType_eq_ok_iff {path : Path} {given : FieldType} :
    ∀ field : FieldDefinition, field.toType path = .ok given ↔ field.Gives given
  | .mk type traits items fields => by
    by_cases plain : type ∉ [.array, .enumeration, .id]
    · exact FieldDefinition.toType_plain_eq_ok_iff plain
    · simp only [List.mem_cons, List.not_mem_nil, or_false, not_not] at plain
      rcases plain with rfl | rfl | rfl
      · simp only [FieldDefinition.toType, bind_eq_ok, items.toType_eq_ok_iff,
          FieldTraits.options_eq_ok_iff, Except.ok.injEq]
        constructor
        · rintro ⟨child, gives, options, opts, rfl⟩
          exact .array gives opts
        · rintro (⟨gives, opts⟩ | _ | _ | ⟨other, -, -⟩)
          · exact ⟨_, gives, _, opts, rfl⟩
          · simp at other
      · exact FieldDefinition.toType_enumeration
      · exact FieldDefinition.toType_id
theorem ItemDefinition.toType_eq_ok_iff {path : Path} {given : FieldType} :
    ∀ item : ItemDefinition, item.toType path = .ok given ↔ item.Gives given
  | .anything => by
    rw [ItemDefinition.toType, Except.ok.injEq]
    exact ⟨fun same => same ▸ .anything, fun gives => by cases gives; rfl⟩
  | .named type => by
    rw [ItemDefinition.toType, Except.ok.injEq]
    exact ItemDefinition.gives_named_iff.symm
  | .defined field => by
    rw [ItemDefinition.toType, field.toType_eq_ok_iff]
    exact ⟨.defined, fun gives => by cases gives; assumption⟩
end

/-! ### No type -/

namespace FieldDefinition

theorem isFaulty_iff {items : ItemDefinition} {fields : List (String × FieldDefinition)} :
    IsFaulty (.mk type traits items fields) ↔
      (type = .enumeration ∧ (traits.values = [] ∨ ∃ d ∈ traits.values, d.toValue? = none)) ∨
        ∃ e, traits.options type = .error e := by
  rw [FieldTraits.exists_options_eq_error_iff]
  constructor
  · rintro (empty | ⟨mem, none⟩ | ⟨stated, none⟩)
    · exact .inl ⟨rfl, .inl empty⟩
    · exact .inl ⟨rfl, .inr ⟨_, mem, none⟩⟩
    · exact .inr ⟨_, stated, none⟩
  · rintro (⟨rfl, empty | ⟨d, mem, none⟩⟩ | ⟨d, stated, none⟩)
    · exact .noValues empty
    · exact .value mem none
    · exact .default stated none

/-- Only the items of an array can add a fault. -/
theorem fails_iff {items : ItemDefinition} {fields : List (String × FieldDefinition)} :
    Fails (.mk type traits items fields) ↔
      (type = .array ∧ ∃ item, items = .defined item ∧ item.Fails) ∨
        IsFaulty (.mk type traits items fields) := by
  constructor
  · rintro ⟨inner, _ | ⟨array, leads⟩, faulty⟩
    · exact .inr faulty
    · exact .inl ⟨array, _, rfl, inner, leads, faulty⟩
  · rintro (⟨array, item, rfl, inner, leads, faulty⟩ | faulty)
    · exact ⟨inner, .items array leads, faulty⟩
    · exact ⟨_, .self, faulty⟩

/-- Beside the items of an array, a definition fails by a fault of its own. -/
theorem exists_toType_eq_error_iff_isFaulty {items : ItemDefinition}
    {fields : List (String × FieldDefinition)} {path : Path} (single : type ≠ .array) :
    (∃ e, toType path (.mk type traits items fields) = .error e) ↔
      IsFaulty (.mk type traits items fields) := by
  rw [isFaulty_iff]
  by_cases enumeration : type = .enumeration
  · subst enumeration
    have values : (∃ e, traits.values.mapM valueOf = .error e) ↔
        ∃ d ∈ traits.values, d.toValue? = none := by
      simp only [exists_mapM_eq_error_iff, exists_valueOf_eq_error_iff]
    rw [← values]
    by_cases empty : traits.values = []
    · simp [toType, empty]
    · cases made : traits.values.mapM valueOf <;>
        simp [toType, empty, made, bind_eq_error]
  · have alone : (∃ e, toType path (.mk type traits items fields) = .error e) ↔
        ∃ e, traits.options type = .error e := by
      by_cases id : type = .id
      · subst id
        simp [toType, bind_eq_error]
      · have plain : type ∉ [.array, .enumeration, .id] := by simp [single, enumeration, id]
        simp [toType_plain plain]
    simp [alone, enumeration]

end FieldDefinition

mutual
theorem FieldDefinition.exists_toType_eq_error_iff {path : Path} :
    ∀ field : FieldDefinition, (∃ e, field.toType path = .error e) ↔ field.Fails
  | .mk type traits items fields => by
    rw [FieldDefinition.fails_iff]
    by_cases array : type = .array
    · subst array
      rw [FieldDefinition.isFaulty_iff, ← items.exists_toType_eq_error_iff]
      cases made : items.toType path <;>
        simp [FieldDefinition.toType, made, bind_eq_error]
    · simp only [FieldDefinition.exists_toType_eq_error_iff_isFaulty array, array, false_and,
        false_or]
theorem ItemDefinition.exists_toType_eq_error_iff {path : Path} :
    ∀ item : ItemDefinition, (∃ e, item.toType path = .error e) ↔
      ∃ field, item = .defined field ∧ field.Fails
  | .anything => by simp [ItemDefinition.toType]
  | .named type => by simp [ItemDefinition.toType]
  | .defined field => by
    simp [ItemDefinition.toType, field.exists_toType_eq_error_iff]
end

end DocStore
