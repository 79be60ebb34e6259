import DocStore.Proofs.Calendar.Signed
import DocStore.Proofs.FieldType.Persist

/-!
# Values that survive a file

A value that its type takes comes back from a file exactly when all of its numbers are finite and
no date lies in a year with a sign. Other numbers have no interchange form, and the time stamp of
such a year is not read.
-/

namespace DocStore

/-- A whole number of milliseconds. Only the last second of a minute can be followed by a leap
second. -/
structure Instant.IsWhole (t : Instant) : Prop where
  millis : t.nanos % 1000000 = 0
  nanos : t.nanos < 2 * billion
  leap : billion ≤ t.nanos → t.seconds % 60 = 59

theorem Instant.IsWhole.isStamped {t : Instant} (whole : t.IsWhole) (plain : t.HasPlainYear) :
    t.IsStamped :=
  ⟨whole.millis, whole.nanos, whole.leap, plain⟩

/-- A value is another one or occurs in it, however deep. -/
inductive Value.Occurs (w : Value) : Value → Prop
  | self : Occurs w w
  | item : v ∈ items → Occurs w v → Occurs w (.array items)
  | member : (k, v) ∈ fields → Occurs w v → Occurs w (.object fields)

/-- Texts, numbers, truth values, dates, buffers, ids, and arrays of these. -/
def FieldType.IsStored : FieldType → Prop
  | .leaf .string _ | .leaf .number _ | .leaf .integer _ | .leaf .boolean _ => True
  | .leaf .date _ | .leaf .buffer _ | .leaf (.id _) _ => True
  | .leaf .. => False
  | .array child _ => child.IsStored

/-- The value after a stay in a file, written and read by the type. -/
def FieldType.keep (type : FieldType) (v : Value) : Value :=
  type.restore (Value.ofJson (type.persist v).toJson)

/-- Every number in the value has a numeral, and the year of every date four digits. -/
structure Value.IsKeepable (v : Value) : Prop where
  finite : ∀ x, Occurs (.number x) v → x.isFinite = true
  plain : ∀ t, Occurs (.date t) v → t.HasPlainYear

-- ---------------------------------------------------------------------------
-- What occurs in a value
-- ---------------------------------------------------------------------------

namespace Value

variable {v w : Value}

theorem occurs_array : Occurs w (.array items) ↔ w = .array items ∨ ∃ v ∈ items, Occurs w v := by
  constructor
  · intro h
    cases h with
    | self => exact .inl rfl
    | item mem inner => exact .inr ⟨_, mem, inner⟩
  · rintro (rfl | ⟨v, mem, inner⟩)
    · exact .self
    · exact .item mem inner

/-- Nothing but itself occurs in a value that has no parts. -/
theorem occurs_iff_eq (noArray : ∀ items, v ≠ .array items)
    (noObject : ∀ fields, v ≠ .object fields) : Occurs w v ↔ w = v := by
  constructor
  · intro h
    cases h with
    | self => rfl
    | item mem inner => exact absurd rfl (noArray _)
    | member mem inner => exact absurd rfl (noObject _)
  · rintro rfl
    exact .self

theorem isKeepable_array :
    IsKeepable (.array items) ↔ ∀ v ∈ items, IsKeepable v := by
  constructor
  · exact fun h v mem => ⟨fun x inner => h.finite x (.item mem inner),
      fun t inner => h.plain t (.item mem inner)⟩
  · refine fun h => ⟨fun x inner => ?_, fun t inner => ?_⟩ <;>
      obtain ⟨v, mem, inner⟩ := (occurs_array.mp inner).resolve_left (by simp)
    · exact (h v mem).finite x inner
    · exact (h v mem).plain t inner

theorem isKeepable_number : IsKeepable (.number x) ↔ x.isFinite = true := by
  have alone (w : Value) : Occurs w (.number x) ↔ w = .number x := occurs_iff_eq (by simp) (by simp)
  refine ⟨fun h => h.finite x .self, fun finite => ⟨fun y inner => ?_, fun t inner => ?_⟩⟩
  · cases (alone _).mp inner
    exact finite
  · simp [alone] at inner

theorem isKeepable_date : IsKeepable (.date t) ↔ t.HasPlainYear := by
  have alone (w : Value) : Occurs w (.date t) ↔ w = .date t := occurs_iff_eq (by simp) (by simp)
  refine ⟨fun h => h.plain t .self, fun plain => ⟨fun y inner => ?_, fun s inner => ?_⟩⟩
  · simp [alone] at inner
  · cases (alone _).mp inner
    exact plain

/-- Values without numbers, dates and parts. -/
inductive IsInert : Value → Prop
  | null : IsInert .null
  | bool (b) : IsInert (.bool b)
  | string (s) : IsInert (.string s)
  | buffer (bytes) : IsInert (.buffer bytes)

theorem IsInert.isKeepable (inert : v.IsInert) : v.IsKeepable := by
  constructor <;> intro _ inner <;> cases inert <;> cases inner

theorem IsInert.portable (inert : v.IsInert) : v.Portable := by
  cases inert with
  | null => exact .null
  | bool b => exact .bool b
  | string s => exact .string s
  | buffer bytes => exact .buffer bytes

theorem IsInert.unsigned (inert : v.IsInert) : v.unsigned = v := by
  cases inert <;> rfl

theorem equalItems_map_left {f : Value → Value} {items : List Value} :
    equalItems (items.map f) items = true ↔ ∀ v ∈ items, (f v).equal v = true := by
  induction items with
  | nil => simp [equalItems]
  | cons v rest ih => simp [equalItems, ih]

end Value

-- ---------------------------------------------------------------------------
-- Numbers and dates
-- ---------------------------------------------------------------------------

theorem Number.equal_comm (x y : Number) : x.equal y = y.equal x := by
  simp only [equal, Bool.and_comm x.isNaN.not, Bool.beq_comm (a := x.key)]

theorem Number.equal_ofJson_toJson (x : Number) :
    (Value.ofJson x.toJson).equal (.number x) = x.isFinite := by
  cases finite : x.isFinite with
  | true =>
    have back := Value.ofJson_toJson (.number finite)
    rw [Value.toJson] at back
    rw [back]
    exact (equal_comm _ _).trans (equal_unsigned finite)
  | false =>
    have none : x.exactInt? = none := by simp [exactInt?, isIntegral, finite]
    simp [toJson, none, finite, Value.ofJson, Value.equal]

theorem Instant.equal_asDate_text {t : Instant} (whole : t.IsWhole) :
    (Value.asDate (.string t.text)).equal (.date t) = true ↔ t.HasPlainYear := by
  by_cases plain : t.HasPlainYear
  · simp [Value.asDate, ofText?_text (whole.isStamped plain), Value.equal, plain]
  · simp [Value.asDate, ofText?_text_signed plain, Value.equal, plain]

-- ---------------------------------------------------------------------------
-- Types
-- ---------------------------------------------------------------------------

namespace FieldType

variable {type : FieldType} {v : Value} {path : Path}

theorem IsStored.virtuals (stored : type.IsStored) : type.virtuals = [] := by
  induction type with
  | leaf kind opts => cases kind <;> first | rfl | exact stored.elim
  | array child opts ih => exact ih stored

theorem keep_of_portable (stored : type.virtuals = []) (taken : Accepts path type v)
    (portable : v.Portable) (placed : v.Bare ∨ type.IsTextual) : type.keep v = v.unsigned := by
  rw [keep, Value.ofJson_toJson (portable_persist type portable),
    restore_persist stored taken portable placed]

/-- What a kind neither writes nor reads in a form of its own comes back from its tree. -/
theorem keep_leaf_eq {kind : Kind} (opts : Options) (present : v ≠ .null)
    (written : kind.persist v = v) (read : ∀ w, kind.restore w = w) :
    keep (.leaf kind opts) v = Value.ofJson v.toJson := by
  rw [keep, persist_leaf present, written]
  cases back : Value.ofJson v.toJson with
  | null => rfl
  | _ => exact read _

theorem keep_leaf (stored : IsStored (.leaf kind opts)) (present : v ≠ .null)
    (taken : Accepts path (.leaf kind opts) v)
    (whole : ∀ t, Value.Occurs (.date t) v → t.IsWhole) :
    (keep (.leaf kind opts) v).equal v = true ↔ v.IsKeepable := by
  have fault := fault?_of_accepts stored.virtuals present taken
  have survives (inert : v.IsInert) (placed : v.Bare ∨ IsTextual (.leaf kind opts)) :
      (keep (.leaf kind opts) v).equal v = true ↔ v.IsKeepable := by
    refine iff_of_true ?_ inert.isKeepable
    rw [keep_of_portable stored.virtuals taken inert.portable placed, inert.unsigned]
    cases inert <;> simp [Value.equal]
  cases kind with
  | mixed | object | enumeration elements | virtual field => exact stored.elim
  | number | integer =>
    cases v with
    | number x =>
      rw [keep_leaf_eq opts present rfl fun _ => rfl, Value.toJson, Number.equal_ofJson_toJson,
        Value.isKeepable_number]
    | _ => simp [Kind.fault?] at fault
  | date =>
    cases v with
    | date t => exact (Instant.equal_asDate_text (whole t .self)).trans Value.isKeepable_date.symm
    | _ => simp [Kind.fault?] at fault
  | buffer =>
    cases v with
    | buffer bytes => exact survives (.buffer bytes) (.inr trivial)
    | _ => simp [Kind.fault?] at fault
  | boolean =>
    cases v with
    | bool b => exact survives (.bool b) (.inl (.bool b))
    | _ => simp [Kind.fault?] at fault
  | string | id strategy =>
    cases v with
    | string s => exact survives (.string s) (.inl (.string s))
    | _ => simp [Kind.fault?] at fault

theorem keep_array (child : FieldType) (opts : Options) (items : List Value) :
    keep (.array child opts) (.array items) = .array (items.map child.keep) := by
  rw [keep, persist, Value.toJson, Value.toJsonItems_eq_map, Value.ofJson,
    Value.ofJsonItems_eq_map, restore]
  simp only [List.map_map]
  rfl

theorem keep_of_accepts (stored : type.IsStored) (taken : Accepts path type v)
    (whole : ∀ t, Value.Occurs (.date t) v → t.IsWhole) :
    (type.keep v).equal v = true ↔ v.IsKeepable := by
  induction type generalizing v with
  | leaf kind opts =>
    by_cases present : v = .null
    · subst present
      exact iff_of_true rfl Value.IsInert.null.isKeepable
    · exact keep_leaf stored present taken whole
  | array child opts ih =>
    cases v with
    | null => exact iff_of_true rfl Value.IsInert.null.isKeepable
    | array items =>
      have stored : child.IsStored := stored
      have each : ∀ v ∈ items, Accepts path child v := accepts_items stored.virtuals taken
      rw [keep_array, Value.equal, Value.equalItems_map_left, Value.isKeepable_array]
      exact forall₂_congr fun v mem =>
        ih stored (each v mem) fun t inner => whole t (.item mem inner)
    | _ => simp [Accepts, validate] at taken

/-- What a type of a stored kind lets pass survives a file exactly when its numbers are finite and
the years of its dates have no sign. -/
theorem keep_equal_iff (stored : type.IsStored) (taken : (validate path type v doc).1 = .ok w)
    (whole : ∀ t, Value.Occurs (.date t) v → t.IsWhole) :
    w = v ∧ ((type.restore (Value.ofJson (type.persist w).toJson)).equal v = true ↔
      (∀ x, Value.Occurs (.number x) v → x.isFinite = true) ∧
        ∀ t, Value.Occurs (.date t) v → 0 ≤ t.year ∧ t.year ≤ 9999) := by
  obtain ⟨taken, rfl⟩ := accepts_of_validate stored.virtuals taken
  exact ⟨rfl, (keep_of_accepts stored taken whole).trans
    ⟨fun h => ⟨h.finite, h.plain⟩, fun h => ⟨h.1, h.2⟩⟩⟩

/-- A leap second in an array of arrays, beside null. -/
theorem keep_equal_iff_leap :
    let type : FieldType := .array (.array (.ofKind .date) {}) {}
    let leap : Instant := ⟨-1, 1000000000⟩
    let v : Value := .array [.array [.date leap, .null], .null]
    (type.IsStored ∧ (validate ⟨"at", []⟩ type v []).1 = .ok v ∧
      ∀ t, Value.Occurs (.date t) v → t.IsWhole) ∧
      (type.restore (Value.ofJson (type.persist v).toJson)).equal v = true := by
  intro type leap v
  have only : ∀ w, Value.Occurs w v → w = .date leap ∨ w = .null ∨ ∃ items, w = .array items := by
    intro w inner
    simp only [v, Value.occurs_array, List.mem_cons, List.not_mem_nil, or_false] at inner
    rcases inner with rfl | ⟨_, rfl | rfl, inner⟩
    · simp
    · rcases Value.occurs_array.mp inner with rfl | ⟨_, mem, inner⟩
      · simp
      · simp only [List.mem_cons, List.not_mem_nil, or_false] at mem
        rcases mem with rfl | rfl <;> cases inner <;> simp
    · cases inner
      simp
  have dates : ∀ t, Value.Occurs (.date t) v → t = leap := fun t inner => by
    simpa using only _ inner
  have whole : ∀ t, Value.Occurs (.date t) v → t.IsWhole := fun t inner =>
    dates t inner ▸ ⟨by decide, by decide, by decide⟩
  have taken : (validate ⟨"at", []⟩ type v []).1 = .ok v := rfl
  have stored : type.IsStored := trivial
  refine ⟨⟨stored, taken, whole⟩, (keep_equal_iff stored taken whole).2.mpr ⟨?_, ?_⟩⟩
  · exact fun x inner => by simpa using only _ inner
  · intro t inner
    rw [dates t inner]
    decide

/-- The first instant of a year with five digits comes back as its text, and an infinite number
as null. -/
theorem keep_not_equal :
    let year : Instant := ⟨253402300800, 0⟩
    let far : Value := .date year
    let ratio : Value := .number (Number.infinity false)
    ((validate ⟨"at", []⟩ (.ofKind .date) far []).1 = .ok far ∧
      keep (.ofKind .date) far = .string "+10000-01-01T00:00:00.000Z" ∧
      (keep (.ofKind .date) far).equal far = false) ∧
    (validate ⟨"ratio", []⟩ (.ofKind .number) ratio []).1 = .ok ratio ∧
      keep (.ofKind .number) ratio = .null ∧
      (keep (.ofKind .number) ratio).equal ratio = false := by
  intro year far ratio
  have signed : ¬ year.HasPlainYear := by
    unfold Instant.HasPlainYear
    decide
  have stamp : year.text = "+10000-01-01T00:00:00.000Z" := by decide +kernel
  have text : keep (.ofKind .date) far = .string "+10000-01-01T00:00:00.000Z" := by
    show Value.asDate (.string year.text) = _
    rw [Value.asDate, Instant.ofText?_text_signed signed, ← stamp]
  have none : keep (.ofKind .number) ratio = .null := by
    have infinite : (Number.infinity false).exactInt? = .none ∧
        (Number.infinity false).isFinite = false := by decide +kernel
    rw [FieldType.ofKind, keep_leaf_eq {} (by simp [ratio]) rfl fun _ => rfl]
    simp [ratio, Value.toJson, Number.toJson, infinite, Value.ofJson]
  have taken : Kind.fault? .number ratio = .none := by
    have notNaN : (Number.infinity false).isNaN = false := by decide +kernel
    simp [ratio, Kind.fault?, notNaN]
  refine ⟨⟨rfl, text, by rw [text]; rfl⟩, ?_, none, by rw [none]; rfl⟩
  simp only [FieldType.ofKind, validate, taken]
  rfl

end FieldType

end DocStore
