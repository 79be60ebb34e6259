import DocStore.Proofs.Schema.Pass

/-!
# A value in its place

What the passes do to a field that holds something other than an object. Its own step coerces it and
takes or refuses it. The steps of other fields find nothing to change there, unless filling writes a
default below it or makes something else of the object around it, or a setter reaches there.
-/

namespace DocStore

open FieldType Fields

/-- Something is held, but no object. -/
structure Value.IsBlunt (v : Value) : Prop where
  present : v ≠ .null
  other : ∀ c, v ≠ .object c

theorem FieldType.coerce_isBlunt {type : FieldType} (blunt : v.IsBlunt)
    (present : type.coerce v ≠ .null) : (type.coerce v).IsBlunt :=
  ⟨present, coerce_ne_object blunt.other⟩

theorem Fields.at?_below_blunt (held : at? d p = some v) (blunt : v.IsBlunt)
    (below : q.IsBelow p) : at? d q = none := by
  refine at?_below below fun c object => ?_
  rw [held] at object
  exact blunt.other c (Option.some.inj object)

theorem Fields.at?_set_empty (below : q.IsBelow p) : (set d p (.object [])).at? q = none := by
  obtain ⟨r, rfl⟩ := Path.isBelow_iff_append.mp below
  rw [at?_append at?_set_self, at?_nil]

namespace Schema

/-- Filling the field writes a default below the path. -/
def FillsBelow (p : Path) (entry : Path × FieldType) : Prop :=
  entry.1.IsBelow p ∧ entry.2.isVirtual = false ∧ ∃ source, entry.2.default source ≠ .null

/-- If the field leads to the path, objects there stay what they are. -/
def KeepsObjects (p : Path) (entry : Path × FieldType) : Prop :=
  p.IsBelow entry.1 → entry.2.isVirtual = false → ∀ c, entry.2.coerce (.object c) = .object c

/-- If checking the field runs setters, they leave what is at the path as it is. -/
def LeavesAlone (p : Path) (entry : Path × FieldType) : Prop :=
  entry.2.virtuals ≠ [] →
    ∀ doc out, checkEntry entry doc = (.ok (), out) → out.at? p = doc.at? p

variable {entry : Path × FieldType} {entries before after : List (Path × FieldType)}
  {doc out : Fields} {p : Path} {v : Value} {type : FieldType} {source : Source} {schema : Schema}

-- ---------------------------------------------------------------------------
-- The field of the path and the others
-- ---------------------------------------------------------------------------

theorem others_of_declared (declared : schema.entries = before ++ (p, type) :: after)
    (distinct : (schema.entries.map Prod.fst).Nodup) :
    (∀ entry ∈ before, entry.1 ≠ p) ∧ ∀ entry ∈ after, entry.1 ≠ p := by
  rw [declared] at distinct
  simp only [List.map_append, List.map_cons, List.nodup_append, List.nodup_cons] at distinct
  obtain ⟨-, ⟨late, -⟩, early⟩ := distinct
  refine ⟨fun entry mem => early _ (List.mem_map_of_mem mem) p List.mem_cons_self, ?_⟩
  rintro entry mem rfl
  exact late (List.mem_map_of_mem mem)

theorem eq_of_declared (declared : schema.entries = before ++ (p, type) :: after)
    (distinct : (schema.entries.map Prod.fst).Nodup) (mem : entry ∈ schema.entries)
    (own : entry.1 = p) : entry = (p, type) := by
  obtain ⟨early, late⟩ := others_of_declared declared distinct
  rw [declared] at mem
  rcases List.mem_append.mp mem with mem | mem
  · exact absurd own (early entry mem)
  · rcases List.mem_cons.mp mem with same | mem
    · exact same
    · exact absurd own (late entry mem)

theorem find?_of_declared (declared : schema.entries = before ++ (p, type) :: after)
    (distinct : (schema.entries.map Prod.fst).Nodup) : schema.find? p = some type := by
  refine List.lookup_eq_some_iff.mpr ⟨before, after, declared, fun entry mem => ?_⟩
  exact bne_iff_ne.mpr ((others_of_declared declared distinct).1 entry mem).symm

theorem find?_of_mem (distinct : (schema.entries.map Prod.fst).Nodup)
    (mem : (p, type) ∈ schema.entries) : schema.find? p = some type := by
  obtain ⟨before, after, split⟩ := List.append_of_mem mem
  exact find?_of_declared split distinct

-- ---------------------------------------------------------------------------
-- Filling
-- ---------------------------------------------------------------------------

theorem cast_absent (absent : doc.at? entry.1 = none) (source : Source) :
    entry.2.cast source (doc.atD entry.1) = entry.2.default source := by
  unfold atD
  rw [absent]
  rfl

theorem fillEntry_unfilled (absent : doc.at? entry.1 = none)
    (unfilled : entry.2.default source = .null) : fillEntry source entry doc = doc := by
  cases stored : entry.2.isVirtual with
  | true => exact fillEntry_of_isVirtual stored
  | false =>
    rcases fillEntry_eq stored source doc with ⟨-, same⟩ | ⟨filled, -⟩
    · exact same
    · rw [cast_absent absent] at filled
      exact absurd unfilled filled

theorem fillEntry_filling (absent : doc.at? entry.1 = none) (stored : entry.2.isVirtual = false)
    (filled : entry.2.default source ≠ .null) :
    fillEntry source entry doc = doc.set entry.1 (entry.2.default source) := by
  rcases fillEntry_eq stored source doc with ⟨unfilled, -⟩ | ⟨-, set⟩
  · rw [cast_absent absent] at unfilled
    exact absurd unfilled filled
  · rwa [cast_absent absent] at set

/-- An object that leads to a value stays. -/
theorem fillEntry_leading (held : doc.at? p = some v) (keeps : KeepsObjects p entry)
    (above : p.IsBelow entry.1) : fillEntry source entry doc = doc := by
  cases stored : entry.2.isVirtual with
  | true => exact fillEntry_of_isVirtual stored
  | false =>
    obtain ⟨c, object⟩ := at?_of_isBelow above held
    rcases fillEntry_eq stored source doc with ⟨-, same⟩ | ⟨-, set⟩
    · exact same
    · rw [set, atD_of_at? object, cast_of_ne_null (by simp), keeps above stored c,
        set_eq_self object]

theorem at?_fillEntry_beside (ne : entry.1 ≠ p) (held : doc.at? p = some v) (blunt : v.IsBlunt)
    (bare : ¬ FillsBelow p entry) (keeps : KeepsObjects p entry) :
    (fillEntry source entry doc).at? p = some v := by
  cases stored : entry.2.isVirtual with
  | true => rwa [fillEntry_of_isVirtual stored]
  | false =>
    rcases Path.cases_lie entry.1 p with same | below | above | parts
    · exact absurd same ne
    · rwa [fillEntry_unfilled (at?_below_blunt held blunt below)]
      exact not_not.mp fun filled => bare ⟨below, stored, source, filled⟩
    · rwa [fillEntry_leading held keeps above]
    · rcases fillEntry_eq stored source doc with ⟨-, same⟩ | ⟨-, set⟩
      · rwa [same]
      · rwa [set, at?_set_of_parts parts]

theorem at?_fillFrom_beside (others : ∀ entry ∈ entries, entry.1 ≠ p) (held : doc.at? p = some v)
    (blunt : v.IsBlunt) (bare : ∀ entry ∈ entries, ¬ FillsBelow p entry)
    (keeps : ∀ entry ∈ entries, KeepsObjects p entry) (source : Source) (n : Nat) :
    (fillFrom source n entries doc).at? p = some v := by
  induction entries generalizing doc n with
  | nil => exact held
  | cons first rest ih =>
    obtain ⟨ne, others⟩ := List.forall_mem_cons.mp others
    obtain ⟨bareFirst, bare⟩ := List.forall_mem_cons.mp bare
    obtain ⟨keepsFirst, keeps⟩ := List.forall_mem_cons.mp keeps
    exact ih others (at?_fillEntry_beside ne held blunt bareFirst keepsFirst) bare keeps (n + 1)

theorem fillFrom_append (source : Source) (n : Nat) (before after : List (Path × FieldType))
    (doc : Fields) :
    fillFrom source n (before ++ after) doc =
      fillFrom source (n + before.length) after (fillFrom source n before doc) := by
  induction before generalizing n doc with
  | nil => rfl
  | cons first rest ih =>
    simp only [List.cons_append, fillFrom, ih, List.length_cons]
    rw [Nat.add_right_comm]
    rfl

/-- Filling does to the value what its own type does to it. -/
theorem at?_fill (declared : schema.entries = before ++ (p, type) :: after)
    (distinct : (schema.entries.map Prod.fst).Nodup) (stored : type.isVirtual = false)
    (bare : ∀ entry ∈ schema.entries, ¬ FillsBelow p entry)
    (keeps : ∀ entry ∈ schema.entries, KeepsObjects p entry)
    (held : doc.at? p = some v) (blunt : v.IsBlunt) (present : type.coerce v ≠ .null)
    (source : Source) : (schema.fill source doc).at? p = some (type.coerce v) := by
  have others := others_of_declared declared distinct
  simp only [declared, List.forall_mem_append, List.forall_mem_cons] at bare keeps
  unfold fill
  rw [declared, fillFrom_append]
  have early := at?_fillFrom_beside others.1 held blunt bare.1 keeps.1 source 0
  refine at?_fillFrom_beside others.2 ?_ (coerce_isBlunt blunt present) bare.2.2 keeps.2.2 source _
  exact (at?_fillEntry_self stored early blunt.present).resolve_right fun null => present null.1

-- ---------------------------------------------------------------------------
-- A default below the value
-- ---------------------------------------------------------------------------

theorem fillEntry_isOpen (isOpen : entry.2.IsOpen) (held : doc.at? entry.1 = some v)
    (present : v ≠ .null) : fillEntry source entry doc = doc := by
  cases stored : entry.2.isVirtual with
  | true => exact fillEntry_of_isVirtual stored
  | false =>
    rcases fillEntry_eq stored source doc with ⟨-, same⟩ | ⟨-, set⟩
    · exact same
    · rw [set, atD_of_at? held, cast_of_ne_null present, coerce_of_isOpen isOpen, set_eq_self held]

/-- As long as no default is written below the value, an empty object in its stead makes no other
difference. -/
theorem fillEntry_emptied (held : doc.at? p = some v) (blunt : v.IsBlunt)
    (isOpen : entry.1 = p → entry.2.IsOpen) (keeps : KeepsObjects p entry)
    (bare : ¬ FillsBelow p entry) (source : Source) :
    (fillEntry source entry doc).at? p = some v ∧
      fillEntry source entry (doc.set p (.object [])) =
        (fillEntry source entry doc).set p (.object []) := by
  have emptied : (doc.set p (.object [])).at? p = some (.object []) := at?_set_self
  cases stored : entry.2.isVirtual with
  | true => exact ⟨by rwa [fillEntry_of_isVirtual stored], by simp [fillEntry_of_isVirtual stored]⟩
  | false =>
    rcases Path.cases_lie entry.1 p with same | below | above | parts
    · have isOpen := isOpen same
      rw [← same] at held emptied ⊢
      rw [fillEntry_isOpen isOpen held blunt.present, fillEntry_isOpen isOpen emptied (by simp)]
      exact ⟨held, rfl⟩
    · have unfilled : entry.2.default source = .null :=
        not_not.mp fun filled => bare ⟨below, stored, source, filled⟩
      rw [fillEntry_unfilled (at?_below_blunt held blunt below) unfilled,
        fillEntry_unfilled (at?_set_empty below) unfilled]
      exact ⟨held, rfl⟩
    · rw [fillEntry_leading held keeps above, fillEntry_leading emptied keeps above]
      exact ⟨held, rfl⟩
    · have same : (doc.set p (.object [])).atD entry.1 = doc.atD entry.1 := by
        simp only [atD, at?_set_of_parts parts.symm]
      rcases fillEntry_eq stored source doc with ⟨null, unset⟩ | ⟨cast, set⟩
      · rcases fillEntry_eq stored source (doc.set p (.object [])) with ⟨-, unset'⟩ | ⟨cast, -⟩
        · rw [unset, unset']
          exact ⟨held, rfl⟩
        · exact absurd (same ▸ null) cast
      · rcases fillEntry_eq stored source (doc.set p (.object [])) with ⟨null, -⟩ | ⟨-, set'⟩
        · exact absurd (same ▸ null) cast
        · rw [set, set', same, set_comm parts.symm held, at?_set_of_parts parts]
          exact ⟨held, rfl⟩

/-- Where a default is written below a value that is no object, the value might as well have been an
empty object. -/
theorem fillFrom_emptied (held : doc.at? p = some v) (blunt : v.IsBlunt)
    (isOpen : ∀ entry ∈ entries, entry.1 = p → entry.2.IsOpen)
    (keeps : ∀ entry ∈ entries, KeepsObjects p entry)
    (fills : ∃ entry ∈ entries, FillsBelow p entry) (n : Nat) :
    fillFrom source n entries (doc.set p (.object [])) = fillFrom source n entries doc := by
  induction entries generalizing doc n with
  | nil => simp at fills
  | cons first rest ih =>
    obtain ⟨openFirst, isOpen⟩ := List.forall_mem_cons.mp isOpen
    obtain ⟨keepsFirst, keeps⟩ := List.forall_mem_cons.mp keeps
    simp only [fillFrom]
    by_cases here : FillsBelow p first
    · obtain ⟨below, stored, other, filled⟩ := here
      have filled : first.2.default (source.branch n) ≠ .null :=
        fun unfilled => filled (default_eq_null unfilled other)
      rw [fillEntry_filling (at?_below_blunt held blunt below) stored filled,
        fillEntry_filling (at?_set_empty below) stored filled, set_set_below below]
      exact fun c object => blunt.other c (Option.some.inj (held.symm.trans object))
    · obtain ⟨stays, step⟩ :=
        fillEntry_emptied held blunt openFirst keepsFirst here (source.branch n)
      have fills : ∃ entry ∈ rest, FillsBelow p entry := by
        simpa [here] using fills
      rw [step]
      exact ih stays isOpen keeps fills (n + 1)

-- ---------------------------------------------------------------------------
-- Checking
-- ---------------------------------------------------------------------------

theorem at?_checkEntry_beside (ne : entry.1 ≠ p) (alone : LeavesAlone p entry)
    (held : doc.at? p = some v) (blunt : v.IsBlunt) (ok : checkEntry entry doc = (.ok (), out)) :
    out.at? p = some v := by
  by_cases stored : entry.2.virtuals = []
  · obtain ⟨-, ⟨rfl, -⟩ | ⟨rfl, null⟩⟩ := checkEntry_ok stored ok
    · exact held
    · rcases at?_remove_null null ne with same | ⟨-, c, c', object, -⟩
      · exact same.trans held
      · rw [held] at object
        exact absurd (Option.some.inj object) (blunt.other c)
  · exact (alone stored doc out ok).trans held

theorem checkEntries_append (ok : checkEntries (before ++ after) doc = (.ok (), out)) :
    ∃ next, checkEntries before doc = (.ok (), next) ∧
      checkEntries after next = (.ok (), out) := by
  induction before generalizing doc with
  | nil => exact ⟨doc, rfl, ok⟩
  | cons first rest ih =>
    obtain ⟨mid, step, ok⟩ := checkEntries_cons ok
    obtain ⟨next, early, late⟩ := ih ok
    exact ⟨next, by simp only [checkEntries, step, early], late⟩

/-- The value is checked as it is. -/
theorem accepts_of_check (declared : schema.entries = before ++ (p, type) :: after)
    (stored : type.virtuals = []) (others : ∀ entry ∈ before, entry.1 ≠ p)
    (alone : ∀ entry ∈ before, LeavesAlone p entry) (held : doc.at? p = some v)
    (blunt : v.IsBlunt) (ok : schema.check doc = (.ok (), out)) : type.Accepts p v := by
  unfold check at ok
  rw [declared] at ok
  obtain ⟨next, early, late⟩ := checkEntries_append ok
  obtain ⟨_, own, -⟩ := checkEntries_cons late
  have here : next.at? p = some v :=
    checkEntries_induction (P := fun doc => doc.at? p = some v)
      (fun entry mem _ _ held =>
        at?_checkEntry_beside (others entry mem) (alone entry mem) held blunt) early held
  obtain ⟨taken, -⟩ := checkEntry_ok stored own
  rwa [atD_of_at? here] at taken

end Schema

end DocStore
