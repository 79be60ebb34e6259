import DocStore.Proofs.Schema.Abreast
import DocStore.Proofs.Schema.Declare

/-!
# Filling twice

What filling leaves of a field its own type leaves alone, and so does every later step, unless the
field was absent and a default above it brings it along. Where no default comes late in this way,
filling a second time does nothing; where one does, some document shows it.
-/

namespace DocStore

open FieldType Fields

/-- An id that is required; where it is absent a fresh one is drawn. -/
def FieldType.IsRequiredId : FieldType → Prop
  | .leaf (.id _) options => options.required = true
  | _ => False

theorem FieldType.IsOpen.isVirtual {type : FieldType} (isOpen : type.IsOpen) :
    type.isVirtual = false := by
  cases type with
  | array child options => rfl
  | leaf kind options => cases kind <;> first | rfl | exact isOpen.elim

theorem FieldType.IsOpen.not_isRequiredId {type : FieldType} (isOpen : type.IsOpen) :
    ¬ type.IsRequiredId := by
  cases type with
  | array child options => exact id
  | leaf kind options => cases kind <;> first | exact id | exact isOpen.elim

theorem Fields.atD_set_ne_null (held : atD d p ≠ .null) (outside : ¬ p.IsBelow q)
    (present : p = q → v ≠ .null) : atD (set d q v) p ≠ .null := by
  rcases Path.cases_lie q p with rfl | below | above | parts
  · rw [atD_of_at? at?_set_self]
    exact present rfl
  · obtain ⟨c, object⟩ : ∃ c, at? (set d q v) p = some (.object c) := at?_set_of_isBelow below
    simp [atD_of_at? object]
  · exact absurd above outside
  · rwa [atD, at?_set_of_parts parts]

namespace Schema

/-- What lies above a declared path may be any object, and every default is a constant that its type
leaves as it is. -/
structure Firm (schema : Schema) : Prop where
  distinct : (schema.entries.map Prod.fst).Nodup
  isOpen : ∀ entry ∈ schema.entries, ∀ other ∈ schema.entries,
    other.1.IsBelow entry.1 → entry.2.IsOpen
  constant : ∀ entry ∈ schema.entries, ∀ d, entry.2.options.default = some d →
    ∃ v, d = .fixed v ∧ entry.2.coerce v = v

/-- The path of the id and those of the required ids. -/
def Identifies (schema : Schema) (p : Path) : Prop :=
  p = idPath ∨ ∃ entry ∈ schema.entries, entry.1 = p ∧ entry.2.IsRequiredId

/-- The document has all its ids. -/
def Carries (schema : Schema) (doc : Fields) : Prop :=
  ∀ p, schema.Identifies p → doc.atD p ≠ .null

/-- A default comes late. It may be written, for no id and no earlier default stands where it does
or below, and a field below it that came before finds in it what is not in the form of its type. -/
structure ComesLate (schema : Schema) (before : List (Path × FieldType)) (late : Path × FieldType) :
    Prop where
  vacant : ∀ p, schema.Identifies p → p ≠ late.1 ∧ ¬ p.IsBelow late.1
  bare : ∀ entry ∈ before, ¬ FillsBelow late.1 entry
  rough : ∃ entry ∈ before, entry.2.isVirtual = false ∧ entry.1.IsBelow late.1 ∧
    ∃ source w, (Fields.set [] late.1 (late.2.default source)).at? entry.1 = some w ∧
      entry.2.coerce w ≠ w

def Timely (schema : Schema) : Prop :=
  ∀ before late after, schema.entries = before ++ late :: after → ¬ schema.ComesLate before late

/-- Filling the field finds nothing to do. -/
def Finished (entry : Path × FieldType) (doc : Fields) : Prop :=
  ∀ source, entry.2.cast source (doc.atD entry.1) = doc.atD entry.1

/-- What is drawn for a field is not drawn again: nothing is drawn at all, or what is declared above
may be any object. -/
def DrawsOnce (entries : List (Path × FieldType)) (entry : Path × FieldType) : Prop :=
  entry.2.IsFixed ∨ ∀ other ∈ entries, entry.1.IsBelow other.1 → other.2.IsOpen

variable {schema : Schema} {entry other late : Path × FieldType}
  {entries done before after rest : List (Path × FieldType)} {doc : Fields} {p : Path} {v w : Value}
  {source : Source}

-- ---------------------------------------------------------------------------
-- Ids and defaults
-- ---------------------------------------------------------------------------

theorem Firm.default_steady (firm : schema.Firm) (mem : entry ∈ schema.entries) :
    entry.2.IsRequiredId ∨ entry.2.IsFixed ∧
      ∀ source, entry.2.coerce (entry.2.default source) = entry.2.default source := by
  have constant := firm.constant entry mem
  obtain ⟨path, type⟩ := entry
  simp only at constant ⊢
  cases given : type.options.default with
  | some d =>
    obtain ⟨v, rfl, same⟩ := constant d given
    have fixed (source : Source) : type.default source = v := by
      simp only [FieldType.default, given]
    exact .inr ⟨fun first second => by rw [fixed, fixed], fun source => by rw [fixed, same]⟩
  | none =>
    cases type with
    | array child options =>
      have fixed (source : Source) :
          FieldType.default source (.array child options) = .array [] := by
        simp only [FieldType.default, given]
      exact .inr ⟨fun first second => by rw [fixed, fixed], fun source => by rw [fixed]; rfl⟩
    | leaf kind options =>
      by_cases drawn : IsRequiredId (.leaf kind options)
      · exact .inl drawn
      · have fixed (source : Source) :
            FieldType.default source (.leaf kind options) = .null := by
          simp only [FieldType.default, given]
          cases kind with
          | id strategy =>
            have optional : options.required = false := by simpa [IsRequiredId] using drawn
            simp [optional]
          | _ => rfl
        exact .inr ⟨fun first second => by rw [fixed, fixed], fun source => by rw [fixed]; rfl⟩

theorem carries_of_id (only : ∀ entry ∈ schema.entries, entry.2.IsRequiredId → entry.1 = idPath)
    (named : doc.atD idPath = .string text) : schema.Carries doc := by
  have held : doc.atD idPath ≠ .null := by simp [named]
  rintro p (rfl | ⟨entry, mem, rfl, drawn⟩)
  · exact held
  · rwa [only entry mem drawn]

/-- A field whose default is drawn anew holds something in a document that has its ids. -/
theorem Firm.steady (firm : schema.Firm) (mem : entry ∈ schema.entries)
    (carries : schema.Carries doc) : doc.atD entry.1 ≠ .null ∨ entry.2.IsFixed ∧
      ∀ source, entry.2.coerce (entry.2.default source) = entry.2.default source :=
  (firm.default_steady mem).imp_left fun drawn => carries entry.1 (.inr ⟨entry, mem, rfl, drawn⟩)

theorem Firm.carries_fillEntry (firm : schema.Firm) (mem : entry ∈ schema.entries)
    (carries : schema.Carries doc) (source : Source) :
    schema.Carries (fillEntry source entry doc) := by
  intro p given
  refine atD_fillEntry_ne_null (fun below => ?_) (carries p given)
  rcases given with rfl | ⟨other, memOther, rfl, -⟩
  · exact absurd below Path.not_isBelow_single
  · exact firm.isOpen entry mem other memOther below

/-- A field that is held stays held, if only objects are written above it. -/
theorem atD_fillFrom_ne_null (isOpen : ∀ entry ∈ entries, p.IsBelow entry.1 → entry.2.IsOpen)
    (held : doc.atD p ≠ .null) (n : Nat) : (fillFrom source n entries doc).atD p ≠ .null := by
  induction entries generalizing doc n with
  | nil => exact held
  | cons entry rest ih =>
    obtain ⟨openFirst, isOpen⟩ := List.forall_mem_cons.mp isOpen
    exact ih isOpen (atD_fillEntry_ne_null openFirst held) (n + 1)

/-- Where nothing has to be drawn, or what is held stays, filling is the same whatever would be
drawn. -/
theorem fillFrom_eq_of_held
    (drawn : ∀ entry ∈ entries, entry.2.isVirtual = false → entry.2.IsFixed ∨
      doc.atD entry.1 ≠ .null ∧ ∀ other ∈ entries, entry.1.IsBelow other.1 → other.2.IsOpen)
    (first second : Source) (n k : Nat) :
    fillFrom first n entries doc = fillFrom second k entries doc := by
  induction entries generalizing doc n k with
  | nil => rfl
  | cons entry rest ih =>
    obtain ⟨drawnFirst, drawnRest⟩ := List.forall_mem_cons.mp drawn
    have same : fillEntry (first.branch n) entry doc = fillEntry (second.branch k) entry doc := by
      cases stored : entry.2.isVirtual with
      | true => rw [fillEntry_of_isVirtual stored, fillEntry_of_isVirtual stored]
      | false =>
        simp only [fillEntry, cast_eq ((drawnFirst stored).imp_right And.left) rfl
          (first.branch n) (second.branch k)]
    rw [fillFrom, fillFrom, same]
    refine ih (fun other mem stored => (drawnRest other mem stored).imp_right ?_) (n + 1) (k + 1)
    rintro ⟨held, isOpen⟩
    obtain ⟨openFirst, isOpen⟩ := List.forall_mem_cons.mp isOpen
    exact ⟨atD_fillEntry_ne_null openFirst held, isOpen⟩

/-- Where no id has to be drawn, filling is the same whatever would be drawn. -/
theorem Firm.fillFrom_eq (firm : schema.Firm) (declared : ∀ entry ∈ entries, entry ∈ schema.entries)
    (carries : schema.Carries doc) (first second : Source) (n : Nat) :
    fillFrom first n entries doc = fillFrom second n entries doc := by
  refine fillFrom_eq_of_held (fun entry mem _ => ?_) first second n n
  rcases firm.steady (declared entry mem) carries with held | ⟨fixed, -⟩
  · exact .inr ⟨held, fun other memOther =>
      firm.isOpen other (declared other memOther) entry (declared entry mem)⟩
  · exact .inl fixed

/-- After a pass every field that is drawn has something in it. -/
theorem atD_fillFrom_of_drawn
    (once : ∀ entry ∈ entries, entry.2.isVirtual = false → DrawsOnce entries entry) (n : Nat) :
    ∀ entry ∈ entries, entry.2.isVirtual = false → entry.2.IsFixed ∨
      (fillFrom source n entries doc).atD entry.1 ≠ .null := by
  induction entries generalizing doc n with
  | nil => simp
  | cons first rest ih =>
    obtain ⟨onceFirst, onceRest⟩ := List.forall_mem_cons.mp once
    refine List.forall_mem_cons.mpr ⟨fun stored => ?_, ?_⟩
    · rcases onceFirst stored with fixed | isOpen
      · exact .inl fixed
      by_cases null : (fillEntry (source.branch n) first doc).atD first.1 = .null
      · have unfilled := fillEntry_filled stored null
        exact .inl fun source other => by rw [unfilled source, unfilled other]
      · exact .inr (atD_fillFrom_ne_null (List.forall_mem_cons.mp isOpen).2 null (n + 1))
    · refine ih (fun entry mem stored => (onceRest entry mem stored).imp_right ?_) (n + 1)
      exact fun isOpen other memOther => isOpen other (List.mem_cons_of_mem _ memOther)

/-- What was filled once is filled again in one way only. -/
theorem fill_fill_eq
    (once : ∀ entry ∈ schema.entries, entry.2.isVirtual = false → DrawsOnce schema.entries entry)
    (first second third : Source) :
    schema.fill second (schema.fill first doc) = schema.fill third (schema.fill first doc) := by
  refine fillFrom_eq_of_held (fun entry mem stored => ?_) second third 0 0
  have drawn : entry.2.IsFixed ∨ (schema.fill first doc).atD entry.1 ≠ .null :=
    atD_fillFrom_of_drawn once 0 entry mem stored
  rcases once entry mem stored with fixed | isOpen
  · exact .inl fixed
  · exact drawn.imp_right fun held => ⟨held, isOpen⟩

-- ---------------------------------------------------------------------------
-- Finished fields
-- ---------------------------------------------------------------------------

theorem Finished.fillEntry_eq_self (finished : entry.2.isVirtual = false → Finished entry doc)
    (source : Source) : fillEntry source entry doc = doc := by
  cases stored : entry.2.isVirtual with
  | true => exact fillEntry_of_isVirtual stored
  | false =>
    have same := finished stored source
    rcases fillEntry_eq stored source doc with ⟨-, idle⟩ | ⟨present, set⟩
    · exact idle
    · rw [set, same]
      exact set_eq_self (at?_eq_some_atD (same ▸ present))

theorem finished_fillEntry (stored : entry.2.isVirtual = false)
    (steady : doc.atD entry.1 ≠ .null ∨ entry.2.IsFixed ∧
      ∀ source, entry.2.coerce (entry.2.default source) = entry.2.default source) :
    Finished entry (fillEntry source entry doc) := by
  intro again
  rcases fillEntry_eq stored source doc with ⟨none, same⟩ | ⟨some, set⟩
  · rw [same]
    by_cases null : doc.atD entry.1 = .null
    · rw [null] at none ⊢
      exact default_eq_null none again
    · rw [cast_of_ne_null null] at none
      exact absurd none (coerce_ne_null stored null)
  · rw [set, atD_of_at? at?_set_self, cast_of_ne_null some]
    by_cases null : doc.atD entry.1 = .null
    · rw [null]
      exact (steady.resolve_left (not_not.mpr null)).2 source
    · rw [cast_of_ne_null null, coerce_coerce]

/-- Another step leaves a finished field finished, unless it brings it along. -/
theorem Finished.fillEntry (finished : Finished other doc) (ne : entry.1 ≠ other.1)
    (openOther : entry.1.IsBelow other.1 → other.2.IsOpen)
    (openEntry : other.1.IsBelow entry.1 → entry.2.IsOpen)
    (fits : other.1.IsBelow entry.1 → doc.atD entry.1 = .null → ∀ w,
      (Fields.set [] entry.1 (entry.2.default source)).at? other.1 = some w →
        other.2.coerce w = w) :
    Finished other (Schema.fillEntry source entry doc) := by
  cases stored : entry.2.isVirtual with
  | true => rwa [fillEntry_of_isVirtual stored]
  | false =>
    rcases fillEntry_eq stored source doc with ⟨-, same⟩ | ⟨-, set⟩
    · rwa [same]
    rcases Path.cases_lie entry.1 other.1 with same | below | above | parts
    · exact absurd same ne
    · intro again
      obtain ⟨c, object⟩ : ∃ c,
          (Schema.fillEntry source entry doc).at? other.1 = some (.object c) := by
        rw [set]
        exact at?_set_of_isBelow below
      rw [atD_of_at? object, cast_of_ne_null (by simp), coerce_of_isOpen (openOther below)]
    · by_cases null : doc.atD entry.1 = .null
      · intro again
        have unfilled : other.2.default again = .null := by
          have same := finished again
          rwa [atD, at?_eq_none_of_isBelow above null] at same
        have written : (Schema.fillEntry source entry doc).at? other.1 =
            (Fields.set [] entry.1 (entry.2.default source)).at? other.1 := by
          rw [set, null]
          exact at?_set_within (.inr above)
        by_cases brought : (Schema.fillEntry source entry doc).atD other.1 = .null
        · rw [brought]
          exact unfilled
        · rw [cast_of_ne_null brought]
          exact fits above null _ (written ▸ at?_eq_some_atD brought)
      · rwa [fillEntry_isOpen (openEntry above) (at?_eq_some_atD null) null]
    · intro again
      have same : (Schema.fillEntry source entry doc).atD other.1 = doc.atD other.1 := by
        rw [set]
        simp only [atD, at?_set_of_parts parts]
      rw [same]
      exact finished again

/-- A default that does not come late brings along only what is in form. -/
theorem coerce_of_timely (timely : ¬ schema.ComesLate before late) (carries : schema.Carries doc)
    (finished : ∀ entry ∈ before, entry.2.isVirtual = false → Finished entry doc)
    (mem : entry ∈ before) (stored : entry.2.isVirtual = false) (below : entry.1.IsBelow late.1)
    (null : doc.atD late.1 = .null) (w : Value)
    (brought : (Fields.set [] late.1 (late.2.default source)).at? entry.1 = some w) :
    entry.2.coerce w = w := by
  by_contra rough
  refine timely ⟨fun p given => ?_, ?_, entry, mem, stored, below, source, w, brought, rough⟩
  · have held := carries p given
    refine ⟨fun same => held (same ▸ null), fun under => held ?_⟩
    simp [atD, at?_eq_none_of_isBelow under null]
  · rintro other memOther ⟨under, storedOther, drawing, filled⟩
    have same := finished other memOther storedOther drawing
    rw [atD, at?_eq_none_of_isBelow under null] at same
    exact filled same

/-- After a pass without late defaults every field is finished. -/
theorem Firm.finished_fillFrom (firm : schema.Firm) (whole : schema.entries = done ++ rest)
    (timely : schema.Timely) (carries : schema.Carries doc)
    (finished : ∀ entry ∈ done, entry.2.isVirtual = false → Finished entry doc) (n : Nat) :
    ∀ entry ∈ schema.entries, entry.2.isVirtual = false →
      Finished entry (fillFrom source n rest doc) := by
  induction rest generalizing done doc n with
  | nil =>
    rw [whole, List.append_nil]
    exact finished
  | cons entry rest ih =>
    have member : entry ∈ schema.entries := by simp [whole]
    have earlier : ∀ other ∈ done, other ∈ schema.entries := fun other mem => by simp [whole, mem]
    have apart : ∀ other ∈ done, other.1 ≠ entry.1 := (others_of_declared whole firm.distinct).1
    have next : schema.entries = (done ++ [entry]) ++ rest := by simp [whole]
    refine ih next (firm.carries_fillEntry member carries _) ?_ (n + 1)
    refine List.forall_mem_append.mpr ⟨fun other mem stored => ?_, ?_⟩
    · refine (finished other mem stored).fillEntry (apart other mem).symm
        (firm.isOpen other (earlier other mem) entry member)
        (firm.isOpen entry member other (earlier other mem)) fun below null => ?_
      exact coerce_of_timely (timely done entry rest whole) carries finished mem stored below null
    · refine List.forall_mem_singleton.mpr fun stored => ?_
      exact finished_fillEntry stored (firm.steady member carries)

theorem Firm.fill_fill (firm : schema.Firm)
    (timely : schema.Timely) (carries : schema.Carries doc) (first second : Source) :
    schema.fill second (schema.fill first doc) = schema.fill first doc := by
  have finished : ∀ entry ∈ schema.entries, entry.2.isVirtual = false →
      Finished entry (schema.fill first doc) :=
    firm.finished_fillFrom (List.nil_append _).symm timely carries (by simp) 0
  exact fillFrom_eq_self (fun entry mem => Finished.fillEntry_eq_self (finished entry mem)) 0

-- ---------------------------------------------------------------------------
-- A default that comes late
-- ---------------------------------------------------------------------------

theorem InOrder.timely (inOrder : schema.InOrder) : schema.Timely := by
  rintro before late after whole ⟨-, -, entry, mem, -, below, -⟩
  have order := inOrder.order
  rw [whole, List.map_append, List.pairwise_append] at order
  exact order.2.2 _ (List.mem_map_of_mem mem) late.1 (by simp) below

theorem at?_fillEntry_held (ne : entry.1 ≠ p) (isOpen : p.IsBelow entry.1 → entry.2.IsOpen)
    (idle : entry.1.IsBelow p → fillEntry source entry doc = doc) (held : doc.at? p = some v) :
    (fillEntry source entry doc).at? p = some v := by
  rcases Path.cases_lie entry.1 p with same | below | above | parts
  · exact absurd same ne
  · rwa [idle below]
  · obtain ⟨c, object⟩ := at?_of_isBelow above held
    rwa [fillEntry_isOpen (isOpen above) object (by simp)]
  · cases stored : entry.2.isVirtual with
    | true => rwa [fillEntry_of_isVirtual stored]
    | false =>
      rcases fillEntry_eq stored source doc with ⟨-, same⟩ | ⟨-, set⟩
      · rwa [same]
      · rwa [set, at?_set_of_parts parts]

/-- What is held at a path stays there while nothing below it has anything to do. -/
theorem at?_fillFrom_held (others : ∀ entry ∈ entries, entry.1 ≠ p)
    (isOpen : ∀ entry ∈ entries, p.IsBelow entry.1 → entry.2.IsOpen)
    (idle : ∀ entry ∈ entries, entry.1.IsBelow p → ∀ source doc, doc.at? p = some v →
      fillEntry source entry doc = doc)
    (held : doc.at? p = some v) (n : Nat) : (fillFrom source n entries doc).at? p = some v := by
  induction entries generalizing doc n with
  | nil => exact held
  | cons entry rest ih =>
    obtain ⟨ne, others⟩ := List.forall_mem_cons.mp others
    obtain ⟨openFirst, isOpen⟩ := List.forall_mem_cons.mp isOpen
    obtain ⟨idleFirst, idle⟩ := List.forall_mem_cons.mp idle
    refine ih others isOpen idle ?_ (n + 1)
    exact at?_fillEntry_held ne openFirst (fun below => idleFirst below _ doc held) held

theorem Firm.exists_carries (firm : schema.Firm) : ∃ doc, schema.Carries doc := by
  have all : ∀ entries : List (Path × FieldType), (∀ entry ∈ entries, entry ∈ schema.entries) →
      ∃ doc : Fields, doc.atD idPath ≠ .null ∧
        ∀ entry ∈ entries, entry.2.IsRequiredId → doc.atD entry.1 ≠ .null := by
    intro entries declared
    induction entries with
    | nil =>
      have named : atD [("_id", .string "a")] idPath = .string "a" := rfl
      exact ⟨[("_id", .string "a")], by simp [named], by simp⟩
    | cons entry rest ih =>
      obtain ⟨member, declared⟩ := List.forall_mem_cons.mp declared
      obtain ⟨doc, named, given⟩ := ih declared
      by_cases drawn : entry.2.IsRequiredId
      · refine ⟨doc.set entry.1 (.string "a"), ?_, List.forall_mem_cons.mpr ⟨fun _ => ?_, ?_⟩⟩
        · exact atD_set_ne_null named Path.not_isBelow_single (by simp)
        · simp [atD_of_at? at?_set_self]
        · intro other mem required
          refine atD_set_ne_null (given other mem required) (fun below => ?_) (by simp)
          exact (firm.isOpen entry member other (declared other mem) below).not_isRequiredId drawn
      · exact ⟨doc, named, List.forall_mem_cons.mpr ⟨fun required => absurd required drawn, given⟩⟩
  obtain ⟨doc, named, given⟩ := all schema.entries fun _ mem => mem
  refine ⟨doc, ?_⟩
  rintro p (rfl | ⟨entry, mem, rfl, drawn⟩)
  · exact named
  · exact given entry mem drawn

/-- A field with no field below it is changed by its own step alone. -/
theorem Firm.at?_fillFrom_lowest (firm : schema.Firm) (mem : entry ∈ schema.entries)
    (lowest : ∀ other ∈ schema.entries, ¬ other.1.IsBelow entry.1)
    (declared : ∀ other ∈ entries, other ∈ schema.entries)
    (others : ∀ other ∈ entries, other.1 ≠ entry.1) (held : doc.at? entry.1 = some v) (n : Nat) :
    (fillFrom source n entries doc).at? entry.1 = some v :=
  at?_fillFrom_held others
    (fun other memOther => firm.isOpen other (declared other memOther) entry mem)
    (fun other memOther under => absurd under (lowest other (declared other memOther))) held n

theorem Firm.at?_fill_lowest (firm : schema.Firm) (mem : entry ∈ schema.entries)
    (stored : entry.2.isVirtual = false)
    (lowest : ∀ other ∈ schema.entries, ¬ other.1.IsBelow entry.1)
    (held : doc.at? entry.1 = some v) (present : v ≠ .null) (source : Source) :
    (schema.fill source doc).at? entry.1 = some (entry.2.coerce v) := by
  obtain ⟨earlier, later, split⟩ := List.append_of_mem mem
  have apart : (∀ other ∈ earlier, other.1 ≠ entry.1) ∧ ∀ other ∈ later, other.1 ≠ entry.1 :=
    others_of_declared split firm.distinct
  have early : (fillFrom source 0 earlier doc).at? entry.1 = some v :=
    firm.at?_fillFrom_lowest mem lowest (fun other mem => by simp [split, mem]) apart.1 held 0
  rw [fill, split, fillFrom_append, fillFrom]
  refine firm.at?_fillFrom_lowest mem lowest (fun other mem => by simp [split, mem]) apart.2 ?_ _
  exact (at?_fillEntry_self stored early present).resolve_right fun null =>
    coerce_ne_null stored present null.1

/-- The place of a late default stays empty until its turn. -/
theorem Firm.at?_fillFrom_vacant (firm : schema.Firm)
    (whole : schema.entries = before ++ late :: after)
    (bare : ∀ entry ∈ before, ¬ FillsBelow late.1 entry) (null : doc.at? late.1 = some .null)
    (n : Nat) : (fillFrom source n before doc).at? late.1 = some .null := by
  have apart : ∀ other ∈ before, other.1 ≠ late.1 := (others_of_declared whole firm.distinct).1
  refine at?_fillFrom_held apart (fun other mem =>
    firm.isOpen other (by simp [whole, mem]) late (by simp [whole])) ?_ null n
  intro other mem under source doc null
  cases stored : other.2.isVirtual with
  | true => exact fillEntry_of_isVirtual stored
  | false =>
    refine fillEntry_unfilled (at?_eq_none_of_isBelow under (atD_of_at? null)) ?_
    by_contra filled
    exact bare other mem ⟨under, stored, source, filled⟩

/-- A default that is written where nothing is brings along what it holds below. -/
theorem at?_fillEntry_brought (stored : late.2.isVirtual = false) (empty : doc.atD late.1 = .null)
    (below : p.IsBelow late.1)
    (brought : (Fields.set [] late.1 (late.2.default source)).at? p = some w) :
    (fillEntry source late doc).at? p = some w := by
  rcases fillEntry_eq stored source doc with ⟨none, -⟩ | ⟨-, set⟩
  · have unfilled : late.2.default source = .null := by rwa [empty] at none
    rw [unfilled, at?_below below (by simp)] at brought
    cases brought
  · rw [set, empty]
    exact (at?_set_within (.inr below)).trans brought

/-- Where a default comes late, the document that has its ids and null in the place of the default
changes once more when it is filled again. -/
theorem Firm.fill_fill_ne (firm : schema.Firm) (whole : schema.entries = before ++ late :: after)
    (comes : schema.ComesLate before late) :
    ∃ doc, schema.Carries doc ∧
      ∀ first second, schema.fill second (schema.fill first doc) ≠ schema.fill first doc := by
  obtain ⟨vacant, bare, entry, mem, stored, below, source, w, brought, rough⟩ := comes
  have memLate : late ∈ schema.entries := by simp [whole]
  have memEntry : entry ∈ schema.entries := by simp [whole, mem]
  have openLate := firm.isOpen late memLate entry memEntry below
  have fixed := ((firm.default_steady memLate).resolve_left openLate.not_isRequiredId).1
  have lowest (other : Path × FieldType) (memOther : other ∈ schema.entries) :
      ¬ other.1.IsBelow entry.1 := fun under =>
    rough (coerce_of_isOpen (firm.isOpen entry memEntry other memOther under) w)
  have present : w ≠ .null := by
    rintro rfl
    exact rough (by cases entry.2 <;> rfl)
  have later : ∀ other ∈ after, other.1 ≠ entry.1 := by
    intro other memOther same
    have distinct := firm.distinct
    rw [whole, List.map_append, List.map_cons, List.nodup_append] at distinct
    exact distinct.2.2 entry.1 (List.mem_map_of_mem mem) other.1
      (List.mem_cons_of_mem _ (List.mem_map_of_mem memOther)) same.symm
  obtain ⟨base, carries⟩ := firm.exists_carries
  refine ⟨base.set late.1 .null, fun p given => ?_, fun first second same => ?_⟩
  · exact atD_set_ne_null (carries p given) (vacant p given).2 fun same =>
      absurd same (vacant p given).1
  -- the first pass brings the field along after its turn, the second one puts it into form
  have brings : (schema.fill first (base.set late.1 .null)).at? entry.1 = some w := by
    rw [fill, whole, fillFrom_append, fillFrom]
    have declared : ∀ other ∈ after, other ∈ schema.entries := fun other mem => by simp [whole, mem]
    refine firm.at?_fillFrom_lowest memEntry lowest declared later ?_ _
    refine at?_fillEntry_brought openLate.isVirtual (atD_of_at? ?_) below ?_
    · exact firm.at?_fillFrom_vacant whole bare at?_set_self 0
    · rwa [fixed source] at brought
  have forms := firm.at?_fill_lowest memEntry stored lowest brings present second
  rw [same, brings] at forms
  exact rough (Option.some.inj forms).symm

/-- Filling a second time does nothing to any document with its ids exactly if no default comes
late. -/
theorem Firm.fill_fill_iff (firm : schema.Firm) :
    (∀ doc, schema.Carries doc → ∀ first second,
      schema.fill second (schema.fill first doc) = schema.fill first doc) ↔ schema.Timely := by
  refine ⟨fun same before late after whole comes => ?_, fun timely doc => firm.fill_fill timely⟩
  have ⟨_, _, _, _, _, _, source, _⟩ := comes
  obtain ⟨doc, carries, changes⟩ := firm.fill_fill_ne whole comes
  exact changes source source (same doc carries source source)

end Schema

end DocStore
