import DocStore.Proofs.Schema.Alike
import DocStore.Proofs.Schema.Place

/-!
# Passes that keep abreast

A document is changed, brought into form, changed again at some paths and brought into form once
more. Beside it runs the document that undergoes both changes at once and is brought into form only
then. Along the paths of the second change it follows the document in form after that change, and
apart from them the document before it: so it ends up alike.
-/

namespace DocStore

open FieldType Fields

/-- The default is the same whenever and wherever it is asked for. -/
def FieldType.IsFixed (type : FieldType) : Prop :=
  ∀ source other, type.default source = type.default other

namespace Schema

variable {entry : Path × FieldType} {entries : List (Path × FieldType)} {touched : List Path}
  {source first second third : Source} {doc out before a b x y z x' z' : Fields} {p q : Path}
  {v : Value} {schema : Schema}

-- ---------------------------------------------------------------------------
-- One step of a pass as one change
-- ---------------------------------------------------------------------------

/-- Sets a path if there is something to set. -/
def put (p : Path) (v : Value) (doc : Fields) : Fields := if v.isNull then doc else doc.set p v

theorem put_null (p : Path) (doc : Fields) : put p .null doc = doc := rfl

theorem put_of_ne_null (present : v ≠ .null) : put p v doc = doc.set p v := by
  cases v <;> first | rfl | exact absurd rfl present

theorem fillEntry_eq_put (stored : entry.2.isVirtual = false) (source : Source) (doc : Fields) :
    fillEntry source entry doc = put entry.1 (entry.2.cast source (doc.atD entry.1)) doc := by
  rcases fillEntry_eq stored source doc with ⟨null, same⟩ | ⟨present, set⟩
  · rw [same, null, put_null]
  · rw [set, put_of_ne_null present]

theorem checkEntry_of_accepts (stored : entry.2.virtuals = [])
    (taken : entry.2.Accepts entry.1 (doc.atD entry.1)) :
    checkEntry entry doc = (.ok (), store entry.1 (doc.atD entry.1) doc) := by
  obtain ⟨path, type⟩ := entry
  rw [Accepts] at taken
  simp only [checkEntry]
  rw [validate_eq stored, taken]

theorem checkEntry_ok_store (stored : entry.2.virtuals = [])
    (ok : checkEntry entry doc = (.ok (), out)) :
    entry.2.Accepts entry.1 (doc.atD entry.1) ∧ out = store entry.1 (doc.atD entry.1) doc := by
  obtain ⟨taken, -⟩ := checkEntry_ok stored ok
  rw [checkEntry_of_accepts stored taken] at ok
  exact ⟨taken, (Prod.mk.inj ok).2.symm⟩

theorem at?_put_of_parts (parts : Path.Parts p q) : (put p v doc).at? q = doc.at? q := by
  unfold put
  split
  · rfl
  · exact at?_set_of_parts parts

theorem at?_put_congr (same : a.at? q = b.at? q) (p : Path) (v : Value) :
    (put p v a).at? q = (put p v b).at? q := by
  unfold put
  split
  · exact same
  · exact at?_set_congr same p v

theorem at?_store_congr (same : a.at? q = b.at? q) (p : Path) (v : Value) :
    (store p v a).at? q = (store p v b).at? q := by
  unfold store
  split
  · exact at?_remove_congr same p
  · exact at?_set_congr same p v

theorem sameAlong_put (along : SameAlong touched a b) (p : Path) (v : Value) :
    SameAlong touched (put p v a) (put p v b) := by
  unfold put
  split
  · exact along
  · exact along.set p v

theorem sameAlong_store (along : SameAlong touched a b) (p : Path) (v : Value) :
    SameAlong touched (store p v a) (store p v b) := by
  unfold store
  split
  · exact along.remove p
  · exact along.set p v

-- ---------------------------------------------------------------------------
-- What filling makes of a field
-- ---------------------------------------------------------------------------

theorem fillEntry_idle (stored : entry.2.virtuals = []) (isOpen : entry.2.IsOpen)
    (unfilled : doc.atD entry.1 = .null → entry.2.default source = .null) :
    fillEntry source entry doc = doc := by
  by_cases null : doc.atD entry.1 = .null
  · have cast : entry.2.cast source (doc.atD entry.1) = .null := by
      rw [null]
      exact unfilled null
    rw [fillEntry_eq_put (isVirtual_eq_false stored), cast, put_null]
  · exact fillEntry_isOpen isOpen (at?_eq_some_atD null) null

theorem risesAt_fillEntry (isOpen : q = entry.1 ∨ q.IsBelow entry.1 → entry.2.IsOpen) :
    RisesAt q doc (fillEntry source entry doc) := by
  by_cases null : doc.atD q = .null
  · exact .inl null
  have held := at?_eq_some_atD null
  cases stored : entry.2.isVirtual with
  | true =>
    rw [fillEntry_of_isVirtual stored]
    exact .refl q doc
  | false =>
    rcases fillEntry_eq stored source doc with ⟨-, same⟩ | ⟨-, set⟩
    · rw [same]
      exact .refl q doc
    rcases Path.cases_lie entry.1 q with rfl | above | below | parts
    · rw [fillEntry_isOpen (isOpen (.inl rfl)) held null]
      exact .refl _ doc
    · rw [set]
      exact risesAt_set (.inl above)
    · obtain ⟨c, object⟩ := at?_of_isBelow below held
      rw [fillEntry_isOpen (isOpen (.inr below)) object (by simp)]
      exact .refl q doc
    · rw [set]
      exact risesAt_set (.inr parts)

theorem risesAt_fillFrom
    (isOpen : ∀ entry ∈ entries, q = entry.1 ∨ q.IsBelow entry.1 → entry.2.IsOpen)
    (source : Source) (n : Nat) : RisesAt q doc (fillFrom source n entries doc) := by
  induction entries generalizing doc n with
  | nil => exact .refl q doc
  | cons entry rest ih =>
    obtain ⟨openFirst, openRest⟩ := List.forall_mem_cons.mp isOpen
    exact (risesAt_fillEntry openFirst).trans (ih openRest (n + 1))

/-- A field that is held stays held. -/
theorem atD_fillEntry_ne_null (isOpen : q.IsBelow entry.1 → entry.2.IsOpen)
    (held : doc.atD q ≠ .null) : (fillEntry source entry doc).atD q ≠ .null := by
  intro null
  by_cases own : q = entry.1
  · subst own
    cases stored : entry.2.isVirtual with
    | true => exact held (by rwa [fillEntry_of_isVirtual stored] at null)
    | false =>
      rcases fillEntry_eq stored source doc with ⟨-, same⟩ | ⟨some, set⟩
      · exact held (by rwa [same] at null)
      · rw [set, atD_of_at? at?_set_self] at null
        exact some null
  · refine held ((risesAt_fillEntry ?_).atD_eq_null null)
    exact fun lies => isOpen (lies.resolve_left own)

-- ---------------------------------------------------------------------------
-- What checking makes of a field
-- ---------------------------------------------------------------------------

theorem alikeAt_checkEntry (stored : entry.2.virtuals = []) (other : entry.1 ≠ q)
    (ok : checkEntry entry doc = (.ok (), out)) : AlikeAt q doc out := by
  obtain ⟨-, ⟨rfl, -⟩ | ⟨rfl, null⟩⟩ := checkEntry_ok stored ok
  · exact .inl rfl
  · exact (at?_remove_null null other).imp Eq.symm fun objects => objects.2

theorem at?_checkEntry_of_not_below (stored : entry.2.virtuals = []) (other : entry.1 ≠ q)
    (outside : ¬ entry.1.IsBelow q) (ok : checkEntry entry doc = (.ok (), out)) :
    out.at? q = doc.at? q := by
  obtain ⟨-, ⟨rfl, -⟩ | ⟨rfl, null⟩⟩ := checkEntry_ok stored ok
  · rfl
  · exact (at?_remove_null null other).resolve_right fun objects => outside objects.1

theorem risesAt_checkEntry (stored : entry.2.virtuals = [])
    (ok : checkEntry entry doc = (.ok (), out)) : RisesAt q doc out := by
  by_cases own : entry.1 = q
  · obtain ⟨-, ⟨rfl, -⟩ | ⟨rfl, null⟩⟩ := checkEntry_ok stored ok
    · exact .refl q out
    · exact .inl (atD_of_at? (own ▸ null))
  · exact (alikeAt_checkEntry stored own ok).rises

-- ---------------------------------------------------------------------------
-- Three documents
-- ---------------------------------------------------------------------------

/-- The last document follows the first one apart from some paths and the second one along them. The
second one still is, apart from them, what it was in form. -/
structure Abreast (touched : List Path) (before z x y : Fields) : Prop where
  apart : ∀ q : Path, q.IsApartFrom touched → y.at? q = z.at? q
  along : SameAlong touched y x
  kept : KeepsApart touched before x

/-- What leads to the paths in form is there in the first document, and is as much in the last. -/
structure Rising (touched : List Path) (before z y : Fields) : Prop where
  first : ∀ q : Path, q.LeadsTo touched → z.atD q = .null → before.atD q = .null
  last : ∀ q : Path, q.LeadsTo touched → RisesAt q before y

theorem cast_eq (fixed : entry.2.IsFixed ∨ a.atD entry.1 ≠ .null)
    (same : a.at? entry.1 = b.at? entry.1) (first second : Source) :
    entry.2.cast first (a.atD entry.1) = entry.2.cast second (b.atD entry.1) := by
  have value : b.atD entry.1 = a.atD entry.1 := by simp only [atD, same]
  rw [value]
  by_cases null : a.atD entry.1 = .null
  · rw [null]
    exact (fixed.resolve_right (not_not.mpr null)) first second
  · rw [cast_of_ne_null null, cast_of_ne_null null]

theorem Rising.fillEntry (rising : Rising touched before z y)
    (isOpen : entry.1.LeadsTo touched → entry.2.IsOpen) :
    Rising touched before (Schema.fillEntry first entry z) (Schema.fillEntry third entry y) := by
  have leading (q : Path) (leads : q.LeadsTo touched) (lies : q = entry.1 ∨ q.IsBelow entry.1) :
      entry.2.IsOpen := by
    rcases lies with rfl | above
    · exact isOpen leads
    · exact isOpen (leads.above above)
  constructor
  · intro q leads null
    exact rising.first q leads ((risesAt_fillEntry (leading q leads)).atD_eq_null null)
  · intro q leads
    exact (rising.last q leads).trans (risesAt_fillEntry (leading q leads))

/-- Something is put apart from the paths. The object around it that leads to them is there
already, if the first document ends up as what was there in form. -/
theorem sameAlong_put_apart (along : SameAlong touched y x) (apart : p.IsApartFrom touched)
    (last : ∀ q : Path, q.LeadsTo touched → RisesAt q before y)
    (ends : ∀ q : Path, q.LeadsTo touched → RisesAt q (put p v z) before) :
    SameAlong touched (put p v y) x := by
  refine ⟨fun t mem => ?_, fun t mem q down => ?_⟩
  · rw [at?_put_of_parts (apart t mem).symm]
    exact along.same t mem
  have alike := along.around t mem q down
  by_cases null : v = .null
  · rwa [null, put_null]
  rw [put_of_ne_null null] at ends ⊢
  rcases Path.cases_lie p q with rfl | above | below | parts
  · exact absurd down (apart.not_above mem)
  · have leads : q.LeadsTo touched :=
      ⟨⟨t, mem, down⟩, fun within => (within.parts apart).2.2 above⟩
    obtain ⟨c, held⟩ := at?_set_of_isBelow (d := z) (v := v) above
    obtain ⟨c', held⟩ := (ends q leads).object held
    obtain ⟨c', held⟩ := (last q leads).object held
    obtain ⟨e', right⟩ := alike.rises.object held
    obtain ⟨e, left⟩ := at?_set_of_isBelow (d := y) (v := v) above
    exact .inr ⟨e, e', left, right⟩
  · exact absurd (down.trans below) (apart.not_above mem)
  · rcases alike with same | ⟨c, c', left, right⟩
    · exact .inl ((at?_set_of_parts parts).trans same)
    · exact .inr ⟨c, c', (at?_set_of_parts parts).trans left, right⟩

/-- A step of filling at a path that leads to others has nothing to do, if what it leaves ends up as
what was there in form. -/
theorem Rising.unfilled (rising : Rising touched before z y) (leads : entry.1.LeadsTo touched)
    (stored : entry.2.virtuals = []) (isOpen : entry.2.IsOpen)
    (ends : RisesAt entry.1 (Schema.fillEntry first entry z) before) (source : Source) :
    (z.atD entry.1 = .null → entry.2.default source = .null) ∧
      (y.atD entry.1 = .null → entry.2.default source = .null) := by
  have absent (null : before.atD entry.1 = .null) : entry.2.default source = .null := by
    have gone := ends.atD_eq_null null
    have empty : z.atD entry.1 = .null :=
      (risesAt_fillEntry fun _ => isOpen).atD_eq_null gone
    by_contra filled
    have cast : entry.2.cast first (z.atD entry.1) = entry.2.default first := by
      rw [empty]
      rfl
    have present : entry.2.default first ≠ .null := fun null => filled (default_eq_null null source)
    rw [fillEntry_eq_put (isVirtual_eq_false stored), cast, put_of_ne_null present,
      atD_of_at? at?_set_self] at gone
    exact present gone
  exact ⟨fun null => absent (rising.first _ leads null),
    fun null => absent ((rising.last _ leads).atD_eq_null null)⟩

-- ---------------------------------------------------------------------------
-- Filling abreast
-- ---------------------------------------------------------------------------

theorem Abreast.fillEntry (abreast : Abreast touched before z x y)
    (rising : Rising touched before z y) (stored : entry.2.virtuals = [])
    (settled : Settled entry before) (isOpen : entry.1.LeadsTo touched → entry.2.IsOpen)
    (drawn : entry.2.IsFixed ∨ y.atD entry.1 ≠ .null)
    (ends : ∀ q : Path, q.LeadsTo touched → RisesAt q (Schema.fillEntry first entry z) before) :
    Abreast touched before (Schema.fillEntry first entry z) (Schema.fillEntry second entry x)
      (Schema.fillEntry third entry y) := by
  have kept : KeepsApart touched before (Schema.fillEntry second entry x) :=
    abreast.kept.fillEntry stored settled
  have puts := fillEntry_eq_put (isVirtual_eq_false stored)
  rcases entry.1.cases_touched touched with within | leads | apart
  · -- the last document and the second one get the same
    have same := cast_eq drawn (abreast.along.within within) third second
    refine ⟨fun q apart => ?_, ?_, kept⟩
    · have parts := within.parts apart
      rw [puts, puts, at?_put_of_parts parts, at?_put_of_parts parts, abreast.apart q apart]
    · rw [puts, puts, same]
      exact sameAlong_put abreast.along entry.1 _
  · -- none of the three gets anything
    have isOpen := isOpen leads
    have unfilled := rising.unfilled leads stored isOpen (ends entry.1 leads)
    have alike := (abreast.along.alike leads).symm
    rw [fillEntry_idle stored isOpen fun null => (unfilled first).1 null,
      fillEntry_idle stored isOpen fun null => (unfilled third).2 null] at *
    rw [fillEntry_idle stored isOpen fun null => (unfilled second).2 (alike.atD_eq_null null)] at *
    exact abreast
  · -- the last document and the first one get the same
    have same := cast_eq drawn (abreast.apart entry.1 apart) third first
    rw [fillEntry_eq_self stored (settled.congr (abreast.kept.same _ apart))] at kept ⊢
    simp only [puts, same] at ends ⊢
    refine ⟨fun q away => at?_put_congr (abreast.apart q away) entry.1 _, ?_, kept⟩
    exact sameAlong_put_apart abreast.along apart rising.last ends

theorem Abreast.fillFrom (abreast : Abreast touched before z x y)
    (rising : Rising touched before z y) (stored : ∀ entry ∈ entries, entry.2.virtuals = [])
    (settled : ∀ entry ∈ entries, Settled entry before)
    (nested : ∀ entry ∈ entries, ∀ other ∈ entries, other.1.IsBelow entry.1 → entry.2.IsOpen)
    (isOpen : ∀ entry ∈ entries, entry.1.LeadsTo touched → entry.2.IsOpen)
    (drawn : ∀ entry ∈ entries, entry.2.IsFixed ∨ y.atD entry.1 ≠ .null) (n : Nat)
    (ends : ∀ q : Path, q.LeadsTo touched →
      RisesAt q (Schema.fillFrom first n entries z) before) :
    Abreast touched before (Schema.fillFrom first n entries z)
      (Schema.fillFrom second n entries x) (Schema.fillFrom third n entries y) := by
  induction entries generalizing x y z n with
  | nil => exact abreast
  | cons entry rest ih =>
    obtain ⟨storedFirst, stored⟩ := List.forall_mem_cons.mp stored
    obtain ⟨settledFirst, settled⟩ := List.forall_mem_cons.mp settled
    obtain ⟨openFirst, isOpen⟩ := List.forall_mem_cons.mp isOpen
    obtain ⟨drawnFirst, drawn⟩ := List.forall_mem_cons.mp drawn
    have nestedRest : ∀ entry ∈ rest, ∀ other ∈ rest, other.1.IsBelow entry.1 → entry.2.IsOpen :=
      fun entry mem other memOther =>
        nested entry (List.mem_cons_of_mem _ mem) other (List.mem_cons_of_mem _ memOther)
    have later (q : Path) (leads : q.LeadsTo touched) :
        RisesAt q (Schema.fillEntry (first.branch n) entry z) before := by
      refine (risesAt_fillFrom (fun other mem lies => ?_) first (n + 1)).trans (ends q leads)
      rcases lies with rfl | above
      · exact isOpen other mem leads
      · exact isOpen other mem (leads.above above)
    refine ih (abreast.fillEntry rising storedFirst settledFirst openFirst drawnFirst later)
      (rising.fillEntry openFirst) stored settled nestedRest isOpen ?_ (n + 1) ends
    intro other mem
    refine (drawn other mem).imp_right (atD_fillEntry_ne_null ?_)
    exact nested entry List.mem_cons_self other (List.mem_cons_of_mem _ mem)

-- ---------------------------------------------------------------------------
-- Checking abreast
-- ---------------------------------------------------------------------------

/-- A field that is checked in one document is checked in one that holds the same there, or another
object where the field takes any. -/
theorem sameAlong_checkEntry (along : SameAlong touched y x) (stored : entry.2.virtuals = [])
    (alike : y.at? entry.1 = x.at? entry.1 ∨ entry.2.IsOpen ∧ AlikeAt entry.1 y x)
    (ok : checkEntry entry x = (.ok (), x')) :
    ∃ y', checkEntry entry y = (.ok (), y') ∧ SameAlong touched y' x' := by
  obtain ⟨taken, rfl⟩ := checkEntry_ok_store stored ok
  have follows (same : y.at? entry.1 = x.at? entry.1) : ∃ y',
      checkEntry entry y = (.ok (), y') ∧
        SameAlong touched y' (store entry.1 (x.atD entry.1) x) := by
    have value : y.atD entry.1 = x.atD entry.1 := by simp only [atD, same]
    rw [← value] at taken ⊢
    exact ⟨_, checkEntry_of_accepts stored taken, sameAlong_store along entry.1 _⟩
  rcases alike with same | ⟨isOpen, same | ⟨c, c', left, right⟩⟩
  · exact follows same
  · exact follows same
  · have taken := accepts_object isOpen c
    rw [← atD_of_at? left] at taken
    refine ⟨_, checkEntry_of_accepts stored taken, ?_⟩
    rw [atD_of_at? left, atD_of_at? right, store_of_ne_null (by simp),
      store_of_ne_null (by simp), set_eq_self left, set_eq_self right]
    exact along

theorem sameAlong_checkEntry_apart (along : SameAlong touched y x)
    (stored : entry.2.virtuals = []) (apart : entry.1.IsApartFrom touched)
    (ok : checkEntry entry y = (.ok (), out)) : SameAlong touched out x := by
  refine ⟨fun t mem => ?_, fun t mem q down => ?_⟩
  · have parts := (apart t mem).symm
    rw [at?_checkEntry_of_not_below stored parts.1 parts.2.1 ok]
    exact along.same t mem
  · have other : entry.1 ≠ q := by
      rintro rfl
      exact apart.not_above mem down
    exact (alikeAt_checkEntry stored other ok).symm.trans (along.around t mem q down)

theorem Abreast.checkEntry (abreast : Abreast touched before z x y)
    (stored : entry.2.virtuals = []) (settled : Settled entry before)
    (isOpen : entry.1.LeadsTo touched → entry.2.IsOpen)
    (first : checkEntry entry z = (.ok (), z')) (second : checkEntry entry x = (.ok (), x')) :
    ∃ y', Schema.checkEntry entry y = (.ok (), y') ∧ Abreast touched before z' x' y' := by
  have kept := abreast.kept.checkEntry stored settled second
  have beside (clear : ∀ q : Path, q.IsApartFrom touched → entry.1 ≠ q ∧ ¬ entry.1.IsBelow q)
      (alike : y.at? entry.1 = x.at? entry.1 ∨ entry.2.IsOpen ∧ AlikeAt entry.1 y x) :
      ∃ y', Schema.checkEntry entry y = (.ok (), y') ∧ Abreast touched before z' x' y' := by
    obtain ⟨y', last, along⟩ := sameAlong_checkEntry abreast.along stored alike second
    refine ⟨y', last, fun q apart => ?_, along, kept⟩
    obtain ⟨ne, notBelow⟩ := clear q apart
    rw [at?_checkEntry_of_not_below stored ne notBelow last, abreast.apart q apart,
      at?_checkEntry_of_not_below stored ne notBelow first]
  rcases entry.1.cases_touched touched with within | leads | apart
  · refine beside (fun q apart => ?_) (.inl (abreast.along.within within))
    exact ⟨(within.parts apart).1, (within.parts apart).2.1⟩
  · exact beside (fun q => leads.not_above) (.inr ⟨isOpen leads, abreast.along.alike leads⟩)
  · have value : y.atD entry.1 = z.atD entry.1 := by
      simp only [atD, abreast.apart entry.1 apart]
    have idle := checkEntry_eq_self stored (settled.congr (abreast.kept.same _ apart)).checked
    obtain rfl : x = x' := (Prod.mk.inj (idle.symm.trans second)).2
    obtain ⟨taken, rfl⟩ := checkEntry_ok_store stored first
    rw [← value] at taken ⊢
    have last := checkEntry_of_accepts stored taken
    refine ⟨_, last, fun q away => ?_, ?_, kept⟩
    · exact at?_store_congr (abreast.apart q away) entry.1 _
    · exact sameAlong_checkEntry_apart abreast.along stored apart last

theorem Abreast.checkEntries (abreast : Abreast touched before z x y)
    (stored : ∀ entry ∈ entries, entry.2.virtuals = [])
    (settled : ∀ entry ∈ entries, Settled entry before)
    (isOpen : ∀ entry ∈ entries, entry.1.LeadsTo touched → entry.2.IsOpen)
    (first : checkEntries entries z = (.ok (), z'))
    (second : checkEntries entries x = (.ok (), x')) :
    ∃ y', Schema.checkEntries entries y = (.ok (), y') ∧ Abreast touched before z' x' y' := by
  induction entries generalizing x y z with
  | nil =>
    obtain ⟨-, rfl⟩ := Prod.mk.inj first
    obtain ⟨-, rfl⟩ := Prod.mk.inj second
    exact ⟨y, rfl, abreast⟩
  | cons entry rest ih =>
    obtain ⟨storedFirst, stored⟩ := List.forall_mem_cons.mp stored
    obtain ⟨settledFirst, settled⟩ := List.forall_mem_cons.mp settled
    obtain ⟨openFirst, isOpen⟩ := List.forall_mem_cons.mp isOpen
    obtain ⟨z₁, stepFirst, first⟩ := checkEntries_cons first
    obtain ⟨x₁, stepSecond, second⟩ := checkEntries_cons second
    obtain ⟨y₁, stepLast, abreast⟩ :=
      abreast.checkEntry storedFirst settledFirst openFirst stepFirst stepSecond
    obtain ⟨y', last, abreast⟩ := ih abreast stored settled isOpen first second
    exact ⟨y', by rw [Schema.checkEntries, stepLast]; exact last, abreast⟩

-- ---------------------------------------------------------------------------
-- Both passes
-- ---------------------------------------------------------------------------

/-- Where the first document ends up as the one in form, the last ends up like the second. -/
theorem Abreast.alike (abreast : Abreast touched before before x y) (q : Path) :
    AlikeAt q y x := by
  rcases q.cases_touched touched with within | leads | apart
  · exact .inl (abreast.along.within within)
  · exact abreast.along.alike leads
  · exact .inl ((abreast.apart q apart).trans (abreast.kept.same q apart).symm)

/-- A document goes through both passes and changes and goes through them again. Where both changes
are made at once, the passes succeed as well and leave a document like that. -/
theorem Plain.abreast (plain : schema.Plain)
    (settledFirst : schema.check (schema.fill first z) = (.ok (), before))
    (settledSecond : schema.check (schema.fill second x) = (.ok (), out))
    (abreast : Abreast touched before z x y) (rising : Rising touched before z y)
    (isOpen : ∀ entry ∈ schema.entries, entry.1.LeadsTo touched → entry.2.IsOpen)
    (drawn : ∀ entry ∈ schema.entries, entry.2.IsFixed ∨ y.atD entry.1 ≠ .null) (third : Source) :
    ∃ out', schema.check (schema.fill third y) = (.ok (), out') ∧ ∀ q, AlikeAt q out' out := by
  have settled := plain.settles settledFirst
  have ends (q : Path) (leads : q.LeadsTo touched) : RisesAt q (schema.fill first z) before :=
    checkEntries_induction (P := RisesAt q (schema.fill first z))
      (fun entry mem _ _ rises step => rises.trans (risesAt_checkEntry (plain.stored entry mem) step))
      settledFirst (.refl q _)
  have filled : Abreast touched before (schema.fill first z) (schema.fill second x)
      (schema.fill third y) :=
    abreast.fillFrom rising plain.stored settled plain.isOpen isOpen drawn 0 ends
  obtain ⟨out', checked, abreast⟩ :=
    filled.checkEntries plain.stored settled isOpen settledFirst settledSecond
  exact ⟨out', checked, abreast.alike⟩

end Schema

end DocStore
