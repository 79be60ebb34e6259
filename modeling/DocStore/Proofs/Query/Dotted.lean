import DocStore.Proofs.Query.Compile
import DocStore.Proofs.Value.Path
import Mathlib.Algebra.Order.Monoid.Unbundled.WithTop
import Mathlib.Algebra.Order.Group.Multiset

/-!
# Nested and dotted queries

A field within objects may be asked for by objects within objects or by one dotted key. Taking a
member out of the objects and asking for it by its dotted key asks the same, so a query asks for no
more and no less than its leaves.

The conditions of a query are counted as a sum, in which their order does not matter; a query that
is refused counts as infinite, which it stays whatever is added.
-/

namespace DocStore

namespace Fields

/-- What is left of an object, under its key; nothing of an empty one. -/
def keptUnder (key : String) : Fields → Fields
  | [] => []
  | e :: es => [(key, .object (e :: es))]

/-- A member with a plain key is taken out of a query, or out of an object below plain keys. It is
named by its dotted key, and objects that are empty without it go with it. -/
inductive TakesOut : Fields → String → Value → Fields → Prop
  | member {key : String} {v : Value} (before after : Fields) (plain : isOperatorKey key = false) :
      TakesOut (before ++ (key, v) :: after) key v (before ++ after)
  | within {key text : String} {v : Value} {inner rest : Fields} (before after : Fields)
      (plain : isOperatorKey key = false) (taken : TakesOut inner text v rest) :
      TakesOut (before ++ (key, .object inner) :: after) (key ++ "." ++ text) v
        (before ++ keptUnder key rest ++ after)

mutual
/-- The conditions that a value written at a dotted key stands for, each under a dotted key of its
own. The operators of one object stay together. -/
def leavesAt (path : String) : Value → Fields
  | .object (e :: es) =>
    keptUnder path ((e :: es).filter fun m => isOperatorKey m.1) ++ leavesWithin path (e :: es)
  | v => [(path, v)]
def leavesWithin (path : String) : List (String × Value) → Fields
  | [] => []
  | (key, v) :: rest =>
    (if isOperatorKey key then [] else leavesAt (path ++ "." ++ key) v) ++ leavesWithin path rest
end

/-- The dotted leaves of a query. -/
def leaves (fields : Fields) : Fields :=
  fields.flatMap fun (key, v) => if isOperatorKey key then [(key, v)] else leavesAt key v

end Fields

/-- No object, or one of operators only. -/
def Value.IsCondition (v : Value) : Prop :=
  ∀ fields, v = .object fields → ∀ m ∈ fields, isOperatorKey m.1 = true

/-- A query asks what some others ask together: it is refused exactly if one of them is, and else
its predicate holds exactly where all of theirs do. -/
structure Schema.AsksAll (schema : Schema) (query : Value) (parts : List Value) : Prop where
  compiles : (schema.compileQuery (.spec query)).isOk = true ↔
    ∀ part ∈ parts, (schema.compileQuery (.spec part)).isOk = true
  holds : ∀ p, schema.compileQuery (.spec query) = .ok p → ∀ doc, p.holds doc = true ↔
    ∀ part ∈ parts, ∃ q, schema.compileQuery (.spec part) = .ok q ∧ q.holds doc = true

-- ---------------------------------------------------------------------------
-- Sums of conditions
-- ---------------------------------------------------------------------------

/-- The conditions that come of a compilation, in no order; infinite if it is refused. -/
def asked : Except Error (List Predicate) → WithTop (Multiset Predicate)
  | .ok l => ((l : Multiset Predicate) : WithTop (Multiset Predicate))
  | .error _ => ⊤

theorem asked_bind (x y : Except Error (List Predicate)) :
    asked (x >>= fun here => y >>= fun more => .ok (here ++ more)) = asked x + asked y := by
  cases x with
  | error e => exact (WithTop.top_add _).symm
  | ok here =>
    cases y with
    | error e => exact (WithTop.add_top _).symm
    | ok more => exact congrArg WithTop.some (Multiset.coe_add here more).symm

theorem asked_concatenated {α : Type} {l : List α} {one : α → Except Error (List Predicate)}
    {f : List α → Except Error (List Predicate)} (nil : f [] = .ok [])
    (cons : ∀ x rest, f (x :: rest) = one x >>= fun here => f rest >>= fun more =>
      .ok (here ++ more)) : asked (f l) = (l.map fun x => asked (one x)).sum := by
  induction l with
  | nil => rw [nil]; rfl
  | cons x rest ih => rw [cons, asked_bind, ih, List.map_cons, List.sum_cons]

/-- The conditions are finite in number and all hold. -/
def AllHold (doc : Fields) (a : WithTop (Multiset Predicate)) : Prop :=
  ∃ s : Multiset Predicate, a = s ∧ ∀ p ∈ s, p.holds doc = true

theorem allHold_asked {x : Except Error (List Predicate)} : AllHold doc (asked x) ↔
    ∃ l, x = .ok l ∧ Predicate.allHold doc l = true := by
  cases x with
  | error e => simp [AllHold, asked]
  | ok l => simp [AllHold, asked, WithTop.coe_inj]

theorem allHold_add {a b : WithTop (Multiset Predicate)} :
    AllHold doc (a + b) ↔ AllHold doc a ∧ AllHold doc b := by
  induction a with
  | top => simp [AllHold]
  | coe s =>
    induction b with
    | top => simp [AllHold]
    | coe t =>
      simp only [AllHold, ← WithTop.coe_add, WithTop.coe_inj, exists_eq_left', Multiset.mem_add,
        or_imp, forall_and]

theorem allHold_sum {l : List (WithTop (Multiset Predicate))} :
    AllHold doc l.sum ↔ ∀ a ∈ l, AllHold doc a := by
  induction l with
  | nil => simp [AllHold, ← WithTop.coe_zero, WithTop.coe_inj]
  | cons a rest ih => simp only [List.sum_cons, allHold_add, ih, List.forall_mem_cons]

theorem sum_ne_top {l : List (WithTop (Multiset Predicate))} :
    l.sum ≠ ⊤ ↔ ∀ a ∈ l, a ≠ ⊤ := by
  induction l with
  | nil => simp
  | cons a rest ih => simp only [List.sum_cons, ne_eq, WithTop.add_eq_top, not_or, ih,
      List.forall_mem_cons]

theorem isOk_iff_asked {x : Except Error (List Predicate)} : x.isOk = true ↔ asked x ≠ ⊤ := by
  cases x with
  | error e => simp [asked, Except.isOk, Except.toBool]
  | ok l => simp [asked, Except.isOk, Except.toBool]

namespace Schema

variable {schema : Schema} {query : Value} {parts : List Value} {path : Path} {text key : String}
  {v : Value} {fields rest before after : Fields}

theorem asksAll_of_sum (same : asked (schema.conditions query) =
    (parts.map fun part => asked (schema.conditions part)).sum) : schema.AsksAll query parts := by
  have compiled (part : Value) : (schema.compileQuery (.spec part)).isOk = true ↔
      asked (schema.conditions part) ≠ ⊤ := by
    rw [compileQuery, ← isOk_iff_asked]
    cases schema.conditions part <;> rfl
  constructor
  · rw [compiled, same, sum_ne_top]
    simp only [List.forall_mem_map, compiled]
  · intro p ok doc
    obtain ⟨l, conditions, rfl⟩ := map_eq_ok.mp ok
    have all : Predicate.allHold doc l = true ↔ AllHold doc (asked (schema.conditions query)) := by
      simp [allHold_asked, conditions]
    rw [Predicate.holds, all, same, allHold_sum]
    simp only [List.forall_mem_map, allHold_asked]
    refine forall₂_congr fun part _ => ⟨?_, ?_⟩
    · rintro ⟨qs, given, held⟩
      exact ⟨.all qs, map_eq_ok.mpr ⟨qs, given, rfl⟩, by rwa [Predicate.holds]⟩
    · rintro ⟨q, given, held⟩
      obtain ⟨qs, compiledPart, rfl⟩ := map_eq_ok.mp given
      exact ⟨qs, compiledPart, by rwa [Predicate.holds] at held⟩

-- ---------------------------------------------------------------------------
-- Members of an object
-- ---------------------------------------------------------------------------

/-- The conditions of one member of an object at a path, beside the flags of a pattern. -/
def memberAsked (schema : Schema) (path : Path) (flags : Option Value) (m : String × Value) :
    WithTop (Multiset Predicate) :=
  asked (if isOperatorKey m.1 then schema.compileOperator path m.1 m.2 flags
    else schema.conditionsAt (path ++ Path.ofText m.1) m.2)

/-- The conditions of the members of an object at a path; an empty object has none. -/
def membersAsked (schema : Schema) (path : Path) (fields : Fields) : WithTop (Multiset Predicate) :=
  (fields.map (schema.memberAsked path (fields.get? "$options"))).sum

theorem asked_object (some : fields ≠ []) :
    asked (schema.conditionsAt path (.object fields)) = schema.membersAsked path fields := by
  cases fields with
  | nil => exact absurd rfl some
  | cons e es =>
    rw [conditionsAt]
    exact asked_concatenated (conditionsOf.eq_1 ..) conditionsOf_cons

theorem asked_keptUnder (path : Path) (flags : Option Value) (plain : isOperatorKey key = false) :
    ((Fields.keptUnder key rest).map (schema.memberAsked path flags)).sum =
      schema.membersAsked (path ++ Path.ofText key) rest := by
  cases rest with
  | nil => rfl
  | cons e es =>
    simp only [Fields.keptUnder, List.map_cons, List.map_nil, List.sum_cons, List.sum_nil, add_zero,
      memberAsked, plain, Bool.false_eq_true, if_false]
    exact asked_object (List.cons_ne_nil e es)

theorem get?_options_of_plain (middle : Fields)
    (plain : ∀ m ∈ middle, isOperatorKey m.1 = false) :
    Fields.get? (before ++ middle ++ after) "$options" =
      Fields.get? (before ++ after) "$options" := by
  have none : List.lookup "$options" middle = none := by
    refine List.lookup_eq_none_iff.mpr fun m mem => ?_
    refine bne_iff_ne.mpr fun same => ?_
    have operator := plain m mem
    rw [← same] at operator
    cases operator
  simp only [Fields.get?, List.lookup_append, none, Option.or_none]

/-- Taking a member out splits the conditions of an object into the others and its own. -/
theorem membersAsked_takesOut (taken : fields.TakesOut text v rest) (path : Path) :
    schema.membersAsked path fields =
      schema.membersAsked path rest + asked (schema.conditionsAt (path ++ Path.ofText text) v) := by
  induction taken generalizing path with
  | @member key v before after plain =>
    have flags : Fields.get? (before ++ (key, v) :: after) "$options" =
        Fields.get? (before ++ after) "$options" := by
      simpa using get?_options_of_plain [(key, v)] (by simpa using plain)
    have own (options : Option Value) : schema.memberAsked path options (key, v) =
        asked (schema.conditionsAt (path ++ Path.ofText key) v) := by
      simp [memberAsked, plain]
    simp only [membersAsked, flags, List.map_append, List.map_cons, List.sum_append, List.sum_cons,
      own]
    ac_rfl
  | @within key text v inner rest before after plain taken ih =>
    have some : inner ≠ [] := by cases taken <;> simp
    have flags : Fields.get? (before ++ (key, .object inner) :: after) "$options" =
        Fields.get? (before ++ Fields.keptUnder key rest ++ after) "$options" := by
      have kept : ∀ m ∈ Fields.keptUnder key rest, isOperatorKey m.1 = false := by
        cases rest <;> simp [Fields.keptUnder, plain]
      rw [get?_options_of_plain _ kept]
      simpa using get?_options_of_plain [(key, .object inner)] (by simpa using plain)
    have own (options : Option Value) : schema.memberAsked path options (key, .object inner) =
        schema.membersAsked (path ++ Path.ofText key) rest +
          asked (schema.conditionsAt (path ++ Path.ofText (key ++ "." ++ text)) v) := by
      simp only [memberAsked, plain, Bool.false_eq_true, if_false]
      rw [asked_object some, ih, Path.ofText_append, Path.append_assoc]
    rw [membersAsked, membersAsked, flags]
    simp only [List.map_append, List.map_cons, List.sum_append, List.sum_cons, own,
      asked_keptUnder path _ plain]
    ac_rfl

-- ---------------------------------------------------------------------------
-- Members of a query
-- ---------------------------------------------------------------------------

theorem asked_conditions (fields : Fields) : asked (schema.conditions (.object fields)) =
    (fields.map fun m => asked (schema.memberConditions m.1 m.2)).sum := by
  rw [conditions]
  exact asked_concatenated (conditionsOfMembers.eq_1 _) conditionsOfMembers_cons

theorem asked_single (m : String × Value) : asked (schema.conditions (.object [m])) =
    asked (schema.memberConditions m.1 m.2) := by
  simp [asked_conditions]

theorem asked_field (plain : isOperatorKey key = false) (v : Value) :
    asked (schema.memberConditions key v) = asked (schema.conditionsAt (Path.ofText key) v) := by
  rw [← asked_single (key, v), conditions_field plain]

theorem asked_takesOut (taken : fields.TakesOut text v rest) :
    asked (schema.conditions (.object fields)) = asked (schema.conditions (.object rest)) +
      asked (schema.conditions (.object [(text, v)])) := by
  rw [asked_single]
  cases taken with
  | member before after plain =>
    simp only [asked_conditions, List.map_append, List.map_cons, List.sum_append, List.sum_cons]
    ac_rfl
  | @within key text v inner rest before after plain taken =>
    have some : inner ≠ [] := by cases taken <;> simp
    have own : asked (schema.memberConditions key (.object inner)) =
        schema.membersAsked (Path.ofText key) rest +
          asked (schema.memberConditions (key ++ "." ++ text) v) := by
      rw [asked_field plain, asked_object some, membersAsked_takesOut taken, asked_field,
        Path.ofText_append]
      rw [isOperatorKey_dotted, plain]
    have kept : ((Fields.keptUnder key rest).map
        fun m => asked (schema.memberConditions m.1 m.2)).sum =
          schema.membersAsked (Path.ofText key) rest := by
      cases rest with
      | nil => rfl
      | cons e es =>
        simp only [Fields.keptUnder, List.map_cons, List.map_nil, List.sum_cons, List.sum_nil,
          add_zero, asked_field plain]
        exact asked_object (List.cons_ne_nil e es)
    simp only [asked_conditions, List.map_append, List.map_cons, List.sum_append, List.sum_cons,
      own, kept]
    ac_rfl

-- ---------------------------------------------------------------------------
-- Leaves
-- ---------------------------------------------------------------------------

theorem mem_leavesWithin {leaf : String × Value} : leaf ∈ Fields.leavesWithin text fields ↔
    ∃ m ∈ fields, isOperatorKey m.1 = false ∧ leaf ∈ Fields.leavesAt (text ++ "." ++ m.1) m.2 := by
  induction fields with
  | nil => simp [Fields.leavesWithin]
  | cons m rest ih =>
    obtain ⟨key, v⟩ := m
    cases plain : isOperatorKey key <;> simp [Fields.leavesWithin, plain, ih]

theorem leavesAt_value (other : ∀ e es, v ≠ .object (e :: es)) (text : String) :
    Fields.leavesAt text v = [(text, v)] := by
  rw [Fields.leavesAt]
  exact other

theorem isCondition_of_value (other : ∀ e es, v ≠ .object (e :: es))
    (plain : isOperatorKey text = false) (mem : leaf ∈ Fields.leavesAt text v) :
    isOperatorKey leaf.1 = false ∧ leaf.2.IsCondition := by
  rw [leavesAt_value other, List.mem_singleton] at mem
  subst mem
  refine ⟨plain, fun fields object => ?_⟩
  cases fields with
  | nil => simp
  | cons e es => exact absurd object (other e es)

/-- A leaf of what is written at a plain key has a plain key and none below it. -/
theorem isCondition_of_mem_leavesAt (plain : isOperatorKey text = false)
    (mem : leaf ∈ Fields.leavesAt text v) :
    isOperatorKey leaf.1 = false ∧ leaf.2.IsCondition := by
  induction v using Value.induction generalizing text with
  | scalar v scalar => exact isCondition_of_value (fun e es => scalar.2 (e :: es)) plain mem
  | array items _ => exact isCondition_of_value (by simp) plain mem
  | object fields ih =>
    cases fields with
    | nil => exact isCondition_of_value (by simp) plain mem
    | cons e es =>
      rw [Fields.leavesAt, List.mem_append] at mem
      rcases mem with operators | below
      · generalize listed : (e :: es).filter (fun m => isOperatorKey m.1) = filtered at operators
        cases filtered with
        | nil => simp [Fields.keptUnder] at operators
        | cons o os =>
          obtain rfl := List.mem_singleton.mp operators
          refine ⟨plain, ?_⟩
          rintro _ ⟨⟩ m mem
          rw [← listed] at mem
          exact (List.mem_filter.mp mem).2
      · obtain ⟨m, member, -, inside⟩ := mem_leavesWithin.mp below
        exact ih m.1 m.2 member (by rw [isOperatorKey_dotted, plain]) inside

theorem get?_options_filter (fields : Fields) :
    Fields.get? (fields.filter fun m => isOperatorKey m.1) "$options" =
      Fields.get? fields "$options" := by
  induction fields with
  | nil => rfl
  | cons m rest ih =>
    obtain ⟨key, v⟩ := m
    cases named : isOperatorKey key with
    | true => simp [named, Fields.get?_cons, ih]
    | false =>
      have other : ("$options" == key) = false := by
        refine beq_eq_false_iff_ne.mpr ?_
        rintro rfl
        cases named
      simp [named, Fields.get?_cons, other, ih]

/-- The operators of an object stay together, and what is below its plain keys is asked for by
dotted ones. -/
theorem sum_memberAsked {flags : Option Value}
    (each : ∀ m ∈ fields, ∀ text, asked (schema.conditionsAt (Path.ofText text) m.2) =
      ((Fields.leavesAt text m.2).map fun leaf =>
        asked (schema.conditionsAt (Path.ofText leaf.1) leaf.2)).sum) :
    (fields.map (schema.memberAsked (Path.ofText text) flags)).sum =
      ((fields.filter fun m => isOperatorKey m.1).map
        (schema.memberAsked (Path.ofText text) flags)).sum +
      ((Fields.leavesWithin text fields).map fun leaf =>
        asked (schema.conditionsAt (Path.ofText leaf.1) leaf.2)).sum := by
  induction fields with
  | nil => rfl
  | cons m rest ih =>
    obtain ⟨key, v⟩ := m
    obtain ⟨first, each⟩ := List.forall_mem_cons.mp each
    simp only [List.map_cons, List.sum_cons, ih each, Fields.leavesWithin, List.map_append,
      List.sum_append]
    cases named : isOperatorKey key with
    | true =>
      simp only [named, List.filter_cons_of_pos, List.map_cons, List.sum_cons, if_true,
        List.map_nil, List.sum_nil, zero_add]
      ac_rfl
    | false =>
      have own : schema.memberAsked (Path.ofText text) flags (key, v) =
          ((Fields.leavesAt (text ++ "." ++ key) v).map fun leaf =>
            asked (schema.conditionsAt (Path.ofText leaf.1) leaf.2)).sum := by
        rw [← first, Path.ofText_append]
        simp [memberAsked, named]
      simp only [named, own, Bool.false_eq_true, not_false_eq_true, List.filter_cons_of_neg,
        if_false]
      ac_rfl

theorem asked_leavesAt (v : Value) (text : String) :
    asked (schema.conditionsAt (Path.ofText text) v) =
      ((Fields.leavesAt text v).map fun leaf =>
        asked (schema.conditionsAt (Path.ofText leaf.1) leaf.2)).sum := by
  induction v using Value.induction generalizing text with
  | scalar v scalar => simp [leavesAt_value fun e es => scalar.2 (e :: es)]
  | array items _ => simp [leavesAt_value]
  | object fields ih =>
    cases fields with
    | nil => simp [leavesAt_value]
    | cons e es =>
      rw [asked_object (List.cons_ne_nil e es), membersAsked,
        sum_memberAsked fun m mem text => ih m.1 m.2 mem text, Fields.leavesAt, List.map_append,
        List.sum_append, ← get?_options_filter]
      congr 1
      -- the operators ask together what they ask in the object as it is
      generalize (e :: es).filter (fun m => isOperatorKey m.1) = operators
      cases operators with
      | nil => rfl
      | cons o os =>
        simp only [Fields.keptUnder, List.map_singleton, List.sum_singleton]
        exact (asked_object (List.cons_ne_nil o os)).symm

theorem asked_leaves (fields : Fields) : asked (schema.conditions (.object fields)) =
    (fields.leaves.map fun leaf => asked (schema.conditions (.object [leaf]))).sum := by
  rw [asked_conditions]
  induction fields with
  | nil => rfl
  | cons m rest ih =>
    obtain ⟨key, v⟩ := m
    have split : Fields.leaves ((key, v) :: rest) =
        (if isOperatorKey key then [(key, v)] else Fields.leavesAt key v) ++ Fields.leaves rest :=
      List.flatMap_cons
    rw [List.map_cons, List.sum_cons, ih, split, List.map_append, List.sum_append]
    congr 1
    cases named : isOperatorKey key with
    | true => simp [asked_single]
    | false =>
      rw [asked_field named, asked_leavesAt]
      refine congrArg List.sum (List.map_congr_left fun leaf mem => ?_)
      rw [conditions_field (isCondition_of_mem_leavesAt named mem).1]

-- ---------------------------------------------------------------------------
-- Queries
-- ---------------------------------------------------------------------------

/-- A query asks what it asks without a member at a plain key, however deep, and the query for that
member by its dotted key; and it asks what its dotted leaves ask together. -/
theorem compileQuery_dotted (schema : Schema) (fields : Fields) :
    (∀ text v rest, fields.TakesOut text v rest →
      schema.AsksAll (.object fields) [.object rest, .object [(text, v)]]) ∧
    schema.AsksAll (.object fields) (fields.leaves.map fun leaf => .object [leaf]) ∧
    ∀ leaf ∈ fields.leaves, isOperatorKey leaf.1 = false → leaf.2.IsCondition := by
  refine ⟨fun text v rest taken => asksAll_of_sum ?_, asksAll_of_sum ?_, fun leaf mem plain => ?_⟩
  · simpa using asked_takesOut taken
  · rw [asked_leaves, List.map_map]
    rfl
  · obtain ⟨⟨key, v⟩, -, mem⟩ := List.mem_flatMap.mp mem
    cases named : isOperatorKey key with
    | true =>
      simp only [named, if_true, List.mem_singleton] at mem
      rw [mem, named] at plain
      cases plain
    | false =>
      simp only [named, Bool.false_eq_true, if_false] at mem
      exact (isCondition_of_mem_leavesAt named mem).2

/-- A unit beside an operator on the age, within an object that asks for the kind as well. -/
theorem compileQuery_dotted_unit :
    let three : Value := .number (Number.ofNat 3)
    let pet (age : Fields) : Fields :=
      [("pet", .object [("kind", .string "cat"), ("age", .object age)]), ("$not", .null)]
    let query := pet [("$gt", three), ("unit", .string "years")]
    let rest := pet [("$gt", three)]
    let unit : Value := .object [("pet.age.unit", .string "years")]
    let leaves : Fields := [("pet.kind", .string "cat"), ("pet.age", .object [("$gt", three)]),
      ("pet.age.unit", .string "years"), ("$not", .null)]
    query.TakesOut "pet.age.unit" (.string "years") rest ∧
      initial.AsksAll (.object query) [.object rest, unit] ∧
      initial.AsksAll (.object query) (leaves.map fun leaf => .object [leaf]) ∧
      isOperatorKey "pet.age" = false ∧ Value.IsCondition (.object [("$gt", three)]) := by
  intro three pet query rest unit leaves
  have age : Fields.TakesOut [("$gt", three), ("unit", .string "years")] "unit" (.string "years")
      [("$gt", three)] := .member [("$gt", three)] [] rfl
  have inner : Fields.TakesOut
      [("kind", .string "cat"), ("age", .object [("$gt", three), ("unit", .string "years")])]
      "age.unit" (.string "years") [("kind", .string "cat"), ("age", .object [("$gt", three)])] :=
    .within [("kind", .string "cat")] [] rfl age
  have taken : query.TakesOut "pet.age.unit" (.string "years") rest :=
    .within [] [("$not", .null)] rfl inner
  have listed : query.leaves = leaves := by cbv
  obtain ⟨out, all, plain⟩ := compileQuery_dotted initial query
  rw [listed] at all plain
  have named : isOperatorKey "pet.age" = false := by cbv
  exact ⟨taken, out _ _ _ taken, all, named, plain ("pet.age", _) (by simp [leaves]) named⟩

end Schema

end DocStore
