import DocStore.Proofs.FieldType.Validate
import DocStore.Proofs.Query.Meaning
import Mathlib.Tactic.SplitIfs

/-!
# The compiler of selectors is right

A selector is refused exactly when there is a flaw in it, and for one of its flaws. The predicate of
any other selector holds of the documents that the selector selects.
-/

namespace DocStore

/-- A compilation is refused for one of the flaws, or else there is none and its outcome is good. -/
structure Renders {α : Type} (result : Except Error α) (flaw : Misuse → Prop) (good : α → Prop) :
    Prop where
  ok : ∀ {a}, result = .ok a → (∀ misuse, ¬ flaw misuse) ∧ good a
  error : ∀ {e}, result = .error e → ∃ misuse, flaw misuse ∧ e = .usage misuse

namespace Renders

variable {α β : Type} {x : Except Error α} {f : α → Except Error β} {flaw other : Misuse → Prop}
  {good good' : α → Prop} {fine : β → Prop}

theorem of_ok (flawless : ∀ misuse, ¬ flaw misuse) (h : good a) : Renders (.ok a) flaw good where
  ok same := Except.ok.inj same ▸ ⟨flawless, h⟩
  error same := nomatch same

theorem done (h : good a) : Renders (.ok a) (fun _ => False) good :=
  of_ok (fun _ => id) h

theorem of_error (h : flaw misuse) : Renders (.error (.usage misuse)) flaw good where
  ok same := nomatch same
  error same := ⟨misuse, h, (Except.error.inj same).symm⟩

theorem congr (h : Renders x flaw good) (same : ∀ misuse, other misuse ↔ flaw misuse)
    (imp : ∀ a, good a → good' a) : Renders x other good' where
  ok result := ⟨fun misuse => mt (same misuse).mp ((h.ok result).1 misuse), imp _ (h.ok result).2⟩
  error result :=
    have ⟨misuse, flawed, e⟩ := h.error result
    ⟨misuse, (same misuse).mpr flawed, e⟩

theorem bind (h : Renders x flaw good) (next : ∀ a, good a → Renders (f a) other fine) :
    Renders (x >>= f) (fun misuse => flaw misuse ∨ other misuse) fine where
  ok result := by
    obtain ⟨a, first, second⟩ := bind_eq_ok.mp result
    obtain ⟨flawless, isGood⟩ := h.ok first
    obtain ⟨otherwise, isFine⟩ := (next a isGood).ok second
    exact ⟨fun misuse => not_or.mpr ⟨flawless misuse, otherwise misuse⟩, isFine⟩
  error result := by
    rcases bind_eq_error.mp result with first | ⟨a, first, second⟩
    · obtain ⟨misuse, flawed, e⟩ := h.error first
      exact ⟨misuse, .inl flawed, e⟩
    · obtain ⟨misuse, flawed, e⟩ := (next a (h.ok first).2).error second
      exact ⟨misuse, .inr flawed, e⟩

theorem map {g : α → β} (h : Renders x flaw good) (imp : ∀ a, good a → fine (g a)) :
    Renders (x.map g) flaw fine where
  ok result := by
    obtain ⟨a, first, rfl⟩ := map_eq_ok.mp result
    exact ⟨(h.ok first).1, imp a (h.ok first).2⟩
  error result := h.error (map_eq_error.mp result)

end Renders

/-- Together the predicates say as much as is meant. -/
def Predicate.Say (meaning : Fields → Prop) (l : List Predicate) : Prop :=
  ∀ doc, allHold doc l = true ↔ meaning doc

-- ---------------------------------------------------------------------------
-- Predicates
-- ---------------------------------------------------------------------------

namespace Predicate

variable {doc : Fields} {l m : List Predicate}

@[simp] theorem allHold_iff : allHold doc l = true ↔ ∀ p ∈ l, p.holds doc = true := by
  induction l with
  | nil => simp [allHold]
  | cons p rest ih => simp [allHold, ih]

@[simp] theorem anyHolds_iff : anyHolds doc l = true ↔ ∃ p ∈ l, p.holds doc = true := by
  induction l with
  | nil => simp [anyHolds]
  | cons p rest ih => simp [anyHolds, ih]

theorem patternHolds_iff {p : Pattern} {v : Value} : patternHolds p v = true ↔ p.FindsIn v := by
  constructor
  · intro holds
    cases v with
    | string s => exact .text holds
    | array items =>
      obtain ⟨item, mem, found⟩ := List.any_eq_true.mp holds
      cases item with
      | string s => exact .item mem found
      | _ => simp [Value.string?] at found
    | _ => simp [patternHolds] at holds
  · rintro (found | ⟨mem, found⟩)
    · exact found
    · exact List.any_eq_true.mpr ⟨_, mem, found⟩

theorem Say.append {first second : Fields → Prop} (h : Say first l) (h' : Say second m) :
    Say (fun doc => first doc ∧ second doc) (l ++ m) := fun doc => by
  simp only [← h doc, ← h' doc, allHold_iff, List.mem_append, or_imp, forall_and]

/-- Of the documents, the predicates hold as often as is meant of the things they stand for. -/
structure Mean {α : Type} (meaning : α → Fields → Prop) (things : List α) (l : List Predicate) :
    Prop where
  all : ∀ doc, allHold doc l = true ↔ ∀ x ∈ things, meaning x doc
  any : ∀ doc, anyHolds doc l = true ↔ ∃ x ∈ things, meaning x doc

theorem Mean.cons {α : Type} {meaning : α → Fields → Prop} {things : List α} {x : α}
    (mean : Mean meaning things l) (h : ∀ doc, p.holds doc = true ↔ meaning x doc) :
    Mean meaning (x :: things) (p :: l) where
  all doc := by simpa [h doc] using fun _ => mean.all doc
  any doc := by simpa [h doc] using or_congr_right (mean.any doc)

theorem Say.single {meaning : Fields → Prop} (h : ∀ doc, p.holds doc = true ↔ meaning doc) :
    Say meaning [p] := fun doc => by
  simp [h doc]

end Predicate

namespace Renders

open Predicate (Say Mean)

variable {α : Type} {flaw : α → Misuse → Prop} {meaning : α → Fields → Prop} {l : List α}

/-- Conditions that are compiled one after the other. -/
theorem concatenated {one f : _ → Except Error (List Predicate)} (nil : f [] = .ok [])
    (cons : ∀ x rest, f (x :: rest) = one x >>= fun here => f rest >>= fun more =>
      .ok (here ++ more))
    (each : ∀ x ∈ l, Renders (one x) (flaw x) (Say (meaning x))) :
    Renders (f l) (fun misuse => ∃ x ∈ l, flaw x misuse)
      (Say fun doc => ∀ x ∈ l, meaning x doc) := by
  induction l with
  | nil => exact nil ▸ of_ok (by simp) fun doc => by simp
  | cons x rest ih =>
    rw [cons]
    obtain ⟨first, others⟩ := List.forall_mem_cons.mp each
    refine (first.bind fun here said => (ih others).bind fun more meant =>
      done (said.append meant)).congr ?_ ?_
    · simp
    · simp

/-- Predicates that are compiled one for each thing. -/
theorem collected {one : _ → Except Error Predicate} {f : _ → Except Error (List Predicate)}
    (nil : f [] = .ok [])
    (cons : ∀ x rest, f (x :: rest) = one x >>= fun here => f rest >>= fun more =>
      .ok (here :: more))
    (each : ∀ x ∈ l, Renders (one x) (flaw x) fun p => ∀ doc, p.holds doc = true ↔ meaning x doc) :
    Renders (f l) (fun misuse => ∃ x ∈ l, flaw x misuse) (Mean meaning l) := by
  induction l with
  | nil => exact nil ▸ of_ok (by simp) ⟨by simp, by simp⟩
  | cons x rest ih =>
    rw [cons]
    obtain ⟨first, others⟩ := List.forall_mem_cons.mp each
    refine (first.bind fun p same => (ih others).bind fun ps mean =>
      done (mean.cons same)).congr ?_ ?_
    · simp
    · simp

end Renders

-- ---------------------------------------------------------------------------
-- Fields
-- ---------------------------------------------------------------------------

namespace Schema

open Predicate (Say Mean)

variable {schema : Schema} {path : Path} {fields : Fields} {key : String} {v : Value}

theorem ofName?_eq_regex (named : QueryOperator.ofName? key = some .regex) : key = "$regex" := by
  unfold QueryOperator.ofName? at named
  split at named <;> simp_all

theorem compilePattern_renders (path : Path) (beside : Fields) (operand : Value) :
    Renders (compilePattern path operand (beside.get? "$options")) (PatternFlaw path beside operand)
      fun p => ∀ doc, p.holds doc = true ↔ ∃ s pattern, operand = .string s ∧
        Pattern.ofText? beside.patternFlags s = some pattern ∧ pattern.FindsIn (doc.atD path) := by
  cases operand with
  | string s =>
    simp only [compilePattern]
    split
    · rename_i pattern read
      have read : Pattern.ofText? beside.patternFlags s = some pattern := read
      refine .of_ok (fun misuse flaw => ?_) fun doc => ?_
      · cases flaw with
        | notAString other => exact other s rfl
        | invalid unread => simp [read] at unread
      · rw [Predicate.holds, Predicate.patternHolds_iff]
        simp [read]
    · exact .of_error (.invalid ‹_›)
  | _ => exact .of_error (.notAString (by simp))

/-- What is wrong in an operator on a path. -/
def OperatorFlaw (schema : Schema) (path : Path) (beside : Fields) (key : String) (operand : Value)
    (misuse : Misuse) : Prop :=
  key = "$regex" ∧ (schema.typeFor path).supportsQuery .regex = true ∧
    PatternFlaw path beside operand misuse

theorem compileOperator_renders (beside : Fields) (operand : Value) :
    Renders (schema.compileOperator path key operand (beside.get? "$options"))
      (schema.OperatorFlaw path beside key operand)
      (Say fun doc => schema.OperatorHolds doc path beside key operand) := by
  unfold compileOperator
  cases named : QueryOperator.ofName? key with
  | none =>
    refine Renders.of_ok (fun misuse flaw => ?_) fun doc => ?_
    · simp [flaw.1, QueryOperator.ofName?] at named
    · simp [OperatorHolds, named]
  | some op =>
    by_cases supported : (schema.typeFor path).supportsQuery op = true
    · by_cases pattern : op = .regex
      · subst pattern
        obtain rfl := ofName?_eq_regex named
        simp only [supported, Bool.not_true, Bool.false_eq_true, if_false, BEq.rfl, if_true]
        refine ((compilePattern_renders path beside operand).bind fun p h =>
          .done (Say.single h)).congr ?_ ?_
        · simp [OperatorFlaw, supported]
        · intro l h doc
          simp [h doc, OperatorHolds, named, supported]
      · simp only [supported, Bool.not_true, Bool.false_eq_true, if_false, beq_iff_eq, pattern]
        refine Renders.of_ok (fun misuse flaw => ?_) (Say.single fun doc => ?_)
        · obtain ⟨rfl, -⟩ := flaw
          exact pattern (Option.some.inj named).symm
        · simp [Predicate.holds, OperatorHolds, named, supported, pattern]
    · simp only [supported, Bool.not_false, if_true]
      refine Renders.of_ok (fun misuse flaw => ?_) fun doc => ?_
      · obtain ⟨rfl, supports, -⟩ := flaw
        cases named
        exact supported supports
      · simp [OperatorHolds, named, supported]

theorem fieldFlaw_object {misuse : Misuse} : schema.FieldFlaw path (.object fields) misuse ↔
    ∃ m ∈ fields, if isOperatorKey m.1 then schema.OperatorFlaw path fields m.1 m.2 misuse
      else schema.FieldFlaw (path ++ Path.ofText m.1) m.2 misuse := by
  constructor
  · rintro (⟨mem, supports, flaw⟩ | ⟨mem, plain, flaw⟩)
    · exact ⟨_, mem, by simpa [isOperatorKey] using ⟨rfl, supports, flaw⟩⟩
    · exact ⟨_, mem, by simpa [plain] using flaw⟩
  · rintro ⟨⟨key, v⟩, mem, flaw⟩
    by_cases operator : isOperatorKey key = true
    · obtain ⟨rfl, supports, flaw⟩ := (if_pos operator).mp flaw
      exact .pattern mem supports flaw
    · exact .under mem (Bool.not_eq_true _ ▸ operator) ((if_neg operator).mp flaw)

theorem conditionsOf_cons {options : Option Value} (m : String × Value) (rest : Fields) :
    conditionsOf schema path options (m :: rest) =
      (if isOperatorKey m.1 then schema.compileOperator path m.1 m.2 options
        else schema.conditionsAt (path ++ Path.ofText m.1) m.2) >>= fun here =>
      conditionsOf schema path options rest >>= fun more => .ok (here ++ more) := by
  rw [conditionsOf]
  split <;> rfl

/-- A value that is not an object with members is a condition by itself, and none is refused. -/
theorem conditionsAt_renders_value (other : ∀ e es, v ≠ .object (e :: es)) :
    Renders (schema.conditionsAt path v) (schema.FieldFlaw path v)
      (Say fun doc => schema.FieldHolds doc path v) := by
  rw [conditionsAt]
  · refine Renders.of_ok (fun misuse flaw => ?_) (Say.single fun doc => ?_)
    · rcases flaw with ⟨mem, _⟩ | ⟨mem, _⟩ <;> cases mem <;> exact other _ _ rfl
    · rw [Predicate.holds, fieldHolds_value other]
  · exact other

theorem conditionsAt_renders (v : Value) (path : Path) :
    Renders (schema.conditionsAt path v) (schema.FieldFlaw path v)
      (Say fun doc => schema.FieldHolds doc path v) := by
  induction v using Value.induction generalizing path with
  | scalar v scalar => exact conditionsAt_renders_value fun e es => scalar.2 (e :: es)
  | array items _ => exact conditionsAt_renders_value (by simp)
  | object fields ih =>
    cases fields with
    | nil => exact conditionsAt_renders_value (by simp)
    | cons e es =>
      have each : ∀ m ∈ e :: es, Renders
          (if isOperatorKey m.1 then
              schema.compileOperator path m.1 m.2 (Fields.get? (e :: es) "$options")
            else schema.conditionsAt (path ++ Path.ofText m.1) m.2)
          (fun misuse => if isOperatorKey m.1 then
              schema.OperatorFlaw path (e :: es) m.1 m.2 misuse
            else schema.FieldFlaw (path ++ Path.ofText m.1) m.2 misuse)
          (Say fun doc => if isOperatorKey m.1 then
              schema.OperatorHolds doc path (e :: es) m.1 m.2
            else schema.FieldHolds doc (path ++ Path.ofText m.1) m.2) := by
        intro m mem
        split
        · exact compileOperator_renders (e :: es) m.2
        · exact ih m.1 m.2 mem _
      rw [conditionsAt]
      refine (Renders.concatenated (conditionsOf.eq_1 ..) conditionsOf_cons each).congr ?_ ?_
      · exact fun _ => fieldFlaw_object
      · exact fun l say doc => (say doc).trans (fieldHolds_object (List.cons_ne_nil e es)).symm

-- ---------------------------------------------------------------------------
-- Queries
-- ---------------------------------------------------------------------------

/-- The conditions that one member of a query stands for. -/
def memberConditions (schema : Schema) (key : String) (v : Value) : Except Error (List Predicate) :=
  if key == "$and" then (queries schema key v).map fun l => [Predicate.all l]
  else if key == "$or" then (queries schema key v).map fun l => [Predicate.any l]
  else if key == "$nor" then (queries schema key v).map fun l => [Predicate.none l]
  else if key == "$not" then (conditions schema v).map fun l => [Predicate.negation (.all l)]
  else if isOperatorKey key then .ok []
  else schema.conditionsAt (Path.ofText key) v

theorem conditionsOfMembers_cons (m : String × Value) (rest : Fields) :
    conditionsOfMembers schema (m :: rest) = schema.memberConditions m.1 m.2 >>= fun here =>
      conditionsOfMembers schema rest >>= fun more => .ok (here ++ more) := by
  rw [conditionsOfMembers, memberConditions]
  repeat' split
  all_goals rfl

/-- A query for one field is the condition on that field. -/
theorem conditions_field (plain : isOperatorKey key = false) (v : Value) :
    schema.conditions (.object [(key, v)]) = schema.conditionsAt (Path.ofText key) v := by
  have other (operator : String) (special : isOperatorKey operator = true) : key ≠ operator := by
    rintro rfl
    rw [special] at plain
    cases plain
  rw [conditions, conditionsOfMembers_cons]
  simp only [memberConditions, beq_iff_eq, other "$and" (by decide), other "$or" (by decide),
    other "$nor" (by decide), other "$not" (by decide), plain, Bool.false_eq_true, if_false]
  cases schema.conditionsAt (Path.ofText key) v <;>
    simp [conditionsOfMembers, bind, Except.bind]

theorem queriesOfItems_cons (v : Value) (rest : List Value) :
    queriesOfItems schema (v :: rest) =
      (schema.conditions v).map Predicate.all >>= fun here =>
      queriesOfItems schema rest >>= fun more => .ok (here :: more) := by
  rw [queriesOfItems]
  cases schema.conditions v <;> rfl

/-- The conditions of a query are right. -/
def QueryRenders (schema : Schema) (v : Value) : Prop :=
  Renders (schema.conditions v) (schema.QueryFlaw v) (Say fun doc => schema.QueryHolds doc v)

theorem isOperatorKey_of_listed (listed : key ∈ listKeys) : isOperatorKey key = true := by
  simp only [listKeys, List.mem_cons, List.not_mem_nil, or_false] at listed
  rcases listed with rfl | rfl | rfl <;> rfl

theorem memberFlaw_listed {misuse : Misuse} {items : List Value} (listed : key ∈ listKeys) :
    schema.MemberFlaw key (.array items) misuse ↔ ∃ q ∈ items, schema.QueryFlaw q misuse := by
  constructor
  · rintro (⟨_, other⟩ | ⟨_, mem, flaw⟩ | _ | ⟨unnamed, _⟩)
    · exact absurd rfl (other items)
    · exact ⟨_, mem, flaw⟩
    · simp [listKeys] at listed
    · simp [isOperatorKey_of_listed listed] at unnamed
  · rintro ⟨q, mem, flaw⟩
    exact .listed listed mem flaw

theorem memberFlaw_notAnArray {misuse : Misuse} (listed : key ∈ listKeys)
    (other : ∀ l, v ≠ .array l) :
    schema.MemberFlaw key v misuse ↔ misuse = .queriesNotAnArray key v.typeName := by
  constructor
  · rintro (_ | _ | _ | ⟨unnamed, _⟩)
    · rfl
    · exact absurd rfl (other _)
    · simp [listKeys] at listed
    · simp [isOperatorKey_of_listed listed] at unnamed
  · rintro rfl
    exact .notAnArray listed other

theorem memberFlaw_not {misuse : Misuse} :
    schema.MemberFlaw "$not" v misuse ↔ schema.QueryFlaw v misuse := by
  constructor
  · rintro (⟨listed, _⟩ | ⟨listed, _⟩ | flaw | ⟨unnamed, _⟩)
    · simp [listKeys] at listed
    · simp [listKeys] at listed
    · exact flaw
    · simp [isOperatorKey] at unnamed
  · exact .negated

theorem memberFlaw_other {misuse : Misuse} (unlisted : key ∉ listKeys) (other : key ≠ "$not") :
    schema.MemberFlaw key v misuse ↔
      isOperatorKey key = false ∧ schema.FieldFlaw (Path.ofText key) v misuse := by
  constructor
  · rintro (⟨listed, _⟩ | ⟨listed, _⟩ | _ | ⟨unnamed, flaw⟩)
    · exact absurd listed unlisted
    · exact absurd listed unlisted
    · exact absurd rfl other
    · exact ⟨unnamed, flaw⟩
  · rintro ⟨unnamed, flaw⟩
    exact .field unnamed flaw

/-- The conditions of a list of queries are right. -/
theorem queries_renders (listed : key ∈ listKeys)
    (each : ∀ items, v = .array items → ∀ q ∈ items, schema.QueryRenders q) :
    Renders (queries schema key v) (schema.MemberFlaw key v)
      fun l => ∃ items, v = .array items ∧ Mean (fun q doc => schema.QueryHolds doc q) items l := by
  cases v with
  | array items =>
    rw [queries]
    have queries : ∀ q ∈ items, Renders ((schema.conditions q).map Predicate.all)
        (schema.QueryFlaw q) fun p => ∀ doc, p.holds doc = true ↔ schema.QueryHolds doc q :=
      fun q mem => (each items rfl q mem).map fun l say doc => by rw [Predicate.holds, say doc]
    refine (Renders.collected (queriesOfItems.eq_1 _) queriesOfItems_cons queries).congr ?_ ?_
    · exact fun _ => memberFlaw_listed listed
    · exact fun l mean => ⟨items, rfl, mean⟩
  | _ => exact .of_error (.notAnArray listed (by simp))

theorem memberConditions_renders (itself : schema.QueryRenders v)
    (each : ∀ items, v = .array items → ∀ q ∈ items, schema.QueryRenders q) :
    Renders (schema.memberConditions key v) (schema.MemberFlaw key v)
      (Say fun doc => schema.MemberHolds doc key v) := by
  simp only [memberConditions, beq_iff_eq]
  split_ifs with isAnd isOr isNor isNot operator
  · subst isAnd
    refine (queries_renders (by simp [listKeys]) each).map ?_
    rintro l ⟨items, rfl, mean⟩
    exact Say.single fun doc => by rw [Predicate.holds, mean.all doc, memberHolds_and]
  · subst isOr
    refine (queries_renders (by simp [listKeys]) each).map ?_
    rintro l ⟨items, rfl, mean⟩
    exact Say.single fun doc => by rw [Predicate.holds, mean.any doc, memberHolds_or]
  · subst isNor
    refine (queries_renders (by simp [listKeys]) each).map ?_
    rintro l ⟨items, rfl, mean⟩
    refine Say.single fun doc => ?_
    rw [Predicate.holds, Bool.not_eq_true', ← Bool.not_eq_true, mean.any doc, memberHolds_nor]
    simp
  · subst isNot
    refine (itself.map fun l say => Say.single fun doc => ?_).congr (fun _ => memberFlaw_not)
      fun _ => id
    rw [Predicate.holds, Predicate.holds, Bool.not_eq_true', ← Bool.not_eq_true, say doc,
      memberHolds_not]
  all_goals
    have unlisted : key ∉ listKeys := by simp [listKeys, isAnd, isOr, isNor]
  · refine Renders.of_ok (fun misuse flaw => ?_) fun doc => ?_
    · simp [((memberFlaw_other unlisted isNot).mp flaw).1] at operator
    · simp [memberHolds_other unlisted isNot, operator]
  · have plain : isOperatorKey key = false := Bool.not_eq_true _ ▸ operator
    refine (conditionsAt_renders v _).congr (fun misuse => ?_) fun l say doc => ?_
    · simp [memberFlaw_other unlisted isNot, plain]
    · simp [say doc, memberHolds_other unlisted isNot, plain]

theorem queryFlaw_value {misuse : Misuse} (other : ∀ fields, v ≠ .object fields)
    (some : v ≠ .null) : schema.QueryFlaw v misuse ↔ misuse = .queryNotAnObject v.typeName := by
  constructor
  · rintro (_ | ⟨_, _⟩)
    · rfl
    · exact absurd rfl (other _)
  · rintro rfl
    exact .notAnObject other some

theorem queryFlaw_object {misuse : Misuse} : schema.QueryFlaw (.object fields) misuse ↔
    ∃ m ∈ fields, schema.MemberFlaw m.1 m.2 misuse := by
  constructor
  · rintro (⟨other, _⟩ | ⟨mem, flaw⟩)
    · exact absurd rfl (other fields)
    · exact ⟨_, mem, flaw⟩
  · rintro ⟨m, mem, flaw⟩
    exact .member mem flaw

/-- The conditions of a query that is no object. -/
theorem queryRenders_value (other : ∀ fields, v ≠ .object fields) : schema.QueryRenders v := by
  unfold QueryRenders
  cases v with
  | null =>
    rw [conditions]
    refine Renders.of_ok (fun misuse flaw => ?_) fun doc => ?_
    · rcases flaw with ⟨_, some⟩
      exact some rfl
    · simp [QueryHolds]
  | object fields => exact absurd rfl (other fields)
  | _ => exact .of_error (.notAnObject other (by simp))

theorem conditions_renders (v : Value) : schema.QueryRenders v := by
  induction v using Value.member_induction with
  | other v other => exact queryRenders_value other
  | object fields members items =>
    rw [QueryRenders, conditions]
    have each : ∀ m ∈ fields, Renders (schema.memberConditions m.1 m.2)
        (schema.MemberFlaw m.1 m.2) (Say fun doc => schema.MemberHolds doc m.1 m.2) :=
      fun m mem => memberConditions_renders (members m.1 m.2 mem)
        fun l same => items m.1 l (same ▸ mem)
    refine (Renders.concatenated (conditionsOfMembers.eq_1 _) conditionsOfMembers_cons
      each).congr ?_ ?_
    · exact fun _ => queryFlaw_object
    · exact fun l say doc => (say doc).trans queryHolds_object.symm

-- ---------------------------------------------------------------------------
-- Selectors
-- ---------------------------------------------------------------------------

theorem compileSpec_renders (query : Value) :
    Renders (schema.compileQuery (.spec query)) (schema.QueryFlaw query)
      fun p => ∀ doc, p.holds doc = true ↔ schema.QueryHolds doc query :=
  (conditions_renders query).map fun l say doc => by rw [Predicate.holds, say doc]

end Schema

end DocStore
