import DocStore.Proofs.FieldType.Canonical
import DocStore.Proofs.FieldType.Normal
import DocStore.Proofs.Query.Compile
import DocStore.Proofs.Value.Order

/-!
# One order of query operators

On a field whose kind puts what a query asks for into the form of the field, or takes it as it is,
the comparisons of a query stand to one another as those of a total order, and equality is standing
level in it.
-/

namespace DocStore

variable {kind : Kind} {opts : Options} {v c d operand : Value}

/-- The kinds whose equality and order see the same form of what a query asks for. -/
def Kind.IsOrdered : Kind → Prop
  | .number | .integer | .date | .buffer | .mixed | .object | .enumeration _ => True
  | _ => False

theorem Kind.coerce_unless_query (ordered : kind.IsOrdered) (v : Value) :
    (if kind.coercesQueries then kind.coerce v else v) = kind.coerce v := by
  cases kind with
  | string | boolean | id strategy | virtual field => exact ordered.elim
  | _ => rfl

theorem Kind.IsOrdered.concrete (ordered : kind.IsOrdered) (field : VirtualField) :
    kind ≠ .virtual field := by
  rintro rfl
  exact ordered.elim

-- ---------------------------------------------------------------------------
-- The operators of a type
-- ---------------------------------------------------------------------------

/-- The comparisons of a field with `c` and `d` are those of one order. `holds` tells which
operators hold of the field for which operands. -/
structure QueryOperator.OneOrder (holds : QueryOperator → Value → Bool) (c d : Value) : Prop where
  /-- Of before, level and after exactly one. -/
  trichotomy : [holds .lt c, holds .eq c, holds .gt c].count true = 1
  lte : holds .lte c = !holds .gt c
  gte : holds .gte c = !holds .lt c
  level : (holds .gte c && holds .lte c) = holds .eq c
  listed : holds .isIn (.array [c]) = holds .eq c
  pinned : holds .within (.array [c, c]) = holds .eq c
  between : holds .within (.array [c, d]) = (holds .gte c && holds .lte d)
  ne : ∀ operand, holds .ne operand = !holds .eq operand
  notIn : ∀ operand, holds .notIn operand = !holds .isIn operand
  without : ∀ operand, holds .without operand = !holds .within operand

namespace FieldType

/-- A field matches what stands level with it. -/
theorem isMatch_eq_compare (ordered : kind.IsOrdered) (present : v ≠ .null) (present' : c ≠ .null)
    (unique : v.UniqueKeys) (unique' : c.UniqueKeys) (ordinary : v.IsOrdinary)
    (ordinary' : ((leaf kind opts).coerce c).IsOrdinary) :
    (leaf kind opts).isMatch v c =
      ((leaf kind opts).compare v ((leaf kind opts).coerce c) == .eq) := by
  rw [coerce_leaf present'] at ordinary' ⊢
  have coerced := Kind.coerce_ne_null ordered.concrete present'
  have compared : (leaf kind opts).compare v (kind.coerce c) = v.order (kind.coerce c) :=
    compare_eq_order (not_or.mpr ⟨present, coerced⟩) (by simp [isArray])
  rw [isMatch_leaf present present', Kind.coerce_unless_query ordered, compared, Bool.eq_iff_iff,
    beq_iff_eq]
  exact (Value.order_eq_iff unique (kind.uniqueKeys_coerce unique') ordinary ordinary').symm

theorem ordered_present {test : Ordering → Bool} (present : v ≠ .null) :
    (leaf kind opts).ordered test v operand =
      test ((leaf kind opts).compare v ((leaf kind opts).coerce operand)) := by
  cases v <;> first | rfl | exact absurd rfl present

theorem query_oneOrder (ordered : kind.IsOrdered) (present : v ≠ .null) (present' : c ≠ .null)
    (unique : v.UniqueKeys) (unique' : c.UniqueKeys) (ordinary : v.IsOrdinary)
    (ordinary' : ((leaf kind opts).coerce c).IsOrdinary) (d : Value) :
    QueryOperator.OneOrder (fun op => (leaf kind opts).query op v) c d := by
  have isNull : v.isNull = false := by cases v <;> first | rfl | exact absurd rfl present
  have same : (leaf kind opts).isMatch v c = _ :=
    isMatch_eq_compare ordered present present' unique unique' ordinary ordinary'
  constructor
  all_goals
    simp only [query, supportsQuery, QueryOperator.isBase, Bool.true_or, if_true, queryValue, within,
      ordered_present present, Value.operands, List.any_cons, List.any_nil, Bool.or_false, same,
      isNull, Bool.not_false, Bool.true_and, implies_true]
  all_goals
    cases (leaf kind opts).compare v ((leaf kind opts).coerce c) <;> rfl

end FieldType

-- ---------------------------------------------------------------------------
-- The operators of a query
-- ---------------------------------------------------------------------------

/-- The query for an operator on a field. -/
def Selector.asking (key operator : String) (operand : Value) : Selector :=
  .spec (.object [(key, .object [(operator, operand)])])

namespace Schema

variable {schema : Schema} {key operator : String} {op : QueryOperator} {doc : Fields}

theorem isOperatorKey_of_ofName? (named : QueryOperator.ofName? operator = some op) :
    isOperatorKey operator = true := by
  unfold QueryOperator.ofName? at named
  split at named <;> first | rfl | cases named

/-- The operators that every type supports are compiled as they stand. -/
theorem compileQuery_asking (plain : isOperatorKey key = false)
    (named : QueryOperator.ofName? operator = some op) (base : op.isBase = true) (operand : Value) :
    schema.compileQuery (.asking key operator operand) =
      .ok (.all [.operator (Path.ofText key) (schema.typeFor (Path.ofText key)) op operand]) := by
  have special := isOperatorKey_of_ofName? named
  have supported : (schema.typeFor (Path.ofText key)).supportsQuery op = true := by
    simp [FieldType.supportsQuery, base]
  have other : op ≠ .regex := by
    rintro rfl
    cases base
  rw [Selector.asking, compileQuery, conditions_field plain, conditionsAt]
  simp [conditionsOf, special, compileOperator, named, supported, other, bind, Except.bind,
    Except.map]

/-- The comparisons that queries make on a field compile, and they are those of one order, whatever
the document holds there, as long as it is not absent and there is no NaN in it. -/
theorem comparisons_oneOrder (plain : isOperatorKey key = false) (ordered : kind.IsOrdered)
    (typed : schema.typeFor (Path.ofText key) = .leaf kind opts)
    (held : doc.atD (Path.ofText key) = v) (present : v ≠ .null) (present' : c ≠ .null)
    (unique : v.UniqueKeys) (unique' : c.UniqueKeys) (ordinary : v.IsOrdinary)
    (ordinary' : ((FieldType.leaf kind opts).coerce c).IsOrdinary) (d : Value) :
    let holds (op : QueryOperator) (operand : Value) := (FieldType.leaf kind opts).query op v operand
    (∀ operator op, QueryOperator.ofName? operator = some op → op.isBase = true → ∀ operand,
      (schema.compileQuery (.asking key operator operand)).map (·.holds doc) =
        .ok (holds op operand)) ∧
    QueryOperator.OneOrder holds c d := by
  intro holds
  refine ⟨?_, FieldType.query_oneOrder ordered present present' unique unique' ordinary ordinary' d⟩
  intro operator op named base operand
  rw [compileQuery_asking plain named base, typed]
  simp [Except.map, Predicate.holds, Predicate.allHold, held, holds]

/-- An object and the same one with its members in another order. -/
theorem comparisons_oneOrder_reordered :
    let schema := Schema.initial.declareAll [(⟨"pet", []⟩, .ofKind .object)]
    let type : FieldType := .leaf .object {}
    let v : Value := .object [("kind", .string "dog"), ("name", .string "Rex")]
    let c : Value := .object [("name", .string "Rex"), ("kind", .string "dog")]
    let d : Value := .object [("name", .string "Ada"), ("kind", .string "dog")]
    let doc : Fields := [("_id", .string "a"), ("pet", v)]
    let holds (op : QueryOperator) (operand : Value) := type.query op v operand
    isOperatorKey "pet" = false ∧ Kind.object.IsOrdered ∧
      schema.typeFor (Path.ofText "pet") = type ∧ doc.atD (Path.ofText "pet") = v ∧
      v ≠ .null ∧ c ≠ .null ∧ v.UniqueKeys ∧ c.UniqueKeys ∧ v.IsOrdinary ∧
      (type.coerce c).IsOrdinary ∧
      (∀ operator op, QueryOperator.ofName? operator = some op → op.isBase = true → ∀ operand,
        (schema.compileQuery (.asking "pet" operator operand)).map (·.holds doc) =
          .ok (holds op operand)) ∧
      QueryOperator.OneOrder holds c d ∧ holds .eq c = true ∧ holds .gt d = true := by
  intro schema type v c d doc holds
  have path : Path.ofText "pet" = ⟨"pet", []⟩ := by cbv
  have typed : schema.typeFor (Path.ofText "pet") = type := by
    rw [path]
    rfl
  have held : doc.atD (Path.ofText "pet") = v := by
    rw [path]
    rfl
  have scalar (s : String) : (Value.string s).IsScalar := by simp [Value.IsScalar]
  have text (s : String) : (Value.string s).IsOrdinary := .scalar (scalar s) (by simp)
  have members (P : Value → Prop) (dog : P (.string "dog")) (rex : P (.string "Rex")) :
      ∀ k w, (k, w) ∈ [("kind", Value.string "dog"), ("name", .string "Rex")] → P w := by
    rintro k w mem
    simp only [List.mem_cons, Prod.mk.injEq, List.not_mem_nil, or_false] at mem
    rcases mem with ⟨-, rfl⟩ | ⟨-, rfl⟩
    · exact dog
    · exact rex
  have swapped (P : Value → Prop) (dog : P (.string "dog")) (rex : P (.string "Rex")) :
      ∀ k w, (k, w) ∈ [("name", Value.string "Rex"), ("kind", .string "dog")] → P w :=
    fun k w mem => members P dog rex k w ((List.Perm.swap _ _ []).mem_iff.mp mem)
  have unique : v.UniqueKeys :=
    .object (by decide) (members _ (.scalar (scalar _)) (.scalar (scalar _)))
  have unique' : c.UniqueKeys :=
    .object (by decide) (swapped _ (.scalar (scalar _)) (.scalar (scalar _)))
  have ordinary : v.IsOrdinary := .object (members _ (text _) (text _))
  have ordinary' : (type.coerce c).IsOrdinary := .object (swapped _ (text _) (text _))
  have ordered : Kind.object.IsOrdered := trivial
  obtain ⟨compiled, order⟩ := comparisons_oneOrder (by decide) ordered typed held
    (by simp [v]) (by simp [c]) unique unique' ordinary ordinary' d
  exact ⟨by decide, trivial, typed, held, by simp [v], by simp [c], unique, unique', ordinary,
    ordinary', compiled, order, rfl, rfl⟩

end Schema

end DocStore
