import DocStore.Proofs.FieldType.Validate
import DocStore.Proofs.Value.Leaves
import DocStore.Proofs.Value.Parts
import DocStore.Write

/-!
# Spellings of an update

One operator on one path may be written over the path, under its dotted key, or within objects, one
for each key. An update is taken apart into steps, which leave no such choice: it compiles as its
steps do, and the spellings of an operator have one step in common and no other.
-/

namespace DocStore

-- ---------------------------------------------------------------------------
-- Spellings
-- ---------------------------------------------------------------------------

/-- A value within objects, one for each key. -/
def Value.nest (v : Value) : List String → Value
  | [] => v
  | key :: keys => .object [(key, v.nest keys)]

namespace Path

/-- Writes a value at a path: by its dotted key, or within objects. -/
def spellings (p : Path) (v : Value) : List (String × Value) :=
  [(p.text, v), (p.head, v.nest p.rest)]

/-- Writes an operator on a path: over the path, or at it. -/
def operatorSpellings (p : Path) (op : String) (operand : Value) : List (String × Value) :=
  (op, .object [(p.text, operand)]) :: p.spellings (.object [(op, operand)])

/-- Sets a path to a value: by the operator, or by the value alone. -/
def valueSpellings (p : Path) (v : Value) : List (String × Value) :=
  ("$set", .object [(p.text, v)]) :: p.spellings v

end Path

/-- Two updates do the same to any document and to any stored one, or fail in the same way. -/
structure Schema.SameEffect (schema : Schema) (u w : Value) : Prop where
  documents : (schema.compileUpdate u).map Mutation.applyAll =
    (schema.compileUpdate w).map Mutation.applyAll
  models : ∀ m : Model, m.schema = schema → ∀ source id,
    m.perform source (.update id u) = m.perform source (.update id w)

-- ---------------------------------------------------------------------------
-- Steps
-- ---------------------------------------------------------------------------

namespace Fields

mutual
/-- The steps of a value written at a dotted key. Each operator comes to stand over its own. -/
def stepsAt (text : String) : Value → Fields
  | .object (e :: es) => stepsWithin text (e :: es)
  | v => [(text, v)]
def stepsWithin (text : String) : List (String × Value) → Fields
  | [] => []
  | (key, v) :: rest =>
    (if isOperatorKey key then [(key, .object [(text, v)])] else stepsAt (text ++ "." ++ key) v)
      ++ stepsWithin text rest
end

/-- The steps of one member of an update: one operator on one path, or one value at one path. -/
def stepsOf (m : String × Value) : Fields :=
  if isOperatorKey m.1 then
    match m.2 with
    | .object operands => operands.map fun operand => (m.1, .object [operand])
    | v => [(m.1, v)]
  else stepsAt m.1 m.2

def steps (update : Fields) : Fields := update.flatMap stepsOf

variable {text op : String} {keys : List String} {v operand : Value} {m : String × Value}

theorem stepsAt_value (other : ∀ e es, v ≠ .object (e :: es)) (text : String) :
    stepsAt text v = [(text, v)] := by
  rw [stepsAt]
  exact other

theorem stepsAt_operator (named : isOperatorKey op = true) (text : String) (operand : Value) :
    stepsAt text (.object [(op, operand)]) = [(op, .object [(text, operand)])] := by
  simp [stepsAt, stepsWithin, named]

theorem stepsAt_nest (plain : ∀ key ∈ keys, isOperatorKey key = false) (v : Value) :
    stepsAt text (v.nest keys) = stepsAt (".".intercalate (text :: keys)) v := by
  induction keys generalizing text with
  | nil => rfl
  | cons key keys ih =>
    obtain ⟨first, plain⟩ := List.forall_mem_cons.mp plain
    have within : stepsAt text (v.nest (key :: keys)) =
        stepsAt (text ++ "." ++ key) (v.nest keys) := by
      simp [Value.nest, stepsAt, stepsWithin, first]
    rw [within, ih plain]
    rfl

end Fields

namespace Path

variable {p : Path} {op : String} {v operand : Value} {m : String × Value}

theorem isOperatorKey_text (p : Path) : isOperatorKey p.text = isOperatorKey p.head := by
  obtain ⟨head, rest⟩ := p
  change isOperatorKey (".".intercalate (head :: rest)) = _
  induction rest generalizing head with
  | nil => rfl
  | cons key rest ih => exact (ih (head ++ "." ++ key)).trans (isOperatorKey_dotted head key)

/-- Both ways to write a value have the steps of the value at the dotted key. -/
theorem stepsOf_spellings (plain : ∀ key ∈ p.keys, isOperatorKey key = false)
    (spelled : m ∈ p.spellings v) : Fields.stepsOf m = Fields.stepsAt p.text v := by
  obtain ⟨first, rest⟩ := List.forall_mem_cons.mp plain
  simp only [spellings, List.mem_cons, List.not_mem_nil, or_false] at spelled
  rcases spelled with rfl | rfl
  · simp [Fields.stepsOf, isOperatorKey_text, first]
  · simp only [Fields.stepsOf, first, Bool.false_eq_true, if_false]
    exact Fields.stepsAt_nest rest v

/-- Every spelling of an operator comes to the same single step. -/
theorem stepsOf_operatorSpellings (plain : ∀ key ∈ p.keys, isOperatorKey key = false)
    (named : isOperatorKey op = true) (spelled : m ∈ p.operatorSpellings op operand) :
    Fields.stepsOf m = [(op, .object [(p.text, operand)])] := by
  rcases List.mem_cons.mp spelled with rfl | spelled
  · simp [Fields.stepsOf, named]
  · rw [stepsOf_spellings plain spelled, Fields.stepsAt_operator named]

end Path

-- ---------------------------------------------------------------------------
-- Mutations
-- ---------------------------------------------------------------------------

namespace Mutation

theorem applyAll_middle {a b : Mutation} (same : ∀ doc, a.apply doc = b.apply doc)
    (first rest : List Mutation) :
    applyAll (first ++ a :: rest) = applyAll (first ++ b :: rest) := by
  induction first with
  | nil =>
    funext doc
    simp only [List.nil_append, applyAll, same]
  | cons mutation first ih =>
    funext doc
    simp only [List.cons_append, applyAll, ih]

/-- A value alone sets its path as the operator does. -/
theorem apply_set {v : Value} (type : FieldType) (path : Path) (present : v ≠ .null)
    (doc : Fields) : (set path v).apply doc = (operator path type .set v).apply doc := by
  have base : type.supportsUpdate .set = true := by
    simp [FieldType.supportsUpdate, UpdateOperator.isBase]
  have kept : v.isNull = false := by
    cases v <;> first | rfl | exact absurd rfl present
  simp [apply, FieldType.update, base, kept, bind, Except.bind]

end Mutation

-- ---------------------------------------------------------------------------
-- Compiling the steps
-- ---------------------------------------------------------------------------

namespace Schema

variable {schema : Schema} {p : Path} {text op : String} {v operand : Value}
  {m m' : String × Value} {before after first second : Fields}

theorem compileUpdate_cons (m : String × Value) (rest : Fields) :
    schema.compileUpdate (.object (m :: rest)) =
      schema.mutationsOfMember m.1 m.2 >>= fun here =>
        schema.compileUpdate (.object rest) >>= fun more => .ok (here ++ more) := by
  simp only [compileUpdate, List.mapM_cons, bind_assoc, pure_bind]
  refine bind_congr fun here => bind_congr fun lists => ?_
  rfl

theorem compileUpdate_single (m : String × Value) :
    schema.compileUpdate (.object [m]) = schema.mutationsOfMember m.1 m.2 := by
  rw [compileUpdate_cons]
  cases schema.mutationsOfMember m.1 m.2 with
  | error e => rfl
  | ok here => exact congrArg Except.ok (List.append_nil here)

/-- The members of an update are compiled one after the other. -/
theorem compileUpdate_concat (first second : Fields) :
    schema.compileUpdate (.object (first ++ second)) =
      schema.compileUpdate (.object first) >>= fun here =>
        schema.compileUpdate (.object second) >>= fun more => .ok (here ++ more) := by
  induction first with
  | nil =>
    change schema.compileUpdate (.object second) =
      schema.compileUpdate (.object second) >>= fun more => .ok more
    cases schema.compileUpdate (.object second) <;> rfl
  | cons m rest ih =>
    rw [List.cons_append, compileUpdate_cons, compileUpdate_cons, ih]
    simp only [bind_assoc]
    refine bind_congr fun here => bind_congr fun more => ?_
    simp only [bind, Except.bind]
    cases schema.compileUpdate (.object second) <;> simp

theorem compileUpdate_operator (named : isOperatorKey op = true) (text : String) (operand : Value) :
    schema.compileUpdate (.object [(op, .object [(text, operand)])]) =
      .ok (match UpdateOperator.ofName? op with
        | some known => schema.operation (Path.ofText text) known operand
        | none => []) := by
  rw [compileUpdate_single]
  simp only [mutationsOfMember, named, if_true]
  cases UpdateOperator.ofName? op <;> simp

theorem compileUpdate_value (plain : isOperatorKey text = false) (v : Value) :
    schema.compileUpdate (.object [(text, v)]) = .ok (schema.mutationsAt (Path.ofText text) v) := by
  rw [compileUpdate_single]
  simp [mutationsOfMember, plain]

/-- Operators with several operands take them one after the other. -/
theorem compileUpdate_operands (named : isOperatorKey op = true) (operands : Fields) :
    schema.compileUpdate (.object (operands.map fun operand => (op, .object [operand]))) =
      schema.mutationsOfMember op (.object operands) := by
  induction operands with
  | nil =>
    simp only [mutationsOfMember, named, if_true]
    cases UpdateOperator.ofName? op <;> rfl
  | cons operand rest ih =>
    rw [List.map_cons, ← List.singleton_append, compileUpdate_concat, ih,
      compileUpdate_operator named]
    simp only [mutationsOfMember, named, if_true]
    cases UpdateOperator.ofName? op <;> rfl

theorem compileUpdate_stepsWithin {fields : Fields}
    (each : ∀ key v, (key, v) ∈ fields → ∀ text, isOperatorKey text = false →
      schema.compileUpdate (.object (Fields.stepsAt text v)) =
        .ok (schema.mutationsAt (Path.ofText text) v))
    (plain : isOperatorKey text = false) :
    schema.compileUpdate (.object (Fields.stepsWithin text fields)) =
      .ok (schema.mutationsOf (Path.ofText text) fields) := by
  induction fields with
  | nil =>
    rw [Fields.stepsWithin, mutationsOf]
    rfl
  | cons m rest ih =>
    obtain ⟨key, v⟩ := m
    rw [Fields.stepsWithin, mutationsOf, compileUpdate_concat,
      ih fun key v mem => each key v (List.mem_cons_of_mem _ mem)]
    cases named : isOperatorKey key with
    | true =>
      simp only [if_true, compileUpdate_operator named]
      rfl
    | false =>
      have dotted : isOperatorKey (text ++ "." ++ key) = false := by
        rw [isOperatorKey_dotted, plain]
      simp only [Bool.false_eq_true, if_false, each key v List.mem_cons_self _ dotted,
        Path.ofText_append]
      rfl

theorem compileUpdate_stepsAt (plain : isOperatorKey text = false) (v : Value) :
    schema.compileUpdate (.object (Fields.stepsAt text v)) =
      .ok (schema.mutationsAt (Path.ofText text) v) := by
  induction v using Value.induction generalizing text with
  | scalar v scalar =>
    rw [Fields.stepsAt_value fun e es => scalar.2 (e :: es), compileUpdate_value plain]
  | array items _ => rw [Fields.stepsAt_value (by simp), compileUpdate_value plain]
  | object fields ih =>
    cases fields with
    | nil => rw [Fields.stepsAt_value (by simp), compileUpdate_value plain]
    | cons e es =>
      rw [Fields.stepsAt, mutationsAt]
      exact compileUpdate_stepsWithin (fun key v mem text plain => ih key v mem plain) plain

theorem compileUpdate_stepsOf (m : String × Value) :
    schema.compileUpdate (.object (Fields.stepsOf m)) = schema.mutationsOfMember m.1 m.2 := by
  obtain ⟨key, v⟩ := m
  cases named : isOperatorKey key with
  | false =>
    simp only [Fields.stepsOf, mutationsOfMember, named, Bool.false_eq_true, if_false]
    exact compileUpdate_stepsAt named v
  | true =>
    cases v with
    | object operands =>
      simp only [Fields.stepsOf, named, if_true]
      exact compileUpdate_operands named operands
    | _ =>
      simp only [Fields.stepsOf, named, if_true]
      exact compileUpdate_single _

/-- An update compiles as its steps do. -/
theorem compileUpdate_steps (schema : Schema) (update : Fields) :
    schema.compileUpdate (.object update.steps) = schema.compileUpdate (.object update) := by
  induction update with
  | nil => rfl
  | cons m rest ih =>
    have split : Fields.steps (m :: rest) = Fields.stepsOf m ++ Fields.steps rest :=
      List.flatMap_cons
    rw [split, compileUpdate_concat, ih, compileUpdate_stepsOf, compileUpdate_cons]

-- ---------------------------------------------------------------------------
-- Effects
-- ---------------------------------------------------------------------------

/-- A stored document is changed by what the mutations make of it, and by nothing else in them. -/
theorem sameEffect_of_applyAll {u w : Value}
    (same : (schema.compileUpdate u).map Mutation.applyAll =
      (schema.compileUpdate w).map Mutation.applyAll) : schema.SameEffect u w where
  documents := same
  models m own source id := by
    subst own
    have planned : m.prepare (.update id u) >>= m.plan source =
        m.prepare (.update id w) >>= m.plan source := by
      simp only [Model.prepare]
      cases first : m.schema.compileUpdate u with
      | error e =>
        cases second : m.schema.compileUpdate w <;> simp_all [Except.map]
      | ok mutations =>
        cases second : m.schema.compileUpdate w with
        | error e => simp [first, second, Except.map] at same
        | ok others =>
          have effect : Mutation.applyAll mutations = Mutation.applyAll others := by
            simpa [first, second, Except.map] using same
          change m.plan source (.update id mutations) = m.plan source (.update id others)
          simp only [Model.plan, effect]
    simp only [Model.perform, planned]

theorem sameEffect_of_compileUpdate {u w : Value}
    (same : schema.compileUpdate u = schema.compileUpdate w) : schema.SameEffect u w :=
  sameEffect_of_applyAll (congrArg (Except.map Mutation.applyAll) same)

theorem SameEffect.symm {u w : Value} (same : schema.SameEffect u w) : schema.SameEffect w u :=
  ⟨same.documents.symm, fun m own source id => (same.models m own source id).symm⟩

theorem SameEffect.trans {u w z : Value} (first : schema.SameEffect u w)
    (second : schema.SameEffect w z) : schema.SameEffect u z :=
  ⟨first.documents.trans second.documents,
    fun m own source id => (first.models m own source id).trans (second.models m own source id)⟩

theorem compileUpdate_placed (same : Fields.stepsOf m = Fields.stepsOf m')
    (before after : Fields) : schema.compileUpdate (.object (before ++ m :: after)) =
      schema.compileUpdate (.object (before ++ m' :: after)) := by
  have steps (m : String × Value) : Fields.steps (before ++ m :: after) =
      Fields.steps before ++ Fields.stepsOf m ++ Fields.steps after := by
    simp [Fields.steps]
  rw [← compileUpdate_steps schema (before ++ m :: after), steps, same, ← steps,
    compileUpdate_steps]

theorem sameEffect_set (plain : isOperatorKey text = false) (leaf : v.IsLeaf) (present : v ≠ .null)
    (before after : Fields) :
    schema.SameEffect (.object (before ++ (text, v) :: after))
      (.object (before ++ ("$set", .object [(text, v)]) :: after)) := by
  have value : schema.mutationsOfMember text v = .ok [.set (Path.ofText text) v] := by
    cases v with
    | object fields => exact absurd rfl (leaf fields)
    | _ => simp [mutationsOfMember, plain, mutationsAt]
  have operator : schema.mutationsOfMember "$set" (.object [(text, v)]) =
      .ok [.operator (Path.ofText text) (schema.typeFor (Path.ofText text)) .set v] := by
    have named : UpdateOperator.ofName? "$set" = some .set := rfl
    have key : isOperatorKey "$set" = true := by decide
    simp [mutationsOfMember, named, key, operation, FieldType.supportsUpdate, UpdateOperator.isBase]
  refine sameEffect_of_applyAll ?_
  rw [compileUpdate_concat, compileUpdate_concat, compileUpdate_cons, compileUpdate_cons, value,
    operator]
  cases schema.compileUpdate (.object before) with
  | error e => rfl
  | ok first =>
    cases schema.compileUpdate (.object after) with
    | error e => rfl
    | ok rest =>
      have each := Mutation.apply_set (schema.typeFor (Path.ofText text)) (Path.ofText text) present
      exact congrArg Except.ok (Mutation.applyAll_middle each first rest)

/-- Whatever else an update holds, an operator compiles alike however it is spelled, and to set a
path to a value that is neither null nor an object it makes no difference how that is spelled. -/
theorem compileUpdate_spellings (schema : Schema) {p : Path}
    (plain : ∀ key ∈ p.keys, isOperatorKey key = false) (before after : Fields) :
    let placed (m : String × Value) : Value := .object (before ++ m :: after)
    (∀ op operand, isOperatorKey op = true →
      ∀ m ∈ p.operatorSpellings op operand, ∀ m' ∈ p.operatorSpellings op operand,
        schema.compileUpdate (placed m) = schema.compileUpdate (placed m') ∧
        schema.SameEffect (placed m) (placed m')) ∧
    (∀ v : Value, v ≠ .null → v.IsLeaf →
      ∀ m ∈ p.valueSpellings v, ∀ m' ∈ p.valueSpellings v,
        schema.SameEffect (placed m) (placed m')) := by
  intro placed
  constructor
  · intro op operand named m spelled m' spelled'
    have same : schema.compileUpdate (placed m) = schema.compileUpdate (placed m') :=
      compileUpdate_placed ((Path.stepsOf_operatorSpellings plain named spelled).trans
        (Path.stepsOf_operatorSpellings plain named spelled').symm) before after
    exact ⟨same, sameEffect_of_compileUpdate same⟩
  · intro v present leaf m spelled m' spelled'
    have text : isOperatorKey p.text = false :=
      p.isOperatorKey_text.trans (plain p.head List.mem_cons_self)
    have set {m : String × Value} (spelled : m ∈ p.valueSpellings v) :
        schema.SameEffect (placed m) (placed ("$set", .object [(p.text, v)])) := by
      rcases List.mem_cons.mp spelled with rfl | spelled
      · exact sameEffect_of_compileUpdate rfl
      · have same : Fields.stepsOf m = Fields.stepsOf (p.text, v) :=
          (Path.stepsOf_spellings plain spelled).trans
            (Path.stepsOf_spellings plain List.mem_cons_self).symm
        exact (sameEffect_of_compileUpdate (compileUpdate_placed same before after)).trans
          (sameEffect_set text leaf present before after)
    exact (set spelled).trans (set spelled').symm

/-- The age is set to a text and counted up, each over its path or within objects. -/
theorem compileUpdate_spellings_age :
    let age : Path := ⟨"pet", ["age"]⟩
    let one : Value := .number (Number.ofNat 1)
    let set : String × Value := ("$set", .object [("pet.age", .string "young")])
    let count : String × Value := ("pet", .object [("age", .object [("$inc", one)])])
    (∀ key ∈ age.keys, isOperatorKey key = false) ∧ isOperatorKey "$inc" = true ∧
      initial.compileUpdate (.object [set, count]) =
        initial.compileUpdate (.object [set, ("$inc", .object [("pet.age", one)])]) ∧
      Value.string "young" ≠ .null ∧ (Value.string "young").IsLeaf ∧
      initial.SameEffect (.object [set, count])
        (.object [("pet", .object [("age", .string "young")]), count]) := by
  intro age one set count
  have plain : ∀ key ∈ age.keys, isOperatorKey key = false := by
    simp only [age, Path.keys, List.forall_mem_cons]
    exact ⟨by decide, by decide, by simp⟩
  have named : isOperatorKey "$inc" = true := by decide
  have text : age.text = "pet.age" := by decide
  have counted : count ∈ age.operatorSpellings "$inc" one := by
    simp [Path.operatorSpellings, Path.spellings, Value.nest, age, count]
  have outside : ("$inc", .object [("pet.age", one)]) ∈ age.operatorSpellings "$inc" one := by
    simp [Path.operatorSpellings, text]
  have assigned : set ∈ age.valueSpellings (.string "young") := by
    simp [Path.valueSpellings, set, text]
  have nested : ("pet", .object [("age", .string "young")]) ∈
      age.valueSpellings (.string "young") := by
    simp [Path.valueSpellings, Path.spellings, Value.nest, age]
  have leaf : (Value.string "young").IsLeaf := fun _ => by simp
  exact ⟨plain, named,
    ((compileUpdate_spellings initial plain [set] []).1 "$inc" one named _ counted _ outside).1,
    by simp, leaf,
    (compileUpdate_spellings initial plain [] [count]).2 _ (by simp) leaf _ assigned _ nested⟩

end Schema

end DocStore
