import DocStore.FieldType.Query
import DocStore.Pattern.Match
import DocStore.Pattern.Reader
import DocStore.Schema

/-!
# Selectors

A selector says which documents are wanted: by a query object, by a test, or by a combination of
selectors. It is compiled to a predicate on documents.
-/

namespace DocStore

inductive Selector where
  | spec (query : Value)
  | test (p : Fields → Bool)
  | fieldTest (path : Path) (p : Value → Bool)
  | all (selectors : List Selector)
  | any (selectors : List Selector)
  | none (selectors : List Selector)
  | negation (selector : Selector)

namespace Selector

def everything : Selector := .spec (.object [])

mutual
/-- A short text that shows how a selector is built. -/
def text : Selector → String
  | .spec query => "Spec(" ++ query.text ++ ")"
  | .test _ => "Where(..)"
  | .fieldTest path _ => "FieldWhere(" ++ path.text ++ ")"
  | .all l => "And([" ++ ", ".intercalate (texts l) ++ "])"
  | .any l => "Or([" ++ ", ".intercalate (texts l) ++ "])"
  | .none l => "Nor([" ++ ", ".intercalate (texts l) ++ "])"
  | .negation s => "Not(" ++ s.text ++ ")"
def texts : List Selector → List String
  | [] => []
  | s :: rest => s.text :: texts rest
end

end Selector

inductive Predicate where
  | value (path : Path) (type : FieldType) (query : Value)
  | operator (path : Path) (type : FieldType) (op : QueryOperator) (operand : Value)
  | pattern (path : Path) (pattern : Pattern)
  | test (p : Fields → Bool)
  | fieldTest (path : Path) (p : Value → Bool)
  | all (predicates : List Predicate)
  | any (predicates : List Predicate)
  | none (predicates : List Predicate)
  | negation (predicate : Predicate)

namespace Predicate

/-- A pattern looks at strings and at the strings of an array. -/
def patternHolds (p : Pattern) : Value → Bool
  | .string s => p.isMatch s
  | .array items => items.any fun item => item.string?.any p.isMatch
  | _ => false

mutual
def holds (doc : Fields) : Predicate → Bool
  | .value path type query => type.isMatch (doc.atD path) query
  | .operator path type op operand => type.query op (doc.atD path) operand
  | .pattern path p => patternHolds p (doc.atD path)
  | .test p => p doc
  | .fieldTest path p => p (doc.atD path)
  | .all l => allHold doc l
  | .any l => anyHolds doc l
  | .none l => !anyHolds doc l
  | .negation p => !p.holds doc
def allHold (doc : Fields) : List Predicate → Bool
  | [] => true
  | p :: rest => p.holds doc && allHold doc rest
def anyHolds (doc : Fields) : List Predicate → Bool
  | [] => false
  | p :: rest => p.holds doc || anyHolds doc rest
end

end Predicate

namespace Schema

/-- The pattern of a query, with the flags that stand beside it. -/
def compilePattern (path : Path) (pattern : Value) (options : Option Value) :
    Except Error Predicate :=
  match pattern with
  | .string s =>
    let letters := ((options.bind Value.string?).getD "").toList
    match Pattern.ofText?
      { ignoreCase := letters.contains 'i', multiLine := letters.contains 'm',
        dotAll := letters.contains 's' } s with
    | some p => .ok (.pattern path p)
    | Option.none => .error (.usage (.patternInvalid path))
  | _ => .error (.usage (.patternNotAString path))

/-- An operator on a path; nothing if the type of the path has no such operator. -/
def compileOperator (schema : Schema) (path : Path) (key : String) (operand : Value)
    (options : Option Value) : Except Error (List Predicate) :=
  let type := schema.typeFor path
  match QueryOperator.ofName? key with
  | Option.none => .ok []
  | some op =>
    if !type.supportsQuery op then .ok []
    else if op == .regex then do
      let p ← compilePattern path operand options
      .ok [p]
    else .ok [.operator path type op operand]

mutual
/-- The conditions that a value written at a path stands for. The keys of an object that is not
empty are operators on the path or further keys of it. -/
def conditionsAt (schema : Schema) (path : Path) : Value → Except Error (List Predicate)
  | .object (e :: es) => conditionsOf schema path (Fields.get? (e :: es) "$options") (e :: es)
  | v => .ok [.value path (schema.typeFor path) v]
def conditionsOf (schema : Schema) (path : Path) (options : Option Value) :
    List (String × Value) → Except Error (List Predicate)
  | [] => .ok []
  | (key, v) :: rest => do
    let here ←
      if isOperatorKey key then schema.compileOperator path key v options
      else conditionsAt schema (path ++ Path.ofText key) v
    let more ← conditionsOf schema path options rest
    .ok (here ++ more)
end

mutual
def conditions (schema : Schema) : Value → Except Error (List Predicate)
  | .object fields => conditionsOfMembers schema fields
  | .null => .ok []
  | v => .error (.usage (.queryNotAnObject v.typeName))
def conditionsOfMembers (schema : Schema) :
    List (String × Value) → Except Error (List Predicate)
  | [] => .ok []
  | (key, v) :: rest => do
    let here ←
      if key == "$and" then (queries schema key v).map fun l => [Predicate.all l]
      else if key == "$or" then (queries schema key v).map fun l => [Predicate.any l]
      else if key == "$nor" then (queries schema key v).map fun l => [Predicate.none l]
      else if key == "$not" then (conditions schema v).map fun l => [Predicate.negation (.all l)]
      else if isOperatorKey key then .ok []
      else schema.conditionsAt (Path.ofText key) v
    let more ← conditionsOfMembers schema rest
    .ok (here ++ more)
def queries (schema : Schema) (key : String) : Value → Except Error (List Predicate)
  | .array items => queriesOfItems schema items
  | v => .error (.usage (.queriesNotAnArray key v.typeName))
def queriesOfItems (schema : Schema) : List Value → Except Error (List Predicate)
  | [] => .ok []
  | v :: rest => do
    let here ← conditions schema v
    let more ← queriesOfItems schema rest
    .ok (.all here :: more)
end

mutual
def compileQuery (schema : Schema) : Selector → Except Error Predicate
  | .spec query => (schema.conditions query).map Predicate.all
  | .test p => .ok (.test p)
  | .fieldTest path p => .ok (.fieldTest path p)
  | .all l => (compileQueries schema l).map Predicate.all
  | .any l => (compileQueries schema l).map Predicate.any
  | .none l => (compileQueries schema l).map Predicate.none
  | .negation s => (compileQuery schema s).map Predicate.negation
def compileQueries (schema : Schema) : List Selector → Except Error (List Predicate)
  | [] => .ok []
  | s :: rest => do
    let here ← compileQuery schema s
    let more ← compileQueries schema rest
    .ok (here :: more)
end

end Schema

end DocStore
