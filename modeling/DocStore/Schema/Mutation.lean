import DocStore.FieldType.Update
import DocStore.Schema

/-!
# Updates

An update object is compiled to a list of mutations, which change a document one after the other.
-/

namespace DocStore

inductive Mutation where
  | set (path : Path) (v : Value)
  | operator (path : Path) (type : FieldType) (op : UpdateOperator) (operand : Value)

namespace Mutation

def apply (doc : Fields) : Mutation → Except Error Fields
  | .set path v => .ok (doc.set path v)
  | .operator path type op operand => do
    let (v, doc) ← type.update path op (doc.atD path) operand doc
    .ok (if v.isNull then doc.remove path else doc.set path v)

/-- Applies mutations up to the first failure. The document comes as far as they got. -/
def applyAll : List Mutation → Fields → Except Error Unit × Fields
  | [], doc => (.ok (), doc)
  | m :: rest, doc =>
    match m.apply doc with
    | .ok doc => applyAll rest doc
    | .error e => (.error e, doc)

end Mutation

namespace Schema

/-- An operator on a path; nothing if the type of the path has no such operator. -/
def operation (schema : Schema) (path : Path) (op : UpdateOperator) (operand : Value) :
    List Mutation :=
  let type := schema.typeFor path
  if type.supportsUpdate op then [.operator path type op operand] else []

mutual
/-- The mutations that a value written at a path stands for. The keys of an object that is not empty
are operators on the path or further keys of it. -/
def mutationsAt (schema : Schema) (path : Path) : Value → List Mutation
  | .object (e :: es) => mutationsOf schema path (e :: es)
  | v => [.set path v]
def mutationsOf (schema : Schema) (path : Path) : List (String × Value) → List Mutation
  | [] => []
  | (key, v) :: rest =>
    (if isOperatorKey key then
        match UpdateOperator.ofName? key with
        | some op => schema.operation path op v
        | none => []
      else mutationsAt schema (path ++ Path.ofText key) v)
      ++ mutationsOf schema path rest
end

def mutationsOfMember (schema : Schema) (key : String) (v : Value) :
    Except Error (List Mutation) :=
  if isOperatorKey key then
    match UpdateOperator.ofName? key with
    | none => .ok []
    | some op =>
      match v with
      | .object fields =>
        .ok (fields.flatMap fun (path, operand) =>
          schema.operation (Path.ofText path) op operand)
      | _ => .error (.usage (.operandsNotAnObject key))
  else .ok (schema.mutationsAt (Path.ofText key) v)

def compileUpdate (schema : Schema) (update : Value) : Except Error (List Mutation) :=
  match update with
  | .object fields => do
    let lists ← fields.mapM fun (key, v) => schema.mutationsOfMember key v
    .ok lists.flatten
  | v => .error (.usage (.updateNotAnObject v.typeName))

end Schema

end DocStore
