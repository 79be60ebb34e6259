import DocStore.Operator
import DocStore.Value.Json
import DocStore.Value.Path

/-!
# Errors

Each error is the cause of a failure. Its text is made from it in one place.
-/

namespace DocStore

inductive Expected where
  | string | number | boolean | date | array | object | buffer | id
deriving DecidableEq, Repr

def Expected.phrase : Expected → String
  | .string => "a string"
  | .number => "a number"
  | .boolean => "a boolean"
  | .date => "a valid date"
  | .array => "an array"
  | .object => "an object"
  | .buffer => "a valid buffer"
  | .id => "a valid id"

inductive Fault where
  | missing
  | notA (expected : Expected) (value : Value)
  | notANumber
  | notAnInteger (x : Number)
  | notOneOf (elements : List Value) (value : Value)
  | operandNotANumber (op : UpdateOperator)
  | operandNotMilliseconds (op : UpdateOperator)
  | targetNotAString
  | dateOutOfRange

def Fault.text : Fault → String
  | .missing => "is required!"
  | .notA expected value => "`" ++ value.text ++ "` is not " ++ expected.phrase ++ "!"
  | .notANumber => "`NaN` is not a number!"
  | .notAnInteger x => "`" ++ Number.plain.text x ++ "` is not an integer!"
  | .notOneOf elements value =>
    "`" ++ value.text ++ "` should be one of: " ++ ", ".intercalate (elements.map Value.text)
  | .operandNotANumber op => op.name ++ " operand must be a number"
  | .operandNotMilliseconds op => op.name ++ " operand must be milliseconds"
  | .targetNotAString => "$rename target must be a string"
  | .dateOutOfRange => "date is out of range"

/-- A call that makes no sense. The last member of a case is the type that was found. -/
inductive Misuse where
  | queryNotAnObject (found : String)
  | queriesNotAnArray (key : String) (found : String)
  | patternNotAString (path : Path)
  | patternInvalid (path : Path)
  | updateNotAnObject (found : String)
  | operandsNotAnObject (key : String)
  | documentNotAnObject (found : String)
  | unknownHook (name : String)
  | unknownEvent (name : String)
  | noElements (path : Path)
  | noStatic (model name : String)
  | noMethod (model name : String)
  | notRegistered (model : String)
  | noFile

def Misuse.text : Misuse → String
  | .queryNotAnObject found => "query must be an object, got " ++ found
  | .queriesNotAnArray key found => "`" ++ key ++ "` expects an array of queries, got " ++ found
  | .patternNotAString path => "`$regex` on `" ++ path.text ++ "` must be a string"
  | .patternInvalid path => "invalid `$regex` on `" ++ path.text ++ "`"
  | .updateNotAnObject found => "update must be an object, got " ++ found
  | .operandsNotAnObject key => "`" ++ key ++ "` expects an object of fields"
  | .documentNotAnObject found => "documents must be objects, got " ++ found
  | .unknownHook name => "hook type must be `save` or `remove`, got `" ++ name ++ "`"
  | .unknownEvent name => "unknown event `" ++ name ++ "`"
  | .noElements path => "enum field `" ++ path.text ++ "` must list its values"
  | .noStatic model name => "model `" ++ model ++ "` has no static `" ++ name ++ "`"
  | .noMethod model name => "model `" ++ model ++ "` has no method `" ++ name ++ "`"
  | .notRegistered model => "model `" ++ model ++ "` is not registered"
  | .noFile => "database has no path"

inductive PopulationFault where
  | noPath
  | notASpec (found : String)
  | unknownPath (path : Path) (model : String)
  | noReference (path : Path)
  | detached (model : String)
  | unknownModel (model : String)

def PopulationFault.text : PopulationFault → String
  | .noPath => "population spec needs a `path`"
  | .notASpec found => "invalid population spec: " ++ found
  | .unknownPath path model => "`" ++ path.text ++ "` is not a path of model `" ++ model ++ "`"
  | .noReference path => "no model is referenced by `" ++ path.text ++ "`"
  | .detached model => "model `" ++ model ++ "` is not attached to a database"
  | .unknownModel model => "model `" ++ model ++ "` does not exist"

inductive Error where
  | validation (path : Path) (fault : Fault)
  | idUndefined
  | idExists (id : String)
  | idMissing (id : String)
  | population (fault : PopulationFault)
  | hook (message : String)
  | usage (misuse : Misuse)
  | file
  /-- Interchange text is malformed or does not describe what is asked for. -/
  | interchange
  /-- Configuration text is malformed or does not describe what is asked for. -/
  | configuration
  | other (message : String)

namespace Error

def code : Error → String
  | .validation .. => "VALIDATION"
  | .idUndefined => "ID_UNDEFINED"
  | .idExists _ => "ID_EXIST"
  | .idMissing _ => "ID_NOT_EXIST"
  | .population _ => "POPULATION"
  | .hook _ => "HOOK"
  | .usage _ => "USAGE"
  | .file => "IO"
  | .interchange => "JSON"
  | .configuration => "YAML"
  | .other _ => "OTHER"

def message : Error → String
  | .validation path fault => "Validation error: `" ++ path.text ++ "` " ++ fault.text
  | .idUndefined => "ID is not defined"
  | .idExists id => "ID `" ++ id ++ "` has been used"
  | .idMissing id => "ID `" ++ id ++ "` does not exist"
  | .population fault => "Population error: " ++ fault.text
  | .hook message => "Hook failed: " ++ message
  | .usage misuse => "Usage error: " ++ misuse.text
  | .file => "IO error"
  | .interchange => "JSON error"
  | .configuration => "YAML error"
  | .other message => message

end Error

end DocStore
