/-!
# The command line

What a command line asks for, once its words have been understood.
-/

namespace DocStore.CommandLine

inductive Format where
  | yaml
  | json
deriving DecidableEq, Repr

inductive DocumentText where
  /-- Fields one by one. A value is interchange text, or else a string. -/
  | fields (entries : List (String × String))
  | whole (json : String)

inductive Command where
  /-- The version of the database and the number of documents of each model. -/
  | status
  | get (model id : String)
  | find (model : String) (query sort : Option String) (skip : Nat) (limit : Option Nat)
  | insert (model : String) (doc : DocumentText)
  | update (model id update : String)
  /-- A dry run shows what would be removed. -/
  | remove (model id : String) (dryRun : Bool)
  | export (model : String)
  | validate

/-- A command together with the files it works on. -/
structure Invocation where
  db : String
  schema : Option String
  format : Format
  command : Command

end DocStore.CommandLine
