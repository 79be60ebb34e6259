/-!
# Actions and changes

What hooks are attached to, and what listeners are told about.
-/

namespace DocStore

/-- The actions on a document that hooks run before and after. -/
inductive Action where
  | save
  | remove
deriving DecidableEq, Repr

def Action.name : Action → String
  | .save => "save"
  | .remove => "remove"

def Action.ofName? : String → Option Action
  | "save" => some .save
  | "remove" => some .remove
  | _ => none

inductive Change where
  | insert
  | update
  | remove
deriving DecidableEq, Repr

def Change.name : Change → String
  | .insert => "insert"
  | .update => "update"
  | .remove => "remove"

def Change.ofName? : String → Option Change
  | "insert" => some .insert
  | "update" => some .update
  | "remove" => some .remove
  | _ => none

end DocStore
