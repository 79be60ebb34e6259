import DocStore.Definition

/-!
# Views of a definition's parts

Configuration text is read by what is written: a scalar is a text wherever a text is asked for, and
nothing at all is an empty collection. Interchange text is read by what it stands for. The items of
an array are read in the second way in either text.
-/

namespace DocStore

open Yaml

/-- How the parts of a definition are found in a tree. Without a result the tree does not fit. -/
structure DefinitionView (α : Type) where
  /-- The members of a record by their names, unknown ones left out. -/
  record? : List String → α → Option (List (String × α))
  table? : α → Option (List (String × α))
  list? : α → Option (List α)
  bool? : α → Option Bool
  natural? : α → Option Nat
  text? : α → Option String
  choice? : List String → α → Option String
  isOpen? : α → Option Bool
  datum? : α → Option Datum

private def keysAreDistinct : List String → Bool
  | [] => true
  | key :: rest => !rest.contains key && keysAreDistinct rest

/-- Members of a record must not repeat. Unknown ones do not count. -/
private def knownMembers? {α : Type} (names : List String) (members : List (Option String × α)) :
    Option (List (String × α)) :=
  let known := members.filterMap fun (name, a) =>
    match name with
    | some name => if names.contains name then some (name, a) else none
    | none => none
  if keysAreDistinct (known.map Prod.fst) then some known else none

/-! ### Reading what is written -/

namespace Yaml.Node

private def written? : Node → Option String
  | .scalar _ _ text => some text
  | _ => none

/-- The entries of a mapping. What is left empty has none. -/
private def entries? : Node → Option (List (Node × Node))
  | .mapping _ entries => some entries
  | .scalar _ .plain "" => some []
  | _ => none

private def plain? (tag : String) : Node → Option String
  | .scalar _ .plain text => some text
  | .scalar shared .literal text =>
    if shared.bind Datum.sharedTag? == some tag then some text else none
  | _ => none

private def isOpen? : Node → Option Bool
  | .scalar tag .plain text =>
    if tag.bind Datum.sharedTag? == some "null" then
      if Literal.isNull text then some true else none
    else if tag.isSome then some false
    else some (text.isEmpty || Literal.isNull text)
  | .unreachable => none
  | _ => some false

private def choice? (_ : List String) (node : Node) : Option String :=
  match node.localTag? with
  | none => node.written?
  | some name =>
    -- a tag makes the choice when nothing is tagged by it
    match node.plain? "null" with
    | some text => if text.isEmpty || Literal.isNull text then some name else none
    | none => none

private def texts? (entries : List (Node × Node)) : Option (List (String × Node)) :=
  entries.mapM fun (k, v) => k.written?.map (·, v)

def view : DefinitionView Node where
  record? names node := do
    let members ← texts? (← node.entries?)
    knownMembers? names (members.map fun (name, v) => (some name, v))
  table? node := node.entries?.bind texts?
  list? node :=
    match node with
    | .sequence _ items => some items
    | .scalar _ .plain "" => some []
    | _ => none
  bool? node := (node.plain? "bool").bind Literal.bool?
  natural? node := (node.plain? "int").bind Literal.natural?
  text? := written?
  choice? := choice?
  isOpen? := isOpen?
  datum? := Datum.ofNode?

end Yaml.Node

/-! ### Reading what a tree stands for -/

namespace Yaml.Datum

private def entries? : Datum → Option (List (Datum × Datum))
  | .mapping entries => some entries
  | _ => none

private def string? : Datum → Option String
  | .string s => some s
  | _ => none

/-- The name that a key of a record stands for; a number counts the names. -/
private def memberName? (names : List String) : Datum → Option (Option String)
  | .string s => some (some s)
  | .integer n => if n < 0 then none else some names[n.toNat]?
  | _ => none

private def choice? (names : List String) : Datum → Option String
  | .string s => some s
  | .mapping [(key, .null)] => (memberName? names key).bind id
  | _ => none

/-- What a datum stands for. A record may be written as the list of its members. -/
def view : DefinitionView Datum where
  record? names d :=
    match d with
    | .mapping entries => do
      let members ← entries.mapM fun (k, v) => (memberName? names k).map (·, v)
      knownMembers? names members
    | .sequence items => if items.length ≤ names.length then some (names.zip items) else none
    | _ => none
  table? d := d.entries?.bind (·.mapM fun (k, v) => k.string?.map (·, v))
  list? d :=
    match d with
    | .sequence items => some items
    | _ => none
  bool? d :=
    match d with
    | .bool b => some b
    | _ => none
  natural? d :=
    match d with
    | .integer n => if n < 0 then none else some n.toNat
    | _ => none
  text? := string?
  choice? := choice?
  isOpen? d :=
    match d with
    | .null => some true
    | _ => some false
  datum? := some

end Yaml.Datum

end DocStore
