import DocStore.Yaml.Token

/-!
# Nodes

The tree that a text stands for, before anything is made of its scalars.
-/

namespace DocStore.Yaml

inductive Node where
  | scalar (tag : Option String) (style : Style) (text : String)
  | sequence (tag : Option String) (items : List Node)
  | mapping (tag : Option String) (entries : List (Node × Node))
  /-- A collection that cannot be followed: it contains itself or is too deep. -/
  | unreachable
deriving Inhabited

namespace Node

def absent : Node := .scalar none .plain ""

def tag? : Node → Option String
  | .scalar tag _ _ => tag
  | .sequence tag _ => tag
  | .mapping tag _ => tag
  | .unreachable => none

def localTag? (node : Node) : Option String :=
  node.tag?.bind fun tag =>
    match tag.toList with
    | '!' :: name => some (String.ofList name)
    | _ => none

def upTo : Nat → Node → Node
  | 0, .sequence .. => .unreachable
  | 0, .mapping .. => .unreachable
  | depth + 1, .sequence tag items => .sequence tag (items.map (upTo depth))
  | depth + 1, .mapping tag entries =>
    .mapping tag (entries.map fun (k, v) => (upTo depth k, upTo depth v))
  | _, node => node

end Node

end DocStore.Yaml
