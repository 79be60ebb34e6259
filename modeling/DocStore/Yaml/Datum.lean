import DocStore.Value.Json
import DocStore.Yaml.Literal
import DocStore.Yaml.Node

/-!
# Data

What a node stands for once its scalars are resolved. Interchange trees are data as well.
-/

namespace DocStore.Yaml

inductive Datum where
  | null
  | bool (b : Bool)
  | integer (n : Int)
  | real (x : Number)
  | string (s : String)
  | sequence (items : List Datum)
  | mapping (entries : List (Datum × Datum))
  | tagged (name : String) (content : Datum)
deriving Inhabited

namespace Datum

/-! ### From nodes -/

def ofPlain? (text : String) : Option Datum :=
  if text.isEmpty || Literal.isNull text then some .null
  else
    match Literal.bool? text with
    | some b => some (.bool b)
    | none =>
      match Literal.whole text with
      | .number n => some (.integer n)
      | .tooLarge => none
      | .none =>
        if Literal.isPadded text then some (.string text)
        else some (((Literal.real? text).map .real).getD (.string text))

/-- The name of a tag that all texts share. -/
def sharedTag? (tag : String) : Option String :=
  let start := "tag:yaml.org,2002:"
  if tag.startsWith start then some (tag.drop start.length).copy else none

def ofScalar? (tag : Option String) (style : Style) (text : String) : Option Datum :=
  let untagged := if style == .plain then ofPlain? text else some (.string text)
  match tag with
  | none => untagged
  | some tag =>
    match sharedTag? tag with
    | some "bool" => (Literal.bool? text).map .bool
    | some "int" =>
      match Literal.whole text with
      | .number n => some (.integer n)
      | _ => none
    | some "float" => (Literal.real? text).map .real
    | some "null" => if Literal.isNull text then some .null else none
    | _ => if tag.startsWith "!" then untagged else some (.string text)

/-- Puts a local tag around a datum. A tag without a name is refused. -/
private def tag? (node : Node) (content : Option Datum) : Option Datum :=
  match node.localTag? with
  | none => content
  | some name => if name.isEmpty then none else content.map (.tagged name)

mutual
def ofNode? : Node → Option Datum
  | .scalar tag style text => tag? (.scalar tag style text) (ofScalar? tag style text)
  | .sequence tag items => tag? (.sequence tag []) ((ofNodes? items).map .sequence)
  | .mapping tag entries => tag? (.mapping tag []) ((ofNodeEntries? entries).map .mapping)
  | .unreachable => none
def ofNodes? : List Node → Option (List Datum)
  | [] => some []
  | node :: rest => do some ((← ofNode? node) :: (← ofNodes? rest))
def ofNodeEntries? : List (Node × Node) → Option (List (Datum × Datum))
  | [] => some []
  | (k, v) :: rest => do some ((← ofNode? k, ← ofNode? v) :: (← ofNodeEntries? rest))
end

/-! ### From interchange trees -/

mutual
def ofJson : Json → Datum
  | .null => .null
  | .bool b => .bool b
  | .integer n => .integer n
  | .real x => .real x
  | .string s => .string s
  | .array items => .sequence (ofJsonItems items)
  | .object members => .mapping (ofJsonMembers members)
def ofJsonItems : List Json → List Datum
  | [] => []
  | j :: rest => ofJson j :: ofJsonItems rest
def ofJsonMembers : List (String × Json) → List (Datum × Datum)
  | [] => []
  | (k, j) :: rest => (.string k, ofJson j) :: ofJsonMembers rest
end

/-! ### Laws of data -/

mutual
/-- Whether two data are the same as keys. Whole numbers differ from others. -/
def same : Datum → Datum → Bool
  | .null, .null => true
  | .bool a, .bool b => a == b
  | .integer m, .integer n => m == n
  | .real x, .real y => (x.isNaN && y.isNaN) || x == y
  | .string s, .string t => s == t
  | .sequence l, .sequence m => sameItems l m
  | .mapping l, .mapping m => sameEntries l m
  | .tagged s a, .tagged t b => s == t && same a b
  | _, _ => false
def sameItems : List Datum → List Datum → Bool
  | [], [] => true
  | a :: l, b :: m => same a b && sameItems l m
  | _, _ => false
def sameEntries : List (Datum × Datum) → List (Datum × Datum) → Bool
  | [], [] => true
  | (a, v) :: l, (b, w) :: m => same a b && same v w && sameEntries l m
  | _, _ => false
end

mutual
def isUnambiguous : Datum → Bool
  | .sequence items => allUnambiguous items
  | .mapping entries => entriesUnambiguous entries
  | .tagged _ content => isUnambiguous content
  | _ => true
def allUnambiguous : List Datum → Bool
  | [] => true
  | d :: rest => isUnambiguous d && allUnambiguous rest
def entriesUnambiguous : List (Datum × Datum) → Bool
  | [] => true
  | (k, v) :: rest =>
    isUnambiguous k && isUnambiguous v && !rest.any (fun (k', _) => same k k')
      && entriesUnambiguous rest
end

mutual
def isUntagged : Datum → Bool
  | .sequence items => allUntagged items
  | .mapping entries => entriesUntagged entries
  | .tagged .. => false
  | _ => true
def allUntagged : List Datum → Bool
  | [] => true
  | d :: rest => isUntagged d && allUntagged rest
def entriesUntagged : List (Datum × Datum) → Bool
  | [] => true
  | (k, v) :: rest => isUntagged k && isUntagged v && entriesUntagged rest
end

/-! ### To values -/

/-- The text of a key. What is no text, truth value or number cannot be one. -/
def keyText? : Datum → Option String
  | .string s => some s
  | .bool b => some (if b then "true" else "false")
  | .integer n => some (toString n)
  | .real x => if x.isFinite then some (Number.interchange.text x) else none
  | _ => none

mutual
/-- The value of a datum. A tagged datum is an object with the tag as its key. -/
def toValue? : Datum → Option Value
  | .null => some .null
  | .bool b => some (.bool b)
  | .integer n => some (.number (Number.ofInt n))
  | .real x => some (if x.isFinite then .number x else .null)
  | .string s => some (.string s)
  | .sequence items => (itemsToValues? items).map .array
  | .mapping entries => (entriesToFields? entries []).map .object
  | .tagged name content => (toValue? content).map fun v => .object [("!" ++ name, v)]
def itemsToValues? : List Datum → Option (List Value)
  | [] => some []
  | d :: rest => do some ((← toValue? d) :: (← itemsToValues? rest))
def entriesToFields? : List (Datum × Datum) → Fields → Option Fields
  | [], done => some done
  | (k, d) :: rest, done => do entriesToFields? rest (done.insert (← keyText? k) (← toValue? d))
end

end Datum

end DocStore.Yaml
