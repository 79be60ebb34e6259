import DocStore.Value.Fields

/-!
# Dotted paths

A path names a member by the keys that lead to it. It is never empty; its keys may be.
-/

namespace DocStore

structure Path where
  head : String
  rest : List String := []
deriving DecidableEq, Repr, Inhabited

namespace Path

private def pieces : List Char → List Char × List (List Char)
  | [] => ([], [])
  | c :: s =>
    let (first, more) := pieces s
    if c == '.' then ([], first :: more) else (c :: first, more)

def ofText (s : String) : Path :=
  let (first, more) := pieces s.toList
  ⟨String.ofList first, more.map String.ofList⟩

def keys (p : Path) : List String := p.head :: p.rest

def text (p : Path) : String := ".".intercalate p.keys

def append (p q : Path) : Path := ⟨p.head, p.rest ++ q.keys⟩

instance : Append Path := ⟨append⟩

theorem append_assoc (p q r : Path) : p ++ q ++ r = p ++ (q ++ r) :=
  congrArg (Path.mk p.head) (List.append_assoc p.rest q.keys r.keys)

private theorem pieces_cons (c : Char) (s : List Char) : pieces (c :: s) =
    if c == '.' then ([], (pieces s).1 :: (pieces s).2) else (c :: (pieces s).1, (pieces s).2) := rfl

private theorem pieces_append (s t : List Char) :
    pieces (s ++ '.' :: t) = ((pieces s).1, (pieces s).2 ++ (pieces t).1 :: (pieces t).2) := by
  induction s with
  | nil => rfl
  | cons c s ih =>
    rw [List.cons_append, pieces_cons, pieces_cons, ih]
    split <;> rfl

private theorem pieces_plain {s : List Char} (plain : '.' ∉ s) : pieces s = (s, []) := by
  induction s with
  | nil => rfl
  | cons c s ih =>
    rw [List.mem_cons, not_or] at plain
    simp [pieces_cons, ih plain.2, Ne.symm plain.1]

/-- Without a point there is one key. -/
theorem ofText_plain {s : String} (plain : '.' ∉ s.toList) : ofText s = ⟨s, []⟩ := by
  unfold ofText
  rw [pieces_plain plain]
  simp

/-- A point leads from one path to the other. -/
theorem ofText_append (s t : String) : ofText (s ++ "." ++ t) = ofText s ++ ofText t := by
  have point : (s ++ "." ++ t).toList = s.toList ++ '.' :: t.toList := by simp
  unfold ofText
  rw [point, pieces_append]
  exact congrArg (Path.mk _) List.map_append

end Path

namespace Fields

def getAt (fields : Fields) (key : String) : List String → Option Value
  | [] => get? fields key
  | next :: rest =>
    match get? fields key with
    | some (.object child) => getAt child next rest
    | _ => none

def at? (fields : Fields) (p : Path) : Option Value := getAt fields p.head p.rest

/-- The value at a path, null where there is none. -/
def atD (fields : Fields) (p : Path) : Value := (at? fields p).getD .null

def child (fields : Fields) (key : String) : Fields :=
  match get? fields key with
  | some (.object child) => child
  | _ => []

def setAt (fields : Fields) (v : Value) (key : String) : List String → Fields
  | [] => insert key v fields
  | next :: rest => insert key (.object (setAt (child fields key) v next rest)) fields

/-- Sets a path. What stands in the way and is no object is replaced by one. -/
def set (fields : Fields) (p : Path) (v : Value) : Fields := setAt fields v p.head p.rest

def detachAt (fields : Fields) (key : String) : List String → Option Value × Fields
  | [] => (get? fields key, erase key fields)
  | next :: rest =>
    match get? fields key with
    | some (.object child) =>
      let (found, child) := detachAt child next rest
      (found, insert key (.object child) fields)
    | _ => (none, fields)

/-- What is taken out at a path, and the fields without it. The objects that led to it stay. -/
def detach (fields : Fields) (p : Path) : Option Value × Fields := detachAt fields p.head p.rest

def remove (fields : Fields) (p : Path) : Fields := (detach fields p).2

end Fields

end DocStore
