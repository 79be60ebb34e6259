import DocStore.Json

/-!
# Records in interchange text

A record has members with fixed names. It is written as an object, or as an array of its members
in order. Members may be left out, others are passed over, and none may repeat.
-/

namespace DocStore.Json

def areDistinct : List String → Bool
  | [] => true
  | name :: rest => !rest.contains name && areDistinct rest

def record? (names : List String) : Json → Option (List (String × Json))
  | .object members =>
    let known := members.filter fun (name, _) => names.contains name
    if areDistinct (known.map Prod.fst) then some known else none
  | .array items => if items.length ≤ names.length then some (names.zip items) else none
  | _ => none

/-- A natural number of at most 32 bits. -/
def word? : Json → Option Nat
  | .integer n => if 0 ≤ n && n < pow2 32 then some n.toNat else none
  | _ => none

def string? : Json → Option String
  | .string s => some s
  | _ => none

def array? : Json → Option (List Json)
  | .array items => some items
  | _ => none

end DocStore.Json
