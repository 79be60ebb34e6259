/-!
# Powers

The powers that limits, digits and binary numbers are made of.
-/

namespace DocStore

def pow2 (n : Nat) : Nat := Nat.pow 2 n

def pow10 (n : Nat) : Nat := Nat.pow 10 n

end DocStore
