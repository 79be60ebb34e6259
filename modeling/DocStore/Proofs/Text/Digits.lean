import DocStore.Proofs.Number.Text

/-!
# Digits read back

Numbers of a fixed width and bytes in sixteens, written and read.
-/

namespace DocStore.Text

variable {width n : Nat}

-- ---------------------------------------------------------------------------
-- Numbers of a fixed width
-- ---------------------------------------------------------------------------

theorem toList_padded (width n : Nat) : (padded width n).toList =
    List.replicate (width - (Nat.toDigits 10 n).length) '0' ++ Nat.toDigits 10 n := by
  have zeros : ∀ k, ("".pushn '0' k).toList = List.replicate k '0' := Number.toList_zeros
  simp only [padded, Nat.toString_eq_repr, String.toList_append, zeros, Nat.toList_repr,
    ← String.length_toList]

theorem isDigit_padded (width n : Nat) : ∀ c ∈ (padded width n).toList, isDigit c = true := by
  intro c mem
  rw [toList_padded] at mem
  rcases List.mem_append.mp mem with mem | mem
  · exact Number.isDigit_of_mem_zeros mem
  · exact Number.isDigit_of_mem_toDigits mem

theorem length_padded (pos : 0 < width) (fits : n < 10 ^ width) :
    (padded width n).toList.length = width := by
  have short := (Nat.length_repr_le_iff pos).mpr fits
  rw [← String.length_toList, Nat.toList_repr] at short
  rw [toList_padded, List.length_append, List.length_replicate]
  omega

theorem natOfDigits_padded (width n : Nat) : natOfDigits (padded width n).toList = n := by
  have zeros : ∀ k, natOfDigits (List.replicate k '0') = 0 := by
    intro k
    induction k with
    | zero => rfl
    | succ k ih => simpa [natOfDigits, List.replicate_succ, digitValue] using ih
  have front := zeros (width - (Nat.toDigits 10 n).length)
  rw [Number.natOfDigits_eq] at front ⊢
  rw [toList_padded, Nat.ofDigitChars_append, front, Nat.ofDigitChars_ten_toDigits]

-- ---------------------------------------------------------------------------
-- Bytes
-- ---------------------------------------------------------------------------

theorem hexDigit?_hexChar (h : n < 16) : hexDigit? (hexChar n) = some n := by
  have all : ∀ n : Fin 16, hexDigit? (hexChar n) = some n.val := by decide
  exact all ⟨n, h⟩

theorem bytesOfHex?_hex (bytes : List UInt8) : bytesOfHex? (hex bytes) = some bytes := by
  induction bytes with
  | nil => rfl
  | cons b rest ih =>
    have bound := b.toNat_lt
    have high : hexDigit? (hexChar (b.toNat / 16)) = some (b.toNat / 16) :=
      hexDigit?_hexChar (by omega)
    have low : hexDigit? (hexChar (b.toNat % 16)) = some (b.toNat % 16) :=
      hexDigit?_hexChar (by omega)
    have byte : 16 * (b.toNat / 16) + b.toNat % 16 = b.toNat := by omega
    simp only [hex, bytesOfHex?, high, low, ih, Option.bind_eq_bind, Option.bind_some, byte,
      UInt8.ofNat_toNat]

end DocStore.Text
