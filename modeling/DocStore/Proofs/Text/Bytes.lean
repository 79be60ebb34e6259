import DocStore.Proofs.Text.Digits
import DocStore.Proofs.Value.Total

/-!
# The order of texts as bytes

A text of ASCII letters has one byte for each letter. Numbers that are written in one width stand in
such texts as they stand in their own order.
-/

namespace DocStore

-- ---------------------------------------------------------------------------
-- Comparisons
-- ---------------------------------------------------------------------------

section Compare

variable {α β : Type} [Ord α] [LT α] [LE α] [Std.LawfulOrderOrd α] [Std.LawfulOrderLT α]
  [Ord β] [LT β] [LE β] [Std.LawfulOrderOrd β] [Std.LawfulOrderLT β]

theorem compare_congr {a b : α} {c d : β} (less : a < b ↔ c < d) (more : b < a ↔ d < c) :
    compare a b = compare c d := by
  have less : compare a b = .lt ↔ compare c d = .lt :=
    Std.compare_eq_lt.trans (less.trans Std.compare_eq_lt.symm)
  have more : compare a b = .gt ↔ compare c d = .gt :=
    Std.compare_eq_gt.trans (more.trans Std.compare_eq_gt.symm)
  cases first : compare a b <;> cases second : compare c d <;> simp_all

end Compare

/-- A number in units of `k` and smaller ones is compared by the units first. -/
theorem compare_mul_add {k i j x y : Nat} (fits : x < k) (fits' : y < k) :
    compare (k * i + x) (k * j + y) = (compare i j).then (compare x y) := by
  rcases Nat.lt_trichotomy i j with less | rfl | more
  · have next : k * i + k ≤ k * j := Nat.mul_le_mul_left k less
    rw [Nat.compare_eq_lt.mpr less, Ordering.lt_then, Nat.compare_eq_lt]
    omega
  · rw [Nat.compare_eq_eq.mpr rfl, Ordering.eq_then]
    exact compare_congr (by omega) (by omega)
  · have next : k * j + k ≤ k * i := Nat.mul_le_mul_left k more
    rw [Nat.compare_eq_gt.mpr more, Ordering.gt_then, Nat.compare_eq_gt]
    omega

namespace Text

/-- The bytes of a text. -/
def utf8 (text : String) : List UInt8 := text.toUTF8.data.toList

def IsAscii (c : Char) : Prop := c.toNat < 128

/-- The order of letters, from the first one to the last. -/
def orderChars : List Char → List Char → Ordering :=
  List.compareLex fun c d => compare c.toNat d.toNat

variable {a b s t : List Char} {c : Char} {width n m : Nat}

-- ---------------------------------------------------------------------------
-- One byte for each letter
-- ---------------------------------------------------------------------------

theorem IsAscii.utf8EncodeChar (ascii : IsAscii c) :
    String.utf8EncodeChar c = [UInt8.ofNat c.toNat] := by
  have size : c.utf8Size = 1 :=
    Char.utf8Size_eq_one_iff.mpr (UInt32.le_iff_toNat_le.mpr (Nat.le_of_lt_succ ascii))
  rw [String.utf8EncodeChar_eq_singleton size]
  rfl

theorem IsAscii.toNat_byte (ascii : IsAscii c) : (UInt8.ofNat c.toNat).toNat = c.toNat :=
  Nat.mod_eq_of_lt (Nat.lt_trans ascii (by decide))

theorem utf8_eq_map {text : String} (ascii : ∀ c ∈ text.toList, IsAscii c) :
    utf8 text = text.toList.map fun c => UInt8.ofNat c.toNat := by
  have encoded : text.toUTF8 = (text.toList.flatMap String.utf8EncodeChar).toByteArray :=
    String.utf8Encode_toList.symm
  rw [utf8, encoded, List.toList_data_toByteArray]
  generalize text.toList = s at ascii
  induction s with
  | nil => rfl
  | cons c s ih =>
    obtain ⟨first, ascii⟩ := List.forall_mem_cons.mp ascii
    rw [List.flatMap_cons, first.utf8EncodeChar, ih ascii]
    rfl

theorem orderBytes_map (ascii : ∀ c ∈ s, IsAscii c) (ascii' : ∀ c ∈ t, IsAscii c) :
    Value.orderBytes (s.map fun c => UInt8.ofNat c.toNat) (t.map fun c => UInt8.ofNat c.toNat) =
      orderChars s t := by
  induction s generalizing t with
  | nil => cases t <;> rfl
  | cons c s ih =>
    cases t with
    | nil => rfl
    | cons d t =>
      obtain ⟨first, ascii⟩ := List.forall_mem_cons.mp ascii
      obtain ⟨first', ascii'⟩ := List.forall_mem_cons.mp ascii'
      have letters : compare (UInt8.ofNat c.toNat) (UInt8.ofNat d.toNat) =
          compare c.toNat d.toNat := by
        refine compare_congr ?_ ?_ <;>
          rw [UInt8.lt_iff_toNat_lt, first.toNat_byte, first'.toNat_byte]
      simp only [List.map_cons, Value.orderBytes, letters, ih ascii ascii', orderChars,
        List.compareLex_cons_cons]

/-- Texts of ASCII letters are ordered by their bytes as they are by their letters. -/
theorem orderBytes_utf8 {text text' : String} (ascii : ∀ c ∈ text.toList, IsAscii c)
    (ascii' : ∀ c ∈ text'.toList, IsAscii c) :
    Value.orderBytes (utf8 text) (utf8 text') = orderChars text.toList text'.toList := by
  rw [utf8_eq_map ascii, utf8_eq_map ascii', orderBytes_map ascii ascii']

-- ---------------------------------------------------------------------------
-- Part by part
-- ---------------------------------------------------------------------------

theorem orderChars_append (same : a.length = b.length) (s t : List Char) :
    orderChars (a ++ s) (b ++ t) = (orderChars a b).then (orderChars s t) := by
  induction a generalizing b with
  | nil =>
    obtain rfl := List.eq_nil_of_length_eq_zero same.symm
    rfl
  | cons c a ih =>
    cases b with
    | nil => cases same
    | cons d b =>
      have later := ih (Nat.succ.inj same)
      simp only [orderChars] at later
      simp only [orderChars, List.cons_append, List.compareLex_cons_cons, later,
        Ordering.then_assoc]

theorem orderChars_cons (c : Char) (s t : List Char) :
    orderChars (c :: s) (c :: t) = orderChars s t := by
  simp [orderChars, List.compareLex_cons_cons]

-- ---------------------------------------------------------------------------
-- Numbers of one width
-- ---------------------------------------------------------------------------

theorem natOfDigits_lt (digits : ∀ c ∈ s, isDigit c = true) : natOfDigits s < 10 ^ s.length := by
  induction s using List.reverseRecOn with
  | nil => simp [natOfDigits]
  | append_singleton s c ih =>
    obtain ⟨digits, last⟩ := List.forall_mem_append.mp digits
    have small := Number.isDigit_iff.mp (last c (by simp))
    have value : digitValue c = c.toNat - 48 := rfl
    have front := ih digits
    simp only [natOfDigits, List.foldl_append, List.foldl_cons, List.foldl_nil, List.length_append,
      List.length_cons, List.length_nil, Nat.pow_succ] at front ⊢
    omega

theorem isAscii_of_isDigit (digit : isDigit c = true) : IsAscii c := by
  have := Number.isDigit_iff.mp digit
  exact Nat.lt_of_le_of_lt this.2 (by decide)

theorem isAscii_padded (width n : Nat) : ∀ c ∈ (padded width n).toList, IsAscii c :=
  fun c mem => isAscii_of_isDigit (isDigit_padded width n c mem)

/-- Reading on digit by digit, the number so far is compared first. -/
theorem compare_foldl_digits (digits : ∀ c ∈ a, isDigit c = true)
    (digits' : ∀ c ∈ b, isDigit c = true) (same : a.length = b.length) (n m : Nat) :
    compare (a.foldl (fun n c => 10 * n + digitValue c) n)
      (b.foldl (fun n c => 10 * n + digitValue c) m) = (compare n m).then (orderChars a b) := by
  induction a generalizing b n m with
  | nil =>
    obtain rfl := List.eq_nil_of_length_eq_zero same.symm
    simp [orderChars, List.compareLex_nil_nil]
  | cons c a ih =>
    cases b with
    | nil => cases same
    | cons d b =>
      obtain ⟨first, digits⟩ := List.forall_mem_cons.mp digits
      obtain ⟨first', digits'⟩ := List.forall_mem_cons.mp digits'
      have value : digitValue c = c.toNat - 48 := rfl
      have value' : digitValue d = d.toNat - 48 := rfl
      have low := Number.isDigit_iff.mp first
      have low' := Number.isDigit_iff.mp first'
      have letters : compare (digitValue c) (digitValue d) = compare c.toNat d.toNat :=
        compare_congr (by omega) (by omega)
      rw [List.foldl_cons, List.foldl_cons, ih digits digits' (Nat.succ.inj same),
        compare_mul_add (by omega) (by omega), letters, Ordering.then_assoc]
      simp only [orderChars, List.compareLex_cons_cons]

theorem compare_natOfDigits (digits : ∀ c ∈ a, isDigit c = true)
    (digits' : ∀ c ∈ b, isDigit c = true) (same : a.length = b.length) :
    compare (natOfDigits a) (natOfDigits b) = orderChars a b :=
  compare_foldl_digits digits digits' same 0 0

/-- Padded numbers are ordered by their letters as they are by their size. -/
theorem orderChars_padded (pos : 0 < width) (fits : n < 10 ^ width) (fits' : m < 10 ^ width) :
    orderChars (padded width n).toList (padded width m).toList = compare n m := by
  have same : (padded width n).toList.length = (padded width m).toList.length := by
    rw [length_padded pos fits, length_padded pos fits']
  rw [← compare_natOfDigits (isDigit_padded width n) (isDigit_padded width m) same,
    natOfDigits_padded, natOfDigits_padded]

theorem orderChars_padded_append (width : Nat) (pos : 0 < width) (fits : n < 10 ^ width)
    (fits' : m < 10 ^ width) (s t : List Char) :
    orderChars ((padded width n).toList ++ s) ((padded width m).toList ++ t) =
      (compare n m).then (orderChars s t) := by
  rw [orderChars_append (by rw [length_padded pos fits, length_padded pos fits']),
    orderChars_padded pos fits fits']

end Text

end DocStore
