import DocStore.Json.Printer
import DocStore.Json.Reader
import DocStore.Proofs.Json.Numeral
import DocStore.Proofs.Text.Digits

/-!
# Interchange text read back

The reader takes the text of a tree off the front of any text that does not go on with a numeral. It
finds the tree again, as far as it nests that deep; only numbers may come out as others.
-/

namespace DocStore.Json

open DocStore.Text DocStore.Number

variable {rest s : List Char} {j : Json} {depth fuel : Nat}

-- ---------------------------------------------------------------------------
-- Lists
-- ---------------------------------------------------------------------------

theorem mapM_eq_some_iff {α β : Type} {f : α → Option β} {l : List α} {m : List β} :
    l.mapM f = some m ↔ List.Forall₂ (fun a b => f a = some b) l m := by
  induction l generalizing m with
  | nil => simp [eq_comm]
  | cons a l ih =>
    rw [List.mapM_cons, List.forall₂_cons_left_iff]
    simp only [Option.bind_eq_bind, Option.bind_eq_some_iff, ih]
    constructor
    · rintro ⟨b, first, others, rest, same⟩
      cases same
      exact ⟨b, others, first, rest, rfl⟩
    · rintro ⟨b, others, first, rest, rfl⟩
      exact ⟨b, first, others, rest, rfl⟩

theorem map_mapM {α β γ : Type} (f : α → Option β) (g : β → γ) (l : List α) :
    (l.mapM f).map (List.map g) = l.mapM fun a => (f a).map g := by
  induction l with
  | nil => rfl
  | cons a l ih =>
    rw [List.mapM_cons, List.mapM_cons, ← ih]
    cases f a with
    | none => rfl
    | some b => cases l.mapM f <;> rfl

theorem exists_of_mem_mapM {α β : Type} {f : α → Option β} {l : List α} {m : List β} {b : β}
    (found : l.mapM f = some m) (mem : b ∈ m) : ∃ a ∈ l, f a = some b := by
  have pairs := mapM_eq_some_iff.mp found
  clear found
  induction pairs with
  | nil => simp at mem
  | cons first _ ih =>
    rcases List.mem_cons.mp mem with rfl | later
    · exact ⟨_, .head _, first⟩
    · obtain ⟨a, held, back⟩ := ih later
      exact ⟨a, .tail _ held, back⟩

theorem isSome_mapM {α β : Type} {f : α → Option β} {l : List α} :
    (l.mapM f).isSome ↔ ∀ a ∈ l, (f a).isSome := by
  induction l with
  | nil => simp
  | cons a l ih =>
    rw [List.mapM_cons, List.forall_mem_cons, ← ih]
    cases f a with
    | none => simp
    | some b => cases l.mapM f <;> simp

-- ---------------------------------------------------------------------------
-- What comes back
-- ---------------------------------------------------------------------------

/-- The tree of a member comes back under the key of the member. -/
def backMember (back : Json → Option Json) (e : String × Json) : Option (String × Json) :=
  (back e.2).map (e.1, ·)

/-- The tree that the text of a tree is read as. -/
def reread? : Nat → Json → Option Json
  | _, .integer n => (read 0 (Json.integer n).text.toList).map Prod.fst
  | _, .real x => (read 0 (Json.real x).text.toList).map Prod.fst
  | 0, .array _ => none
  | 0, .object _ => none
  | depth + 1, .array items => (items.mapM (reread? depth)).map .array
  | depth + 1, .object members =>
    (members.mapM (backMember (reread? depth))).map .object
  | _, j => some j

-- ---------------------------------------------------------------------------
-- Strings
-- ---------------------------------------------------------------------------

theorem escaped?_control {c : Char} (control : c.toNat < 0x20) :
    escaped? ('u' :: '0' :: '0' :: hexChar (c.toNat / 16) :: hexChar (c.toNat % 16) :: rest) =
      some (c, rest) := by
  have digits : ∀ n < 0x20, natOfHex? ['0', '0', hexChar (n / 16), hexChar (n % 16)] = some n := by
    decide
  have low : (0xD800 ≤ c.toNat) = False := by simp; omega
  have high : (0xDC00 ≤ c.toNat) = False := by simp; omega
  simp only [escaped?, numbered?, unit?, digits c.toNat control]
  simp [low, high]

/-- A character is written by an escape that stands for it, or as it is. -/
theorem escape_cases (c : Char) :
    (∃ code, escape c = '\\' :: code ∧ ∀ s, escaped? (code ++ s) = some (c, s)) ∨
      escape c = [c] ∧ c ≠ '"' ∧ c ≠ '\\' ∧ 0x20 ≤ c.toNat := by
  unfold escape
  split
  · exact .inl ⟨_, rfl, fun _ => rfl⟩
  · exact .inl ⟨_, rfl, fun _ => rfl⟩
  · exact .inl ⟨_, rfl, fun _ => rfl⟩
  · exact .inl ⟨_, rfl, fun _ => rfl⟩
  · exact .inl ⟨_, rfl, fun _ => rfl⟩
  · rename_i quote backslash _ _ _
    have same {n : Nat} (h : (c.toNat == n) = true) : Char.ofNat n = c := by
      rw [← beq_iff_eq.mp h, Char.ofNat_toNat]
    split
    · rename_i back
      exact .inl ⟨_, rfl, fun _ => by rw [← same back]; rfl⟩
    · split
      · rename_i feed
        exact .inl ⟨_, rfl, fun _ => by rw [← same feed]; rfl⟩
      · split
        · rename_i control
          exact .inl ⟨_, rfl, fun _ => escaped?_control control⟩
        · exact .inr ⟨rfl, quote, backslash, by omega⟩

theorem stringRest_escape (c : Char) (s : List Char) (fuel : Nat) :
    stringRest (fuel + 1) (escape c ++ s) =
      (stringRest fuel s).map fun (cs, rest) => (c :: cs, rest) := by
  rcases escape_cases c with ⟨code, written, back⟩ | ⟨written, quote, backslash, plain⟩
  · rw [written, List.cons_append]
    cases h : stringRest fuel s <;> simp [stringRest, back, h]
  · have above : ¬ c.toNat < 0x20 := by omega
    rw [written, List.singleton_append]
    cases h : stringRest fuel s <;> simp [stringRest, quote, backslash, above, h]

theorem stringRest_escaped {cs : List Char} (enough : cs.length < fuel) :
    stringRest fuel (cs.flatMap escape ++ '"' :: rest) = some (cs, rest) := by
  induction cs generalizing fuel with
  | nil =>
    obtain ⟨fuel, rfl⟩ := Nat.exists_eq_succ_of_ne_zero (Nat.ne_of_gt enough)
    simp [stringRest]
  | cons c cs ih =>
    obtain ⟨fuel, rfl⟩ := Nat.exists_eq_succ_of_ne_zero (Nat.ne_of_gt (Nat.zero_lt_of_lt enough))
    rw [List.flatMap_cons, List.append_assoc, stringRest_escape,
      ih (by simpa using enough)]
    rfl

theorem length_le_flatMap_escape (cs : List Char) : cs.length ≤ (cs.flatMap escape).length := by
  induction cs with
  | nil => simp
  | cons c cs ih =>
    have some : 1 ≤ (escape c).length := by
      rcases escape_cases c with ⟨code, written, -⟩ | ⟨written, -⟩ <;> simp [written]
    simp only [List.flatMap_cons, List.length_append, List.length_cons]
    omega

theorem toList_quoted (s : String) :
    (quoted s).toList = '"' :: (s.toList.flatMap escape ++ ['"']) := by
  simp [quoted]

/-- A string in quotes is read as it was, its opening quote taken off. -/
theorem readString_escaped (s : String) :
    readString (s.toList.flatMap escape ++ '"' :: rest) = some (s, rest) := by
  have enough := length_le_flatMap_escape s.toList
  rw [readString, stringRest_escaped]
  · simp
  · simp only [List.length_append, List.length_cons]
    omega

-- ---------------------------------------------------------------------------
-- Numbers
-- ---------------------------------------------------------------------------

/-- A numeral, with a sign in front of it if it is negative. -/
def IsSignedNumeral (s : List Char) : Prop :=
  ∃ negative whole fraction tail e, IsNumeral whole fraction tail e ∧
    s = signText negative ++ (whole ++ (pointText fraction ++ tail))

theorem isSignedNumeral_of_spells {negative : Bool} (spells : Spells s k e) :
    IsSignedNumeral (signText negative ++ s) := by
  obtain ⟨whole, fraction, tail, e, z, numeral, rfl, -⟩ := spells
  exact ⟨negative, whole, fraction, tail, e, numeral, rfl⟩

theorem toList_text_integer (n : Int) :
    (Json.integer n).text.toList = signText (decide (n < 0)) ++ Nat.toDigits 10 n.natAbs := by
  simp only [Json.text, Int.toString_eq_repr, Int.repr_eq_if]
  split
  · have abs : n.toNat = n.natAbs := by omega
    simp [signText, abs, show ¬ n < 0 by omega]
  · have abs : (-n).toNat = n.natAbs := by omega
    simp [signText, abs, show n < 0 by omega]

theorem integer_isSignedNumeral (n : Int) : IsSignedNumeral (Json.integer n).text.toList := by
  rw [toList_text_integer]
  exact isSignedNumeral_of_spells (toDigits_spells _)

theorem real_isSignedNumeral {x : Number} (finite : x.isFinite = true) :
    IsSignedNumeral (Json.real x).text.toList := by
  by_cases nothing : x.significand = 0
  · have isZero := x.isZero_iff.mpr nothing
    have notNaN : x.isNaN = false := by
      have below := of_decide_eq_true finite
      exact decide_eq_false (by omega)
    have numeral : IsNumeral ['0'] ['0'] [] 0 :=
      ⟨by simp, by simp [isDigit], by simp [isDigit], .none⟩
    refine ⟨x.isNegative, ['0'], ['0'], [], 0, numeral, ?_⟩
    simp only [Json.text, finite, if_true, Layout.text, notNaN, isZero]
    cases x.isNegative <;> rfl
  · simp only [Json.text, finite, if_true]
    rw [toList_text_real finite nothing]
    exact isSignedNumeral_of_spells (decimal_spells _)

/-- What a digit begins is read as a numeral. -/
theorem read_digit {c : Char} (digit : isDigit c = true) :
    read depth (c :: s) = readNumeral false (c :: s) := by
  unfold read
  split <;> simp_all [isDigit]

theorem read_signedNumeral (numeral : IsSignedNumeral s) (stop : Stops rest) :
    read depth (s ++ rest) = leaving rest (read 0 s) := by
  obtain ⟨negative, whole, fraction, tail, e, numeral, rfl⟩ := numeral
  have back : readNumeral negative (whole ++ (pointText fraction ++ (tail ++ rest))) = _ :=
    readNumeral_append numeral stop
  obtain ⟨c, more, digits⟩ := List.exists_cons_of_ne_nil numeral.nonempty
  have first : isDigit c = true := numeral.whole c (by simp [digits])
  cases negative with
  | true => simpa [signText, read] using back
  | false => simpa [signText, digits, read_digit first] using back

/-- An integer that fits a word comes back. -/
theorem reread?_integer {n : Int} (fits : n.natAbs < 2 ^ 63) :
    reread? depth (.integer n) = some (.integer n) := by
  have small : n.natAbs < 2 ^ 64 := Nat.lt_trans fits (by decide)
  have back (negative : Bool) : readNumeral negative (Nat.toDigits 10 n.natAbs) =
      some (Json.whole negative n.natAbs, []) := by
    simpa using readNumeral_toDigits small stops_nil
  obtain ⟨c, more, digits⟩ : ∃ c more, Nat.toDigits 10 n.natAbs = c :: more :=
    List.exists_cons_of_ne_nil Nat.toDigits_ne_nil
  have first : isDigit c = true := isDigit_of_mem_toDigits (n := n.natAbs) (by simp [digits])
  have found : read 0 (Json.integer n).text.toList = some (.integer n, []) := by
    rw [toList_text_integer]
    by_cases below : n < 0
    · have fits : ¬ pow2 63 < n.natAbs := Nat.not_lt.mpr (Nat.le_of_lt fits)
      have nonzero : n.natAbs ≠ 0 := by omega
      have same : whole true n.natAbs = .integer n := by
        simp only [whole, nonzero, fits, Bool.not_true, Bool.false_eq_true, if_false, beq_iff_eq,
          decide_false, Bool.or_false]
        exact congrArg Json.integer (by omega)
      simp [signText, below, read, back, same]
    · have abs : (n.natAbs : Int) = n := by omega
      simp only [signText, below, decide_false, Bool.false_eq_true, if_false, List.nil_append,
        digits, read_digit first]
      rw [← digits, back]
      simp [whole, abs]
  simp [reread?, found]

-- ---------------------------------------------------------------------------
-- Trees
-- ---------------------------------------------------------------------------

theorem IsSignedNumeral.begins (numeral : IsSignedNumeral s) :
    ∃ c more, s = c :: more ∧ isSpace c = false ∧ c ≠ ']' := by
  obtain ⟨negative, whole, fraction, tail, e, numeral, rfl⟩ := numeral
  obtain ⟨c, more, rfl⟩ := List.exists_cons_of_ne_nil numeral.nonempty
  cases negative with
  | true => exact ⟨'-', _, rfl, rfl, by decide⟩
  | false =>
    have digit := isDigit_iff.mp (numeral.whole c (.head _))
    refine ⟨c, _, rfl, ?_, ?_⟩
    · simp only [isSpace, Bool.or_eq_false_iff, beq_eq_false_iff_ne]
      refine ⟨⟨⟨?_, ?_⟩, ?_⟩, ?_⟩ <;> rintro rfl <;> revert digit <;> decide
    · rintro rfl
      revert digit
      decide

/-- A tree is written from its first character on. -/
theorem text_begins (j : Json) :
    ∃ c more, j.text.toList = c :: more ∧ isSpace c = false ∧ c ≠ ']' := by
  cases j with
  | integer n => exact (integer_isSignedNumeral n).begins
  | real x =>
    cases finite : x.isFinite with
    | true => exact (real_isSignedNumeral finite).begins
    | false => exact ⟨'n', _, by simp [Json.text, finite]; rfl, rfl, by decide⟩
  | bool b => cases b <;> exact ⟨_, _, rfl, rfl, by decide⟩
  | null => exact ⟨_, _, rfl, rfl, by decide⟩
  | string s => exact ⟨_, _, toList_quoted s, rfl, by decide⟩
  | array items => exact ⟨'[', _, by simp [Json.text]; rfl, rfl, by decide⟩
  | object members => exact ⟨'\x7b', _, by simp [Json.text]; rfl, rfl, by decide⟩

theorem skipSpace_text (j : Json) (rest : List Char) :
    skipSpace (j.text.toList ++ rest) = j.text.toList ++ rest := by
  obtain ⟨c, more, text, solid, -⟩ := text_begins j
  simp [skipSpace, text, solid]

theorem stops_cons {c : Char} (mark : c ∈ [',', ']', '\x7d']) : Stops (c :: rest) := by
  intro d mem
  obtain rfl : c = d := by simpa using mem
  revert mark
  simp [isDigit]
  rintro (rfl | rfl | rfl) <;> decide

section

variable {item : List Char → Option (Json × List Char)} {back : Json → Option Json}

theorem itemsRest_itemsText
    (each : ∀ j rest, Stops rest → item (j.text.toList ++ rest) = (back j).map (·, rest))
    {items : List Json} (nonempty : items ≠ []) (enough : items.length ≤ fuel) :
    itemsRest item fuel ((itemsText items).toList ++ ']' :: rest) =
      (items.mapM back).map (·, rest) := by
  obtain ⟨fuel, rfl⟩ := Nat.exists_eq_succ_of_ne_zero
    (Nat.ne_of_gt (Nat.lt_of_lt_of_le (List.length_pos_iff.mpr nonempty) enough))
  induction items generalizing fuel with
  | nil => exact absurd rfl nonempty
  | cons j more ih =>
    cases more with
    | nil =>
      rw [itemsText, itemsRest, skipSpace_text, each _ _ (stops_cons (by simp))]
      cases found : back j <;> simp [skipSpace, isSpace, found]
    | cons k more =>
      obtain ⟨fuel, rfl⟩ := Nat.exists_eq_succ_of_ne_zero (n := fuel) (by simp at enough; omega)
      have text : (itemsText (j :: k :: more)).toList ++ ']' :: rest =
          j.text.toList ++ ',' :: ((itemsText (k :: more)).toList ++ ']' :: rest) := by
        simp [itemsText]
      have later := ih (by simp) fuel (by simpa using enough)
      rw [text, itemsRest, skipSpace_text, each _ _ (stops_cons (by simp)), List.mapM_cons]
      generalize List.mapM back (k :: more) = others at later ⊢
      cases back j with
      | none => rfl
      | some i => cases others <;> simp [skipSpace, isSpace, later]

theorem skipSpace_cons {c : Char} (solid : isSpace c = false) : skipSpace (c :: s) = c :: s := by
  simp [skipSpace, solid]

theorem membersRest_member
    (each : ∀ j rest, Stops rest → item (j.text.toList ++ rest) = (back j).map (·, rest))
    (key : String) (j : Json) (stop : Stops rest) :
    membersRest item (fuel + 1) ((quoted key).toList ++ ':' :: (j.text.toList ++ rest)) =
      (back j).bind fun i =>
        match skipSpace rest with
        | ',' :: rest => (membersRest item fuel rest).bind fun r => some ((key, i) :: r.1, r.2)
        | '\x7d' :: rest => some ([(key, i)], rest)
        | _ => none := by
  have text : (quoted key).toList ++ ':' :: (j.text.toList ++ rest) =
      '"' :: (key.toList.flatMap escape ++ '"' :: ':' :: (j.text.toList ++ rest)) := by
    simp [toList_quoted]
  rw [text, membersRest, skipSpace_cons rfl]
  simp only [expect, beq_self_eq_true, if_true, Option.bind_eq_bind, Option.bind_some,
    readString_escaped]
  rw [skipSpace_cons rfl]
  simp only [expect, beq_self_eq_true, if_true, Option.bind_some, skipSpace_text, each _ _ stop]
  cases back j <;> rfl

theorem membersRest_membersText
    (each : ∀ j rest, Stops rest → item (j.text.toList ++ rest) = (back j).map (·, rest))
    {members : List (String × Json)} (nonempty : members ≠ []) (enough : members.length ≤ fuel) :
    membersRest item fuel ((membersText members).toList ++ '\x7d' :: rest) =
      (members.mapM (backMember back)).map (·, rest) := by
  obtain ⟨fuel, rfl⟩ := Nat.exists_eq_succ_of_ne_zero
    (Nat.ne_of_gt (Nat.lt_of_lt_of_le (List.length_pos_iff.mpr nonempty) enough))
  induction members generalizing fuel with
  | nil => exact absurd rfl nonempty
  | cons e more ih =>
    obtain ⟨key, j⟩ := e
    rw [List.mapM_cons]
    cases more with
    | nil =>
      have text : (membersText [(key, j)]).toList ++ '\x7d' :: rest =
          (quoted key).toList ++ ':' :: (j.text.toList ++ '\x7d' :: rest) := by
        simp [membersText]
      rw [text, membersRest_member each key j (stops_cons (by simp))]
      cases found : back j <;> simp [skipSpace_cons, isSpace, backMember, found]
    | cons m more =>
      obtain ⟨fuel, rfl⟩ := Nat.exists_eq_succ_of_ne_zero (n := fuel) (by simp at enough; omega)
      have text : (membersText ((key, j) :: m :: more)).toList ++ '\x7d' :: rest =
          (quoted key).toList ++ ':' :: (j.text.toList ++
            ',' :: ((membersText (m :: more)).toList ++ '\x7d' :: rest)) := by
        simp [membersText]
      have later := ih (by simp) fuel (by simpa using enough)
      rw [text, membersRest_member each key j (stops_cons (by simp))]
      generalize List.mapM (backMember back) (m :: more) = others at later ⊢
      cases found : back j with
      | none => simp [backMember, found]
      | some i => cases others <;> simp [skipSpace_cons, isSpace, backMember, found, later]

end

theorem length_le_itemsText (items : List Json) :
    items.length ≤ (itemsText items).toList.length := by
  induction items with
  | nil => simp
  | cons j more ih =>
    obtain ⟨c, s, text, -⟩ := text_begins j
    cases more with
    | nil => simp [itemsText, text]
    | cons k more =>
      simp only [itemsText, String.toList_append, List.length_append, text,
        List.length_cons] at ih ⊢
      omega

theorem length_le_membersText (members : List (String × Json)) :
    members.length ≤ (membersText members).toList.length := by
  induction members with
  | nil => simp
  | cons e more ih =>
    obtain ⟨key, j⟩ := e
    cases more with
    | nil => simp [membersText, toList_quoted]
    | cons m more =>
      simp only [membersText, String.toList_append, List.length_append, toList_quoted,
        List.length_cons] at ih ⊢
      omega

theorem read_real (x : Number) (stop : Stops rest) :
    read depth ((Json.real x).text.toList ++ rest) =
      leaving rest (read 0 (Json.real x).text.toList) := by
  cases finite : x.isFinite with
  | true => exact read_signedNumeral (real_isSignedNumeral finite) stop
  | false =>
    have text : (Json.real x).text.toList = ['n', 'u', 'l', 'l'] := by simp [Json.text, finite]
    rw [text]
    simp [read, expect, leaving]

theorem leaving_eq (rest : List Char) (read : Option (Json × List Char)) :
    leaving rest read = (read.map Prod.fst).map (·, rest) := by
  cases read <;> rfl

/-- What is neither an array nor an object is read at any depth. -/
theorem read_scalar (noArray : ∀ items, j ≠ .array items)
    (noObject : ∀ members, j ≠ .object members) (stop : Stops rest) :
    read depth (j.text.toList ++ rest) = (reread? depth j).map (·, rest) := by
  cases j with
  | null => simp [Json.text, read, expect, reread?]
  | bool b => cases b <;> simp [Json.text, read, expect, reread?]
  | integer n =>
    rw [read_signedNumeral (integer_isSignedNumeral n) stop, leaving_eq]
    simp [reread?]
  | real x =>
    rw [read_real x stop, leaving_eq]
    simp [reread?]
  | string s =>
    have text : (Json.string s).text.toList ++ rest =
        '"' :: (s.toList.flatMap escape ++ '"' :: rest) := by
      simp [Json.text, toList_quoted]
    rw [text, read, readString_escaped]
    simp [reread?]
  | array items => exact absurd rfl (noArray items)
  | object members => exact absurd rfl (noObject members)

theorem itemsText_begins (j : Json) (more : List Json) :
    ∃ c s, (itemsText (j :: more)).toList = c :: s ∧ isSpace c = false ∧ c ≠ ']' := by
  obtain ⟨c, s, text, solid, other⟩ := text_begins j
  cases more with
  | nil => exact ⟨c, s, text, solid, other⟩
  | cons k more => exact ⟨c, _, by simp [itemsText, text]; rfl, solid, other⟩

theorem membersText_begins (e : String × Json) (more : List (String × Json)) :
    ∃ s, (membersText (e :: more)).toList = '"' :: s := by
  cases more with
  | nil => exact ⟨_, by simp [membersText, toList_quoted]; rfl⟩
  | cons m more => exact ⟨_, by simp [membersText, toList_quoted]; rfl⟩

theorem read_array (each : ∀ j rest, Stops rest →
      read depth (j.text.toList ++ rest) = (reread? depth j).map (·, rest)) (items : List Json) :
    read (depth + 1) ((Json.array items).text.toList ++ rest) =
      (reread? (depth + 1) (.array items)).map (·, rest) := by
  have text : (Json.array items).text.toList ++ rest =
      '[' :: ((itemsText items).toList ++ ']' :: rest) := by
    simp [Json.text]
  rw [text, read, reread?]
  cases items with
  | nil => simp [itemsText, skipSpace_cons, isSpace]
  | cons j more =>
    obtain ⟨c, s, begins, solid, other⟩ := itemsText_begins j more
    have enough := length_le_itemsText (j :: more)
    have back : itemsRest (read depth) ((itemsText (j :: more)).toList ++ ']' :: rest).length
        ((itemsText (j :: more)).toList ++ ']' :: rest) = _ :=
      itemsRest_itemsText each (List.cons_ne_nil j more) (by rw [List.length_append]; omega)
    rw [begins, List.cons_append] at back ⊢
    rw [skipSpace_cons solid]
    split
    · simp_all
    · rw [back]
      cases (j :: more).mapM (reread? depth) <;> rfl

theorem read_object (each : ∀ j rest, Stops rest →
      read depth (j.text.toList ++ rest) = (reread? depth j).map (·, rest))
    (members : List (String × Json)) :
    read (depth + 1) ((Json.object members).text.toList ++ rest) =
      (reread? (depth + 1) (.object members)).map (·, rest) := by
  have text : (Json.object members).text.toList ++ rest =
      '\x7b' :: ((membersText members).toList ++ '\x7d' :: rest) := by
    simp [Json.text]
  rw [text, read, reread?]
  cases members with
  | nil => simp [membersText, skipSpace_cons, isSpace]
  | cons e more =>
    obtain ⟨s, begins⟩ := membersText_begins e more
    have enough := length_le_membersText (e :: more)
    have back : membersRest (read depth) ((membersText (e :: more)).toList ++ '\x7d' :: rest).length
        ((membersText (e :: more)).toList ++ '\x7d' :: rest) = _ :=
      membersRest_membersText each (List.cons_ne_nil e more) (by rw [List.length_append]; omega)
    rw [begins, List.cons_append] at back ⊢
    rw [skipSpace_cons rfl]
    split
    · simp_all
    · rw [back]
      cases (e :: more).mapM (backMember (reread? depth)) <;> rfl

/-- The reader takes the text of a tree off the front of any text that does not go on with a
numeral. -/
theorem read_text (stop : Stops rest) :
    read depth (j.text.toList ++ rest) = (reread? depth j).map (·, rest) := by
  induction depth generalizing j rest with
  | zero =>
    cases j with
    | array items => simp [Json.text, read, reread?]
    | object members => simp [Json.text, read, reread?]
    | _ => exact read_scalar (by simp) (by simp) stop
  | succ depth ih =>
    cases j with
    | array items => exact read_array (fun j rest => ih) items
    | object members => exact read_object (fun j rest => ih) members
    | _ => exact read_scalar (by simp) (by simp) stop

theorem ofText?_text (j : Json) : ofText? j.text = reread? nestingLimit j := by
  have back : read nestingLimit (j.text.toList ++ []) = _ := read_text stops_nil
  have solid := skipSpace_text j []
  rw [List.append_nil] at back solid
  rw [ofText?, solid, back]
  cases reread? nestingLimit j <;> rfl

end DocStore.Json
