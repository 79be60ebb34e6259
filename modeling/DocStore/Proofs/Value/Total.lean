import DocStore.Proofs.Value.Order
import Mathlib.Data.String.Basic

/-!
# The order of values is total

Values without NaNs stand in one line: the order turns around with its arguments, it leads on from
one value to the next, and it is level exactly where values are equal. Values are compared part by
part, so the laws are those of single comparisons and of comparisons one after the other.
-/

namespace DocStore

-- ---------------------------------------------------------------------------
-- Comparisons one after the other
-- ---------------------------------------------------------------------------

/-- When `o` compares a first thing with a second and `p` the second with a third, `q` may compare
the first with the third. Two that go different ways leave it open. -/
structure Composes (o p q : Ordering) : Prop where
  left : o = .eq → q = p
  right : p = .eq → q = o
  both : o = p → q = o

namespace Composes

variable {o p q o' p' q' : Ordering}

theorem swap (h : Composes o p q) : Composes o.swap p.swap q.swap := by
  obtain ⟨left, right, both⟩ := h
  cases o <;> cases p <;> cases q <;> constructor <;> simp_all

/-- What is compared next has a say only where everything was level before. -/
theorem andThen (h : Composes o p q) (next : o = .eq → p = .eq → Composes o' p' q') :
    Composes (o.then o') (p.then p') (q.then q') := by
  obtain ⟨left, right, both⟩ := h
  cases o with
  | eq =>
    obtain rfl := left rfl
    cases q with
    | eq => exact next rfl rfl
    | lt | gt => exact ⟨fun _ => rfl, nofun, fun same => same.symm⟩
  | lt | gt =>
    cases p with
    | eq =>
      obtain rfl := right rfl
      exact ⟨nofun, fun _ => rfl, fun _ => rfl⟩
    | lt | gt => cases q <;> constructor <;> simp_all

theorem ne_gt (h : Composes o p q) (first : o ≠ .gt) (second : p ≠ .gt) : q ≠ .gt := by
  cases o with
  | eq =>
    intro greater
    exact second ((h.left rfl).symm.trans greater)
  | gt => exact absurd rfl first
  | lt =>
    cases p with
    | eq => simp [h.right rfl]
    | lt => simp [h.both rfl]
    | gt => exact absurd rfl second

end Composes

theorem compare_composes [Ord α] [Std.TransOrd α] (a b c : α) :
    Composes (compare a b) (compare b c) (compare a c) where
  left := Std.TransCmp.congr_left
  right level := (Std.TransCmp.congr_right level).symm
  both same := by
    cases first : compare a b with
    | lt => exact Std.TransCmp.lt_trans first (same.symm.trans first)
    | eq => exact Std.TransCmp.eq_trans first (same.symm.trans first)
    | gt => exact Std.TransCmp.gt_trans first (same.symm.trans first)

section Lists

variable {α : Type} {cmp : α → α → Ordering} {l m n : List α}

theorem compareLex_swap (each : ∀ a ∈ l, ∀ b, cmp b a = (cmp a b).swap) (m : List α) :
    List.compareLex cmp m l = (List.compareLex cmp l m).swap := by
  induction l generalizing m with
  | nil => cases m <;> rfl
  | cons a rest ih =>
    cases m with
    | nil => rfl
    | cons b others =>
      obtain ⟨first, later⟩ := List.forall_mem_cons.mp each
      simp only [List.compareLex_cons_cons, Ordering.swap_then, first b, ih later]

theorem compareLex_composes
    (each : ∀ a ∈ l, ∀ b ∈ m, ∀ c ∈ n, Composes (cmp a b) (cmp b c) (cmp a c)) :
    Composes (List.compareLex cmp l m) (List.compareLex cmp m n) (List.compareLex cmp l n) := by
  induction l generalizing m n with
  | nil =>
    cases m with
    | nil => exact ⟨fun _ => rfl, fun level => level, fun level => level.symm⟩
    | cons b others =>
      cases n with
      | nil => exact ⟨nofun, nofun, nofun⟩
      | cons c more => exact ⟨nofun, fun _ => rfl, fun _ => rfl⟩
  | cons a rest ih =>
    cases m with
    | nil =>
      cases n with
      | nil => exact ⟨nofun, fun _ => rfl, nofun⟩
      | cons c more => exact ⟨nofun, nofun, nofun⟩
    | cons b others =>
      cases n with
      | nil => exact ⟨fun _ => rfl, nofun, fun greater => greater.symm⟩
      | cons c more =>
        simp only [List.compareLex_cons_cons]
        refine (each a (.head _) b (.head _) c (.head _)).andThen fun _ _ => ih ?_
        intro a mem b mem' c mem''
        exact each a (.tail _ mem) b (.tail _ mem') c (.tail _ mem'')

end Lists

-- ---------------------------------------------------------------------------
-- Scalars
-- ---------------------------------------------------------------------------

theorem Number.order_swap (x y : Number) : y.order x = (x.order y).swap := by
  simp only [order, Bool.or_comm y.isNaN]
  split
  · rfl
  · exact Std.OrientedOrd.eq_swap

theorem Number.order_composes {x y z : Number} (real : x.isNaN = false) (real' : y.isNaN = false)
    (real'' : z.isNaN = false) : Composes (x.order y) (y.order z) (x.order z) := by
  simp only [order, real, real', real'']
  exact compare_composes ..

theorem Instant.order_swap (s t : Instant) : t.order s = (s.order t).swap := by
  simp only [order, Ordering.swap_then, ← Std.OrientedOrd.eq_swap]

theorem Instant.order_composes (s t u : Instant) :
    Composes (s.order t) (t.order u) (s.order u) :=
  (compare_composes ..).andThen fun _ _ => compare_composes ..

namespace Value

variable {v w u : Value}

theorem orderBytes_eq_compareLex (a b : List UInt8) :
    orderBytes a b = List.compareLex compare a b := by
  induction a generalizing b with
  | nil => cases b <;> rfl
  | cons x rest ih =>
    cases b with
    | nil => rfl
    | cons y others => simp only [orderBytes, List.compareLex_cons_cons, ih]

-- ---------------------------------------------------------------------------
-- Arrays and objects
-- ---------------------------------------------------------------------------

theorem orderItems_eq_compareLex (l m : List Value) :
    orderItems l m = List.compareLex orderSorted l m := by
  induction l generalizing m with
  | nil => cases m <;> rfl
  | cons v rest ih =>
    cases m with
    | nil => rfl
    | cons w others => simp only [orderItems, List.compareLex_cons_cons, ih]

/-- Members are compared by key, then by value. -/
def orderMember (e f : String × Value) : Ordering :=
  (compare e.1 f.1).then (orderSorted e.2 f.2)

theorem orderFields_eq_compareLex (a b : Fields) :
    orderFields a b = List.compareLex orderMember a b := by
  induction a generalizing b with
  | nil => cases b <;> rfl
  | cons e rest ih =>
    cases b with
    | nil => rfl
    | cons f others => simp only [orderFields, List.compareLex_cons_cons, orderMember, ih]

theorem orderSorted_swap (v w : Value) : orderSorted w v = (orderSorted v w).swap := by
  induction v using Value.induction generalizing w with
  | scalar v scalar =>
    cases v with
    | array items => exact absurd rfl (scalar.1 items)
    | object fields => exact absurd rfl (scalar.2 fields)
    | null => cases w <;> rfl
    | number x =>
      cases w with
      | number y => exact x.order_swap y
      | _ => rfl
    | date s =>
      cases w with
      | date t => exact s.order_swap t
      | _ => rfl
    | buffer a =>
      cases w with
      | buffer b =>
        simp only [orderSorted, orderBytes_eq_compareLex]
        exact Std.OrientedCmp.eq_swap
      | _ => rfl
    | bool a =>
      cases w with
      | bool b => exact Std.OrientedOrd.eq_swap
      | _ => rfl
    | string s =>
      cases w with
      | string t => exact Std.OrientedOrd.eq_swap
      | _ => rfl
  | array l ih =>
    cases w with
    | array m =>
      simp only [orderSorted, orderItems_eq_compareLex]
      exact compareLex_swap ih m
    | _ => rfl
  | object a ih =>
    cases w with
    | object b =>
      simp only [orderSorted, orderFields_eq_compareLex]
      refine compareLex_swap (fun e mem f => ?_) b
      simp only [orderMember, Ordering.swap_then, ← Std.OrientedOrd.eq_swap, ih e.1 e.2 mem]
    | _ => rfl

/-- Both values are of one type. -/
inductive SameType : Value → Value → Prop
  | null : SameType .null .null
  | bool : SameType (.bool a) (.bool b)
  | number : SameType (.number x) (.number y)
  | string : SameType (.string s) (.string t)
  | date : SameType (.date s) (.date t)
  | buffer : SameType (.buffer a) (.buffer b)
  | array : SameType (.array l) (.array m)
  | object : SameType (.object a) (.object b)

theorem sameType_of_rank (level : compare v.rank w.rank = .eq) : SameType v w := by
  cases v <;> cases w <;> first | constructor | simp [rank] at level

/-- Values are compared by type first. -/
theorem orderSorted_eq_then (v w : Value) :
    orderSorted v w = (compare v.rank w.rank).then (orderSorted v w) := by
  cases v <;> cases w <;> rfl

/-- Values of different types come one after the other as their types do. -/
theorem composes_of_sameType (inner : SameType v w → SameType w u →
      Composes (orderSorted v w) (orderSorted w u) (orderSorted v u)) :
    Composes (orderSorted v w) (orderSorted w u) (orderSorted v u) := by
  have types := compare_composes v.rank w.rank u.rank
  have both := types.andThen fun level level' =>
    inner (sameType_of_rank level) (sameType_of_rank level')
  rwa [← orderSorted_eq_then, ← orderSorted_eq_then, ← orderSorted_eq_then] at both

/-- Without NaNs the order leads on from one value to the next. -/
theorem orderSorted_composes (ordinary : v.IsOrdinary) (ordinary' : w.IsOrdinary)
    (ordinary'' : u.IsOrdinary) :
    Composes (orderSorted v w) (orderSorted w u) (orderSorted v u) := by
  induction v using Value.induction generalizing w u with
  | scalar v scalar =>
    refine composes_of_sameType fun same same' => ?_
    cases same with
    | array => exact absurd rfl (scalar.1 _)
    | object => exact absurd rfl (scalar.2 _)
    | null =>
      cases same'
      exact ⟨fun _ => rfl, fun _ => rfl, fun _ => rfl⟩
    | bool =>
      cases same'
      simp only [orderSorted]
      exact compare_composes ..
    | string =>
      cases same'
      simp only [orderSorted]
      exact compare_composes ..
    | number =>
      cases same'
      exact Number.order_composes (isOrdinary_number.mp ordinary) (isOrdinary_number.mp ordinary')
        (isOrdinary_number.mp ordinary'')
    | date =>
      cases same'
      exact Instant.order_composes ..
    | buffer =>
      cases same'
      simp only [orderSorted, orderBytes_eq_compareLex]
      exact compareLex_composes fun a _ b _ c _ => compare_composes a b c
  | array l ih =>
    refine composes_of_sameType fun same same' => ?_
    cases same
    cases same'
    simp only [isOrdinary_array] at ordinary ordinary' ordinary''
    simp only [orderSorted, orderItems_eq_compareLex]
    refine compareLex_composes fun v mem w mem' u mem'' => ?_
    exact ih v mem (ordinary v mem) (ordinary' w mem') (ordinary'' u mem'')
  | object a ih =>
    refine composes_of_sameType fun same same' => ?_
    cases same
    cases same'
    simp only [isOrdinary_object] at ordinary ordinary' ordinary''
    simp only [orderSorted, orderFields_eq_compareLex]
    refine compareLex_composes fun e mem f mem' g mem'' => ?_
    refine (compare_composes ..).andThen fun _ _ => ?_
    exact ih e.1 e.2 mem (ordinary _ _ mem) (ordinary' _ _ mem') (ordinary'' _ _ mem'')

-- ---------------------------------------------------------------------------
-- Any values
-- ---------------------------------------------------------------------------

theorem order_swap (v w : Value) : w.order v = (v.order w).swap :=
  orderSorted_swap v.sorted w.sorted

theorem order_composes (ordinary : v.IsOrdinary) (ordinary' : w.IsOrdinary)
    (ordinary'' : u.IsOrdinary) : Composes (v.order w) (w.order u) (v.order u) :=
  orderSorted_composes ordinary.sorted ordinary'.sorted ordinary''.sorted

/-- Objects are equal whatever the order of their members. -/
theorem equal_of_perm {a b : Fields} (same : a.Perm b) (unique : (object a).UniqueKeys)
    (ordinary : (object a).IsOrdinary) : (object a).equal (object b) = true := by
  obtain ⟨nodup, each⟩ := uniqueKeys_object.mp unique
  have nodup' : (b.map Prod.fst).Nodup := (same.map Prod.fst).nodup_iff.mp nodup
  refine equal_object.mpr ⟨same.length_eq, fun e mem => ⟨e.2, ?_, ?_⟩⟩
  · exact Fields.get?_of_mem nodup' (same.mem_iff.mp mem)
  · exact equal_refl (each e.1 e.2 mem) (isOrdinary_object.mp ordinary e.1 e.2 mem)

/-- Values without NaNs are totally ordered: the order is turned around with its arguments, what
comes no later than a value comes no later than the next one, and two values stand level exactly when
they are equal, objects in any order of their members. -/
theorem order_total (unique : v.UniqueKeys) (unique' : w.UniqueKeys) (ordinary : v.IsOrdinary)
    (ordinary' : w.IsOrdinary) (ordinary'' : u.IsOrdinary) :
    w.order v = (v.order w).swap ∧
      (v.order w ≠ .gt → w.order u ≠ .gt → v.order u ≠ .gt) ∧
      (v.order w = .eq ↔ v.equal w = true) ∧
      ∀ a b, v = .object a → a.Perm b → v.equal (.object b) = true := by
  refine ⟨order_swap v w, fun first second => ?_, ?_, ?_⟩
  · exact (order_composes ordinary ordinary' ordinary'').ne_gt first second
  · exact order_eq_iff unique unique' ordinary ordinary'
  · rintro a b rfl same
    exact equal_of_perm same unique ordinary

/-- Zeros of both signs in an array, in an object whose members stand in another order. -/
theorem order_total_reordered :
    let v : Value := .object [("x", .array [.number (Number.ofMagnitude true 0), .null]),
      ("y", .bool true)]
    let w : Value := .object [("y", .bool true), ("x", .array [.number Number.zero, .null])]
    let u : Value := .object [("z", .null)]
    (v.UniqueKeys ∧ w.UniqueKeys ∧ v.IsOrdinary ∧ w.IsOrdinary ∧ u.IsOrdinary) ∧
      v.order w = .eq ∧ v.equal w = true ∧ w.order v = .eq ∧ w.order u = .lt ∧
      v.order u ≠ .gt := by
  intro v w u
  have nothing : Value.null.UniqueKeys ∧ Value.null.IsOrdinary :=
    ⟨.scalar (by simp [IsScalar]), .scalar (by simp [IsScalar]) (by simp)⟩
  have flag : (Value.bool true).UniqueKeys ∧ (Value.bool true).IsOrdinary :=
    ⟨.scalar (by simp [IsScalar]), .scalar (by simp [IsScalar]) (by simp)⟩
  have pair (x : Number) : (Value.array [.number x, .null]).UniqueKeys :=
    .array (List.forall_mem_cons.mpr ⟨.scalar (by simp [IsScalar]),
      List.forall_mem_singleton.mpr nothing.1⟩)
  have pair' (x : Number) (real : x.isNaN = false) : (Value.array [.number x, .null]).IsOrdinary :=
    .array (List.forall_mem_cons.mpr ⟨isOrdinary_number.mpr real,
      List.forall_mem_singleton.mpr nothing.2⟩)
  have members {P : Value → Prop} {e f : String × Value} (first : P e.2) (second : P f.2) :
      ∀ k c, (k, c) ∈ [e, f] → P c := by
    rintro k c mem
    simp only [List.mem_cons, List.not_mem_nil, or_false] at mem
    rcases mem with rfl | rfl
    · exact first
    · exact second
  have unique : v.UniqueKeys := .object (by decide) (members (pair _) flag.1)
  have unique' : w.UniqueKeys := .object (by decide) (members flag.1 (pair _))
  have ordinary : v.IsOrdinary := .object (members (pair' _ (by decide +kernel)) flag.2)
  have ordinary' : w.IsOrdinary := .object (members flag.2 (pair' _ (by decide +kernel)))
  have ordinary'' : u.IsOrdinary := .object (by simp [nothing.2])
  have level : v.order w = .eq := by decide +kernel
  have less : w.order u = .lt := by decide +kernel
  obtain ⟨turned, onward, same, -⟩ := order_total unique unique' ordinary ordinary' ordinary''
  refine ⟨⟨unique, unique', ordinary, ordinary', ordinary''⟩, level, same.mp level, ?_, less, ?_⟩
  · rw [turned, level]
    rfl
  · exact onward (by simp [level]) (by simp [less])

end Value

end DocStore
