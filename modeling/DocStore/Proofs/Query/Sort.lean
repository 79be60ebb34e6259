import DocStore.Proofs.FieldType.Compare
import DocStore.Proofs.Value.Total
import DocStore.Query
import Mathlib.Data.List.Basic

/-!
# Sorting

Sort keys put records in one line, with level ones side by side. A list has one arrangement in such a
line that leaves level members as they stood, so sorting key by key and sorting what a selector finds
need no more than to be arrangements.
-/

namespace DocStore

-- ---------------------------------------------------------------------------
-- Comparisons of the members of a list
-- ---------------------------------------------------------------------------

section Arrangements

variable {α β : Type} {cmp cmp' : α → α → Ordering} {l m s t : List α} {a b : α}

/-- The comparison puts the members of the list in one line, level ones side by side. -/
structure Ranks (cmp : α → α → Ordering) (l : List α) : Prop where
  swap : ∀ a ∈ l, ∀ b ∈ l, cmp b a = (cmp a b).swap
  composes : ∀ a ∈ l, ∀ b ∈ l, ∀ c ∈ l, Composes (cmp a b) (cmp b c) (cmp a c)

namespace Ranks

theorem refl (ranks : Ranks cmp l) (mem : a ∈ l) : cmp a a = .eq := by
  have turned := ranks.swap a mem a mem
  cases self : cmp a a with
  | eq => rfl
  | lt | gt => simp [self] at turned

/-- Members that are level with one are level with each other. -/
theorem level {c : α} (ranks : Ranks cmp l) (mem : a ∈ l) (mem' : b ∈ l) (mem'' : c ∈ l)
    (same : cmp a b = .eq) (same' : cmp a c = .eq) : cmp b c = .eq := by
  have turned : cmp b a = .eq := by rw [ranks.swap a mem b mem', same]; rfl
  exact ((ranks.composes b mem' a mem c mem'').left turned).trans same'

theorem level_of_not_lt (ranks : Ranks cmp l) (mem : a ∈ l) (mem' : b ∈ l) (before : cmp b a ≠ .lt)
    (after : cmp a b ≠ .lt) : cmp a b = .eq := by
  rw [ranks.swap a mem b mem'] at before
  cases level : cmp a b with
  | eq => rfl
  | lt => exact absurd level after
  | gt => simp [level] at before

theorem mono (ranks : Ranks cmp l) (sub : m ⊆ l) : Ranks cmp m where
  swap a mem b mem' := ranks.swap a (sub mem) b (sub mem')
  composes a mem b mem' c mem'' := ranks.composes a (sub mem) b (sub mem') c (sub mem'')

theorem reverse (ranks : Ranks cmp l) : Ranks (fun a b => (cmp a b).swap) l where
  swap a mem b mem' := congrArg Ordering.swap (ranks.swap a mem b mem')
  composes a mem b mem' c mem'' := (ranks.composes a mem b mem' c mem'').swap

theorem andThen (ranks : Ranks cmp l) (next : Ranks cmp' l) :
    Ranks (fun a b => (cmp a b).then (cmp' a b)) l where
  swap a mem b mem' := by
    rw [Ordering.swap_then, ranks.swap a mem b mem', next.swap a mem b mem']
  composes a mem b mem' c mem'' := (ranks.composes a mem b mem' c mem'').andThen fun _ _ =>
    next.composes a mem b mem' c mem''

end Ranks

-- ---------------------------------------------------------------------------
-- Arrangements
-- ---------------------------------------------------------------------------

/-- `s` is `l` put in line. Members that are level stand in `s` as they stand in `l`. -/
structure Arranges (cmp : α → α → Ordering) (l s : List α) : Prop where
  perm : s.Perm l
  ordered : s.Pairwise fun a b => cmp b a ≠ .lt
  stable : ∀ a ∈ l, s.filter (cmp a · == .eq) = l.filter (cmp a · == .eq)

theorem Ranks.head_first (ranks : Ranks cmp (a :: l))
    (ordered : (a :: l).Pairwise fun a b => cmp b a ≠ .lt) (mem : b ∈ a :: l) : cmp b a ≠ .lt := by
  rcases List.mem_cons.mp mem with rfl | mem
  · simp [ranks.refl (.head _)]
  · exact List.rel_of_pairwise_cons ordered mem

/-- A list in line is its own arrangement and has no other. -/
theorem Ranks.eq_of_ordered (ranks : Ranks cmp l) (ordered : l.Pairwise fun a b => cmp b a ≠ .lt)
    (arranged : Arranges cmp l s) : s = l := by
  induction l generalizing s with
  | nil => exact arranged.perm.eq_nil
  | cons a rest ih =>
    obtain ⟨perm, ordered', stable⟩ := arranged
    cases s with
    | nil => exact absurd perm.symm.eq_nil (by simp)
    | cons b others =>
      have mem : b ∈ a :: rest := perm.subset (.head _)
      have before : cmp b a ≠ .lt := ranks.head_first ordered mem
      have after : cmp a b ≠ .lt :=
        (ranks.mono perm.subset).head_first ordered' (perm.symm.subset (.head _))
      have level : cmp a b = .eq := ranks.level_of_not_lt (.head _) mem before after
      have self : cmp a a = .eq := ranks.refl (.head _)
      -- Both heads lead the class of `a`.
      have heads := stable a (.head _)
      simp only [List.filter_cons, level, self, beq_self_eq_true, if_true] at heads
      obtain ⟨rfl, -⟩ := List.cons.inj heads
      refine congrArg (b :: ·) (ih (ranks.mono (List.subset_cons_self ..)) ordered.of_cons ?_)
      refine ⟨perm.cons_inv, ordered'.of_cons, fun c mem => ?_⟩
      have classes := stable c (.tail _ mem)
      simp only [List.filter_cons] at classes
      split at classes
      · exact (List.cons.inj classes).2
      · exact classes

theorem Ranks.eq_of_arranges (ranks : Ranks cmp l) (first : Arranges cmp l s)
    (second : Arranges cmp l t) : s = t := by
  refine (ranks.mono second.perm.subset).eq_of_ordered second.ordered ⟨?_, first.ordered, ?_⟩
  · exact first.perm.trans second.perm.symm
  · intro a mem
    have mem' := second.perm.subset mem
    exact (first.stable a mem').trans (second.stable a mem').symm

namespace Arranges

/-- Two members that are level stood in the same order before. -/
theorem pair_sublist (ranks : Ranks cmp l) (arranged : Arranges cmp l s) (pair : [a, b].Sublist s)
    (level : cmp a b = .eq) : [a, b].Sublist l := by
  have mem : a ∈ l := arranged.perm.subset (pair.subset (.head _))
  have both : [a, b].filter (cmp a · == .eq) = [a, b] := by
    simp [level, ranks.refl mem]
  have kept := pair.filter (cmp a · == .eq)
  rw [both, arranged.stable a mem] at kept
  exact kept.trans List.filter_sublist

theorem filter_then (a : α) (k : List α) :
    k.filter (fun b => (cmp a b).then (cmp' a b) == .eq) =
      (k.filter (cmp a · == .eq)).filter (cmp' a · == .eq) := by
  rw [List.filter_filter]
  refine List.filter_congr fun b _ => ?_
  cases cmp a b <;> simp

/-- An arrangement arranged once more is in line by the later comparison, and by the earlier one
where that is level. -/
theorem andThen (ranks : Ranks cmp l) (first : Arranges cmp' l m) (second : Arranges cmp m s) :
    Arranges (fun a b => (cmp a b).then (cmp' a b)) l s where
  perm := second.perm.trans first.perm
  ordered := by
    refine List.pairwise_iff_forall_sublist.mpr fun {a b} pair => ?_
    have outer : cmp b a ≠ .lt := List.pairwise_iff_forall_sublist.mp second.ordered pair
    cases level : cmp b a with
    | lt => exact absurd level outer
    | gt => nofun
    | eq =>
      have perm := second.perm.trans first.perm
      have mem : a ∈ l := perm.subset (pair.subset (.head _))
      have mem' : b ∈ l := perm.subset (pair.subset (.tail _ (.head _)))
      have level' : cmp a b = .eq := by
        rw [ranks.swap b mem' a mem, level]
        rfl
      have before := second.pair_sublist (ranks.mono first.perm.subset) pair level'
      exact List.pairwise_iff_forall_sublist.mp first.ordered before
  stable a mem := by
    have mem' := first.perm.symm.subset mem
    calc s.filter (fun b => (cmp a b).then (cmp' a b) == .eq)
        = (m.filter (cmp a · == .eq)).filter (cmp' a · == .eq) := by
          rw [filter_then, second.stable a mem']
      _ = (l.filter (cmp' a · == .eq)).filter (cmp a · == .eq) := by
          rw [List.filter_comm, first.stable a mem]
      _ = l.filter (fun b => (cmp a b).then (cmp' a b) == .eq) := by
          rw [List.filter_comm, filter_then]

theorem filter (arranged : Arranges cmp l s) (p : α → Bool) :
    Arranges cmp (l.filter p) (s.filter p) where
  perm := arranged.perm.filter p
  ordered := arranged.ordered.filter p
  stable a mem := by
    rw [List.filter_comm, arranged.stable a (List.mem_of_mem_filter mem), List.filter_comm]

end Arranges

-- ---------------------------------------------------------------------------
-- Merge sort
-- ---------------------------------------------------------------------------

theorem Arranges.map {f : β → α} {l s : List β}
    (arranged : Arranges (fun a b => cmp (f a) (f b)) l s) :
    Arranges cmp (l.map f) (s.map f) where
  perm := arranged.perm.map f
  ordered := List.pairwise_map.mpr arranged.ordered
  stable := List.forall_mem_map.mpr fun a mem => by
    rw [List.filter_map, List.filter_map]
    exact congrArg (List.map f) (arranged.stable a mem)

theorem arranges_mergeSort_of_forall (ranks : ∀ l, Ranks cmp l) (l : List α) :
    Arranges cmp l (l.mergeSort fun a b => cmp a b != .gt) := by
  have swap (a b : α) : cmp b a = (cmp a b).swap :=
    (ranks [a, b]).swap a (by simp) b (by simp)
  have trans (a b c : α) (first : cmp a b != .gt) (second : cmp b c != .gt) : cmp a c != .gt := by
    rw [bne_iff_ne] at first second ⊢
    exact ((ranks [a, b, c]).composes a (by simp) b (by simp) c (by simp)).ne_gt first second
  have total (a b : α) : (cmp a b != .gt || cmp b a != .gt) = true := by
    rw [swap a b]
    cases cmp a b <;> rfl
  refine ⟨List.mergeSort_perm .., ?_, ?_⟩
  · refine (List.pairwise_mergeSort trans total l).imp fun {a b} le lt => ?_
    rw [swap b a, lt] at le
    cases le
  · intro a mem
    -- Sorting keeps a class together, since the class is in line as it stands.
    have inLine : (l.filter (cmp a · == .eq)).Pairwise fun b c => cmp b c != .gt := by
      refine List.pairwise_of_forall_mem_list fun b level c level' => ?_
      simp only [List.mem_filter, beq_iff_eq] at level level'
      simp [(ranks l).level mem level.1 level'.1 level.2 level'.2]
    have kept := List.sublist_mergeSort trans total inLine List.filter_sublist
    have whole := kept.filter (cmp a · == .eq)
    simp only [List.filter_filter, Bool.and_self] at whole
    exact (whole.eq_of_length ((List.mergeSort_perm ..).filter _).length_eq.symm).symm

/-- The laws hold of the members only, so it is the members as such that are sorted. -/
theorem Ranks.arranges_mergeSort (ranks : Ranks cmp l) :
    Arranges cmp l (l.mergeSort fun a b => cmp a b != .gt) := by
  have members (k : List {a // a ∈ l}) : Ranks (fun a b => cmp a.1 b.1) k := by
    constructor
    · intro a _ b _
      exact ranks.swap a a.2 b b.2
    · intro a _ b _ c _
      exact ranks.composes a a.2 b b.2 c c.2
  have arranged := (arranges_mergeSort_of_forall members l.attach).map
  rwa [List.map_mergeSort (s := fun a b => cmp a b != .gt) fun _ _ _ _ => rfl,
    l.attach_map_subtype_val] at arranged

end Arrangements

-- ---------------------------------------------------------------------------
-- Sort keys
-- ---------------------------------------------------------------------------

namespace Query

variable {α : Type} [Record α] {q : Query α} {spec : SortSpec} {key : SortKey} {l : List α}

/-- How sort keys compare the items of a query. -/
def order (q : Query α) (spec : SortSpec) (a b : α) : Ordering :=
  spec.compare q.model.schema (Record.fields a) (Record.fields b)

/-- No item of the query has a NaN at a key. -/
def OrdinaryAt (q : Query α) (spec : SortSpec) : Prop :=
  ∀ item ∈ q.items, ∀ key ∈ spec, ((Record.fields item).atD key.path).IsOrdinary

theorem ordinaryAt_cons :
    q.OrdinaryAt (key :: spec) ↔ q.OrdinaryAt [key] ∧ q.OrdinaryAt spec := by
  simp only [OrdinaryAt, List.forall_mem_cons, List.not_mem_nil, false_implies, implies_true,
    and_true, forall_and]

theorem order_cons (q : Query α) (key : SortKey) (spec : SortSpec) :
    q.order (key :: spec) = fun a b => (q.order [key] a b).then (q.order spec a b) := by
  funext a b
  simp only [order, SortSpec.compare, Ordering.then_eq]

theorem ranks_key (real : q.OrdinaryAt [key]) : Ranks (q.order [key]) q.items := by
  have upwards : Ranks (fun a b : α =>
      ((Record.fields a).atD key.path).order ((Record.fields b).atD key.path)) q.items := by
    constructor
    · intro a _ b _
      exact Value.order_swap ..
    · intro a mem b mem' c mem''
      exact Value.order_composes (real a mem key (.head _)) (real b mem' key (.head _))
        (real c mem'' key (.head _))
  unfold order
  simp only [SortSpec.compare, FieldType.compare_typed, Ordering.then_eq]
  cases key.descending with
  | false => exact upwards
  | true => exact upwards.reverse

theorem ranks (real : q.OrdinaryAt spec) : Ranks (q.order spec) q.items := by
  induction spec with
  | nil =>
    constructor
    · intro a _ b _
      rfl
    · intro a _ b _ c _
      exact ⟨fun _ => rfl, fun _ => rfl, fun _ => rfl⟩
  | cons key spec ih =>
    obtain ⟨first, later⟩ := ordinaryAt_cons.mp real
    rw [order_cons]
    exact (ranks_key first).andThen (ih later)

theorem arranges_sort (real : q.OrdinaryAt spec) :
    Arranges (q.order spec) q.items (q.sort spec).items :=
  (ranks real).arranges_mergeSort

/-- What arranges the items of a query is the query sorted. -/
theorem eq_sort (real : q.OrdinaryAt spec) (arranged : Arranges (q.order spec) q.items l) :
    q.withItems l = q.sort spec :=
  congrArg q.withItems ((ranks real).eq_of_arranges arranged (arranges_sort real))

theorem sort_cons (real : q.OrdinaryAt (key :: spec)) :
    (q.sort spec).sort [key] = q.sort (key :: spec) := by
  obtain ⟨first, later⟩ := ordinaryAt_cons.mp real
  have inner := arranges_sort later
  have first' : (q.sort spec).OrdinaryAt [key] :=
    fun item mem => first item (inner.perm.subset mem)
  refine eq_sort real ?_
  rw [order_cons]
  exact inner.andThen (ranks first) (arranges_sort first')

/-- The last key may be sorted by first, and so on up to the first one. -/
theorem foldr_sort (real : q.OrdinaryAt spec) :
    spec.foldr (fun key q => q.sort [key]) q = q.sort spec := by
  induction spec with
  | nil =>
    have level : q.items.Pairwise fun a b => q.order [] b a ≠ .lt :=
      List.pairwise_of_forall fun _ _ => nofun
    exact eq_sort real ⟨.refl _, level, fun _ _ => rfl⟩
  | cons key spec ih =>
    rw [List.foldr_cons, ih (ordinaryAt_cons.mp real).2]
    exact sort_cons real

theorem find_sort (real : q.OrdinaryAt spec) (selector : Selector) :
    (q.sort spec).find selector = (q.find selector).map (·.sort spec) := by
  have model : (q.sort spec).model = q.model := rfl
  rw [find, find, model]
  cases q.model.schema.compileQuery selector with
  | error e => rfl
  | ok p =>
    let found := q.withItems (q.items.filter fun item => p.holds (Record.fields item))
    have real' : found.OrdinaryAt spec :=
      fun item mem => real item (List.mem_of_mem_filter mem)
    exact congrArg Except.ok (eq_sort real' ((arranges_sort real).filter _))

/-- Sorting is stable, whatever the keys: the items are the same, none is less than one before it,
and items that compare equal keep their order. So it can be done key by key, the last key first, and
it does not matter whether it comes before a search or after it. -/
theorem sort_stable (q : Query α) (spec : SortSpec) (real : q.OrdinaryAt spec) :
    (q.sort spec).items.Perm q.items ∧
      (q.sort spec).items.Pairwise (fun earlier later => q.order spec later earlier ≠ .lt) ∧
      (∀ a ∈ q.items, (q.sort spec).items.filter (q.order spec a · == .eq) =
        q.items.filter (q.order spec a · == .eq)) ∧
      spec.foldr (fun key q => q.sort [key]) q = q.sort spec ∧
      ∀ selector, (q.sort spec).find selector = (q.find selector).map (·.sort spec) := by
  obtain ⟨perm, ordered, stable⟩ := arranges_sort real
  exact ⟨perm, ordered, stable, foldr_sort real, find_sort real⟩

/-- Pinned posts first, then by title: two pinned posts of one title, and one that is not pinned. -/
theorem sort_stable_pinned :
    let schema := Schema.initial.declareAll [(⟨"pinned", []⟩, .ofKind .boolean)]
    let post (id title : String) : Fields := [("_id", .string id), ("title", .string title)]
    let pinned (id title : String) := post id title ++ [("pinned", .bool true)]
    let q : Query Fields := ⟨⟨0, "Post", schema⟩,
      [pinned "a" "y", post "b" "x", pinned "c" "x", pinned "d" "y"]⟩
    let spec : SortSpec := [⟨⟨"pinned", []⟩, true⟩, ⟨⟨"title", []⟩, false⟩]
    q.OrdinaryAt spec ∧ (q.sort spec).ids = ["c", "a", "d", "b"] ∧
      (q.sort spec).items.Pairwise (fun earlier later => q.order spec later earlier ≠ .lt) ∧
      (q.sort [⟨⟨"title", []⟩, false⟩]).sort [⟨⟨"pinned", []⟩, true⟩] = q.sort spec := by
  intro schema post pinned q spec
  have text (s : String) : (Value.string s).IsOrdinary := .scalar (by simp [Value.IsScalar]) (by simp)
  have flag : (Value.bool true).IsOrdinary := .scalar (by simp [Value.IsScalar]) (by simp)
  have nothing : Value.null.IsOrdinary := .scalar (by simp [Value.IsScalar]) (by simp)
  have keyed {fields : Fields} (first : (fields.atD ⟨"pinned", []⟩).IsOrdinary)
      (second : (fields.atD ⟨"title", []⟩).IsOrdinary) :
      ∀ key ∈ spec, (fields.atD key.path).IsOrdinary :=
    List.forall_mem_cons.mpr ⟨first, List.forall_mem_singleton.mpr second⟩
  have real : q.OrdinaryAt spec := by
    refine List.forall_mem_cons.mpr ⟨keyed flag (text "y"), ?_⟩
    refine List.forall_mem_cons.mpr ⟨keyed nothing (text "x"), ?_⟩
    refine List.forall_mem_cons.mpr ⟨keyed flag (text "x"), ?_⟩
    exact List.forall_mem_singleton.mpr (keyed flag (text "y"))
  obtain ⟨-, ordered, -, keyByKey, -⟩ := sort_stable q spec real
  exact ⟨real, by cbv, ordered, keyByKey⟩

end Query

end DocStore
