import DocStore.Proofs.Value.Path
import DocStore.Schema
import Mathlib.Data.List.Induction

/-!
# Declared paths

Declaring a path gives it its one place in the order, and a path that has a place keeps it. The
paths above it come before it, as long as no path begins with an empty key.
-/

namespace DocStore.Schema

variable {schema : Schema} {entries : List (Path × FieldType)}

theorem map_fst_insertEntry (path : Path) (type : FieldType) (entries : List (Path × FieldType)) :
    (insertEntry path type entries).map Prod.fst =
      if path ∈ entries.map Prod.fst then entries.map Prod.fst
      else entries.map Prod.fst ++ [path] := by
  induction entries with
  | nil => rfl
  | cons entry rest ih =>
    obtain ⟨p, t⟩ := entry
    by_cases same : p = path
    · simp [insertEntry, same]
    · simp only [insertEntry, beq_iff_eq, same, if_false, List.map_cons, ih, List.mem_cons,
        Ne.symm same, false_or]
      split <;> rfl

theorem distinct_insert (distinct : (schema.entries.map Prod.fst).Nodup) (path : Path)
    (type : FieldType) : ((schema.insert path type).entries.map Prod.fst).Nodup := by
  simp only [insert, map_fst_insertEntry]
  split
  · exact distinct
  · rename_i new
    exact List.nodup_append.mpr ⟨distinct, by simp, fun p mem q last => by
      rintro rfl
      exact new (List.mem_singleton.mp last ▸ mem)⟩

theorem distinct_declare (distinct : (schema.entries.map Prod.fst).Nodup) (path : Path)
    (type : FieldType) : ((schema.declare path type).entries.map Prod.fst).Nodup := by
  refine distinct_insert ?_ path type
  generalize parents path = above
  induction above generalizing schema with
  | nil => exact distinct
  | cons parent above ih =>
    refine ih ?_
    by_cases known : (schema.find? parent).isSome = true
    · simpa only [known, if_true] using distinct
    · simpa only [known, Bool.false_eq_true, if_false] using distinct_insert distinct parent _

/-- Whatever is declared, no path has two types. -/
theorem distinct_declareAll (fields : List (Path × FieldType)) :
    ((initial.declareAll fields).entries.map Prod.fst).Nodup := by
  have all : ∀ schema : Schema, (schema.entries.map Prod.fst).Nodup →
      ((schema.declareAll fields).entries.map Prod.fst).Nodup := by
    induction fields with
    | nil => exact fun _ distinct => distinct
    | cons field fields ih =>
      exact fun _ distinct => ih _ (distinct_declare distinct field.1 field.2)
  exact all initial (by decide)

-- ---------------------------------------------------------------------------
-- The order of the paths
-- ---------------------------------------------------------------------------

/-- What lies above a declared path is declared, and no path comes after one below it. -/
structure InOrder (schema : Schema) : Prop where
  above : ∀ p ∈ schema.entries.map Prod.fst, ∀ q, p.IsBelow q → q ∈ schema.entries.map Prod.fst
  order : (schema.entries.map Prod.fst).Pairwise fun earlier later => ¬ earlier.IsBelow later

/-- Each key makes a path of its own of the ones before it. -/
theorem parents_concat {head : String} (plain : head ≠ "") (rest : List String) (key : String) :
    parents ⟨head, rest ++ [key]⟩ = parents ⟨head, rest⟩ ++ [⟨head, rest⟩] := by
  let step := fun ((found, parent) : List Path × Path) (key : String) =>
    (found ++ [extend parent key], extend parent key)
  have leading (rest : List String) (key : String) :
      parents ⟨head, rest ++ [key]⟩ = ((head :: rest).foldl step ([], ⟨"", []⟩)).1 := by
    simp only [parents, Path.keys, ← List.cons_append, List.dropLast_concat]
    rfl
  have walked : (head :: rest).foldl step ([], ⟨"", []⟩) =
      (parents ⟨head, rest⟩ ++ [⟨head, rest⟩], ⟨head, rest⟩) := by
    induction rest using List.reverseRecOn with
    | nil => rfl
    | append_singleton rest last ih =>
      have some : ((⟨head, rest⟩ : Path) == ⟨"", []⟩) = false := by simp [plain]
      have extended : extend ⟨head, rest⟩ last = ⟨head, rest ++ [last]⟩ := by simp [extend, some]
      rw [leading rest last, ← List.cons_append, List.foldl_append, ih]
      simp only [List.foldl_cons, List.foldl_nil, step, extended]
  rw [leading, walked]

theorem InOrder.insert (inOrder : schema.InOrder) {path : Path}
    (above : ∀ q, path.IsBelow q → q ∈ schema.entries.map Prod.fst) (type : FieldType) :
    (schema.insert path type).InOrder := by
  constructor
  · simp only [Schema.insert, map_fst_insertEntry]
    split
    · exact inOrder.above
    · intro p mem q below
      rw [List.mem_append, List.mem_singleton] at mem ⊢
      rcases mem with mem | rfl
      · exact .inl (inOrder.above p mem q below)
      · exact .inl (above q below)
  · simp only [Schema.insert, map_fst_insertEntry]
    split
    · exact inOrder.order
    · rename_i new
      refine List.pairwise_append.mpr ⟨inOrder.order, List.pairwise_singleton _ _, ?_⟩
      intro p mem q last below
      obtain rfl := List.mem_singleton.mp last
      exact new (inOrder.above p mem q below)

theorem mem_insert (schema : Schema) (path : Path) (type : FieldType) :
    path ∈ (schema.insert path type).entries.map Prod.fst := by
  simp only [insert, map_fst_insertEntry]
  split
  · assumption
  · simp

theorem subset_insert (schema : Schema) (path : Path) (type : FieldType) :
    schema.entries.map Prod.fst ⊆ (schema.insert path type).entries.map Prod.fst := by
  simp only [insert, map_fst_insertEntry]
  split
  · exact List.Subset.refl _
  · exact List.subset_append_left _ _

theorem isSome_find?_iff {path : Path} :
    (schema.find? path).isSome = true ↔ path ∈ schema.entries.map Prod.fst := by
  simp [find?, List.lookup_isSome_iff]

theorem eq_or_isBelow_of_concat {q : Path} {head : String} {rest : List String} {key : String}
    (below : Path.IsBelow ⟨head, rest ++ [key]⟩ q) :
    q = ⟨head, rest⟩ ∨ Path.IsBelow ⟨head, rest⟩ q := by
  obtain ⟨next, more, keys⟩ := below
  have keys : (head :: rest) ++ [key] = q.keys ++ next :: more := keys
  rcases List.eq_nil_or_concat more with rfl | ⟨more, last, rfl⟩
  · left
    obtain ⟨rfl, rfl⟩ := List.cons.inj (List.append_inj' keys rfl).1
    rfl
  · right
    rw [List.concat_eq_append, ← List.cons_append, ← List.append_assoc] at keys
    exact ⟨next, more, (List.append_inj' keys rfl).1⟩

/-- The missing paths above a path are declared in their order. -/
theorem inOrder_parents {head : String} (plain : head ≠ "") (rest : List String)
    (inOrder : schema.InOrder) :
    let withParents := (parents ⟨head, rest⟩).foldl
      (fun s p => if (s.find? p).isSome then s else s.insert p (.ofKind .object)) schema
    withParents.InOrder ∧
      ∀ q, Path.IsBelow ⟨head, rest⟩ q → q ∈ withParents.entries.map Prod.fst := by
  induction rest using List.reverseRecOn with
  | nil => exact ⟨inOrder, fun q below => absurd below Path.not_isBelow_single⟩
  | append_singleton rest key ih =>
    intro withParents
    obtain ⟨ordered, above⟩ := ih
    simp only [withParents, parents_concat plain, List.foldl_append, List.foldl_cons,
      List.foldl_nil]
    split
    · rename_i known
      refine ⟨ordered, fun q below => ?_⟩
      rcases eq_or_isBelow_of_concat below with rfl | below
      · exact isSome_find?_iff.mp known
      · exact above q below
    · refine ⟨ordered.insert above _, fun q below => ?_⟩
      rcases eq_or_isBelow_of_concat below with rfl | below
      · exact mem_insert _ _ _
      · exact subset_insert _ _ _ (above q below)

theorem InOrder.declare (inOrder : schema.InOrder) {path : Path} (plain : path.head ≠ "")
    (type : FieldType) : (schema.declare path type).InOrder := by
  obtain ⟨head, rest⟩ := path
  obtain ⟨ordered, above⟩ := inOrder_parents plain rest inOrder
  exact ordered.insert above type

/-- If no path begins with an empty key, the paths above a path come before it. -/
theorem inOrder_declareAll {fields : List (Path × FieldType)}
    (plain : ∀ field ∈ fields, field.1.head ≠ "") : (initial.declareAll fields).InOrder := by
  have all : ∀ schema : Schema, schema.InOrder → (schema.declareAll fields).InOrder := by
    induction fields with
    | nil => exact fun _ inOrder => inOrder
    | cons field fields ih =>
      obtain ⟨first, plain⟩ := List.forall_mem_cons.mp plain
      exact fun _ inOrder => ih plain _ (inOrder.declare first field.2)
  have empty : Schema.InOrder ⟨[]⟩ := ⟨by simp, .nil⟩
  exact all initial (empty.declare (by decide) _)

-- ---------------------------------------------------------------------------
-- Paths that are declared after those above them
-- ---------------------------------------------------------------------------

theorem declareAll_append (schema : Schema) (l m : List (Path × FieldType)) :
    schema.declareAll (l ++ m) = (schema.declareAll l).declareAll m := List.foldl_append

/-- No object is made where all paths above have a type. -/
theorem declare_eq_insert {path : Path}
    (known : ∀ q ∈ parents path, (schema.find? q).isSome = true) (type : FieldType) :
    schema.declare path type = schema.insert path type := by
  have kept : (parents path).foldl
      (fun s p => if (s.find? p).isSome then s else s.insert p (.ofKind .object)) schema =
        schema := by
    generalize parents path = above at known ⊢
    induction above with
    | nil => rfl
    | cons q above ih =>
      obtain ⟨first, others⟩ := List.forall_mem_cons.mp known
      rw [List.foldl_cons, if_pos first, ih others]
  rw [declare, kept]

theorem isBelow_of_mem_parents {path q : Path} (plain : path.head ≠ "") (mem : q ∈ parents path) :
    path.IsBelow q := by
  obtain ⟨head, rest⟩ := path
  induction rest using List.reverseRecOn with
  | nil => simp [parents, Path.keys] at mem
  | append_singleton rest key ih =>
    rw [parents_concat plain, List.mem_append, List.mem_singleton] at mem
    rcases mem with mem | rfl
    · obtain ⟨next, more, same⟩ := ih plain mem
      have longer : (head :: rest) ++ [key] = q.keys ++ next :: more ++ [key] :=
        congrArg (· ++ [key]) same
      exact ⟨next, more ++ [key], longer.trans (List.append_assoc _ _ _)⟩
    · exact ⟨key, [], rfl⟩

theorem insertEntry_new {path : Path} (new : path ∉ entries.map Prod.fst) (type : FieldType) :
    insertEntry path type entries = entries ++ [(path, type)] := by
  induction entries with
  | nil => rfl
  | cons entry rest ih =>
    obtain ⟨p, t⟩ := entry
    simp only [List.map_cons, List.mem_cons, not_or] at new
    rw [insertEntry, ih new.2]
    simp [Ne.symm new.1]

/-- Each path comes once, plain at its front, and after those above it. -/
structure Descend (paths : List Path) : Prop where
  distinct : paths.Nodup
  plain : ∀ p ∈ paths, p.head ≠ ""
  above : ∀ before p after, paths = before ++ p :: after → ∀ q, p.IsBelow q → q ∈ before

theorem Descend.init {paths more : List Path} (descend : Descend (paths ++ more)) :
    Descend paths where
  distinct := (List.nodup_append.mp descend.distinct).1
  plain p mem := descend.plain p (List.mem_append_left more mem)
  above before p after split q below :=
    descend.above before p (after ++ more) (by rw [split, List.append_assoc]; rfl) q below

/-- Such paths are declared as they are: the id first, with its own type if it has one, and the
others in their order. -/
theorem entries_declareAll {fields : List (Path × FieldType)}
    (descend : Descend (fields.map Prod.fst)) :
    (initial.declareAll fields).entries =
      (idPath, (fields.lookup idPath).getD (.leaf (.id .nanoid) { required := true })) ::
        fields.filter fun field => field.1 ≠ idPath := by
  induction fields using List.reverseRecOn with
  | nil => rfl
  | append_singleton fields field ih =>
    obtain ⟨path, type⟩ := field
    rw [List.map_append] at descend
    have entries := ih descend.init
    have new : path ∉ fields.map Prod.fst := fun mem =>
      (List.nodup_append.mp descend.distinct).2.2 path mem path (by simp) rfl
    have known : ∀ q ∈ parents path, ((initial.declareAll fields).find? q).isSome = true := by
      intro q mem
      have below := isBelow_of_mem_parents (descend.plain path (by simp)) mem
      have above := descend.above (fields.map Prod.fst) path [] rfl q below
      obtain ⟨⟨q, t⟩, held, rfl⟩ := List.mem_map.mp above
      rw [isSome_find?_iff, entries, List.map_cons, List.mem_cons]
      by_cases own : q = idPath
      · exact .inl own
      · exact .inr (List.mem_map.mpr ⟨(q, t), List.mem_filter.mpr ⟨held, by simpa using own⟩, rfl⟩)
    rw [declareAll_append]
    change ((initial.declareAll fields).declare path type).entries = _
    rw [declare_eq_insert known, insert, entries, List.lookup_append, List.filter_append]
    by_cases own : path = idPath
    · subst own
      have undeclared : fields.lookup idPath = none := List.lookup_eq_none_iff.mpr fun field mem =>
        bne_iff_ne.mpr fun same => new (same ▸ List.mem_map_of_mem mem)
      simp [insertEntry, undeclared]
    · have last : path ∉ (fields.filter fun field => field.1 ≠ idPath).map Prod.fst := fun mem =>
        new (List.map_subset _ (List.filter_sublist.subset) mem)
      have kept : [(path, type)].filter (fun field => field.1 ≠ idPath) = [(path, type)] := by
        simp [own]
      have undeclared : [(path, type)].lookup idPath = none := by simp [Ne.symm own]
      rw [insertEntry, if_neg (by simp [Ne.symm own]), insertEntry_new last, kept, undeclared,
        Option.or_none]

end DocStore.Schema
