import DocStore.Database.File
import DocStore.Proofs.Json.Nesting
import DocStore.Proofs.Json.Text
import Mathlib.Data.List.Sort
import Mathlib.Data.String.Basic

/-!
# Database files read back

What is read from the text of a database file: its version, its models in order, and of each
document what its own text is read as.
-/

namespace DocStore.DatabaseFile

variable {α : Type} {entries : List (String × List Json)} {name : String} {docs : List Json}
  {text : String} {file : DatabaseFile}

/-- How deep the tree of a document may nest inside the tree of a file. -/
def documentDepth : Nat := Json.nestingLimit - 3

/-- Each name once, in order. -/
def InOrder (models : List (String × α)) : Prop := models.Pairwise fun a b => a.1 < b.1

theorem InOrder.nodup {models : List (String × α)} (sorted : InOrder models) :
    (models.map Prod.fst).Nodup :=
  List.pairwise_map.mpr (sorted.imp fun less => ne_of_lt less)

theorem InOrder.of_names {models : List (String × α)} {others : List (String × β)}
    (inOrder : InOrder models) (names : others.map Prod.fst = models.map Prod.fst) :
    InOrder others :=
  List.pairwise_map.mp (names ▸ List.pairwise_map.mpr inOrder)

-- ---------------------------------------------------------------------------
-- Names
-- ---------------------------------------------------------------------------

/-- The entries without those whose name comes up again. -/
def distinct (entries : List (String × List Json)) : List (String × List Json) :=
  entries.foldr (fun e kept => if kept.any (·.1 == e.1) then kept else e :: kept) []

theorem sorted_eq (entries : List (String × List Json)) :
    sorted entries = (distinct entries).mergeSort fun a b => decide (a.1 ≤ b.1) := rfl

theorem distinct_cons (e : String × List Json) (rest : List (String × List Json)) :
    distinct (e :: rest) =
      if e.1 ∈ (distinct rest).map Prod.fst then distinct rest else e :: distinct rest := by
  have same : (distinct rest).any (·.1 == e.1) = true ↔ e.1 ∈ (distinct rest).map Prod.fst := by
    simp only [List.any_eq_true, beq_iff_eq, List.mem_map]
  exact if_congr same rfl rfl

theorem mem_of_mem_distinct (mem : e ∈ distinct entries) : e ∈ entries := by
  induction entries with
  | nil => exact mem
  | cons first rest ih =>
    rw [distinct_cons] at mem
    split at mem
    · exact .tail _ (ih mem)
    · rcases List.mem_cons.mp mem with rfl | mem
      · exact .head _
      · exact .tail _ (ih mem)

theorem nodup_distinct (entries : List (String × List Json)) :
    ((distinct entries).map Prod.fst).Nodup := by
  induction entries with
  | nil => exact .nil
  | cons first rest ih =>
    rw [distinct_cons]
    split
    · exact ih
    · rename_i fresh
      exact List.nodup_cons.mpr ⟨fresh, ih⟩

theorem distinct_of_nodup (nodup : (entries.map Prod.fst).Nodup) : distinct entries = entries := by
  induction entries with
  | nil => rfl
  | cons first rest ih =>
    obtain ⟨fresh, nodup⟩ := List.nodup_cons.mp nodup
    rw [distinct_cons, ih nodup, if_neg fresh]

theorem mem_of_mem_sorted (mem : e ∈ sorted entries) : e ∈ entries :=
  mem_of_mem_distinct ((List.mergeSort_perm _ _).mem_iff.mp mem)

theorem sorted_inOrder (entries : List (String × List Json)) : InOrder (sorted entries) := by
  have ordered : (sorted entries).Pairwise fun a b => decide (a.1 ≤ b.1) = true := by
    refine List.pairwise_mergeSort (fun a b c => ?_) (fun a b => ?_) _
    · simpa only [decide_eq_true_eq] using le_trans
    · simpa only [Bool.or_eq_true, decide_eq_true_eq] using le_total a.1 b.1
  have apart : (sorted entries).Pairwise fun a b => a.1 ≠ b.1 := by
    have perm : ((sorted entries).map Prod.fst).Perm ((distinct entries).map Prod.fst) :=
      (List.mergeSort_perm _ _).map _
    exact List.pairwise_map.mp (perm.nodup_iff.mpr (nodup_distinct entries))
  exact (ordered.and apart).imp fun both => lt_of_le_of_ne (of_decide_eq_true both.1) both.2

theorem sorted_of_inOrder (inOrder : InOrder entries) : sorted entries = entries := by
  rw [sorted_eq, distinct_of_nodup inOrder.nodup]
  exact List.mergeSort_of_pairwise (inOrder.imp fun less => decide_eq_true (le_of_lt less))

-- ---------------------------------------------------------------------------
-- Decoding
-- ---------------------------------------------------------------------------

/-- The file that a tree stands for. -/
def ofTree? (j : Json) : Option DatabaseFile := do
  let members ← j.record? ["meta", "models"]
  let (version, engine) ← part? meta? (0, "") (members.lookup "meta")
  let models ← part? models? [] (members.lookup "models")
  some { version, engine, models }

theorem ofText?_eq (text : String) : ofText? text = (Json.ofText? text).bind ofTree? := rfl

/-- What is decoded has each name once, and documents that nest no deeper than a file lets them. -/
structure IsDecoded (file : DatabaseFile) : Prop where
  inOrder : InOrder file.models
  nests : ∀ name docs, (name, docs) ∈ file.models → ∀ j ∈ docs, j.nestsIn documentDepth = true

theorem nestsIn_of_mem_record? {j k : Json} {names : List String} {members : List (String × Json)}
    {depth : Nat} {key : String} (nests : j.nestsIn (depth + 1) = true)
    (found : j.record? names = some members) (mem : (key, k) ∈ members) :
    k.nestsIn depth = true := by
  cases j with
  | object all =>
    simp only [Json.record?] at found
    split at found
    · cases found
      exact List.all_eq_true.mp nests _ (List.mem_filter.mp mem).1
    · cases found
  | array items =>
    simp only [Json.record?] at found
    split at found
    · cases found
      exact List.all_eq_true.mp nests _ (List.of_mem_zip mem).2
    · cases found
  | _ => cases found

theorem models?_decoded {j : Json} {models : List (String × List Json)} {depth : Nat}
    (nests : j.nestsIn (depth + 2) = true) (found : models? j = some models) :
    InOrder models ∧ ∀ name docs, (name, docs) ∈ models → ∀ k ∈ docs, k.nestsIn depth = true := by
  cases j with
  | object members =>
    simp only [models?, Option.bind_eq_bind, Option.bind_eq_some_iff, Option.some.injEq] at found
    obtain ⟨entries, found, rfl⟩ := found
    refine ⟨sorted_inOrder entries, fun name docs mem k held => ?_⟩
    obtain ⟨e, there, array⟩ := Json.exists_of_mem_mapM found (mem_of_mem_sorted mem)
    have inside := List.all_eq_true.mp nests _ there
    obtain ⟨_, i⟩ := e
    cases i with
    | array items =>
      cases array
      exact List.all_eq_true.mp inside k held
    | _ => cases array
  | _ => cases found

theorem isDecoded_of_ofText? (decoded : ofText? text = some file) : file.IsDecoded := by
  simp only [ofText?, Option.bind_eq_bind, Option.bind_eq_some_iff, Option.some.injEq] at decoded
  obtain ⟨root, read, members, record, ⟨version, engine⟩, -, models, found, rfl⟩ := decoded
  have nests := Json.ofText?_nestsIn read
  cases held : members.lookup "models" with
  | none =>
    rw [held] at found
    cases found
    exact ⟨.nil, by simp⟩
  | some j =>
    rw [held] at found
    obtain ⟨pre, post, rfl, -⟩ := List.lookup_eq_some_iff.mp held
    have inside : j.nestsIn (documentDepth + 2) = true :=
      nestsIn_of_mem_record? nests record (List.mem_append_right _ (.head _))
    obtain ⟨inOrder, below⟩ := models?_decoded inside found
    exact ⟨inOrder, below⟩

-- ---------------------------------------------------------------------------
-- Text
-- ---------------------------------------------------------------------------

/-- What the text of a model's documents is read as. -/
def rereadModel? (depth : Nat) (e : String × List Json) : Option (String × List Json) :=
  (e.2.mapM (Json.reread? depth)).map (e.1, ·)

/-- A model as a member of the tree of a file. -/
def member (e : String × List Json) : String × Json := (e.1, .array e.2)

/-- The versions as they stand in the tree of a file. -/
def header (file : DatabaseFile) : Json :=
  .object [("version", .integer file.version), ("engineVersion", .string file.engine)]

def tree (file : DatabaseFile) : Json :=
  .object [("meta", file.header), ("models", .object (file.models.map member))]

theorem text_eq (file : DatabaseFile) : file.text = file.tree.text := rfl

theorem reread?_models (depth : Nat) (models : List (String × List Json)) :
    (Json.object (models.map member)).reread? (depth + 2) =
      (models.mapM (rereadModel? depth)).map fun found => .object (found.map member) := by
  have each : models.mapM (fun e => (rereadModel? depth e).map member) =
      (models.map member).mapM (Json.backMember (Json.reread? (depth + 1))) := by
    rw [List.mapM_map]
    refine congrArg (List.mapM · models) (funext fun e => ?_)
    simp only [rereadModel?, Json.backMember, member, Function.comp_apply, Json.reread?,
      Option.map_map]
    rfl
  rw [Json.reread?, ← each, ← Json.map_mapM, Option.map_map]
  rfl

theorem reread?_header (small : file.version < pow2 32) (depth : Nat) :
    file.header.reread? (depth + 2) = some file.header := by
  have version : (Json.integer file.version).reread? (depth + 1) = some (.integer file.version) :=
    Json.reread?_integer (Nat.lt_trans (by simpa using small) (by decide : pow2 32 < 2 ^ 63))
  have engine : (Json.string file.engine).reread? (depth + 1) = some (.string file.engine) := by
    simp [Json.reread?]
  rw [header, Json.reread?]
  simp only [List.mapM_cons, List.mapM_nil, Json.backMember, version, engine]
  rfl

/-- The tree of a file comes back with its versions, and with its documents as far as they do. -/
theorem reread?_tree (small : file.version < pow2 32) (depth : Nat) :
    file.tree.reread? (depth + 3) =
      (file.models.mapM (rereadModel? depth)).map fun models => { file with models }.tree := by
  rw [tree, Json.reread?]
  simp only [List.mapM_cons, List.mapM_nil, Json.backMember, reread?_models, reread?_header small]
  cases file.models.mapM (rereadModel? depth) <;> rfl

theorem models?_members {models : List (String × List Json)} (inOrder : InOrder models) :
    models? (.object (models.map member)) = some models := by
  have entries : (models.map member).mapM (fun e => e.2.array?.map (e.1, ·)) = some models := by
    rw [Json.mapM_eq_some_iff, List.forall₂_map_left_iff, List.forall₂_same]
    exact fun e _ => rfl
  simp only [models?, entries, Option.bind_eq_bind, Option.bind_some, sorted_of_inOrder inOrder]

theorem word?_natCast {n : Nat} (small : n < pow2 32) : Json.word? (.integer n) = some n := by
  have below : decide ((n : Int) < pow2 32) = true := decide_eq_true (Int.ofNat_lt.mpr small)
  have nonneg : decide (0 ≤ (n : Int)) = true := decide_eq_true (Int.natCast_nonneg n)
  simp only [Json.word?, below, nonneg, Bool.and_true, if_true, Int.toNat_natCast]

theorem meta?_members {v e : Json} {n : Nat} {s : String} (version : v.word? = some n)
    (engine : e.string? = some s) :
    meta? (.object [("version", v), ("engineVersion", e)]) = some (n, s) := by
  simp [meta?, Json.record?, Json.areDistinct, List.lookup, part?, version, engine]

theorem meta?_header (small : file.version < pow2 32) :
    meta? file.header = some (file.version, file.engine) :=
  meta?_members (word?_natCast small) rfl

theorem ofTree?_members {m k : Json} {version : Nat} {engine : String}
    {models : List (String × List Json)} (header : meta? m = some (version, engine))
    (held : models? k = some models) :
    ofTree? (.object [("meta", m), ("models", k)]) = some { version, engine, models } := by
  simp [ofTree?, Json.record?, Json.areDistinct, List.lookup, part?, header, held]

theorem ofTree?_tree (small : file.version < pow2 32) (inOrder : InOrder file.models) :
    ofTree? file.tree = some file :=
  ofTree?_members (meta?_header small) (models?_members inOrder)

theorem InOrder.reread {models found : List (String × List Json)} {depth : Nat}
    (inOrder : InOrder models) (back : models.mapM (rereadModel? depth) = some found) :
    InOrder found := by
  refine inOrder.of_names ?_
  have pairs := Json.mapM_eq_some_iff.mp back
  clear inOrder back
  induction pairs with
  | nil => rfl
  | cons first _ ih =>
    obtain ⟨docs, -, rfl⟩ := Option.map_eq_some_iff.mp first
    rw [List.map_cons, List.map_cons, ih]

/-- The text of a file whose names are in order is read as the file, its documents as far as they
come back. -/
theorem ofText?_text (small : file.version < pow2 32) (inOrder : InOrder file.models) :
    ofText? file.text =
      (file.models.mapM (rereadModel? documentDepth)).map fun models => { file with models } := by
  have limit : Json.nestingLimit = documentDepth + 3 := by decide
  rw [ofText?_eq, text_eq, Json.ofText?_text, limit, reread?_tree small]
  cases found : file.models.mapM (rereadModel? documentDepth) with
  | none => rfl
  | some models =>
    have back : ofTree? { file with models }.tree = _ := ofTree?_tree small (inOrder.reread found)
    rw [Option.map_some, Option.bind_some, back, Option.map_some]

end DocStore.DatabaseFile
