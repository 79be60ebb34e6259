import DocStore.Proofs.Schema.Declare
import DocStore.Proofs.Schema.Frame
import DocStore.Proofs.Value.PathText
import DocStore.Proofs.Write.Plan
import Mathlib.Data.List.Nodup

/-!
# The list of a schema

A schema is built by calls that give types to names. The names stand in the order in which they
were first needed, each after those it goes on from; a call that gives a listed name another type
leaves everything else as it is. What a type has to say about a value, it says under its name.
-/

namespace DocStore

-- ---------------------------------------------------------------------------
-- The name that a type goes by
-- ---------------------------------------------------------------------------

variable {type child : FieldType} {p : Path} {v : Value} {fault : Fault} {n : Nat}

namespace FieldType

end FieldType

namespace Schema

variable {schema : Schema} {path q : Path} {type t : FieldType} {name : String}

theorem lookup_insertEntry (path : Path) (type : FieldType) (entries : List (Path × FieldType))
    (q : Path) :
    (insertEntry path type entries).lookup q =
      if q = path then some type else entries.lookup q := by
  induction entries with
  | nil =>
    by_cases own : q = path
    · simp [insertEntry, own]
    · simp [insertEntry, List.lookup_cons, own, beq_eq_false_iff_ne.mpr own]
  | cons entry rest ih =>
    obtain ⟨p, t⟩ := entry
    by_cases same : p = path
    · by_cases own : q = p
      · simp [insertEntry, same, own]
      · simp [insertEntry, ← same, own, List.lookup_cons, beq_eq_false_iff_ne.mpr own]
    · by_cases here : q = p
      · simp [insertEntry, here, same]
      · simp [insertEntry, same, List.lookup_cons, beq_eq_false_iff_ne.mpr here, ih]

theorem find?_insert (schema : Schema) (path : Path) (type : FieldType) (q : Path) :
    (schema.insert path type).find? q = if q = path then some type else schema.find? q :=
  lookup_insertEntry path type schema.entries q

theorem prefix_insert (schema : Schema) (path : Path) (type : FieldType) :
    schema.entries.map Prod.fst <+: (schema.insert path type).entries.map Prod.fst := by
  simp only [insert, map_fst_insertEntry]
  split
  · exact List.prefix_rfl
  · exact List.prefix_append _ _

/-- A declaration makes the objects that are missing above its path, and then gives the path its
type. -/
theorem declare_induction {P : Schema → Prop} (start : P schema)
    (made : ∀ s, ∀ q ∈ parents path, P s → s.find? q = none → P (s.insert q (.ofKind .object)))
    (own : ∀ s, P s → P (s.insert path type)) : P (schema.declare path type) := by
  refine own _ ?_
  generalize parents path = above at made ⊢
  induction above generalizing schema with
  | nil => exact start
  | cons q above ih =>
    refine ih ?_ fun s q mem => made s q (List.mem_cons_of_mem _ mem)
    cases known : schema.find? q with
    | some t => simpa only [known, Option.isSome_some, if_true] using start
    | none =>
      simpa only [known, Option.isSome_none, Bool.false_eq_true, if_false] using
        made schema q (List.mem_cons_self ..) start known

theorem find?_declare_self (schema : Schema) (path : Path) (type : FieldType) :
    (schema.declare path type).find? path = some type := by
  rw [declare, find?_insert, if_pos rfl]

theorem find?_declare_of_ne (known : schema.find? q = some t) (other : q ≠ path)
    (type : FieldType) : (schema.declare path type).find? q = some t := by
  refine declare_induction (P := fun s => s.find? q = some t) known ?_ ?_
  · intro s made _ known missing
    have new : q ≠ made := by
      rintro rfl
      rw [known] at missing
      cases missing
    rw [find?_insert, if_neg new, known]
  · intro s known
    rw [find?_insert, if_neg other, known]

theorem prefix_declare (schema : Schema) (path : Path) (type : FieldType) :
    schema.entries.map Prod.fst <+: (schema.declare path type).entries.map Prod.fst :=
  declare_induction (P := fun s => schema.entries.map Prod.fst <+: s.entries.map Prod.fst)
    List.prefix_rfl (fun s q _ before _ => before.trans (prefix_insert s q _))
    fun s before => before.trans (prefix_insert s path type)

theorem isBelow_of_rooted (rooted : path.IsRooted) (mem : q ∈ parents path) : path.IsBelow q := by
  rcases rooted with plain | single
  · exact isBelow_of_mem_parents plain mem
  · obtain ⟨head, rest⟩ := path
    obtain rfl : rest = [] := single
    cases mem

theorem mem_of_mem_insert (mem : q ∈ (schema.insert path type).entries.map Prod.fst) :
    q ∈ schema.entries.map Prod.fst ∨ q = path := by
  simp only [insert, map_fst_insertEntry] at mem
  split at mem
  · exact .inl mem
  · simpa using mem

/-- A declaration lists no paths but its own and those above it. -/
theorem mem_of_mem_declare (rooted : path.IsRooted)
    (mem : q ∈ (schema.declare path type).entries.map Prod.fst) :
    q ∈ schema.entries.map Prod.fst ∨ q = path ∨ path.IsBelow q := by
  revert mem
  refine declare_induction (P := fun s => q ∈ s.entries.map Prod.fst →
    q ∈ schema.entries.map Prod.fst ∨ q = path ∨ path.IsBelow q) .inl ?_ ?_
  · intro s made above before _ mem
    rcases mem_of_mem_insert mem with mem | rfl
    · exact before mem
    · exact .inr (.inr (isBelow_of_rooted rooted above))
  · intro s before mem
    rcases mem_of_mem_insert mem with mem | own
    · exact before mem
    · exact .inr (.inl own)

-- ---------------------------------------------------------------------------
-- The listed paths
-- ---------------------------------------------------------------------------

/-- Each path is listed once and after those above it, the id first, and its text stands for it. -/
structure Listed (schema : Schema) : Prop where
  distinct : (schema.entries.map Prod.fst).Nodup
  inOrder : schema.InOrder
  first : (schema.entries.map Prod.fst).head? = some idPath
  spelled : ∀ p ∈ schema.entries.map Prod.fst, p.IsSplit ∧ p.IsRooted

theorem InOrder.declare_rooted (inOrder : schema.InOrder) (rooted : path.IsRooted)
    (type : FieldType) : (schema.declare path type).InOrder := by
  rcases rooted with plain | single
  · exact inOrder.declare plain type
  · obtain ⟨head, rest⟩ := path
    obtain rfl : rest = [] := single
    exact inOrder.insert (fun q below => absurd below Path.not_isBelow_single) type

theorem Listed.declare (listed : schema.Listed) (split : path.IsSplit) (rooted : path.IsRooted)
    (type : FieldType) : (schema.declare path type).Listed where
  distinct := distinct_declare listed.distinct path type
  inOrder := listed.inOrder.declare_rooted rooted type
  first := by
    obtain ⟨more, whole⟩ := prefix_declare schema path type
    rw [← whole, List.head?_append, listed.first, Option.some_or]
  spelled p mem := by
    rcases mem_of_mem_declare rooted mem with mem | rfl | below
    · exact listed.spelled p mem
    · exact ⟨split, rooted⟩
    · obtain ⟨r, rfl⟩ := Path.isBelow_iff_append.mp below
      exact ⟨(Path.isSplit_append.mp split).1, rooted.of_isBelow below⟩

/-- A path that is listed has all paths above it listed, so that no object is made. -/
theorem Listed.paths_declare (listed : schema.Listed) (mem : path ∈ schema.entries.map Prod.fst)
    (type : FieldType) :
    (schema.declare path type).entries.map Prod.fst = schema.entries.map Prod.fst := by
  have known : ∀ q ∈ parents path, (schema.find? q).isSome = true := by
    intro q above
    have below := isBelow_of_rooted (listed.spelled path mem).2 above
    exact isSome_find?_iff.mpr (listed.inOrder.above path mem q below)
  rw [declare_eq_insert known, insert, map_fst_insertEntry, if_pos mem]

-- ---------------------------------------------------------------------------
-- The listed names
-- ---------------------------------------------------------------------------

/-- The names that have a type, in the order in which the passes walk them. -/
def names (schema : Schema) : List String := schema.entries.map fun entry => entry.1.text

theorem names_eq (schema : Schema) :
    schema.names = (schema.entries.map Prod.fst).map Path.text := by
  rw [names, List.map_map]
  rfl

theorem Listed.ofText_text (listed : schema.Listed) (mem : path ∈ schema.entries.map Prod.fst) :
    Path.ofText path.text = path :=
  (listed.spelled path mem).1.ofText_text

theorem Listed.mem_names (listed : schema.Listed) :
    name ∈ schema.names ↔ Path.ofText name ∈ schema.entries.map Prod.fst := by
  rw [names_eq, List.mem_map]
  constructor
  · rintro ⟨p, mem, rfl⟩
    rwa [listed.ofText_text mem]
  · intro mem
    exact ⟨Path.ofText name, mem, Path.text_ofText name⟩

/-- A call that gives types to names. -/
inductive Declaration where
  | path (name : String) (type : FieldType)
  | add (fields : List (String × FieldType))
  | computed (name : String) (getter : Fields → Value)

/-- The names and types of a call, in its order. -/
def Declaration.fields : Declaration → List (String × FieldType)
  | .path name type => [(name, type)]
  | .add fields => fields
  | .computed name getter => [(name, .ofKind (.virtual { getter := some getter }))]

/-- No name begins with a point. -/
def Declaration.IsPlain (call : Declaration) : Prop :=
  ∀ field ∈ call.fields, field.1.toList.head? ≠ some '.'

def declareNames (schema : Schema) (fields : List (String × FieldType)) : Schema :=
  schema.declareAll (fields.map fun field => (Path.ofText field.1, field.2))

def carryOut (schema : Schema) (call : Declaration) : Schema := schema.declareNames call.fields

/-- The schema that some calls build, one after the other. -/
def built (calls : List Declaration) : Schema := calls.foldl carryOut initial

/-- What declaring fields makes of a schema. The listed names keep their places; after them come
the others of the fields, and names that these go on from. Of the types that a name is given the
last one counts, and a name that is given none keeps its type. -/
structure Redefines (fields : List (String × FieldType)) (schema later : Schema) : Prop where
  places : schema.names <+: later.names
  only : ∀ name ∈ later.names, name ∈ schema.names ∨
    ∃ field ∈ fields, field.1 = name ∨ ∃ inner, field.1 = name ++ "." ++ inner
  same : (∀ field ∈ fields, field.1 ∈ schema.names) → later.names = schema.names
  given : ∀ name type, fields.reverse.lookup name = some type →
    later.find? (.ofText name) = some type
  kept : ∀ name type, name ∉ fields.map Prod.fst → schema.find? (.ofText name) = some type →
    later.find? (.ofText name) = some type

theorem Redefines.nil (schema : Schema) : Redefines [] schema schema where
  places := List.prefix_rfl
  only _ mem := .inl mem
  same _ := rfl
  given _ _ found := nomatch found
  kept _ _ _ known := known

theorem Redefines.append {fields more : List (String × FieldType)} {middle later : Schema}
    (first : Redefines fields schema middle) (second : Redefines more middle later) :
    Redefines (fields ++ more) schema later where
  places := first.places.trans second.places
  only name mem := by
    have among {part : List (String × FieldType)} (within : part ⊆ fields ++ more)
        (found : ∃ field ∈ part, field.1 = name ∨ ∃ inner, field.1 = name ++ "." ++ inner) :
        ∃ field ∈ fields ++ more, field.1 = name ∨ ∃ inner, field.1 = name ++ "." ++ inner :=
      found.imp fun _ held => ⟨within held.1, held.2⟩
    rcases second.only name mem with mem | found
    · exact (first.only name mem).imp_right (among (List.subset_append_left _ _))
    · exact .inr (among (List.subset_append_right _ _) found)
  same listed := by
    obtain ⟨left, right⟩ := List.forall_mem_append.mp listed
    have before := first.same left
    rw [second.same (before ▸ right), before]
  given name type found := by
    rw [List.reverse_append, List.lookup_append, Option.or_eq_some_iff] at found
    rcases found with last | ⟨ungiven, found⟩
    · exact second.given name type last
    · refine second.kept name type (fun mem => ?_) (first.given name type found)
      obtain ⟨field, held, rfl⟩ := List.mem_map.mp mem
      have other := List.lookup_eq_none_iff.mp ungiven field (List.mem_reverse.mpr held)
      simp at other
  kept name type new known := by
    rw [List.map_append, List.mem_append, not_or] at new
    exact second.kept name type new.2 (first.kept name type new.1 known)

theorem Listed.redefines (listed : schema.Listed) (plain : name.toList.head? ≠ some '.')
    (type : FieldType) :
    Redefines [(name, type)] schema (schema.declare (.ofText name) type) where
  places := by
    rw [names_eq, names_eq]
    exact (prefix_declare schema _ type).map Path.text
  only q mem := by
    have after := listed.declare (Path.isSplit_ofText name) (Path.isRooted_ofText plain) type
    rw [listed.mem_names]
    rcases mem_of_mem_declare (Path.isRooted_ofText plain) (after.mem_names.mp mem) with
      before | same | below
    · exact .inl before
    · exact .inr ⟨_, List.mem_singleton_self _, .inl (Path.ofText_injective same).symm⟩
    · exact .inr ⟨_, List.mem_singleton_self _, .inr (Path.isBelow_ofText_iff.mp below)⟩
  same known := by
    have mem := listed.mem_names.mp (known _ (List.mem_singleton_self _))
    rw [names_eq, names_eq, listed.paths_declare mem]
  given q t found := by
    have own : q = name ∧ type = t := by
      by_cases own : q = name
      · simpa [own] using found
      · simp [List.lookup_cons, beq_eq_false_iff_ne.mpr own] at found
    rw [own.1, ← own.2, find?_declare_self]
  kept q t new known := by
    refine find?_declare_of_ne known (fun same => new ?_) type
    exact List.mem_singleton.mpr (Path.ofText_injective same)

theorem Listed.declareNames (listed : schema.Listed) {fields : List (String × FieldType)}
    (plain : ∀ field ∈ fields, field.1.toList.head? ≠ some '.') :
    (schema.declareNames fields).Listed ∧ Redefines fields schema (schema.declareNames fields) := by
  induction fields generalizing schema with
  | nil => exact ⟨listed, .nil schema⟩
  | cons field fields ih =>
    obtain ⟨name, type⟩ := field
    obtain ⟨first, plain⟩ := List.forall_mem_cons.mp plain
    have next := listed.declare (Path.isSplit_ofText name) (Path.isRooted_ofText first) type
    obtain ⟨last, redefines⟩ := ih next plain
    exact ⟨last, (listed.redefines first type).append redefines⟩

end Schema

end DocStore
