import ServletFilters.Descriptor
import ServletFilters.Proofs.DispatcherSets

/-!
What declarations add up to: the mappings are kept in order, and a name stands for the last filter
declared under it.
-/

namespace ServletFilters

/-- The types that a list of types stands for in a mapping: none at all means REQUEST. -/
def Dispatcher.orRequest (ts : List Dispatcher) : List Dispatcher :=
  if ts.isEmpty then [.request] else ts

theorem Mapping.appliesTo_of (filter : String) (target : Target) (ts : List Dispatcher)
    (t : Dispatcher) :
    (Mapping.of filter target (.ofList ts)).appliesTo t = true ↔ t ∈ Dispatcher.orRequest ts := by
  unfold appliesTo of Dispatcher.orRequest
  cases ts with
  | nil =>
    have hempty : (DispatcherSet.ofList []).isEmpty = true := rfl
    simp [hempty, DispatcherSet.requestOnly, eq_comm]
  | cons u us =>
    have hnot : ¬ (DispatcherSet.ofList (u :: us)).isEmpty = true := by
      intro h
      have hu := DispatcherSet.isEmpty_iff.1 h u
      simp at hu
    simp [hnot]

namespace Declaration

def mapping? : Declaration → Option Mapping
  | .filter _ => none
  | .mapping m => some m

def filter? : Declaration → Option Registration
  | .filter r => some r
  | .mapping _ => none

end Declaration

namespace Registry

theorem find?_foldl_register (rs : List Registration) (reg : Registry) (name : String) :
    (rs.foldl register reg).find? name =
      (rs.reverse.find? fun r => r.name == name).or (reg.find? name) := by
  induction rs generalizing reg with
  | nil => rfl
  | cons r rs ih =>
    rw [List.foldl_cons, ih, find?_register, List.reverse_cons, List.find?_append, Option.or_assoc]
    congr 1
    by_cases h : r.name = name
    · simp [h]
    · simp [h]

theorem mem_names_iff {reg : Registry} {name : String} :
    name ∈ reg.entries.map (·.name) ↔ (reg.find? name).isSome = true := by
  simp [find?, List.find?_isSome]

/-- How many names there are shows in the look-ups. -/
theorem size_eq_length_of_nodup (reg : Registry) {names : List String} (hnodup : names.Nodup)
    (h : ∀ name, (reg.find? name).isSome = true ↔ name ∈ names) : reg.size = names.length := by
  have hdistinct : (reg.entries.map (·.name)).Nodup := List.pairwise_map.2 reg.distinct
  have hperm : (reg.entries.map (·.name)).Perm names := by
    rw [List.perm_ext_iff_of_nodup hdistinct hnodup]
    intro name
    rw [mem_names_iff, h]
  simpa [size] using hperm.length_eq

theorem size_eq_of_isSome_find?_eq {reg reg' : Registry}
    (h : ∀ name, (reg'.find? name).isSome = (reg.find? name).isSome) : reg'.size = reg.size := by
  have hdistinct : (reg.entries.map (·.name)).Nodup := List.pairwise_map.2 reg.distinct
  have hsize := reg'.size_eq_length_of_nodup hdistinct fun name => by rw [h, mem_names_iff]
  rw [hsize, List.length_map, size]

end Registry

namespace Table

theorem foldl_declare_mappings (ds : List Declaration) (t : Table) :
    (ds.foldl declare t).mappings = t.mappings ++ ds.filterMap Declaration.mapping? := by
  induction ds generalizing t with
  | nil => simp
  | cons d ds ih =>
    rw [List.foldl_cons, ih]
    cases d with
    | filter r => rfl
    | mapping m => simp [declare, Declaration.mapping?]

theorem foldl_declare_registry (ds : List Declaration) (t : Table) :
    (ds.foldl declare t).registry =
      (ds.filterMap Declaration.filter?).foldl Registry.register t.registry := by
  induction ds generalizing t with
  | nil => rfl
  | cons d ds ih =>
    rw [List.foldl_cons, ih]
    cases d with
    | filter r => rfl
    | mapping m => rfl

theorem mappings_ofDeclarations (ds : List Declaration) :
    (ofDeclarations ds).mappings = ds.filterMap Declaration.mapping? :=
  foldl_declare_mappings ds empty

theorem registration?_ofDeclarations (ds : List Declaration) (name : String) :
    (ofDeclarations ds).registration? name =
      (ds.filterMap Declaration.filter?).reverse.find? fun r => r.name == name := by
  rw [registration?, ofDeclarations, foldl_declare_registry, Registry.find?_foldl_register]
  exact Option.or_none

end Table

namespace Descriptor

@[simp]
theorem mappings_table (c : Descriptor) :
    c.table.mappings = c.mappings.flatMap MappingEntry.expand := by
  rw [table, Table.mappings_ofDeclarations, declarations, List.filterMap_append,
    List.filterMap_map, List.filterMap_map]
  have hfilters : c.filters.filterMap (Declaration.mapping? ∘ Declaration.filter) = [] :=
    List.filterMap_eq_nil_iff.2 fun _ _ => rfl
  rw [hfilters, List.nil_append]
  exact List.filterMap_some

theorem registration?_table (c : Descriptor) (name : String) :
    c.table.registration? name = c.filters.reverse.find? fun r => r.name == name := by
  rw [table, Table.registration?_ofDeclarations, declarations, List.filterMap_append,
    List.filterMap_map, List.filterMap_map]
  have hmappings (ms : List Mapping) :
      ms.filterMap (Declaration.filter? ∘ Declaration.mapping) = [] :=
    List.filterMap_eq_nil_iff.2 fun _ _ => rfl
  have hfilters : Declaration.filter? ∘ Declaration.filter = some := rfl
  rw [hmappings, List.append_nil, hfilters, List.filterMap_some]

theorem registration?_table_eq_none_iff {c : Descriptor} {name : String} :
    c.table.registration? name = none ↔ ∀ r ∈ c.filters, r.name ≠ name := by
  rw [registration?_table, List.find?_eq_none]
  simp

end Descriptor

end ServletFilters
