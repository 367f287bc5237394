import Mathlib.Algebra.GroupWithZero.Nat
import Mathlib.Data.List.Dedup
import ServletFilters.Proofs.Declared
import ServletFilters.Proofs.SelectedOnly

/-!
What a table holds after any run of declarations, in all the forms in which they can be given: every
mapping in order, with at least one dispatcher type, and under each name the last filter declared.
-/

namespace ServletFilters

variable {H : Type}

/-- A declaration as it is given. A mapping comes with a set of dispatcher types, or by the kind of
its target with a list of them. -/
inductive Given where
  | filter (registration : Registration)
  | mapping (filter : String) (target : Target) (types : DispatcherSet)
  | url (filter pattern : String) (types : List Dispatcher)
  | servlet (filter pattern : String) (types : List Dispatcher)

/-- What a mapping is declared for. -/
structure Wanted where
  filter : String
  target : Target
  types : List Dispatcher

/-- The mapping is the wanted one, and a want of no types is one of REQUEST. -/
structure Wanted.MetBy (w : Wanted) (m : Mapping) : Prop where
  filter : m.filter = w.filter
  target : m.target = w.target
  types : ∀ t, m.appliesTo t = true ↔ t ∈ w.types ∨ w.types = [] ∧ t = .request

namespace Given

def declaration : Given → Declaration
  | .filter r => .filter r
  | .mapping name target types => .mapping (.of name target types)
  | .url name pattern types => .mapping (.of name (.url pattern) (.ofList types))
  | .servlet name pattern types => .mapping (.of name (.servlet pattern) (.ofList types))

def registration? : Given → Option Registration
  | .filter r => some r
  | .mapping _ _ _ | .url _ _ _ | .servlet _ _ _ => none

def wanted? : Given → Option Wanted
  | .filter _ => none
  | .mapping name target types => some ⟨name, target, types.toList⟩
  | .url name pattern types => some ⟨name, .url pattern, types⟩
  | .servlet name pattern types => some ⟨name, .servlet pattern, types⟩

def registrations (gs : List Given) : List Registration := gs.filterMap registration?

def wanted (gs : List Given) : List Wanted := gs.filterMap wanted?

end Given

namespace Wanted

def mapping (w : Wanted) : Mapping := .of w.filter w.target (.ofList w.types)

theorem metBy_mapping (w : Wanted) : w.MetBy w.mapping := by
  refine ⟨rfl, rfl, fun t => ?_⟩
  rw [mapping, Mapping.appliesTo_of, Dispatcher.orRequest]
  cases w.types <;> simp

theorem MetBy.types_isEmpty {w : Wanted} {m : Mapping} (h : w.MetBy m) :
    m.types.isEmpty = false := by
  have happlies : ∃ t, m.appliesTo t = true := by
    cases htypes : w.types with
    | nil => exact ⟨.request, (h.types _).2 (.inr ⟨htypes, rfl⟩)⟩
    | cons t ts => exact ⟨t, (h.types _).2 (.inl (by simp [htypes]))⟩
  obtain ⟨t, ht⟩ := happlies
  rw [Bool.eq_false_iff]
  intro hempty
  have hnot : m.appliesTo t = false := DispatcherSet.isEmpty_iff.1 hempty t
  rw [ht] at hnot
  cases hnot

theorem forall₂_metBy (ws : List Wanted) : List.Forall₂ MetBy ws (ws.map mapping) :=
  List.forall₂_map_right_iff.2 (List.forall₂_same.2 fun w _ => w.metBy_mapping)

end Wanted

namespace Given

theorem mapping?_declaration (g : Given) :
    g.declaration.mapping? = g.wanted?.map Wanted.mapping := by
  cases g with
  | mapping name target types =>
    simp [declaration, wanted?, Declaration.mapping?, Wanted.mapping, DispatcherSet.ofList_toList]
  | _ => rfl

theorem filter?_declaration (g : Given) : g.declaration.filter? = g.registration? := by
  cases g <;> rfl

end Given

namespace Table

def ofGiven (gs : List Given) : Table := ofDeclarations (gs.map Given.declaration)

theorem mappings_ofGiven (gs : List Given) :
    (ofGiven gs).mappings = (Given.wanted gs).map Wanted.mapping := by
  rw [ofGiven, mappings_ofDeclarations, List.filterMap_map, Given.wanted, List.map_filterMap]
  congr 1
  funext g
  exact g.mapping?_declaration

theorem registration?_ofGiven (gs : List Given) (name : String) :
    (ofGiven gs).registration? name =
      ((Given.registrations gs).filter fun r => r.name == name).getLast? := by
  have hfilters : (gs.map Given.declaration).filterMap Declaration.filter? =
      Given.registrations gs := by
    rw [List.filterMap_map, Given.registrations]
    congr 1
    funext g
    exact g.filter?_declaration
  rw [ofGiven, registration?_ofDeclarations, hfilters, ← List.head?_filter, List.filter_reverse,
    List.head?_reverse]

theorem filterCount_ofGiven (gs : List Given) :
    (ofGiven gs).filterCount = ((Given.registrations gs).map (·.name)).dedup.length := by
  apply Registry.size_eq_length_of_nodup _ (List.nodup_dedup _)
  intro name
  have hfound := registration?_ofGiven gs name
  rw [registration?] at hfound
  rw [hfound, List.getLast?_isSome, ne_eq, List.filter_eq_nil_iff]
  simp

/-- What a table has of the declarations given for it. -/
structure Holds (t : Table) (gs : List Given) : Prop where
  mappings : List.Forall₂ Wanted.MetBy (Given.wanted gs) t.mappings
  typed : ∀ m ∈ t.mappings, m.types.isEmpty = false
  registered : ∀ name, t.registration? name =
    ((Given.registrations gs).filter fun r => r.name == name).getLast?
  named : ∀ name r, t.registration? name = some r → r.name = name
  filterCount : t.filterCount = ((Given.registrations gs).map (·.name)).dedup.length

theorem holds_ofGiven (gs : List Given) : (ofGiven gs).Holds gs where
  mappings := by
    rw [mappings_ofGiven]
    exact Wanted.forall₂_metBy _
  typed := by
    intro m hm
    rw [mappings_ofGiven] at hm
    obtain ⟨w, -, rfl⟩ := List.mem_map.1 hm
    exact w.metBy_mapping.types_isEmpty
  registered := registration?_ofGiven gs
  named _ _ h := Registry.name_of_find? h
  filterCount := filterCount_ofGiven gs

/-- It does not matter whether a filter is declared just before a mapping or just after it. -/
theorem ofGiven_swap (before after : List Given) (r : Registration) {g : Given}
    (hg : g.registration? = none) :
    ofGiven (before ++ .filter r :: g :: after) = ofGiven (before ++ g :: .filter r :: after) := by
  have hstep (t : Table) : (t.declare (.filter r)).declare g.declaration =
      (t.declare g.declaration).declare (.filter r) := by
    cases g with
    | filter r' => cases hg
    | mapping name target types => rfl
    | url name pattern types => rfl
    | servlet name pattern types => rfl
  have hfilter : (Given.filter r).declaration = .filter r := rfl
  simp only [ofGiven, ofDeclarations, List.map_append, List.map_cons, List.foldl_append,
    List.foldl_cons, hfilter, hstep]

theorem names_of_resolve {t : Table} {ps : List (Mapping × Nat)} {rs : List Registration}
    (h : t.resolve ps = .ok rs) : rs.map (·.name) = ps.map (·.1.filter) := by
  have hfound := resolve_eq_ok_iff.1 h
  rw [← List.forall₂_eq_eq_eq, List.forall₂_map_left_iff, List.forall₂_map_right_iff] at hfound ⊢
  apply hfound.imp
  intro r place hr
  exact Registry.name_of_find? hr.symm

/-- The filters of a chain bear the names that the selected mappings ask for. -/
theorem names_of_build {t : Table} {h : H} {d : Dispatch} {c : Chain H}
    (hbuild : (t.build (some h) d).value = .ok (some c)) :
    c.filters.map (·.name) = t.namesByUrl d ++ t.namesByServlet d := by
  rw [build_value, map_eq_ok_iff] at hbuild
  obtain ⟨filters, hfilters, hc⟩ := hbuild
  obtain rfl := Option.some.inj hc
  rw [← map_selected]
  exact names_of_resolve hfilters

end Table

namespace MappingEntry

/-- One mapping for each url pattern, then one for each servlet name. -/
def wanted (e : MappingEntry) : List Wanted :=
  e.urlPatterns.map (fun p => ⟨e.filter, .url p, e.types⟩)
    ++ e.servletNames.map fun n => ⟨e.filter, .servlet n, e.types⟩

theorem map_mapping_wanted (e : MappingEntry) : e.wanted.map Wanted.mapping = e.expand := by
  simp [wanted, expand, targets, Wanted.mapping, Function.comp_def]

end MappingEntry

namespace Descriptor

def wanted (c : Descriptor) : List Wanted := c.mappings.flatMap MappingEntry.wanted

def given (c : Descriptor) : List Given :=
  c.filters.map .filter ++ c.wanted.map fun w => .mapping w.filter w.target (.ofList w.types)

theorem map_mapping_wanted (c : Descriptor) : c.wanted.map Wanted.mapping = c.table.mappings := by
  rw [wanted, List.map_flatMap, mappings_table]
  simp only [MappingEntry.map_mapping_wanted]

theorem table_eq_ofGiven (c : Descriptor) : c.table = Table.ofGiven c.given := by
  rw [table, Table.ofGiven, declarations, given, List.map_append, List.map_map, List.map_map,
    ← mappings_table, ← map_mapping_wanted, List.map_map]
  rfl

theorem size_table (c : Descriptor) : c.table.size =
    (c.mappings.map fun e => e.urlPatterns.length + e.servletNames.length).sum := by
  rw [Table.size, mappings_table, List.length_flatMap]
  simp [MappingEntry.expand, MappingEntry.targets]

theorem registrations_given (c : Descriptor) : Given.registrations c.given = c.filters := by
  have hfilters : Given.registration? ∘ Given.filter = some := rfl
  have hmappings (ws : List Wanted) : ws.filterMap (Given.registration? ∘ fun w =>
      .mapping w.filter w.target (.ofList w.types)) = [] :=
    List.filterMap_eq_nil_iff.2 fun _ _ => rfl
  rw [Given.registrations, given, List.filterMap_append, List.filterMap_map, List.filterMap_map,
    hfilters, hmappings, List.filterMap_some, List.append_nil]

end Descriptor

/-- Any run of declarations makes a table that holds all that was given, and whose chains bear the
names of the selected mappings. A filter and a mapping next to each other can change places. The
table of a descriptor is made so: its filters are declared first, then for each entry the mappings
to its url patterns and to its servlet names. -/
theorem tables_hold_given :
    (∀ gs, (Table.ofGiven gs).Holds gs) ∧
    (∀ (gs : List Given) (h : H) (d : Dispatch) (c : Chain H),
      ((Table.ofGiven gs).build (some h) d).value = .ok (some c) →
        c.filters.map (·.name) =
          (Table.ofGiven gs).namesByUrl d ++ (Table.ofGiven gs).namesByServlet d) ∧
    (∀ (before after : List Given) (r : Registration) (g : Given), g.registration? = none →
      Table.ofGiven (before ++ .filter r :: g :: after) =
        Table.ofGiven (before ++ g :: .filter r :: after)) ∧
    ∀ c : Descriptor, c.table = Table.ofGiven c.given ∧
      Given.registrations c.given = c.filters ∧
      List.Forall₂ Wanted.MetBy c.wanted c.table.mappings ∧
      c.table.size = (c.mappings.map fun e => e.urlPatterns.length + e.servletNames.length).sum ∧
      c.table.filterCount = (c.filters.map (·.name)).dedup.length := by
  refine ⟨Table.holds_ofGiven, fun gs h d c => Table.names_of_build,
    fun before after r g => Table.ofGiven_swap before after r, fun c => ?_⟩
  have hcount := Table.filterCount_ofGiven c.given
  rw [← c.table_eq_ofGiven, c.registrations_given] at hcount
  refine ⟨c.table_eq_ofGiven, c.registrations_given, ?_, c.size_table, hcount⟩
  rw [← c.map_mapping_wanted]
  exact Wanted.forall₂_metBy c.wanted

namespace Table

def renewed : Registration := { trace with className := "com.example.Trace" }

/-- Filters declared after the mappings that name them, one of them twice. -/
def belated : List Given := [
  .url "Trace" "/*" [],
  .filter trace,
  .servlet "SignIn" "*" [.async, .request, .async],
  .filter signIn,
  .filter renewed]

theorem tables_hold_given_belated :
    ((ofGiven belated).registration? "Trace" = some renewed ∧ renewed.name = "Trace" ∧
      (ofGiven belated).filterCount = 2) ∧
    (((ofGiven belated).build (some "Users") usersRequest).value =
        .ok (some ⟨"Users", [renewed, signIn]⟩) ∧
      [renewed, signIn].map (·.name) =
        (ofGiven belated).namesByUrl usersRequest
          ++ (ofGiven belated).namesByServlet usersRequest) ∧
    (Given.servlet "SignIn" "*" [.async]).registration? = none ∧
      ofGiven ([] ++ .filter signIn :: .servlet "SignIn" "*" [.async] :: belated) =
        ofGiven ([] ++ .servlet "SignIn" "*" [.async] :: .filter signIn :: belated) := by
  obtain ⟨hholds, hnames, hswap, -⟩ := tables_hold_given (H := String)
  have hfound : (ofGiven belated).registration? "Trace" = some renewed := by decide
  have hbuilt : ((ofGiven belated).build (some "Users") usersRequest).value =
      .ok (some ⟨"Users", [renewed, signIn]⟩) := by decide
  refine ⟨⟨hfound, (hholds belated).named _ _ hfound, ?_⟩, ⟨hbuilt, hnames _ _ _ _ hbuilt⟩, rfl,
    hswap [] belated signIn _ rfl⟩
  rw [(hholds belated).filterCount]
  decide

end Table

end ServletFilters
