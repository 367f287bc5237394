import ServletFilters.Proofs.Declared
import ServletFilters.Proofs.TwoPasses
import ServletFilters.Proofs.Validated

/-!
Chains read off a descriptor: which filters its entries prescribe for a dispatch, and that the
builds of its table follow the prescription.
-/

namespace ServletFilters

namespace MappingEntry

def AppliesTo (e : MappingEntry) (t : Dispatcher) : Prop := t ∈ Dispatcher.orRequest e.types

instance (e : MappingEntry) : DecidablePred e.AppliesTo := fun _ => by
  unfold AppliesTo
  infer_instance

/-- The name of the filter, once for each url pattern that selects the path. -/
def prescribedByUrl (e : MappingEntry) (d : Dispatch) : List String :=
  if e.AppliesTo d.type then
    (e.urlPatterns.filter fun p => UrlPattern.selects (some p) d.path).map fun _ => e.filter
  else []

/-- The name of the filter, once for each servlet name that is a star or the servlet's own. -/
def prescribedByServlet (e : MappingEntry) (d : Dispatch) : List String :=
  if e.AppliesTo d.type then
    (e.servletNames.filter fun n => ∃ s ∈ d.servlet, n = "*" ∨ n = s).map fun _ => e.filter
  else []

theorem mem_expand {e : MappingEntry} {m : Mapping} :
    m ∈ e.expand ↔ ∃ target ∈ e.targets, m = .of e.filter target (.ofList e.types) := by
  simp [expand, eq_comm]

theorem selectsByUrl_url {e : MappingEntry} {d : Dispatch} {p : String} :
    d.SelectsByUrl (.of e.filter (.url p) (.ofList e.types)) ↔
      e.AppliesTo d.type ∧ UrlPattern.selects (some p) d.path = true := by
  constructor
  · intro h
    obtain ⟨p', hp, happlies, hselects⟩ := h
    obtain rfl : p = p' := Target.url.inj hp
    exact ⟨(Mapping.appliesTo_of ..).1 happlies, hselects⟩
  · intro h
    obtain ⟨happlies, hselects⟩ := h
    exact ⟨p, rfl, (Mapping.appliesTo_of ..).2 happlies, hselects⟩

theorem not_selectsByUrl_servlet {e : MappingEntry} {d : Dispatch} {n : String} :
    ¬ d.SelectsByUrl (.of e.filter (.servlet n) (.ofList e.types)) := by
  intro h
  obtain ⟨p, hp, -⟩ := h
  cases hp

theorem selectsByServlet_servlet {e : MappingEntry} {d : Dispatch} {n : String} :
    d.SelectsByServlet (.of e.filter (.servlet n) (.ofList e.types)) ↔
      e.AppliesTo d.type ∧ ∃ s ∈ d.servlet, n = "*" ∨ n = s := by
  have hpattern : ServletPattern.selects n d.servlet = true ↔ ∃ s ∈ d.servlet, n = "*" ∨ n = s := by
    cases d.servlet <;> simp [ServletPattern.selects]
  rw [← hpattern]
  constructor
  · intro h
    obtain ⟨n', hn, happlies, hselects⟩ := h
    obtain rfl : n = n' := Target.servlet.inj hn
    exact ⟨(Mapping.appliesTo_of ..).1 happlies, hselects⟩
  · intro h
    obtain ⟨happlies, hselects⟩ := h
    exact ⟨n, rfl, (Mapping.appliesTo_of ..).2 happlies, hselects⟩

theorem not_selectsByServlet_url {e : MappingEntry} {d : Dispatch} {p : String} :
    ¬ d.SelectsByServlet (.of e.filter (.url p) (.ofList e.types)) := by
  intro h
  obtain ⟨n, hn, -⟩ := h
  cases hn

/-- Every mapping of an entry bears the name of the entry's filter. -/
theorem map_filter_expand (e : MappingEntry) (P : Mapping → Bool) :
    (e.expand.filter P).map (·.filter) =
      (e.targets.filter fun target => P (.of e.filter target (.ofList e.types))).map
        fun _ => e.filter := by
  rw [expand, List.filter_map, List.map_map]
  rfl

theorem map_filter_byUrl (e : MappingEntry) (d : Dispatch) :
    (e.expand.filter fun m => d.SelectsByUrl m).map (·.filter) = e.prescribedByUrl d := by
  rw [map_filter_expand, prescribedByUrl, targets, List.filter_append, List.filter_map,
    List.filter_map]
  by_cases happlies : e.AppliesTo d.type
  · simp [happlies, Function.comp_def, selectsByUrl_url, not_selectsByUrl_servlet]
  · simp [happlies, Function.comp_def, selectsByUrl_url, not_selectsByUrl_servlet]

theorem map_filter_byServlet (e : MappingEntry) (d : Dispatch) :
    (e.expand.filter fun m => d.SelectsByServlet m).map (·.filter) =
      e.prescribedByServlet d := by
  rw [map_filter_expand, prescribedByServlet, targets, List.filter_append, List.filter_map,
    List.filter_map]
  by_cases happlies : e.AppliesTo d.type
  · simp [happlies, Function.comp_def, selectsByServlet_servlet, not_selectsByServlet_url]
  · simp [happlies, Function.comp_def, selectsByServlet_servlet, not_selectsByServlet_url]

end MappingEntry

namespace Table

theorem mem_places {t : Table} {P : Mapping → Prop} [DecidablePred P] {m : Mapping}
    (hm : m ∈ t.mappings) (hP : P m) : ∃ i, (m, i) ∈ t.places P := by
  have hmem : m ∈ (t.places P).map Prod.fst := by
    rw [map_places]
    exact List.mem_filter.2 ⟨hm, by simpa using hP⟩
  obtain ⟨⟨m', i⟩, hplace, rfl⟩ := List.mem_map.1 hmem
  exact ⟨i, hplace⟩

end Table

namespace Descriptor

/-- Filters by url stand before filters by servlet name, each in the order of the entries. -/
def prescribed (c : Descriptor) (d : Dispatch) : List String :=
  c.mappings.flatMap (·.prescribedByUrl d) ++ c.mappings.flatMap (·.prescribedByServlet d)

theorem map_selected_table (c : Descriptor) (d : Dispatch) :
    (c.table.selected d).map (·.1.filter) = c.prescribed d := by
  have hnames (P : Mapping → Prop) [DecidablePred P] :
      (c.table.places P).map (·.1.filter) =
        c.mappings.flatMap fun e => (e.expand.filter fun m => P m).map (·.filter) := by
    have h := congrArg (List.map (·.filter)) (Table.map_places c.table P)
    rw [List.map_map, mappings_table, List.filter_flatMap, List.map_flatMap] at h
    exact h
  rw [Table.selected, List.map_append, hnames, hnames, prescribed]
  simp only [MappingEntry.map_filter_byUrl, MappingEntry.map_filter_byServlet]

theorem exists_entry_of_mem_selected {c : Descriptor} {d : Dispatch} {place : Mapping × Nat}
    (h : place ∈ c.table.selected d) :
    ∃ e ∈ c.mappings, e.targets ≠ [] ∧ place.1.filter = e.filter := by
  have hmapping := Table.mem_mappings_of_mem_selected h
  rw [mappings_table] at hmapping
  obtain ⟨e, he, hexpand⟩ := List.mem_flatMap.1 hmapping
  obtain ⟨target, htarget, hplace⟩ := MappingEntry.mem_expand.1 hexpand
  exact ⟨e, he, List.ne_nil_of_mem htarget, by rw [hplace]; rfl⟩

theorem registration?_table_eq_some_iff {c : Descriptor}
    (hdistinct : (c.filters.map (·.name)).Nodup) {name : String} {r : Registration} :
    c.table.registration? name = some r ↔ r ∈ c.filters ∧ r.name = name := by
  have hreverse : (c.filters.reverse.map (·.name)).Nodup := by
    rwa [List.map_reverse, List.nodup_reverse]
  rw [registration?_table, find?_name_eq_some_iff hreverse, List.mem_reverse]

/-- Under distinct names the table knows a name exactly when one filter bears it. -/
theorem toList_registration? {c : Descriptor} (hdistinct : (c.filters.map (·.name)).Nodup)
    (name : String) :
    (c.table.registration? name).toList = c.filters.filter fun r => r.name == name := by
  by_cases hname : ∃ r ∈ c.filters, r.name = name
  · obtain ⟨r, hr, rfl⟩ := hname
    rw [(registration?_table_eq_some_iff hdistinct).2 ⟨hr, rfl⟩, filter_name_eq_singleton hdistinct hr]
    rfl
  · have hnone : ∀ r ∈ c.filters, r.name ≠ name := fun r hr h => hname ⟨r, hr, h⟩
    rw [registration?_table_eq_none_iff.2 hnone, Option.toList_none, eq_comm,
      List.filter_eq_nil_iff]
    intro r hr
    simpa using hnone r hr

theorem resolve_of_consistent {c : Descriptor} (hc : c.Consistent) (d : Dispatch) :
    ∃ filters, c.table.resolve (c.table.selected d) = .ok filters := by
  cases hresolve : c.table.resolve (c.table.selected d) with
  | ok filters => exact ⟨filters, rfl⟩
  | error missing =>
    obtain ⟨place, hplace, hnone⟩ := Table.exists_resolve_error_iff.1 ⟨missing, hresolve⟩
    obtain ⟨e, he, -, hfilter⟩ := exists_entry_of_mem_selected hplace
    obtain ⟨r, hr, hname⟩ := List.mem_map.1 (hc.declared e he)
    exact absurd (hname.trans hfilter.symm) (registration?_table_eq_none_iff.1 hnone r hr)

theorem build_of_consistent {c : Descriptor} (hc : c.Consistent) (h : H) (d : Dispatch) :
    ∃ filters, (c.table.build (some h) d).value = .ok (some ⟨h, filters⟩) ∧
      filters.map (fun r => [r]) =
        (c.prescribed d).map fun name => c.filters.filter fun r => r.name == name := by
  obtain ⟨filters, hresolve⟩ := resolve_of_consistent hc d
  refine ⟨filters, ?_, ?_⟩
  · rw [Table.build_value, hresolve]
    rfl
  · have hsome := congrArg (List.map Option.toList) (Table.resolve_eq_ok_iff.1 hresolve)
    rw [List.map_map, List.map_map] at hsome
    rw [← map_selected_table, List.map_map]
    apply hsome.trans
    apply List.map_congr_left
    intro place _
    exact toList_registration? hc.distinct place.1.filter

/-- A dispatch straight to one target of an entry, of a type that the entry applies to. -/
def straightTo (e : MappingEntry) : Target → Dispatch
  | .url p => ⟨some p, none, e.types.headD .request⟩
  | .servlet n => ⟨none, some n, e.types.headD .request⟩

theorem mem_selected_straightTo {c : Descriptor} {e : MappingEntry} (he : e ∈ c.mappings)
    {target : Target} (htarget : target ∈ e.targets) :
    ∃ i, (.of e.filter target (.ofList e.types), i) ∈ c.table.selected (straightTo e target) := by
  have hmapping : .of e.filter target (.ofList e.types) ∈ c.table.mappings := by
    rw [mappings_table]
    exact List.mem_flatMap.2 ⟨e, he, MappingEntry.mem_expand.2 ⟨target, htarget, rfl⟩⟩
  have happlies : e.AppliesTo (e.types.headD .request) := by
    unfold MappingEntry.AppliesTo Dispatcher.orRequest
    cases e.types <;> simp
  cases target with
  | url p =>
    have hself : UrlPattern.selects (some p) (some p) = true := by
      simp [UrlPattern.selects, UrlPattern.selectsChars]
    obtain ⟨i, hi⟩ := Table.mem_places (P := (straightTo e (.url p)).SelectsByUrl) hmapping
      (MappingEntry.selectsByUrl_url.2 ⟨happlies, hself⟩)
    exact ⟨i, List.mem_append_left _ hi⟩
  | servlet n =>
    obtain ⟨i, hi⟩ := Table.mem_places (P := (straightTo e (.servlet n)).SelectsByServlet) hmapping
      (MappingEntry.selectsByServlet_servlet.2 ⟨happlies, n, rfl, .inr rfl⟩)
    exact ⟨i, List.mem_append_right _ hi⟩

theorem exists_build_error_iff (c : Descriptor) (h : H) :
    (∃ d missing, (c.table.build (some h) d).value = .error missing) ↔
      ∃ e ∈ c.mappings, e.targets ≠ [] ∧ ∀ r ∈ c.filters, r.name ≠ e.filter := by
  simp only [Table.build_value, map_eq_error_iff, Table.exists_resolve_error_iff]
  constructor
  · intro hfails
    obtain ⟨d, place, hplace, hnone⟩ := hfails
    obtain ⟨e, he, htargets, hfilter⟩ := exists_entry_of_mem_selected hplace
    rw [hfilter, registration?_table_eq_none_iff] at hnone
    exact ⟨e, he, htargets, hnone⟩
  · intro hentry
    obtain ⟨e, he, htargets, hnone⟩ := hentry
    -- a dispatch straight to a target of the entry selects its mapping
    obtain ⟨target, htarget⟩ := List.exists_mem_of_ne_nil _ htargets
    obtain ⟨i, hi⟩ := mem_selected_straightTo he htarget
    exact ⟨straightTo e target, _, hi, registration?_table_eq_none_iff.2 hnone⟩

/-- A checked descriptor never fails a build, and its chains hold the filters that its entries
prescribe, each the only one declared under its name. Checked or not, some build fails exactly when
an entry with a target names no declared filter. -/
theorem build_prescribed (c : Descriptor) :
    (c.validate = .ok () → ∀ (h : H) (d : Dispatch),
      ∃ filters, (c.table.build (some h) d).value = .ok (some ⟨h, filters⟩) ∧
        filters.map (fun r => [r]) =
          (c.prescribed d).map fun name => c.filters.filter fun r => r.name == name) ∧
    ∀ h : H, (∃ d missing, (c.table.build (some h) d).value = .error missing) ↔
      ∃ e ∈ c.mappings, e.targets ≠ [] ∧ ∀ r ∈ c.filters, r.name ≠ e.filter :=
  ⟨fun hvalid => build_of_consistent (consistent_of_validate hvalid), exists_build_error_iff c⟩

def audit : Registration := ⟨"Audit", "com.example.AuditFilter", .ofList [("realm", "users")], true⟩

def gzip : Registration := ⟨"Gzip", "", .empty, false⟩

/-- The first entry takes part in both passes; the second one applies to REQUEST by default. -/
def audited : Descriptor where
  filters := [audit, gzip]
  mappings := [
    ⟨"Audit", ["/api/*"], ["Api"], [.request, .async]⟩,
    ⟨"Gzip", ["*.json"], [], []⟩]

theorem build_prescribed_audited :
    audited.validate = .ok () ∧
      ∃ filters,
        (audited.table.build (some "Api") ⟨some "/api/users.json", some "Api", .request⟩).value =
          .ok (some ⟨"Api", filters⟩) ∧
        filters.map (fun r => [r]) = [[audit], [gzip], [audit]] := by
  have hvalid : audited.validate = .ok () := by decide
  obtain ⟨filters, hbuild, hfilters⟩ := (build_prescribed audited).1 hvalid "Api"
    ⟨some "/api/users.json", some "Api", .request⟩
  refine ⟨hvalid, filters, hbuild, hfilters.trans ?_⟩
  decide

end Descriptor

end ServletFilters
