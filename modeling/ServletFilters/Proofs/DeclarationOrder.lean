import ServletFilters.Proofs.Prescribed
import ServletFilters.Proofs.SelectedOnly

/-!
In a checked descriptor filters and servlets may be declared in any order, and the dispatcher types
of an entry listed in any order and more than once. In an unchecked one the order can matter: of two
filters under one name the last counts, of two servlets the first.
-/

namespace ServletFilters

variable {H : Type}

theorem exists_left_of_forall₂ {α β : Type} {R : α → β → Prop} {xs : List α} {ys : List β}
    (h : List.Forall₂ R xs ys) {y : β} (hy : y ∈ ys) : ∃ x ∈ xs, R x y := by
  induction h with
  | nil => cases hy
  | @cons x y' xs ys hxy _ ih =>
    rcases List.mem_cons.1 hy with rfl | hy
    · exact ⟨x, List.mem_cons_self, hxy⟩
    · obtain ⟨x, hx, hxy⟩ := ih hy
      exact ⟨x, List.mem_cons_of_mem _ hx, hxy⟩

namespace MappingEntry

/-- The same entry up to the order and repetition of its dispatcher types. -/
structure SameUpToTypes (e e' : MappingEntry) : Prop where
  filter : e'.filter = e.filter
  urlPatterns : e'.urlPatterns = e.urlPatterns
  servletNames : e'.servletNames = e.servletNames
  types : ∀ t, t ∈ e'.types ↔ t ∈ e.types

namespace SameUpToTypes

variable {e e' : MappingEntry}

theorem refl (e : MappingEntry) : e.SameUpToTypes e := ⟨rfl, rfl, rfl, fun _ => Iff.rfl⟩

theorem targets (h : e.SameUpToTypes e') : e'.targets = e.targets := by
  rw [MappingEntry.targets, h.urlPatterns, h.servletNames, MappingEntry.targets]

theorem expand (h : e.SameUpToTypes e') : e'.expand = e.expand := by
  have htypes : DispatcherSet.ofList e'.types = DispatcherSet.ofList e.types := by
    apply DispatcherSet.eq_of_contains_eq
    intro t
    rw [DispatcherSet.contains_ofList, DispatcherSet.contains_ofList]
    exact decide_eq_decide.2 (h.types t)
  rw [MappingEntry.expand, h.targets, h.filter, htypes, MappingEntry.expand]

end SameUpToTypes

end MappingEntry

namespace Descriptor

/-- The same filters and servlets in another order, with the same sequence of mapping entries. The
settings for logging are left open. -/
structure Reordered (c c' : Descriptor) : Prop where
  filters : c'.filters.Perm c.filters
  servlets : c'.servlets.Perm c.servlets
  mappings : List.Forall₂ MappingEntry.SameUpToTypes c.mappings c'.mappings

namespace Reordered

variable {c c' : Descriptor}

theorem mappings_table (h : c.Reordered c') : c'.table.mappings = c.table.mappings := by
  have hexpand : c'.mappings.map MappingEntry.expand = c.mappings.map MappingEntry.expand := by
    apply Eq.symm
    rw [← List.forall₂_eq_eq_eq, List.forall₂_map_left_iff, List.forall₂_map_right_iff]
    apply h.mappings.imp
    intro e e' he
    exact he.expand.symm
  rw [Descriptor.mappings_table, Descriptor.mappings_table, List.flatMap_def, List.flatMap_def,
    hexpand]

theorem wellFormed (h : c.Reordered c') (hc : c.WellFormed) : c'.WellFormed where
  filtersNamed f hf := hc.filtersNamed f (h.filters.mem_iff.1 hf)
  filtersDistinct := ((h.filters.map (·.name)).nodup_iff).2 hc.filtersDistinct
  servletsNamed s hs := hc.servletsNamed s (h.servlets.mem_iff.1 hs)
  servletsDistinct := ((h.servlets.map (·.name)).nodup_iff).2 hc.servletsDistinct
  servletPatterns s hs := hc.servletPatterns s (h.servlets.mem_iff.1 hs)
  mappings e' he' := by
    obtain ⟨e, he, hsame⟩ := exists_left_of_forall₂ h.mappings he'
    obtain ⟨hdeclared, htargets, hpatterns⟩ := hc.mappings e he
    have hnames : (declaredNames c'.filters).Perm (declaredNames c.filters) := by
      unfold declaredNames
      exact (h.filters.map _).filter _
    rw [hsame.filter, hsame.targets, hsame.urlPatterns, hnames.mem_iff]
    exact ⟨hdeclared, htargets, hpatterns⟩

theorem servlet? (h : c.Reordered c') (hc : c.WellFormed) (name : String) :
    c'.servlet? name = c.servlet? name := by
  apply Option.ext
  intro s
  rw [Descriptor.servlet?, find?_name_eq_some_iff (h.wellFormed hc).servletsDistinct,
    Descriptor.servlet?, find?_name_eq_some_iff hc.servletsDistinct, h.servlets.mem_iff]

theorem registration? (h : c.Reordered c') (hc : c.WellFormed) (name : String) :
    c'.table.registration? name = c.table.registration? name := by
  apply Option.ext
  intro r
  rw [registration?_table_eq_some_iff (h.wellFormed hc).filtersDistinct,
    registration?_table_eq_some_iff hc.filtersDistinct, h.filters.mem_iff]

theorem filterCount (h : c.Reordered c') (hc : c.WellFormed) :
    c'.table.filterCount = c.table.filterCount :=
  Registry.size_eq_of_isSome_find?_eq fun name => congrArg Option.isSome (h.registration? hc name)

end Reordered

/-- Any filter can be declared so that its name stands for it: after all others. -/
theorem exists_reordered_registration? {c : Descriptor} {r : Registration} (hr : r ∈ c.filters) :
    ∃ c', c.Reordered c' ∧ c'.table.registration? r.name = some r := by
  refine ⟨{ c with filters := c.filters.erase r ++ [r] }, ⟨?_, .refl _, ?_⟩, ?_⟩
  · exact (List.perm_append_singleton r _).trans (List.perm_cons_erase hr).symm
  · exact List.forall₂_same.2 fun e _ => .refl e
  · simp [registration?_table]

/-- Any servlet can be declared so that it is found under its name: before all others. -/
theorem exists_reordered_servlet? {c : Descriptor} {s : Servlet} (hs : s ∈ c.servlets) :
    ∃ c', c.Reordered c' ∧ c'.servlet? s.name = some s := by
  refine ⟨{ c with servlets := s :: c.servlets.erase s }, ⟨.refl _, ?_, ?_⟩, ?_⟩
  · exact (List.perm_cons_erase hs).symm
  · exact List.forall₂_same.2 fun e _ => .refl e
  · simp [Descriptor.servlet?]

/-- Of two reorderings that answer differently one differs from any given answer. -/
theorem exists_answer_ne {α : Type} {P : Descriptor → Prop} {answer : Descriptor → Option α}
    {a b : α} (ha : ∃ c, P c ∧ answer c = some a) (hb : ∃ c, P c ∧ answer c = some b)
    (hne : a ≠ b) (given : Option α) : ∃ c, P c ∧ answer c ≠ given := by
  obtain ⟨c, hc, ha⟩ := ha
  obtain ⟨c', hc', hb⟩ := hb
  by_cases hgiven : given = some a
  · refine ⟨c', hc', ?_⟩
    rw [hb, hgiven]
    exact fun heq => hne (Option.some.inj heq).symm
  · refine ⟨c, hc, ?_⟩
    rw [ha]
    exact fun heq => hgiven heq.symm

/-- Reordering the declarations of a checked descriptor changes neither its check nor its servlets
nor its table, and so no build. Without the check it does: two different filters of one name can be
declared so that the name stands for another one than before, and likewise for servlets. -/
theorem order_immaterial (c : Descriptor) :
    (c.validate = .ok () → ∀ c', c.Reordered c' →
      c'.validate = .ok () ∧
      (∀ name, c'.servlet? name = c.servlet? name) ∧
      c'.table.mappings = c.table.mappings ∧
      (∀ name, c'.table.registration? name = c.table.registration? name) ∧
      c'.table.filterCount = c.table.filterCount ∧
      ∀ (handler : Option H) (d : Dispatch),
        c'.table.build handler d = c.table.build handler d) ∧
    (∀ r ∈ c.filters, ∀ r' ∈ c.filters, r.name = r'.name → r ≠ r' →
      ∃ c', c.Reordered c' ∧ c'.table.registration? r.name ≠ c.table.registration? r.name) ∧
    ∀ s ∈ c.servlets, ∀ s' ∈ c.servlets, s.name = s'.name → s ≠ s' →
      ∃ c', c.Reordered c' ∧ c'.servlet? s.name ≠ c.servlet? s.name := by
  refine ⟨?_, ?_, ?_⟩
  · intro hvalid c' h
    have hc := validate_eq_ok_iff.1 hvalid
    exact ⟨validate_eq_ok_iff.2 (h.wellFormed hc), h.servlet? hc, h.mappings_table,
      h.registration? hc, h.filterCount hc,
      Table.build_congr h.mappings_table (h.registration? hc)⟩
  · intro r hr r' hr' hname hne
    have hsecond := exists_reordered_registration? hr'
    rw [← hname] at hsecond
    exact exists_answer_ne (exists_reordered_registration? hr) hsecond hne _
  · intro s hs s' hs' hname hne
    have hsecond := exists_reordered_servlet? hs'
    rw [← hname] at hsecond
    exact exists_answer_ne (exists_reordered_servlet? hs) hsecond hne _

def site : Descriptor where
  filters := [audit, gzip]
  servlets := [⟨"Api", "com.example.Api", ["/api/*"], true⟩, ⟨"Pages", "", ["/", "*.html"], false⟩]
  mappings := [
    ⟨"Audit", ["/api/*"], ["Api"], [.request, .async]⟩,
    ⟨"Gzip", ["*.json"], ["*"], []⟩]

def shuffledSite : Descriptor where
  filters := [gzip, audit]
  servlets := [⟨"Pages", "", ["/", "*.html"], false⟩, ⟨"Api", "com.example.Api", ["/api/*"], true⟩]
  mappings := [
    ⟨"Audit", ["/api/*"], ["Api"], [.async, .request, .async]⟩,
    ⟨"Gzip", ["*.json"], ["*"], []⟩]

/-- Its second filter takes the place of the first. -/
def doubled : Descriptor where
  filters := [audit, { gzip with name := "Audit" }]
  servlets := [⟨"Api", "com.example.Api", [], true⟩, ⟨"Api", "", [], false⟩]

theorem order_immaterial_site :
    (site.validate = .ok () ∧ site.Reordered shuffledSite ∧ shuffledSite.validate = .ok () ∧
      shuffledSite.servlet? "Pages" = site.servlet? "Pages" ∧
      shuffledSite.table.registration? "Audit" = site.table.registration? "Audit" ∧
      ∀ d, shuffledSite.table.build (some "Api") d = site.table.build (some "Api") d) ∧
    (∃ c', doubled.Reordered c' ∧
      c'.table.registration? "Audit" ≠ doubled.table.registration? "Audit") ∧
    ∃ c', doubled.Reordered c' ∧ c'.servlet? "Api" ≠ doubled.servlet? "Api" := by
  have hvalid : site.validate = .ok () := by decide
  have hreordered : site.Reordered shuffledSite := by
    refine ⟨.swap _ _ _, .swap _ _ _, .cons ⟨rfl, rfl, rfl, ?_⟩ (.cons (.refl _) .nil)⟩
    intro t
    cases t <;> decide
  obtain ⟨hvalid', hservlet, -, hregistration, -, hbuild⟩ :=
    (order_immaterial site).1 hvalid shuffledSite hreordered
  refine ⟨⟨hvalid, hreordered, hvalid', hservlet "Pages", hregistration "Audit",
    fun d => hbuild (some "Api") d⟩, ?_, ?_⟩
  · exact (order_immaterial (H := String) doubled).2.1 audit (by decide)
      { gzip with name := "Audit" } (by decide) rfl (by decide)
  · exact (order_immaterial (H := String) doubled).2.2 ⟨"Api", "com.example.Api", [], true⟩
      (by decide) ⟨"Api", "", [], false⟩ (by decide) rfl (by decide)

end Descriptor

end ServletFilters
