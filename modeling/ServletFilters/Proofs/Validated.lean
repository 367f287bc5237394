import Mathlib.Data.List.Nodup
import ServletFilters.Descriptor.Violation

/-!
What a descriptor without violations promises to the table made of it: each name is declared once,
and the mappings name declared filters.
-/

namespace ServletFilters.Descriptor

/-- Later names avoid this one exactly when this one is not among them. -/
theorem forall_fresh_cons_iff {α : Type} {name : α → String} {xs : List α} {n : String}
    {seen : List String} :
    (∀ x ∈ xs, name x ≠ "" ∧ name x ∉ n :: seen) ↔
      (∀ x ∈ xs, name x ≠ "" ∧ name x ∉ seen) ∧ n ∉ xs.map name := by
  constructor
  · intro h
    constructor
    · intro x hx
      exact ⟨(h x hx).1, fun hs => (h x hx).2 (List.mem_cons_of_mem _ hs)⟩
    · intro hmem
      obtain ⟨x, hx, hname⟩ := List.mem_map.1 hmem
      exact (h x hx).2 (hname ▸ List.mem_cons_self)
  · intro h x hx
    obtain ⟨h, hnot⟩ := h
    refine ⟨(h x hx).1, fun hs => ?_⟩
    rcases List.mem_cons.1 hs with hname | hs
    · exact hnot (hname ▸ List.mem_map_of_mem hx)
    · exact (h x hx).2 hs

theorem filterViolations_eq_nil_iff (i : Nat) (seen : List String) (fs : List Registration) :
    filterViolations i seen fs = [] ↔
      (∀ f ∈ fs, f.name ≠ "" ∧ f.name ∉ seen) ∧ (fs.map (·.name)).Nodup := by
  induction fs generalizing i seen with
  | nil => simp [filterViolations]
  | cons f fs ih =>
    rw [filterViolations, List.map_cons, List.nodup_cons, List.forall_mem_cons]
    by_cases hempty : f.name = ""
    · simp [hempty]
    · by_cases hseen : f.name ∈ seen
      · simp [hempty, hseen]
      · simp only [String.isEmpty_iff, hempty, List.contains_iff_mem, hseen, if_false, ih,
          forall_fresh_cons_iff, ne_eq, not_false_eq_true, and_self, true_and, and_assoc]

theorem servletViolations_eq_nil_iff (i : Nat) (seen : List String) (ss : List Servlet) :
    servletViolations i seen ss = [] ↔
      ((∀ s ∈ ss, s.name ≠ "" ∧ s.name ∉ seen) ∧ (ss.map (·.name)).Nodup) ∧
        ∀ s ∈ ss, invalidPatterns s.urlPatterns = [] := by
  induction ss generalizing i seen with
  | nil => simp [servletViolations]
  | cons s ss ih =>
    rw [servletViolations, List.map_cons, List.nodup_cons, List.forall_mem_cons,
      List.forall_mem_cons]
    by_cases hempty : s.name = ""
    · simp [hempty]
    · by_cases hseen : s.name ∈ seen
      · simp [hempty, hseen]
      · simp only [String.isEmpty_iff, hempty, List.contains_iff_mem, hseen, if_false,
          List.append_eq_nil_iff, List.map_eq_nil_iff, ih, forall_fresh_cons_iff, ne_eq,
          not_false_eq_true, and_self, true_and]
        constructor
        · rintro ⟨hpatterns, ⟨⟨hnames, hnew⟩, hdistinct⟩, hrest⟩
          exact ⟨⟨hnames, hnew, hdistinct⟩, hpatterns, hrest⟩
        · rintro ⟨⟨hnames, hnew, hdistinct⟩, hpatterns, hrest⟩
          exact ⟨hpatterns, ⟨⟨hnames, hnew⟩, hdistinct⟩, hrest⟩

theorem entryViolations_eq_nil_iff (declared : List String) (i : Nat) (e : MappingEntry) :
    entryViolations declared i e = [] ↔
      e.filter ∈ declared ∧ e.targets ≠ [] ∧ invalidPatterns e.urlPatterns = [] := by
  unfold entryViolations MappingEntry.targets
  by_cases hdeclared : e.filter ∈ declared <;> simp [hdeclared]

theorem mappingViolations_eq_nil_iff (declared : List String) (i : Nat)
    (es : List MappingEntry) :
    mappingViolations declared i es = [] ↔
      ∀ e ∈ es, e.filter ∈ declared ∧ e.targets ≠ [] ∧ invalidPatterns e.urlPatterns = [] := by
  induction es generalizing i with
  | nil => simp [mappingViolations]
  | cons e es ih =>
    rw [mappingViolations, List.append_eq_nil_iff, entryViolations_eq_nil_iff, ih,
      List.forall_mem_cons]

/-- What the check asks of a descriptor. -/
structure WellFormed (c : Descriptor) : Prop where
  filtersNamed : ∀ f ∈ c.filters, f.name ≠ ""
  filtersDistinct : (c.filters.map (·.name)).Nodup
  servletsNamed : ∀ s ∈ c.servlets, s.name ≠ ""
  servletsDistinct : (c.servlets.map (·.name)).Nodup
  servletPatterns : ∀ s ∈ c.servlets, invalidPatterns s.urlPatterns = []
  mappings : ∀ e ∈ c.mappings,
    e.filter ∈ declaredNames c.filters ∧ e.targets ≠ [] ∧ invalidPatterns e.urlPatterns = []

theorem violations_eq_nil_iff {c : Descriptor} : c.violations = [] ↔ c.WellFormed := by
  rw [violations, List.append_eq_nil_iff, List.append_eq_nil_iff, filterViolations_eq_nil_iff,
    servletViolations_eq_nil_iff, mappingViolations_eq_nil_iff]
  simp only [List.not_mem_nil, not_false_eq_true, and_true]
  constructor
  · rintro ⟨⟨⟨hnamed, hdistinct⟩, ⟨hnamed', hdistinct'⟩, hpatterns⟩, hmappings⟩
    exact ⟨hnamed, hdistinct, hnamed', hdistinct', hpatterns, hmappings⟩
  · intro h
    exact ⟨⟨⟨h.filtersNamed, h.filtersDistinct⟩, ⟨h.servletsNamed, h.servletsDistinct⟩,
      h.servletPatterns⟩, h.mappings⟩

theorem validate_eq_ok_iff {c : Descriptor} : c.validate = .ok () ↔ c.WellFormed := by
  rw [← violations_eq_nil_iff, validate, ← List.isEmpty_iff]
  split
  · rename_i hempty
    simp [hempty]
  · rename_i hviolations
    simp [hviolations]

/-- Enough of validity for builds to succeed. -/
structure Consistent (c : Descriptor) : Prop where
  distinct : (c.filters.map (·.name)).Nodup
  declared : ∀ e ∈ c.mappings, e.filter ∈ c.filters.map (·.name)

theorem consistent_of_validate {c : Descriptor} (h : c.validate = .ok ()) : c.Consistent := by
  have hc := validate_eq_ok_iff.1 h
  refine ⟨hc.filtersDistinct, ?_⟩
  intro e he
  exact (List.mem_filter.1 (hc.mappings e he).1).1

/-- Under distinct names whatever bears a name is the only one to bear it. -/
theorem filter_name_eq_singleton {α : Type} {name : α → String} {xs : List α}
    (hdistinct : (xs.map name).Nodup) {x : α} (hx : x ∈ xs) :
    (xs.filter fun y => name y == name x) = [x] := by
  induction xs with
  | nil => cases hx
  | cons y ys ih =>
    rw [List.map_cons, List.nodup_cons] at hdistinct
    obtain ⟨hnew, hdistinct⟩ := hdistinct
    rcases List.mem_cons.1 hx with rfl | hx
    · have hnone : (ys.filter fun y => name y == name x) = [] := by
        rw [List.filter_eq_nil_iff]
        intro z hz hname
        exact hnew (beq_iff_eq.1 hname ▸ List.mem_map_of_mem hz)
      rw [List.filter_cons, hnone]
      simp
    · have hne : name y ≠ name x := fun hname => hnew (hname ▸ List.mem_map_of_mem hx)
      rw [List.filter_cons, ih hdistinct hx]
      simp [hne]

theorem find?_name_eq_some_iff {α : Type} {name : α → String} {xs : List α}
    (hdistinct : (xs.map name).Nodup) {n : String} {x : α} :
    (xs.find? fun y => name y == n) = some x ↔ x ∈ xs ∧ name x = n := by
  constructor
  · intro h
    exact ⟨List.mem_of_find?_eq_some h, by simpa using List.find?_some h⟩
  · rintro ⟨hx, rfl⟩
    rw [← List.head?_filter, filter_name_eq_singleton hdistinct hx]
    rfl

end ServletFilters.Descriptor
