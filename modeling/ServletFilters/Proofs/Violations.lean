import Mathlib.Data.List.Count
import Mathlib.Data.List.Induction
import ServletFilters.Proofs.Judgement

/-!
What the check accepts and what it reports: it accepts the descriptors that meet all conditions, and
of any other it reports every violation exactly as often as it occurs, each at its place.
-/

namespace ServletFilters.Descriptor
open UrlPattern

section Counting

variable {α : Type} {judge : List α → α → List Violation}

/-- What can be reported of one index only is reported as often as its item asks. -/
theorem count_reports_at {v : Violation} {i : Nat} (times : α → Nat)
    (hjudge : ∀ earlier x, (judge earlier x).count v = if earlier.length = i then times x else 0)
    (xs : List α) : (reports judge xs).count v = xs[i]?.elim 0 times := by
  induction xs using List.reverseRecOn with
  | nil => rfl
  | append_singleton xs x ih =>
    rw [reports_concat, List.count_append, ih, hjudge]
    rcases Nat.lt_trichotomy i xs.length with hlt | rfl | hgt
    · rw [List.getElem?_append_left hlt, if_neg (Nat.ne_of_gt hlt), Nat.add_zero]
    · simp
    · have hend : (xs ++ [x])[i]? = none := by
        apply List.getElem?_eq_none
        rw [List.length_append, List.length_singleton]
        exact hgt
      rw [hend, List.getElem?_eq_none (Nat.le_of_lt hgt), if_neg (Nat.ne_of_lt hgt)]
      rfl

theorem count_reports_once {v : Violation} {i : Nat} (P : α → Prop) [DecidablePred P]
    (hjudge : ∀ earlier x, (judge earlier x).count v = if earlier.length = i ∧ P x then 1 else 0)
    (xs : List α) : (reports judge xs).count v = if ∃ x ∈ xs[i]?, P x then 1 else 0 := by
  rw [count_reports_at (fun x => if P x then 1 else 0)]
  · cases xs[i]? <;> simp
  · intro earlier x
    rw [hjudge, ite_and]

theorem count_reports_eq_zero {v : Violation} (hjudge : ∀ earlier x, (judge earlier x).count v = 0)
    (xs : List α) : (reports judge xs).count v = 0 := by
  rw [reports, List.count_flatMap, List.sum_eq_zero_iff_forall_eq_nat]
  intro n hn
  obtain ⟨place, -, rfl⟩ := List.mem_map.1 hn
  exact hjudge _ _

/-- Of all items under one name the first is the only one that repeats none. -/
theorem count_reports_again {v : Violation} {n : String} (name : α → String)
    (hjudge : ∀ earlier x, (judge earlier x).count v =
      if name x = n ∧ name x ≠ "" ∧ name x ∈ earlier.map name then 1 else 0) (xs : List α) :
    (reports judge xs).count v = if n = "" then 0 else (xs.map name).count n - 1 := by
  induction xs using List.reverseRecOn with
  | nil => simp [reports]
  | append_singleton xs x ih =>
    rw [reports_concat, List.count_append, ih, hjudge, List.map_append, List.count_append,
      List.map_singleton, List.count_singleton]
    by_cases hx : name x = n
    · subst hx
      by_cases hempty : name x = ""
      · simp [hempty]
      by_cases hmem : name x ∈ xs.map name
      · have hpos : 0 < (xs.map name).count (name x) := List.count_pos_iff.2 hmem
        simp only [hempty, hmem, if_false, if_true, ne_eq, not_false_eq_true, and_self,
          beq_self_eq_true]
        omega
      · simp [hempty, hmem, List.count_eq_zero.2 hmem]
    · simp [hx]

end Counting

theorem count_reportIf (wrong : Prop) [Decidable wrong] (v w : Violation) :
    (reportIf wrong v).count w = if v = w ∧ wrong then 1 else 0 := by
  unfold reportIf
  split <;> simp [List.count_singleton, *]

/-- How often a violation has to be reported. -/
def occasions (c : Descriptor) : Violation → Nat
  | .emptyFilterName i => if ∃ f ∈ c.filters[i]?, f.name = "" then 1 else 0
  | .emptyServletName i => if ∃ s ∈ c.servlets[i]?, s.name = "" then 1 else 0
  | .duplicateFilter n => if n = "" then 0 else (c.filters.map (·.name)).count n - 1
  | .duplicateServlet n => if n = "" then 0 else (c.servlets.map (·.name)).count n - 1
  | .unknownFilter i n =>
    if ∃ e ∈ c.mappings[i]?, e.filter = n ∧ ¬ c.Declares e.filter then 1 else 0
  | .emptyMapping i n =>
    if ∃ e ∈ c.mappings[i]?, e.filter = n ∧ e.urlPatterns = [] ∧ e.servletNames = [] then 1 else 0
  | .invalidMappingPattern i p =>
    if Kind.classify p = .invalid then (c.mappings[i]?.elim [] (·.urlPatterns)).count p else 0
  | .invalidServletPattern n p =>
    if Kind.classify p = .invalid then
      ((c.servlets.filter fun s => s.name = n).flatMap (·.urlPatterns)).count p
    else 0

theorem count_judgeName (empty again : Violation) (earlier : List String) (name : String)
    (v : Violation) :
    (judgeName empty again earlier name).count v =
      (if empty = v ∧ name = "" then 1 else 0) +
        if again = v ∧ name ≠ "" ∧ name ∈ earlier then 1 else 0 := by
  rw [judgeName, List.count_append, count_reportIf, count_reportIf]

theorem count_judgePatterns {invalid : String → Violation} (hinj : Function.Injective invalid)
    (patterns : List String) (p : String) :
    (judgePatterns invalid patterns).count (invalid p) =
      if Kind.classify p = .invalid then patterns.count p else 0 := by
  rw [judgePatterns, List.count_map_of_injective _ _ hinj]
  by_cases hp : Kind.classify p = .invalid
  · rw [if_pos hp, List.count_filter (by simpa using hp)]
  · rw [if_neg hp]
    apply List.count_eq_zero.2
    simp [hp]

theorem count_judgePatterns_of_ne {invalid : String → Violation} {v : Violation}
    (hne : ∀ p, invalid p ≠ v) (patterns : List String) :
    (judgePatterns invalid patterns).count v = 0 := by
  apply List.count_eq_zero.2
  intro hv
  obtain ⟨p, -, hp⟩ := List.mem_map.1 hv
  exact hne p hp

theorem count_judgeFilter (earlier : List Registration) (f : Registration) (v : Violation) :
    (judgeFilter earlier f).count v =
      match v with
      | .emptyFilterName i => if earlier.length = i ∧ f.name = "" then 1 else 0
      | .duplicateFilter n =>
        if f.name = n ∧ f.name ≠ "" ∧ f.name ∈ earlier.map (·.name) then 1 else 0
      | _ => 0 := by
  rw [judgeFilter, count_judgeName]
  cases v <;> simp

theorem count_judgeServlet (earlier : List Servlet) (s : Servlet) (v : Violation) :
    (judgeServlet earlier s).count v =
      match v with
      | .emptyServletName i => if earlier.length = i ∧ s.name = "" then 1 else 0
      | .duplicateServlet n =>
        if s.name = n ∧ s.name ≠ "" ∧ s.name ∈ earlier.map (·.name) then 1 else 0
      | .invalidServletPattern n p =>
        if s.name = n ∧ Kind.classify p = .invalid then s.urlPatterns.count p else 0
      | _ => 0 := by
  rw [judgeServlet, List.count_append, count_judgeName]
  cases v with
  | invalidServletPattern n p =>
    by_cases hn : s.name = n
    · subst hn
      rw [count_judgePatterns (fun p q h => by simpa using h)]
      simp
    · rw [count_judgePatterns_of_ne (by simp [hn])]
      simp [hn]
  | _ =>
    rw [count_judgePatterns_of_ne (by simp)]
    simp

theorem count_judgeEntry (c : Descriptor) (earlier : List MappingEntry) (e : MappingEntry)
    (v : Violation) :
    (c.judgeEntry earlier e).count v =
      match v with
      | .unknownFilter i n =>
        if earlier.length = i ∧ e.filter = n ∧ ¬ c.Declares e.filter then 1 else 0
      | .emptyMapping i n =>
        if earlier.length = i ∧ e.filter = n ∧ e.urlPatterns = [] ∧ e.servletNames = [] then 1
        else 0
      | .invalidMappingPattern i p =>
        if earlier.length = i ∧ Kind.classify p = .invalid then e.urlPatterns.count p else 0
      | _ => 0 := by
  rw [judgeEntry, List.count_append, List.count_append, count_reportIf, count_reportIf]
  cases v with
  | invalidMappingPattern i p =>
    by_cases hi : earlier.length = i
    · subst hi
      rw [count_judgePatterns (fun p q h => by simpa using h)]
      simp
    · rw [count_judgePatterns_of_ne (by simp [hi])]
      simp [hi]
  | _ =>
    rw [count_judgePatterns_of_ne (by simp)]
    simp [and_assoc]

theorem count_servletPatterns (ss : List Servlet) (n p : String) :
    (reports judgeServlet ss).count (.invalidServletPattern n p) =
      if Kind.classify p = .invalid then
        ((ss.filter fun s => s.name = n).flatMap (·.urlPatterns)).count p
      else 0 := by
  induction ss using List.reverseRecOn with
  | nil => simp [reports]
  | append_singleton ss s ih =>
    rw [reports_concat, List.count_append, ih, count_judgeServlet, List.filter_append,
      List.flatMap_append, List.count_append]
    by_cases hn : s.name = n
    · by_cases hp : Kind.classify p = .invalid
      · simp [hn, hp]
      · simp [hp]
    · simp [hn]

/-- Each violation is among those to report as often as there is occasion. -/
theorem count_faults (c : Descriptor) (v : Violation) : c.faults.count v = c.occasions v := by
  rw [faults, List.count_append, List.count_append]
  -- two of the three sections never hold a violation of this kind
  cases v with
  | emptyFilterName i =>
    rw [count_reports_once _ fun earlier f => count_judgeFilter earlier f (.emptyFilterName i),
      count_reports_eq_zero fun _ _ => count_judgeServlet ..,
      count_reports_eq_zero fun _ _ => count_judgeEntry .., Nat.add_zero, occasions]
  | emptyServletName i =>
    rw [count_reports_once _ fun earlier s => count_judgeServlet earlier s (.emptyServletName i),
      count_reports_eq_zero fun _ _ => count_judgeFilter ..,
      count_reports_eq_zero fun _ _ => count_judgeEntry .., Nat.zero_add, Nat.add_zero, occasions]
  | duplicateFilter n =>
    rw [count_reports_again _ fun earlier f => count_judgeFilter earlier f (.duplicateFilter n),
      count_reports_eq_zero fun _ _ => count_judgeServlet ..,
      count_reports_eq_zero fun _ _ => count_judgeEntry .., Nat.add_zero, occasions]
  | duplicateServlet n =>
    rw [count_reports_again _ fun earlier s => count_judgeServlet earlier s (.duplicateServlet n),
      count_reports_eq_zero fun _ _ => count_judgeFilter ..,
      count_reports_eq_zero fun _ _ => count_judgeEntry .., Nat.zero_add, Nat.add_zero, occasions]
  | unknownFilter i n =>
    rw [count_reports_once _ fun earlier e => count_judgeEntry c earlier e (.unknownFilter i n),
      count_reports_eq_zero fun _ _ => count_judgeFilter ..,
      count_reports_eq_zero fun _ _ => count_judgeServlet .., Nat.zero_add, occasions]
  | emptyMapping i n =>
    rw [count_reports_once _ fun earlier e => count_judgeEntry c earlier e (.emptyMapping i n),
      count_reports_eq_zero fun _ _ => count_judgeFilter ..,
      count_reports_eq_zero fun _ _ => count_judgeServlet .., Nat.zero_add, occasions]
  | invalidMappingPattern i p =>
    have hjudge (earlier : List MappingEntry) (e : MappingEntry) :=
      count_judgeEntry c earlier e (.invalidMappingPattern i p)
    simp only [ite_and] at hjudge
    rw [count_reports_at _ hjudge, count_reports_eq_zero fun _ _ => count_judgeFilter ..,
      count_reports_eq_zero fun _ _ => count_judgeServlet .., Nat.zero_add]
    cases hi : c.mappings[i]? <;> simp [occasions, hi]
  | invalidServletPattern n p =>
    rw [count_servletPatterns, count_reports_eq_zero fun _ _ => count_judgeFilter ..,
      count_reports_eq_zero fun _ _ => count_judgeEntry .., Nat.zero_add, Nat.add_zero, occasions]

/-- The conditions on a descriptor, each by itself. -/
structure Proper (c : Descriptor) : Prop where
  filtersNamed : "" ∉ c.filters.map (·.name)
  filtersDistinct : (c.filters.map (·.name)).Nodup
  servletsNamed : "" ∉ c.servlets.map (·.name)
  servletsDistinct : (c.servlets.map (·.name)).Nodup
  servletPatterns : ∀ s ∈ c.servlets, ∀ p ∈ s.urlPatterns, Kind.classify p ≠ .invalid
  mappingPatterns : ∀ e ∈ c.mappings, ∀ p ∈ e.urlPatterns, Kind.classify p ≠ .invalid
  mappingsDeclared : ∀ e ∈ c.mappings, e.filter ∈ c.filters.map (·.name)
  mappingsTargeted : ∀ e ∈ c.mappings, e.urlPatterns ≠ [] ∨ e.servletNames ≠ []

theorem invalidPatterns_eq_nil_iff {patterns : List String} :
    invalidPatterns patterns = [] ↔ ∀ p ∈ patterns, Kind.classify p ≠ .invalid := by
  rw [invalidPatterns_eq, List.filter_eq_nil_iff]
  simp

theorem not_mem_names_iff {α : Type} {name : α → String} {xs : List α} :
    "" ∉ xs.map name ↔ ∀ x ∈ xs, name x ≠ "" := by
  simp

theorem wellFormed_iff_proper {c : Descriptor} : c.WellFormed ↔ c.Proper := by
  constructor
  · intro h
    refine ⟨not_mem_names_iff.2 h.filtersNamed, h.filtersDistinct,
      not_mem_names_iff.2 h.servletsNamed, h.servletsDistinct, ?_, ?_, ?_, ?_⟩
    · intro s hs
      exact invalidPatterns_eq_nil_iff.1 (h.servletPatterns s hs)
    · intro e he
      exact invalidPatterns_eq_nil_iff.1 (h.mappings e he).2.2
    · intro e he
      exact (mem_declaredNames_iff.1 (h.mappings e he).1).2
    · intro e he
      have htargets := (h.mappings e he).2.1
      rw [← not_and_or]
      rintro ⟨hurl, hservlet⟩
      exact htargets (by simp [MappingEntry.targets, hurl, hservlet])
  · intro h
    have hnamed := not_mem_names_iff.1 h.filtersNamed
    refine ⟨hnamed, h.filtersDistinct, not_mem_names_iff.1 h.servletsNamed, h.servletsDistinct,
      ?_, ?_⟩
    · intro s hs
      exact invalidPatterns_eq_nil_iff.2 (h.servletPatterns s hs)
    · intro e he
      have hdeclared := h.mappingsDeclared e he
      refine ⟨mem_declaredNames_iff.2 ⟨?_, hdeclared⟩, ?_,
        invalidPatterns_eq_nil_iff.2 (h.mappingPatterns e he)⟩
      · exact fun hempty => h.filtersNamed (hempty ▸ hdeclared)
      · rcases h.mappingsTargeted e he with hurl | hservlet
        · simp [MappingEntry.targets, hurl]
        · simp [MappingEntry.targets, hservlet]

theorem validate_eq_error_iff {c : Descriptor} {vs : List Violation} :
    c.validate = .error vs ↔ vs ≠ [] ∧ vs = c.violations := by
  unfold validate
  by_cases h : c.violations = []
  · simp [h]
  · rw [if_neg (by simpa using h), Except.error.injEq]
    constructor
    · rintro rfl
      exact ⟨h, rfl⟩
    · rintro ⟨-, rfl⟩
      rfl

/-- The check accepts the descriptors that meet all conditions. Of any other it reports what is
judged wrong, place by place, and so each violation exactly as often as there is occasion. -/
theorem validate_reports (c : Descriptor) :
    (c.validate = .ok () ↔ c.Proper) ∧
    (∀ vs, c.validate = .error vs ↔ ¬ c.Proper ∧ vs = c.faults) ∧
    ∀ v, c.faults.count v = c.occasions v := by
  refine ⟨?_, ?_, c.count_faults⟩
  · rw [validate_eq_ok_iff, wellFormed_iff_proper]
  · intro vs
    rw [validate_eq_error_iff, ← wellFormed_iff_proper, ← violations_eq_nil_iff,
      ← violations_eq_faults]
    constructor
    · rintro ⟨hne, rfl⟩
      exact ⟨hne, rfl⟩
    · rintro ⟨hne, rfl⟩
      exact ⟨hne, rfl⟩

/-- A filter without a name cannot be referred to. -/
example :
    validate ⟨{}, [⟨"", "", .empty, false⟩], [], [⟨"", ["/a*"], [], []⟩]⟩ =
      .error [.emptyFilterName 0, .unknownFilter 0 "", .invalidMappingPattern 0 "/a*"] := by
  decide

end ServletFilters.Descriptor
