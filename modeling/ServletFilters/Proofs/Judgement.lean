import ServletFilters.Proofs.Validated

/-!
The check told without the set of names that it keeps on its way: each declaration is judged by
itself and by the ones before it, filters first, then servlets, then mappings.
-/

namespace ServletFilters.Descriptor
open UrlPattern

section Judging

variable {α : Type} {judge : List α → α → List Violation}

/-- The reports on a list, where each item is judged knowing the ones before it. -/
def reports (judge : List α → α → List Violation) (xs : List α) : List Violation :=
  xs.zipIdx.flatMap fun place => judge (xs.take place.2) place.1

theorem reports_concat (xs : List α) (x : α) :
    reports judge (xs ++ [x]) = reports judge xs ++ judge xs x := by
  have hearlier : xs.zipIdx.flatMap (fun place => judge ((xs ++ [x]).take place.2) place.1) =
      reports judge xs := by
    unfold reports
    rw [List.flatMap_def, List.flatMap_def]
    congr 1
    apply List.map_congr_left
    intro place hplace
    have hlt : place.2 < xs.length := by simpa using List.snd_lt_of_mem_zipIdx hplace
    rw [List.take_append_of_le_length (Nat.le_of_lt hlt)]
  rw [reports, List.zipIdx_append, List.flatMap_append, hearlier]
  simp

/-- A walk over a list reports what is judged if each of its steps does, given what the walk knows
of the items before, and if the step keeps it knowing. -/
theorem reports_append_walk {σ : Type} (walk : Nat → σ → List α → List Violation)
    (knows : σ → List α → Prop) (hnil : ∀ i s, walk i s [] = [])
    (hstep : ∀ earlier s x xs, knows s earlier → ∃ s', knows s' (earlier ++ [x]) ∧
      walk earlier.length s (x :: xs) = judge earlier x ++ walk (earlier.length + 1) s' xs)
    (earlier : List α) (s : σ) (h : knows s earlier) (xs : List α) :
    reports judge (earlier ++ xs) = reports judge earlier ++ walk earlier.length s xs := by
  induction xs generalizing earlier s with
  | nil => rw [hnil, List.append_nil, List.append_nil]
  | cons x xs ih =>
    obtain ⟨s', h', hwalk⟩ := hstep earlier s x xs h
    have hlater := ih _ s' h'
    rw [List.append_assoc, List.singleton_append, reports_concat, List.length_append,
      List.length_singleton, List.append_assoc] at hlater
    rw [hlater, hwalk]

end Judging

def reportIf (wrong : Prop) [Decidable wrong] (v : Violation) : List Violation :=
  if wrong then [v] else []

/-- A name is wrong if it is empty or one of the earlier ones. -/
def judgeName (empty again : Violation) (earlier : List String) (name : String) : List Violation :=
  reportIf (name = "") empty ++ reportIf (name ≠ "" ∧ name ∈ earlier) again

theorem invalidPatterns_eq (patterns : List String) :
    invalidPatterns patterns = patterns.filter fun p => Kind.classify p = .invalid := by
  apply List.filter_congr
  intro p _
  rw [Bool.eq_iff_iff]
  simp [Kind.isValid]

def judgePatterns (invalid : String → Violation) (patterns : List String) : List Violation :=
  (patterns.filter fun p => Kind.classify p = .invalid).map invalid

def judgeFilter (earlier : List Registration) (f : Registration) : List Violation :=
  judgeName (.emptyFilterName earlier.length) (.duplicateFilter f.name)
    (earlier.map (·.name)) f.name

def judgeServlet (earlier : List Servlet) (s : Servlet) : List Violation :=
  judgeName (.emptyServletName earlier.length) (.duplicateServlet s.name)
      (earlier.map (·.name)) s.name
    ++ judgePatterns (.invalidServletPattern s.name) s.urlPatterns

/-- An empty name declares no filter. -/
def Declares (c : Descriptor) (name : String) : Prop :=
  name ≠ "" ∧ name ∈ c.filters.map (·.name)

instance (c : Descriptor) : DecidablePred c.Declares := fun _ => inferInstanceAs (Decidable (_ ∧ _))

def judgeEntry (c : Descriptor) (earlier : List MappingEntry) (e : MappingEntry) : List Violation :=
  reportIf (¬ c.Declares e.filter) (.unknownFilter earlier.length e.filter)
    ++ reportIf (e.urlPatterns = [] ∧ e.servletNames = []) (.emptyMapping earlier.length e.filter)
    ++ judgePatterns (.invalidMappingPattern earlier.length) e.urlPatterns

/-- Everything to report: on the filters, then on the servlets, then on the mappings. -/
def faults (c : Descriptor) : List Violation :=
  reports judgeFilter c.filters ++ reports judgeServlet c.servlets
    ++ reports c.judgeEntry c.mappings

/-- The names met so far, empty ones apart. -/
def Remembers (seen earlier : List String) : Prop :=
  ∀ name, name ≠ "" → (name ∈ seen ↔ name ∈ earlier)

namespace Remembers

variable {seen earlier : List String} {name : String}

theorem of_empty (h : Remembers seen earlier) (hname : name = "") :
    Remembers seen (earlier ++ [name]) := by
  intro n hn
  rw [h n hn]
  simp [hname, hn]

theorem of_mem (h : Remembers seen earlier) (hname : name ∈ seen) :
    Remembers seen (earlier ++ [name]) := by
  intro n hn
  rw [List.mem_append, List.mem_singleton, ← h n hn]
  constructor
  · exact .inl
  · rintro (hmem | rfl)
    · exact hmem
    · exact hname

theorem cons (h : Remembers seen earlier) : Remembers (name :: seen) (earlier ++ [name]) := by
  intro n hn
  rw [List.mem_cons, h n hn, List.mem_append, List.mem_singleton, or_comm]

/-- What the check does about a name is what its judgement asks, and it goes on remembering. -/
theorem judgeName_cases (h : Remembers seen earlier) (empty again : Violation) (name : String) :
    (name = "" ∧ judgeName empty again earlier name = [empty] ∧
      Remembers seen (earlier ++ [name])) ∨
    (name ≠ "" ∧ name ∈ seen ∧ judgeName empty again earlier name = [again] ∧
      Remembers seen (earlier ++ [name])) ∨
    (name ≠ "" ∧ name ∉ seen ∧ judgeName empty again earlier name = [] ∧
      Remembers (name :: seen) (earlier ++ [name])) := by
  by_cases hempty : name = ""
  · exact .inl ⟨hempty, by simp [judgeName, reportIf, hempty], h.of_empty hempty⟩
  · have hmem := h name hempty
    by_cases hseen : name ∈ seen
    · refine .inr (.inl ⟨hempty, hseen, ?_, h.of_mem hseen⟩)
      simp [judgeName, reportIf, hempty, hmem.1 hseen]
    · refine .inr (.inr ⟨hempty, hseen, ?_, h.cons⟩)
      simp [judgeName, reportIf, hempty, mt hmem.2 hseen]

end Remembers

theorem filterViolations_cons {seen : List String} {earlier : List Registration}
    (h : Remembers seen (earlier.map (·.name))) (f : Registration) (fs : List Registration) :
    ∃ seen', Remembers seen' ((earlier ++ [f]).map (·.name)) ∧
      filterViolations earlier.length seen (f :: fs) =
        judgeFilter earlier f ++ filterViolations (earlier.length + 1) seen' fs := by
  rw [List.map_append, List.map_singleton, filterViolations, judgeFilter]
  rcases h.judgeName_cases (.emptyFilterName earlier.length) (.duplicateFilter f.name) f.name with
    ⟨hempty, hjudge, h'⟩ | ⟨hne, hseen, hjudge, h'⟩ | ⟨hne, hseen, hjudge, h'⟩
  · exact ⟨seen, h', by rw [hjudge]; simp [hempty]⟩
  · exact ⟨seen, h', by rw [hjudge]; simp [hne, hseen]⟩
  · exact ⟨f.name :: seen, h', by rw [hjudge]; simp [hne, hseen]⟩

theorem servletViolations_cons {seen : List String} {earlier : List Servlet}
    (h : Remembers seen (earlier.map (·.name))) (s : Servlet) (ss : List Servlet) :
    ∃ seen', Remembers seen' ((earlier ++ [s]).map (·.name)) ∧
      servletViolations earlier.length seen (s :: ss) =
        judgeServlet earlier s ++ servletViolations (earlier.length + 1) seen' ss := by
  rw [List.map_append, List.map_singleton, servletViolations, judgeServlet, judgePatterns,
    ← invalidPatterns_eq]
  rcases h.judgeName_cases (.emptyServletName earlier.length) (.duplicateServlet s.name) s.name with
    ⟨hempty, hjudge, h'⟩ | ⟨hne, hseen, hjudge, h'⟩ | ⟨hne, hseen, hjudge, h'⟩
  · exact ⟨seen, h', by rw [hjudge]; simp [hempty]⟩
  · exact ⟨seen, h', by rw [hjudge]; simp [hne, hseen]⟩
  · exact ⟨s.name :: seen, h', by rw [hjudge]; simp [hne, hseen]⟩

theorem mem_declaredNames_iff {c : Descriptor} {name : String} :
    name ∈ declaredNames c.filters ↔ c.Declares name := by
  unfold declaredNames Declares
  simp [and_comm]

theorem entryViolations_eq (c : Descriptor) (earlier : List MappingEntry) (e : MappingEntry) :
    entryViolations (declaredNames c.filters) earlier.length e = c.judgeEntry earlier e := by
  unfold entryViolations judgeEntry judgePatterns reportIf
  rw [invalidPatterns_eq]
  simp [mem_declaredNames_iff]

theorem filterViolations_eq_reports (fs : List Registration) :
    filterViolations 0 [] fs = reports judgeFilter fs := by
  have hwalk := reports_append_walk filterViolations
    (fun seen earlier => Remembers seen (earlier.map (·.name))) (fun _ _ => rfl)
    (fun _ _ f fs h => filterViolations_cons h f fs) [] [] (fun _ _ => Iff.rfl) fs
  exact hwalk.symm

theorem servletViolations_eq_reports (ss : List Servlet) :
    servletViolations 0 [] ss = reports judgeServlet ss := by
  have hwalk := reports_append_walk servletViolations
    (fun seen earlier => Remembers seen (earlier.map (·.name))) (fun _ _ => rfl)
    (fun _ _ s ss h => servletViolations_cons h s ss) [] [] (fun _ _ => Iff.rfl) ss
  exact hwalk.symm

theorem mappingViolations_cons (c : Descriptor) (earlier : List MappingEntry) (e : MappingEntry)
    (es : List MappingEntry) :
    mappingViolations (declaredNames c.filters) earlier.length (e :: es) =
      c.judgeEntry earlier e
        ++ mappingViolations (declaredNames c.filters) (earlier.length + 1) es := by
  rw [mappingViolations, entryViolations_eq]

theorem mappingViolations_eq_reports (c : Descriptor) :
    mappingViolations (declaredNames c.filters) 0 c.mappings = reports c.judgeEntry c.mappings := by
  -- what is declared is settled before the first mapping, so there is nothing to remember
  have hwalk := reports_append_walk
    (fun i (_ : Unit) => mappingViolations (declaredNames c.filters) i) (fun _ _ => True)
    (fun _ _ => rfl) (fun earlier _ e es _ => ⟨(), trivial, mappingViolations_cons c earlier e es⟩)
    [] () trivial c.mappings
  exact hwalk.symm

/-- The check reports what is judged wrong. -/
theorem violations_eq_faults (c : Descriptor) : c.violations = c.faults := by
  rw [violations, filterViolations_eq_reports, servletViolations_eq_reports,
    mappingViolations_eq_reports, faults]

end ServletFilters.Descriptor
