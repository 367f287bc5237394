import ServletFilters.Chain

/-!
The chain of a dispatch told without the two passes: the mappings that the dispatch selects are
listed, those by url before those by servlet name, and their filters are looked up one by one.
-/

namespace ServletFilters

variable {H : Type}

theorem map_eq_ok_iff {ε α β : Type} {x : Except ε α} {f : α → β} {b : β} :
    x.map f = .ok b ↔ ∃ a, x = .ok a ∧ f a = b := by
  cases x <;> simp [Except.map]

theorem map_eq_error_iff {ε α β : Type} {x : Except ε α} {f : α → β} {e : ε} :
    x.map f = .error e ↔ x = .error e := by
  cases x <;> simp [Except.map]

namespace Dispatch

def SelectsByUrl (d : Dispatch) (m : Mapping) : Prop :=
  ∃ pattern, m.target = .url pattern ∧ m.appliesTo d.type = true ∧
    UrlPattern.selects (some pattern) d.path = true

def SelectsByServlet (d : Dispatch) (m : Mapping) : Prop :=
  ∃ pattern, m.target = .servlet pattern ∧ m.appliesTo d.type = true ∧
    ServletPattern.selects pattern d.servlet = true

theorem selectsByUrl_iff {d : Dispatch} {m : Mapping} :
    d.selectsByUrl m = true ↔ d.SelectsByUrl m := by
  unfold selectsByUrl SelectsByUrl
  cases m.target with
  | url pattern => simp
  | servlet pattern => simp

theorem selectsByServlet_iff {d : Dispatch} {m : Mapping} :
    d.selectsByServlet m = true ↔ d.SelectsByServlet m := by
  unfold selectsByServlet SelectsByServlet
  cases m.target with
  | url pattern => simp
  | servlet pattern => simp

instance (d : Dispatch) : DecidablePred d.SelectsByUrl := fun _ =>
  decidable_of_iff _ selectsByUrl_iff

instance (d : Dispatch) : DecidablePred d.SelectsByServlet := fun _ =>
  decidable_of_iff _ selectsByServlet_iff

end Dispatch

namespace Table

/-- The mappings that satisfy `P`, in declaration order, each with its index in the table. -/
def places (t : Table) (P : Mapping → Prop) [DecidablePred P] : List (Mapping × Nat) :=
  t.mappings.zipIdx.filter fun place => P place.1

def selected (t : Table) (d : Dispatch) : List (Mapping × Nat) :=
  t.places d.SelectsByUrl ++ t.places d.SelectsByServlet

def missingAt (place : Mapping × Nat) : MissingRegistration := ⟨place.1.filter, place.2⟩

/-- `e` tells of the first place whose filter is not registered. -/
def FirstMissing (t : Table) (ps : List (Mapping × Nat)) (e : MissingRegistration) : Prop :=
  ∃ before place after, ps = before ++ place :: after ∧
    (∀ earlier ∈ before, t.registration? earlier.1.filter ≠ none) ∧
    t.registration? place.1.filter = none ∧ e = missingAt place

/-- The filters of the places in order, or what is missing at the first place without one. -/
def resolve (t : Table) :
    List (Mapping × Nat) → Except MissingRegistration (List Registration)
  | [] => .ok []
  | place :: ps =>
    match t.registration? place.1.filter with
    | none => .error (missingAt place)
    | some r => (t.resolve ps).map (r :: ·)

theorem resolve_cons_of_none {t : Table} {place : Mapping × Nat} {ps : List (Mapping × Nat)}
    (h : t.registration? place.1.filter = none) :
    t.resolve (place :: ps) = .error (missingAt place) := by
  rw [resolve, h]

theorem resolve_cons_of_some {t : Table} {place : Mapping × Nat} {ps : List (Mapping × Nat)}
    {r : Registration} (h : t.registration? place.1.filter = some r) :
    t.resolve (place :: ps) = (t.resolve ps).map (r :: ·) := by
  rw [resolve, h]

theorem resolve_eq_ok_iff {t : Table} {ps : List (Mapping × Nat)} {rs : List Registration} :
    t.resolve ps = .ok rs ↔
      rs.map some = ps.map fun place => t.registration? place.1.filter := by
  induction ps generalizing rs with
  | nil =>
    rw [resolve, Except.ok.injEq, List.map_nil, List.map_eq_nil_iff]
    exact eq_comm
  | cons place ps ih =>
    cases hr : t.registration? place.1.filter with
    | none => simp [resolve_cons_of_none hr, List.map_eq_cons_iff, hr]
    | some r =>
      rw [resolve_cons_of_some hr, map_eq_ok_iff]
      constructor
      · intro hrs
        obtain ⟨others, hothers, rfl⟩ := hrs
        have hmap := ih.1 hothers
        rw [List.map_cons, List.map_cons, hmap, hr]
      · intro hrs
        obtain ⟨first, others, rfl, hfirst, hothers⟩ := List.map_eq_cons_iff.1 hrs
        obtain rfl := Option.some.inj (hfirst.trans hr)
        exact ⟨others, ih.2 hothers, rfl⟩

theorem firstMissing_cons_of_none {t : Table} {place : Mapping × Nat}
    {ps : List (Mapping × Nat)} {e : MissingRegistration}
    (h : t.registration? place.1.filter = none) :
    t.FirstMissing (place :: ps) e ↔ e = missingAt place := by
  constructor
  · intro hmissing
    obtain ⟨before, place', after, hps, hbefore, -, rfl⟩ := hmissing
    cases before with
    | nil => rw [(List.cons.inj hps).1]
    | cons earlier before =>
      -- `place` would stand among those that are registered
      have hplace : t.registration? earlier.1.filter ≠ none := hbefore _ List.mem_cons_self
      rw [← (List.cons.inj hps).1] at hplace
      exact absurd h hplace
  · intro he
    exact ⟨[], place, ps, rfl, by simp, h, he⟩

theorem firstMissing_cons_of_some {t : Table} {place : Mapping × Nat}
    {ps : List (Mapping × Nat)} {e : MissingRegistration} {r : Registration}
    (h : t.registration? place.1.filter = some r) :
    t.FirstMissing (place :: ps) e ↔ t.FirstMissing ps e := by
  constructor
  · intro hmissing
    obtain ⟨before, place', after, hps, hbefore, hnone, rfl⟩ := hmissing
    cases before with
    | nil =>
      rw [← (List.cons.inj hps).1, h] at hnone
      cases hnone
    | cons earlier before =>
      refine ⟨before, place', after, (List.cons.inj hps).2, ?_, hnone, rfl⟩
      intro x hx
      exact hbefore x (List.mem_cons_of_mem _ hx)
  · intro hmissing
    obtain ⟨before, place', after, rfl, hbefore, hnone, rfl⟩ := hmissing
    refine ⟨place :: before, place', after, rfl, ?_, hnone, rfl⟩
    intro x hx
    rcases List.mem_cons.1 hx with rfl | hx
    · simp [h]
    · exact hbefore x hx

theorem resolve_eq_error_iff {t : Table} {ps : List (Mapping × Nat)}
    {e : MissingRegistration} : t.resolve ps = .error e ↔ t.FirstMissing ps e := by
  induction ps with
  | nil => simp [resolve, FirstMissing]
  | cons place ps ih =>
    cases hr : t.registration? place.1.filter with
    | none =>
      rw [resolve_cons_of_none hr, firstMissing_cons_of_none hr, Except.error.injEq, eq_comm]
    | some r =>
      rw [resolve_cons_of_some hr, firstMissing_cons_of_some hr, map_eq_error_iff, ih]

theorem exists_resolve_error_iff {t : Table} {ps : List (Mapping × Nat)} :
    (∃ e, t.resolve ps = .error e) ↔ ∃ place ∈ ps, t.registration? place.1.filter = none := by
  constructor
  · intro herror
    obtain ⟨e, he⟩ := herror
    obtain ⟨before, place, after, rfl, -, hnone, -⟩ := resolve_eq_error_iff.1 he
    exact ⟨place, List.mem_append_right _ List.mem_cons_self, hnone⟩
  · intro hmissing
    obtain ⟨place, hplace, hnone⟩ := hmissing
    cases hps : t.resolve ps with
    | error e => exact ⟨e, rfl⟩
    | ok rs =>
      -- a list that resolves has a registration at every place
      have hmem := List.mem_map_of_mem (f := fun place => t.registration? place.1.filter) hplace
      rw [← resolve_eq_ok_iff.1 hps, hnone] at hmem
      simp at hmem

theorem resolve_append (t : Table) (ps qs : List (Mapping × Nat)) :
    t.resolve (ps ++ qs) = (do
      let byUrl ← t.resolve ps
      let byServlet ← t.resolve qs
      pure (byUrl ++ byServlet)) := by
  induction ps with
  | nil => cases h : t.resolve qs <;> simp [resolve, h, bind, Except.bind, pure, Except.pure]
  | cons place ps ih =>
    cases hr : t.registration? place.1.filter with
    | none => rw [List.cons_append, resolve_cons_of_none hr, resolve_cons_of_none hr]; rfl
    | some r =>
      rw [List.cons_append, resolve_cons_of_some hr, resolve_cons_of_some hr, ih]
      cases t.resolve ps with
      | error e => rfl
      | ok byUrl => cases t.resolve qs <;> rfl

/-- A pass over the mappings from index `i` on resolves the places that it takes. -/
theorem value_collect (t : Table) (select : Mapping → Bool) (i : Nat) (ms : List Mapping) :
    (t.collect select i ms).value =
      t.resolve ((ms.zipIdx i).filter fun place => select place.1) := by
  induction ms generalizing i with
  | nil => rfl
  | cons m ms ih =>
    rw [collect, List.zipIdx_cons, List.filter_cons]
    by_cases hs : select m = true
    · simp only [hs, if_true, Reported.value_andThen, ih]
      cases hr : t.registration? m.filter with
      | none =>
        rw [resolve_cons_of_none (by exact hr)]
        simp only [registrationOf, hr]
        rfl
      | some r =>
        rw [resolve_cons_of_some (by exact hr)]
        simp only [registrationOf, hr]
        rfl
    · simp only [hs, Bool.false_eq_true, if_false, ih]

theorem value_chainFilters (t : Table) (d : Dispatch) :
    (t.chainFilters d).value = t.resolve (t.selected d) := by
  have hurl : t.places d.SelectsByUrl =
      t.mappings.zipIdx.filter fun place => d.selectsByUrl place.1 := by
    apply List.filter_congr
    intro place _
    rw [Bool.eq_iff_iff, decide_eq_true_iff, Dispatch.selectsByUrl_iff]
  have hservlet : t.places d.SelectsByServlet =
      t.mappings.zipIdx.filter fun place => d.selectsByServlet place.1 := by
    apply List.filter_congr
    intro place _
    rw [Bool.eq_iff_iff, decide_eq_true_iff, Dispatch.selectsByServlet_iff]
  rw [selected, resolve_append, hurl, hservlet, ← value_collect, ← value_collect]
  simp only [chainFilters, Reported.value_andThen]
  rfl

theorem map_places (t : Table) (P : Mapping → Prop) [DecidablePred P] :
    (t.places P).map Prod.fst = t.mappings.filter fun m => P m := by
  have h := List.filter_map (f := Prod.fst) (p := fun m => decide (P m)) (l := t.mappings.zipIdx)
  rw [List.zipIdx_map_fst] at h
  exact h.symm

theorem getElem?_of_mem_selected {t : Table} {d : Dispatch} {place : Mapping × Nat}
    (h : place ∈ t.selected d) : t.mappings[place.2]? = some place.1 := by
  have hmem : place ∈ t.mappings.zipIdx := by
    rcases List.mem_append.1 h with h | h
    · exact (List.mem_filter.1 h).1
    · exact (List.mem_filter.1 h).1
  exact List.mem_zipIdx_iff_getElem?.1 hmem

theorem mem_mappings_of_mem_selected {t : Table} {d : Dispatch} {place : Mapping × Nat}
    (h : place ∈ t.selected d) : place.1 ∈ t.mappings :=
  List.mem_of_getElem? (getElem?_of_mem_selected h)

/-- The short cut for a table without mappings gives what the passes would give. -/
theorem build_value (t : Table) (h : H) (d : Dispatch) :
    (t.build (some h) d).value =
      (t.resolve (t.selected d)).map fun filters => some ⟨h, filters⟩ := by
  rw [← value_chainFilters]
  unfold build
  by_cases hempty : t.isEmpty = true
  · -- neither pass has a mapping to look at
    have hnil : t.mappings = [] := List.isEmpty_iff.1 hempty
    simp only [hempty, if_true, chainFilters, hnil, collect]
    rfl
  · simp only [hempty, Bool.false_eq_true, if_false, Reported.value_andThen]
    cases (t.chainFilters d).value <;> rfl

/-- A build with a handler is settled by the selected mappings: either all of them have a
registration, and those are the filters, or the first one without is reported. -/
theorem build_iff_selected (t : Table) (d : Dispatch) :
    (t.build (none : Option H) d).value = .ok none ∧
      ∀ h : H,
        (t.build (some h) d).value ≠ .ok none ∧
        (∀ c, (t.build (some h) d).value = .ok (some c) ↔
          c.handler = h ∧
            c.filters.map some = (t.selected d).map fun place => t.registration? place.1.filter) ∧
        ∀ e, (t.build (some h) d).value = .error e ↔ t.FirstMissing (t.selected d) e := by
  refine ⟨rfl, fun h => ⟨?_, fun c => ?_, fun e => ?_⟩⟩
  · rw [build_value, Ne, map_eq_ok_iff]
    intro hbuilt
    obtain ⟨filters, -, hnone⟩ := hbuilt
    cases hnone
  · rw [build_value, map_eq_ok_iff]
    constructor
    · intro hbuilt
      obtain ⟨filters, hfilters, hc⟩ := hbuilt
      obtain rfl := Option.some.inj hc
      exact ⟨rfl, resolve_eq_ok_iff.1 hfilters⟩
    · intro hchain
      obtain ⟨rfl, hfilters⟩ := hchain
      exact ⟨c.filters, resolve_eq_ok_iff.2 hfilters, rfl⟩
  · rw [build_value, map_eq_error_iff, resolve_eq_error_iff]

end Table

end ServletFilters
