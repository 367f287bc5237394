import ServletFilters.Proofs.SelectedOnly

/-!
One more mapping in a table: wherever it is declared, no chain loses a filter, gets another in its
place or has its filters in another order. A chain that the mapping takes part in holds its filter
once more, at the place that the two passes give it.
-/

namespace ServletFilters

variable {H : Type}

/-- Where a mapping stands once another one is declared at `k`. -/
def movedIndex (k i : Nat) : Nat := if i < k then i else i + 1

def MissingRegistration.moved (k : Nat) (e : MissingRegistration) : MissingRegistration :=
  { e with index := movedIndex k e.index }

namespace Dispatch

variable {d : Dispatch} {m : Mapping}

theorem SelectsByUrl.not_selectsByServlet (h : d.SelectsByUrl m) : ¬ d.SelectsByServlet m := by
  obtain ⟨p, hp, -, -⟩ := h
  rintro ⟨n, hn, -, -⟩
  rw [hp] at hn
  cases hn

theorem SelectsByServlet.not_selectsByUrl (h : d.SelectsByServlet m) : ¬ d.SelectsByUrl m :=
  fun hurl => hurl.not_selectsByServlet h

end Dispatch

namespace Table

/-- The table with one more mapping, declared before those from index `k` on. -/
def insertMapping (t : Table) (k : Nat) (m : Mapping) : Table :=
  { t with mappings := t.mappings.take k ++ m :: t.mappings.drop k }

def movedPlace (k : Nat) (place : Mapping × Nat) : Mapping × Nat := (place.1, movedIndex k place.2)

section Places

variable (P : Mapping → Prop) [DecidablePred P]

def placesBefore (t : Table) (k : Nat) : List (Mapping × Nat) :=
  (t.mappings.take k).zipIdx.filter fun place => P place.1

def placesFrom (t : Table) (k : Nat) : List (Mapping × Nat) :=
  ((t.mappings.drop k).zipIdx k).filter fun place => P place.1

theorem places_eq_append {t : Table} {k : Nat} (hk : k ≤ t.size) :
    t.places P = t.placesBefore P k ++ t.placesFrom P k := by
  have hsplit : (t.mappings.take k ++ t.mappings.drop k).zipIdx =
      (t.mappings.take k).zipIdx ++ (t.mappings.drop k).zipIdx k := by
    rw [List.zipIdx_append, List.length_take_of_le hk, Nat.zero_add]
  rw [List.take_append_drop] at hsplit
  rw [places, hsplit, List.filter_append, placesBefore, placesFrom]

theorem map_movedPlace_zipIdx_take {t : Table} {k : Nat} :
    (t.mappings.take k).zipIdx.map (movedPlace k) = (t.mappings.take k).zipIdx := by
  refine (List.map_congr_left ?_).trans (List.map_id _)
  intro place hplace
  have hlt := List.snd_lt_of_mem_zipIdx hplace
  rw [List.length_take, Nat.add_zero, Nat.lt_min] at hlt
  rw [movedPlace, movedIndex, if_pos hlt.1, id]

theorem map_movedPlace_zipIdx_drop {t : Table} {k : Nat} :
    ((t.mappings.drop k).zipIdx k).map (movedPlace k) = (t.mappings.drop k).zipIdx (k + 1) := by
  rw [List.zipIdx_succ]
  apply List.map_congr_left
  intro place hplace
  have hle : k ≤ place.2 := List.le_snd_of_mem_zipIdx hplace
  rw [movedPlace, movedIndex, if_neg (Nat.not_lt.2 hle)]

/-- The places around the new mapping are those from before it was there, moved. -/
theorem places_insertMapping {t : Table} {k : Nat} (hk : k ≤ t.size) (m : Mapping) :
    (t.insertMapping k m).places P = (t.placesBefore P k).map (movedPlace k)
      ++ ((if P m then [(m, k)] else []) ++ (t.placesFrom P k).map (movedPlace k)) := by
  have hmoved (ps : List (Mapping × Nat)) :
      (ps.filter fun place => P place.1).map (movedPlace k) =
        (ps.map (movedPlace k)).filter fun place => P place.1 := by
    rw [List.filter_map]
    rfl
  rw [placesBefore, placesFrom, hmoved, hmoved, map_movedPlace_zipIdx_take,
    map_movedPlace_zipIdx_drop, places, insertMapping, List.zipIdx_append, List.filter_append,
    List.length_take_of_le hk, Nat.zero_add, List.zipIdx_cons, List.filter_cons]
  by_cases hm : P m <;> simp [hm]

theorem map_fst_placesBefore (t : Table) (k : Nat) :
    (t.placesBefore P k).map Prod.fst = (t.mappings.take k).filter fun m => P m := by
  rw [placesBefore, ← List.zipIdx_map_fst 0 (t.mappings.take k), List.filter_map,
    List.zipIdx_map_fst]
  rfl

end Places

variable {t : Table} {k : Nat} {m : Mapping} {d : Dispatch}

theorem selected_insertMapping_of_not (hk : k ≤ t.size) (hurl : ¬ d.SelectsByUrl m)
    (hservlet : ¬ d.SelectsByServlet m) :
    (t.insertMapping k m).selected d = (t.selected d).map (movedPlace k) := by
  rw [selected, selected, places_insertMapping _ hk, places_insertMapping _ hk,
    places_eq_append _ hk, places_eq_append _ hk, if_neg hurl, if_neg hservlet]
  simp

/-- A mapping selected by url comes after the ones before it that are selected so. -/
theorem selected_insertMapping_byUrl (hk : k ≤ t.size) (hm : d.SelectsByUrl m) :
    ∃ ps qs, t.selected d = ps ++ qs ∧
      (t.insertMapping k m).selected d =
        ps.map (movedPlace k) ++ (m, k) :: qs.map (movedPlace k) ∧
      ps.map Prod.fst = (t.mappings.take k).filter fun m => d.SelectsByUrl m := by
  refine ⟨t.placesBefore d.SelectsByUrl k,
    t.placesFrom d.SelectsByUrl k ++ t.places d.SelectsByServlet, ?_, ?_,
    map_fst_placesBefore _ t k⟩
  · rw [selected, places_eq_append d.SelectsByUrl hk, List.append_assoc]
  · rw [selected, places_insertMapping _ hk, places_insertMapping _ hk,
      places_eq_append d.SelectsByServlet hk, if_pos hm, if_neg hm.not_selectsByServlet]
    simp

/-- A mapping selected by servlet name also comes after all that are selected by url. -/
theorem selected_insertMapping_byServlet (hk : k ≤ t.size) (hm : d.SelectsByServlet m) :
    ∃ ps qs, t.selected d = ps ++ qs ∧
      (t.insertMapping k m).selected d =
        ps.map (movedPlace k) ++ (m, k) :: qs.map (movedPlace k) ∧
      ps.map Prod.fst = (t.mappings.filter fun m => d.SelectsByUrl m)
        ++ (t.mappings.take k).filter fun m => d.SelectsByServlet m := by
  refine ⟨t.places d.SelectsByUrl ++ t.placesBefore d.SelectsByServlet k,
    t.placesFrom d.SelectsByServlet k, ?_, ?_, ?_⟩
  · rw [selected, places_eq_append d.SelectsByServlet hk, List.append_assoc]
  · rw [selected, places_insertMapping _ hk, places_insertMapping _ hk,
      places_eq_append d.SelectsByUrl hk, if_pos hm, if_neg hm.not_selectsByUrl]
    simp
  · rw [List.map_append, map_places, map_fst_placesBefore]

theorem agree_resolve_moved (ps : List (Mapping × Nat)) :
    Agree (fun e e' => e' = e.moved k) (t.resolve ps)
      ((t.insertMapping k m).resolve (ps.map (movedPlace k))) := by
  apply agree_resolve
  rw [List.forall₂_map_right_iff]
  exact List.forall₂_same.2 fun place _ => ⟨rfl, rfl⟩

theorem resolve_insert_of_ok {place : Mapping × Nat} {r : Registration}
    (hr : t.registration? place.1.filter = some r) {ps qs : List (Mapping × Nat)}
    {rs : List Registration} (h : t.resolve (ps ++ qs) = .ok rs) :
    ∃ before after, rs = before ++ after ∧
      t.resolve (ps ++ place :: qs) = .ok (before ++ r :: after) ∧
      before.map some = ps.map fun place => t.registration? place.1.filter := by
  rw [resolve_eq_ok_iff, List.map_append] at h
  obtain ⟨before, after, rfl, hbefore, hafter⟩ := List.map_eq_append_iff.1 h
  refine ⟨before, after, rfl, ?_, hbefore⟩
  rw [resolve_eq_ok_iff, List.map_append, List.map_append, List.map_cons, List.map_cons, hbefore,
    hafter, hr]

theorem resolve_insert_of_error {place : Mapping × Nat} {r : Registration}
    (hr : t.registration? place.1.filter = some r) {ps qs : List (Mapping × Nat)}
    {e : MissingRegistration} (h : t.resolve (ps ++ qs) = .error e) :
    t.resolve (ps ++ place :: qs) = .error e := by
  rw [resolve_append] at h ⊢
  rw [resolve_cons_of_some hr]
  cases hps : t.resolve ps with
  | error e' =>
    rw [hps] at h
    exact h
  | ok byUrl =>
    cases hqs : t.resolve qs with
    | error e' =>
      rw [hps, hqs] at h
      exact h
    | ok byServlet =>
      rw [hps, hqs] at h
      cases h

/-- In `longer` the filter `r` follows upon the filters of the mappings `ahead`; the filters before
it and after it make up `shorter`. -/
def Joins (t : Table) (r : Registration) (ahead : List Mapping)
    (shorter longer : List Registration) : Prop :=
  ∃ before after, shorter = before ++ after ∧ longer = before ++ r :: after ∧
    before.map some = ahead.map fun m => t.registration? m.filter

/-- What the mapping `m` of the filter `r`, declared at `k`, does to the filters of a chain. -/
structure Widens (t : Table) (k : Nat) (m : Mapping) (r : Registration) (d : Dispatch)
    (shorter longer : List Registration) : Prop where
  unselected : ¬ d.SelectsByUrl m → ¬ d.SelectsByServlet m → longer = shorter
  byUrl : d.SelectsByUrl m →
    t.Joins r ((t.mappings.take k).filter fun m => d.SelectsByUrl m) shorter longer
  byServlet : d.SelectsByServlet m →
    t.Joins r ((t.mappings.filter fun m => d.SelectsByUrl m)
      ++ (t.mappings.take k).filter fun m => d.SelectsByServlet m) shorter longer

variable {r : Registration}

theorem resolve_of_inserted (hr : t.registration? m.filter = some r)
    {ps qs : List (Mapping × Nat)} (hselected : t.selected d = ps ++ qs)
    (hinserted : (t.insertMapping k m).selected d =
      ps.map (movedPlace k) ++ (m, k) :: qs.map (movedPlace k)) :
    (∀ rs, t.resolve (t.selected d) = .ok rs → ∃ rs',
      (t.insertMapping k m).resolve ((t.insertMapping k m).selected d) = .ok rs' ∧
        t.Joins r (ps.map Prod.fst) rs rs') ∧
    ∀ e, t.resolve (t.selected d) = .error e →
      (t.insertMapping k m).resolve ((t.insertMapping k m).selected d) = .error (e.moved k) := by
  have hr' : (t.insertMapping k m).registration? (m, k).1.filter = some r := hr
  have hagree := agree_resolve_moved (t := t) (k := k) (m := m) (ps ++ qs)
  rw [List.map_append] at hagree
  rw [hselected, hinserted]
  constructor
  · intro rs hrs
    rw [hrs] at hagree
    obtain ⟨before, after, hsplit, hok, hbefore⟩ := resolve_insert_of_ok hr' hagree.eq_ok
    refine ⟨_, hok, before, after, hsplit, rfl, ?_⟩
    rw [hbefore, List.map_map, List.map_map]
    rfl
  · intro e he
    rw [he] at hagree
    obtain ⟨_, herror, rfl⟩ := hagree.exists_error
    exact resolve_insert_of_error hr' herror

theorem resolve_insertMapping (hk : k ≤ t.size) (hr : t.registration? m.filter = some r)
    (d : Dispatch) :
    (∀ rs, t.resolve (t.selected d) = .ok rs → ∃ rs',
      (t.insertMapping k m).resolve ((t.insertMapping k m).selected d) = .ok rs' ∧
        t.Widens k m r d rs rs') ∧
    ∀ e, t.resolve (t.selected d) = .error e →
      (t.insertMapping k m).resolve ((t.insertMapping k m).selected d) = .error (e.moved k) := by
  by_cases hurl : d.SelectsByUrl m
  · obtain ⟨ps, qs, hselected, hinserted, hahead⟩ := selected_insertMapping_byUrl hk hurl
    obtain ⟨hok, herror⟩ := resolve_of_inserted hr hselected hinserted
    refine ⟨fun rs hrs => ?_, herror⟩
    obtain ⟨rs', hrs', hjoins⟩ := hok rs hrs
    rw [hahead] at hjoins
    exact ⟨rs', hrs', fun hnot => absurd hurl hnot, fun _ => hjoins,
      fun hservlet => absurd hservlet hurl.not_selectsByServlet⟩
  by_cases hservlet : d.SelectsByServlet m
  · obtain ⟨ps, qs, hselected, hinserted, hahead⟩ := selected_insertMapping_byServlet hk hservlet
    obtain ⟨hok, herror⟩ := resolve_of_inserted hr hselected hinserted
    refine ⟨fun rs hrs => ?_, herror⟩
    obtain ⟨rs', hrs', hjoins⟩ := hok rs hrs
    rw [hahead] at hjoins
    exact ⟨rs', hrs', fun _ hnot => absurd hservlet hnot, fun h => absurd h hurl, fun _ => hjoins⟩
  have hagree := agree_resolve_moved (t := t) (k := k) (m := m) (t.selected d)
  rw [← selected_insertMapping_of_not hk hurl hservlet] at hagree
  constructor
  · intro rs hrs
    rw [hrs] at hagree
    exact ⟨rs, hagree.eq_ok, fun _ _ => rfl, fun h => absurd h hurl, fun h => absurd h hservlet⟩
  · intro e he
    rw [he] at hagree
    obtain ⟨_, herror, rfl⟩ := hagree.exists_error
    exact herror

/-- A mapping of a registered filter, declared anywhere, leaves the chains of the table as they are
or has its filter join them, at the place that the passes give it. A build that misses a
registration goes on missing it, at the index where its mapping now stands. -/
theorem build_insertMapping (hk : k ≤ t.size) (hr : t.registration? m.filter = some r)
    (d : Dispatch) (h : H) :
    (∀ c, (t.build (some h) d).value = .ok (some c) →
      ∃ c', ((t.insertMapping k m).build (some h) d).value = .ok (some c') ∧
        c'.handler = c.handler ∧ t.Widens k m r d c.filters c'.filters) ∧
    ∀ e, (t.build (some h) d).value = .error e →
      ((t.insertMapping k m).build (some h) d).value = .error (e.moved k) := by
  obtain ⟨hok, herror⟩ := resolve_insertMapping hk hr d
  simp only [build_value, map_eq_ok_iff, map_eq_error_iff]
  refine ⟨?_, herror⟩
  rintro c ⟨rs, hrs, hc⟩
  obtain rfl := Option.some.inj hc
  obtain ⟨rs', hrs', hwidens⟩ := hok rs hrs
  exact ⟨⟨h, rs'⟩, ⟨rs', hrs', rfl⟩, rfl, hwidens⟩

def traceJson : Mapping := .of "Trace" (.url "*.json") .empty

/-- Its second mapping names a filter that is not there. -/
def haunted : Table := ofDeclarations [
  .filter signIn,
  .mapping (.of "SignIn" (.url "/api/*") .empty),
  .mapping (.of "Ghost" (.url "/*") .empty)]

theorem build_insertMapping_traced :
    ((plain.build (some "Users") usersRequest).value = .ok (some ⟨"Users", [signIn, trace]⟩) ∧
      2 ≤ plain.size ∧ plain.registration? traceJson.filter = some trace ∧
      ∃ c', ((plain.insertMapping 2 traceJson).build (some "Users") usersRequest).value =
          .ok (some c') ∧ c'.handler = "Users" ∧
        plain.Widens 2 traceJson trace usersRequest [signIn, trace] c'.filters) ∧
    ((haunted.build (some "Users") usersRequest).value = .error ⟨"Ghost", 1⟩ ∧
      1 ≤ haunted.size ∧ haunted.registration? "SignIn" = some signIn ∧
      ((haunted.insertMapping 1 (.of "SignIn" (.servlet "*") .empty)).build (some "Users")
        usersRequest).value = .error ⟨"Ghost", 2⟩) := by
  have hbuilt : (plain.build (some "Users") usersRequest).value =
      .ok (some ⟨"Users", [signIn, trace]⟩) := by decide
  have hmissing : (haunted.build (some "Users") usersRequest).value =
      .error ⟨"Ghost", 1⟩ := by decide
  have htrace : plain.registration? traceJson.filter = some trace := by decide
  have hsignIn : haunted.registration? "SignIn" = some signIn := by decide
  refine ⟨⟨hbuilt, by decide, htrace, ?_⟩, hmissing, by decide, hsignIn, ?_⟩
  · exact (build_insertMapping (by decide) htrace usersRequest "Users").1 _ hbuilt
  · exact (build_insertMapping (by decide) hsignIn usersRequest "Users").2 _ hmissing

end Table

end ServletFilters
