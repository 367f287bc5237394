import Mathlib.Data.List.Forall2
import ServletFilters.Proofs.TwoPasses

/-!
A build sees of its table only the names of the filters that its dispatch selects, in order, and
what is registered under them.
-/

namespace ServletFilters

variable {H : Type}

/-- Two outcomes with the same result, or with errors that `R` relates. -/
inductive Agree {ε α : Type} (R : ε → ε → Prop) : Except ε α → Except ε α → Prop where
  | ok (a : α) : Agree R (.ok a) (.ok a)
  | error {e e' : ε} (h : R e e') : Agree R (.error e) (.error e')

namespace Agree

variable {ε α β : Type} {R : ε → ε → Prop} {x y : Except ε α}

theorem map (f : α → β) (h : Agree R x y) : Agree R (x.map f) (y.map f) := by
  cases h with
  | ok a => exact .ok (f a)
  | error h => exact .error h

theorem cases_outcomes (h : Agree R x y) :
    (∃ a, x = .ok a ∧ y = .ok a) ∨ ∃ e e', x = .error e ∧ y = .error e' ∧ R e e' := by
  cases h with
  | ok a => exact .inl ⟨a, rfl, rfl⟩
  | error h => exact .inr ⟨_, _, rfl, rfl, h⟩

theorem eq_ok {a : α} (h : Agree R (.ok a) y) : y = .ok a := by
  cases h with
  | ok => rfl

theorem exists_error {e : ε} (h : Agree R (.error e : Except ε α) y) :
    ∃ e', y = .error e' ∧ R e e' := by
  cases h with
  | error h => exact ⟨_, rfl, h⟩

end Agree

namespace Table

/-- The names of the filters that the dispatch selects by url, in declaration order. -/
def namesByUrl (t : Table) (d : Dispatch) : List String :=
  (t.mappings.filter fun m => d.SelectsByUrl m).map (·.filter)

def namesByServlet (t : Table) (d : Dispatch) : List String :=
  (t.mappings.filter fun m => d.SelectsByServlet m).map (·.filter)

theorem map_selected (t : Table) (d : Dispatch) :
    (t.selected d).map (·.1.filter) = t.namesByUrl d ++ t.namesByServlet d := by
  rw [selected, List.map_append, namesByUrl, namesByServlet, ← map_places, ← map_places,
    List.map_map, List.map_map]
  rfl

/-- Two scans over places that find the same registrations, place by place, end alike. -/
theorem agree_resolve {t t' : Table} {R : MissingRegistration → MissingRegistration → Prop}
    {ps qs : List (Mapping × Nat)}
    (h : List.Forall₂ (fun p q => t.registration? p.1.filter = t'.registration? q.1.filter ∧
      R (missingAt p) (missingAt q)) ps qs) :
    Agree R (t.resolve ps) (t'.resolve qs) := by
  induction h with
  | nil => exact .ok []
  | @cons p q ps qs hpq hrest ih =>
    obtain ⟨hregistered, hmissing⟩ := hpq
    cases hr : t.registration? p.1.filter with
    | none =>
      rw [resolve_cons_of_none hr, resolve_cons_of_none (hregistered.symm.trans hr)]
      exact .error hmissing
    | some r =>
      rw [resolve_cons_of_some hr, resolve_cons_of_some (hregistered.symm.trans hr)]
      exact ih.map (r :: ·)

theorem agree_resolve_of_names {t t' : Table} {ps qs : List (Mapping × Nat)}
    (hnames : ps.map (·.1.filter) = qs.map (·.1.filter))
    (hregistered : ∀ name ∈ ps.map (·.1.filter), t.registration? name = t'.registration? name) :
    Agree (fun e e' => e.filter = e'.filter) (t.resolve ps) (t'.resolve qs) := by
  have h : List.Forall₂ (fun n n' => n = n' ∧ t.registration? n = t'.registration? n')
      (ps.map (·.1.filter)) (qs.map (·.1.filter)) := by
    rw [← hnames]
    exact List.forall₂_same.2 fun name hname => ⟨rfl, hregistered name hname⟩
  rw [List.forall₂_map_left_iff, List.forall₂_map_right_iff] at h
  apply agree_resolve
  apply h.imp
  intro p q hpq
  exact ⟨hpq.2, hpq.1⟩

theorem collect_congr {t t' : Table} (h : ∀ name, t'.registration? name = t.registration? name)
    (select : Mapping → Bool) (i : Nat) (ms : List Mapping) :
    t'.collect select i ms = t.collect select i ms := by
  induction ms generalizing i with
  | nil => rfl
  | cons m ms ih => simp only [collect, registrationOf, h, ih]

/-- Tables with the same mappings that look names up alike build alike, reports included. -/
theorem build_congr {t t' : Table} (hmappings : t'.mappings = t.mappings)
    (hregistered : ∀ name, t'.registration? name = t.registration? name)
    (handler : Option H) (d : Dispatch) : t'.build handler d = t.build handler d := by
  have hchain : t'.chainFilters d = t.chainFilters d := by
    simp only [chainFilters, hmappings, collect_congr hregistered]
  unfold build isEmpty
  rw [hmappings, hchain]

/-- Tables that agree on the selected names, pass by pass, and on what is registered under them
build the same chain or miss a registration of the same name. -/
theorem build_agree_of_selected {t t' : Table} {d : Dispatch} (h : H)
    (hurl : t.namesByUrl d = t'.namesByUrl d)
    (hservlet : t.namesByServlet d = t'.namesByServlet d)
    (hregistered : ∀ name ∈ t.namesByUrl d ++ t.namesByServlet d,
      t.registration? name = t'.registration? name) :
    (∃ c, (t.build (some h) d).value = .ok (some c) ∧
      (t'.build (some h) d).value = .ok (some c)) ∨
    ∃ e e', (t.build (some h) d).value = .error e ∧ (t'.build (some h) d).value = .error e' ∧
      e.filter = e'.filter := by
  rw [← map_selected] at hregistered
  have hnames : (t.selected d).map (·.1.filter) = (t'.selected d).map (·.1.filter) := by
    rw [map_selected, map_selected, hurl, hservlet]
  rcases (agree_resolve_of_names hnames hregistered).cases_outcomes with
    ⟨filters, hok, hok'⟩ | ⟨e, e', herror, herror', hfilter⟩
  · refine .inl ⟨⟨h, filters⟩, ?_, ?_⟩
    · rw [build_value, hok]
      rfl
    · rw [build_value, hok']
      rfl
  · refine .inr ⟨e, e', ?_, ?_, hfilter⟩
    · rw [build_value, herror]
      rfl
    · rw [build_value, herror']
      rfl

def signIn : Registration := ⟨"SignIn", "com.example.SignIn", .ofList [("realm", "users")], false⟩

def trace : Registration := ⟨"Trace", "", .empty, true⟩

def plain : Table := ofDeclarations [
  .filter signIn,
  .filter trace,
  .mapping (.of "SignIn" (.url "/api/*") .empty),
  .mapping (.of "Trace" (.servlet "Users") .empty)]

/-- The same filters for a request of users, by other patterns and in another order, among a mapping
and a filter that such a request does not meet. -/
def crowded : Table := ofDeclarations [
  .mapping (.of "Trace" (.servlet "*") .all),
  .mapping (.of "Admin" (.url "/admin/*") .empty),
  .filter trace,
  .filter ⟨"Idle", "", .empty, false⟩,
  .mapping (.of "SignIn" (.url "*.json") .empty),
  .filter signIn]

def usersRequest : Dispatch := ⟨some "/api/users.json", some "Users", .request⟩

theorem build_agree_of_selected_crowded :
    (plain.namesByUrl usersRequest = crowded.namesByUrl usersRequest ∧
      plain.namesByServlet usersRequest = crowded.namesByServlet usersRequest ∧
      ∀ name ∈ plain.namesByUrl usersRequest ++ plain.namesByServlet usersRequest,
        plain.registration? name = crowded.registration? name) ∧
    ((∃ c, (plain.build (some "Users") usersRequest).value = .ok (some c) ∧
      (crowded.build (some "Users") usersRequest).value = .ok (some c)) ∨
    ∃ e e', (plain.build (some "Users") usersRequest).value = .error e ∧
      (crowded.build (some "Users") usersRequest).value = .error e' ∧ e.filter = e'.filter) := by
  have hurl : plain.namesByUrl usersRequest = crowded.namesByUrl usersRequest := by decide
  have hservlet : plain.namesByServlet usersRequest = crowded.namesByServlet usersRequest := by
    decide
  have hregistered : ∀ name ∈ plain.namesByUrl usersRequest ++ plain.namesByServlet usersRequest,
      plain.registration? name = crowded.registration? name := by decide
  exact ⟨⟨hurl, hservlet, hregistered⟩, build_agree_of_selected "Users" hurl hservlet hregistered⟩

end Table

end ServletFilters
