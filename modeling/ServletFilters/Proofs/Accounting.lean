import Mathlib.Data.List.Basic
import Mathlib.Data.Option.Basic
import Mathlib.Logic.Function.Basic
import ServletFilters.Proofs.Reports

/-!
Runs of calls on builders and stores, and that what a run reports agrees with what its calls did:
chains and their lengths, failed builds, reloads, and generations.
-/

namespace ServletFilters

variable {H : Type}

/-- A call of an operation that reports. Stores are told apart by number. A build is against the
table that its builder holds, which may be of any age. -/
inductive Call (H : Type) where
  | build (table : Table) (handler : Option H) (dispatch : Dispatch)
  | publish (store : ℕ) (next : Snapshot)
  | reload (store : ℕ) (feed : List Snapshot)

namespace Call

/-- The stores after a call, with what it reported. -/
def perform (stores : ℕ → Store) : Call H → Reported (ℕ → Store)
  | .build t handler d => ⟨stores, (t.build handler d).events⟩
  | .publish k next =>
    let published := (stores k).publish next
    ⟨Function.update stores k published.value.1, published.events⟩
  | .reload k feed =>
    let reloaded := (stores k).reload feed
    ⟨Function.update stores k reloaded.value, reloaded.events⟩

/-- The calls of a run, each with what it reported. -/
def journal (stores : ℕ → Store) : List (Call H) → List (Call H × List Event)
  | [] => []
  | call :: calls =>
    let done := call.perform stores
    (call, done.events) :: journal done.value calls

/-- The chain that a call returned, if any, with the type of its dispatch. -/
def chains : Call H → List (Dispatcher × Chain H)
  | .build t handler d =>
    match (t.build handler d).value with
    | .ok (some c) => [(d.type, c)]
    | _ => []
  | _ => []

/-- The failure that a call returned, if any. -/
def failures : Call H → List FailedBuild
  | .build t handler d =>
    match (t.build handler d).value with
    | .error e => [⟨t, e⟩]
    | .ok _ => []
  | _ => []

/-- How many tables of a feed a call consumed. -/
def consumed : Call H → ℕ
  | .reload _ feed => feed.length
  | _ => 0

/-- How many tables a call gave to store `k`. -/
def given (k : ℕ) : Call H → ℕ
  | .build _ _ _ => 0
  | .publish j _ => if j = k then 1 else 0
  | .reload j feed => if j = k then feed.length else 0

/-- The call is not of a store other than `k`. -/
def concerns (k : ℕ) : Call H → Bool
  | .build _ _ _ => true
  | .publish j _ => j == k
  | .reload j _ => j == k

/-- What a run reported, the calls of stores other than `k` apart. -/
def eventsFor (k : ℕ) (run : List (Call H × List Event)) : List Event :=
  (run.filter fun done => done.1.concerns k).flatMap Prod.snd

end Call

open Event

namespace Call

theorem accounts (stores : ℕ → Store) (call : Call H) :
    Accounts call.chains call.failures call.consumed (call.perform stores).events := by
  cases call with
  | build t handler d =>
    -- one case for each way out of a build
    have hreport := t.buildReport handler d
    simp only [chains, failures, perform, consumed]
    generalize t.build handler d = built at hreport
    cases hreport with
    | noHandler => exact .log (by simp [LogEntry.level])
    | atOnce h _ => exact .builtMetrics d.type ⟨h, []⟩
    | scanned c _ =>
      have hlog : Accounts (H := H) [] [] 0 [.log (.chainBuilt d c.filters.length)] :=
        .log (by simp [LogEntry.level])
      exact hlog.append (.builtMetrics d.type c)
    | missed h => exact .missed h
  | publish k next => exact .publish (stores k) next
  | reload k feed => exact .reload (stores k) feed

theorem generation_perform (stores : ℕ → Store) (k : ℕ) (call : Call H) :
    ((call.perform stores).value k).generation =
      (stores k).generation + .ofNat (call.given k) := by
  cases call with
  | build t handler d => simp [perform, given]
  | publish j next =>
    by_cases hjk : j = k
    · subst hjk
      simp [perform, given, Store.publish]
    · simp [perform, given, hjk, Function.update_of_ne (Ne.symm hjk)]
  | reload j feed =>
    by_cases hjk : j = k
    · subst hjk
      simp [perform, given, Store.generation_reload]
    · simp [perform, given, hjk, Function.update_of_ne (Ne.symm hjk)]

theorem generations_perform (stores : ℕ → Store) (k : ℕ) (call : Call H) :
    (if call.concerns k then generations (call.perform stores).events else []) =
      Store.generationsAfter (stores k).generation (call.given k) := by
  cases call with
  | build t handler d => exact t.generations_build handler d
  | publish j next =>
    by_cases hjk : j = k
    · subst hjk
      rw [concerns, beq_self_eq_true, if_pos rfl, given, if_pos rfl]
      rfl
    · simp [concerns, given, hjk, Store.generationsAfter]
  | reload j feed =>
    by_cases hjk : j = k
    · subst hjk
      rw [concerns, beq_self_eq_true, if_pos rfl, given, if_pos rfl]
      exact (stores j).generations_reload feed
    · simp [concerns, given, hjk, Store.generationsAfter]

theorem map_fst_journal (stores : ℕ → Store) (calls : List (Call H)) :
    (journal stores calls).map Prod.fst = calls := by
  induction calls generalizing stores with
  | nil => rfl
  | cons call calls ih => rw [journal, List.map_cons, ih]

theorem exists_stores_of_mem_journal {stores : ℕ → Store} {calls : List (Call H)}
    {done : Call H × List Event} (h : done ∈ journal stores calls) :
    ∃ before, done.2 = (done.1.perform before).events := by
  induction calls generalizing stores with
  | nil => cases h
  | cons call calls ih =>
    rcases List.mem_cons.1 h with rfl | hlater
    · exact ⟨stores, rfl⟩
    · exact ih hlater

theorem accounts_journal (stores : ℕ → Store) (calls : List (Call H)) :
    Accounts (calls.flatMap chains) (calls.flatMap failures) (calls.map consumed).sum
      ((journal stores calls).flatMap Prod.snd) := by
  induction calls generalizing stores with
  | nil => exact .nil
  | cons call calls ih =>
    simp only [journal, List.flatMap_cons, List.map_cons, List.sum_cons]
    exact (call.accounts stores).append (ih _)

theorem generations_eventsFor_cons (k : ℕ) (done : Call H × List Event)
    (run : List (Call H × List Event)) :
    generations (eventsFor k (done :: run)) =
      (if done.1.concerns k then generations done.2 else []) ++ generations (eventsFor k run) := by
  unfold eventsFor
  rw [List.filter_cons]
  split
  · exact List.filterMap_append
  · rfl

theorem generations_journal (stores : ℕ → Store) (k : ℕ) (calls : List (Call H)) :
    generations (eventsFor k (journal stores calls)) =
      Store.generationsAfter (stores k).generation (calls.map (given k)).sum := by
  -- the later calls start from the stores that the first one leaves
  induction calls generalizing stores with
  | nil => rfl
  | cons call calls ih =>
    rw [journal, generations_eventsFor_cons, ih, generation_perform, generations_perform,
      List.map_cons, List.sum_cons, Store.generationsAfter_add]

/-- What the calls of a run reported agrees with what they did, call by call and over the whole
run. -/
structure Accounted (calls : List (Call H)) (run : List (Call H × List Event)) : Prop where
  order : run.map Prod.fst = calls
  each (done) (h : done ∈ run) : Accounts done.1.chains done.1.failures done.1.consumed done.2
  whole : Accounts (calls.flatMap chains) (calls.flatMap failures) (calls.map consumed).sum
    (run.flatMap Prod.snd)
  failed (t handler d es) (h : (.build t handler d, es) ∈ run) (e : MissingRegistration)
    (herror : (t.build handler d).value = .error e) :
    ∃ m, t.mappings[e.index]? = some m ∧ m.filter = e.filter ∧
      errorLogs es = [.unregistered e.filter e.index m.target.pattern]
  noHandler (t d es) (h : (.build t none d, es) ∈ run) (m : Metric) : .metric m ∉ es
  publish (k next es) (h : (.publish k next, es) ∈ run) (m : Metric) : .metric m ∉ es
  counted (k : ℕ) : generations (eventsFor k run) =
    (List.range' 1 (calls.map (given k)).sum).map .ofNat
  /-- The counter of a store does not run over in fewer than `2 ^ 64` publications. -/
  numbers (k : ℕ) (h : (calls.map (given k)).sum < UInt64.size) :
    (generations (eventsFor k run)).map (·.toNat) = List.range' 1 (calls.map (given k)).sum

/-- From new stores on, every run of calls reports what it did. -/
theorem reports_account (first : ℕ → Snapshot) (calls : List (Call H)) :
    Accounted calls (journal (fun k => .ofSnapshot (first k)) calls) := by
  have hcounted (k : ℕ) :
      generations (eventsFor k (journal (fun k => .ofSnapshot (first k)) calls)) =
        (List.range' 1 (calls.map (given k)).sum).map .ofNat :=
    (generations_journal _ k calls).trans (Store.generationsAfter_ofNat 0 _)
  have heach : ∀ done ∈ journal (fun k => .ofSnapshot (first k)) calls,
      Accounts done.1.chains done.1.failures done.1.consumed done.2 := by
    intro done hdone
    obtain ⟨before, hevents⟩ := exists_stores_of_mem_journal hdone
    rw [hevents]
    exact done.1.accounts before
  refine ⟨map_fst_journal _ calls, heach, accounts_journal _ calls, ?_, ?_, ?_, hcounted, ?_⟩
  · intro t handler d es hdone e herror
    obtain ⟨m, hm, hfilter⟩ := Table.mapping_of_build_error herror
    have herrors := (heach _ hdone).errors
    -- the only error log of the call tells of that mapping
    simp only [failures, herror, List.map_cons, List.map_nil, FailedBuild.entry?, hm,
      Option.map_some] at herrors
    exact ⟨m, hm, hfilter, List.map_injective_iff.2 (Option.some_injective _) herrors⟩
  · intro t d es hdone m
    obtain ⟨before, hevents⟩ := exists_stores_of_mem_journal hdone
    have hes : es = (t.build (none : Option H) d).events := hevents
    simp [hes, Table.build]
  · intro k next es hdone m
    obtain ⟨before, hevents⟩ := exists_stores_of_mem_journal hdone
    have hes : es = ((before k).publish next).events := hevents
    simp [hes, Store.publish]
  · intro k hcount
    rw [hcounted]
    exact Store.map_toNat_ofNat_range' hcount

/-- The filter of the second mapping is not registered. -/
def lapsed : Table :=
  .ofDeclarations [.filter ⟨"Audit", "", .empty, true⟩,
    .mapping (.of "Audit" (.url "/*") .empty), .mapping (.of "Gzip" (.url "*.js") .empty)]

/-- A build without mappings, one with a chain, one that fails and one without a handler, among
publications to two stores. -/
def mixedCalls : List (Call String) := [
  .build .empty (some "Api") ⟨some "/a", none, .request⟩,
  .reload 0 [⟨1, lapsed⟩, ⟨2, .empty⟩],
  .build lapsed (some "Api") ⟨some "/a", none, .request⟩,
  .publish 1 ⟨3, .empty⟩,
  .build lapsed (some "Api") ⟨some "/a.js", none, .request⟩,
  .build lapsed none ⟨some "/a", none, .request⟩,
  .publish 0 ⟨4, lapsed⟩]

theorem reports_account_mixed :
    let run := journal (fun _ => .ofSnapshot ⟨0, .empty⟩) mixedCalls
    let es := run.flatMap Prod.snd
    growth "filter_chain_builds_total" [("dispatcher", "REQUEST")] es = 2 ∧
      records "filter_chain_length" es = [0, 1] ∧
      growth "filter_chain_integrity_failures_total" [] es = 1 ∧
      errorLogs es = [.unregistered "Gzip" 1 "*.js"] ∧
      growth "filter_chain_reloads_total" [("outcome", "applied")] es = 2 ∧
      (generations (eventsFor 0 run)).map (·.toNat) = [1, 2, 3] ∧
      (generations (eventsFor 1 run)).map (·.toNat) = [1] := by
  intro run es
  have h : Accounted mixedCalls run := reports_account (fun _ => ⟨0, .empty⟩) mixedCalls
  have hsome := List.map_injective_iff.2 (Option.some_injective LogEntry)
  refine ⟨(h.whole.builds .request).trans ?_, h.whole.lengths.trans ?_, h.whole.integrity.trans ?_,
    hsome (h.whole.errors.trans ?_), h.whole.reloads.trans ?_, (h.numbers 0 ?_).trans ?_,
    (h.numbers 1 ?_).trans ?_⟩
  all_goals decide +kernel

end Call

end ServletFilters
