import Mathlib.Algebra.GroupWithZero.Nat
import ServletFilters.Proofs.TwoPasses
import ServletFilters.Store

/-!
What builds, publications and reloads report: the metrics and error logs of one operation account
for its chain or failure and for the tables it consumed, and generations are logged in order.
-/

namespace ServletFilters

variable {H : Type}

namespace Event

/-- What an event adds to the metric with this name and these labels. -/
def amount (name : String) (labels : List (String × String)) : Event → ℕ
  | .log _ => 0
  | .metric m => if m.name = name ∧ m.labels = labels then m.value?.getD 0 else 0

/-- How much a counter grows by the updates among some events. -/
def growth (name : String) (labels : List (String × String)) (es : List Event) : ℕ :=
  (es.map (amount name labels)).sum

/-- The values that a histogram receives, in order. -/
def records (name : String) (es : List Event) : List ℕ :=
  es.filterMap fun
    | .log _ => none
    | .metric m => if m.name = name then m.value? else none

def errorLogs (es : List Event) : List LogEntry :=
  es.filterMap fun
    | .log l => if l.level = .error then some l else none
    | .metric _ => none

/-- The generations that are logged as published, in order. -/
def generations (es : List Event) : List UInt64 :=
  es.filterMap fun
    | .log (.published generation _) => some generation
    | _ => none

theorem growth_append (name : String) (labels : List (String × String)) (es fs : List Event) :
    growth name labels (es ++ fs) = growth name labels es + growth name labels fs := by
  rw [growth, List.map_append, List.sum_append]
  rfl

theorem records_append (name : String) (es fs : List Event) :
    records name (es ++ fs) = records name es ++ records name fs :=
  List.filterMap_append

theorem errorLogs_append (es fs : List Event) :
    errorLogs (es ++ fs) = errorLogs es ++ errorLogs fs :=
  List.filterMap_append

end Event

open Event

/-- A build against a table that failed with an error. -/
structure FailedBuild where
  table : Table
  error : MissingRegistration

/-- The log entry that is due for a failed build: it has the pattern of the mapping that the table
holds at the index of the error. -/
def FailedBuild.entry? (f : FailedBuild) : Option LogEntry :=
  f.table.mappings[f.error.index]?.map fun m =>
    .unregistered f.error.filter f.error.index m.target.pattern

/-- The metrics and error logs among some events are exactly those of these chains, these failures
and so many tables of feeds. -/
structure Accounts (chains : List (Dispatcher × Chain H)) (failures : List FailedBuild)
    (consumed : ℕ) (es : List Event) : Prop where
  builds (t : Dispatcher) : growth "filter_chain_builds_total" [("dispatcher", t.name)] es =
    (chains.filter fun c => c.1 = t).length
  lengths : records "filter_chain_length" es = chains.map fun c => c.2.filters.length
  integrity : growth "filter_chain_integrity_failures_total" [] es = failures.length
  errors : (errorLogs es).map some = failures.map FailedBuild.entry?
  reloads : growth "filter_chain_reloads_total" [("outcome", "applied")] es = consumed

namespace Accounts

variable {chains chains' : List (Dispatcher × Chain H)}
  {failures failures' : List FailedBuild} {consumed consumed' : ℕ} {es es' : List Event}

theorem nil : Accounts (H := H) [] [] 0 [] := ⟨fun _ => rfl, rfl, rfl, rfl, rfl⟩

theorem append (h : Accounts chains failures consumed es)
    (h' : Accounts chains' failures' consumed' es') :
    Accounts (chains ++ chains') (failures ++ failures') (consumed + consumed') (es ++ es') where
  builds t := by rw [growth_append, h.builds, h'.builds, List.filter_append, List.length_append]
  lengths := by rw [records_append, h.lengths, h'.lengths, List.map_append]
  integrity := by rw [growth_append, h.integrity, h'.integrity, List.length_append]
  errors := by rw [errorLogs_append, List.map_append, h.errors, h'.errors, List.map_append]
  reloads := by rw [growth_append, h.reloads, h'.reloads]

theorem log {l : LogEntry} (h : l.level ≠ .error) : Accounts (H := H) [] [] 0 [.log l] where
  builds _ := rfl
  lengths := rfl
  integrity := rfl
  errors := by simp [errorLogs, h]
  reloads := rfl

theorem builtMetrics (type : Dispatcher) (c : Chain H) :
    Accounts [(type, c)] [] 0 (Table.builtMetrics type c.filters.length) where
  builds t := by
    have hname : type.name = t.name ↔ type = t := ⟨Dispatcher.name_injective, congrArg _⟩
    by_cases ht : type = t <;>
      simp [growth, amount, Table.builtMetrics, Metric.name, Metric.labels, Metric.value?, hname,
        ht]
  lengths := by simp [records, Table.builtMetrics, Metric.name, Metric.value?]
  integrity := by simp [growth, amount, Table.builtMetrics, Metric.name]
  errors := rfl
  reloads := by simp [growth, amount, Table.builtMetrics, Metric.name]

theorem missed {t : Table} {m : Mapping} {i : ℕ} (h : t.mappings[i]? = some m) :
    Accounts (H := H) [] [⟨t, ⟨m.filter, i⟩⟩] 0 (Table.missedEvents i m) where
  builds t := by simp [growth, amount, Table.missedEvents, Metric.name]
  lengths := by simp [records, Table.missedEvents, Metric.name]
  integrity := by
    simp [growth, amount, Table.missedEvents, Metric.name, Metric.labels, Metric.value?]
  errors := by simp [errorLogs, Table.missedEvents, LogEntry.level, FailedBuild.entry?, h]
  reloads := by simp [growth, amount, Table.missedEvents, Metric.name]

theorem applied : Accounts (H := H) [] [] 1 [.metric (.reloads .applied)] where
  builds t := by simp [growth, amount, Metric.name]
  lengths := by simp [records, Metric.name]
  integrity := by simp [growth, amount, Metric.name]
  errors := rfl
  reloads := by
    simp [growth, amount, Metric.name, Metric.labels, Metric.value?, ReloadOutcome.name]

theorem publish (store : Store) (next : Snapshot) :
    Accounts (H := H) [] [] 0 (store.publish next).events :=
  log (by simp [LogEntry.level])

theorem reload (store : Store) (feed : List Snapshot) :
    Accounts (H := H) [] [] feed.length (store.reload feed).events := by
  induction feed generalizing store with
  | nil => exact log (by decide)
  | cons next later ih =>
    have hfirst : Accounts (H := H) [] [] 1
        ((store.publish next).events ++ [.metric (.reloads .applied)]) :=
      (publish store next).append applied
    have hall := hfirst.append (ih (store.publish next).value.1)
    rw [List.append_assoc, Nat.add_comm] at hall
    exact hall

end Accounts

namespace Table

/-- How a scan of mappings of a table ends: it reports nothing, or a missing registration where it
is missed. -/
inductive ScanReport {α : Type} (t : Table) : Reported (Except MissingRegistration α) → Prop where
  | found (a : α) : ScanReport t (.silent (.ok a))
  | missed {m : Mapping} {i : ℕ} (h : t.mappings[i]? = some m) :
    ScanReport t ⟨.error ⟨m.filter, i⟩, missedEvents i m⟩

theorem ScanReport.andThen {α β : Type} {t : Table} {x : Reported (Except MissingRegistration α)}
    {next : α → Reported (Except MissingRegistration β)} (h : ScanReport t x)
    (hnext : ∀ a, ScanReport t (next a)) : ScanReport t (x.andThen next) := by
  cases h with
  | found a => exact hnext a
  | missed h => exact .missed h

theorem scanReport_registrationOf {t : Table} {m : Mapping} {i : ℕ}
    (h : t.mappings[i]? = some m) : ScanReport t (t.registrationOf i m) := by
  unfold registrationOf
  cases t.registration? m.filter with
  | none => exact .missed h
  | some r => exact .found r

theorem scanReport_collect {t : Table} (select : Mapping → Bool) {i : ℕ} {ms : List Mapping}
    (h : t.mappings.drop i = ms) : ScanReport t (t.collect select i ms) := by
  induction ms generalizing i with
  | nil => exact .found []
  | cons m ms ih =>
    obtain ⟨hm, hms⟩ : t.mappings[i]? = some m ∧ t.mappings.drop (i + 1) = ms := by
      rw [← List.head?_drop, List.drop_add_one_eq_tail_drop, h]
      exact ⟨rfl, rfl⟩
    rw [collect]
    split
    · exact (scanReport_registrationOf hm).andThen fun r => (ih hms).andThen fun rs => .found _
    · exact ih hms

theorem scanReport_chainFilters (t : Table) (d : Dispatch) : ScanReport t (t.chainFilters d) :=
  (scanReport_collect _ rfl).andThen fun _ => (scanReport_collect _ rfl).andThen fun _ => .found _

/-- How a build ends, with all that it reports. -/
inductive BuildReport (t : Table) (d : Dispatch) :
    Reported (Except MissingRegistration (Option (Chain H))) → Prop where
  | noHandler : BuildReport t d ⟨.ok none, [.log (.noHandler d.type)]⟩
  | atOnce (h : H) (hempty : t.mappings = []) :
    BuildReport t d ⟨.ok (some ⟨h, []⟩), builtMetrics d.type 0⟩
  | scanned (c : Chain H) (hne : t.mappings ≠ []) : BuildReport t d ⟨.ok (some c),
      .log (.chainBuilt d c.filters.length) :: builtMetrics d.type c.filters.length⟩
  | missed {m : Mapping} {i : ℕ} (h : t.mappings[i]? = some m) :
    BuildReport t d ⟨.error ⟨m.filter, i⟩, missedEvents i m⟩

theorem buildReport (t : Table) (handler : Option H) (d : Dispatch) :
    BuildReport t d (t.build handler d) := by
  unfold build
  cases handler with
  | none => exact .noHandler
  | some h =>
    by_cases hempty : t.isEmpty = true
    · simp only [hempty, if_true]
      exact .atOnce h (List.isEmpty_iff.1 hempty)
    · simp only [hempty, Bool.false_eq_true, if_false]
      have hscan := t.scanReport_chainFilters d
      generalize t.chainFilters d = scan at hscan
      cases hscan with
      | found filters => exact .scanned ⟨h, filters⟩ fun hnil => hempty (List.isEmpty_iff.2 hnil)
      | missed h => exact .missed h

/-- The failure of a build tells of the mapping at its index. -/
theorem mapping_of_build_error {t : Table} {handler : Option H} {d : Dispatch}
    {e : MissingRegistration} (h : (t.build handler d).value = .error e) :
    ∃ m, t.mappings[e.index]? = some m ∧ m.filter = e.filter := by
  have hreport := t.buildReport handler d
  generalize t.build handler d = built at hreport h
  cases hreport with
  | missed hm =>
    cases h
    exact ⟨_, hm, rfl⟩
  | _ => cases h

/-- Builds publish nothing. -/
theorem generations_build (t : Table) (handler : Option H) (d : Dispatch) :
    generations (t.build handler d).events = [] := by
  have hreport := t.buildReport handler d
  generalize t.build handler d = built at hreport
  cases hreport <;> rfl

end Table

namespace Store

/-- The `n` generations that come after `g`. -/
def generationsAfter (g : UInt64) : ℕ → List UInt64
  | 0 => []
  | n + 1 => (g + 1) :: generationsAfter (g + 1) n

theorem add_one_add_ofNat (g : UInt64) (n : ℕ) : g + 1 + .ofNat n = g + .ofNat (n + 1) := by
  rw [UInt64.ofNat_add, UInt64.add_assoc, UInt64.add_comm (.ofNat n)]
  rfl

theorem generationsAfter_add (g : UInt64) (m n : ℕ) :
    generationsAfter g (m + n) = generationsAfter g m ++ generationsAfter (g + .ofNat m) n := by
  induction m generalizing g with
  | zero => simp [generationsAfter]
  | succ m ih =>
    rw [Nat.add_right_comm, generationsAfter, generationsAfter, ih, add_one_add_ofNat,
      List.cons_append]

theorem generationsAfter_ofNat (g n : ℕ) :
    generationsAfter (.ofNat g) n = (List.range' (g + 1) n).map .ofNat := by
  induction n generalizing g with
  | zero => rfl
  | succ n ih =>
    have hnext : UInt64.ofNat g + 1 = .ofNat (g + 1) := (UInt64.ofNat_add g 1).symm
    rw [generationsAfter, hnext, ih, List.range'_succ, List.map_cons]

theorem map_toNat_ofNat_range' {n : ℕ} (h : n < UInt64.size) :
    ((List.range' 1 n).map UInt64.ofNat).map (·.toNat) = List.range' 1 n := by
  have hid : ∀ i ∈ List.range' 1 n, ((·.toNat) ∘ UInt64.ofNat) i = id i := by
    intro i hi
    have hbounds := List.mem_range'_1.1 hi
    exact UInt64.toNat_ofNat_of_lt' (by omega)
  rw [List.map_map, List.map_congr_left hid, List.map_id]

theorem generation_reload (store : Store) (feed : List Snapshot) :
    (store.reload feed).value.generation = store.generation + .ofNat feed.length := by
  induction feed generalizing store with
  | nil => simp [reload]
  | cons next later ih => rw [reload, ih, publish, add_one_add_ofNat, List.length_cons]

theorem generations_reload (store : Store) (feed : List Snapshot) :
    generations (store.reload feed).events = generationsAfter store.generation feed.length := by
  induction feed generalizing store with
  | nil => rfl
  | cons next later ih =>
    calc generations (store.reload (next :: later)).events
      _ = (store.generation + 1) ::
          generations ((store.publish next).value.1.reload later).events := rfl
      _ = generationsAfter store.generation (next :: later).length := by rw [ih]; rfl

end Store

end ServletFilters
