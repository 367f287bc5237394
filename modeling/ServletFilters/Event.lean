import ServletFilters.Dispatch

/-!
What the operations on tables and stores report: log entries and metric updates, in order.
-/

namespace ServletFilters

inductive Level where
  | error
  | warn
  | info
  | debug
  | trace
  deriving DecidableEq, Repr

namespace Level

def name : Level → String
  | .error => "ERROR"
  | .warn => "WARN"
  | .info => "INFO"
  | .debug => "DEBUG"
  | .trace => "TRACE"

/-- From 1 for errors to 5 for traces. -/
def verbosity : Level → Nat
  | .error => 1
  | .warn => 2
  | .info => 3
  | .debug => 4
  | .trace => 5

end Level

/-- The value of a log field. A quoted text is shown in quotes where a log line is written. -/
inductive FieldValue where
  | number (n : Nat)
  | bare (text : String)
  | quoted (text : String)
  deriving DecidableEq, Repr

inductive LogEntry where
  | noHandler (type : Dispatcher)
  | chainBuilt (dispatch : Dispatch) (filters : Nat)
  | unregistered (filter : String) (index : Nat) (pattern : String)
  | published (generation : UInt64) (mappings : Nat)
  | feedClosed
  | descriptorLoaded (path : String) (filters servlets mappings : Nat)
  | watcherStarted (path : String)
  | changeDetected (path : String)
  | reloadFailed (error : String)
  deriving DecidableEq, Repr

namespace LogEntry

def level : LogEntry → Level
  | .noHandler _ => .trace
  | .chainBuilt _ _ => .debug
  | .unregistered _ _ _ => .error
  | .published _ _ => .info
  | .feedClosed => .debug
  | .descriptorLoaded _ _ _ _ => .debug
  | .watcherStarted _ => .info
  | .changeDetected _ => .info
  | .reloadFailed _ => .error

/-- The component that the entry is logged under. -/
def component : LogEntry → String
  | .noHandler _ => "filter_chain::chain::builder"
  | .chainBuilt _ _ => "filter_chain::chain::builder"
  | .unregistered _ _ _ => "filter_chain::chain::builder"
  | .published _ _ => "filter_chain::mapping::store"
  | .feedClosed => "filter_chain::mapping::store"
  | .descriptorLoaded _ _ _ _ => "filter_chain"
  | .watcherStarted _ => "filter_chain::config::watcher"
  | .changeDetected _ => "filter_chain::config::watcher"
  | .reloadFailed _ => "filter_chain::config::watcher"

def message : LogEntry → String
  | .noHandler _ => "No handler to wrap, skipping filter chain"
  | .chainBuilt _ _ => "Filter chain built"
  | .unregistered _ _ _ => "Filter mapping references an unregistered filter"
  | .published _ _ => "Mapping table published"
  | .feedClosed => "Mapping table update channel closed"
  | .descriptorLoaded _ _ _ _ => "Descriptor loaded"
  | .watcherStarted _ => "Descriptor watcher started"
  | .changeDetected _ => "Descriptor change detected, reloading"
  | .reloadFailed _ => "Failed to reload descriptor, keeping current mapping table"

/-- An absent path or servlet is shown as a dash. -/
def fields : LogEntry → List (String × FieldValue)
  | .noHandler type => [("dispatcher", .bare type.name)]
  | .chainBuilt d filters =>
    [("dispatcher", .bare d.type.name), ("path", .quoted (d.path.getD "-")),
      ("servlet", .quoted (d.servlet.getD "-")), ("filters", .number filters)]
  | .unregistered filter index pattern =>
    [("filter", .quoted filter), ("mapping_index", .number index), ("pattern", .quoted pattern)]
  | .published generation mappings =>
    [("generation", .number generation.toNat), ("mappings", .number mappings)]
  | .feedClosed => []
  | .descriptorLoaded path filters servlets mappings =>
    [("path", .quoted path), ("filters", .number filters), ("servlets", .number servlets),
      ("mappings", .number mappings)]
  | .watcherStarted path => [("path", .quoted path)]
  | .changeDetected path => [("path", .quoted path)]
  | .reloadFailed error => [("error", .bare error)]

/-- The message is a field as well. -/
def fieldNames (l : LogEntry) : List String := "message" :: l.fields.map Prod.fst

end LogEntry

inductive ReloadOutcome where
  | applied
  | rejected
  deriving DecidableEq, Repr

def ReloadOutcome.name : ReloadOutcome → String
  | .applied => "applied"
  | .rejected => "rejected"

inductive Metric where
  | chainsBuilt (type : Dispatcher)
  | chainLength (filters : Nat)
  | buildDuration
  | integrityFailures
  | reloads (outcome : ReloadOutcome)
  deriving DecidableEq, Repr

namespace Metric

def name : Metric → String
  | .chainsBuilt _ => "filter_chain_builds_total"
  | .chainLength _ => "filter_chain_length"
  | .buildDuration => "filter_chain_build_duration_seconds"
  | .integrityFailures => "filter_chain_integrity_failures_total"
  | .reloads _ => "filter_chain_reloads_total"

/-- A counter adds up its updates; every other metric collects them. -/
def isCounter : Metric → Bool
  | .chainsBuilt _ | .integrityFailures | .reloads _ => true
  | .chainLength _ | .buildDuration => false

def labels : Metric → List (String × String)
  | .chainsBuilt type => [("dispatcher", type.name)]
  | .reloads outcome => [("outcome", outcome.name)]
  | .chainLength _ | .buildDuration | .integrityFailures => []

/-- The amount of the update; a duration is not predicted. -/
def value? : Metric → Option Nat
  | .chainsBuilt _ | .integrityFailures | .reloads _ => some 1
  | .chainLength n => some n
  | .buildDuration => none

end Metric

inductive Event where
  | log (entry : LogEntry)
  | metric (update : Metric)
  deriving DecidableEq, Repr

/-- The outcome of an operation with what it reported on the way. -/
structure Reported (α : Type) where
  value : α
  events : List Event

namespace Reported

/-- An outcome with nothing reported. -/
def silent (a : α) : Reported α := ⟨a, []⟩

/-- Goes on from an outcome that is no failure, and reports what was met before and after. -/
def andThen (x : Reported (Except ε α)) (next : α → Reported (Except ε β)) :
    Reported (Except ε β) :=
  match x.value with
  | .error e => ⟨.error e, x.events⟩
  | .ok a =>
    let later := next a
    ⟨later.value, x.events ++ later.events⟩

@[simp]
theorem value_andThen (x : Reported (Except ε α)) (next : α → Reported (Except ε β)) :
    (x.andThen next).value = x.value.bind fun a => (next a).value := by
  unfold andThen
  cases x.value <;> rfl

end Reported

end ServletFilters
