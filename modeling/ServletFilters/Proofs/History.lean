import Mathlib.Data.List.Induction
import ServletFilters.Session

/-!
What a run of steps has done to the stores of a session, told from the steps alone, and how the
current snapshot keeps count of it.
-/

namespace ServletFilters
open Session

/-- From which store, counted from the first one, and after how many of its publications. -/
structure Moment where
  store : ℕ
  generation : ℕ
  deriving DecidableEq

/-- The tables that the latest store was given, and when the named snapshots were taken. -/
structure History where
  stores : ℕ
  first : Table
  published : List Table
  taken : Named Moment

namespace History

def initial : History := ⟨0, Table.empty, [], []⟩

def moment (h : History) : Moment := ⟨h.stores, h.published.length⟩

/-- The table published last, or the first one if none was. -/
def current (h : History) : Table := h.published.getLastD h.first

/-- A new store, with the table as its first. -/
def renew (h : History) (t : Table) : History :=
  { h with stores := h.stores + 1, first := t, published := [] }

def publish (h : History) (t : Table) : History := { h with published := h.published ++ [t] }

def take (h : History) (name : String) : History := { h with taken := h.taken.put name h.moment }

/-- A step that names a table which cannot be made leaves no trace. -/
def note (sources : Named TableSource) (h : History) : Step → History
  | .new table =>
    match tableNamed sources table with
    | .ok t => h.renew t
    | .error _ => h
  | .publish table =>
    match tableNamed sources table with
    | .ok t => h.publish t
    | .error _ => h
  | .reload tables =>
    match tables.mapM (tableNamed sources) with
    | .ok ts => ts.foldl publish h
    | .error _ => h
  | .snapshot name => h.take name
  | _ => h

/-- What a run of steps from the initial session has done. -/
def ofSteps (sources : Named TableSource) (steps : List Step) : History :=
  steps.foldl (note sources) initial

end History

namespace Session

/-- What a step does to a session: it shares tables, keeps a snapshot or a builder, or touches
nothing but chains. -/
inductive Effect (sources : Named TableSource) (s : Session) : Step → Session → Prop where
  | new {table : String} {t : Table} (h : tableNamed sources table = .ok t) :
    Effect sources s (.new table) (s.renew t)
  | publish {table : String} {t : Table} (h : tableNamed sources table = .ok t) :
    Effect sources s (.publish table) (s.publish t).value.1
  | reload {tables : List String} {ts : List Table}
    (h : tables.mapM (tableNamed sources) = .ok ts) :
    Effect sources s (.reload tables) (s.reload ts).value
  | snapshot (name : String) : Effect sources s (.snapshot name) (s.keepSnapshot name)
  | builder {name : String} {snapshot : Option String} {x : Snapshot}
    (h : s.snapshotOr snapshot = .ok x) :
    Effect sources s (.builder name snapshot) (s.keepBuilder name x)
  | chains {st : Step} (chains : Named (Chain String))
    (h : ∀ history : History, history.note sources st = history) :
    Effect sources s st { s with chains := chains }

variable {sources : Named TableSource} {s s' : Session} {st : Step}

theorem step_new {table : String} {t : Table} (h : tableNamed sources table = .ok t)
    (s : Session) :
    s.step sources (.new table) =
      (s.renew t, .silent (.ok (.generation (s.renew t).store.generation))) := by
  simp [step, perform, h, Reported.silent, bind, Except.bind, pure, Except.pure]

theorem step_publish {table : String} {t : Table} (h : tableNamed sources table = .ok t)
    (s : Session) :
    s.step sources (.publish table) =
      ((s.publish t).value.1,
        ⟨.ok (.generation (s.publish t).value.2), (s.publish t).events⟩) := by
  simp [step, perform, h]

theorem step_reload {tables : List String} {ts : List Table}
    (h : tables.mapM (tableNamed sources) = .ok ts) (s : Session) :
    s.step sources (.reload tables) =
      ((s.reload ts).value,
        ⟨.ok (.generation (s.reload ts).value.store.generation), (s.reload ts).events⟩) := by
  simp [step, perform, h]

theorem step_builder {snapshot : Option String} {x : Snapshot}
    (h : s.snapshotOr snapshot = .ok x) (name : String) :
    s.step sources (.builder name snapshot) =
      (s.keepBuilder name x, .silent (.ok (.mappings x.table.size))) := by
  simp [step, perform, h, Reported.silent, bind, Except.bind, pure, Except.pure]

theorem step_sameSnapshot_fst (s : Session) (a b : String) :
    (s.step sources (.sameSnapshot a b)).1 = s := by
  cases ha : named s.snapshots a <;> cases hb : named s.snapshots b <;>
    simp [step, perform, ha, hb, Reported.silent, bind, Except.bind, pure, Except.pure]

theorem step_lookup_fst (s : Session) (name : String) (builder : Option String) :
    (s.step sources (.lookup name builder)).1 = s := by
  cases h : s.builderOr builder <;>
    simp [step, perform, h, Reported.silent, bind, Except.bind, pure, Except.pure]

theorem step_equal_fst (s : Session) (a b : String) :
    (s.step sources (.equal a b)).1 = s := by
  cases ha : named s.chains a <;> cases hb : named s.chains b <;>
    simp [step, perform, ha, hb, Reported.silent, bind, Except.bind, pure, Except.pure]

theorem exists_chains_of_keepChain (s : Session) (name : Option String)
    (chain : Option (Chain String)) : ∃ chains, s.keepChain name chain = { s with chains } := by
  cases name with
  | none => exact ⟨s.chains, rfl⟩
  | some n =>
    cases chain with
    | none => exact ⟨s.chains, rfl⟩
    | some c => exact ⟨s.chains.put n c, rfl⟩

theorem exists_chains_of_build (s : Session) (request : DispatchRequest)
    (builder keepAs : Option String) :
    ∃ chains, (s.step sources (.build request builder keepAs)).1 = { s with chains } := by
  cases h : s.builderOr builder with
  | error e => exact ⟨s.chains, by simp [step, perform, h, Reported.silent]⟩
  | ok b =>
    cases hbuilt : (request.build b.table).value with
    | error e => exact ⟨s.chains, by simp [step, perform, h, hbuilt]⟩
    | ok chain =>
      have hkept : (s.step sources (.build request builder keepAs)).1 =
          s.keepChain keepAs chain := by
        simp [step, perform, h, hbuilt]
      rw [hkept]
      exact s.exists_chains_of_keepChain keepAs chain

theorem exists_chains_of_takeApart (s : Session) (chain : String) :
    ∃ chains, (s.step sources (.takeApart chain)).1 = { s with chains } := by
  cases h : named s.chains chain with
  | error e => exact ⟨s.chains, by simp [step, perform, h, Reported.silent, bind, Except.bind]⟩
  | ok c =>
    refine ⟨s.chains.erase chain, ?_⟩
    simp [step, perform, h, Reported.silent, bind, Except.bind, pure, Except.pure]

/-- A step that leaves the session as it is, and the history too. -/
theorem Effect.of_eq (hs : s' = s) (h : ∀ history : History, history.note sources st = history) :
    Effect sources s st s' := by
  rw [hs]
  exact .chains s.chains h

theorem Effect.of_exists_chains (hs : ∃ chains, s' = { s with chains })
    (h : ∀ history : History, history.note sources st = history) : Effect sources s st s' := by
  obtain ⟨chains, rfl⟩ := hs
  exact .chains chains h

/-- Where a name stands for nothing that can be had, a step has no effect. -/
theorem effect_step (sources : Named TableSource) (s : Session) (st : Step) :
    Effect sources s st (s.step sources st).1 := by
  cases st with
  | new table =>
    cases h : tableNamed sources table with
    | error e =>
      apply Effect.of_eq
      · simp [step, perform, h, Reported.silent, bind, Except.bind]
      · simp [History.note, h]
    | ok t =>
      rw [step_new h]
      exact .new h
  | publish table =>
    cases h : tableNamed sources table with
    | error e =>
      apply Effect.of_eq
      · simp [step, perform, h, Reported.silent]
      · simp [History.note, h]
    | ok t =>
      rw [step_publish h]
      exact .publish h
  | reload tables =>
    cases h : tables.mapM (tableNamed sources) with
    | error e =>
      apply Effect.of_eq
      · simp [step, perform, h, Reported.silent]
      · simp [History.note, h]
    | ok ts =>
      rw [step_reload h]
      exact .reload h
  | builder name snapshot =>
    cases h : s.snapshotOr snapshot with
    | error e =>
      apply Effect.of_eq
      · simp [step, perform, h, Reported.silent, bind, Except.bind]
      · intro history
        rfl
    | ok x =>
      rw [step_builder h]
      exact .builder h
  | snapshot name => exact .snapshot name
  | generation => exact .of_eq rfl fun _ => rfl
  | sameSnapshot a b => exact .of_eq (s.step_sameSnapshot_fst a b) fun _ => rfl
  | lookup name builder => exact .of_eq (s.step_lookup_fst name builder) fun _ => rfl
  | equal a b => exact .of_eq (s.step_equal_fst a b) fun _ => rfl
  | build request builder keepAs =>
    exact .of_exists_chains (s.exists_chains_of_build request builder keepAs) fun _ => rfl
  | takeApart chain => exact .of_exists_chains (s.exists_chains_of_takeApart chain) fun _ => rfl

end Session

end ServletFilters
