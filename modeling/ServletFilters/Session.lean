import ServletFilters.Store
import ServletFilters.TableSource

/-!
Sessions: one store, worked on step by step, with snapshots, builders and chains kept under names.
A step that fails changes nothing.
-/

namespace ServletFilters

/-- Things kept under names, the latest first. -/
abbrev Named (α : Type) := List (String × α)

namespace Named

def erase (name : String) (xs : Named α) : Named α := xs.filter (fun x => x.1 != name)

/-- Keeps a thing under a name, in place of what the name stood for. -/
def put (name : String) (a : α) (xs : Named α) : Named α := (name, a) :: erase name xs

def get? (name : String) (xs : Named α) : Option α := xs.lookup name

theorem get?_erase_of_ne {name other : String} (h : other ≠ name) (xs : Named α) :
    (xs.erase name).get? other = xs.get? other := by
  unfold get? erase
  induction xs with
  | nil => rfl
  | cons x xs ih =>
    by_cases hx : x.1 = name
    · have hother : (other == x.1) = false := by simpa [hx] using h
      rw [List.filter_cons, List.lookup_cons, hother]
      simpa [hx] using ih
    · have hkept : (x.1 != name) = true := by simpa using hx
      rw [List.filter_cons, if_pos hkept, List.lookup_cons, List.lookup_cons, ih]

/-- A name stands for what was last kept under it. -/
theorem get?_put (name other : String) (a : α) (xs : Named α) :
    (xs.put name a).get? other = if other = name then some a else xs.get? other := by
  by_cases h : other = name
  · simp [put, get?, h]
  · have hbeq : (other == name) = false := by simpa using h
    rw [if_neg h, ← get?_erase_of_ne h xs, put, get?, get?, List.lookup_cons, hbeq]

end Named

/-- A builder is the snapshot that it builds against. `fresh` is the serial number for the next
table that is shared. -/
structure Session where
  store : Store
  fresh : Nat
  snapshots : Named Snapshot
  builders : Named Snapshot
  chains : Named (Chain String)

/-- A dispatch whose type is still a text; without one it is REQUEST. -/
structure DispatchRequest where
  handler : Option String
  path : Option String
  servlet : Option String
  type : Option String

inductive BuildError where
  | unknownDispatcher (e : UnknownDispatcher)
  | missingRegistration (e : MissingRegistration)
  deriving DecidableEq, Repr

/-- Reads the dispatcher type, then builds. -/
def DispatchRequest.build (r : DispatchRequest) (t : Table) :
    Reported (Except BuildError (Option (Chain String))) :=
  match Dispatcher.parse (r.type.getD Dispatcher.request.name) with
  | .error e => ⟨.error (.unknownDispatcher e), []⟩
  | .ok type =>
    let built := t.build r.handler ⟨r.path, r.servlet, type⟩
    ⟨built.value.mapError .missingRegistration, built.events⟩

inductive Step where
  | new (table : String)
  | publish (table : String)
  | reload (tables : List String)
  | generation
  | snapshot (keepAs : String)
  | builder (keepAs : String) (snapshot : Option String)
  | sameSnapshot (a b : String)
  | lookup (name : String) (builder : Option String)
  | build (request : DispatchRequest) (builder : Option String) (keepAs : Option String)
  | equal (a b : String)
  | takeApart (chain : String)

inductive StepError where
  | noSuch (name : String)
  | source (e : SourceError)
  | build (e : BuildError)

inductive Answer where
  | generation (n : UInt64)
  | table (t : Table)
  | mappings (n : Nat)
  | same (b : Bool)
  | registration (r : Option Registration)
  | built (chain : Option (Chain String))
  | equal (b : Bool)
  | parts (chain : Chain String)

namespace Session

/-- The store holds an empty table at first. -/
def initial : Session := ⟨Store.ofSnapshot ⟨0, Table.empty⟩, 1, [], [], []⟩

def named (xs : Named α) (name : String) : Except StepError α :=
  match xs.get? name with
  | some a => .ok a
  | none => .error (.noSuch name)

/-- The builder of a name, or one for the store's current table. -/
def builderOr (s : Session) : Option String → Except StepError Snapshot
  | some name => named s.builders name
  | none => .ok s.store.current

/-- The snapshot of a name, or one of the store's current table. -/
def snapshotOr (s : Session) : Option String → Except StepError Snapshot
  | some name => named s.snapshots name
  | none => .ok s.store.current

/-- Tables are made afresh whenever they are named. -/
def tableNamed (sources : Named TableSource) (name : String) : Except StepError Table := do
  let source ← named sources name
  match source.table with
  | .ok t => pure t
  | .error e => .error (.source e)

/-- Gives a serial number to each table, from `fresh` on. -/
def share (fresh : Nat) (ts : List Table) : List Snapshot :=
  (ts.zipIdx fresh).map fun (t, serial) => ⟨serial, t⟩

/-- A new store, with the table as its first. -/
def renew (s : Session) (t : Table) : Session :=
  { s with store := Store.ofSnapshot ⟨s.fresh, t⟩, fresh := s.fresh + 1 }

def publish (s : Session) (t : Table) : Reported (Session × UInt64) :=
  let published := s.store.publish ⟨s.fresh, t⟩
  ⟨({ s with store := published.value.1, fresh := s.fresh + 1 }, published.value.2),
    published.events⟩

/-- Publishes the tables of a feed, in order, until it closes. -/
def reload (s : Session) (ts : List Table) : Reported Session :=
  let reloaded := s.store.reload (share s.fresh ts)
  ⟨{ s with store := reloaded.value, fresh := s.fresh + ts.length }, reloaded.events⟩

def keepSnapshot (s : Session) (name : String) : Session :=
  { s with snapshots := s.snapshots.put name s.store.current }

def keepBuilder (s : Session) (name : String) (taken : Snapshot) : Session :=
  { s with builders := s.builders.put name taken }

/-- A chain is kept if there is one and it has a name; else an older one stays. -/
def keepChain (s : Session) (name : Option String) (chain : Option (Chain String)) : Session :=
  match name, chain with
  | some n, some c => { s with chains := s.chains.put n c }
  | _, _ => s

/-- Carries out a step, or tells why it cannot be. -/
def perform (sources : Named TableSource) (s : Session) :
    Step → Reported (Except StepError (Session × Answer))
  | .new table =>
    .silent do
      let t ← tableNamed sources table
      pure (s.renew t, .generation (s.renew t).store.generation)
  | .publish table =>
    match tableNamed sources table with
    | .error e => .silent (.error e)
    | .ok t =>
      let next := s.publish t
      ⟨.ok (next.value.1, .generation next.value.2), next.events⟩
  | .reload tables =>
    match tables.mapM (tableNamed sources) with
    | .error e => .silent (.error e)
    | .ok ts =>
      let next := s.reload ts
      ⟨.ok (next.value, .generation next.value.store.generation), next.events⟩
  | .generation => .silent (.ok (s, .generation s.store.generation))
  | .snapshot keepAs => .silent (.ok (s.keepSnapshot keepAs, .table s.store.current.table))
  | .builder keepAs snapshot =>
    .silent do
      let taken ← s.snapshotOr snapshot
      pure (s.keepBuilder keepAs taken, .mappings taken.table.size)
  | .sameSnapshot a b =>
    .silent do
      let x ← named s.snapshots a
      let y ← named s.snapshots b
      pure (s, .same (x.isSame y))
  | .lookup name builder =>
    .silent do
      let b ← s.builderOr builder
      pure (s, .registration (b.table.registration? name))
  | .build request builder keepAs =>
    match s.builderOr builder with
    | .error e => .silent (.error e)
    | .ok b =>
      let built := request.build b.table
      match built.value with
      | .error e => ⟨.error (.build e), built.events⟩
      | .ok chain => ⟨.ok (s.keepChain keepAs chain, .built chain), built.events⟩
  | .equal a b =>
    .silent do
      let x ← named s.chains a
      let y ← named s.chains b
      pure (s, .equal (x == y))
  | .takeApart chain =>
    .silent do
      let c ← named s.chains chain
      pure ({ s with chains := s.chains.erase chain }, .parts c)

/-- One step: the session after it, and its answer with what it reported. -/
def step (sources : Named TableSource) (s : Session) (st : Step) :
    Session × Reported (Except StepError Answer) :=
  let done := s.perform sources st
  match done.value with
  | .error e => (s, ⟨.error e, done.events⟩)
  | .ok (next, answer) => (next, ⟨.ok answer, done.events⟩)

/-- The session after some steps. -/
def after (sources : Named TableSource) (s : Session) (steps : List Step) : Session :=
  steps.foldl (fun s st => (s.step sources st).1) s

theorem after_cons (sources : Named TableSource) (s : Session) (st : Step) (later : List Step) :
    s.after sources (st :: later) = (s.step sources st).1.after sources later :=
  rfl

theorem after_append (sources : Named TableSource) (s : Session) (steps later : List Step) :
    s.after sources (steps ++ later) = (s.after sources steps).after sources later :=
  List.foldl_append

/-- The answers to a run of steps. -/
def run (sources : Named TableSource) (s : Session) :
    List Step → List (Reported (Except StepError Answer))
  | [] => []
  | st :: later =>
    let (next, answer) := s.step sources st
    answer :: run sources next later

end Session

end ServletFilters
