import ServletFilters.Event

/-!
Filter chains, and how a table builds the chain for a dispatch.

Two passes run over the mappings in declaration order: the first takes those that the dispatch
selects by url, the second those that it selects by servlet name. A selected mapping whose filter
is not registered ends the build, for a chain without that filter would let requests bypass it.
-/

namespace ServletFilters

/-- The filters around a handler, in the order in which they run. -/
structure Chain (H : Type) where
  handler : H
  filters : List Registration
  deriving DecidableEq

/-- A selected mapping names a filter that is not registered. -/
structure MissingRegistration where
  filter : String
  index : Nat
  deriving DecidableEq, Repr

def MissingRegistration.message (e : MissingRegistration) : String :=
  "filter mapping #" ++ toString e.index ++ " references unregistered filter '" ++ e.filter ++ "'"

namespace Table

def missedEvents (i : Nat) (m : Mapping) : List Event :=
  [.log (.unregistered m.filter i m.target.pattern), .metric .integrityFailures]

/-- The registration of a mapping that stands at an index. One that is missing is reported there and
then. -/
def registrationOf (t : Table) (i : Nat) (m : Mapping) :
    Reported (Except MissingRegistration Registration) :=
  match t.registration? m.filter with
  | some r => .silent (.ok r)
  | none => ⟨.error ⟨m.filter, i⟩, missedEvents i m⟩

/-- The registrations of the mappings that `select` takes, up to the first such mapping without one.
The first mapping of the list has index `i`. -/
def collect (t : Table) (select : Mapping → Bool) :
    Nat → List Mapping → Reported (Except MissingRegistration (List Registration))
  | _, [] => .silent (.ok [])
  | i, m :: ms =>
    if select m then
      (t.registrationOf i m).andThen fun r =>
        (t.collect select (i + 1) ms).andThen fun rs => .silent (.ok (r :: rs))
    else t.collect select (i + 1) ms

/-- The pass by url, then the pass by servlet name. -/
def chainFilters (t : Table) (d : Dispatch) :
    Reported (Except MissingRegistration (List Registration)) :=
  (t.collect d.selectsByUrl 0 t.mappings).andThen fun byUrl =>
    (t.collect d.selectsByServlet 0 t.mappings).andThen fun byServlet =>
      .silent (.ok (byUrl ++ byServlet))

def builtMetrics (type : Dispatcher) (filters : Nat) : List Event :=
  [.metric (.chainsBuilt type), .metric (.chainLength filters), .metric .buildDuration]

/-- Without a handler there is nothing to wrap and no chain. A table without mappings builds an
empty chain at once. -/
def build (t : Table) (handler : Option H) (d : Dispatch) :
    Reported (Except MissingRegistration (Option (Chain H))) :=
  match handler with
  | none => ⟨.ok none, [.log (.noHandler d.type)]⟩
  | some h =>
    if t.isEmpty then ⟨.ok (some ⟨h, []⟩), builtMetrics d.type 0⟩
    else
      (t.chainFilters d).andThen fun filters =>
        ⟨.ok (some ⟨h, filters⟩),
          .log (.chainBuilt d filters.length) :: builtMetrics d.type filters.length⟩

end Table

end ServletFilters
