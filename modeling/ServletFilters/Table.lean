import ServletFilters.Dispatcher
import ServletFilters.Registry

/-!
Mapping tables: which filters apply to which targets, in declaration order, and the registered
filters that the mappings name. A table is what a list of declarations adds up to.
-/

namespace ServletFilters

/-- What a mapping applies to: request paths under a url pattern, or servlets by name. -/
inductive Target where
  | url (pattern : String)
  | servlet (pattern : String)
  deriving DecidableEq, Repr

def Target.pattern : Target → String
  | .url p => p
  | .servlet p => p

structure Mapping where
  filter : String
  target : Target
  types : DispatcherSet
  deriving DecidableEq, Repr

namespace Mapping

/-- A mapping given no dispatcher types applies to REQUEST alone. -/
def of (filter : String) (target : Target) (types : DispatcherSet) : Mapping where
  filter := filter
  target := target
  types := if types.isEmpty then DispatcherSet.requestOnly else types

def appliesTo (m : Mapping) (t : Dispatcher) : Bool := m.types.contains t

end Mapping

/-- One step in the making of a table. -/
inductive Declaration where
  | filter (registration : Registration)
  | mapping (mapping : Mapping)

structure Table where
  mappings : List Mapping
  registry : Registry
  deriving Inhabited

namespace Table

def empty : Table := ⟨[], Registry.empty⟩

/-- Mappings keep their order, and a filter declared again replaces its earlier registration. -/
def declare (t : Table) : Declaration → Table
  | .filter r => { t with registry := t.registry.register r }
  | .mapping m => { t with mappings := t.mappings ++ [m] }

def ofDeclarations (ds : List Declaration) : Table := ds.foldl declare empty

def registration? (t : Table) (name : String) : Option Registration := t.registry.find? name

/-- The number of mappings. -/
def size (t : Table) : Nat := t.mappings.length

def isEmpty (t : Table) : Bool := t.mappings.isEmpty

/-- The number of distinct registered names. -/
def filterCount (t : Table) : Nat := t.registry.size

end Table

end ServletFilters
