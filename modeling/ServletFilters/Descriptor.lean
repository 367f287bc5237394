import ServletFilters.Table

/-!
Deployment descriptors: declared filters and servlets, and entries that map filters to url patterns
and servlet names. Each descriptor stands for a mapping table.
-/

namespace ServletFilters

structure Servlet where
  name : String
  className : String
  urlPatterns : List String
  asyncSupported : Bool
  deriving DecidableEq, Repr

/-- One filter mapped to any number of url patterns and servlet names. -/
structure MappingEntry where
  filter : String
  urlPatterns : List String
  servletNames : List String
  types : List Dispatcher
  deriving DecidableEq, Repr

structure Observability where
  logLevel : String := "info"
  deriving DecidableEq, Repr

structure Descriptor where
  observability : Observability := {}
  filters : List Registration := []
  servlets : List Servlet := []
  mappings : List MappingEntry := []
  deriving DecidableEq

namespace MappingEntry

/-- The url patterns in order, then the servlet names in order. -/
def targets (e : MappingEntry) : List Target :=
  e.urlPatterns.map .url ++ e.servletNames.map .servlet

/-- One mapping for each target, all for the filter and dispatcher types of the entry. -/
def expand (e : MappingEntry) : List Mapping :=
  e.targets.map fun target => .of e.filter target (DispatcherSet.ofList e.types)

end MappingEntry

namespace Descriptor

/-- The first servlet declared under a name. -/
def servlet? (d : Descriptor) (name : String) : Option Servlet :=
  d.servlets.find? (fun s => s.name == name)

/-- All filters are declared before the first mapping. -/
def declarations (d : Descriptor) : List Declaration :=
  d.filters.map .filter ++ (d.mappings.flatMap MappingEntry.expand).map .mapping

def table (d : Descriptor) : Table := Table.ofDeclarations d.declarations

end Descriptor

end ServletFilters
