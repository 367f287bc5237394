import ServletFilters.Descriptor
import ServletFilters.UrlPattern.Kind

/-!
What can be wrong with a descriptor that could be read, and the check that finds all of it: names
that are empty or declared twice, mappings of undeclared filters, mappings to nothing, and url
patterns of no valid kind.
-/

namespace ServletFilters

inductive Violation where
  | emptyFilterName (index : Nat)
  | emptyServletName (index : Nat)
  | duplicateFilter (name : String)
  | duplicateServlet (name : String)
  | unknownFilter (mapping : Nat) (filter : String)
  | emptyMapping (mapping : Nat) (filter : String)
  | invalidMappingPattern (mapping : Nat) (pattern : String)
  | invalidServletPattern (servlet pattern : String)
  deriving DecidableEq, Repr

namespace Violation

def kind : Violation → String
  | .emptyFilterName _ => "EmptyFilterName"
  | .emptyServletName _ => "EmptyServletName"
  | .duplicateFilter _ => "DuplicateFilter"
  | .duplicateServlet _ => "DuplicateServlet"
  | .unknownFilter _ _ => "UnknownFilter"
  | .emptyMapping _ _ => "EmptyMapping"
  | .invalidMappingPattern _ _ => "InvalidMappingPattern"
  | .invalidServletPattern _ _ => "InvalidServletPattern"

def message : Violation → String
  | .emptyFilterName i => "filter #" ++ toString i ++ " has an empty name"
  | .emptyServletName i => "servlet #" ++ toString i ++ " has an empty name"
  | .duplicateFilter name => "filter '" ++ name ++ "' is declared more than once"
  | .duplicateServlet name => "servlet '" ++ name ++ "' is declared more than once"
  | .unknownFilter i filter =>
    "filter mapping #" ++ toString i ++ " references undeclared filter '" ++ filter ++ "'"
  | .emptyMapping i filter =>
    "filter mapping #" ++ toString i ++ " for '" ++ filter
      ++ "' has no url patterns or servlet names"
  | .invalidMappingPattern i pattern =>
    "filter mapping #" ++ toString i ++ " has invalid url pattern '" ++ pattern ++ "'"
  | .invalidServletPattern servlet pattern =>
    "servlet '" ++ servlet ++ "' has invalid url pattern '" ++ pattern ++ "'"

end Violation

namespace Descriptor
open UrlPattern

def invalidPatterns (patterns : List String) : List String :=
  patterns.filter fun p => !(Kind.classify p).isValid

/-- Walks the filters from index `i`, `seen` holding the non-empty names met before. -/
def filterViolations (i : Nat) (seen : List String) : List Registration → List Violation
  | [] => []
  | f :: fs =>
    if f.name.isEmpty then .emptyFilterName i :: filterViolations (i + 1) seen fs
    else if seen.contains f.name then .duplicateFilter f.name :: filterViolations (i + 1) seen fs
    else filterViolations (i + 1) (f.name :: seen) fs

/-- The problem of a servlet's name stands before those of its patterns. -/
def servletViolations (i : Nat) (seen : List String) : List Servlet → List Violation
  | [] => []
  | s :: ss =>
    let patterns := (invalidPatterns s.urlPatterns).map (.invalidServletPattern s.name)
    if s.name.isEmpty then
      .emptyServletName i :: patterns ++ servletViolations (i + 1) seen ss
    else if seen.contains s.name then
      .duplicateServlet s.name :: patterns ++ servletViolations (i + 1) seen ss
    else patterns ++ servletViolations (i + 1) (s.name :: seen) ss

/-- The filters that mappings may name: an empty name declares none. -/
def declaredNames (fs : List Registration) : List String :=
  (fs.map (·.name)).filter fun name => !name.isEmpty

def entryViolations (declared : List String) (i : Nat) (e : MappingEntry) : List Violation :=
  (if declared.contains e.filter then [] else [.unknownFilter i e.filter])
    ++ (if e.urlPatterns.isEmpty && e.servletNames.isEmpty then [.emptyMapping i e.filter] else [])
    ++ (invalidPatterns e.urlPatterns).map (.invalidMappingPattern i)

def mappingViolations (declared : List String) (i : Nat) : List MappingEntry → List Violation
  | [] => []
  | e :: es => entryViolations declared i e ++ mappingViolations declared (i + 1) es

/-- Everything wrong with a descriptor: filters first, then servlets, then mappings. -/
def violations (d : Descriptor) : List Violation :=
  filterViolations 0 [] d.filters ++ servletViolations 0 [] d.servlets
    ++ mappingViolations (declaredNames d.filters) 0 d.mappings

def validate (d : Descriptor) : Except (List Violation) Unit :=
  if d.violations.isEmpty then .ok () else .error d.violations

end Descriptor

end ServletFilters
