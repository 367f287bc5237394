import ServletFilters.ServletPattern
import ServletFilters.Table
import ServletFilters.UrlPattern

/-!
A dispatch of a request to a servlet, and the mappings that it selects.
-/

namespace ServletFilters

/-- The path is absent for a dispatch by name; the servlet is absent when none is the target. -/
structure Dispatch where
  path : Option String
  servlet : Option String
  type : Dispatcher
  deriving DecidableEq, Repr

namespace Dispatch

/-- The mapping is by url, applies to the type and matches the path. -/
def selectsByUrl (d : Dispatch) (m : Mapping) : Bool :=
  match m.target with
  | .url pattern => m.appliesTo d.type && UrlPattern.selects (some pattern) d.path
  | .servlet _ => false

/-- The mapping is by servlet name, applies to the type and matches the servlet. -/
def selectsByServlet (d : Dispatch) (m : Mapping) : Bool :=
  match m.target with
  | .url _ => false
  | .servlet pattern => m.appliesTo d.type && ServletPattern.selects pattern d.servlet

end Dispatch

end ServletFilters
