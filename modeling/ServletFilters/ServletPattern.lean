/-!
Servlet-name patterns: a name stands for itself, and a star for every servlet.
-/

namespace ServletFilters.ServletPattern

/-- Without a servlet name nothing is selected, not even by the star. -/
def selects (pattern : String) : Option String → Bool
  | none => false
  | some name => pattern == "*" || pattern == name

end ServletFilters.ServletPattern
