import ServletFilters.Ascending

/-!
Initialisation parameters: a finite map from names to texts, kept in ascending order of name, so
that two maps with the same entries are equal.
-/

namespace ServletFilters

/-- Each name is below every later one. -/
structure Params where
  entries : List (String × String)
  ascending : entries.Pairwise (fun a b => a.1 < b.1)
  deriving DecidableEq

namespace Params

def empty : Params := ⟨[], List.Pairwise.nil⟩

instance : Inhabited Params := ⟨empty⟩

def insert (p : Params) (name value : String) : Params :=
  ⟨Ascending.insert name value p.entries, Ascending.pairwise_insert p.ascending⟩

/-- Of several entries of one name the last counts. -/
def ofList (entries : List (String × String)) : Params :=
  entries.foldl (fun p e => p.insert e.1 e.2) empty

def get? (p : Params) (name : String) : Option String := p.entries.lookup name

end Params

end ServletFilters
