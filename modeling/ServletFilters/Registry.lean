import ServletFilters.Params

/-!
Registered filters, looked up by name. Registering a name again replaces what it stood for.
-/

namespace ServletFilters

/-- A filter that chains can hold. -/
structure Registration where
  name : String
  className : String
  initParams : Params
  asyncSupported : Bool
  deriving DecidableEq, Inhabited

/-- No two entries share a name. -/
structure Registry where
  entries : List Registration
  distinct : entries.Pairwise (fun a b => a.name ≠ b.name)

namespace Registry

def empty : Registry := ⟨[], List.Pairwise.nil⟩

instance : Inhabited Registry := ⟨empty⟩

/-- The newest entry stands first. -/
def register (reg : Registry) (r : Registration) : Registry where
  entries := r :: reg.entries.filter (fun e => e.name != r.name)
  distinct := by
    refine List.pairwise_cons.2 ⟨fun e he => ?_, reg.distinct.filter _⟩
    have hne : e.name ≠ r.name := by simpa using (List.mem_filter.1 he).2
    exact hne.symm

def ofList (rs : List Registration) : Registry := rs.foldl register empty

def find? (reg : Registry) (name : String) : Option Registration :=
  reg.entries.find? (fun e => e.name == name)

/-- The number of distinct names. -/
def size (reg : Registry) : Nat := reg.entries.length

@[simp]
theorem find?_empty (name : String) : empty.find? name = none := rfl

/-- A name is looked up in the latest registration that bears it. -/
theorem find?_register (reg : Registry) (r : Registration) (name : String) :
    (reg.register r).find? name = if r.name = name then some r else reg.find? name := by
  unfold find? register
  by_cases h : r.name = name
  · simp [h]
  · have hrest : (reg.entries.filter (fun e => e.name != r.name)).find? (fun e => e.name == name)
        = reg.entries.find? (fun e => e.name == name) := by
      rw [List.find?_filter]
      congr 1
      funext e
      by_cases he : e.name = name
      · have hne : e.name ≠ r.name := fun heq => h (heq.symm.trans he)
        simp [he, he ▸ hne]
      · simp [he]
    simp [h, hrest]

/-- What is found under a name bears it. -/
theorem name_of_find? {reg : Registry} {name : String} {r : Registration}
    (h : reg.find? name = some r) : r.name = name := by
  simpa using List.find?_some h

end Registry

end ServletFilters
