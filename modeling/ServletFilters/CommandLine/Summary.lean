import ServletFilters.Descriptor
import ServletFilters.UrlPattern.Kind

/-!
The summary of a checked descriptor: three counts, and a row for every mapping of its table.
-/

namespace ServletFilters.CommandLine

structure SummaryRow where
  index : Nat
  filter : String
  target : Target
  types : List Dispatcher
  deriving DecidableEq, Repr

structure Summary where
  filters : Nat
  servlets : Nat
  mappings : Nat
  rows : List SummaryRow
  deriving DecidableEq, Repr

/-- A text filled up with blanks to a width counted in characters. -/
def padRight (width : Nat) (s : String) : String :=
  s ++ String.ofList (List.replicate (width - s.length) ' ')

/-- A url pattern is shown with its kind. -/
def showTarget : Target → String
  | .url pattern => "url '" ++ pattern ++ "' (" ++ (UrlPattern.Kind.classify pattern).name ++ ")"
  | .servlet pattern => "servlet '" ++ pattern ++ "'"

def SummaryRow.line (r : SummaryRow) : String :=
  "  #" ++ padRight 3 (toString r.index) ++ " " ++ padRight 20 r.filter ++ " "
    ++ showTarget r.target ++ " [" ++ ", ".intercalate (r.types.map Dispatcher.name) ++ "]"

namespace Summary

def row (m : Mapping) (index : Nat) : SummaryRow := ⟨index, m.filter, m.target, m.types.toList⟩

def ofDescriptor (d : Descriptor) : Summary where
  filters := d.table.filterCount
  servlets := d.servlets.length
  mappings := d.table.size
  rows := d.table.mappings.zipIdx.map fun (m, i) => row m i

def header (s : Summary) : String :=
  "OK: " ++ toString s.filters ++ " filters, " ++ toString s.servlets ++ " servlets, "
    ++ toString s.mappings ++ " mappings"

def lines (s : Summary) : List String := s.header :: s.rows.map SummaryRow.line

end Summary

end ServletFilters.CommandLine
