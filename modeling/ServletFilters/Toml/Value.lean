import ServletFilters.Number.Binary64

/-!
Values of a TOML document. A table remembers how it was written, for that decides what may still be
added to it.
-/

namespace ServletFilters.Toml

/-- A table in braces is complete; a header opens a table once; the parents of a header and the
parents of a dotted key are there without being written themselves. -/
inductive Origin where
  | braces
  | header
  | impliedByHeader
  | impliedByKey
  deriving DecidableEq, Repr

/-- A moment is kept as its normal text. `tables` is an array that headers in double brackets add
to; its elements are tables. Entries are in the order in which they were written. -/
inductive Value where
  | string (s : String)
  | integer (i : Int)
  | float (x : Binary64)
  | boolean (b : Bool)
  | moment (text : String)
  | array (items : List Value)
  | tables (elements : List Value)
  | table (origin : Origin) (entries : List (String × Value))
  deriving Inhabited

abbrev Entries := List (String × Value)

end ServletFilters.Toml
