import ServletFilters.Toml.Value

/-!
How the tables of a document grow: entries under dotted keys, and tables opened by headers. What
was written once, in whatever way, is never written again.
-/

namespace ServletFilters.Toml

namespace Entries

def replace (key : String) (value : Value) : Entries → Entries
  | [] => []
  | e :: es => if e.1 == key then (key, value) :: es else e :: replace key value es

def erase (key : String) (es : Entries) : Entries := es.filter (fun e => e.1 != key)

/-- Changes the entries of the last element of an array of tables. -/
def onLast (change : Entries → Option Entries) (elements : List Value) : Option (List Value) :=
  match elements.getLast? with
  | some (.table origin es) =>
    (change es).map fun new => elements.dropLast ++ [.table origin new]
  | _ => none

/-- Enters a value under a dotted key, whose parents are made where absent. A table that holds the
last part must be one that dotted keys made; further up the parents of headers will do too. -/
def assign : List String → String → Value → Entries → Option Entries
  | [], key, value, es => if (es.lookup key).isSome then none else some (es ++ [(key, value)])
  | parent :: parents, key, value, es =>
    match es.lookup parent with
    | none =>
      (assign parents key value []).map fun new =>
        es ++ [(parent, .table .impliedByKey new)]
    | some (.table .impliedByKey inner) =>
      (assign parents key value inner).map fun new =>
        replace parent (.table .impliedByKey new) es
    | some (.table .impliedByHeader inner) =>
      if parents.isEmpty then none
      else (assign parents key value inner).map fun new =>
        replace parent (.table .impliedByHeader new) es
    | some (.tables elements) =>
      if parents.isEmpty then none
      else (onLast (assign parents key value) elements).map fun new =>
        replace parent (.tables new) es
    | some _ => none

/-- Changes the table that the parents of a header name, made where absent. An array of tables
stands for its last element. -/
def within : List String → (Entries → Option Entries) → Entries → Option Entries
  | [], change, es => change es
  | parent :: parents, change, es =>
    match es.lookup parent with
    | none =>
      (within parents change []).map fun new => es ++ [(parent, .table .impliedByHeader new)]
    | some (.table .braces _) => none
    | some (.table origin inner) =>
      (within parents change inner).map fun new => replace parent (.table origin new) es
    | some (.tables elements) =>
      (onLast (within parents change) elements).map fun new => replace parent (.tables new) es
    | some _ => none

/-- A table opened by a header. One that other headers implied keeps its entries and moves to the
end. -/
def openTable (key : String) (fill : Entries → Option Entries) (es : Entries) : Option Entries :=
  match es.lookup key with
  | none => (fill []).map fun body => es ++ [(key, .table .header body)]
  | some (.table .impliedByHeader inner) =>
    (fill inner).map fun body => erase key es ++ [(key, .table .header body)]
  | some _ => none

/-- A table added to an array of tables by a header. -/
def openElement (key : String) (fill : Entries → Option Entries) (es : Entries) : Option Entries :=
  match es.lookup key with
  | none => (fill []).map fun body => es ++ [(key, .tables [.table .header body])]
  | some (.tables elements) =>
    (fill []).map fun body => replace key (.tables (elements ++ [.table .header body])) es
  | some _ => none

end Entries

end ServletFilters.Toml
