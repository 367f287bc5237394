import ServletFilters.Schema.Shape

/-!
Reading records. A record is written as a map of its fields or as a sequence of them in declaration
order. Unknown keys are skipped, absent fields keep their default, and the one field that may be
required comes first.
-/

namespace ServletFilters.Schema

/-- A named part of a record: how to read it from a value and put it in place. -/
structure Field (α ρ : Type) where
  name : String
  read : α → ρ → Except ReadError ρ

/-- A field that is read by `reader` and stored by `store`. -/
def Field.of (name : String) (reader : α → Except ReadError β) (store : β → ρ → ρ) :
    Field α ρ where
  name := name
  read v r := (reader v).map fun b => store b r

/-- `start` holds the defaults; `required` names the first field when it has none. -/
structure Record (α ρ : Type) where
  title : String
  start : ρ
  fields : List (Field α ρ)
  required : Option String

namespace Record

/-- Reads an entry into the field of its name, if there is one. -/
def assign (rec : Record α ρ) (r : ρ) (entry : String × α) : Except ReadError ρ :=
  match rec.fields.find? (fun f => f.name == entry.1) with
  | some f => f.read entry.2 r
  | none => .ok r

/-- A missing field is noticed only after every entry was read. -/
def ofEntries (rec : Record α ρ) (entries : List (String × α)) : Except ReadError ρ := do
  let r ← entries.foldlM rec.assign rec.start
  match rec.required with
  | some name => if entries.any (fun e => e.1 == name) then pure r else .error (.missingField name)
  | none => pure r

/-- Reads one item into each field, in order; items beyond the last field are not read. -/
def assignInOrder : List (Field α ρ) → List α → ρ → Except ReadError ρ
  | f :: fs, v :: vs, r => do assignInOrder fs vs (← f.read v r)
  | _, _, r => .ok r

/-- Surplus items are noticed only after every field was read. -/
def ofItems (rec : Record α ρ) (refusesExtra : Bool) (items : List α) : Except ReadError ρ := do
  let r ← assignInOrder rec.fields items rec.start
  if rec.required.isSome && items.isEmpty then
    .error (.tooFewElements 0 rec.title rec.fields.length)
  else if refusesExtra && rec.fields.length < items.length then
    .error (.tooManyElements items.length)
  else pure r

def read (format : Format α) (rec : Record α ρ) (v : α) : Except ReadError ρ :=
  match format.shape v with
  | .sequence items => rec.ofItems format.refusesExtraItems items
  | .map entries => rec.ofEntries entries
  | shape => .error (.invalidType shape.found (.record rec.title))

end Record

namespace Format

def text (format : Format α) (v : α) : Except ReadError String :=
  match format.shape v with
  | .text s => .ok s
  | shape => .error (.invalidType shape.found .text)

def boolean (format : Format α) (v : α) : Except ReadError Bool :=
  match format.shape v with
  | .boolean b => .ok b
  | shape => .error (.invalidType shape.found .boolean)

def list (format : Format α) (item : α → Except ReadError β) (v : α) :
    Except ReadError (List β) :=
  match format.shape v with
  | .sequence items => items.mapM item
  | shape => .error (.invalidType shape.found .sequence)

/-- Pairs of a name and what is read under it, in the order of the map. -/
def entries (format : Format α) (item : α → Except ReadError β) (v : α) :
    Except ReadError (List (String × β)) :=
  match format.shape v with
  | .map es => es.mapM fun e => (item e.2).map (e.1, ·)
  | shape => .error (.invalidType shape.found .map)

end Format

end ServletFilters.Schema
