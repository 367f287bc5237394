import ServletFilters.Dispatcher
import ServletFilters.Text.Quoted

/-!
What the readers of descriptors see of a value, whatever format it comes from, and the causes for
which they refuse one.
-/

namespace ServletFilters.Schema

/-- One level of a value of type `α`. A number with a fraction is seen as its text. The entries of
a map are in the order in which they are read. -/
inductive Shape (α : Type) where
  | null
  | boolean (b : Bool)
  | integer (i : Int)
  | float (written : String)
  | text (s : String)
  | sequence (items : List α)
  | map (entries : List (String × α))

/-- What was met in place of the value asked for. -/
inductive Found where
  | null
  | boolean (b : Bool)
  | integer (i : Int)
  | float (written : String)
  | text (s : String)
  | sequence
  | map
  deriving DecidableEq

def Found.describe : Found → String
  | .null => "null"
  | .boolean b => "boolean `" ++ (if b then "true" else "false") ++ "`"
  | .integer i => "integer `" ++ toString i ++ "`"
  | .float written => "floating point `" ++ written ++ "`"
  | .text s => "string " ++ Text.quoted s
  | .sequence => "sequence"
  | .map => "map"

def Shape.found : Shape α → Found
  | .null => .null
  | .boolean b => .boolean b
  | .integer i => .integer i
  | .float written => .float written
  | .text s => .text s
  | .sequence _ => .sequence
  | .map _ => .map

inductive Wanted where
  | text
  | boolean
  | sequence
  | map
  | unit
  | textOrMap
  | record (title : String)
  deriving DecidableEq, Repr

def Wanted.describe : Wanted → String
  | .text => "a string"
  | .boolean => "a boolean"
  | .sequence => "a sequence"
  | .map => "a map"
  | .unit => "unit"
  | .textOrMap => "string or map"
  | .record title => "struct " ++ title

/-- The value of a named choice has to be an empty table or array. -/
inductive EmptyWanted where
  | table
  | array
  deriving DecidableEq, Repr

def EmptyWanted.name : EmptyWanted → String
  | .table => "table"
  | .array => "array"

inductive ReadError where
  | invalidType (found : Found) (wanted : Wanted)
  | missingField (name : String)
  | tooFewElements (count : Nat) (title : String) (fields : Nat)
  | tooManyElements (count : Nat)
  | unknownVariant (name : String)
  | notOneKey
  | notTextOrTable
  | noElement
  | manyElements
  | notEmpty (wanted : EmptyWanted)
  | notTable (found : String)
  deriving DecidableEq

def ReadError.message : ReadError → String
  | .invalidType found wanted =>
    "invalid type: " ++ found.describe ++ ", expected " ++ wanted.describe
  | .missingField name => "missing field `" ++ name ++ "`"
  | .tooFewElements count title fields =>
    "invalid length " ++ toString count ++ ", expected struct " ++ title ++ " with "
      ++ toString fields ++ (if fields = 1 then " element" else " elements")
  | .tooManyElements count =>
    "invalid length " ++ toString count ++ ", expected fewer elements in array"
  | .unknownVariant name =>
    "unknown variant `" ++ name ++ "`, expected one of "
      ++ ", ".intercalate (Dispatcher.all.map fun t => "`" ++ t.schemaName ++ "`")
  | .notOneKey => "invalid value: map, expected map with a single key"
  | .notTextOrTable => "wanted string or table"
  | .noElement => "wanted exactly 1 element, found 0 elements"
  | .manyElements => "wanted exactly 1 element, more than 1 element"
  | .notEmpty wanted => "expected empty " ++ wanted.name
  | .notTable found => "expected table, found " ++ found

/-- The dispatcher type that descriptors name `name`. -/
def variant (name : String) : Except ReadError Dispatcher :=
  match Dispatcher.ofName? name with
  | some t => .ok t
  | none => .error (.unknownVariant name)

/-- How the values of one format are read: what they look like, how they name a dispatcher type,
and whether a sequence may be longer than the record it stands for. -/
structure Format (α : Type) where
  shape : α → Shape α
  dispatcher : α → Except ReadError Dispatcher
  refusesExtraItems : Bool

end ServletFilters.Schema
