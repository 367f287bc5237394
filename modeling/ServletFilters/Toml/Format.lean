import ServletFilters.Number.Shortest
import ServletFilters.Schema.Reading
import ServletFilters.Schema.Writing
import ServletFilters.Toml.Value

/-!
Descriptors as TOML values.
-/

namespace ServletFilters.Toml
open Schema

namespace Value

/-- A moment looks like a map with its text under a reserved key. -/
def shape : Value → Shape Value
  | .string s => .text s
  | .integer i => .integer i
  | .float x => .float x.positionalText
  | .boolean b => .boolean b
  | .moment text => .map [("$__toml_private_datetime", .string text)]
  | .array items => .sequence items
  | .tables elements => .sequence elements
  | .table _ entries => .map entries

/-- What a dispatcher type's name leads to must be empty. An array written in brackets stands for a
table here, unlike an array of tables made by headers. -/
def requireEmpty : Value → Except ReadError Unit
  | .table _ entries => if entries.isEmpty then .ok () else .error (.notEmpty .table)
  | .array items => if items.isEmpty then .ok () else .error (.notEmpty .table)
  | .tables elements => if elements.isEmpty then .ok () else .error (.notEmpty .array)
  | .string _ => .error (.notTable "string")
  | .integer _ => .error (.notTable "integer")
  | .float _ => .error (.notTable "float")
  | .boolean _ => .error (.notTable "boolean")
  | .moment _ => .error (.notTable "datetime")

/-- A dispatcher type is written as its name or as a table with its name over an empty table. -/
def dispatcher : Value → Except ReadError Dispatcher
  | .string s => variant s
  | .table _ [] => .error .noElement
  | .table _ [(name, v)] => do
    let t ← variant name
    requireEmpty v
    pure t
  | .table _ _ => .error .manyElements
  | _ => .error .notTextOrTable

end Value

def format : Format Value := ⟨Value.shape, Value.dispatcher, false⟩

def writer : Writer Value := ⟨.string, .boolean, .array, .table .braces⟩

end ServletFilters.Toml
