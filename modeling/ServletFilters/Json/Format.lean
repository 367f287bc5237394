import ServletFilters.Json
import ServletFilters.Number.Shortest
import ServletFilters.Schema.Reading
import ServletFilters.Schema.Writing

/-!
Descriptors as JSON values.
-/

namespace ServletFilters.Json
open Schema

def shape : Json → Shape Json
  | .null => .null
  | .boolean b => .boolean b
  | .integer i => .integer i
  | .float x => .float x.compactText
  | .string s => .text s
  | .array items => .sequence items
  | .object members => .map members

/-- A dispatcher type is written as its name or as an object with its name over null. -/
def dispatcher : Json → Except ReadError Dispatcher
  | .string s => variant s
  | .object [(name, v)] => do
    let t ← variant name
    match v with
    | .null => pure t
    | v => .error (.invalidType v.shape.found .unit)
  | .object _ => .error .notOneKey
  | v => .error (.invalidType v.shape.found .textOrMap)

def format : Format Json := ⟨shape, dispatcher, true⟩

def writer : Writer Json := ⟨.string, .boolean, .array, ofMembers⟩

end ServletFilters.Json
