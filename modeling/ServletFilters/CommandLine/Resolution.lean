import ServletFilters.CommandLine.Failure
import ServletFilters.Json.Format

/-!
The chain that a descriptor prescribes for one dispatch, as a JSON document.
-/

namespace ServletFilters.CommandLine

/-- The chain around a servlet for one dispatch to it. -/
structure Resolution where
  chain : Chain Servlet
  type : Dispatcher
  deriving DecidableEq

namespace Resolution

def document (r : Resolution) : Json :=
  Json.ofMembers [("servlet", .string r.chain.handler.name), ("dispatcher", .string r.type.name),
    ("filters", .array (r.chain.filters.map (Schema.writeRegistration Json.writer)))]

/-- Without a servlet there is no chain; a servlet must be declared. -/
def ofDescriptor (d : Descriptor) (dispatch : Dispatch) :
    Reported (Except Failure (Option Resolution)) :=
  let built (handler : Option Servlet) : Reported (Except Failure (Option Resolution)) :=
    let result := d.table.build handler dispatch
    match result.value with
    | .ok chain => ⟨.ok (chain.map (⟨·, dispatch.type⟩)), result.events⟩
    | .error e => ⟨.error (.missingRegistration e), result.events⟩
  match dispatch.servlet with
  | none => built none
  | some name =>
    match d.servlet? name with
    | none => ⟨.error (.unknownServlet name), []⟩
    | some s => built (some s)

end Resolution

/-- The document of no chain is null. -/
def documentOf : Option Resolution → Json
  | none => .null
  | some r => r.document

end ServletFilters.CommandLine
