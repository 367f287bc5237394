import ServletFilters.Json.Format
import ServletFilters.Loading

/-!
The ways in which a table can be given: as a descriptor in JSON, which is not checked, as the text
of a descriptor, or as a list of declarations.
-/

namespace ServletFilters

/-- A declaration of which all but names and patterns are still JSON values. A value that is not
given has its default. -/
inductive DeclarationSource where
  | filter (name : String) (className initParams asyncSupported : Option Json)
  | mapping (filter : String) (target : Target) (types : Option Json)

inductive TableSource where
  | descriptor (value : Json)
  | text (document : String)
  | declarations (ds : List DeclarationSource)

inductive SourceError where
  | schema (e : Schema.ReadError)
  | load (e : LoadError)
  deriving DecidableEq

namespace DeclarationSource

def readOr (default : β) (reader : Json → Except Schema.ReadError β) :
    Option Json → Except Schema.ReadError β
  | some v => reader v
  | none => .ok default

/-- The values are read in the order in which a registration lists them. -/
def declaration : DeclarationSource → Except Schema.ReadError Declaration
  | .filter name className initParams asyncSupported => do
    let className ← readOr "" Json.format.text className
    let initParams ← readOr Params.empty (Schema.params Json.format) initParams
    let asyncSupported ← readOr false Json.format.boolean asyncSupported
    pure (.filter ⟨name, className, initParams, asyncSupported⟩)
  | .mapping name target types => do
    let types ← readOr [] (Schema.dispatchers Json.format) types
    pure (.mapping (.of name target (DispatcherSet.ofList types)))

end DeclarationSource

namespace TableSource

def table : TableSource → Except SourceError Table
  | .descriptor value =>
    match Schema.readDescriptor Json.format value with
    | .ok d => .ok d.table
    | .error e => .error (.schema e)
  | .text document =>
    match Descriptor.parse document with
    | .ok d => .ok d.table
    | .error e => .error (.load e)
  | .declarations ds =>
    match ds.mapM DeclarationSource.declaration with
    | .ok ds => .ok (Table.ofDeclarations ds)
    | .error e => .error (.schema e)

end TableSource

end ServletFilters
