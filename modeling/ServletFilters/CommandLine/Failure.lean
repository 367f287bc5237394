import ServletFilters.Chain
import ServletFilters.Loading

/-!
What a command can fail with, and the text in which a failure is shown: the name of its cause with
its data, texts in quotes.
-/

namespace ServletFilters.CommandLine
open Text

inductive Failure where
  | load (e : LoadError)
  | unknownServlet (name : String)
  | missingRegistration (e : MissingRegistration)
  deriving DecidableEq

/-- A cause with named data in braces. -/
def withFields (name : String) (fields : List (String × String)) : String :=
  name ++ " \x7b " ++ ", ".intercalate (fields.map fun f => f.1 ++ ": " ++ f.2) ++ " \x7d"

def showViolation (v : Violation) : String :=
  match v with
  | .emptyFilterName i | .emptyServletName i => v.kind ++ "(" ++ toString i ++ ")"
  | .duplicateFilter name | .duplicateServlet name => v.kind ++ "(" ++ quoted name ++ ")"
  | .unknownFilter i filter | .emptyMapping i filter =>
    withFields v.kind [("mapping", toString i), ("filter", quoted filter)]
  | .invalidMappingPattern i pattern =>
    withFields v.kind [("mapping", toString i), ("pattern", quoted pattern)]
  | .invalidServletPattern servlet pattern =>
    withFields v.kind [("servlet", quoted servlet), ("pattern", quoted pattern)]

def showFileError : FileError → String
  | .missing =>
    withFields "Os" [("code", "2"), ("kind", "NotFound"),
      ("message", quoted "No such file or directory")]
  | .directory =>
    withFields "Os" [("code", "21"), ("kind", "IsADirectory"),
      ("message", quoted "Is a directory")]
  | .belowFile =>
    withFields "Os" [("code", "20"), ("kind", "NotADirectory"),
      ("message", quoted "Not a directory")]
  | .nameTooLong =>
    withFields "Os" [("code", "36"), ("kind", "InvalidFilename"),
      ("message", quoted "File name too long")]
  | .invalidText =>
    withFields "Error" [("kind", "InvalidData"),
      ("message", quoted FileError.invalidText.message)]

def showLoadError (words : Wording) : LoadError → String
  | .file e => "Io(" ++ showFileError e ++ ")"
  | .syntaxError | .schema _ => "Parse(" ++ words.data ++ ")"
  | .invalid vs => "Validation([" ++ ", ".intercalate (vs.map showViolation) ++ "])"

/-- The words are those for the document that was to be loaded. -/
def Failure.text (words : Wording) : Failure → String
  | .load e => "Error: " ++ showLoadError words e ++ "\n"
  | .unknownServlet name => "Error: " ++ quoted ("unknown servlet '" ++ name ++ "'") ++ "\n"
  | .missingRegistration e =>
    "Error: " ++ withFields "MissingRegistration"
      [("filter_name", quoted e.filter), ("mapping_index", toString e.index)] ++ "\n"

end ServletFilters.CommandLine
