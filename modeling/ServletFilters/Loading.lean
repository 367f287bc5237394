import ServletFilters.Descriptor.Violation
import ServletFilters.Toml.Document
import ServletFilters.Toml.Format

/-!
Loading descriptors: from text, which is parsed, read and checked, and from files, which may be
missing or hold no text.
-/

namespace ServletFilters

/-- What is met at the place of a file. -/
inductive FileContent where
  | bytes (content : ByteArray)
  | missing
  | directory
  | belowFile
  | nameTooLong

/-- A file that holds a text. -/
def FileContent.ofText (text : String) : FileContent := .bytes text.toUTF8

inductive FileError where
  | missing
  | directory
  | belowFile
  | nameTooLong
  | invalidText
  deriving DecidableEq, Repr

def FileError.message : FileError → String
  | .missing => "No such file or directory (os error 2)"
  | .directory => "Is a directory (os error 21)"
  | .belowFile => "Not a directory (os error 20)"
  | .nameTooLong => "File name too long (os error 36)"
  | .invalidText => "stream did not contain valid UTF-8"

inductive LoadError where
  | file (e : FileError)
  | syntaxError
  | schema (e : Schema.ReadError)
  | invalid (violations : List Violation)
  deriving DecidableEq

/-- The words in which the reader of documents refuses one of them: the message of its error, which
shows the place in the document, and all that the error holds. -/
structure Wording where
  message : String
  data : String

def LoadError.message (words : Wording) : LoadError → String
  | .file e => "IO error: " ++ e.message
  | .syntaxError | .schema _ => "Parse error: " ++ words.message
  | .invalid vs => "Validation failed: " ++ ", ".intercalate (vs.map Violation.message)

def FileContent.text : FileContent → Except FileError String
  | .bytes content =>
    match String.fromUTF8? content with
    | some s => .ok s
    | none => .error .invalidText
  | .missing => .error .missing
  | .directory => .error .directory
  | .belowFile => .error .belowFile
  | .nameTooLong => .error .nameTooLong

namespace Descriptor

/-- Reads a descriptor from the text of a document and checks it. -/
def parse (text : String) : Except LoadError Descriptor :=
  match Toml.parse? text with
  | none => .error .syntaxError
  | some root =>
    match Schema.readDescriptor Toml.format (.table .header root) with
    | .error e => .error (.schema e)
    | .ok d =>
      match d.validate with
      | .error vs => .error (.invalid vs)
      | .ok () => .ok d

def load (file : FileContent) : Except LoadError Descriptor :=
  match file.text with
  | .error e => .error (.file e)
  | .ok text => parse text

end Descriptor

namespace Table

def load (file : FileContent) : Except LoadError Table :=
  (Descriptor.load file).map Descriptor.table

end Table

end ServletFilters
