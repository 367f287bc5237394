import ServletFilters.Toml.Moment
import ServletFilters.Toml.Number
import ServletFilters.Toml.Table

/-!
TOML documents: values and assignments, the sections that headers divide a document into, and the
tree of tables that they make up.
-/

namespace ServletFilters.Toml
open Reader

/-- A dotted key, its last part apart. -/
structure Key where
  parents : List String
  name : String

structure Assignment where
  key : Key
  value : Value

/-- A header and the assignments below it. -/
structure Section where
  isElement : Bool
  key : Key
  body : List Assignment

/-- Enters assignments in order. -/
def fill (assignments : List Assignment) (es : Entries) : Option Entries :=
  assignments.foldlM (fun es a => Entries.assign a.key.parents a.key.name a.value es) es

def Section.addTo (s : Section) (es : Entries) : Option Entries :=
  let change := (if s.isElement then Entries.openElement else Entries.openTable) s.key.name
    (fill s.body)
  Entries.within s.key.parents change es

def isBare (c : Char) : Bool :=
  ('A' ≤ c && c ≤ 'Z') || ('a' ≤ c && c ≤ 'z') || Text.isDigit c || c == '-' || c == '_'

def keyPart : Reader String := do
  skipBlanks
  let part ← match ← peek? with
    | some '"' => basicString
    | some '\'' => literalString
    | _ => String.ofList <$> takeWhile1 isBare
  skipBlanks
  pure part

/-- The greatest number of parts of a key, and of brackets around a value. -/
def greatestDepth : Nat := 79

def key : Reader Key := do
  let parts ← separated1 keyPart (char '.')
  if greatestDepth < parts.length then failure
  match parts.getLast? with
  | some name => pure ⟨parts.dropLast, name⟩
  | none => failure

/-- Items between brackets over any number of lines; the last may have a comma after it. -/
def arrayItems (item : Reader Value) : Reader (List Value) := do
  char '['
  let items ← separated (skipTrivia *> item <* skipTrivia) (char ',')
  if !items.isEmpty then
    let _ ← optional (char ',')
  skipTrivia
  char ']'
  pure items

def assignment (value : Reader Value) : Reader Assignment := do
  let k ← key
  char '='
  skipBlanks
  let v ← value
  pure ⟨k, v⟩

/-- Assignments between braces on one line, without a comma after the last. -/
def braceEntries (value : Reader Value) : Reader Entries := do
  char '\x7b'
  let assignments ← separated (assignment value <* skipBlanks) (char ',')
  skipBlanks
  char '\x7d'
  match fill assignments [] with
  | some es => pure es
  | none => failure

def scalar : Reader Value := do
  match ← peek? with
  | some '"' | some '\'' => .string <$> anyString
  | some 't' => (fun _ => .boolean true) <$> literal "true"
  | some 'f' => (fun _ => .boolean false) <$> literal "false"
  | _ => .moment <$> moment <|> .float <$> float <|> .integer <$> integer

/-- A value with at most `depth` brackets or braces around any of its parts. -/
def value : (depth : Nat) → Reader Value
  | 0 => scalar
  | depth + 1 => do
    match ← peek? with
    | some '[' => .array <$> arrayItems (value depth)
    | some '\x7b' => .table .braces <$> braceEntries (value depth)
    | _ => scalar

inductive Line where
  | blank
  | assignment (a : Assignment)
  | header (isElement : Bool) (key : Key)

def header : Reader Line := do
  char '['
  match ← peek? with
  | some '[' => do
    char '['
    let k ← key
    literal "]]"
    pure (.header true k)
  | _ => do
    let k ← key
    char ']'
    pure (.header false k)

/-- A line with its end; blanks in front of it are skipped. -/
def line : Reader Line := do
  skipBlanks
  match ← peek? with
  | some '#' => do
    comment
    newline <|> atEnd
    pure .blank
  | some '\n' | some '\r' => do
    newline
    pure .blank
  | some '[' => do
    let h ← header
    lineEnd
    pure h
  | _ => do
    let a ← Toml.assignment (value greatestDepth)
    lineEnd
    pure (.assignment a)

/-- The assignments before the first header, and the sections. -/
def divide : List Line → List Assignment × List Section
  | [] => ([], [])
  | .blank :: ls => divide ls
  | .assignment a :: ls =>
    let (body, sections) := divide ls
    (a :: body, sections)
  | .header isElement key :: ls =>
    let (body, sections) := divide ls
    ([], ⟨isElement, key, body⟩ :: sections)

/-- A byte order mark in front is skipped. -/
def lines : Reader (List Line) := do
  let _ ← optional (char '\uFEFF')
  let ls ← many line
  skipBlanks
  pure ls

/-- The root table of a document. -/
def parse? (text : String) : Option Entries := do
  let (preamble, sections) := divide (← lines.run? text)
  let root ← fill preamble []
  sections.foldlM (fun es s => s.addTo es) root

end ServletFilters.Toml
