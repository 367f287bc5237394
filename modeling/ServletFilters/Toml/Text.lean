import ServletFilters.Reader
import ServletFilters.Text.Digits

/-!
The characters of TOML documents: blanks, line ends and comments, and the four kinds of string.
-/

namespace ServletFilters.Toml
open Reader

def isBlank (c : Char) : Bool := c == ' ' || c == '\t'

/-- A character that may stand in a comment or a string: no control character but the tab. -/
def isPlain (c : Char) : Bool := c == '\t' || (0x20 ≤ c.toNat && c.toNat != 0x7F)

def skipBlanks : Reader Unit := do
  let _ ← takeWhile isBlank

def newline : Reader Unit := char '\n' <|> literal "\r\n"

def comment : Reader Unit := do
  char '#'
  let _ ← takeWhile isPlain

/-- The rest of a line after a statement. -/
def lineEnd : Reader Unit := do
  skipBlanks
  let _ ← optional comment
  newline <|> atEnd

/-- What follows blanks, line ends and comments, each comment ended by a line end. -/
def afterTrivia (inComment : Bool) : List Char → Option (List Char)
  | '\r' :: '\n' :: rest => afterTrivia false rest
  | c :: rest =>
    if c == '\n' then afterTrivia false rest
    else if inComment then if isPlain c then afterTrivia true rest else none
    else if isBlank c then afterTrivia false rest
    else if c == '#' then afterTrivia true rest
    else some (c :: rest)
  | [] => if inComment then none else some []

def skipTrivia : Reader Unit := fun s => (afterTrivia false s).map ((), ·)

/-- The character that an escape stands for, given what follows the backslash. -/
def escape? : List Char → Option (Char × List Char)
  | 'b' :: rest => some ('\x08', rest)
  | 't' :: rest => some ('\t', rest)
  | 'n' :: rest => some ('\n', rest)
  | 'f' :: rest => some ('\x0c', rest)
  | 'r' :: rest => some ('\r', rest)
  | '"' :: rest => some ('"', rest)
  | '\\' :: rest => some ('\\', rest)
  | 'u' :: a :: b :: c :: d :: rest => (Text.scalar? [a, b, c, d]).map (·, rest)
  | 'U' :: a :: b :: c :: d :: e :: f :: g :: h :: rest =>
    (Text.scalar? [a, b, c, d, e, f, g, h]).map (·, rest)
  | _ => none

theorem length_of_escape? {s rest : List Char} {c : Char} (h : escape? s = some (c, rest)) :
    rest.length < s.length := by
  unfold escape? at h
  split at h <;> simp only [Option.some.injEq, Prod.mk.injEq, Option.map_eq_some_iff,
    reduceCtorEq] at h <;> simp only [List.length_cons] <;> grind

/-- What follows blanks and line ends. -/
def afterBlankLines : List Char → List Char
  | '\r' :: '\n' :: rest => afterBlankLines rest
  | c :: rest => if c == '\n' || isBlank c then afterBlankLines rest else c :: rest
  | [] => []

theorem length_afterBlankLines_le (s : List Char) : (afterBlankLines s).length ≤ s.length := by
  fun_induction afterBlankLines s with
  | case1 rest ih => simp only [List.length_cons]; omega
  | case2 c rest _ _ ih => simp only [List.length_cons]; omega
  | case3 => simp
  | case4 => simp

/-- What follows a backslash at the end of a line: the line end and all blanks and line ends
after it are dropped. -/
def afterContinuation? (s : List Char) : Option (List Char) :=
  match s.dropWhile isBlank with
  | '\n' :: rest => some (afterBlankLines rest)
  | '\r' :: '\n' :: rest => some (afterBlankLines rest)
  | _ => none

theorem length_of_afterContinuation? {s rest : List Char}
    (h : afterContinuation? s = some rest) : rest.length < s.length := by
  have hle : (s.dropWhile isBlank).length ≤ s.length := (List.dropWhile_sublist _).length_le
  unfold afterContinuation? at h
  split at h
  · rename_i tail heq
    have htail := length_afterBlankLines_le tail
    rw [heq, List.length_cons] at hle
    simp only [Option.some.injEq] at h
    subst h
    omega
  · rename_i tail heq
    have htail := length_afterBlankLines_le tail
    rw [heq, List.length_cons, List.length_cons] at hle
    simp only [Option.some.injEq] at h
    subst h
    omega
  · simp at h

/-- The characters of a basic string up to its closing quote, and what follows it. -/
def basicBody : List Char → Option (List Char × List Char)
  | '"' :: rest => some ([], rest)
  | '\\' :: rest =>
    match _h : escape? rest with
    | some (c, after) => (basicBody after).map fun (cs, last) => (c :: cs, last)
    | none => none
  | c :: rest => if isPlain c then (basicBody rest).map fun (cs, last) => (c :: cs, last) else none
  | [] => none
termination_by s => s.length
decreasing_by
  · have hrest := length_of_escape? _h
    simp only [List.length_cons]
    omega
  · simp

/-- The characters of a basic string over several lines up to its closing quotes. One or two
quotes may stand just before those. -/
def longBasicBody : List Char → Option (List Char × List Char)
  | '"' :: '"' :: '"' :: '"' :: '"' :: rest => some (['"', '"'], rest)
  | '"' :: '"' :: '"' :: '"' :: rest => some (['"'], rest)
  | '"' :: '"' :: '"' :: rest => some ([], rest)
  | '\\' :: rest =>
    match _h : afterContinuation? rest with
    | some after => longBasicBody after
    | none =>
      match _h' : escape? rest with
      | some (c, after) => (longBasicBody after).map fun (cs, last) => (c :: cs, last)
      | none => none
  | '\r' :: '\n' :: rest => (longBasicBody rest).map fun (cs, last) => ('\n' :: cs, last)
  | c :: rest =>
    if isPlain c || c == '\n' then (longBasicBody rest).map fun (cs, last) => (c :: cs, last)
    else none
  | [] => none
termination_by s => s.length
decreasing_by
  · have hrest := length_of_afterContinuation? _h
    simp only [List.length_cons]
    omega
  · have hrest := length_of_escape? _h'
    simp only [List.length_cons]
    omega
  · simp only [List.length_cons]
    omega
  · simp

/-- The characters of a literal string over several lines up to its closing apostrophes. -/
def longLiteralBody : List Char → Option (List Char × List Char)
  | '\'' :: '\'' :: '\'' :: '\'' :: '\'' :: rest => some (['\'', '\''], rest)
  | '\'' :: '\'' :: '\'' :: '\'' :: rest => some (['\''], rest)
  | '\'' :: '\'' :: '\'' :: rest => some ([], rest)
  | '\r' :: '\n' :: rest => (longLiteralBody rest).map fun (cs, last) => ('\n' :: cs, last)
  | c :: rest =>
    if isPlain c || c == '\n' then (longLiteralBody rest).map fun (cs, last) => (c :: cs, last)
    else none
  | [] => none

def basicString : Reader String := do
  char '"'
  let cs ← (basicBody : Reader (List Char))
  pure (String.ofList cs)

def literalString : Reader String := do
  char '\''
  let cs ← takeWhile fun c => isPlain c && c != '\''
  char '\''
  pure (String.ofList cs)

/-- A line end just after the opening quotes is not part of the string. -/
def longBasicString : Reader String := do
  literal "\"\"\""
  let _ ← optional newline
  let cs ← (longBasicBody : Reader (List Char))
  pure (String.ofList cs)

def longLiteralString : Reader String := do
  literal "'''"
  let _ ← optional newline
  let cs ← (longLiteralBody : Reader (List Char))
  pure (String.ofList cs)

def anyString : Reader String :=
  longBasicString <|> basicString <|> longLiteralString <|> literalString

end ServletFilters.Toml
