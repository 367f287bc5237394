/-!
Readers of text: each takes a value off the front of a list of characters and leaves the rest, or
refuses.
-/

namespace ServletFilters

abbrev Reader := StateT (List Char) Option

namespace Reader

/-- The next character, which stays in the text. -/
def peek? : Reader (Option Char) := fun s => some (s.head?, s)

def satisfy (p : Char → Bool) : Reader Char
  | c :: rest => if p c then some (c, rest) else none
  | [] => none

def char (c : Char) : Reader Unit := do
  let _ ← satisfy (· == c)

/-- Takes exactly this text. -/
def literal (text : String) : Reader Unit := fun s =>
  if text.toList.isPrefixOf s then some ((), s.drop text.length) else none

def takeWhile (p : Char → Bool) : Reader (List Char) := fun s => some (s.span p)

def takeWhile1 (p : Char → Bool) : Reader (List Char) := do
  let taken ← takeWhile p
  if taken.isEmpty then failure else pure taken

/-- Exactly `n` characters of a class. -/
def times (n : Nat) (p : Char → Bool) : Reader (List Char) := fun s =>
  let taken := s.take n
  if taken.length = n && taken.all p then some (taken, s.drop n) else none

/-- Reads values until the reader refuses, `n` at most. -/
def upTo (r : Reader α) : Nat → List Char → List α × List Char
  | 0, s => ([], s)
  | n + 1, s =>
    match r s with
    | none => ([], s)
    | some (a, rest) =>
      let (as, last) := upTo r n rest
      (a :: as, last)

/-- Reads values until the reader refuses. Each takes at least one character, so the length of the
text bounds their number. -/
def many (r : Reader α) : Reader (List α) := fun s => some (upTo r s.length s)

/-- One value or more, with a separator before each but the first. -/
def separated1 (r : Reader α) (separator : Reader Unit) : Reader (List α) := do
  let first ← r
  let others ← many (separator *> r)
  pure (first :: others)

def separated (r : Reader α) (separator : Reader Unit) : Reader (List α) :=
  separated1 r separator <|> pure []

def atEnd : Reader Unit := fun s => if s.isEmpty then some ((), s) else none

/-- The value of a reader that takes the whole text. -/
def run? (r : Reader α) (text : String) : Option α :=
  match r text.toList with
  | some (a, []) => some a
  | _ => none

end Reader

end ServletFilters
