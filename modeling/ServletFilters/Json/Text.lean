import ServletFilters.Json.Numeral
import ServletFilters.Number.Shortest
import ServletFilters.Reader

/-!
JSON text: the reader, and the writer that puts every member and item on a line of its own.
-/

namespace ServletFilters.Json
open Reader Text

def skipBlanks : Reader Unit := do
  let _ ← takeWhile fun c => c == ' ' || c == '\t' || c == '\n' || c == '\r'

def simpleEscape? : Char → Option Char
  | '"' => some '"'
  | '\\' => some '\\'
  | '/' => some '/'
  | 'b' => some '\x08'
  | 'f' => some '\x0c'
  | 'n' => some '\n'
  | 'r' => some '\r'
  | 't' => some '\t'
  | _ => none

/-- The scalar that a pair of surrogates stands for. -/
def joinSurrogates (high low : Nat) : Nat := 0x10000 + (high - 0xD800) * 0x400 + (low - 0xDC00)

/-- The characters of a string up to its closing quote, and what follows the quote. -/
def stringBody : List Char → Option (List Char × List Char)
  | '"' :: rest => some ([], rest)
  | '\\' :: 'u' :: a :: b :: c :: d :: '\\' :: 'u' :: e :: f :: g :: h :: rest => do
    let first ← digitsNumber? 16 [a, b, c, d]
    let second ← digitsNumber? 16 [e, f, g, h]
    if 0xD800 ≤ first && first < 0xDC00 then
      if 0xDC00 ≤ second && second < 0xE000 then
        let (cs, last) ← stringBody rest
        pure (Char.ofNat (joinSurrogates first second) :: cs, last)
      else none
    else if 0xDC00 ≤ first && first < 0xE000 then none
    else
      let (cs, last) ← stringBody ('\\' :: 'u' :: e :: f :: g :: h :: rest)
      pure (Char.ofNat first :: cs, last)
  | '\\' :: 'u' :: a :: b :: c :: d :: rest => do
    let n ← digitsNumber? 16 [a, b, c, d]
    if 0xD800 ≤ n && n < 0xE000 then none
    else
      let (cs, last) ← stringBody rest
      pure (Char.ofNat n :: cs, last)
  | '\\' :: c :: rest => do
    let e ← simpleEscape? c
    let (cs, last) ← stringBody rest
    pure (e :: cs, last)
  | c :: rest =>
    if c.toNat < 0x20 then none
    else do
      let (cs, last) ← stringBody rest
      pure (c :: cs, last)
  | [] => none

def quoted : Reader String := do
  char '"'
  let cs ← (stringBody : Reader (List Char))
  pure (String.ofList cs)

def exponent : Reader Int := do
  let _ ← satisfy fun c => c == 'e' || c == 'E'
  let sign ← optional (satisfy fun c => c == '+' || c == '-')
  let ds ← takeWhile1 isDigit
  let n : Int := decimal ds
  pure (if sign == some '-' then -n else n)

def numeral : Reader Numeral := do
  let sign ← optional (char '-')
  let digits ← takeWhile1 isDigit
  if 1 < digits.length && digits.head? == some '0' then failure
  let fraction ← optional (char '.' *> takeWhile1 isDigit)
  let e ← optional exponent
  pure ⟨sign.isSome, digits, fraction, e⟩

/-- A member of an object, with the reader of its value. -/
def member (inner : Reader Json) : Reader (String × Json) := do
  skipBlanks
  let key ← quoted
  skipBlanks
  char ':'
  let v ← inner
  pure (key, v)

/-- A value that begins with this character, with the reader of the values in it. -/
def valueBeginning (inner : Reader Json) : Option Char → Reader Json
  | some '"' => .string <$> quoted
  | some '[' => do
    char '['
    let items ← separated inner (char ',')
    skipBlanks
    char ']'
    pure (.array items)
  | some '\x7b' => do
    char '\x7b'
    let members ← separated (member inner) (char ',')
    skipBlanks
    char '\x7d'
    pure (ofMembers members)
  | some 't' => (fun _ => .boolean true) <$> literal "true"
  | some 'f' => (fun _ => .boolean false) <$> literal "false"
  | some 'n' => (fun _ => .null) <$> literal "null"
  | _ => Numeral.value <$> numeral

/-- A value nested at most `depth` deep, with the blanks before it and behind it. -/
def value : (depth : Nat) → Reader Json
  | 0 => failure
  | depth + 1 => do
    skipBlanks
    let v ← valueBeginning (value depth) (← peek?)
    skipBlanks
    pure v

/-- The value that a text holds, nested at most 127 deep. -/
def parse? (text : String) : Option Json := (value 128).run? text

def hexDigit (n : Nat) : Char := (Nat.toDigits 16 n).headD '0'

def escapeChar (c : Char) : List Char :=
  match c with
  | '"' => ['\\', '"']
  | '\\' => ['\\', '\\']
  | '\n' => ['\\', 'n']
  | '\r' => ['\\', 'r']
  | '\t' => ['\\', 't']
  | '\x08' => ['\\', 'b']
  | '\x0c' => ['\\', 'f']
  | c =>
    if c.toNat < 0x20 then
      ['\\', 'u', '0', '0', hexDigit (c.toNat / 16), hexDigit (c.toNat % 16)]
    else [c]

def quote (s : String) : String :=
  "\"" ++ String.ofList (s.toList.flatMap escapeChar) ++ "\""

def indent (depth : Nat) : String := String.ofList (List.replicate (2 * depth) ' ')

mutual

/-- Items and members stand on lines of their own, two blanks deeper than their brackets. -/
def pretty (depth : Nat) : Json → String
  | .null => "null"
  | .boolean b => if b then "true" else "false"
  | .integer i => toString i
  | .float x => x.compactText
  | .string s => quote s
  | .array [] => "[]"
  | .array (i :: is) =>
    "[\n" ++ indent (depth + 1) ++ pretty (depth + 1) i ++ prettyItems depth is
      ++ "\n" ++ indent depth ++ "]"
  | .object [] => "\x7b\x7d"
  | .object ((k, v) :: ms) =>
    "\x7b\n" ++ indent (depth + 1) ++ quote k ++ ": " ++ pretty (depth + 1) v
      ++ prettyMembers depth ms ++ "\n" ++ indent depth ++ "\x7d"

def prettyItems (depth : Nat) : List Json → String
  | [] => ""
  | i :: is => ",\n" ++ indent (depth + 1) ++ pretty (depth + 1) i ++ prettyItems depth is

def prettyMembers (depth : Nat) : List (String × Json) → String
  | [] => ""
  | (k, v) :: ms =>
    ",\n" ++ indent (depth + 1) ++ quote k ++ ": " ++ pretty (depth + 1) v
      ++ prettyMembers depth ms

end

end ServletFilters.Json
