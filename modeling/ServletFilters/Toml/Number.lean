import ServletFilters.Number.Binary64
import ServletFilters.Toml.Text

/-!
TOML numbers. Between two digits an underscore may stand. Integers have 64 bits and a sign, and a
decimal integer has no leading zero. A float beyond the largest double is refused when positive.
-/

namespace ServletFilters.Toml
open Reader Text

/-- The digits at the front of a text, without the underscores between them. -/
def spanDigits (base : Nat) : List Char → List Char × List Char
  | '_' :: c :: rest =>
    if isDigitOf base c then
      let (digits, last) := spanDigits base rest
      (c :: digits, last)
    else ([], '_' :: c :: rest)
  | c :: rest =>
    if isDigitOf base c then
      let (digits, last) := spanDigits base rest
      (c :: digits, last)
    else ([], c :: rest)
  | [] => ([], [])

/-- One digit or more of a base; the first is no underscore. -/
def digits (base : Nat) : Reader (List Char) := do
  let first ← satisfy (isDigitOf base)
  let others ← (fun s => some (spanDigits base s) : Reader (List Char))
  pure (first :: others)

/-- Whether there is a minus sign. -/
def sign : Reader Bool := do
  let c ← optional (satisfy fun c => c == '+' || c == '-')
  pure (c == some '-')

/-- Sign and digits of a decimal integer: a zero alone, or digits that begin with another. -/
def signedDigits : Reader (Bool × List Char) := do
  let negative ← sign
  match ← peek? with
  | some '0' => do
    char '0'
    pure (negative, ['0'])
  | _ => do
    let ds ← digits 10
    pure (negative, ds)

/-- An integer of 64 bits with a sign. -/
def bounded (i : Int) : Reader Int :=
  if i.natAbs < powerOfTwo 63 || (i < 0 && i.natAbs = powerOfTwo 63) then pure i else failure

def integerInBase (mark : String) (base : Nat) : Reader Int := do
  literal mark
  let ds ← digits base
  bounded ((digitsNumber? base ds).getD 0)

def decimalInteger : Reader Int := do
  let (negative, ds) ← signedDigits
  let n : Int := decimal ds
  bounded (if negative then -n else n)

def integer : Reader Int :=
  integerInBase "0x" 16 <|> integerInBase "0o" 8 <|> integerInBase "0b" 2 <|> decimalInteger

def exponent : Reader Int := do
  let _ ← satisfy fun c => c == 'e' || c == 'E'
  let negative ← sign
  let n : Int := decimal (← digits 10)
  pure (if negative then -n else n)

/-- A fraction, an exponent, or a fraction and an exponent. -/
def fractionAndExponent : Reader (List Char × Int) := do
  match ← peek? with
  | some '.' => do
    char '.'
    let ds ← digits 10
    let e ← optional exponent
    pure (ds, e.getD 0)
  | _ => do
    let e ← exponent
    pure ([], e)

def decimalFloat : Reader Binary64 := do
  let (negative, whole) ← signedDigits
  let (fraction, e) ← fractionAndExponent
  let x := Binary64.ofDecimal negative (decimal (whole ++ fraction)) (e - fraction.length)
  if x == .infinite false then failure
  pure x

def specialFloat : Reader Binary64 := do
  let negative ← sign
  (fun _ => .infinite negative) <$> literal "inf" <|> (fun _ => .nan) <$> literal "nan"

def float : Reader Binary64 := decimalFloat <|> specialFloat

end ServletFilters.Toml
