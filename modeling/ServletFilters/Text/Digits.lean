/-!
The ASCII digits and the naturals that they write.
-/

namespace ServletFilters.Text

def isDigit (c : Char) : Bool := '0' ≤ c && c ≤ '9'

/-- The value of a digit in bases up to sixteen. -/
def digitValue? (c : Char) : Option Nat :=
  if '0' ≤ c && c ≤ '9' then some (c.toNat - '0'.toNat)
  else if 'a' ≤ c && c ≤ 'f' then some (c.toNat - 'a'.toNat + 10)
  else if 'A' ≤ c && c ≤ 'F' then some (c.toNat - 'A'.toNat + 10)
  else none

/-- A digit of the base. -/
def isDigitOf (base : Nat) (c : Char) : Bool :=
  match digitValue? c with
  | some d => d < base
  | none => false

/-- The natural that digits write in a base. -/
def digitsNumber? (base : Nat) (digits : List Char) : Option Nat :=
  digits.foldlM (fun n c => (digitValue? c).map (n * base + ·)) 0

/-- The character whose code point the hexadecimal digits give. -/
def scalar? (digits : List Char) : Option Char := do
  let n ← digitsNumber? 16 digits
  if n < 0xD800 || (0xDFFF < n && n < 0x110000) then some (Char.ofNat n) else none

/-- The natural that decimal digits write. -/
def decimal (digits : List Char) : Nat := (digitsNumber? 10 digits).getD 0

end ServletFilters.Text
