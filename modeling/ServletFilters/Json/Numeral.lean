import ServletFilters.Json
import ServletFilters.Text.Digits

/-!
The number that a JSON numeral stands for. A numeral without fraction and exponent is an integer
when it fits into 64 bits; every other one is a double.

A double is read through a significand of at most 64 bits: later digits are dropped, and the
significand is scaled by one power of ten, each step rounded.
-/

namespace ServletFilters.Json

/-- The written parts of a numeral; `fraction` and `exponent` are absent when not written. -/
structure Numeral where
  negative : Bool
  digits : List Char
  fraction : Option (List Char)
  exponent : Option Int

/-- Appends digits to a significand while it fits into 64 bits, and tells how many were used. -/
def appendDigits (significand : Nat) : List Char → Nat × Nat
  | [] => (significand, 0)
  | c :: rest =>
    let next := significand * 10 + Text.decimal [c]
    if next < powerOfTwo 64 then
      let (final, used) := appendDigits next rest
      (final, used + 1)
    else (significand, 0)

/-- Multiplies a double by a power of ten that is itself rounded to a double. -/
def timesPowerOfTen (negative : Bool) (x : Binary64) (e : Nat) : Binary64 :=
  match x.quotient?, (Binary64.ofDecimal false 1 e).quotient? with
  | some (n, d), some (n', d') => .ofQuotient negative (n * n') (d * d')
  | _, _ => .infinite negative

/-- Divides a double by a power of ten that is itself rounded to a double. -/
def overPowerOfTen (negative : Bool) (x : Binary64) (e : Nat) : Binary64 :=
  match x.quotient?, (Binary64.ofDecimal false 1 e).quotient? with
  | some (n, d), some (n', d') => .ofQuotient negative (n * d') (d * n')
  | _, _ => .infinite negative

/-- Scales a significand by `10 ^ e`, in steps of at most 308 when going down; four steps reach
zero from any significand. -/
def scaleSignificand (negative : Bool) (significand : Nat) (e : Int) : Binary64 :=
  let x := Binary64.ofQuotient negative significand 1
  let divide (x : Binary64) (n : Nat) := overPowerOfTen negative x n
  let n := e.natAbs
  if 0 ≤ e then
    if significand = 0 then x
    else if n ≤ 308 then timesPowerOfTen negative x n
    else .infinite negative
  else if n ≤ 308 then divide x n
  else if n ≤ 616 then divide (divide x 308) (n - 308)
  else .finite negative 0 Binary64.leastExponent

def Numeral.value (n : Numeral) : Json :=
  let (whole, used) := appendDigits 0 n.digits
  let dropped := n.digits.length - used
  if n.fraction.isNone && n.exponent.isNone && dropped == 0 then
    if !n.negative then .integer whole
    else if whole = 0 || powerOfTwo 63 < whole then .float (.ofQuotient true whole 1)
    else .integer (-whole)
  else
    let (significand, places) := appendDigits whole (n.fraction.getD [])
    let e := (dropped : Int) - places + n.exponent.getD 0
    .float (scaleSignificand n.negative significand e)

end ServletFilters.Json
