/-!
Doubles as exact numbers: a sign, a mantissa and a power of two, and the rounding of quotients of
naturals to the nearest double, where a tie goes to the even mantissa.
-/

namespace ServletFilters

/-- A finite double is `mantissa * 2 ^ exponent`; zero keeps its sign. -/
inductive Binary64 where
  | finite (negative : Bool) (mantissa : Nat) (exponent : Int)
  | infinite (negative : Bool)
  | nan
  deriving DecidableEq, Repr

def powerOfTwo (n : Nat) : Nat := Nat.pow 2 n

def powerOfTen (n : Nat) : Nat := Nat.pow 10 n

/-- The nearest natural to `num / den`, a tie going to the even one. -/
def roundQuotient (num den : Nat) : Nat :=
  let q := num / den
  let twice := 2 * (num % den)
  if twice < den then q
  else if den < twice then q + 1
  else q + q % 2

namespace Binary64

/-- The smallest exponent of a double. -/
def leastExponent : Int := -1074

/-- The largest exponent of a double with a full mantissa. -/
def greatestExponent : Int := 971

/-- `num / den` divided by `2 ^ e`, as a quotient again. -/
def scaled (num den : Nat) (e : Int) : Nat × Nat :=
  if e < 0 then (num * powerOfTwo e.natAbs, den) else (num, den * powerOfTwo e.natAbs)

/-- The exponent at which the quotient has 53 bits before the point, or the smallest one. -/
def exponentOf (num den : Nat) : Int :=
  let e : Int := (num.log2 : Int) - den.log2 - 53
  let (n, d) := scaled num den e
  max leastExponent (if n / d < powerOfTwo 53 then e else e + 1)

/-- The double nearest to `num / den`. -/
def ofQuotient (negative : Bool) (num den : Nat) : Binary64 :=
  if num = 0 then .finite negative 0 leastExponent
  else
    let e := exponentOf num den
    let (n, d) := scaled num den e
    let m := roundQuotient n d
    let (m, e) := if m = powerOfTwo 53 then (powerOfTwo 52, e + 1) else (m, e)
    if greatestExponent < e then .infinite negative else .finite negative m e

/-- The double nearest to `m * 10 ^ e`. Powers of ten that are out of every double's reach are
not computed. -/
def ofDecimal (negative : Bool) (m : Nat) (e : Int) : Binary64 :=
  if m = 0 then .finite negative 0 leastExponent
  else if 400 < e then .infinite negative
  else if (m.log2 : Int) + 3 * e < -1200 then
    .finite negative 0 leastExponent
  else if e < 0 then ofQuotient negative m (powerOfTen e.natAbs)
  else ofQuotient negative (m * powerOfTen e.natAbs) 1

/-- The size of a finite double as a quotient. -/
def quotient? : Binary64 → Option (Nat × Nat)
  | .finite _ m e => if e < 0 then some (m, powerOfTwo e.natAbs) else some (m * powerOfTwo e.natAbs, 1)
  | _ => none

end Binary64

end ServletFilters
