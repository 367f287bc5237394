import ServletFilters.Number.Binary64

/-!
Doubles as text: the fewest decimal digits that read back as the same double, and the nearer of
two such numbers. When both are equally near, a tie rule chooses. The digits are written without an
exponent, or with one where the number is very large or very small.
-/

namespace ServletFilters.Binary64

/-- The power of ten just above `num / den`: the least `k` with `num / den < 10 ^ k`. -/
def decimalMagnitude (num den : Nat) : Int :=
  let below (k : Int) : Bool :=
    if k < 0 then num * powerOfTen k.natAbs < den else num < den * powerOfTen k.natAbs
  let guess : Int := ((num.log2 : Int) - den.log2) * 30103 / 100000
  match [guess - 1, guess, guess + 1].find? below with
  | some k => k
  | none => guess + 2

/-- Which of two numbers that are equally near is taken: the greater, or the one with the even last
digit. -/
inductive Tie where
  | up
  | toEven
  deriving DecidableEq, Repr

/-- Whether the number after `low` is taken when both are equally near. -/
def Tie.goesUp : Tie → Nat → Bool
  | .up, _ => true
  | .toEven, low => low % 2 = 1

/-- The value on the grid of `n` digits just below `num / den`, its exponent, and whether the
upper neighbour is the nearer one. -/
def gridBelow (tie : Tie) (num den n : Nat) : Nat × Int × Bool :=
  let e := decimalMagnitude num den - n
  let (a, b) := if e < 0 then (num * powerOfTen e.natAbs, den) else (num, den * powerOfTen e.natAbs)
  (a / b, e, b < 2 * (a % b) || b = 2 * (a % b) && tie.goesUp (a / b))

/-- The nearer neighbour on the grid of `n` digits that reads back as `x`. An upper neighbour that
is a power of ten has one digit. -/
def onGrid? (tie : Tie) (x : Binary64) (negative : Bool) (num den n : Nat) :
    Option (Nat × Int) :=
  let (low, e, up) := gridBelow tie num den n
  let order := if up then [low + 1, low] else [low, low + 1]
  (order.find? fun d => ofDecimal negative d e == x).map fun d =>
    if d = powerOfTen n then (1, e + n) else (d, e)

/-- Digits and exponent of the shortest decimal that reads back as a finite double. -/
def shortest (tie : Tie) (x : Binary64) (negative : Bool) (num den : Nat) : Nat × Int :=
  if num = 0 then (0, 0)
  else ((List.range 17).findSome? fun n => onGrid? tie x negative num den (n + 1)).getD (0, 0)

/-- `d * 10 ^ e` without an exponent and with at least one decimal place. -/
def positional (d : Nat) (e : Int) : String :=
  let digits := Nat.toDigits 10 d
  if 0 ≤ e then
    String.ofList (if d = 0 then digits else digits ++ List.replicate e.natAbs '0') ++ ".0"
  else
    let padded := List.replicate (e.natAbs + 1 - digits.length) '0' ++ digits
    let whole := padded.length - e.natAbs
    String.ofList (padded.take whole) ++ "." ++ String.ofList (padded.drop whole)

/-- `d * 10 ^ e` with one digit before the point, the others after it, and a signed exponent. -/
def scientific (d : Nat) (e : Int) : String :=
  let digits := Nat.toDigits 10 d
  let x := e + (digits.length - 1 : Nat)
  String.ofList (digits.take 1)
    ++ (if digits.length ≤ 1 then "" else "." ++ String.ofList (digits.drop 1))
    ++ (if x < 0 then "e-" else "e+") ++ toString x.natAbs

/-- Without an exponent from `10 ^ (-5)` up to `10 ^ 16`, and with one beyond. -/
def compact (d : Nat) (e : Int) : String :=
  let x := e + (Nat.toDigits 10 d).length
  if -5 < x && x ≤ 16 then positional d e else scientific d e

/-- The text of a double whose shortest decimal is written by `write`. -/
def textBy (tie : Tie) (write : Nat → Int → String) (x : Binary64) : String :=
  match x with
  | .nan => "NaN"
  | .infinite negative => if negative then "-inf" else "inf"
  | .finite negative _ _ =>
    let (num, den) := x.quotient?.getD (0, 1)
    let (d, e) := shortest tie x negative num den
    (if negative then "-" else "") ++ write d e

/-- A tie goes up. -/
def positionalText : Binary64 → String := textBy .up positional

/-- A tie goes to the even digit. -/
def compactText : Binary64 → String := textBy .toEven compact

end ServletFilters.Binary64
