import ServletFilters.Toml.Text

/-!
TOML dates and times, read into their normal text: a `T` before the time, fractions of a second cut
after nine places and without trailing zeros, and an offset as `Z` or as hours and minutes.
-/

namespace ServletFilters.Toml
open Reader Text

/-- A number of exactly `n` digits between two bounds. -/
def numberOf (n low high : Nat) : Reader Nat := do
  let value := decimal (← times n isDigit)
  if low ≤ value && value ≤ high then pure value else failure

def isLeap (year : Nat) : Bool := year % 4 == 0 && (year % 100 != 0 || year % 400 == 0)

def daysIn (year month : Nat) : Nat :=
  match month with
  | 2 => if isLeap year then 29 else 28
  | 4 | 6 | 9 | 11 => 30
  | _ => 31

/-- A number in decimal, filled up with zeros in front. -/
def padded (width n : Nat) : String :=
  let ds := Nat.toDigits 10 n
  String.ofList (List.replicate (width - ds.length) '0' ++ ds)

def date : Reader String := do
  let year ← numberOf 4 0 9999
  char '-'
  let month ← numberOf 2 1 12
  char '-'
  let day ← numberOf 2 1 (daysIn year month)
  pure (padded 4 year ++ "-" ++ padded 2 month ++ "-" ++ padded 2 day)

/-- A fraction of a second with its point, or nothing when it is zero. -/
def normalFraction (ds : List Char) : String :=
  let kept := ((ds.take 9).reverse.dropWhile (· == '0')).reverse
  if kept.isEmpty then "" else "." ++ String.ofList kept

/-- A minute may have a leap second. -/
def time : Reader String := do
  let hour ← numberOf 2 0 23
  char ':'
  let minute ← numberOf 2 0 59
  char ':'
  let second ← numberOf 2 0 60
  let fraction ← optional (char '.' *> takeWhile1 isDigit)
  pure (padded 2 hour ++ ":" ++ padded 2 minute ++ ":" ++ padded 2 second
    ++ normalFraction (fraction.getD []))

/-- An offset of zero is never negative. -/
def offset : Reader String := do
  let mark ← satisfy fun c => c == 'Z' || c == 'z' || c == '+' || c == '-'
  if mark == 'Z' || mark == 'z' then pure "Z"
  else
    let hour ← numberOf 2 0 23
    char ':'
    let minute ← numberOf 2 0 59
    let shown := if mark == '-' && hour + minute != 0 then "-" else "+"
    pure (shown ++ padded 2 hour ++ ":" ++ padded 2 minute)

def timeAfterDate : Reader String := do
  let _ ← satisfy fun c => c == 'T' || c == 't' || c == ' '
  let t ← time
  let o ← optional offset
  pure ("T" ++ t ++ o.getD "")

def dateAndTime : Reader String := do
  let d ← date
  let t ← optional timeAfterDate
  pure (d ++ t.getD "")

def moment : Reader String := dateAndTime <|> time

end ServletFilters.Toml
