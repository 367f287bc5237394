import ServletFilters.Text.Affix

/-!
The kinds of url pattern a descriptor may use, and the classifier that tells them apart.
-/

namespace ServletFilters.UrlPattern
open Text

inductive Kind where
  | exact
  | universal
  | pathPrefix
  | extension
  | invalid
  deriving DecidableEq, Repr

namespace Kind

/-- A star may stand only at the end after a slash, or at the front before a period. The empty
pattern is exact. -/
def ofChars (pattern : List Char) : Kind :=
  if pattern.isEmpty then .exact
  else if pattern == ['/', '*'] then .universal
  else match before? ['/', '*'] pattern with
    | some base =>
      if base.head? == some '/' && !base.contains '*' then .pathPrefix else .invalid
    | none =>
      match after? ['*', '.'] pattern with
      | some ending =>
        if !ending.isEmpty && !ending.any (fun c => c == '/' || c == '*') then .extension
        else .invalid
      | none =>
        if pattern.head? == some '/' && !pattern.contains '*' then .exact else .invalid

def classify (pattern : String) : Kind := ofChars pattern.toList

def isValid (kind : Kind) : Bool := kind != .invalid

def name : Kind → String
  | .exact => "exact"
  | .universal => "universal"
  | .pathPrefix => "path-prefix"
  | .extension => "extension"
  | .invalid => "invalid"

end Kind

end ServletFilters.UrlPattern
