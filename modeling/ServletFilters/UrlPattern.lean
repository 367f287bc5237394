import ServletFilters.Text.Affix

/-!
Url patterns and the request paths that they select.

A pattern selects the path equal to it. Beyond that, `/*` selects every path, `b/*` the path `b`
and everything below it, and `*.e` every path whose last segment has the extension `e`.
-/

namespace ServletFilters.UrlPattern
open Text

/-- The extension of a path is what follows the last period of its last segment; a segment that
ends with a period has none. -/
def hasExtension (extension path : List Char) : Bool :=
  match afterLast? '/' path with
  | none => false
  | some segment =>
    match afterLast? '.' segment with
    | none => false
    | some ending => !ending.isEmpty && ending == extension

/-- The path is `base` itself or continues it with a slash. -/
def isAtOrBelow (base path : List Char) : Bool :=
  match after? base path with
  | none => false
  | some [] => true
  | some (c :: _) => c == '/'

/-- A pattern that ends in `/*` is never tried as an extension. -/
def selectsChars (pattern path : List Char) : Bool :=
  if pattern == path then true
  else if pattern == ['/', '*'] then true
  else match before? ['/', '*'] pattern with
    | some base => isAtOrBelow base path
    | none =>
      match after? ['*', '.'] pattern with
      | some extension => hasExtension extension path
      | none => false

/-- An absent pattern selects nothing, and an absent path is selected by nothing. -/
def selects (pattern path : Option String) : Bool :=
  match pattern, path with
  | some p, some q => selectsChars p.toList q.toList
  | _, _ => false

end ServletFilters.UrlPattern
