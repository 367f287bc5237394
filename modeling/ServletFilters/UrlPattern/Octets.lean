import ServletFilters.UrlPattern

/-!
Url patterns matched on the octets of UTF-8 text. Offsets count octets, and every access is checked:
the answer is absent if an octet is read behind the end, if the length of an empty text is lowered,
or if a text is cut inside a character.
-/

namespace ServletFilters.UrlPattern.Octets

def slash : UInt8 := 0x2F

def star : UInt8 := 0x2A

def period : UInt8 := 0x2E

def ofString (s : String) : List UInt8 := s.toUTF8.data.toList

/-- The offset of the last `b`. -/
def lastOffset? (b : UInt8) (s : List UInt8) : Option Nat :=
  (s.zipIdx.filter fun e => e.1 == b).getLast?.map (·.2)

/-- An octet that does not begin a character. -/
def isContinuation (b : UInt8) : Bool := 0x80 ≤ b && b < 0xC0

/-- The text from an offset on, which must be its end or the beginning of a character. -/
def from? (s : List UInt8) (offset : Nat) : Option (List UInt8) :=
  if offset = s.length then some []
  else match s[offset]? with
    | some b => if isContinuation b then none else some (s.drop offset)
    | none => none

/-- The offset of the last octet; an empty text has none. -/
def lastIndex? (s : List UInt8) : Option Nat := if s.isEmpty then none else some (s.length - 1)

def hasExtension? (extension path : List UInt8) : Option Bool :=
  match lastOffset? slash path, lastOffset? period path with
  | some s, some p =>
    if p < s then some false
    else do
      let last ← lastIndex? path
      if p = last then pure false
      else
        let ending ← from? path (p + 1)
        pure (ending == extension)
  | _, _ => some false

def isAtOrBelow? (base path : List UInt8) : Option Bool :=
  if !base.isPrefixOf path then some false
  else if path.length = base.length then some true
  else path[base.length]?.map (· == slash)

def selects? (pattern path : List UInt8) : Option Bool :=
  if pattern == path then some true
  else if pattern == [slash, star] then some true
  else if [slash, star].isSuffixOf pattern then
    isAtOrBelow? (pattern.take (pattern.length - 2)) path
  else if [star, period].isPrefixOf pattern then hasExtension? (pattern.drop 2) path
  else some false

end ServletFilters.UrlPattern.Octets
