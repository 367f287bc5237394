import ServletFilters.Ascending
import ServletFilters.Number.Binary64

/-!
Values of the JSON data model. An object is a list of members in ascending order of key, each key
once.
-/

namespace ServletFilters

inductive Json where
  | null
  | boolean (b : Bool)
  | integer (i : Int)
  | float (x : Binary64)
  | string (s : String)
  | array (items : List Json)
  | object (members : List (String × Json))
  deriving Inhabited

namespace Json

/-- The object with these members; of several members of one key the last counts. -/
def ofMembers (members : List (String × Json)) : Json := .object (Ascending.ofList members)

def ofTexts (texts : List String) : Json := .array (texts.map .string)

/-- The member of an object under a key. -/
def get? (key : String) : Json → Option Json
  | .object members => members.lookup key
  | _ => none

end Json

end ServletFilters
