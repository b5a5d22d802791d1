import DocMarkup.Json.Binary64

/-!
JSON values, as they arrive from other programs. Whole numbers and floating-point numbers are kept
apart, and the members of an object keep their order.
-/

namespace DocMarkup

inductive Json where
  | null
  | bool (value : Bool)
  | int (value : Int)
  | real (value : Binary64)
  | str (value : String)
  | arr (items : List Json)
  | obj (members : List (String × Json))
  deriving Inhabited

namespace Json

/-- The member of an object under a key; other values have no members. -/
def member? (key : String) : Json → Option Json
  | .obj members => members.lookup key
  | _ => none

end Json

end DocMarkup
