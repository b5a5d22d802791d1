/-!
The environment: variables with their values, set from outside.
-/

namespace DocMarkup

/-- Variables with their values. -/
abbrev Environment := List (String × String)

/-- Why a variable cannot be set. -/
inductive VariableError where
  /-- The name or the value holds the character that ends both. -/
  | nulCharacter
  /-- The name holds the sign that ends it. -/
  | equalsSign
  | emptyName
  deriving DecidableEq

def VariableError.message : VariableError → String
  | .nulCharacter => "embedded null byte"
  | .equalsSign => "illegal environment variable name"
  | .emptyName => "[Errno 22] Invalid argument"

namespace Environment

def get? (e : Environment) (name : String) : Option String := e.lookup name

/-- Set a variable. -/
def set (e : Environment) (name value : String) : Except VariableError Environment :=
  if name.toList.contains '\x00' || value.toList.contains '\x00' then .error .nulCharacter
  else if name.toList.contains '=' then .error .equalsSign
  else if name.isEmpty then .error .emptyName
  else .ok ((name, value) :: e)

def unset (e : Environment) (name : String) : Environment := e.filter fun v => v.1 != name

end Environment

end DocMarkup
