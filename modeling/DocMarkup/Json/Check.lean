import DocMarkup.Json.Basic

/-!
Checking values that come from elsewhere. A check gives a value or everything that is wrong with it,
each with the place where it was found.
-/

namespace DocMarkup

/-- A step from a value to a part of it. -/
inductive Json.Step where
  | key (name : String)
  | index (i : Nat)
  deriving DecidableEq

inductive Fault where
  | notString
  | notBool
  /-- A value of a kind that can stand for a truth value, but does not. -/
  | unclearBool
  | missing
  | notList
  | notRecord (name : String)
  deriving DecidableEq

/-- The name of a fault. -/
def Fault.code : Fault → String
  | .notString => "string_type"
  | .notBool => "bool_type"
  | .unclearBool => "bool_parsing"
  | .missing => "missing"
  | .notList => "list_type"
  | .notRecord _ => "model_type"

def Fault.message : Fault → String
  | .notString => "Input should be a valid string"
  | .notBool => "Input should be a valid boolean"
  | .unclearBool => "Input should be a valid boolean, unable to interpret input"
  | .missing => "Field required"
  | .notList => "Input should be a valid list"
  | .notRecord name => "Input should be a valid dictionary or instance of " ++ name

structure Issue where
  fault : Fault
  place : List Json.Step := []
  deriving DecidableEq

inductive Checked (α : Type) where
  | valid (value : α)
  | invalid (issues : List Issue)

namespace Checked

variable {α β : Type}

def issues : Checked α → List Issue
  | .valid _ => []
  | .invalid issues => issues

def map (f : α → β) : Checked α → Checked β
  | .valid a => .valid (f a)
  | .invalid issues => .invalid issues

/-- Apply a checked function to a checked value; what is wrong with both is reported in this
order. -/
def apply (f : Checked (α → β)) (a : Checked α) : Checked β :=
  match f, a with
  | .valid f, .valid a => .valid (f a)
  | f, a => .invalid (f.issues ++ a.issues)

instance : Functor Checked where
  map := map

instance : Seq Checked where
  seq f a := apply f (a ())

instance : Pure Checked where
  pure := .valid

/-- A value that is wrong in one way. -/
def fault (fault : Fault) : Checked α := .invalid [{ fault }]

/-- The check of a part of a value. -/
def within (step : Json.Step) : Checked α → Checked α
  | .valid a => .valid a
  | .invalid issues => .invalid (issues.map fun i => { i with place := step :: i.place })

/-- Check the items of a list, the first of which has index `n`. -/
def items (check : α → Checked β) (n : Nat) : List α → Checked (List β)
  | [] => .valid []
  | a :: as => List.cons <$> (check a).within (.index n) <*> items check (n + 1) as

end Checked

/-! ## Scalars -/

namespace Json

/-- A text in lower case, as far as its letters are ASCII. -/
def lowered (s : String) : String := s.map Char.toLower

/-- The words that stand for a truth value. -/
def boolWord? (s : String) : Option Bool :=
  if ["0", "off", "f", "false", "n", "no"].contains (lowered s) then some false
  else if ["1", "on", "t", "true", "y", "yes"].contains (lowered s) then some true
  else none

/-- The numbers that stand for a truth value. -/
def boolNumber? : Int → Option Bool
  | 0 => some false
  | 1 => some true
  | _ => none

def clearBool : Option Bool → Checked Bool
  | some b => .valid b
  | none => .fault .unclearBool

def checkBool : Json → Checked Bool
  | .bool b => .valid b
  | .int n => clearBool (boolNumber? n)
  | .str s => clearBool (boolWord? s)
  | .real x => match x.toInt?.filter (·.natAbs < Nat.pow 2 63) with
    | some n => clearBool (boolNumber? n)
    | none => .fault .notBool
  | _ => .fault .notBool

def checkString : Json → Checked String
  | .str s => .valid s
  | _ => .fault .notString

def checkOptionalString : Json → Checked (Option String)
  | .null => .valid none
  | v => v.checkString.map some

/-! ## Members -/

variable {α : Type}

/-- Check a member of an object under its key, which has to be there. -/
def required (v : Json) (key : String) (check : Json → Checked α) : Checked α :=
  match v.member? key with
  | some w => (check w).within (.key key)
  | none => (Checked.fault .missing).within (.key key)

/-- Check a member of an object under its key, if it is there. -/
def optional (v : Json) (key : String) (default : α) (check : Json → Checked α) : Checked α :=
  match v.member? key with
  | some w => (check w).within (.key key)
  | none => .valid default

end Json

end DocMarkup
