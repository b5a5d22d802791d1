import DocMarkup.Json.Lexeme

/-!
Reading JSON text. The reader goes once over the lexemes and keeps the lists and objects that are
still open.
-/

namespace DocMarkup.Json

/-- A list or object that is still open. Its parts are kept with the last one first. -/
inductive OpenValue where
  | arr (items : List Json)
  /-- An object, with the key whose value is being read. -/
  | obj (members : List (String × Json)) (key : String)

/-- What has to come next. -/
inductive ReadState where
  /-- A value; where nothing has been read since the bracket, the list may also end. -/
  | value (outer : List OpenValue) (mayEnd : Bool)
  /-- A key; where nothing has been read since the brace, the object may also end. -/
  | key (members : List (String × Json)) (outer : List OpenValue) (mayEnd : Bool)
  | colon (members : List (String × Json)) (key : String) (outer : List OpenValue)
  /-- What follows a value. -/
  | after (value : Json) (outer : List OpenValue)

/-- Set a member. A key that is there already keeps its place. -/
def putMember (members : List (String × Json)) (key : String) (v : Json) : List (String × Json) :=
  if members.any (·.1 == key) then members.map fun m => if m.1 == key then (key, v) else m
  else (key, v) :: members

def ReadState.step : ReadState → Lexeme → Option ReadState
  | .value outer _, .scalar v => some (.after v outer)
  | .value outer _, .string s => some (.after (.str s) outer)
  | .value outer _, .leftBracket => some (.value (.arr [] :: outer) true)
  | .value outer _, .leftBrace => some (.key [] outer true)
  | .value (.arr _ :: outer) true, .rightBracket => some (.after (.arr []) outer)
  | .key members outer _, .string s => some (.colon members s outer)
  | .key _ outer true, .rightBrace => some (.after (.obj []) outer)
  | .colon members name outer, .colon => some (.value (.obj members name :: outer) false)
  | .after v (.arr items :: outer), .comma => some (.value (.arr (v :: items) :: outer) false)
  | .after v (.arr items :: outer), .rightBracket => some (.after (.arr (v :: items).reverse) outer)
  | .after v (.obj members name :: outer), .comma =>
    some (.key (putMember members name v) outer false)
  | .after v (.obj members name :: outer), .rightBrace =>
    some (.after (.obj (putMember members name v).reverse) outer)
  | _, _ => none

/-- The value of a JSON text. -/
def read? (text : String) : Option Json := do
  let state ← (← lexemes? text).foldlM ReadState.step (.value [] false)
  match state with
  | .after v [] => some v
  | _ => none

end DocMarkup.Json
