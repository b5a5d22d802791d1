import DocMarkup.Json.Basic
import DocMarkup.Json.Shortest
import DocMarkup.Text.Quoted

/-!
The written forms of JSON values: compact, indented, and the literal form used in messages.
-/

namespace DocMarkup

namespace Json

/-! ## Strings -/

/-- A character as it is written inside a JSON string. -/
def escapedChar (c : Char) : List Char :=
  if c == '"' || c == '\\' then ['\\', c]
  else if c == '\x08' then ['\\', 'b']
  else if c == '\x0c' then ['\\', 'f']
  else if c == '\n' then ['\\', 'n']
  else if c == '\r' then ['\\', 'r']
  else if c == '\t' then ['\\', 't']
  else if c.toNat < 0x20 then '\\' :: 'u' :: Text.hexDigits 4 c.toNat
  else [c]

/-- A JSON string with its quotes. -/
def stringText (s : String) : String :=
  String.ofList ('"' :: s.toList.flatMap escapedChar ++ ['"'])

/-! ## Compact and indented text -/

mutual

/-- The value on one line without spaces. -/
def compact : Json → String
  | .null => "null"
  | .bool b => if b then "true" else "false"
  | .int n => toString n
  | .real x => x.text
  | .str s => stringText s
  | .arr items => "[" ++ ",".intercalate (compactItems items) ++ "]"
  | .obj members => "\x7b" ++ ",".intercalate (compactMembers members) ++ "\x7d"

def compactItems : List Json → List String
  | [] => []
  | v :: vs => compact v :: compactItems vs

def compactMembers : List (String × Json) → List String
  | [] => []
  | (key, v) :: ms => (stringText key ++ ":" ++ compact v) :: compactMembers ms

end

/-- Entries between brackets, each on a line of its own, two spaces further in than the brackets. -/
def bracketed (left right : String) (depth : Nat) (entries : List String) : String :=
  if entries.isEmpty then left ++ right
  else
    let line (n : Nat) := "\n" ++ String.ofList (List.replicate (2 * n) ' ')
    left ++ line (depth + 1) ++ ("," ++ line (depth + 1)).intercalate entries ++ line depth ++ right

mutual

/-- The value over several lines, as it stands `depth` levels inside another value. -/
def indentedAt (depth : Nat) : Json → String
  | .arr items => bracketed "[" "]" depth (indentedItems (depth + 1) items)
  | .obj members => bracketed "\x7b" "\x7d" depth (indentedMembers (depth + 1) members)
  | .null => compact .null
  | .bool b => compact (.bool b)
  | .int n => compact (.int n)
  | .real x => compact (.real x)
  | .str s => compact (.str s)

def indentedItems (depth : Nat) : List Json → List String
  | [] => []
  | v :: vs => indentedAt depth v :: indentedItems depth vs

def indentedMembers (depth : Nat) : List (String × Json) → List String
  | [] => []
  | (key, v) :: ms => (stringText key ++ ": " ++ indentedAt depth v) :: indentedMembers depth ms

end

/-- The value over several lines. -/
def indented (v : Json) : String := indentedAt 0 v

/-! ## Literal form -/

mutual

/-- The value as messages show it. -/
def literal : Json → String
  | .null => "None"
  | .bool b => if b then "True" else "False"
  | .int n => toString n
  | .real x => x.text
  | .str s => Text.quoted s
  | .arr items => "[" ++ ", ".intercalate (literalItems items) ++ "]"
  | .obj members => "\x7b" ++ ", ".intercalate (literalMembers members) ++ "\x7d"

def literalItems : List Json → List String
  | [] => []
  | v :: vs => literal v :: literalItems vs

def literalMembers : List (String × Json) → List String
  | [] => []
  | (key, v) :: ms => (Text.quoted key ++ ": " ++ literal v) :: literalMembers ms

end

end Json

end DocMarkup
