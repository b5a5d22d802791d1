import DocMarkup.Text.Slice
import DocMarkup.Text.Quoted

/-!
Comments: ordered sequences of tokens, which are pieces of marked-up text.
-/

namespace DocMarkup

/-- How the text of a token is to be shown. -/
inductive Style where
  | plain
  | code
  | literal
  deriving DecidableEq

structure Token where
  text : String
  style : Style := .plain
  /-- The page that the token links to. -/
  href : Option String := none
  /-- Set where a link was wanted and no page was found. -/
  unresolved : Bool := false
  deriving DecidableEq

def Token.isPlain (t : Token) : Bool := t.style == .plain

def Token.isLink (t : Token) : Bool := t.href.isSome

structure Comment where
  tokens : List Token
  deriving DecidableEq

namespace Comment

def empty : Comment := ⟨[]⟩

def isEmpty (c : Comment) : Bool := c.tokens.isEmpty

def length (c : Comment) : Nat := c.tokens.length

/-- The text of all tokens in order, without styles and links. -/
def text (c : Comment) : String :=
  String.join (c.tokens.map Token.text)

/-- The token at a signed index. -/
def token (c : Comment) (index : Int) : Except Text.IndexError Token :=
  match Text.item? c.tokens index with
  | some t => .ok t
  | none => .error .sequence

end Comment

/-! ## Display -/

/-- A truth value as messages show it. -/
def flagText (b : Bool) : String := if b then "True" else "False"

/-- A text, or its absence, as messages show it. -/
def optionText : Option String → String
  | some s => Text.quoted s
  | none => "None"

/-- A token with all its parts. -/
def Token.display (t : Token) : String :=
  "Token(text=" ++ Text.quoted t.text
    ++ ", is_code=" ++ flagText (t.style == .code)
    ++ ", is_literal=" ++ flagText (t.style == .literal)
    ++ ", href=" ++ optionText t.href
    ++ ", unresolved_link=" ++ flagText t.unresolved ++ ")"

/-- A comment with all its tokens. -/
def Comment.display (c : Comment) : String :=
  "Comment([" ++ ", ".intercalate (c.tokens.map Token.display) ++ "])"

end DocMarkup
