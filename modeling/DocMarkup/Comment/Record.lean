import DocMarkup.Comment.Basic
import DocMarkup.Json.Check

/-!
Comments as flat records, the form in which they are exchanged with other programs. A record has two
flags where a token has one style, so a record may contradict itself.
-/

namespace DocMarkup

structure TokenRecord where
  text : String
  isCode : Bool := false
  isLiteral : Bool := false
  href : Option String := none
  unresolved : Bool := false
  deriving DecidableEq

structure CommentRecord where
  tokens : List TokenRecord := []
  deriving DecidableEq

/-- A record that is marked both as code and as literal. -/
inductive StyleError where
  | codeAndLiteral
  deriving DecidableEq

def StyleError.message : StyleError → String
  | .codeAndLiteral => "A token cannot be both code and literal"

/-! ## Tokens and records -/

namespace TokenRecord

def ofToken (t : Token) : TokenRecord where
  text := t.text
  isCode := t.style == .code
  isLiteral := t.style == .literal
  href := t.href
  unresolved := t.unresolved

def style (r : TokenRecord) : Except StyleError Style :=
  match r.isCode, r.isLiteral with
  | true, true => .error .codeAndLiteral
  | true, false => .ok .code
  | false, true => .ok .literal
  | false, false => .ok .plain

def toToken (r : TokenRecord) : Except StyleError Token :=
  r.style.map fun style => { text := r.text, style, href := r.href, unresolved := r.unresolved }

end TokenRecord

namespace CommentRecord

def ofComment (c : Comment) : CommentRecord := ⟨c.tokens.map TokenRecord.ofToken⟩

def toComment (r : CommentRecord) : Except StyleError Comment :=
  (r.tokens.mapM TokenRecord.toToken).map Comment.mk

end CommentRecord

/-!
## Records as JSON

The serialisation in use writes the declared fields of a record, and reads them again with their
defaults. Nothing but this is relied on (`CommentRecord.Writes`, `CommentRecord.Reads`).
-/

/-- The members of a token record; an absent address may be left out. -/
def TokenRecord.toJson (withAbsent : Bool) (r : TokenRecord) : Json :=
  let href : List (String × Json) :=
    match r.href with
    | some h => [("href", .str h)]
    | none => if withAbsent then [("href", .null)] else []
  .obj ([("text", .str r.text), ("is_code", .bool r.isCode), ("is_literal", .bool r.isLiteral)]
    ++ href ++ [("unresolved_link", .bool r.unresolved)])

def CommentRecord.toJson (withAbsent : Bool) (r : CommentRecord) : Json :=
  .obj [("tokens", .arr (r.tokens.map (TokenRecord.toJson withAbsent)))]

/-! ## Reading records -/

def TokenRecord.ofJson (v : Json) : Checked TokenRecord :=
  match v with
  | .obj _ =>
    TokenRecord.mk <$> v.required "text" Json.checkString
      <*> v.optional "is_code" false Json.checkBool
      <*> v.optional "is_literal" false Json.checkBool
      <*> v.optional "href" none Json.checkOptionalString
      <*> v.optional "unresolved_link" false Json.checkBool
  | _ => .fault (.notRecord "TokenResponse")

def CommentRecord.ofJson (v : Json) : Checked CommentRecord :=
  match v with
  | .obj _ =>
    CommentRecord.mk <$> v.optional "tokens" [] fun
      | .arr items => Checked.items TokenRecord.ofJson 0 items
      | _ => .fault .notList
  | _ => .fault (.notRecord "CommentResponse")

end DocMarkup
