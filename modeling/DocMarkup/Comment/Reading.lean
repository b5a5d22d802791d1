import DocMarkup.Comment.Basic
import DocMarkup.Comment.Sentence
import DocMarkup.Link.Resolver
import DocMarkup.Tag.Scan

/-!
Reading a comment: plain runs become plain tokens, and each tag becomes the token that its kind asks
for. The tokens (`Comment.ofText`) and what happens while they are made (`Comment.readingEvents`)
are two views of the same scan.
-/

namespace DocMarkup

/-- The kinds of tags, by name. -/
inductive TagKind where
  | code
  | literal
  /-- A link, whose caption is shown as code or as plain text. -/
  | link (style : Style)
  | unknown
  deriving DecidableEq

namespace TagKind

def ofName : String → TagKind
  | "code" => .code
  | "literal" => .literal
  | "link" => .link .code
  | "linkplain" => .link .plain
  | _ => .unknown

end TagKind

def InlineTag.kind (t : InlineTag) : TagKind := .ofName t.name

/-- The token of a tag. A link without a caption has none, nor has an unknown tag without a body. -/
def InlineTag.token? (r : LinkResolver) (t : InlineTag) : Option Token :=
  match t.kind with
  | .code => some { text := t.body, style := .code }
  | .literal => some { text := t.body, style := .literal }
  | .link style =>
    let link := LinkBody.ofText t.body
    if link.caption.isEmpty then none
    else
      let href := r.resolve link.target
      some { text := link.caption, style, href, unresolved := href.isNone }
  | .unknown => if t.body.isEmpty then none else some { text := t.body }

/-- What happens while the token of a tag is made. -/
def InlineTag.events (r : LinkResolver) (warnUnknown : Bool) (t : InlineTag) : List Event :=
  match t.kind with
  | .code => []
  | .literal => []
  | .link _ =>
    let link := LinkBody.ofText t.body
    if link.caption.isEmpty then []
    else
      r.resolveEvents link.target ++
        if (r.resolve link.target).isNone then
          [.logged (.debug .reader ("Unresolved link target: " ++ link.target))]
        else []
  | .unknown =>
    if warnUnknown then
      [.logged (.warning .reader ("Unknown inline tag: \x7b@" ++ t.name ++ "\x7d"))]
    else []

def Segment.token? (r : LinkResolver) : Segment → Option Token
  | .plain text => some { text }
  | .tag t => t.token? r

def Segment.events (r : LinkResolver) (warnUnknown : Bool) : Segment → List Event
  | .plain _ => []
  | .tag t => t.events r warnUnknown

namespace Comment

/-- Read a comment. -/
def ofText (r : LinkResolver) (text : String) : Comment :=
  ⟨(Scan.ofText text).segments.filterMap (Segment.token? r)⟩

/-- What happens while a comment is read: the scan reports first, then each tag in order. -/
def readingEvents (r : LinkResolver) (warnUnknown : Bool) (text : String) : List Event :=
  let scan := Scan.ofText text
  scan.records.map .logged ++ scan.segments.flatMap (Segment.events r warnUnknown)

/-- Read the first sentence of a comment. -/
def ofSummary (r : LinkResolver) (text : String) : Comment :=
  ofText r (firstSentence text)

end Comment

end DocMarkup
