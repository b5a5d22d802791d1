import DocMarkup.TypeExpr.Display
import DocMarkup.TypeExpr.Rendering
import DocMarkup.TypeExpr.Shown

/-!
Rendering types, as they were resolved or as they were declared. Inside itself a type is rendered as
unknown.
-/

namespace DocMarkup

variable {ι : Type}

namespace TypeGraph

open Rendering

/-! ## Parts that both modes share -/

/-- A record, with `fieldName` for its names. -/
def renderRecord (sub : ι → Rendering Unit) (fieldName : String → String)
    (fields : List (Field ι)) : Rendering Unit := do
  text "\x7b"
  separated ", " true <| fields.map fun f => do
    text (fieldName f.name ++ ": ")
    match f.type with
    | some type => sub type
    | none => text "?"
  text "\x7d"

def renderTemplatized (sub : ι → Rendering Unit) (base : ι) (arguments : List ι) :
    Rendering Unit := do
  sub base
  text "<"
  separated ", " true (arguments.map sub)
  text ">"

/-- Types between which bars stand, in parentheses. -/
def renderAlternates (sub : ι → Rendering Unit) (alternates : List ι) : Rendering Unit := do
  text "("
  separated "|" true (alternates.map sub)
  text ")"

/-- The alternates of a simplified union; a single one stands without parentheses. -/
def renderShown (sub : ι → Rendering Unit) : List ι → Rendering Unit
  | [x] => sub x
  | alternates => renderAlternates sub alternates

/-- A parameter, with `type` for its type. -/
def renderParameter (type : Rendering Unit) (p : Parameter ι) : Rendering Unit := do
  if p.variadic then text "..."
  type
  if p.optional then text "="

/-- The result of a function, if it has one. -/
def renderResult (sub : ι → Rendering Unit) : Option ι → Rendering Unit
  | some type => do
    text ": "
    sub type
  | none => pure ()

variable [DecidableEq ι]

/-! ## Declared types -/

def renderDeclaredFunction (sub : ι → Rendering Unit) (f : Signature ι) : Rendering Unit := do
  text "function("
  if let some context := f.context then
    text f.contextLabel
    sub context
  separated ", " f.context.isNone (f.parameters.map fun p => renderParameter (sub p.type) p)
  text ")"
  renderResult sub f.result

/-- The type `x` as it was declared, with `sub` for the types in it. -/
def renderDeclared (g : TypeGraph ι) (sub : ι → Rendering Unit) (x : ι) : Rendering Unit :=
  match g.shape x with
  | .primitive .void => text "void"
  | .primitive kind => if kind.isNative then anyName kind.name else text kind.name
  | .named name => anyName name
  | .instanceOf name => anyName name
  | .enumElement name _ => anyName name
  | .template name => anyName name
  | .nullable operand => do
    text "?"
    sub operand
  | .nonNullable operand => do
    text "!"
    sub operand
  | .union alternates => renderAlternates sub alternates
  | .record fields => renderRecord sub unquotedName fields
  | .templatized base arguments => renderTemplatized sub base arguments
  | .function f => if f.isBare then anyName "Function" else renderDeclaredFunction sub f
  | .noType => fail (.placeholder (g.shape x).className)
  | .noObject => fail (.placeholder (g.shape x).className)
  | .stray _ => fail (.stray (g.display x))

/-! ## Resolved types -/

/-- A union that is met on a path. -/
def renderUnion (g : TypeGraph ι) (path : List ι) (sub : ι → Rendering Unit) (withoutVoid : Bool)
    (u : ι) : Rendering Unit := do
  let flat := g.flatten (u :: path) u
  let kept := g.keptAlternates withoutVoid flat.alternates
  if kept.length ≠ flat.alternates.length then
    note (.simplified flat.alternates.length kept.length)
  if flat.nullable then text "?"
  renderShown sub (if kept.isEmpty then flat.alternates else kept)

/-- The type of a resolved parameter. A union is rendered as it stands, and without the undefined
type if the parameter is optional. -/
def renderParameterType (g : TypeGraph ι) (path : List ι) (sub : ι → Rendering Unit)
    (p : Parameter ι) : Rendering Unit :=
  if g.isUnion p.type then g.renderUnion path sub p.optional p.type else sub p.type

def renderResolvedFunction (g : TypeGraph ι) (path : List ι) (sub : ι → Rendering Unit)
    (f : Signature ι) : Rendering Unit := do
  text "function("
  if let some context := g.shownContext f then
    text f.contextLabel
    sub context
    unless f.parameters.isEmpty do text ", "
  separated ", " true (f.parameters.map fun p =>
    renderParameter (g.renderParameterType path sub p) p)
  text ")"
  renderResult sub f.result

/-- The type `x` as it was resolved, at the end of a path, with `sub` for the types in it. -/
def renderResolved (g : TypeGraph ι) (path : List ι) (sub : ι → Rendering Unit) (x : ι) :
    Rendering Unit :=
  match g.shape x with
  | .primitive kind => if kind.isNative then nativeName kind.name else text kind.name
  | .named name => documentedName name
  | .instanceOf name => anyName name
  | .enumElement _ underlying => sub underlying
  | .template name => text name
  | .nullable operand => do
    unless g.isNullable operand do text "?"
    sub operand
  | .nonNullable operand => sub operand
  | .union _ => g.renderUnion path sub false x
  | .record fields => renderRecord sub id fields
  | .templatized base arguments => renderTemplatized sub base arguments
  | .function f => if f.isBare then text "Function" else g.renderResolvedFunction path sub f
  | .noType => fail (.placeholder (g.shape x).className)
  | .noObject => fail (.placeholder (g.shape x).className)
  | .stray _ => fail (.stray (g.display x))

/-! ## Any type -/

/-- A type that is met inside itself. -/
def renderAgain (g : TypeGraph ι) (x : ι) : Rendering Unit := do
  note (.recursion (g.shape x).className)
  text "?"

/-- The type `x` at the end of a path, with `sub` for the types in it. -/
def renderNode (g : TypeGraph ι) (mode : Mode) (path : List ι) (sub : ι → Rendering Unit) (x : ι) :
    Rendering Unit :=
  match mode with
  | .resolved => g.renderResolved path sub x
  | .declared => g.renderDeclared sub x

/-- A type by way of the node that is shown for it. -/
def renderVia (g : TypeGraph ι) (mode : Mode) (visit : ι → Rendering Unit) (x : ι) :
    Rendering Unit :=
  match g.standIn? mode x with
  | some y => visit y
  | none => fail .endless

/-- A type that is met on a path. -/
def renderAt (g : TypeGraph ι) (mode : Mode) (path : List ι) : ι → Rendering Unit :=
  g.renderVia mode
    (g.walk g.renderAgain (fun path visit => g.renderNode mode path (g.renderVia mode visit)) path)

def render (g : TypeGraph ι) (mode : Mode) (x : ι) : Rendering Unit := g.renderAt mode [] x

/-! ## Type expressions -/

/-- Format a type expression; the absent type gives the empty comment. -/
def format (g : TypeGraph ι) (mode : Mode) (r : LinkResolver) :
    Option ι → Except FormatError Comment
  | some x => ((g.render mode x).finish r).1
  | none => .ok .empty

/-- What happens while a type expression is formatted. -/
def formatEvents (g : TypeGraph ι) (mode : Mode) (r : LinkResolver) : Option ι → List Event
  | some x => ((g.render mode x).finish r).2
  | none => []

end TypeGraph

end DocMarkup
