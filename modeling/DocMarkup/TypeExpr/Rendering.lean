import DocMarkup.Comment.Basic
import DocMarkup.Link.Resolver

/-!
Rendering: text and names are written one after the other, and names are looked up as they are
written. Text is held back until a link follows or the rendering ends, so that all text between two
links is one token.
-/

namespace DocMarkup

/-- What is worth a remark while a type is rendered. -/
inductive Note where
  /-- A type was met inside itself. -/
  | recursion (className : String)
  /-- A union lost alternates. -/
  | simplified (before after : Nat)
  deriving DecidableEq

/-- Why a type cannot be rendered. -/
inductive Unsupported where
  /-- A type that no author can write. -/
  | placeholder (className : String)
  /-- A value that is no type. -/
  | stray (value : String)
  /-- An enumeration element that stands for itself. -/
  | endless
  deriving DecidableEq

/-- Why a type expression has no formatted form. -/
inductive FormatError where
  | unsupported (cause : Unsupported)
  /-- A native type has no external reference. -/
  | missingExtern (name : String)
  deriving DecidableEq

def Unsupported.message : Unsupported → String
  | .placeholder className => className ++ " cannot appear in a type expression"
  | .stray value => "Unexpected node in type expression: " ++ value
  | .endless => "Enum element without an underlying type"

def FormatError.message : FormatError → String
  | .unsupported cause => cause.message
  | .missingExtern name => "No extern link for native type " ++ name

def Note.record : Note → LogRecord
  | .recursion className => .debug .formatter ("Recursive reference to " ++ className)
  | .simplified before after =>
    .debug .formatter
      ("Simplified union of " ++ toString before ++ " alternates to " ++ toString after)

/-! ## Drafts -/

/-- What has been rendered so far, and what has happened meanwhile. -/
structure Draft where
  tokens : List Token := []
  /-- The text since the last token. -/
  pending : String := ""
  events : List Event := []

namespace Draft

/-- Make a token of the pending text. -/
def flush (d : Draft) : Draft :=
  if d.pending.isEmpty then d
  else { d with tokens := d.tokens ++ [{ text := d.pending, style := .literal }], pending := "" }

def addText (text : String) (d : Draft) : Draft := { d with pending := d.pending ++ text }

def addLink (name href : String) (d : Draft) : Draft :=
  { d.flush with tokens := d.flush.tokens ++ [{ text := name, href := some href }] }

def addEvents (events : List Event) (d : Draft) : Draft := { d with events := d.events ++ events }

end Draft

/-! ## Writing into a draft -/

/-- A step of rendering: it asks a resolver and changes a draft, also where it fails. -/
abbrev Rendering (α : Type) := ReaderT LinkResolver (ExceptT FormatError (StateM Draft)) α

namespace Rendering

def text (t : String) : Rendering Unit := modify (Draft.addText t)

def link (name href : String) : Rendering Unit := modify (Draft.addLink name href)

def note (n : Note) : Rendering Unit := modify (Draft.addEvents [.logged n.record])

def fail (cause : Unsupported) : Rendering Unit := throw (.unsupported cause)

/-- Ask for the page of a documented name. -/
def findDocumented (name : String) : Rendering (Option String) := do
  let r ← read
  modify (Draft.addEvents (r.resolveEvents name))
  return r.resolve name

/-- Ask for the page of an external name. -/
def findExternal (name : String) : Rendering (Option String) := do
  let r ← read
  modify (Draft.addEvents (LinkResolver.externalEvents name))
  return r.resolveExternal name

/-- An address that leads somewhere. -/
def usable (href : Option String) : Option String :=
  href.filter fun h => !h.isEmpty

/-- A name, as a link if it has a page. -/
def linked (name : String) (href : Option String) : Rendering Unit :=
  match usable href with
  | some href => link name href
  | none => text name

/-- A name that is looked up among the documented names. -/
def documentedName (name : String) : Rendering Unit := do
  linked name (← findDocumented name)

/-- A name that is looked up among the documented names, and then among the external ones. -/
def anyName (name : String) : Rendering Unit := do
  match usable (← findDocumented name) with
  | some href => link name href
  | none => linked name (← findExternal name)

/-- A name that has to be found among the external ones. -/
def nativeName (name : String) : Rendering Unit := do
  match ← findExternal name with
  | some href => link name href
  | none => throw (.missingExtern name)

/-- Parts with a separator before each of them, the first one excepted if nothing stands before
it. -/
def separated (separator : String) (first : Bool) : List (Rendering Unit) → Rendering Unit
  | [] => pure ()
  | part :: parts => do
    unless first do text separator
    part
    separated separator false parts

/-- The comment that a rendering gives, and what happens meanwhile. -/
def finish (rendering : Rendering Unit) (r : LinkResolver) :
    Except FormatError Comment × List Event :=
  let (result, draft) := rendering r {}
  (result.map fun _ => ⟨draft.flush.tokens⟩, draft.events)

end Rendering

end DocMarkup
