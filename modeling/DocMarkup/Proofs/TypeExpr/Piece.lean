import DocMarkup.TypeExpr.Rendering

/-!
Layouts: what a rendering writes, as a list of pieces, before any name is looked up. A resolver
turns a layout into a comment (`Layout.comment`), while things happen (`Layout.events`).
-/

namespace DocMarkup

/-- Where a name is looked up, and what happens if it is not found. -/
inductive Policy where
  /-- Among the documented names. -/
  | documented
  /-- Among the documented names, and then among the external ones. -/
  | anywhere
  /-- Among the external names, where it has to be found. -/
  | required
  deriving DecidableEq

inductive Piece where
  | text (text : String)
  | name (policy : Policy) (name : String)
  | note (note : Note)
  /-- The layout ends here, without success. -/
  | fail (cause : Unsupported)
  deriving DecidableEq

abbrev Layout := List Piece

/-! ## Looking names up -/

namespace Policy

/-- An address, unless it is empty. -/
def nonEmpty (href : Option String) : Option String := if href = some "" then none else href

theorem usable_eq_nonEmpty (href : Option String) : Rendering.usable href = nonEmpty href := by
  cases href with
  | none => rfl
  | some page =>
      by_cases hpage : page = ""
      · simp [Rendering.usable, nonEmpty, hpage]
      · simp [Rendering.usable, nonEmpty, Option.filter, hpage]

/-- The page that a name links to. An empty address is no page, except for a name that has to be
found. -/
def page? (r : LinkResolver) (name : String) : Policy → Option String
  | .documented => nonEmpty (r.resolve name)
  | .anywhere => (nonEmpty (r.resolve name)).or (nonEmpty (r.resolveExternal name))
  | .required => r.resolveExternal name

/-- The events of looking a name up. -/
def events (r : LinkResolver) (name : String) : Policy → List Event
  | .documented => r.resolveEvents name
  | .anywhere =>
    r.resolveEvents name ++
      if (nonEmpty (r.resolve name)).isSome then [] else LinkResolver.externalEvents name
  | .required => LinkResolver.externalEvents name

end Policy

namespace Layout

/-- The token of a run of text between links; none for the empty run. -/
def runTokens (run : String) : List Token :=
  if run.isEmpty then [] else [{ text := run, style := .literal }]

/-- The tokens of a layout that follows a run of text. -/
def tokens (r : LinkResolver) (run : String) : Layout → Except FormatError (List Token)
  | [] => .ok (runTokens run)
  | .text t :: ps => tokens r (run ++ t) ps
  | .note _ :: ps => tokens r run ps
  | .fail cause :: _ => .error (.unsupported cause)
  | .name policy n :: ps =>
    match policy.page? r n with
    | some href =>
      (tokens r "" ps).map fun ts => runTokens run ++ { text := n, href := some href } :: ts
    | none =>
      if policy = .required then .error (.missingExtern n)
      else tokens r (run ++ n) ps

/-- The comment that a layout gives with a resolver. -/
def comment (r : LinkResolver) (l : Layout) : Except FormatError Comment :=
  (tokens r "" l).map Comment.mk

/-- What happens while a layout is turned into a comment, up to its failure if it fails. -/
def events (r : LinkResolver) : Layout → List Event
  | [] => []
  | .text _ :: ps => events r ps
  | .note n :: ps => .logged n.record :: events r ps
  | .fail _ :: _ => []
  | .name policy n :: ps =>
    policy.events r n ++
      if policy = .required && (policy.page? r n).isNone then [] else events r ps

/-! ## Putting layouts together -/

/-- Parts with a separator between them. -/
def separated (separator : String) (parts : List Layout) : Layout :=
  [Piece.text separator].intercalate parts

/-- Parts with a separator between them, enclosed in brackets. -/
def enclosed (left separator right : String) (parts : List Layout) : Layout :=
  .text left :: separated separator parts ++ [.text right]

end Layout

/-! ## Writing layouts -/

/-- Write a piece into a draft. -/
def Piece.write : Piece → Rendering Unit
  | .text t => .text t
  | .name .documented n => .documentedName n
  | .name .anywhere n => .anyName n
  | .name .required n => .nativeName n
  | .note n => .note n
  | .fail cause => .fail cause

namespace Layout

/-- Write a layout into a draft, piece by piece. -/
def write : Layout → Rendering Unit
  | [] => pure ()
  | p :: ps => do
    p.write
    write ps

@[simp] theorem write_nil : write [] = pure () := rfl

@[simp] theorem write_cons (p : Piece) (ps : Layout) : write (p :: ps) = (do p.write; write ps) :=
  rfl

@[simp] theorem write_append (l l' : Layout) : write (l ++ l') = (do write l; write l') := by
  induction l with
  | nil => simp
  | cons p l ih => simp [ih]

theorem write_separated_false (separator : String) (parts : List Layout) :
    Rendering.separated separator false (parts.map write) =
      write (parts.flatMap fun part => .text separator :: part) := by
  induction parts with
  | nil => rfl
  | cons part parts ih => simp [Rendering.separated, Piece.write, ih]

theorem separated_cons (separator : String) (part : Layout) (parts : List Layout) :
    separated separator (part :: parts) =
      part ++ parts.flatMap fun part => .text separator :: part := by
  induction parts generalizing part with
  | nil => simp [separated]
  | cons next parts ih =>
      have hnext : separated separator (part :: next :: parts) =
          part ++ .text separator :: separated separator (next :: parts) := by
        simp [separated, List.intercalate]
      rw [hnext, ih, List.flatMap_cons, List.cons_append]

theorem write_separated (separator : String) (parts : List Layout) :
    write (separated separator parts) = Rendering.separated separator true (parts.map write) := by
  cases parts with
  | nil => rfl
  | cons part parts =>
      rw [separated_cons, write_append, ← write_separated_false]
      simp [Rendering.separated]

theorem write_enclosed (left separator right : String) (parts : List Layout) :
    write (enclosed left separator right parts) = (do
      Rendering.text left
      Rendering.separated separator true (parts.map write)
      Rendering.text right) := by
  simp [enclosed, write_separated, Piece.write]

end Layout

end DocMarkup
