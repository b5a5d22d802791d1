import DocMarkup.TypeExpr.Union

/-!
What is shown of a type, as it was resolved or as it was declared. A resolved type is shown
simplified: unions are flattened and marks that say nothing new are left out. A declared type is
shown as its author wrote it.
-/

namespace DocMarkup

inductive Mode where
  | resolved
  | declared
  deriving DecidableEq

variable {ι : Type}

/-- The function type that is only known by its name. -/
def Signature.isBare (s : Signature ι) : Bool := s.referenceName == some "Function"

/-- The name of a declared field, without the quotes around it. -/
def unquotedName (name : String) : String :=
  match name.toList with
  | first :: c :: cs =>
    if first == '\'' || first == '"' then String.ofList (c :: cs).dropLast else name
  | _ => name

/-- The word before the context of a function. -/
def Signature.contextLabel (s : Signature ι) : String :=
  if s.isConstructor then "new: " else "this: "

namespace TypeGraph

/-- The alternates of a flattened union without null, and without the undefined type if that is left
out too. -/
def keptAlternates (g : TypeGraph ι) (withoutVoid : Bool) (alternates : List ι) : List ι :=
  alternates.filter fun x => !g.isNull x && !(withoutVoid && g.isVoid x)

/-- The context of a resolved function: a receiver of unknown type is not shown. -/
def shownContext (g : TypeGraph ι) (s : Signature ι) : Option ι :=
  s.context.filter fun x => s.isConstructor || !g.isUnknown x

variable [DecidableEq ι]

/-- The type at the end of a chain of enumeration elements that has come along a path; none if it
never ends. -/
def endOfChain? (g : TypeGraph ι) (path : List ι) (x : ι) : Option ι :=
  g.walk (fun _ => none)
    (fun _ sub y => match g.shape y with
      | .enumElement _ z => sub z
      | _ => some y) path x

def underlying? (g : TypeGraph ι) (x : ι) : Option ι := g.endOfChain? [] x

/-- The node that is shown for a type: where types are resolved, an enumeration element stands for
its underlying type. -/
def standIn? (g : TypeGraph ι) (mode : Mode) (x : ι) : Option ι :=
  match mode with
  | .resolved => g.underlying? x
  | .declared => some x

end TypeGraph

end DocMarkup
