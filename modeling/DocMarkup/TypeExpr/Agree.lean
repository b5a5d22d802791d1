import DocMarkup.Json.Same
import DocMarkup.TypeExpr.Graph

/-!
When two types have the same value: the same shape all the way down, whatever their nodes are and
however they share them.
-/

namespace DocMarkup

namespace Agree

variable {ι κ : Type}

/-- Lists of the same length that agree item by item. -/
def lists {α β : Type} (rel : α → β → Bool) : List α → List β → Bool
  | [], [] => true
  | a :: as, b :: bs => rel a b && lists rel as bs
  | _, _ => false

def options {α β : Type} (rel : α → β → Bool) : Option α → Option β → Bool
  | none, none => true
  | some a, some b => rel a b
  | _, _ => false

def parameters (rel : ι → κ → Bool) (p : Parameter ι) (q : Parameter κ) : Bool :=
  rel p.type q.type && p.optional == q.optional && p.variadic == q.variadic

def fields (rel : ι → κ → Bool) (f : Field ι) (g : Field κ) : Bool :=
  f.name == g.name && options rel f.type g.type

def signatures (rel : ι → κ → Bool) (s : Signature ι) (t : Signature κ) : Bool :=
  lists (parameters rel) s.parameters t.parameters && options rel s.result t.result
    && options rel s.context t.context && s.isConstructor == t.isConstructor
    && s.referenceName == t.referenceName

/-- Shapes that agree, with `rel` for the types in them. -/
def shapes (rel : ι → κ → Bool) : Shape ι → Shape κ → Bool
  | .primitive k, .primitive l => k == l
  | .named m, .named n => m == n
  | .instanceOf m, .instanceOf n => m == n
  | .template m, .template n => m == n
  | .enumElement m x, .enumElement n y => m == n && rel x y
  | .function s, .function t => signatures rel s t
  | .union as, .union bs => lists rel as bs
  | .record fs, .record gs => lists (fields rel) fs gs
  | .templatized x as, .templatized y bs => rel x y && lists rel as bs
  | .nullable x, .nullable y => rel x y
  | .nonNullable x, .nonNullable y => rel x y
  | .noType, .noType => true
  | .noObject, .noObject => true
  | .stray (.value v), .stray (.value w) => v.same w
  | .stray (.parameter p), .stray (.parameter q) => parameters rel p q
  | .stray (.field f), .stray (.field g) => fields rel f g
  | _, _ => false

end Agree

/-- Whether a type of one graph has the same value as a type of another. A type that contains itself
agrees with none. -/
def TypeGraph.agree {ι κ : Type} [DecidableEq ι] (g : TypeGraph ι) (h : TypeGraph κ) (x : ι)
    (y : κ) : Bool :=
  g.walk (fun _ _ => false) (fun _ rel a b => Agree.shapes rel (g.shape a) (h.shape b)) [] x y

end DocMarkup
