import DocMarkup.TypeExpr.Graph

/-!
Predicates on types. A type is nullable if null can be assigned to it: the null, universal and
unknown types are, and so are types marked nullable and unions with such an alternate, however deep
in unions.
-/

namespace DocMarkup.TypeGraph

variable {ι : Type}

def isNull (g : TypeGraph ι) (x : ι) : Bool := (g.shape x).isPrimitive .null

def isVoid (g : TypeGraph ι) (x : ι) : Bool := (g.shape x).isPrimitive .void

def isUnknown (g : TypeGraph ι) (x : ι) : Bool := (g.shape x).isPrimitive .unknown

def isUnion (g : TypeGraph ι) (x : ι) : Bool := (g.shape x).isUnion

/-- A type that is nullable by itself and not through an alternate. -/
def isOpenlyNullable (g : TypeGraph ι) (x : ι) : Bool :=
  match g.shape x with
  | .primitive kind => kind.isNullable
  | .nullable _ => true
  | _ => false

/-- The alternates of a union that are unions. -/
def nestedUnions (g : TypeGraph ι) (x : ι) : List ι :=
  (g.shape x).alternates.filter g.isUnion

variable [DecidableEq ι]

/-- Whether null can be assigned to a type. -/
def isNullable (g : TypeGraph ι) (x : ι) : Bool :=
  g.isOpenlyNullable x ||
    (g.closure g.nestedUnions [x] []).any fun u => (g.shape u).alternates.any g.isOpenlyNullable

end DocMarkup.TypeGraph
