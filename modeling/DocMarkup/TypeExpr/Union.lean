import DocMarkup.TypeExpr.Nullable

/-!
Flattening unions: the alternates of nested unions stand in the place of those unions, and an
alternate that is marked nullable gives up the mark to the whole union.
-/

namespace DocMarkup

/-- The alternates of a flattened union, and whether null belongs to it. -/
structure Flattened (ι : Type) where
  alternates : List ι
  nullable : Bool

namespace Flattened

variable {ι : Type}

/-- Flattened parts one after the other. -/
def join (parts : List (Flattened ι)) : Flattened ι :=
  ⟨parts.flatMap alternates, parts.any nullable⟩

/-- The same alternates, with null if it is so marked. -/
def mark (marked : Bool) (f : Flattened ι) : Flattened ι :=
  { f with nullable := marked || f.nullable }

end Flattened

namespace TypeGraph

variable {ι : Type} [DecidableEq ι]

/-- A type as an alternate of its own. -/
def asAlternate (g : TypeGraph ι) (x : ι) : Flattened ι :=
  ⟨[x], g.isNullable x⟩

/-- Flatten an alternate with `sub`, after taking one nullable mark off it. -/
def flattenAlternate (g : TypeGraph ι) (sub : ι → Flattened ι) (x : ι) : Flattened ι :=
  match g.shape x with
  | .nullable operand => (sub operand).mark true
  | _ => sub x

/-- What a type contributes to a union, with `sub` for the alternates of nested unions. -/
def flattenNode (g : TypeGraph ι) (sub : ι → Flattened ι) (x : ι) : Flattened ι :=
  match g.shape x with
  | .union alternates => .join (alternates.map (g.flattenAlternate sub))
  | _ => g.asAlternate x

/-- What a type contributes to a union, where the unions in `seen` are not opened; a union is not
opened inside itself either. -/
def contribution (g : TypeGraph ι) (seen : List ι) : ι → Flattened ι :=
  g.walk g.asAlternate (fun _ sub x => g.flattenNode sub x) seen

/-- Flatten the union `u`, without opening the unions in `seen`. -/
def flatten (g : TypeGraph ι) (seen : List ι) (u : ι) : Flattened ι :=
  g.flattenNode (g.contribution seen) u

end TypeGraph

end DocMarkup
