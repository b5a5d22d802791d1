import DocMarkup.TypeExpr.Graph

/-!
Type graphs given as tables: the shapes of the nodes in a row, each referring to others by their
places.
-/

namespace DocMarkup

namespace Shape

variable {ι κ : Type}

/-- Replace every reference; none if a reference has no replacement. -/
def relink? (f : ι → Option κ) : Shape ι → Option (Shape κ)
  | .primitive kind => some (.primitive kind)
  | .named name => some (.named name)
  | .instanceOf name => some (.instanceOf name)
  | .template name => some (.template name)
  | .enumElement name underlying => (f underlying).map (.enumElement name ·)
  | .function s => do
    let parameters ← s.parameters.mapM parameter?
    let result ← optional? s.result
    let context ← optional? s.context
    pure (.function { parameters, result, context,
                      isConstructor := s.isConstructor, referenceName := s.referenceName })
  | .union alternates => (alternates.mapM f).map .union
  | .record fields => (fields.mapM field?).map .record
  | .templatized base arguments => do
    let base ← f base
    let arguments ← arguments.mapM f
    pure (.templatized base arguments)
  | .nullable operand => (f operand).map .nullable
  | .nonNullable operand => (f operand).map .nonNullable
  | .noType => some .noType
  | .noObject => some .noObject
  | .stray (.value v) => some (.stray (.value v))
  | .stray (.parameter p) => (parameter? p).map (.stray <| .parameter ·)
  | .stray (.field field) => (field? field).map (.stray <| .field ·)
where
  optional? : Option ι → Option (Option κ)
    | some x => (f x).map some
    | none => some none
  parameter? (p : Parameter ι) : Option (Parameter κ) :=
    (f p.type).map fun type => { type, optional := p.optional, variadic := p.variadic }
  field? (field : Field ι) : Option (Field κ) :=
    (optional? field.type).map fun type => { name := field.name, type }

end Shape

/-- A place in a row of a given length. -/
def place? (size i : Nat) : Option (Fin size) :=
  if h : i < size then some ⟨i, h⟩ else none

namespace TypeGraph

/-- The graph of a row of shapes. -/
def ofVector {n : Nat} (shapes : Vector (Shape (Fin n)) n) : TypeGraph (Fin n) where
  shape i := shapes.get i
  nodes := List.finRange n
  mem_nodes := List.mem_finRange

/-- The graph of a row of shapes that refer to each other by place; none if a reference leads
outside. -/
def ofTable? (shapes : Array (Shape Nat)) : Option (TypeGraph (Fin shapes.size)) :=
  ((⟨shapes, rfl⟩ : Vector (Shape Nat) shapes.size).mapM (Shape.relink? (place? shapes.size))).map
    ofVector

end TypeGraph

end DocMarkup
