import DocMarkup.TypeExpr.Graph

/-!
Reasoning about walks: what is shown for nodes on the path, and for nodes off the path from their
neighbours, holds for every node and every path. Graphs with cycles and with shared nodes follow, as
examples for what is shown of walks.
-/

namespace DocMarkup.TypeGraph

variable {ι α β : Type} [DecidableEq ι]

/-- Induction along a walk. It ends because each node that is entered leaves fewer nodes off the
path. -/
theorem path_induction (g : TypeGraph ι) {motive : List ι → ι → Prop}
    (again : ∀ path x, x ∈ path → motive path x)
    (enter : ∀ path x, x ∉ path → (∀ y, motive (x :: path) y) → motive path x) :
    ∀ path x, motive path x
  | path, x => by
      by_cases hx : x ∈ path
      · exact again path x hx
      · have := g.offPath_cons_lt hx
        exact enter path x hx (fun y => path_induction g again enter (x :: path) y)
termination_by path => g.offPath path

/-- A function that respects each step of a walk respects the whole walk. -/
theorem map_walk (g : TypeGraph ι) (f : α → β) {again : ι → α} {enter : List ι → (ι → α) → ι → α}
    {again' : ι → β} {enter' : List ι → (ι → β) → ι → β} (hagain : ∀ x, f (again x) = again' x)
    (henter : ∀ path sub x, f (enter path sub x) = enter' path (fun y => f (sub y)) x)
    (path : List ι) (x : ι) : f (g.walk again enter path x) = g.walk again' enter' path x := by
  induction path, x using g.path_induction with
  | again path x hx => rw [g.walk_of_mem hx, g.walk_of_mem hx, hagain]
  | enter path x hx ih =>
      rw [g.walk_of_not_mem hx, g.walk_of_not_mem hx, henter]
      congr 1
      funext y
      exact ih y

/-! ## Graphs to walk through -/

/-- A union that has itself, a name and an enumeration element as its alternates. -/
def selfUnion : TypeGraph (Fin 4) where
  shape
    | 0 => .union [0, 1, 2]
    | 1 => .named "app.Tree"
    | 2 => .enumElement "app.Color" 3
    | 3 => .primitive .string
  nodes := List.finRange 4
  mem_nodes := List.mem_finRange

/-- A function with an optional parameter, whose union has itself and a marked placeholder as its
alternates. -/
def hiddenPlaceholder : TypeGraph (Fin 4) where
  shape
    | 0 => .function { parameters := [{ type := 1, optional := true }] }
    | 1 => .union [1, 2]
    | 2 => .nullable 3
    | 3 => .noType
  nodes := List.finRange 4
  mem_nodes := List.mem_finRange

/-- A function with one union as parameter and result, two alternates of which are one record. -/
def shared : TypeGraph (Fin 4) where
  shape
    | 0 => .function { parameters := [{ type := 1, optional := true }], result := some 1 }
    | 1 => .union [2, 2, 3]
    | 2 => .record [{ name := "next", type := some 3 }, { name := "rest" }]
    | 3 => .primitive .null
  nodes := List.finRange 4
  mem_nodes := List.mem_finRange

/-- The same function with a node for each of its parts. -/
def unshared : TypeGraph (Fin 13) where
  shape
    | 0 => .function { parameters := [{ type := 1, optional := true }], result := some 7 }
    | 1 => .union [2, 3, 4]
    | 2 => .record [{ name := "next", type := some 5 }, { name := "rest" }]
    | 3 => .record [{ name := "next", type := some 6 }, { name := "rest" }]
    | 7 => .union [8, 9, 10]
    | 8 => .record [{ name := "next", type := some 11 }, { name := "rest" }]
    | 9 => .record [{ name := "next", type := some 12 }, { name := "rest" }]
    | _ => .primitive .null
  nodes := List.finRange 13
  mem_nodes := List.mem_finRange

end DocMarkup.TypeGraph
