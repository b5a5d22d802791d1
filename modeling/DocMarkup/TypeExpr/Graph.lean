import DocMarkup.TypeExpr.Basic

/-!
Type graphs: finitely many nodes, each with a shape. Two nodes may have the same shape and still be
different types. Algorithms go through a graph along a path and never enter a node of the path again
(`TypeGraph.walk`), or collect what can be reached (`TypeGraph.closure`); both end because a graph
has finitely many nodes.
-/

namespace DocMarkup

structure TypeGraph (ι : Type) where
  shape : ι → Shape ι
  /-- All nodes. -/
  nodes : List ι
  mem_nodes : ∀ x, x ∈ nodes

namespace TypeGraph

variable {ι α : Type} [DecidableEq ι]

/-! ## Nodes off the path -/

/-- How many nodes do not lie on a path. -/
def offPath (g : TypeGraph ι) (path : List ι) : Nat :=
  g.nodes.countP (· ∉ path)

theorem offPath_cons_lt (g : TypeGraph ι) {path : List ι} {x : ι} (h : x ∉ path) :
    g.offPath (x :: path) < g.offPath path := by
  have key : ∀ l : List ι, x ∈ l →
      l.countP (fun y => decide (y ∉ x :: path)) < l.countP (fun y => decide (y ∉ path)) := by
    intro l
    induction l with
    | nil => intro hx; cases hx
    | cons y ys ih =>
      intro hx
      have hle : ys.countP (fun y => decide (y ∉ x :: path)) ≤
          ys.countP (fun y => decide (y ∉ path)) :=
        List.countP_mono_left (by
          intro z _ hz
          simp only [List.mem_cons, not_or, decide_eq_true_eq] at hz
          simpa using hz.2)
      by_cases hyx : y = x
      · subst hyx
        simp [h] at hle ⊢
        omega
      · have hlt := ih (by simpa [Ne.symm hyx] using hx)
        by_cases hyp : y ∈ path <;> simp [hyx, hyp] at hlt ⊢ <;> omega
  exact key g.nodes (g.mem_nodes x)

/-! ## Walking along a path -/

/-- Go through the graph from a node: `enter` says what a node gives, from the path that now ends in
it and from what its neighbours give; `again` says what a node gives that already lies on the
path. -/
def walk (g : TypeGraph ι) (again : ι → α) (enter : List ι → (ι → α) → ι → α) (path : List ι)
    (x : ι) : α :=
  if h : x ∈ path then again x
  else
    have := g.offPath_cons_lt h
    enter (x :: path) (fun y => walk g again enter (x :: path) y) x
termination_by g.offPath path

theorem walk_of_mem (g : TypeGraph ι) {again : ι → α} {enter : List ι → (ι → α) → ι → α}
    {path : List ι} {x : ι} (h : x ∈ path) :
    g.walk again enter path x = again x := by
  rw [walk]; simp [h]

theorem walk_of_not_mem (g : TypeGraph ι) {again : ι → α} {enter : List ι → (ι → α) → ι → α}
    {path : List ι} {x : ι} (h : x ∉ path) :
    g.walk again enter path x = enter (x :: path) (g.walk again enter (x :: path)) x := by
  rw [walk]; simp [h]

/-! ## What can be reached -/

/-- A bound on the number of nodes that a step leads to. -/
def degree (g : TypeGraph ι) (next : ι → List ι) : Nat :=
  g.nodes.foldr (fun x n => (next x).length + n) 0

omit [DecidableEq ι] in
theorem length_le_degree (g : TypeGraph ι) (next : ι → List ι) (x : ι) :
    (next x).length ≤ g.degree next := by
  have key : ∀ l : List ι, x ∈ l →
      (next x).length ≤ l.foldr (fun y n => (next y).length + n) 0 := by
    intro l
    induction l with
    | nil => intro hx; cases hx
    | cons y ys ih =>
      intro hx
      rw [List.foldr_cons]
      rcases List.mem_cons.1 hx with rfl | hx
      · omega
      · have := ih hx
        omega
  exact key g.nodes (g.mem_nodes x)

/-- How much is left of a search. -/
def searchLeft (g : TypeGraph ι) (next : ι → List ι) (todo seen : List ι) : Nat :=
  g.offPath seen * (g.degree next + 1) + todo.length

theorem searchLeft_lt (g : TypeGraph ι) (next : ι → List ι) (todo : List ι) {seen : List ι} {x : ι}
    (h : x ∉ seen) :
    g.searchLeft next (next x ++ todo) (x :: seen) < g.searchLeft next (x :: todo) seen := by
  have hoff := Nat.mul_le_mul_right (g.degree next + 1) (g.offPath_cons_lt h)
  have hdegree := g.length_le_degree next x
  simp only [searchLeft, List.length_append, List.length_cons, Nat.succ_mul] at hoff ⊢
  omega

/-- The nodes in `seen`, and those that can be reached from `todo` in steps of `next` without
meeting them. -/
def closure (g : TypeGraph ι) (next : ι → List ι) (todo seen : List ι) : List ι :=
  match todo with
  | [] => seen
  | x :: todo =>
    if h : x ∈ seen then
      have : g.searchLeft next todo seen < g.searchLeft next (x :: todo) seen := by
        simp [searchLeft]
      closure g next todo seen
    else
      have := g.searchLeft_lt next todo h
      closure g next (next x ++ todo) (x :: seen)
termination_by g.searchLeft next todo seen

end TypeGraph

end DocMarkup
