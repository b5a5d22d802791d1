import DocMarkup.Proofs.TypeExpr.Recursion
import DocMarkup.Proofs.TypeExpr.Script

/-!
Formatting a type ends, whatever its graph. A visit (`TypeGraph.visitCall`) looks for composite
types on the path only and renders the union of a parameter without putting it there; still it
returns (`TypeGraph.visitCall_returns`), unless it meets an enumeration element that stands for
itself (`TypeGraph.not_returns_of_enumCycle`).
-/

namespace DocMarkup

/-- The types that are put on the path while they are visited. -/
def Shape.isComposite {ι : Type} : Shape ι → Bool
  | .function _ => true
  | .union _ => true
  | .record _ => true
  | .templatized _ _ => true
  | .nullable _ => true
  | .nonNullable _ => true
  | _ => false

theorem Script.ending_of_unsupported {s : Script} {r : LinkResolver} {cause : Unsupported}
    (h : s.comment r = .error (.unsupported cause)) : s.ending = some cause := by
  unfold Script.comment at h
  cases hmissing : s.parts.findSome? (Part.missing? r) with
  | some n => simp [hmissing] at h
  | none =>
      cases hending : s.ending with
      | some cause' => simpa [hmissing, hending] using h
      | none => simp [hmissing, hending] at h

namespace TypeGraph

open Relation

variable {ι : Type} [DecidableEq ι] {g : TypeGraph ι} {mode : Mode} {path : List ι} {x y : ι}

/-! ## Visits -/

/-- A visit of a type on a path, with `call` for the visits inside it. Composite types are on the
path while they are visited, and a type on the path is not visited again; other types are not looked
for on the path. -/
def visitCall (g : TypeGraph ι) (mode : Mode) (call : List ι × ι → Rendering Unit) :
    List ι × ι → Rendering Unit
  | (path, x) =>
    if (g.shape x).isComposite then
      if x ∈ path then g.renderAgain x
      else g.renderNode mode (x :: path) (fun y => call (x :: path, y)) x
    else g.renderNode mode path (fun y => call (path, y)) x

/-- The rendering of a node that is entered from a path. -/
def renderFrom (g : TypeGraph ι) (mode : Mode) : List ι → ι → Rendering Unit :=
  g.walk g.renderAgain fun path visit => g.renderNode mode path (g.renderVia mode visit)

/-- The node that is shown for a type is none that another one is shown for. -/
def IsShown (g : TypeGraph ι) (mode : Mode) (x : ι) : Prop :=
  mode = .resolved → ∀ name y, g.shape x ≠ .enumElement name y

theorem renderAt_of_standIn (hy : g.standIn? mode x = some y) :
    g.renderAt mode path x = g.renderFrom mode path y := by
  simp [renderAt, renderVia, renderFrom, hy]

theorem endOfChain?_isShown (h : g.endOfChain? path x = some y) : g.IsShown mode y := by
  unfold endOfChain? at h
  induction path, x using g.path_induction with
  | again path x hmem =>
      rw [g.walk_of_mem hmem] at h
      cases h
  | enter path x hmem ih =>
      rw [g.walk_of_not_mem hmem] at h
      cases hx : g.shape x with
      | enumElement name z =>
          rw [hx] at h
          exact ih z h
      | _ =>
          rw [hx] at h
          cases h
          intro _ name z hz
          rw [hx] at hz
          cases hz

theorem standIn_isShown (h : g.standIn? mode x = some y) : g.IsShown mode y := by
  cases mode with
  | resolved => exact endOfChain?_isShown h
  | declared => exact fun hmode => by cases hmode

/-- A simple type is rendered without a look at the path or at other types. -/
theorem renderNode_of_not_composite (hx : (g.shape x).isComposite = false)
    (hshown : g.IsShown mode x) (path path' : List ι) (sub sub' : ι → Rendering Unit) :
    g.renderNode mode path sub x = g.renderNode mode path' sub' x := by
  cases mode with
  | resolved =>
      cases hshape : g.shape x with
      | enumElement name z => exact absurd hshape (hshown rfl name z)
      | _ => simp_all [renderNode, renderResolved, Shape.isComposite]
  | declared =>
      cases hshape : g.shape x with
      | primitive kind => cases kind <;> simp [renderNode, renderDeclared, hshape]
      | _ => simp_all [renderNode, renderDeclared, Shape.isComposite]

theorem visitCall_of_enumStep (h : g.EnumStep x y) (call : List ι × ι → Rendering Unit) :
    g.visitCall .resolved call (path, x) = call (path, y) := by
  obtain ⟨name, hx⟩ := h
  simp [visitCall, hx, Shape.isComposite, renderNode, renderResolved]

theorem returns_of_standIn {value : Rendering Unit} (hy : g.standIn? mode x = some y)
    (h : Returns (g.visitCall mode) (path, y) value) :
    Returns (g.visitCall mode) (path, x) value := by
  cases mode with
  | declared =>
      cases hy
      exact h
  | resolved =>
      have hchain := endOfChain?_eq_some hy
      clear hy
      induction hchain using ReflTransGen.head_induction_on with
      | refl => exact h
      | head hstep _ ih => exact .of_tailCall (visitCall_of_enumStep hstep) ih

-- The path holds composite types only, so that a simple type is never found on it.
theorem visitCall_returns_of_isShown (hends : mode = .resolved → g.EnumsEnd) (path : List ι) (x : ι)
    (hpath : ∀ p ∈ path, (g.shape p).isComposite = true) (hshown : g.IsShown mode x) :
    Returns (g.visitCall mode) (path, x) (g.renderFrom mode path x) := by
  induction path, x using g.path_induction with
  | again path x hmem =>
      refine .of_value fun call => ?_
      simp [visitCall, hpath x hmem, hmem, renderFrom, g.walk_of_mem hmem]
  | enter path x hmem ih =>
      have hrender : g.renderFrom mode path x =
          g.renderNode mode (x :: path) (g.renderAt mode (x :: path)) x :=
        g.walk_of_not_mem hmem
      rw [hrender]
      cases hx : (g.shape x).isComposite with
      | false =>
          refine .of_value fun call => ?_
          simp only [visitCall, hx, Bool.false_eq_true, if_false]
          exact renderNode_of_not_composite hx hshown _ _ _ _
      | true =>
          have hinner : ∀ p ∈ x :: path, (g.shape p).isComposite = true := by
            intro p hp
            rcases List.mem_cons.1 hp with rfl | hp
            · exact hx
            · exact hpath p hp
          have hcalls : ∀ y,
              Returns (g.visitCall mode) (x :: path, y) (g.renderAt mode (x :: path) y) := by
            intro y
            obtain ⟨z, hz⟩ := exists_standIn hends y
            rw [renderAt_of_standIn hz]
            exact returns_of_standIn hz (ih z hinner (standIn_isShown hz))
          obtain ⟨depth, hdepth⟩ := g.exists_depth hcalls
          refine .of_calls ⟨depth, fun n hn deeper => ?_⟩
          have hsub : (fun y => (g.visitCall mode)^[n] deeper (x :: path, y)) =
              g.renderAt mode (x :: path) :=
            funext fun y => hdepth n hn y deeper
          simp only [visitCall, hx, hmem, if_true, if_false, hsub]

/-- Visiting a type returns its rendering. -/
theorem visitCall_returns (hends : mode = .resolved → g.EnumsEnd) (x : ι) :
    Returns (g.visitCall mode) ([], x) (g.render mode x) := by
  obtain ⟨y, hy⟩ := exists_standIn hends x
  rw [render, renderAt_of_standIn hy]
  exact returns_of_standIn hy
    (visitCall_returns_of_isShown hends [] y (by simp) (standIn_isShown hy))

/-- A visit of an enumeration element that stands for itself does nothing but visit the next one. -/
theorem not_returns_of_enumCycle (hx : TransGen g.EnumStep x x) (value : Rendering Unit) :
    ¬ Returns (g.visitCall .resolved) (path, x) value := by
  have hnext : ∀ n : Nat, ∀ x, TransGen g.EnumStep x x →
      ∃ z, ∀ deeper, (g.visitCall .resolved)^[n] deeper (path, x) = deeper (path, z) := by
    intro n
    induction n with
    | zero => exact fun x _ => ⟨x, fun _ => rfl⟩
    | succ n ih =>
        intro x hx
        obtain ⟨y, hstep, hback⟩ := TransGen.head'_iff.1 hx
        obtain ⟨z, hz⟩ := ih y (TransGen.tail' hback hstep)
        refine ⟨z, fun deeper => ?_⟩
        rw [Function.iterate_succ_apply', visitCall_of_enumStep hstep, hz]
  rintro ⟨depth, hdepth⟩
  obtain ⟨z, hz⟩ := hnext depth x hx
  have hvalue : ∀ deeper : List ι × ι → Rendering Unit, deeper (path, z) = value := by
    intro deeper
    exact (hz deeper).symm.trans (hdepth depth le_rfl deeper)
  have hsame : (pure () : Rendering Unit) = Rendering.fail .endless :=
    (hvalue fun _ => pure ()).trans (hvalue fun _ => Rendering.fail .endless).symm
  have hrun := congrArg (fun rendering => (rendering.finish (.ofLists [] [])).1.isOk) hsame
  cases hrun

/-! ## Formatting -/

/-- All recursions of formatting return, on every graph: declared types are always visited to the
end, and resolved ones where no enumeration element stands for itself, but not from one that
does. -/
theorem formatting_returns (g : TypeGraph ι) :
    (∀ mode, (mode = .resolved → g.EnumsEnd) → ∀ x,
      Returns (g.visitCall mode) ([], x) (g.render mode x) ∧
        ∀ r, g.format mode r (some x) ≠ .error (.unsupported .endless)) ∧
    (∀ x, TransGen g.EnumStep x x → ∀ value, ¬ Returns (g.visitCall .resolved) ([], x) value) ∧
    (∀ seen u, g.isUnion u = true → Returns g.flattenCall (seen, u) (g.flatten seen u)) ∧
    ∀ x, ∃ seen, Returns g.nullableCall ([], x) (g.isNullable x, seen) := by
  refine ⟨?_, fun x hx => not_returns_of_enumCycle hx, fun seen u hu => flattenCall_returns seen hu,
    g.nullableCall_returns⟩
  intro mode hends x
  refine ⟨visitCall_returns hends x, ?_⟩
  intro r hformat
  rw [format_eq_comment, Layout.comment_eq_script] at hformat
  have hfail := Layout.fail_mem_of_ending (Script.ending_of_unsupported hformat)
  obtain ⟨y, _, hy⟩ := exists_ownRisks hends (Layout.mem_risks.2 ⟨hfail, rfl⟩)
  exact (isInvalid_of_fail hy).2 rfl

/-- A function that takes and returns itself, with a union that has itself, a marked union around it
and the function as its alternates. -/
def tangled : TypeGraph (Fin 5) where
  shape
    | 0 => .function
        { parameters := [{ type := 1, optional := true }, { type := 0 }], result := some 0 }
    | 1 => .union [1, 2, 0, 3]
    | 2 => .nullable 1
    | 3 => .enumElement "app.Color" 4
    | 4 => .primitive .string
  nodes := List.finRange 5
  mem_nodes := List.mem_finRange

theorem tangled_enumsEnd : tangled.EnumsEnd := by
  refine .of_rank (fun x => if x = 3 then 1 else 0) ?_
  intro x name y h
  match x with
  | 0 => cases h
  | 1 => cases h
  | 2 => cases h
  | 3 =>
      cases h
      decide
  | 4 => cases h

theorem formatting_returns_tangled :
    tangled.EnumsEnd ∧ Returns (tangled.visitCall .resolved) ([], 0) (tangled.render .resolved 0) ∧
      tangled.isUnion 1 = true ∧
      Returns tangled.flattenCall ([1, 0], 1) (tangled.flatten [1, 0] 1) ∧
      ∃ seen, Returns tangled.nullableCall ([], 1) (tangled.isNullable 1, seen) := by
  obtain ⟨hvisit, _, hflatten, hnullable⟩ := formatting_returns tangled
  exact ⟨tangled_enumsEnd, (hvisit .resolved (fun _ => tangled_enumsEnd) 0).1, rfl,
    hflatten [1, 0] 1 rfl, hnullable 1⟩

end TypeGraph

end DocMarkup
