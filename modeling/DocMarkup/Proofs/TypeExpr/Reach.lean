import DocMarkup.Proofs.TypeExpr.Walk
import DocMarkup.TypeExpr.Shown
import Mathlib.Logic.Relation

/-!
What can be reached from a type, and what simplification keeps of it. A path that leads to an
invalid type can be taken to meet no node twice (`InvalidOff.leave`), so neither a cut at a type
inside itself nor a flattened union hides it.
-/

namespace DocMarkup.TypeGraph

open Relation

variable {ι : Type}

/-! ## Parts of types -/

/-- The types that a type is made of. A declared enumeration element has a name only. -/
def parts (g : TypeGraph ι) (mode : Mode) (x : ι) : List ι :=
  match g.shape x with
  | .function f =>
    if f.isBare then [] else f.parameters.map (·.type) ++ f.result.toList ++ f.context.toList
  | .union alternates => alternates
  | .record fields => fields.filterMap (·.type)
  | .templatized base arguments => base :: arguments
  | .nullable operand => [operand]
  | .nonNullable operand => [operand]
  | .enumElement _ underlying => if mode = .resolved then [underlying] else []
  | _ => []

def Reaches (g : TypeGraph ι) (mode : Mode) : ι → ι → Prop :=
  ReflTransGen fun x y => y ∈ g.parts mode x

/-- No author can write these. -/
def isInvalid (g : TypeGraph ι) (x : ι) : Bool :=
  match g.shape x with
  | .noType => true
  | .noObject => true
  | .stray _ => true
  | _ => false

theorem parts_of_function {g : TypeGraph ι} {mode : Mode} {x : ι} {f : Signature ι}
    (hx : g.shape x = .function f) (hbare : ¬ f.isBare) :
    g.parts mode x = f.parameters.map (·.type) ++ f.result.toList ++ f.context.toList := by
  simp [parts, hx, hbare]

theorem exists_union {g : TypeGraph ι} {x : ι} (hx : g.isUnion x = true) :
    ∃ alternates, g.shape x = .union alternates := by
  cases hshape : g.shape x with
  | union alternates => exact ⟨alternates, rfl⟩
  | _ => simp [isUnion, hshape, Shape.isUnion] at hx

theorem isInvalid_of_isUnion {g : TypeGraph ι} {x : ι} (hx : g.isUnion x = true) :
    g.isInvalid x = false := by
  obtain ⟨alternates, hshape⟩ := exists_union hx
  simp [isInvalid, hshape]

theorem Reaches.of_mem_parts {g : TypeGraph ι} {mode : Mode} {x y : ι} (h : y ∈ g.parts mode x) :
    g.Reaches mode x y :=
  .single h

theorem Reaches.trans {g : TypeGraph ι} {mode : Mode} {x y z : ι} (hxy : g.Reaches mode x y)
    (hyz : g.Reaches mode y z) : g.Reaches mode x z :=
  ReflTransGen.trans hxy hyz

/-! ## Chains of enumeration elements -/

def EnumStep (g : TypeGraph ι) (x y : ι) : Prop := ∃ name, g.shape x = .enumElement name y

/-- No enumeration element stands for itself, however long the way. -/
def EnumsEnd (g : TypeGraph ι) : Prop := ∀ x, ¬ TransGen g.EnumStep x x

theorem EnumsEnd.of_rank {g : TypeGraph ι} (rank : ι → Nat)
    (h : ∀ x name y, g.shape x = .enumElement name y → rank y < rank x) : g.EnumsEnd := by
  have hlt : ∀ {x y}, TransGen g.EnumStep x y → rank y < rank x := by
    intro x y hxy
    induction hxy with
    | single hstep => exact hstep.elim fun name hx => h _ name _ hx
    | tail _ hstep ih => exact Nat.lt_trans (hstep.elim fun name hx => h _ name _ hx) ih
  intro x hx
  exact Nat.lt_irrefl _ (hlt hx)

theorem reaches_of_enumSteps {g : TypeGraph ι} {x y : ι} (h : ReflTransGen g.EnumStep x y) :
    g.Reaches .resolved x y := by
  induction h with
  | refl => exact .refl
  | tail _ hstep ih =>
      obtain ⟨name, hshape⟩ := hstep
      exact ih.tail (by simp [parts, hshape])

variable [DecidableEq ι]

theorem endOfChain?_eq_some {g : TypeGraph ι} {path : List ι} {x y : ι}
    (h : g.endOfChain? path x = some y) :
    ReflTransGen g.EnumStep x y := by
  unfold endOfChain? at h
  induction path, x using g.path_induction with
  | again path x hmem =>
      rw [g.walk_of_mem hmem] at h
      cases h
  | enter path x hmem ih =>
      rw [g.walk_of_not_mem hmem] at h
      cases hx : g.shape x with
      | enumElement name z =>
          rw [hx] at h
          exact .head ⟨name, hx⟩ (ih z h)
      | _ =>
          rw [hx] at h
          cases h
          exact .refl

/-- The path is the chain so far, so that meeting one of its nodes again would close a cycle. -/
theorem endOfChain?_isSome {g : TypeGraph ι} (hends : g.EnumsEnd) (path : List ι) (x : ι)
    (hpath : ∀ p ∈ path, TransGen g.EnumStep p x) : (g.endOfChain? path x).isSome := by
  unfold endOfChain?
  induction path, x using g.path_induction with
  | again path x hmem => exact absurd (hpath x hmem) (hends x)
  | enter path x hmem ih =>
      rw [g.walk_of_not_mem hmem]
      cases hx : g.shape x with
      | enumElement name z =>
          refine ih z ?_
          intro p hp
          rcases List.mem_cons.1 hp with rfl | hp
          · exact .single ⟨name, hx⟩
          · exact (hpath p hp).tail ⟨name, hx⟩
      | _ => rfl

theorem exists_standIn {g : TypeGraph ι} {mode : Mode} (hends : mode = .resolved → g.EnumsEnd)
    (x : ι) :
    ∃ y, g.standIn? mode x = some y := by
  cases mode with
  | resolved => exact Option.isSome_iff_exists.1 (endOfChain?_isSome (hends rfl) [] x (by simp))
  | declared => exact ⟨x, rfl⟩

theorem reaches_standIn {g : TypeGraph ι} {mode : Mode} {x y : ι} (h : g.standIn? mode x = some y) :
    g.Reaches mode x y := by
  cases mode with
  | resolved => exact reaches_of_enumSteps (endOfChain?_eq_some h)
  | declared =>
      cases h
      exact .refl

/-! ## Invalid types off a path -/

/-- An invalid type can be reached without meeting a node that is to be avoided. -/
inductive InvalidOff (g : TypeGraph ι) (mode : Mode) (avoid : List ι) : ι → Prop where
  | here {x : ι} (hx : x ∉ avoid) (hinvalid : g.isInvalid x = true) : InvalidOff g mode avoid x
  | step {x y : ι} (hx : x ∉ avoid) (hy : y ∈ g.parts mode x) (h : InvalidOff g mode avoid y) :
    InvalidOff g mode avoid x

namespace InvalidOff

variable {g : TypeGraph ι} {mode : Mode} {avoid avoid' : List ι} {x y : ι}

omit [DecidableEq ι]

theorem not_mem (h : InvalidOff g mode avoid x) : x ∉ avoid := by
  cases h with
  | here hx _ => exact hx
  | step hx _ _ => exact hx

theorem mono (hsub : avoid' ⊆ avoid) (h : InvalidOff g mode avoid x) :
    InvalidOff g mode avoid' x := by
  induction h with
  | here hx hinvalid => exact .here (fun hmem => hx (hsub hmem)) hinvalid
  | step hx hy _ ih => exact .step (fun hmem => hx (hsub hmem)) hy ih

theorem exists_part (h : InvalidOff g mode avoid x) (hvalid : g.isInvalid x = false) :
    ∃ y ∈ g.parts mode x, InvalidOff g mode avoid y := by
  cases h with
  | here _ hinvalid => simp [hvalid] at hinvalid
  | step _ hy h => exact ⟨_, hy, h⟩

theorem isPrimitive_eq_false (h : InvalidOff g mode avoid x) (kind : PrimitiveKind) :
    (g.shape x).isPrimitive kind = false := by
  cases hx : g.shape x with
  | primitive k =>
      obtain ⟨y, hy, _⟩ := h.exists_part (by simp [isInvalid, hx])
      simp [parts, hx] at hy
  | _ => rfl

theorem iff_reaches : InvalidOff g mode [] x ↔ ∃ y, g.Reaches mode x y ∧ g.isInvalid y = true := by
  constructor
  · intro h
    induction h with
    | here _ hinvalid => exact ⟨_, .refl, hinvalid⟩
    | step _ hy _ ih =>
        obtain ⟨z, hz, hinvalid⟩ := ih
        exact ⟨z, (Reaches.of_mem_parts hy).trans hz, hinvalid⟩
  · rintro ⟨z, hz, hinvalid⟩
    induction hz using ReflTransGen.head_induction_on with
    | refl => exact .here (by simp) hinvalid
    | head hy _ ih => exact .step (by simp) hy ih

/-- The last time that the way passes a valid node, it goes on from there and does not come back. -/
theorem leave (h : InvalidOff g mode avoid x) (hvalid : g.isInvalid y = false) :
    InvalidOff g mode (y :: avoid) x ∨ ∃ z ∈ g.parts mode y, InvalidOff g mode (y :: avoid) z := by
  induction h with
  | @here x hx hinvalid =>
      have hne : x ≠ y := by
        rintro rfl
        simp [hvalid] at hinvalid
      exact .inl (.here (by simp [hne, hx]) hinvalid)
  | @step x z hx hz _ ih =>
      rcases ih with hoff | hoff
      · by_cases hxy : x = y
        · subst hxy
          exact .inr ⟨z, hz, hoff⟩
        · exact .inl (.step (by simp [hxy, hx]) hz hoff)
      · exact .inr hoff

theorem exists_part_off (h : InvalidOff g mode avoid x) (hvalid : g.isInvalid x = false) :
    ∃ y ∈ g.parts mode x, InvalidOff g mode (x :: avoid) y :=
  (h.leave hvalid).resolve_left fun hoff => hoff.not_mem (by simp)

theorem of_enumSteps (h : InvalidOff g .resolved avoid x) (hxy : ReflTransGen g.EnumStep x y) :
    InvalidOff g .resolved avoid y := by
  induction hxy with
  | refl => exact h
  | tail _ hstep ih =>
      obtain ⟨name, hshape⟩ := hstep
      obtain ⟨z, hz, hoff⟩ := ih.exists_part (by simp [isInvalid, hshape])
      simp only [parts, hshape, if_true, List.mem_singleton] at hz
      exact hz ▸ hoff

variable [DecidableEq ι]

theorem standIn (h : InvalidOff g mode avoid x) (hy : g.standIn? mode x = some y) :
    InvalidOff g mode avoid y := by
  cases mode with
  | resolved => exact h.of_enumSteps (endOfChain?_eq_some hy)
  | declared =>
      cases hy
      exact h

end InvalidOff

/-! ## Flattened unions -/

/-- An alternate without its nullable mark. -/
def withoutMark (g : TypeGraph ι) (x : ι) : ι :=
  match g.shape x with
  | .nullable operand => operand
  | _ => x

variable {g : TypeGraph ι} {mode : Mode} {x u : ι} {sub : ι → Flattened ι}

theorem alternates_flattenNode {alternates : List ι} (hx : g.shape x = .union alternates) :
    (g.flattenNode sub x).alternates =
      alternates.flatMap fun y => (sub (g.withoutMark y)).alternates := by
  have halternate : ∀ y, (g.flattenAlternate sub y).alternates =
      (sub (g.withoutMark y)).alternates := by
    intro y
    unfold flattenAlternate withoutMark
    cases g.shape y <;> rfl
  simp [flattenNode, hx, Flattened.join, List.flatMap_map, halternate]

theorem alternates_flattenNode_of_not_union (hx : g.isUnion x = false) :
    (g.flattenNode sub x).alternates = [x] := by
  unfold flattenNode
  cases hshape : g.shape x with
  | union alternates => simp [isUnion, hshape, Shape.isUnion] at hx
  | _ => rfl

omit [DecidableEq ι] in
theorem reaches_withoutMark (x : ι) : g.Reaches mode x (g.withoutMark x) := by
  unfold withoutMark
  cases hx : g.shape x with
  | nullable operand => exact .of_mem_parts (by simp [parts, hx])
  | _ => exact .refl

omit [DecidableEq ι] in
theorem InvalidOff.withoutMark {avoid : List ι} (h : InvalidOff g mode avoid x) :
    InvalidOff g mode avoid (g.withoutMark x) := by
  unfold TypeGraph.withoutMark
  cases hx : g.shape x with
  | nullable operand =>
      obtain ⟨y, hy, hoff⟩ := h.exists_part (by simp [isInvalid, hx])
      simp only [parts, hx, List.mem_singleton] at hy
      exact hy ▸ hoff
  | _ => exact h

theorem reaches_flattenNode (hsub : ∀ y, ∀ v ∈ (sub y).alternates, g.Reaches mode y v) {v : ι}
    (hv : v ∈ (g.flattenNode sub x).alternates) : g.Reaches mode x v := by
  cases hx : g.isUnion x with
  | false =>
      rw [alternates_flattenNode_of_not_union hx, List.mem_singleton] at hv
      exact hv ▸ .refl
  | true =>
      obtain ⟨alternates, hshape⟩ := exists_union hx
      rw [alternates_flattenNode hshape, List.mem_flatMap] at hv
      obtain ⟨y, hy, hv⟩ := hv
      have hpart : g.Reaches mode x y := .of_mem_parts (by simpa [parts, hshape] using hy)
      exact (hpart.trans (reaches_withoutMark y)).trans (hsub _ v hv)

theorem reaches_contribution (seen : List ι) (x : ι) :
    ∀ v ∈ (g.contribution seen x).alternates, g.Reaches mode x v := by
  unfold contribution
  induction seen, x using g.path_induction with
  | again seen x hmem =>
      rw [g.walk_of_mem hmem]
      intro v hv
      exact List.mem_singleton.1 hv ▸ .refl
  | enter seen x hmem ih =>
      rw [g.walk_of_not_mem hmem]
      exact fun v hv => reaches_flattenNode ih hv

theorem InvalidOff.flattenNode {avoid : List ι}
    (hsub : ∀ y, InvalidOff g mode avoid y → ∃ v ∈ (sub y).alternates, InvalidOff g mode avoid v)
    (hx : g.isUnion x = true) (h : ∃ y ∈ g.parts mode x, InvalidOff g mode avoid y) :
    ∃ v ∈ (g.flattenNode sub x).alternates, InvalidOff g mode avoid v := by
  obtain ⟨alternates, hshape⟩ := exists_union hx
  obtain ⟨y, hy, hoff⟩ := h
  obtain ⟨v, hv, hoff⟩ := hsub _ hoff.withoutMark
  refine ⟨v, ?_, hoff⟩
  rw [alternates_flattenNode hshape, List.mem_flatMap]
  exact ⟨y, by simpa [parts, hshape] using hy, hv⟩

theorem InvalidOff.contribution (seen : List ι) (x : ι) (h : InvalidOff g mode seen x) :
    ∃ v ∈ (g.contribution seen x).alternates, InvalidOff g mode seen v := by
  unfold TypeGraph.contribution
  induction seen, x using g.path_induction with
  | again seen x hmem => exact absurd hmem h.not_mem
  | enter seen x hmem ih =>
      rw [g.walk_of_not_mem hmem]
      cases hx : g.isUnion x with
      | false => exact ⟨x, by simp [alternates_flattenNode_of_not_union hx], h⟩
      | true =>
          obtain ⟨v, hv, hoff⟩ :=
            InvalidOff.flattenNode ih hx (h.exists_part_off (isInvalid_of_isUnion hx))
          exact ⟨v, hv, hoff.mono (List.subset_cons_self x seen)⟩

/-- Flattening hides no invalid type. -/
theorem InvalidOff.flatten {seen : List ι} (hu : g.isUnion u = true)
    (h : ∃ y ∈ g.parts mode u, InvalidOff g mode seen y) :
    ∃ v ∈ (g.flatten seen u).alternates, InvalidOff g mode seen v :=
  InvalidOff.flattenNode (InvalidOff.contribution seen) hu h

end DocMarkup.TypeGraph
