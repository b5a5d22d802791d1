import DocMarkup.Proofs.TypeExpr.Nullability
import DocMarkup.Proofs.TypeExpr.Reach
import DocMarkup.TypeExpr.Union

/-!
Flattened unions and null. A union that is not opened, because it is seen before, counts as nullable
if null can be assigned to it; so it makes no difference to the mark of a flattened union which
unions are opened. Main statement: a flattened union is marked exactly if it is nullable, which is
if a chain of unions leads to an alternate that admits null (`TypeGraph.nullable_flatten_iff`).
-/

namespace DocMarkup.TypeGraph

open Relation

variable {ι : Type} [DecidableEq ι] {g : TypeGraph ι} {sub : ι → Flattened ι} {seen : List ι}
    {x u : ι}

/-! ## Opening unions -/

theorem flatten_of_isUnion (seen : List ι) (hu : g.isUnion u = true) :
    g.flatten seen u =
      .join ((g.shape u).alternates.map (g.flattenAlternate (g.contribution seen))) := by
  obtain ⟨alternates, hshape⟩ := exists_union hu
  simp [flatten, flattenNode, hshape, Shape.alternates]

theorem contribution_eq (seen : List ι) (x : ι) :
    g.contribution seen x = if g.isUnion x ∧ x ∉ seen then g.flatten (x :: seen) x
      else g.asAlternate x := by
  by_cases hmem : x ∈ seen
  · rw [contribution, g.walk_of_mem hmem]
    simp [hmem]
  · rw [contribution, g.walk_of_not_mem hmem]
    cases hx : g.shape x <;> simp [hmem, hx, isUnion, Shape.isUnion, flattenNode, flatten,
      contribution]

/-! ## The mark of a flattened union -/

theorem isNullable_of_mark {operand : ι} (hx : g.shape x = .nullable operand) :
    g.isNullable x = true :=
  isNullable_iff.2 (.inl (by simp [isOpenlyNullable, hx]))

theorem nullable_flattenAlternate (hsub : ∀ y, (sub y).nullable = g.isNullable y) (x : ι) :
    (g.flattenAlternate sub x).nullable = g.isNullable x := by
  unfold flattenAlternate
  cases hx : g.shape x with
  | nullable operand => rw [isNullable_of_mark hx]; rfl
  | _ => exact hsub x

theorem nullable_flattenNode (hsub : ∀ y, (sub y).nullable = g.isNullable y) (x : ι) :
    (g.flattenNode sub x).nullable = g.isNullable x := by
  unfold flattenNode
  cases hx : g.shape x with
  | union alternates =>
      have hany : (alternates.map (g.flattenAlternate sub)).any Flattened.nullable =
          alternates.any g.isNullable := by
        rw [List.any_map]
        exact congrArg alternates.any (funext (nullable_flattenAlternate hsub))
      rw [isNullable_of_union hx, ← hany]
      rfl
  | _ => rfl

theorem nullable_contribution (seen : List ι) (x : ι) :
    (g.contribution seen x).nullable = g.isNullable x := by
  unfold contribution
  induction seen, x using g.path_induction with
  | again seen x hmem =>
      -- a union that is not opened answers for itself
      rw [g.walk_of_mem hmem]
      rfl
  | enter seen x hmem ih =>
      rw [g.walk_of_not_mem hmem]
      exact nullable_flattenNode ih x

theorem nullable_flatten (seen : List ι) (u : ι) : (g.flatten seen u).nullable = g.isNullable u :=
  nullable_flattenNode (nullable_contribution seen) u

/-! ## Unions that are flat -/

theorem withoutMark_of_not_nullable (hx : g.isNullable x = false) : g.withoutMark x = x := by
  unfold withoutMark
  cases hshape : g.shape x with
  | nullable operand => exact absurd (isNullable_of_mark hshape) (by simp [hx])
  | _ => rfl

/-- A union without nullable alternates and without unions among them is flat already. -/
theorem flatten_eq_self {alternates : List ι} (hu : g.shape u = .union alternates)
    (hflat : ∀ y ∈ alternates, g.isUnion y = false ∧ g.isNullable y = false) (seen : List ι) :
    g.flatten seen u = ⟨alternates, false⟩ := by
  have hkept : ∀ y ∈ alternates, (g.contribution seen (g.withoutMark y)).alternates = [y] := by
    intro y hy
    rw [withoutMark_of_not_nullable (hflat y hy).2, contribution_eq,
      if_neg (by simp [(hflat y hy).1])]
    rfl
  have halternates : (g.flatten seen u).alternates = alternates := by
    rw [flatten, alternates_flattenNode hu, List.flatMap_def, List.map_congr_left hkept,
      ← List.flatMap_def, List.flatMap_singleton']
  have hnullable : (g.flatten seen u).nullable = false := by
    rw [nullable_flatten, isNullable_of_union hu, List.any_eq_false]
    intro y hy
    simp [(hflat y hy).2]
  rw [← halternates, ← hnullable]

/-! ## Chains of unions -/

/-- A union has another one among its alternates. -/
def HasUnion (g : TypeGraph ι) (u v : ι) : Prop :=
  ∃ alternates alternates', g.shape u = .union alternates ∧ v ∈ alternates ∧
    g.shape v = .union alternates'

/-- A type that is marked nullable, or the null, universal or unknown type. -/
def AdmitsNull (g : TypeGraph ι) (x : ι) : Prop :=
  (∃ operand, g.shape x = .nullable operand) ∨
    ∃ kind ∈ [PrimitiveKind.null, .all, .unknown], g.shape x = .primitive kind

omit [DecidableEq ι] in
theorem isOpenlyNullable_iff : g.isOpenlyNullable x = true ↔ g.AdmitsNull x := by
  unfold isOpenlyNullable AdmitsNull
  cases hx : g.shape x with
  | primitive kind => cases kind <;> simp [PrimitiveKind.isNullable]
  | _ => simp

omit [DecidableEq ι] in
theorem nests_iff {v : ι} : g.Nests u v ↔ g.HasUnion u v := by
  unfold Nests HasUnion nestedUnions
  rw [List.mem_filter]
  constructor
  · rintro ⟨hmem, hv⟩
    obtain ⟨alternates', hv⟩ := exists_union hv
    cases hu : g.shape u with
    | union alternates =>
        rw [hu] at hmem
        exact ⟨alternates, alternates', rfl, hmem, hv⟩
    | _ => simp [hu, Shape.alternates] at hmem
  · rintro ⟨alternates, alternates', hu, hmem, hv⟩
    exact ⟨by rwa [hu], by simp [isUnion, hv, Shape.isUnion]⟩

/-- Whatever unions are not opened, a flattened union is marked nullable exactly if the union is
nullable: if a chain of unions leads from it to one with an alternate that admits null. -/
theorem nullable_flatten_iff (g : TypeGraph ι) {u : ι} {alternates : List ι}
    (hu : g.shape u = .union alternates) (seen : List ι) :
    (g.flatten seen u).nullable = g.isNullable u ∧
      (g.isNullable u = true ↔ ∃ v alternates y,
        ReflTransGen g.HasUnion u v ∧ g.shape v = .union alternates ∧ y ∈ alternates ∧
        g.AdmitsNull y) := by
  refine ⟨nullable_flatten seen u, ?_⟩
  have hopen : g.isOpenlyNullable u = false := by simp [isOpenlyNullable, hu]
  have hsteps : g.Nests = g.HasUnion := by
    funext v w
    exact propext nests_iff
  rw [isNullable_iff, hopen, hsteps]
  constructor
  · rintro (hfalse | ⟨v, hchain, y, hy, hnull⟩)
    · cases hfalse
    · cases hv : g.shape v with
      | union alternates =>
          rw [hv] at hy
          exact ⟨v, alternates, y, hchain, hv, hy, isOpenlyNullable_iff.1 hnull⟩
      | _ => simp [hv, Shape.alternates] at hy
  · rintro ⟨v, alternates, y, hchain, hv, hy, hnull⟩
    exact .inr ⟨v, hchain, y, by rwa [hv], isOpenlyNullable_iff.2 hnull⟩

/-- Three unions in a circle, the last of which also contains a marked type. -/
def unionCircle : TypeGraph (Fin 6) where
  shape
    | 0 => .union [1, 4]
    | 1 => .union [2, 5]
    | 2 => .union [0, 3]
    | 3 => .nullable 0
    | 4 => .primitive .string
    | 5 => .template "T"
  nodes := List.finRange 6
  mem_nodes := List.mem_finRange

theorem nullable_flatten_unionCircle :
    unionCircle.shape 0 = .union [1, 4] ∧ (unionCircle.flatten [1] 0).alternates = [1, 4] ∧
      (unionCircle.flatten [1] 0).nullable = true ∧ unionCircle.isNullable 0 = true := by
  obtain ⟨hflag, hchain⟩ := nullable_flatten_iff unionCircle (u := 0) rfl [1]
  have h01 : unionCircle.HasUnion 0 1 := ⟨_, _, rfl, by simp, rfl⟩
  have h12 : unionCircle.HasUnion 1 2 := ⟨_, _, rfl, by simp, rfl⟩
  have hnull : unionCircle.isNullable 0 = true :=
    hchain.2 ⟨2, [0, 3], 3, (ReflTransGen.single h01).tail h12, rfl, by simp, .inl ⟨0, rfl⟩⟩
  exact ⟨rfl, by decide +kernel, hflag.trans hnull, hnull⟩

end DocMarkup.TypeGraph
