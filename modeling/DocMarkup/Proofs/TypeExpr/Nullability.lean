import DocMarkup.TypeExpr.Nullable
import Mathlib.Logic.Relation

/-!
A search finds exactly what can be reached (`TypeGraph.mem_closure_iff`). So a type is nullable if a
chain of unions leads from it to a nullable alternate (`TypeGraph.isNullable_iff`); a union is
nullable if an alternate of it is, also where unions contain themselves
(`TypeGraph.isNullable_of_union`).
-/

namespace DocMarkup.TypeGraph

open Relation

variable {ι : Type} [DecidableEq ι] {g : TypeGraph ι} {next : ι → List ι} {todo seen : List ι}
    {x z : ι}

/-! ## Searches -/

theorem subset_closure (g : TypeGraph ι) (next : ι → List ι) (todo seen : List ι) :
    seen ⊆ g.closure next todo seen := by
  fun_induction closure g next todo seen with
  | case1 => exact List.Subset.refl _
  | case2 _ _ _ _ _ ih => exact ih
  | case3 seen x todo _ _ ih => exact fun y hy => ih (List.mem_cons_of_mem x hy)

/-- A search invents nothing. -/
theorem exists_of_mem_closure (h : z ∈ g.closure next todo seen) :
    z ∈ seen ∨ ∃ t ∈ todo, ReflTransGen (fun a b => b ∈ next a) t z := by
  fun_induction closure g next todo seen with
  | case1 => exact .inl h
  | case2 seen x todo _ _ ih =>
      rcases ih h with hseen | ⟨t, ht, hz⟩
      · exact .inl hseen
      · exact .inr ⟨t, List.mem_cons_of_mem x ht, hz⟩
  | case3 seen x todo _ _ ih =>
      rcases ih h with hseen | ⟨t, ht, hz⟩
      · rcases List.mem_cons.1 hseen with rfl | hseen
        · exact .inr ⟨z, List.mem_cons_self, .refl⟩
        · exact .inl hseen
      · rcases List.mem_append.1 ht with ht | ht
        · exact .inr ⟨x, List.mem_cons_self, .head ht hz⟩
        · exact .inr ⟨t, List.mem_cons_of_mem x ht, hz⟩

/-- What the nodes seen so far lead to is seen as well, or is still to be searched. -/
def Frontier (next : ι → List ι) (todo seen : List ι) : Prop :=
  ∀ s ∈ seen, ∀ y ∈ next s, y ∈ seen ∨ y ∈ todo

omit [DecidableEq ι] in
theorem Frontier.drop (h : Frontier next (x :: todo) seen) (hx : x ∈ seen) :
    Frontier next todo seen := by
  intro s hs y hy
  rcases h s hs y hy with hseen | htodo
  · exact .inl hseen
  · rcases List.mem_cons.1 htodo with rfl | htodo
    · exact .inl hx
    · exact .inr htodo

omit [DecidableEq ι] in
theorem Frontier.enter (h : Frontier next (x :: todo) seen) :
    Frontier next (next x ++ todo) (x :: seen) := by
  intro s hs y hy
  rcases List.mem_cons.1 hs with rfl | hs
  · exact .inr (List.mem_append_left _ hy)
  · rcases h s hs y hy with hseen | htodo
    · exact .inl (List.mem_cons_of_mem x hseen)
    · rcases List.mem_cons.1 htodo with rfl | htodo
      · exact .inl List.mem_cons_self
      · exact .inr (List.mem_append_right _ htodo)

/-- A search finds what it sets out to search, and misses no step from what it finds. -/
theorem Frontier.closure (h : Frontier next todo seen) :
    todo ⊆ g.closure next todo seen ∧ Frontier next [] (g.closure next todo seen) := by
  fun_induction TypeGraph.closure g next todo seen with
  | case1 => exact ⟨List.nil_subset _, h⟩
  | case2 seen x todo hx _ ih =>
      obtain ⟨htodo, hclosed⟩ := ih (h.drop hx)
      exact ⟨List.cons_subset.2 ⟨subset_closure g next todo seen hx, htodo⟩, hclosed⟩
  | case3 seen x todo hx _ ih =>
      obtain ⟨htodo, hclosed⟩ := ih h.enter
      refine ⟨List.cons_subset.2 ⟨subset_closure g next _ _ List.mem_cons_self, ?_⟩, hclosed⟩
      exact fun y hy => htodo (List.mem_append_right _ hy)

theorem mem_closure_iff : z ∈ g.closure next [x] [] ↔ ReflTransGen (fun a b => b ∈ next a) x z := by
  constructor
  · intro h
    rcases exists_of_mem_closure h with hseen | ⟨t, ht, hz⟩
    · cases hseen
    · exact List.mem_singleton.1 ht ▸ hz
  · intro h
    obtain ⟨hstart, hclosed⟩ : [x] ⊆ g.closure next [x] [] ∧
        Frontier next [] (g.closure next [x] []) :=
      Frontier.closure fun s hs => by cases hs
    induction h with
    | refl => exact hstart List.mem_cons_self
    | tail _ hstep ih =>
        rcases hclosed _ ih _ hstep with hmem | hmem
        · exact hmem
        · cases hmem

/-! ## Nullable types -/

/-- A union has another as an alternate. -/
def Nests (g : TypeGraph ι) (u v : ι) : Prop := v ∈ g.nestedUnions u

theorem isNullable_iff :
    g.isNullable x = true ↔ g.isOpenlyNullable x = true ∨
      ∃ u, ReflTransGen g.Nests x u ∧
        ∃ y ∈ (g.shape u).alternates, g.isOpenlyNullable y = true := by
  have hclosure : ∀ u, u ∈ g.closure g.nestedUnions [x] [] ↔ ReflTransGen g.Nests x u :=
    fun u => mem_closure_iff
  simp [isNullable, hclosure]

theorem isNullable_of_not_union (hx : g.isUnion x = false) :
    g.isNullable x = g.isOpenlyNullable x := by
  have hnone : (g.shape x).alternates = [] := by
    cases hshape : g.shape x with
    | union alternates => simp [isUnion, hshape, Shape.isUnion] at hx
    | _ => rfl
  rw [Bool.eq_iff_iff, isNullable_iff]
  constructor
  · rintro (hopen | ⟨u, hu, y, hy, _⟩)
    · exact hopen
    · rcases ReflTransGen.cases_head hu with rfl | ⟨v, hv, _⟩
      · simp [hnone] at hy
      · simp [Nests, nestedUnions, hnone] at hv
  · exact .inl

/-- A union is nullable if one of its alternates is. -/
theorem isNullable_of_union {alternates : List ι} (hx : g.shape x = .union alternates) :
    g.isNullable x = alternates.any g.isNullable := by
  have halternates : (g.shape x).alternates = alternates := by rw [hx]; rfl
  rw [Bool.eq_iff_iff, isNullable_iff, List.any_eq_true]
  constructor
  · rintro (hopen | ⟨u, hu, y, hy, hopen⟩)
    · simp [isOpenlyNullable, hx] at hopen
    · rcases ReflTransGen.cases_head hu with rfl | ⟨v, hv, hu⟩
      · exact ⟨y, halternates ▸ hy, isNullable_iff.2 (.inl hopen)⟩
      · obtain ⟨hmem, _⟩ := List.mem_filter.1 hv
        exact ⟨v, halternates ▸ hmem, isNullable_iff.2 (.inr ⟨u, hu, y, hy, hopen⟩)⟩
  · rintro ⟨v, hv, hnullable⟩
    rcases isNullable_iff.1 hnullable with hopen | ⟨u, hu, y, hy, hopen⟩
    · exact .inr ⟨x, .refl, v, halternates.symm ▸ hv, hopen⟩
    · cases hunion : g.isUnion v with
      | true =>
          exact .inr ⟨u, .head (List.mem_filter.2 ⟨halternates.symm ▸ hv, hunion⟩) hu, y, hy, hopen⟩
      | false =>
          rw [isNullable_of_not_union hunion] at hnullable
          exact .inr ⟨x, .refl, v, halternates.symm ▸ hv, hnullable⟩

end DocMarkup.TypeGraph
