import DocMarkup.Proofs.TypeExpr.Flattening
import Mathlib.Logic.Function.Iterate

/-!
Recursions as they are carried out, one call at a time and with nothing that bounds them, and what
it means that they return. Flattening a union (`TypeGraph.flattenCall`) and looking for a nullable
alternate (`TypeGraph.nullableCall`) return on every graph, with the results of the functions that
are defined along paths.
-/

namespace DocMarkup

/-! ## Recursions that return -/

/-- From a call on, the recursion by `body` returns a value. What the calls deeper than some depth
would give does not matter, because none is made. -/
def Returns {κ α : Type} (body : (κ → α) → κ → α) (call : κ) (value : α) : Prop :=
  ∃ depth, ∀ n ≥ depth, ∀ deeper : κ → α, body^[n] deeper call = value

namespace Returns

variable {κ α : Type} {body : (κ → α) → κ → α} {call call' : κ} {value : α}

theorem of_calls (h : ∃ depth, ∀ n ≥ depth, ∀ deeper, body (body^[n] deeper) call = value) :
    Returns body call value := by
  obtain ⟨depth, h⟩ := h
  refine ⟨depth + 1, fun n hn deeper => ?_⟩
  obtain ⟨m, rfl⟩ : ∃ m, n = m + 1 := ⟨n - 1, by omega⟩
  rw [Function.iterate_succ_apply']
  exact h m (by omega) deeper

theorem of_value (hbody : ∀ f, body f call = value) : Returns body call value :=
  of_calls ⟨0, fun _ _ _ => hbody _⟩

theorem of_tailCall (hbody : ∀ f, body f call = f call') (h : Returns body call' value) :
    Returns body call value := by
  obtain ⟨depth, h⟩ := h
  refine of_calls ⟨depth, fun n hn deeper => ?_⟩
  rw [hbody, h n hn deeper]

end Returns

namespace TypeGraph

open Relation

variable {ι : Type}

/-- A graph has finitely many nodes, so that one depth is enough for all of them. -/
theorem exists_depth (g : TypeGraph ι) {P : Nat → ι → Prop} (h : ∀ x, ∃ depth, ∀ n ≥ depth, P n x) :
    ∃ depth, ∀ n ≥ depth, ∀ x, P n x := by
  suffices key : ∀ l : List ι, ∃ depth, ∀ n ≥ depth, ∀ x ∈ l, P n x by
    obtain ⟨depth, hdepth⟩ := key g.nodes
    exact ⟨depth, fun n hn x => hdepth n hn x (g.mem_nodes x)⟩
  intro l
  induction l with
  | nil => exact ⟨0, by simp⟩
  | cons x l ih =>
      obtain ⟨d, hd⟩ := h x
      obtain ⟨d', hd'⟩ := ih
      refine ⟨max d d', fun n hn y hy => ?_⟩
      rcases List.mem_cons.1 hy with rfl | hy
      · exact hd n (by omega)
      · exact hd' n (by omega) y hy

variable [DecidableEq ι] {g : TypeGraph ι} {path seen : List ι} {x u : ι}

/-! ## Flattening -/

/-- Flatten a union, with `call` for the unions in it that are not open; a union is open while it is
flattened. -/
def flattenCall (g : TypeGraph ι) (call : List ι × ι → Flattened ι) : List ι × ι → Flattened ι
  | (seen, u) =>
    .join ((g.shape u).alternates.map (g.flattenAlternate fun x =>
      if g.isUnion x ∧ x ∉ seen then call (x :: seen, x) else g.asAlternate x))

theorem flattenCall_returns_of_nested (hu : g.isUnion u = true)
    (h : ∀ x, x ∉ seen → g.isUnion x = true →
      Returns g.flattenCall (x :: seen, x) (g.flatten (x :: seen) x)) :
    Returns g.flattenCall (seen, u) (g.flatten seen u) := by
  have hcalls : ∀ x, ∃ depth, ∀ n ≥ depth, ∀ deeper,
      (if g.isUnion x ∧ x ∉ seen then g.flattenCall^[n] deeper (x :: seen, x)
        else g.asAlternate x) = g.contribution seen x := by
    intro x
    rw [contribution_eq]
    by_cases hx : g.isUnion x = true ∧ x ∉ seen
    · obtain ⟨depth, hdepth⟩ := h x hx.2 hx.1
      exact ⟨depth, fun n hn deeper => by rw [if_pos hx, if_pos hx, hdepth n hn deeper]⟩
    · exact ⟨0, fun _ _ _ => by rw [if_neg hx, if_neg hx]⟩
  obtain ⟨depth, hdepth⟩ := g.exists_depth hcalls
  refine .of_calls ⟨depth, fun n hn deeper => ?_⟩
  rw [flatten_of_isUnion seen hu, flattenCall, funext fun x => hdepth n hn x deeper]

/-- Flattening a union returns its flattened form, whatever is open. -/
theorem flattenCall_returns (seen : List ι) (hu : g.isUnion u = true) :
    Returns g.flattenCall (seen, u) (g.flatten seen u) := by
  refine flattenCall_returns_of_nested hu ?_
  intro x
  induction seen, x using g.path_induction with
  | again seen x hmem => exact fun hx => absurd hmem hx
  | enter seen x hmem ih => exact fun _ hunion => flattenCall_returns_of_nested hunion ih

/-! ## Looking for a nullable alternate -/

/-- Make a call for one type after the other, until one is nullable. -/
def firstNullable (call : List ι × ι → Bool × List ι) (seen : List ι) : List ι → Bool × List ι
  | [] => (false, seen)
  | x :: xs =>
    match call (seen, x) with
    | (true, seen) => (true, seen)
    | (false, seen) => firstNullable call seen xs

/-- Look whether a type is nullable, with `call` for the alternates of a union. The unions that have
been looked at are handed on from call to call, and none is looked at twice. -/
def nullableCall (g : TypeGraph ι) (call : List ι × ι → Bool × List ι) : List ι × ι → Bool × List ι
  | (seen, x) =>
    match g.shape x with
    | .union alternates =>
      if x ∈ seen then (false, seen) else firstNullable call (x :: seen) alternates
    | _ => (g.isOpenlyNullable x, seen)

/-- A type that is not nullable by itself, nor through a union that has not been looked at. -/
def RuledOut (g : TypeGraph ι) (seen : List ι) (x : ι) : Prop :=
  g.isOpenlyNullable x = false ∧ (g.isUnion x = true → x ∈ seen)

/-- What is known after looking at some types. If none of them is nullable, then the alternates of
all unions that were met are ruled out. -/
structure Searched (g : TypeGraph ι) (seen : List ι) (xs : List ι) (result : Bool × List ι) :
    Prop where
  grows : seen ⊆ result.2
  found : result.1 = true → ∃ x ∈ xs, g.isNullable x = true
  ruledOut : result.1 = false → ∀ x ∈ xs, g.RuledOut result.2 x
  inside : result.1 = false → ∀ v ∈ result.2, v ∉ seen → ∀ y ∈ (g.shape v).alternates,
    g.RuledOut result.2 y

omit [DecidableEq ι] in
theorem RuledOut.mono {seen' : List ι} (hsub : seen ⊆ seen') (h : g.RuledOut seen x) :
    g.RuledOut seen' x :=
  ⟨h.1, fun hx => hsub (h.2 hx)⟩

namespace Searched

variable {xs : List ι} {result : Bool × List ι} {seen' : List ι}

theorem nil : Searched g seen [] (false, seen) where
  grows := List.Subset.refl _
  found := by simp
  ruledOut := by simp
  inside := fun _ v hv hnew => absurd hv hnew

theorem cons_of_found (h : Searched g seen [x] (true, seen')) :
    Searched g seen (x :: xs) (true, seen') where
  grows := h.grows
  found := fun _ => ⟨x, List.mem_cons_self, by simpa using h.found rfl⟩
  ruledOut := by simp
  inside := by simp

theorem cons (hx : Searched g seen [x] (false, seen')) (hxs : Searched g seen' xs result) :
    Searched g seen (x :: xs) result where
  grows := List.Subset.trans hx.grows hxs.grows
  found := by
    intro hresult
    obtain ⟨y, hy, hnullable⟩ := hxs.found hresult
    exact ⟨y, List.mem_cons_of_mem x hy, hnullable⟩
  ruledOut := by
    intro hresult y hy
    rcases List.mem_cons.1 hy with rfl | hy
    · exact (hx.ruledOut rfl y List.mem_cons_self).mono hxs.grows
    · exact hxs.ruledOut hresult y hy
  inside := by
    intro hresult v hv hnew y hy
    by_cases hmem : v ∈ seen'
    · exact (hx.inside rfl v hmem hnew y hy).mono hxs.grows
    · exact hxs.inside hresult v hv hmem y hy

theorem of_not_union (hx : g.isUnion x = false) :
    Searched g seen [x] (g.isOpenlyNullable x, seen) where
  grows := List.Subset.refl _
  found := fun hopen => ⟨x, List.mem_cons_self, isNullable_iff.2 (.inl hopen)⟩
  ruledOut := by
    intro hopen y hy
    obtain rfl := List.mem_singleton.1 hy
    exact ⟨hopen, by simp [hx]⟩
  inside := fun _ v hv hnew => absurd hv hnew

theorem of_mem {alternates : List ι} (hx : g.shape x = .union alternates) (hmem : x ∈ seen) :
    Searched g seen [x] (false, seen) where
  grows := List.Subset.refl _
  found := by simp
  ruledOut := by
    intro _ y hy
    obtain rfl := List.mem_singleton.1 hy
    exact ⟨by simp [isOpenlyNullable, hx], fun _ => hmem⟩
  inside := fun _ v hv hnew => absurd hv hnew

theorem of_alternates {alternates : List ι} (hx : g.shape x = .union alternates)
    (h : Searched g (x :: seen) alternates result) : Searched g seen [x] result where
  grows := List.subset_of_cons_subset h.grows
  found := by
    intro hresult
    refine ⟨x, List.mem_cons_self, ?_⟩
    rw [isNullable_of_union hx, List.any_eq_true]
    exact h.found hresult
  ruledOut := by
    intro _ y hy
    obtain rfl := List.mem_singleton.1 hy
    exact ⟨by simp [isOpenlyNullable, hx], fun _ => h.grows List.mem_cons_self⟩
  inside := by
    intro hresult v hv hnew y hy
    by_cases hvx : v = x
    · subst hvx
      rw [hx] at hy
      exact h.ruledOut hresult y hy
    · exact h.inside hresult v hv (by simp [hvx, hnew]) y hy

/-- A search with nothing seen before it decides whether a type is nullable. -/
theorem eq_isNullable (h : Searched g [] [x] result) : result.1 = g.isNullable x := by
  cases hresult : result.1 with
  | true =>
      have hx : g.isNullable x = true := by simpa using h.found hresult
      exact hx.symm
  | false =>
      obtain ⟨hopen, hunion⟩ := h.ruledOut hresult x List.mem_cons_self
      -- a chain of unions from the type stays among the unions that were met
      have hchain : ∀ v, ReflTransGen g.Nests x v → ∀ y ∈ (g.shape v).alternates,
          g.RuledOut result.2 y := by
        intro v hv
        induction hv with
        | refl =>
            cases hx : g.isUnion x with
            | true => exact h.inside hresult x (hunion hx) (by simp)
            | false =>
                cases hshape : g.shape x with
                | union alternates => simp [isUnion, hshape, Shape.isUnion] at hx
                | _ => simp [Shape.alternates]
        | tail _ hstep ih =>
            obtain ⟨hmem, hnested⟩ := List.mem_filter.1 hstep
            exact h.inside hresult _ ((ih _ hmem).2 hnested) (by simp)
      symm
      rw [Bool.eq_false_iff]
      intro hnullable
      rcases isNullable_iff.1 hnullable with hx | ⟨v, hv, y, hy, hyopen⟩
      · simp [hopen] at hx
      · simp [(hchain v hv y hy).1] at hyopen

end Searched

theorem offPath_le_of_subset (g : TypeGraph ι) (h : path ⊆ seen) :
    g.offPath seen ≤ g.offPath path := by
  refine List.countP_mono_left fun x _ hx => ?_
  simp only [decide_eq_true_eq] at hx ⊢
  exact fun hmem => hx (h hmem)

theorem firstNullable_returns (xs : List ι)
    (h : ∀ seen', seen ⊆ seen' → ∀ x, ∃ result, Returns g.nullableCall (seen', x) result ∧
      Searched g seen' [x] result) :
    ∃ result,
      (∃ depth, ∀ n ≥ depth, ∀ deeper, firstNullable (g.nullableCall^[n] deeper) seen xs = result) ∧
      Searched g seen xs result := by
  induction xs generalizing seen with
  | nil => exact ⟨(false, seen), ⟨0, fun _ _ _ => rfl⟩, .nil⟩
  | cons x xs ih =>
      obtain ⟨⟨isFound, seen'⟩, ⟨depth, hdepth⟩, hx⟩ := h seen (List.Subset.refl _) x
      cases isFound with
      | true =>
          refine ⟨(true, seen'), ⟨depth, fun n hn deeper => ?_⟩, hx.cons_of_found⟩
          simp only [firstNullable, hdepth n hn deeper]
      | false =>
          obtain ⟨result, ⟨depth', hdepth'⟩, hxs⟩ :=
            ih fun s hs => h s (List.Subset.trans hx.grows hs)
          refine ⟨result, ⟨max depth depth', fun n hn deeper => ?_⟩, hx.cons hxs⟩
          simp only [firstNullable, hdepth n (by omega) deeper]
          exact hdepth' n (by omega) deeper

-- Unions that were looked at are never forgotten, so that each union that is entered leaves fewer
-- to enter.
theorem nullableCall_searches (g : TypeGraph ι) (seen : List ι) (x : ι) :
    ∃ result, Returns g.nullableCall (seen, x) result ∧ Searched g seen [x] result := by
  cases hunion : g.isUnion x with
  | false =>
      refine ⟨_, .of_value fun call => ?_, .of_not_union hunion⟩
      cases hx : g.shape x with
      | union alternates => simp [isUnion, hx, Shape.isUnion] at hunion
      | _ => simp [nullableCall, hx]
  | true =>
      obtain ⟨alternates, hx⟩ := exists_union hunion
      by_cases hmem : x ∈ seen
      · exact ⟨_, .of_value fun call => by simp [nullableCall, hx, hmem], .of_mem hx hmem⟩
      · have hcalls : ∀ seen', x :: seen ⊆ seen' → ∀ y,
            ∃ result, Returns g.nullableCall (seen', y) result ∧ Searched g seen' [y] result := by
          intro seen' hsub y
          have := g.offPath_le_of_subset hsub
          have := g.offPath_cons_lt hmem
          exact nullableCall_searches g seen' y
        obtain ⟨result, ⟨depth, hdepth⟩, hsearched⟩ := firstNullable_returns alternates hcalls
        refine ⟨result, .of_calls ⟨depth, fun n hn deeper => ?_⟩, .of_alternates hx hsearched⟩
        simp only [nullableCall, hx, hmem, if_false]
        exact hdepth n hn deeper
termination_by g.offPath seen

/-- Looking whether a type is nullable returns the answer. -/
theorem nullableCall_returns (g : TypeGraph ι) (x : ι) :
    ∃ seen, Returns g.nullableCall ([], x) (g.isNullable x, seen) := by
  obtain ⟨⟨answer, seen⟩, hreturns, hsearched⟩ := g.nullableCall_searches [] x
  have hanswer : answer = g.isNullable x := hsearched.eq_isNullable
  exact ⟨seen, hanswer ▸ hreturns⟩

end TypeGraph

end DocMarkup
