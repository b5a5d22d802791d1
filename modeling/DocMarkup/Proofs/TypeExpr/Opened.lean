import DocMarkup.Proofs.TypeExpr.Visits
import DocMarkup.Proofs.TypeExpr.Wording

/-!
Unions that are opened without being put on the path: the union of a parameter, and the only
alternate of another union. Main statements: if such a union does not contain itself it is shown as
it is where it is visited, as the type of a parameter (`TypeGraph.parameter_like_visit`) and as an
only alternate (`TypeGraph.wrapped_like_union`). Where a union contains itself the two ways part:
the cut comes one round later, as the union is opened once more.
-/

namespace DocMarkup.TypeGraph

open Relation Layout

variable {ι : Type} [DecidableEq ι] {g : TypeGraph ι} {u v w : ι} {path : List ι}

/-! ## Parameters -/

omit [DecidableEq ι] in
theorem width_layoutAgain (x : ι) : width (g.layoutAgain x) = 1 := by
  rw [layoutAgain, width_note, width_text]
  rfl

theorem one_lt_width_layoutUnion (sub : ι → Layout) {withoutVoid : Bool}
    (h : (g.shownAlternates path withoutVoid u).length ≠ 1) :
    1 < width (g.layoutUnion path sub withoutVoid u) := by
  have hshown := one_lt_width_layoutShown sub h
  rw [layoutUnion, width_append]
  exact Nat.lt_of_lt_of_le hshown (Nat.le_add_left _ _)

/-- A required parameter shows its union as a visit does, if the union does not contain itself. If
the union is on the path already, the visit shows the unknown type, and a parameter that has other
than one alternate to show never shows that. If it is not, both open it, but only the visit puts it
on the path of its alternates: where the union is met again inside them, the parameter opens it once
more and the visit shows the unknown type. -/
theorem parameter_like_visit (g : TypeGraph ι) {root : ι} {path : List ι} {p : Parameter ι}
    (hmeets : g.MeetsParameter root path p) (hunion : g.isUnion p.type = true)
    (hrequired : p.optional = false) :
    (¬ g.Contains .resolved p.type p.type →
      g.renderParameterType path (g.renderAt .resolved path) p = g.renderAt .resolved path p.type) ∧
    (p.type ∈ path → (g.shownAlternates path false p.type).length ≠ 1 → ∀ r d,
      (Rendering.outcome (g.renderParameterType path (g.renderAt .resolved path) p) r d).1 ≠
        (Rendering.outcome (g.renderAt .resolved path p.type) r d).1) ∧
    (p.type ∉ path →
      g.renderParameterType path (g.renderAt .resolved path) p =
        g.renderUnion path (g.renderAt .resolved path) false p.type ∧
      g.renderAt .resolved path p.type =
        g.renderUnion path (g.renderAt .resolved (p.type :: path)) false p.type ∧
      ∀ inner, p.type ∉ inner →
        g.renderAt .resolved (inner ++ path) p.type =
          g.renderUnion (inner ++ path) (g.renderAt .resolved (p.type :: (inner ++ path))) false
            p.type ∧
        g.renderAt .resolved (inner ++ p.type :: path) p.type = g.renderAgain p.type) := by
  have hopened : g.renderParameterType path (g.renderAt .resolved path) p =
      write (g.layoutUnion path (g.layoutAt .resolved path) false p.type) := by
    rw [renderParameterType_eq_write, layoutParameterType, if_pos hunion, hrequired]
  refine ⟨fun hself => ?_, fun hmem hcount r d hsame => ?_,
    fun hmem => ⟨?_, ?_, fun inner hinner => ⟨?_, ?_⟩⟩⟩
  · rw [hopened, renderAt_eq_write,
      layoutUnion_eq_layoutAt hunion hself (not_mem_of_contains hself hmeets.contains .refl)]
  · rw [hopened, renderAt_eq_write,
      layoutAt_of_mem (not_enumStep_of_isUnion hunion) hmem] at hsame
    have hagain : ∃ ts, (Rendering.outcome (write (g.layoutAgain p.type)) r d).1 = .ok ts := by
      rw [outcome_write]
      exact ⟨_, rfl⟩
    obtain ⟨ts, hts⟩ := hagain
    have hwidth := width_eq_of_outcome (hsame.trans hts) hts
    have hlt := one_lt_width_layoutUnion (g.layoutAt .resolved path) hcount
    rw [hwidth, width_layoutAgain] at hlt
    exact Nat.lt_irrefl _ hlt
  · rw [renderParameterType, if_pos hunion, hrequired]
  · exact renderAt_of_isUnion hunion hmem
  · exact renderAt_of_isUnion hunion (by simp [hinner, hmem])
  · exact renderAt_of_isUnion_again hunion (by simp)

/-- Two functions with unions as their parameters, the first of them in its union, and two unions
that are the only alternate of another one, the first of them in itself. -/
def reopened : TypeGraph (Fin 10) where
  shape
    | 0 => .union [1, 2]
    | 1 => .function { parameters := [{ type := 0 }] }
    | 2 => .named "a.B"
    | 3 => .union [4]
    | 4 => .union [2, 4]
    | 5 => .function { parameters := [{ type := 6 }, { type := 4 }], result := some 5 }
    | 6 => .union [7, 8]
    | 7 => .record [{ name := "next", type := some 7 }]
    | 8 => .nullable 2
    | 9 => .union [6]
  nodes := List.finRange 10
  mem_nodes := List.mem_finRange

theorem reopened_meetsParameter : reopened.MeetsParameter 0 [1, 0] { type := 0 } := by
  have hvisit : reopened.Visits 0 [0] 1 := by
    refine .inside .root ?_ (by simp) (by decide +kernel)
    rintro z ⟨name, hz⟩
    cases hz
  exact .of_visits hvisit (by simp) rfl rfl (by simp)

theorem parameter_like_visit_reopened :
    (reopened.MeetsParameter 5 [5] { type := 6 } ∧ ¬ reopened.Contains .resolved 6 6 ∧
      reopened.renderParameterType [5] (reopened.renderAt .resolved [5]) { type := 6 } =
        reopened.renderAt .resolved [5] 6) ∧
    (reopened.MeetsParameter 0 [1, 0] { type := 0 } ∧
      reopened.shownAlternates [1, 0] false 0 = [1, 2] ∧
      ∀ r d, (Rendering.outcome
          (reopened.renderParameterType [1, 0] (reopened.renderAt .resolved [1, 0]) { type := 0 })
          r d).1 ≠
        (Rendering.outcome (reopened.renderAt .resolved [1, 0] 0) r d).1) ∧
    reopened.MeetsParameter 5 [5] { type := 4 } ∧ reopened.Contains .resolved 4 4 ∧
      reopened.renderParameterType [5] (reopened.renderAt .resolved [5]) { type := 4 } =
        reopened.renderUnion [5] (reopened.renderAt .resolved [5]) false 4 ∧
      reopened.renderAt .resolved [5] 4 =
        reopened.renderUnion [5] (reopened.renderAt .resolved [4, 5]) false 4 ∧
      reopened.renderAt .resolved [4, 5] 4 = reopened.renderAgain 4 := by
  have hmeets : reopened.MeetsParameter 5 [5] { type := 6 } :=
    .of_visits .root (by simp) rfl rfl (by simp)
  have hself : ¬ reopened.Contains .resolved 6 6 := by decide +kernel
  have hshown : reopened.shownAlternates [1, 0] false 0 = [1, 2] := by decide +kernel
  have hmeets' : reopened.MeetsParameter 5 [5] { type := 4 } :=
    .of_visits .root (by simp) rfl rfl (by simp)
  have hopened := (parameter_like_visit reopened hmeets' rfl rfl).2.2 (by simp)
  refine ⟨⟨hmeets, hself, ?_⟩, ⟨reopened_meetsParameter, hshown, ?_⟩, hmeets', by decide +kernel,
    hopened.1, hopened.2.1, (hopened.2.2 [] (by simp)).2⟩
  · exact (parameter_like_visit reopened hmeets rfl rfl).1 hself
  · exact (parameter_like_visit reopened reopened_meetsParameter rfl rfl).2.1 (by simp)
      (by simp [hshown])

example : (reopened.format .resolved (.ofLists [] []) (some 5)).toOption.map Comment.text =
    some "function(?(\x7bnext: ?\x7d|a.B), (a.B|(a.B|?))): ?" := by
  decide +kernel

/-- A parameter opens its union again where a visit shows the unknown type. -/
theorem parameter_unlike_visit :
    reopened.MeetsParameter 0 [1, 0] { type := 0 } ∧ reopened.isUnion 0 = true ∧
      reopened.renderParameterType [1, 0] (reopened.renderAt .resolved [1, 0]) { type := 0 } =
        write [.text "(", .note (.recursion "FunctionType"), .text "?", .text "|",
          .name .documented "a.B", .text ")"] ∧
      reopened.renderAt .resolved [1, 0] 0 = write [.note (.recursion "UnionType"), .text "?"] ∧
      (reopened.format .resolved (.ofLists [] []) (some 0)).toOption.map Comment.text =
        some "(function((?|a.B))|a.B)" := by
  refine ⟨reopened_meetsParameter, rfl, ?_, ?_, by decide +kernel⟩
  · rw [renderParameterType_eq_write]
    congr 1
    decide +kernel
  · rw [renderAt_eq_write]
    congr 1
    decide +kernel

/-! ## Only alternates -/

theorem flatten_wrapped (hv : g.isUnion v = true) (hw : g.shape w = .union [v])
    (hfresh : ¬ g.Reaches .resolved v w) :
    g.flatten [w, w] w = g.flatten [v] v := by
  obtain ⟨alternates, hshape⟩ := exists_union hv
  have hne : ∀ z, g.Reaches .resolved v z → z ≠ w := by
    rintro z hz rfl
    exact hfresh hz
  have honly : g.flatten [w, w] w = g.contribution [w, w] v := by
    simp [flatten, flattenNode, hw, flattenAlternate, hshape, Flattened.join]
  rw [honly, contribution_eq, if_pos ⟨hv, by simp [hne v .refl]⟩]
  exact flatten_congr fun z hz => by simp [hne z hz]

/-- A union whose only alternate is a union opens that one with nothing on the path. -/
theorem layout_wrapped (hv : g.isUnion v = true) (hw : g.shape w = .union [v])
    (hfresh : ¬ g.Reaches .resolved v w) :
    g.layout .resolved w = g.layoutUnion [] (g.layout .resolved) false v := by
  have hunion : g.isUnion w = true := by simp [isUnion, hw, Shape.isUnion]
  have hopened : g.layout .resolved w = g.layoutUnion [] (g.layoutAt .resolved [w]) false v := by
    rw [layout, layoutAt_of_isUnion hunion (by simp), layoutUnion, layoutUnion,
      flatten_wrapped hv hw hfresh]
  rw [hopened]
  refine layoutUnion_congr fun y hy => layoutAt_congr fun z hz => ?_
  have hne : z ≠ w := by
    rintro rfl
    exact hfresh (TransGen.to_reflTransGen ((contains_of_shownAlternates hv hy).of_reaches hz))
  simp [hne]

/-- Wrapped as the only alternate of a new union, a union is opened with nothing on the path: where
it comes again inside its own alternates it is opened once more. A union that does not contain
itself is formatted as before, whatever names link to. -/
theorem wrapped_like_union (g : TypeGraph ι) {v w : ι} (hv : g.isUnion v = true)
    (hw : g.shape w = .union [v]) (hfresh : ¬ g.Reaches .resolved v w) :
    g.render .resolved w = g.renderUnion [] (g.render .resolved) false v ∧
    (¬ g.Contains .resolved v v → ∀ r,
      g.format .resolved r (some w) = g.format .resolved r (some v) ∧
        g.formatEvents .resolved r (some w) = g.formatEvents .resolved r (some v)) := by
  constructor
  · have hsub : g.render .resolved = fun y => write (g.layout .resolved y) :=
      funext (g.renderAt_eq_write .resolved [])
    rw [hsub, ← write_layoutUnion, ← layout_wrapped hv hw hfresh]
  · intro hself r
    have hlayout : g.layout .resolved w = g.layout .resolved v :=
      (layout_wrapped hv hw hfresh).trans (layoutUnion_eq_layoutAt hv hself (by simp))
    rw [format_eq_comment, format_eq_comment, formatEvents_eq_events, formatEvents_eq_events,
      hlayout]
    exact ⟨rfl, rfl⟩

theorem wrapped_like_union_reopened :
    (reopened.shape 3 = .union [4] ∧ ¬ reopened.Reaches .resolved 4 3 ∧
      reopened.render .resolved 3 = reopened.renderUnion [] (reopened.render .resolved) false 4) ∧
    reopened.shape 9 = .union [6] ∧ ¬ reopened.Reaches .resolved 6 9 ∧
    ¬ reopened.Contains .resolved 6 6 ∧
      ∀ r, reopened.format .resolved r (some 9) = reopened.format .resolved r (some 6) := by
  have hfresh : ¬ reopened.Reaches .resolved 4 3 := by decide +kernel
  have hfresh' : ¬ reopened.Reaches .resolved 6 9 := by decide +kernel
  have hself : ¬ reopened.Contains .resolved 6 6 := by decide +kernel
  refine ⟨⟨rfl, hfresh, (wrapped_like_union reopened rfl rfl hfresh).1⟩, rfl, hfresh', hself,
    fun r => ?_⟩
  exact ((wrapped_like_union reopened rfl rfl hfresh').2 hself r).1

/-- A union that is an alternate of itself is opened twice if it is wrapped. -/
theorem wrapped_unlike_union :
    reopened.isUnion 4 = true ∧ reopened.shape 3 = .union [4] ∧ ¬ reopened.Reaches .resolved 4 3 ∧
      (reopened.format .resolved (.ofLists [] []) (some 3)).toOption.map Comment.text =
        some "(a.B|(a.B|?))" ∧
      (reopened.format .resolved (.ofLists [] []) (some 4)).toOption.map Comment.text =
        some "(a.B|?)" :=
  ⟨rfl, rfl, by decide +kernel, by decide +kernel, by decide +kernel⟩

end DocMarkup.TypeGraph
