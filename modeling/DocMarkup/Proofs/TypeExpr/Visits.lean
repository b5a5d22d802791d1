import DocMarkup.Proofs.TypeExpr.Flattening
import DocMarkup.Proofs.TypeExpr.Risk

/-!
Where types are met while a type is rendered. A path cuts a rendering short only at a type on it
that is met again, so that paths which hold the same of what a type reaches give it the same layout
(`TypeGraph.layoutAt_congr`). In every state that a rendering comes to, the types on the path
contain the one that is visited (`TypeGraph.Visits.contains`); hence a type that does not contain
itself has one layout wherever it is met (`TypeGraph.layoutAt_eq_layout`), and a union that does not
may be opened on the path or off it (`TypeGraph.layoutUnion_eq_layoutAt`).
-/

namespace DocMarkup.TypeGraph

open Relation

variable {ι : Type} {g : TypeGraph ι} {mode : Mode} {x y z u : ι} {path path' : List ι}

/-! ## Types inside types -/

/-- A type has another one somewhere inside it. -/
def Contains (g : TypeGraph ι) (mode : Mode) : ι → ι → Prop :=
  TransGen fun x y => y ∈ g.parts mode x

theorem contains_iff : g.Contains mode x z ↔ ∃ y ∈ g.parts mode x, g.Reaches mode y z :=
  TransGen.head'_iff

theorem Contains.of_part (hy : y ∈ g.parts mode x) (hz : g.Reaches mode y z) :
    g.Contains mode x z := .head' hy hz

theorem Contains.of_reaches (hxy : g.Contains mode x y) (hyz : g.Reaches mode y z) :
    g.Contains mode x z :=
  TransGen.trans_left hxy hyz

theorem Reaches.contains (hxy : g.Reaches mode x y) (hyz : g.Contains mode y z) :
    g.Contains mode x z :=
  TransGen.trans_right hxy hyz

/-- A type that does not contain itself reaches nothing that contains it. -/
theorem not_mem_of_contains (hx : ¬ g.Contains mode x x) (hpath : ∀ p ∈ path, g.Contains mode p x)
    (hz : g.Reaches mode x z) : z ∉ path :=
  fun hmem => hx (hz.contains (hpath z hmem))

variable [DecidableEq ι]

instance (g : TypeGraph ι) (mode : Mode) (x z : ι) : Decidable (g.Reaches mode x z) :=
  decidable_of_iff (z ∈ g.closure (g.parts mode) [x] []) mem_closure_iff

instance (g : TypeGraph ι) (mode : Mode) (x z : ι) : Decidable (g.Contains mode x z) :=
  decidable_of_iff (∃ y ∈ g.parts mode x, g.Reaches mode y z) contains_iff.symm

/-! ## Flattening -/

theorem flattenNode_congr {sub sub' : ι → Flattened ι}
    (h : ∀ y, g.Reaches .resolved x y → sub y = sub' y) :
    g.flattenNode sub x = g.flattenNode sub' x := by
  unfold flattenNode
  cases hx : g.shape x with
  | union alternates =>
      refine congrArg Flattened.join (List.map_congr_left fun y hy => ?_)
      have hpart : g.Reaches .resolved x y := .of_mem_parts (by simpa [parts, hx] using hy)
      unfold flattenAlternate
      cases hshape : g.shape y with
      | nullable operand =>
          simp only [h operand (hpart.trans (.of_mem_parts (by simp [parts, hshape])))]
      | _ => exact h y hpart
  | _ => rfl

theorem contribution_congr {seen seen' : List ι}
    (h : ∀ z, g.Reaches .resolved x z → (z ∈ seen ↔ z ∈ seen')) :
    g.contribution seen x = g.contribution seen' x := by
  unfold contribution
  induction seen, x using g.path_induction generalizing seen' with
  | again seen x hmem => rw [g.walk_of_mem hmem, g.walk_of_mem ((h x .refl).1 hmem)]
  | enter seen x hmem ih =>
      rw [g.walk_of_not_mem hmem, g.walk_of_not_mem fun hmem' => hmem ((h x .refl).2 hmem')]
      refine flattenNode_congr fun y hy => ih y fun z hz => ?_
      simp only [List.mem_cons, h z (hy.trans hz)]

theorem flatten_congr {seen seen' : List ι}
    (h : ∀ z, g.Reaches .resolved u z → (z ∈ seen ↔ z ∈ seen')) :
    g.flatten seen u = g.flatten seen' u :=
  flattenNode_congr fun _ hy => contribution_congr fun z hz => h z (hy.trans hz)

/-! ## Layouts -/

section Congruence

variable {sub sub' : ι → Layout}

omit [DecidableEq ι] in
theorem layoutShown_congr {alternates : List ι} (h : ∀ y ∈ alternates, sub y = sub' y) :
    layoutShown sub alternates = layoutShown sub' alternates := by
  match alternates with
  | [] => rfl
  | [y] => exact h y List.mem_cons_self
  | y :: z :: alternates => exact congrArg (Layout.enclosed _ _ _) (List.map_congr_left h)

theorem layoutUnion_congr {withoutVoid : Bool}
    (h : ∀ y ∈ g.shownAlternates path withoutVoid u, sub y = sub' y) :
    g.layoutUnion path sub withoutVoid u = g.layoutUnion path sub' withoutVoid u :=
  congrArg (_ ++ ·) (layoutShown_congr h)

theorem layoutParameterType_congr {p : Parameter ι}
    (h : ∀ y ∈ g.shownParameter path p, sub y = sub' y) :
    g.layoutParameterType path sub p = g.layoutParameterType path sub' p := by
  unfold shownParameter at h
  unfold layoutParameterType
  split
  next hp => exact layoutUnion_congr (by simpa [hp] using h)
  next hp => exact h _ (by simp [hp])

omit [DecidableEq ι] in
theorem layoutRecord_congr {fields : List (Field ι)} (fieldName : String → String)
    (h : ∀ y ∈ fields.filterMap (·.type), sub y = sub' y) :
    layoutRecord sub fieldName fields = layoutRecord sub' fieldName fields := by
  refine congrArg (Layout.enclosed _ _ _) (List.map_congr_left fun f hf => ?_)
  cases htype : f.type with
  | some y => simp only [h y (List.mem_filterMap.2 ⟨f, hf, htype⟩)]
  | none => rfl

omit [DecidableEq ι] in
theorem layoutTemplatized_congr {base : ι} {arguments : List ι}
    (h : ∀ y ∈ base :: arguments, sub y = sub' y) :
    layoutTemplatized sub base arguments = layoutTemplatized sub' base arguments := by
  rw [layoutTemplatized, layoutTemplatized, h base List.mem_cons_self,
    List.map_congr_left fun y hy => h y (List.mem_cons_of_mem base hy)]

omit [DecidableEq ι] in
theorem layoutFunction_congr {f : Signature ι} {context : Option ι}
    {parameters parameters' : List Layout} (hcontext : ∀ y ∈ context.toList, sub y = sub' y)
    (hparameters : parameters = parameters') (hresult : ∀ y ∈ f.result.toList, sub y = sub' y) :
    layoutFunction sub f context parameters = layoutFunction sub' f context parameters' := by
  unfold layoutFunction layoutContext
  rw [hparameters]
  congr 1
  · cases context with
    | none => rfl
    | some y => simp [hcontext y (by simp)]
  · cases hf : f.result with
    | none => rfl
    | some y => simp only [hresult y (by simp [hf])]

theorem layoutDeclared_congr (h : ∀ y ∈ g.shownParts .declared path x, sub y = sub' y) :
    g.layoutDeclared sub x = g.layoutDeclared sub' x := by
  unfold shownParts parts at h
  unfold layoutDeclared
  cases hx : g.shape x with
  | primitive kind => cases kind <;> rfl
  | nullable operand => simp only [h operand (by simp [hx])]
  | nonNullable operand => simp only [h operand (by simp [hx])]
  | union alternates =>
      exact congrArg (Layout.enclosed _ _ _) (List.map_congr_left (by simpa [hx] using h))
  | record fields => exact layoutRecord_congr _ (by simpa only [hx] using h)
  | templatized base arguments => exact layoutTemplatized_congr (by simpa only [hx] using h)
  | function f =>
      by_cases hbare : f.isBare
      · simp only [hbare, if_true]
      · simp only [hx, hbare, Bool.false_eq_true, if_false, List.mem_append, or_imp,
          forall_and] at h ⊢
        obtain ⟨⟨hcontext, hparameters⟩, hresult⟩ := h
        refine layoutFunction_congr hcontext (List.map_congr_left fun p hp => ?_) hresult
        rw [hparameters _ (List.mem_map_of_mem hp)]
  | _ => rfl

theorem layoutResolved_congr (h : ∀ y ∈ g.shownParts .resolved path x, sub y = sub' y) :
    g.layoutResolved path sub x = g.layoutResolved path sub' x := by
  unfold shownParts parts at h
  unfold layoutResolved
  cases hx : g.shape x with
  | enumElement name underlying => exact h underlying (by simp [hx])
  | nullable operand => simp only [h operand (by simp [hx])]
  | nonNullable operand => exact h operand (by simp [hx])
  | union alternates => exact layoutUnion_congr (by simpa only [hx] using h)
  | record fields => exact layoutRecord_congr _ (by simpa only [hx] using h)
  | templatized base arguments => exact layoutTemplatized_congr (by simpa only [hx] using h)
  | function f =>
      by_cases hbare : f.isBare
      · simp only [hbare, if_true]
      · simp only [hx, hbare, Bool.false_eq_true, if_false, List.mem_append, or_imp,
          forall_and] at h ⊢
        obtain ⟨⟨hcontext, hparameters⟩, hresult⟩ := h
        refine layoutFunction_congr hcontext (List.map_congr_left fun p hp => ?_) hresult
        rw [layoutParameterType_congr fun y hy => hparameters y (List.mem_flatMap.2 ⟨p, hp, hy⟩)]
  | _ => rfl

theorem layoutNode_congr (h : ∀ y ∈ g.shownParts mode path x, sub y = sub' y) :
    g.layoutNode mode path sub x = g.layoutNode mode path sub' x := by
  cases mode with
  | resolved => exact layoutResolved_congr h
  | declared => exact layoutDeclared_congr h

/-! ## Paths -/

theorem layoutUnion_path {withoutVoid : Bool}
    (h : ∀ z, g.Reaches .resolved u z → (z ∈ path ↔ z ∈ path')) :
    g.layoutUnion path sub withoutVoid u = g.layoutUnion path' sub withoutVoid u := by
  have hflat : g.flatten (u :: path) u = g.flatten (u :: path') u :=
    flatten_congr fun z hz => by simp only [List.mem_cons, h z hz]
  rw [layoutUnion, layoutUnion, hflat]

theorem layoutResolved_path (h : ∀ z, g.Reaches .resolved x z → (z ∈ path ↔ z ∈ path')) :
    g.layoutResolved path sub x = g.layoutResolved path' sub x := by
  unfold layoutResolved
  cases hx : g.shape x with
  | union alternates => exact layoutUnion_path h
  | function f =>
      by_cases hbare : f.isBare
      · simp only [hbare, if_true]
      · simp only [hbare]
        refine layoutFunction_congr (fun _ _ => rfl) (List.map_congr_left fun p hp => ?_)
          fun _ _ => rfl
        have hpart : g.Reaches .resolved x p.type :=
          .of_mem_parts (by simp [parts_of_function hx hbare, List.mem_map_of_mem hp])
        rw [layoutParameterType, layoutParameterType,
          layoutUnion_path fun z hz => h z (hpart.trans hz)]
  | _ => rfl

theorem layoutNode_path (h : ∀ z, g.Reaches mode x z → (z ∈ path ↔ z ∈ path')) :
    g.layoutNode mode path sub x = g.layoutNode mode path' sub x := by
  cases mode with
  | resolved => exact layoutResolved_path h
  | declared => rfl

end Congruence

theorem layoutVia_congr {visit visit' : ι → Layout}
    (h : ∀ y, g.Reaches mode x y → visit y = visit' y) :
    g.layoutVia mode visit x = g.layoutVia mode visit' x := by
  unfold layoutVia
  cases hx : g.standIn? mode x with
  | some y => exact h y (reaches_standIn hx)
  | none => rfl

theorem layoutFrom_congr (h : ∀ z, g.Reaches mode x z → (z ∈ path ↔ z ∈ path')) :
    g.layoutFrom mode path x = g.layoutFrom mode path' x := by
  induction path, x using g.path_induction generalizing path' with
  | again path x hmem => rw [g.layoutFrom_of_mem hmem, g.layoutFrom_of_mem ((h x .refl).1 hmem)]
  | enter path x hmem ih =>
      have hcons : ∀ z, g.Reaches mode x z → (z ∈ x :: path ↔ z ∈ x :: path') :=
        fun z hz => by simp only [List.mem_cons, h z hz]
      have hsub : ∀ y ∈ g.shownParts mode (x :: path') x,
          g.layoutAt mode (x :: path) y = g.layoutAt mode (x :: path') y := by
        intro y hy
        refine layoutVia_congr fun v hv => ih v fun z hz => ?_
        exact hcons z (((reaches_shownParts hy).trans hv).trans hz)
      rw [g.layoutFrom_of_not_mem hmem,
        g.layoutFrom_of_not_mem fun hmem' => hmem ((h x .refl).2 hmem'),
        layoutNode_path hcons, layoutNode_congr hsub]

/-- Paths that hold the same of the types that a type reaches give it the same layout. -/
theorem layoutAt_congr (h : ∀ z, g.Reaches mode x z → (z ∈ path ↔ z ∈ path')) :
    g.layoutAt mode path x = g.layoutAt mode path' x :=
  layoutVia_congr fun _ hy => layoutFrom_congr fun z hz => h z (hy.trans hz)

/-- A type that does not contain itself has the same layout wherever it is met. -/
theorem layoutAt_eq_layout (hx : ¬ g.Contains mode x x) (hpath : ∀ p ∈ path, g.Contains mode p x) :
    g.layoutAt mode path x = g.layout mode x :=
  layoutAt_congr fun z hz => by simp [not_mem_of_contains hx hpath hz]

/-! ## On the path and off it -/

theorem standIn_of_not_enum (hx : ∀ y, ¬ g.EnumStep x y) : g.standIn? .resolved x = some x := by
  rw [standIn?, underlying?, endOfChain?, g.walk_of_not_mem (by simp)]
  cases hshape : g.shape x with
  | enumElement name y => exact absurd ⟨name, hshape⟩ (hx y)
  | _ => rfl

theorem layoutAt_of_mem (hx : ∀ y, ¬ g.EnumStep x y) (hmem : x ∈ path) :
    g.layoutAt .resolved path x = g.layoutAgain x := by
  rw [g.layoutAt_of_standIn (standIn_of_not_enum hx), g.layoutFrom_of_mem hmem]

theorem layoutAt_of_not_mem (hx : ∀ y, ¬ g.EnumStep x y) (hmem : x ∉ path) :
    g.layoutAt .resolved path x =
      g.layoutResolved (x :: path) (g.layoutAt .resolved (x :: path)) x := by
  rw [g.layoutAt_of_standIn (standIn_of_not_enum hx), g.layoutFrom_of_not_mem hmem, layoutNode]

/-! ## Unions that are opened -/

omit [DecidableEq ι] in
theorem not_enumStep_of_isUnion (hu : g.isUnion u = true) (y : ι) : ¬ g.EnumStep u y := by
  rintro ⟨name, hshape⟩
  simp [isUnion, hshape, Shape.isUnion] at hu

theorem layoutAt_of_isUnion (hu : g.isUnion u = true) (hmem : u ∉ path) :
    g.layoutAt .resolved path u =
      g.layoutUnion (u :: path) (g.layoutAt .resolved (u :: path)) false u := by
  obtain ⟨alternates, hshape⟩ := exists_union hu
  rw [layoutAt_of_not_mem (not_enumStep_of_isUnion hu) hmem, layoutResolved, hshape]

/-- A union is never opened inside itself, whether it is on the path or not. -/
theorem layoutUnion_cons_self (sub : ι → Layout) (withoutVoid : Bool) :
    g.layoutUnion (u :: path) sub withoutVoid u = g.layoutUnion path sub withoutVoid u := by
  have hflat : g.flatten (u :: u :: path) u = g.flatten (u :: path) u :=
    flatten_congr fun z _ => by simp
  rw [layoutUnion, layoutUnion, hflat]

theorem contains_of_shownAlternates {withoutVoid : Bool} (hu : g.isUnion u = true)
    (hy : y ∈ g.shownAlternates path withoutVoid u) : g.Contains .resolved u y := by
  obtain ⟨z, hz, hzy⟩ := exists_part_of_shownAlternates hu hy
  exact .of_part hz hzy

/-- A union that does not contain itself is laid out alike whether it is put on the path or not. -/
theorem layoutUnion_eq_layoutAt (hu : g.isUnion u = true) (hself : ¬ g.Contains .resolved u u)
    (hmem : u ∉ path) :
    g.layoutUnion path (g.layoutAt .resolved path) false u = g.layoutAt .resolved path u := by
  have hsub : ∀ y ∈ g.shownAlternates path false u,
      g.layoutAt .resolved path y = g.layoutAt .resolved (u :: path) y := by
    intro y hy
    refine layoutAt_congr fun z hz => ?_
    have hne : z ≠ u := by
      rintro rfl
      exact hself ((contains_of_shownAlternates hu hy).of_reaches hz)
    simp [hne]
  rw [layoutAt_of_isUnion hu hmem, layoutUnion_congr hsub, layoutUnion_cons_self]

theorem renderAt_of_isUnion (hu : g.isUnion u = true) (hmem : u ∉ path) :
    g.renderAt .resolved path u =
      g.renderUnion path (g.renderAt .resolved (u :: path)) false u := by
  have hsub : g.renderAt .resolved (u :: path) =
      fun y => (g.layoutAt .resolved (u :: path) y).write :=
    funext (g.renderAt_eq_write .resolved (u :: path))
  rw [hsub, ← write_layoutUnion, ← layoutUnion_cons_self, ← layoutAt_of_isUnion hu hmem,
    renderAt_eq_write]

theorem renderAt_of_isUnion_again (hu : g.isUnion u = true) (hmem : u ∈ path) :
    g.renderAt .resolved path u = g.renderAgain u := by
  rw [renderAt_eq_write, layoutAt_of_mem (not_enumStep_of_isUnion hu) hmem]
  simp [layoutAgain, renderAgain, Piece.write]

theorem renderParameterType_eq_write (path : List ι) (p : Parameter ι) :
    g.renderParameterType path (g.renderAt .resolved path) p =
      (g.layoutParameterType path (g.layoutAt .resolved path) p).write := by
  rw [write_layoutParameterType, ← funext (g.renderAt_eq_write .resolved path)]

/-! ## Visits -/

/-- While `root` is rendered as it was resolved, `x` is visited with the types of a path around
it. -/
inductive Visits (g : TypeGraph ι) (root : ι) : List ι → ι → Prop where
  | root : Visits g root [] root
  | underlying {path : List ι} {x y : ι} (h : Visits g root path x) (hx : g.EnumStep x y) :
      Visits g root path y
  | inside {path : List ι} {x y : ι} (h : Visits g root path x) (hx : ∀ z, ¬ g.EnumStep x z)
      (hnew : x ∉ path) (hy : y ∈ g.shownParts .resolved (x :: path) x) :
      Visits g root (x :: path) y

/-- While `root` is rendered as it was resolved, the function at the end of a path comes to its
parameter `p`. -/
inductive MeetsParameter (g : TypeGraph ι) (root : ι) : List ι → Parameter ι → Prop where
  | of_visits {path : List ι} {x : ι} {f : Signature ι} {p : Parameter ι}
      (h : g.Visits root path x) (hnew : x ∉ path) (hx : g.shape x = .function f)
      (hbare : f.isBare = false) (hp : p ∈ f.parameters) :
      MeetsParameter g root (x :: path) p

variable {root : ι}

theorem Visits.contains (h : g.Visits root path x) : ∀ p ∈ path, g.Contains .resolved p x := by
  induction h with
  | root => simp
  | underlying _ hx ih =>
      obtain ⟨name, hshape⟩ := hx
      exact fun p hp => (ih p hp).tail (by simp [parts, hshape])
  | inside _ _ _ hy ih =>
      obtain ⟨z, hz, hzy⟩ := exists_part_of_shownParts hy
      intro p hp
      rcases List.mem_cons.1 hp with rfl | hp
      · exact .of_part hz hzy
      · exact (ih p hp).of_reaches ((Reaches.of_mem_parts hz).trans hzy)

theorem MeetsParameter.contains {p : Parameter ι} (h : g.MeetsParameter root path p) :
    ∀ q ∈ path, g.Contains .resolved q p.type := by
  cases h with
  | @of_visits path x f _ h _ hx hbare hp =>
      have hpart : p.type ∈ g.parts .resolved x := by
        rw [parts_of_function hx (by simp [hbare])]
        simp [List.mem_map_of_mem hp]
      intro q hq
      rcases List.mem_cons.1 hq with rfl | hq
      · exact .single hpart
      · exact (h.contains q hq).tail hpart

end DocMarkup.TypeGraph
