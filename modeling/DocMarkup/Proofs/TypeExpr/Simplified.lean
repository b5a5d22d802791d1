import DocMarkup.Proofs.TypeExpr.Alike.Walk
import DocMarkup.Proofs.TypeExpr.Failure
import DocMarkup.Proofs.TypeExpr.Flattening
import DocMarkup.Proofs.TypeExpr.Wording

/-!
Types in which there is nothing to simplify. Functions, unions, marks and primitives are laid out in
one way where types are resolved and in another where they are declared; without links the two
layouts of such a type are the same (`TypeGraph.IsSimple.unlinked_layout`). Main statement: if such
a type is formatted as it was resolved, it reads as it was declared (`TypeGraph.text_declared`).
-/

namespace DocMarkup

/-! ## Types that are simplified -/

/-- A name of two characters or more that begins with a quote. -/
def Field.isQuoted {ι : Type} (f : Field ι) : Bool :=
  2 ≤ f.name.length && (f.name.toList.head? == some '\'' || f.name.toList.head? == some '"')

theorem unquotedName_eq_self {ι : Type} {f : Field ι} (h : f.isQuoted = false) :
    unquotedName f.name = f.name := by
  unfold unquotedName
  split
  · rename_i first c cs hname
    have hlength : 2 ≤ f.name.length := by
      rw [← String.length_toList, hname]
      simp
    have hfirst : (first == '\'' || first == '"') = false := by
      simpa [Field.isQuoted, hlength, hname] using h
    simp [hfirst]
  · rfl

namespace TypeGraph

open Relation Layout

variable {ι : Type} [DecidableEq ι]

/-- A type of which nothing is left out or changed where it is resolved, whatever is in it. -/
def isSimplified (g : TypeGraph ι) (x : ι) : Bool :=
  match g.shape x with
  | .primitive kind => kind != .void
  | .enumElement _ _ => false
  | .nonNullable _ => false
  | .nullable operand => !g.isNullable operand
  | .union alternates =>
    alternates.length != 1 && alternates.all fun y => !g.isUnion y && !g.isNullable y
  | .record fields => fields.all fun f => !f.isQuoted
  | .function s => s.isConstructor || s.context.all fun y => !g.isUnknown y
  | _ => true

/-- A type that contains itself nowhere, and is simplified through and through. -/
structure IsSimple (g : TypeGraph ι) (x : ι) : Prop where
  acyclic : ∀ y, ReflTransGen g.Inside x y → ¬ TransGen g.Inside y y
  simplified : ∀ y, ReflTransGen g.Inside x y → g.isSimplified y = true

/-- The types inside a type have the same layouts in two ways of laying them out, but for links. A
union may also stand for its alternates in the first way, because a union that is a parameter is
opened there. -/
structure Matches (g : TypeGraph ι) (x : ι) (sub sub' : ι → Layout) : Prop where
  type : ∀ y, g.Inside x y → unlinked (sub y) = unlinked (sub' y)
  union : ∀ u alternates, g.Inside x u → g.shape u = .union alternates →
    unlinked (layoutAlternates sub alternates) = unlinked (sub' u)

namespace IsSimple

variable {g : TypeGraph ι} {x y u : ι} {path : List ι} {sub sub' : ι → Layout} {alternates : List ι}

theorem inside (hx : g.IsSimple x) (hy : TransGen g.Inside x y) : g.IsSimple y where
  acyclic z hz := hx.acyclic z (hy.to_reflTransGen.trans hz)
  simplified z hz := hx.simplified z (hy.to_reflTransGen.trans hz)

theorem not_mem (hx : g.IsSimple x) (hpath : g.LeadsTo path x) : x ∉ path :=
  fun hmem => hx.acyclic x .refl (hpath x hmem)

theorem standIn (hx : g.IsSimple x) (mode : Mode) : g.standIn? mode x = some x := by
  have hsimplified := hx.simplified x .refl
  cases mode with
  | declared => rfl
  | resolved =>
      rw [standIn?, underlying?, endOfChain?, g.walk_of_not_mem (by simp)]
      cases hshape : g.shape x with
      | enumElement name z => simp [isSimplified, hshape] at hsimplified
      | _ => rfl

theorem layoutAt_eq (hx : g.IsSimple x) (hpath : g.LeadsTo path x) (mode : Mode) :
    g.layoutAt mode path x = g.layoutNode mode (x :: path) (g.layoutAt mode (x :: path)) x := by
  rw [g.layoutAt_of_standIn (hx.standIn mode), g.layoutFrom_of_not_mem (hx.not_mem hpath)]

/-! ## Unions -/

theorem flat (hu : g.IsSimple u) (hshape : g.shape u = .union alternates) :
    alternates.length ≠ 1 ∧ ∀ y ∈ alternates, g.isUnion y = false ∧ g.isNullable y = false := by
  simpa [isSimplified, hshape] using hu.simplified u .refl

/-- Neither null nor the undefined type is among the alternates. -/
theorem keptAlternates_eq (hu : g.IsSimple u) (hshape : g.shape u = .union alternates)
    (withoutVoid : Bool) :
    g.keptAlternates withoutVoid alternates = alternates := by
  refine List.filter_eq_self.2 fun y hy => ?_
  have hinside : g.Inside u y := by simpa [Inside, hshape, Shape.inner] using hy
  have hsimplified := hu.simplified y (.single hinside)
  have hnullable :=
    (isNullable_of_not_union ((hu.flat hshape).2 y hy).1).symm.trans ((hu.flat hshape).2 y hy).2
  unfold isSimplified at hsimplified
  unfold isOpenlyNullable at hnullable
  unfold isNull isVoid
  cases hy : g.shape y with
  | primitive kind => cases kind <;> simp_all [PrimitiveKind.isNullable, Shape.isPrimitive]
  | _ => simp [Shape.isPrimitive]

theorem layoutUnion_eq (hu : g.IsSimple u) (hshape : g.shape u = .union alternates)
    (withoutVoid : Bool) :
    g.layoutUnion path sub withoutVoid u = layoutAlternates sub alternates := by
  obtain ⟨hlength, hflat⟩ := hu.flat hshape
  have hshown : layoutShown sub alternates = layoutAlternates sub alternates := by
    match alternates with
    | [] => rfl
    | [y] => simp at hlength
    | y :: z :: alternates => rfl
  simp [layoutUnion, flatten_eq_self hshape hflat, hu.keptAlternates_eq hshape, hshown]

/-! ## The two layouts -/

theorem unlinked_record (hx : g.IsSimple x) (hsub : Matches g x sub sub') {fields : List (Field ι)}
    (hshape : g.shape x = .record fields) :
    unlinked (layoutRecord sub id fields) = unlinked (layoutRecord sub' unquotedName fields) := by
  have hnames : ∀ f ∈ fields, f.isQuoted = false := by
    simpa [isSimplified, hshape] using hx.simplified x .refl
  rw [unlinked_layoutRecord, unlinked_layoutRecord]
  refine congrArg (enclosed _ _ _) (List.map_congr_left fun f hf => ?_)
  rw [unquotedName_eq_self (hnames f hf), id]
  cases htype : f.type with
  | none => rfl
  | some y =>
      have hy : g.Inside x y := by
        simp only [Inside, hshape, Shape.inner, List.mem_filterMap]
        exact ⟨f, hf, htype⟩
      simp only [hsub.type y hy]

theorem unlinked_parameter (hx : g.IsSimple x) (hsub : Matches g x sub sub') {p : Parameter ι}
    (hp : g.Inside x p.type) :
    unlinked (layoutParameter (g.layoutParameterType path sub p) p) =
      unlinked (layoutParameter (sub' p.type) p) := by
  rw [unlinked_layoutParameter, unlinked_layoutParameter, layoutParameterType]
  congr 1
  split
  · rename_i hunion
    obtain ⟨alternates, hshape⟩ := exists_union hunion
    rw [(hx.inside (.single hp)).layoutUnion_eq hshape, hsub.union _ _ hp hshape]
  · exact hsub.type _ hp

theorem shownContext_eq (hx : g.IsSimple x) {s : Signature ι} (hshape : g.shape x = .function s) :
    g.shownContext s = s.context := by
  have hcontext : s.isConstructor = true ∨ s.context.all (fun y => !g.isUnknown y) = true := by
    simpa [isSimplified, hshape] using hx.simplified x .refl
  unfold shownContext
  cases hc : s.context with
  | none => rfl
  | some y =>
      rw [hc] at hcontext
      rw [Option.filter_some, if_pos]
      simpa using hcontext

theorem unlinked_function (hx : g.IsSimple x) (hsub : Matches g x sub sub') {s : Signature ι}
    (hshape : g.shape x = .function s) :
    unlinked (layoutFunction sub s (g.shownContext s)
        (s.parameters.map fun p => layoutParameter (g.layoutParameterType path sub p) p)) =
      unlinked (layoutFunction sub' s s.context
        (s.parameters.map fun p => layoutParameter (sub' p.type) p)) := by
  have hinner : ∀ y ∈ s.parameters.map (·.type) ++ s.result.toList ++ s.context.toList,
      g.Inside x y := by
    intro y hy
    rwa [Inside, hshape]
  simp only [List.mem_append, Option.mem_toList, or_imp, forall_and] at hinner
  obtain ⟨⟨hparameters, hresult⟩, hcontext⟩ := hinner
  rw [hx.shownContext_eq hshape, unlinked_layoutFunction, unlinked_layoutFunction, List.map_map,
    List.map_map]
  have hlist :
      s.parameters.map (unlinked ∘ fun p => layoutParameter (g.layoutParameterType path sub p) p) =
        s.parameters.map (unlinked ∘ fun p => layoutParameter (sub' p.type) p) :=
    List.map_congr_left fun p hp =>
      hx.unlinked_parameter hsub (hparameters _ (List.mem_map_of_mem hp))
  rw [hlist, layoutFunction, layoutFunction]
  congr 1
  · congr 2
    cases hc : s.context with
    | none => rfl
    | some y => simp [layoutContext, hsub.type y (hcontext y hc)]
  · cases hr : s.result with
    | none => rfl
    | some y => simp [hsub.type y (hresult y hr)]

theorem unlinked_layoutResolved (hx : g.IsSimple x) (hsub : Matches g x sub sub') :
    unlinked (g.layoutResolved path sub x) = unlinked (g.layoutDeclared sub' x) := by
  have hsimplified := hx.simplified x .refl
  have hinside : ∀ y ∈ (g.shape x).inner, unlinked (sub y) = unlinked (sub' y) :=
    fun y hy => hsub.type y hy
  unfold layoutResolved layoutDeclared
  cases hshape : g.shape x with
  | primitive kind =>
      cases kind <;> simp_all [isSimplified, PrimitiveKind.isNative, unlinked, Piece.unlinked]
  | named name => rfl
  | instanceOf name => rfl
  | enumElement name underlying => simp [isSimplified, hshape] at hsimplified
  | template name => rfl
  | nullable operand =>
      have hoperand : g.isNullable operand = false := by
        simpa [isSimplified, hshape] using hsimplified
      simp [hoperand, hinside operand (by simp [hshape, Shape.inner])]
  | nonNullable operand => simp [isSimplified, hshape] at hsimplified
  | union alternates =>
      simp only [hx.layoutUnion_eq hshape]
      rw [unlinked_layoutAlternates, unlinked_layoutAlternates]
      refine congrArg (enclosed _ _ _) (List.map_congr_left fun y hy => hinside y ?_)
      simpa [hshape, Shape.inner] using hy
  | record fields => exact hx.unlinked_record hsub hshape
  | templatized base arguments =>
      have hbase := hinside base (by simp [hshape, Shape.inner])
      have harguments :
          arguments.map (fun y => unlinked (sub y)) = arguments.map fun y => unlinked (sub' y) :=
        List.map_congr_left fun y hy => hinside y (by simp [hshape, Shape.inner, hy])
      rw [unlinked_layoutTemplatized, unlinked_layoutTemplatized]
      simp only [layoutTemplatized, hbase, harguments]
  | function s =>
      by_cases hbare : s.isBare
      · simp [hbare, unlinked, Piece.unlinked]
      · simp only [hbare]
        exact hx.unlinked_function hsub hshape
  | noType => rfl
  | noObject => rfl
  | stray value => rfl

theorem unlinked_layoutAt (path : List ι) (x : ι) (path' : List ι) (hx : g.IsSimple x)
    (hpath : g.LeadsTo path x) (hpath' : g.LeadsTo path' x) :
    unlinked (g.layoutAt .resolved path x) = unlinked (g.layoutAt .declared path' x) := by
  -- the paths differ below a parameter that is a union, which is on the path only where it is
  -- declared
  induction path, x using g.path_induction generalizing path' with
  | again path x hmem => exact absurd hmem (hx.not_mem hpath)
  | enter path x hmem ih =>
      rw [hx.layoutAt_eq hpath, hx.layoutAt_eq hpath']
      refine hx.unlinked_layoutResolved ⟨fun y hy => ?_, fun u alternates hu hshape => ?_⟩
      · exact ih y (x :: path') (hx.inside (.single hy)) (hpath.cons (.single hy))
          (hpath'.cons (.single hy))
      · have hsimple : g.IsSimple u := hx.inside (.single hu)
        have hdeclared : g.layoutAt .declared (x :: path') u =
            layoutAlternates (g.layoutAt .declared (u :: x :: path')) alternates := by
          rw [hsimple.layoutAt_eq (hpath'.cons (.single hu)), layoutNode, layoutDeclared, hshape]
        rw [hdeclared, unlinked_layoutAlternates, unlinked_layoutAlternates]
        refine congrArg (enclosed _ _ _) (List.map_congr_left fun y hy => ?_)
        have hinside : g.Inside u y := by simpa [Inside, hshape, Shape.inner] using hy
        exact ih y (u :: x :: path') (hsimple.inside (.single hinside))
          (hpath.cons (.tail (.single hu) hinside))
          ((hpath'.cons (.single hu)).cons (.single hinside))

theorem unlinked_layout (hx : g.IsSimple x) :
    unlinked (g.layout .resolved x) = unlinked (g.layout .declared x) :=
  unlinked_layoutAt [] x [] hx (by simp [LeadsTo]) (by simp [LeadsTo])

end IsSimple

/-! ## Formatting -/

/-- A declared type needs no name to be found. -/
theorem required_not_mem_declared (g : TypeGraph ι) (x : ι) (n : String) :
    Piece.name .required n ∉ g.layout .declared x := by
  intro hn
  obtain ⟨y, _, hy⟩ := exists_ownRisks (fun h => by cases h) (mem_risks.2 ⟨hn, rfl⟩)
  unfold ownRisks at hy
  cases hshape : g.shape y <;> simp [hshape] at hy

/-- A type in which there is nothing to simplify reads as it was declared if it is formatted as it
was resolved, whatever its names link to. -/
theorem text_declared (g : TypeGraph ι) {x : ι} (hx : g.IsSimple x) {r : LinkResolver} {c : Comment}
    (h : g.format .resolved r (some x) = .ok c) :
    ∃ c', g.format .declared r (some x) = .ok c' ∧ c'.text = c.text := by
  rw [format_eq_comment] at h ⊢
  obtain ⟨htext, hno⟩ := text_of_comment h
  have hsame := hx.unlinked_layout
  have hfound : ∀ n, Piece.name .required n ∈ g.layout .declared x → (r.resolveExternal n).isSome :=
    fun n hn => absurd hn (g.required_not_mem_declared x n)
  rcases comment_cases hfound with ⟨c', hc', _⟩ | ⟨cause, _, hmem⟩
  · refine ⟨c', hc', ?_⟩
    rw [(text_of_comment hc').1, htext, ← wording_unlinked, ← hsame, wording_unlinked]
  · -- what cannot be shown as declared cannot be shown as resolved either
    rw [← fail_mem_unlinked, ← hsame, fail_mem_unlinked] at hmem
    exact absurd hmem (hno cause)

omit [DecidableEq ι] in
/-- No type contains itself if the types inside a type always rank higher. -/
theorem not_inside_self_of_rank {g : TypeGraph ι} (rank : ι → Nat)
    (h : ∀ x y, g.Inside x y → rank x < rank y) (x : ι) :
    ¬ TransGen g.Inside x x := by
  have hlt : ∀ {y}, TransGen g.Inside x y → rank x < rank y := by
    intro y hy
    induction hy with
    | single hstep => exact h _ _ hstep
    | tail _ hstep ih => exact Nat.lt_trans ih (h _ _ hstep)
  exact fun hx => Nat.lt_irrefl _ (hlt hx)

/-- A constructor of an unknown type, with a union and a marked type as parameters. -/
def builder : TypeGraph (Fin 9) where
  shape
    | 0 => .function {
        parameters := [{ type := 1, optional := true }, { type := 2, variadic := true }]
        result := some 3
        context := some 4
        isConstructor := true }
    | 1 => .union [6, 7]
    | 2 => .nullable 6
    | 3 => .record [{ name := "a'", type := some 5 }, { name := "'" }]
    | 4 => .primitive .unknown
    | 5 => .templatized 8 [7, 6]
    | 6 => .primitive .string
    | 7 => .template "T"
    | 8 => .named "Map"
  nodes := List.finRange 9
  mem_nodes := List.mem_finRange

theorem builder_isSimple : builder.IsSimple 0 := by
  have hrank : ∀ x y, builder.Inside x y → x.val < y.val := by
    unfold Inside
    decide +kernel
  have hsimplified : ∀ y, builder.isSimplified y = true := by decide +kernel
  exact ⟨fun y _ => not_inside_self_of_rank Fin.val hrank y, fun y _ => hsimplified y⟩

def builderPages : LinkResolver := .ofLists [("Map", "map.html")] [("string", "string.html")]

theorem text_declared_builder :
    builder.IsSimple 0 ∧ ∃ c c',
      builder.format .resolved builderPages (some 0) = .ok c ∧
        builder.format .declared builderPages (some 0) = .ok c' ∧
        c'.text = c.text ∧
        c.text = "function(new: ?, (string|T)=, ...?string): \x7ba': Map<T, string>, ': ?\x7d" := by
  have hc : builder.format .resolved builderPages (some 0) = .ok ⟨[
      { text := "function(new: ?, (", style := .literal },
      { text := "string", href := some "string.html" },
      { text := "|T)=, ...?", style := .literal }, { text := "string", href := some "string.html" },
      { text := "): \x7ba': ", style := .literal }, { text := "Map", href := some "map.html" },
      { text := "<T, ", style := .literal }, { text := "string", href := some "string.html" },
      { text := ">, ': ?\x7d", style := .literal }]⟩ := by decide +kernel
  obtain ⟨c', hc', htext⟩ := text_declared builder builder_isSimple hc
  exact ⟨builder_isSimple, _, c', hc, hc', htext, by decide⟩

end TypeGraph

end DocMarkup
