import DocMarkup.Proofs.TypeExpr.Alike.Walk
import DocMarkup.Proofs.TypeExpr.Outcome

/-!
Types of the same value have the same layout (`TypeGraph.Alike.layout_eq`), and so are formatted
alike, however they share their parts (`TypeGraph.format_eq_of_agree`).
-/

namespace DocMarkup.TypeGraph

open Relation

variable {ι κ : Type} [DecidableEq ι] [DecidableEq κ] {g : TypeGraph ι} {h : TypeGraph κ} {x : ι}
    {y : κ}

/-! ## Parts of layouts -/

section Layouts

variable {R : ι → κ → Prop} {sub : ι → Layout} {sub' : κ → Layout}

omit [DecidableEq ι] [DecidableEq κ]

theorem layoutParameter_eq {p : Parameter ι} {q : Parameter κ} (h : Parameter.Like R p q)
    (type : Layout) :
    layoutParameter type p = layoutParameter type q := by
  rw [layoutParameter, layoutParameter, h.optional, h.variadic]

variable (hsub : ∀ a b, R a b → sub a = sub' b)

include hsub

theorem layoutRecord_eq (fieldName : String → String) {fs : List (Field ι)} {fs' : List (Field κ)}
    (hfs : List.Forall₂ (Field.Like R) fs fs') :
    layoutRecord sub fieldName fs = layoutRecord sub' fieldName fs' := by
  refine congrArg (Layout.enclosed _ _ _) (map_eq_of_forall₂ hfs fun f f' hf => ?_)
  obtain ⟨name, type⟩ := f
  obtain ⟨name', type'⟩ := f'
  obtain ⟨rfl, htype⟩ := hf
  cases htype with
  | some hab => simp [hsub _ _ hab]
  | none => rfl

theorem layoutAlternates_eq {as : List ι} {bs : List κ} (h : List.Forall₂ R as bs) :
    layoutAlternates sub as = layoutAlternates sub' bs :=
  congrArg (Layout.enclosed _ _ _) (map_eq_of_forall₂ h hsub)

theorem layoutTemplatized_eq {a : ι} {b : κ} {as : List ι} {bs : List κ} (h : R a b)
    (hs : List.Forall₂ R as bs) :
    layoutTemplatized sub a as = layoutTemplatized sub' b bs := by
  rw [layoutTemplatized, layoutTemplatized, hsub _ _ h, map_eq_of_forall₂ hs hsub]

theorem layoutShown_eq {as : List ι} {bs : List κ} (h : List.Forall₂ R as bs) :
    layoutShown sub as = layoutShown sub' bs := by
  cases h with
  | nil => rfl
  | cons hab h =>
      cases h with
      | nil => exact hsub _ _ hab
      | cons hcd h => exact layoutAlternates_eq hsub (.cons hab (.cons hcd h))

theorem layoutFunction_eq {s : Signature ι} {t : Signature κ} (h : Signature.Like R s t)
    {context : Option ι} {context' : Option κ} (hcontext : Option.Rel R context context')
    {parameters parameters' : List Layout} (hparameters : parameters = parameters') :
    layoutFunction sub s context parameters = layoutFunction sub' t context' parameters' := by
  have hlabel : s.contextLabel = t.contextLabel := by
    rw [Signature.contextLabel, Signature.contextLabel, h.isConstructor]
  have hresult := h.result
  unfold layoutFunction layoutContext
  rw [hlabel, hparameters]
  generalize s.result = result at hresult ⊢
  generalize t.result = result' at hresult ⊢
  congr 1
  · cases hcontext with
    | none => rfl
    | some hab => simp [hsub _ _ hab]
  · cases hresult with
    | none => rfl
    | some hab => simp [hsub _ _ hab]

end Layouts

/-! ## Layouts of types -/

namespace Alike

variable {sub : ι → Layout} {sub' : κ → Layout} {path : List ι} {path' : List κ}

theorem layoutVia_eq (hxy : g.Alike h x y) (mode : Mode) {visit : ι → Layout} {visit' : κ → Layout}
    (hvisit : ∀ a b, g.AlikeIn h x y a b → visit a = visit' b) :
    g.layoutVia mode visit x = h.layoutVia mode visit' y := by
  have hrel := hxy.standIn mode
  unfold layoutVia
  generalize g.standIn? mode x = o at hrel ⊢
  generalize h.standIn? mode y = p at hrel ⊢
  cases hrel with
  | some hab => exact hvisit _ _ hab
  | none => rfl

theorem layoutUnion_eq (hxy : g.Alike h x y) (hx : g.isUnion x = true) (withoutVoid : Bool)
    (hpath : ∀ p ∈ path, ReflTransGen g.Inside p x)
    (hpath' : ∀ p ∈ path', ReflTransGen h.Inside p y)
    (hsub : ∀ a b, g.AlikeBelow h x y a b → sub a = sub' b) :
    g.layoutUnion path sub withoutVoid x = h.layoutUnion path' sub' withoutVoid y := by
  have hflat :=
    hxy.flatten hx (List.forall_mem_cons.2 ⟨.refl, hpath⟩) (List.forall_mem_cons.2 ⟨.refl, hpath'⟩)
  have hkept : List.Forall₂ (g.AlikeBelow h x y)
      (g.keptAlternates withoutVoid (g.flatten (x :: path) x).alternates)
      (h.keptAlternates withoutVoid (h.flatten (y :: path') y).alternates) := by
    refine List.rel_filter (fun a b hab => ?_) hflat.alternates
    simp only [isNull, isVoid, hab.1.like.isPrimitive_eq]
  simp only [layoutUnion, hkept.length_eq, hflat.alternates.length_eq, hflat.nullable,
    isEmpty_eq_of_forall₂ hkept]
  congr 1
  split
  · exact layoutShown_eq hsub hflat.alternates
  · exact layoutShown_eq hsub hkept

theorem layoutParameterType_eq {p : Parameter ι} {q : Parameter κ}
    (hpq : Parameter.Like (g.AlikeBelow h x y) p q) (hpath : ∀ p ∈ path, ReflTransGen g.Inside p x)
    (hpath' : ∀ p ∈ path', ReflTransGen h.Inside p y)
    (hsub : ∀ a b, g.AlikeBelow h x y a b → sub a = sub' b) :
    g.layoutParameterType path sub p = h.layoutParameterType path' sub' q := by
  have hunion : g.isUnion p.type = h.isUnion q.type := hpq.type.1.like.isUnion_eq
  unfold layoutParameterType
  rw [← hunion, ← hpq.optional]
  split
  next hp =>
    refine hpq.type.1.layoutUnion_eq hp _ ?_ ?_ fun a b hab =>
      hsub a b (hpq.type.trans hab.toAlikeIn)
    · exact fun z hz => (hpath z hz).trans hpq.type.2.1.to_reflTransGen
    · exact fun z hz => (hpath' z hz).trans hpq.type.2.2.to_reflTransGen
  next => exact hsub _ _ hpq.type

omit [DecidableEq κ] in
theorem shownContext {s : Signature ι} {t : Signature κ}
    (hst : Signature.Like (g.AlikeBelow h x y) s t) :
    Option.Rel (g.AlikeBelow h x y) (g.shownContext s) (h.shownContext t) := by
  have hcontext := hst.context
  unfold TypeGraph.shownContext
  rw [← hst.isConstructor]
  generalize s.context = o at hcontext ⊢
  generalize t.context = p at hcontext ⊢
  cases hcontext with
  | none => exact .none
  | @some a b hab =>
      have hunknown : g.isUnknown a = h.isUnknown b := hab.1.like.isPrimitive_eq .unknown
      rw [Option.filter_some, Option.filter_some, hunknown]
      split
      · exact .some hab
      · exact .none

theorem layoutResolved_eq (hxy : g.Alike h x y) (hpath : ∀ p ∈ path, ReflTransGen g.Inside p x)
    (hpath' : ∀ p ∈ path', ReflTransGen h.Inside p y)
    (hsub : ∀ a b, g.AlikeBelow h x y a b → sub a = sub' b) :
    g.layoutResolved path sub x = h.layoutResolved path' sub' y := by
  have hlike := hxy.below
  have hstray := hxy.not_stray
  have hunion : g.isUnion x = true → g.layoutUnion path sub false x =
      h.layoutUnion path' sub' false y :=
    fun hx => hxy.layoutUnion_eq hx false hpath hpath' hsub
  unfold TypeGraph.isUnion at hunion
  unfold layoutResolved
  generalize g.shape x = s at hlike hstray hunion ⊢
  generalize h.shape y = t at hlike ⊢
  cases hlike with
  | primitive kind => rfl
  | named name => rfl
  | instanceOf name => rfl
  | template name => rfl
  | enumElement name hab => exact hsub _ _ hab
  | @function f f' hff' =>
      have hparameters :
          (f.parameters.map fun p => layoutParameter (g.layoutParameterType path sub p) p) =
            f'.parameters.map fun p => layoutParameter (h.layoutParameterType path' sub' p) p :=
        map_eq_of_forall₂ hff'.parameters fun p q hpq => by
          rw [layoutParameterType_eq hpq hpath hpath' hsub, layoutParameter_eq hpq]
      simp only [hff'.isBare_eq, layoutFunction_eq hsub hff' (shownContext hff') hparameters]
  | union halternates => exact hunion rfl
  | record hfs => exact layoutRecord_eq hsub id hfs
  | templatized hab hs => exact layoutTemplatized_eq hsub hab hs
  | nullable hab => simp only [hab.1.isNullable_eq, hsub _ _ hab]
  | nonNullable hab => exact hsub _ _ hab
  | noType => rfl
  | noObject => rfl
  | strayValue _ => cases hstray
  | strayParameter _ => cases hstray
  | strayField _ => cases hstray

theorem layoutDeclared_eq (hxy : g.Alike h x y)
    (hsub : ∀ a b, g.AlikeBelow h x y a b → sub a = sub' b) :
    g.layoutDeclared sub x = h.layoutDeclared sub' y := by
  have hlike := hxy.below
  have hstray := hxy.not_stray
  unfold layoutDeclared
  generalize g.shape x = s at hlike hstray ⊢
  generalize h.shape y = t at hlike ⊢
  cases hlike with
  | primitive kind => cases kind <;> rfl
  | named name => rfl
  | instanceOf name => rfl
  | template name => rfl
  | enumElement name _ => rfl
  | @function f f' hff' =>
      have hparameters : (f.parameters.map fun p => layoutParameter (sub p.type) p) =
          f'.parameters.map fun p => layoutParameter (sub' p.type) p :=
        map_eq_of_forall₂ hff'.parameters fun p q hpq => by
          rw [hsub _ _ hpq.type, layoutParameter_eq hpq]
      simp only [hff'.isBare_eq, layoutFunction_eq hsub hff' hff'.context hparameters]
  | union halternates => exact layoutAlternates_eq hsub halternates
  | record hfs => exact layoutRecord_eq hsub unquotedName hfs
  | templatized hab hs => exact layoutTemplatized_eq hsub hab hs
  | nullable hab => simp only [hsub _ _ hab]
  | nonNullable hab => simp only [hsub _ _ hab]
  | noType => rfl
  | noObject => rfl
  | strayValue _ => cases hstray
  | strayParameter _ => cases hstray
  | strayField _ => cases hstray

/-- Types that are alike have the same layout. -/
theorem layout_eq (hxy : g.Alike h x y) (mode : Mode) : g.layout mode x = h.layout mode y := by
  refine hxy.layoutVia_eq mode fun a b hab => ?_
  refine hab.1.walk (R := fun _ _ l l' => l = l') ?_ (by simp [LeadsTo]) (by simp [LeadsTo])
  intro path path' visit visit' x y hxy hpath hpath' hvisit
  have hsub : ∀ a b, g.AlikeBelow h x y a b →
      g.layoutVia mode visit a = h.layoutVia mode visit' b :=
    fun a b hab => hab.1.layoutVia_eq mode fun c d hcd => hvisit c d (hab.trans hcd)
  cases mode with
  | declared => exact hxy.layoutDeclared_eq hsub
  | resolved =>
      refine hxy.layoutResolved_eq ?_ ?_ hsub
      · exact List.forall_mem_cons.2 ⟨.refl, fun p hp => (hpath p hp).to_reflTransGen⟩
      · exact List.forall_mem_cons.2 ⟨.refl, fun p hp => (hpath' p hp).to_reflTransGen⟩

end Alike

/-! ## Formatting -/

/-- Types of the same value that are built of types only are formatted to the same result, and the
same happens meanwhile, whatever parts each of them shares. -/
theorem format_eq_of_agree (g : TypeGraph ι) (h : TypeGraph κ) {x : ι} {y : κ}
    (hagree : g.agree h x y = true) (hproper : g.IsProper x) (mode : Mode) (r : LinkResolver) :
    g.format mode r (some x) = h.format mode r (some y) ∧
      g.formatEvents mode r (some x) = h.formatEvents mode r (some y) := by
  have hxy : g.Alike h x y := ⟨⟨[], hagree⟩, hproper⟩
  rw [format_eq_comment, format_eq_comment, formatEvents_eq_events, formatEvents_eq_events,
    hxy.layout_eq mode]
  exact ⟨rfl, rfl⟩

theorem shared_isProper : shared.IsProper 0 := by
  have hstray : ∀ z, (shared.shape z).isStray = false := by decide
  exact fun z _ => hstray z

theorem format_eq_of_agree_shared :
    shared.agree unshared 0 0 = true ∧ shared.IsProper 0 ∧ ∀ mode r,
      shared.format mode r (some 0) = unshared.format mode r (some 0) ∧
        shared.formatEvents mode r (some 0) = unshared.formatEvents mode r (some 0) := by
  have hagree : shared.agree unshared 0 0 = true := by decide +kernel
  exact ⟨hagree, shared_isProper, format_eq_of_agree shared unshared hagree shared_isProper⟩

end DocMarkup.TypeGraph
