import DocMarkup.Proofs.TypeExpr.Layout
import DocMarkup.Proofs.TypeExpr.Reach

/-!
The pieces of a layout that can fail. Those of a type are its own and those of the types rendered
inside it (`TypeGraph.risks_layoutNode`), so that they come from the types that it reaches
(`TypeGraph.exists_ownRisks`), and every invalid type that it reaches gives one
(`TypeGraph.exists_fail`).
-/

namespace DocMarkup

/-- The pieces that can make a layout fail. -/
def Piece.isRisk : Piece → Bool
  | .fail _ => true
  | .name .required _ => true
  | _ => false

namespace Layout

def risks (l : Layout) : Layout := l.filter Piece.isRisk

@[simp] theorem risks_nil : risks [] = [] := rfl

@[simp] theorem risks_text (t : String) (l : Layout) : risks (.text t :: l) = risks l := rfl

@[simp] theorem risks_note (n : Note) (l : Layout) : risks (.note n :: l) = risks l := rfl

@[simp] theorem risks_append (l l' : Layout) : risks (l ++ l') = risks l ++ risks l' :=
  List.filter_append l l'

theorem risks_flatMap {α : Type} (xs : List α) (f : α → Layout) :
    risks (xs.flatMap f) = xs.flatMap fun x => risks (f x) :=
  List.filter_flatMap

theorem risks_separated (separator : String) (parts : List Layout) :
    risks (separated separator parts) = parts.flatMap risks := by
  cases parts with
  | nil => rfl
  | cons part parts => simp [separated_cons, risks_flatMap]

@[simp] theorem risks_enclosed (left separator right : String) (parts : List Layout) :
    risks (enclosed left separator right parts) = parts.flatMap risks := by
  simp [enclosed, risks_separated]

theorem mem_risks {p : Piece} {l : Layout} : p ∈ risks l ↔ p ∈ l ∧ p.isRisk = true :=
  List.mem_filter

end Layout

namespace TypeGraph

open Layout

variable {ι : Type} {g : TypeGraph ι} {mode : Mode} {path : List ι} {sub : ι → Layout} {x : ι}

/-! ## What is rendered inside a type -/

section Shown

variable [DecidableEq ι]

def shownAlternates (g : TypeGraph ι) (path : List ι) (withoutVoid : Bool) (u : ι) : List ι :=
  let flat := (g.flatten (u :: path) u).alternates
  let kept := g.keptAlternates withoutVoid flat
  if kept.isEmpty then flat else kept

def shownParameter (g : TypeGraph ι) (path : List ι) (p : Parameter ι) : List ι :=
  if g.isUnion p.type then g.shownAlternates path p.optional p.type else [p.type]

/-- The types that are rendered inside a type, in their order. -/
def shownParts (g : TypeGraph ι) (mode : Mode) (path : List ι) (x : ι) : List ι :=
  match mode, g.shape x with
  | .resolved, .union _ => g.shownAlternates path false x
  | .resolved, .function f =>
    if f.isBare then []
    else (g.shownContext f).toList ++ f.parameters.flatMap (g.shownParameter path) ++
      f.result.toList
  | .declared, .function f =>
    if f.isBare then [] else f.context.toList ++ f.parameters.map (·.type) ++ f.result.toList
  | mode, _ => g.parts mode x

/-- The pieces that can fail in a type itself. -/
def ownRisks (g : TypeGraph ι) (mode : Mode) (x : ι) : Layout :=
  match g.shape x with
  | .primitive kind => if mode = .resolved ∧ kind.isNative then [.name .required kind.name] else []
  | .noType => [.fail (.placeholder (g.shape x).className)]
  | .noObject => [.fail (.placeholder (g.shape x).className)]
  | .stray _ => [.fail (.stray (g.display x))]
  | _ => []

end Shown

/-! ## The risks of a type -/

theorem risks_layoutRecord (fieldName : String → String) (fields : List (Field ι)) :
    risks (layoutRecord sub fieldName fields) =
      (fields.filterMap (·.type)).flatMap fun y => risks (sub y) := by
  rw [layoutRecord, risks_enclosed]
  induction fields with
  | nil => rfl
  | cons f fields ih =>
      cases hf : f.type with
      | some type => simp [hf, ih]
      | none => simp [hf, ih]

theorem risks_layoutTemplatized (base : ι) (arguments : List ι) :
    risks (layoutTemplatized sub base arguments) =
      (base :: arguments).flatMap fun y => risks (sub y) := by
  simp [layoutTemplatized, List.flatMap_map]

theorem risks_layoutAlternates (alternates : List ι) :
    risks (layoutAlternates sub alternates) = alternates.flatMap fun y => risks (sub y) := by
  simp [layoutAlternates, List.flatMap_map]

theorem risks_layoutShown (alternates : List ι) :
    risks (layoutShown sub alternates) = alternates.flatMap fun y => risks (sub y) := by
  match alternates with
  | [] => exact risks_layoutAlternates []
  | [x] => simp [layoutShown]
  | x :: y :: alternates => exact risks_layoutAlternates (x :: y :: alternates)

theorem risks_layoutParameter (type : Layout) (p : Parameter ι) :
    risks (layoutParameter type p) = risks type := by
  cases hv : p.variadic <;> cases ho : p.optional <;> simp [layoutParameter, hv, ho]

theorem risks_layoutFunction (s : Signature ι) (context : Option ι) (parameters : List Layout) :
    risks (layoutFunction sub s context parameters) =
      context.toList.flatMap (fun y => risks (sub y)) ++ parameters.flatMap risks ++
        s.result.toList.flatMap fun y => risks (sub y) := by
  cases context <;> cases hresult : s.result <;> simp [layoutFunction, layoutContext, hresult]

variable [DecidableEq ι]

theorem risks_layoutUnion (withoutVoid : Bool) (u : ι) :
    risks (g.layoutUnion path sub withoutVoid u) =
      (g.shownAlternates path withoutVoid u).flatMap fun y => risks (sub y) := by
  simp only [layoutUnion, risks_append, risks_layoutShown]
  split <;> split <;> rfl

theorem risks_layoutParameterType (p : Parameter ι) :
    risks (g.layoutParameterType path sub p) =
      (g.shownParameter path p).flatMap fun y => risks (sub y) := by
  unfold layoutParameterType shownParameter
  split
  · exact risks_layoutUnion p.optional p.type
  · simp

theorem risks_layoutDeclared :
    risks (g.layoutDeclared sub x) =
      g.ownRisks .declared x ++ (g.shownParts .declared path x).flatMap fun y => risks (sub y) := by
  unfold layoutDeclared ownRisks shownParts
  cases hx : g.shape x with
  | primitive kind => cases kind <;> simp [parts, hx, PrimitiveKind.isNative, risks, Piece.isRisk]
  | union alternates => simp [parts, hx, risks_layoutAlternates]
  | record fields => simp [parts, hx, risks_layoutRecord]
  | templatized base arguments => simp [parts, hx, risks_layoutTemplatized]
  | function f =>
      by_cases hbare : f.isBare
      · simp [hbare, risks, Piece.isRisk]
      · simp [hbare, risks_layoutFunction, risks_layoutParameter, List.flatMap_map]
  | _ => simp [parts, hx, risks, Piece.isRisk]

theorem risks_layoutResolved :
    risks (g.layoutResolved path sub x) =
      g.ownRisks .resolved x ++ (g.shownParts .resolved path x).flatMap fun y => risks (sub y) := by
  unfold layoutResolved ownRisks shownParts
  cases hx : g.shape x with
  | primitive kind => cases kind <;> simp [parts, hx, PrimitiveKind.isNative, risks, Piece.isRisk]
  | nullable operand => cases hn : g.isNullable operand <;> simp [parts, hx, hn]
  | union alternates => simp [risks_layoutUnion]
  | record fields => simp [parts, hx, risks_layoutRecord]
  | templatized base arguments => simp [parts, hx, risks_layoutTemplatized]
  | function f =>
      by_cases hbare : f.isBare
      · simp [hbare]
      · simp [hbare, risks_layoutFunction, risks_layoutParameter, risks_layoutParameterType,
          List.flatMap_map, List.flatMap_assoc]
  | _ => simp [parts, hx, risks, Piece.isRisk]

theorem risks_layoutNode :
    risks (g.layoutNode mode path sub x) =
      g.ownRisks mode x ++ (g.shownParts mode path x).flatMap fun y => risks (sub y) := by
  cases mode with
  | resolved => exact risks_layoutResolved
  | declared => exact risks_layoutDeclared

/-! ## Every risk comes from a type that is reached -/

theorem exists_part_of_shownAlternates {withoutVoid : Bool} {u v : ι} (hu : g.isUnion u = true)
    (hv : v ∈ g.shownAlternates path withoutVoid u) : ∃ y ∈ g.parts mode u, g.Reaches mode y v := by
  have hflat : v ∈ (g.flatten (u :: path) u).alternates := by
    simp only [shownAlternates] at hv
    split at hv
    · exact hv
    · exact (List.mem_filter.1 hv).1
  obtain ⟨alternates, hshape⟩ := exists_union hu
  rw [flatten, alternates_flattenNode hshape, List.mem_flatMap] at hflat
  obtain ⟨y, hy, hv⟩ := hflat
  exact ⟨y, by simpa [parts, hshape] using hy,
    (reaches_withoutMark y).trans (reaches_contribution _ _ v hv)⟩

theorem reaches_shownParameter {p : Parameter ι} {v : ι} (hv : v ∈ g.shownParameter path p) :
    g.Reaches mode p.type v := by
  unfold shownParameter at hv
  split at hv
  next hp =>
    obtain ⟨y, hy, hyv⟩ := exists_part_of_shownAlternates hp hv
    exact (Reaches.of_mem_parts hy).trans hyv
  next => exact List.mem_singleton.1 hv ▸ .refl

/-- What is rendered inside a type is one of its parts, or is reached from one. -/
theorem exists_part_of_shownParts {v : ι} (hv : v ∈ g.shownParts mode path x) :
    ∃ y ∈ g.parts mode x, g.Reaches mode y v := by
  unfold shownParts at hv
  split at hv
  next alternates hx =>
    exact exists_part_of_shownAlternates (by simp [isUnion, hx, Shape.isUnion]) hv
  next f hx =>
    by_cases hbare : f.isBare
    · simp [hbare] at hv
    · simp only [hbare, Bool.false_eq_true, if_false, List.mem_append, List.mem_flatMap] at hv
      rw [parts_of_function hx hbare]
      rcases hv with (hcontext | ⟨p, hp, hv⟩) | hresult
      · have hmem : f.context = some v :=
          (Option.filter_eq_some_iff.1 (Option.mem_toList.1 hcontext)).1
        exact ⟨v, by simp [hmem], .refl⟩
      · exact ⟨p.type, by simp [List.mem_map_of_mem hp], reaches_shownParameter hv⟩
      · exact ⟨v, by simp [Option.mem_toList.1 hresult], .refl⟩
  next f hx =>
    by_cases hbare : f.isBare
    · simp [hbare] at hv
    · simp only [hbare, Bool.false_eq_true, if_false, List.mem_append] at hv
      rw [parts_of_function hx hbare]
      refine ⟨v, ?_, .refl⟩
      simp only [List.mem_append]
      rcases hv with (hcontext | hparameter) | hresult
      · exact .inr hcontext
      · exact .inl (.inl hparameter)
      · exact .inl (.inr hresult)
  next => exact ⟨v, hv, .refl⟩

theorem reaches_shownParts {v : ι} (hv : v ∈ g.shownParts mode path x) : g.Reaches mode x v := by
  obtain ⟨y, hy, hyv⟩ := exists_part_of_shownParts hv
  exact (Reaches.of_mem_parts hy).trans hyv

/-- Where chains of enumeration elements end, a risk is the own risk of a type that is reached. -/
theorem exists_ownRisks (hends : mode = .resolved → g.EnumsEnd) {p : Piece}
    (hp : p ∈ risks (g.layoutAt mode path x)) :
    ∃ y, g.Reaches mode x y ∧ p ∈ g.ownRisks mode y := by
  obtain ⟨y, hy⟩ := exists_standIn hends x
  rw [g.layoutAt_of_standIn hy] at hp
  suffices key : ∃ z, g.Reaches mode y z ∧ p ∈ g.ownRisks mode z by
    obtain ⟨z, hz, hp⟩ := key
    exact ⟨z, (reaches_standIn hy).trans hz, hp⟩
  clear hy
  induction path, y using g.path_induction with
  | again path y hmem => simp [g.layoutFrom_of_mem hmem, layoutAgain] at hp
  | enter path y hmem ih =>
      rw [g.layoutFrom_of_not_mem hmem, risks_layoutNode, List.mem_append, List.mem_flatMap] at hp
      rcases hp with hp | ⟨v, hv, hp⟩
      · exact ⟨y, .refl, hp⟩
      · obtain ⟨w, hw⟩ := exists_standIn hends v
        rw [g.layoutAt_of_standIn hw] at hp
        obtain ⟨z, hz, hp⟩ := ih w hp
        exact ⟨z, ((reaches_shownParts hv).trans (reaches_standIn hw)).trans hz, hp⟩

theorem isInvalid_of_fail {cause : Unsupported} (h : Piece.fail cause ∈ g.ownRisks mode x) :
    g.isInvalid x = true ∧ cause ≠ .endless := by
  unfold ownRisks at h
  cases hshape : g.shape x with
  | primitive kind =>
      simp only [hshape] at h
      split at h <;> simp at h
  | noType => simp_all [isInvalid]
  | noObject => simp_all [isInvalid]
  | stray s => simp_all [isInvalid]
  | _ => simp [hshape] at h

theorem exists_native_of_required {n : String} (h : Piece.name .required n ∈ g.ownRisks mode x) :
    ∃ kind : PrimitiveKind, kind.isNative = true ∧ n = kind.name := by
  unfold ownRisks at h
  cases hshape : g.shape x with
  | primitive kind =>
      simp only [hshape] at h
      split at h
      next hnative => exact ⟨kind, hnative.2, by simpa using h⟩
      next => simp at h
  | _ => simp [hshape] at h

/-! ## Every invalid type that is reached is a risk -/

theorem InvalidOff.shownAlternates {withoutVoid : Bool} {u : ι} (hu : g.isUnion u = true)
    (h : ∃ y ∈ g.parts mode u, InvalidOff g mode (u :: path) y) :
    ∃ v ∈ g.shownAlternates path withoutVoid u, InvalidOff g mode (u :: path) v := by
  obtain ⟨v, hv, hoff⟩ := InvalidOff.flatten hu h
  have hkept : v ∈ g.keptAlternates withoutVoid (g.flatten (u :: path) u).alternates := by
    simp [keptAlternates, hv, isNull, isVoid, hoff.isPrimitive_eq_false]
  refine ⟨v, ?_, hoff⟩
  simp [TypeGraph.shownAlternates, List.ne_nil_of_mem hkept, hkept]

theorem InvalidOff.shownParameter {p : Parameter ι} (h : InvalidOff g mode path p.type) :
    ∃ v ∈ g.shownParameter path p, InvalidOff g mode path v := by
  unfold TypeGraph.shownParameter
  cases hu : g.isUnion p.type with
  | false => exact ⟨p.type, by simp, h⟩
  | true =>
      obtain ⟨v, hv, hoff⟩ :=
        InvalidOff.shownAlternates hu (h.exists_part_off (isInvalid_of_isUnion hu))
      exact ⟨v, by simpa using hv, hoff.mono (List.subset_cons_self _ _)⟩

theorem InvalidOff.shownParts (hx : ∃ y ∈ g.parts mode x, InvalidOff g mode (x :: path) y) :
    ∃ v ∈ g.shownParts mode (x :: path) x, InvalidOff g mode (x :: path) v := by
  obtain ⟨y, hy, hoff⟩ := hx
  unfold TypeGraph.shownParts
  split
  next alternates hshape =>
    have hu : g.isUnion x = true := by simp [isUnion, hshape, Shape.isUnion]
    -- the union itself is on the path already, and flattening avoids it once more
    have htwice : InvalidOff g .resolved (x :: x :: path) y := hoff.mono (by simp)
    obtain ⟨v, hv, hoff⟩ := InvalidOff.shownAlternates hu ⟨y, hy, htwice⟩
    exact ⟨v, hv, hoff.mono (by simp)⟩
  next f hshape =>
    by_cases hbare : f.isBare
    · simp [parts, hshape, hbare] at hy
    · simp only [parts_of_function hshape hbare, List.mem_append, List.mem_map] at hy
      simp only [hbare, Bool.false_eq_true, if_false, List.mem_append, List.mem_flatMap]
      rcases hy with (⟨p, hp, rfl⟩ | hresult) | hcontext
      · obtain ⟨v, hv, hoff⟩ := hoff.shownParameter
        exact ⟨v, .inl (.inr ⟨p, hp, hv⟩), hoff⟩
      · exact ⟨y, .inr hresult, hoff⟩
      · have hshown : y ∈ (g.shownContext f).toList := by
          simp [shownContext, isUnknown, hoff.isPrimitive_eq_false, Option.mem_toList.1 hcontext]
        exact ⟨y, .inl (.inl hshown), hoff⟩
  next f hshape =>
    by_cases hbare : f.isBare
    · simp [parts, hshape, hbare] at hy
    · simp only [parts_of_function hshape hbare, List.mem_append] at hy
      refine ⟨y, ?_, hoff⟩
      simp only [hbare, Bool.false_eq_true, if_false, List.mem_append]
      rcases hy with (hparameter | hresult) | hcontext
      · exact .inl (.inr hparameter)
      · exact .inr hresult
      · exact .inl (.inl hcontext)
  next => exact ⟨y, hy, hoff⟩

theorem exists_fail_ownRisks (hx : g.isInvalid x = true) :
    ∃ cause, Piece.fail cause ∈ g.ownRisks mode x := by
  unfold ownRisks
  cases hshape : g.shape x with
  | noType => exact ⟨_, List.mem_singleton_self _⟩
  | noObject => exact ⟨_, List.mem_singleton_self _⟩
  | stray s => exact ⟨_, List.mem_singleton_self _⟩
  | _ => simp [isInvalid, hshape] at hx

/-- Where chains of enumeration elements end, the layout of a type fails if an invalid type is
reached off the path. -/
theorem exists_fail (hends : mode = .resolved → g.EnumsEnd) (hx : InvalidOff g mode path x) :
    ∃ cause, Piece.fail cause ∈ risks (g.layoutAt mode path x) := by
  obtain ⟨y, hy⟩ := exists_standIn hends x
  rw [g.layoutAt_of_standIn hy]
  replace hx := hx.standIn hy
  clear hy
  induction path, y using g.path_induction with
  | again path y hmem => exact absurd hmem hx.not_mem
  | enter path y hmem ih =>
      rw [g.layoutFrom_of_not_mem hmem, risks_layoutNode]
      cases hinvalid : g.isInvalid y with
      | true =>
          obtain ⟨cause, hcause⟩ := exists_fail_ownRisks hinvalid
          exact ⟨cause, List.mem_append_left _ hcause⟩
      | false =>
          obtain ⟨v, hv, hoff⟩ := InvalidOff.shownParts (hx.exists_part_off hinvalid)
          obtain ⟨w, hw⟩ := exists_standIn hends v
          obtain ⟨cause, hcause⟩ := ih w (hoff.standIn hw)
          refine ⟨cause, List.mem_append_right _ (List.mem_flatMap.2 ⟨v, hv, ?_⟩)⟩
          rwa [g.layoutAt_of_standIn hw]

end TypeGraph

end DocMarkup
