import DocMarkup.Proofs.TypeExpr.Walk
import DocMarkup.TypeExpr.Agree
import Mathlib.Data.List.Forall2
import Mathlib.Data.Option.Basic
import Mathlib.Logic.Relation

/-!
Types of the same value. Shapes are alike if they are the same but for the types in them, which are
related one by one (`Shape.Like`); agreement is likeness all the way down (`TypeGraph.agree_like`),
so that agreeing types do not contain themselves (`TypeGraph.acyclic_of_agree`).
-/

namespace DocMarkup

variable {ι κ : Type}

/-! ## Shapes that are alike -/

/-- The types that a shape refers to. -/
def Shape.inner : Shape ι → List ι
  | .enumElement _ underlying => [underlying]
  | .function s => s.parameters.map (·.type) ++ s.result.toList ++ s.context.toList
  | .union alternates => alternates
  | .record fields => fields.filterMap (·.type)
  | .templatized base arguments => base :: arguments
  | .nullable operand => [operand]
  | .nonNullable operand => [operand]
  | .stray (.parameter p) => [p.type]
  | .stray (.field f) => f.type.toList
  | _ => []

def Shape.isStray : Shape ι → Bool
  | .stray _ => true
  | _ => false

structure Parameter.Like (R : ι → κ → Prop) (p : Parameter ι) (q : Parameter κ) : Prop where
  type : R p.type q.type
  optional : p.optional = q.optional
  variadic : p.variadic = q.variadic

structure Field.Like (R : ι → κ → Prop) (f : Field ι) (f' : Field κ) : Prop where
  name : f.name = f'.name
  type : Option.Rel R f.type f'.type

structure Signature.Like (R : ι → κ → Prop) (s : Signature ι) (t : Signature κ) : Prop where
  parameters : List.Forall₂ (Parameter.Like R) s.parameters t.parameters
  result : Option.Rel R s.result t.result
  context : Option.Rel R s.context t.context
  isConstructor : s.isConstructor = t.isConstructor
  referenceName : s.referenceName = t.referenceName

inductive Shape.Like (R : ι → κ → Prop) : Shape ι → Shape κ → Prop where
  | primitive (kind : PrimitiveKind) : Like R (.primitive kind) (.primitive kind)
  | named (name : String) : Like R (.named name) (.named name)
  | instanceOf (name : String) : Like R (.instanceOf name) (.instanceOf name)
  | template (name : String) : Like R (.template name) (.template name)
  | enumElement (name : String) {x : ι} {y : κ} (h : R x y) :
      Like R (.enumElement name x) (.enumElement name y)
  | function {s : Signature ι} {t : Signature κ} (h : Signature.Like R s t) :
      Like R (.function s) (.function t)
  | union {as : List ι} {bs : List κ} (h : List.Forall₂ R as bs) : Like R (.union as) (.union bs)
  | record {fs : List (Field ι)} {gs : List (Field κ)} (h : List.Forall₂ (Field.Like R) fs gs) :
      Like R (.record fs) (.record gs)
  | templatized {x : ι} {y : κ} {as : List ι} {bs : List κ} (h : R x y)
      (hs : List.Forall₂ R as bs) :
      Like R (.templatized x as) (.templatized y bs)
  | nullable {x : ι} {y : κ} (h : R x y) : Like R (.nullable x) (.nullable y)
  | nonNullable {x : ι} {y : κ} (h : R x y) : Like R (.nonNullable x) (.nonNullable y)
  | noType : Like R .noType .noType
  | noObject : Like R .noObject .noObject
  | strayValue {v w : Json} (h : v.same w = true) : Like R (.stray (.value v)) (.stray (.value w))
  | strayParameter {p : Parameter ι} {q : Parameter κ} (h : Parameter.Like R p q) :
      Like R (.stray (.parameter p)) (.stray (.parameter q))
  | strayField {f : Field ι} {f' : Field κ} (h : Field.Like R f f') :
      Like R (.stray (.field f)) (.stray (.field f'))

/-! ## Relations on the types inside -/

section Relations

variable {R S : ι → κ → Prop}

theorem optionRel_imp {o : Option ι} {p : Option κ} (hRS : ∀ a b, a ∈ o → b ∈ p → R a b → S a b)
    (h : Option.Rel R o p) : Option.Rel S o p := by
  cases h with
  | some h => exact .some (hRS _ _ rfl rfl h)
  | none => exact .none

theorem forall₂_imp_mem {α β : Type} {R S : α → β → Prop} {as : List α} {bs : List β}
    (hRS : ∀ a b, a ∈ as → b ∈ bs → R a b → S a b) (h : List.Forall₂ R as bs) :
    List.Forall₂ S as bs := by
  induction h with
  | nil => exact .nil
  | cons h _ ih =>
      refine .cons (hRS _ _ List.mem_cons_self List.mem_cons_self h) (ih fun a b ha hb => ?_)
      exact hRS a b (List.mem_cons_of_mem _ ha) (List.mem_cons_of_mem _ hb)

theorem not_transGen_self_of_acc {α : Type} {r : α → α → Prop} {x : α} (hx : Acc (flip r) x) :
    ¬ Relation.TransGen r x x := by
  induction hx with
  | intro x _ ih =>
      intro hcycle
      obtain ⟨y, hstep, hback⟩ := Relation.TransGen.head'_iff.1 hcycle
      exact ih y hstep (.tail' hback hstep)

theorem exists_of_forall₂ {as : List ι} {bs : List κ} (h : List.Forall₂ R as bs) :
    (∀ a ∈ as, ∃ b, R a b) ∧ ∀ b ∈ bs, ∃ a, R a b := by
  induction h with
  | nil => simp
  | cons h _ ih =>
      exact ⟨List.forall_mem_cons.2 ⟨⟨_, h⟩, ih.1⟩, List.forall_mem_cons.2 ⟨⟨_, h⟩, ih.2⟩⟩

theorem Shape.Like.inner {s : Shape ι} {t : Shape κ} (h : Shape.Like R s t) :
    List.Forall₂ R s.inner t.inner := by
  have htoList : ∀ {o : Option ι} {p : Option κ}, Option.Rel R o p →
      List.Forall₂ R o.toList p.toList := by
    intro o p h
    cases h with
    | some h => exact .cons h .nil
    | none => exact .nil
  cases h with
  | enumElement _ h => exact .cons h .nil
  | function h =>
      refine List.rel_append (List.rel_append ?_ (htoList h.result)) (htoList h.context)
      rw [List.forall₂_map_left_iff, List.forall₂_map_right_iff]
      exact h.parameters.imp fun _ _ h => h.type
  | union h => exact h
  | record h => exact List.rel_filterMap (fun _ _ h => h.type) h
  | templatized h hs => exact .cons h hs
  | nullable h => exact .cons h .nil
  | nonNullable h => exact .cons h .nil
  | strayParameter h => exact .cons h.type .nil
  | strayField h => exact htoList h.type
  | _ => exact .nil

/-- Likeness depends only on how the types inside are related. -/
theorem Shape.Like.imp {s : Shape ι} {t : Shape κ} (h : Shape.Like R s t)
    (hRS : ∀ a b, a ∈ s.inner → b ∈ t.inner → R a b → S a b) : Shape.Like S s t := by
  cases h with
  | primitive kind => exact .primitive kind
  | named name => exact .named name
  | instanceOf name => exact .instanceOf name
  | template name => exact .template name
  | enumElement name h => exact .enumElement name (hRS _ _ List.mem_cons_self List.mem_cons_self h)
  | function h =>
      refine .function ⟨?_, ?_, ?_, h.isConstructor, h.referenceName⟩
      · refine forall₂_imp_mem (fun p q hp hq h => ⟨hRS _ _ ?_ ?_ h.type, h.optional, h.variadic⟩)
          h.parameters
        · exact List.mem_append_left _ (List.mem_append_left _ (List.mem_map_of_mem hp))
        · exact List.mem_append_left _ (List.mem_append_left _ (List.mem_map_of_mem hq))
      · refine optionRel_imp (fun a b ha hb => hRS a b ?_ ?_) h.result
        · exact List.mem_append_left _ (List.mem_append_right _ (Option.mem_toList.2 ha))
        · exact List.mem_append_left _ (List.mem_append_right _ (Option.mem_toList.2 hb))
      · refine optionRel_imp (fun a b ha hb => hRS a b ?_ ?_) h.context
        · exact List.mem_append_right _ (Option.mem_toList.2 ha)
        · exact List.mem_append_right _ (Option.mem_toList.2 hb)
  | union h => exact .union (forall₂_imp_mem hRS h)
  | record h =>
      refine .record (forall₂_imp_mem (fun f f' hf hf' h => ⟨h.name, ?_⟩) h)
      refine optionRel_imp (fun a b ha hb => hRS a b ?_ ?_) h.type
      · exact List.mem_filterMap.2 ⟨f, hf, ha⟩
      · exact List.mem_filterMap.2 ⟨f', hf', hb⟩
  | templatized h hs =>
      refine .templatized (hRS _ _ List.mem_cons_self List.mem_cons_self h)
        (forall₂_imp_mem (fun a b ha hb => ?_) hs)
      exact hRS a b (List.mem_cons_of_mem _ ha) (List.mem_cons_of_mem _ hb)
  | nullable h => exact .nullable (hRS _ _ List.mem_cons_self List.mem_cons_self h)
  | nonNullable h => exact .nonNullable (hRS _ _ List.mem_cons_self List.mem_cons_self h)
  | noType => exact .noType
  | noObject => exact .noObject
  | strayValue h => exact .strayValue h
  | strayParameter h =>
      exact .strayParameter
        ⟨hRS _ _ List.mem_cons_self List.mem_cons_self h.type, h.optional, h.variadic⟩
  | strayField h =>
      refine .strayField ⟨h.name, optionRel_imp (fun a b ha hb => hRS a b ?_ ?_) h.type⟩
      · exact Option.mem_toList.2 ha
      · exact Option.mem_toList.2 hb

end Relations

/-! ## Agreement -/

namespace Agree

variable {rel : ι → κ → Bool}

theorem forall₂_of_lists {α β : Type} {rel : α → β → Bool} {R : α → β → Prop}
    (hR : ∀ a b, rel a b = true → R a b) :
    ∀ {as : List α} {bs : List β}, lists rel as bs = true → List.Forall₂ R as bs
  | [], [], _ => .nil
  | a :: as, b :: bs, h => by
      obtain ⟨hab, h⟩ := Bool.and_eq_true_iff.1 h
      exact .cons (hR a b hab) (forall₂_of_lists hR h)

theorem rel_of_options {o : Option ι} {p : Option κ} (h : options rel o p = true) :
    Option.Rel (fun a b => rel a b = true) o p := by
  cases o with
  | none =>
      cases p with
      | none => exact .none
      | some b => cases h
  | some a =>
      cases p with
      | none => cases h
      | some b => exact .some h

theorem like_of_parameters {p : Parameter ι} {q : Parameter κ} (h : parameters rel p q = true) :
    Parameter.Like (fun a b => rel a b = true) p q := by
  simp only [parameters, Bool.and_eq_true, beq_iff_eq] at h
  exact ⟨h.1.1, h.1.2, h.2⟩

theorem like_of_fields {f : Field ι} {f' : Field κ} (h : fields rel f f' = true) :
    Field.Like (fun a b => rel a b = true) f f' := by
  simp only [fields, Bool.and_eq_true, beq_iff_eq] at h
  exact ⟨h.1, rel_of_options h.2⟩

theorem like_of_signatures {s : Signature ι} {t : Signature κ} (h : signatures rel s t = true) :
    Signature.Like (fun a b => rel a b = true) s t := by
  simp only [signatures, Bool.and_eq_true, beq_iff_eq] at h
  obtain ⟨⟨⟨⟨hparameters, hresult⟩, hcontext⟩, hconstructor⟩, hname⟩ := h
  exact ⟨forall₂_of_lists (fun _ _ => like_of_parameters) hparameters, rel_of_options hresult,
    rel_of_options hcontext, hconstructor, hname⟩

theorem like_of_shapes {s : Shape ι} {t : Shape κ} (h : shapes rel s t = true) :
    Shape.Like (fun a b => rel a b = true) s t := by
  unfold shapes at h
  split at h
  next => exact beq_iff_eq.1 h ▸ .primitive _
  next => exact beq_iff_eq.1 h ▸ .named _
  next => exact beq_iff_eq.1 h ▸ .instanceOf _
  next => exact beq_iff_eq.1 h ▸ .template _
  next =>
    obtain ⟨hname, h⟩ := Bool.and_eq_true_iff.1 h
    exact beq_iff_eq.1 hname ▸ .enumElement _ h
  next => exact .function (like_of_signatures h)
  next => exact .union (forall₂_of_lists (fun _ _ hab => hab) h)
  next => exact .record (forall₂_of_lists (fun _ _ => like_of_fields) h)
  next =>
    obtain ⟨hbase, h⟩ := Bool.and_eq_true_iff.1 h
    exact .templatized hbase (forall₂_of_lists (fun _ _ hab => hab) h)
  next => exact .nullable h
  next => exact .nonNullable h
  next => exact .noType
  next => exact .noObject
  next => exact .strayValue h
  next => exact .strayParameter (like_of_parameters h)
  next => exact .strayField (like_of_fields h)
  next => cases h

end Agree

namespace TypeGraph

open Relation

/-- A type has another one directly in it. -/
def Inside (g : TypeGraph ι) (x y : ι) : Prop := y ∈ (g.shape x).inner

/-- A type that is built of types only: no stray value is in it. -/
def IsProper (g : TypeGraph ι) (x : ι) : Prop :=
  ∀ z, ReflTransGen g.Inside x z → (g.shape z).isStray = false

variable [DecidableEq ι]

/-- Agreement of types of which the first has come along a path. -/
def agreeFrom (g : TypeGraph ι) (h : TypeGraph κ) (path : List ι) : ι → κ → Bool :=
  g.walk (fun _ _ => false) (fun _ rel a b => Agree.shapes rel (g.shape a) (h.shape b)) path

variable {g : TypeGraph ι} {h : TypeGraph κ} {path : List ι} {x : ι} {y : κ}

theorem agree_like (hxy : g.agreeFrom h path x y = true) :
    Shape.Like (fun a b => g.agreeFrom h (x :: path) a b = true) (g.shape x) (h.shape y) := by
  by_cases hmem : x ∈ path
  · rw [agreeFrom, g.walk_of_mem hmem] at hxy
    cases hxy
  · rw [agreeFrom, g.walk_of_not_mem hmem] at hxy
    exact Agree.like_of_shapes hxy

/-- Types that agree contain themselves nowhere. -/
theorem acyclic_of_agree (hxy : g.agreeFrom h path x y = true) :
    Acc (flip g.Inside) x ∧ Acc (flip h.Inside) y := by
  induction path, x using g.path_induction generalizing y with
  | again path x hmem =>
      rw [agreeFrom, g.walk_of_mem hmem] at hxy
      cases hxy
  | enter path x hmem ih =>
      obtain ⟨hleft, hright⟩ := exists_of_forall₂ (agree_like hxy).inner
      refine ⟨.intro x fun a ha => ?_, .intro y fun b hb => ?_⟩
      · obtain ⟨b, hab⟩ := hleft a ha
        exact (ih a hab).1
      · obtain ⟨a, hab⟩ := hright b hb
        exact (ih a hab).2

/-- Types of the same value, built of types only. -/
structure Alike (g : TypeGraph ι) (h : TypeGraph κ) (x : ι) (y : κ) : Prop where
  agree : ∃ path, g.agreeFrom h path x y = true
  isProper : g.IsProper x

namespace Alike

theorem like (hxy : g.Alike h x y) :
    Shape.Like (fun a b => g.Alike h a b ∧ g.Inside x a ∧ h.Inside y b) (g.shape x)
      (h.shape y) := by
  obtain ⟨⟨path, hagree⟩, hproper⟩ := hxy
  refine (agree_like hagree).imp fun a b ha hb hab => ⟨⟨⟨x :: path, hab⟩, ?_⟩, ha, hb⟩
  exact fun z hz => hproper z (.head ha hz)

theorem not_stray (hxy : g.Alike h x y) : (g.shape x).isStray = false := hxy.isProper x .refl

theorem acyclic (hxy : g.Alike h x y) : Acc (flip g.Inside) x ∧ Acc (flip h.Inside) y :=
  hxy.agree.elim fun _ => acyclic_of_agree

end Alike

end TypeGraph

end DocMarkup
