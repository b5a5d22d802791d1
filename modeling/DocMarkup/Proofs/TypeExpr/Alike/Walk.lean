import DocMarkup.Proofs.TypeExpr.Alike.Shape
import DocMarkup.Proofs.TypeExpr.Nullability
import DocMarkup.TypeExpr.Shown

/-!
Walks from types of the same value. The path holds only types that the present one is inside of, so
that it is never found on the path, whatever parts are shared (`TypeGraph.Alike.walk`); hence such
types are nullable alike (`TypeGraph.Alike.isNullable_eq`), and flattened alike
(`TypeGraph.Alike.flatten`).
-/

namespace DocMarkup

variable {ι κ : Type}

/-! ## Lists and shapes that are alike -/

section Like

variable {R : ι → κ → Prop} {s : Shape ι} {t : Shape κ}

theorem map_eq_of_forall₂ {α β γ : Type} {R : α → β → Prop} {f : α → γ} {f' : β → γ} {as : List α}
    {bs : List β} (h : List.Forall₂ R as bs) (hf : ∀ a b, R a b → f a = f' b) :
    as.map f = bs.map f' := by
  induction h with
  | nil => rfl
  | cons hab _ ih => rw [List.map_cons, List.map_cons, hf _ _ hab, ih]

theorem isEmpty_eq_of_forall₂ {as : List ι} {bs : List κ} (h : List.Forall₂ R as bs) :
    as.isEmpty = bs.isEmpty := by
  cases h <;> rfl

theorem any_eq_of_forall₂ {α β : Type} {R : α → β → Prop} {p : α → Bool} {q : β → Bool}
    {as : List α} {bs : List β} (h : List.Forall₂ R as bs) (hpq : ∀ a b, R a b → p a = q b) :
    as.any p = bs.any q := by
  induction h with
  | nil => rfl
  | cons hab _ ih => rw [List.any_cons, List.any_cons, hpq _ _ hab, ih]

theorem Shape.Like.isPrimitive_eq (h : Shape.Like R s t) (kind : PrimitiveKind) :
    s.isPrimitive kind = t.isPrimitive kind := by
  cases h <;> rfl

theorem Signature.Like.isBare_eq {s : Signature ι} {t : Signature κ} (h : Signature.Like R s t) :
    s.isBare = t.isBare := by
  rw [Signature.isBare, Signature.isBare, h.referenceName]

theorem Shape.Like.isUnion_eq (h : Shape.Like R s t) : s.isUnion = t.isUnion := by
  cases h <;> rfl

/-- Flattened unions with the same mark, whose alternates are related. -/
structure Flattened.Like (R : ι → κ → Prop) (f : Flattened ι) (f' : Flattened κ) : Prop where
  alternates : List.Forall₂ R f.alternates f'.alternates
  nullable : f.nullable = f'.nullable

namespace Flattened.Like

variable {f : Flattened ι} {f' : Flattened κ}

theorem imp {S : ι → κ → Prop} (h : Flattened.Like R f f') (hRS : ∀ a b, R a b → S a b) :
    Flattened.Like S f f' :=
  ⟨h.alternates.imp hRS, h.nullable⟩

theorem mark (h : Flattened.Like R f f') (marked : Bool) :
    Flattened.Like R (f.mark marked) (f'.mark marked) :=
  ⟨h.alternates, by simp [Flattened.mark, h.nullable]⟩

theorem join {fs : List (Flattened ι)} {fs' : List (Flattened κ)}
    (h : List.Forall₂ (Flattened.Like R) fs fs') :
    Flattened.Like R (Flattened.join fs) (Flattened.join fs') where
  alternates := List.rel_flatMap h fun _ _ h => h.alternates
  nullable := any_eq_of_forall₂ h fun _ _ h => h.nullable

end Flattened.Like

end Like

namespace TypeGraph

open Relation

variable {g : TypeGraph ι} {h : TypeGraph κ} {x : ι} {y : κ}

/-! ## Walks -/

/-- A path on which every type has `x` somewhere inside it. -/
def LeadsTo (g : TypeGraph ι) (path : List ι) (x : ι) : Prop := ∀ p ∈ path, TransGen g.Inside p x

theorem LeadsTo.cons {path : List ι} {a : ι} (hpath : g.LeadsTo path x)
    (ha : TransGen g.Inside x a) :
    g.LeadsTo (x :: path) a := by
  intro p hp
  rcases List.mem_cons.1 hp with rfl | hp
  · exact ha
  · exact (hpath p hp).trans ha

variable [DecidableEq ι] [DecidableEq κ]

/-- Types that are alike and are inside two others, or are these. -/
def AlikeIn (g : TypeGraph ι) (h : TypeGraph κ) (x : ι) (y : κ) (a : ι) (b : κ) : Prop :=
  g.Alike h a b ∧ ReflTransGen g.Inside x a ∧ ReflTransGen h.Inside y b

/-- Types that are alike and are inside two others. -/
def AlikeBelow (g : TypeGraph ι) (h : TypeGraph κ) (x : ι) (y : κ) (a : ι) (b : κ) : Prop :=
  g.Alike h a b ∧ TransGen g.Inside x a ∧ TransGen h.Inside y b

omit [DecidableEq κ] in
theorem AlikeBelow.toAlikeIn {a : ι} {b : κ} (hab : g.AlikeBelow h x y a b) : g.AlikeIn h x y a b :=
  ⟨hab.1, hab.2.1.to_reflTransGen, hab.2.2.to_reflTransGen⟩

omit [DecidableEq κ] in
theorem AlikeBelow.trans {a c : ι} {b d : κ} (hab : g.AlikeBelow h x y a b)
    (hcd : g.AlikeIn h a b c d) :
    g.AlikeBelow h x y c d :=
  ⟨hcd.1, hab.2.1.trans_left hcd.2.1, hab.2.2.trans_left hcd.2.2⟩

namespace Alike

/-- What each step of two walks keeps up for types that are alike, the walks keep up. -/
theorem walk {α β : Type} {R : ι → κ → α → β → Prop} {again : ι → α}
    {enter : List ι → (ι → α) → ι → α} {again' : κ → β} {enter' : List κ → (κ → β) → κ → β}
    (henter : ∀ path path' sub sub' x y, g.Alike h x y → g.LeadsTo path x → h.LeadsTo path' y →
      (∀ a b, g.AlikeBelow h x y a b → R a b (sub a) (sub' b)) →
        R x y (enter (x :: path) sub x) (enter' (y :: path') sub' y))
    {path : List ι} {path' : List κ} (hxy : g.Alike h x y) (hpath : g.LeadsTo path x)
    (hpath' : h.LeadsTo path' y) :
    R x y (g.walk again enter path x) (h.walk again' enter' path' y) := by
  induction path, x using g.path_induction generalizing path' y with
  | again path x hmem => exact absurd (hpath x hmem) (not_transGen_self_of_acc hxy.acyclic.1)
  | enter path x hmem ih =>
      have hmem' : y ∉ path' := fun hmem' => not_transGen_self_of_acc hxy.acyclic.2 (hpath' y hmem')
      rw [g.walk_of_not_mem hmem, h.walk_of_not_mem hmem']
      refine henter path path' _ _ x y hxy hpath hpath' fun a b hab => ?_
      exact ih a hab.1 (hpath.cons hab.2.1) (hpath'.cons hab.2.2)

omit [DecidableEq κ] in
theorem below (hxy : g.Alike h x y) : Shape.Like (g.AlikeBelow h x y) (g.shape x) (h.shape y) :=
  hxy.like.imp fun _ _ _ _ hab => ⟨hab.1, .single hab.2.1, .single hab.2.2⟩

/-! ## Predicates -/

omit [DecidableEq κ] in
theorem isOpenlyNullable_eq (hxy : g.Alike h x y) :
    g.isOpenlyNullable x = h.isOpenlyNullable y := by
  have hlike := hxy.like
  generalize hs : g.shape x = s at hlike
  generalize ht : h.shape y = t at hlike
  cases hlike <;> simp [isOpenlyNullable, hs, ht]

theorem isNullable_eq (hxy : g.Alike h x y) : g.isNullable x = h.isNullable y := by
  have hacc := hxy.acyclic.1
  induction hacc generalizing y with
  | intro x _ ih =>
      have hlike := hxy.like
      cases hunion : g.isUnion x with
      | false =>
          have hunion' : h.isUnion y = false := hlike.isUnion_eq.symm.trans hunion
          rw [isNullable_of_not_union hunion, isNullable_of_not_union hunion',
            hxy.isOpenlyNullable_eq]
      | true =>
          generalize hs : g.shape x = s at hlike
          generalize ht : h.shape y = t at hlike
          cases hlike with
          | union hs' =>
              rw [isNullable_of_union hs, isNullable_of_union ht]
              exact any_eq_of_forall₂ hs' fun a b hab => ih a hab.2.1 hab.1
          | _ => simp [isUnion, hs, Shape.isUnion] at hunion

/-! ## Flattening -/

variable {sub : ι → Flattened ι} {sub' : κ → Flattened κ}

theorem asAlternate (hxy : g.Alike h x y) :
    Flattened.Like (g.AlikeIn h x y) (g.asAlternate x) (h.asAlternate y) :=
  ⟨.cons ⟨hxy, .refl, .refl⟩ .nil, hxy.isNullable_eq⟩

omit [DecidableEq κ] in
theorem flattenAlternate
    (hsub : ∀ a b, g.AlikeBelow h x y a b → Flattened.Like (g.AlikeIn h a b) (sub a) (sub' b))
    {a : ι} {b : κ} (hab : g.AlikeBelow h x y a b) :
    Flattened.Like (g.AlikeBelow h x y) (g.flattenAlternate sub a) (h.flattenAlternate sub' b) := by
  have hcalls : ∀ c d, g.AlikeIn h a b c d →
      Flattened.Like (g.AlikeBelow h x y) (sub c) (sub' d) := by
    intro c d hcd
    have hbelow := hab.trans hcd
    exact (hsub c d hbelow).imp fun _ _ => hbelow.trans
  have hlike := hab.1.below
  unfold TypeGraph.flattenAlternate
  generalize g.shape a = s at hlike ⊢
  generalize h.shape b = t at hlike ⊢
  cases hlike with
  | nullable hoperand => exact (hcalls _ _ hoperand.toAlikeIn).mark true
  | _ => exact hcalls a b ⟨hab.1, .refl, .refl⟩

theorem flattenUnion (hxy : g.Alike h x y) (hx : g.isUnion x = true)
    (hsub : ∀ a b, g.AlikeBelow h x y a b → Flattened.Like (g.AlikeIn h a b) (sub a) (sub' b)) :
    Flattened.Like (g.AlikeBelow h x y) (g.flattenNode sub x) (h.flattenNode sub' y) := by
  have hlike := hxy.below
  unfold TypeGraph.isUnion at hx
  unfold flattenNode
  generalize g.shape x = s at hlike hx ⊢
  generalize h.shape y = t at hlike ⊢
  cases hlike with
  | union halternates =>
      refine .join ?_
      rw [List.forall₂_map_left_iff, List.forall₂_map_right_iff]
      exact halternates.imp fun _ _ => flattenAlternate hsub
  | _ => cases hx

omit [DecidableEq κ] in
theorem flattenNode_of_not_union (hx : g.isUnion x = false) :
    g.flattenNode sub x = g.asAlternate x := by
  unfold flattenNode
  cases hshape : g.shape x with
  | union alternates => simp [TypeGraph.isUnion, hshape, Shape.isUnion] at hx
  | _ => rfl

theorem contribution (hxy : g.Alike h x y) {seen : List ι} {seen' : List κ}
    (hseen : g.LeadsTo seen x) (hseen' : h.LeadsTo seen' y) :
    Flattened.Like (g.AlikeIn h x y) (g.contribution seen x) (h.contribution seen' y) := by
  refine hxy.walk (R := fun x y => Flattened.Like (g.AlikeIn h x y)) ?_ hseen hseen'
  intro _ _ sub sub' x y hxy _ _ hsub
  cases hx : g.isUnion x with
  | true => exact (hxy.flattenUnion hx hsub).imp fun _ _ hab => hab.toAlikeIn
  | false =>
      have hx' : h.isUnion y = false := hxy.like.isUnion_eq.symm.trans hx
      rw [flattenNode_of_not_union hx, flattenNode_of_not_union hx']
      exact hxy.asAlternate

theorem flatten (hxy : g.Alike h x y) (hx : g.isUnion x = true) {seen : List ι} {seen' : List κ}
    (hseen : ∀ p ∈ seen, ReflTransGen g.Inside p x)
    (hseen' : ∀ p ∈ seen', ReflTransGen h.Inside p y) :
    Flattened.Like (g.AlikeBelow h x y) (g.flatten seen x) (h.flatten seen' y) := by
  refine hxy.flattenUnion hx fun a b hab => hab.1.contribution ?_ ?_
  · exact fun p hp => TransGen.trans_right (hseen p hp) hab.2.1
  · exact fun p hp => TransGen.trans_right (hseen' p hp) hab.2.2

/-! ## Nodes that are shown -/

theorem standIn (hxy : g.Alike h x y) (mode : Mode) :
    Option.Rel (g.AlikeIn h x y) (g.standIn? mode x) (h.standIn? mode y) := by
  cases mode with
  | declared => exact .some ⟨hxy, .refl, .refl⟩
  | resolved =>
      refine hxy.walk (R := fun x y => Option.Rel (g.AlikeIn h x y)) ?_ (by simp [LeadsTo])
        (by simp [LeadsTo])
      intro _ _ sub sub' x y hxy _ _ hsub
      have hlike := hxy.below
      generalize g.shape x = s at hlike ⊢
      generalize h.shape y = t at hlike ⊢
      cases hlike with
      | enumElement _ hunderlying =>
          exact optionRel_imp (fun a b _ _ hab => (hunderlying.trans hab).toAlikeIn)
            (hsub _ _ hunderlying)
      | _ => exact .some ⟨hxy, .refl, .refl⟩

end Alike

end TypeGraph

end DocMarkup
