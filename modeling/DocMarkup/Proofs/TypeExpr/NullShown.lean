import DocMarkup.Proofs.TypeExpr.Marks
import Mathlib.Data.List.Basic

/-!
How null is shown. Main statements: an acyclic type that is marked nullable is formatted as its
union with null, if null is not in it already or is simplified away there
(`TypeGraph.marked_like_with_null`). What is shown of a type made of names, unions and marks begins
with a mark exactly if the type is nullable or stands for a nullable type
(`TypeGraph.mark_shown_iff`): a type that is marked non-null shows what is marked, though it is not
nullable itself.
-/

namespace DocMarkup

namespace TypeGraph

open Relation Layout

variable {ι : Type} [DecidableEq ι] {g : TypeGraph ι} {x y t n z u : ι} {list alternates : List ι}

/-! ## Null beside a type -/

/-- A mark before a union that is not marked itself reads as the mark of a union that is. -/
theorem comment_marked_list (nullable : Bool) (list : List ι) (r : LinkResolver) :
    comment r ((if nullable then [] else [.text "?"]) ++ g.unfoldedLayout false nullable list) =
      comment r (.text "?" :: layoutShown (g.layout .resolved) (g.shownOf list)) := by
  rw [unfoldedLayout_eq]
  cases nullable with
  | true =>
      rw [if_pos rfl, if_pos rfl]
      split <;> rfl
  | false =>
      rw [if_neg Bool.false_ne_true, if_neg Bool.false_ne_true]
      split <;> rfl

omit [DecidableEq ι] in
theorem shownOf_append_null (hz : g.isNull z = true) (hkept : g.keptAlternates false list ≠ []) :
    g.shownOf (list ++ [z]) = g.shownOf list := by
  have hsame : g.keptAlternates false (list ++ [z]) = g.keptAlternates false list := by
    simp [keptAlternates, hz]
  rw [shownOf_of_kept hkept, shownOf_of_kept (hsame ▸ hkept), hsame]

/-- Null changes a type only by its mark: the type is a union of more than null, or no union and not
nullable. -/
def TakesNull (g : TypeGraph ι) (t : ι) : Prop :=
  (g.isUnion t = true ∧ ∃ y ∈ (g.flatten [t] t).alternates, g.isNull y = false) ∨
    (g.isUnion t = false ∧ g.isNullable t = false)

/-- What a type contributes to a union is what it shows under a mark. -/
theorem TakesNull.exists_list (h : g.TakesNull t) (ht : g.Acyclic t)
    (hn : g.shape n = .nullable t) :
    ∃ list, g.Unfolds [t] list ∧ g.keptAlternates false list ≠ [] ∧ ∀ r,
      comment r (g.layout .resolved n) =
        comment r (.text "?" :: layoutShown (g.layout .resolved) (g.shownOf list)) := by
  have hlayout := layout_of_mark hn (ht.of_mark hn)
  rcases h with ⟨hunion, y, hy, hnull⟩ | ⟨hunion, hnullable⟩
  · obtain ⟨inner, hshape⟩ := exists_union hunion
    have hinner : g.Unfolds inner (g.flatten [t] t).alternates := by
      refine ht.unfolds_flatten hshape fun z hz hmem => ?_
      obtain rfl := List.mem_singleton.1 hmem
      exact ht.not_contains hz
    have hkept : y ∈ g.keptAlternates false (g.flatten [t] t).alternates := by
      simp [keptAlternates, hy, hnull]
    refine ⟨_, .of_union hshape hinner, List.ne_nil_of_mem hkept, fun r => ?_⟩
    rw [hlayout, layout, ht.layoutAt_eq hshape (by simp) hinner, comment_marked_list]
  · have hlist : g.Unfolds [t] [t] := .single (withoutMark_of_not_nullable hnullable) hunion
    have hnull : g.isNull t = false := by
      refine Bool.eq_false_iff.2 fun hnull => ?_
      simp [isNullable_of_isNull hnull] at hnullable
    have hkept : g.keptAlternates false [t] = [t] := keptAlternates_singleton hnull
    refine ⟨[t], hlist, by simp [hkept], fun r => ?_⟩
    rw [hlayout, if_neg (by simp [hnullable]), shownOf_of_kept (by simp [hkept]), hkept]
    rfl

/-- A type that null changes only by its mark is formatted alike under a mark and in a union with
null. -/
theorem marked_like_with_null (g : TypeGraph ι) {t n z u : ι} (ht : g.Acyclic t)
    (htakes : g.TakesNull t) (hn : g.shape n = .nullable t) (hz : g.shape z = .primitive .null)
    (hu : g.shape u = .union [t, z]) (r : LinkResolver) :
    g.format .resolved r (some n) = g.format .resolved r (some u) := by
  have hnull : g.isNull z = true := by
    rw [isNull, hz]
    rfl
  have hzself : g.Acyclic z := .of_parts (by simp [parts, hz])
  have huself : g.Acyclic u := .of_parts (by simpa [parts, hu] using ⟨ht, hzself⟩)
  have hzlist : g.Unfolds [z] [z] :=
    .single (by rw [withoutMark, hz]) (by simp [isUnion, hz, Shape.isUnion])
  have hnullable : g.isNullable u = true := by
    simp [isNullable_of_union hu, isNullable_of_isNull hnull]
  obtain ⟨list, hlist, hkept, hmarked⟩ := htakes.exists_list ht hn
  calc g.format .resolved r (some n)
      = comment r (.text "?" :: layoutShown (g.layout .resolved) (g.shownOf list)) := by
        rw [format_eq_comment, hmarked r]
    _ = comment r (g.unfoldedLayout false true (list ++ [z])) := by
        rw [← shownOf_append_null hnull hkept, ← comment_marked_list true]
        rfl
    _ = g.format .resolved r (some u) := by
        rw [format_eq_comment, layout, huself.layoutAt_eq hu (by simp) (hlist.append hzlist),
          hnullable]

/-- A union in which null is hidden, and a marked type that is marked non-null, each under a mark
and in a union with null. -/
def annotated : TypeGraph (Fin 15) where
  shape
    | 0 => .nullable 2
    | 1 => .union [2, 6]
    | 2 => .union [3, 4]
    | 3 => .nullable 5
    | 4 => .primitive .string
    | 5 => .union [6, 7]
    | 6 => .primitive .null
    | 7 => .named "a.B"
    | 8 => .nonNullable 9
    | 9 => .nullable 7
    | 10 => .union [8]
    | 11 => .nullable 8
    | 12 => .union [8, 6]
    | 13 => .nonNullable 7
    | 14 => .union [13, 9]
  nodes := List.finRange 15
  mem_nodes := List.mem_finRange

theorem annotated_acyclic (x : Fin 15) : annotated.Acyclic x := by
  revert x
  decide +kernel

theorem marked_like_with_null_annotated :
    (annotated.Acyclic 2 ∧ annotated.TakesNull 2 ∧
      ∀ r, annotated.format .resolved r (some 0) = annotated.format .resolved r (some 1)) ∧
    annotated.Acyclic 8 ∧ annotated.TakesNull 8 ∧
      ∀ r, annotated.format .resolved r (some 11) = annotated.format .resolved r (some 12) := by
  have htakes : annotated.TakesNull 2 := .inl ⟨rfl, 7, by decide +kernel, rfl⟩
  have htakes' : annotated.TakesNull 8 := .inr ⟨rfl, by decide +kernel⟩
  exact ⟨⟨annotated_acyclic 2, htakes,
      marked_like_with_null annotated (annotated_acyclic 2) htakes rfl rfl rfl⟩,
    annotated_acyclic 8, htakes',
      marked_like_with_null annotated (annotated_acyclic 8) htakes' rfl rfl rfl⟩

/-! ## Marks at the beginning -/

/-- A property of an acyclic type can be shown from that of the types inside it. -/
theorem Acyclic.induction {motive : ι → Prop} (hx : g.Acyclic x)
    (step : ∀ y, g.Reaches .resolved x y → (∀ z, g.Contains .resolved y z → motive z) → motive y) :
    motive x := by
  -- on the path are types that contain the one which is looked at, so that none of them comes again
  suffices key : ∀ path y, g.Reaches .resolved x y → (∀ p ∈ path, g.Contains .resolved p y) →
      motive y from
    key [] x .refl (by simp)
  intro path y
  induction path, y using g.path_induction with
  | again path y hmem => exact fun hy hpath => absurd (hpath y hmem) (hx y hy)
  | enter path y _ ih =>
      intro hy hpath
      refine step y hy fun z hz => ih z (hy.trans (TransGen.to_reflTransGen hz)) fun p hp => ?_
      rcases List.mem_cons.1 hp with rfl | hp
      · exact hz
      · exact (hpath p hp).trans hz

/-- A name that does not begin like a mark, or a type of values. -/
def isPlainName (g : TypeGraph ι) (x : ι) : Bool :=
  match g.shape x with
  | .primitive kind => kind == .boolean || kind == .number || kind == .string
  | .named name => name.toList.head? != some '?'
  | .instanceOf name => name.toList.head? != some '?'
  | _ => false

/-- A plain name, a union or a marked type. -/
def isBasic (g : TypeGraph ι) (x : ι) : Bool :=
  match g.shape x with
  | .union _ => true
  | .nullable _ => true
  | .nonNullable _ => true
  | _ => g.isPlainName x

/-- A type shows another one and nothing else: a type that is marked non-null shows what is marked,
and a union of a single type in the end shows that type. -/
def StandsFor (g : TypeGraph ι) (x y : ι) : Prop :=
  g.shape x = .nonNullable y ∨
    ∃ alternates, g.shape x = .union alternates ∧ g.Unfolds alternates [y]

/-- A type is nullable, or stands for a type that is. -/
def ShowsNull (g : TypeGraph ι) (x : ι) : Prop :=
  ∃ y, ReflTransGen g.StandsFor x y ∧ g.isNullable y = true

/-- Something nullable is marked non-null. -/
def deniesNull (g : TypeGraph ι) (x : ι) : Bool :=
  match g.shape x with
  | .nonNullable operand => g.isNullable operand
  | _ => false

theorem showsNull_iff :
    g.ShowsNull x ↔ g.isNullable x = true ∨ ∃ y, g.StandsFor x y ∧ g.ShowsNull y := by
  constructor
  · rintro ⟨z, hz, hnullable⟩
    rcases ReflTransGen.cases_head hz with rfl | ⟨y, hy, hyz⟩
    · exact .inl hnullable
    · exact .inr ⟨y, hy, z, hyz, hnullable⟩
  · rintro (hnullable | ⟨y, hy, z, hz, hnullable⟩)
    · exact ⟨x, .refl, hnullable⟩
    · exact ⟨z, .head hy hz, hnullable⟩

end TypeGraph

namespace Layout

/-- What a layout shows begins with a mark. -/
def BeginsMarked (l : Layout) : Prop := l.wording.toList.head? = some '?'

theorem beginsMarked_mark (l : Layout) : BeginsMarked (.text "?" :: l) := by
  rw [BeginsMarked, wording_cons, Piece.wording, String.toList_append]
  rfl

theorem beginsMarked_note {n : Note} {l : Layout} :
    BeginsMarked (.note n :: l) ↔ BeginsMarked l := by
  rw [BeginsMarked, wording_cons, Piece.wording, String.empty_append, BeginsMarked]

theorem beginsMarked_name {policy : Policy} {name : String} :
    BeginsMarked [.name policy name] ↔ name.toList.head? = some '?' := by
  rw [BeginsMarked, wording_cons, Piece.wording]
  simp [wording]

theorem not_beginsMarked_enclosed (parts : List Layout) :
    ¬ BeginsMarked (enclosed "(" "|" ")" parts) := by
  rw [BeginsMarked, enclosed, List.cons_append, wording_cons, Piece.wording, String.toList_append]
  simp

end Layout

namespace TypeGraph

open Relation Layout

variable {ι : Type} [DecidableEq ι] {g : TypeGraph ι} {x y t n z u : ι} {list alternates : List ι}

omit [DecidableEq ι] in
theorem beginsMarked_layoutShown (sub : ι → Layout) (list : List ι) :
    BeginsMarked (layoutShown sub list) ↔ ∃ y, list = [y] ∧ BeginsMarked (sub y) := by
  match list with
  | [] => exact iff_of_false (not_beginsMarked_enclosed []) (by simp)
  | [y] => simp [layoutShown]
  | y :: z :: list =>
      exact iff_of_false (not_beginsMarked_enclosed ((y :: z :: list).map sub)) (by simp)

theorem beginsMarked_unfoldedLayout (nullable : Bool) (list : List ι) :
    BeginsMarked (g.unfoldedLayout false nullable list) ↔
      nullable = true ∨ ∃ y, g.shownOf list = [y] ∧ BeginsMarked (g.layout .resolved y) := by
  have hnote : BeginsMarked (g.unfoldedLayout false nullable list) ↔
      BeginsMarked ((if nullable then [.text "?"] else []) ++
        layoutShown (g.layout .resolved) (g.shownOf list)) := by
    rw [unfoldedLayout_eq]
    split
    · exact beginsMarked_note
    · rfl
  rw [hnote]
  cases nullable with
  | true => simpa using beginsMarked_mark _
  | false => simpa using beginsMarked_layoutShown _ _

theorem layout_of_nonNull (hn : g.shape n = .nonNullable t) (hself : g.Acyclic n) :
    g.layout .resolved n = g.layout .resolved t := by
  have henum : ∀ y, ¬ g.EnumStep n y := by
    rintro y ⟨name, hy⟩
    simp [hn] at hy
  rw [layout, layoutAt_of_not_mem henum (by simp), layoutResolved, hn,
    ← hself.layoutAt_part (by simp [parts, hn])]

/-- A plain name shows its own name, and neither is nullable nor stands for another type. -/
theorem layout_of_plainName (hx : g.isPlainName x = true) :
    (∃ policy name, g.layout .resolved x = [.name policy name] ∧ name.toList.head? ≠ some '?') ∧
      g.isNullable x = false ∧ ∀ y, ¬ g.StandsFor x y := by
  have hunion : g.isUnion x = false := by
    cases hshape : g.shape x <;> simp_all [isPlainName, isUnion, Shape.isUnion]
  have henum : ∀ y, ¬ g.EnumStep x y := by
    rintro y ⟨name, hy⟩
    simp [isPlainName, hy] at hx
  rw [layout, layoutAt_of_not_mem henum (by simp), isNullable_of_not_union hunion]
  unfold isPlainName at hx
  unfold layoutResolved isOpenlyNullable StandsFor
  cases hshape : g.shape x with
  | primitive kind =>
      have hkind : (kind = .boolean ∨ kind = .number) ∨ kind = .string := by simpa [hshape] using hx
      rcases hkind with (rfl | rfl) | rfl
      · exact ⟨⟨_, _, rfl, by decide⟩, rfl, by simp⟩
      · exact ⟨⟨_, _, rfl, by decide⟩, rfl, by simp⟩
      · exact ⟨⟨_, _, rfl, by decide⟩, rfl, by simp⟩
  | named name => exact ⟨⟨_, name, rfl, by simpa [hshape] using hx⟩, rfl, by simp⟩
  | instanceOf name => exact ⟨⟨_, name, rfl, by simpa [hshape] using hx⟩, rfl, by simp⟩
  | _ => simp [hshape] at hx

theorem beginsMarked_of_plainName (hx : g.isPlainName x = true) :
    BeginsMarked (g.layout .resolved x) ↔ g.ShowsNull x := by
  obtain ⟨⟨policy, name, hlayout, hname⟩, hnullable, hstands⟩ := layout_of_plainName hx
  rw [hlayout, beginsMarked_name, showsNull_iff, hnullable]
  simp [hname, hstands]

theorem beginsMarked_of_mark (hn : g.shape n = .nullable t) (hself : g.Acyclic n)
    (ht : BeginsMarked (g.layout .resolved t) ↔ g.ShowsNull t) :
    BeginsMarked (g.layout .resolved n) ↔ g.ShowsNull n := by
  have hnull : g.ShowsNull n := showsNull_iff.2 (.inl (isNullable_of_mark hn))
  refine iff_of_true ?_ hnull
  rw [layout_of_mark hn hself]
  cases hnullable : g.isNullable t with
  | true => exact ht.2 (showsNull_iff.2 (.inl hnullable))
  | false => exact beginsMarked_mark _

theorem beginsMarked_of_nonNull (hn : g.shape n = .nonNullable t) (hself : g.Acyclic n)
    (ht : BeginsMarked (g.layout .resolved t) ↔ g.ShowsNull t) :
    BeginsMarked (g.layout .resolved n) ↔ g.ShowsNull n := by
  have hnullable : g.isNullable n = false := by
    rw [isNullable_of_not_union (by simp [isUnion, hn, Shape.isUnion]), isOpenlyNullable, hn]
  rw [layout_of_nonNull hn hself, ht, showsNull_iff (x := n), hnullable]
  simp [StandsFor, hn]

theorem beginsMarked_of_union (hu : g.shape u = .union alternates) (hself : g.Acyclic u)
    (hlist : g.Unfolds alternates list) (hnull : ∀ y ∈ list, g.isNull y = false)
    (hy : ∀ y ∈ list, BeginsMarked (g.layout .resolved y) ↔ g.ShowsNull y) :
    BeginsMarked (g.layout .resolved u) ↔ g.ShowsNull u := by
  have hshown : g.shownOf list = list := by
    have hkept : g.keptAlternates false list = list :=
      List.filter_eq_self.2 fun y hy => by simp [hnull y hy]
    rw [shownOf, hkept, ite_self]
  have hstands : ∀ y, g.StandsFor u y ↔ list = [y] := by
    intro y
    constructor
    · rintro (hmark | ⟨alternates', hu', hy⟩)
      · simp [hu] at hmark
      · rw [hu] at hu'
        cases hu'
        exact hlist.unique hy
    · rintro rfl
      exact .inr ⟨alternates, hu, hlist⟩
  rw [layout, hself.layoutAt_eq hu (by simp) hlist, beginsMarked_unfoldedLayout, showsNull_iff,
    hshown]
  refine or_congr Iff.rfl (exists_congr fun y => ?_)
  rw [hstands]
  exact and_congr_right fun heq => hy y (by simp [heq])

/-! ## Basic types -/

omit [DecidableEq ι] in
/-- A property that passes from what is marked to the marked type, and from an alternate to the
union, passes from the list of a union to its alternates. -/
theorem Unfolds.exists_alternate {P : ι → Prop} (hmark : ∀ x, P (g.withoutMark x) → P x)
    (hunion : ∀ u inner, g.shape u = .union inner → (∃ x ∈ inner, P x) → P u)
    (h : g.Unfolds alternates list) (hlist : ∃ y ∈ list, P y) :
    ∃ x ∈ alternates, P x := by
  induction h with
  | nil => exact hlist
  | @union x _ _ _ _ hx _ _ ihinner ihrest =>
      obtain ⟨y, hy, hP⟩ := hlist
      rcases List.mem_append.1 hy with hy | hy
      · exact ⟨x, List.mem_cons_self, hmark x (hunion _ _ hx (ihinner ⟨y, hy, hP⟩))⟩
      · obtain ⟨v, hv, hP⟩ := ihrest ⟨y, hy, hP⟩
        exact ⟨v, List.mem_cons_of_mem x hv, hP⟩
  | @other x _ _ _ _ ih =>
      obtain ⟨y, hy, hP⟩ := hlist
      rcases List.mem_cons.1 hy with rfl | hy
      · exact ⟨x, List.mem_cons_self, hmark x hP⟩
      · obtain ⟨v, hv, hP⟩ := ih ⟨y, hy, hP⟩
        exact ⟨v, List.mem_cons_of_mem x hv, hP⟩

omit [DecidableEq ι] in
theorem Unfolds.exists_reaches (h : g.Unfolds alternates list) (hy : y ∈ list) :
    ∃ x ∈ alternates, g.Reaches .resolved x y := by
  refine h.exists_alternate (fun x hx => (reaches_withoutMark x).trans hx) ?_ ⟨y, hy, .refl⟩
  rintro u inner hu ⟨x, hx, hxy⟩
  exact .trans (.of_mem_parts (by simpa [parts, hu] using hx)) hxy

theorem Unfolds.exists_nullable (h : g.Unfolds alternates list)
    (hlist : ∃ y ∈ list, g.isNullable y = true) :
    ∃ x ∈ alternates, g.isNullable x = true := by
  refine h.exists_alternate (fun x hx => ?_) (fun u inner hu hinner => ?_) hlist
  · unfold withoutMark at hx
    cases hshape : g.shape x with
    | nullable operand => exact isNullable_of_mark hshape
    | _ => simpa [hshape] using hx
  · rwa [isNullable_of_union hu, List.any_eq_true]

theorem beginsMarked_iff (hx : g.Acyclic x)
    (hbasic : ∀ y, g.Reaches .resolved x y → g.isBasic y = true) :
    BeginsMarked (g.layout .resolved x) ↔ g.ShowsNull x := by
  refine hx.induction (motive := fun y => BeginsMarked (g.layout .resolved y) ↔ g.ShowsNull y)
    fun y hy ih => ?_
  have hself : g.Acyclic y := hx.of_reaches hy
  have hname := hbasic y hy
  unfold isBasic at hname
  cases hshape : g.shape y with
  | nullable t => exact beginsMarked_of_mark hshape hself (ih t (.single (by simp [parts, hshape])))
  | nonNullable t =>
      exact beginsMarked_of_nonNull hshape hself (ih t (.single (by simp [parts, hshape])))
  | union alternates =>
      have hlist : g.Unfolds alternates (g.flatten [] y).alternates :=
        hself.unfolds_flatten hshape (by simp)
      have hinside : ∀ z ∈ (g.flatten [] y).alternates, g.Contains .resolved y z := by
        intro z hz
        obtain ⟨v, hv, hvz⟩ := hlist.exists_reaches hz
        exact .of_part (by simpa [parts, hshape] using hv) hvz
      refine beginsMarked_of_union hshape hself hlist (fun z hz => ?_) fun z hz =>
        ih z (hinside z hz)
      refine Bool.eq_false_iff.2 fun hnull => ?_
      have hz := hbasic z (hy.trans (TransGen.to_reflTransGen (hinside z hz)))
      simp [isBasic, isPlainName, shape_of_isNull hnull] at hz
  | _ =>
      rw [hshape] at hname
      exact beginsMarked_of_plainName hname

/-- Where nothing nullable is marked non-null, a type that stands for a nullable one is nullable. -/
theorem isNullable_of_showsNull (hdenies : ∀ y, g.Reaches .resolved x y → g.deniesNull y = false)
    (h : g.ShowsNull x) : g.isNullable x = true := by
  obtain ⟨z, hz, hnullable⟩ := h
  induction hz using ReflTransGen.head_induction_on with
  | refl => exact hnullable
  | @head y v hstep _ ih =>
      rcases hstep with hy | ⟨alternates, hy, hlist⟩
      · have hreach : g.Reaches .resolved y v := .of_mem_parts (by simp [parts, hy])
        have hv : g.isNullable v = true := ih fun w hw => hdenies w (hreach.trans hw)
        have hdenied := hdenies y .refl
        simp [deniesNull, hy, hv] at hdenied
      · obtain ⟨w, hw, hwv⟩ := hlist.exists_reaches (List.mem_singleton_self v)
        have hreach : g.Reaches .resolved y v :=
          .trans (.of_mem_parts (by simpa [parts, hy] using hw)) hwv
        have hv : g.isNullable v = true := ih fun w hw => hdenies w (hreach.trans hw)
        rw [isNullable_of_union hy, List.any_eq_true]
        exact hlist.exists_nullable ⟨v, List.mem_singleton_self v, hv⟩

/-- What is shown of an acyclic type made of names, unions and marks begins with a mark exactly if
the type is nullable or stands for a type that is. So it begins with one if the type is nullable,
and only then if nothing nullable in it is marked non-null. -/
theorem mark_shown_iff (g : TypeGraph ι) {x : ι} (hx : g.Acyclic x)
    (hbasic : ∀ y, g.Reaches .resolved x y → g.isBasic y = true) {r : LinkResolver} {c : Comment}
    (h : g.format .resolved r (some x) = .ok c) :
    (c.text.toList.head? = some '?' ↔ g.ShowsNull x) ∧
    (g.isNullable x = true → c.text.toList.head? = some '?') ∧
    ((∀ y, g.Reaches .resolved x y → g.deniesNull y = false) →
      (c.text.toList.head? = some '?' ↔ g.isNullable x = true)) := by
  have htext : c.text.toList.head? = some '?' ↔ g.ShowsNull x := by
    rw [format_eq_comment] at h
    rw [(text_of_comment h).1]
    exact beginsMarked_iff hx hbasic
  have hnullable : g.isNullable x = true → g.ShowsNull x :=
    fun hnullable => showsNull_iff.2 (.inl hnullable)
  refine ⟨htext, fun hn => htext.2 (hnullable hn), fun hdenies => htext.trans ⟨?_, hnullable⟩⟩
  exact isNullable_of_showsNull hdenies

theorem mark_shown_annotated :
    (annotated.Acyclic 10 ∧ (∀ y, annotated.Reaches .resolved 10 y → annotated.isBasic y = true) ∧
      annotated.isNullable 10 = false ∧ annotated.ShowsNull 10 ∧
      ∃ c, annotated.format .resolved (.ofLists [] []) (some 10) = .ok c ∧
        c.text.toList.head? = some '?') ∧
    annotated.Acyclic 14 ∧ (∀ y, annotated.Reaches .resolved 14 y → annotated.isBasic y = true) ∧
      (∀ y, annotated.Reaches .resolved 14 y → annotated.deniesNull y = false) ∧
      ∃ c, annotated.format .resolved (.ofLists [] []) (some 14) = .ok c ∧
        (c.text.toList.head? = some '?' ↔ annotated.isNullable 14 = true) := by
  have hbasic : ∀ y, annotated.Reaches .resolved 10 y → annotated.isBasic y = true := by
    decide +kernel
  have hbasic' : ∀ y, annotated.Reaches .resolved 14 y → annotated.isBasic y = true := by
    decide +kernel
  have hdenies : ∀ y, annotated.Reaches .resolved 14 y → annotated.deniesNull y = false := by
    decide +kernel
  have hc : annotated.format .resolved (.ofLists [] []) (some 10) =
      .ok ⟨[{ text := "?a.B", style := .literal }]⟩ := by
    decide +kernel
  have hc' : annotated.format .resolved (.ofLists [] []) (some 14) =
      .ok ⟨[{ text := "?(a.B|a.B)", style := .literal }]⟩ := by decide +kernel
  have hshown := mark_shown_iff annotated (annotated_acyclic 10) hbasic hc
  have hshown' := mark_shown_iff annotated (annotated_acyclic 14) hbasic' hc'
  exact ⟨⟨annotated_acyclic 10, hbasic, by decide +kernel, hshown.1.1 rfl, _, hc, rfl⟩,
    annotated_acyclic 14, hbasic', hdenies, _, hc', hshown'.2.2 hdenies⟩

/-- A nullable type that is marked non-null is shown with a mark. -/
theorem mark_shown_not_nullable :
    annotated.Acyclic 8 ∧ (∀ y, annotated.Reaches .resolved 8 y → annotated.isBasic y = true) ∧
      (annotated.format .resolved (.ofLists [] []) (some 8)).toOption.map Comment.text =
        some "?a.B" ∧
      annotated.isNullable 8 = false :=
  ⟨annotated_acyclic 8, by decide +kernel, by decide +kernel, by decide +kernel⟩

end TypeGraph

end DocMarkup
