import DocMarkup.Proofs.TypeExpr.Unfolding
import DocMarkup.Proofs.TypeExpr.Wording

/-!
Alternates that are marked nullable twice. Flattening takes one mark off an alternate, and what is
left is an alternate like any other: it shows the mark that remains, unless what is marked admits
null of itself. Main statement: in an acyclic union a second mark is without effect exactly if it is
hidden in this way (`TypeGraph.marked_twice_like_once`); everywhere else the union reads
differently, since what it shows has another width (`TypeGraph.shownWidth_ne`).
-/

namespace DocMarkup.TypeGraph

open Layout

variable {ι : Type} {g : TypeGraph ι} {x y t n u : ι} {list list' before after : List ι}

/-! ## What is shown of a list -/

/-- The alternates of a list that are shown. -/
def shownOf (g : TypeGraph ι) (list : List ι) : List ι :=
  if (g.keptAlternates false list).isEmpty then list else g.keptAlternates false list

theorem shownOf_of_kept (h : g.keptAlternates false list ≠ []) :
    g.shownOf list = g.keptAlternates false list := by
  rw [shownOf, if_neg (by simpa using h)]

theorem shownOf_of_none (h : g.keptAlternates false list = []) : g.shownOf list = list := by
  rw [shownOf, if_pos (by simp [h])]

theorem keptAlternates_append (list list' : List ι) :
    g.keptAlternates false (list ++ list') =
      g.keptAlternates false list ++ g.keptAlternates false list' :=
  List.filter_append ..

theorem keptAlternates_singleton (hx : g.isNull x = false) : g.keptAlternates false [x] = [x] := by
  simp [keptAlternates, hx]

theorem isNull_of_none (h : g.keptAlternates false list = []) (hx : x ∈ list) :
    g.isNull x = true := by
  simp only [keptAlternates, List.filter_eq_nil_iff] at h
  simpa using h x hx

theorem keptAlternates_place (hx : g.isNull x = false) (before after : List ι) :
    g.keptAlternates false (before ++ [x] ++ after) =
      g.keptAlternates false before ++ [x] ++ g.keptAlternates false after := by
  rw [keptAlternates_append, keptAlternates_append, keptAlternates_singleton hx]

theorem shownOf_place (hx : g.isNull x = false) (before after : List ι) :
    g.shownOf (before ++ [x] ++ after) =
      g.keptAlternates false before ++ [x] ++ g.keptAlternates false after := by
  rw [shownOf_of_kept, keptAlternates_place hx]
  rw [keptAlternates_place hx]
  simp

theorem layoutShown_of_map {sub : ι → Layout} (h : list.map sub = list'.map sub) :
    layoutShown sub list = layoutShown sub list' := by
  match list, list' with
  | [], [] => rfl
  | [x], [y] => simpa [layoutShown] using h
  | x :: y :: list, x' :: y' :: list' => exact congrArg (enclosed _ _ _) h
  | [], _ :: _ => simp at h
  | _ :: _, [] => simp at h
  | [_], _ :: _ :: _ => simp at h
  | _ :: _ :: _, [_] => simp at h

/-! ## Alternates that are marked -/

theorem shape_of_isNull (hx : g.isNull x = true) : g.shape x = .primitive .null := by
  cases hshape : g.shape x <;> simp_all [isNull, Shape.isPrimitive]

theorem isNull_of_mark (hn : g.shape n = .nullable t) : g.isNull n = false := by
  rw [isNull, hn]
  rfl

theorem Acyclic.of_mark (ht : g.Acyclic t) (hn : g.shape n = .nullable t) : g.Acyclic n :=
  .of_parts fun y hy => by
    simp only [parts, hn, List.mem_singleton] at hy
    rwa [hy]

theorem unfolds_mark (hn : g.shape n = .nullable t) (ht : g.isUnion t = false) :
    g.Unfolds [n] [t] := by
  have hmark : g.withoutMark n = t := by rw [withoutMark, hn]
  have hunfolds : g.Unfolds [n] [g.withoutMark n] := .other (by rwa [hmark]) .nil
  rwa [hmark] at hunfolds

theorem unfolds_mark_of_union {inner : List ι} (hn : g.shape n = .nullable t)
    (ht : g.shape t = .union inner) (hinner : g.Unfolds inner list) :
    g.Unfolds [n] list := by
  have hmark : g.withoutMark n = t := by rw [withoutMark, hn]
  simpa using Unfolds.union (x := n) (by rwa [hmark]) hinner .nil

variable [DecidableEq ι]

/-! ## Widths -/

theorem unfoldedLayout_eq (nullable : Bool) (list : List ι) :
    g.unfoldedLayout false nullable list =
      (if (g.keptAlternates false list).length ≠ list.length then
        [.note (.simplified list.length (g.keptAlternates false list).length)] else []) ++
      (if nullable then [.text "?"] else []) ++ layoutShown (g.layout .resolved) (g.shownOf list) :=
  rfl

/-- The width of what is shown of alternates. -/
def shownWidth (g : TypeGraph ι) (list : List ι) : Nat :=
  width (layoutShown (g.layout .resolved) list)

/-- The width of alternates with a bar after each of them. -/
def barred (g : TypeGraph ι) (list : List ι) : Nat := barredWidth (list.map (g.layout .resolved))

theorem shownWidth_singleton (x : ι) : g.shownWidth [x] = width (g.layout .resolved x) := rfl

theorem barred_singleton (x : ι) : g.barred [x] = width (g.layout .resolved x) + 1 := rfl

theorem barred_append (list list' : List ι) :
    g.barred (list ++ list') = g.barred list + g.barred list' := by
  rw [barred, List.map_append, barredWidth_append, barred, barred]

theorem shownWidth_of_many (h : 1 < list.length) : g.shownWidth list = g.barred list + 1 :=
  width_layoutShown _ h

theorem shownWidth_le (h : list ≠ []) : g.shownWidth list ≤ g.barred list + 1 := by
  match list with
  | [x] =>
      rw [shownWidth_singleton, barred_singleton]
      omega
  | x :: y :: list => exact Nat.le_of_eq (shownWidth_of_many (by simp))

theorem barred_le (list : List ι) : g.barred list ≤ g.shownWidth list + 1 := by
  match list with
  | [] => exact Nat.zero_le _
  | [x] => exact Nat.le_of_eq (barred_singleton x)
  | x :: y :: list =>
      rw [shownWidth_of_many (by simp)]
      omega

theorem width_unfoldedLayout (nullable : Bool) (list : List ι) :
    width (g.unfoldedLayout false nullable list) =
      (if nullable then 1 else 0) + g.shownWidth (g.shownOf list) := by
  have hnote : ∀ n : Note, width [.note n] = 0 := fun n => width_note n []
  have hmark : width [.text "?"] = 1 := rfl
  rw [unfoldedLayout_eq, width_append, width_append, shownWidth]
  cases nullable <;> split <;> simp [hnote, hmark]

/-! ## Null -/

theorem isNullable_of_isNull (hx : g.isNull x = true) : g.isNullable x = true :=
  isNullable_iff.2 (.inl (by simp [isOpenlyNullable, shape_of_isNull hx, PrimitiveKind.isNullable]))

theorem width_layout_of_isNull (hx : g.isNull x = true) : width (g.layout .resolved x) = 4 := by
  have hshape := shape_of_isNull hx
  have henum : ∀ y, ¬ g.EnumStep x y := by
    rintro y ⟨name, hy⟩
    simp [hshape] at hy
  have hwidth : width [.name .required "null"] = 4 := by decide
  rw [layout, layoutAt_of_not_mem henum (by simp), layoutResolved, hshape]
  exact hwidth

theorem barred_of_none (h : g.keptAlternates false list = []) :
    g.barred list = 5 * list.length := by
  induction list with
  | nil => rfl
  | cons x list ih =>
      have hx : g.isNull x = true := isNull_of_none h List.mem_cons_self
      have hlist : g.keptAlternates false list = [] := by simpa [keptAlternates, hx] using h
      have hcons : g.barred (x :: list) = width (g.layout .resolved x) + 1 + g.barred list := rfl
      rw [hcons, ih hlist, width_layout_of_isNull hx, List.length_cons]
      omega

/-- Where there is nothing but null, the width tells how often. -/
theorem shownWidth_of_none (h : g.keptAlternates false list = []) :
    list.length = 0 ∧ g.shownWidth list = 2 ∨ list.length = 1 ∧ g.shownWidth list = 4 ∨
      1 < list.length ∧ g.shownWidth list = 5 * list.length + 1 := by
  match list with
  | [] =>
      have hparentheses : width [.text "(", .text ")"] = 2 := by decide
      exact .inl ⟨rfl, hparentheses⟩
  | [x] => exact .inr (.inl ⟨rfl, width_layout_of_isNull (isNull_of_none h List.mem_cons_self)⟩)
  | x :: y :: list =>
      refine .inr (.inr ⟨by simp, ?_⟩)
      rw [shownWidth_of_many (by simp), barred_of_none h]

/-! ## One alternate in the place of others -/

theorem shownWidth_lt (hne : before ++ list ++ after ≠ [])
    (hbarred : g.barred list ≤ width (g.layout .resolved x))
    (halone : before = [] → after = [] → g.shownWidth list < width (g.layout .resolved x)) :
    g.shownWidth (before ++ list ++ after) < g.shownWidth (before ++ [x] ++ after) := by
  by_cases hempty : before = [] ∧ after = []
  · obtain ⟨rfl, rfl⟩ := hempty
    simpa [shownWidth_singleton] using halone rfl rfl
  · have hmany : 1 < (before ++ [x] ++ after).length := by
      rw [← List.length_eq_zero_iff, ← List.length_eq_zero_iff] at hempty
      simp only [List.length_append, List.length_singleton]
      omega
    have hle := shownWidth_le (g := g) hne
    rw [shownWidth_of_many hmany, barred_append, barred_append, barred_singleton]
    rw [barred_append, barred_append] at hle
    omega

/-- An alternate that is wider than a list of others, alone and with its bar, is not shown as wide
in their place. Where nothing of them nor of what is around them is kept, the width of all of them
counts. -/
theorem shownWidth_ne (hx : g.isNull x = false)
    (hkept : g.keptAlternates false list ≠ [] →
      g.barred (g.keptAlternates false list) ≤ width (g.layout .resolved x) ∧
        g.shownWidth (g.keptAlternates false list) < width (g.layout .resolved x))
    (hnone : g.keptAlternates false (before ++ list ++ after) = [] →
      width (g.layout .resolved x) ≠ g.shownWidth (before ++ list ++ after)) :
    g.shownWidth (g.shownOf (before ++ [x] ++ after)) ≠
      g.shownWidth (g.shownOf (before ++ list ++ after)) := by
  rw [shownOf_place hx]
  by_cases hall : g.keptAlternates false (before ++ list ++ after) = []
  · rw [shownOf_of_none hall]
    have hnothing := hnone hall
    simp only [keptAlternates_append, List.append_eq_nil_iff] at hall
    obtain ⟨⟨hbefore, _⟩, hafter⟩ := hall
    rw [hbefore, hafter]
    exact hnothing
  · rw [shownOf_of_kept hall, keptAlternates_append, keptAlternates_append]
    rw [keptAlternates_append, keptAlternates_append] at hall
    refine Nat.ne_of_gt (shownWidth_lt hall ?_ fun hbefore hafter => (hkept ?_).2)
    · by_cases hlist : g.keptAlternates false list = []
      · rw [hlist]
        exact Nat.zero_le _
      · exact (hkept hlist).1
    · rintro hlist
      exact hall (by simp [hbefore, hlist, hafter])

/-! ## Marks -/

theorem layout_of_mark (hn : g.shape n = .nullable t) (hself : g.Acyclic n) :
    g.layout .resolved n =
      (if g.isNullable t then [] else [.text "?"]) ++ g.layout .resolved t := by
  have henum : ∀ y, ¬ g.EnumStep n y := by
    rintro y ⟨name, hy⟩
    simp [hn] at hy
  rw [layout, layoutAt_of_not_mem henum (by simp), layoutResolved, hn,
    ← hself.layoutAt_part (by simp [parts, hn])]

theorem width_layout_of_mark (hn : g.shape n = .nullable t) (hself : g.Acyclic n) :
    width (g.layout .resolved n) =
      (if g.isNullable t then 0 else 1) + width (g.layout .resolved t) := by
  have hmark : width [.text "?"] = 1 := rfl
  rw [layout_of_mark hn hself, width_append]
  split <;> simp [hmark]

theorem shownWidth_mark_ne_of_union {inner : List ι} (ht : g.shape t = .union inner)
    (hlist : g.Unfolds inner list) (hn : g.shape n = .nullable t) (hself : g.Acyclic n) :
    g.shownWidth (g.shownOf (before ++ [n] ++ after)) ≠
      g.shownWidth (g.shownOf (before ++ list ++ after)) := by
  have hunion : g.Acyclic t := hself.of_reaches (.of_mem_parts (by simp [parts, hn]))
  have hwidth : width (g.layout .resolved n) = 1 + g.shownWidth (g.shownOf list) := by
    rw [width_layout_of_mark hn hself, layout, hunion.layoutAt_eq ht (by simp) hlist,
      width_unfoldedLayout]
    cases g.isNullable t <;> simp
  refine shownWidth_ne (isNull_of_mark hn) ?_ ?_
  · intro hkept
    have hbarred := barred_le (g := g) (g.keptAlternates false list)
    rw [hwidth, shownOf_of_kept hkept]
    omega
  · intro hnone
    have hinner : g.keptAlternates false list = [] := by
      simp only [keptAlternates_append, List.append_eq_nil_iff] at hnone
      exact hnone.1.2
    have hall := shownWidth_of_none hnone
    have hsome := shownWidth_of_none hinner
    rw [hwidth, shownOf_of_none hinner]
    omega

theorem shownWidth_mark_ne_of_not_nullable (ht : g.isNullable t = false)
    (hn : g.shape n = .nullable t) (hself : g.Acyclic n) :
    g.shownWidth (g.shownOf (before ++ [n] ++ after)) ≠
      g.shownWidth (g.shownOf (before ++ [t] ++ after)) := by
  have hnull : g.isNull t = false := by
    refine Bool.eq_false_iff.2 fun hnull => ?_
    simp [isNullable_of_isNull hnull] at ht
  have hwidth : width (g.layout .resolved n) = 1 + width (g.layout .resolved t) := by
    rw [width_layout_of_mark hn hself, if_neg (by simp [ht])]
  refine shownWidth_ne (isNull_of_mark hn) ?_ ?_
  · rw [keptAlternates_singleton hnull, barred_singleton, shownWidth_singleton, hwidth]
    omega
  · intro hnone
    rw [keptAlternates_place hnull] at hnone
    simp at hnone

theorem shownWidth_mark_ne_of_null (ht : g.isNull t = true) (hplace : before ++ after ≠ [])
    (hn : g.shape n = .nullable t) (hself : g.Acyclic n) :
    g.shownWidth (g.shownOf (before ++ [n] ++ after)) ≠
      g.shownWidth (g.shownOf (before ++ [t] ++ after)) := by
  have hwidth : width (g.layout .resolved n) = 4 := by
    rw [width_layout_of_mark hn hself, if_pos (isNullable_of_isNull ht), width_layout_of_isNull ht]
  refine shownWidth_ne (isNull_of_mark hn) ?_ ?_
  · intro hkept
    simp [keptAlternates, ht] at hkept
  · intro hnone
    have hall := shownWidth_of_none hnone
    rw [← List.length_pos_iff, List.length_append] at hplace
    simp only [List.length_append, List.length_singleton] at hall
    omega

/-! ## Marks that are hidden -/

/-- A second mark on a type is hidden among other alternates: the type is no union, which is opened
under one mark only; it admits null, so that the mark that remains is not shown; and if it is null,
there is nothing to show in its place. -/
structure HidesMark (g : TypeGraph ι) (t : ι) (before after : List ι) : Prop where
  notUnion : g.isUnion t = false
  nullable : g.isNullable t = true
  alone : g.isNull t = true → g.Unfolds before [] ∧ g.Unfolds after []

theorem unfoldedLayout_place (hx : g.isNull x = false) (hy : g.isNull y = false)
    (hsame : g.layout .resolved x = g.layout .resolved y) (nullable : Bool)
    (before after : List ι) :
    g.unfoldedLayout false nullable (before ++ [x] ++ after) =
      g.unfoldedLayout false nullable (before ++ [y] ++ after) := by
  have hshown : layoutShown (g.layout .resolved) (g.shownOf (before ++ [x] ++ after)) =
      layoutShown (g.layout .resolved) (g.shownOf (before ++ [y] ++ after)) := by
    rw [shownOf_place hx, shownOf_place hy]
    exact layoutShown_of_map (by simp [hsame])
  rw [unfoldedLayout_eq, unfoldedLayout_eq, hshown, keptAlternates_place hx,
    keptAlternates_place hy]
  simp

theorem comment_hidden (ht : g.isNullable t = true) (hn : g.shape n = .nullable t)
    (hself : g.Acyclic n) (halone : g.isNull t = true → before = [] ∧ after = [])
    (r : LinkResolver) :
    comment r (g.unfoldedLayout false true (before ++ [n] ++ after)) =
      comment r (g.unfoldedLayout false true (before ++ [t] ++ after)) := by
  have hsame : g.layout .resolved n = g.layout .resolved t := by
    rw [layout_of_mark hn hself, if_pos ht, List.nil_append]
  have hnull : g.isNull n = false := isNull_of_mark hn
  cases hnone : g.isNull t with
  | false => rw [unfoldedLayout_place hnull hnone hsame]
  | true =>
      -- null alone is shown for want of anything else, which is noted
      obtain ⟨rfl, rfl⟩ := halone hnone
      have hmarked : g.unfoldedLayout false true [n] = .text "?" :: g.layout .resolved n := by
        simp [unfoldedLayout, hnull]
      have hbare : g.unfoldedLayout false true [t] =
          .note (.simplified 1 0) :: .text "?" :: g.layout .resolved t := by
        simp [unfoldedLayout, hnone]
      rw [List.nil_append, List.append_nil, List.nil_append, List.append_nil, hmarked, hbare, hsame]
      rfl

/-! ## Unions with marked alternates -/

theorem format_of_marked (hself : g.Acyclic u) (hu : g.shape u = .union (before ++ [n] ++ after))
    (hn : g.shape n = .nullable t) (hlist : g.Unfolds (before ++ [n] ++ after) list)
    (r : LinkResolver) :
    g.format .resolved r (some u) = comment r (g.unfoldedLayout false true list) := by
  have hnullable : g.isNullable u = true := by simp [isNullable_of_union hu, isNullable_of_mark hn]
  rw [format_eq_comment, layout, hself.layoutAt_eq hu (by simp) hlist, hnullable]

theorem shownWidth_eq_of_text {r : LinkResolver} {c c' : Comment}
    (hc : comment r (g.unfoldedLayout false true list) = .ok c)
    (hc' : comment r (g.unfoldedLayout false true list') = .ok c') (htext : c.text = c'.text) :
    g.shownWidth (g.shownOf list) = g.shownWidth (g.shownOf list') := by
  have hwidth := width_of_comment hc
  rw [htext, width_of_comment hc', width_unfoldedLayout, width_unfoldedLayout] at hwidth
  omega

/-- The list that a type gives under one mark. What it gives under two is not shown as wide as that
list among the same alternates, unless the second mark is hidden. -/
theorem exists_unfolds_mark (ht : g.Acyclic t) (hn : g.shape n = .nullable t) :
    ∃ list, (∀ y, g.shape y = .nullable t → g.Unfolds [y] list) ∧
      ∀ first last, g.Unfolds before first → g.Unfolds after last →
        g.shownWidth (g.shownOf (first ++ [n] ++ last)) =
          g.shownWidth (g.shownOf (first ++ list ++ last)) →
        g.HidesMark t before after := by
  have hself : g.Acyclic n := ht.of_mark hn
  cases hunion : g.isUnion t with
  | true =>
      obtain ⟨inner, hinner⟩ := exists_union hunion
      have hlist : g.Unfolds inner (g.flatten [] t).alternates :=
        ht.unfolds_flatten hinner (by simp)
      refine ⟨_, fun y hy => unfolds_mark_of_union hy hinner hlist, fun first last _ _ hwidth => ?_⟩
      exact absurd hwidth (shownWidth_mark_ne_of_union hinner hlist hn hself)
  | false =>
      refine ⟨[t], fun y hy => unfolds_mark hy hunion, fun first last hfirst hlast hwidth => ?_⟩
      cases hnullable : g.isNullable t with
      | false => exact absurd hwidth (shownWidth_mark_ne_of_not_nullable hnullable hn hself)
      | true =>
          refine ⟨hunion, hnullable, fun hnull => ?_⟩
          by_cases hplace : first ++ last = []
          · obtain ⟨rfl, rfl⟩ := List.append_eq_nil_iff.1 hplace
            exact ⟨hfirst, hlast⟩
          · exact absurd hwidth (shownWidth_mark_ne_of_null hnull hplace hn hself)

/-- In an acyclic union, a type that is marked nullable twice is formatted as if it was marked once,
if the second mark is hidden. If it is not hidden, the two unions never read alike. -/
theorem marked_twice_like_once (g : TypeGraph ι) {t once once' twice u u' : ι}
    {before after : List ι} (honce : g.shape once = .nullable t)
    (htwice : g.shape twice = .nullable once) (hu : g.shape u = .union (before ++ [twice] ++ after))
    (honce' : g.shape once' = .nullable t) (hu' : g.shape u' = .union (before ++ [once'] ++ after))
    (ht : g.Acyclic t) (hbefore : ∀ x ∈ before, g.Acyclic x) (hafter : ∀ x ∈ after, g.Acyclic x) :
    (g.HidesMark t before after →
      ∀ r, g.format .resolved r (some u) = g.format .resolved r (some u')) ∧
    ∀ r c c', g.format .resolved r (some u) = .ok c → g.format .resolved r (some u') = .ok c' →
      c.text = c'.text →
      g.HidesMark t before after := by
  have hself : g.Acyclic once := ht.of_mark honce
  have hself' : g.Acyclic once' := ht.of_mark honce'
  have hacyclic : g.Acyclic u := .of_place hbefore hafter (hself.of_mark htwice) hu
  have hacyclic' : g.Acyclic u' := .of_place hbefore hafter hself' hu'
  have hunfolds : g.Unfolds (before ++ [twice] ++ after) (g.flatten [] u).alternates :=
    hacyclic.unfolds_flatten hu (by simp)
  obtain ⟨start, last, hstart, hlast, -⟩ := hunfolds.of_append
  obtain ⟨first, -, hfirst, -, -⟩ := hstart.of_append
  have hformat := format_of_marked hacyclic hu htwice
    ((hfirst.append (unfolds_mark htwice (by simp [isUnion, honce, Shape.isUnion]))).append hlast)
  have hformat' : ∀ list, g.Unfolds [once'] list → ∀ r,
      g.format .resolved r (some u') =
        comment r (g.unfoldedLayout false true (first ++ list ++ last)) :=
    fun list hlist => format_of_marked hacyclic' hu' honce' ((hfirst.append hlist).append hlast)
  constructor
  · intro hhides r
    rw [hformat r, hformat' [t] (unfolds_mark honce' hhides.notUnion) r]
    refine comment_hidden hhides.nullable honce hself (fun hnull => ?_) r
    exact ⟨hfirst.unique (hhides.alone hnull).1, hlast.unique (hhides.alone hnull).2⟩
  · intro r c c' hc hc' htext
    obtain ⟨list, hlist, hhides⟩ := exists_unfolds_mark (n := once) ht honce
    rw [hformat r] at hc
    rw [hformat' list (hlist once' honce') r] at hc'
    exact hhides first last hfirst hlast (shownWidth_eq_of_text hc hc' htext)

/-- Two unions with a type that is marked twice, each beside the union in which it is marked
once. -/
def remarked : TypeGraph (Fin 11) where
  shape
    | 0 => .union [2, 5]
    | 1 => .union [2, 4]
    | 2 => .named "a.B"
    | 3 => .named "c.D"
    | 4 => .nullable 3
    | 5 => .nullable 4
    | 6 => .union [2, 9]
    | 7 => .union [2, 8]
    | 8 => .nullable 10
    | 9 => .nullable 8
    | 10 => .primitive .all
  nodes := List.finRange 11
  mem_nodes := List.mem_finRange

theorem remarked_acyclic (x : Fin 11) : remarked.Acyclic x := by
  revert x
  decide +kernel

theorem marked_twice_like_once_remarked :
    (remarked.HidesMark 10 [2] [] ∧
      ∀ r, remarked.format .resolved r (some 6) = remarked.format .resolved r (some 7)) ∧
    remarked.isNullable 3 = false ∧
      ∀ r c c', remarked.format .resolved r (some 0) = .ok c →
        remarked.format .resolved r (some 1) = .ok c' →
        c.text ≠ c'.text := by
  have hidden : remarked.HidesMark 10 [2] [] :=
    ⟨rfl, by decide +kernel, fun hnull => by cases hnull⟩
  have hnullable : remarked.isNullable 3 = false := by decide +kernel
  have hbefore : ∀ x ∈ [2], remarked.Acyclic x := fun x _ => remarked_acyclic x
  have hafter : ∀ x ∈ [], remarked.Acyclic x := fun x _ => remarked_acyclic x
  have hu : remarked.shape 0 = .union ([2] ++ [5] ++ []) := rfl
  have hu' : remarked.shape 1 = .union ([2] ++ [4] ++ []) := rfl
  have hv : remarked.shape 6 = .union ([2] ++ [9] ++ []) := rfl
  have hv' : remarked.shape 7 = .union ([2] ++ [8] ++ []) := rfl
  have hlike :=
    marked_twice_like_once remarked rfl rfl hv rfl hv' (remarked_acyclic 10) hbefore hafter
  have hunlike :=
    marked_twice_like_once remarked rfl rfl hu rfl hu' (remarked_acyclic 3) hbefore hafter
  refine ⟨⟨hidden, hlike.1 hidden⟩, hnullable, fun r c c' hc hc' htext => ?_⟩
  simpa [hnullable] using (hunlike.2 r c c' hc hc' htext).nullable

/-- A second mark is shown inside the union. -/
theorem marked_twice_unlike_once :
    remarked.shape 5 = .nullable 4 ∧ remarked.shape 4 = .nullable 3 ∧
    remarked.shape 0 = .union [2, 5] ∧
      remarked.shape 1 = .union [2, 4] ∧ (∀ x, remarked.Acyclic x) ∧
      (remarked.format .resolved (.ofLists [] []) (some 0)).toOption.map Comment.text =
        some "?(a.B|?c.D)" ∧
      (remarked.format .resolved (.ofLists [] []) (some 1)).toOption.map Comment.text =
        some "?(a.B|c.D)" :=
  ⟨rfl, rfl, rfl, rfl, remarked_acyclic, by decide +kernel, by decide +kernel⟩

end DocMarkup.TypeGraph
