import DocMarkup.Proofs.TypeExpr.Visits

/-!
Unions unfolded. The alternates of unions inside a union are brought into one list, in their order
(`TypeGraph.Unfolds`); an acyclic union has one such list, and flattening finds it
(`TypeGraph.Acyclic.unfolds_flatten`). Main statement: wherever an acyclic union is met it is shown
by its list alone, so that it does not matter how its alternates are grouped
(`TypeGraph.union_shown_unfolded`).
-/

namespace DocMarkup.TypeGraph

open Relation

variable {ι : Type} {g : TypeGraph ι} {x y u : ι}

/-! ## Acyclic types -/

/-- Neither the type nor a type in it contains itself. -/
def Acyclic (g : TypeGraph ι) (x : ι) : Prop :=
  ∀ y, g.Reaches .resolved x y → ¬ g.Contains .resolved y y

theorem Acyclic.of_reaches (hx : g.Acyclic x) (hxy : g.Reaches .resolved x y) : g.Acyclic y :=
  fun z hz => hx z (hxy.trans hz)

theorem Acyclic.not_contains (hx : g.Acyclic x) : ¬ g.Contains .resolved x x := hx x .refl

theorem Acyclic.of_parts (h : ∀ y ∈ g.parts .resolved x, g.Acyclic y) : g.Acyclic x := by
  intro y hy
  rcases ReflTransGen.cases_head hy with rfl | ⟨z, hz, hzy⟩
  · intro hself
    obtain ⟨z, hz, hback⟩ := contains_iff.1 hself
    exact h z hz z .refl (TransGen.tail' hback hz)
  · exact h z hz y hzy

instance [DecidableEq ι] (g : TypeGraph ι) (x : ι) : Decidable (g.Acyclic x) :=
  decidable_of_iff (∀ y ∈ g.nodes, g.Reaches .resolved x y → ¬ g.Contains .resolved y y)
    (by simp [Acyclic, g.mem_nodes])

/-! ## Unfolding -/

/-- The alternates of a union in one list. Each union among them, whether it is marked nullable or
not, is replaced by its own list, and each other alternate that is marked is replaced by what is
marked. -/
inductive Unfolds (g : TypeGraph ι) : List ι → List ι → Prop where
  | nil : Unfolds g [] []
  | union {x : ι} {inner rest list list' : List ι} (hx : g.shape (g.withoutMark x) = .union inner)
      (hinner : Unfolds g inner list) (hrest : Unfolds g rest list') :
      Unfolds g (x :: rest) (list ++ list')
  | other {x : ι} {rest list : List ι} (hx : g.isUnion (g.withoutMark x) = false)
      (hrest : Unfolds g rest list) :
      Unfolds g (x :: rest) (g.withoutMark x :: list)

namespace Unfolds

variable {alternates alternates' list list' : List ι}

theorem unique (h : g.Unfolds alternates list) (h' : g.Unfolds alternates list') :
    list = list' := by
  induction h generalizing list' with
  | nil =>
      cases h'
      rfl
  | union hx _ _ ihinner ihrest =>
      cases h' with
      | union hx' hinner hrest =>
          rw [hx] at hx'
          cases hx'
          rw [ihinner hinner, ihrest hrest]
      | other hx' _ => simp [isUnion, hx, Shape.isUnion] at hx'
  | other hx _ ih =>
      cases h' with
      | union hx' _ _ => simp [isUnion, hx', Shape.isUnion] at hx
      | other _ hrest => rw [ih hrest]

theorem append (h : g.Unfolds alternates list) (h' : g.Unfolds alternates' list') :
    g.Unfolds (alternates ++ alternates') (list ++ list') := by
  induction h with
  | nil => exact h'
  | union hx hinner _ _ ih =>
      rw [List.append_assoc]
      exact .union hx hinner ih
  | other hx _ ih => exact .other hx ih

theorem of_append (h : g.Unfolds (alternates ++ alternates') list) :
    ∃ first second, g.Unfolds alternates first ∧ g.Unfolds alternates' second ∧
      list = first ++ second := by
  induction alternates generalizing list with
  | nil => exact ⟨[], list, .nil, h, rfl⟩
  | cons x alternates ih =>
      cases h with
      | @union _ _ _ inner _ hx hinner hrest =>
          obtain ⟨first, second, hfirst, hsecond, rfl⟩ := ih hrest
          exact ⟨inner ++ first, second, .union hx hinner hfirst, hsecond,
            (List.append_assoc ..).symm⟩
      | other hx hrest =>
          obtain ⟨first, second, hfirst, hsecond, rfl⟩ := ih hrest
          exact ⟨g.withoutMark x :: first, second, .other hx hfirst, hsecond, rfl⟩

theorem of_flatMap {contribution : ι → List ι}
    (h : ∀ x ∈ alternates,
      (∃ inner, g.shape (g.withoutMark x) = .union inner ∧ g.Unfolds inner (contribution x)) ∨
      g.isUnion (g.withoutMark x) = false ∧ contribution x = [g.withoutMark x]) :
    g.Unfolds alternates (alternates.flatMap contribution) := by
  induction alternates with
  | nil => exact .nil
  | cons x alternates ih =>
      have hrest := ih fun y hy => h y (List.mem_cons_of_mem x hy)
      rw [List.flatMap_cons]
      rcases h x List.mem_cons_self with ⟨inner, hx, hinner⟩ | ⟨hx, hcontribution⟩
      · exact .union hx hinner hrest
      · rw [hcontribution]
        exact .other hx hrest

end Unfolds

theorem withoutMark_of_union {alternates : List ι} (hu : g.shape u = .union alternates) :
    g.withoutMark u = u := by
  rw [withoutMark, hu]

theorem Unfolds.of_union {alternates list : List ι} (hu : g.shape u = .union alternates)
    (h : g.Unfolds alternates list) : g.Unfolds [u] list := by
  simpa using Unfolds.union (by rwa [withoutMark_of_union hu]) h .nil

theorem Unfolds.single (hmark : g.withoutMark x = x) (hx : g.isUnion x = false) :
    g.Unfolds [x] [x] := by
  have hother : g.Unfolds [x] [g.withoutMark x] := .other (by rwa [hmark]) .nil
  rwa [hmark] at hother

/-! ## Groups of alternates -/

/-- Some of the alternates may be made a union of their own. -/
theorem Unfolds.group {before group after list : List ι} {v : ι}
    (h : g.Unfolds (before ++ group ++ after) list) (hv : g.shape v = .union group) :
    g.Unfolds (before ++ [v] ++ after) list := by
  obtain ⟨start, last, hstart, hlast, rfl⟩ := h.of_append
  obtain ⟨first, middle, hfirst, hmiddle, rfl⟩ := hstart.of_append
  exact (hfirst.append (.of_union hv hmiddle)).append hlast

theorem Acyclic.of_place {before after : List ι} (hbefore : ∀ y ∈ before, g.Acyclic y)
    (hafter : ∀ y ∈ after, g.Acyclic y) (hx : g.Acyclic x)
    (hu : g.shape u = .union (before ++ [x] ++ after)) : g.Acyclic u := by
  refine .of_parts fun y hy => ?_
  simp only [parts, hu, List.mem_append, List.mem_singleton] at hy
  rcases hy with (hy | rfl) | hy
  · exact hbefore y hy
  · exact hx
  · exact hafter y hy

theorem Acyclic.group {before group after : List ι} {v w : ι} (hu : g.Acyclic u)
    (hshape : g.shape u = .union (before ++ group ++ after)) (hv : g.shape v = .union group)
    (hw : g.shape w = .union (before ++ [v] ++ after)) : g.Acyclic w := by
  have hpart : ∀ y ∈ before ++ group ++ after, g.Acyclic y :=
    fun y hy => hu.of_reaches (.of_mem_parts (by rwa [parts, hshape]))
  simp only [List.mem_append, or_imp, forall_and] at hpart
  obtain ⟨⟨hbefore, hgroup⟩, hafter⟩ := hpart
  have hinner : g.Acyclic v := .of_parts fun y hy => hgroup y (by simpa [parts, hv] using hy)
  exact .of_place hbefore hafter hinner hw

variable [DecidableEq ι]

/-! ## Flattening unfolds -/

theorem unfolds_flattenNode {alternates : List ι} {sub : ι → Flattened ι}
    (hu : g.shape u = .union alternates)
    (hunion : ∀ v inner, g.Contains .resolved u v → g.shape v = .union inner →
      g.Unfolds inner (sub v).alternates)
    (hother : ∀ v, g.isUnion v = false → (sub v).alternates = [v]) :
    g.Unfolds alternates (g.flattenNode sub u).alternates := by
  rw [alternates_flattenNode hu]
  refine .of_flatMap fun x hx => ?_
  cases hv : g.isUnion (g.withoutMark x) with
  | false => exact .inr ⟨rfl, hother _ hv⟩
  | true =>
      obtain ⟨inner, hshape⟩ := exists_union hv
      have hinside : g.Contains .resolved u (g.withoutMark x) :=
        .of_part (by simpa [parts, hu] using hx) (reaches_withoutMark x)
      exact .inl ⟨inner, hshape, hunion _ inner hinside hshape⟩

theorem alternates_contribution_of_not_union (seen : List ι) (hx : g.isUnion x = false) :
    (g.contribution seen x).alternates = [x] := by
  rw [contribution_eq, if_neg (by simp [hx])]
  rfl

namespace Acyclic

variable {path seen alternates list : List ι}

-- The unions that are seen are those that are being opened, and in an acyclic type none of them is
-- met again.
theorem unfolds_contribution (hx : g.Acyclic x) (hshape : g.shape x = .union alternates)
    (hseen : ∀ z, g.Reaches .resolved x z → z ∉ seen) :
    g.Unfolds alternates (g.contribution seen x).alternates := by
  unfold contribution
  induction seen, x using g.path_induction generalizing alternates with
  | again seen x hmem => exact absurd hmem (hseen x .refl)
  | enter seen x hmem ih =>
      rw [g.walk_of_not_mem hmem]
      refine unfolds_flattenNode hshape ?_ fun v hv =>
        alternates_contribution_of_not_union (x :: seen) hv
      intro v inner hinside hv
      have hreach : g.Reaches .resolved x v := TransGen.to_reflTransGen hinside
      refine ih v (hx.of_reaches hreach) hv fun z hz hmem => ?_
      rcases List.mem_cons.1 hmem with rfl | hmem
      · exact hx.not_contains (hinside.of_reaches hz)
      · exact hseen z (hreach.trans hz) hmem

/-- Flattening an acyclic union unfolds it. -/
theorem unfolds_flatten (hu : g.Acyclic u) (hshape : g.shape u = .union alternates)
    (hseen : ∀ z, g.Contains .resolved u z → z ∉ seen) :
    g.Unfolds alternates (g.flatten seen u).alternates := by
  refine unfolds_flattenNode hshape ?_ fun v hv => alternates_contribution_of_not_union seen hv
  intro v inner hinside hv
  refine (hu.of_reaches (TransGen.to_reflTransGen hinside)).unfolds_contribution hv fun z hz => ?_
  exact hseen z (hinside.of_reaches hz)

end Acyclic

/-! ## Layouts -/

/-- What is shown of a union by its list: null, and the undefined type if that is left out too, are
dropped unless nothing else is there, and a single type needs no parentheses. -/
def unfoldedLayout (g : TypeGraph ι) (withoutVoid nullable : Bool) (list : List ι) : Layout :=
  let kept := list.filter fun x => !g.isNull x && !(withoutVoid && g.isVoid x)
  (if kept.length ≠ list.length then [.note (.simplified list.length kept.length)] else []) ++
  (if nullable then [.text "?"] else []) ++
  match if kept.isEmpty then list else kept with
  | [x] => g.layout .resolved x
  | shown => .enclosed "(" "|" ")" (shown.map (g.layout .resolved))

namespace Acyclic

variable {path alternates list : List ι}

theorem layoutAt_part (hx : g.Acyclic x) (hy : y ∈ g.parts .resolved x) :
    g.layoutAt .resolved [x] y = g.layout .resolved y := by
  refine layoutAt_eq_layout (hx y (.of_mem_parts hy)) fun p hp => ?_
  obtain rfl := List.mem_singleton.1 hp
  exact .of_part hy .refl

theorem layoutUnion_eq (hu : g.Acyclic u) (hshape : g.shape u = .union alternates)
    (hpath : ∀ p ∈ path, g.Contains .resolved p u) (hlist : g.Unfolds alternates list)
    (withoutVoid : Bool) :
    g.layoutUnion path (g.layoutAt .resolved path) withoutVoid u =
      g.unfoldedLayout withoutVoid (g.isNullable u) list := by
  have hunion : g.isUnion u = true := by simp [isUnion, hshape, Shape.isUnion]
  have hflat : (g.flatten (u :: path) u).alternates = list := by
    refine (hu.unfolds_flatten hshape fun z hz hmem => ?_).unique hlist
    rcases List.mem_cons.1 hmem with rfl | hmem
    · exact hu.not_contains hz
    · exact not_mem_of_contains hu.not_contains hpath (TransGen.to_reflTransGen hz) hmem
  have hsub : ∀ y ∈ g.shownAlternates path withoutVoid u, g.layoutAt .resolved path y =
      g.layout .resolved y := by
    intro y hy
    have hinside := contains_of_shownAlternates hunion hy
    refine layoutAt_eq_layout (hu y (TransGen.to_reflTransGen hinside)) fun p hp => ?_
    exact (hpath p hp).trans hinside
  rw [layoutUnion_congr hsub, layoutUnion, hflat, nullable_flatten]
  rfl

theorem layoutAt_eq (hu : g.Acyclic u) (hshape : g.shape u = .union alternates)
    (hpath : ∀ p ∈ path, g.Contains .resolved p u) (hlist : g.Unfolds alternates list) :
    g.layoutAt .resolved path u = g.unfoldedLayout false (g.isNullable u) list := by
  have hunion : g.isUnion u = true := by simp [isUnion, hshape, Shape.isUnion]
  have hmem : u ∉ path := not_mem_of_contains hu.not_contains hpath .refl
  rw [← layoutUnion_eq_layoutAt hunion hu.not_contains hmem, hu.layoutUnion_eq hshape hpath hlist]

end Acyclic

/-! ## Wherever a union is met -/

/-- A union is shown by a list wherever it is met: as a type that is visited, and as the type of a
parameter, where the undefined type is left out if the parameter is optional. -/
structure IsShownBy (g : TypeGraph ι) (u : ι) (nullable : Bool) (list : List ι) : Prop where
  visited : ∀ root path, g.Visits root path u →
    g.renderAt .resolved path u = (g.unfoldedLayout false nullable list).write
  parameter : ∀ root path p, g.MeetsParameter root path p → p.type = u →
    g.renderParameterType path (g.renderAt .resolved path) p =
      (g.unfoldedLayout p.optional nullable list).write

namespace Acyclic

variable {alternates list : List ι}

theorem isShownBy (hu : g.Acyclic u) (hshape : g.shape u = .union alternates)
    (hlist : g.Unfolds alternates list) :
    g.IsShownBy u (g.isNullable u) list := by
  constructor
  · intro root path hvisit
    rw [renderAt_eq_write, hu.layoutAt_eq hshape hvisit.contains hlist]
  · rintro root path p hmeets rfl
    have hunion : g.isUnion p.type = true := by simp [isUnion, hshape, Shape.isUnion]
    rw [renderParameterType_eq_write, layoutParameterType, if_pos hunion,
      hu.layoutUnion_eq hshape hmeets.contains hlist]

end Acyclic

theorem isNullable_group {before group after : List ι} {v w : ι}
    (hu : g.shape u = .union (before ++ group ++ after)) (hv : g.shape v = .union group)
    (hw : g.shape w = .union (before ++ [v] ++ after)) :
    g.isNullable w = g.isNullable u := by
  simp [isNullable_of_union hw, isNullable_of_union hu, isNullable_of_union hv]

/-- An acyclic union has one list of unfolded alternates, and is shown by this list wherever it is
met, with a mark exactly if it is nullable. A union in which some of the alternates are grouped to a
union of their own is shown by the same list. -/
theorem union_shown_unfolded (g : TypeGraph ι) {u : ι} {alternates : List ι}
    (hshape : g.shape u = .union alternates) (hu : g.Acyclic u) :
    ∃ list, (∀ l, g.Unfolds alternates l ↔ l = list) ∧ g.IsShownBy u (g.isNullable u) list ∧
      ∀ before group after v w, alternates = before ++ group ++ after → g.shape v = .union group →
        g.shape w = .union (before ++ [v] ++ after) → g.IsShownBy w (g.isNullable u) list := by
  have hlist : g.Unfolds alternates (g.flatten [] u).alternates :=
    hu.unfolds_flatten hshape (by simp)
  refine ⟨_, fun l => ⟨fun hl => hl.unique hlist, fun hl => hl ▸ hlist⟩, hu.isShownBy hshape hlist,
    ?_⟩
  rintro before group after v w rfl hv hw
  rw [← isNullable_group hshape hv hw]
  exact (hu.group hshape hv hw).isShownBy hw (hlist.group hv)

/-- A record that contains itself, with a function whose optional parameter and result are one
union. -/
def listener : TypeGraph (Fin 8) where
  shape
    | 0 => .record [{ name := "next", type := some 0 }, { name := "call", type := some 1 }]
    | 1 => .function { parameters := [{ type := 2, optional := true }], result := some 2 }
    | 2 => .union [3, 6, 7]
    | 3 => .nullable 4
    | 4 => .union [5, 6]
    | 5 => .primitive .string
    | 6 => .primitive .null
    | 7 => .primitive .void
  nodes := List.finRange 8
  mem_nodes := List.mem_finRange

theorem listener_acyclic : listener.Acyclic 2 := by decide +kernel

theorem listener_visits : listener.Visits 0 [0] 1 := by
  refine .inside .root ?_ (by simp) (by decide +kernel)
  rintro z ⟨name, hz⟩
  cases hz

theorem union_shown_unfolded_listener :
    listener.Acyclic 2 ∧ listener.Unfolds [3, 6, 7] [5, 6, 6, 7] ∧
      listener.MeetsParameter 0 [1, 0] { type := 2, optional := true } ∧
      listener.renderParameterType [1, 0] (listener.renderAt .resolved [1, 0])
          { type := 2, optional := true } =
        Layout.write [.note (.simplified 4 1), .text "?", .name .required "string"] ∧
      listener.renderAt .resolved [1, 0] 2 =
        Layout.write [.note (.simplified 4 2), .text "?", .text "(", .name .required "string",
          .text "|", .name .required "undefined", .text ")"] := by
  have hinner : listener.Unfolds [5, 6] [5, 6] := .other rfl (.other rfl .nil)
  have hrest : listener.Unfolds [6, 7] [6, 7] := .other rfl (.other rfl .nil)
  have hunfolds : listener.Unfolds [3, 6, 7] [5, 6, 6, 7] := .union (x := 3) rfl hinner hrest
  have hmeets : listener.MeetsParameter 0 [1, 0] { type := 2, optional := true } :=
    .of_visits listener_visits (by simp) rfl rfl (by simp)
  have hvisits : listener.Visits 0 [1, 0] 2 := by
    refine .inside listener_visits ?_ (by simp) (by decide +kernel)
    rintro z ⟨name, hz⟩
    cases hz
  obtain ⟨list, hlist, hshown, _⟩ := union_shown_unfolded listener (u := 2) rfl listener_acyclic
  obtain rfl := (hlist _).1 hunfolds
  refine ⟨listener_acyclic, hunfolds, hmeets, ?_, ?_⟩
  · rw [hshown.parameter 0 [1, 0] _ hmeets rfl]
    congr 1
    decide +kernel
  · rw [hshown.visited 0 [1, 0] hvisits]
    congr 1
    decide +kernel

end DocMarkup.TypeGraph
