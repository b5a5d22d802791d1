import DocMarkup.Proofs.Link.Resolution
import Mathlib.Data.List.Forall2

/-!
Which names share a link. The address of a page has underscores for the dots of a type's name. So
two types of one kind share a page exactly if their names are alike up to that
(`Registry.pages_eq_iff`). An anchor has the name as it is written, and the page before it tells
where the owner ends, so no two members share a link (`Registry.member_links_ne`).
-/

namespace DocMarkup.Registry

variable {r : Registry}

/-! ## Page names -/

/-- Names that are alike if a dot is not told from an underscore. -/
def DotsAside (a b : String) : Prop :=
  List.Forall₂ (fun c d => c = d ∨ (c = '.' ∧ d = '_') ∨ (c = '_' ∧ d = '.')) a.toList b.toList

instance (a b : String) : Decidable (DotsAside a b) :=
  inferInstanceAs (Decidable (List.Forall₂ _ _ _))

theorem undotted_eq_iff {c d : Char} :
    (if c == '.' then '_' else c) = (if d == '.' then '_' else d) ↔
      c = d ∨ (c = '.' ∧ d = '_') ∨ (c = '_' ∧ d = '.') := by
  by_cases hc : c = '.'
  · by_cases hd : d = '.'
    · simp [hc, hd]
    · simpa [hc, hd, Ne.symm hd] using eq_comm
  · by_cases hd : d = '.'
    · simp [hc, hd]
    · simp [hc, hd]

theorem toList_pageName (kind name : String) :
    (pageName kind name).toList =
      kind.toList ++ '_' ::
        (name.toList.map (fun c => if c == '.' then '_' else c) ++ ".html".toList) := by
  simp [pageName]

theorem pageName_eq_iff {kind a b : String} :
    pageName kind a = pageName kind b ↔ DotsAside a b := by
  rw [← String.toList_inj, toList_pageName, toList_pageName, List.append_cancel_left_eq,
    List.cons_inj_right, List.append_cancel_right_eq, ← List.forall₂_eq_eq_eq,
    List.forall₂_map_left_iff, List.forall₂_map_right_iff]
  simp only [undotted_eq_iff, DotsAside]

/-- Names without underscores are told apart. -/
theorem DotsAside.eq {a b : String} (h : DotsAside a b) (ha : '_' ∉ a.toList)
    (hb : '_' ∉ b.toList) : a = b := by
  refine String.toList_injective ?_
  unfold DotsAside at h
  generalize a.toList = as, b.toList = bs at h ha hb
  induction h with
  | nil => rfl
  | cons hcd _ ih =>
      rw [List.mem_cons, not_or] at ha hb
      rw [ih ha.2 hb.2]
      rcases hcd with rfl | ⟨_, rfl⟩ | ⟨rfl, _⟩
      · rfl
      · exact absurd rfl hb.1
      · exact absurd rfl ha.1

theorem ne_call_of_getLast? {name : String} (h : name.toList.getLast? ≠ some ')') :
    ∀ start, name ≠ start ++ "()" := by
  rintro start rfl
  exact h (by simp)

theorem resolve_eq_page? {name : String} (hempty : name ≠ "")
    (hcall : ∀ start, name ≠ start ++ "()") {page : String} (h : r.page? name = some page) :
    r.resolve name = some page := by
  rw [resolve_of_not_call hcall, link?_of_page hempty h]

/-- Two types of one kind share a page exactly if their names differ in nothing but dots against
underscores, so types without underscores in their names have pages of their own. The same holds of
the links to the types. -/
theorem pages_eq_iff (r : Registry) {kind a b : String} (ha : r.kind? a = some kind)
    (hb : r.kind? b = some kind) :
    ∃ pageA pageB, r.page? a = some pageA ∧ r.page? b = some pageB ∧
      (pageA = pageB ↔ DotsAside a b) ∧
      (a ≠ b → '_' ∉ a.toList → '_' ∉ b.toList → pageA ≠ pageB) ∧
      (a ≠ "" → (∀ start, a ≠ start ++ "()") → r.resolve a = some pageA) ∧
      (b ≠ "" → (∀ start, b ≠ start ++ "()") → r.resolve b = some pageB) := by
  have hpageA : r.page? a = some (r.filePrefix ++ pageName kind a) := by
    rw [page?, ha, Option.map_some]
  have hpageB : r.page? b = some (r.filePrefix ++ pageName kind b) := by
    rw [page?, hb, Option.map_some]
  have hiff : r.filePrefix ++ pageName kind a = r.filePrefix ++ pageName kind b ↔
      DotsAside a b := by
    rw [String.append_right_inj, pageName_eq_iff]
  refine ⟨_, _, hpageA, hpageB, hiff, ?_, fun hempty hcall => resolve_eq_page? hempty hcall hpageA,
    fun hempty hcall => resolve_eq_page? hempty hcall hpageB⟩
  intro hne hA hB heq
  exact hne ((hiff.1 heq).eq hA hB)

/-- Three classes; the names of two differ in a dot. -/
def lookalikes : Registry where
  kinds := [("ui.Menu", some "class"), ("ui_Menu", some "class"), ("ui.Item", some "class")]
  externs := []
  filePrefix := ""

/-- Two classes that share a page, and two that do not. -/
theorem pages_eq_iff_lookalikes :
    (lookalikes.kind? "ui.Menu" = some "class" ∧ lookalikes.kind? "ui_Menu" = some "class" ∧
      DotsAside "ui.Menu" "ui_Menu" ∧ lookalikes.resolve "ui.Menu" = lookalikes.resolve "ui_Menu") ∧
    (lookalikes.kind? "ui.Item" = some "class" ∧
      lookalikes.page? "ui.Menu" ≠ lookalikes.page? "ui.Item") := by
  have hmenu : lookalikes.kind? "ui.Menu" = some "class" := by decide +kernel
  have hother : lookalikes.kind? "ui_Menu" = some "class" := by decide +kernel
  have hitem : lookalikes.kind? "ui.Item" = some "class" := by decide +kernel
  have haside : DotsAside "ui.Menu" "ui_Menu" := by decide
  refine ⟨⟨hmenu, hother, haside, ?_⟩, hitem, ?_⟩
  · obtain ⟨pageA, pageB, _, _, hiff, _, hA, hB⟩ := pages_eq_iff lookalikes hmenu hother
    rw [hA (by decide) (ne_call_of_getLast? (by decide)),
      hB (by decide) (ne_call_of_getLast? (by decide)), hiff.2 haside]
  · obtain ⟨pageA, pageB, hA, hB, _, hne, _⟩ := pages_eq_iff lookalikes hmenu hitem
    rw [hA, hB, ne_eq, Option.some.injEq]
    exact hne (by decide) (by decide) (by decide)

/-- A type does not always have a page of its own. -/
theorem page_not_own :
    "ui.Menu" ≠ "ui_Menu" ∧ lookalikes.kind? "ui.Menu" = some "class" ∧
    lookalikes.kind? "ui_Menu" = some "class" ∧
    lookalikes.page? "ui.Menu" = some "class_ui_Menu.html" ∧
    lookalikes.page? "ui_Menu" = some "class_ui_Menu.html" ∧
    lookalikes.resolve "ui.Menu" = some "class_ui_Menu.html" ∧
    lookalikes.resolve "ui_Menu" = some "class_ui_Menu.html" := by
  decide +kernel

/-! ## Members -/

/-- A member belongs to the instances of a type or to the type itself. -/
inductive Membership where
  | ofInstance
  | ofType

namespace Membership

/-- The sign between owner and member in a name. -/
def sign : Membership → Char
  | .ofInstance => '#'
  | .ofType => '.'

/-- The sign between owner and member in an anchor. -/
def anchorSign : Membership → Char
  | .ofInstance => '$'
  | .ofType => '.'

theorem eq_of_anchorSign {s t : Membership} (h : s.anchorSign = t.anchorSign) : s = t := by
  cases s <;> cases t <;> simp_all [anchorSign]

end Membership

/-- A member and its link, in their parts. -/
structure MemberLink (r : Registry) (name link : String) where
  membership : Membership
  owner : String
  member : String
  kind : String
  name_eq : name.toList = owner.toList ++ membership.sign :: member.toList
  owner_plain : '#' ∉ owner.toList
  kind_eq : r.kind? owner = some kind
  link_eq : link.toList = r.filePrefix.toList ++ ((pageName kind owner).toList ++
    '#' :: (owner.toList ++ membership.anchorSign :: member.toList))

theorem mem_kinds_of_kind? {name kind : String} (h : r.kind? name = some kind) :
    (name, some kind) ∈ r.kinds := by
  obtain ⟨before, after, hkinds, _⟩ := List.lookup_eq_some_iff.1 (Option.join_eq_some_iff.1 h)
  rw [hkinds]
  exact List.mem_append_right before List.mem_cons_self

theorem exists_kind_of_hasPage {name page : String} (h : r.HasPage name page) :
    ∃ kind, r.kind? name = some kind ∧ page = r.filePrefix ++ pageName kind name := by
  have hpage := page?_eq_some_iff.2 h
  rw [page?, Option.map_eq_some_iff] at hpage
  obtain ⟨kind, hkind, rfl⟩ := hpage
  exact ⟨kind, hkind, rfl⟩

theorem LinksTo.memberLink {name link : String} (h : r.LinksTo name (some link))
    (hname : ¬ r.IsKnown name) :
    Nonempty (r.MemberLink name link) := by
  cases h with
  | type _ hpage =>
      obtain ⟨kind, hkind, _⟩ := hpage
      exact absurd ⟨kind, hkind⟩ hname
  | @instanceMember owner member _ _ howner hpage =>
      obtain ⟨kind, hkind, rfl⟩ := exists_kind_of_hasPage hpage
      exact ⟨.ofInstance, owner, member, kind, by simp [Membership.sign], howner,
        hkind, by simp [Membership.anchorSign]⟩
  | @staticMember _ owner _ _ hstatic howner hpage _ =>
      obtain ⟨kind, hkind, rfl⟩ := exists_kind_of_hasPage hpage
      obtain ⟨member, rfl⟩ := howner
      have hplain : '#' ∉ owner.toList := fun hmem => hstatic (by simp [hmem])
      exact ⟨.ofType, owner, member, kind, by simp [Membership.sign], hplain,
        hkind, by simp [Membership.anchorSign]⟩

/-- A text is cut in one way only at the first place of a character. -/
theorem eq_of_append_cons {c : Char} {a b rest rest' : List Char} (ha : c ∉ a) (hb : c ∉ b)
    (h : a ++ c :: rest = b ++ c :: rest') : a = b ∧ rest = rest' := by
  rcases List.append_eq_append_iff.1 h with ⟨between, rfl, hrest⟩ | ⟨between, rfl, hrest⟩
  · cases between with
    | nil => simpa using hrest
    | cons d between =>
        obtain ⟨rfl, _⟩ := List.cons.inj hrest
        exact absurd (by simp) hb
  · cases between with
    | nil => simpa [eq_comm] using hrest
    | cons d between =>
        obtain ⟨rfl, _⟩ := List.cons.inj hrest
        exact absurd (by simp) ha

theorem sign_not_mem_pageName {kind name : String} (hkind : '#' ∉ kind.toList)
    (hname : '#' ∉ name.toList) :
    '#' ∉ (pageName kind name).toList := by
  have hmap : '#' ∉ name.toList.map (fun c => if c == '.' then '_' else c) := by
    rw [List.mem_map]
    rintro ⟨c, hc, heq⟩
    split at heq
    · cases heq
    · exact hname (heq ▸ hc)
  have hhtml : '#' ∉ ".html".toList := by decide
  rw [toList_pageName, List.mem_append, List.mem_cons, List.mem_append]
  rintro (h | h | h | h)
  · exact hkind h
  · cases h
  · exact hmap h
  · exact hhtml h

/-- A page keeps the length of its type's name, which an underscore in the kind could hide. -/
theorem length_eq_of_pageName {kind kind' name name' : String} (hkind : '_' ∉ kind.toList)
    (hkind' : '_' ∉ kind'.toList) (h : pageName kind name = pageName kind' name') :
    name.toList.length = name'.toList.length := by
  rw [← String.toList_inj, toList_pageName, toList_pageName] at h
  obtain ⟨_, hrest⟩ := eq_of_append_cons hkind hkind' h
  simpa only [List.length_append, List.length_map, Nat.add_right_cancel_iff]
    using congrArg List.length hrest

/-- The page tells where the owner ends in an anchor, and the sign there tells what the member
belongs to. -/
theorem MemberLink.name_unique {a b link : String}
    (hkinds : ∀ name kind, r.kind? name = some kind → '_' ∉ kind.toList ∧ '#' ∉ kind.toList)
    (m : r.MemberLink a link) (n : r.MemberLink b link) : a = b := by
  obtain ⟨hscoreM, hsignM⟩ := hkinds _ _ m.kind_eq
  obtain ⟨hscoreN, hsignN⟩ := hkinds _ _ n.kind_eq
  have hlinks := m.link_eq.symm.trans n.link_eq
  rw [List.append_cancel_left_eq] at hlinks
  obtain ⟨hpages, hanchors⟩ := eq_of_append_cons (sign_not_mem_pageName hsignM m.owner_plain)
    (sign_not_mem_pageName hsignN n.owner_plain) hlinks
  have hlength : m.owner.toList.length = n.owner.toList.length :=
    length_eq_of_pageName hscoreM hscoreN (String.toList_injective hpages)
  obtain ⟨howner, hrest⟩ := List.append_inj hanchors hlength
  obtain ⟨hsign, hmember⟩ := List.cons.inj hrest
  apply String.toList_injective
  rw [m.name_eq, n.name_eq, howner, hmember, Membership.eq_of_anchorSign hsign]

/-- Different members have different links. Kinds must not hold the two signs that end the kind and
the page in an address. -/
theorem member_links_ne (r : Registry)
    (hkinds : ∀ name kind, r.kind? name = some kind → '_' ∉ kind.toList ∧ '#' ∉ kind.toList)
    {a b linkA linkB : String} (hne : a ≠ b) (hcallA : ∀ start, a ≠ start ++ "()")
    (hcallB : ∀ start, b ≠ start ++ "()") (hA : ¬ r.IsKnown a) (hB : ¬ r.IsKnown b)
    (hlinkA : r.resolve a = some linkA) (hlinkB : r.resolve b = some linkB) :
    linkA ≠ linkB := by
  rintro rfl
  rw [resolve_of_not_call hcallA, link?_eq_iff] at hlinkA
  rw [resolve_of_not_call hcallB, link?_eq_iff] at hlinkB
  obtain ⟨m⟩ := hlinkA.memberLink hA
  obtain ⟨n⟩ := hlinkB.memberLink hB
  exact hne (m.name_unique hkinds n)

/-- A member of instances and a member of the namespace with the same anchor, on two pages. -/
theorem member_links_ne_widgets :
    (∀ name kind, widgets.kind? name = some kind → '_' ∉ kind.toList ∧ '#' ∉ kind.toList) ∧
    widgets.resolve "ui.Menu#show" = some "api/class_ui_Menu.html#ui.Menu$show" ∧
    widgets.resolve "ui.Menu$show" = some "api/namespace_ui.html#ui.Menu$show" ∧
    "api/class_ui_Menu.html#ui.Menu$show" ≠ "api/namespace_ui.html#ui.Menu$show" := by
  have hkinds : ∀ name kind, widgets.kind? name = some kind →
      '_' ∉ kind.toList ∧ '#' ∉ kind.toList := by
    have hall : ∀ entry ∈ widgets.kinds, ∀ kind ∈ entry.2,
        '_' ∉ kind.toList ∧ '#' ∉ kind.toList := by decide
    intro name kind hkind
    exact hall _ (mem_kinds_of_kind? hkind) kind rfl
  have hinstance : widgets.resolve "ui.Menu#show" = some "api/class_ui_Menu.html#ui.Menu$show" := by
    decide +kernel
  have htype : widgets.resolve "ui.Menu$show" = some "api/namespace_ui.html#ui.Menu$show" := by
    decide +kernel
  have hunknown : ∀ name, widgets.kinds.lookup name = none → ¬ widgets.IsKnown name := by
    rintro name hnone ⟨kind, hkind⟩
    rw [hnone] at hkind
    cases hkind
  exact ⟨hkinds, hinstance, htype, member_links_ne widgets hkinds (by decide)
    (ne_call_of_getLast? (by decide)) (ne_call_of_getLast? (by decide)) (hunknown _ (by decide))
    (hunknown _ (by decide)) hinstance htype⟩

end DocMarkup.Registry
