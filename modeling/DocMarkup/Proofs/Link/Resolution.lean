import DocMarkup.Link.Registry
import Mathlib.Data.List.TakeWhile

/-!
How a registry resolves names. The rules are given as a relation between names and links
(`Registry.LinksTo`): a known type links to its page, an instance member to an anchor on the page of
its owner, and a static member to an anchor on the page of its longest known owner. Main statement:
resolving a name follows these rules, after the parentheses of a call at the end of the name are
taken off (`Registry.resolve_eq_iff`).
-/

namespace DocMarkup.Registry

variable {r : Registry}

/-! ## The rules -/

/-- A name that has a kind. -/
def IsKnown (r : Registry) (name : String) : Prop := ∃ kind, r.kinds.lookup name = some (some kind)

/-- The page of a known type is named for its kind and its name, with underscores for the dots. -/
def HasPage (r : Registry) (name page : String) : Prop :=
  ∃ kind, r.kinds.lookup name = some (some kind) ∧
    page = r.filePrefix ++ kind ++ "_" ++ name.map (fun c => if c == '.' then '_' else c) ++ ".html"

/-- An owner of a static member is the part before one of the dots of its name. -/
def IsOwner (owner name : String) : Prop := ∃ member, name = owner ++ "." ++ member

/-- What a name links to, if it links to anything. The owner of an instance member ends at the first
number sign; the owner of a static member is the longest known name before a dot. -/
inductive LinksTo (r : Registry) : String → Option String → Prop where
  | empty : LinksTo r "" none
  | type {name page : String} (hname : name ≠ "") (hpage : r.HasPage name page) :
      LinksTo r name (some page)
  | instanceMember {owner member page : String} (hname : ¬ r.IsKnown (owner ++ "#" ++ member))
      (howner : '#' ∉ owner.toList) (hpage : r.HasPage owner page) :
      LinksTo r (owner ++ "#" ++ member) (some (page ++ "#" ++ owner ++ "$" ++ member))
  | unknownInstance {owner member : String} (hname : ¬ r.IsKnown (owner ++ "#" ++ member))
      (howner : '#' ∉ owner.toList) (hunknown : ¬ r.IsKnown owner) :
      LinksTo r (owner ++ "#" ++ member) none
  | staticMember {name owner page : String} (hname : ¬ r.IsKnown name) (hstatic : '#' ∉ name.toList)
      (howner : IsOwner owner name) (hpage : r.HasPage owner page)
      (hlongest : ∀ other, IsOwner other name → r.IsKnown other → other.length ≤ owner.length) :
      LinksTo r name (some (page ++ "#" ++ name))
  | unknown {name : String} (hempty : name ≠ "") (hname : ¬ r.IsKnown name)
      (hstatic : '#' ∉ name.toList)
      (howners : ∀ owner, IsOwner owner name → ¬ r.IsKnown owner) : LinksTo r name none

/-! ## Pages -/

theorem page?_eq_some_iff {name page : String} :
    r.page? name = some page ↔ r.HasPage name page := by
  have hkind : ∀ kind, (r.kinds.lookup name).join = some kind ↔
      r.kinds.lookup name = some (some kind) :=
    fun kind => Option.join_eq_some_iff
  simp only [page?, kind?, Option.map_eq_some_iff, hkind, HasPage, pageName, String.append_assoc]
  exact exists_congr fun kind => and_congr_right fun _ => eq_comm

theorem isKnown_iff {name : String} : r.IsKnown name ↔ ∃ page, r.page? name = some page := by
  simp only [page?_eq_some_iff, IsKnown, HasPage]
  constructor
  · rintro ⟨kind, hkind⟩
    exact ⟨_, kind, hkind, rfl⟩
  · rintro ⟨_, kind, hkind, _⟩
    exact ⟨kind, hkind⟩

theorem page?_eq_none {name : String} (h : ¬ r.IsKnown name) : r.page? name = none := by
  rw [isKnown_iff, not_exists] at h
  exact Option.eq_none_iff_forall_ne_some.2 h

/-! ## Calls -/

theorem withoutCall_append (name : List Char) : withoutCall (name ++ ['(', ')']) = name := by
  simp [withoutCall]

theorem withoutCall_eq_self {name : List Char} (h : ∀ start, name ≠ start ++ ['(', ')']) :
    withoutCall name = name := by
  unfold withoutCall
  split
  · rename_i rest hrest
    refine absurd ?_ (h rest.reverse)
    rw [← List.reverse_inj, hrest]
    simp
  · rfl

/-! ## Instance members -/

theorem forall_ne_sign {name : List Char} (h : '#' ∉ name) : ∀ c ∈ name, (c != '#') = true := by
  intro c hc
  have hne : c ≠ '#' := fun heq => h (heq ▸ hc)
  simpa using hne

theorem instanceMember?_append {owner : List Char} (howner : '#' ∉ owner) (member : List Char) :
    instanceMember? (owner ++ '#' :: member) = some (owner, member) := by
  have hall := forall_ne_sign howner
  simp [instanceMember?, List.dropWhile_append_of_pos hall, List.takeWhile_append_of_pos hall]

theorem instanceMember?_eq_none {name : List Char} (h : '#' ∉ name) :
    instanceMember? name = none := by
  rw [instanceMember?, List.dropWhile_eq_nil_iff.2 (forall_ne_sign h)]

/-! ## Static members -/

theorem mem_dottedOwners_iff {owner name : List Char} :
    owner ∈ dottedOwners name ↔ ∃ member, name = owner ++ '.' :: member := by
  induction name generalizing owner with
  | nil => simp [dottedOwners]
  | cons c cs ih =>
      rw [dottedOwners, List.mem_append, List.mem_map]
      cases owner with
      | nil => by_cases hc : c = '.' <;> simp [hc]
      | cons d owner =>
          have hfirst : d :: owner ∉ (if c == '.' then [[]] else []) := by split <;> simp
          simpa [hfirst, ih] using and_comm

/-- The owners come with the shortest first. -/
theorem pairwise_dottedOwners (name : List Char) :
    (dottedOwners name).Pairwise fun shorter longer => shorter.length < longer.length := by
  induction name with
  | nil => exact .nil
  | cons c cs ih =>
      rw [dottedOwners, List.pairwise_append]
      refine ⟨?_, List.pairwise_map.2 (by simpa using ih), ?_⟩
      · split <;> simp
      · split <;> simp

theorem isOwner_iff {owner : List Char} {name : String} :
    IsOwner (String.ofList owner) name ↔ owner ∈ dottedOwners name.toList := by
  rw [mem_dottedOwners_iff]
  constructor
  · rintro ⟨member, rfl⟩
    exact ⟨member.toList, by simp⟩
  · rintro ⟨member, hname⟩
    exact ⟨String.ofList member, String.toList_injective (by simp [hname])⟩

/-- The owners are tried from the longest, so the first known one is the longest known one. -/
theorem staticMember?_eq_some_iff {name link : String} :
    r.staticMember? name.toList = some link ↔
      ∃ owner, IsOwner owner name ∧
        (∃ page, r.page? owner = some page ∧ page ++ "#" ++ name = link) ∧
        ∀ other, IsOwner other name → r.IsKnown other → other.length ≤ owner.length := by
  have hmem : ∀ owner, IsOwner (String.ofList owner) name ↔
      owner ∈ (dottedOwners name.toList).reverse := fun _ =>
    isOwner_iff.trans List.mem_reverse.symm
  have hsorted : (dottedOwners name.toList).reverse.Pairwise fun longer shorter =>
      shorter.length < longer.length :=
    List.pairwise_reverse.2 (pairwise_dottedOwners _)
  simp only [staticMember?, List.findSome?_eq_some_iff, Option.map_eq_some_iff,
    String.ofList_toList]
  constructor
  · rintro ⟨longer, owner, shorter, hsplit, hlink, hnone⟩
    rw [hsplit] at hsorted hmem
    refine ⟨String.ofList owner, (hmem owner).2 (by simp), hlink, fun other hother hknown => ?_⟩
    obtain ⟨other, rfl⟩ : ∃ cs, other = String.ofList cs :=
      ⟨other.toList, String.ofList_toList.symm⟩
    rw [String.length_ofList, String.length_ofList]
    rw [hmem, List.mem_append, List.mem_cons] at hother
    obtain hlonger | rfl | hshorter := hother
    · obtain ⟨page, hpage⟩ := isKnown_iff.1 hknown
      have hunknown := Option.map_eq_none_iff.1 (hnone other hlonger)
      rw [hpage] at hunknown
      cases hunknown
    · exact Nat.le_refl _
    · exact Nat.le_of_lt (List.rel_of_pairwise_cons (List.pairwise_append.1 hsorted).2.1 hshorter)
  · rintro ⟨owner, howner, hlink, hlongest⟩
    obtain ⟨owner, rfl⟩ : ∃ cs, owner = String.ofList cs :=
      ⟨owner.toList, String.ofList_toList.symm⟩
    obtain ⟨longer, shorter, hsplit⟩ := List.append_of_mem ((hmem owner).1 howner)
    rw [hsplit] at hsorted hmem
    refine ⟨longer, owner, shorter, hsplit, hlink, fun other hother => ?_⟩
    have hlt : owner.length < other.length :=
      (List.pairwise_append.1 hsorted).2.2 other hother owner (by simp)
    have hunknown : ¬ r.IsKnown (String.ofList other) := by
      intro hknown
      have hle := hlongest _ ((hmem other).2 (by simp [hother])) hknown
      rw [String.length_ofList, String.length_ofList] at hle
      exact Nat.not_le_of_lt hlt hle
    rw [page?_eq_none hunknown, Option.map_none]

theorem staticMember?_eq_none_iff {name : String} :
    r.staticMember? name.toList = none ↔ ∀ owner, IsOwner owner name → ¬ r.IsKnown owner := by
  rw [staticMember?, List.findSome?_eq_none_iff]
  constructor
  · intro hnone owner howner hknown
    obtain ⟨page, hpage⟩ := isKnown_iff.1 hknown
    have hmem : owner.toList ∈ (dottedOwners name.toList).reverse :=
      List.mem_reverse.2 (isOwner_iff.1 (String.ofList_toList.symm ▸ howner))
    simpa [hpage] using hnone _ hmem
  · intro h owner howner
    rw [page?_eq_none (h _ (isOwner_iff.2 (List.mem_reverse.1 howner))), Option.map_none]

/-! ## Resolving -/

theorem link?_of_page {name page : String} (hempty : name ≠ "") (h : r.page? name = some page) :
    r.link? name.toList = some page := by
  simp [link?, hempty, h]

theorem link?_of_instanceMember {owner member : String}
    (hname : ¬ r.IsKnown (owner ++ "#" ++ member)) (howner : '#' ∉ owner.toList) :
    r.link? (owner ++ "#" ++ member).toList =
      (r.page? owner).map (· ++ "#" ++ owner ++ "$" ++ member) := by
  have hne : (owner ++ "#" ++ member).toList.isEmpty = false := by simp
  have hsplit : instanceMember? (owner ++ "#" ++ member).toList =
      some (owner.toList, member.toList) := by
    simpa using instanceMember?_append howner member.toList
  rw [link?, hne, String.ofList_toList, page?_eq_none hname, hsplit]
  simp only [String.ofList_toList, Bool.false_eq_true, if_false]

theorem link?_of_staticMember {name : String} (hempty : name ≠ "") (hname : ¬ r.IsKnown name)
    (h : '#' ∉ name.toList) :
    r.link? name.toList = r.staticMember? name.toList := by
  simp [link?, hempty, page?_eq_none hname, instanceMember?_eq_none h]

theorem IsOwner.ne_empty {owner name : String} (h : IsOwner owner name) : name ≠ "" := by
  obtain ⟨member, rfl⟩ := h
  simp

theorem LinksTo.link?_eq {name : String} {result : Option String} (h : r.LinksTo name result) :
    r.link? name.toList = result := by
  cases h with
  | empty => rfl
  | type hname hpage => exact link?_of_page hname (page?_eq_some_iff.2 hpage)
  | instanceMember hname howner hpage =>
      rw [link?_of_instanceMember hname howner, page?_eq_some_iff.2 hpage, Option.map_some]
  | unknownInstance hname howner hunknown =>
      rw [link?_of_instanceMember hname howner, page?_eq_none hunknown, Option.map_none]
  | staticMember hname hstatic howner hpage hlongest =>
      rw [link?_of_staticMember howner.ne_empty hname hstatic, staticMember?_eq_some_iff]
      exact ⟨_, howner, ⟨_, page?_eq_some_iff.2 hpage, rfl⟩, hlongest⟩
  | unknown hempty hname hstatic howners =>
      rw [link?_of_staticMember hempty hname hstatic, staticMember?_eq_none_iff.2 howners]

theorem linksTo_link? (r : Registry) (name : String) : r.LinksTo name (r.link? name.toList) := by
  by_cases hempty : name = ""
  · rw [hempty]
    exact .empty
  by_cases hname : r.IsKnown name
  · obtain ⟨page, hpage⟩ := isKnown_iff.1 hname
    rw [link?_of_page hempty hpage]
    exact .type hempty (page?_eq_some_iff.1 hpage)
  by_cases hsign : '#' ∈ name.toList
  · obtain ⟨owner, member, hsplit, howner⟩ := List.eq_append_cons_of_mem hsign
    obtain rfl : name = String.ofList owner ++ "#" ++ String.ofList member :=
      String.toList_injective (by simp [hsplit])
    have howner' : '#' ∉ (String.ofList owner).toList := by simpa using howner
    rw [link?_of_instanceMember hname howner']
    cases hpage : r.page? (String.ofList owner) with
    | none => exact .unknownInstance hname howner' (by simp [isKnown_iff, hpage])
    | some page => exact .instanceMember hname howner' (page?_eq_some_iff.1 hpage)
  · rw [link?_of_staticMember hempty hname hsign]
    cases hlink : r.staticMember? name.toList with
    | none => exact .unknown hempty hname hsign (staticMember?_eq_none_iff.1 hlink)
    | some link =>
        obtain ⟨owner, howner, ⟨page, hpage, rfl⟩, hlongest⟩ := staticMember?_eq_some_iff.1 hlink
        exact .staticMember hname hsign howner (page?_eq_some_iff.1 hpage) hlongest

theorem link?_eq_iff {name : String} {result : Option String} :
    r.link? name.toList = result ↔ r.LinksTo name result :=
  ⟨fun h => h ▸ r.linksTo_link? name, LinksTo.link?_eq⟩

theorem resolve_append_call (r : Registry) (name : String) :
    r.resolve (name ++ "()") = r.link? name.toList := by
  have hcall : (name ++ "()").toList = name.toList ++ ['(', ')'] := by simp
  rw [resolve, hcall, withoutCall_append]

theorem resolve_of_not_call {name : String} (h : ∀ start, name ≠ start ++ "()") :
    r.resolve name = r.link? name.toList := by
  rw [resolve, withoutCall_eq_self]
  intro start hstart
  exact h (String.ofList start) (String.toList_injective (by simp [hstart]))

/-- A name is resolved by the rules of `LinksTo`, without the parentheses of one call at its end; so
a call resolves as what is called. -/
theorem resolve_eq_iff (r : Registry) (name : String) :
    (∀ result, r.resolve (name ++ "()") = result ↔ r.LinksTo name result) ∧
    ((∀ start, name ≠ start ++ "()") →
      (∀ result, r.resolve name = result ↔ r.LinksTo name result) ∧
      r.resolve (name ++ "()") = r.resolve name) := by
  rw [resolve_append_call]
  refine ⟨fun result => link?_eq_iff, fun hcall => ?_⟩
  rw [resolve_of_not_call hcall]
  exact ⟨fun result => link?_eq_iff, rfl⟩

/-- A namespace and a class in it; one name in the class is there without a kind. -/
def widgets : Registry where
  kinds := [("ui", some "namespace"), ("ui.Menu", some "class"), ("ui.Menu.Item", none)]
  externs := []
  filePrefix := "api/"

theorem resolve_eq_iff_widgets :
    (∀ start, "ui.Menu.Item.open" ≠ start ++ "()") ∧
    widgets.LinksTo "ui.Menu.Item.open" (some "api/class_ui_Menu.html#ui.Menu.Item.open") ∧
    widgets.resolve ("ui.Menu.Item.open" ++ "()") = widgets.resolve "ui.Menu.Item.open" ∧
    widgets.LinksTo "ui.Menu#show" (some "api/class_ui_Menu.html#ui.Menu$show") ∧
    widgets.LinksTo "ui.Menu.Item#show" none ∧
    widgets.LinksTo "()" none := by
  have hcall : ∀ start, "ui.Menu.Item.open" ≠ start ++ "()" := by
    intro start hstart
    have hlast := congrArg (fun name => name.toList.getLast?) hstart
    simp at hlast
  have hstatic := (resolve_eq_iff widgets "ui.Menu.Item.open").2 hcall
  refine ⟨hcall, (hstatic.1 _).1 ?_, hstatic.2, ((resolve_eq_iff widgets "ui.Menu#show").1 _).1 ?_,
    ((resolve_eq_iff widgets "ui.Menu.Item#show").1 _).1 ?_,
      ((resolve_eq_iff widgets "()").1 _).1 ?_⟩
  all_goals decide +kernel

end DocMarkup.Registry
