import DocMarkup.Config.FileTree

/-!
Following a path and opening a file. A path is followed from directory to directory, and a file is
opened by the place that its path names. Main statement: if there is something at the parent of a
path, the path can be opened exactly if it holds no null character, its parent is a directory and it
is no directory itself (`FileTree.openForAppend_cases`).
-/

namespace DocMarkup

namespace Place

/-- A name in a place. -/
def below (p : Place) (part : String) : Place := { p with parts := p.parts ++ [part] }

theorem step_up (p : Place) : p.step ".." = p.up := by simp [step]

theorem step_name (p : Place) {part : String} (h : part ≠ "..") :
    p.step part = p.below part := by simp [step, below, h]

theorem nil_or_below (p : Place) : p.parts = [] ∨ ∃ q part, p = below q part := by
  obtain ⟨base, parts⟩ := p
  rcases parts.eq_nil_or_concat with hnil | ⟨parts, part, rfl⟩
  · exact .inl hnil
  · exact .inr ⟨⟨base, parts⟩, part, by simp [below]⟩

theorem up_of_nil {p : Place} (h : p.parts = []) : p.up.parts = [] := by
  obtain ⟨base, parts⟩ := p
  obtain rfl : parts = [] := h
  cases base with
  | root => rfl
  | above levels => rfl

@[simp] theorem up_below (p : Place) (part : String) : (p.below part).up = p := by
  obtain ⟨base, parts⟩ := p
  cases parts with
  | nil => rfl
  | cons first parts => exact congrArg (Place.mk base) List.dropLast_concat

theorem parts_origin (p : Path) : (origin p).parts = [] := by
  unfold origin
  split <;> rfl

theorem named_of_nil {p : Path} (h : p.parts = []) :
    named p = origin p := by rw [named, h, List.foldl_nil]

/-- A path leads one step further than its parent. -/
theorem named_eq_step {p : Path} {parts : List String} {part : String}
    (h : p.parts = parts ++ [part]) :
    named p = (named p.parent).step part := by
  have horigin : origin p.parent = origin p := rfl
  have hparts : p.parent.parts = parts := by simp [Path.parent, h]
  rw [named, named, horigin, hparts, h, List.foldl_append]
  rfl

end Place

namespace FileTree

variable {t : FileTree} {p q : Place}

theorem entry?_of_nil (h : p.parts = []) : t.entry? p = some .directory := by
  rw [FileTree.entry?, h]
  rfl

/-! ## Following -/

/-- All places above a place are directories. -/
def IsGrounded (t : FileTree) (p : Place) : Prop :=
  ∀ n < p.parts.length, t.entry? { p with parts := p.parts.take n } = some .directory

namespace IsGrounded

theorem of_nil (h : p.parts = []) : t.IsGrounded p := by
  intro n hn
  simp [h] at hn

theorem below_iff {part : String} :
    t.IsGrounded (p.below part) ↔ t.IsGrounded p ∧ t.entry? p = some .directory := by
  have htake : ∀ n ≤ p.parts.length, (p.parts ++ [part]).take n = p.parts.take n := fun n hn =>
    List.take_append_of_le_length hn
  constructor
  · intro h
    refine ⟨fun n hn => ?_, ?_⟩
    · simpa [Place.below, htake n (Nat.le_of_lt hn)] using h n (by simp [Place.below]; omega)
    · simpa [Place.below] using h p.parts.length (by simp [Place.below])
  · rintro ⟨h, hp⟩ n hn
    have hle : n ≤ p.parts.length := by simpa [Place.below, Nat.lt_succ_iff] using hn
    rcases Nat.lt_or_eq_of_le hle with hlt | rfl
    · simpa [Place.below, htake n hle] using h n hlt
    · simpa [Place.below] using hp

theorem up (h : t.IsGrounded p) : t.IsGrounded p.up ∧ t.entry? p.up = some .directory := by
  rcases p.nil_or_below with hnil | ⟨q, part, rfl⟩
  · exact ⟨of_nil (Place.up_of_nil hnil), entry?_of_nil (Place.up_of_nil hnil)⟩
  · rw [Place.up_below]
    exact below_iff.1 h

theorem step (h : t.IsGrounded p) (hp : t.entry? p = some .directory) (part : String) :
    t.IsGrounded (p.step part) := by
  by_cases hpart : part = ".."
  · rw [hpart, Place.step_up]
    exact h.up.1
  · rw [p.step_name hpart]
    exact below_iff.2 ⟨h, hp⟩

/-- A path that can be followed leads to the place that it names. -/
theorem follow? {parts : List String} (h : t.IsGrounded p) (hp : (t.entry? p).isSome)
    (hfollow : t.follow? p parts = some q) :
    q = parts.foldl Place.step p ∧ t.IsGrounded q ∧ (t.entry? q).isSome := by
  induction parts generalizing p with
  | nil =>
      cases hfollow
      exact ⟨rfl, h, hp⟩
  | cons part parts ih =>
      rw [FileTree.follow?] at hfollow
      split at hfollow
      · rename_i hdirectory
        split at hfollow
        · rename_i hnext
          exact ih (h.step hdirectory part) hnext hfollow
        · cases hfollow
      · cases hfollow

theorem of_hasPath {path : Path} (h : t.hasPath path = true) :
    t.IsGrounded (Place.named path) ∧ (t.entry? (Place.named path)).isSome := by
  have horigin := Place.parts_origin path
  simp only [hasPath, Bool.and_eq_true, Option.isSome_iff_exists] at h
  obtain ⟨-, q, hq⟩ := h
  obtain ⟨rfl, hgrounded⟩ := (of_nil horigin).follow? (by rw [entry?_of_nil horigin]; rfl) hq
  exact hgrounded

end IsGrounded

/-! ## Opening -/

theorem IsGrounded.isBlocked (h : t.IsGrounded p) : t.isBlocked p = false := by
  rw [FileTree.isBlocked, List.any_eq_false]
  intro n hn
  simp [h n (List.mem_range.1 hn)]

theorem isBlocked_below {content : String} (hp : t.entry? p = some (.file content))
    (part : String) :
    t.isBlocked (p.below part) = true := by
  rw [isBlocked, List.any_eq_true]
  exact ⟨p.parts.length, by simp [Place.below], by simp [Place.below, hp]⟩

/-- What it takes to open a file. -/
structure IsOpenable (t : FileTree) (path : String) : Prop where
  readable : '\x00' ∉ path.toList
  inDirectory : t.entry? (Place.named (Path.ofText path).parent) = some .directory
  notDirectory : t.entry? (Place.named (Path.ofText path)) ≠ some .directory

variable {path : String}

theorem openForAppend_of_blocked (h : t.isBlocked (Place.named (Path.ofText path)) = true) :
    ∃ e, t.openForAppend path = .error e := by
  rw [openForAppend]
  split
  · exact ⟨_, rfl⟩
  · exact ⟨_, rfl⟩

/-- Below directories, nothing but a directory or a null character is in the way. -/
theorem openForAppend_of_grounded (h : t.IsGrounded (Place.named (Path.ofText path))) :
    ('\x00' ∉ path.toList ∧ t.entry? (Place.named (Path.ofText path)) ≠ some .directory ∧
      ∃ files, t.openForAppend path = .ok (Place.named (Path.ofText path), files)) ∨
    (('\x00' ∈ path.toList ∨ t.entry? (Place.named (Path.ofText path)) = some .directory) ∧
      ∃ e, t.openForAppend path = .error e) := by
  by_cases hnull : '\x00' ∈ path.toList
  · exact .inr ⟨.inl hnull, .badCharacter, by simp [openForAppend, hnull]⟩
  · cases hentry : t.entry? (Place.named (Path.ofText path)) with
    | none =>
        refine .inl ⟨hnull, by simp, t.put (Place.named (Path.ofText path)) (.file ""), ?_⟩
        simp [openForAppend, hnull, h.isBlocked, hentry, h.up.2]
    | some e =>
        cases e with
        | directory =>
            exact .inr ⟨.inr rfl,
              .isADirectory, by simp [openForAppend, hnull, h.isBlocked, hentry]⟩
        | file content =>
            exact .inl ⟨hnull, by simp, t, by simp [openForAppend, hnull, h.isBlocked, hentry]⟩

/-- Below a file, a path leads back to the directory of the file or nowhere. -/
theorem openForAppend_of_file {content : String}
    (h : t.IsGrounded (Place.named (Path.ofText path).parent))
    (hfile : t.entry? (Place.named (Path.ofText path).parent) = some (.file content)) :
    ∃ e, t.openForAppend path = .error e := by
  rcases (Path.ofText path).parts.eq_nil_or_concat with hnil | ⟨parts, part, hparts⟩
  · have hparent : (Path.ofText path).parent.parts = [] := by simp [Path.parent, hnil]
    rw [Place.named_of_nil hparent, entry?_of_nil (Place.parts_origin _)] at hfile
    cases hfile
  · have hstep : Place.named (Path.ofText path) =
        (Place.named (Path.ofText path).parent).step part :=
      Place.named_eq_step (by simpa using hparts)
    by_cases hpart : part = ".."
    · rw [hpart, Place.step_up] at hstep
      obtain ⟨hup, hdirectory⟩ := h.up
      rw [← hstep] at hup hdirectory
      rcases openForAppend_of_grounded hup with ⟨_, hentry, _⟩ | ⟨_, herror⟩
      · exact absurd hdirectory hentry
      · exact herror
    · rw [Place.step_name _ hpart] at hstep
      exact openForAppend_of_blocked (hstep ▸ isBlocked_below hfile part)

/-- If there is something at the parent of a path, only what `IsOpenable` rules out keeps the path
from being opened. -/
theorem openForAppend_cases (h : t.hasPath (Path.ofText path).parent = true) :
    (t.IsOpenable path ∧
      ∃ files, t.openForAppend path = .ok (Place.named (Path.ofText path), files)) ∨
    (¬ t.IsOpenable path ∧ ∃ e, t.openForAppend path = .error e) := by
  obtain ⟨hparent, hsome⟩ := IsGrounded.of_hasPath h
  obtain ⟨e, hentry⟩ := Option.isSome_iff_exists.1 hsome
  cases e with
  | file content =>
      refine .inr ⟨fun hopenable => ?_, openForAppend_of_file hparent hentry⟩
      cases hentry.symm.trans hopenable.inDirectory
  | directory =>
      have hgrounded : t.IsGrounded (Place.named (Path.ofText path)) := by
        rcases (Path.ofText path).parts.eq_nil_or_concat with hnil | ⟨parts, part, hparts⟩
        · rw [Place.named_of_nil hnil]
          exact .of_nil (Place.parts_origin _)
        · rw [Place.named_eq_step (by simpa using hparts)]
          exact hparent.step hentry part
      rcases openForAppend_of_grounded hgrounded with ⟨hnull, hplace, hopen⟩ | ⟨hbad, herror⟩
      · exact .inl ⟨⟨hnull, hentry, hplace⟩, hopen⟩
      · exact .inr ⟨fun hopenable => hbad.elim hopenable.readable hopenable.notDirectory, herror⟩

end FileTree

end DocMarkup
