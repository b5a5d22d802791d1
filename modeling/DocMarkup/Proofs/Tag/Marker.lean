import DocMarkup.Tag.Split
import Mathlib.Data.List.TakeWhile

/-!
Where tags can begin. A marker is a brace, an at sign, one or more word characters and a blank
(`TagMarker.Begins`). Main statements: `TagMarker.atStart?` recognises exactly the markers, and
`TagMarker.first?` finds the first of a text.
-/

namespace DocMarkup

/-! ## Words and blanks -/

namespace Text

theorem inRanges_eq_false_of_apart {t u : List (Nat × Nat)} {n : Nat}
    (hapart : ∀ r ∈ t, ∀ s ∈ u, r.2 < s.1 ∨ s.2 < r.1) (hn : inRanges t n = true) :
    inRanges u n = false := by
  simp only [inRanges, List.any_eq_true, Bool.and_eq_true, decide_eq_true_eq] at hn
  obtain ⟨r, hr, hlo, hhi⟩ := hn
  simp only [inRanges, List.any_eq_false, Bool.and_eq_true, decide_eq_true_eq, not_and]
  intro s hs hle
  rcases hapart r hr s hs with h | h
  · omega
  · omega

theorem blankRanges_apart_letters :
    ∀ r ∈ blankRanges, ∀ table ∈ letterRanges, ∀ s ∈ table, r.2 < s.1 ∨ s.2 < r.1 := by
  decide +kernel

theorem isAlphanum_eq_inRanges (c : Char) :
    c.isAlphanum = inRanges [(65, 90), (97, 122), (48, 57)] c.toNat := by
  unfold Char.isAlphanum Char.isAlpha Char.isUpper Char.isLower Char.isDigit
  simp only [inRanges, List.any_cons, List.any_nil, UInt32.le_iff_toNat_le, ge_iff_le,
    Bool.decide_and, Bool.or_false, Bool.or_assoc]
  rfl

/-- No blank belongs to a name. -/
theorem isWord_eq_false_of_isBlank {c : Char} (h : isBlank c = true) : isWord c = false := by
  have hascii : c.isAlphanum = false := by
    rw [isAlphanum_eq_inRanges]
    exact inRanges_eq_false_of_apart (by decide) h
  have hletters : letterRanges.any (inRanges · c.toNat) = false := by
    rw [List.any_eq_false]
    intro table htable
    simpa using inRanges_eq_false_of_apart (fun r hr => blankRanges_apart_letters r hr table htable)
      h
  have hmark : c ≠ '_' := by
    rintro rfl
    exact absurd h (by decide)
  simp [isWord, isAlphanumeric, hascii, hletters, hmark]

theorem ne_of_isBlank {c d : Char} (h : isBlank c = true) (hd : isBlank d = false) : c ≠ d := by
  rintro rfl
  rw [h] at hd
  cases hd

end Text

/-! ## Markers at the beginning of a text -/

namespace TagMarker

/-- A text begins with the marker. -/
structure Begins (m : TagMarker) (text : List Char) : Prop where
  text_eq : text = '\x7b' :: '@' :: m.name ++ m.gap :: m.rest
  name_ne_nil : m.name ≠ []
  isWord_name : ∀ c ∈ m.name, Text.isWord c = true
  isBlank_gap : Text.isBlank m.gap = true

theorem begins_of_atStart? {text : List Char} {m : TagMarker} (h : atStart? text = some m) :
    m.Begins text := by
  have htext := atStart?_eq h
  unfold atStart? at h
  split at h
  · rename_i cs
    split at h
    · rename_i gap rest hrest
      split at h
      · cases h
      · rename_i hcond
        cases h
        simp only [Bool.or_eq_true, List.isEmpty_iff, Bool.not_eq_true', not_or,
          Bool.not_eq_false] at hcond
        exact ⟨htext, hcond.1, fun c hc => List.mem_takeWhile_imp hc, hcond.2⟩
    · cases h
  · cases h

theorem Begins.atStart? {text : List Char} {m : TagMarker} (h : m.Begins text) :
    TagMarker.atStart? text = some m := by
  obtain ⟨htext, hne, hword, hblank⟩ := h
  have hgap := Text.isWord_eq_false_of_isBlank hblank
  -- the name is a whole run of word characters because the blank ends it
  have htake : (m.name ++ m.gap :: m.rest).takeWhile Text.isWord = m.name := by
    rw [List.takeWhile_append_of_pos hword, List.takeWhile_cons_of_neg (by simp [hgap]),
      List.append_nil]
  have hdrop : (m.name ++ m.gap :: m.rest).dropWhile Text.isWord = m.gap :: m.rest := by
    rw [List.dropWhile_append_of_pos hword, List.dropWhile_cons_of_neg (by simp [hgap])]
  rw [htext]
  simp [TagMarker.atStart?, htake, hdrop, hne, hblank]

theorem atStart?_eq_some_iff {text : List Char} {m : TagMarker} :
    TagMarker.atStart? text = some m ↔ m.Begins text :=
  ⟨begins_of_atStart?, Begins.atStart?⟩

theorem atStart?_eq_none_iff {text : List Char} :
    TagMarker.atStart? text = none ↔ ∀ m : TagMarker, ¬ m.Begins text := by
  simp only [← atStart?_eq_some_iff, Option.eq_none_iff_forall_ne_some, ne_eq]

/-! ## The first marker -/

/-- No marker begins at any place of the text. -/
def Unmarked (text : List Char) : Prop := ∀ (i : Nat) (m : TagMarker), ¬ m.Begins (text.drop i)

theorem unmarked_nil : Unmarked [] := by
  intro i m h
  simpa using h.text_eq

theorem unmarked_cons {c : Char} {text : List Char} :
    Unmarked (c :: text) ↔ TagMarker.atStart? (c :: text) = none ∧ Unmarked text := by
  rw [atStart?_eq_none_iff]
  constructor
  · intro h
    exact ⟨h 0, fun i => h (i + 1)⟩
  · rintro ⟨hhead, htail⟩ i
    cases i with
    | zero => exact hhead
    | succ i => exact htail i

theorem first?_eq_none_iff {text : List Char} : first? text = none ↔ Unmarked text := by
  induction text with
  | nil => simp [first?, unmarked_nil]
  | cons c text ih =>
      rw [unmarked_cons, ← ih, first?]
      cases TagMarker.atStart? (c :: text) with
      | some m => simp
      | none => simp

/-- The first marker stands after a text in which none begins. -/
theorem first?_eq_some_iff {text before : List Char} {m : TagMarker} :
    first? text = some (before, m) ↔
      before <+: text ∧ m.Begins (text.drop before.length) ∧
        ∀ i < before.length, ∀ m' : TagMarker, ¬ m'.Begins (text.drop i) := by
  induction text generalizing before with
  | nil =>
      simp only [first?, List.drop_nil, reduceCtorEq, false_iff, not_and]
      intro _ h
      exact absurd h.text_eq (by simp)
  | cons c text ih =>
      rw [first?]
      cases hstart : TagMarker.atStart? (c :: text) with
      | some m' =>
          have hm' := begins_of_atStart? hstart
          constructor
          · intro h
            cases h
            exact ⟨List.nil_prefix, hm', by simp⟩
          · rintro ⟨hpre, hm, hnone⟩
            cases before with
            | nil => simpa [hstart] using hm.atStart?
            | cons b before => exact absurd hm' (hnone 0 (by simp) m')
      | none =>
          rw [atStart?_eq_none_iff] at hstart
          constructor
          · intro h
            obtain ⟨⟨before', m'⟩, hp, he⟩ := Option.map_eq_some_iff.1 h
            cases he
            obtain ⟨hpre, hm, hnone⟩ := ih.1 hp
            refine ⟨(List.prefix_cons_inj c).2 hpre, hm, ?_⟩
            intro i hi
            cases i with
            | zero => exact hstart
            | succ i => exact hnone i (by simpa using hi)
          · rintro ⟨hpre, hm, hnone⟩
            cases before with
            | nil => exact absurd hm (hstart m)
            | cons b before =>
                obtain ⟨rfl, hbefore⟩ := List.cons_prefix_cons.1 hpre
                have hp := ih.2 ⟨hbefore, hm, fun i hi => hnone (i + 1) (by simpa using hi)⟩
                simp [hp]

end TagMarker

end DocMarkup
