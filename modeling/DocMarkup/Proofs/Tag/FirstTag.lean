import DocMarkup.Tag.Scan
import DocMarkup.Proofs.Tag.Brace
import DocMarkup.Proofs.Tag.Marker

/-!
The first tag of a text, and a scan as a walk from tag to tag. Either the first marker of a text is
closed, and the scan goes on after that tag, or no tag is found and the whole text is one plain run.
-/

namespace DocMarkup

/-! ## The first tag -/

/-- The marker that begins the tag. -/
def TagSplit.marker (s : TagSplit) : TagMarker := ⟨s.name, s.gap, s.body ++ '\x7d' :: s.after⟩

/-- The text is split at its first marker, and at the brace that closes it. -/
structure TagSplit.IsFirst (s : TagSplit) (text : List Char) : Prop where
  first : TagMarker.first? text = some (s.before, s.marker)
  close : Brace.close? 0 false (s.body ++ '\x7d' :: s.after) = some s.body.length

/-- The first marker of the text, if there is one, is not closed. -/
def Unclosed (text : List Char) : Prop :=
  ∀ (before : List Char) (m : TagMarker),
    TagMarker.first? text = some (before, m) → Brace.close? 0 false m.rest = none

theorem Unclosed.of_unmarked {text : List Char} (h : TagMarker.Unmarked text) : Unclosed text := by
  intro before m hm
  rw [TagMarker.first?_eq_none_iff.2 h] at hm
  cases hm

theorem closingBrace?_zero (text : List Char) :
    closingBrace? text 0 = Brace.close? 0 false text := by
  simp [closingBrace?, escapedAt]

theorem TagSplit.IsFirst.ofText_eq {s : TagSplit} {text : List Char} (h : s.IsFirst text) :
    Reading.ofText text = .tag s := by
  have hmem : (s.body ++ '\x7d' :: s.after).contains '\x7d' = true := by simp
  simp only [Reading.ofText, h.first, TagSplit.marker, hmem, if_true, closingBrace?_zero, h.close]
  simp

theorem Unclosed.ofText_ne {text : List Char} (h : Unclosed text) (s : TagSplit) :
    Reading.ofText text ≠ .tag s := by
  unfold Reading.ofText
  split
  · simp
  · rename_i before m hm
    rw [closingBrace?_zero, h before m hm]
    split <;> simp

/-- Where no tag is found, the first marker is not closed; else the text is split at its first
tag. -/
theorem unclosed_or_isFirst (text : List Char) :
    Unclosed text ∨ ∃ s : TagSplit, s.IsFirst text := by
  cases hfirst : TagMarker.first? text with
  | none => exact Or.inl (fun before m hm => by rw [hfirst] at hm; cases hm)
  | some found =>
      obtain ⟨before, m⟩ := found
      cases hclose : Brace.close? 0 false m.rest with
      | none =>
          left
          intro before' m' hm
          rw [hfirst] at hm
          cases hm
          exact hclose
      | some n =>
          obtain ⟨hn, hc⟩ := List.getElem?_eq_some_iff.1 (Brace.getElem?_of_close? hclose)
          have hrest : m.rest.take n ++ '\x7d' :: m.rest.drop (n + 1) = m.rest := by
            rw [← hc, List.getElem_cons_drop, List.take_append_drop]
          refine Or.inr ⟨⟨before, m.name, m.gap, m.rest.take n, m.rest.drop (n + 1)⟩, ?_, ?_⟩
          · simp [hfirst, TagSplit.marker, hrest]
          · simp [hrest, hclose, Nat.min_eq_left (Nat.le_of_lt hn)]

/-! ## What is known of the first tag -/

namespace TagSplit.IsFirst

variable {s : TagSplit} {text : List Char}

theorem text_eq (h : s.IsFirst text) : text = s.before ++ s.written ++ s.after :=
  (TagSplit.source_eq h.ofText_eq).symm

theorem begins (h : s.IsFirst text) : s.marker.Begins (text.drop s.before.length) :=
  (TagMarker.first?_eq_some_iff.1 h.first).2.1

/-- No marker begins before the first tag. -/
theorem unmarked (h : s.IsFirst text) :
    ∀ i < s.before.length, ∀ m : TagMarker, ¬ m.Begins (text.drop i) :=
  (TagMarker.first?_eq_some_iff.1 h.first).2.2

end TagSplit.IsFirst

/-! ## Scanning from tag to tag -/

namespace Scan

theorem segments_of_unclosed {text : List Char} (h : Unclosed text) (offset : Nat) :
    (ofChars offset text).segments = run text := by
  rw [ofChars]
  split
  · rfl
  · rfl
  · rename_i s hs
    exact absurd hs (h.ofText_ne s)

theorem segments_of_isFirst {s : TagSplit} {text : List Char} (h : s.IsFirst text) (offset : Nat) :
    (ofChars offset text).segments =
      run s.before ++ .tag (s.tag offset) :: (ofChars (offset + s.length) s.after).segments := by
  rw [ofChars]
  split
  · rename_i hs
    rw [h.ofText_eq] at hs
    cases hs
  · rename_i hs
    rw [h.ofText_eq] at hs
    cases hs
  · rename_i s' hs
    rw [h.ofText_eq] at hs
    cases hs
    rfl

end Scan

end DocMarkup
