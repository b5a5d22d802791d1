import DocMarkup.Proofs.Tag.RoundTrip

/-!
Texts that are cut off. What is found in the beginning of a text is found in the whole text, and a
tag of the whole text is found in its beginning if it ends there. Main statement: the scan of a
beginning keeps the segments up to the last tag that ends in it, and all that follows is plain
(`exists_cutScan`).
-/

namespace DocMarkup

/-! ## Braces and markers -/

namespace Brace

variable {depth : Nat} {escaped : Bool} {cs : List Char} {n : Nat}

theorem close?_append (h : close? depth escaped cs = some n) (more : List Char) :
    close? depth escaped (cs ++ more) = some n := by
  fun_induction close? depth escaped cs generalizing n with
  | case1 => cases h
  | case2 escaped c cs depth hc ih =>
      obtain ⟨j, hj, rfl⟩ := Option.map_eq_some_iff.1 h
      simp [close?_of_opening hc, ih hj]
  | case3 escaped c cs hc =>
      cases h
      simp [close?, hc]
  | case4 escaped c cs depth hc ih =>
      obtain ⟨j, hj, rfl⟩ := Option.map_eq_some_iff.1 h
      simp [close?_of_closing hc, ih hj]
  | case5 escaped c cs depth hc ih =>
      obtain ⟨j, hj, rfl⟩ := Option.map_eq_some_iff.1 h
      simp [close?_of_neither hc, ih hj]

/-- The text after the closing brace is not read. -/
theorem close?_of_append {more : List Char} (h : close? depth escaped (cs ++ more) = some n)
    (hn : n < cs.length) :
    close? depth escaped cs = some n := by
  fun_induction close? depth escaped cs generalizing n with
  | case1 => cases hn
  | case2 escaped c cs depth hc ih =>
      rw [List.cons_append, close?_of_opening hc] at h
      obtain ⟨j, hj, rfl⟩ := Option.map_eq_some_iff.1 h
      rw [ih hj (by simpa using hn), Option.map_some]
  | case3 escaped c cs hc => simpa [close?, hc] using h
  | case4 escaped c cs depth hc ih =>
      rw [List.cons_append, close?_of_closing hc] at h
      obtain ⟨j, hj, rfl⟩ := Option.map_eq_some_iff.1 h
      rw [ih hj (by simpa using hn), Option.map_some]
  | case5 escaped c cs depth hc ih =>
      rw [List.cons_append, close?_of_neither hc] at h
      obtain ⟨j, hj, rfl⟩ := Option.map_eq_some_iff.1 h
      rw [ih hj (by simpa using hn), Option.map_some]

end Brace

namespace TagMarker

theorem Begins.append {m : TagMarker} {text : List Char} (h : m.Begins text) (more : List Char) :
    TagMarker.Begins ⟨m.name, m.gap, m.rest ++ more⟩ (text ++ more) :=
  ⟨by simp [h.text_eq], h.name_ne_nil, h.isWord_name, h.isBlank_gap⟩

theorem unmarked_of_append {before more : List Char}
    (h : ∀ i < before.length, ∀ m : TagMarker, ¬ m.Begins ((before ++ more).drop i)) :
    Unmarked before := by
  intro i m hm
  have hi : i < before.length := by
    have hlength := congrArg List.length hm.text_eq
    simp at hlength
    omega
  have hwhole := hm.append more
  rw [← List.drop_append_of_le_length (Nat.le_of_lt hi)] at hwhole
  exact h i hi _ hwhole

/-- The first marker of a text stays the first one, whatever follows the text. -/
theorem first?_append {text before : List Char} {m : TagMarker} (h : first? text = some (before, m))
    (more : List Char) :
    first? (text ++ more) = some (before, ⟨m.name, m.gap, m.rest ++ more⟩) := by
  obtain ⟨⟨rest, rfl⟩, hm, hnone⟩ := first?_eq_some_iff.1 h
  have hbegins := hm
  rw [List.drop_left] at hbegins
  have htext : rest = '\x7b' :: ('@' :: m.name ++ m.gap :: m.rest) := hbegins.text_eq
  have happend := hbegins.append more
  rw [htext, List.cons_append] at happend
  rw [htext, List.append_assoc, List.cons_append]
  exact first?_append_brace (unmarked_of_append hnone) happend

end TagMarker

/-! ## The first tag of a beginning -/

variable {cut more : List Char}

theorem Unclosed.of_append (h : Unclosed (cut ++ more)) : Unclosed cut := by
  intro before m hm
  have hnone := h before _ (TagMarker.first?_append hm more)
  cases hclose : Brace.close? 0 false m.rest with
  | none => rfl
  | some n =>
      rw [Brace.close?_append hclose more] at hnone
      cases hnone

namespace TagSplit.IsFirst

variable {s : TagSplit}

/-- A tag that does not end in a beginning of the text is not found there, nor is any other. -/
theorem unclosed_of_length_lt (h : s.IsFirst (cut ++ more)) (hlt : cut.length < s.length) :
    Unclosed cut := by
  intro before m hm
  have hfirst := TagMarker.first?_append hm more
  rw [h.first] at hfirst
  simp only [Option.some.injEq, Prod.mk.injEq, marker, TagMarker.mk.injEq] at hfirst
  obtain ⟨hbefore, hname, _, hrest⟩ := hfirst
  cases hclose : Brace.close? 0 false m.rest with
  | none => rfl
  | some n =>
      -- the brace that closes the marker would be that of the tag, and the cut would reach over it
      have hsame := Brace.close?_append hclose more
      rw [← hrest, h.close, Option.some.injEq] at hsame
      obtain ⟨hn, _⟩ := List.getElem?_eq_some_iff.1 (Brace.getElem?_of_close? hclose)
      have hlength := congrArg List.length (TagMarker.first?_eq hm)
      simp [TagSplit.length, TagSplit.written, hbefore, hname, hsame] at hlt hlength
      omega

/-- A tag that ends in a beginning of the text is the first one there, too. -/
theorem of_length_le (h : s.IsFirst (cut ++ more)) (hle : s.length ≤ cut.length) :
    ∃ after, s.after = after ++ more ∧
      TagSplit.IsFirst ⟨s.before, s.name, s.gap, s.body, after⟩ cut := by
  have htext := h.text_eq
  obtain ⟨after, hcut, hafter⟩ : ∃ after, cut = s.before ++ s.written ++ after ∧
      s.after = after ++ more := by
    rcases List.append_eq_append_iff.1 htext with ⟨extra, hextra, hmore⟩ | ⟨after, hcut, hafter⟩
    · have hlength := congrArg List.length hextra
      simp [TagSplit.length] at hle hlength
      have hnil : extra = [] := List.length_eq_zero_iff.1 (by omega)
      exact ⟨[], by simpa [hnil] using hextra.symm, by simpa [hnil] using hmore.symm⟩
    · exact ⟨after, hcut, hafter⟩
  have hunmarked := h.unmarked
  rw [htext, List.append_assoc] at hunmarked
  have hclose := h.close
  rw [hafter, ← List.cons_append, ← List.append_assoc] at hclose
  refine ⟨after, hafter, ?_, ?_⟩
  · have hbegins : (TagSplit.marker ⟨s.before, s.name, s.gap, s.body, after⟩).Begins
        (s.written ++ after) :=
      ⟨by simp [marker, written], h.begins.name_ne_nil, h.begins.isWord_name, h.begins.isBlank_gap⟩
    rw [hcut, List.append_assoc]
    exact TagMarker.first?_append_brace (TagMarker.unmarked_of_append hunmarked) hbegins
  · exact Brace.close?_of_append hclose (by simp)

end TagSplit.IsFirst

/-! ## The scan of a beginning -/

theorem Scan.tag_not_mem_run {t : InlineTag} {cs : List Char} : .tag t ∉ Scan.run cs := by
  unfold Scan.run
  split <;> simp

/-- No tag is found before the text begins. -/
theorem Scan.offset_le_start {t : InlineTag} {offset : Nat} {text : List Char}
    (ht : .tag t ∈ (Scan.ofChars offset text).segments) : offset ≤ t.start := by
  rcases unclosed_or_isFirst text with hopen | ⟨s, hs⟩
  · rw [Scan.segments_of_unclosed hopen] at ht
    exact absurd ht Scan.tag_not_mem_run
  · have hshorter := TagSplit.after_length_lt hs.ofText_eq
    rw [Scan.segments_of_isFirst hs, List.mem_append, List.mem_cons] at ht
    rcases ht with hrun | hfirst | hafter
    · exact absurd hrun Scan.tag_not_mem_run
    · cases hfirst
      exact Nat.le_add_right _ _
    · exact Nat.le_trans (Nat.le_add_right _ _) (Scan.offset_le_start hafter)
termination_by text.length

theorem TagSplit.tag_stop_lt (s : TagSplit) (offset : Nat) :
    (s.tag offset).stop < offset + s.length := by
  simp [TagSplit.tag, TagSplit.length, TagSplit.written]
  omega

/-- How the scan of a text and that of a beginning of it go together. Both begin with the segments
of a part that is `done`; the rest of the beginning is one plain run, which ends before the next tag
of the text does. -/
structure CutScan (offset : Nat) (cut more : List Char) (kept : List Segment)
    (done run : List Char) : Prop where
  cut_eq : cut = done ++ run
  cut_segments : (Scan.ofChars offset cut).segments = kept ++ Scan.run run
  segments : (Scan.ofChars offset (cut ++ more)).segments =
    kept ++ (Scan.ofChars (offset + done.length) (run ++ more)).segments
  stop_lt : ∀ t, .tag t ∈ kept → t.stop < offset + done.length
  length_lt : ∀ s : TagSplit, s.IsFirst (run ++ more) → run.length < s.length

theorem exists_cutScan (offset : Nat) (cut more : List Char) :
    ∃ kept done run, CutScan offset cut more kept done run := by
  rcases unclosed_or_isFirst (cut ++ more) with hopen | ⟨s, hs⟩
  · refine ⟨[], [], cut, rfl, ?_, rfl, by simp, ?_⟩
    · rw [Scan.segments_of_unclosed hopen.of_append, List.nil_append]
    · intro s hs
      exact absurd hs.ofText_eq (hopen.ofText_ne s)
  rcases Nat.lt_or_ge cut.length s.length with hlt | hle
  · refine ⟨[], [], cut, rfl, ?_, rfl, by simp, ?_⟩
    · rw [Scan.segments_of_unclosed (hs.unclosed_of_length_lt hlt), List.nil_append]
    · intro s' hs'
      cases hs.ofText_eq.symm.trans hs'.ofText_eq
      exact hlt
  · obtain ⟨after, hafter, hcut⟩ := hs.of_length_le hle
    have hshorter := TagSplit.after_length_lt hcut.ofText_eq
    obtain ⟨kept, done, run, h⟩ := exists_cutScan (offset + s.length) after more
    have hdone : offset + (s.before ++ s.written ++ done).length =
        offset + s.length + done.length := by
      simp [TagSplit.length, Nat.add_assoc]
    refine ⟨Scan.run s.before ++ .tag (s.tag offset) :: kept, s.before ++ s.written ++ done, run,
      ?_, ?_, ?_, ?_, h.length_lt⟩
    · rw [hcut.text_eq, h.cut_eq]
      simp [TagSplit.written]
    · rw [Scan.segments_of_isFirst hcut]
      change _ ++ .tag (s.tag offset) :: (Scan.ofChars (offset + s.length) after).segments = _
      rw [h.cut_segments]
      simp
    · rw [Scan.segments_of_isFirst hs, hafter, h.segments, hdone]
      simp
    · intro t ht
      rw [hdone]
      rcases List.mem_append.1 ht with hrun | ht
      · exact absurd hrun Scan.tag_not_mem_run
      rcases List.mem_cons.1 ht with hfirst | hkept
      · cases hfirst
        exact Nat.lt_of_lt_of_le (s.tag_stop_lt offset) (Nat.le_add_right _ _)
      · exact h.stop_lt t hkept
termination_by cut.length

/-! ## Cuts inside a tag -/

/-- A text that is cut off at the offset ends inside the tag. -/
def InlineTag.Straddles (t : InlineTag) (offset : Nat) : Prop := t.start < offset ∧ offset ≤ t.stop

instance (t : InlineTag) (offset : Nat) : Decidable (t.Straddles offset) :=
  inferInstanceAs (Decidable (_ ∧ _))

namespace CutScan

variable {done run : List Char} {kept : List Segment}

/-- The next tag of the text is straddled by the end of the run, or begins after it. -/
theorem next_tag (h : CutScan 0 cut more kept done run) {s : TagSplit}
    (hs : s.IsFirst (run ++ more)) :
    (s.tag done.length).Straddles cut.length ∨ run.length ≤ s.before.length := by
  have hlt := h.length_lt s hs
  have hlength : cut.length = done.length + run.length := by simp [h.cut_eq]
  unfold InlineTag.Straddles
  simp only [TagSplit.tag, TagSplit.length] at hlt ⊢
  omega

theorem segments_of_isFirst (h : CutScan 0 cut more kept done run) {s : TagSplit}
    (hs : s.IsFirst (run ++ more)) :
    (Scan.ofChars 0 (cut ++ more)).segments =
      (kept ++ Scan.run s.before) ++ .tag (s.tag done.length) ::
      (Scan.ofChars (done.length + s.length) s.after).segments := by
  rw [h.segments, Nat.zero_add, Scan.segments_of_isFirst hs, List.append_assoc]

/-- A run that is not cut off inside a tag ends before the next tag begins. -/
theorem run_isPrefix_before (h : CutScan 0 cut more kept done run) {s : TagSplit}
    (hs : s.IsFirst (run ++ more))
    (hout : ∀ t, .tag t ∈ (Scan.ofChars 0 (cut ++ more)).segments → ¬ t.Straddles cut.length) :
    run <+: s.before := by
  have hle : run.length ≤ s.before.length := by
    refine (h.next_tag hs).resolve_left (hout _ ?_)
    rw [h.segments_of_isFirst hs]
    simp
  refine List.prefix_of_prefix_length_le (List.prefix_append run more) ?_ hle
  rw [hs.text_eq, List.append_assoc]
  exact List.prefix_append _ _

end CutScan

end DocMarkup
