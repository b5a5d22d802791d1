import DocMarkup.Comment.Reading
import DocMarkup.Proofs.Comment.Sentence
import DocMarkup.Proofs.Tag.Cut

/-!
Summaries. The first sentence of a text is cut off before tags are looked for, so it may end inside
a tag. Main statement: a summary shows what the comment shows first, unless its sentence ends inside
a tag; then the beginning of that tag is shown as it is written (`summary_begins_comment`).
-/

namespace DocMarkup

/-! ## Sentences and texts -/

theorem exists_eq_firstSentence_append (text : String) :
    ∃ more, text.toList = (firstSentence text).toList ++ more := by
  rcases isFirst_or_not_opens text with ⟨hopens, _⟩ | ⟨_, hself⟩
  · obtain ⟨_, more, htext, _⟩ := hopens
    exact ⟨more, htext⟩
  · exact ⟨[], by rw [hself, List.append_nil]⟩

namespace Comment

/-- The comment of some segments. -/
def ofSegments (r : LinkResolver) (segments : List Segment) : Comment :=
  ⟨segments.filterMap (Segment.token? r)⟩

variable (r : LinkResolver)

theorem text_ofSegments_append (a b : List Segment) :
    (ofSegments r (a ++ b)).text.toList =
      (ofSegments r a).text.toList ++ (ofSegments r b).text.toList := by
  simp [ofSegments, text, String.join_append]

theorem text_ofSegments_run (cs : List Char) : (ofSegments r (Scan.run cs)).text.toList = cs := by
  cases cs with
  | nil => rfl
  | cons c cs => simp [ofSegments, text, Scan.run, Segment.token?]

end Comment

/-! ## Texts that end inside a tag -/

namespace CutScan

variable {cut more done run : List Char} {kept : List Segment}

theorem run_isPrefix (h : CutScan 0 cut more kept done run) (r : LinkResolver)
    (hout : ∀ t, .tag t ∈ (Scan.ofChars 0 (cut ++ more)).segments → ¬ t.Straddles cut.length) :
    run <+:
      (Comment.ofSegments r
        (Scan.ofChars (0 + done.length) (run ++ more)).segments).text.toList := by
  rcases unclosed_or_isFirst (run ++ more) with hopen | ⟨s, hs⟩
  · rw [Scan.segments_of_unclosed hopen, Comment.text_ofSegments_run]
    exact List.prefix_append run more
  · rw [Scan.segments_of_isFirst hs, Comment.text_ofSegments_append, Comment.text_ofSegments_run]
    exact (h.run_isPrefix_before hs hout).trans (List.prefix_append _ _)

/-- A tag that is straddled is the next tag of the text. -/
theorem exists_next_tag (h : CutScan 0 cut more kept done run) {before after : List Segment}
    {t : InlineTag}
    (hsegments : (Scan.ofChars 0 (cut ++ more)).segments = before ++ .tag t :: after)
    (ht : t.Straddles cut.length) :
    ∃ s : TagSplit, s.IsFirst (run ++ more) ∧ before = kept ++ Scan.run s.before ∧
      t = s.tag done.length := by
  obtain ⟨hstart, hstop⟩ := ht
  have hlength : cut.length = done.length + run.length := by simp [h.cut_eq]
  have hkept : .tag t ∉ kept := by
    intro hmem
    have := h.stop_lt t hmem
    omega
  rcases unclosed_or_isFirst (run ++ more) with hopen | ⟨s, hs⟩
  · have hmem : .tag t ∈ kept ++ Scan.run (run ++ more) := by
      rw [← Scan.segments_of_unclosed hopen, ← h.segments, hsegments]
      simp
    rcases List.mem_append.1 hmem with hmem | hmem
    · exact absurd hmem hkept
    · exact absurd hmem Scan.tag_not_mem_run
  · rw [h.segments_of_isFirst hs] at hsegments
    have hbefore : .tag t ∉ kept ++ Scan.run s.before := by simp [hkept, Scan.tag_not_mem_run]
    have hafter : .tag t ∉ (Scan.ofChars (done.length + s.length) s.after).segments := by
      intro hmem
      have := Scan.offset_le_start hmem
      have := h.length_lt s hs
      omega
    refine ⟨s, hs, ?_⟩
    rcases List.append_eq_append_iff.1 hsegments with ⟨between, hb, ha⟩ | ⟨between, hb, ha⟩
    · cases between with
      | nil =>
          cases ha
          exact ⟨by simpa using hb, rfl⟩
      | cons x between =>
          obtain ⟨_, hbetween⟩ := List.cons.inj ha
          exact absurd (by rw [hbetween]; simp) hafter
    · cases between with
      | nil =>
          cases ha
          exact ⟨by simpa using hb.symm, rfl⟩
      | cons x between =>
          obtain ⟨rfl, _⟩ := List.cons.inj ha
          exact absurd (by rw [hb]; simp) hbefore

/-- A run that ends inside a tag is the text before the tag and the beginning of the tag. -/
theorem run_eq_of_straddled (h : CutScan 0 cut more kept done run) {s : TagSplit}
    (hs : s.IsFirst (run ++ more)) (ht : (s.tag done.length).Straddles cut.length) :
    run = s.before ++ (cut ++ more).extract (s.tag done.length).start cut.length := by
  have hlength : cut.length = done.length + run.length := by simp [h.cut_eq]
  have hle : s.before.length ≤ run.length := by
    have := ht.1
    simp only [TagSplit.tag] at this
    omega
  have hbefore : s.before <+: run := by
    refine List.prefix_of_prefix_length_le ?_ (List.prefix_append run more) hle
    rw [hs.text_eq, List.append_assoc]
    exact List.prefix_append _ _
  obtain ⟨rest, rfl⟩ := hbefore
  have hrest : done.length + (s.before.length + rest.length) - (done.length + s.before.length) =
      rest.length := by omega
  simp [h.cut_eq, TagSplit.tag, List.extract_eq_take_drop, hrest]

end CutScan

/-! ## The main statement -/

/-- A summary shows the beginning of what the comment shows if its sentence does not end inside a
tag. If it does, the summary shows what the comment shows before that tag, and then the tag as it is
written, up to the end of the sentence. -/
theorem summary_begins_comment (r : LinkResolver) (text : String) :
    ((∀ t, .tag t ∈ (Scan.ofText text).segments → ¬ t.Straddles (firstSentence text).length) →
      (Comment.ofSummary r text).text.toList <+: (Comment.ofText r text).text.toList) ∧
    ∀ before t after, (Scan.ofText text).segments = before ++ .tag t :: after →
      t.Straddles (firstSentence text).length →
      (Comment.ofSummary r text).text.toList = (Comment.ofSegments r before).text.toList ++
        text.toList.extract t.start (firstSentence text).length := by
  obtain ⟨more, htext⟩ := exists_eq_firstSentence_append text
  obtain ⟨kept, done, run, h⟩ := exists_cutScan 0 (firstSentence text).toList more
  have hsummary : (Comment.ofSummary r text).text.toList =
      (Comment.ofSegments r kept).text.toList ++ run := by
    change (Comment.ofSegments r
      (Scan.ofChars 0 (firstSentence text).toList).segments).text.toList = _
    rw [h.cut_segments, Comment.text_ofSegments_append, Comment.text_ofSegments_run]
  have hcomment : (Comment.ofText r text).text.toList = (Comment.ofSegments r kept).text.toList ++
      (Comment.ofSegments r
        (Scan.ofChars (0 + done.length) (run ++ more)).segments).text.toList := by
    change (Comment.ofSegments r (Scan.ofChars 0 text.toList).segments).text.toList = _
    rw [htext, h.segments, Comment.text_ofSegments_append]
  rw [hsummary, hcomment, Scan.ofText, htext, ← String.length_toList]
  constructor
  · intro hout
    exact (List.prefix_append_right_inj _).2 (h.run_isPrefix r hout)
  · intro before t after hsegments ht
    obtain ⟨s, hs, rfl, rfl⟩ := h.exists_next_tag hsegments ht
    rw [Comment.text_ofSegments_append, Comment.text_ofSegments_run, List.append_assoc,
      ← h.run_eq_of_straddled hs ht]

/-- A sentence that ends after a tag, and one that ends inside a tag. -/
theorem summary_begins_comment_link :
    ((∀ t, .tag t ∈ (Scan.ofText "A \x7b@link b.c d\x7d. E").segments → ¬ t.Straddles 16) ∧
      (Comment.ofSummary (.ofLists [] []) "A \x7b@link b.c d\x7d. E").text.toList <+:
        (Comment.ofText (.ofLists [] []) "A \x7b@link b.c d\x7d. E").text.toList) ∧
    (Scan.ofText "A \x7b@link b.c d. e\x7d").segments =
      [.plain "A "] ++ .tag ⟨"link", "b.c d. e", 2, 17⟩ :: [] ∧
      InlineTag.Straddles ⟨"link", "b.c d. e", 2, 17⟩ 15 ∧
      (Comment.ofSummary (.ofLists [] []) "A \x7b@link b.c d. e\x7d").text.toList =
        "A \x7b@link b.c d.".toList := by
  have hafter : (Scan.ofText "A \x7b@link b.c d\x7d. E").segments =
      [.plain "A ", .tag ⟨"link", "b.c d", 2, 14⟩, .plain ". E"] := by decide +kernel
  have hout : ∀ t, .tag t ∈ (Scan.ofText "A \x7b@link b.c d\x7d. E").segments →
      ¬ t.Straddles 16 := by
    intro t ht
    rw [hafter] at ht
    simp only [List.mem_cons, reduceCtorEq, Segment.tag.injEq, List.not_mem_nil, or_false,
      false_or] at ht
    subst ht
    decide
  have hinside : (Scan.ofText "A \x7b@link b.c d. e\x7d").segments =
      [.plain "A "] ++ .tag ⟨"link", "b.c d. e", 2, 17⟩ :: [] := by decide +kernel
  have hstraddles : InlineTag.Straddles ⟨"link", "b.c d. e", 2, 17⟩ 15 := by decide
  refine ⟨⟨hout, (summary_begins_comment _ _).1 hout⟩, hinside, hstraddles, ?_⟩
  exact (summary_begins_comment _ _).2 _ _ _ hinside hstraddles

/-- The summary is not always the beginning of the comment: a period in a tag ends the sentence. -/
theorem summary_not_beginning :
    ¬ (Comment.ofSummary (.ofLists [] []) "\x7b@code a. b\x7d").text.toList <+:
      (Comment.ofText (.ofLists [] []) "\x7b@code a. b\x7d").text.toList := by
  decide +kernel

end DocMarkup
