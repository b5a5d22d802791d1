import DocMarkup.Comment.Reading
import DocMarkup.Proofs.Tag.Cut

/-!
Texts one after the other. At the end of a tag a scan starts anew: whether the braces after it
match, and what comes before it, makes no difference. Main statement: if a text ends with a tag, a
text that follows it is scanned and read as if it stood alone (`reading_restarts`).
-/

namespace DocMarkup

/-! ## Segments further on in a text -/

def InlineTag.shift (n : Nat) (t : InlineTag) : InlineTag :=
  { t with start := t.start + n, stop := t.stop + n }

/-- A segment of a text that stands further on in another text. -/
def Segment.shift (n : Nat) : Segment → Segment
  | .plain s => .plain s
  | .tag t => .tag (t.shift n)

theorem TagSplit.tag_add (s : TagSplit) (offset n : Nat) :
    s.tag (offset + n) = (s.tag offset).shift n := by
  simp only [TagSplit.tag, InlineTag.shift, InlineTag.mk.injEq, true_and, TagSplit.written]
  refine ⟨by omega, ?_⟩
  simp only [List.cons_append, List.length_cons]
  omega

theorem Scan.run_shift (cs : List Char) (n : Nat) :
    (Scan.run cs).map (Segment.shift n) = Scan.run cs := by
  unfold Scan.run
  split <;> rfl

/-- What a scan finds depends on the offset only through the places of the tags. -/
theorem Scan.segments_add (offset n : Nat) (text : List Char) :
    (Scan.ofChars (offset + n) text).segments =
      (Scan.ofChars offset text).segments.map (Segment.shift n) := by
  rcases unclosed_or_isFirst text with hopen | ⟨s, hs⟩
  · rw [segments_of_unclosed hopen, segments_of_unclosed hopen, run_shift]
  · have hshorter := TagSplit.after_length_lt hs.ofText_eq
    have hafter := segments_add (offset + s.length) n s.after
    rw [segments_of_isFirst hs, segments_of_isFirst hs, List.map_append, List.map_cons, run_shift,
      ← hafter, s.tag_add, Nat.add_right_comm]
    rfl
termination_by text.length

theorem Segment.token?_shift (r : LinkResolver) (n : Nat) (x : Segment) :
    (x.shift n).token? r = x.token? r := by
  cases x <;> rfl

/-! ## The main statement -/

theorem CutScan.run_eq_nil {cut more done run : List Char} {kept : List Segment} {offset : Nat}
    (h : CutScan offset cut more kept done run) {t : InlineTag}
    (hlast : (Scan.ofChars offset cut).segments.getLast? = some (.tag t)) : run = [] := by
  cases run with
  | nil => rfl
  | cons c run =>
      rw [h.cut_segments, Scan.run] at hlast
      simp at hlast

/-- After a text that ends with a tag, another one is scanned and read as it is on its own. -/
theorem reading_restarts (a b : String) (t : InlineTag)
    (hlast : (Scan.ofText a).segments.getLast? = some (.tag t)) :
    (Scan.ofText (a ++ b)).segments =
        (Scan.ofText a).segments ++ (Scan.ofText b).segments.map (Segment.shift a.length) ∧
      ∀ r, (Comment.ofText r (a ++ b)).tokens =
        (Comment.ofText r a).tokens ++ (Comment.ofText r b).tokens := by
  have hsegments : (Scan.ofText (a ++ b)).segments =
      (Scan.ofText a).segments ++ (Scan.ofText b).segments.map (Segment.shift a.length) := by
    obtain ⟨kept, done, run, h⟩ := exists_cutScan 0 a.toList b.toList
    obtain rfl := h.run_eq_nil hlast
    have ha : a.toList = done := by simpa using h.cut_eq
    rw [Scan.ofText, Scan.ofText, Scan.ofText, String.toList_append, h.segments, h.cut_segments,
      Scan.segments_add, ← ha, String.length_toList]
    simp [Scan.run]
  refine ⟨hsegments, fun r => ?_⟩
  simp only [Comment.ofText, hsegments, List.filterMap_append, List.filterMap_map,
    Function.comp_def, Segment.token?_shift]

/-- An open brace and a backslash before the end of the first text, and a brace too many in the
second. -/
theorem reading_restarts_adjacent :
    (Scan.ofText "\x7b \x7b@link b\\\x7d").segments.getLast? = some (.tag ⟨"link", "b\\", 2, 11⟩) ∧
      (Scan.ofText ("\x7b \x7b@link b\\\x7d" ++ "\x7b@code c\x7d\x7d")).segments =
        [.plain "\x7b ", .tag ⟨"link", "b\\", 2, 11⟩, .tag ⟨"code", "c", 12, 20⟩, .plain "\x7d"] ∧
      ∀ r, (Comment.ofText r ("\x7b \x7b@link b\\\x7d" ++ "\x7b@code c\x7d\x7d")).tokens =
        (Comment.ofText r "\x7b \x7b@link b\\\x7d").tokens ++
          (Comment.ofText r "\x7b@code c\x7d\x7d").tokens := by
  have hfirst : (Scan.ofText "\x7b \x7b@link b\\\x7d").segments =
      [.plain "\x7b ", .tag ⟨"link", "b\\", 2, 11⟩] := by decide +kernel
  have hsecond : (Scan.ofText "\x7b@code c\x7d\x7d").segments =
      [.tag ⟨"code", "c", 0, 8⟩, .plain "\x7d"] := by
    decide +kernel
  have hlast : (Scan.ofText "\x7b \x7b@link b\\\x7d").segments.getLast? =
      some (.tag ⟨"link", "b\\", 2, 11⟩) := by
    rw [hfirst]
    rfl
  obtain ⟨hsegments, htokens⟩ :=
    reading_restarts "\x7b \x7b@link b\\\x7d" "\x7b@code c\x7d\x7d" _ hlast
  refine ⟨hlast, ?_, htokens⟩
  rw [hsegments, hfirst, hsecond]
  rfl

end DocMarkup
