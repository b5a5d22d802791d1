import DocMarkup.Proofs.Tag.Cut

/-!
The scan of a beginning of a text, segment by segment. Main statement: where the cut does not fall
inside a tag, the beginning is scanned into the segments of the text that end by the cut, and the
plain segment that it falls inside of, up to the cut (`scan_of_beginning`).
-/

namespace DocMarkup

/-! ## Where segments stand -/

namespace Segment

/-- How much of a text a segment stands for. -/
def length : Segment → Nat
  | .plain s => s.length
  | .tag t => t.stop + 1 - t.start

def total : List Segment → Nat
  | [] => 0
  | x :: xs => x.length + total xs

/-- Segments that follow each other from an offset on, each with the offset at which it begins. -/
def placed (offset : Nat) : List Segment → List (Nat × Segment)
  | [] => []
  | x :: xs => (offset, x) :: placed (offset + x.length) xs

/-- The segments that end at the cut or before it. -/
def endedBy (cut : Nat) (segments : List (Nat × Segment)) : List Segment :=
  (segments.filter fun (start, x) => start + x.length ≤ cut).map Prod.snd

/-- The plain segment that the cut falls strictly inside of, up to the cut. -/
def truncated (cut : Nat) (segments : List (Nat × Segment)) : List Segment :=
  segments.filterMap fun
    | (start, .plain s) =>
      if start < cut ∧ cut < start + s.length then
        some (.plain (String.ofList (s.toList.take (cut - start))))
      else none
    | (_, .tag _) => none

variable {offset cut : Nat} {xs : List Segment}

theorem total_cons (x : Segment) (xs : List Segment) : total (x :: xs) = x.length + total xs := rfl

theorem total_append (xs ys : List Segment) : total (xs ++ ys) = total xs + total ys := by
  induction xs with
  | nil => simp [total]
  | cons x xs ih => simp [total_cons, ih, Nat.add_assoc]

theorem placed_append (offset : Nat) (xs ys : List Segment) :
    placed offset (xs ++ ys) = placed offset xs ++ placed (offset + total xs) ys := by
  induction xs generalizing offset with
  | nil => simp [placed, total]
  | cons x xs ih => simp [placed, ih, total_cons, Nat.add_assoc]

theorem map_snd_placed (offset : Nat) (xs : List Segment) :
    (placed offset xs).map Prod.snd = xs := by
  induction xs generalizing offset with
  | nil => rfl
  | cons x xs ih => simp [placed, ih]

theorem bounds_of_mem_placed {start : Nat} {x : Segment} (h : (start, x) ∈ placed offset xs) :
    offset ≤ start ∧ start + x.length ≤ offset + total xs := by
  induction xs generalizing offset with
  | nil => cases h
  | cons y xs ih =>
      rw [total_cons]
      rcases List.mem_cons.1 h with hfirst | hrest
      · cases hfirst
        omega
      · have := ih hrest
        omega

theorem endedBy_append (cut : Nat) (ps qs : List (Nat × Segment)) :
    endedBy cut (ps ++ qs) = endedBy cut ps ++ endedBy cut qs := by
  simp [endedBy]

theorem truncated_append (cut : Nat) (ps qs : List (Nat × Segment)) :
    truncated cut (ps ++ qs) = truncated cut ps ++ truncated cut qs := by
  simp [truncated]

theorem truncated_eq_nil {ps : List (Nat × Segment)}
    (h : ∀ start x, (start, x) ∈ ps → ¬ (start < cut ∧ cut < start + x.length)) :
    truncated cut ps = [] := by
  rw [truncated, List.filterMap_eq_nil_iff]
  rintro ⟨start, x⟩ hmem
  cases x with
  | plain s => exact if_neg (h start _ hmem)
  | tag t => rfl

theorem endedBy_of_le (h : offset + total xs ≤ cut) :
    endedBy cut (placed offset xs) = xs ∧ truncated cut (placed offset xs) = [] := by
  constructor
  · have hall : (placed offset xs).filter (fun (start, x) => start + x.length ≤ cut) =
        placed offset xs := by
      rw [List.filter_eq_self]
      rintro ⟨start, x⟩ hmem
      have := bounds_of_mem_placed hmem
      simp only [decide_eq_true_eq]
      omega
    rw [endedBy, hall, map_snd_placed]
  · refine truncated_eq_nil fun start x hmem => ?_
    have := bounds_of_mem_placed hmem
    omega

theorem endedBy_of_lt (xs : List Segment) (h : cut < offset) :
    endedBy cut (placed offset xs) = [] ∧ truncated cut (placed offset xs) = [] := by
  constructor
  · have hnone : (placed offset xs).filter (fun (start, x) => start + x.length ≤ cut) = [] := by
      rw [List.filter_eq_nil_iff]
      rintro ⟨start, x⟩ hmem
      have := bounds_of_mem_placed hmem
      simp only [decide_eq_true_eq]
      omega
    rw [endedBy, hnone, List.map_nil]
  · refine truncated_eq_nil fun start x hmem => ?_
    have := bounds_of_mem_placed hmem
    omega

/-- Nothing is kept of a tag that begins at the cut or after it, nor of what follows that tag. -/
theorem endedBy_of_tag {t : InlineTag} (hstart : t.start ≤ t.stop) (xs : List Segment)
    (h : cut ≤ offset) :
    endedBy cut (placed offset (.tag t :: xs)) = [] ∧
      truncated cut (placed offset (.tag t :: xs)) = [] := by
  have hlength : (Segment.tag t).length = t.stop + 1 - t.start := rfl
  obtain ⟨hended, htruncated⟩ :=
    endedBy_of_lt xs (show cut < offset + (Segment.tag t).length by omega)
  constructor
  · have hnot : ¬ offset + (Segment.tag t).length ≤ cut := by omega
    have hskip : endedBy cut (placed offset (.tag t :: xs)) =
        endedBy cut (placed (offset + (Segment.tag t).length) xs) := by simp [placed, endedBy, hnot]
    rw [hskip, hended]
  · exact htruncated

/-- A plain segment that ends after the cut is kept up to the cut. -/
theorem endedBy_of_plain {s : String} (h : cut < offset + s.length) :
    endedBy cut (placed offset [.plain s]) ++ truncated cut (placed offset [.plain s]) =
      Scan.run (s.toList.take (cut - offset)) := by
  have hended : endedBy cut (placed offset [.plain s]) = [] := by
    have hnot : ¬ offset + (Segment.plain s).length ≤ cut := Nat.not_le.2 h
    simp [placed, endedBy, hnot]
  have htake : (s.toList.take (cut - offset)).isEmpty = true ↔ ¬ offset < cut := by
    rw [List.isEmpty_iff, ← List.length_eq_zero_iff, List.length_take, String.length_toList]
    omega
  rw [hended, List.nil_append, Scan.run]
  by_cases hlt : offset < cut
  · rw [if_neg (mt htake.1 (not_not_intro hlt))]
    simp [placed, truncated, hlt, h]
  · rw [if_pos (htake.2 hlt)]
    simp [placed, truncated, hlt]

theorem total_run (cs : List Char) : total (Scan.run cs) = cs.length := by
  unfold Scan.run
  cases cs with
  | nil => rfl
  | cons c cs => exact String.length_ofList

theorem endedBy_of_run (offset : Nat) (run more : List Char) :
    endedBy (offset + run.length) (placed offset (Scan.run (run ++ more))) ++
      truncated (offset + run.length) (placed offset (Scan.run (run ++ more))) = Scan.run run := by
  cases more with
  | nil =>
      have htotal : offset + total (Scan.run run) ≤ offset + run.length := by rw [total_run]
      obtain ⟨hended, htruncated⟩ := endedBy_of_le htotal
      rw [List.append_nil, hended, htruncated, List.append_nil]
  | cons c more =>
      have hrun : Scan.run (run ++ c :: more) = [.plain (String.ofList (run ++ c :: more))] := by
        simp [Scan.run]
      have hlt : offset + run.length < offset + (String.ofList (run ++ c :: more)).length := by
        rw [String.length_ofList, List.length_append, List.length_cons]
        omega
      rw [hrun, endedBy_of_plain hlt, Nat.add_sub_cancel_left, String.toList_ofList, List.take_left]

end Segment

/-! ## The main statement -/

theorem TagSplit.tag_start_le_stop (s : TagSplit) (offset : Nat) :
    (s.tag offset).start ≤ (s.tag offset).stop := by
  simp [TagSplit.tag, TagSplit.written]

theorem TagSplit.length_tag (s : TagSplit) (offset : Nat) :
    (Segment.tag (s.tag offset)).length = s.written.length := by
  simp [Segment.length, TagSplit.tag, TagSplit.written]
  omega

theorem Scan.total_segments (offset : Nat) (text : List Char) :
    Segment.total (Scan.ofChars offset text).segments = text.length := by
  rcases unclosed_or_isFirst text with hopen | ⟨s, hs⟩
  · rw [segments_of_unclosed hopen, Segment.total_run]
  · have hshorter := TagSplit.after_length_lt hs.ofText_eq
    rw [segments_of_isFirst hs, Segment.total_append, Segment.total_cons, Segment.total_run,
      s.length_tag, total_segments (offset + s.length) s.after, hs.text_eq]
    simp
termination_by text.length

/-- The cut keeps the run before it of the segments that the text goes on with. -/
theorem CutScan.endedBy_rest {cut more done run : List Char} {kept : List Segment}
    (h : CutScan 0 cut more kept done run)
    (hout : ∀ t, .tag t ∈ (Scan.ofChars 0 (cut ++ more)).segments → ¬ t.Straddles cut.length) :
    Segment.endedBy (done.length + run.length)
        (Segment.placed done.length (Scan.ofChars done.length (run ++ more)).segments) ++
      Segment.truncated (done.length + run.length)
        (Segment.placed done.length (Scan.ofChars done.length (run ++ more)).segments) =
          Scan.run run := by
  rcases unclosed_or_isFirst (run ++ more) with hopen | ⟨s, hs⟩
  · rw [Scan.segments_of_unclosed hopen, Segment.endedBy_of_run]
  · obtain ⟨rest, hbefore⟩ := h.run_isPrefix_before hs hout
    have hle : run.length ≤ s.before.length := by simp [← hbefore]
    -- the next tag begins at the cut or after it
    obtain ⟨hended, htruncated⟩ := Segment.endedBy_of_tag (s.tag_start_le_stop done.length)
      (Scan.ofChars (done.length + s.length) s.after).segments (Nat.add_le_add_left hle done.length)
    rw [Scan.segments_of_isFirst hs, Segment.placed_append, Segment.endedBy_append,
      Segment.truncated_append, Segment.total_run, hended, htruncated, List.append_nil,
      List.append_nil, ← hbefore, Segment.endedBy_of_run]

/-- The beginning of a text that is not cut off inside a tag is scanned like the text itself, up to
the cut. -/
theorem scan_of_beginning (text : String) (k : Nat) (hk : k ≤ text.length)
    (hout : ∀ t, .tag t ∈ (Scan.ofText text).segments → ¬ t.Straddles k) :
    (Scan.ofText (String.ofList (text.toList.take k))).segments =
      Segment.endedBy k (Segment.placed 0 (Scan.ofText text).segments) ++
        Segment.truncated k (Segment.placed 0 (Scan.ofText text).segments) := by
  obtain ⟨cut, more, htext, rfl⟩ : ∃ cut more, text.toList = cut ++ more ∧ cut.length = k := by
    refine ⟨text.toList.take k, text.toList.drop k, (List.take_append_drop k _).symm, ?_⟩
    rw [List.length_take, String.length_toList, Nat.min_eq_left hk]
  rw [Scan.ofText, Scan.ofText, String.toList_ofList, htext, List.take_left]
  rw [Scan.ofText, htext] at hout
  -- both scans begin with the segments kept at the cut, which end by it; the run after them is what
  -- the cut divides
  obtain ⟨kept, done, run, h⟩ := exists_cutScan 0 cut more
  have hcut : cut.length = done.length + run.length := by rw [h.cut_eq, List.length_append]
  have hkept : Segment.total kept = done.length := by
    have htotal := Scan.total_segments 0 cut
    rw [h.cut_segments, Segment.total_append, Segment.total_run] at htotal
    omega
  obtain ⟨hended, htruncated⟩ : Segment.endedBy cut.length (Segment.placed 0 kept) = kept ∧
      Segment.truncated cut.length (Segment.placed 0 kept) = [] := Segment.endedBy_of_le (by omega)
  rw [h.cut_segments, h.segments, Segment.placed_append, Segment.endedBy_append,
    Segment.truncated_append, hended, htruncated, List.nil_append, List.append_assoc, Nat.zero_add,
    Nat.zero_add, hkept, hcut, h.endedBy_rest hout]

/-- A cut inside a marker that is never closed. -/
theorem scan_of_beginning_marker :
    (∀ t, .tag t ∈ (Scan.ofText "A \x7b@link b\x7d c\x7b@d e").segments → ¬ t.Straddles 15) ∧
      (Scan.ofText (String.ofList ("A \x7b@link b\x7d c\x7b@d e".toList.take 15))).segments =
        [.plain "A ", .tag ⟨"link", "b", 2, 10⟩, .plain " c\x7b@"] := by
  have hsegments : (Scan.ofText "A \x7b@link b\x7d c\x7b@d e").segments =
      [.plain "A ", .tag ⟨"link", "b", 2, 10⟩, .plain " c\x7b@d e"] := by decide +kernel
  have hout : ∀ t, .tag t ∈ (Scan.ofText "A \x7b@link b\x7d c\x7b@d e").segments →
      ¬ t.Straddles 15 := by
    intro t ht
    simp only [hsegments, List.mem_cons, reduceCtorEq, Segment.tag.injEq, List.not_mem_nil,
      or_false, false_or] at ht
    subst ht
    decide
  refine ⟨hout, (scan_of_beginning _ 15 (by decide) hout).trans ?_⟩
  rw [hsegments]
  decide

end DocMarkup
