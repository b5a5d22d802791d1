import DocMarkup.Block.Region
import Mathlib.Data.List.TakeWhile

/-!
The end of a comment block in an extracted text. A region may end after the end of the block; what
it describes should then be what it describes up to there. Main statement: this is so unless the
region has several lines and nothing but blanks stands before the end of the block in the last one
(`Block.extract_past_end_iff`). There the star of the end is taken for the star that begins a line,
and its slash is shown.
-/

namespace DocMarkup

/-! ## Slices -/

namespace Text

variable {α : Type}

theorem position_natCast (len n : Nat) : position len n = min n len := by
  rw [position, if_neg (by omega), Int.toNat_natCast]

theorem sliceTo_natCast (n : Nat) (l : List α) : sliceTo n l = l.take n := by
  rw [sliceTo, position_natCast, ← List.take_eq_take_min]

theorem sliceFrom_natCast (n : Nat) (l : List α) : sliceFrom n l = l.drop n := by
  rw [sliceFrom, position_natCast, ← List.drop_eq_drop_min]

theorem slice_natCast (start stop : Nat) (l : List α) :
    slice start stop l = (l.take stop).drop start := by
  rw [slice, position_natCast, position_natCast, ← List.take_eq_take_min]
  by_cases hstart : start ≤ l.length
  · rw [Nat.min_eq_left hstart]
  · have hnil : ∀ n, l.length ≤ n → (l.take stop).drop n = [] := by
      intro n hn
      rw [List.drop_eq_nil_iff, List.length_take]
      omega
    rw [hnil _ (by omega), hnil _ (by omega)]

end Text

namespace Block

/-! ## The end of a block in a line -/

/-- The end of a comment block. -/
def closing : List Char := ['*', '/']

/-- A line in which no block ends. -/
def IsOpen (line : List Char) : Prop := ¬ closing <:+: line

instance : DecidablePred IsOpen := fun line => inferInstanceAs (Decidable (¬ closing <:+: line))

/-- The first end of a block in a line is at a column. -/
structure ClosesAt (line : List Char) (column : Nat) : Prop where
  written : closing <+: line.drop column
  first : ∀ earlier < column, ¬ closing <+: line.drop earlier

variable {line before : List Char}

theorem beforeEnd_cons {c : Char} (h : ¬ closing <+: c :: line) :
    beforeEnd (c :: line) = c :: beforeEnd line := by
  rw [beforeEnd]
  rintro rest rfl rfl
  exact h ⟨rest, rfl⟩

theorem isOpen_cons_iff {c : Char} :
    IsOpen (c :: line) ↔ ¬ closing <+: c :: line ∧ IsOpen line := by
  rw [IsOpen, List.infix_cons_iff, not_or, IsOpen]

theorem IsOpen.of_suffix (h : IsOpen line) (hsuffix : before <:+ line) : IsOpen before :=
  fun hmark => h (hmark.trans hsuffix.isInfix)

theorem beforeEnd_of_isOpen (h : IsOpen line) : beforeEnd line = line := by
  induction line with
  | nil => rfl
  | cons c line ih =>
      obtain ⟨hhere, hlater⟩ := isOpen_cons_iff.1 h
      rw [beforeEnd_cons hhere, ih hlater]

theorem beforeEnd_append (h : IsOpen before) (rest : List Char) :
    beforeEnd (before ++ '*' :: '/' :: rest) = before := by
  induction before with
  | nil => rfl
  | cons c before ih =>
      obtain ⟨hhere, hlater⟩ := isOpen_cons_iff.1 h
      have hcons : ¬ closing <+: c :: (before ++ '*' :: '/' :: rest) := by
        -- The end does not begin at `c`: its slash would be in `before`, or be the star after it.
        cases before with
        | nil => simp [closing]
        | cons d before => simpa [closing] using hhere
      rw [List.cons_append, beforeEnd_cons hcons, ih hlater]

theorem ClosesAt.isOpen_take {column : Nat} (h : ClosesAt line column) :
    IsOpen (line.take column) := by
  rintro ⟨start, rest, htake⟩
  have hlength := congrArg List.length htake
  simp only [closing, List.length_append, List.length_cons, List.length_nil,
    List.length_take] at hlength
  have hdrop : line.drop start.length = closing ++ (rest ++ line.drop column) := calc
    line.drop start.length = (line.take column ++ line.drop column).drop start.length := by
        rw [List.take_append_drop]
    _ = (start ++ (closing ++ (rest ++ line.drop column))).drop start.length := by
        rw [← htake, List.append_assoc, List.append_assoc]
    _ = closing ++ (rest ++ line.drop column) := List.drop_left
  exact h.first start.length (by omega) ⟨_, hdrop.symm⟩

/-- A line that is cut after the end of the block. -/
theorem ClosesAt.exists_take_eq {column past : Nat} (h : ClosesAt line column)
    (hpast : column + 2 ≤ past) :
    ∃ rest, line.take past = line.take column ++ '*' :: '/' :: rest := by
  obtain ⟨after, hafter⟩ := h.written
  obtain ⟨extra, rfl⟩ := Nat.exists_eq_add_of_le hpast
  refine ⟨after.take extra, ?_⟩
  rw [Nat.add_assoc, List.take_add, ← hafter, Nat.add_comm 2 extra]
  rfl

theorem ClosesAt.le_length {column : Nat} (h : ClosesAt line column) : column ≤ line.length := by
  have hlength := h.written.length_le
  simp only [closing, List.length_cons, List.length_nil, List.length_drop] at hlength
  omega

/-! ## The star of a line -/

theorem trimStar_isSuffix (line : List Char) : trimStar line <:+ line := by
  unfold trimStar
  split
  · rename_i rest hrest
    exact (List.suffix_cons '*' rest).trans (hrest ▸ List.dropWhile_suffix _)
  · exact List.suffix_refl line

theorem trimStar_of_blank (h : ∀ c ∈ line, Text.isBlank c) : trimStar line = line := by
  rw [trimStar, List.dropWhile_eq_nil_iff.2 h]

/-- The star of a line is not looked for beyond its first character that is not blank. -/
theorem trimStar_append (h : ∃ c ∈ before, Text.isBlank c = false) (rest : List Char) :
    trimStar (before ++ rest) = trimStar before ++ rest := by
  have hne : before.dropWhile Text.isBlank ≠ [] := by
    obtain ⟨c, hc, hblank⟩ := h
    intro hnil
    rw [List.dropWhile_eq_nil_iff.1 hnil c hc] at hblank
    cases hblank
  rw [trimStar, trimStar, List.dropWhile_append, if_neg (by simpa using hne)]
  cases hdrop : before.dropWhile Text.isBlank with
  | nil => exact absurd hdrop hne
  | cons c cs =>
      rw [List.cons_append]
      split
      · rename_i heq
        obtain ⟨rfl, rfl⟩ := List.cons.inj heq
        rfl
      · rename_i hstar
        split
        · rename_i heq
          obtain ⟨rfl, _⟩ := List.cons.inj heq
          exact absurd rfl (hstar _)
        · rfl

theorem trimStar_blank_star (h : ∀ c ∈ before, Text.isBlank c) (rest : List Char) :
    trimStar (before ++ '*' :: rest) = rest := by
  have hstar : Text.isBlank '*' = false := by decide
  rw [trimStar, List.dropWhile_append_of_pos h, List.dropWhile_cons, hstar]
  rfl

/-! ## The last line of a region -/

theorem cutLast_append (column : Int) (earlier : List (List Char)) (line : List Char) :
    cutLast column (earlier ++ [line]) = earlier ++ [Text.sliceTo column line] := by
  induction earlier with
  | nil => rfl
  | cons l earlier ih =>
      have hne : earlier ++ [line] ≠ [] := by simp
      rw [List.cons_append, cutLast, ih, List.cons_append]
      exact hne

theorem described_append (column : Int) {earlier : List (List Char)} (h : earlier ≠ [])
    (line : List Char) :
    described column (earlier ++ [line]) =
      described column earlier ++ [beforeEnd (trimStar line)] := by
  cases earlier with
  | nil => exact absurd rfl h
  | cons l earlier => simp [described]

/-- Joined lines end with their last line. -/
theorem exists_intercalate_eq (earlier : List (List Char)) :
    ∃ start, ∀ line, ['\n'].intercalate (earlier ++ [line]) = start ++ line := by
  induction earlier with
  | nil => exact ⟨[], fun line => by simp⟩
  | cons l earlier ih =>
      obtain ⟨start, hstart⟩ := ih
      refine ⟨l ++ '\n' :: start, fun line => ?_⟩
      have hne : earlier ++ [line] ≠ [] := by simp
      obtain ⟨m, ms, hm⟩ := List.exists_cons_of_ne_nil hne
      rw [List.cons_append, hm, List.intercalate_cons_cons, ← hm, hstart]
      simp

theorem intercalate_inj {earlier : List (List Char)} {line other : List Char} :
    ['\n'].intercalate (earlier ++ [line]) = ['\n'].intercalate (earlier ++ [other]) ↔
      line = other := by
  obtain ⟨start, hstart⟩ := exists_intercalate_eq earlier
  rw [hstart, hstart, List.append_cancel_left_eq]

/-- The lines of a region that ends in a line of the comment: that line, and the lines before it, if
it has several. -/
theorem exists_selected_eq {comment : List Char} {region : Region} (hstart : 1 ≤ region.startLine)
    (hend : region.startLine ≤ region.endLine)
    (hline : Text.item? (lines comment) (region.endLine - 1) = some line) :
    ∃ earlier, selected comment region = earlier ++ [line] ∧
      (earlier = [] ↔ region.startLine = region.endLine) := by
  obtain ⟨first, hfirst⟩ : ∃ n : Nat, region.startLine - 1 = n :=
    ⟨(region.startLine - 1).toNat, by omega⟩
  obtain ⟨last, hlast⟩ : ∃ n : Nat, region.endLine = (n + 1 : Nat) :=
    ⟨(region.endLine - 1).toNat, by omega⟩
  rw [Text.item?, if_pos (by omega), show (region.endLine - 1).toNat = last by omega] at hline
  obtain ⟨hlt, hget⟩ := List.getElem?_eq_some_iff.1 hline
  refine ⟨((lines comment).take last).drop first, ?_, ?_⟩
  · rw [selected, Text.slice, hfirst, hlast, Text.position_natCast, Text.position_natCast,
      ← List.take_eq_take_min, Nat.min_eq_left (by omega), ← List.take_append_getElem hlt, hget,
      List.drop_append_of_le_length]
    rw [List.length_take]
    omega
  · rw [List.drop_eq_nil_iff, List.length_take]
    omega

/-! ## Regions that end after the end of the block -/

variable {column past : Nat}

/-- In the first line of a region, nothing is shown from the end of the block on. -/
theorem beforeEnd_first (h : ClosesAt line column) (hpast : column + 2 ≤ past) {start : Nat}
    (hstart : start < column) :
    beforeEnd ((line.take past).drop (start + 1)) =
      beforeEnd ((line.take column).drop (start + 1)) := by
  have hopen : IsOpen ((line.take column).drop (start + 1)) :=
    h.isOpen_take.of_suffix (List.drop_suffix _ _)
  have hle : start + 1 ≤ (line.take column).length := by
    rw [List.length_take, Nat.min_eq_left h.le_length]
    exact hstart
  obtain ⟨rest, hrest⟩ := h.exists_take_eq hpast
  rw [hrest, List.drop_append_of_le_length hle, beforeEnd_append hopen, beforeEnd_of_isOpen hopen]

/-- In a later line, the end of the block is told from the star of the line only if something stands
before it. -/
theorem beforeEnd_later_iff (h : ClosesAt line column) (hpast : column + 2 ≤ past) :
    beforeEnd (trimStar (line.take past)) = beforeEnd (trimStar (line.take column)) ↔
      ∃ c ∈ line.take column, Text.isBlank c = false := by
  have hopen : IsOpen (trimStar (line.take column)) := h.isOpen_take.of_suffix (trimStar_isSuffix _)
  obtain ⟨rest, hrest⟩ := h.exists_take_eq hpast
  by_cases hsome : ∃ c ∈ line.take column, Text.isBlank c = false
  · rw [hrest, trimStar_append hsome, beforeEnd_append hopen, beforeEnd_of_isOpen hopen]
    exact iff_of_true rfl hsome
  · have hblank : ∀ c ∈ line.take column, Text.isBlank c := by simpa using hsome
    rw [hrest, trimStar_blank_star hblank, beforeEnd_cons (by simp [closing]),
      beforeEnd_of_isOpen hopen, trimStar_of_blank hblank]
    refine iff_of_false (fun hslash => ?_) hsome
    have hmem : '/' ∈ line.take column := hslash ▸ List.mem_cons_self
    exact absurd (hblank '/' hmem) (by decide)

/-- A region that ends after the end of the block describes what it describes up to there, unless
the end of the block begins its line and the region does not. -/
theorem extract_past_end_iff (comment : String) (region : Region) {line : List Char} {column : Nat}
    (hstart : 1 ≤ region.startLine) (hend : region.startLine ≤ region.endLine)
    (hcolumn : 0 ≤ region.startColumn)
    (hline : Text.item? (lines comment.toList) (region.endLine - 1) = some line)
    (hcloses : ClosesAt line column)
    (hbefore : region.startLine = region.endLine → region.startColumn < column)
    (hpast : column + 2 ≤ region.endColumn) :
    extract comment region = extract comment { region with endColumn := column } ↔
      region.startLine = region.endLine ∨ ∃ c ∈ line.take column, Text.isBlank c = false := by
  obtain ⟨earlier, hselected, hearlier⟩ := exists_selected_eq hstart hend hline
  have hselected' : selected comment.toList { region with endColumn := column } =
      earlier ++ [line] := hselected
  obtain ⟨past, hpast'⟩ : ∃ n : Nat, region.endColumn = n := ⟨region.endColumn.toNat, by omega⟩
  have hle : column + 2 ≤ past := by omega
  rw [extract, extract, String.ofList_inj, extractLines, extractLines, hselected, hselected',
    cutLast_append, cutLast_append, hpast', Text.sliceTo_natCast, Text.sliceTo_natCast]
  by_cases hone : region.startLine = region.endLine
  · obtain ⟨start, hcol⟩ : ∃ n : Nat, region.startColumn = n := ⟨region.startColumn.toNat, by omega⟩
    have hlt : start < column := by
      have := hbefore hone
      omega
    rw [hearlier.2 hone, hcol]
    refine iff_of_true ?_ (.inl hone)
    simp only [List.nil_append, described, List.map_cons, List.map_nil]
    rw [← Int.natCast_succ, Text.sliceFrom_natCast, Text.sliceFrom_natCast,
      beforeEnd_first hcloses hle hlt]
  · have hne : earlier ≠ [] := fun hnil => hone (hearlier.1 hnil)
    rw [described_append _ hne, described_append _ hne, intercalate_inj,
      beforeEnd_later_iff hcloses hle]
    exact (or_iff_right hone).symm

/-- A block that ends after the text of its last line. -/
theorem extract_past_end_iff_text :
    Text.item? (lines "/** a\n * b */".toList) 1 = some " * b */".toList ∧
    ClosesAt " * b */".toList 5 ∧
    (∃ c ∈ " * b */".toList.take 5, Text.isBlank c = false) ∧
    extract "/** a\n * b */" ⟨1, 3, 2, 7⟩ = extract "/** a\n * b */" ⟨1, 3, 2, 5⟩ := by
  have hline : Text.item? (lines "/** a\n * b */".toList) 1 = some " * b */".toList := by
    decide +kernel
  have hcloses : ClosesAt " * b */".toList 5 := ⟨by decide, by decide⟩
  have htext : ∃ c ∈ " * b */".toList.take 5, Text.isBlank c = false := ⟨'b', by decide, by decide⟩
  refine ⟨hline, hcloses, htext, ?_⟩
  exact (extract_past_end_iff "/** a\n * b */" ⟨1, 3, 2, 7⟩ (by decide) (by decide) (by decide)
    hline hcloses (by decide) (by decide)).2 (.inr htext)

/-- A block that ends on a line of its own: the slash of its end is shown. -/
theorem extract_shows_end :
    Text.item? (lines "/** a\n */".toList) 1 = some " */".toList ∧ ClosesAt " */".toList 1 ∧
    extract "/** a\n */" ⟨1, 3, 2, 1⟩ = "a\n " ∧ extract "/** a\n */" ⟨1, 3, 2, 3⟩ = "a\n/" := by
  refine ⟨by decide +kernel, ⟨by decide, by decide⟩, by decide +kernel, by decide +kernel⟩

end Block

end DocMarkup
