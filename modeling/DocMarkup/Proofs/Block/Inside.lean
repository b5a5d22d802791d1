import DocMarkup.Proofs.Block.Writing
import Mathlib.Data.List.Forall2

/-!
What a region can describe. The lines and columns of a region are any integers: it may begin or end
outside the comment, or be counted from its end. Main statement: whatever the region is, every line
that it describes is a part of one of its raw lines, and no end of a block is left in what it
describes (`Block.extract_inside`).
-/

namespace DocMarkup

/-! ## Slices, by the indexes of their items -/

namespace Text

variable {α : Type}

/-- The index that a signed bound stands for. It may lie before the list or after it. -/
def boundIndex (len : Nat) (bound : Int) : Int := if bound < 0 then len + bound else bound

/-- The items whose indexes lie between two signed bounds. -/
def itemsBetween (start stop : Int) (l : List α) : List α :=
  (l.zipIdx.filter fun item =>
    boundIndex l.length start ≤ item.2 ∧ item.2 < boundIndex l.length stop).map Prod.fst

theorem position_le_iff {len index : Nat} (h : index < len) (bound : Int) :
    position len bound ≤ index ↔ boundIndex len bound ≤ index := by
  unfold position boundIndex
  split <;> omega

-- The induction is on the list. The bounds stay as they are, and the index `k` of its first item
-- grows.
theorem drop_take_eq_filter (start stop k : Nat) (l : List α) :
    (l.take (stop - k)).drop (start - k) =
      ((l.zipIdx k).filter fun item => start ≤ item.2 ∧ item.2 < stop).map Prod.fst := by
  induction l generalizing k with
  | nil => simp
  | cons a l ih =>
      have hlater := ih (k + 1)
      rw [List.zipIdx_cons, List.filter_cons]
      by_cases hstop : k < stop
      · rw [show stop - k = stop - (k + 1) + 1 by omega, List.take_succ_cons]
        by_cases hstart : start ≤ k
        · rw [if_pos (by simpa using ⟨hstart, hstop⟩), List.map_cons, ← hlater,
            Nat.sub_eq_zero_of_le hstart, Nat.sub_eq_zero_of_le (Nat.le_succ_of_le hstart)]
          rfl
        · rw [if_neg (by simp [hstart]), ← hlater, show start - k = start - (k + 1) + 1 by omega,
            List.drop_succ_cons]
      · rw [if_neg (by simp [hstop]), ← hlater, Nat.sub_eq_zero_of_le (Nat.le_of_not_lt hstop),
          Nat.sub_eq_zero_of_le (Nat.le_succ_of_le (Nat.le_of_not_lt hstop))]
        simp

theorem slice_eq_itemsBetween (start stop : Int) (l : List α) :
    slice start stop l = itemsBetween start stop l := by
  have hfilter := drop_take_eq_filter (position l.length start) (position l.length stop) 0 l
  rw [slice, itemsBetween, ← Nat.sub_zero (position l.length stop),
    ← Nat.sub_zero (position l.length start), hfilter]
  congr 1
  apply List.filter_congr
  intro item hitem
  have hlt : item.2 < l.length := List.snd_lt_of_mem_zipIdx hitem
  rw [decide_eq_decide, position_le_iff hlt, ← Nat.not_le, position_le_iff hlt, Int.not_le]

/-! ## Parts between separators -/

theorem not_mem_of_mem_splitAt {separator : Char} {text part : List Char}
    (h : part ∈ splitAt separator text) :
    separator ∉ part := by
  induction text generalizing part with
  | nil =>
      obtain rfl : part = [] := by simpa [splitAt] using h
      exact List.not_mem_nil
  | cons c text ih =>
      rw [splitAt] at h
      split at h
      · rcases List.mem_cons.1 h with rfl | hlater
        · exact List.not_mem_nil
        · exact ih hlater
      · rename_i hc
        have hne : separator ≠ c := fun heq => hc (by simp [heq])
        cases hparts : splitAt separator text with
        | nil =>
            rw [hparts] at h
            obtain rfl : part = [c] := by simpa using h
            simpa using hne
        | cons first later =>
            rw [hparts] at h ih
            rcases List.mem_cons.1 h with rfl | hlater
            · exact List.not_mem_cons_of_ne_of_not_mem hne (ih List.mem_cons_self)
            · exact ih (List.mem_cons_of_mem first hlater)

end Text

namespace Block

variable {line : List Char} {ls raw : List (List Char)}

/-! ## No end of a block is left -/

theorem beforeEnd_isPrefix (line : List Char) : beforeEnd line <+: line := by
  fun_induction beforeEnd line with
  | case1 => exact List.prefix_refl []
  | case2 rest => exact List.nil_prefix
  | case3 c cs _ ih => exact (List.prefix_cons_inj c).2 ih

theorem isOpen_beforeEnd (line : List Char) : IsOpen (beforeEnd line) := by
  induction line with
  | nil => decide
  | cons c line ih =>
      by_cases hend : closing <+: c :: line
      · obtain ⟨rest, hrest⟩ := hend
        have hnil : beforeEnd (closing ++ rest) = [] := rfl
        rw [← hrest, hnil]
        decide
      · rw [beforeEnd_cons hend, isOpen_cons_iff]
        -- an end that begins at `c` would begin there in the whole line
        exact ⟨fun hmark =>
          hend (hmark.trans ((List.prefix_cons_inj c).2 (beforeEnd_isPrefix line))), ih⟩

theorem isOpen_append_lineEnd {rest : List Char} (hline : IsOpen line) (hrest : IsOpen rest) :
    IsOpen (line ++ '\n' :: rest) := by
  induction line with
  | nil => exact isOpen_cons_iff.2 ⟨by simp [closing], hrest⟩
  | cons c line ih =>
      obtain ⟨hhere, hlater⟩ := isOpen_cons_iff.1 hline
      refine isOpen_cons_iff.2 ⟨?_, ih hlater⟩
      cases line with
      | nil => simp [closing]
      | cons d line => simpa [closing] using hhere

/-- No end of a block comes about where lines are joined. -/
theorem isOpen_intercalate (h : ∀ l ∈ ls, IsOpen l) : IsOpen (['\n'].intercalate ls) := by
  induction ls with
  | nil => decide
  | cons l ls ih =>
      obtain ⟨hl, hls⟩ := List.forall_mem_cons.1 h
      cases ls with
      | nil => simpa using hl
      | cons m ms =>
          rw [List.intercalate_cons_cons, List.append_assoc]
          exact isOpen_append_lineEnd hl (ih hls)

theorem isOpen_of_mem_described {column : Int} (h : line ∈ described column ls) : IsOpen line := by
  cases ls with
  | nil => cases h
  | cons l ls =>
      obtain ⟨whole, _, rfl⟩ := List.mem_map.1 h
      exact isOpen_beforeEnd whole

/-! ## Each line is a part of its raw line -/

theorem forall₂_cutLast (column : Int) (ls : List (List Char)) :
    List.Forall₂ (· <:+: ·) (cutLast column ls) ls := by
  fun_induction cutLast column ls with
  | case1 => exact .nil
  | case2 l => exact .cons (List.take_prefix _ l).isInfix .nil
  | case3 l ls _ ih => exact .cons (List.infix_refl l) ih

theorem forall₂_described (column : Int) (h : List.Forall₂ (· <:+: ·) ls raw) :
    List.Forall₂ (· <:+: ·) (described column ls) raw := by
  cases h with
  | nil => exact .nil
  | @cons l r ls raw hfirst hlater =>
      have hslice : Text.sliceFrom (column + 1) l <:+: l := (List.drop_suffix _ l).isInfix
      refine .cons (((beforeEnd_isPrefix _).isInfix.trans hslice).trans hfirst) ?_
      rw [List.map_map, List.forall₂_map_left_iff]
      refine hlater.imp fun l r hl => ?_
      exact ((beforeEnd_isPrefix _).isInfix.trans (trimStar_isSuffix l).isInfix).trans hl

theorem forall₂_extractLines (comment : List Char) (region : Region) :
    List.Forall₂ (· <:+: ·) (extractLines comment region) (selected comment region) :=
  forall₂_described _ (forall₂_cutLast _ _)

theorem oneLine_of_forall₂ (h : List.Forall₂ (· <:+: ·) ls raw) (hraw : ∀ r ∈ raw, '\n' ∉ r) :
    ∀ l ∈ ls, '\n' ∉ l := by
  induction h with
  | nil => simp
  | cons hl _ ih =>
      obtain ⟨hr, hlater⟩ := List.forall_mem_cons.1 hraw
      exact List.forall_mem_cons.2 ⟨fun hmem => hr (hl.mem hmem), ih hlater⟩

theorem oneLine_of_mem_selected {comment : List Char} {region : Region}
    (h : line ∈ selected comment region) : '\n' ∉ line :=
  Text.not_mem_of_mem_splitAt (List.mem_of_mem_take (List.mem_of_mem_drop h))

/-! ## The main statement -/

/-- The raw lines of a region, by their numbers in the comment. -/
def rawLines (comment : List Char) (region : Region) : List (List Char) :=
  Text.itemsBetween (region.startLine - 1) region.endLine (lines comment)

theorem selected_eq_rawLines (comment : List Char) (region : Region) :
    selected comment region = rawLines comment region :=
  Text.slice_eq_itemsBetween _ _ _

/-- Whatever the region is, no end of a block is left in what it describes. That is nothing where
the region has no lines, and else one line for each of its raw lines, which is a part of that
line. -/
theorem extract_inside (comment : String) (region : Region) :
    IsOpen (extract comment region).toList ∧
    (rawLines comment.toList region = [] → extract comment region = "") ∧
    (rawLines comment.toList region ≠ [] →
      List.Forall₂ (· <:+: ·) (lines (extract comment region).toList)
        (rawLines comment.toList region)) := by
  have hparts := forall₂_extractLines comment.toList region
  have hone : ∀ l ∈ extractLines comment.toList region, '\n' ∉ l :=
    oneLine_of_forall₂ hparts fun _ => oneLine_of_mem_selected
  rw [← selected_eq_rawLines, extract, String.toList_ofList]
  refine ⟨isOpen_intercalate fun _ => isOpen_of_mem_described, fun hnone => ?_, fun hsome => ?_⟩
  · rw [hnone, List.forall₂_nil_right_iff] at hparts
    rw [hparts]
    rfl
  · have hne : extractLines comment.toList region ≠ [] := by
      intro hnil
      rw [hnil, List.forall₂_nil_left_iff] at hparts
      exact hsome hparts
    rwa [lines_intercalate hne hone]

/-- A region that is counted from the end of the comment, and one without lines. -/
theorem extract_inside_fromEnd :
    rawLines "/** a\n * b*/c\n */".toList ⟨-1, -5, 3, -1⟩ = [" * b*/c".toList, " */".toList] ∧
    extract "/** a\n * b*/c\n */" ⟨-1, -5, 3, -1⟩ = "b\n" ∧ IsOpen "b\n".toList ∧
    List.Forall₂ (· <:+: ·) (lines "b\n".toList) [" * b*/c".toList, " */".toList] ∧
    rawLines "/** a\n * b*/c\n */".toList ⟨0, 0, 0, 0⟩ = [] ∧
    extract "/** a\n * b*/c\n */" ⟨0, 0, 0, 0⟩ = "" := by
  have hraw : rawLines "/** a\n * b*/c\n */".toList ⟨-1, -5, 3, -1⟩ =
      [" * b*/c".toList, " */".toList] := by decide +kernel
  have htext : extract "/** a\n * b*/c\n */" ⟨-1, -5, 3, -1⟩ = "b\n" := by decide +kernel
  have hnone : rawLines "/** a\n * b*/c\n */".toList ⟨0, 0, 0, 0⟩ = [] := by decide +kernel
  obtain ⟨hopen, -, hparts⟩ := extract_inside "/** a\n * b*/c\n */" ⟨-1, -5, 3, -1⟩
  rw [hraw, htext] at hparts
  rw [htext] at hopen
  exact ⟨hraw, htext, hopen, hparts (List.cons_ne_nil _ _), hnone,
    (extract_inside _ ⟨0, 0, 0, 0⟩).2.1 hnone⟩

end Block

end DocMarkup
