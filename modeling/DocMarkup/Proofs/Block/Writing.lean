import DocMarkup.Block.Region
import DocMarkup.Proofs.Block.Closing

/-!
Descriptions that are written into a comment block. The first line of a description stands after a
lead, such as an annotation, and every later line after blanks and a star. Main statement: the
region of a description describes it, and so does the first marker with its label
(`Block.extract_written`).
-/

namespace DocMarkup

theorem Text.splitAt_eq_splitOn (separator : Char) (text : List Char) :
    splitAt separator text = text.splitOn separator := by
  induction text with
  | nil => rfl
  | cons c cs ih =>
      rw [splitAt, ih, List.splitOn_cons_eq_if_modifyHead]
      cases hcs : cs.splitOn separator with
      | nil => exact absurd hcs (List.splitOn_ne_nil _ _)
      | cons part parts => rfl

namespace Block

/-! ## Lines that are written -/

/-- A later line of a description: a text, and the blanks before its star. -/
structure StarredLine where
  indent : String
  text : String
  blank : ∀ c ∈ indent.toList, Text.isBlank c = true
  oneLine : '\n' ∉ indent.toList ++ text.toList
  isOpen : IsOpen text.toList

def StarredLine.written (l : StarredLine) : String := l.indent ++ "*" ++ l.text

structure Description where
  /-- What stands before the description in its first line. -/
  lead : String
  first : String
  later : List StarredLine
  oneLine : '\n' ∉ lead.toList ++ first.toList
  isOpen : IsOpen first.toList

namespace Description

def texts (d : Description) : List String := d.first :: d.later.map StarredLine.text

def written (d : Description) : List String :=
  (d.lead ++ d.first) :: d.later.map StarredLine.written

theorem written_ne_nil (d : Description) : d.written ≠ [] := List.cons_ne_nil _ _

/-- A block in which a description stands between other lines. -/
def within (d : Description) (before after : List String) : String :=
  "\n".intercalate (before ++ d.written ++ after)

/-- Where a description is that stands after some lines. -/
def region (d : Description) (above : Nat) : Region where
  startLine := above + 1
  startColumn := d.lead.length - 1
  endLine := above + d.written.length
  endColumn := (d.written.getLast d.written_ne_nil).length

end Description

/-! ## Lines that are read -/

theorem lines_intercalate {ls : List (List Char)} (hne : ls ≠ []) (h : ∀ l ∈ ls, '\n' ∉ l) :
    lines (['\n'].intercalate ls) = ls := by
  rw [lines, Text.splitAt_eq_splitOn, List.splitOn_intercalate '\n' h hne]

theorem cutLast_length {ls : List (List Char)} (hne : ls ≠ []) :
    cutLast (ls.getLast hne).length ls = ls := by
  have hcut := cutLast_append (ls.getLast hne).length ls.dropLast (ls.getLast hne)
  rwa [Text.sliceTo_natCast, List.take_length, List.dropLast_concat_getLast] at hcut

theorem StarredLine.oneLine_written (l : StarredLine) : '\n' ∉ l.written.toList := by
  have h := l.oneLine
  simp only [List.mem_append, not_or] at h
  simp [written, h.1, h.2]

theorem StarredLine.described_written (l : StarredLine) :
    beforeEnd (trimStar l.written.toList) = l.text.toList := by
  have hwritten : l.written.toList = l.indent.toList ++ '*' :: l.text.toList := by simp [written]
  rw [hwritten, trimStar_blank_star l.blank, beforeEnd_of_isOpen l.isOpen]

namespace Description

variable (d : Description) {before after : List String}

theorem oneLine_written {l : String} (h : l ∈ d.written) : '\n' ∉ l.toList := by
  rcases List.mem_cons.1 h with rfl | hlater
  · simpa using d.oneLine
  · obtain ⟨s, _, rfl⟩ := List.mem_map.1 hlater
    exact s.oneLine_written

theorem lines_within (hlines : ∀ l ∈ before ++ after, '\n' ∉ l.toList) :
    lines (d.within before after).toList = (before ++ d.written ++ after).map String.toList := by
  rw [within, String.toList_intercalate]
  refine lines_intercalate (by simp [written]) ?_
  intro l hl
  obtain ⟨s, hs, rfl⟩ := List.mem_map.1 hl
  simp only [List.mem_append] at hs hlines
  rcases hs with (hbefore | hwritten) | hafter
  · exact hlines s (.inl hbefore)
  · exact d.oneLine_written hwritten
  · exact hlines s (.inr hafter)

theorem selected_region (hlines : ∀ l ∈ before ++ after, '\n' ∉ l.toList) :
    selected (d.within before after).toList (d.region before.length) =
      d.written.map String.toList := by
  have hstart : (d.region before.length).startLine - 1 = (before.length : Nat) := by simp [region]
  have hend : (d.region before.length).endLine = (before.length + d.written.length : Nat) := by
    simp [region]
  rw [selected, d.lines_within hlines, hstart, hend, Text.slice_natCast, ← List.map_take,
    ← List.map_drop, ← List.length_append, List.take_left, List.drop_left]

/-- The lead is left out of the first line, and blanks and star of every later one. -/
theorem described_written :
    described (d.lead.length - 1) (d.written.map String.toList) = d.texts.map String.toList := by
  have hcolumn : (d.lead.length : Int) - 1 + 1 = (d.lead.toList.length : Nat) := by
    rw [String.length_toList]
    omega
  have hfirst :
      Text.sliceFrom (d.lead.length - 1 + 1) (d.lead ++ d.first).toList = d.first.toList := by
    rw [hcolumn, Text.sliceFrom_natCast, String.toList_append, List.drop_left]
  have hlater : ∀ l ∈ d.later, beforeEnd (trimStar l.written.toList) = l.text.toList := fun l _ =>
    l.described_written
  simp only [written, texts, described, List.map_cons, List.map_map, hfirst,
    beforeEnd_of_isOpen d.isOpen, List.cons.injEq, true_and]
  exact List.map_congr_left hlater

theorem extract_region (hlines : ∀ l ∈ before ++ after, '\n' ∉ l.toList) :
    extract (d.within before after) (d.region before.length) = "\n".intercalate d.texts := by
  have hne : d.written.map String.toList ≠ [] := by simp [written]
  have hlast : (d.region before.length).endColumn =
      ((d.written.map String.toList).getLast hne).length := by
    rw [List.getLast_map, String.length_toList, region]
  rw [extract, extractLines, d.selected_region hlines, hlast, cutLast_length, region,
    d.described_written, ← String.toList_inj, String.toList_ofList, String.toList_intercalate]
  rfl

end Description

/-! ## The main statement -/

/-- A description that is written into a block is found there again, by its region and by its
label. -/
theorem extract_written (d : Description) (before after : List String)
    (hlines : ∀ l ∈ before ++ after, '\n' ∉ l.toList) :
    extract (d.within before after) (d.region before.length) = "\n".intercalate d.texts ∧
      ∀ (label : String) (earlier rest : List Marker), (∀ m ∈ earlier, m.label ≠ label) →
        DocBlock.description
            ⟨d.within before after,
              earlier ++ ⟨label, some (d.region before.length)⟩ :: rest⟩ label =
          "\n".intercalate d.texts := by
  refine ⟨d.extract_region hlines, fun label earlier rest hearlier => ?_⟩
  have hfind :
      (earlier ++ ⟨label, some (d.region before.length)⟩ :: rest).find? (·.label == label) =
        some ⟨label, some (d.region before.length)⟩ := by
    have hnone : earlier.find? (·.label == label) = none := by simpa using hearlier
    rw [List.find?_append, hnone, Option.none_or, List.find?_cons_of_pos]
    simp
  rw [DocBlock.description, hfind]
  exact d.extract_region hlines

/-- A description with a line that begins with a slash, so that its star and its text look like the
end of a block. -/
def slashed : Description where
  lead := " * @see "
  first := "a*"
  later :=
    [⟨"\t", "/ b", List.all_eq_true.1 rfl, by decide, by decide⟩,
      ⟨"", "", List.all_eq_true.1 rfl, by decide, by decide⟩]
  oneLine := by decide
  isOpen := by decide

/-- The description stands after a line in which a block ends, and its marker after one with another
label. -/
theorem extract_written_slashed :
    (∀ l ∈ ["/** */"] ++ [" */"], '\n' ∉ l.toList) ∧
    slashed.within ["/** */"] [" */"] = "/** */\n * @see a*\n\t*/ b\n*\n */" ∧
    slashed.region 1 = ⟨2, 7, 4, 1⟩ ∧
    DocBlock.description
        ⟨"/** */\n * @see a*\n\t*/ b\n*\n */",
          [⟨"a", none⟩, ⟨"see", some ⟨2, 7, 4, 1⟩⟩, ⟨"see", none⟩]⟩ "see" =
      "a*\n/ b\n" := by
  have hlines : ∀ l ∈ ["/** */"] ++ [" */"], '\n' ∉ l.toList := by decide
  have hwithin : slashed.within ["/** */"] [" */"] = "/** */\n * @see a*\n\t*/ b\n*\n */" := by
    decide +kernel
  have hregion : slashed.region ["/** */"].length = ⟨2, 7, 4, 1⟩ := by decide +kernel
  have htexts : "\n".intercalate slashed.texts = "a*\n/ b\n" := by decide +kernel
  obtain ⟨-, hmarked⟩ := extract_written slashed ["/** */"] [" */"] hlines
  have hdescription := hmarked "see" [⟨"a", none⟩] [⟨"see", none⟩] (by decide)
  rw [hwithin, hregion, htexts] at hdescription
  exact ⟨hlines, hwithin, hregion, hdescription⟩

end Block

end DocMarkup
