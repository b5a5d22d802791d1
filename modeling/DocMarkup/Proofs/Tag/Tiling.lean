import DocMarkup.Proofs.Tag.FirstTag
import Mathlib.Data.List.Chain

/-!
A scan tiles its text: the segments lie end to end, tags are written as tags, and no tag is missed.
`TilesFrom` says what one segment adds to the scan of the text after it; every part of the main
statement (`scan_tiles_text`) is an induction over it.
-/

namespace DocMarkup

def Segment.isPlain : Segment → Bool
  | .plain _ => true
  | .tag _ => false

/-- The part of a text that a segment stands for. -/
def Segment.source (text : List Char) : Segment → List Char
  | .plain s => s.toList
  | .tag t => text.extract t.start (t.stop + 1)

/-- How far into a text its first segments reach. -/
def Segment.reach (text : List Char) (segments : List Segment) : Nat :=
  (segments.flatMap (Segment.source text)).length

/-- A marker begins at one offset of a text, and the body after it at another. -/
def MarkedAt (text : List Char) (start body : Nat) : Prop :=
  ∃ m : TagMarker, m.Begins (text.drop start) ∧ body = start + m.name.length + 3

/-! ## Tags and the text after them -/

/-- A tag stands in a text as it is written. -/
structure InlineTag.WrittenIn (t : InlineTag) (text : List Char) (gap : Char) : Prop where
  isWord_name : t.name ≠ "" ∧ ∀ c ∈ t.name.toList, Text.isWord c = true
  isBlank_gap : Text.isBlank gap = true
  source_eq : text.extract t.start (t.stop + 1) =
    '\x7b' :: '@' :: t.name.toList ++ gap :: t.body.toList ++ ['\x7d']
  start_le : t.start ≤ t.stop
  stop_lt : t.stop < text.length

/-- From an offset on, the segments are what a scan of the text gives. -/
inductive TilesFrom (text : List Char) : Nat → List Segment → Prop where
  | done : TilesFrom text text.length []
  | rest {offset : Nat} (hlt : offset < text.length) (hopen : Unclosed (text.drop offset)) :
      TilesFrom text offset [.plain (String.ofList (text.drop offset))]
  | tag {offset : Nat} {t : InlineTag} {gap : Char} {tail : List Segment}
      (hstart : t.start = offset)
      (ht : t.WrittenIn text gap) (htail : TilesFrom text (t.stop + 1) tail) :
      TilesFrom text offset (.tag t :: tail)
  | plain {offset : Nat} {s : String} {t : InlineTag} {tail : List Segment} (hs : s ≠ "")
      (hsource : text.extract offset (offset + s.length) = s.toList)
      (hnone : ∀ i < s.length, ∀ body, ¬ MarkedAt text (offset + i) body)
      (htail : TilesFrom text (offset + s.length) (.tag t :: tail)) :
      TilesFrom text offset (.plain s :: .tag t :: tail)

variable {text : List Char} {offset : Nat} {segments : List Segment}

theorem extract_append_drop {i j : Nat} (h : i ≤ j) :
    text.extract i j ++ text.drop j = text.drop i := by
  have hj : text.drop j = (text.drop i).drop (j - i) := by
    rw [List.drop_drop, Nat.add_sub_cancel' h]
  rw [hj, List.extract_eq_take_drop, List.take_append_drop]

namespace TilesFrom

/-- Put together, the segments are the text from the offset on. -/
theorem source_eq (h : TilesFrom text offset segments) :
    segments.flatMap (Segment.source text) = text.drop offset := by
  induction h with
  | done => simp
  | rest _ _ => simp [Segment.source]
  | tag hstart ht _ ih =>
      subst hstart
      rw [List.flatMap_cons, ih, Segment.source]
      exact extract_append_drop (Nat.le_succ_of_le ht.start_le)
  | plain _ hsource _ _ ih =>
      rw [List.flatMap_cons, ih, Segment.source, ← hsource]
      exact extract_append_drop (Nat.le_add_right _ _)

theorem tail {x : Segment} (h : TilesFrom text offset (x :: segments)) :
    TilesFrom text (offset + (x.source text).length) segments := by
  cases h with
  | rest hlt _ =>
      have hend : offset + (text.length - offset) = text.length := by omega
      simpa [Segment.source, hend] using (TilesFrom.done : TilesFrom text text.length [])
  | @tag _ t _ _ hstart ht htail =>
      have hend : t.start + (text.extract t.start (t.stop + 1)).length = t.stop + 1 := by
        have := ht.start_le
        have := ht.stop_lt
        rw [List.extract_eq_take_drop, List.length_take, List.length_drop]
        omega
      rw [Segment.source, ← hstart, hend]
      exact htail
  | plain _ _ _ htail =>
      rw [Segment.source, String.length_toList]
      exact htail

/-- The segments after some others tile the text from where those end. -/
theorem append_right {before after : List Segment} (h : TilesFrom text offset (before ++ after)) :
    TilesFrom text (offset + Segment.reach text before) after := by
  induction before generalizing offset with
  | nil => exact h
  | cons x before ih =>
      have hreach : Segment.reach text (x :: before) =
          (x.source text).length + Segment.reach text before := by simp [Segment.reach]
      rw [hreach, ← Nat.add_assoc]
      exact ih h.tail

end TilesFrom

/-! ## Markers in a text -/

/-- Whether a marker is closed depends only on the text after it, since its blank is no
backslash. -/
theorem TagMarker.Begins.closingBrace?_eq {m : TagMarker} {i : Nat} (h : m.Begins (text.drop i)) :
    closingBrace? text (i + m.name.length + 3) =
      (Brace.close? 0 false m.rest).map (i + m.name.length + 3 + ·) := by
  have hi : i ≤ text.length := by
    have hne := congrArg List.length h.text_eq
    simp at hne
    omega
  have hgap : (m.gap == '\\') = false :=
    beq_eq_false_iff_ne.2 (Text.ne_of_isBlank h.isBlank_gap (by decide))
  obtain ⟨before, hbefore, hlen⟩ : ∃ before, text = before ++ text.drop i ∧ before.length = i :=
    ⟨text.take i, (List.take_append_drop i text).symm, by simp [Nat.min_eq_left hi]⟩
  have htext : text = (before ++ '\x7b' :: '@' :: m.name) ++ m.gap :: m.rest := by
    rw [hbefore, h.text_eq]
    simp
  have hbody : i + m.name.length + 3 = (before ++ '\x7b' :: '@' :: m.name).length + 1 := by
    simp [hlen]
    omega
  rw [hbody, htext, closingBrace?_append_cons, hgap]

theorem Unclosed.closingBrace?_eq_none (h : Unclosed (text.drop offset)) {i body : Nat}
    (hm : MarkedAt text (offset + i) body) (hnone : ∀ j < i, ∀ b, ¬ MarkedAt text (offset + j) b) :
    closingBrace? text body = none := by
  obtain ⟨m, hbegins, rfl⟩ := hm
  have hi : i ≤ (text.drop offset).length := by
    have hne := congrArg List.length hbegins.text_eq
    simp at hne ⊢
    omega
  have hfirst : TagMarker.first? (text.drop offset) = some ((text.drop offset).take i, m) := by
    rw [TagMarker.first?_eq_some_iff, List.length_take, Nat.min_eq_left hi]
    refine ⟨List.take_prefix _ _, by rwa [List.drop_drop], ?_⟩
    intro j hj m' hm'
    rw [List.drop_drop] at hm'
    exact hnone j hj _ ⟨m', hm', rfl⟩
  rw [hbegins.closingBrace?_eq, h _ _ hfirst, Option.map_none]

/-! ## Scans are tilings -/

theorem TagSplit.IsFirst.writtenIn {s : TagSplit} {rest : List Char} (h : s.IsFirst rest)
    (done : List Char) :
    (s.tag done.length).WrittenIn (done ++ rest) s.gap where
  isWord_name := by
    refine ⟨?_, ?_⟩
    · simpa [TagSplit.tag, TagSplit.marker] using h.begins.name_ne_nil
    · simpa [TagSplit.tag, TagSplit.marker] using h.begins.isWord_name
  isBlank_gap := h.begins.isBlank_gap
  source_eq := by
    have hpos : 0 < s.written.length := by simp [TagSplit.written]
    have hstop : (s.tag done.length).stop + 1 = (s.tag done.length).start + s.written.length := by
      simp only [TagSplit.tag]; omega
    have hdrop : (done ++ rest).drop (s.tag done.length).start = s.written ++ s.after := by
      rw [h.text_eq]
      simp [TagSplit.tag]
    rw [hstop, List.extract_eq_take_drop, hdrop, Nat.add_sub_cancel_left, List.take_left]
    simp [TagSplit.written, TagSplit.tag]
  start_le := by
    simp [TagSplit.tag, TagSplit.written]
  stop_lt := by
    rw [h.text_eq]
    simp [TagSplit.tag, TagSplit.written]
    omega

theorem TagSplit.IsFirst.not_markedAt {s : TagSplit} {rest : List Char} (h : s.IsFirst rest)
    (done : List Char) :
    ∀ i < s.before.length, ∀ body, ¬ MarkedAt (done ++ rest) (done.length + i) body := by
  rintro i hi body ⟨m, hm, _⟩
  rw [List.drop_length_add_append] at hm
  exact h.unmarked i hi m hm

-- The induction is on the length of the text that is not scanned yet; each tag makes it shorter.
theorem tiles_ofChars (done rest : List Char) :
    TilesFrom (done ++ rest) done.length (Scan.ofChars done.length rest).segments := by
  rcases unclosed_or_isFirst rest with hopen | ⟨s, hs⟩
  · rw [Scan.segments_of_unclosed hopen, Scan.run]
    cases rest with
    | nil => simpa using (TilesFrom.done : TilesFrom done done.length [])
    | cons c rest =>
        have hdrop : (done ++ c :: rest).drop done.length = c :: rest := List.drop_left
        have hrest : TilesFrom (done ++ c :: rest) done.length _ :=
          TilesFrom.rest (by simp) (by rwa [hdrop])
        rwa [hdrop] at hrest
  · have hlt := TagSplit.after_length_lt hs.ofText_eq
    have ht := hs.writtenIn done
    have htail := tiles_ofChars (done ++ s.before ++ s.written) s.after
    have htext : done ++ s.before ++ s.written ++ s.after = done ++ rest := by
      rw [hs.text_eq]
      simp
    have hstop : (done ++ s.before ++ s.written).length = (s.tag done.length).stop + 1 := by
      simp [TagSplit.tag, TagSplit.written]
      omega
    have hlen : done.length + s.length = (s.tag done.length).stop + 1 := by
      rw [← hstop]
      simp [TagSplit.length]
    rw [htext, hstop] at htail
    rw [Scan.segments_of_isFirst hs, hlen, Scan.run]
    by_cases hb : s.before = []
    · simpa [hb] using TilesFrom.tag (by simp [TagSplit.tag, hb]) ht htail
    · have hlength : (String.ofList s.before).length = s.before.length := String.length_ofList
      have htag : TilesFrom (done ++ rest) (done.length + (String.ofList s.before).length) _ :=
        TilesFrom.tag (by simp [TagSplit.tag, hlength]) ht htail
      have hplain :=
        TilesFrom.plain (by simpa using hb) ?_ (by simpa only [hlength] using hs.not_markedAt done)
          htag
      · simpa [hb] using hplain
      · rw [hlength, hs.text_eq]
        simp
termination_by rest.length

/-! ## The main statement -/

/-- The segments of a text, all of it and nothing else. -/
structure Tiling (text : List Char) (segments : List Segment) : Prop where
  source_eq : segments.flatMap (Segment.source text) = text
  /-- Every tag is where the segments before it end. -/
  start_eq : ∀ before t after, segments = before ++ .tag t :: after →
    t.start = Segment.reach text before ∧ t.start ≤ t.stop ∧ t.stop < text.length
  written : ∀ t, .tag t ∈ segments → ∃ gap : Char, Text.isBlank gap = true ∧
    t.name ≠ "" ∧ (∀ c ∈ t.name.toList, Text.isWord c = true) ∧
    Segment.source text (.tag t) = '\x7b' :: '@' :: t.name.toList ++ gap :: t.body.toList ++
      ['\x7d']
  plain_ne : ∀ s, .plain s ∈ segments → s ≠ ""
  alternate : segments.IsChain fun a b => ¬ (a.isPlain ∧ b.isPlain)
  /-- No marker begins in a plain segment before a tag. -/
  unmarked : ∀ before s t after, segments = before ++ .plain s :: .tag t :: after →
    ∀ i < s.length, ∀ body, ¬ MarkedAt text (Segment.reach text before + i) body
  /-- The first marker of a plain segment at the end is never closed. -/
  unclosed : ∀ before s, segments = before ++ [.plain s] →
    ∀ i < s.length, ∀ body, MarkedAt text (Segment.reach text before + i) body →
      (∀ j < i, ∀ b, ¬ MarkedAt text (Segment.reach text before + j) b) →
        closingBrace? text body = none

theorem TilesFrom.alternate (h : TilesFrom text offset segments) :
    segments.IsChain fun a b => ¬ (a.isPlain ∧ b.isPlain) := by
  induction h with
  | done => exact .nil
  | rest _ _ => exact .singleton _
  | @tag _ t _ tail _ _ _ ih =>
      cases tail with
      | nil => exact .singleton _
      | cons x tail => exact .cons_cons (by simp [Segment.isPlain]) ih
  | plain _ _ _ _ ih => exact .cons_cons (by simp [Segment.isPlain]) ih

theorem TilesFrom.tag_inv {t : InlineTag} (h : TilesFrom text offset (.tag t :: segments)) :
    t.start = offset ∧ ∃ gap, t.WrittenIn text gap := by
  cases h with
  | tag hstart ht _ => exact ⟨hstart, _, ht⟩

theorem TilesFrom.plain_inv {s : String} (h : TilesFrom text offset (.plain s :: segments)) :
    s ≠ "" := by
  cases h with
  | rest hlt _ => simpa using hlt
  | plain hs _ _ _ => exact hs

theorem TilesFrom.plain_tag_inv {s : String} {t : InlineTag}
    (h : TilesFrom text offset (.plain s :: .tag t :: segments)) :
    ∀ i < s.length, ∀ body, ¬ MarkedAt text (offset + i) body := by
  cases h with
  | plain _ _ hnone _ => exact hnone

theorem TilesFrom.rest_inv {s : String} (h : TilesFrom text offset [.plain s]) :
    Unclosed (text.drop offset) := by
  cases h with
  | rest _ hopen => exact hopen

/-- A scan tiles its text and misses no tag. -/
theorem scan_tiles_text (text : String) : Tiling text.toList (Scan.ofText text).segments := by
  have h : TilesFrom text.toList 0 (Scan.ofText text).segments := tiles_ofChars [] text.toList
  -- what follows some segments is again a tiling, and is inverted
  have hsplit : ∀ before after, (Scan.ofText text).segments = before ++ after →
      TilesFrom text.toList (Segment.reach text.toList before) after := by
    intro before after he
    have h' := h
    rw [he] at h'
    simpa using h'.append_right
  constructor
  case source_eq => simpa using h.source_eq
  case start_eq =>
    intro before t after he
    obtain ⟨hstart, gap, ht⟩ := (hsplit _ _ he).tag_inv
    exact ⟨hstart, ht.start_le, ht.stop_lt⟩
  case written =>
    intro t hmem
    obtain ⟨before, after, he⟩ := List.append_of_mem hmem
    obtain ⟨_, gap, ht⟩ := (hsplit _ _ he).tag_inv
    exact ⟨gap, ht.isBlank_gap, ht.isWord_name.1, ht.isWord_name.2, ht.source_eq⟩
  case plain_ne =>
    intro s hmem
    obtain ⟨before, after, he⟩ := List.append_of_mem hmem
    exact (hsplit _ _ he).plain_inv
  case alternate => exact h.alternate
  case unmarked =>
    intro before s t after he
    exact (hsplit _ _ he).plain_tag_inv
  case unclosed =>
    intro before s he i _ body hm hnone
    exact (hsplit _ _ he).rest_inv.closingBrace?_eq_none hm hnone

end DocMarkup
