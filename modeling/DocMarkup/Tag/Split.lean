import DocMarkup.Tag.Brace
import DocMarkup.Text.Classes

/-!
The first tag of a text. A tag is written as a brace and an at sign, a name of word characters, one
blank, and a body up to the brace that closes it. Main statement: a text in which a tag is found
consists of the text before it, the tag, and the text after it (`TagSplit.source_eq`).
-/

namespace DocMarkup

/-! ## Tag markers -/

/-- The beginning of a tag: its name, the blank after it, and the text from the body on. -/
structure TagMarker where
  name : List Char
  gap : Char
  rest : List Char
  deriving DecidableEq

namespace TagMarker

/-- The marker that stands at the beginning of a text. -/
def atStart? : List Char → Option TagMarker
  | '\x7b' :: '@' :: cs =>
    match cs.dropWhile Text.isWord with
    | gap :: rest =>
      if (cs.takeWhile Text.isWord).isEmpty || !Text.isBlank gap then none
      else some ⟨cs.takeWhile Text.isWord, gap, rest⟩
    | [] => none
  | _ => none

/-- The first marker of a text, and the text before it. -/
def first? : List Char → Option (List Char × TagMarker)
  | [] => none
  | c :: cs =>
    match atStart? (c :: cs) with
    | some m => some ([], m)
    | none => (first? cs).map fun (before, m) => (c :: before, m)

end TagMarker

/-- The offset of the first tag marker at or after a signed offset. A marker counts only if a
closing brace follows it. -/
def tagStart? (text : List Char) (start : Int) : Option Nat :=
  let origin := Text.position text.length start
  match TagMarker.first? (text.drop origin) with
  | some (before, m) => if m.rest.contains '\x7d' then some (origin + before.length) else none
  | none => none

/-! ## Splitting at the first tag -/

/-- A text split at its first tag. -/
structure TagSplit where
  before : List Char
  name : List Char
  gap : Char
  body : List Char
  after : List Char

namespace TagSplit

/-- The tag as it is written. -/
def written (s : TagSplit) : List Char :=
  '\x7b' :: '@' :: s.name ++ s.gap :: s.body ++ ['\x7d']

/-- How long the text is up to the end of the tag. -/
def length (s : TagSplit) : Nat := s.before.length + s.written.length

end TagSplit

/-- What a text holds first. -/
inductive Reading where
  /-- No tag. -/
  | plain
  /-- A marker that is never closed, at an offset. -/
  | unterminated (name : List Char) (offset : Nat)
  | tag (split : TagSplit)

/-- Find the first tag of a text. -/
def Reading.ofText (text : List Char) : Reading :=
  match TagMarker.first? text with
  | none => .plain
  | some (before, m) =>
    if m.rest.contains '\x7d' then
      match closingBrace? m.rest 0 with
      | some n => .tag ⟨before, m.name, m.gap, m.rest.take n, m.rest.drop (n + 1)⟩
      | none => .unterminated m.name before.length
    else .plain

/-! ### Nothing is lost -/

theorem TagMarker.atStart?_eq {text : List Char} {m : TagMarker} (h : atStart? text = some m) :
    text = '\x7b' :: '@' :: m.name ++ m.gap :: m.rest := by
  unfold atStart? at h
  split at h
  · rename_i cs
    split at h
    · rename_i gap rest hrest
      split at h
      · cases h
      · cases h
        have := List.takeWhile_append_dropWhile (p := Text.isWord) (l := cs)
        rw [hrest] at this
        simp [this]
    · cases h
  · cases h

theorem TagMarker.first?_eq {text before : List Char} {m : TagMarker}
    (h : first? text = some (before, m)) :
    text = before ++ '\x7b' :: '@' :: m.name ++ m.gap :: m.rest := by
  induction text generalizing before with
  | nil => cases h
  | cons c cs ih =>
    unfold first? at h
    split at h
    · rename_i hm
      cases h
      simpa using atStart?_eq hm
    · obtain ⟨⟨before', m'⟩, hp, he⟩ := Option.map_eq_some_iff.1 h
      cases he
      simp [ih hp]

/-- The parts of a split text, put together again, are the text. -/
theorem TagSplit.source_eq {text : List Char} {s : TagSplit} (h : Reading.ofText text = .tag s) :
    s.before ++ s.written ++ s.after = text := by
  unfold Reading.ofText at h
  split at h
  · cases h
  · rename_i before m hm
    split at h
    · split at h
      · rename_i n hn
        cases h
        have hget := getElem?_of_closingBrace? hn
        have hrest : m.rest = m.rest.take n ++ '\x7d' :: m.rest.drop (n + 1) := by
          obtain ⟨hlt, hc⟩ := List.getElem?_eq_some_iff.1 hget
          rw [← hc, List.getElem_cons_drop, List.take_append_drop]
        rw [TagMarker.first?_eq hm]
        conv => rhs; rw [hrest]
        simp [TagSplit.written]
      · cases h
    · cases h

theorem TagSplit.after_length_lt {text : List Char} {s : TagSplit}
    (h : Reading.ofText text = .tag s) : s.after.length < text.length := by
  rw [← source_eq h]
  simp [TagSplit.written]
  omega

end DocMarkup
