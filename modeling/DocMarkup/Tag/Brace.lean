import DocMarkup.Text.Slice

/-!
Matching braces. A tag is closed by the first closing brace that leaves no brace open; an opening
brace after a backslash opens nothing.
-/

namespace DocMarkup

/-- What a character means for the nesting of braces. -/
inductive Brace where
  | opening
  | closing
  | neither
  deriving DecidableEq

namespace Brace

/-- The meaning of a character, given whether a backslash stands before it. -/
def ofChar (escaped : Bool) (c : Char) : Brace :=
  if c == '\x7b' && !escaped then .opening
  else if c == '\x7d' then .closing
  else .neither

theorem eq_of_ofChar_eq_closing {escaped : Bool} {c : Char} (h : ofChar escaped c = .closing) :
    c = '\x7d' := by
  unfold ofChar at h
  split at h
  · cases h
  · split at h
    · simpa using ‹(c == '\x7d') = true›
    · cases h

/-- How far the brace is that closes a tag, with `depth` braces to be closed before it. The text is
read no further than that brace; `escaped` says whether a backslash stands before the text. -/
def close? (depth : Nat) (escaped : Bool) : List Char → Option Nat
  | [] => none
  | c :: cs =>
    match ofChar escaped c, depth with
    | .opening, depth => (close? (depth + 1) (c == '\\') cs).map (· + 1)
    | .closing, 0 => some 0
    | .closing, depth + 1 => (close? depth (c == '\\') cs).map (· + 1)
    | .neither, depth => (close? depth (c == '\\') cs).map (· + 1)

theorem getElem?_of_close? {depth : Nat} {escaped : Bool} {cs : List Char} {n : Nat}
    (h : close? depth escaped cs = some n) : cs[n]? = some '\x7d' := by
  induction cs generalizing depth escaped n with
  | nil => cases h
  | cons c cs ih =>
    unfold close? at h
    split at h
    · obtain ⟨k, hk, rfl⟩ := Option.map_eq_some_iff.1 h
      exact ih hk
    · cases h
      simp [eq_of_ofChar_eq_closing ‹_›]
    · obtain ⟨k, hk, rfl⟩ := Option.map_eq_some_iff.1 h
      exact ih hk
    · obtain ⟨k, hk, rfl⟩ := Option.map_eq_some_iff.1 h
      exact ih hk

end Brace

/-- Whether a backslash stands before an offset. -/
def escapedAt (text : List Char) : (offset : Nat) → Bool
  | 0 => false
  | n + 1 => text[n]? == some '\\'

/-- The offset of the brace that closes the tag whose body begins at an offset. -/
def closingBrace? (text : List Char) (start : Nat) : Option Nat :=
  (Brace.close? 0 (escapedAt text start) (text.drop start)).map (start + ·)

theorem getElem?_of_closingBrace? {text : List Char} {start n : Nat}
    (h : closingBrace? text start = some n) : text[n]? = some '\x7d' := by
  obtain ⟨k, hk, rfl⟩ := Option.map_eq_some_iff.1 h
  simpa using Brace.getElem?_of_close? hk

/-! ## Signed indexes -/

/-- The closing brace from a signed index on. From a negative index the search first goes over the
end of the text, where no backslash counts, and then over the whole text. -/
def closingBraceFrom (text : List Char) (start : Int) : Except Text.IndexError (Option Int) :=
  if 0 ≤ start then .ok ((closingBrace? text start.toNat).map Int.ofNat)
  else if start < -(text.length : Int) then .error .text
  else
    let ending := (Text.sliceFrom start text).map fun c => if c == '\\' then ' ' else c
    .ok ((Brace.close? 0 false (ending ++ text)).map (start + ·))

end DocMarkup
