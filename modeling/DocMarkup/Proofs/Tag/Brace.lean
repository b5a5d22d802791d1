import DocMarkup.Tag.Brace
import Mathlib.Data.List.Basic

/-!
Braces that match. A body is balanced if no part of it from its beginning closes more braces than it
opens and the whole closes as many as it opens. Main statement: the brace that closes a tag is the
one right after a balanced body (`Brace.close?_balanced`).
-/

namespace DocMarkup

namespace Brace

theorem ofChar_eq_opening_iff {escaped : Bool} {c : Char} :
    ofChar escaped c = .opening ↔ c = '\x7b' ∧ escaped = false := by
  unfold ofChar
  split
  · simp_all
  · split <;> simp_all

theorem ofChar_eq_closing_iff {escaped : Bool} {c : Char} :
    ofChar escaped c = .closing ↔ c = '\x7d' := by
  constructor
  · exact eq_of_ofChar_eq_closing
  · rintro rfl
    simp [ofChar]

/-! ## Counting braces -/

/-- How many braces a text opens; `escaped` says whether a backslash stands before the text. -/
def openings (escaped : Bool) : List Char → Nat
  | [] => 0
  | c :: cs => (if c = '\x7b' ∧ escaped = false then 1 else 0) + openings (c == '\\') cs

/-- How many braces a text closes. -/
def closings (cs : List Char) : Nat := cs.count '\x7d'

/-- Every brace that is closed was opened before, and every brace that is opened is closed. -/
structure Balanced (escaped : Bool) (body : List Char) : Prop where
  closings_le : ∀ k ≤ body.length, closings (body.take k) ≤ openings escaped (body.take k)
  closings_eq : closings body = openings escaped body

variable {escaped : Bool} {c : Char} {cs : List Char}

theorem counts_of_opening (h : ofChar escaped c = .opening) (cs : List Char) :
    openings escaped (c :: cs) = openings (c == '\\') cs + 1 ∧
    closings (c :: cs) = closings cs := by
  obtain ⟨rfl, rfl⟩ := ofChar_eq_opening_iff.1 h
  simp [openings, closings, Nat.add_comm]

theorem counts_of_closing (h : ofChar escaped c = .closing) (cs : List Char) :
    openings escaped (c :: cs) = openings (c == '\\') cs ∧
    closings (c :: cs) = closings cs + 1 := by
  obtain rfl := ofChar_eq_closing_iff.1 h
  simp [openings, closings]

theorem counts_of_neither (h : ofChar escaped c = .neither) (cs : List Char) :
    openings escaped (c :: cs) = openings (c == '\\') cs ∧ closings (c :: cs) = closings cs := by
  have hopening : ¬ (c = '\x7b' ∧ escaped = false) := by
    rw [← ofChar_eq_opening_iff, h]
    simp
  have hclosing : c ≠ '\x7d' := by
    rw [ne_eq, ← ofChar_eq_closing_iff, h]
    simp
  simp [openings, closings, hopening, hclosing]

/-! ## The brace after a balanced body -/

theorem close?_of_opening (h : ofChar escaped c = .opening) (depth : Nat) (cs : List Char) :
    close? depth escaped (c :: cs) = (close? (depth + 1) (c == '\\') cs).map (· + 1) := by
  simp [close?, h]

theorem close?_of_closing (h : ofChar escaped c = .closing) (depth : Nat) (cs : List Char) :
    close? (depth + 1) escaped (c :: cs) = (close? depth (c == '\\') cs).map (· + 1) := by
  simp [close?, h]

theorem close?_of_neither (h : ofChar escaped c = .neither) (depth : Nat) (cs : List Char) :
    close? depth escaped (c :: cs) = (close? depth (c == '\\') cs).map (· + 1) := by
  simp [close?, h]

-- The induction is on the body. The braces that are still to be closed are added to those that the
-- body opens.
theorem close?_append_closing {body : List Char} {depth : Nat} {escaped : Bool}
    (hle : ∀ k ≤ body.length, closings (body.take k) ≤ depth + openings escaped (body.take k))
    (heq : closings body = depth + openings escaped body) (rest : List Char) :
    close? depth escaped (body ++ '\x7d' :: rest) = some body.length := by
  induction body generalizing depth escaped with
  | nil =>
      have hdepth : depth = 0 := by simpa [closings, openings] using heq.symm
      subst hdepth
      simp [close?, ofChar]
  | cons c body ih =>
      have hle' : ∀ k ≤ body.length,
          closings (c :: body.take k) ≤ depth + openings escaped (c :: body.take k) := by
        intro k hk
        simpa using hle (k + 1) (by simpa using hk)
      rw [List.cons_append]
      cases hc : ofChar escaped c with
      | opening =>
          have hcount := counts_of_opening hc
          have hrest : close? (depth + 1) (c == '\\') (body ++ '\x7d' :: rest) = some body.length :=
            ih
            (fun k hk => by have := hle' k hk; rw [(hcount _).1, (hcount _).2] at this; omega)
            (by rw [(hcount _).1, (hcount _).2] at heq; omega)
          simp [close?_of_opening hc, hrest]
      | closing =>
          have hcount := counts_of_closing hc
          -- the first character already closes a brace
          have hfirst := hle' 0 (Nat.zero_le _)
          rw [(hcount _).1, (hcount _).2] at hfirst
          obtain ⟨depth, rfl⟩ : ∃ d, depth = d + 1 :=
            ⟨depth - 1, by simp [openings] at hfirst; omega⟩
          have hrest : close? depth (c == '\\') (body ++ '\x7d' :: rest) = some body.length := ih
            (fun k hk => by have := hle' k hk; rw [(hcount _).1, (hcount _).2] at this; omega)
            (by rw [(hcount _).1, (hcount _).2] at heq; omega)
          simp [close?_of_closing hc, hrest]
      | neither =>
          have hcount := counts_of_neither hc
          have hrest : close? depth (c == '\\') (body ++ '\x7d' :: rest) = some body.length := ih
            (fun k hk => by have := hle' k hk; rwa [(hcount _).1, (hcount _).2] at this)
            (by rwa [(hcount _).1, (hcount _).2] at heq)
          simp [close?_of_neither hc, hrest]

/-- The brace right after a balanced body closes the tag. -/
theorem close?_balanced {escaped : Bool} {body : List Char} (h : Balanced escaped body)
    (rest : List Char) :
    close? 0 escaped (body ++ '\x7d' :: rest) = some body.length :=
  close?_append_closing (by simpa using h.closings_le) (by simpa using h.closings_eq) rest

end Brace

/-! ## Bodies inside a text -/

theorem escapedAt_append_cons (before : List Char) (c : Char) (rest : List Char) :
    escapedAt (before ++ c :: rest) (before.length + 1) = (c == '\\') := by
  simp [escapedAt]

/-- Where a body begins after a character, the closing brace depends only on that character and the
text from the body on. -/
theorem closingBrace?_append_cons (before : List Char) (c : Char) (rest : List Char) :
    closingBrace? (before ++ c :: rest) (before.length + 1) =
      (Brace.close? 0 (c == '\\') rest).map (before.length + 1 + ·) := by
  have hdrop : (before ++ c :: rest).drop (before.length + 1) = rest := by simp
  rw [closingBrace?, escapedAt_append_cons, hdrop]

end DocMarkup
