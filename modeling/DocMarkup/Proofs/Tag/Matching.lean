import DocMarkup.Proofs.Tag.Brace
import Mathlib.Order.Bounds.Basic
import Mathlib.Order.Nat

/-!
The brace that closes a tag, found by counting. A closing brace ends a body if as many braces are
opened as closed between the beginning of the body and the brace (`ClosesFrom`). Main statement: the
search for the end of a body finds the first such brace, and finds none only where there is none
(`closingBraceFrom_least`).
-/

namespace DocMarkup

/-! ## Searches -/

/-- What a search for the first number with a property gives. -/
inductive FirstOf (P : Nat → Prop) : Option Nat → Prop where
  | found {n : Nat} (h : IsLeast {m | P m} n) : FirstOf P (some n)
  | absent (h : ∀ n, ¬ P n) : FirstOf P none

namespace FirstOf

variable {P Q : Nat → Prop} {result : Option Nat}

theorem eq_some_iff (h : FirstOf P result) {n : Nat} : result = some n ↔ IsLeast {m | P m} n := by
  cases h with
  | found hleast =>
      constructor
      · intro heq
        obtain rfl := Option.some.inj heq
        exact hleast
      · intro hn
        rw [hleast.unique hn]
  | absent hnone => exact iff_of_false nofun (fun hn => hnone n hn.1)

theorem eq_none_iff (h : FirstOf P result) : result = none ↔ ∀ n, ¬ P n := by
  cases h with
  | found hleast => exact iff_of_false nofun (fun hnone => hnone _ hleast.1)
  | absent hnone => exact iff_of_true rfl hnone

/-- A search may be made elsewhere, as long as nothing is left out there and the order is kept. -/
theorem map {f : Nat → Nat} (h : FirstOf Q result) (hmono : Monotone f)
    (honto : ∀ m, P m → ∃ n, f n = m) (hsame : ∀ n, P (f n) ↔ Q n) :
    FirstOf P (result.map f) := by
  cases h with
  | found hleast =>
      refine .found ⟨(hsame _).2 hleast.1, fun m hm => ?_⟩
      obtain ⟨n, rfl⟩ := honto m hm
      exact hmono (hleast.2 ((hsame n).1 hm))
  | absent hnone =>
      refine .absent fun m hm => ?_
      obtain ⟨n, rfl⟩ := honto m hm
      exact hnone n ((hsame n).1 hm)

theorem succ (h : FirstOf Q result) (hzero : ¬ P 0) (hsame : ∀ n, P (n + 1) ↔ Q n) :
    FirstOf P (result.map (· + 1)) := by
  refine h.map (fun _ _ => Nat.succ_le_succ) (fun m hm => ?_) hsame
  cases m with
  | zero => exact absurd hm hzero
  | succ n => exact ⟨n, rfl⟩

end FirstOf

/-! ## Braces ahead -/

namespace Brace

/-- A closing brace some characters ahead. The braces that are closed before it are those that are
opened there and `depth` more. -/
structure Matches (depth : Nat) (escaped : Bool) (cs : List Char) (n : Nat) : Prop where
  brace : cs[n]? = some '\x7d'
  counts : closings (cs.take n) = depth + openings escaped (cs.take n)

variable {depth : Nat} {escaped : Bool} {c : Char} {cs : List Char} {n : Nat}

theorem not_matches_nil : ¬ Matches depth escaped [] n := fun h => nomatch h.brace

theorem matches_zero_iff :
    Matches depth escaped (c :: cs) 0 ↔ ofChar escaped c = .closing ∧ depth = 0 := by
  rw [ofChar_eq_closing_iff]
  constructor
  · rintro ⟨hbrace, hcounts⟩
    exact ⟨by simpa using hbrace, by simpa [closings, openings] using hcounts.symm⟩
  · rintro ⟨rfl, rfl⟩
    exact ⟨rfl, rfl⟩

/-- What a character adds to the counts is taken into the depth. -/
theorem matches_succ_iff {next : Nat}
    (h : closings (c :: cs.take n) = depth + openings escaped (c :: cs.take n) ↔
      closings (cs.take n) = next + openings (c == '\\') (cs.take n)) :
    Matches depth escaped (c :: cs) (n + 1) ↔ Matches next (c == '\\') cs n := by
  constructor
  · rintro ⟨hbrace, hcounts⟩
    exact ⟨by simpa using hbrace, h.1 hcounts⟩
  · rintro ⟨hbrace, hcounts⟩
    exact ⟨by simpa using hbrace, h.2 hcounts⟩

theorem matches_succ_of_opening (h : ofChar escaped c = .opening) :
    Matches depth escaped (c :: cs) (n + 1) ↔ Matches (depth + 1) (c == '\\') cs n := by
  obtain ⟨hopenings, hclosings⟩ := counts_of_opening h (cs.take n)
  apply matches_succ_iff
  rw [hopenings, hclosings]
  omega

theorem matches_succ_of_closing (h : ofChar escaped c = .closing) :
    Matches (depth + 1) escaped (c :: cs) (n + 1) ↔ Matches depth (c == '\\') cs n := by
  obtain ⟨hopenings, hclosings⟩ := counts_of_closing h (cs.take n)
  apply matches_succ_iff
  rw [hopenings, hclosings]
  omega

theorem matches_succ_of_neither (h : ofChar escaped c = .neither) :
    Matches depth escaped (c :: cs) (n + 1) ↔ Matches depth (c == '\\') cs n := by
  obtain ⟨hopenings, hclosings⟩ := counts_of_neither h (cs.take n)
  apply matches_succ_iff
  rw [hopenings, hclosings]

theorem firstOf_close? (depth : Nat) (escaped : Bool) (cs : List Char) :
    FirstOf (Matches depth escaped cs) (close? depth escaped cs) := by
  fun_induction close? depth escaped cs with
  | case1 => exact .absent fun _ => not_matches_nil
  | case2 escaped c cs depth hc ih =>
      exact ih.succ (by simp [matches_zero_iff, hc]) fun _ => matches_succ_of_opening hc
  | case3 escaped c cs hc => exact .found ⟨matches_zero_iff.2 ⟨hc, rfl⟩, fun m _ => Nat.zero_le m⟩
  | case4 escaped c cs depth hc ih =>
      exact ih.succ (by simp [matches_zero_iff]) fun _ => matches_succ_of_closing hc
  | case5 escaped c cs depth hc ih =>
      exact ih.succ (by simp [matches_zero_iff, hc]) fun _ => matches_succ_of_neither hc

end Brace

/-! ## Braces of a text, by their offsets -/

/-- A brace is opened at an offset: it is written there, and no backslash before it. -/
def OpensAt (text : List Char) (offset : Nat) : Prop :=
  text[offset]? = some '\x7b' ∧ ¬ (0 < offset ∧ text[offset - 1]? = some '\\')

instance (text : List Char) : DecidablePred (OpensAt text) := fun offset =>
  inferInstanceAs
    (Decidable (text[offset]? = some '\x7b' ∧ ¬ (0 < offset ∧ text[offset - 1]? = some '\\')))

/-- How many braces are opened from one offset up to, but not including, another. -/
def openedBetween (text : List Char) (start stop : Nat) : Nat :=
  (List.range' start (stop - start)).countP (OpensAt text ·)

/-- A closing brace before which, from an offset on, as many braces are opened as closed. -/
structure ClosesFrom (text : List Char) (start offset : Nat) : Prop where
  start_le : start ≤ offset
  brace : text[offset]? = some '\x7d'
  counts : openedBetween text start offset = (text.extract start offset).count '\x7d'

variable {text : List Char} {start offset : Nat}

theorem opensAt_iff :
    OpensAt text offset ↔ text[offset]? = some '\x7b' ∧ escapedAt text offset = false := by
  cases offset <;> simp [OpensAt, escapedAt]

-- The induction is on the number of characters. The first of them is the one that stands before the
-- next.
theorem openings_eq_openedBetween {n : Nat} (h : start + n ≤ text.length) :
    Brace.openings (escapedAt text start) ((text.drop start).take n) =
      openedBetween text start (start + n) := by
  induction n generalizing start with
  | zero => simp [Brace.openings, openedBetween]
  | succ n ih =>
      have hlt : start < text.length := by omega
      have hnext : escapedAt text (start + 1) = (text[start] == '\\') := by simp [escapedAt, hlt]
      have hlater : Brace.openings (escapedAt text (start + 1)) ((text.drop (start + 1)).take n) =
          openedBetween text (start + 1) (start + 1 + n) := ih (by omega)
      have hopens : OpensAt text start ↔ text[start] = '\x7b' ∧ escapedAt text start = false := by
        simp [opensAt_iff, hlt]
      rw [openedBetween, Nat.add_sub_cancel_left] at hlater ⊢
      rw [List.drop_eq_getElem_cons hlt, List.take_succ_cons, Brace.openings, ← hnext, hlater,
        List.range'_succ, List.countP_cons, Nat.add_comm]
      simp only [decide_eq_true_eq, hopens]

theorem closesFrom_add_iff {n : Nat} :
    ClosesFrom text start (start + n) ↔
      Brace.Matches 0 (escapedAt text start) (text.drop start) n := by
  have hbrace : (text.drop start)[n]? = text[start + n]? := List.getElem?_drop
  have hextract : text.extract start (start + n) = (text.drop start).take n := by
    rw [List.extract_eq_take_drop, Nat.add_sub_cancel_left]
  constructor
  · rintro ⟨-, hclosing, hcounts⟩
    have hle : start + n ≤ text.length := Nat.le_of_lt (List.getElem?_eq_some_iff.1 hclosing).1
    refine ⟨hbrace.trans hclosing, ?_⟩
    rw [openings_eq_openedBetween hle, hcounts, hextract, Brace.closings, Nat.zero_add]
  · rintro ⟨hclosing, hcounts⟩
    rw [hbrace] at hclosing
    have hle : start + n ≤ text.length := Nat.le_of_lt (List.getElem?_eq_some_iff.1 hclosing).1
    refine ⟨Nat.le_add_right start n, hclosing, ?_⟩
    rw [← openings_eq_openedBetween hle, hextract, ← Brace.closings, hcounts, Nat.zero_add]

/-! ## The main statement -/

theorem firstOf_closingBrace? (text : List Char) (start : Nat) :
    FirstOf (ClosesFrom text start) (closingBrace? text start) := by
  refine (Brace.firstOf_close? 0 _ _).map (fun _ _ hle => Nat.add_le_add_left hle start)
    (fun offset h => ?_)
    fun _ => closesFrom_add_iff
  obtain ⟨n, hn⟩ := Nat.exists_eq_add_of_le h.start_le
  exact ⟨n, hn.symm⟩

/-- The brace that is found for a body is the first closing brace before which its braces are
balanced; none is found exactly where there is no such brace. -/
theorem closingBraceFrom_least (text : List Char) (start : Nat) :
    (∀ offset : Nat, closingBraceFrom text start = .ok (some offset) ↔
      IsLeast {o | ClosesFrom text start o} offset) ∧
    (closingBraceFrom text start = .ok none ↔ ∀ offset, ¬ ClosesFrom text start offset) := by
  have hfirst := firstOf_closingBrace? text start
  have hfrom : closingBraceFrom text start = .ok ((closingBrace? text start).map Int.ofNat) := by
    rw [closingBraceFrom, if_pos (Int.natCast_nonneg start), Int.toNat_natCast]
  rw [hfrom]
  constructor
  · intro offset
    rw [← hfirst.eq_some_iff, Except.ok.injEq, Option.map_eq_some_iff]
    constructor
    · rintro ⟨found, hfound, hcast⟩
      rw [hfound, Int.ofNat.inj hcast]
    · exact fun hfound => ⟨offset, hfound, rfl⟩
  · rw [← hfirst.eq_none_iff]
    simp

/-- The backslash before a body counts for the brace that the body begins with. -/
example : closingBraceFrom "\\\x7b\x7d\x7d".toList 1 = .ok (some 2) := by decide +kernel

end DocMarkup
