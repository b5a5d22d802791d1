import DocMarkup.Comment.Sentence

/-!
First sentences. A sentence at the beginning of a text ends in a period before a blank or before the
end of the text (`Sentence.Opens`). Main statement: the first sentence is the shortest of these; it
is its own first sentence, and nothing that comes after it matters (`firstSentence_shortest`).
-/

namespace DocMarkup

namespace Sentence

/-- A complete sentence at the beginning of a text. -/
structure Opens (sentence text : List Char) : Prop where
  ends : ∃ body, sentence = body ++ ['.']
  follows : ∃ rest, text = sentence ++ rest ∧ ∀ c ∈ rest.head?, Text.isBlank c

/-- The shortest complete sentence at the beginning of a text. -/
def IsFirst (sentence text : List Char) : Prop :=
  Opens sentence text ∧ ∀ other, Opens other text → sentence.length ≤ other.length

variable {sentence text more : List Char}

/-- Whether the text ends here or a blank comes next. -/
def atBreak : List Char → Bool
  | [] => true
  | c :: _ => Text.isBlank c

/-- The line end before which a text may end is a blank, so that it need not be looked for. -/
theorem endsBefore_eq_atBreak (rest : List Char) : endsBefore rest = atBreak rest := by
  cases rest with
  | nil => rfl
  | cons c rest =>
      have hnext : blankNext (c :: rest) = Text.isBlank c := rfl
      have hlineEnd : endNext (c :: rest) = true → Text.isBlank c = true := by
        intro hend
        obtain ⟨rfl, _⟩ : c = '\n' ∧ rest = [] := by simpa [endNext] using hend
        decide
      rw [endsBefore, atBreak, hnext, Bool.or_eq_left_iff_imp]
      exact hlineEnd

theorem atBreak_iff {rest : List Char} : atBreak rest ↔ ∀ c ∈ rest.head?, Text.isBlank c := by
  cases rest <;> simp [atBreak]

/-! ## Sentences at the beginning of a text -/

theorem not_opens_nil (sentence : List Char) : ¬ Opens sentence [] := by
  rintro ⟨⟨body, rfl⟩, rest, hrest, _⟩
  simp at hrest

theorem Opens.ne_nil (h : Opens sentence text) : sentence ≠ [] := by
  obtain ⟨⟨body, rfl⟩, _⟩ := h
  simp

/-- A sentence is its period alone, or it goes on in the rest of the text. -/
theorem opens_cons_iff {c : Char} :
    Opens sentence (c :: text) ↔
      (sentence = [c] ∧ c = '.' ∧ atBreak text) ∨
      ∃ later, sentence = c :: later ∧ Opens later text := by
  constructor
  · rintro ⟨⟨body, rfl⟩, rest, hrest, hblank⟩
    cases body with
    | nil =>
        obtain ⟨rfl, rfl⟩ := List.cons.inj hrest
        exact .inl ⟨rfl, rfl, atBreak_iff.2 hblank⟩
    | cons d body =>
        obtain ⟨rfl, htext⟩ := List.cons.inj hrest
        exact .inr ⟨body ++ ['.'], rfl, ⟨body, rfl⟩, rest, htext, hblank⟩
  · rintro (⟨rfl, rfl, hbreak⟩ | ⟨_, rfl, ⟨body, rfl⟩, rest, rfl, hblank⟩)
    · exact ⟨⟨[], rfl⟩, text, rfl, atBreak_iff.1 hbreak⟩
    · exact ⟨⟨c :: body, rfl⟩, rest, rfl, hblank⟩

/-- What follows a sentence may be longer, as long as something follows it already. -/
theorem Opens.append (h : Opens sentence text) (hne : sentence ≠ text) (more : List Char) :
    Opens sentence (text ++ more) := by
  obtain ⟨hends, rest, rfl, hblank⟩ := h
  cases rest with
  | nil => simp at hne
  | cons c rest => exact ⟨hends, c :: (rest ++ more), by simp, hblank⟩

/-- A text may be cut anywhere after a sentence. -/
theorem Opens.of_append (h : Opens sentence (text ++ more)) (hle : sentence.length ≤ text.length) :
    Opens sentence text := by
  obtain ⟨hends, rest, hrest, hblank⟩ := h
  obtain ⟨rest', rfl⟩ : sentence <+: text :=
    List.prefix_of_prefix_length_le ⟨rest, hrest.symm⟩ (List.prefix_append text more) hle
  refine ⟨hends, rest', rfl, ?_⟩
  cases rest' with
  | nil => simp
  | cons c rest' =>
      obtain rfl : c :: (rest' ++ more) = rest := by simpa using hrest
      exact hblank

theorem Opens.length_le (h : Opens sentence text) : sentence.length ≤ text.length := by
  obtain ⟨_, rest, rfl, _⟩ := h
  simp

/-! ## The first sentence -/

theorem isFirst_of_first? (h : first? text = some sentence) : IsFirst sentence text := by
  induction text generalizing sentence with
  | nil => cases h
  | cons c text ih =>
      rw [first?, endsBefore_eq_atBreak] at h
      split at h
      · rename_i hend
        cases h
        refine ⟨opens_cons_iff.2 (.inl ⟨rfl, by simpa using hend⟩), fun other hother => ?_⟩
        exact List.length_pos_iff.2 hother.ne_nil
      · rename_i hend
        obtain ⟨later, hfirst, rfl⟩ := Option.map_eq_some_iff.1 h
        obtain ⟨hopens, hleast⟩ := ih hfirst
        refine ⟨opens_cons_iff.2 (.inr ⟨later, rfl, hopens⟩), fun other hother => ?_⟩
        rcases opens_cons_iff.1 hother with ⟨_, hperiod⟩ | ⟨rest, rfl, hrest⟩
        · exact absurd (by simpa using hperiod) hend
        · exact Nat.succ_le_succ (hleast rest hrest)

theorem not_opens_of_first? (h : first? text = none) (sentence : List Char) :
    ¬ Opens sentence text := by
  induction text generalizing sentence with
  | nil => exact not_opens_nil sentence
  | cons c text ih =>
      rw [first?, endsBefore_eq_atBreak] at h
      split at h
      · cases h
      · rename_i hend
        rw [Option.map_eq_none_iff] at h
        rw [opens_cons_iff]
        rintro (⟨_, hperiod⟩ | ⟨later, rfl, hlater⟩)
        · exact hend (by simpa using hperiod)
        · exact ih h later hlater

theorem IsFirst.unique {other : List Char} (h : IsFirst sentence text) (h' : IsFirst other text) :
    sentence = other := by
  obtain ⟨_, rest, hrest, _⟩ := h.1
  obtain ⟨_, rest', hrest', _⟩ := h'.1
  have hlength : sentence.length = other.length :=
    Nat.le_antisymm (h.2 other h'.1) (h'.2 sentence h.1)
  exact (List.append_inj (hrest.symm.trans hrest') hlength).1

theorem first?_eq_some_iff : first? text = some sentence ↔ IsFirst sentence text := by
  refine ⟨isFirst_of_first?, fun h => ?_⟩
  cases hfirst : first? text with
  | none => exact absurd h.1 (not_opens_of_first? hfirst sentence)
  | some other => rw [(isFirst_of_first? hfirst).unique h]

/-- A first sentence is followed by the end of a text as well as by a blank. -/
theorem IsFirst.self (h : IsFirst sentence text) : IsFirst sentence sentence := by
  obtain ⟨hopens, hleast⟩ := h
  obtain ⟨_, rest, rfl, _⟩ := id hopens
  refine ⟨hopens.of_append (Nat.le_refl _), fun other hother => ?_⟩
  by_cases hne : other = sentence
  · exact Nat.le_of_eq (by rw [hne])
  · exact hleast other (hother.append hne rest)

theorem IsFirst.append (h : IsFirst sentence text) (hne : sentence ≠ text) (more : List Char) :
    IsFirst sentence (text ++ more) := by
  refine ⟨h.1.append hne more, fun other hother => ?_⟩
  by_cases hle : other.length ≤ text.length
  · exact h.2 other (hother.of_append hle)
  · exact Nat.le_trans h.1.length_le (Nat.le_of_not_le hle)

end Sentence

open Sentence

theorem firstSentence_of_isFirst {text sentence : String}
    (h : IsFirst sentence.toList text.toList) :
    firstSentence text = sentence := by
  simp only [firstSentence, first?_eq_some_iff.2 h, String.ofList_toList]

theorem firstSentence_eq_self {text : String} (h : ∀ sentence, ¬ Opens sentence text.toList) :
    firstSentence text = text := by
  unfold firstSentence
  split
  · rename_i sentence hfirst
    exact absurd (isFirst_of_first? hfirst).1 (h sentence)
  · rfl

theorem isFirst_or_not_opens (text : String) :
    IsFirst (firstSentence text).toList text.toList ∨
      (∀ sentence, ¬ Opens sentence text.toList) ∧ firstSentence text = text := by
  cases hfirst : first? text.toList with
  | none =>
      exact .inr ⟨not_opens_of_first? hfirst, firstSentence_eq_self (not_opens_of_first? hfirst)⟩
  | some sentence =>
      rw [firstSentence, hfirst, String.toList_ofList]
      exact .inl (isFirst_of_first? hfirst)

/-- The first sentence is the shortest complete sentence that a text begins with, and all of a text
that begins with none. It is its own first sentence, and a text that goes on after it may go on with
anything. -/
theorem firstSentence_shortest (text : String) :
    ((∃ sentence, Opens sentence text.toList) → Opens (firstSentence text).toList text.toList ∧
      ∀ sentence, Opens sentence text.toList →
        (firstSentence text).toList.length ≤ sentence.length) ∧
    ((∀ sentence, ¬ Opens sentence text.toList) → firstSentence text = text) ∧
    firstSentence (firstSentence text) = firstSentence text ∧
    (firstSentence text ≠ text → ∀ more, firstSentence (text ++ more) = firstSentence text) := by
  rcases isFirst_or_not_opens text with hfirst | ⟨hnone, hself⟩
  · refine ⟨fun _ => hfirst, firstSentence_eq_self, firstSentence_of_isFirst hfirst.self,
      fun hne more => ?_⟩
    have hne' : (firstSentence text).toList ≠ text.toList :=
      fun h => hne (String.toList_injective h)
    apply firstSentence_of_isFirst
    rw [String.toList_append]
    exact hfirst.append hne' more.toList
  · refine ⟨fun ⟨sentence, hopens⟩ => absurd hopens (hnone sentence),
      fun _ => hself, by rw [hself, hself], fun hne => ?_⟩
    exact absurd hself hne

/-- A period inside a word ends no sentence; the one before the line end does. -/
theorem firstSentence_shortest_abbreviation :
    Opens "See a.b.".toList "See a.b.\nOr c.".toList ∧
    Opens (firstSentence "See a.b.\nOr c.").toList "See a.b.\nOr c.".toList ∧
    (firstSentence "See a.b.\nOr c.").toList.length ≤ "See a.b.".toList.length ∧
    firstSentence "See a.b.\nOr c." ≠ "See a.b.\nOr c." ∧
    firstSentence ("See a.b.\nOr c." ++ " D.") = "See a.b." ∧
    (∀ sentence, ¬ Opens sentence "a.b".toList) ∧ firstSentence "a.b" = "a.b" := by
  have hopens : Opens "See a.b.".toList "See a.b.\nOr c.".toList :=
    ⟨⟨"See a.b".toList, by decide⟩, "\nOr c.".toList, by decide,
      by simp [show Text.isBlank '\n' from by decide]⟩
  have hne : firstSentence "See a.b.\nOr c." ≠ "See a.b.\nOr c." := by decide +kernel
  have hnone : ∀ sentence, ¬ Opens sentence "a.b".toList := not_opens_of_first? (by decide +kernel)
  obtain ⟨hleast, _, _, hmore⟩ := firstSentence_shortest "See a.b.\nOr c."
  obtain ⟨hfirst, hshort⟩ := hleast ⟨_, hopens⟩
  refine ⟨hopens, hfirst, hshort _ hopens, hne, ?_, hnone, (firstSentence_shortest "a.b").2.1 hnone⟩
  rw [hmore hne]
  decide +kernel

end DocMarkup
