import DocMarkup.Text.Classes

/-!
The first sentence of a text: up to and including the first period that is followed by a blank or by
the end of the text. A line end at the very end of a text counts as its end as well as for a blank.
-/

namespace DocMarkup.Sentence

/-- Whether a blank comes next. -/
def blankNext (rest : List Char) : Bool := rest.head?.any Text.isBlank

/-- Whether the text ends here, or with the line end that comes next. -/
def endNext (rest : List Char) : Bool := rest == [] || rest == ['\n']

/-- Whether a sentence may end before this rest of the text. -/
def endsBefore (rest : List Char) : Bool := blankNext rest || endNext rest

/-- The first sentence, if the text holds a complete one. -/
def first? : List Char → Option (List Char)
  | [] => none
  | c :: cs =>
    if c == '.' && endsBefore cs then some [c]
    else (first? cs).map (c :: ·)

end DocMarkup.Sentence

namespace DocMarkup

/-- The first sentence of a text, or all of it where no sentence ends. -/
def firstSentence (text : String) : String :=
  match Sentence.first? text.toList with
  | some sentence => String.ofList sentence
  | none => text

end DocMarkup
