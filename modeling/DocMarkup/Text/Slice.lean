/-!
Parts of lists and texts. A slice lies between signed bounds: a negative bound counts from the end,
and every bound is kept within the list, so that a slice always exists. A text is split at every
occurrence of a character.
-/

namespace DocMarkup.Text

variable {α : Type}

/-- The position that a signed bound stands for in a list of `len` items. -/
def position (len : Nat) (bound : Int) : Nat :=
  if bound < 0 then (len + bound).toNat else min bound.toNat len

/-- The items from one signed bound up to, but not including, another. -/
def slice (start stop : Int) (l : List α) : List α :=
  (l.take (position l.length stop)).drop (position l.length start)

/-- The items from a signed bound on. -/
def sliceFrom (start : Int) (l : List α) : List α :=
  l.drop (position l.length start)

/-- The items before a signed bound. -/
def sliceTo (stop : Int) (l : List α) : List α :=
  l.take (position l.length stop)

/-- The item at a signed index; a negative index counts from the end. -/
def item? (l : List α) (index : Int) : Option α :=
  if 0 ≤ index then l[index.toNat]?
  else if -(l.length : Int) ≤ index then l[(l.length + index).toNat]?
  else none

/-- An index without an item, in a text or in a sequence. -/
inductive IndexError where
  | text
  | sequence
  deriving DecidableEq

def IndexError.message : IndexError → String
  | .text => "string index out of range"
  | .sequence => "tuple index out of range"

/-! ## Splitting -/

/-- The parts of a text between the occurrences of a character. -/
def splitAt (separator : Char) : List Char → List (List Char)
  | [] => [[]]
  | c :: cs =>
    if c == separator then [] :: splitAt separator cs
    else match splitAt separator cs with
      | [] => [[c]]
      | p :: ps => (c :: p) :: ps

end DocMarkup.Text
