/-!
References to variables inside a value. `${name}` stands for the value of a variable, and
`${name:-text}` for the text where there is no such variable. What is not written like this stays as
it is.
-/

namespace DocMarkup

structure Reference where
  name : List Char
  /-- What stands for a variable that does not exist. -/
  fallback : List Char := []
  deriving DecidableEq

namespace Reference

def isNameChar (c : Char) : Bool := c != '\x7d' && c != ':'

/-- The reference at the beginning of a text that follows `${`, and the text after it. -/
def read? (cs : List Char) : Option (Reference × List Char) :=
  let name := cs.takeWhile isNameChar
  match cs.dropWhile isNameChar with
  | '\x7d' :: rest => some (⟨name, []⟩, rest)
  | ':' :: '-' :: more =>
    match more.dropWhile (· != '\x7d') with
    | _ :: rest => some (⟨name, more.takeWhile (· != '\x7d')⟩, rest)
    | [] => none
  | _ => none

theorem length_lt_of_read? {cs rest : List Char} {r : Reference} (h : read? cs = some (r, rest)) :
    rest.length < cs.length := by
  have hcs := (List.dropWhile_sublist isNameChar (l := cs)).length_le
  unfold read? at h
  split at h
  · rename_i hd
    cases h
    rw [hd] at hcs
    exact hcs
  · rename_i more hd
    have hmore := (List.dropWhile_sublist (· != '\x7d') (l := more)).length_le
    split at h
    · rename_i hm
      cases h
      rw [hd] at hcs
      rw [hm] at hmore
      simp only [List.length_cons] at hcs hmore
      omega
    · cases h
  · cases h

/-- A text with every reference replaced by its value. -/
def replaceAll (value : Reference → List Char) : List Char → List Char
  | '$' :: '\x7b' :: cs =>
    match h : read? cs with
    | some (r, rest) =>
      have := length_lt_of_read? h
      value r ++ replaceAll value rest
    | none => '$' :: replaceAll value ('\x7b' :: cs)
  | c :: cs => c :: replaceAll value cs
  | [] => []
termination_by cs => cs.length
decreasing_by all_goals simp only [List.length_cons]; omega

end Reference

end DocMarkup
