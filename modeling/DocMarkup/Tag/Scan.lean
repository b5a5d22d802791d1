import DocMarkup.Tag.Split
import DocMarkup.Log.Record

/-!
Scanning: a text as the sequence of its tags and of the plain runs between them. The body of a link
tag is a target and the text to show for it, separated by one blank.
-/

namespace DocMarkup

/-- A tag found in a text, with the offsets of its two braces. -/
structure InlineTag where
  name : String
  body : String
  start : Nat
  stop : Nat
  deriving DecidableEq

inductive Segment where
  | plain (text : String)
  | tag (tag : InlineTag)
  deriving DecidableEq

/-- The tag, for a text that begins at an offset. -/
def TagSplit.tag (s : TagSplit) (offset : Nat) : InlineTag where
  name := String.ofList s.name
  body := String.ofList s.body
  start := offset + s.before.length
  stop := offset + s.before.length + s.written.length - 1

/-- The segments of a text, and the name and offset of the tag marker that was never closed, if the
scan ended at one. -/
structure Scan where
  segments : List Segment
  unterminated : Option (String × Nat) := none

namespace Scan

/-- A run of plain text as segments: one, or none for the empty run. -/
def run (cs : List Char) : List Segment :=
  if cs.isEmpty then [] else [.plain (String.ofList cs)]

/-- Scan a text that begins at an offset. -/
def ofChars (offset : Nat) (text : List Char) : Scan :=
  match h : Reading.ofText text with
  | .plain => ⟨run text, none⟩
  | .unterminated name place => ⟨run text, some (String.ofList name, offset + place)⟩
  | .tag s =>
    have := TagSplit.after_length_lt h
    let rest := ofChars (offset + s.length) s.after
    ⟨run s.before ++ .tag (s.tag offset) :: rest.segments, rest.unterminated⟩
termination_by text.length

/-- Scan a text. -/
def ofText (text : String) : Scan := ofChars 0 text.toList

/-- What a scan reports: the tag that was never closed. -/
def records (s : Scan) : List LogRecord :=
  match s.unterminated with
  | some (name, offset) =>
    [.debug .scanner
      ("Unterminated inline tag \x7b@" ++ name ++ "\x7d at offset " ++ toString offset)]
  | none => []

end Scan

/-! ## Link bodies -/

structure LinkBody where
  target : String
  caption : String
  deriving DecidableEq

/-- Split a body at its first blank. A body without a caption shows its target. -/
def LinkBody.ofText (body : String) : LinkBody :=
  let target := body.toList.takeWhile fun c => !Text.isBlank c
  let caption := (body.toList.dropWhile fun c => !Text.isBlank c).drop 1
  ⟨String.ofList target, String.ofList (if caption.isEmpty then target else caption)⟩

end DocMarkup
