import DocMarkup.Text.Classes
import DocMarkup.Text.Slice

/-!
Cutting the description of an annotation out of a raw comment block: the region that it takes,
without the stars that begin its lines and without the end of the block. A block knows its
annotations with their regions.
-/

namespace DocMarkup

/-- A region of a comment block. Lines count from one and include the last; columns count from zero.
The first column is the one before the described text, and the last column is not part of it. -/
structure Region where
  startLine : Int
  startColumn : Int
  endLine : Int
  endColumn : Int
  deriving DecidableEq

namespace Block

/-- The lines of a text. -/
def lines (text : List Char) : List (List Char) := Text.splitAt '\n' text

/-- A line without its leading blanks and the star after them; a line that begins otherwise stays as
it is. -/
def trimStar (line : List Char) : List Char :=
  match line.dropWhile Text.isBlank with
  | '*' :: rest => rest
  | _ => line

/-- A line up to the end of the comment block. -/
def beforeEnd : List Char → List Char
  | [] => []
  | '*' :: '/' :: _ => []
  | c :: cs => c :: beforeEnd cs

/-- Cut the last line of a region at its end column. -/
def cutLast (column : Int) : List (List Char) → List (List Char)
  | [] => []
  | [l] => [Text.sliceTo column l]
  | l :: ls => l :: cutLast column ls

/-- The described text in each line: the first line begins after the start column, the others after
their star. -/
def described (column : Int) : List (List Char) → List (List Char)
  | [] => []
  | l :: ls => (Text.sliceFrom (column + 1) l :: ls.map trimStar).map beforeEnd

/-- The raw lines of a region. -/
def selected (comment : List Char) (region : Region) : List (List Char) :=
  Text.slice (region.startLine - 1) region.endLine (lines comment)

/-- The lines of the text that a region describes. -/
def extractLines (comment : List Char) (region : Region) : List (List Char) :=
  described region.startColumn (cutLast region.endColumn (selected comment region))

/-- The text that a region of a comment describes. -/
def extract (comment : String) (region : Region) : String :=
  String.ofList (['\n'].intercalate (extractLines comment.toList region))

end Block

/-- A line of a comment without its leading star. -/
def trimCommentLine (line : String) : String :=
  String.ofList (Block.trimStar line.toList)

/-! ## Annotations -/

/-- An annotation of a block and the region of its description. -/
structure Marker where
  label : String
  description : Option Region
  deriving DecidableEq

/-- A documentation block: the raw comment and its annotations in order. -/
structure DocBlock where
  comment : String
  markers : List Marker

/-- The description of the first marker with an annotation; empty where there is none. -/
def DocBlock.description (block : DocBlock) (label : String) : String :=
  match block.markers.find? (·.label == label) with
  | some { description := some region, .. } => Block.extract block.comment region
  | _ => ""

end DocMarkup
