import DocMarkup.Config.Reference
import DocMarkup.Log.Record
import DocMarkup.Text.Classes

/-!
Files of variables: one assignment a line, with an optional `export` before it and an optional
comment after it. A value stands as it is, between single quotes, or between double quotes with
escapes, and may refer to variables that are set before it or outside the file. A line that is no
assignment is left out and reported.
-/

namespace DocMarkup.EnvFile

/-- A blank that does not end the line. -/
def isSpace (c : Char) : Bool := Text.isBlank c && c != '\n'

def skipSpaces (cs : List Char) : List Char := cs.dropWhile isSpace

/-- Every kind of line end as a line feed. -/
def normalize : List Char → List Char
  | '\r' :: '\n' :: cs => '\n' :: normalize cs
  | '\r' :: cs => '\n' :: normalize cs
  | c :: cs => c :: normalize cs
  | [] => []

/-- The text after the end of the current line. -/
def nextLine (cs : List Char) : List Char := (cs.dropWhile (· != '\n')).drop 1

/-! ## Quotes -/

/-- How far the quote is that ends a quoted text. A character after a backslash does not end it. -/
def closingQuote? (quote : Char) : List Char → Option Nat
  | [] => none
  | '\\' :: _ :: cs => (closingQuote? quote cs).map (· + 2)
  | c :: cs => if c == quote then some 0 else (closingQuote? quote cs).map (· + 1)

/-- A character that a backslash and this letter stand for. -/
def escape? (quote : Char) (c : Char) : Option Char :=
  if c == '\\' || c == '\'' then some c
  else if quote == '\'' then none
  else match c with
    | '"' => some '"'
    | 'a' => some '\x07'
    | 'b' => some '\x08'
    | 'f' => some '\x0c'
    | 'n' => some '\n'
    | 'r' => some '\r'
    | 't' => some '\t'
    | 'v' => some '\x0b'
    | _ => none

/-- The text that stands between quotes, with its escapes replaced. -/
def unescape (quote : Char) : List Char → List Char
  | '\\' :: c :: cs =>
    match escape? quote c with
    | some d => d :: unescape quote cs
    | none => '\\' :: unescape quote (c :: cs)
  | c :: cs => c :: unescape quote cs
  | [] => []

/-! ## Values -/

/-- A text up to the first blank with a comment after it. -/
def beforeComment : List Char → List Char
  | [] => []
  | c :: cs =>
    if Text.isBlank c && (cs.dropWhile Text.isBlank).head? == some '#' then []
    else c :: beforeComment cs

/-- A text without the blanks at its end. -/
def trimEnd (cs : List Char) : List Char := (cs.reverse.dropWhile Text.isBlank).reverse

/-- The value of a line without quotes: the text before a comment, without the blanks around it. -/
def bareValue (line : List Char) : List Char := trimEnd (skipSpaces (beforeComment line))

/-- A value and the text after it, or the text that is no value. -/
def value (cs : List Char) : Except (List Char) (List Char × List Char) :=
  let bare := (bareValue (cs.takeWhile (· != '\n')), cs.dropWhile (· != '\n'))
  match skipSpaces cs with
  | [] => .ok bare
  | c :: rest =>
    if c == '\'' || c == '"' then
      match closingQuote? c rest with
      | some n => .ok (unescape c (rest.take n), rest.drop (n + 1))
      | none => .error rest
    else .ok bare

/-! ## Assignments -/

/-- The text after a word that introduces an assignment. -/
def skipExport : List Char → List Char
  | 'e' :: 'x' :: 'p' :: 'o' :: 'r' :: 't' :: c :: cs =>
    if isSpace c then skipSpaces cs else 'e' :: 'x' :: 'p' :: 'o' :: 'r' :: 't' :: c :: cs
  | cs => cs

def isKeyChar (c : Char) : Bool := c != '=' && c != '#' && !Text.isBlank c

/-- A key and the text after it, or the text that is no key. -/
def key (cs : List Char) : Except (List Char) (List Char × List Char) :=
  match cs with
  | '\'' :: rest =>
    match rest.takeWhile (· != '\''), rest.dropWhile (· != '\'') with
    | c :: name, _ :: after => .ok (c :: name, after)
    | _, _ => .error cs
  | _ =>
    match cs.takeWhile isKeyChar with
    | [] => .error cs
    | name => .ok (name, cs.dropWhile isKeyChar)

/-- The value that follows a key, if one is given, and the text after it. -/
def assigned (cs : List Char) : Except (List Char) (Option (List Char) × List Char) :=
  match skipSpaces cs with
  | '=' :: rest => (value rest).map fun (v, after) => (some v, after)
  | after => .ok (none, after)

/-- The text after the end of the line; only a comment may stand before it. -/
def endOfLine (cs : List Char) : Except (List Char) (List Char) :=
  match skipSpaces cs with
  | [] => .ok []
  | '\n' :: rest => .ok rest
  | '#' :: rest => .ok (nextLine rest)
  | rest => .error rest

/-- An assignment at the beginning of a text and the text after it, or the text where reading
failed. -/
def assignment (cs : List Char) :
    Except (List Char) ((String × Option (List Char)) × List Char) := do
  let (name, afterKey) ← key cs
  let (v, afterValue) ← assigned afterKey
  let after ← endOfLine afterValue
  pure ((String.ofList name, v), after)

/-! ## Lines -/

/-- What a line holds. -/
inductive Line where
  | comment
  /-- A variable and the value that it is given, if any. -/
  | assignment (name : String) (value : Option (List Char))
  | unreadable

/-- The line at the beginning of a text and the text after it. -/
def Line.read (cs : List Char) : Line × List Char :=
  match skipExport cs with
  | '#' :: rest => (.comment, nextLine rest)
  | text => match EnvFile.assignment text with
    | .ok ((name, v), rest) => (.assignment name v, rest)
    | .error rest => (.unreadable, nextLine rest)

/-- The first lines of a text, each with the text from the end of the line before it on. -/
def firstLines : (count : Nat) → List Char → List (Line × List Char)
  | 0, _ => []
  | count + 1, cs =>
    match cs.dropWhile Text.isBlank with
    | [] => []
    | text =>
      let (line, rest) := Line.read text
      (line, cs) :: firstLines count rest

/-- The lines of a text. A line takes at least one character, so there are no more lines than
characters. -/
def lines (cs : List Char) : List (Line × List Char) := firstLines cs.length cs

/-- The text of a file: a byte order mark in front is no part of it. -/
def contents (text : String) : List Char :=
  match normalize text.toList with
  | '\ufeff' :: cs => cs
  | cs => cs

/-- The unreadable lines of a file, each with the number of the line after the last one that was
read. -/
def remarks (text : String) : List LogRecord :=
  let cs := contents text
  (lines cs).filterMap fun
    | (.unreadable, rest) => some (.warning .envFile
        ("python-dotenv could not parse statement starting at line " ++
          toString (cs.count '\n' - rest.count '\n' + 1)))
    | _ => none

/-! ## Variables -/

/-- Variables, the last one that was set first; one that was named without a value has none. -/
abbrev Bindings := List (String × Option String)

/-- What stands for a reference: the value in the file, then the one outside, then the fallback. A
variable without a value stands for nothing. -/
def Bindings.reference (known : Bindings) (outside : String → Option String) (r : Reference) :
    List Char :=
  match known.lookup (String.ofList r.name) with
  | some v => (v.getD "").toList
  | none => ((outside (String.ofList r.name)).map String.toList).getD r.fallback

/-- The variables that are set after a line. -/
def Bindings.add (outside : String → Option String) (known : Bindings) : Line → Bindings
  | .assignment name v =>
    (name, v.map fun cs => String.ofList (Reference.replaceAll (known.reference outside) cs)) ::
      known
  | _ => known

/-- The variables that a file sets. -/
def bindings (outside : String → Option String) (text : String) : Bindings :=
  (lines (contents text)).foldl (fun known (line, _) => known.add outside line) []

/-- The value of a variable of a file. The last assignment counts; without a value it sets
nothing. -/
def get? (outside : String → Option String) (text : String) (name : String) : Option String :=
  ((bindings outside text).lookup name).join

end DocMarkup.EnvFile
