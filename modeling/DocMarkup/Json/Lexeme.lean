import DocMarkup.Json.Basic

/-!
The lexemes of JSON text: punctuation, strings, and the words that stand for the other scalars.
-/

namespace DocMarkup.Json

inductive Lexeme where
  | leftBracket
  | rightBracket
  | leftBrace
  | rightBrace
  | comma
  | colon
  | string (value : String)
  /-- A number, a truth value or null. -/
  | scalar (value : Json)

/-! ## Numbers and words -/

/-- The sign in front of a number and the rest of it. -/
def splitSign : List Char → Bool × List Char
  | '-' :: cs => (true, cs)
  | cs => (false, cs)

/-- The value of a run of digits, if it is one. -/
def digits? (cs : List Char) : Option Nat :=
  if cs.isEmpty || !cs.all Char.isDigit then none
  else some (cs.foldl (fun n c => 10 * n + (c.toNat - '0'.toNat)) 0)

/-- The value of an exponent with an optional sign. -/
def exponent? : List Char → Option Int
  | '+' :: cs => (digits? cs).map Int.ofNat
  | '-' :: cs => (digits? cs).map fun n => -Int.ofNat n
  | cs => (digits? cs).map Int.ofNat

/-- The digits after a point, if a point stands at the beginning of a text, and the text after
them. -/
def splitFraction : List Char → Option (List Char) × List Char
  | '.' :: cs => (some (cs.takeWhile Char.isDigit), cs.dropWhile Char.isDigit)
  | cs => (none, cs)

/-- The exponent that a text consists of, or zero if it is empty. -/
def exponentPart? : List Char → Option Int
  | [] => some 0
  | 'e' :: cs => exponent? cs
  | 'E' :: cs => exponent? cs
  | _ => none

/-- Whether digits are the whole part of a number: no zero stands in front of others. -/
def isWholePart : List Char → Bool
  | [] => false
  | ['0'] => true
  | c :: _ => c != '0'

/-- The number that a word is. With a point or an exponent it is a floating-point number. -/
def number? (word : List Char) : Option Json := do
  let (negative, unsigned) := splitSign word
  let whole := unsigned.takeWhile Char.isDigit
  let rest := unsigned.dropWhile Char.isDigit
  if !isWholePart whole then none
  else if rest.isEmpty then
    let n ← digits? whole
    return .int (if negative then -Int.ofNat n else Int.ofNat n)
  else
    let (fraction, rest) := splitFraction rest
    if fraction == some [] then none
    else
      let exponent ← exponentPart? rest
      let digits ← digits? (whole ++ fraction.getD [])
      return .real (.ofDecimal negative ⟨digits, exponent - (fraction.getD []).length⟩)

/-- The value that a word stands for. -/
def scalar? (word : List Char) : Option Json :=
  match String.ofList word with
  | "null" => some .null
  | "true" => some (.bool true)
  | "false" => some (.bool false)
  | _ => number? word

/-! ## Strings -/

/-- The value of a hexadecimal digit. -/
def hexDigit? (c : Char) : Option Nat :=
  if c.isDigit then some (c.toNat - '0'.toNat)
  else if 'a' ≤ c && c ≤ 'f' then some (c.toNat - 'a'.toNat + 10)
  else if 'A' ≤ c && c ≤ 'F' then some (c.toNat - 'A'.toNat + 10)
  else none

/-- The character that a backslash and a letter stand for. -/
def unescaped? : Char → Option Char
  | '"' => some '"'
  | '\\' => some '\\'
  | '/' => some '/'
  | 'b' => some '\x08'
  | 'f' => some '\x0c'
  | 'n' => some '\n'
  | 'r' => some '\r'
  | 't' => some '\t'
  | _ => none

/-- Add a 16-bit unit to a text, the last one first. The second unit of a pair completes the
first. -/
def addUnit (codes : List Nat) (unit : Nat) : List Nat :=
  match codes with
  | high :: rest =>
    if 0xD800 ≤ high && high < 0xDC00 && 0xDC00 ≤ unit && unit < 0xE000 then
      (0x10000 + (high - 0xD800) * 0x400 + (unit - 0xDC00)) :: rest
    else unit :: codes
  | [] => [unit]

/-! ## Scanning -/

/-- What is being read. Texts are kept with the last character first. -/
inductive ScanMode where
  | between
  | word (read : List Char)
  | string (codes : List Nat)
  /-- After a backslash. -/
  | escape (codes : List Nat)
  /-- Inside an escape of four digits: how many are missing, and the value so far. -/
  | unit (codes : List Nat) (missing value : Nat)

/-- The lexemes so far, the last one first, and what is being read. -/
structure ScanState where
  lexemes : List Lexeme := []
  mode : ScanMode := .between

namespace ScanState

def push (s : ScanState) (l : Lexeme) : ScanState := ⟨l :: s.lexemes, .between⟩

/-- Read a character outside of words and strings. -/
def start (s : ScanState) (c : Char) : ScanState :=
  match c with
  | '[' => s.push .leftBracket
  | ']' => s.push .rightBracket
  | '\x7b' => s.push .leftBrace
  | '\x7d' => s.push .rightBrace
  | ',' => s.push .comma
  | ':' => s.push .colon
  | '"' => { s with mode := .string [] }
  | c => if c.isWhitespace then s else { s with mode := .word [c] }

def isWordChar (c : Char) : Bool := c.isAlphanum || c == '+' || c == '-' || c == '.'

/-- End the word that is being read. -/
def endWord (s : ScanState) (read : List Char) : Option ScanState :=
  (scalar? read.reverse).map fun v => s.push (.scalar v)

def step (s : ScanState) (c : Char) : Option ScanState :=
  match s.mode with
  | .between => some (s.start c)
  | .word read =>
    if isWordChar c then some { s with mode := .word (c :: read) }
    else (s.endWord read).map (·.start c)
  | .string codes =>
    if c == '"' then some (s.push (.string (String.ofList (codes.reverse.map Char.ofNat))))
    else if c == '\\' then some { s with mode := .escape codes }
    else some { s with mode := .string (c.toNat :: codes) }
  | .escape codes =>
    if c == 'u' then some { s with mode := .unit codes 4 0 }
    else (unescaped? c).map fun d => { s with mode := .string (d.toNat :: codes) }
  | .unit codes missing value =>
    (hexDigit? c).map fun d =>
      if missing ≤ 1 then { s with mode := .string (addUnit codes (16 * value + d)) }
      else { s with mode := .unit codes (missing - 1) (16 * value + d) }

/-- The lexemes once the text has ended. -/
def finish (s : ScanState) : Option (List Lexeme) :=
  match s.mode with
  | .between => some s.lexemes.reverse
  | .word read => (s.endWord read).map (·.lexemes.reverse)
  | _ => none

end ScanState

/-- The lexemes of a text. -/
def lexemes? (text : String) : Option (List Lexeme) :=
  (text.toList.foldlM ScanState.step {}).bind ScanState.finish

end DocMarkup.Json
