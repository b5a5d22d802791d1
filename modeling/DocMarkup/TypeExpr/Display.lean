import DocMarkup.Json.Printer
import DocMarkup.TypeExpr.Graph

/-!
Types as messages show them, with all their parts. Inside itself a type is shown as an ellipsis.
-/

namespace DocMarkup

/-! ## Primitives -/

/-- A value that names no primitive. -/
inductive KindError where
  | unknown (value : String)
  deriving DecidableEq

def KindError.message : KindError → String
  | .unknown value => value ++ " is not a valid PrimitiveKind"

/-- The primitive that a value names. -/
def PrimitiveKind.ofValue (v : Json) : Except KindError PrimitiveKind :=
  match v with
  | .str name => match ofName? name with
    | some kind => .ok kind
    | none => .error (.unknown v.literal)
  | _ => .error (.unknown v.literal)

/-! ## Types -/

namespace Display

variable {ι : Type}

/-- A name with arguments. -/
def call (name : String) (arguments : List (String × String)) : String :=
  name ++ "(" ++ ", ".intercalate (arguments.map fun (key, value) => key ++ "=" ++ value) ++ ")"

/-- A sequence; a single item is followed by a comma. -/
def sequence : List String → String
  | [item] => "(" ++ item ++ ",)"
  | items => "(" ++ ", ".intercalate items ++ ")"

def flag (b : Bool) : String := Json.literal (.bool b)

def absentOr (sub : ι → String) : Option ι → String
  | some x => sub x
  | none => Json.literal .null

def ofParameter (sub : ι → String) (p : Parameter ι) : String :=
  call "Parameter"
    [("type", sub p.type), ("optional", flag p.optional), ("variadic", flag p.variadic)]

def ofField (sub : ι → String) (f : Field ι) : String :=
  call "RecordField" [("name", Text.quoted f.name), ("type", absentOr sub f.type)]

def ofSignature (sub : ι → String) (s : Signature ι) : List (String × String) :=
  [("parameters", sequence (s.parameters.map (ofParameter sub))),
    ("return_type", absentOr sub s.result), ("this_type", absentOr sub s.context),
    ("is_constructor", flag s.isConstructor),
    ("reference_name", absentOr Text.quoted s.referenceName)]

/-- A shape, with `sub` for the types in it. -/
def ofShape (sub : ι → String) (s : Shape ι) : String :=
  match s with
  | .primitive kind =>
    call s.className
      [("kind", "<PrimitiveKind." ++ kind.label ++ ": " ++ Text.quoted kind.name ++ ">")]
  | .named name => call s.className [("name", Text.quoted name)]
  | .instanceOf name => call s.className [("name", Text.quoted name)]
  | .template name => call s.className [("name", Text.quoted name)]
  | .enumElement name underlying =>
    call s.className [("name", Text.quoted name), ("primitive", sub underlying)]
  | .function signature => call s.className (ofSignature sub signature)
  | .union alternates => call s.className [("alternates", sequence (alternates.map sub))]
  | .record fields => call s.className [("fields", sequence (fields.map (ofField sub)))]
  | .templatized base arguments =>
    call s.className [("base", sub base), ("arguments", sequence (arguments.map sub))]
  | .nullable operand => call s.className [("type", sub operand)]
  | .nonNullable operand => call s.className [("type", sub operand)]
  | .noType => call s.className []
  | .noObject => call s.className []
  | .stray (.value v) => v.literal
  | .stray (.parameter p) => ofParameter sub p
  | .stray (.field f) => ofField sub f

end Display

/-- A type with all its parts. -/
def TypeGraph.display {ι : Type} [DecidableEq ι] (g : TypeGraph ι) (x : ι) : String :=
  g.walk (fun _ => "...") (fun _ sub y => Display.ofShape sub (g.shape y)) [] x

end DocMarkup
