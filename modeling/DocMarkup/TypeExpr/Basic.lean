import DocMarkup.Json.Basic

/-!
The shapes of type expressions. A shape refers to the types inside it by references of some type
`ι`, so that types may be shared and may contain themselves.
-/

namespace DocMarkup

inductive PrimitiveKind where
  | boolean
  | number
  | string
  | null
  | void
  | all
  | unknown
  deriving DecidableEq

namespace PrimitiveKind

/-- The primitive as it is written in a type expression. -/
def name : PrimitiveKind → String
  | .boolean => "boolean"
  | .number => "number"
  | .string => "string"
  | .null => "null"
  | .void => "undefined"
  | .all => "*"
  | .unknown => "?"

def ofName? : String → Option PrimitiveKind
  | "boolean" => some .boolean
  | "number" => some .number
  | "string" => some .string
  | "null" => some .null
  | "undefined" => some .void
  | "*" => some .all
  | "?" => some .unknown
  | _ => none

/-- The name of the kind itself. -/
def label : PrimitiveKind → String
  | .boolean => "BOOLEAN"
  | .number => "NUMBER"
  | .string => "STRING"
  | .null => "NULL"
  | .void => "VOID"
  | .all => "ALL"
  | .unknown => "UNKNOWN"

/-- The native primitives, which are documented by an external reference. -/
def isNative : PrimitiveKind → Bool
  | .all => false
  | .unknown => false
  | _ => true

/-- The primitives that null can be assigned to. -/
def isNullable : PrimitiveKind → Bool
  | .null => true
  | .all => true
  | .unknown => true
  | _ => false

end PrimitiveKind

variable {ι : Type}

structure Parameter (ι : Type) where
  type : ι
  optional : Bool := false
  variadic : Bool := false
  deriving Inhabited

/-- A property of a record; without a type it is of unknown type. -/
structure Field (ι : Type) where
  name : String
  type : Option ι := none
  deriving Inhabited

structure Signature (ι : Type) where
  parameters : List (Parameter ι) := []
  result : Option ι := none
  /-- The receiver of the function, or what it constructs. -/
  context : Option ι := none
  isConstructor : Bool := false
  /-- Set for function types that are known by a name. -/
  referenceName : Option String := none

/-- A value that is no type and has got into a type's place. -/
inductive Stray (ι : Type) where
  | value (value : Json)
  | parameter (parameter : Parameter ι)
  | field (field : Field ι)

inductive Shape (ι : Type) where
  | primitive (kind : PrimitiveKind)
  /-- A name that was not resolved to a type. -/
  | named (name : String)
  /-- An instance of a known constructor. -/
  | instanceOf (name : String)
  /-- A value of an enumeration, and the type of its values. -/
  | enumElement (name : String) (underlying : ι)
  | function (signature : Signature ι)
  | union (alternates : List ι)
  | record (fields : List (Field ι))
  | templatized (base : ι) (arguments : List ι)
  /-- A type variable. -/
  | template (name : String)
  | nullable (operand : ι)
  | nonNullable (operand : ι)
  /-- The empty type, which no author can write. -/
  | noType
  /-- The empty object type, which no author can write. -/
  | noObject
  | stray (stray : Stray ι)

instance : Inhabited (Shape ι) := ⟨.noType⟩

namespace Shape

/-- The name of the kind of type, as messages show it. -/
def className : Shape ι → String
  | .primitive _ => "PrimitiveType"
  | .named _ => "NamedType"
  | .instanceOf _ => "InstanceType"
  | .enumElement _ _ => "EnumElementType"
  | .function _ => "FunctionType"
  | .union _ => "UnionType"
  | .record _ => "RecordType"
  | .templatized _ _ => "TemplatizedType"
  | .template _ => "TemplateType"
  | .nullable _ => "NullableType"
  | .nonNullable _ => "NonNullableType"
  | .noType => "NoType"
  | .noObject => "NoObjectType"
  | .stray (.value _) => "value"
  | .stray (.parameter _) => "Parameter"
  | .stray (.field _) => "RecordField"

def isPrimitive (kind : PrimitiveKind) : Shape ι → Bool
  | .primitive k => k == kind
  | _ => false

def isUnion : Shape ι → Bool
  | .union _ => true
  | _ => false

/-- The alternates of a union; other types have none. -/
def alternates : Shape ι → List ι
  | .union as => as
  | _ => []

end Shape

end DocMarkup
