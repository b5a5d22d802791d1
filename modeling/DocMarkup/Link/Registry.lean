import DocMarkup.Link.Resolver

/-!
A registry of documented types as a link resolver. Every documented type has a page, which is named
after its kind and its name, and its members are found there under an anchor. Names that differ only
in dots and underscores share a page. Native types are documented elsewhere.
-/

namespace DocMarkup

structure Registry where
  /-- The documented types with their kinds; a type without a kind is not documented. -/
  kinds : List (String × Option String)
  /-- The names that are documented elsewhere, with their pages. -/
  externs : List (String × Option String)
  /-- What every page address begins with. -/
  filePrefix : String

namespace Registry

/-- The kind of a type that is only known by its name. -/
def defaultKind : String := "namespace"

/-- The native names, and their pages in the reference of native types. -/
def nativePages : List (String × String) := [
  ("boolean", "Boolean"), ("number", "Number"), ("string", "String"), ("null", "null"),
  ("undefined", "undefined"), ("Array", "Array"), ("Boolean", "Boolean"), ("Date", "Date"),
  ("Error", "Error"), ("Function", "Function"), ("JSON", "JSON"), ("Map", "Map"), ("Math", "Math"),
  ("Number", "Number"), ("Object", "Object"), ("Promise", "Promise"), ("RangeError", "RangeError"),
  ("RegExp", "RegExp"), ("Set", "Set"), ("String", "String"), ("Symbol", "Symbol"),
  ("TypeError", "TypeError")]

/-- The registry of some types and extra external names, with a reference of native types at a base
address. -/
def ofTypes (kinds : List (String × Option String)) (extra : List (String × Option String))
    (filePrefix docsUrl : String) : Registry where
  kinds
  externs := extra ++ nativePages.map fun (name, page) => (name, some (docsUrl ++ page))
  filePrefix

/-! ## Pages -/

def kind? (r : Registry) (name : String) : Option String := (r.kinds.lookup name).join

/-- The name of a page: the kind and name of its type, with the dots of the name as underscores. -/
def pageName (kind name : String) : String :=
  kind ++ "_" ++ name.map (fun c => if c == '.' then '_' else c) ++ ".html"

/-- The page of a documented type. -/
def page? (r : Registry) (name : String) : Option String :=
  (r.kind? name).map fun kind => r.filePrefix ++ pageName kind name

/-! ## Names -/

/-- A name without the parentheses of a call at its end. -/
def withoutCall (name : List Char) : List Char :=
  match name.reverse with
  | ')' :: '(' :: rest => rest.reverse
  | _ => name

/-- The owner and the member of an instance member, which are separated by the first number sign. -/
def instanceMember? (name : List Char) : Option (List Char × List Char) :=
  match name.dropWhile (· != '#') with
  | _ :: member => some (name.takeWhile (· != '#'), member)
  | [] => none

/-- The parts of a name before each of its dots, the shortest first. -/
def dottedOwners : List Char → List (List Char)
  | [] => []
  | c :: cs => (if c == '.' then [[]] else []) ++ (dottedOwners cs).map (c :: ·)

/-- The link to a static member: the longest documented owner has it. -/
def staticMember? (r : Registry) (name : List Char) : Option String :=
  (dottedOwners name).reverse.findSome? fun owner =>
    (r.page? (String.ofList owner)).map (· ++ "#" ++ String.ofList name)

/-! ## Resolving -/

/-- The link to a name without its call parentheses. -/
def link? (r : Registry) (name : List Char) : Option String :=
  if name.isEmpty then none
  else match r.page? (String.ofList name) with
    | some page => some page
    | none => match instanceMember? name with
      | some (owner, member) =>
        (r.page? (String.ofList owner)).map
          (· ++ "#" ++ String.ofList owner ++ "$" ++ String.ofList member)
      | none => r.staticMember? name

/-- The link to a documented name. -/
def resolve (r : Registry) (name : String) : Option String := r.link? (withoutCall name.toList)

/-- The page of an external name. -/
def resolveExternal (r : Registry) (name : String) : Option String := (r.externs.lookup name).join

/-- What is reported for a name: that no owner of it is documented. An instance member is not
reported. -/
def remarks (r : Registry) (name : String) : List LogRecord :=
  let name := withoutCall name.toList
  if name.isEmpty || name.contains '#' || (r.link? name).isSome then []
  else [.debug .registry ("No link for " ++ String.ofList name)]

def resolver (r : Registry) : LinkResolver where
  resolve := r.resolve
  resolveExternal := r.resolveExternal
  remarks := r.remarks

end Registry

end DocMarkup
