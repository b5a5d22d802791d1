import DocMarkup.Text.Slice

/-!
File paths as text, and the places in the file system that they lead to.
-/

namespace DocMarkup

/-- A path without its empty and dot components. The root is empty for a relative path. -/
structure Path where
  root : String
  parts : List String
  deriving DecidableEq

namespace Path

/-- The root that a path begins with. Two slashes are a root of their own; more are the same as
one. -/
def rootOf (path : List Char) : String :=
  match (path.takeWhile (· == '/')).length with
  | 0 => ""
  | 2 => "//"
  | _ => "/"

/-- The components of a path that lead anywhere. -/
def partsOf (path : List Char) : List String :=
  ((Text.splitAt '/' path).map String.ofList).filter fun part => part != "" && part != "."

def ofText (path : String) : Path := ⟨rootOf path.toList, partsOf path.toList⟩

/-- The path of the directory that holds a path; a root and the current directory hold
themselves. -/
def parent (p : Path) : Path := { p with parts := p.parts.dropLast }

def text (p : Path) : String :=
  if p.root == "" && p.parts.isEmpty then "." else p.root ++ "/".intercalate p.parts

end Path

/-- Where a place is counted from: the root, or a directory so many levels above the current one. -/
inductive Base where
  | root
  | above (levels : Nat)
  deriving DecidableEq

/-- A place in the file system. -/
structure Place where
  base : Base
  parts : List String := []
  deriving DecidableEq

namespace Place

def current : Place := ⟨.above 0, []⟩

/-- Where a path begins. -/
def origin (p : Path) : Place := if p.root == "" then current else ⟨.root, []⟩

/-- The directory above a place; the root is above itself. -/
def up (p : Place) : Place :=
  match p.parts, p.base with
  | [], .root => p
  | [], .above levels => ⟨.above (levels + 1), []⟩
  | parts, base => ⟨base, parts.dropLast⟩

/-- One component further. -/
def step (p : Place) (part : String) : Place :=
  if part == ".." then p.up else { p with parts := p.parts ++ [part] }

/-- The place that a path names, whatever exists on the way. -/
def named (p : Path) : Place := p.parts.foldl step (origin p)

end Place

end DocMarkup
