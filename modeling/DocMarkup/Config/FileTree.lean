import DocMarkup.Config.Path

/-!
The files and directories at hand. Of the file system outside the current directory only the
directories above it and the root are known.
-/

namespace DocMarkup

inductive Entry where
  | directory
  | file (content : String)
  deriving DecidableEq

/-- The entries below the current directory, the oldest first. -/
structure FileTree where
  entries : List (Place × Entry) := []

/-- Why a file cannot be opened. -/
inductive OpenError where
  | noSuchDirectory
  | notADirectory
  | isADirectory
  | badCharacter
  deriving DecidableEq

namespace FileTree

def entry? (t : FileTree) (p : Place) : Option Entry :=
  if p.parts.isEmpty then some .directory else t.entries.lookup p

/-- Set the entry at a place. -/
def put (t : FileTree) (p : Place) (e : Entry) : FileTree :=
  if (t.entries.lookup p).isSome then
    ⟨t.entries.map fun (q, old) => (q, if q = p then e else old)⟩
  else ⟨t.entries ++ [(p, e)]⟩

/-! ## Following paths -/

/-- Follow components from a place; every place on the way has to be a directory. -/
def follow? (t : FileTree) : (p : Place) → (parts : List String) → Option Place
  | p, [] => some p
  | p, part :: parts =>
    match t.entry? p with
    | some .directory =>
      if (t.entry? (p.step part)).isSome then follow? t (p.step part) parts else none
    | _ => none

/-- Whether there is a file or directory at a path. -/
def hasPath (t : FileTree) (p : Path) : Bool :=
  !p.parts.any (·.toList.contains '\x00') && (t.follow? (.origin p) p.parts).isSome

/-! ## Directories and files -/

/-- Add a directory and those above it. -/
def addDirectory (t : FileTree) (path : String) : FileTree :=
  let parts := (Path.ofText path).parts
  (List.range parts.length).foldl (fun t n => t.put ⟨.above 0, parts.take (n + 1)⟩ .directory) t

/-- Add an empty file and the directories above it. -/
def addFile (t : FileTree) (path : String) : FileTree :=
  let p := Path.ofText path
  (t.addDirectory p.parent.text).put ⟨.above 0, p.parts⟩ (.file "")

/-- Whether some directory on the way to a place is a file. -/
def isBlocked (t : FileTree) (p : Place) : Bool :=
  (List.range p.parts.length).any fun n =>
    match t.entry? { p with parts := p.parts.take n } with
    | some (.file _) => true
    | _ => false

/-- Open a file for appending; a file that is not there is created empty. The path is followed by
name only. -/
def openForAppend (t : FileTree) (path : String) : Except OpenError (Place × FileTree) :=
  let p := Place.named (Path.ofText path)
  if path.toList.contains '\x00' then .error .badCharacter
  else if t.isBlocked p then .error .notADirectory
  else match t.entry? p with
    | some .directory => .error .isADirectory
    | some (.file _) => .ok (p, t)
    | none => match t.entry? p.up with
      | some .directory => .ok (p, t.put p (.file ""))
      | _ => .error .noSuchDirectory

/-- Write at the end of a file. -/
def append (t : FileTree) (p : Place) (text : String) : FileTree :=
  match t.entry? p with
  | some (.file content) => t.put p (.file (content ++ text))
  | _ => t

/-- The files of the current directory with their contents, by path. -/
def files (t : FileTree) : List (String × String) :=
  t.entries.filterMap fun
    | (⟨.above 0, parts⟩, .file content) => some ("/".intercalate parts, content)
    | _ => none

end FileTree

end DocMarkup
