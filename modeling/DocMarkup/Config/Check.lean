import DocMarkup.Config.FileTree
import DocMarkup.Config.Url
import DocMarkup.Json.Basic
import DocMarkup.Text.Uppercase

/-!
Checks of configured values: each gives a verdict with a message.
-/

namespace DocMarkup

structure Verdict where
  ok : Bool
  message : String
  deriving DecidableEq

/-- Why a value cannot even be checked. -/
inductive CheckError where
  | url (error : UrlError)
  /-- A value of another kind where text is worked on. -/
  | notText (kind : String) (operation : String)
  deriving DecidableEq

def CheckError.message : CheckError → String
  | .url error => error.message
  | .notText kind operation => "'" ++ kind ++ "' object has no attribute '" ++ operation ++ "'"

/-- The kind of a value, as messages name it. -/
def Json.kindName : Json → String
  | .null => "NoneType"
  | .bool _ => "bool"
  | .int _ => "int"
  | .real _ => "float"
  | .str _ => "str"
  | .arr _ => "list"
  | .obj _ => "dict"

/-- Whether a value is nothing: absent, false, zero or without content. -/
def Json.isVoid : Json → Bool
  | .null => true
  | .bool b => !b
  | .int n => n == 0
  | .real x => x.isZero
  | .str s => s.isEmpty
  | .arr items => items.isEmpty
  | .obj members => members.isEmpty

namespace Check

/-! ## Log levels -/

def levelNames : List String := ["DEBUG", "INFO", "WARNING", "ERROR", "CRITICAL"]

def logLevel (level : String) : Verdict :=
  if levelNames.contains (Text.upper level) then ⟨true, "Valid log level"⟩
  else ⟨false, "Invalid log level. Must be one of: " ++ ", ".intercalate levelNames⟩

def logLevelValue : Json → Except CheckError Verdict
  | .str level => .ok (logLevel level)
  | v => .error (.notText v.kindName "upper")

/-! ## Log files -/

/-- A log file needs a directory to stand in. -/
def logFile (files : FileTree) (path : String) : Verdict :=
  let directory := (Path.ofText path).parent
  if files.hasPath directory then ⟨true, "Valid log file path"⟩
  else ⟨false, "Log directory does not exist: " ++ directory.text⟩

def logFileValue (files : FileTree) : Json → Verdict
  | .str path => logFile files path
  | v =>
    ⟨false, "Invalid log file path: expected str, bytes or os.PathLike object, not " ++ v.kindName⟩

/-! ## Addresses -/

/-- The address of a reference is absolute, and ends in a slash so that page names can follow it. -/
def docsUrl (url : String) : Except UrlError Verdict := do
  let parts ← Url.split url
  if (parts.scheme != "http" && parts.scheme != "https") || parts.authority.isEmpty then
    pure ⟨false, "Extern docs URL must be an absolute http(s) URL"⟩
  else if url.toList.getLast? != some '/' then
    pure ⟨false, "Extern docs URL must end with '/'"⟩
  else
    pure ⟨true, "Valid extern docs URL"⟩

def docsUrlValue (v : Json) : Except CheckError Verdict :=
  match v with
  | .str url => (docsUrl url).mapError .url
  | _ => if v.isVoid then (docsUrl "").mapError .url else .error (.notText v.kindName "decode")

/-! ## All settings -/

/-- The verdicts on the values of a configuration that can be checked, by key. -/
def config (files : FileTree) (v : Json) : Except CheckError (List (String × Verdict)) := do
  let level ← on "LOG_LEVEL" logLevelValue
  let file ← on "LOG_FILE" fun w => .ok (logFileValue files w)
  let url ← on "EXTERN_DOCS_URL" docsUrlValue
  pure (level ++ file ++ url)
where
  on (key : String) (check : Json → Except CheckError Verdict) :
      Except CheckError (List (String × Verdict)) :=
    match v.member? key with
    | some w => (check w).map fun verdict => [(key, verdict)]
    | none => .ok []

end Check

end DocMarkup
