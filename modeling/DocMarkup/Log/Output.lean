import DocMarkup.Config.Check
import DocMarkup.Config.Settings
import DocMarkup.Log.Record
import DocMarkup.Text.Quoted

/-!
Where log records go: a threshold, and the sinks that every record at or above it is given to. The
threshold is any number, and sinks of other kinds may have been added elsewhere. The log is set up
from a level and a file, or from settings after checking them.
-/

namespace DocMarkup

inductive Sink where
  | console
  | file (place : Place)
  /-- A sink of another kind, which takes records and does with them what it likes. -/
  | other (kind : String)
  deriving DecidableEq

structure LogState where
  level : Int := Level.warning.value
  sinks : List Sink := []
  files : FileTree := {}
  /-- What has been written to the console. -/
  console : String := ""
  /-- The records that sinks of other kinds were given, with the kind of the sink. -/
  given : List (String × LogRecord) := []
  /-- The time that is shown in every line. -/
  clock : String

/-- Why the log cannot be set up. -/
inductive LogError where
  | unknownLevel (name : String)
  /-- Settings that do not pass their checks, with what is wrong with each. -/
  | invalid (problems : List (String × String))
  | cannotOpen (error : OpenError)
  deriving DecidableEq

def OpenError.message : OpenError → String
  | .noSuchDirectory => "No such file or directory"
  | .notADirectory => "Not a directory"
  | .isADirectory => "Is a directory"
  | .badCharacter => "embedded null byte"

def LogError.message : LogError → String
  | .unknownLevel name => "Unknown level: " ++ Text.quoted name
  | .invalid problems =>
    "Invalid logging configuration: " ++
      "; ".intercalate (problems.map fun (key, problem) => key ++ ": " ++ problem)
  | .cannotOpen error => error.message

/-- A record as a line of the log. -/
def LogRecord.line (clock : String) (r : LogRecord) : String :=
  clock ++ " - " ++ r.logger ++ " - " ++ r.level.name ++ " - " ++ r.message ++ "\n"

namespace LogState

/-- Whether records of a level are written. Records without a level never are. -/
def accepts (s : LogState) (level : Level) : Bool :=
  level != .notSet && s.level ≤ level.value

/-- Write to the console. -/
def print (s : LogState) (text : String) : LogState := { s with console := s.console ++ text }

/-- Give a record to a sink. -/
def write (s : LogState) (r : LogRecord) : Sink → LogState
  | .console => s.print (r.line s.clock)
  | .file place => { s with files := s.files.append place (r.line s.clock) }
  | .other kind => { s with given := s.given ++ [(kind, r)] }

/-- Give a record to all sinks. -/
def emit (s : LogState) (r : LogRecord) : LogState :=
  if s.accepts r.level then s.sinks.foldl (fun s sink => s.write r sink) s else s

def emitAll (s : LogState) (records : List LogRecord) : LogState := records.foldl emit s

/-! ## Setting the log up -/

/-- What is reported once the log is set up. -/
def configured (level : String) (file : Option String) : LogRecord :=
  ⟨.debug, "root", "Logging configured with level=" ++ level ++ ", file=" ++ file.getD "None"⟩

/-- Log to the console, and to a file if one is named. -/
def configure (s : LogState) (level : String) (file : Option String) :
    LogState × Except LogError Unit :=
  match Level.ofName? (Text.upper level) with
  | none => (s, .error (.unknownLevel (Text.upper level)))
  | some threshold =>
    let s := { s with level := threshold.value, sinks := [.console] }
    match file.filter (!·.isEmpty) with
    | none => (s.emit (configured level file), .ok ())
    | some path =>
      match s.files.openForAppend path with
      | .error error => (s, .error (.cannotOpen error))
      | .ok (place, files) =>
        ({ s with sinks := [.console, .file place], files }.emit (configured level file), .ok ())

/-- What the checks say against the log settings. -/
def problems (files : FileTree) (settings : Settings) : List (String × String) :=
  (verdicts.filter (!·.2.ok)).map fun (key, verdict) => (key, verdict.message)
where
  verdicts : List (String × Verdict) :=
    ("LOG_LEVEL", Check.logLevel settings.logLevel) ::
      ((settings.logFile.filter (!·.isEmpty)).map
        fun path => ("LOG_FILE", Check.logFile files path)).toList

/-- Log as the settings say, if they pass their checks. -/
def configureFrom (s : LogState) (settings : Settings) : LogState × Except LogError Unit :=
  match problems s.files settings with
  | [] => s.configure settings.logLevel settings.logFile
  | found => (s, .error (.invalid found))

end LogState

end DocMarkup
