import DocMarkup.Comment.Reading
import DocMarkup.Link.Registry
import DocMarkup.Log.Output
import DocMarkup.TypeExpr.Render

/-!
Sessions: the state that carries from one use of the library to the next. It holds the log, the
environment, the variables file and the settings that were loaded first.
-/

namespace DocMarkup

structure Session where
  log : LogState
  environment : Environment := []
  envFile : Option String := none
  /-- The settings that were loaded for general use. -/
  shared : Option Settings := none

inductive SessionError where
  | settings (issues : List Issue)
  | log (error : LogError)
  | format (error : FormatError)
  | environment (error : VariableError)

/-- A use of a session: it changes the session even where it fails. -/
abbrev Use (α : Type) := Session → Session × Except SessionError α

namespace Use

variable {α β : Type}

def pure (a : α) : Use α := fun s => (s, .ok a)

def fail (e : SessionError) : Use α := fun s => (s, .error e)

def bind (use : Use α) (next : α → Use β) : Use β := fun s =>
  match use s with
  | (s, .ok a) => next a s
  | (s, .error e) => (s, .error e)

instance : Monad Use where
  pure := pure
  bind := bind

/-- Change the session. -/
def modify (f : Session → Session) : Use Unit := fun s => (f s, .ok ())

def checked : Checked α → Use α
  | .valid a => pure a
  | .invalid issues => fail (.settings issues)

def formatted : Except FormatError α → Use α
  | .ok a => pure a
  | .error e => fail (.format e)

/-- Report what happened. -/
def report (records : List LogRecord) : Use Unit :=
  modify fun s => { s with log := s.log.emitAll records }

/-- Print a line on the console. -/
def printLine (text : String) : Use Unit :=
  modify fun s => { s with log := s.log.print (text ++ "\n") }

/-! ## Variables -/

def setVariable (name value : String) : Use Unit := fun s =>
  match s.environment.set name value with
  | .ok environment => ({ s with environment }, .ok ())
  | .error e => (s, .error (.environment e))

/-! ## Settings -/

/-- Load settings and report what is found in their sources. -/
def loadFrom (sources : Sources) : Use Settings := do
  report sources.remarks
  checked (Settings.load sources)

/-- Load settings from every source. -/
def loadSettings (given : List (String × Json)) : Use Settings := fun s =>
  loadFrom { given, environment := s.environment, envFile := s.envFile } s

/-- Load settings without the variables file. -/
def loadWithoutFile (given : List (String × Json)) : Use Settings := fun s =>
  loadFrom { given, environment := s.environment } s

/-- The shared settings, loaded at their first use. -/
def sharedSettings : Use Settings := fun s =>
  match s.shared with
  | some settings => pure settings s
  | none =>
    (loadSettings []).bind (fun settings s => pure settings { s with shared := some settings }) s

/-! ## Logging -/

def logging (f : LogState → LogState × Except LogError Unit) : Use Unit := fun s =>
  match f s.log with
  | (log, .ok a) => ({ s with log }, .ok a)
  | (log, .error e) => ({ s with log }, .error (.log e))

def configure (level : String) (file : Option String) : Use Unit :=
  logging fun log => log.configure level file

def configureFrom (settings : Settings) : Use Unit :=
  logging fun log => log.configureFrom settings

/-! ## Comments and types -/

/-- Read a comment and report what happened. -/
def readComment (r : LinkResolver) (settings : Settings) (text : String) : Use Comment := do
  report (Event.records (Comment.readingEvents r settings.warnUnknownTags text))
  return .ofText r text

/-- Format a type and report what happened. -/
def formatType {ι : Type} [DecidableEq ι] (r : LinkResolver) (mode : Mode) (g : TypeGraph ι)
    (x : Option ι) :
    Use Comment := do
  report (Event.records (g.formatEvents mode r x))
  formatted (g.format mode r x)

/-- The registry of some types, with what the settings say about addresses. -/
def registry (kinds : List (String × Option String)) : Use Registry := do
  let settings ← sharedSettings
  return .ofTypes kinds [] settings.filePrefix settings.externDocsUrl

end Use

end DocMarkup
