import DocMarkup.Config.EnvFile
import DocMarkup.Config.Environment
import DocMarkup.Json.Check

/-!
Settings, and the sources that they are taken from. A value that is given counts before the
environment, the environment before the variables file, and the file before the default.
-/

namespace DocMarkup

structure Settings where
  logLevel : String := "INFO"
  logFile : Option String := none
  warnUnknownTags : Bool := true
  /-- The address of the reference of native types. -/
  externDocsUrl : String :=
    "https://developer.mozilla.org/en-US/docs/Web/JavaScript/Reference/Global_Objects/"
  filePrefix : String := ""
  deriving DecidableEq

/-- Where settings are taken from. -/
structure Sources where
  /-- The members of an object of given values. -/
  given : List (String × Json) := []
  environment : Environment := []
  /-- The text of the variables file. -/
  envFile : Option String := none

namespace Sources

/-- The value of a setting in the first source that has one. -/
def value? (s : Sources) (name : String) : Option Json :=
  (s.given.lookup name).or <|
    ((s.environment.get? name).or (s.envFile.bind (EnvFile.get? s.environment.get? · name))).map
      .str

/-- What is reported while the sources are read. -/
def remarks (s : Sources) : List LogRecord := s.envFile.elim [] EnvFile.remarks

/-- Check a setting, if a source has it. -/
def setting {α : Type} (s : Sources) (name : String) (default : α) (check : Json → Checked α) :
    Checked α :=
  match s.value? name with
  | some v => (check v).within (.key name)
  | none => .valid default

end Sources

namespace Settings

def defaults : Settings := {}

/-- The settings that the sources give, or everything that is wrong with them. -/
def load (s : Sources) : Checked Settings :=
  Settings.mk
    <$> s.setting "LOG_LEVEL" defaults.logLevel Json.checkString
    <*> s.setting "LOG_FILE" defaults.logFile Json.checkOptionalString
    <*> s.setting "WARN_UNKNOWN_TAGLETS" defaults.warnUnknownTags Json.checkBool
    <*> s.setting "EXTERN_DOCS_URL" defaults.externDocsUrl Json.checkString
    <*> s.setting "FILE_PREFIX" defaults.filePrefix Json.checkString

end Settings

end DocMarkup
