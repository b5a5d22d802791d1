/-!
Log records: what is reported, how urgently, and by which part of the library.
-/

namespace DocMarkup

/-- The levels that have a name. -/
inductive Level where
  | notSet
  | debug
  | info
  | warning
  | error
  | critical
  deriving DecidableEq

namespace Level

def value : Level → Int
  | .notSet => 0
  | .debug => 10
  | .info => 20
  | .warning => 30
  | .error => 40
  | .critical => 50

def name : Level → String
  | .notSet => "NOTSET"
  | .debug => "DEBUG"
  | .info => "INFO"
  | .warning => "WARNING"
  | .error => "ERROR"
  | .critical => "CRITICAL"

/-- The level of a name in capitals; two levels have a second name. -/
def ofName? : String → Option Level
  | "NOTSET" => some .notSet
  | "DEBUG" => some .debug
  | "INFO" => some .info
  | "WARNING" => some .warning
  | "WARN" => some .warning
  | "ERROR" => some .error
  | "CRITICAL" => some .critical
  | "FATAL" => some .critical
  | _ => none

end Level

/-- The parts of the library that report. -/
inductive Channel where
  | scanner
  | reader
  | formatter
  | registry
  | envFile
  deriving DecidableEq

/-- The name under which a part of the library reports. -/
def Channel.name : Channel → String
  | .scanner => "doctoken.infrastructure.parsing.inline_tag_scanner"
  | .reader => "doctoken.application.services.comment_parser"
  | .formatter => "doctoken.application.services.type_formatter"
  | .registry => "doctoken.infrastructure.linking.registry_link_resolver"
  | .envFile => "dotenv.main"

structure LogRecord where
  level : Level
  logger : String
  message : String
  deriving DecidableEq

namespace LogRecord

def debug (channel : Channel) (message : String) : LogRecord :=
  ⟨.debug, channel.name, message⟩

def warning (channel : Channel) (message : String) : LogRecord :=
  ⟨.warning, channel.name, message⟩

end LogRecord

end DocMarkup
