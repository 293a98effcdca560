/-!
Log records: what a run tells about itself while it goes on. A record has a level and the part of
the program it is from.
-/

namespace ProseLinter

inductive LogLevel where
  | debug
  | info
  | warning
  | error
deriving Repr, DecidableEq

namespace LogLevel

def name : LogLevel → String
  | debug => "DEBUG"
  | info => "INFO"
  | warning => "WARNING"
  | error => "ERROR"

def isGrave : LogLevel → Bool
  | debug | info => false
  | warning | error => true

end LogLevel

/-- The part of the program that a record is from. -/
inductive LogSource where
  | telemetry
  | configuration
  | profile
  | evaluation
  | session
  | files
  | configFile
deriving Repr, DecidableEq

namespace LogSource

def name : LogSource → String
  | telemetry => "prosecheck.telemetry"
  | configuration => "prosecheck.domain.config"
  | profile => "prosecheck.domain.descriptor"
  | evaluation => "prosecheck.use_cases.execution_kernel"
  | session => "prosecheck.use_cases.session_runner"
  | files => "prosecheck.use_cases.lint_files"
  | configFile => "prosecheck.infrastructure.config_file_loader"

end LogSource

structure LogRecord where
  level : LogLevel
  source : LogSource
  text : String
deriving Repr, DecidableEq

namespace LogRecord

def line (record : LogRecord) : String :=
  record.level.name ++ " " ++ record.source.name ++ ": " ++ record.text

def isTelemetry (record : LogRecord) : Bool := record.source = .telemetry

def handshake : LogRecord := ⟨.debug, .telemetry, "prosecheck online"⟩

def step (text : String) : LogRecord := ⟨.info, .telemetry, text⟩

end LogRecord

end ProseLinter
