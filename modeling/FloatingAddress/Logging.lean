import FloatingAddress.Choices

/-!
# Log lines

Records have a severity. A level lets records from some severity on through; each is
written on a line with its severity, the name of the logger and the message.

* `Level.choices`: the levels by their words;
* `Level.lets`: which severities a level lets through;
* `LogRecord.line` and `transcript`: what is written.
-/

namespace FloatingAddress

/-- How severe a record is. -/
inductive Severity
  | trace
  | debug
  | info
  | success
  | warning
  | error
  | critical
deriving DecidableEq, Repr

namespace Severity

/-- The place of a severity in their order. -/
def rank : Severity → Nat
  | trace => 5
  | debug => 10
  | info => 20
  | success => 25
  | warning => 30
  | error => 40
  | critical => 50

/-- The word for a severity, as log lines show it. -/
def label : Severity → Text
  | trace => "TRACE"
  | debug => "DEBUG"
  | info => "INFO"
  | success => "SUCCESS"
  | warning => "WARNING"
  | error => "ERROR"
  | critical => "CRITICAL"

end Severity

/-- How much is logged. -/
inductive Level
  | full
  | debug
  | info
  | warning
deriving DecidableEq, Repr

namespace Level

/-- The word for a level. -/
def word : Level → Text
  | full => "full"
  | debug => "debug"
  | info => "info"
  | warning => "warning"

/-- The name of a level. -/
def name : Level → Text
  | full => "FULL"
  | debug => "DEBUG"
  | info => "INFO"
  | warning => "WARNING"

/-- All levels. -/
def choices : Choices Level where
  title := "LogLevel"
  all := [full, debug, info, warning]
  name := name
  word := word

/-- The least severity that a level lets through. -/
def threshold : Level → Severity
  | full => .trace
  | debug => .debug
  | info => .info
  | warning => .warning

/-- A level lets its threshold and everything more severe through. -/
def lets (level : Level) (severity : Severity) : Bool :=
  level.threshold.rank ≤ severity.rank

end Level

/-- A record as it reaches the log. -/
structure LogRecord where
  logger : Option Text
  severity : Severity
  message : Text

/-- The name that stands for a logger without a name. -/
def unnamedLogger : Text := "__main__"

/-- A record on its line. -/
def LogRecord.line (r : LogRecord) : Text :=
  r.severity.label.padRight 8 ++ " | " ++ r.logger.getD unnamedLogger ++ " | " ++ r.message
    ++ [CodePoint.lineFeed]

/-- What a level writes for a list of records. -/
def transcript (level : Level) (records : List LogRecord) : Text :=
  (records.filter fun r => level.lets r.severity).flatMap LogRecord.line

end FloatingAddress
