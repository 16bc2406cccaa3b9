/-!
# The log

Events are logged with a level, and only those at or above a threshold are kept.

* `LogLevel`, `LogRecord` — levels and records;
* `LogLevel.read` — the level that a word stands for.
-/

namespace Crontab

/-- How important an event is. -/
inductive LogLevel
  | notSet
  | debug
  | info
  | warning
  | error
  | critical
deriving DecidableEq, Repr

namespace LogLevel

/-- The levels in ascending order. -/
def rank : LogLevel → Nat
  | .notSet => 0
  | .debug => 10
  | .info => 20
  | .warning => 30
  | .error => 40
  | .critical => 50

/-- The name of a level. -/
def name : LogLevel → String
  | .notSet => "NOTSET"
  | .debug => "DEBUG"
  | .info => "INFO"
  | .warning => "WARNING"
  | .error => "ERROR"
  | .critical => "CRITICAL"

/-- The words for levels, in capital letters. -/
def words : List (String × LogLevel) :=
  [("NOTSET", .notSet), ("DEBUG", .debug), ("INFO", .info), ("WARN", .warning),
   ("WARNING", .warning), ("ERROR", .error), ("FATAL", .critical), ("CRITICAL", .critical)]

/-- The capital letters of a letter that occurs in the words for levels.  The dotless i, the long s and
the ligatures of s and t have some as well. -/
def capitals (c : Char) : List Char :=
  if c = 'ı' then ['I']
  else if c = 'ſ' then ['S']
  else if c = 'ﬅ' || c = 'ﬆ' then ['S', 'T']
  else [c.toUpper]

/-- The word for the form of messages, which is no level. -/
def formWord : String := "BASIC_FORMAT"

/-- The word for the styles of messages, which is no level either. -/
def stylesWord : String := "_STYLES"

end LogLevel

/-- Why a word stands for no level. -/
inductive LevelError
  | unknown
  /-- The word stands for the form of messages. -/
  | form
  /-- The word stands for the styles of messages. -/
  | styles
deriving DecidableEq, Repr

/-- The wording of the form of messages in place of a level. -/
def formMessage : String :=
  "Unknown level: '%(levelname)s:%(name)s:%(message)s'"

/-- The level that a word stands for, whatever the case of its letters. -/
def LogLevel.read (word : String) : Except LevelError LogLevel :=
  let capitals := String.ofList (word.toList.flatMap capitals)
  match words.find? (·.1 = capitals) with
  | some (_, level) => .ok level
  | none =>
    if capitals = formWord then .error .form
    else if capitals = stylesWord then .error .styles
    else .error .unknown

/-- A logged event. -/
structure LogRecord where
  logger : String
  level : LogLevel
  message : String
deriving DecidableEq, Repr

namespace LogRecord

/-- The line of a record, without the time. -/
def line (record : LogRecord) : String :=
  record.logger ++ " - " ++ record.level.name ++ " - " ++ record.message

/-- Whether a record is kept at a threshold. -/
def reaches (threshold : LogLevel) (record : LogRecord) : Bool :=
  decide (threshold.rank ≤ record.level.rank)

end LogRecord

end Crontab
