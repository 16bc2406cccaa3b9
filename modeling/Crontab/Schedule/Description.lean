import Crontab.Schedule.Parser

/-!
# Schedules in words

Well-known expressions have a name and a fixed description; every other one is described field by
field from its words.

* `Preset`, `presets` — the well-known expressions;
* `describe` — the description of an expression, or the reason why it is no schedule.
-/

namespace Crontab

open Text

/-- A well-known expression with its name and description. -/
structure Preset where
  name : String
  expression : String
  description : String
deriving DecidableEq, Repr

/-- The well-known expressions. -/
def presets : List Preset :=
  [⟨"every_minute", "* * * * *", "Every minute"⟩,
   ⟨"every_five_minutes", "*/5 * * * *", "Every 5 minutes"⟩,
   ⟨"every_ten_minutes", "*/10 * * * *", "Every 10 minutes"⟩,
   ⟨"every_fifteen_minutes", "*/15 * * * *", "Every 15 minutes"⟩,
   ⟨"every_thirty_minutes", "*/30 * * * *", "Every 30 minutes"⟩,
   ⟨"hourly", "0 * * * *", "Every hour"⟩,
   ⟨"daily", "0 0 * * *", "Daily at midnight"⟩,
   ⟨"weekly", "0 0 * * 0", "Weekly on Sunday at midnight"⟩,
   ⟨"monthly", "0 0 1 * *", "Monthly on the 1st at midnight"⟩,
   ⟨"yearly", "0 0 1 1 *", "Yearly on January 1st at midnight"⟩]

/-- The words of a text with single spaces between them. -/
def normalize (text : String) : String :=
  String.ofList ([' '].intercalate (words text.toList))

/-- The abbreviated names of the months. -/
def monthNames : List String :=
  ["Jan", "Feb", "Mar", "Apr", "May", "Jun", "Jul", "Aug", "Sep", "Oct", "Nov", "Dec"]

/-- The names of the days of the week, from Sunday. -/
def dayNames : List String :=
  ["Sunday", "Monday", "Tuesday", "Wednesday", "Thursday", "Friday", "Saturday"]

/-- Describes the word of the minute or hour field: as a repetition if it starts with a step. -/
def describeClockWord (unit word : String) : String :=
  match word.toList with
  | '*' :: '/' :: step => "every " ++ String.ofList step ++ " " ++ unit ++ "s"
  | _ => "at " ++ unit ++ " " ++ word

/-- Describes the word of the month or weekday field: by name if it is a single number. -/
def describeNamedWord (single several word : String) (names : List String) (first : Nat) : String :=
  if isNumeral word.toList then single ++ names.getD (numeralValue word.toList - first) ""
  else several ++ word

/-- Describes the word of one field. -/
def Field.describeWord (field : Field) (word : String) : String :=
  match field with
  | .minute => describeClockWord "minute" word
  | .hour => describeClockWord "hour" word
  | .dayOfMonth => "on day " ++ word
  | .month => describeNamedWord "in " "in month " word monthNames 1
  | .dayOfWeek => describeNamedWord "on " "on weekday " word dayNames 0

/-- Describes an expression by those of its words that restrict their field. -/
def describeWords (fieldWords : List String) : String :=
  let parts := ((Field.all.zip fieldWords).filter (·.2 ≠ "*")).map fun (field, word) =>
    field.describeWord word
  if parts.isEmpty then "Every minute" else "Runs " ++ ", ".intercalate parts

/-- The description of an expression, or the reason why it is no schedule. -/
def describe (expression : String) : Except ParseError String :=
  let normalized := normalize expression
  match presets.find? (·.expression = normalized) with
  | some preset => .ok preset.description
  | none =>
    (Schedule.parse normalized).map fun _ =>
      describeWords ((words normalized.toList).map String.ofList)

end Crontab
