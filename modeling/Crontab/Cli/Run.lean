import Crontab.Cli.Arguments
import Crontab.Cli.Log
import Crontab.Cli.Template
import Crontab.Config.Resolution
import Crontab.Config.Settings
import Crontab.Schedule.Upcoming
import Crontab.Task.Validation

/-!
# Running commands

A command is run with the settings of the environment and gives lines of output, a complaint, and
events for the log.

* `Report` — what a command gives;
* `Command.report` — runs a command;
* `runArguments` — runs a whole command line.
-/

namespace Crontab.Cli

open Crontab.Text Crontab.Time

/-- What a command gives: its exit code, the lines of its output, what it complains about, and what
it logs. -/
structure Report where
  code : Nat := 0
  lines : List String := []
  complaint : Option String := none
  log : List LogRecord := []
deriving DecidableEq, Repr

/-- Why a command gives no report. -/
inductive ReportError
  | outOfCalendar (cause : OutOfCalendar)
  /-- The number of runs was taken back. -/
  | noCount
deriving DecidableEq, Repr

/-- The line of a complaint. -/
def complaintLine (message : String) : String :=
  "Error: " ++ message

/-- The report of a command that fails with a complaint. -/
def Report.complain (message : String) (lines : List String) (log : List LogRecord) : Report :=
  { code := 1, lines := lines, complaint := some message, log := log }

/-- The report of a command that fails with an entry in the log. -/
def Report.fatal (message : String) : Report :=
  { code := 1, log := [⟨"main", .error, "Fatal error: " ++ message⟩] }

/-! ## Commands -/

/-- The line of one field: its name in a column of 12 characters, and its values. -/
def fieldLine (schedule : Schedule) (field : Field) : String :=
  String.ofList (fillStart ' ' 12 field.name.toList) ++ ": " ++
    ", ".intercalate ((schedule.valuesOf field).map toString)

/-- Shows the values of the fields of an expression. -/
def parseReport (expression : String) : Report :=
  match Schedule.parse expression with
  | .ok schedule => { lines := Field.all.map (fieldLine schedule) }
  | .error error => .complain error.message [] []

/-- The log entry for a zone that is not known. -/
def rejectedZone (timezone : String) : LogRecord :=
  ⟨"scheduler.timezone", .debug, "Rejected timezone " ++ quoted timezone⟩

/-- The wording of a zone that cannot be used because another one is imposed. -/
def conflictMessage (timezone moduleZone : String) : String :=
  "Timezone " ++ timezone ++ " conflicts with strict module timezone " ++ moduleZone

/-- The module's options as a value with attributes. -/
def moduleValue (settings : Settings) : Value :=
  Configuration.toValue ⟨settings.toModuleOptions⟩

/-- The log entries for a given zone: one if the zone is not valid. -/
def zoneLog (timezone : Option String) (now : Moment) : Except OutOfCalendar (List LogRecord) :=
  match timezone with
  | none => .ok []
  | some name =>
    if name.isEmpty then .ok []
    else (isValidTimezone (.text name) now).map fun valid => if valid then [] else [rejectedZone name]

/-- Checks an expression and a zone, the latter also against the one the module imposes. -/
def validateReport (settings : Settings) (now : Moment) (expression : String)
    (timezone : Option String) : Except OutOfCalendar Report := do
  let zone := Value.ofText? timezone
  let violations ←
    optionsViolations (.entity .options [("expression", .text expression), ("timezone", zone)]) now
  let log ← zoneLog timezone now
  let conflicts :=
    match timezone with
    | none => []
    | some name =>
      if name.isEmpty || (resolveTimezone zone (moduleValue settings)).text? = some name then []
      else [conflictMessage name settings.timezone.zone]
  let errors := violations.map Violation.message ++ conflicts
  if errors.isEmpty then pure { lines := ["Valid"], log := log }
  else pure { code := 1, lines := errors.map ("- " ++ ·), log := log }

/-- The line of a run: in universal time, and in the zone. -/
def runLine (run shown : Moment) (timezone : String) : String :=
  run.iso ++ "  (" ++ shown.iso ++ " " ++ timezone ++ ")"

/-- The lines of runs, up to the first one that cannot be shown in the zone, and what is wrong with
that. -/
def runLines (timezone : String) : List Moment → List String × Option ConversionError
  | [] => ([], none)
  | run :: runs =>
    match convert (.moment run) (.text "UTC") (.text timezone) with
    | .error error => ([], some error)
    | .ok shown =>
      let (lines, error) := runLines timezone runs
      (runLine run shown timezone :: lines, error)

/-- The log entry for computed runs. -/
def computedRuns (count : Nat) (timezone : String) : LogRecord :=
  ⟨"scheduler.next_run", .debug,
    "Computed " ++ toString count ++ " run times in " ++ timezone⟩

/-- The report on computed runs. -/
def shownRuns (runs : List Moment) (timezone : String) : Except OutOfCalendar Report :=
  let log := [computedRuns runs.length timezone]
  match runLines timezone runs with
  | (lines, none) => .ok { lines, log }
  | (lines, some (.timezone error)) => .ok (.complain error.message lines log)
  | (_, some _) => .error ⟨⟩

/-- Shows the next runs after a moment. -/
def nextReport (settings : Settings) (now : Moment) (expression : String)
    (timezone : Option String) (count : Option Int) : Except ReportError Report :=
  let zone := resolveTimezone (Value.ofText? timezone) (moduleValue settings)
  match Schedule.parse expression with
  | .error error => .ok (.complain error.message [] [])
  | .ok schedule =>
    match count with
    | none => .error .noCount
    | some count =>
      match upcomingRuns schedule.listing zone now count.toNat with
      | .ok runs => (shownRuns runs zone.plain).mapError .outOfCalendar
      | .error (.timezone error) => .ok (.complain error.message [] [])
      | .error (.search .outOfCalendar) => .error (.outOfCalendar ⟨⟩)
      | .error (.search error) => .ok (.fatal error.message)

/-- The log entry for an expression that cannot be described. -/
def undescribed (expression : String) (error : ParseError) : LogRecord :=
  ⟨"scheduler.cron_parser", .debug,
    "Could not describe cron expression '" ++ expression ++ "': " ++ error.message⟩

/-- Describes an expression in words; one that is no schedule describes itself. -/
def describeReport (expression : String) : Report :=
  match Crontab.describe expression with
  | .ok description => { lines := [description] }
  | .error error => { lines := [expression], log := [undescribed expression error] }

/-- Runs a command at a moment. -/
def Command.report (command : Command) (settings : Settings) (now : Moment) :
    Except ReportError Report :=
  match command with
  | .parse expression => .ok (parseReport expression)
  | .validate expression timezone =>
    (validateReport settings now expression timezone).mapError .outOfCalendar
  | .next expression timezone count => nextReport settings now expression timezone count
  | .describe expression => .ok (describeReport expression)

/-! ## Command lines -/

/-- How a command line ends. -/
inductive Ending
  /-- The command was run at a threshold for the log. -/
  | ran (threshold : LogLevel) (report : Report)
  | stopped (stop : Stop)
deriving DecidableEq, Repr

/-- Why a command line has no proper end. -/
inductive RunError
  | settings (faults : List Fault)
  | help (cause : TemplateError)
  | level (cause : LevelError)
  | report (cause : ReportError)
deriving DecidableEq, Repr

/-- The help text that shows a default of the settings, if a page has one. -/
def Page.template? (page : Page) (settings : Settings) : Option String :=
  match page with
  | .program => some ("Logging level (default: " ++ settings.logLevel ++ ")")
  | .command "next" => some ("Timezone (default: " ++ settings.timezone.zone ++ ")")
  | .command _ => none

/-- Checks a page of help, whose text has to be a template. -/
def Page.check (page : Page) (settings : Settings) : Except TemplateError Unit :=
  match page.template? settings with
  | some template => checkTemplate template
  | none => .ok ()

/-- How a command line ends that is not carried out. -/
def Stop.ending (stop : Stop) (settings : Settings) : Except RunError Ending :=
  match stop with
  | .usage => .ok (.stopped .usage)
  | .help page =>
    match page.check settings with
    | .ok _ => .ok (.stopped (.help page))
    | .error cause => .error (.help cause)

/-- The level that is in force: the given one, or the one of the settings. -/
def levelWord (settings : Settings) (given : Option String) : String :=
  match given with
  | some word => if word.isEmpty then settings.logLevel else word
  | none => settings.logLevel

/-- Runs an invocation.  Only the events that reach the threshold are kept. -/
def Invocation.run (invocation : Invocation) (settings : Settings) (now : Moment) :
    Except RunError Ending :=
  match LogLevel.read (levelWord settings invocation.logLevel) with
  | .error cause => .error (.level cause)
  | .ok threshold =>
    match invocation.command.report settings now with
    | .error cause => .error (.report cause)
    | .ok report =>
      .ok (.ran threshold { report with log := report.log.filter (·.reaches threshold) })

/-- Runs a command line with the settings of an environment. -/
def runArguments (environment : List (String × String)) (arguments : List String) (now : Moment) :
    Except RunError Ending :=
  match Settings.ofEnvironment environment with
  | .error faults => .error (.settings faults)
  | .ok settings =>
    match Invocation.ofArguments arguments with
    | .error stop => stop.ending settings
    | .ok invocation => invocation.run settings now

/-- The exit code of a command line that is not carried out. -/
def Stop.code : Stop → Nat
  | .help _ => 0
  | .usage => 2

end Crontab.Cli
