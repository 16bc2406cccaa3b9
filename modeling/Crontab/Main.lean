import Crontab.Cli.Run
import Std.Time.DateTime.Timestamp

/-!
# The program

Reads the environment, the command line and the clock, and writes what a command gives: its output,
its complaint and its log.  The log goes to the standard error stream, and to a file if the settings
name one.
-/

namespace Crontab.Cli

open Crontab.Text Crontab.Time

/-- The moment that lies a number of microseconds after the beginning of 1970. -/
def momentOfEpoch (microseconds : Int) : Moment :=
  .universal ((Wall.ofCount? (epoch * second + microseconds)).getD .first)

/-- The time of a log entry, in milliseconds. -/
def logTime (moment : Moment) : String :=
  let shown := moment.isoChars.map fun c => if c = 'T' then ' ' else c
  String.ofList (shown.take 19 ++ ',' :: padded 3 (moment.wall.microsecond / 1000))

/-- The directory of a path, if it has one. -/
def directoryOf? (path : String) : Option String :=
  match path.toList.reverse.dropWhile (· ≠ '/') with
  | _ :: rest => if rest.isEmpty then none else some (String.ofList rest.reverse)
  | [] => none

/-- The settings that the environment holds, by the name of the variable. -/
def readEnvironment : IO (List (String × String)) := do
  let mut environment := []
  for setting in Settings.names do
    let name := Settings.variableStart ++ setting
    for spelling in [name, name.toUpper] do
      if let some value ← IO.getEnv spelling then
        environment := environment ++ [(spelling, value)]
  pure environment

/-- Writes the lines of the log to the standard error stream and to the file of the settings. -/
def writeLog (path : String) (lines : List String) : IO Unit := do
  let error ← IO.getStderr
  lines.forM fun line => error.putStrLn line
  if path.isEmpty then pure ()
  else do
    if let some directory := directoryOf? path then IO.FS.createDirAll directory
    let file ← IO.FS.Handle.mk path .append
    lines.forM fun line => file.putStrLn line

/-- Writes a report. -/
def writeReport (logFile : String) (now : Moment) (report : Report) : IO Unit := do
  report.lines.forM IO.println
  let error ← IO.getStderr
  if let some message := report.complaint then error.putStrLn (complaintLine message)
  writeLog logFile (report.log.map fun record => logTime now ++ " - " ++ record.line)

/-- The wording of an error that ends the program. -/
def RunError.message : RunError → String
  | .settings faults =>
    "\n".intercalate (faults.map fun fault => ".".intercalate fault.path ++ ": " ++ fault.fault.name)
  | .help .unknownName => "Unknown name in a help text"
  | .help .badValue => "Wrong value in a help text"
  | .help (.form fault) => fault.message
  | .level .form => formMessage
  | .level _ => "Unknown log level"
  | .report .noCount => "No number of runs"
  | .report (.outOfCalendar _) => "date value out of range"

/-- Runs the command line, and gives the exit code. -/
def runProgram (arguments : List String) : IO UInt32 := do
  let timestamp ← Std.Time.Timestamp.now
  let now := momentOfEpoch (timestamp.toNanosecondsSinceUnixEpoch.val / 1000)
  let environment ← readEnvironment
  let error ← IO.getStderr
  match runArguments environment arguments now with
  | .error cause =>
    error.putStrLn cause.message
    pure 1
  | .ok (.stopped stop) =>
    error.putStrLn usage
    pure stop.code.toUInt32
  | .ok (.ran _ report) =>
    let logFile := (Settings.ofEnvironment environment).toOption.map (·.logFile)
    writeReport (logFile.getD "") now report
    pure report.code.toUInt32

end Crontab.Cli

/-- The program. -/
def main (arguments : List String) : IO UInt32 :=
  Crontab.Cli.runProgram arguments
