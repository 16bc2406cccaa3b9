import Crontab.Cli.Words
import Crontab.Data.Fields
import Crontab.Text.Integer

/-!
# Command lines

A command line names a command, with an expression and the values that the command knows.  In front
of the command a level for the log may be given.

* `Command`, `Invocation` — what a command line asks for;
* `Invocation.ofArguments` — the invocation of a command line, or how it ends without one.
-/

namespace Crontab.Cli

open Crontab.Text

/-- What the program can be asked to do. -/
inductive Command
  /-- Show the values of the fields of an expression. -/
  | parse (expression : String)
  /-- Check an expression and a zone. -/
  | validate (expression : String) (timezone : Option String)
  /-- Show the next runs; their number may have been taken back. -/
  | next (expression : String) (timezone : Option String) (count : Option Int)
  /-- Describe an expression in words. -/
  | describe (expression : String)
deriving DecidableEq, Repr

/-- A command, and the level of the log if one is given. -/
structure Invocation where
  logLevel : Option String
  command : Command
deriving DecidableEq, Repr

/-- How the program is used. -/
def usage : String :=
  "usage: crontab [--log-level LEVEL] parse EXPRESSION\n" ++
  "       crontab [--log-level LEVEL] validate EXPRESSION [--timezone ZONE]\n" ++
  "       crontab [--log-level LEVEL] next EXPRESSION [--timezone ZONE] [--count COUNT]\n" ++
  "       crontab [--log-level LEVEL] describe EXPRESSION"

/-- The integer that a word stands for. -/
def integerOfWord? (word : String) : Option Int :=
  (readInteger word.toList).toOption

/-! ## The words of a command -/

/-- The switches that ask for help. -/
def helpSwitches : List Switch :=
  [⟨"-h", .help⟩, ⟨"--help", .help⟩]

/-- The switch for the zone. -/
def timezoneSwitch : Switch := ⟨"--timezone", .value "timezone"⟩

/-- The switch for the number of runs. -/
def countSwitch : Switch := ⟨"--count", .value "count"⟩

/-- The switch for the level of the log. -/
def logLevelSwitch : Switch := ⟨"--log-level", .value "log-level"⟩

/-- What the words of a command hold: its operand, the values by name, and whether words are left
over.  A value that was taken back is missing. -/
structure Gathered where
  operand : Option String := none
  values : Fields (Option String) := []
  surplus : Bool := false

/-- Whether a value may be given for a name: the number of runs has to be an integer. -/
def isValueFor (name value : String) : Bool :=
  name != "count" || (integerOfWord? value).isSome

/-- The value that is attached to a switch with an equals sign.  Two hyphens are a separator, which
takes the value back. -/
def assignedValue? (text : List Char) : Option String :=
  if text = ['-', '-'] then none else some (String.ofList text)

namespace Gathered

/-- With a value for a name, or without one. -/
def withValue (gathered : Gathered) (name : String) (value : Option String) :
    Except Stop Gathered :=
  if value.all (isValueFor name) then
    .ok { gathered with values := gathered.values.put name value }
  else .error .usage

/-- With a plain word, which is the operand if there is none yet. -/
def withPlain (gathered : Gathered) (text : String) : Gathered :=
  if gathered.operand.isSome then { gathered with surplus := true }
  else { gathered with operand := some text }

/-- With a word that is left over. -/
def withSurplus (gathered : Gathered) : Gathered :=
  { gathered with surplus := true }

end Gathered

/-- Goes through the words of a command.  A separator may stand in front of the operand or right
behind it. -/
def gather (page : Page) (gathered : Gathered) : List Word → Except Stop Gathered
  | [] => .ok gathered
  | .plain text :: .separator :: rest =>
    if gathered.operand.isSome then gather page gathered.withSurplus rest
    else gather page (gathered.withPlain text) rest
  | .plain text :: rest => gather page (gathered.withPlain text) rest
  | .separator :: rest =>
    gather page (if gathered.operand.isSome then gathered.withSurplus else gathered) rest
  | .unknownSwitch :: rest => gather page gathered.withSurplus rest
  | .switch .help attachment :: _ => .error (stopOfHelp page attachment)
  | .switch (.value name) .nothing :: .plain text :: rest =>
    match gathered.withValue name (some text) with
    | .ok gathered => gather page gathered rest
    | .error stop => .error stop
  | .switch (.value _) .nothing :: _ => .error .usage
  | .switch (.value name) (.assigned text) :: rest
  | .switch (.value name) (.joined text) :: rest =>
    match gathered.withValue name (assignedValue? text) with
    | .ok gathered => gather page gathered rest
    | .error stop => .error stop

/-- The operand and the values in the words of a command, none of which may be left over. -/
def readOperand (command : String) (switches : List Switch) (arguments : List String) :
    Except Stop (String × Fields (Option String)) := do
  let words ← readWords (helpSwitches ++ switches) arguments
  let gathered ← gather (.command command) {} words
  match gathered.operand with
  | some operand => if gathered.surplus then .error .usage else .ok (operand, gathered.values)
  | none => .error .usage

/-- The number of runs that are shown unless another one is given. -/
def defaultCount : Int := 5

/-- The number of runs among the values of a command. -/
def countIn (values : Fields (Option String)) : Option Int :=
  match values.get? "count" with
  | none => some defaultCount
  | some given => given.bind integerOfWord?

/-- The command of a given name with its arguments. -/
def Command.ofArguments (name : String) (arguments : List String) : Except Stop Command :=
  match name with
  | "parse" => (readOperand name [] arguments).map fun (expression, _) => .parse expression
  | "validate" =>
    (readOperand name [timezoneSwitch] arguments).map fun (expression, values) =>
      .validate expression (values.get? "timezone").join
  | "next" =>
    (readOperand name [timezoneSwitch, countSwitch] arguments).map fun (expression, values) =>
      .next expression (values.get? "timezone").join (countIn values)
  | "describe" => (readOperand name [] arguments).map fun (expression, _) => .describe expression
  | _ => .error .usage

/-! ## The whole command line -/

/-- Goes through the words of a command line up to the command. -/
def readInvocation (logLevel : Option String) (surplus : Bool) :
    List (Word × String) → Except Stop Invocation
  | (.plain name, _) :: rest =>
    match Command.ofArguments name (rest.map (·.2)) with
    | .ok command => if surplus then .error .usage else .ok ⟨logLevel, command⟩
    | .error stop => .error stop
  | (.unknownSwitch, _) :: rest => readInvocation logLevel true rest
  | (.switch .help attachment, _) :: _ => .error (stopOfHelp .program attachment)
  | (.switch (.value _) .nothing, _) :: (.plain text, _) :: rest =>
    readInvocation (some text) surplus rest
  | (.switch (.value _) (.assigned text), _) :: rest
  | (.switch (.value _) (.joined text), _) :: rest =>
    readInvocation (assignedValue? text) surplus rest
  | _ => .error .usage

/-- The invocation of a command line. -/
def Invocation.ofArguments (arguments : List String) : Except Stop Invocation := do
  let words ← readWords (helpSwitches ++ [logLevelSwitch]) arguments
  readInvocation none false (words.zip arguments)

end Crontab.Cli
