import Crontab.Text.DecimalDigit

/-!
# The words of a command line

A command line is a list of words.  One that starts with a hyphen may be a switch, by its name or an
unambiguous start of a long name; a value may be attached to it with an equals sign, or without one
to a short name.  After a word of two hyphens there are no more switches.

* `Switch` — a switch with its purpose;
* `Word` — what a word of a command line is;
* `readWords` — the words of a command line, given the switches it may hold.
-/

namespace Crontab.Cli

open Crontab.Text

/-- What a switch is for: asking for help, or giving the value of a name. -/
inductive Purpose
  | help
  | value (name : String)
deriving DecidableEq, Repr

/-- A switch: its name with the hyphens, and its purpose. -/
structure Switch where
  name : String
  purpose : Purpose
deriving DecidableEq, Repr

/-- What is attached to a switch: nothing, the rest of a short name's word, or what follows an equals
sign. -/
inductive Attachment
  | nothing
  | joined (text : List Char)
  | assigned (text : List Char)
deriving DecidableEq, Repr

/-- What a word of a command line is. -/
inductive Word
  | separator
  | plain (text : String)
  | switch (purpose : Purpose) (attachment : Attachment)
  | unknownSwitch
deriving DecidableEq, Repr

/-- What help can be about: the program as a whole or one of its commands. -/
inductive Page
  | program
  | command (name : String)
deriving DecidableEq, Repr

/-- Why a command line is not carried out: it asks for help, or it is not well formed. -/
inductive Stop
  | help (page : Page)
  | usage
deriving DecidableEq, Repr

/-- Whether a text consists of decimal digits of any script. -/
def areDigits (text : List Char) : Bool :=
  text.all fun c => (decimalDigit? c).isSome

/-- A text without one line feed at its end. -/
def withoutLineFeed (text : List Char) : List Char :=
  if text.getLast? = some '\n' then text.dropLast else text

/-- Whether a word is a negative number: a hyphen and digits, or a hyphen, a point with digits behind
it and perhaps digits in front of it.  A line feed at the end does not count. -/
def isNegativeNumber : List Char → Bool
  | '-' :: rest =>
    let text := withoutLineFeed rest
    let whole := text.takeWhile (· ≠ '.')
    match text.dropWhile (· ≠ '.') with
    | [] => !whole.isEmpty && areDigits whole
    | _ :: fraction => areDigits whole && !fraction.isEmpty && areDigits fraction
  | _ => false

/-- A text up to its first equals sign, and what follows it if there is one. -/
def splitAssignment (text : List Char) : List Char × Attachment :=
  match text.dropWhile (· ≠ '=') with
  | [] => (text, .nothing)
  | _ :: value => (text.takeWhile (· ≠ '='), .assigned value)

/-- The switch of a given name. -/
def switchNamed? (switches : List Switch) (name : List Char) : Option Switch :=
  switches.find? (·.name.toList = name)

/-- What an equals sign attaches to a switch: to a short name it joins what follows, if anything
does. -/
def Switch.assign (switch : Switch) (value : List Char) : Attachment :=
  if switch.name.length = 2 && !value.isEmpty then .joined value else .assigned value

/-- The switches that a word may stand for without being the name of one: a long name may be cut
short, and the word of a short name may go on. -/
def candidates (switches : List Switch) (text : List Char) : List Word :=
  match text with
  | '-' :: '-' :: _ =>
    let (start, attachment) := splitAssignment text
    (switches.filter fun switch => start.isPrefixOf switch.name.toList).map fun switch =>
      .switch switch.purpose attachment
  | _ =>
    (switches.filter (·.name.toList = text.take 2)).map fun switch =>
      .switch switch.purpose (.joined (text.drop 2))

/-- What a word that starts with a hyphen and is not the name of a switch is.  A negative number and
a word with a space are plain. -/
def readOtherWord (switches : List Switch) (text : String) : Except Stop Word :=
  match candidates switches text.toList with
  | [word] => .ok word
  | [] =>
    if isNegativeNumber text.toList || text.toList.contains ' ' then .ok (.plain text)
    else .ok .unknownSwitch
  | _ => .error .usage

/-- What a word is. -/
def readWord (switches : List Switch) (text : String) : Except Stop Word :=
  if text.toList.head? ≠ some '-' then .ok (.plain text)
  else
    match switchNamed? switches text.toList with
    | some switch => .ok (.switch switch.purpose .nothing)
    | none =>
      if text.length = 1 then .ok (.plain text)
      else
        match splitAssignment text.toList with
        | (name, .assigned value) =>
          match switchNamed? switches name with
          | some switch => .ok (.switch switch.purpose (switch.assign value))
          | none => readOtherWord switches text
        | _ => readOtherWord switches text

/-- The words of a command line. -/
def readWords (switches : List Switch) : List String → Except Stop (List Word)
  | [] => .ok []
  | text :: rest =>
    if text = "--" then .ok (.separator :: rest.map .plain)
    else do
      let word ← readWord switches text
      let words ← readWords switches rest
      pure (word :: words)

/-- How a command line ends at a switch that asks for help about something, which takes no value.  The
letters behind its short name are switches as well, and there is no other short name. -/
def stopOfHelp (page : Page) : Attachment → Stop
  | .nothing => .help page
  | .assigned _ => .usage
  | .joined text => if text.all (· = 'h') then .help page else .usage

end Crontab.Cli
