import Crontab.Data.Fields
import Crontab.Text.Integer
import Crontab.Text.Percent

/-!
# URLs of databases

The URL of a database names a dialect and its drivers, and as far as it likes a user with a password,
a host with a port, a database, and options.  What follows the part that can be read does not matter.

* `DatabaseUrl` — the parts of a URL;
* `DatabaseUrl.ofChars` — the parts of the text of a URL;
* `UrlFault` — the causes of failure.
-/

namespace Crontab

open Text

/-- The parts of the URL of a database.  A user, a password or a host that is not named is empty, and
an option may have several values. -/
structure DatabaseUrl where
  dialect : String
  drivers : List String
  user : String
  password : String
  host : String
  port : Int
  database : Option String
  options : Fields (List String)
deriving DecidableEq, Repr

/-- Why a text is no URL of a database. -/
inductive UrlFault
  | malformed
  /-- A colon announces a port that is missing. -/
  | missingPort
  | port (fault : IntegerFault)
deriving DecidableEq, Repr

namespace DatabaseUrl

/-- Whether a character may stand in the name of a dialect or a driver, or between two of them.
Characters beyond ASCII count as letters if they can be printed. -/
def isNameChar (c : Char) : Bool :=
  c.isAlphanum || c = '_' || c = '+' || (0x80 ≤ c.toNat && isPrintable c)

/-- A text around the last of its at signs, if it has any. -/
def splitAtLast? (text : List Char) : Option (List Char × List Char) :=
  match text.reverse.dropWhile (· ≠ '@') with
  | _ :: front => some (front.reverse, (text.reverse.takeWhile (· ≠ '@')).reverse)
  | [] => none

/-- The user and the password in front of a host, and what follows them.  A user holds neither colons
nor slashes, a password no at sign. -/
def readUser (text : List Char) : (List Char × List Char) × List Char :=
  let user := text.takeWhile fun c => c ≠ ':' && c ≠ '/'
  let behind := text.drop user.length
  let password := (behind.drop 1).takeWhile (· ≠ '@')
  if behind.head? = some ':' && (behind.drop 1).contains '@' then
    ((user, password), (behind.drop 1).drop (password.length + 1))
  else
    match splitAtLast? user with
    | some (user, host) => ((user, []), host ++ behind)
    | none => (([], []), text)

/-- The text up to the last of its closing brackets, if it is not empty. -/
def bracketed? (text : List Char) : Option (List Char) :=
  match text.reverse.dropWhile (· ≠ ']') with
  | _ :: host => if host.isEmpty then none else some host.reverse
  | [] => none

/-- The host, which may stand in brackets, and what follows it. -/
def readHost (text : List Char) : List Char × List Char :=
  let plain := text.takeWhile fun c => c ≠ '/' && c ≠ ':' && c ≠ '?'
  match text with
  | '[' :: rest =>
    match bracketed? (rest.takeWhile fun c => c ≠ '/' && c ≠ '?') with
    | some host => (host, rest.drop (host.length + 1))
    | none => (plain, text.drop plain.length)
  | _ => (plain, text.drop plain.length)

/-- The port behind a colon, zero if there is no colon, and what follows it. -/
def readPort (text : List Char) : Except UrlFault (Int × List Char) :=
  match text with
  | ':' :: rest =>
    let digits := rest.takeWhile fun c => c ≠ '/' && c ≠ '?'
    if digits.isEmpty then .error .missingPort
    else
      match readInteger digits with
      | .ok port => .ok (port, rest.drop digits.length)
      | .error fault => .error (.port fault)
  | _ => .ok (0, text)

/-- The database behind a slash, if there is one, and what follows it. -/
def readDatabase (text : List Char) : Option (List Char) × List Char :=
  match text with
  | '/' :: rest => (some (rest.takeWhile (· ≠ '?')), rest.dropWhile (· ≠ '?'))
  | _ => (none, text)

/-- A part of a query without escapes; a plus sign stands for a space. -/
def optionText (text : List Char) : String :=
  String.ofList (Percent.unescape (text.map fun c => if c = '+' then ' ' else c))

/-- The option in a part of a query: a name, an equals sign and a value that is not empty. -/
def readOption? (text : List Char) : Option (String × String) :=
  match text.dropWhile (· ≠ '=') with
  | _ :: value =>
    if value.isEmpty then none
    else some (optionText (text.takeWhile (· ≠ '=')), optionText value)
  | [] => none

/-- The options with another value of one of them. -/
def addOption (options : Fields (List String)) (option : String × String) : Fields (List String) :=
  options.put option.1 ((options.get? option.1).getD [] ++ [option.2])

/-- The options behind a question mark, up to the end of the line. -/
def readOptions (text : List Char) : Fields (List String) :=
  match text with
  | '?' :: rest =>
    (((rest.takeWhile (· ≠ '\n')).splitOn '&').filterMap readOption?).foldl addOption []
  | _ => []

/-- The parts of the text of a URL. -/
def ofChars (text : List Char) : Except UrlFault DatabaseUrl :=
  let name := text.takeWhile isNameChar
  match name.splitOn '+', text.drop name.length with
  | dialect :: drivers, ':' :: '/' :: '/' :: rest =>
    if name.isEmpty then .error .malformed
    else
      let ((user, password), rest) := readUser rest
      let (host, rest) := readHost rest
      match readPort rest with
      | .error fault => .error fault
      | .ok (port, rest) =>
        let (database, rest) := readDatabase rest
        .ok
          { dialect := String.ofList dialect
            drivers := drivers.map String.ofList
            user := String.ofList user
            password := String.ofList password
            host := String.ofList host
            port := port
            database := database.map String.ofList
            options := readOptions rest }
  | _, _ => .error .malformed

end DatabaseUrl

end Crontab
