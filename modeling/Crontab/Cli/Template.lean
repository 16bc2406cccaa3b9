import Crontab.Text.Quoted

/-!
# Help texts as templates

A help text is a template: a percent sign starts a directive, which may name a parameter in brackets,
has flags, a width, a precision and a size as far as it likes, and ends with the letter of a
conversion.  The value that a directive converts is that of the parameter it names or, if none was
named yet, all parameters together; it can be converted once.  A text is scanned once from left to
right, and the first fault counts.

* `Place`, `Source` — where in a directive a scan stands, and what there is to convert;
* `Scan.step`, `checkTemplate` — the scan;
* `TemplateError`, `TemplateFault` — the causes of failure.
-/

namespace Crontab.Cli

open Crontab.Text

-- Powers are those of the core library, wherever this is read.
attribute [local instance (high)] instPowNat

/-! ## Parameters -/

/-- The kind of a parameter, as far as conversions tell kinds apart. -/
inductive Kind
  | number
  | other
deriving DecidableEq, Repr

/-- The parameters of a help text with their kinds. -/
def parameters : List (String × Kind) :=
  [("option_strings", .other), ("dest", .other), ("nargs", .other), ("const", .other),
   ("default", .other), ("type", .other), ("choices", .other), ("required", .number),
   ("help", .other), ("metavar", .other), ("container", .other), ("prog", .other)]

/-- The kind of the parameter of a given name. -/
def parameterKind? (name : List Char) : Option Kind :=
  (parameters.find? (·.1.toList = name)).map (·.2)

/-- What there is to convert. -/
inductive Source
  | value (kind : Kind)
  | spent
deriving DecidableEq, Repr

/-! ## Errors -/

/-- What is wrong with the form of a template. -/
inductive TemplateFault
  | incompleteKey
  | incomplete
  | widthTooBig
  | precisionTooBig
  /-- The letter at a place, counted from zero, is no conversion. -/
  | unsupported (letter : Char) (place : Nat)
deriving DecidableEq, Repr

/-- The wording of a fault. -/
def TemplateFault.message : TemplateFault → String
  | .incompleteKey => "incomplete format key"
  | .incomplete => "incomplete format"
  | .widthTooBig => "width too big"
  | .precisionTooBig => "precision too big"
  | .unsupported letter place =>
    let shown := if 31 ≤ letter.toNat ∧ letter.toNat ≤ 126 then letter else '?'
    "unsupported format character \x27" ++ String.singleton shown ++ "\x27 (0x" ++
      String.ofList (hexadecimal 1 letter.toNat) ++ ") at index " ++ toString place

/-- Why a template cannot be filled. -/
inductive TemplateError
  /-- No parameter has the name. -/
  | unknownName
  /-- A conversion does not take the value, or there is no value left. -/
  | badValue
  | form (fault : TemplateFault)
deriving DecidableEq, Repr

/-! ## The scan -/

/-- Where in a directive a scan stands. -/
inductive Place
  /-- Outside of directives. -/
  | outside
  /-- Behind the percent sign. -/
  | start
  /-- In the name of a parameter, of which the characters so far are given in reverse, inside a
  number of brackets. -/
  | name (depth : Nat) (characters : List Char)
  | flags
  | width (n : Nat)
  | afterWidth
  | point
  | precision (n : Nat)
  | afterPrecision
  | afterSize
deriving DecidableEq, Repr

/-- A scan: its place in a directive, what there is to convert, and the number of characters that
were read. -/
structure Scan where
  place : Place := .outside
  source : Source := .value .other
  count : Nat := 0
deriving DecidableEq, Repr

/-- The greatest width. -/
def widthLimit : Nat := 2 ^ (63 : Nat) - 1

/-- The greatest precision. -/
def precisionLimit : Nat := 2 ^ (31 : Nat) - 1

/-- Whether a letter converts values of every kind. -/
def isTextConversion (c : Char) : Bool :=
  c = 's' || c = 'r' || c = 'a'

/-- Whether a letter converts numbers only. -/
def isNumberConversion (c : Char) : Bool :=
  "diuoxXeEfFgGc".toList.contains c

/-- A number with another digit, unless it gets too big. -/
def appendDigit (limit n : Nat) (c : Char) (fault : TemplateFault) : Except TemplateError Nat :=
  let next := n * 10 + (c.toNat - '0'.toNat)
  if limit < next then .error (.form fault) else .ok next

namespace Scan

/-- The scan at another place. -/
def move (scan : Scan) (place : Place) : Except TemplateError Scan :=
  .ok { scan with place }

/-- The scan after what there is to convert was converted. -/
def spend (scan : Scan) (place : Place) : Except TemplateError Scan :=
  .ok { scan with place, source := .spent }

/-- Reads the letter of a conversion. -/
def conversion (scan : Scan) (c : Char) : Except TemplateError Scan :=
  match scan.source with
  | .spent => .error .badValue
  | .value kind =>
    if isTextConversion c then scan.spend .outside
    else if isNumberConversion c then
      if kind = .number then scan.spend .outside else .error .badValue
    else .error (.form (.unsupported c scan.count))

/-- Reads a size or what comes behind it. -/
def size (scan : Scan) (c : Char) : Except TemplateError Scan :=
  if c = 'h' || c = 'l' || c = 'L' then scan.move .afterSize else scan.conversion c

/-- Reads the point in front of a precision or what comes behind it. -/
def fraction (scan : Scan) (c : Char) : Except TemplateError Scan :=
  if c = '.' then scan.move .point else scan.size c

/-- Reads a star, which takes a number for a width or a precision. -/
def star (scan : Scan) (place : Place) : Except TemplateError Scan :=
  if scan.source = .value .number then scan.spend place else .error .badValue

/-- Reads the start of a width or what comes behind it. -/
def startWidth (scan : Scan) (c : Char) : Except TemplateError Scan :=
  if c = '*' then scan.star .afterWidth
  else if c.isDigit then scan.move (.width (c.toNat - '0'.toNat))
  else scan.fraction c

/-- Reads a flag or what comes behind it. -/
def flag (scan : Scan) (c : Char) : Except TemplateError Scan :=
  if c = '-' || c = '+' || c = ' ' || c = '#' || c = '0' then scan.move .flags else scan.startWidth c

/-- Reads the last bracket of the name of a parameter. -/
def named (scan : Scan) (characters : List Char) : Except TemplateError Scan :=
  match parameterKind? characters.reverse with
  | none => .error .unknownName
  | some kind => .ok { scan with place := .flags, source := .value kind }

/-- Reads a character. -/
def read (scan : Scan) (c : Char) : Except TemplateError Scan :=
  match scan.place with
  | .outside => if c = '%' then scan.move .start else .ok scan
  | .start =>
    if c = '%' then scan.move .outside
    else if c = '(' then scan.move (.name 0 [])
    else scan.flag c
  | .name depth characters =>
    if c = ')' then
      match depth with
      | 0 => scan.named characters
      | depth + 1 => scan.move (.name depth (c :: characters))
    else if c = '(' then scan.move (.name (depth + 1) (c :: characters))
    else scan.move (.name depth (c :: characters))
  | .flags => scan.flag c
  | .width n =>
    if c.isDigit then
      (appendDigit widthLimit n c .widthTooBig).map fun n => { scan with place := .width n }
    else scan.fraction c
  | .afterWidth => scan.fraction c
  | .point =>
    if c = '*' then scan.star .afterPrecision
    else if c.isDigit then scan.move (.precision (c.toNat - '0'.toNat))
    else scan.size c
  | .precision n =>
    if c.isDigit then
      (appendDigit precisionLimit n c .precisionTooBig).map fun n =>
        { scan with place := .precision n }
    else scan.size c
  | .afterPrecision => scan.size c
  | .afterSize => scan.conversion c

/-- Reads a character and counts it. -/
def step (scan : Scan) (c : Char) : Except TemplateError Scan :=
  (scan.read c).map fun scan => { scan with count := scan.count + 1 }

/-- Ends a scan, which must not stand in a directive. -/
def finish (scan : Scan) : Except TemplateError Unit :=
  match scan.place with
  | .outside => .ok ()
  | .name _ _ => .error (.form .incompleteKey)
  | _ => .error (.form .incomplete)

end Scan

/-- Checks whether a template can be filled. -/
def checkTemplate (template : String) : Except TemplateError Unit := do
  let scan ← template.toList.foldlM Scan.step {}
  scan.finish

end Crontab.Cli
