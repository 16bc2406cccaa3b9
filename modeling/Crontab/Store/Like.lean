/-!
# Search patterns of tables

In a pattern a percent sign stands for any characters and an underscore for any single one; a slash
takes the character after it literally.  The case of ASCII letters does not count, and both the
pattern and the text end at a NUL character.

* `likeMatches` — whether a text matches a pattern;
* `likePattern` — the pattern for the texts with a given start;
* `hasLikePrefix` — whether a text matches that pattern.
-/

namespace Crontab

/-- Whether two characters are the same but for the case of ASCII letters. -/
def sameLetter (a b : Char) : Bool :=
  a.toLower = b.toLower

/-- Whether the text or what is left of it after some of its characters satisfies a test. -/
def anyEnd (test : List Char → Bool) : List Char → Bool
  | [] => test []
  | c :: rest => test (c :: rest) || anyEnd test rest

/-- Whether a text matches a pattern, both without NUL characters. -/
def likeMatches : (pattern text : List Char) → Bool
  | [], text => text.isEmpty
  | '%' :: rest, text => anyEnd (likeMatches rest) text
  | '_' :: rest, text =>
    match text with
    | [] => false
    | _ :: text => likeMatches rest text
  | ['/'], _ => false
  | '/' :: c :: rest, text =>
    match text with
    | [] => false
    | d :: text => sameLetter c d && likeMatches rest text
  | c :: rest, text =>
    match text with
    | [] => false
    | d :: text => sameLetter c d && likeMatches rest text

/-- A text up to its first NUL character. -/
def beforeNul (text : List Char) : List Char :=
  text.takeWhile (·.toNat ≠ 0)

/-- Whether a character has a meaning of its own in a pattern. -/
def isLikeChar (c : Char) : Bool :=
  c = '%' || c = '_' || c = '/'

/-- The pattern for the texts with a given start: the start with a slash in front of every character
that has a meaning of its own, and a percent sign. -/
def likePattern (start : String) : List Char :=
  start.toList.flatMap (fun c => if isLikeChar c then ['/', c] else [c]) ++ ['%']

/-- The greatest size of a pattern, in bytes. -/
def likePatternLimit : Nat := 50000

/-- Whether the pattern for a given start is longer than a pattern may be. -/
def isLongLikePattern (start : String) : Bool :=
  decide (likePatternLimit < (String.ofList (likePattern start)).utf8ByteSize)

/-- Whether a text matches the pattern for a given start. -/
def hasLikePrefix (start text : String) : Bool :=
  likeMatches (beforeNul (likePattern start)) (beforeNul text.toList)

end Crontab
