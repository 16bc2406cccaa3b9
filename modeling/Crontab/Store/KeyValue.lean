import Crontab.Store.Medium

/-!
# Records in a key-value server

A server keeps texts under keys, for any number of stores.  A store writes its records as JSON texts
under keys with a start of its own, and finds its keys by a search pattern in which that start is
taken literally.

* `TextMap` — the texts of a server, and its commands `get`, `set`, `delete` and `scan`;
* `scanPattern` — the search pattern for the keys with a given start;
* `keyValueMedium` — the medium of a store on such a server.
-/

namespace Crontab

/-! ## The server -/

/-- Texts by key, in the order in which the keys were first used.  A key may stand without a text. -/
abbrev TextMap := Fields (Option String)

namespace TextMap

/-- The text under a key. -/
def get (texts : TextMap) (key : String) : Option String :=
  (Fields.get? texts key).join

/-- Puts a text under a key. -/
def set (texts : TextMap) (key text : String) : TextMap :=
  Fields.put texts key (some text)

/-- Removes a key, and tells whether there was a text under it. -/
def delete (texts : TextMap) (key : String) : Bool × TextMap :=
  ((TextMap.get texts key).isSome, Fields.erase texts key)

/-- The text without its backslashes in front of other characters; one in front of a line feed
stays. -/
def unescape : List Char → List Char
  | '\\' :: c :: rest => if c = '\n' then '\\' :: c :: unescape rest else c :: unescape rest
  | c :: rest => c :: unescape rest
  | [] => []

/-- What the keys that a pattern finds start with: the pattern without a star at its end and without
its backslashes. -/
def patternStart (pattern : List Char) : List Char :=
  unescape (if pattern.getLast? = some '*' then pattern.dropLast else pattern)

/-- The keys that a pattern finds, in order. -/
def scan (texts : TextMap) (pattern : List Char) : List String :=
  (Fields.names texts).filter fun key => (patternStart pattern).isPrefixOf key.toList

end TextMap

/-! ## Search patterns -/

/-- Whether a character has a meaning of its own in a search pattern. -/
def isPatternChar (c : Char) : Bool :=
  c = '*' || c = '?' || c = '[' || c = ']' || c = '\\'

/-- The pattern for the keys with a given start: the start with a backslash in front of every
character that has a meaning of its own, and a star. -/
def scanPattern (start : String) : List Char :=
  start.toList.flatMap (fun c => if isPatternChar c then ['\\', c] else [c]) ++ ['*']

/-- The keys of a store. -/
def storeKeys (keyPrefix : Value) (texts : TextMap) : Except StoreError (List String) :=
  (searchedStart keyPrefix).map fun start => TextMap.scan texts (scanPattern start)

/-! ## The medium -/

/-- The task in the text under a key. -/
def readRecord (key text : String) : Except StoreError Task :=
  (Task.read text).mapError (.corrupt key)

/-- The task under a key, if there is a text that is not empty. -/
def readKey (texts : TextMap) (key : String) : Except StoreError (Option Task) :=
  match TextMap.get texts key with
  | none => .ok none
  | some text => if text.isEmpty then .ok none else (readRecord key text).map some

/-- The task under a key, if there is a text that is a task. -/
def readableRecord? (texts : TextMap) (key : String) : Option Task :=
  (TextMap.get texts key).bind fun text => (readRecord key text).toOption

/-- Keeps records on a key-value server, under the given start of their keys. -/
def keyValueMedium (keyPrefix : Value) : Medium TextMap where
  find texts id := readKey texts (storeKey keyPrefix id)
  list texts := (storeKeys keyPrefix texts).map (·.filterMap (readableRecord? texts))
  save texts task :=
    match task.write with
    | .error cause => .error (.unwritable cause)
    | .ok text => .ok (TextMap.set texts (storeKey keyPrefix task.id) text)
  remove texts id := .ok (TextMap.delete texts (storeKey keyPrefix id))
  clear texts := (storeKeys keyPrefix texts).map (·.foldl Fields.erase texts)

end Crontab
