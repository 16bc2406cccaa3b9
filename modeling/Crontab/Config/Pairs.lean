import Crontab.Value.Basic

/-!
# Mappings from pairs

Where a mapping is asked for, a sequence of pairs does as well: each pair is a name and a value, and
of several pairs with the same name the last one counts.  Every value with members counts as a
sequence: texts have characters, octets have numbers, mappings have their names, and options have
pairs.

* `Value.members?` — the members of a value;
* `fieldsOfPairs` — the mapping of a sequence of pairs;
* `PairFault` — the causes of failure.
-/

namespace Crontab

/-- The members of a value that counts as a sequence. -/
def Value.members? : Value → Option (List Value)
  | .text s => some (s.toList.map fun c => .text (String.singleton c))
  | .status s => some (s.name.toList.map fun c => .text (String.singleton c))
  | .bytes s => some (s.toUTF8.toList.map fun octet => .int octet.toNat)
  | .list items | .tuple items => some items
  | .mapping fields => some (fields.map fun (name, _) => .text name)
  | .timezoneOptions patch =>
    some (patch.fill.attributes.map fun (name, value) => .tuple [.text name, value])
  | .storageOptions patch =>
    some (patch.fill.attributes.map fun (name, value) => .tuple [.text name, value])
  | .moduleOptions patch =>
    some (patch.attributes.map fun (name, value) => .tuple [.text name, value])
  | _ => none

/-- Why a value is no sequence of pairs. -/
inductive PairFault
  /-- The value, or one of its members, has no members. -/
  | notASequence
  /-- The first member of a pair cannot be a key. -/
  | notAKey
  /-- A member at some place, counted from zero, has not two members. -/
  | notAPair (place length : Nat)
deriving DecidableEq, Repr

/-- The wording of a member that is no pair. -/
def notAPairMessage (place length : Nat) : String :=
  "dictionary update sequence element #" ++ toString place ++ " has length " ++ toString length ++
    "; 2 is required"

/-- The pair at a place; nothing if its first member is no name. -/
def readPair (place : Nat) (member : Value) : Except PairFault (Option (String × Value)) :=
  match member.members? with
  | none => .error .notASequence
  | some [key, value] =>
    if key.canBeKey then
      match key with
      | .text name => .ok (some (name, value))
      | _ => .ok none
    else .error .notAKey
  | some members => .error (.notAPair place members.length)

/-- The named pairs among the members from a place on. -/
def readPairs (place : Nat) : List Value → Except PairFault (List (String × Value))
  | [] => .ok []
  | member :: rest => do
    let first ← readPair place member
    let others ← readPairs (place + 1) rest
    pure (first.toList ++ others)

/-- The mapping of a sequence of pairs. -/
def fieldsOfPairs (value : Value) : Except PairFault (Fields Value) :=
  match value.members? with
  | none => .error .notASequence
  | some members => (readPairs 0 members).map Fields.ofPairs

end Crontab
