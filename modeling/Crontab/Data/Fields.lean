/-!
# Fields in order

A record of named values that remembers the order in which its names first appeared.

* `Fields.get?` — the value under a name;
* `Fields.put` — gives a name a value: in place if the name is present, at the end if not;
* `Fields.ofPairs` — the record of a list of pairs, of which the last one of a name counts;
* `Fields.erase` — removes a name.
-/

namespace Crontab

/-- Named values in the order in which the names first appeared. -/
abbrev Fields (α : Type) := List (String × α)

namespace Fields

variable {α : Type}

/-- The value under a name. -/
def get? : Fields α → String → Option α
  | [], _ => none
  | (key, value) :: rest, name => if key = name then some value else get? rest name

/-- Whether a name is present. -/
def has (fields : Fields α) (name : String) : Bool :=
  (fields.get? name).isSome

/-- The names, in order. -/
def names (fields : Fields α) : List String :=
  fields.map (·.1)

/-- Gives a name a value: in place if the name is present, at the end if not. -/
def put : Fields α → String → α → Fields α
  | [], name, value => [(name, value)]
  | (key, old) :: rest, name, value =>
    if key = name then (key, value) :: rest else (key, old) :: put rest name value

/-- The record of a list of pairs, of which the last one of a name counts. -/
def ofPairs (pairs : List (String × α)) : Fields α :=
  pairs.foldl (fun fields pair => fields.put pair.1 pair.2) []

/-- Removes a name. -/
def erase (fields : Fields α) (name : String) : Fields α :=
  fields.filter (·.1 ≠ name)

/-- After a name is given a value, it has that value and every other name keeps its own. -/
theorem get?_put (fields : Fields α) (name other : String) (value : α) :
    (fields.put name value).get? other = if name = other then some value else fields.get? other := by
  induction fields with
  | nil => simp [put, get?]
  | cons pair rest ih =>
    obtain ⟨key, old⟩ := pair
    by_cases h : key = name
    · subst h
      by_cases h' : key = other <;> simp [put, get?, h']
    · by_cases h' : key = other
      · subst h'
        simp [put, get?, h, Ne.symm h]
      · simp [put, get?, h, h', ih]

end Fields

end Crontab
