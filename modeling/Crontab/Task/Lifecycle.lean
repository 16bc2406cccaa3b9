import Crontab.Task.Codec

/-!
# The life of a task record

A store turns a task into a record when it is added, merges partial updates into the record, and
hands out copies.  A record has an identifier, a time zone, and the moments at which it was created
and last updated; the latter grows with every update, whatever the clock says.

* `Issuer` — the source of identifiers;
* `Task.create` — the record of a new task;
* `Task.update` — a record after a partial update;
* `Task.clone` — a copy of a record;
* `LifecycleError` — the causes of failure.
-/

namespace Crontab

open Time Text

/-! ## Errors -/

/-- A level of a partial update. -/
inductive UpdatePart
  | task
  | options
  | metadata
deriving DecidableEq, Repr

/-- Why a task cannot be recorded or updated. -/
inductive LifecycleError
  /-- What stands in the place of the options or the metadata lacks an attribute. -/
  | missingAttribute
  /-- What stands in the place of the options or the metadata is no record. -/
  | notARecord
  /-- The moment of the last update is naive or no moment at all. -/
  | notComparable
  | notAMapping (part : UpdatePart)
  | unknownNames (part : UpdatePart) (names : List String)
  | unknownStatus (given : Value)
  | outOfCalendar

namespace UpdatePart

/-- The wording of a part that is no mapping. -/
def notAMappingMessage : UpdatePart → String
  | .task => "updates must be a mapping"
  | .options => "options update must be a mapping"
  | .metadata => "metadata update must be a mapping"

/-- What the names of a part are called. -/
def label : UpdatePart → String
  | .task => "task"
  | .options => "option"
  | .metadata => "metadata"

/-- The names that a part knows. -/
def names : UpdatePart → List String
  | .task => Task.names
  | .options => TaskOptions.names
  | .metadata => TaskMetadata.names

end UpdatePart

/-- The wording of names that a part does not know. -/
def unknownNamesMessage (part : UpdatePart) (names : List String) : String :=
  "Unknown " ++ part.label ++ " field(s): " ++ ", ".intercalate names

/-- The wording of a value that is no status. -/
def unknownStatusMessage (given : Value) : String :=
  given.literal ++ " is not a valid TaskStatus"

/-! ## Identifiers -/

/-- The source of identifiers: the number of those that were issued. -/
structure Issuer where
  issued : Nat
deriving DecidableEq, Repr

namespace Issuer

/-- The source that has not issued anything. -/
def initial : Issuer := ⟨0⟩

/-- The identifier of a number: 32 hexadecimal digits in five groups. -/
def identifier (n : Nat) : String :=
  let digits := hexadecimal 32 n
  String.ofList
    (['-'].intercalate
      [digits.take 8, (digits.drop 8).take 4, (digits.drop 12).take 4, (digits.drop 16).take 4,
       digits.drop 20])

/-- The next identifier, and the source after it was issued. -/
def issue (issuer : Issuer) : String × Issuer :=
  (identifier (issuer.issued + 1), ⟨issuer.issued + 1⟩)

end Issuer

/-- The key under which a store keeps the record of an identifier. -/
def storeKey (keyPrefix id : Value) : String :=
  keyPrefix.plain ++ id.plain

/-! ## Moments of a record -/

/-- A moment that is not naive, or `null`: naive moments are read in universal time, and anything
else does not count. -/
def awareMoment : Value → Value
  | .moment moment => .moment (moment.orOnClock .universal)
  | _ => .null

/-- The moment of an update: now, or a microsecond after the last update if the clock has not moved
beyond that. -/
def advance (now : Moment) (previous : Value) : Except LifecycleError Moment :=
  match previous with
  | .null => .ok now
  | .moment last =>
    match now.instant?, last.instant? with
    | some a, some b =>
      if a ≤ b then
        match last.later? 1 with
        | .ok moment => .ok moment
        | .error _ => .error .outOfCalendar
      else .ok now
    | _, _ => .error .notComparable
  | _ => .error .notComparable

/-! ## Creation -/

/-- The zone of a record: the given one, the stored one, or universal time. -/
def recordZone (given stored : Value) : Value :=
  given.orElse (stored.orElse (.text "UTC"))

/-- The options of a new record. -/
def createOptions : Slot TaskOptions → Except LifecycleError TaskOptions
  | .filled options => .ok { options with timezone := recordZone .null options.timezone }
  | .other value =>
    match value.attribute? "timezone" with
    | some _ => .error .notARecord
    | none => .error .missingAttribute

/-- The metadata of a new record, from those that the task comes with. -/
def TaskMetadata.created (source : TaskMetadata) (now : Moment) : TaskMetadata :=
  { runCount := if source.runCount.isNull then .int 0 else source.runCount
    lastRun := awareMoment source.lastRun
    nextRun := awareMoment source.nextRun
    lastError := source.lastError
    createdAt := .moment now
    updatedAt := .moment now }

/-- The metadata of a new record. -/
def createMetadata (slot : Slot TaskMetadata) (now : Moment) :
    Except LifecycleError TaskMetadata :=
  match slot.metadataOrNone with
  | .filled metadata => .ok (metadata.created now)
  | .other value =>
    match attributesUnder? value ["run_count", "last_run", "next_run", "last_error"] with
    | some fields => .ok ((TaskMetadata.ofFields fields).created now)
    | none => .error .missingAttribute

/-- The identifier of a new record: the given one, the task's own, or a new one. -/
def chooseIdentifier (given own : Value) (issuer : Issuer) : Value × Issuer :=
  if given.isTruthy then (given, issuer)
  else if own.isTruthy then (own, issuer)
  else
    let (id, next) := issuer.issue
    (.text id, next)

/-- The record of a new task, and the source of identifiers afterwards. -/
def Task.create (task : Task) (given : Value) (now : Moment) (issuer : Issuer) :
    Except LifecycleError Task × Issuer :=
  match createOptions task.options with
  | .error e => (.error e, issuer)
  | .ok options =>
    let (id, next) := chooseIdentifier given task.id issuer
    match createMetadata task.metadata now with
    | .error e => (.error e, next)
    | .ok metadata =>
      (.ok
        { task with
          id := id
          status := task.status.orElse (.status .pending)
          options := .filled options
          metadata := .filled metadata },
       next)

/-! ## Updates -/

/-- The fields of a part of an update, all of whose names have to be known. -/
def updateFields (part : UpdatePart) (given : Value) : Except LifecycleError (Fields Value) :=
  match given with
  | .mapping fields =>
    let unknown := (Fields.names fields).filter fun name => !part.names.contains name
    if unknown.isEmpty then .ok fields
    else .error (.unknownNames part (unknown.mergeSort fun a b => !decide (b < a)))
  | _ => .error (.notAMapping part)

/-- The options after an update; `null` is no update. -/
def updateOptions (slot : Slot TaskOptions) (given : Value) :
    Except LifecycleError (Slot TaskOptions) :=
  if given.isNull then .ok slot
  else do
    let fields ← updateFields .options given
    match slot with
    | .other _ => .error .notARecord
    | .filled options =>
      let zone := recordZone ((fields.get? "timezone").getD .null) options.timezone
      .ok (.filled { options.replaced fields with timezone := zone })

/-- A moment after an update: the given one if it is a moment, and the stored one otherwise. -/
def updateMoment (given : Option Value) (stored : Value) : Value :=
  match given with
  | none => stored
  | some value => (awareMoment value).orElse stored

/-- The metadata after an update at a moment.  The moments of creation and update are not taken from
the update, and something that is no moment does not replace one. -/
def TaskMetadata.updated (metadata : TaskMetadata) (fields : Fields Value) (now : Moment) :
    Except LifecycleError TaskMetadata := do
  let moment ← advance now metadata.updatedAt
  pure
    { runCount := (fields.get? "run_count").getD metadata.runCount
      lastRun := updateMoment (fields.get? "last_run") metadata.lastRun
      nextRun := updateMoment (fields.get? "next_run") metadata.nextRun
      lastError := (fields.get? "last_error").getD metadata.lastError
      createdAt := metadata.createdAt
      updatedAt := .moment moment }

/-- Whether an update asks for a stored moment that a value does not have. -/
def lacksMoment (value : Value) (fields : Fields Value) (name : String) : Bool :=
  fields.has name && (awareMoment ((fields.get? name).getD .null)).isNull &&
    (value.attribute? name).isNone

/-- The metadata after an update at a moment; `null` is an update of nothing but the moment. -/
def updateMetadata (slot : Slot TaskMetadata) (given : Value) (now : Moment) :
    Except LifecycleError TaskMetadata := do
  let fields ← if given.isNull then pure [] else updateFields .metadata given
  match slot.metadataOrNone with
  | .filled metadata => metadata.updated fields now
  | .other value =>
    if lacksMoment value fields "last_run" || lacksMoment value fields "next_run" then
      .error .missingAttribute
    else .error .notARecord

/-- The status after an update. -/
def updateStatus (given : Option Value) (stored : Value) : Except LifecycleError Value :=
  match given with
  | none => .ok stored
  | some value =>
    match value.text?.bind Status.ofName? with
    | some status => .ok (.status status)
    | none => .error (.unknownStatus value)

/-- A record after a partial update at a moment.  The identifier stays. -/
def Task.update (task : Task) (updates : Value) (now : Moment) : Except LifecycleError Task := do
  let fields ← updateFields .task updates
  let status ← updateStatus (fields.get? "status") task.status
  let options ← updateOptions task.options ((fields.get? "options").getD .null)
  let metadata ← updateMetadata task.metadata ((fields.get? "metadata").getD .null) now
  pure
    { id := task.id
      name := (fields.get? "name").getD task.name
      status := status
      execute := (fields.get? "execute").getD task.execute
      options := options
      metadata := .filled metadata }

/-! ## Copies -/

/-- A copy of a record; options and metadata have to be records themselves. -/
def Task.clone (task : Task) : Except LifecycleError Task :=
  match task.options, task.metadata with
  | .filled _, .filled _ | .filled _, .other .null => .ok task
  | _, _ => .error .notARecord

end Crontab
