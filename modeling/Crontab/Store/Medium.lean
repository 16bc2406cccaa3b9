import Crontab.Store.Error

/-!
# What keeps records

A medium keeps the records of a store.  The operations of a store are the same whatever the medium:
a task is turned into a record before it is saved, and an update reads a record, merges the changes
and saves the result.

* `Medium` — how records are found, listed, saved and removed;
* `Request`, `Reply` — the operations of a store and their answers;
* `Medium.perform` — carries out a request; one that fails leaves the records as they were.
-/

namespace Crontab

open Time

/-- How the records of a store are kept in a state. -/
structure Medium (σ : Type) where
  /-- The record of an identifier, if there is one. -/
  find : σ → Value → Except StoreError (Option Task)
  /-- All records. -/
  list : σ → Except StoreError (List Task)
  /-- Keeps a record under its identifier, in place of an earlier one. -/
  save : σ → Task → Except StoreError σ
  /-- Removes the record of an identifier, and tells whether there was one. -/
  remove : σ → Value → Except StoreError (Bool × σ)
  /-- Removes all records. -/
  clear : σ → Except StoreError σ

/-- An operation of a store. -/
inductive Request
  | add (task : Task)
  | get (id : Value)
  | getAll
  | update (id updates : Value)
  | remove (id : Value)
  | clear

/-- The answer to a request. -/
inductive Reply
  | recorded (record : Task)
  | found (record : Option Task)
  | listed (records : List Task)
  | removed (existed : Bool)
  | cleared

/-- What a request leads to: an answer or a failure, and what is kept afterwards. -/
structure Outcome (σ : Type) where
  reply : Except StoreError Reply
  state : σ
  issuer : Issuer

/-- The outcome of an attempt; a failure leaves the state as it was. -/
def Outcome.settle {σ : Type} (state : σ) (issuer : Issuer) :
    Except StoreError (Reply × σ) → Outcome σ
  | .ok (reply, next) => ⟨.ok reply, next, issuer⟩
  | .error cause => ⟨.error cause, state, issuer⟩

/-- The outcome with its state seen as part of another one. -/
def Outcome.map {σ τ : Type} (outcome : Outcome σ) (embed : σ → τ) : Outcome τ :=
  ⟨outcome.reply, embed outcome.state, outcome.issuer⟩

namespace Medium

variable {σ : Type}

/-- Saves the record of a new task, and gives the source of identifiers afterwards. -/
def add (medium : Medium σ) (state : σ) (task : Task) (now : Moment) (issuer : Issuer) :
    Except StoreError (Task × σ) × Issuer :=
  match task.create .null now issuer with
  | (.error cause, next) => (.error (.lifecycle cause), next)
  | (.ok record, next) => ((medium.save state record).map fun state => (record, state), next)

/-- Merges updates into the record of an identifier. -/
def update (medium : Medium σ) (state : σ) (id updates : Value) (now : Moment) :
    Except StoreError (Task × σ) :=
  match medium.find state id with
  | .error cause => .error cause
  | .ok none => .error (.notFound id)
  | .ok (some existing) =>
    match existing.update updates now with
    | .error cause => .error (.lifecycle cause)
    | .ok record => (medium.save state record).map fun state => (record, state)

/-- Carries out a request at a moment. -/
def perform (medium : Medium σ) (state : σ) (request : Request) (now : Moment) (issuer : Issuer) :
    Outcome σ :=
  match request with
  | .add task =>
    let (result, next) := medium.add state task now issuer
    .settle state next (result.map fun (record, state) => (.recorded record, state))
  | .get id => .settle state issuer ((medium.find state id).map fun record => (.found record, state))
  | .getAll => .settle state issuer ((medium.list state).map fun records => (.listed records, state))
  | .update id updates =>
    .settle state issuer
      ((medium.update state id updates now).map fun (record, state) => (.recorded record, state))
  | .remove id =>
    .settle state issuer
      ((medium.remove state id).map fun (existed, state) => (.removed existed, state))
  | .clear => .settle state issuer ((medium.clear state).map fun state => (.cleared, state))

/-- The medium of a store that is not connected: every operation fails. -/
def closed (kind : StorageKind) : Medium Unit where
  find _ _ := .error (.closed kind)
  list _ := .error (.closed kind)
  save _ _ := .error (.closed kind)
  remove _ _ := .error (.closed kind)
  clear _ := .error (.closed kind)

end Medium

end Crontab
