import Crontab.Proofs.Data.Outcomes
import Crontab.Proofs.Task.Whole
import Crontab.Store.Procedure

/-!
# Procedures

A procedure that breaks off on its way may have changed the state by then.  One that follows what is
done as a whole has not: whatever can fail comes before the first change, or is undone with it.

* `Procedure.runFrom_bind`, … — what the steps of a procedure lead to;
* `Procedure.Follows` — procedures that do what is done as a whole, or break off without a trace;
* `Procedure.Follows.bind`, … — such procedures in two steps;
* `Procedure.Follows.transaction` — transactions.
-/

namespace Crontab

open Time

namespace Procedure

/-! ## Steps -/

section steps

variable {σ α β : Type} {state : σ}

/-- Looking at the state leads to the state, which stays as it is. -/
theorem runFrom_get (state : σ) : runFrom (get : Procedure σ σ) state = (.ok state, state) := rfl

/-- Setting the state leads to that state. -/
theorem runFrom_set (next state : σ) :
    runFrom (set next : Procedure σ PUnit) state = (.ok ⟨⟩, next) := rfl

/-- Changing the state leads to the changed state. -/
theorem runFrom_modify (f : σ → σ) (state : σ) :
    runFrom (modify f : Procedure σ PUnit) state = (.ok ⟨⟩, f state) := rfl

/-- A step that succeeds is followed by the next one, and one that fails ends the procedure. -/
theorem runFrom_bind (p : Procedure σ α) (f : α → Procedure σ β) (state : σ) :
    runFrom (p >>= f) state =
      match runFrom p state with
      | (.ok a, next) => runFrom (f a) next
      | (.error cause, next) => (.error cause, next) := by
  simp only [runFrom, bind, ExceptT.bind, ExceptT.mk, StateT.bind]
  cases p state with
  | mk result next => cases result <;> rfl

/-- After a first part that succeeds, a procedure goes on from its result. -/
theorem runFrom_bind_of_ok {p : Procedure σ α} {a : α} {next : σ}
    (h : runFrom p state = (.ok a, next)) (f : α → Procedure σ β) :
    runFrom (p >>= f) state = runFrom (f a) next := by
  rw [runFrom_bind, h]

/-- After a first part that fails, a procedure has failed. -/
theorem runFrom_bind_of_error {p : Procedure σ α} {cause : Breakdown} {next : σ}
    (h : runFrom p state = (.error cause, next)) (f : α → Procedure σ β) :
    runFrom (p >>= f) state = (.error cause, next) := by
  rw [runFrom_bind, h]

/-- Steps that succeed together succeed one by one. -/
theorem runFrom_bind_eq_ok {p : Procedure σ α} {f : α → Procedure σ β} {b : β} {last : σ} :
    runFrom (p >>= f) state = (.ok b, last) ↔
      ∃ a next, runFrom p state = (.ok a, next) ∧ runFrom (f a) next = (.ok b, last) := by
  constructor
  · intro h
    cases hStep : runFrom p state with
    | mk result next =>
      cases result with
      | error cause =>
        rw [runFrom_bind_of_error hStep] at h
        cases h
      | ok a =>
        rw [runFrom_bind_of_ok hStep] at h
        exact ⟨a, next, rfl, h⟩
  · rintro ⟨a, next, hStep, hNext⟩
    rw [runFrom_bind_of_ok hStep, hNext]

/-- Where two steps lead: the second one starts where the first one has led to, unless that failed. -/
theorem runFrom_bind_state {P : σ → Prop} {p : Procedure σ α} {f : α → Procedure σ β}
    (hFirst : P (runFrom p state).2)
    (hNext : ∀ a next, runFrom p state = (.ok a, next) → P next → P (runFrom (f a) next).2) :
    P (runFrom (p >>= f) state).2 := by
  cases hRun : runFrom p state with
  | mk result next =>
    rw [hRun] at hFirst
    cases result with
    | error cause =>
      rw [runFrom_bind_of_error hRun]
      exact hFirst
    | ok a =>
      rw [runFrom_bind_of_ok hRun]
      exact hNext a next hRun hFirst

/-- If each item leaves the state as it is, then so do all items one after the other. -/
theorem runFrom_mapM {f : α → Procedure σ β} {g : α → β} {items : List α}
    (h : ∀ item ∈ items, runFrom (f item) state = (.ok (g item), state)) :
    runFrom (items.mapM f) state = (.ok (items.map g), state) := by
  induction items with
  | nil => rfl
  | cons item items ih =>
    rw [List.forall_mem_cons] at h
    rw [List.mapM_cons, runFrom_bind_of_ok h.1, runFrom_bind_of_ok (ih h.2)]
    rfl

/-- Attempts that only look at their items leave the state as it is. -/
theorem runFrom_mapM_attempt (f : α → Except StoreError β) (items : List α) (state : σ) :
    runFrom (items.mapM fun item => attempt (f item)) state =
      ((items.mapM f).mapError .store, state) := by
  induction items with
  | nil => rfl
  | cons item items ih =>
    rw [List.mapM_cons, List.mapM_cons]
    cases hItem : f item with
    | error cause => rfl
    | ok b =>
      have hStep : runFrom (attempt (.ok b) : Procedure σ β) state = (.ok b, state) := rfl
      rw [runFrom_bind_of_ok hStep, ok_bind, runFrom_bind, ih]
      cases items.mapM f <;> rfl

end steps

/-! ## Keys and messages -/

section messages

variable {σ : Type} {keyPrefix id : Value} {record : Task}

/-- A printable value is shown as its text. -/
theorem runFrom_shown {value : Value} (h : value.isPrintable = true) (state : σ) :
    runFrom (shown value) state = (.ok value.plain, state) := by
  rw [shown, if_pos h]
  rfl

/-- What is shown is the text of a printable value. -/
theorem runFrom_shown_eq_ok {value : Value} {state next : σ} {text : String}
    (h : runFrom (shown value) state = (.ok text, next)) :
    value.isPrintable = true ∧ text = value.plain ∧ next = state := by
  rw [shown] at h
  split at h
  · next hValue =>
    obtain ⟨hText, hNext⟩ := Prod.mk.inj h
    exact ⟨hValue, (Except.ok.inj hText).symm, hNext.symm⟩
  · cases h

/-- Showing a value leaves the state as it is, whether it succeeds or not. -/
theorem runFrom_shown_state (value : Value) (state : σ) :
    (runFrom (shown value) state).2 = state := by
  rw [shown]
  split <;> rfl

/-- A printable identifier has its key. -/
theorem runFrom_keyOf (hPrefix : keyPrefix.isPrintable = true) (hId : id.isPrintable = true)
    (state : σ) :
    runFrom (keyOf keyPrefix id) state = (.ok (storeKey keyPrefix id), state) := by
  rw [keyOf, runFrom_bind_of_ok (runFrom_shown hPrefix state),
    runFrom_bind_of_ok (runFrom_shown hId state)]
  rfl

/-- What has a key is printable, and has its own. -/
theorem runFrom_keyOf_eq_ok {state next : σ} {key : String}
    (h : runFrom (keyOf keyPrefix id) state = (.ok key, next)) :
    id.isPrintable = true ∧ key = storeKey keyPrefix id ∧ next = state := by
  rw [keyOf, runFrom_bind_eq_ok] at h
  obtain ⟨start, _, hStart, h⟩ := h
  obtain ⟨-, rfl, rfl⟩ := runFrom_shown_eq_ok hStart
  rw [runFrom_bind_eq_ok] at h
  obtain ⟨text, _, hText, h⟩ := h
  obtain ⟨hId, rfl, rfl⟩ := runFrom_shown_eq_ok hText
  obtain ⟨hKey, hNext⟩ := Prod.mk.inj h
  exact ⟨hId, (Except.ok.inj hKey).symm, hNext.symm⟩

/-- Making a key changes nothing. -/
theorem runFrom_keyOf_state (keyPrefix id : Value) (state : σ) :
    (runFrom (keyOf keyPrefix id) state).2 = state := by
  refine runFrom_bind_state (P := (· = state)) (runFrom_shown_state _ _) fun _ next _ hPrefix => ?_
  obtain rfl := hPrefix
  exact runFrom_bind_state (P := (· = next)) (runFrom_shown_state _ _) fun _ _ _ hId => hId

/-- A record with a printable name and a printable identifier is reported. -/
theorem runFrom_report (hName : record.name.isPrintable = true) (hId : id.isPrintable = true)
    (state : σ) : runFrom (report record id) state = (.ok (), state) := by
  rw [report, runFrom_bind_of_ok (runFrom_shown hName state),
    runFrom_bind_of_ok (runFrom_shown hId state)]
  rfl

/-- Making a message changes nothing. -/
theorem runFrom_report_state (record : Task) (id : Value) (state : σ) :
    (runFrom (report record id) state).2 = state := by
  refine runFrom_bind_state (P := (· = state)) (runFrom_shown_state _ _) fun _ next _ hName => ?_
  obtain rfl := hName
  exact runFrom_bind_state (P := (· = next)) (runFrom_shown_state _ _) fun _ _ _ hId => hId

/-- A whole record is copied as it is. -/
theorem runFrom_copied (h : record.IsWhole) (state : σ) :
    runFrom (copied record) state = (.ok record, state) := by
  rw [copied, h.clone]
  rfl

end messages

/-! ## Procedures and what is done as a whole -/

section follows

variable {σ α β : Type} {state own : σ}

/-- What a procedure leads to is what is done as a whole, a failure leaving the state as it was; or
the procedure has broken off for a value without a text, and has left the state as it was. -/
inductive Follows (state : σ) : Except StoreError (α × σ) → Except Breakdown α × σ → Prop
  | ok (a : α) (next : σ) : Follows state (.ok (a, next)) (.ok a, next)
  | error (cause : StoreError) : Follows state (.error cause) (.error (.store cause), state)
  | unprintable (whole : Except StoreError (α × σ)) :
    Follows state whole (.error .unprintable, state)

namespace Follows

/-- If a procedure succeeds, so does what is done as a whole. -/
theorem eq_ok {x : Except StoreError (α × σ)} {a : α} {next : σ}
    (h : Follows state x (.ok a, next)) : x = .ok (a, next) := by
  cases h with
  | ok => rfl

/-- What does nothing with the state as a whole leaves it as it was. -/
theorem state_of_map {x : Except StoreError α} {run : Except Breakdown α × σ}
    (h : Follows state (x.map fun a => (a, state)) run) : run.2 = state := by
  cases x with
  | error cause => cases h <;> rfl
  | ok a => cases h <;> rfl

/-- A procedure that succeeds follows its own result. -/
theorem of_run {p : Procedure σ α} {a : α} {next : σ} (h : runFrom p own = (.ok a, next)) :
    Follows state (.ok (a, next)) (runFrom p own) := by
  rw [h]
  exact .ok a next

/-- Showing a value leads to its text, or breaks off if it has none. -/
theorem shown (value : Value) (state : σ) :
    Follows state (.ok (value.plain, state)) (runFrom (shown value) state) := by
  rw [Procedure.shown]
  split
  · exact .ok _ state
  · exact .unprintable _

/-- A procedure in two steps: the second one goes on from where the first one has led to, but if it
fails, then in the state before the first one. -/
theorem bind {p : Procedure σ α} {f : α → Procedure σ β} {x : Except StoreError (α × σ)}
    {y : Except StoreError (β × σ)} (h : Follows state x (runFrom p own))
    (hError : ∀ cause, x = .error cause → y = .error cause)
    (hNext : ∀ a next, x = .ok (a, next) → runFrom p own = (.ok a, next) →
      Follows state y (runFrom (f a) next)) :
    Follows state y (runFrom (p >>= f) own) := by
  generalize hRun : runFrom p own = run at h
  cases h with
  | ok a next =>
    rw [runFrom_bind_of_ok hRun]
    exact hNext a next rfl hRun
  | error cause =>
    rw [runFrom_bind_of_error hRun, hError cause rfl]
    exact .error cause
  | unprintable =>
    rw [runFrom_bind_of_error hRun]
    exact .unprintable y

/-- The steps after a first one that cannot fail. -/
theorem bind_ok {p : Procedure σ α} {f : α → Procedure σ β} {y : Except StoreError (β × σ)} {a : α}
    {next : σ} (h : Follows state (.ok (a, next)) (runFrom p own))
    (hNext : runFrom p own = (.ok a, next) → Follows state y (runFrom (f a) next)) :
    Follows state y (runFrom (p >>= f) own) :=
  h.bind (fun _ hCause => nomatch hCause) fun _ _ hResult hRun => by
    obtain ⟨rfl, rfl⟩ := Prod.mk.inj (Except.ok.inj hResult)
    exact hNext hRun

/-- The steps after a first one whose result is told by what another computation gives. -/
theorem bind_map {γ : Type} {p : Procedure σ α} {f : α → Procedure σ β} {x : Except StoreError γ}
    {result : γ → α × σ} {y : Except StoreError (β × σ)}
    (h : Follows state (x.map result) (runFrom p own))
    (hError : ∀ cause, x = .error cause → y = .error cause)
    (hNext : ∀ c, x = .ok c → runFrom p own = (.ok (result c).1, (result c).2) →
      Follows state y (runFrom (f (result c).1) (result c).2)) :
    Follows state y (runFrom (p >>= f) own) := by
  cases x with
  | error cause => exact h.bind (fun _ hOther => Except.error.inj hOther ▸ hError cause rfl) nofun
  | ok c => exact h.bind_ok (hNext c rfl)

/-- The steps after a failure or a result that has nothing to do with the state. -/
theorem bind_attempt {f : α → Procedure σ β} {x : Except StoreError α}
    {y : Except StoreError (β × σ)} (hError : ∀ cause, x = .error cause → y = .error cause)
    (hNext : ∀ a, x = .ok a → Follows state y (runFrom (f a) state)) :
    Follows state y (runFrom (Procedure.attempt x >>= f) state) := by
  cases x with
  | error cause =>
    rw [hError cause rfl]
    exact .error cause
  | ok a => exact hNext a rfl

/-- The steps after a key was made. -/
theorem bind_keyOf {keyPrefix id : Value} {f : String → Procedure σ β}
    {y : Except StoreError (β × σ)}
    (hNext : id.isPrintable = true → Follows state y (runFrom (f (storeKey keyPrefix id)) state)) :
    Follows state y (runFrom (keyOf keyPrefix id >>= f) state) := by
  have hKey : Follows state (.ok (storeKey keyPrefix id, state))
      (runFrom (keyOf keyPrefix id) state) :=
    bind_ok (shown keyPrefix state) fun _ => bind_ok (shown id state) fun _ => .ok _ state
  exact hKey.bind_ok fun hRun => hNext (runFrom_keyOf_eq_ok hRun).1

/-- The steps after the state was read. -/
theorem bind_get {f : σ → Procedure σ β} {y : Except StoreError (β × σ)}
    (hNext : Follows state y (runFrom (f own) own)) :
    Follows state y (runFrom (get >>= f) own) := by
  rwa [runFrom_bind_of_ok (runFrom_get own)]

end Follows

end follows

section encoded

variable {σ β : Type} {state : σ} {record : Task} {f : Fields Value → Procedure σ β}
  {y : Except StoreError (β × σ)}

/-- The steps after the mapping of a record was made. -/
theorem Follows.bind_encoded
    (hNone : record.encode? = none → y = .error (.unwritable .missingAttribute))
    (hNext : ∀ fields, record.encode? = some fields → Follows state y (runFrom (f fields) state)) :
    Follows state y (runFrom (encoded record >>= f) state) := by
  rw [encoded]
  split
  · next fields metadata hFields hMetadata =>
    rw [bind_assoc, failureMessage]
    split
    · exact hNext fields hFields
    · exact (shown metadata.lastError state).bind_ok fun _ => hNext fields hFields
  · next hMissing =>
    have hEncode : record.encode? = none := by
      cases hFields : record.encode? with
      | none => rfl
      | some fields =>
        have hParts := hFields
        simp only [Task.encode?, Option.bind_eq_bind, Option.bind_eq_some_iff] at hParts
        obtain ⟨options, -, metadata, hMetadata, -⟩ := hParts
        exact (hMissing fields metadata hFields hMetadata).elim
    rw [hNone hEncode]
    exact .error _

end encoded

/-! ## Transactions -/

end Procedure

/-- The rows of a table after columns were written one after the other. -/
def Table.putAll (table : Table) : List Columns → Except StoreError Table
  | [] => .ok table
  | columns :: rest => columns.toRow >>= fun row => Table.putAll (table.put row) rest

namespace Procedure

section transactions

variable {α : Type} {table : Table} {body : Procedure Transaction α}

/-- What fails is handled in the state that it has led to. -/
theorem runFrom_tryCatch {σ : Type} (p : Procedure σ α) (handle : Breakdown → Procedure σ α)
    (state : σ) :
    runFrom (tryCatch p handle) state =
      match runFrom p state with
      | (.ok a, next) => (.ok a, next)
      | (.error cause, next) => runFrom (handle cause) next := by
  simp only [runFrom, tryCatch, tryCatchThe, MonadExceptOf.tryCatch, ExceptT.tryCatch, ExceptT.mk,
    bind, StateT.bind]
  cases p state with
  | mk result next => cases result <;> rfl

/-- A transaction keeps what its procedure and the commit have left to be kept. -/
theorem runFrom_inTransaction (body : Procedure Transaction α) (table : Table) :
    runFrom (inTransaction body) table =
      match runFrom (body >>= fun a => Transaction.commit >>= fun _ => pure a) (.begin table) with
      | (result, last) => (result, last.kept) := by
  rw [inTransaction, runFrom_bind_of_ok (runFrom_get table)]
  dsimp only
  rw [runFrom_tryCatch]
  cases runFrom (body >>= fun a => Transaction.commit >>= fun _ => pure a) (.begin table) with
  | mk result last => cases result <;> rfl

/-- The procedure of a transaction that succeeds has succeeded. -/
theorem runFrom_inTransaction_eq_ok {a : α} {next : Table}
    (h : runFrom (inTransaction body) table = (.ok a, next)) :
    ∃ last, runFrom body (.begin table) = (.ok a, last) := by
  rw [runFrom_inTransaction] at h
  cases hRun : runFrom (body >>= fun a => Transaction.commit >>= fun _ => pure a) (.begin table) with
  | mk result last =>
    rw [hRun] at h
    obtain rfl := (Prod.mk.inj h).1
    obtain ⟨own, middle, hBody, hRest⟩ := runFrom_bind_eq_ok.1 hRun
    obtain ⟨_, _, -, hPure⟩ := runFrom_bind_eq_ok.1 hRest
    obtain rfl := Except.ok.inj (Prod.mk.inj hPure).1
    exact ⟨middle, hBody⟩

/-- What is in line is written, or some of it up to the first columns that make no row. -/
theorem runFrom_flush (pending : List Columns) (transaction : Transaction) :
    ∃ rows, runFrom (Transaction.flush pending) transaction =
        (((Table.putAll transaction.rows pending).map fun _ => ()).mapError .store,
          { transaction with rows }) ∧
      ∀ written, Table.putAll transaction.rows pending = .ok written → rows = written := by
  induction pending generalizing transaction with
  | nil => exact ⟨transaction.rows, rfl, fun _ hWritten => Except.ok.inj hWritten⟩
  | cons columns pending ih =>
    rw [Transaction.flush, Table.putAll]
    cases hRow : columns.toRow with
    | error cause => exact ⟨transaction.rows, rfl, nofun⟩
    | ok row => exact ih { transaction with rows := transaction.rows.put row }

namespace Follows

/-- **Transactions.** A procedure that changes nothing before it may fail is followed by a commit; if
the commit fails, too, nothing is kept. -/
theorem transaction {x : Except StoreError (α × Transaction)} {y : Except StoreError (α × Table)}
    (h : Follows (.begin table) x (runFrom body (.begin table)))
    (hError : ∀ cause, x = .error cause → y = .error cause)
    (hNext : ∀ a last, x = .ok (a, last) →
      last.kept = table ∧ y = (Table.putAll last.rows last.pending).map (a, ·)) :
    Follows table y (runFrom (inTransaction body) table) := by
  rw [runFrom_inTransaction]
  generalize hRun : runFrom body (.begin table) = run at h
  cases h with
  | error cause =>
    rw [runFrom_bind_of_error hRun, hError cause rfl]
    exact .error cause
  | unprintable =>
    rw [runFrom_bind_of_error hRun]
    exact .unprintable y
  -- the table is kept until the commit, which writes all pending rows or none of them
  | ok a last =>
    obtain ⟨hKept, rfl⟩ := hNext a last rfl
    obtain ⟨rows, hFlush, hRows⟩ := runFrom_flush last.pending last
    rw [runFrom_bind_of_ok hRun, Transaction.commit, bind_assoc, runFrom_bind_of_ok (runFrom_get last),
      bind_assoc, runFrom_bind, hFlush]
    cases hWritten : Table.putAll last.rows last.pending with
    | error cause =>
      rw [← hKept]
      exact .error cause
    | ok written =>
      rw [hRows written hWritten]
      exact .ok a written

/-- A transaction whose procedure puts other rows in place at its end. -/
theorem transaction_rows {x : Except StoreError (α × Table)}
    (h : Follows (.begin table) (x.map fun result => (result.1, ⟨table, result.2, []⟩))
      (runFrom body (.begin table))) :
    Follows table x (runFrom (inTransaction body) table) := by
  cases x with
  | error cause =>
    refine h.transaction (fun own hCause => ?_) nofun
    exact congrArg Except.error (Except.error.inj hCause)
  | ok result =>
    refine h.transaction nofun fun a last hLast => ?_
    obtain ⟨rfl, rfl⟩ := Prod.mk.inj (Except.ok.inj hLast)
    exact ⟨rfl, rfl⟩

end Follows

end transactions

end Procedure

end Crontab
