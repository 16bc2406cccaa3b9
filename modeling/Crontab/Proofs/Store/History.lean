import Crontab.Proofs.Store.Equivalence
import Crontab.Proofs.Store.Recall

/-!
# The history of a record

From its creation on a record keeps its identifier and its stamps in order, in every store and
whatever else the store keeps: the moment of its last update grows with every update, even if the
clock is set back, and what is found of it tells the same as what was recorded last.

* `Store.WorksOn`, `Store.exists_worksOn` — every store works on a medium that retains records;
* `Session.Recalls` — the record of an identifier is found with its stamps;
* `Session.recalls_add`, `Session.Recalls.update` — one request;
* `Session.Recalls.run` — a run of updates;
* `Session.stamps_inOrder` — the history of a record.
-/

namespace Crontab

open Time

/-! ## Media of stores -/

/-- The store carries out a request on a medium in a given state, and answers from what the medium
keeps then. -/
structure Store.WorksOn {σ : Type} (store : Store) (hosts : Hosts) (medium : Medium σ) (state : σ)
    (embed : σ → Store × Hosts) : Prop where
  perform : ∀ request now issuer, store.perform hosts request now issuer =
    (medium.perform state request now issuer).map embed
  reply : ∀ next request now issuer,
    ((embed next).1.perform (embed next).2 request now issuer).reply =
      (medium.perform next request now issuer).reply

/-- Every store works on a medium that retains records. -/
theorem Store.exists_worksOn (store : Store) (hosts : Hosts) :
    ∃ (σ : Type) (medium : Medium σ) (state : σ) (embed : σ → Store × Hosts),
      medium.Retains ∧ store.WorksOn hosts medium state embed := by
  cases store with
  | memory keyPrefix records =>
    exact ⟨_, memoryMedium keyPrefix, records, fun next => (.memory keyPrefix next, hosts),
      retains_memoryMedium keyPrefix, fun _ _ _ => rfl, fun _ _ _ _ => rfl⟩
  | redis keyPrefix address connected =>
    cases connected with
    | true =>
      exact ⟨_, keyValueMedium keyPrefix, hosts.texts,
        fun next => (.redis keyPrefix address true, { hosts with texts := next }),
        retains_keyValueMedium keyPrefix, fun _ _ _ => rfl, fun _ _ _ _ => rfl⟩
    | false =>
      exact ⟨_, Medium.closed .redis, (), fun _ => (.redis keyPrefix address false, hosts),
        retains_closed .redis, fun _ _ _ => rfl, fun _ _ _ _ => rfl⟩
  | database keyPrefix address connection =>
    cases connection with
    | closed =>
      exact ⟨_, Medium.closed .database, (), fun _ => (.database keyPrefix address .closed, hosts),
        retains_closed .database, fun _ _ _ => rfl, fun _ _ _ _ => rfl⟩
    | memory table =>
      exact ⟨_, tableMedium keyPrefix, table,
        fun next => (.database keyPrefix address (.memory next), hosts),
        retains_tableMedium keyPrefix, fun _ _ _ => rfl, fun _ _ _ _ => rfl⟩
    | file path =>
      refine ⟨_, tableMedium keyPrefix, hosts.file path,
        fun next => (.database keyPrefix address (.file path), hosts.withFile path next),
        retains_tableMedium keyPrefix, fun _ _ _ => rfl, fun next request now issuer => ?_⟩
      rw [Store.perform, file_withFile]
      rfl

section requests

variable {σ : Type} {medium : Medium σ} {state : σ} {id updates : Value} {existing record : Task}
  {now : Moment} {issuer : Issuer}

/-- An update that leads to a record is saved. -/
theorem Medium.perform_update (hFind : medium.find state id = .ok (some existing))
    (hUpdate : existing.update updates now = .ok record) :
    medium.perform state (.update id updates) now issuer =
      .settle state issuer ((medium.save state record).map fun kept => (.recorded record, kept)) := by
  rw [perform, update_found hFind, hUpdate]
  have hOk : (Except.ok record : Except LifecycleError Task).mapError StoreError.lifecycle =
      .ok record := rfl
  rw [hOk, ok_bind]
  cases medium.save state record <;> rfl

/-- An update that a record refuses leaves a medium as it was. -/
theorem Medium.perform_update_error {cause : LifecycleError}
    (hFind : medium.find state id = .ok (some existing))
    (hUpdate : existing.update updates now = .error cause) :
    medium.perform state (.update id updates) now issuer =
      .settle state issuer (.error (.lifecycle cause)) := by
  rw [perform, update_found hFind, hUpdate]
  rfl

/-- A request for a record is answered with what the medium finds. -/
theorem Medium.reply_get_eq_ok {found : Option Task} :
    (medium.perform state (.get id) now issuer).reply = .ok (.found found) ↔
      medium.find state id = .ok found := by
  constructor
  · intro h
    rw [Medium.perform] at h
    cases hFind : medium.find state id with
    | error cause =>
      rw [hFind] at h
      cases h
    | ok own =>
      rw [hFind] at h
      rw [Reply.found.inj (Except.ok.inj h)]
  · intro h
    exact Medium.reply_get h now issuer

end requests

namespace Session

/-! ## What a session recalls -/

/-- Under the identifier of the task a record is found with the stamps of the task. -/
def Recalls (session : Session) (task : Task) : Prop :=
  ∃ read, (session.outcome (.get task.id)).reply = .ok (.found (some read)) ∧ read.IsRecallOf task

section media

variable {σ : Type} {medium : Medium σ} {state : σ} {embed : σ → Store × Hosts}
  {session : Session} {task : Task} {request : Request}

/-- A session does with a request what its medium does. -/
theorem outcome_eq (h : session.store.WorksOn session.hosts medium state embed)
    (request : Request) :
    session.outcome request =
      (medium.perform state request (.universal session.wall) session.issuer).map embed :=
  h.perform request _ _

/-- A session recalls a task exactly when its medium finds what is read back of it. -/
theorem recalls_iff (h : session.store.WorksOn session.hosts medium state embed) :
    session.Recalls task ↔
      ∃ read, medium.find state task.id = .ok (some read) ∧ read.IsRecallOf task := by
  refine exists_congr fun read => and_congr_left fun _ => ?_
  rw [outcome_eq h, ← Medium.reply_get_eq_ok]
  exact Iff.rfl

/-- After a request that leaves the medium in a state, the session recalls what is found there. -/
theorem recalls_next (h : session.store.WorksOn session.hosts medium state embed) (next : σ)
    (hState : (session.outcome request).state = embed next)
    (hFind : ∃ read, medium.find next task.id = .ok (some read) ∧ read.IsRecallOf task) :
    (session.next (.request request)).Recalls task := by
  obtain ⟨read, hFound, hRecall⟩ := hFind
  refine ⟨read, ?_, hRecall⟩
  rw [outcome, Session.next, hState]
  exact (h.reply next _ _ _).trans (Medium.reply_get hFound _ _)

/-- After a request that fails, the session recalls what was found before. -/
theorem recalls_of_error (h : session.store.WorksOn session.hosts medium state embed)
    {cause : StoreError} {issuer : Issuer}
    (hOutcome : session.outcome request = (Outcome.settle state issuer (.error cause)).map embed)
    (hFind : ∃ read, medium.find state task.id = .ok (some read) ∧ read.IsRecallOf task) :
    (session.outcome request).reply = .error cause ∧
      (session.next (.request request)).Recalls task := by
  refine ⟨?_, recalls_next h state ?_ hFind⟩
  · rw [hOutcome]
    rfl
  · rw [hOutcome]
    rfl

/-- After a request that succeeds, the session recalls what is found then. -/
theorem recalls_of_ok (h : session.store.WorksOn session.hosts medium state embed) {reply : Reply}
    {next : σ} {issuer : Issuer}
    (hOutcome : session.outcome request = (Outcome.settle state issuer (.ok (reply, next))).map embed)
    (hFind : ∃ read, medium.find next task.id = .ok (some read) ∧ read.IsRecallOf task) :
    (session.outcome request).reply = .ok reply ∧
      (session.next (.request request)).Recalls task := by
  refine ⟨?_, recalls_next h next ?_ hFind⟩
  · rw [hOutcome]
    rfl
  · rw [hOutcome]
    rfl

end media

section steps

variable {session : Session} {task added : Task}

/-- A session recalls a task whatever its clock shows. -/
theorem Recalls.clock (h : session.Recalls task) (wall : Wall) :
    (session.next (.clock wall)).Recalls task := by
  obtain ⟨σ, medium, state, embed, -, hWorks⟩ := session.store.exists_worksOn session.hosts
  have hNext : (session.next (.clock wall)).store.WorksOn (session.next (.clock wall)).hosts medium
      state embed := hWorks
  rw [recalls_iff hWorks] at h
  rwa [recalls_iff hNext]

/-- **Creation.** What is recorded of a new task is stamped with the time and found afterwards. -/
theorem recalls_add (hId : task.id = .null ∨ ∃ s, task.id = .text s) (hProper : task.IsProper)
    (hAdd : (session.outcome (.add task)).reply = .ok (.recorded added)) :
    added.IsStamped ∧ added.IsNewAt session.wall ∧
      (session.next (.request (.add task))).Recalls added := by
  obtain ⟨σ, medium, state, embed, hRetains, hWorks⟩ :=
    session.store.exists_worksOn session.hosts
  have hOutcome := outcome_eq hWorks (.add task)
  cases hCreate : task.create .null (.universal session.wall) session.issuer with
  | mk result issuer =>
    cases result with
    | error cause =>
      rw [hOutcome, Medium.perform_add_error hCreate] at hAdd
      cases hAdd
    | ok record =>
      rw [medium.perform_add state hCreate] at hOutcome
      cases hSave : medium.save state record with
      | error cause =>
        rw [hOutcome, hSave] at hAdd
        cases hAdd
      | ok next =>
        rw [hSave] at hOutcome
        have hCreated := congrArg Prod.fst hCreate
        obtain ⟨hStamped, hNew⟩ := Task.isStamped_create hId hProper hCreated
        obtain ⟨hReply, hRecalls⟩ := recalls_of_ok hWorks hOutcome
          (hRetains hStamped (hProper.create hCreated) hSave)
        obtain rfl := Reply.recorded.inj (Except.ok.inj (hReply.symm.trans hAdd))
        exact ⟨hStamped, hNew, hRecalls⟩

/-- **One update.** An update of a record that is found fails and leaves it as it is, or what it
records comes after the record and is found from then on. -/
theorem Recalls.update (h : session.Recalls task) {updates : Value} (hUpdates : updates.IsProper) :
    (∃ cause, (session.outcome (.update task.id updates)).reply = .error cause ∧
      (session.next (.request (.update task.id updates))).Recalls task) ∨
    ∃ later, (session.outcome (.update task.id updates)).reply = .ok (.recorded later) ∧
      task.Precedes later ∧ later.IsStamped ∧
      (session.next (.request (.update task.id updates))).Recalls later := by
  obtain ⟨σ, medium, state, embed, hRetains, hWorks⟩ :=
    session.store.exists_worksOn session.hosts
  have hOutcome := outcome_eq hWorks (.update task.id updates)
  rw [recalls_iff hWorks] at h
  obtain ⟨read, hFind, hRecall⟩ := h
  have hFound : ∃ read, medium.find state task.id = .ok (some read) ∧ read.IsRecallOf task :=
    ⟨read, hFind, hRecall⟩
  -- the record that is found is updated, which need not be the task but has its stamps
  cases hUpdate : read.update updates (.universal session.wall) with
  | error cause =>
    rw [Medium.perform_update_error hFind hUpdate] at hOutcome
    exact .inl ⟨_, recalls_of_error hWorks hOutcome hFound⟩
  | ok later =>
    rw [Medium.perform_update hFind hUpdate] at hOutcome
    cases hSave : medium.save state later with
    | error cause =>
      rw [hSave] at hOutcome
      exact .inl ⟨_, recalls_of_error hWorks hOutcome hFound⟩
    | ok next =>
      rw [hSave] at hOutcome
      obtain ⟨hStamped, hPrecedes⟩ := hRecall.stamped.update hUpdates hUpdate
      have hProper := hRecall.proper.update hRecall.stamped.isUpdatable hUpdates hUpdate
      obtain ⟨hReply, hRecalls⟩ :=
        recalls_of_ok hWorks hOutcome (hRetains hStamped hProper hSave)
      exact .inr ⟨later, hReply, hRecall.retells.precedes hPrecedes, hStamped, hRecalls⟩

end steps

/-! ## Runs of updates -/

end Session

/-- A step that updates the record of an identifier, with whatever proper value, or a change of the
clock. -/
def SessionStep.IsUpdateOf (id : Value) : SessionStep → Prop
  | .request (.update own updates) => own = id ∧ updates.IsProper
  | .request _ => False
  | .clock _ => True

/-- The record of an answer to a new task or an update. -/
def recordOf? : Except StoreError Reply → Option Task
  | .ok (.recorded record) => some record
  | _ => none

namespace Session

/-- What is recorded in a run. -/
def records (session : Session) (steps : List SessionStep) : List Task :=
  (session.answers steps).filterMap recordOf?

section runs

variable {session : Session} {task added : Task} {steps : List SessionStep}

/-- A change of the clock records nothing. -/
theorem records_clock (session : Session) (wall : Wall) (steps : List SessionStep) :
    session.records (.clock wall :: steps) = (session.next (.clock wall)).records steps := rfl

/-- A request records what it is answered with, and the rest of the run goes on from there. -/
theorem records_request (session : Session) (request : Request) (steps : List SessionStep) :
    session.records (.request request :: steps) =
      (recordOf? (session.outcome request).reply).toList ++
        (session.next (.request request)).records steps := by
  rw [records, answers, List.filterMap_cons]
  cases recordOf? (session.outcome request).reply <;> rfl

/-- **Runs of updates.** By induction on the steps, what is recorded in a run of updates is stamped
and comes in order, and the last of it is recalled after the run. -/
theorem Recalls.run (h : session.Recalls task) (hSteps : ∀ step ∈ steps, step.IsUpdateOf task.id) :
    (task :: session.records steps).Pairwise Task.Precedes ∧
      (∀ record ∈ session.records steps, record.IsStamped) ∧
      (session.after steps).Recalls ((session.records steps).getLastD task) := by
  induction steps generalizing session task with
  | nil => exact ⟨List.pairwise_singleton _ _, List.forall_mem_nil _, h⟩
  | cons step steps ih =>
    rw [List.forall_mem_cons] at hSteps
    obtain ⟨hStep, hSteps⟩ := hSteps
    cases step with
    | clock wall =>
      rw [records_clock]
      exact ih (h.clock wall) hSteps
    | request request =>
      cases request with
      | update id updates =>
        obtain ⟨rfl, hUpdates⟩ := hStep
        rw [records_request]
        rcases h.update hUpdates with ⟨cause, hReply, hNext⟩ | ⟨later, hReply, hLater, hStamped, hNext⟩
        · rw [hReply]
          exact ih hNext hSteps
        -- the rest of the run updates the later record, which has the same identifier
        · rw [← hLater.id] at hSteps
          obtain ⟨hOrder, hAll, hLast⟩ := ih hNext hSteps
          have hFirst := (List.pairwise_cons.1 hOrder).1
          rw [hReply]
          refine ⟨List.pairwise_cons.2 ⟨?_, hOrder⟩, List.forall_mem_cons.2 ⟨hStamped, hAll⟩, ?_⟩
          · exact List.forall_mem_cons.2
              ⟨hLater, fun record hRecord => hLater.trans (hFirst record hRecord)⟩
          · change ((session.next _).after steps).Recalls ((later :: _).getLastD task)
            rw [List.getLastD_cons]
            exact hLast
      | _ => exact hStep.elim

/-- **The history of a record.** After a task is added and updated in any way, while the clock changes
in any way, all that was recorded of it is stamped and comes in order, and what is found of it is
stamped and has the stamps of what was recorded last. -/
theorem stamps_inOrder (hId : task.id = .null ∨ ∃ s, task.id = .text s) (hProper : task.IsProper)
    (hAdd : (session.outcome (.add task)).reply = .ok (.recorded added))
    (hSteps : ∀ step ∈ steps, step.IsUpdateOf added.id) :
    let start := session.next (.request (.add task))
    let records := start.records steps
    added.IsNewAt session.wall ∧ (∀ record ∈ added :: records, record.IsStamped) ∧
      (added :: records).Pairwise Task.Precedes ∧
      ∃ read, ((start.after steps).outcome (.get added.id)).reply = .ok (.found (some read)) ∧
        read.IsStamped ∧ read.Retells (records.getLastD added) := by
  obtain ⟨hStamped, hNew, hStart⟩ := recalls_add hId hProper hAdd
  obtain ⟨hOrder, hAll, read, hFound, hRecall⟩ := hStart.run hSteps
  have hIds : ∀ record ∈ added :: (session.next (.request (.add task))).records steps,
      record.id = added.id :=
    List.forall_mem_cons.2 ⟨rfl, fun record hRecord =>
      ((List.pairwise_cons.1 hOrder).1 record hRecord).id⟩
  rw [hIds _ List.getLastD_mem_cons] at hFound
  exact ⟨hNew, List.forall_mem_cons.2 ⟨hStamped, hAll⟩, hOrder, read, hFound, hRecall.stamped,
    hRecall.retells⟩

end runs

/-- Updates of a task in a database while the clock is set back.  They ask for another identifier and
for no moment of creation, tell of a run on a naive clock, and then ask for no run and no zone. -/
def retouchedRun : List SessionStep :=
  [.clock Wall.first,
   .request (.update (.text "x") (.mapping
    [("id", .text "y"),
     ("metadata", .mapping
      [("created_at", .null), ("last_run", .moment ⟨Wall.first, .naive, .first⟩)])])),
   .request (.update (.text "x") (.mapping
    [("options", .mapping [("timezone", .null)]), ("metadata", .mapping [("last_run", .null)])]))]

/-- All steps of the retouched run are updates of one record, or set the clock. -/
theorem isUpdateOf_retouchedRun : ∀ step ∈ retouchedRun, step.IsUpdateOf (.text "x") := by
  have hNaive : (Value.moment ⟨Wall.first, .naive, .first⟩).IsProper := nofun
  have hFirst : (Value.mapping
      [("created_at", .null), ("last_run", .moment ⟨Wall.first, .naive, .first⟩)]).IsProper :=
    ⟨by decide, trivial, hNaive, trivial⟩
  have hSecond : ∀ name, (Value.mapping [(name, .null)]).IsProper :=
    fun name => ⟨List.nodup_singleton name, trivial, trivial⟩
  simp only [retouchedRun, List.forall_mem_cons]
  exact ⟨trivial, ⟨rfl, by decide, trivial, hFirst, trivial⟩,
    ⟨rfl, by decide, hSecond _, hSecond _, trivial⟩, List.forall_mem_nil _⟩

/-- The retried task is recorded. -/
theorem reply_retriedTask :
    (inDatabase.outcome (.add (retriedTask (.int 2)))).reply =
      .ok (.recorded (retriedRecord (.int 2))) := by
  have hRecord : (retriedRecord (.int 2)).IsRecord := isRecord_retriedRecord (.int (by decide))
  have hCreate : (retriedTask (.int 2)).create .null (.universal inDatabase.wall)
      inDatabase.issuer = (.ok (retriedRecord (.int 2)), .initial) := create_retriedTask (.int 2)
  obtain ⟨row, hRow, -⟩ := tells_taskRow hRecord "cron:"
  rw [usesMedium_inDatabase.outcome_eq, Medium.perform_add _ _ hCreate]
  simp only [tableMedium, hRow]
  rfl

theorem isProper_retriedTask : (retriedTask (.int 2)).IsProper :=
  ⟨trivial, trivial, trivial, trivial,
    ⟨trivial, trivial, trivial, trivial, trivial, trivial, trivial, trivial⟩,
    TaskMetadata.haveProperValues_default⟩

/-- The records of the retouched run are stamped in order. -/
theorem stamps_inOrder_retouchedRun :
    let start := inDatabase.next (.request (.add (retriedTask (.int 2))))
    let records := start.records retouchedRun
    (retriedRecord (.int 2)).IsNewAt inDatabase.wall ∧
      (∀ record ∈ retriedRecord (.int 2) :: records, record.IsStamped) ∧
      (retriedRecord (.int 2) :: records).Pairwise Task.Precedes ∧
      ∃ read, ((start.after retouchedRun).outcome (.get (.text "x"))).reply =
          .ok (.found (some read)) ∧
        read.IsStamped ∧ read.Retells (records.getLastD (retriedRecord (.int 2))) :=
  stamps_inOrder (.inr ⟨"x", rfl⟩) isProper_retriedTask reply_retriedTask isUpdateOf_retouchedRun

/-- In memory both updates are recorded. -/
example : ((inMemory.next (.request (.add (retriedTask (.int 2))))).records retouchedRun).length = 2 :=
  rfl

end Session

end Crontab
