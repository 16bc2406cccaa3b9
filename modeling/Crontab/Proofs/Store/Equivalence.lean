import Crontab.Proofs.Store.Sessions
import Crontab.Proofs.Task.Content

/-!
# Equivalence of stores

Stores of the three kinds cannot be told apart by their answers, but for what a text leaves out: the
tasks they record, find and list have the same content, they fail for the same reasons, and each of
them is a finite map from identifiers to records.

* `SameAnswer` — answers that callers cannot tell apart;
* `Session.equivalent` — two stores give the same answers;
* `Session.listed_differently` — what a text leaves out is told apart.
-/

namespace Crontab

open Time

/-! ## Equivalence -/

/-- The answers are the same failure, or replies of the same kind with records of the same content,
but for what a text leaves out. -/
def SameAnswer (answer other : Except StoreError Reply) : Prop :=
  SameOutcome (Reply.Related fun task other => SameContent task.trimmed other.trimmed) answer other

/-- Answers that are related to a common one are the same. -/
theorem sameAnswer_of_common {answer first second : Except StoreError Reply}
    (h : SameOutcome (Reply.Related Twin) answer first)
    (h' : SameOutcome (Reply.Related Twin) answer second) : SameAnswer first second := by
  have hReplies : ∀ reply a b : Reply, Reply.Related Twin reply a → Reply.Related Twin reply b →
      Reply.Related Twin a b := fun _ _ _ hFirst hSecond =>
    hFirst.of_common (fun _ _ _ hLeft hRight => hLeft.of_common hRight) hSecond
  exact (SameOutcome.of_common hReplies h h').mono fun _ _ _ _ hReply =>
    hReply.mono fun _ _ hTwin => hTwin.alike.sameContent hTwin.left hTwin.right

namespace Session

/-- A fresh session is followed by one in memory. -/
theorem mirrors_of_isFresh {start : String} {session : Session}
    (h : session.store.IsFresh start session.hosts) (wall : Wall) (issuer : Issuer)
    (hWall : wall = session.wall) (hIssuer : issuer = session.issuer) :
    Mirrors start
      { store := .memory (.text start) [], wall := wall, issuer := issuer } session :=
  ⟨⟨[], rfl, .nil start, [], h.holds, .nil⟩, hWall, hIssuer⟩

/-- **Equivalence of stores.** Two stores of any kinds that are fresh give the same answers to every
run of requests and changes of the clock, and after every run each of them is a finite map. -/
theorem equivalent {start : String} (hStart : isLongLikePattern start = false) {a b : Session}
    (hA : a.store.IsFresh start a.hosts) (hB : b.store.IsFresh start b.hosts)
    (hWall : a.wall = b.wall) (hIssuer : a.issuer = b.issuer) {steps : List SessionStep}
    (hSteps : ∀ step ∈ steps, step.IsPlain) :
    List.Forall₂ SameAnswer (a.answers steps) (b.answers steps) ∧
      (a.after steps).IsMap ∧ (b.after steps).IsMap := by
  obtain ⟨hAnswersA, hAfterA⟩ :=
    (mirrors_of_isFresh hA a.wall a.issuer rfl rfl).answers hStart hSteps
  obtain ⟨hAnswersB, hAfterB⟩ :=
    (mirrors_of_isFresh hB a.wall a.issuer hWall hIssuer).answers hStart hSteps
  have hMap : ∀ {own session : Session}, Mirrors start own session → session.IsMap := by
    rintro own session ⟨⟨records, -, -, others, hHolds, -⟩, -, -⟩
    exact isMap_of_holds hStart hHolds
  have hAnswers : List.Forall₂ SameAnswer (a.answers steps) (b.answers steps) :=
    forall₂_of_common (R := SameOutcome (Reply.Related Twin))
      (fun _ _ _ hFirst hSecond => sameAnswer_of_common hFirst hSecond) hAnswersA hAnswersB
  exact ⟨hAnswers, hMap hAfterA, hMap hAfterB⟩

/-! ## Runs of three stores -/

/-- A run that stores can carry out tells two sessions apart: in their answers there are records that
are not related. -/
def TellApart (R : Task → Task → Prop) (steps : List SessionStep) (a b : Session) : Prop :=
  (∀ step ∈ steps, step.IsPlain) ∧
    ¬List.Forall₂ (SameOutcome (Reply.Related R)) (a.answers steps) (b.answers steps)

/-- A session in memory at the beginning of 2024. -/
def inMemory : Session where
  store := .memory (.text "cron:") []
  wall := shortOffsetMoment.wall

/-- A session on a server at the same time. -/
def onServer : Session where
  store := .redis (.text "cron:") ⟨.null, .null, .null⟩ true
  wall := shortOffsetMoment.wall

/-- A session in a database at the same time. -/
def inDatabase : Session where
  store := .database (.text "cron:") ⟨.null, .null⟩ (.memory [])
  wall := shortOffsetMoment.wall

/-- The session in memory starts with a fresh store. -/
theorem isFresh_inMemory : inMemory.store.IsFresh "cron:" inMemory.hosts :=
  ⟨rfl, rfl⟩

/-- The session on a server starts with a fresh store. -/
theorem isFresh_onServer : onServer.store.IsFresh "cron:" onServer.hosts :=
  ⟨rfl, rfl, rfl⟩

/-- The session in a database starts with a fresh store. -/
theorem isFresh_inDatabase : inDatabase.store.IsFresh "cron:" inDatabase.hosts :=
  ⟨rfl, rfl⟩

/-- The session in memory keeps its records in the store itself. -/
theorem usesMedium_inMemory : inMemory.UsesMedium (memoryMedium (.text "cron:"))
    (fun records => (.memory (.text "cron:") records, {})) [] :=
  ⟨fun _ _ _ _ => rfl, rfl⟩

/-- The session on a server keeps its records as the texts of the server. -/
theorem usesMedium_onServer : onServer.UsesMedium (keyValueMedium (.text "cron:"))
    (fun texts => (onServer.store, { texts := texts })) [] :=
  ⟨fun _ _ _ _ => rfl, rfl⟩

/-- The session in a database keeps its records as the rows of its table. -/
theorem usesMedium_inDatabase : inDatabase.UsesMedium (tableMedium (.text "cron:"))
    (fun table => (.database (.text "cron:") ⟨.null, .null⟩ (.memory table), {})) [] :=
  ⟨fun _ _ _ _ => rfl, rfl⟩

/-- A failed task is added, a count of its options becomes a truth value, and it is listed. -/
def failedTaskRun : List SessionStep :=
  [.request (.add failedTask), .clock (.onDate ⟨2024, 1, 1⟩ 7 (by decide)),
   .request (.update (.text (Issuer.identifier 1))
     (.mapping [("options", .mapping [("max_retries", .bool true)])])),
   .request .getAll]

/-- The run of the failed task can be carried out. -/
theorem isPlain_failedTaskRun : ∀ step ∈ failedTaskRun, step.IsPlain := by
  have hTask : failedTask.IsPlain :=
    isStorable_failedTask.isPlain (.inl rfl) ⟨_, rfl⟩ (.inl ⟨_, rfl⟩) rfl trivial
  have hOptions : HasJsonValues [("max_retries", .bool true)] := by
    intro name value hValue
    obtain ⟨rfl, rfl⟩ := Prod.mk.inj (List.mem_singleton.1 (Fields.mem_of_get? hValue))
    exact ⟨.bool true, trivial, rfl⟩
  have hUpdate : (Value.mapping
      [("options", .mapping [("max_retries", .bool true)])]).IsPlainUpdate := by
    rintro fields ⟨⟩
    refine ⟨nofun, ?_, nofun⟩
    rintro fields ⟨⟩
    exact hOptions
  simp only [failedTaskRun, List.forall_mem_cons]
  exact ⟨hTask, trivial, hUpdate, trivial, List.forall_mem_nil _⟩

/-- The server and the database give the same answers in the run of the failed task. -/
theorem equivalent_failedTaskRun :
    List.Forall₂ SameAnswer (onServer.answers failedTaskRun) (inDatabase.answers failedTaskRun) ∧
      (onServer.after failedTaskRun).IsMap ∧ (inDatabase.after failedTaskRun).IsMap :=
  equivalent (by decide) isFresh_onServer isFresh_inDatabase rfl rfl isPlain_failedTaskRun

/-! ## Offsets and names -/

/-- The run in which a task is added and listed. -/
def addAndList (task : Task) : List SessionStep :=
  [.request (.add task), .request .getAll]

section differences

variable {task record : Task}

/-- A task that is added and listed is answered with its record and with what the medium lists. -/
theorem UsesMedium.answers_addAndList {σ : Type} {medium : Medium σ} {embed : σ → Store × Hosts}
    {session : Session} {state kept : σ} {issuer : Issuer} {records : List Task}
    (h : session.UsesMedium medium embed state)
    (hCreate : task.create .null (.universal session.wall) session.issuer = (.ok record, issuer))
    (hSave : medium.save state record = .ok kept) (hList : medium.list kept = .ok records) :
    session.answers (addAndList task) = [.ok (.recorded record), .ok (.listed records)] := by
  obtain ⟨next, hNext, -, -, hAnswers⟩ := h.answers_add hCreate hSave [.request .getAll]
  rw [addAndList, hAnswers, hNext.answers_getAll hList]

/-- On a server a task that is added is listed as what is left of its record. -/
theorem answers_onServer
    (h : task.create .null (.universal onServer.wall) .initial = (.ok record, ⟨1⟩))
    (hRecord : record.IsRecord) :
    onServer.answers (addAndList task) =
      [.ok (.recorded record), .ok (.listed [record.restored])] := by
  obtain ⟨text, hWrite, hRead⟩ := Task.read_write hRecord.isStorable
  have hSave : (keyValueMedium (.text "cron:")).save [] record =
      .ok [(storeKey (.text "cron:") record.id, some text)] := by
    simp only [keyValueMedium, hWrite]
    rfl
  have hHolds : TextsHold "cron:" [(storeKey (.text "cron:") record.id, some text)]
      [(storeKey (.text "cron:") record.id, record.restored)] :=
    ⟨(Records.IsKeyed.nil "cron:").put hRecord.restored rfl, .cons ⟨rfl, text, rfl, hRead⟩ .nil⟩
  exact usesMedium_onServer.answers_addAndList h hSave
    ((isMap_keyValueMedium "cron:").list hHolds)

/-- A record of which a server keeps less than there is in memory tells the two apart. -/
theorem tellApart_addAndList (hTask : task.IsPlain)
    (h : task.create .null (.universal shortOffsetMoment.wall) .initial = (.ok record, ⟨1⟩))
    (hContent : record.IsRecord → ¬SameContent record record.restored) :
    TellApart SameContent (addAndList task) inMemory onServer := by
  have hRecord : record.IsRecord := Task.isRecord_create hTask (congrArg Prod.fst h)
  refine ⟨?_, fun hSame => ?_⟩
  · simp only [addAndList, List.forall_mem_cons]
    exact ⟨hTask, trivial, List.forall_mem_nil _⟩
  · rw [usesMedium_inMemory.answers_addAndList h rfl rfl, answers_onServer h hRecord] at hSame
    obtain ⟨-, hSame⟩ := List.forall₂_cons.1 hSame
    obtain ⟨hAnswer, -⟩ := List.forall₂_cons.1 hSame
    cases hAnswer with
    | ok hReply =>
      cases hReply with
      | listed hListed => exact hContent hRecord (List.forall₂_cons.1 hListed).1

end differences

/-- The task with the short offset can be recorded. -/
theorem isPlain_shortOffsetTask : shortOffsetTask.IsPlain :=
  isStorable_shortOffsetTask.isPlain (.inl rfl) ⟨_, rfl⟩ (.inl ⟨_, rfl⟩) rfl trivial

/-- The task with the nameless error can be recorded. -/
theorem isPlain_namelessErrorTask : namelessErrorTask.IsPlain :=
  isStorable_namelessErrorTask.isPlain (.inl rfl) ⟨_, rfl⟩ (.inl ⟨_, rfl⟩) rfl trivial

/-- The two texts of a moment with an offset of less than a second differ. -/
theorem iso_shortOffsetMoment_ne : shortOffsetMoment.restored.iso ≠ shortOffsetMoment.iso := by
  intro hSame
  have hChars : shortOffsetMoment.restored.isoChars = shortOffsetMoment.isoChars :=
    String.ofList_injective hSame
  rw [Moment.isoChars_eq, Moment.isoChars_eq] at hChars
  have hText : shortOffsetMoment.restored.offsetText = shortOffsetMoment.offsetText :=
    List.append_cancel_left (List.cons.inj (List.append_cancel_left hChars)).2
  revert hText
  decide

/-! ## Counts and truth values -/

/-- A task that is retried, with the number of retries as it is given. -/
def retriedTask (retries : Value) : Task where
  id := .text "x"
  name := .text "report"
  options := .filled { expression := .text "0 6 * * 1", maxRetries := retries }
  metadata := .filled {}

/-- The options of its record. -/
def retriedOptions (retries : Value) : TaskOptions where
  expression := .text "0 6 * * 1"
  timezone := .text "UTC"
  maxRetries := retries

/-- Its record at the beginning of 2024. -/
def retriedRecord (retries : Value) : Task where
  id := .text "x"
  name := .text "report"
  options := .filled (retriedOptions retries)
  metadata := .filled
    { createdAt := .moment (.universal shortOffsetMoment.wall)
      updatedAt := .moment (.universal shortOffsetMoment.wall) }

/-- The run in which an equal truth value takes the place of a count, and the task is listed. -/
def recountRun : List SessionStep :=
  .request (.add (retriedTask (.int 1))) :: addAndList (retriedTask (.bool true))

/-- A retried task can be recorded. -/
theorem isPlain_retriedTask {retries : Value} (h : retries.IsJson) :
    (retriedTask retries).IsPlain := by
  have hStorable : (retriedTask retries).IsStorable :=
    { id := .text _
      name := .text _
      status := .inr ⟨.pending, rfl⟩
      options := ⟨_, rfl, by
        simp only [TaskOptions.toFields, List.forall_mem_cons]
        exact ⟨.text _, .null, h, .null, .null, .null, .null, List.forall_mem_nil _⟩⟩
      metadata := .inr ⟨_, rfl, TaskMetadata.isStorable_default⟩ }
  exact hStorable.isPlain (.inr ⟨_, rfl⟩) ⟨_, rfl⟩ (.inl ⟨_, rfl⟩) rfl trivial

/-- A retried task is created as its record. -/
theorem create_retriedTask (retries : Value) :
    (retriedTask retries).create .null (.universal shortOffsetMoment.wall) .initial =
      (.ok (retriedRecord retries), .initial) :=
  rfl

/-- The record of a retried task is a record of a store. -/
theorem isRecord_retriedRecord {retries : Value} (h : retries.IsJson) :
    (retriedRecord retries).IsRecord :=
  Task.isRecord_create (isPlain_retriedTask h) (congrArg Prod.fst (create_retriedTask retries))

/-- The run of the recount is answered with both records and with what the medium lists. -/
theorem UsesMedium.answers_recountRun {σ : Type} {medium : Medium σ} {embed : σ → Store × Hosts}
    {session : Session} {state first second : σ} {records : List Task}
    (h : session.UsesMedium medium embed state) (hWall : session.wall = shortOffsetMoment.wall)
    (hIssuer : session.issuer = .initial)
    (hFirst : medium.save state (retriedRecord (.int 1)) = .ok first)
    (hSecond : medium.save first (retriedRecord (.bool true)) = .ok second)
    (hList : medium.list second = .ok records) :
    session.answers recountRun =
      [.ok (.recorded (retriedRecord (.int 1))), .ok (.recorded (retriedRecord (.bool true))),
       .ok (.listed records)] := by
  have hCreate : ∀ own : Session, own.wall = session.wall → own.issuer = .initial → ∀ retries,
      (retriedTask retries).create .null (.universal own.wall) own.issuer =
        (.ok (retriedRecord retries), .initial) := by
    intro own hOwnWall hOwnIssuer
    rw [hOwnWall, hWall, hOwnIssuer]
    exact create_retriedTask
  obtain ⟨next, hNext, hNextWall, hNextIssuer, hAnswers⟩ := h.answers_add
    (hCreate session rfl hIssuer (.int 1)) hFirst (addAndList (retriedTask (.bool true)))
  rw [recountRun, hAnswers,
    hNext.answers_addAndList (hCreate next hNextWall hNextIssuer (.bool true)) hSecond hList]

/-- A column of options keeps those that it has if only a count becomes a truth value. -/
theorem keep_retriedOptions {old new : Json}
    (hOld : old.toValue = .mapping (retriedOptions (.int 1)).toFields)
    (hNew : new.toValue = .mapping (retriedOptions (.bool true)).toFields) :
    Row.keep old new = old := by
  have hOldJson := old.toJson?_toValue
  have hNewJson := new.toJson?_toValue
  rw [hOld] at hOldJson
  rw [hNew] at hNewJson
  obtain rfl := Option.some.inj hOldJson
  obtain rfl := Option.some.inj hNewJson
  exact if_pos rfl

/-- In a database the count is listed. -/
theorem answers_inDatabase :
    ∃ record, record.options = .filled (retriedOptions (.int 1)) ∧ record.IsRecord ∧
      inDatabase.answers recountRun =
        [.ok (.recorded (retriedRecord (.int 1))), .ok (.recorded (retriedRecord (.bool true))),
         .ok (.listed [record])] := by
  have hCount : (retriedRecord (.int 1)).IsRecord := isRecord_retriedRecord (.int (by decide))
  have hTruth : (retriedRecord (.bool true)).IsRecord :=
    isRecord_retriedRecord ⟨.bool true, trivial, rfl⟩
  obtain ⟨old, hOld, hOldKey, hOldTells, hOldOptions⟩ := tells_taskRow hCount "cron:"
  obtain ⟨row, hRow, hRowKey, hRowTells, hRowOptions⟩ := tells_taskRow hTruth "cron:"
  have hKeep : (old.overwritten row).options.toValue =
      .mapping (retriedOptions (.int 1)).toFields :=
    (congrArg Json.toValue (keep_retriedOptions (hOldOptions _ rfl) (hRowOptions _ rfl))).trans
      (hOldOptions _ rfl)
  have hPut : Table.put [old] row = [old.overwritten row] :=
    Table.put_singleton (hOldKey.trans hRowKey.symm)
  have hTells := hRowTells.overwritten hOldTells.regularOptions hOldTells.regularMetadata
  obtain ⟨record, hReads, hAlike, hRecord⟩ := hTells.exists_record hTruth
  have hHolds : TableHolds "cron:" [old.overwritten row] [(row.key, record)] :=
    ⟨(Records.IsKeyed.nil "cron:").put hRecord (by rw [hRowKey, hAlike.id]),
      .cons ⟨rfl, hTells.holds hReads⟩ .nil⟩
  have hFirst : (tableMedium (.text "cron:")).save [] (retriedRecord (.int 1)) = .ok [old] := by
    simp only [tableMedium, hOld]
    rfl
  have hSecond : (tableMedium (.text "cron:")).save [old] (retriedRecord (.bool true)) =
      .ok [old.overwritten row] := by
    simp only [tableMedium, hRow, ← hPut]
    rfl
  exact ⟨record, options_of_rowTask hReads hKeep, hRecord,
    usesMedium_inDatabase.answers_recountRun rfl rfl hFirst hSecond
      ((isMap_tableMedium (by decide)).list hHolds)⟩

/-- The run of the recount can be carried out. -/
theorem isPlain_recountRun : ∀ step ∈ recountRun, step.IsPlain := by
  simp only [recountRun, addAndList, List.forall_mem_cons]
  exact ⟨isPlain_retriedTask (.int (by decide)), isPlain_retriedTask ⟨.bool true, trivial, rfl⟩,
    trivial, List.forall_mem_nil _⟩

/-- The run of the recount tells memory and a database apart. -/
theorem tellApart_recountRun :
    TellApart (fun task other => task.encode? = other.encode?) recountRun inMemory inDatabase := by
  obtain ⟨record, hOptions, hRecord, hAnswers⟩ := answers_inDatabase
  have hOwn : inMemory.answers recountRun =
      [.ok (.recorded (retriedRecord (.int 1))), .ok (.recorded (retriedRecord (.bool true))),
       .ok (.listed [retriedRecord (.bool true)])] :=
    usesMedium_inMemory.answers_recountRun rfl rfl rfl rfl rfl
  obtain ⟨metadata, hMetadata, -⟩ := hRecord.metadata
  refine ⟨isPlain_recountRun, fun hSame => ?_⟩
  rw [hAnswers, hOwn] at hSame
  obtain ⟨-, hSame⟩ := List.forall₂_cons.1 hSame
  obtain ⟨-, hSame⟩ := List.forall₂_cons.1 hSame
  obtain ⟨hAnswer, -⟩ := List.forall₂_cons.1 hSame
  cases hAnswer with
  | ok hReply =>
    cases hReply with
    | listed hListed =>
      obtain ⟨hFields, -⟩ := List.forall₂_cons.1 hListed
      rw [Task.encode?_eq hOptions (.inr ⟨metadata, hMetadata⟩)] at hFields
      have hGet := congrArg (fun fields => Fields.get? fields "options") (Option.some.inj hFields)
      have hRetries := congrArg (fun fields => Fields.get? fields "max_retries")
        (Value.mapping.inj (Option.some.inj hGet))
      cases Option.some.inj hRetries

/-! ## Differences -/

/-- **Differences.** An offset of less than a second and an error of a kind without a name are listed
in memory, but not on a server, and a truth value in place of a count in memory, but not from a
database. -/
theorem listed_differently :
    (inMemory.store.IsFresh "cron:" inMemory.hosts ∧
      onServer.store.IsFresh "cron:" onServer.hosts ∧
      inDatabase.store.IsFresh "cron:" inDatabase.hosts) ∧
    TellApart SameContent (addAndList shortOffsetTask) inMemory onServer ∧
    TellApart SameContent (addAndList namelessErrorTask) inMemory onServer ∧
    TellApart (fun task other => task.encode? = other.encode?) recountRun inMemory inDatabase := by
  refine ⟨⟨isFresh_inMemory, isFresh_onServer, isFresh_inDatabase⟩, ?_, ?_, tellApart_recountRun⟩
  · refine tellApart_addAndList isPlain_shortOffsetTask rfl fun hRecord hContent => ?_
    obtain ⟨found, hFound, hAgrees⟩ := hContent.metadata_agrees "last_run"
      hRecord.isStorable hRecord.restored.isStorable rfl
    obtain rfl := hAgrees.eq_text
    exact iso_shortOffsetMoment_ne (Value.text.inj (Option.some.inj hFound))
  · refine tellApart_addAndList isPlain_namelessErrorTask rfl fun hRecord hContent => ?_
    obtain ⟨found, hFound, hAgrees⟩ := hContent.metadata_agrees "last_error"
      hRecord.isStorable hRecord.restored.isStorable rfl
    obtain ⟨fields, rfl, hFields⟩ := hAgrees.of_mapping
    obtain ⟨kind, hKind, hSame⟩ := hFields "type" rfl
    obtain rfl := hSame.eq_text
    obtain rfl := Value.mapping.inj (Option.some.inj hFound)
    exact absurd (Value.text.inj (Option.some.inj hKind)) (by decide)

end Session

end Crontab
