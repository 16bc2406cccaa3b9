import Crontab.Proofs.Store.Equivalence
import Crontab.Proofs.Store.Operations

/-!
# Failed requests

A request that fails leaves behind what there was before, although it is carried out step by step and
each medium takes its steps in an order of its own.  The one thing that could come between is a name
without a text, which the message after the change cannot show; names are texts.

* `Course.Follows` — courses of requests that go as they do as a whole;
* `Store.carryOut_follows` — one request;
* `Store.KeepsWhole` — what every run of a store preserves;
* `Session.failure_changesNothing` — requests that fail after any run;
* `add_unprintableName` — what a name without a text would do.
-/

namespace Crontab

open Time Procedure

/-! ## Courses and outcomes -/

/-- A request went as it does as a whole, or broke off for a value without a text and left the state
as it was. -/
inductive Course.Follows {σ : Type} (state : σ) : Outcome σ → Course σ → Prop
  | ok (reply : Reply) (next : σ) (issuer : Issuer) :
    Follows state ⟨.ok reply, next, issuer⟩ ⟨.ok reply, next, issuer⟩
  | error (cause : StoreError) (issuer : Issuer) :
    Follows state ⟨.error cause, state, issuer⟩ ⟨.error (.store cause), state, issuer⟩
  | unprintable (outcome : Outcome σ) :
    Follows state outcome ⟨.error .unprintable, state, outcome.issuer⟩

namespace Course

variable {σ τ : Type} {state : σ} {outcome : Outcome σ} {course : Course σ}

/-- A course follows an outcome also where the state is seen as part of another one. -/
theorem Follows.map (h : Follows state outcome course) (embed : σ → τ) :
    Follows (embed state) (outcome.map embed) (course.map embed) := by
  cases h with
  | ok reply next issuer => exact .ok reply _ issuer
  | error cause issuer => exact .error cause issuer
  | unprintable => exact .unprintable (outcome.map embed)

/-- A procedure that follows what is done as a whole makes a course that does. -/
theorem follows_ofRun {α : Type} {x : Except StoreError (α × σ)} {run : Except Breakdown α × σ}
    (h : Procedure.Follows state x run) (answer : α → Reply) (issuer : Issuer) :
    Follows state (.settle state issuer (x.map fun result => (answer result.1, result.2)))
      (.ofRun answer issuer run) := by
  cases h with
  | ok a next => exact .ok (answer a) next issuer
  | error cause => exact .error cause issuer
  | unprintable =>
    have hIssuer : ∀ y, (Outcome.settle state issuer y).issuer = issuer := by
      rintro (_ | _) <;> rfl
    have hCourse := @Follows.unprintable σ state
      (.settle state issuer (x.map fun result => (answer result.1, result.2)))
    rwa [hIssuer] at hCourse

/-- A course that follows an outcome and failed left the state as it was. -/
theorem Follows.state_of_error (h : Follows state outcome course) {cause : Breakdown}
    (hReply : course.reply = .error cause) : course.state = state := by
  cases h with
  | ok => cases hReply
  | error => rfl
  | unprintable => rfl

/-- A course that follows an outcome agrees with it, unless it broke off for a value without a
text. -/
theorem Follows.agrees (h : Follows state outcome course)
    (hReply : course.reply ≠ .error .unprintable) :
    course.reply = outcome.reply.mapError .store ∧ course.state = outcome.state ∧
      course.issuer = outcome.issuer := by
  cases h with
  | ok => exact ⟨rfl, rfl, rfl⟩
  | error => exact ⟨rfl, rfl, rfl⟩
  | unprintable => exact absurd rfl hReply

end Course

/-- **One request.** Operations that follow a medium carry out every request as it does. -/
theorem Operations.Follow.carryOut {σ : Type} {operations : Operations σ} {medium : Medium σ}
    {Kept : σ → Prop} (h : operations.Follow medium Kept) {state : σ} (hState : Kept state)
    {request : Request} (hNames : request.HasTextNames) (now : Moment) (issuer : Issuer) :
    Course.Follows state (medium.perform state request now issuer)
      (operations.carryOut state request now issuer) := by
  cases request with
  | add task =>
    rw [Operations.carryOut]
    cases hCreate : task.create .null now issuer with
    | mk result next =>
      cases result with
      | error cause =>
        rw [Medium.perform_add_error hCreate]
        exact .error (.lifecycle cause) next
      | ok record =>
        have hWhole : record.IsWhole := Task.isWhole_create hNames (congrArg Prod.fst hCreate)
        have hAdd : Procedure.Follows state
            ((medium.save state record).map fun kept => (record, kept))
            (runFrom (operations.add record) state) := h.add hWhole
        rw [Medium.perform_add medium state hCreate]
        have hCourse := Course.follows_ofRun hAdd .recorded next
        cases hSave : medium.save state record <;> rwa [hSave] at hCourse
  | get id =>
    have hCourse := Course.follows_ofRun (h.get hState id) .found issuer
    rw [Medium.perform]
    cases hFind : medium.find state id <;> rwa [hFind] at hCourse
  | getAll =>
    have hCourse := Course.follows_ofRun (h.getAll hState) .listed issuer
    rw [Medium.perform]
    cases hList : medium.list state <;> rwa [hList] at hCourse
  | update id updates => exact Course.follows_ofRun (h.update hState hNames now) .recorded issuer
  | remove id => exact Course.follows_ofRun (h.remove state id) .removed issuer
  | clear =>
    have hCourse := Course.follows_ofRun (h.clear state) (fun _ => .cleared) issuer
    rw [Medium.perform]
    cases hClear : medium.clear state <;> rwa [hClear] at hCourse

/-- Operations follow a medium also where its state is seen as what is kept in a store and its
hosts. -/
theorem Operations.Follow.carryOut_map {σ : Type} {operations : Operations σ} {medium : Medium σ}
    {Kept : σ → Prop} (h : operations.Follow medium Kept) {state : σ} (hState : Kept state)
    {request : Request} (hNames : request.HasTextNames) (now : Moment) (issuer : Issuer)
    (embed : σ → Store × Hosts) :
    Course.Follows (embed state) ((medium.perform state request now issuer).map embed)
      ((operations.carryOut state request now issuer).map embed) :=
  (h.carryOut hState hNames now issuer).map embed

/-- The operations of a store that is not connected fail. -/
theorem follow_closedOperations (keyPrefix : Value) (kind : StorageKind) :
    (closedOperations keyPrefix kind).Follow (Medium.closed kind) fun _ => True where
  add _ := .error _
  get := by
    intro _ _ id
    rw [closedOperations]
    dsimp only
    split
    · exact .bind_keyOf fun _ => .error _
    · exact .error _
  getAll _ := .error _
  update := by
    intro _ id updates _ _ now
    rw [closedOperations]
    dsimp only
    split
    · exact .bind_keyOf fun _ => .error _
    · exact .error _
  remove _ _ := .error _
  clear _ := .error _

/-! ## One request to a store -/

/-- The records of a store in memory are whole, and under their own keys. -/
def Store.KeepsWhole : Store → Prop
  | .memory keyPrefix records => records.AreWhole keyPrefix
  | _ => True

/-- What is kept is equal: in the store itself, on the server, and in every file. -/
structure SameKept (a b : Store × Hosts) : Prop where
  store : a.1 = b.1
  texts : a.2.texts = b.2.texts
  file : ∀ path, a.2.file path = b.2.file path

/-- Putting the table of a file back changes nothing. -/
theorem file_withFile_self (hosts : Hosts) (path other : String) :
    (hosts.withFile path (hosts.file path)).file other = hosts.file other := by
  rw [Hosts.withFile, Hosts.file, Fields.get?_put]
  split
  · next h =>
    rw [← h]
    rfl
  · rfl

/-- **One request to a store.** It goes as it does as a whole, or broke off for a value without a
text; if it failed, the same is kept as before. -/
theorem Store.carryOut_follows {store : Store} (h : store.KeepsWhole) (hosts : Hosts)
    {request : Request} (hNames : request.HasTextNames) (now : Moment) (issuer : Issuer) :
    ∃ kept, SameKept kept (store, hosts) ∧
      Course.Follows kept (store.perform hosts request now issuer)
        (store.carryOut hosts request now issuer) := by
  have hSame : ∀ own : Store, SameKept (own, hosts) (own, hosts) := fun _ => ⟨rfl, rfl, fun _ => rfl⟩
  cases store with
  | memory keyPrefix records =>
    exact ⟨_, hSame _, (follow_memoryOperations keyPrefix).carryOut_map h hNames now issuer
      fun next => (.memory keyPrefix next, hosts)⟩
  | redis keyPrefix address connected =>
    cases connected with
    | true =>
      exact ⟨_, hSame _, (follow_keyValueOperations keyPrefix).carryOut_map trivial hNames now issuer
        fun texts => (.redis keyPrefix address true, { hosts with texts })⟩
    | false =>
      exact ⟨_, hSame _,
        (follow_closedOperations keyPrefix .redis).carryOut_map trivial hNames now issuer
          fun _ => (.redis keyPrefix address false, hosts)⟩
  | database keyPrefix address connection =>
    cases connection with
    | closed =>
      exact ⟨_, hSame _,
        (follow_closedOperations keyPrefix .database).carryOut_map trivial hNames now issuer
          fun _ => (.database keyPrefix address .closed, hosts)⟩
    | memory table =>
      exact ⟨_, hSame _, (follow_tableOperations keyPrefix).carryOut_map trivial hNames now issuer
        fun next => (.database keyPrefix address (.memory next), hosts)⟩
    | file path =>
      refine ⟨(.database keyPrefix address (.file path), hosts.withFile path (hosts.file path)),
        ⟨rfl, rfl, file_withFile_self hosts path⟩, ?_⟩
      exact (follow_tableOperations keyPrefix).carryOut_map trivial hNames now issuer
        fun next => (.database keyPrefix address (.file path), hosts.withFile path next)

/-! ## Whole records in memory -/

namespace Records.AreWhole

variable {keyPrefix : Value} {records : Records} {now : Moment} {issuer : Issuer}

/-- Putting a whole record under its own key leaves the records whole and under their own keys. -/
theorem put (h : records.AreWhole keyPrefix) {record : Task} (hRecord : record.IsWhole) :
    Records.AreWhole keyPrefix (Fields.put records (storeKey keyPrefix record.id) record) := by
  intro entry hEntry
  rcases Fields.mem_put hEntry with rfl | hEntry
  · exact ⟨rfl, hRecord⟩
  · exact h entry hEntry

/-- A request leaves whole records in memory. -/
theorem perform (h : records.AreWhole keyPrefix) {request : Request}
    (hNames : request.HasTextNames) (now : Moment) (issuer : Issuer) :
    ((memoryMedium keyPrefix).perform records request now issuer).state.AreWhole keyPrefix := by
  have hLeaves := (memoryMedium keyPrefix).leaves_perform records request now issuer
  generalize ((memoryMedium keyPrefix).perform records request now issuer).state = next
    at hLeaves ⊢
  cases hLeaves with
  | same => exact h
  | added hCreate hSave =>
    cases hSave
    exact h.put (Task.isWhole_create hNames hCreate)
  | updated hFind hUpdate hSave =>
    cases hSave
    have hWhole := (h.get? (Except.ok.inj hFind)).2
    exact h.put (Task.isWhole_update hWhole hNames hUpdate).1
  | removed hRemove =>
    cases hRemove
    exact fun entry hEntry => h entry (List.mem_of_mem_filter hEntry)
  | cleared hClear =>
    cases hClear
    exact List.forall_mem_nil _

end Records.AreWhole

/-- A request that is carried out leaves whole records in memory. -/
theorem Store.KeepsWhole.carryOut {store : Store} (h : store.KeepsWhole) (hosts : Hosts)
    {request : Request} (hNames : request.HasTextNames) (now : Moment) (issuer : Issuer) :
    (store.carryOut hosts request now issuer).state.1.KeepsWhole := by
  cases store with
  | memory keyPrefix records =>
    have hPerform := h.perform hNames now issuer
    have hFollows := (follow_memoryOperations keyPrefix).carryOut h hNames now issuer
    rw [Store.carryOut]
    generalize (memoryMedium keyPrefix).perform records request now issuer = outcome
      at hPerform hFollows
    generalize (memoryOperations keyPrefix).carryOut records request now issuer = course at hFollows ⊢
    cases hFollows with
    | ok reply next issuer => exact hPerform
    | error cause issuer => exact h
    | unprintable => exact h
  | redis keyPrefix address connected => cases connected <;> exact trivial
  | database keyPrefix address connection => cases connection <;> exact trivial

/-! ## Runs -/

/-- The names that a step gives are texts. -/
def SessionStep.HasTextNames : SessionStep → Prop
  | .request given => given.HasTextNames
  | .clock _ => True

namespace Session

/-- How a request goes that is carried out step by step. -/
def course (session : Session) (request : Request) : Course (Store × Hosts) :=
  session.store.carryOut session.hosts request (.universal session.wall) session.issuer

/-- The session after a step, requests being carried out step by step. -/
def proceed (session : Session) : SessionStep → Session
  | .request request =>
    { session with
      store := (session.course request).state.1
      hosts := (session.course request).state.2
      issuer := (session.course request).issuer }
  | .clock wall => { session with wall := wall }

/-- The session after a run, requests being carried out step by step. -/
def proceedAll (session : Session) (steps : List SessionStep) : Session :=
  steps.foldl proceed session

/-- By induction on the steps, whole records stay in memory. -/
theorem keepsWhole_proceedAll {session : Session} (h : session.store.KeepsWhole)
    {steps : List SessionStep} (hSteps : ∀ step ∈ steps, step.HasTextNames) :
    (session.proceedAll steps).store.KeepsWhole := by
  induction steps generalizing session with
  | nil => exact h
  | cons step steps ih =>
    rw [List.forall_mem_cons] at hSteps
    refine ih ?_ hSteps.2
    cases step with
    | request given => exact h.carryOut session.hosts hSteps.1 _ session.issuer
    | clock wall => exact h

/-- A request to whole records goes as it does as a whole. -/
theorem course_follows {session : Session} (h : session.store.KeepsWhole) {request : Request}
    (hNames : request.HasTextNames) :
    ∃ kept, SameKept kept (session.store, session.hosts) ∧
      Course.Follows kept (session.outcome request) (session.course request) :=
  Store.carryOut_follows h session.hosts hNames (.universal session.wall) session.issuer

/-- **Failed requests.** After any run, a request that fails leaves what the store keeps as it was.
What it does step by step is what it does as a whole, unless it breaks off for a value without a
text. -/
theorem failure_changesNothing {session : Session}
    (hStart : ∀ keyPrefix records, session.store = .memory keyPrefix records → records = [])
    {steps : List SessionStep} (hSteps : ∀ step ∈ steps, step.HasTextNames) {request : Request}
    (hRequest : request.HasTextNames) :
    let last := session.proceedAll steps
    (∀ cause, (last.course request).reply = .error cause →
      SameKept (last.course request).state (last.store, last.hosts)) ∧
    ((last.course request).reply ≠ .error .unprintable →
      (last.course request).reply = (last.outcome request).reply.mapError .store ∧
      (last.course request).state = (last.outcome request).state ∧
      (last.course request).issuer = (last.outcome request).issuer) := by
  intro last
  have hWhole : session.store.KeepsWhole := by
    cases hStore : session.store with
    | memory keyPrefix records =>
      rw [hStart keyPrefix records hStore]
      exact List.forall_mem_nil _
    | redis => trivial
    | database => trivial
  obtain ⟨kept, hSame, hFollows⟩ := course_follows (keepsWhole_proceedAll hWhole hSteps) hRequest
  refine ⟨fun cause hCause => ?_, fun hReply => hFollows.agrees hReply⟩
  rw [hFollows.state_of_error hCause]
  exact hSame

/-- A task that cannot be stored is added in place of another one in a database; the row is refused
when the transaction is committed. -/
theorem failure_changesNothing_unstorable :
    let last := inDatabase.proceedAll [.request (.add (retriedTask (.int 2)))]
    (last.course (.add (retriedTask .action))).reply = .error (.store (.table .notStorable)) ∧
      SameKept (last.course (.add (retriedTask .action))).state (last.store, last.hosts) := by
  intro last
  have hReply : (last.course (.add (retriedTask .action))).reply =
      .error (.store (.table .notStorable)) := rfl
  refine ⟨hReply, (@failure_changesNothing inDatabase ?_ _ ?_ _ ?_).1 _ hReply⟩
  · rintro _ _ ⟨⟩
  · exact List.forall_mem_singleton.2 rfl
  · exact rfl

end Session

/-! ## Names without a text -/

/-- Memory keeps a new record before it shows its name, so a name without a text would make the request
fail and leave the record there. -/
theorem add_unprintableName {keyPrefix : Value} {task record : Task} {now : Moment}
    {issuer next : Issuer} (records : Records)
    (hCreate : task.create .null now issuer = (.ok record, next))
    (hPrefix : keyPrefix.isPrintable = true) (hId : record.id.isPrintable = true)
    (hName : record.name.isPrintable = false) :
    (memoryOperations keyPrefix).carryOut records (.add task) now issuer =
      ⟨.error .unprintable, Fields.put records (storeKey keyPrefix record.id) record, next⟩ := by
  have hReport : ∀ kept : Records, runFrom (report record record.id) kept =
      (.error .unprintable, kept) := by
    intro kept
    refine runFrom_bind_of_error ?_ _
    rw [shown, hName]
    rfl
  have hAdd : runFrom ((memoryOperations keyPrefix).add record) records =
      (.error .unprintable, Fields.put records (storeKey keyPrefix record.id) record) := by
    rw [memoryOperations, runFrom_bind_of_ok (runFrom_keyOf hPrefix hId records),
      runFrom_bind_of_ok (runFrom_modify _ _),
      runFrom_bind_of_error (hReport _)]
  rw [Operations.carryOut, hCreate]
  dsimp only
  rw [hAdd]
  rfl

end Crontab
