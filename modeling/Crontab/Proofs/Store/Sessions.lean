import Crontab.Proofs.Store.KeyValue
import Crontab.Proofs.Store.Table
import Crontab.Store.Basic

/-!
# Runs of stores

In a run a store is given requests one after the other, while the clock may change in any way.  Every
store that is connected and keeps nothing is followed by one in memory that is given the same requests
at the same time; both hold records that tell the same, whatever is added, updated and removed.

* `Session`, `Session.answers` — runs of a store;
* `Store.IsFresh` — the stores at the start of a run;
* `Store.Holds` — the records that a connected store holds;
* `Store.perform_mirrors` — one request;
* `Session.Mirrors.answers` — a run;
* `Session.IsMap` — stores that are finite maps;
* `Session.UsesMedium` — the medium on which a store carries out its requests.
-/

namespace Crontab

open Time

/-! ## Runs -/

/-- A store in use: with what it shares with other stores, the time, and the source of identifiers. -/
structure Session where
  store : Store
  hosts : Hosts := {}
  wall : Wall
  issuer : Issuer := .initial

/-- A step of a run: a request to the store, or a change of the clock. -/
inductive SessionStep
  | request (request : Request)
  | clock (wall : Wall)

namespace Session

/-- What a request leads to. -/
def outcome (session : Session) (request : Request) : Outcome (Store × Hosts) :=
  session.store.perform session.hosts request (.universal session.wall) session.issuer

/-- The session after a step. -/
def next (session : Session) : SessionStep → Session
  | .request request =>
    { session with
      store := (session.outcome request).state.1
      hosts := (session.outcome request).state.2
      issuer := (session.outcome request).issuer }
  | .clock wall => { session with wall := wall }

/-- The session after a run. -/
def after (session : Session) (steps : List SessionStep) : Session :=
  steps.foldl next session

/-- The answers to the requests of a run. -/
def answers (session : Session) : List SessionStep → List (Except StoreError Reply)
  | [] => []
  | .request request :: steps =>
    (session.outcome request).reply :: (session.next (.request request)).answers steps
  | .clock wall :: steps => (session.next (.clock wall)).answers steps

end Session

/-- A step that stores can carry out. -/
def SessionStep.IsPlain : SessionStep → Prop
  | .request given => given.IsPlain
  | .clock _ => True

/-- The store is connected and keeps nothing, and its keys have the given start. -/
def Store.IsFresh (start : String) (store : Store) (hosts : Hosts) : Prop :=
  store.keyPrefix = .text start ∧
    match store with
    | .memory _ records => records = []
    | .redis _ _ connected => connected = true ∧ hosts.texts = []
    | .database _ _ (.memory table) => table = []
    | .database _ _ (.file path) => hosts.file path = []
    | .database _ _ .closed => False

/-- A database is opened in memory, without any rows, or in a file. -/
theorem connect_cases {hosts : Hosts} {address : DatabaseAddress} {connection : Connection}
    (h : hosts.connect address = .ok connection) :
    connection = .memory [] ∨ ∃ path, connection = .file path := by
  simp only [Hosts.connect, bind_eq_ok] at h
  obtain ⟨url, -, options, -, _, -, place, -, h⟩ := h
  cases place with
  | memory => exact .inl (Except.ok.inj h).symm
  | file path => exact .inr ⟨path, (Except.ok.inj h).symm⟩

/-- Connected to hosts that keep nothing, a store is fresh. -/
theorem Store.isFresh_init {start : String} {store next : Store} {hosts : Hosts}
    (hPrefix : store.keyPrefix = .text start)
    (hRecords : ∀ keyPrefix records, store = .memory keyPrefix records → records = [])
    (hTexts : hosts.texts = []) (hFiles : hosts.files = [])
    (hInit : store.init hosts = (.ok (), next)) : next.IsFresh start hosts := by
  cases store with
  | memory keyPrefix records =>
    cases hInit
    exact ⟨hPrefix, hRecords _ _ rfl⟩
  | redis keyPrefix address connected =>
    rw [Store.init] at hInit
    split at hInit
    · cases hInit
    · split at hInit
      · cases hInit
        exact ⟨hPrefix, rfl, hTexts⟩
      · cases hInit
  | database keyPrefix address connection =>
    rw [Store.init] at hInit
    split at hInit
    · cases hInit
    · next opened hOpened =>
      cases hInit
      rcases connect_cases hOpened with rfl | ⟨path, rfl⟩
      · exact ⟨hPrefix, rfl⟩
      · refine ⟨hPrefix, ?_⟩
        simp only [Hosts.file, hFiles]
        rfl

/-! ## The records of a store -/

/-- The records that a connected store holds. -/
def Store.Holds (start : String) (state : Store × Hosts) (records : Records) : Prop :=
  state.1.keyPrefix = .text start ∧
    match state.1 with
    | .memory _ own => MemoryHolds start own records
    | .redis _ _ connected => connected = true ∧ TextsHold start state.2.texts records
    | .database _ _ (.memory table) => TableHolds start table records
    | .database _ _ (.file path) => TableHolds start (state.2.file path) records
    | .database _ _ .closed => False

/-- A fresh store holds no records. -/
theorem Store.IsFresh.holds {start : String} {store : Store} {hosts : Hosts}
    (h : store.IsFresh start hosts) : Store.Holds start (store, hosts) [] := by
  obtain ⟨hPrefix, hEmpty⟩ := h
  refine ⟨hPrefix, ?_⟩
  cases store with
  | memory keyPrefix records =>
    obtain rfl := hEmpty
    exact ⟨rfl, .nil start⟩
  | redis keyPrefix address connected =>
    obtain ⟨rfl, hTexts⟩ := hEmpty
    refine ⟨rfl, .nil start, ?_⟩
    rw [hTexts]
    exact .nil
  | database keyPrefix address connection =>
    cases connection with
    | closed => exact hEmpty.elim
    | memory table =>
      obtain rfl := hEmpty
      exact ⟨.nil start, .nil⟩
    | file path =>
      refine ⟨.nil start, ?_⟩
      rw [hEmpty]
      exact .nil

/-- A table that is put into a file is there. -/
theorem file_withFile (hosts : Hosts) (path : String) (table : Table) :
    (hosts.withFile path table).file path = table := by
  rw [Hosts.withFile, Hosts.file, Fields.get?_put, if_pos rfl]
  rfl

/-- A connected store carries out its requests on a medium that keeps a map. -/
theorem Store.Holds.exists_medium {start : String} (hStart : isLongLikePattern start = false)
    {store : Store} {hosts : Hosts} {records : Records}
    (h : Store.Holds start (store, hosts) records) :
    ∃ (σ : Type) (medium : Medium σ) (Holds : σ → Records → Prop) (state : σ)
      (embed : σ → Store × Hosts),
      medium.IsMap start Holds ∧ Holds state records ∧
        (∀ next others, Holds next others → Store.Holds start (embed next) others) ∧
        ∀ request now issuer, store.perform hosts request now issuer =
          (medium.perform state request now issuer).map embed := by
  obtain ⟨hPrefix, hHolds⟩ := h
  cases store with
  | memory keyPrefix own =>
    obtain rfl : keyPrefix = .text start := hPrefix
    exact ⟨_, _, _, own, fun next => (.memory (.text start) next, hosts), isMap_memoryMedium start,
      hHolds, fun _ _ hNext => ⟨rfl, hNext⟩, fun _ _ _ => rfl⟩
  | redis keyPrefix address connected =>
    obtain rfl : keyPrefix = .text start := hPrefix
    obtain ⟨rfl, hTexts⟩ := hHolds
    exact ⟨_, _, _, hosts.texts,
      fun texts => (.redis (.text start) address true, { hosts with texts := texts }),
      isMap_keyValueMedium start, hTexts, fun _ _ hNext => ⟨rfl, rfl, hNext⟩, fun _ _ _ => rfl⟩
  | database keyPrefix address connection =>
    obtain rfl : keyPrefix = .text start := hPrefix
    cases connection with
    | closed => exact hHolds.elim
    | memory table =>
      exact ⟨_, _, _, table,
        fun next => (.database (.text start) address (.memory next), hosts),
        isMap_tableMedium hStart, hHolds, fun _ _ hNext => ⟨rfl, hNext⟩, fun _ _ _ => rfl⟩
    | file path =>
      refine ⟨_, _, _, hosts.file path,
        fun next => (.database (.text start) address (.file path), hosts.withFile path next),
        isMap_tableMedium hStart, hHolds, fun next others hNext => ⟨rfl, ?_⟩, fun _ _ _ => rfl⟩
      dsimp only
      rwa [file_withFile]

/-! ## One request -/

/-- Outcomes that are the same stay so where the state is seen as part of another one. -/
theorem Outcome.Mirrors.map {σ τ : Type} {start : String} {Holds : σ → Records → Prop}
    {Holds' : τ → Records → Prop} {own : Outcome Records} {other : Outcome σ}
    (h : own.Mirrors start Holds other) {embed : σ → τ}
    (hEmbed : ∀ state records, Holds state records → Holds' (embed state) records) :
    own.Mirrors start Holds' (other.map embed) where
  reply := h.reply
  issuer := h.issuer
  state := by
    obtain ⟨hKeyed, others, hHolds, hTwins⟩ := h.state
    exact ⟨hKeyed, others, hEmbed _ _ hHolds, hTwins⟩

/-- **One request.** A store answers a request as the medium in memory does, if both hold records that
tell the same, and then they do so again. -/
theorem Store.perform_mirrors {start : String} (hStart : isLongLikePattern start = false)
    {store : Store} {hosts : Hosts} {records : Records}
    (hState : Mirrored start (Store.Holds start) records (store, hosts)) {request : Request}
    (hRequest : request.IsPlain) (wall : Wall) (issuer : Issuer) :
    ((memoryMedium (.text start)).perform records request (.universal wall) issuer).Mirrors start
      (Store.Holds start) (store.perform hosts request (.universal wall) issuer) := by
  obtain ⟨hKeyed, others, hHolds, hTwins⟩ := hState
  obtain ⟨σ, medium, Holds, state, embed, hMap, hOwn, hEmbed, hPerform⟩ := hHolds.exists_medium hStart
  rw [hPerform]
  exact (hMap.perform_mirrors ⟨hKeyed, others, hOwn, hTwins⟩ hRequest wall issuer).map hEmbed

/-! ## Runs side by side -/

namespace Session

/-- A session in memory and another one: the time and the source of identifiers are the same, and the
stores hold records that tell the same. -/
structure Mirrors (start : String) (own other : Session) : Prop where
  store : ∃ records, own.store = .memory (.text start) records ∧
    Mirrored start (Store.Holds start) records (other.store, other.hosts)
  wall : own.wall = other.wall
  issuer : own.issuer = other.issuer

section mirrors

variable {start : String} {own other : Session}

/-- A step keeps the sessions together. -/
theorem Mirrors.next (hStart : isLongLikePattern start = false) (h : Mirrors start own other)
    {request : Request} (hRequest : request.IsPlain) :
    SameOutcome (Reply.Related Twin) (own.outcome request).reply (other.outcome request).reply ∧
      Mirrors start (own.next (.request request)) (other.next (.request request)) := by
  obtain ⟨records, hOwn, hState⟩ := h.store
  have hMirrors := Store.perform_mirrors hStart hState hRequest own.wall own.issuer
  have hOther : other.outcome request =
      other.store.perform other.hosts request (.universal own.wall) own.issuer := by
    rw [outcome, h.wall, h.issuer]
  have hOutcome : own.outcome request =
      ((memoryMedium (.text start)).perform records request (.universal own.wall) own.issuer).map
        fun records => (.memory (.text start) records, own.hosts) := by
    rw [outcome, hOwn]
    rfl
  rw [← hOther] at hMirrors
  refine ⟨?_, ⟨_, ?_, hMirrors.state⟩, h.wall, ?_⟩
  · rw [hOutcome]
    exact hMirrors.reply
  · rw [Session.next, hOutcome]
    rfl
  · rw [Session.next, Session.next, hOutcome]
    exact hMirrors.issuer

/-- **Runs.** By induction on the steps, sessions that start together give answers that tell the same
and stay together. -/
theorem Mirrors.answers (hStart : isLongLikePattern start = false) (h : Mirrors start own other)
    {steps : List SessionStep} (hSteps : ∀ step ∈ steps, step.IsPlain) :
    List.Forall₂ (SameOutcome (Reply.Related Twin)) (own.answers steps) (other.answers steps) ∧
      Mirrors start (own.after steps) (other.after steps) := by
  induction steps generalizing own other with
  | nil => exact ⟨.nil, h⟩
  | cons step steps ih =>
    rw [List.forall_mem_cons] at hSteps
    cases step with
    | request given =>
      obtain ⟨hAnswer, hNext⟩ := h.next hStart hSteps.1
      obtain ⟨hAnswers, hAfter⟩ := ih hNext hSteps.2
      exact ⟨.cons hAnswer hAnswers, hAfter⟩
    | clock wall =>
      have hClock : Mirrors start (own.next (.clock wall)) (other.next (.clock wall)) :=
        ⟨h.store, rfl, h.issuer⟩
      exact ih hClock hSteps.2

end mirrors

/-- The store is a finite map from identifiers to records: all of its records are listed, no two of
them with the same identifier, and the record of an identifier is the one that is found. -/
def IsMap (session : Session) : Prop :=
  ∃ records, (session.outcome .getAll).reply = .ok (.listed records) ∧
    (records.map (·.id.plain)).Nodup ∧
      ∀ id, (session.outcome (.get id)).reply =
        .ok (.found (records.find? fun record => record.id.plain = id.plain))

/-- A session whose store holds records is a map from identifiers to records. -/
theorem isMap_of_holds {start : String} (hStart : isLongLikePattern start = false)
    {session : Session} {records : Records}
    (h : Store.Holds start (session.store, session.hosts) records) : session.IsMap := by
  obtain ⟨σ, medium, Holds, state, embed, hMap, hOwn, -, hPerform⟩ := h.exists_medium hStart
  have hKeyed := hMap.keyed hOwn
  refine ⟨records.map (·.2), ?_, ?_, fun id => ?_⟩
  · rw [outcome, hPerform]
    exact Medium.reply_getAll (hMap.list hOwn) _ _
  · rw [List.map_map]
    exact hKeyed.nodup_ids
  · rw [outcome, hPerform, ← hKeyed.get?_storeKey]
    exact Medium.reply_get (hMap.find hOwn id) _ _

/-! ## Answers of a medium -/

section media

variable {σ : Type} {medium : Medium σ} {embed : σ → Store × Hosts} {session : Session}
  {state kept : σ} {task record : Task} {issuer : Issuer} {records : List Task}

/-- The store of the session carries out requests on a medium in a given state. -/
structure UsesMedium (session : Session) (medium : Medium σ) (embed : σ → Store × Hosts)
    (state : σ) : Prop where
  perform : ∀ state request now issuer, (embed state).1.perform (embed state).2 request now issuer =
    (medium.perform state request now issuer).map embed
  state : (session.store, session.hosts) = embed state

namespace UsesMedium

/-- A session does with a request what its medium does. -/
theorem outcome_eq (h : session.UsesMedium medium embed state) (request : Request) :
    session.outcome request =
      (medium.perform state request (.universal session.wall) session.issuer).map embed := by
  rw [outcome, ← h.perform, ← h.state]

/-- The answer to a new task that becomes a record, and the session that goes on after it. -/
theorem answers_add (h : session.UsesMedium medium embed state)
    (hCreate : task.create .null (.universal session.wall) session.issuer = (.ok record, issuer))
    (hSave : medium.save state record = .ok kept) (steps : List SessionStep) :
    ∃ next : Session, next.UsesMedium medium embed kept ∧ next.wall = session.wall ∧
      next.issuer = issuer ∧
      session.answers (.request (.add task) :: steps) =
        .ok (.recorded record) :: next.answers steps := by
  have hOutcome : session.outcome (.add task) = ⟨.ok (.recorded record), embed kept, issuer⟩ := by
    rw [h.outcome_eq, medium.perform_add state hCreate, hSave]
    rfl
  refine ⟨session.next (.request (.add task)), ⟨h.perform, ?_⟩, rfl, ?_, ?_⟩
  · rw [Session.next, hOutcome]
  · rw [Session.next, hOutcome]
  · rw [answers, hOutcome]

/-- A request for all records is answered with what the medium lists. -/
theorem answers_getAll (h : session.UsesMedium medium embed state)
    (hList : medium.list state = .ok records) :
    session.answers [.request .getAll] = [.ok (.listed records)] := by
  have hReply : (session.outcome .getAll).reply = .ok (.listed records) := by
    rw [h.outcome_eq]
    exact Medium.reply_getAll hList _ _
  rw [answers, answers, hReply]

end UsesMedium

end media

end Session

end Crontab
