import Crontab.Proofs.Task.Alike
import Crontab.Store.Memory

/-!
# Media as maps

A medium that works keeps a finite map from keys to records.  What is found, listed, saved and removed
in its state is found, listed, saved and removed in the map, so such a medium answers every request as
the medium in memory does.

* `Records.IsKeyed` — records under their own keys;
* `Medium.IsMap` — media that keep such records;
* `isMap_memoryMedium` — the medium in memory does;
* `Medium.Leaves`, `Medium.leaves_perform` — all that a request can do to a state;
* `Reply.Related`, `Twin` — replies that tell the same;
* `Medium.IsMap.perform_mirrors` — one request.
-/

namespace Crontab

open Time

/-! ## Records under their own keys -/

/-- A key is the start of the store and the text of the identifier. -/
theorem storeKey_text (start : String) (id : Value) :
    storeKey (.text start) id = start ++ id.plain := rfl

/-- A start that is a text is searched for as it is. -/
theorem searchedStart_text (start : String) : searchedStart (.text start) = .ok start := rfl

/-- Identifiers have the same key exactly when they have the same text. -/
theorem storeKey_inj {start : String} {id other : Value} :
    storeKey (.text start) id = storeKey (.text start) other ↔ id.plain = other.plain := by
  rw [storeKey_text, storeKey_text, String.append_right_inj]

/-- Every record is kept under its own key, and no key is kept twice. -/
structure Records.IsKeyed (start : String) (records : Records) : Prop where
  nodup : (Fields.names records).Nodup
  key : ∀ entry ∈ records, entry.1 = storeKey (.text start) entry.2.id
  isRecord : ∀ entry ∈ records, entry.2.IsRecord

namespace Records.IsKeyed

variable {start : String} {records : Records}

theorem nil (start : String) : Records.IsKeyed start [] :=
  ⟨List.nodup_nil, List.forall_mem_nil _, List.forall_mem_nil _⟩

/-- Putting a record under its own key leaves all records under their own keys. -/
theorem put (h : records.IsKeyed start) {task : Task} (hTask : task.IsRecord) {key : String}
    (hKey : key = storeKey (.text start) task.id) :
    Records.IsKeyed start (Fields.put records key task) where
  nodup := Fields.nodup_names_put h.nodup key task
  key := by
    intro entry hEntry
    rcases Fields.mem_put hEntry with rfl | hEntry
    · exact hKey
    · exact h.key entry hEntry
  isRecord := by
    intro entry hEntry
    rcases Fields.mem_put hEntry with rfl | hEntry
    · exact hTask
    · exact h.isRecord entry hEntry

/-- Erasing a key leaves all other records under their own keys. -/
theorem erase (h : records.IsKeyed start) (key : String) :
    Records.IsKeyed start (Fields.erase records key) where
  nodup := Fields.nodup_names_erase h.nodup key
  key := fun entry hEntry => h.key entry (List.mem_of_mem_filter hEntry)
  isRecord := fun entry hEntry => h.isRecord entry (List.mem_of_mem_filter hEntry)

/-- The identifiers of the records are distinct. -/
theorem nodup_ids (h : records.IsKeyed start) : (records.map (·.2.id.plain)).Nodup := by
  have hNames : Fields.names records = (records.map (·.2.id.plain)).map (start ++ ·) := by
    rw [Fields.names, List.map_map]
    exact List.map_congr_left fun entry hEntry => h.key entry hEntry
  have hNodup := h.nodup
  rw [hNames] at hNodup
  exact hNodup.of_map _

/-- A record is found under the key of an identifier if it is the one with that identifier. -/
theorem get?_storeKey (h : records.IsKeyed start) (id : Value) :
    Fields.get? records (storeKey (.text start) id) =
      (records.map (·.2)).find? fun record => record.id.plain = id.plain := by
  have hKey := h.key
  clear h
  induction records with
  | nil => rfl
  | cons entry records ih =>
    obtain ⟨key, record⟩ := entry
    rw [List.forall_mem_cons] at hKey
    obtain ⟨hOwn, hRest⟩ := hKey
    dsimp only at hOwn
    rw [Fields.get?, List.map_cons, List.find?_cons, ih hRest, hOwn]
    by_cases hId : record.id.plain = id.plain
    · rw [if_pos (storeKey_inj.2 hId), decide_eq_true hId]
    · rw [if_neg fun h => hId (storeKey_inj.1 h), decide_eq_false hId]

end Records.IsKeyed

/-! ## Media that keep maps -/

/-- The medium keeps a map from keys to records: `Holds` tells which records a state holds. -/
structure Medium.IsMap {σ : Type} (medium : Medium σ) (start : String)
    (Holds : σ → Records → Prop) : Prop where
  keyed : ∀ {state records}, Holds state records → records.IsKeyed start
  find : ∀ {state records}, Holds state records → ∀ id,
    medium.find state id = .ok (Fields.get? records (storeKey (.text start) id))
  list : ∀ {state records}, Holds state records → medium.list state = .ok (records.map (·.2))
  save : ∀ {state records}, Holds state records → ∀ {task : Task}, task.IsRecord →
    ∃ next kept, medium.save state task = .ok next ∧ task.Alike kept ∧ kept.IsRecord ∧
      Holds next (Fields.put records (storeKey (.text start) task.id) kept)
  remove : ∀ {state records}, Holds state records → ∀ id,
    ∃ next, medium.remove state id = .ok (Fields.has records (storeKey (.text start) id), next) ∧
      Holds next (Fields.erase records (storeKey (.text start) id))
  clear : ∀ {state records}, Holds state records →
    ∃ next, medium.clear state = .ok next ∧ Holds next []

/-- A state of the medium in memory holds its own records. -/
def MemoryHolds (start : String) (own records : Records) : Prop :=
  own = records ∧ own.IsKeyed start

/-- The medium in memory keeps a map. -/
theorem isMap_memoryMedium (start : String) :
    (memoryMedium (.text start)).IsMap start (MemoryHolds start) where
  keyed := by
    rintro own _ ⟨rfl, hKeyed⟩
    exact hKeyed
  find := by
    rintro own _ ⟨rfl, -⟩ id
    rfl
  list := by
    rintro own _ ⟨rfl, -⟩
    rfl
  save := by
    rintro own _ ⟨rfl, hKeyed⟩ task hTask
    exact ⟨_, task, rfl, hTask.alike, hTask, rfl, hKeyed.put hTask rfl⟩
  remove := by
    rintro own _ ⟨rfl, hKeyed⟩ id
    exact ⟨_, rfl, rfl, hKeyed.erase _⟩
  clear := by
    rintro own records -
    exact ⟨[], rfl, rfl, .nil start⟩

/-! ## Replies side by side -/

/-- Two replies of the same kind, with related records. -/
inductive Reply.Related (R : Task → Task → Prop) : Reply → Reply → Prop
  | recorded {task other : Task} (h : R task other) : Related R (.recorded task) (.recorded other)
  | found {task other : Option Task} (h : Option.Rel R task other) :
    Related R (.found task) (.found other)
  | listed {tasks others : List Task} (h : List.Forall₂ R tasks others) :
    Related R (.listed tasks) (.listed others)
  | removed (existed : Bool) : Related R (.removed existed) (.removed existed)
  | cleared : Related R .cleared .cleared

/-- Lists that are related to a common one are related to each other. -/
theorem forall₂_of_common {α : Type} {R S : α → α → Prop}
    (hR : ∀ c a b : α, R c a → R c b → S a b) {cs as bs : List α} (h : List.Forall₂ R cs as)
    (h' : List.Forall₂ R cs bs) : List.Forall₂ S as bs := by
  induction h generalizing bs with
  | nil =>
    cases h'
    exact .nil
  | cons hFirst _ ih =>
    cases h' with
    | cons hSecond hRest => exact .cons (hR _ _ _ hFirst hSecond) (ih hRest)

namespace Reply.Related

variable {R S : Task → Task → Prop} {reply other : Reply}

/-- Replies that are related to a third one are related, if records are. -/
theorem of_common (hR : ∀ c a b : Task, R c a → R c b → R a b) {first second : Reply}
    (h : Reply.Related R reply first) (h' : Reply.Related R reply second) :
    Reply.Related R first second := by
  cases h with
  | recorded hFirst =>
    cases h' with
    | recorded hSecond => exact .recorded (hR _ _ _ hFirst hSecond)
  | found hFirst =>
    cases h' with
    | found hSecond =>
      cases hFirst with
      | none =>
        cases hSecond
        exact .found .none
      | some hFirst =>
        cases hSecond with
        | some hSecond => exact .found (.some (hR _ _ _ hFirst hSecond))
  | listed hFirst =>
    cases h' with
    | listed hSecond => exact .listed (forall₂_of_common hR hFirst hSecond)
  | removed existed =>
    cases h'
    exact .removed existed
  | cleared =>
    cases h'
    exact .cleared

/-- Replies with related records have records that are related in any weaker sense. -/
theorem mono (hR : ∀ a b, R a b → S a b) (h : Reply.Related R reply other) :
    Reply.Related S reply other := by
  cases h with
  | recorded hRecord => exact .recorded (hR _ _ hRecord)
  | found hRecord =>
    cases hRecord with
    | none => exact .found .none
    | some hRecord => exact .found (.some (hR _ _ hRecord))
  | listed hRecords => exact .listed (hRecords.imp hR)
  | removed existed => exact .removed existed
  | cleared => exact .cleared

end Reply.Related

/-- Two records that tell the same. -/
structure Twin (task other : Task) : Prop where
  alike : task.Alike other
  left : task.IsRecord
  right : other.IsRecord

theorem Twin.refl {task : Task} (h : task.IsRecord) : Twin task task :=
  ⟨h.alike, h, h⟩

/-- Records that tell the same fail to be updated alike, or lead to records that tell the same. -/
theorem Twin.update {task other : Task} (h : Twin task other) {updates : Value}
    (hUpdates : updates.IsPlainUpdate) (wall : Wall) :
    SameOutcome Twin (task.update updates (.universal wall))
      (other.update updates (.universal wall)) :=
  (Task.alike_update h.alike hUpdates (.universal wall)).mono fun _ _ hOwn hOther hAlike =>
    ⟨hAlike, Task.isRecord_update h.left hUpdates hOwn,
      Task.isRecord_update h.right hUpdates hOther⟩

/-- Records that tell the same as a third one tell the same. -/
theorem Twin.of_common {task a b : Task} (h : Twin task a) (h' : Twin task b) : Twin a b :=
  ⟨(h.alike.symm h.left h.right).trans h'.alike, h.right, h'.right⟩

/-- What is preserved while a medium and the medium in memory carry out the same requests: they hold
records that tell the same under the same keys. -/
def Mirrored {σ : Type} (start : String) (Holds : σ → Records → Prop) (records : Records)
    (state : σ) : Prop :=
  records.IsKeyed start ∧ ∃ others, Holds state others ∧ Fields.Related Twin records others

/-- The outcomes of a request in memory and elsewhere are the same. -/
structure Outcome.Mirrors {σ : Type} (start : String) (Holds : σ → Records → Prop)
    (own : Outcome Records) (other : Outcome σ) : Prop where
  reply : SameOutcome (Reply.Related Twin) own.reply other.reply
  issuer : own.issuer = other.issuer
  state : Mirrored start Holds own.state other.state

/-! ## Equations of requests -/

namespace Medium

variable {σ : Type} {medium : Medium σ} {state : σ} {now : Moment} {issuer : Issuer}

/-- A new task that becomes a record is saved. -/
theorem perform_add (medium : Medium σ) (state : σ) {task record : Task} {next : Issuer}
    (h : task.create .null now issuer = (.ok record, next)) :
    medium.perform state (.add task) now issuer =
      .settle state next ((medium.save state record).map fun kept => (.recorded record, kept)) := by
  have hAdd : medium.add state task now issuer =
      ((medium.save state record).map fun kept => (record, kept), next) := by
    rw [add, h]
  rw [perform, hAdd]
  cases medium.save state record <;> rfl

/-- A task that cannot be created leaves the medium as it was. -/
theorem perform_add_error {task : Task} {cause : LifecycleError} {next : Issuer}
    (h : task.create .null now issuer = (.error cause, next)) :
    medium.perform state (.add task) now issuer = .settle state next (.error (.lifecycle cause)) := by
  have hAdd : medium.add state task now issuer = (.error (.lifecycle cause), next) := by
    rw [add, h]
  rw [perform, hAdd]
  rfl

/-- A request for all records is answered with what the medium lists. -/
theorem reply_getAll {records : List Task} (h : medium.list state = .ok records) (now : Moment)
    (issuer : Issuer) :
    (medium.perform state .getAll now issuer).reply = .ok (.listed records) := by
  rw [perform, h]
  rfl

/-- A request for a record is answered with what the medium finds. -/
theorem reply_get {id : Value} {record : Option Task} (h : medium.find state id = .ok record)
    (now : Moment) (issuer : Issuer) :
    (medium.perform state (.get id) now issuer).reply = .ok (.found record) := by
  rw [perform, h]
  rfl

/-- An update of a record that there is saves what it makes of it. -/
theorem update_found {id updates : Value} {existing : Task}
    (h : medium.find state id = .ok (some existing)) :
    medium.update state id updates now =
      ((existing.update updates now).mapError StoreError.lifecycle) >>= fun record =>
        (medium.save state record).map fun kept => (record, kept) := by
  rw [update, h]
  dsimp only
  cases existing.update updates now <;> rfl

/-- What is not found is not updated. -/
theorem update_notFound {id updates : Value} (h : medium.find state id = .ok none) :
    medium.update state id updates now = .error (.notFound id) := by
  rw [update, h]

/-- An update finds a record, changes it and saves it. -/
theorem update_eq_ok {id updates : Value} {record : Task} {next : σ}
    (h : medium.update state id updates now = .ok (record, next)) :
    ∃ existing, medium.find state id = .ok (some existing) ∧
      existing.update updates now = .ok record ∧ medium.save state record = .ok next := by
  rw [update] at h
  split at h
  · cases h
  · cases h
  · rename_i existing hFound
    split at h
    · cases h
    · rename_i hUpdate
      obtain ⟨kept, hKept, hSaved⟩ := map_eq_ok.1 h
      cases hSaved
      exact ⟨existing, hFound, hUpdate, hKept⟩

/-- All that a request can do to a state: leave it as it is, save the record of a new task or of an
update, remove a record or clear. -/
inductive Leaves (medium : Medium σ) (state : σ) (now : Moment) (issuer : Issuer) :
    Request → σ → Prop
  | same (request : Request) : Leaves medium state now issuer request state
  | added {task record : Task} {next : σ} (hCreate : (task.create .null now issuer).1 = .ok record)
      (hSave : medium.save state record = .ok next) :
      Leaves medium state now issuer (.add task) next
  | updated {id updates : Value} {existing record : Task} {next : σ}
      (hFind : medium.find state id = .ok (some existing))
      (hUpdate : existing.update updates now = .ok record)
      (hSave : medium.save state record = .ok next) :
      Leaves medium state now issuer (.update id updates) next
  | removed {id : Value} {existed : Bool} {next : σ}
      (hRemove : medium.remove state id = .ok (existed, next)) :
      Leaves medium state now issuer (.remove id) next
  | cleared {next : σ} (hClear : medium.clear state = .ok next) :
      Leaves medium state now issuer .clear next

/-- An attempt leaves what it leads to, or the state as it was when it fails. -/
theorem leaves_settle {α : Type} {request : Request} (next : Issuer)
    {attempt : Except StoreError α} {answer : α → Reply × σ}
    (h : ∀ result, attempt = .ok result →
      medium.Leaves state now issuer request (answer result).2) :
    medium.Leaves state now issuer request
      (Outcome.settle state next (attempt.map answer)).state := by
  cases attempt with
  | error cause => exact .same request
  | ok result => exact h result rfl

/-- What a request does to a state is one of these. -/
theorem leaves_perform (medium : Medium σ) (state : σ) (request : Request) (now : Moment)
    (issuer : Issuer) :
    medium.Leaves state now issuer request (medium.perform state request now issuer).state := by
  cases request with
  | add task =>
    cases hCreate : task.create .null now issuer with
    | mk result next =>
      cases result with
      | error cause =>
        rw [perform_add_error hCreate]
        exact .same _
      | ok record =>
        rw [perform_add _ _ hCreate]
        exact leaves_settle next fun kept hSave => .added (congrArg Prod.fst hCreate) hSave
  | get id => exact leaves_settle issuer fun found _ => .same _
  | getAll => exact leaves_settle issuer fun records _ => .same _
  | update id updates =>
    refine leaves_settle issuer fun result hResult => ?_
    obtain ⟨existing, hFind, hUpdate, hSave⟩ := update_eq_ok hResult
    exact .updated hFind hUpdate hSave
  | remove id => exact leaves_settle issuer fun result hRemove => .removed hRemove
  | clear => exact leaves_settle issuer fun next hClear => .cleared hClear

end Medium

/-! ## One request -/

/-- A request that stores can carry out: new tasks and updates are such that can be recorded. -/
def Request.IsPlain : Request → Prop
  | .add task => task.IsPlain
  | .update _ updates => updates.IsPlainUpdate
  | _ => True

section perform

variable {σ : Type} {start : String} {Holds : σ → Records → Prop} {medium : Medium σ}
  {records : Records} {state : σ}

/-- Outcomes settled on related results are the same in memory and elsewhere. -/
theorem Outcome.settle_mirrors (hState : Mirrored start Holds records state) (issuer : Issuer)
    {x : Except StoreError (Reply × Records)} {y : Except StoreError (Reply × σ)}
    (h : SameOutcome (fun a b => Reply.Related Twin a.1 b.1 ∧ Mirrored start Holds a.2 b.2) x y) :
    (Outcome.settle records issuer x).Mirrors start Holds (Outcome.settle state issuer y) := by
  cases h with
  | error cause => exact ⟨.error cause, rfl, hState⟩
  | ok hResult => exact ⟨.ok hResult.1, rfl, hResult.2⟩

namespace Medium.IsMap

/-- Records that tell the same are saved side by side. -/
theorem save_mirrored (hMap : medium.IsMap start Holds)
    (hState : Mirrored start Holds records state) {task other : Task} (hTwin : Twin task other) :
    SameOutcome (Mirrored start Holds) ((memoryMedium (.text start)).save records task)
      (medium.save state other) := by
  obtain ⟨hKeyed, others, hHolds, hTwins⟩ := hState
  obtain ⟨next, kept, hSave, hAlike, hKept, hNext⟩ := hMap.save hHolds hTwin.right
  rw [← hTwin.alike.id] at hNext
  rw [hSave]
  exact .ok ⟨hKeyed.put hTwin.left rfl, _, hNext,
    hTwins.put _ ⟨hTwin.alike.trans hAlike, hTwin.left, hKept⟩⟩

/-- What is found under a key is found side by side. -/
theorem find_mirrored (hMap : medium.IsMap start Holds)
    (hState : Mirrored start Holds records state) (id : Value) :
    SameOutcome (Option.Rel Twin) ((memoryMedium (.text start)).find records id)
      (medium.find state id) := by
  obtain ⟨-, others, hHolds, hTwins⟩ := hState
  rw [hMap.find hHolds]
  exact .ok (hTwins.get? _)

/-- Media that hold records which tell the same list records which tell the same. -/
theorem list_mirrored (hMap : medium.IsMap start Holds)
    (hState : Mirrored start Holds records state) :
    SameOutcome (List.Forall₂ Twin) ((memoryMedium (.text start)).list records)
      (medium.list state) := by
  obtain ⟨-, others, hHolds, hTwins⟩ := hState
  rw [hMap.list hHolds]
  refine .ok ?_
  rw [List.forall₂_map_left_iff, List.forall₂_map_right_iff]
  exact hTwins.imp fun _ _ h => h.2

/-- Media that hold records which tell the same still do after a removal. -/
theorem remove_mirrored (hMap : medium.IsMap start Holds)
    (hState : Mirrored start Holds records state) (id : Value) :
    SameOutcome (fun a b => a.1 = b.1 ∧ Mirrored start Holds a.2 b.2)
      ((memoryMedium (.text start)).remove records id) (medium.remove state id) := by
  obtain ⟨hKeyed, others, hHolds, hTwins⟩ := hState
  obtain ⟨next, hRemove, hNext⟩ := hMap.remove hHolds id
  rw [hRemove]
  exact .ok ⟨hTwins.has_eq _, hKeyed.erase _, _, hNext, hTwins.erase _⟩

/-- Media that hold records which tell the same still do when they are cleared. -/
theorem clear_mirrored (hMap : medium.IsMap start Holds)
    (hState : Mirrored start Holds records state) :
    SameOutcome (Mirrored start Holds) ((memoryMedium (.text start)).clear records)
      (medium.clear state) := by
  obtain ⟨-, others, hHolds, -⟩ := hState
  obtain ⟨next, hClear, hNext⟩ := hMap.clear hHolds
  rw [hClear]
  exact .ok ⟨.nil start, [], hNext, .nil⟩

/-- Media that hold records which tell the same still do after an update. -/
theorem update_mirrored (hMap : medium.IsMap start Holds)
    (hState : Mirrored start Holds records state) (id : Value) {updates : Value}
    (hUpdates : updates.IsPlainUpdate) (wall : Wall) :
    SameOutcome (fun a b => Twin a.1 b.1 ∧ Mirrored start Holds a.2 b.2)
      ((memoryMedium (.text start)).update records id updates (.universal wall))
      (medium.update state id updates (.universal wall)) := by
  have hFind := hMap.find_mirrored hState id
  generalize hOwn : (memoryMedium (.text start)).find records id = own at hFind
  generalize hOther : medium.find state id = other at hFind
  cases hFind with
  | error cause => cases hOwn
  | ok hFound =>
    cases hFound with
    | none =>
      rw [update_notFound hOwn, update_notFound hOther]
      exact .error _
    | some hTwin =>
      rw [update_found hOwn, update_found hOther]
      refine ((hTwin.update hUpdates wall).mapError _).bind fun task other hUpdated => ?_
      exact (hMap.save_mirrored hState hUpdated).map fun _ _ hNext => ⟨hUpdated, hNext⟩

/-- Media that hold records which tell the same still do after a new task, and answer alike. -/
theorem add_mirrors (hMap : medium.IsMap start Holds) (hState : Mirrored start Holds records state)
    {task : Task} (hTask : task.IsPlain) (wall : Wall) (issuer : Issuer) :
    ((memoryMedium (.text start)).perform records (.add task) (.universal wall) issuer).Mirrors start
      Holds (medium.perform state (.add task) (.universal wall) issuer) := by
  cases hCreate : task.create .null (.universal wall) issuer with
  | mk result issued =>
    cases result with
    | error cause =>
      rw [perform_add_error hCreate, perform_add_error hCreate]
      exact Outcome.settle_mirrors hState issued (.error _)
    | ok record =>
      have hRecord : record.IsRecord := Task.isRecord_create hTask (by rw [hCreate])
      rw [perform_add _ _ hCreate, perform_add _ _ hCreate]
      refine Outcome.settle_mirrors hState issued ?_
      exact (hMap.save_mirrored hState (Twin.refl hRecord)).map fun _ _ hNext =>
        ⟨.recorded (Twin.refl hRecord), hNext⟩

/-- **One request.** A medium that keeps a map answers a request as the medium in memory does, if both
hold records that tell the same, and then they do so again. -/
theorem perform_mirrors (hMap : medium.IsMap start Holds)
    (hState : Mirrored start Holds records state) {request : Request} (hRequest : request.IsPlain)
    (wall : Wall) (issuer : Issuer) :
    ((memoryMedium (.text start)).perform records request (.universal wall) issuer).Mirrors start
      Holds (medium.perform state request (.universal wall) issuer) := by
  cases request with
  | add task => exact hMap.add_mirrors hState hRequest wall issuer
  | get id =>
    rw [perform, perform]
    refine Outcome.settle_mirrors hState issuer ?_
    exact (hMap.find_mirrored hState id).map fun _ _ hFound => ⟨.found hFound, hState⟩
  | getAll =>
    rw [perform, perform]
    refine Outcome.settle_mirrors hState issuer ?_
    exact (hMap.list_mirrored hState).map fun _ _ hListed => ⟨.listed hListed, hState⟩
  | update id updates =>
    rw [perform, perform]
    refine Outcome.settle_mirrors hState issuer ?_
    exact (hMap.update_mirrored hState id hRequest wall).map fun _ _ hNext =>
      ⟨.recorded hNext.1, hNext.2⟩
  | remove id =>
    rw [perform, perform]
    refine Outcome.settle_mirrors hState issuer ?_
    refine (hMap.remove_mirrored hState id).map ?_
    rintro ⟨existed, next⟩ ⟨_, next'⟩ ⟨rfl, hNext⟩
    exact ⟨.removed existed, hNext⟩
  | clear =>
    rw [perform, perform]
    refine Outcome.settle_mirrors hState issuer ?_
    exact (hMap.clear_mirrored hState).map fun _ _ hNext => ⟨.cleared, hNext⟩

end Medium.IsMap

end perform

end Crontab
