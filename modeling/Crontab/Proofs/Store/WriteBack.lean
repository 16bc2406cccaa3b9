import Crontab.Proofs.Store.Unreadable
import Crontab.Proofs.Task.Told

/-!
# Where updates are written

A store on a server looks for a record under the key of the identifier that it is asked for, and writes
what an update makes of it under the key of the identifier that the record has.  Other programs may put
records under any keys, and if the two keys are not the same, the update is not found again where the
record was found.

* `Session.Rewrites`, `Session.WritesBack` — what an update reads and writes, and what should come of it;
* `Session.update_writesBack` — every update that succeeds;
* `Session.update_misplaced` — an update that gets lost.
-/

namespace Crontab

open Time Procedure

/-! ## Texts that are found and saved -/

section texts

variable {keyPrefix id updates : Value} {texts next : TextMap} {task record : Task} {now : Moment}

/-- No two tasks are told under one key. -/
theorem TextMap.Tells.unique {key : String} {other : Task} (h : texts.Tells key task)
    (hOther : texts.Tells key other) : task = other := by
  rw [← readableRecord?_eq_some_iff] at h hOther
  exact Option.some.inj (h.symm.trans hOther)

/-- Looking for a record on a server leaves its texts as they are. -/
theorem runFrom_findText_state (keyPrefix id : Value) (texts : TextMap) :
    (runFrom (findText keyPrefix id) texts).2 = texts :=
  (follows_findText keyPrefix id texts).state_of_map

/-- A record that is found is told by the text under the key of the identifier. -/
theorem runFrom_findText_eq_ok (h : runFrom (findText keyPrefix id) texts = (.ok (some task), next)) :
    next = texts ∧ texts.Tells (storeKey keyPrefix id) task := by
  have hFollows := follows_findText keyPrefix id texts
  rw [h] at hFollows
  obtain ⟨found, hFind, hPair⟩ := map_eq_ok.1 hFollows.eq_ok
  obtain ⟨rfl, rfl⟩ := Prod.mk.inj hPair
  exact ⟨rfl, TextMap.tells_iff.2 (readKey_eq_some_iff.1 hFind)⟩

/-- A record that is saved stands as a text under the key of its own identifier. -/
theorem runFrom_saveText_eq_ok (h : runFrom (saveText keyPrefix record) texts = (.ok (), next)) :
    ∃ text, record.write = .ok text ∧
      next = TextMap.set texts (storeKey keyPrefix record.id) text := by
  have hFollows := follows_saveText keyPrefix texts record
  rw [h] at hFollows
  obtain ⟨saved, hSave, hPair⟩ := map_eq_ok.1 hFollows.eq_ok
  obtain rfl := (Prod.mk.inj hPair).2
  simp only [keyValueMedium] at hSave
  split at hSave
  · cases hSave
  · next text hText => exact ⟨text, hText, (Except.ok.inj hSave).symm⟩

/-- **One update.** A record is read under the key of the identifier that is asked for, and written
under the key of the identifier that it has. -/
theorem runFrom_update_eq_ok
    (h : runFrom ((keyValueOperations keyPrefix).update id updates now) texts = (.ok record, next)) :
    id.isPrintable = true ∧ ∃ existing text, texts.Tells (storeKey keyPrefix id) existing ∧
      existing.update updates now = .ok record ∧ record.write = .ok text ∧
      next = TextMap.set texts (storeKey keyPrefix existing.id) text := by
  simp only [keyValueOperations] at h
  obtain ⟨found, _, hFind, hRest⟩ := runFrom_bind_eq_ok.1 h
  have hId := (findAndSave_texts keyPrefix).foundId hFind
  cases found with
  | none => cases hRest
  | some existing =>
    obtain ⟨rfl, hTells⟩ := runFrom_findText_eq_ok hFind
    dsimp only at hRest
    obtain ⟨own, _, hMerged, hSaved⟩ := runFrom_bind_eq_ok.1 hRest
    rw [merged] at hMerged
    cases hUpdate : existing.update updates now with
    | error cause =>
      rw [hUpdate] at hMerged
      cases hMerged
    | ok later =>
      rw [hUpdate] at hMerged
      obtain ⟨hOwn, rfl⟩ := Prod.mk.inj hMerged
      obtain rfl := Except.ok.inj hOwn
      obtain ⟨_, _, hSave, hReported⟩ := runFrom_bind_eq_ok.1 hSaved
      obtain ⟨text, hWrite, rfl⟩ := runFrom_saveText_eq_ok hSave
      obtain ⟨_, _, hReport, hLast⟩ := runFrom_bind_eq_ok.1 hReported
      obtain rfl : _ = _ := (congrArg Prod.snd hReport).symm.trans (runFrom_report_state _ _ _)
      obtain ⟨hRecord, rfl⟩ := Prod.mk.inj hLast
      obtain rfl := Except.ok.inj hRecord
      exact ⟨hId, existing, text, hTells, hUpdate, hWrite, by rw [Task.id_of_update hUpdate]⟩

/-- A record that is told by the text under its key is found. -/
theorem runFrom_findText_of_tells {start : String} (hId : id.isPrintable = true)
    (h : texts.Tells (storeKey (.text start) id) task) :
    (runFrom (findText (.text start) id) texts).1 = .ok (some task) := by
  rcases runFrom_findText hId with ⟨own, hOwn, hResult⟩ | ⟨hNone | hEmpty, -⟩ | ⟨-, hNot, -⟩
  · rw [h.unique hOwn]
    exact hResult
  · obtain ⟨text, hText, -⟩ := TextMap.tells_iff.1 h
    rw [hText] at hNone
    cases hNone
  · obtain ⟨text, hText, hRead⟩ := TextMap.tells_iff.1 h
    obtain rfl := Option.some.inj (hEmpty.symm.trans hText)
    cases isEmpty_of_read hRead
  · exact absurd h (hNot task)

end texts

/-! ## Updates in sessions -/

namespace Session

variable {session : Session} {start : String} {address : ServerAddress} {id updates : Value}
  {existing record : Task} {text : String}

/-- What an update on a server reads and writes. -/
structure Rewrites (session : Session) (start : String) (id updates : Value)
    (existing record : Task) (text : String) : Prop where
  /-- The record is read under the key of the identifier that is asked for. -/
  tells : session.hosts.texts.Tells (storeKey (.text start) id) existing
  update : existing.update updates (.universal session.wall) = .ok record
  write : record.write = .ok text
  /-- The new text is put under the key of the identifier that the record has, and no other key is
  touched. -/
  texts : ∀ key, Fields.get? (session.proceed (.request (.update id updates))).hosts.texts key =
    if storeKey (.text start) existing.id = key then some (some text)
    else Fields.get? session.hosts.texts key

/-- An update of which the result is kept where the record was read. -/
structure WritesBack (session : Session) (start : String) (id updates : Value) (record : Task) :
    Prop where
  /-- The text of the result stands under the key of the identifier that was asked for. -/
  text : ∃ text, record.write = .ok text ∧
    Fields.get? (session.proceed (.request (.update id updates))).hosts.texts
      (storeKey (.text start) id) = some (some text)
  /-- No other key was made or changed. -/
  others : ∀ key, key ≠ storeKey (.text start) id →
    Fields.get? (session.proceed (.request (.update id updates))).hosts.texts key =
      Fields.get? session.hosts.texts key
  /-- What is found is the result, with its mapping but for what a text leaves out. -/
  found : ∃ read, ((session.proceed (.request (.update id updates))).course (.get id)).reply =
      .ok (.found (some read)) ∧
    ∃ json, read.toJson = .ok json ∧ record.trimmed.toJson = .ok json

/-- A store on a server stays where it is. -/
theorem store_proceed (hStore : session.store = .redis (.text start) address true)
    (request : Request) :
    (session.proceed (.request request)).store = .redis (.text start) address true := by
  rw [proceed, course_onServer hStore]
  exact hStore

/-- A request for a record on a server is answered with the task told under its key. -/
theorem course_get_of_tells (hStore : session.store = .redis (.text start) address true)
    (hId : id.isPrintable = true)
    (h : session.hosts.texts.Tells (storeKey (.text start) id) record) :
    (session.course (.get id)).reply = .ok (.found (some record)) := by
  have hReply : (session.course (.get id)).reply =
      (runFrom (findText (.text start) id) session.hosts.texts).1.map .found :=
    congrArg Course.reply (course_onServer hStore (.get id))
  rw [hReply, runFrom_findText_of_tells hId h]
  rfl

/-- An update that succeeds reads a record under one key, and writes it under the key of the identifier
that the record has. -/
theorem exists_rewrites (hStore : session.store = .redis (.text start) address true)
    (hReply : (session.course (.update id updates)).reply = .ok (.recorded record)) :
    id.isPrintable = true ∧
      ∃ existing text, session.Rewrites start id updates existing record text := by
  rw [course_onServer hStore] at hReply
  obtain ⟨own, hResult, hOwn⟩ := map_eq_ok.1 hReply
  obtain rfl := Reply.recorded.inj hOwn
  obtain ⟨hId, existing, text, hTells, hUpdate, hWrite, hNext⟩ :=
    runFrom_update_eq_ok (Prod.ext hResult rfl)
  have hTexts : (session.proceed (.request (.update id updates))).hosts.texts =
      TextMap.set session.hosts.texts (storeKey (.text start) existing.id) text := by
    rw [proceed, course_onServer hStore]
    exact hNext
  refine ⟨hId, existing, text, hTells, hUpdate, hWrite, fun key => ?_⟩
  rw [hTexts, TextMap.set, Fields.get?_put]

/-- If the record has the identifier that was asked for, its update is written back. -/
theorem Rewrites.writesBack (h : session.Rewrites start id updates existing record text)
    (hStore : session.store = .redis (.text start) address true) (hId : id.isPrintable = true)
    (hUpdates : updates.IsProper) (hSame : existing.id.plain = id.plain) :
    session.WritesBack start id updates record := by
  have hKey : storeKey (.text start) existing.id = storeKey (.text start) id :=
    storeKey_inj.2 hSame
  have hText := h.texts (storeKey (.text start) id)
  rw [if_pos hKey] at hText
  refine ⟨⟨text, h.write, hText⟩, fun key hOther => ?_, ?_⟩
  · rw [h.texts, hKey, if_neg hOther.symm]
  · obtain ⟨before, -, hBefore⟩ := TextMap.tells_iff.1 h.tells
    have hTold := (Task.isTold_of_read hBefore).update hUpdates h.update
    obtain ⟨read, hRead, -, hJson⟩ := hTold.exists_read h.write
    refine ⟨read, course_get_of_tells (store_proceed hStore _) hId
      (TextMap.tells_iff.2 ⟨text, ?_, hRead⟩), hJson⟩
    rw [TextMap.get, hText]
    rfl

/-- If the record has another identifier, what is found is the record as it was. -/
theorem Rewrites.found_unchanged (h : session.Rewrites start id updates existing record text)
    (hStore : session.store = .redis (.text start) address true) (hId : id.isPrintable = true)
    (hOther : existing.id.plain ≠ id.plain) :
    ((session.proceed (.request (.update id updates))).course (.get id)).reply =
      .ok (.found (some existing)) := by
  refine course_get_of_tells (store_proceed hStore _) hId ?_
  have hTells := h.tells
  rw [TextMap.tells_iff] at hTells ⊢
  rwa [TextMap.get, h.texts, if_neg fun hKey => hOther (storeKey_inj.1 hKey)]

/-- **Updates on a server.** Whatever is on the server, an update that succeeds is written back if the
record that was read has the identifier that was asked for; otherwise it is written under another key,
and lost where the record was read. -/
theorem update_writesBack (hStore : session.store = .redis (.text start) address true)
    (hUpdates : updates.IsProper)
    (hReply : (session.course (.update id updates)).reply = .ok (.recorded record)) :
    ∃ existing text, session.Rewrites start id updates existing record text ∧
      (existing.id.plain = id.plain → session.WritesBack start id updates record) ∧
      (existing.id.plain ≠ id.plain →
        ((session.proceed (.request (.update id updates))).course (.get id)).reply =
          .ok (.found (some existing))) := by
  obtain ⟨hId, existing, text, hRewrites⟩ := exists_rewrites hStore hReply
  exact ⟨existing, text, hRewrites, hRewrites.writesBack hStore hId hUpdates,
    hRewrites.found_unchanged hStore hId⟩

/-- An update that asks for nothing but another name. -/
def newName : Value :=
  .mapping [("name", .text "weekly report")]

theorem isProper_newName : newName.IsProper :=
  ⟨List.nodup_singleton _, trivial, trivial⟩

/-- Whether an answer is a record with some property. -/
def isRecorded (reply : Except Breakdown Reply) (test : Task → Bool) : Bool :=
  match reply with
  | .ok (.recorded record) => test record
  | _ => false

/-- An answer that is recorded with some property has a record with that property. -/
theorem exists_of_isRecorded {reply : Except Breakdown Reply} {test : Task → Bool}
    (h : isRecorded reply test = true) :
    ∃ record, reply = .ok (.recorded record) ∧ test record = true := by
  unfold isRecorded at h
  split at h
  · exact ⟨_, rfl, h⟩
  · cases h

/-- A store on a server on which there is a record of an identifier, under the key of an identifier. -/
def holding (id own : String) : Session where
  store := .redis (.text "cron:") ⟨.null, .null, .null⟩ true
  hosts :=
    { texts :=
        [("cron:" ++ id,
          some ("\x7b\"id\": \"" ++ own ++ "\", \"name\": \"report\", \"options\": \x7b\"expression\": \"0 6 * * 1\"\x7d\x7d"))] }
  wall := Wall.first

/-- A record under the key of its own identifier is updated in place. -/
theorem update_writesBack_newName :
    ∃ record, ((holding "a" "a").course (.update (.text "a") newName)).reply =
        .ok (.recorded record) ∧
      ∃ existing text, (holding "a" "a").Rewrites "cron:" (.text "a") newName existing record text ∧
        (existing.id.plain = "a" → (holding "a" "a").WritesBack "cron:" (.text "a") newName record) ∧
        (existing.id.plain ≠ "a" →
          (((holding "a" "a").proceed (.request (.update (.text "a") newName))).course
            (.get (.text "a"))).reply = .ok (.found (some existing))) := by
  have hRecorded : isRecorded ((holding "a" "a").course (.update (.text "a") newName)).reply
      (fun _ => true) = true := by decide +kernel
  obtain ⟨record, hReply, -⟩ := exists_of_isRecorded hRecorded
  exact ⟨record, hReply, update_writesBack rfl isProper_newName hReply⟩

/-- **A lost update.** The record is returned with its new name, but it is found with its old one, and
under another key there is a new record. -/
theorem update_misplaced :
    let before := holding "a" "b"
    let after := before.proceed (.request (.update (.text "a") newName))
    (∃ record, (before.course (.update (.text "a") newName)).reply = .ok (.recorded record) ∧
      record.write.toOption ≠ TextMap.get after.hosts.texts "cron:a") ∧
    Fields.get? after.hosts.texts "cron:a" = Fields.get? before.hosts.texts "cron:a" ∧
    Fields.get? before.hosts.texts "cron:b" = none ∧
    (Fields.get? after.hosts.texts "cron:b").isSome = true := by
  intro before after
  have hRecorded : isRecorded (before.course (.update (.text "a") newName)).reply
      (fun record => record.write.toOption ≠ TextMap.get after.hosts.texts "cron:a") = true := by
    decide +kernel
  obtain ⟨record, hReply, hText⟩ := exists_of_isRecorded hRecorded
  exact ⟨⟨record, hReply, of_decide_eq_true hText⟩, by decide +kernel, by decide +kernel,
    by decide +kernel⟩

end Session

end Crontab
