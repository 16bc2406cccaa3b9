import Crontab.Proofs.Store.Maps
import Crontab.Store.KeyValue

/-!
# The map in a key-value server

A server on which only one store has put its texts keeps the records that are read from them: every
record that is written is read back, and the store finds all of its keys by their start.

* `TextMap.patternStart_scanPattern` — the search pattern is for the start of the keys, literally;
* `TextsHold` — the records in the texts of a server;
* `isMap_keyValueMedium` — the medium on such a server keeps a map.
-/

namespace Crontab

/-! ## Search patterns -/

namespace TextMap

/-- Characters other than a backslash stand for themselves. -/
theorem unescape_of_ne {c : Char} (h : c ≠ '\\') (rest : List Char) :
    unescape (c :: rest) = c :: unescape rest := by
  rw [unescape]
  rintro _ _ rfl
  exact absurd rfl h

/-- The backslashes in front of the characters with a meaning of their own are taken away again. -/
theorem unescape_escaped (chars : List Char) :
    unescape (chars.flatMap fun c => if isPatternChar c then ['\\', c] else [c]) = chars := by
  induction chars with
  | nil => rfl
  | cons c chars ih =>
    rw [List.flatMap_cons]
    by_cases hPattern : isPatternChar c = true
    · have hLine : c ≠ '\n' := by
        rintro rfl
        revert hPattern
        decide
      rw [if_pos hPattern, List.cons_append, List.singleton_append, unescape, if_neg hLine, ih]
    · have hSlash : c ≠ '\\' := by
        rintro rfl
        exact hPattern (by decide)
      rw [if_neg hPattern, List.singleton_append, unescape_of_ne hSlash, ih]

/-- The search pattern of a start is for that start, literally. -/
theorem patternStart_scanPattern (start : String) :
    patternStart (scanPattern start) = start.toList := by
  rw [patternStart, scanPattern, List.getLast?_concat, if_pos rfl, List.dropLast_concat,
    unescape_escaped]

/-- A scan finds all keys if all of them have the start that is searched for. -/
theorem scan_eq_names {texts : TextMap} {start : String}
    (h : ∀ key ∈ Fields.names texts, start.toList <+: key.toList) :
    scan texts (scanPattern start) = Fields.names texts := by
  rw [scan, patternStart_scanPattern, List.filter_eq_self]
  exact fun key hKey => List.isPrefixOf_iff_prefix.2 (h key hKey)

/-- Removing key after key leaves the keys that are not removed. -/
theorem foldl_erase (texts : TextMap) (keys : List String) :
    keys.foldl Fields.erase texts = texts.filter fun entry => !keys.contains entry.1 := by
  induction keys generalizing texts with
  | nil => simp
  | cons key keys ih =>
    rw [List.foldl_cons, ih, Fields.erase, List.filter_filter]
    refine List.filter_congr fun entry _ => ?_
    rw [List.contains_cons]
    by_cases hKey : entry.1 = key <;> simp [hKey]

/-- Erasing all keys leaves nothing. -/
theorem foldl_erase_names (texts : TextMap) : (Fields.names texts).foldl Fields.erase texts = [] := by
  rw [foldl_erase, List.filter_eq_nil_iff]
  intro entry hEntry
  have hMem : entry.1 ∈ Fields.names texts := List.mem_map.2 ⟨entry, hEntry, rfl⟩
  simp [hMem]

end TextMap

/-! ## The medium -/

/-- A text under a key from which a record is read. -/
def ReadsAs (text? : Option String) (record : Task) : Prop :=
  ∃ text, text? = some text ∧ Task.read text = .ok record

/-- The texts of a server hold the records that are read from them. -/
def TextsHold (start : String) (texts : TextMap) (records : Records) : Prop :=
  records.IsKeyed start ∧ Fields.Related ReadsAs texts records

section medium

variable {start : String} {texts : TextMap} {records : Records}

/-- A text from which a task is read is not empty. -/
theorem isEmpty_of_read {text : String} {task : Task} (h : Task.read text = .ok task) :
    text.isEmpty = false := by
  refine Bool.eq_false_iff.2 fun hEmpty => ?_
  obtain rfl := String.isEmpty_iff.1 hEmpty
  have hRead : Json.ofText "" = .error .malformed := by rfl
  rw [Task.read, hRead] at h
  cases h

/-- The task under a key is the one that is read from the text. -/
theorem readKey_eq_some_iff {key : String} {task : Task} :
    readKey texts key = .ok (some task) ↔
      ∃ text, TextMap.get texts key = some text ∧ Task.read text = .ok task := by
  rw [readKey]
  constructor
  · intro h
    split at h
    · cases h
    · next text hText =>
      split at h
      · cases h
      · obtain ⟨own, hRead, hOwn⟩ := map_eq_ok.1 h
        obtain rfl := Option.some.inj hOwn
        exact ⟨text, hText, mapError_eq_ok.1 hRead⟩
  · rintro ⟨text, hText, hRead⟩
    simp only [hText, isEmpty_of_read hRead, Bool.false_eq_true, if_false, readRecord, hRead]
    rfl

/-- Texts from which records are read have under a key what the records have. -/
theorem readKey_eq (h : Fields.Related ReadsAs texts records) (key : String) :
    readKey texts key = .ok (Fields.get? records key) := by
  have hGet := h.get? key
  rw [readKey, TextMap.get]
  generalize Fields.get? texts key = found at hGet ⊢
  generalize Fields.get? records key = record at hGet ⊢
  cases hGet with
  | none => rfl
  | some hReads =>
    obtain ⟨text, rfl, hRead⟩ := hReads
    simp only [Option.join_some, isEmpty_of_read hRead, Bool.false_eq_true, if_false, readRecord,
      hRead]
    rfl

/-- All keys of the store have the start of the store. -/
theorem storeKeys_eq (h : TextsHold start texts records) :
    storeKeys (.text start) texts = .ok (Fields.names texts) := by
  have hStart : ∀ key ∈ Fields.names texts, start.toList <+: key.toList := by
    intro key hKey
    rw [h.2.names_eq] at hKey
    obtain ⟨entry, hEntry, rfl⟩ := List.mem_map.1 hKey
    rw [h.1.key entry hEntry, storeKey_text, String.toList_append]
    exact List.prefix_append _ _
  rw [storeKeys, searchedStart_text, Except.map, TextMap.scan_eq_names hStart]

/-- The records that can be read under all keys are all records. -/
theorem filterMap_readableRecord? (h : Fields.Related ReadsAs texts records) {whole : TextMap}
    (hWhole : ∀ entry ∈ texts, Fields.get? whole entry.1 = some entry.2) :
    (Fields.names texts).filterMap (readableRecord? whole) = records.map (·.2) := by
  induction h with
  | nil => rfl
  | @cons entry record texts records hEntry _ ih =>
    rw [List.forall_mem_cons] at hWhole
    obtain ⟨text, hText, hRead⟩ := hEntry.2
    have hRecord : readableRecord? whole entry.1 = some record.2 := by
      rw [readableRecord?, TextMap.get, hWhole.1, hText, Option.join_some, Option.bind_some,
        readRecord, hRead]
      rfl
    rw [Fields.names, List.map_cons, List.filterMap_cons, hRecord, List.map_cons]
    exact congrArg (record.2 :: ·) (ih hWhole.2)

/-- **The server.** The medium on a server keeps the map of the records that are read from it. -/
theorem isMap_keyValueMedium (start : String) :
    (keyValueMedium (.text start)).IsMap start (TextsHold start) where
  keyed := fun hHolds => hHolds.1
  find := fun hHolds id => readKey_eq hHolds.2 _
  list := by
    intro texts records hHolds
    have hNodup : (Fields.names texts).Nodup := by
      rw [hHolds.2.names_eq]
      exact hHolds.1.nodup
    simp only [keyValueMedium, storeKeys_eq hHolds, Except.map]
    rw [filterMap_readableRecord? hHolds.2 fun entry hEntry => Fields.get?_of_mem hNodup hEntry]
  save := by
    intro texts records hHolds task hTask
    -- what is read back of a saved record is not the record, but what is left of it
    obtain ⟨text, hWrite, hRead⟩ := Task.read_write hTask.isStorable
    refine ⟨TextMap.set texts (storeKey (.text start) task.id) text, task.restored, ?_,
      hTask.alike_restored, hTask.restored, hHolds.1.put hTask.restored rfl,
      hHolds.2.put _ ⟨text, rfl, hRead⟩⟩
    simp only [keyValueMedium, hWrite]
  remove := by
    intro texts records hHolds id
    refine ⟨Fields.erase texts (storeKey (.text start) id), ?_, hHolds.1.erase _,
      hHolds.2.erase _⟩
    have hFound : (TextMap.get texts (storeKey (.text start) id)).isSome =
        Fields.has records (storeKey (.text start) id) := by
      have hGet := hHolds.2.get? (storeKey (.text start) id)
      rw [TextMap.get, Fields.has]
      generalize Fields.get? texts (storeKey (.text start) id) = found at hGet ⊢
      generalize Fields.get? records (storeKey (.text start) id) = record at hGet ⊢
      cases hGet with
      | none => rfl
      | some hReads =>
        obtain ⟨text, rfl, -⟩ := hReads
        rfl
    simp only [keyValueMedium, TextMap.delete, hFound]
  clear := by
    intro texts records hHolds
    refine ⟨[], ?_, .nil start, .nil⟩
    simp only [keyValueMedium, storeKeys_eq hHolds, Except.map, TextMap.foldl_erase_names]

end medium

end Crontab
