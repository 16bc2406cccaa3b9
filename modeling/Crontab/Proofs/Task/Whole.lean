import Crontab.Proofs.Json.Limits
import Crontab.Proofs.Task.Records
import Crontab.Store.Database

/-!
# Whole records

After a record was written there is still something to do with it: its name is shown in a message,
and memory hands out a copy of it.  Both succeed for a whole record.  Stores only ever make whole
records, as long as the names they are given are texts.

* `Task.IsWhole` — records that can be shown and copied;
* `Json.isPrintable_toValue` — what a JSON text holds can be shown;
* `Task.isWhole_create`, `Task.isWhole_update` — the records that stores make;
* `isWhole_of_read`, `isWhole_of_rowTask` — the records that are read.
-/

namespace Crontab

open Time

/-- The name of a record can be shown, and the record can be copied. -/
structure Task.IsWhole (task : Task) : Prop where
  name : task.name.isPrintable = true
  options : ∃ options, task.options = .filled options
  metadata : ∃ metadata, task.metadata = .filled metadata

/-- A whole record is copied as it is. -/
theorem Task.IsWhole.clone {task : Task} (h : task.IsWhole) : task.clone = .ok task := by
  obtain ⟨options, hOptions⟩ := h.options
  obtain ⟨metadata, hMetadata⟩ := h.metadata
  rw [Task.clone, hOptions, hMetadata]

/-! ## Values that can be shown -/

/-- A value with a text is printable. -/
theorem Value.isPrintable_of_text? {value : Value} (h : value.text?.isSome = true) :
    value.isPrintable = true := by
  cases value with
  | text s => rfl
  | status status => rfl
  | _ => cases h

namespace Json

mutual

/-- A value of a JSON text can be shown if it can be written. -/
theorem isPrintable_toValue : (json : Json) → json.isWritable = true →
    json.toValue.isPrintable = true
  | .null, _ => rfl
  | .bool _, _ => rfl
  | .int _, h => h
  | .float _, _ => rfl
  | .text _, _ => rfl
  | .list items, h => arePrintable_listToValues items h
  | .object fields, h => havePrintableValues_fieldsToValues fields h

/-- The values of writable items are printable. -/
theorem arePrintable_listToValues : (items : List Json) → areWritable items = true →
    Value.arePrintable (listToValues items) = true
  | [], _ => rfl
  | item :: items, h => by
    rw [areWritable, Bool.and_eq_true] at h
    rw [listToValues, Value.arePrintable, isPrintable_toValue item h.1,
      arePrintable_listToValues items h.2]
    rfl

/-- The values of writable fields are printable. -/
theorem havePrintableValues_fieldsToValues : (fields : List (String × Json)) →
    haveWritableValues fields = true → Value.havePrintableValues (fieldsToValues fields) = true
  | [], _ => rfl
  | (name, value) :: fields, h => by
    rw [haveWritableValues, Bool.and_eq_true] at h
    rw [fieldsToValues, Value.havePrintableValues, isPrintable_toValue value h.1,
      havePrintableValues_fieldsToValues fields h.2]
    rfl

end

end Json

/-! ## Records that stores make -/

/-- The names that a request gives are texts. -/
def Request.HasTextNames : Request → Prop
  | .add task => task.name.text?.isSome = true
  | .update _ updates => ∀ fields name, updates = .mapping fields →
      Fields.get? fields "name" = some name → name.text?.isSome = true
  | _ => True

section records

variable {task record : Task} {given updates : Value} {now : Moment} {issuer : Issuer}

/-- The record of a new task with a text for its name is whole. -/
theorem Task.isWhole_create (hName : task.name.text?.isSome = true)
    (h : (task.create given now issuer).1 = .ok record) : record.IsWhole := by
  obtain ⟨options, metadata, -, -, rfl⟩ := Task.create_eq_ok h
  exact ⟨Value.isPrintable_of_text? hName, ⟨_, rfl⟩, ⟨_, rfl⟩⟩

/-- An update of a whole record gives a whole record of the same identifier. -/
theorem Task.isWhole_update {id : Value} (hTask : task.IsWhole)
    (hNames : (Request.update id updates).HasTextNames) (h : task.update updates now = .ok record) :
    record.IsWhole ∧ record.id = task.id := by
  obtain ⟨options, hOptions⟩ := hTask.options
  obtain ⟨metadata, hMetadata⟩ := hTask.metadata
  obtain ⟨fields, status, slot, updated, hFields, -, hSlot, -, rfl⟩ :=
    Task.update_eq_ok hOptions hMetadata h
  refine ⟨⟨?_, ?_, ⟨updated, rfl⟩⟩, rfl⟩
  · cases hName : fields.get? "name" with
    | none => exact hTask.name
    | some name => exact Value.isPrintable_of_text? (hNames fields name hFields hName)
  · rcases updateOptions_eq_ok hSlot with rfl | ⟨given, -, rfl⟩ <;> exact ⟨_, rfl⟩

end records

/-! ## Records that are read -/

section reading

variable {task : Task}

/-- A task that is read from fields with a printable name is whole. -/
theorem Task.decodeFields_isWhole {fields : Fields Value} (h : Task.decodeFields fields = .ok task)
    (hName : ∀ name, fields.get? "name" = some name → name.isPrintable = true) : task.IsWhole := by
  simp only [Task.decodeFields, bind_eq_ok] at h
  obtain ⟨options, -, parts, -, metadata, -, h⟩ := h
  obtain rfl := Except.ok.inj h
  refine ⟨?_, ⟨_, rfl⟩, ⟨_, rfl⟩⟩
  cases hGet : fields.get? "name" with
  | none => rfl
  | some name => exact hName name hGet

/-- The fields of a printable mapping are printable. -/
theorem Value.isPrintable_of_get? {fields : Fields Value}
    (h : Value.havePrintableValues fields = true) {name : String} {value : Value}
    (hValue : fields.get? name = some value) : value.isPrintable = true := by
  induction fields with
  | nil => cases hValue
  | cons field fields ih =>
    obtain ⟨key, own⟩ := field
    rw [Value.havePrintableValues, Bool.and_eq_true] at h
    rw [Fields.get?] at hValue
    split at hValue
    · obtain rfl := Option.some.inj hValue
      exact h.1
    · exact ih h.2 hValue

/-- The record of a text is whole. -/
theorem isWhole_of_read {text : String} (h : Task.read text = .ok task) : task.IsWhole := by
  obtain ⟨json, hJson, hDecode⟩ := Task.read_eq_ok_iff.1 h
  have hPrintable := Json.isPrintable_toValue json (Json.isWritable_of_ofText hJson)
  rw [Task.decode.eq_def] at hDecode
  split at hDecode
  · next fields hFields =>
    rw [hFields] at hPrintable
    exact Task.decodeFields_isWhole hDecode fun name hName =>
      Value.isPrintable_of_get? hPrintable hName
  · cases hDecode

/-- The record of a row is whole. -/
theorem isWhole_of_rowTask {row : Row} (h : rowTask row = .ok task) : task.IsWhole := by
  refine Task.decodeFields_isWhole (mapError_eq_ok.1 h) fun name hName => ?_
  obtain rfl := Option.some.inj hName
  cases row.name <;> rfl

end reading

end Crontab
