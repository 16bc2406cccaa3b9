import Crontab.Proofs.Task.Restored
import Crontab.Proofs.Text.Stripping
import Crontab.Time.Conversion

/-!
# Timestamps

Timestamps are stored as ISO texts, and dates may be given as such texts.  Either way the text of a
moment is read as the same reading of a clock with the same offset, only that a stored timestamp is
never naive and that an offset of less than a second is no longer there.

* `keptOffset` — the offset that is read for one that was written;
* `solid_isoChars` — the text of a moment has no blanks;
* `decodeMoment_iso`, `dateOf_iso` — what is read for a stored timestamp and for a date;
* `timestamps_read_back` — the round trips.
-/

namespace Crontab

open Time Text

/-- The offset that is read for one that was written: none if it is less than a second. -/
def keptOffset (offset : Int) : Int :=
  if offset.natAbs < second then 0 else offset

/-- Offsets of whole seconds are kept, whether they are zero or not. -/
theorem keptOffset_eq_self_iff {offset : Int} :
    keptOffset offset = offset ↔ offset = 0 ∨ second ≤ offset.natAbs := by
  unfold keptOffset
  split <;> omega

namespace Time.Moment

variable {moment : Moment}

/-- The text of a moment has no blanks. -/
theorem solid_isoChars (moment : Moment) : Solid moment.isoChars := by
  have hSigns : ['-', 'T', ':', '.', '+'].all (!isBlank ·) = true := by decide
  intro c hc
  rcases isIsoChar_of_mem hc with hDigit | hSign
  · exact isBlank_of_isDigit hDigit
  · rw [← Bool.not_eq_true']
    exact List.all_eq_true.1 hSigns c hSign

/-- The text of a moment tells its offset as far as it is kept. -/
theorem offset?_written (moment : Moment) :
    (Moment.mk moment.wall moment.writtenClock .first).offset? = moment.offset?.map keptOffset := by
  rw [writtenClock]
  cases moment.offset? with
  | none => rfl
  | some offset =>
    rw [Option.map_some, keptOffset]
    by_cases hShort : offset.natAbs < second
    · simp only [if_pos hShort]
      rfl
    · simp only [if_neg hShort]
      rfl

/-- Read in universal time, a naive moment has the offset zero and any other its own. -/
theorem offset?_orOnClock_universal (moment : Moment) :
    (moment.orOnClock .universal).offset? = some (moment.offset?.getD 0) := by
  obtain ⟨wall, clock, pass⟩ := moment
  cases clock <;> rfl

/-- What is left of a moment has its kept offset, or none ahead of universal time. -/
theorem offset?_restored_eq (moment : Moment) :
    moment.restored.offset? = some ((moment.offset?.map keptOffset).getD 0) := by
  rw [← orOnClock_written, offset?_orOnClock_universal, offset?_written]

end Time.Moment

/-- A date that is given as the text of a moment is the same reading, on the clock as it was
written. -/
theorem dateOf_iso {moment : Moment} (h : moment.IsProper) :
    dateOf (.text moment.iso) = .ok ⟨moment.wall, moment.writtenClock, .first⟩ := by
  have hRead : Moment.ofIso (strip moment.iso.toList) =
      .ok ⟨moment.wall, moment.writtenClock, .first⟩ := by
    rw [Moment.iso, String.toList_ofList, moment.solid_isoChars.strip_eq, Moment.ofIso_isoChars h]
  simp only [dateOf, Value.text?, hRead]

/-- **Timestamps.** The text of a moment is left as it is when blanks are stripped and when `Z` is
spelled out.  As a stored timestamp it is read as the same reading with the same offset, and with the
offset zero if the moment is naive; as a date it is read as the same reading with the same offset, and
as a naive one if the moment is naive.  In both cases offsets of less than a second are read as
zero. -/
theorem timestamps_read_back {moment : Moment} (h : moment.IsProper) :
    strip moment.isoChars = moment.isoChars ∧ spellUniversal moment.isoChars = moment.isoChars ∧
      (∃ read, decodeMoment (encodeMoment (.moment moment)) = .ok (.moment read) ∧
        read.wall = moment.wall ∧
        read.offset? = some ((moment.offset?.map keptOffset).getD 0)) ∧
      ∃ back, dateOf (.text moment.iso) = .ok back ∧ back.wall = moment.wall ∧
        back.offset? = moment.offset?.map keptOffset :=
  ⟨moment.solid_isoChars.strip_eq, moment.spellUniversal_isoChars,
    ⟨_, decodeMoment_encodeMoment h, rfl, moment.offset?_restored_eq⟩,
    _, dateOf_iso h, rfl, moment.offset?_written⟩

/-- The beginning of 5 January 2024 on a clock that is some microseconds ahead of universal time. -/
def midnightAt (offset : Int) : Moment :=
  ⟨.onDate ⟨2024, 1, 5⟩ 0 (by decide), .fixed offset none, .first⟩

/-- An offset of four and a half hours and one microsecond behind universal time is kept. -/
theorem timestamps_read_back_behind :
    ∃ back, dateOf (.text (midnightAt (-16200000001)).iso) = .ok back ∧
      back.wall = (midnightAt (-16200000001)).wall ∧ back.offset? = some (-16200000001) := by
  have hProper : (midnightAt (-16200000001)).IsProper := by
    rintro _ ⟨⟩
    decide
  obtain ⟨-, -, -, back, hRead, hWall, hOffset⟩ := timestamps_read_back hProper
  exact ⟨back, hRead, hWall, hOffset.trans (by decide)⟩

/-- **Half a second.** An offset of half a second is read as none at all, and so for another
instant. -/
theorem halfSecond_lost :
    (midnightAt 500000).IsProper ∧
      (∃ read, decodeMoment (encodeMoment (.moment (midnightAt 500000))) = .ok (.moment read) ∧
        read.offset? = some 0 ∧ read.instant? ≠ (midnightAt 500000).instant?) ∧
      ∃ back, dateOf (.text (midnightAt 500000).iso) = .ok back ∧ back.offset? = some 0 ∧
        back.instant? ≠ (midnightAt 500000).instant? := by
  have hProper : (midnightAt 500000).IsProper := by
    rintro _ ⟨⟩
    decide
  exact ⟨hProper, ⟨_, decodeMoment_encodeMoment hProper, rfl, by decide⟩,
    _, dateOf_iso hProper, rfl, by decide⟩

end Crontab
