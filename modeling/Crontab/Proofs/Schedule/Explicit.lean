import Crontab.Proofs.Schedule.Matching
import Crontab.Proofs.Schedule.Rejections
import Mathlib.Data.List.Dedup
import Mathlib.Data.List.Sort

/-!
# Explicit expressions

The expression of a listing spells out every value of every field.  Reading it gives the listed values
back, in ascending order and without repetition, so that for schedules that were read themselves
writing and reading are inverse to each other.

* `Listing.inOrder` — the schedule of the listed values in ascending order;
* `Field.parse_explicitField` — a field that is spelled out is read as its values;
* `Listing.parse_explicit` — an expression that is spelled out is read as its listing;
* `Schedule.parse_explicit_of_parse`, `Schedule.numerals_explicit` — the expression of a schedule that
  was read, and the numerals in it;
* `parse_explicit_roundTrip` — writing and reading are inverse.
-/

namespace Crontab

open Text

/-! ## Values in ascending order -/

namespace Listing

/-- Listed integers in ascending order and without repetition. -/
def ascending (values : List Int) : List Nat :=
  (values.map Int.toNat).dedup.insertionSort (· ≤ ·)

/-- The schedule of the listed integers, in ascending order and without repetition. -/
def inOrder (listing : Listing) : Schedule where
  minute := ascending listing.minute
  hour := ascending listing.hour
  dayOfMonth := ascending listing.dayOfMonth
  month := ascending listing.month
  dayOfWeek := ascending listing.dayOfWeek

/-- A listing in order has for a field its integers in ascending order. -/
theorem valuesOf_inOrder (listing : Listing) (field : Field) :
    listing.inOrder.valuesOf field = ascending (listing.valuesOf field) := by
  cases field <;> rfl

/-- Putting integers in ascending order neither adds any nor leaves any out. -/
theorem mem_ascending {values : List Int} {n : Nat} :
    n ∈ ascending values ↔ ∃ m ∈ values, m.toNat = n := by
  rw [ascending, List.mem_insertionSort, List.mem_dedup, List.mem_map]

/-- Integers in ascending order ascend strictly. -/
theorem pairwise_ascending (values : List Int) : (ascending values).Pairwise (· < ·) := by
  have hNodup : (ascending values).Nodup :=
    (List.perm_insertionSort (· ≤ ·) _).nodup_iff.2 (List.nodup_dedup _)
  have hSorted : (ascending values).Pairwise (· ≤ ·) := List.pairwise_insertionSort (· ≤ ·) _
  exact (hSorted.and hNodup).imp fun ⟨hLe, hNe⟩ => Nat.lt_of_le_of_ne hLe hNe

/-- What is in ascending order already stays as it is. -/
theorem ascending_ofNat {values : List Nat} (h : values.Pairwise (· < ·)) :
    ascending (values.map Int.ofNat) = values := by
  refine (pairwise_ascending _).eq_of_mem_iff h fun n => ?_
  simp [mem_ascending]

end Listing

/-! ## Fields that are spelled out -/

/-- A number that is not negative is written without a sign. -/
theorem Text.signedNumeral_of_nonneg {n : Int} (h : 0 ≤ n) : signedNumeral n = numeral n.toNat := by
  obtain ⟨k, rfl⟩ := Int.eq_ofNat_of_zero_le h
  simp [signedNumeral]

section fields

variable {field : Field} {values : List Int}

/-- The numeral of a value of a field is a number of the field. -/
theorem numberText_of_admits {n : Int} (h : field.admits n = true) :
    NumberText field (signedNumeral n) n.toNat := by
  obtain ⟨hSign, hLeast, hGreatest⟩ := Field.bounds_of_admits h
  rw [signedNumeral_of_nonneg hSign]
  refine ⟨isNumeral_numeral _, ?_, numeralValue_numeral _, hLeast, hGreatest⟩
  have hSmall : n.toNat < 10 ^ 2 := by
    have : field.greatest ≤ 59 := by cases field <;> decide
    omega
  have := (length_numeral_le_iff (by decide)).2 hSmall
  unfold digitLimit
  omega

/-- The integers that a field admits are written as numerals. -/
theorem isNumeral_of_mem {piece : List Char} (h : ∀ n ∈ values, field.admits n = true)
    (hPiece : piece ∈ values.map signedNumeral) :
    isNumeral piece = true := by
  obtain ⟨n, hn, rfl⟩ := List.mem_map.1 hPiece
  exact (numberText_of_admits (h n hn)).numeral

/-- Integers that a field admits are written without blanks. -/
theorem solid_explicitField (h : ∀ n ∈ values, field.admits n = true) :
    Solid (Listing.explicitField values) := by
  refine Solid.intercalate (by simp [Solid]; decide) fun piece hPiece => ?_
  exact solid_of_isNumeral (isNumeral_of_mem h hPiece)

/-- A field that is spelled out falls apart into its numerals. -/
theorem splitOn_explicitField (hNe : values ≠ []) (h : ∀ n ∈ values, field.admits n = true) :
    (Listing.explicitField values).splitOn ',' = values.map signedNumeral := by
  refine List.splitOn_intercalate ',' (fun piece hPiece => ?_) (by simpa using hNe)
  exact not_mem_of_isNumeral (isNumeral_of_mem h hPiece) (by decide)

/-- A text is written if there are integers to write. -/
theorem explicitField_ne_nil (hNe : values ≠ []) (h : ∀ n ∈ values, field.admits n = true) :
    Listing.explicitField values ≠ [] := by
  intro hNil
  have hParts := splitOn_explicitField hNe h
  rw [hNil, List.splitOn_nil] at hParts
  have hEmpty : isNumeral [] = true := isNumeral_of_mem h (hParts ▸ List.mem_singleton_self _)
  cases hEmpty

/-- **A field that is spelled out.** The numerals of values of a field, separated by commas, are read as
these values. -/
theorem Field.parse_explicitField (hNe : values ≠ []) (h : ∀ n ∈ values, field.admits n = true) :
    field.parse (Listing.explicitField values) = .ok (Listing.ascending values) := by
  have hRead : field.read (Listing.explicitField values) =
      .ok (values.map fun n => ⟨.single n.toNat, none⟩) := by
    rw [read_eq_ok_iff, (solid_explicitField h).strip_eq, splitOn_explicitField hNe h,
      List.forall₂_map_left_iff, List.forall₂_map_right_iff, List.forall₂_same]
    intro n hn
    have hNumber := numberText_of_admits (h n hn)
    rw [strip_of_tight hNumber.tight]
    exact .plain (.single hNumber)
  rw [Field.parse, hRead]
  refine congrArg Except.ok ((pairwise_union _).eq_of_mem_iff (Listing.pairwise_ascending values) ?_)
  intro n
  rw [Listing.mem_ascending, Field.union, List.mem_filter, Field.mem_values]
  simp only [List.any_map, List.any_eq_true, Function.comp_apply, Item.values, List.contains_iff_mem,
    List.mem_singleton]
  constructor
  · rintro ⟨-, m, hm, rfl⟩
    exact ⟨m, hm, rfl⟩
  · rintro ⟨m, hm, rfl⟩
    exact ⟨(Field.bounds_of_admits (h m hm)).2, m, hm, rfl⟩

end fields

/-! ## Listings that are spelled out -/

namespace Listing

variable {listing : Listing}

/-- The words of an expression that is spelled out are its fields. -/
theorem words_explicit (h : listing.InRange) :
    words listing.explicit.toList =
      Field.all.map fun field => explicitField (listing.valuesOf field) := by
  rw [explicit, String.toList_ofList]
  refine words_intercalate fun piece hPiece => ?_
  obtain ⟨field, -, rfl⟩ := List.mem_map.1 hPiece
  exact ⟨solid_explicitField (h field).2, explicitField_ne_nil (h field).1 (h field).2⟩

/-- **A listing that is spelled out.** The expression of a listing of values of every field is read as
these values in ascending order. -/
theorem parse_explicit (h : listing.InRange) :
    Schedule.parse listing.explicit = .ok listing.inOrder := by
  rw [Schedule.parse, Schedule.parseChars_eq_ok_iff, words_explicit h, Schedule.IsReadFrom,
    List.forall₂_map_right_iff, List.forall₂_same]
  intro field _
  rw [← parseWord_eq_ok_iff, Field.parseWord, Field.parse_explicitField (h field).1 (h field).2,
    valuesOf_inOrder]

end Listing

/-! ## Schedules that were read -/

/-- Two schedules with the same values of every field are the same. -/
theorem Schedule.ext_valuesOf {schedule other : Schedule}
    (h : ∀ field, schedule.valuesOf field = other.valuesOf field) : schedule = other := by
  cases schedule
  cases other
  have hMinute := h .minute
  have hHour := h .hour
  have hDayOfMonth := h .dayOfMonth
  have hMonth := h .month
  have hDayOfWeek := h .dayOfWeek
  simp only [valuesOf] at hMinute hHour hDayOfMonth hMonth hDayOfWeek
  subst hMinute hHour hDayOfMonth hMonth hDayOfWeek
  rfl

/-- What was read from an expression is in ascending order. -/
theorem Schedule.pairwise_of_parse {expression : String} {schedule : Schedule}
    (h : Schedule.parse expression = .ok schedule) (field : Field) :
    (schedule.valuesOf field).Pairwise (· < ·) := by
  have hRead : schedule.IsReadFrom (words expression.toList) := parseChars_eq_ok_iff.1 h
  have hField : field ∈ Field.all := by cases field <;> decide
  obtain ⟨word, -, hWord⟩ := exists_mem_right_of_forall₂ hRead hField
  have hParse := Field.parse_of_parseWord (parseWord_eq_ok_iff.2 hWord)
  obtain ⟨items, -, hValues⟩ := map_eq_ok.1 hParse
  rw [← hValues]
  exact pairwise_union items

/-- A schedule that ascends is in order already. -/
theorem Schedule.inOrder_listing {schedule : Schedule}
    (h : ∀ field, (schedule.valuesOf field).Pairwise (· < ·)) :
    schedule.listing.inOrder = schedule := by
  refine Schedule.ext_valuesOf fun field => ?_
  rw [Listing.valuesOf_inOrder, Listing.valuesOf_listing, Listing.ascending_ofNat (h field)]

/-- The schedule of the listing of a schedule that was read is that schedule. -/
theorem Schedule.schedule_listing {expression : String} {schedule : Schedule}
    (h : Schedule.parse expression = .ok schedule) : schedule.listing.schedule = .ok schedule := by
  obtain ⟨own, hOwn, hValues⟩ := Listing.exists_schedule (inRange_listing h)
  rw [hOwn]
  refine congrArg Except.ok (Schedule.ext_valuesOf fun field => ?_)
  rw [hValues, Listing.valuesOf_listing, List.map_map]
  exact List.map_id' _

/-- Reading the expression of a schedule that was read gives the schedule back. -/
theorem Schedule.parse_explicit_of_parse {expression : String} {schedule : Schedule}
    (h : Schedule.parse expression = .ok schedule) :
    Schedule.parse schedule.explicit = .ok schedule := by
  have hListing := Listing.parse_explicit (inRange_listing h)
  rwa [Listing.explicit_listing, inOrder_listing (pairwise_of_parse h)] at hListing

/-- The numerals in the expression of a schedule that was read are the values of its fields. -/
theorem Schedule.numerals_explicit {expression : String} {schedule : Schedule}
    (h : Schedule.parse expression = .ok schedule) :
    (words schedule.explicit.toList).map (fun word => (word.splitOn ',').map numeralValue) =
      Field.all.map schedule.valuesOf := by
  have hRange := inRange_listing h
  rw [← Listing.explicit_listing, Listing.words_explicit hRange, List.map_map]
  refine List.map_congr_left fun field _ => ?_
  rw [Function.comp_apply, splitOn_explicitField (hRange field).1 (hRange field).2, List.map_map,
    Listing.valuesOf_listing, List.map_map]
  have hValue : (numeralValue ∘ signedNumeral) ∘ Int.ofNat = id := by
    funext n
    show numeralValue (signedNumeral n) = n
    rw [signedNumeral_of_nonneg (Int.natCast_nonneg n), numeralValue_numeral, Int.toNat_natCast]
  rw [hValue, List.map_id]

/-- **Writing and reading.** The expression that spells out a listing of values of every field is read
as these values, in ascending order and without repetition.  A schedule that was read itself is read
from its expression again, and the numerals of the expression are its values, field by field, which is
what a search in the listing of the schedule goes by.  No two schedules that were read have the same
expression. -/
theorem parse_explicit_roundTrip :
    (∀ listing : Listing, listing.InRange →
      Schedule.parse listing.explicit = .ok listing.inOrder) ∧
    (∀ expression schedule, Schedule.parse expression = .ok schedule →
      Schedule.parse schedule.explicit = .ok schedule ∧
        (words schedule.explicit.toList).map (fun word => (word.splitOn ',').map numeralValue) =
          Field.all.map schedule.valuesOf ∧
        schedule.listing.schedule = .ok schedule) ∧
    ∀ expression other schedule otherSchedule, Schedule.parse expression = .ok schedule →
      Schedule.parse other = .ok otherSchedule → schedule.explicit = otherSchedule.explicit →
        schedule = otherSchedule := by
  refine ⟨fun listing h => Listing.parse_explicit h, fun expression schedule h => ?_, ?_⟩
  · exact ⟨Schedule.parse_explicit_of_parse h, Schedule.numerals_explicit h,
      Schedule.schedule_listing h⟩
  · intro expression other schedule otherSchedule h hOther hSame
    have hRead := Schedule.parse_explicit_of_parse h
    rw [hSame, Schedule.parse_explicit_of_parse hOther] at hRead
    exact (Except.ok.inj hRead).symm

/-- Noon and half past twelve on the first days of February, July and December, in disorder. -/
def disorderly : Listing where
  minute := [30, 0, 30]
  hour := [12]
  dayOfMonth := [1]
  month := [12, 2, 7, 2]
  dayOfWeek := [3, 0, 1, 2, 4, 5, 6]

/-- Noon and half past twelve on the first days of February, July and December, in order. -/
def monthSteps : Schedule where
  minute := [0, 30]
  hour := [12]
  dayOfMonth := [1]
  month := [2, 7, 12]
  dayOfWeek := [0, 1, 2, 3, 4, 5, 6]

/-- Written out in disorder or with steps, the times are read as the same schedule. -/
theorem parse_explicit_roundTrip_monthSteps :
    disorderly.InRange ∧ disorderly.inOrder = monthSteps ∧
      Schedule.parse disorderly.explicit = .ok monthSteps ∧
      Schedule.parse "*/30 12 1 */5 *" = .ok monthSteps ∧
      Schedule.parse monthSteps.explicit = .ok monthSteps ∧
      monthSteps.listing.schedule = .ok monthSteps ∧
      ∀ schedule, Schedule.parse "0-59/30 12 1 2,7,12 0-6" = .ok schedule →
        monthSteps.explicit = schedule.explicit → monthSteps = schedule := by
  have hRange : disorderly.InRange := by
    intro field
    cases field <;> decide
  have hOrder : disorderly.inOrder = monthSteps := by decide
  have hSteps : Schedule.parse "*/30 12 1 */5 *" = .ok monthSteps := by decide +kernel
  obtain ⟨hListings, hSchedules, hExpressions⟩ := parse_explicit_roundTrip
  obtain ⟨hAgain, -, hSearched⟩ := hSchedules _ _ hSteps
  refine ⟨hRange, hOrder, ?_, hSteps, hAgain, hSearched, ?_⟩
  · rw [← hOrder]
    exact hListings disorderly hRange
  · intro schedule hRead hSame
    exact hExpressions _ _ _ _ hSteps hRead hSame

end Crontab
