import Crontab.Proofs.Time.FirstPass
import Crontab.Proofs.Time.Rules
import Crontab.Time.Atlas

/-!
# The known zones are regular

The recorded changes of a zone and those that its rule makes later on are one list of changes.  The
two parts have to meet: whatever the rule says about the time up to the last recorded change, it
says no more when that change is over.

* `Zone.unmade`, `Zone.changesFrom` — the changes of the year in question that are not recorded, and
  all changes of a zone in a row;
* `Zone.Meets`, `Zone.TakesOver` — what it takes that the rule follows the recorded changes;
* `Zone.TakesOver.regular` — zones of which the two parts meet are regular;
* `Zone.regular_of_mem_all` — all known zones are regular;
* `Zone.exists_wallAt?` — away from the ends of the calendar all known zones have a reading.
-/

namespace Crontab.Time

open Timeline

namespace Zone

/-- The instant of the last recorded change is no earlier than a change. -/
def isMade (zone : Zone) (change : Change) : Bool :=
  (lastPlace? atInstant zone.recorded.before zone.recorded.changes).any (change.instant ≤ ·)

/-- The changes of a year under the rule that come no later than the last recorded change. -/
def made (zone : Zone) (year : Nat) : List Change :=
  (zone.rule.timeline year).changes.takeWhile zone.isMade

/-- The changes of a year under the rule that come after the last recorded change. -/
def unmade (zone : Zone) (year : Nat) : List Change :=
  (zone.rule.timeline year).changes.dropWhile zone.isMade

/-- The local type that the recorded changes leave in force. -/
def settled (zone : Zone) : LocalType :=
  standing zone.recorded.before zone.recorded.changes

/-- The changes of a zone if its rule takes over in a year. -/
def changesFrom (zone : Zone) (year count : Nat) : List Change :=
  zone.recorded.changes ++ (zone.unmade year ++ zone.rule.yearly (year + 1) count)

/-- When the last recorded change is over on the scale of `place`, then so are all others, and those
of the rule as far as they are not recorded are still to come. -/
def Meets (zone : Zone) (year : Nat) (place : LocalType → Change → Int) : Prop :=
  ∀ last ∈ lastPlace? place zone.recorded.before zone.recorded.changes,
    passes place zone.recorded.before last zone.recorded.changes = true ∧ yearStart year ≤ last ∧
      passes place (zone.rule.timeline year).before last (zone.made year) = true ∧
      ∀ change ∈ (zone.unmade year ++ zone.rule.yearly (year + 1) 1).head?,
        last < place zone.settled change

instance (zone : Zone) (year : Nat) (place : LocalType → Change → Int) :
    Decidable (zone.Meets year place) :=
  inferInstanceAs (Decidable (∀ last ∈ lastPlace? place _ _, _))

/-- The rule of a zone takes over from the recorded changes in a year. -/
structure TakesOver (zone : Zone) (year : Nat) : Prop where
  one_le_year : 1 ≤ year
  orderly : zone.rule.Orderly
  /-- What the recorded changes leave in force is what the rule has in force at that time. -/
  offset_eq : (standing zone.rule.newYear (zone.made year)).offset = zone.settled.offset
  /-- If no changes are recorded then the rule makes none. -/
  recorded : zone.recorded.changes = [] → zone.rule = .fixed zone.rule.newYear
  apart : (zone.changesFrom year 1).IsChain Apart
  meets_atInstant : zone.Meets year atInstant
  meets_onWall : zone.Meets year (onWall .first)

instance (zone : Zone) (year : Nat) : Decidable (zone.TakesOver year) :=
  decidable_of_iff
    (1 ≤ year ∧ zone.rule.Orderly ∧
      (standing zone.rule.newYear (zone.made year)).offset = zone.settled.offset ∧
      (zone.recorded.changes = [] → zone.rule = .fixed zone.rule.newYear) ∧
      (zone.changesFrom year 1).IsChain Apart ∧ zone.Meets year atInstant ∧
      zone.Meets year (onWall .first))
    ⟨fun ⟨h₁, h₂, h₃, h₄, h₅, h₆, h₇⟩ => ⟨h₁, h₂, h₃, h₄, h₅, h₆, h₇⟩,
      fun ⟨h₁, h₂, h₃, h₄, h₅, h₆, h₇⟩ => ⟨h₁, h₂, h₃, h₄, h₅, h₆, h₇⟩⟩

/-! ## One list of changes -/

/-- There is no last place exactly when there are no changes. -/
theorem lastPlace?_eq_none_iff {place : LocalType → Change → Int} {current : LocalType}
    {changes : List Change} : lastPlace? place current changes = none ↔ changes = [] := by
  induction changes generalizing current with
  | nil => simp [lastPlace?]
  | cons change rest ih =>
    cases rest with
    | nil => simp [lastPlace?]
    | cons next rest =>
      rw [lastPlace?, ih]
      · simp
      · simp

namespace TakesOver

variable {zone : Zone} {year : Nat} {place : LocalType → Change → Int}

/-- The recorded changes of a year and the others are all changes of that year. -/
theorem made_append_unmade (zone : Zone) (year : Nat) :
    zone.made year ++ zone.unmade year = (zone.rule.timeline year).changes :=
  List.takeWhile_append_dropWhile

/-- The first change to come is the first one of this year and the next, however many years follow.
-/
theorem head?_unmade_append (zone : Zone) (year count : Nat) :
    (zone.unmade year ++ zone.rule.yearly (year + 1) (count + 1)).head? =
      (zone.unmade year ++ zone.rule.yearly (year + 1) 1).head? := by
  rw [List.head?_append, List.head?_append, zone.rule.head?_yearly_succ]

/-- What is not recorded of a year leaves the clocks as the year found them. -/
theorem offset_standing_unmade (h : zone.TakesOver year) :
    (standing zone.settled (zone.unmade year)).offset = zone.rule.newYear.offset := by
  rw [← offset_standing h.offset_eq, ← standing_append, made_append_unmade]
  exact h.orderly.offset_standing_timeline h.one_le_year rfl

/-- The changes of a zone keep the distance that the recorded ones and those of the first year keep,
if those of all years under the rule keep it. -/
theorem isChain_changesFrom {R : Change → Change → Prop} {count : Nat}
    (h : (zone.changesFrom year 1).IsChain R)
    (hYearly : (zone.rule.yearly (year + 1) (count + 1)).IsChain R) :
    (zone.changesFrom year (count + 1)).IsChain R := by
  unfold changesFrom at h ⊢
  rw [← List.append_assoc, List.isChain_append] at h ⊢
  obtain ⟨hFront, -, hJoint⟩ := h
  refine ⟨hFront, hYearly, ?_⟩
  rw [zone.rule.head?_yearly_succ]
  exact hJoint

/-- After the recorded changes the changes that are not recorded count. -/
theorem offset_lookup_unmade (h : zone.TakesOver year) (hPlace : Placing place) {limit : Int}
    {right count : Nat} (hMade : passes place zone.rule.newYear limit (zone.made year) = true)
    (hLow : year ≤ right) (hHigh : right ≤ year + (count + 1)) (hStart : yearStart right ≤ limit)
    (hEnd : limit < yearStart (right + 1)) :
    (lookup place zone.settled limit
        (zone.unmade year ++ zone.rule.yearly (year + 1) (count + 1))).offset =
      (lookup place (zone.rule.timeline right).before limit
        (zone.rule.timeline right).changes).offset := by
  have hNext : 1 ≤ year + 1 := Nat.le_add_left 1 year
  rcases Nat.eq_or_lt_of_le hLow with rfl | hLt
  · rw [lookup_append_of_stop
        (h.orderly.yearly_stops hPlace hNext h.offset_standing_unmade hEnd (count + 1)),
      ← made_append_unmade, (h.orderly.fits_timeline h.one_le_year).before,
      lookup_append_of_passes hMade]
    exact hPlace.offset_lookup h.offset_eq.symm limit (zone.unmade year)
  · have hOver : yearStart (year + 1) ≤ limit := Int.le_trans (yearStart_mono hLt) hStart
    have hPasses := h.orderly.passes_timeline hPlace h.one_le_year rfl hOver
    rw [← made_append_unmade, passes_append, hPlace.passes_eq h.offset_eq] at hPasses
    rw [lookup_append_of_passes hPasses.2]
    exact h.orderly.offset_lookup_yearly hPlace hNext h.offset_standing_unmade hLt (by omega)
      hStart hEnd

/-- **One list for all times.** Looking up in the recorded changes or in the year under the rule,
whichever counts, is looking up in one list of changes. -/
theorem offset_find (h : zone.TakesOver year) (hPlace : Placing place)
    (hMeets : zone.Meets year place) {limit : Int} {right count : Nat}
    (hHigh : right ≤ year + (count + 1)) (hStart : yearStart right ≤ limit)
    (hEnd : limit < yearStart (right + 1)) :
    (zone.find place right limit).offset =
      (lookup place zone.recorded.before limit (zone.changesFrom year (count + 1))).offset := by
  rw [changesFrom]
  cases hLast : lastPlace? place zone.recorded.before zone.recorded.changes with
  | none =>
    have hNone := lastPlace?_eq_none_iff.1 hLast
    have hRule := h.recorded hNone
    have hOffset := h.offset_eq
    have hTimeline : zone.rule.timeline right = ⟨zone.rule.newYear, []⟩ := by rw [hRule]; rfl
    have hUnmade : zone.unmade year = [] := by
      rw [unmade, hRule]
      rfl
    have hMade : zone.made year = [] := by
      rw [made, hRule]
      rfl
    have hYearly : zone.rule.yearly (year + 1) (count + 1) = [] := by
      rw [hRule, Rule.yearly_fixed]
    rw [hMade, settled, hNone] at hOffset
    simp only [find, hTimeline, hNone, hUnmade, hYearly]
    exact hOffset
  | some last =>
    obtain ⟨hPasses, hYear, hMade, hStops⟩ := hMeets last hLast
    by_cases hLimit : limit ≤ last
    -- up to the last recorded change none of the rule's own counts
    · simp only [find, hLast, if_pos hLimit]
      rw [lookup_append_of_stop]
      intro change hChange
      rw [head?_unmade_append] at hChange
      have := hStops change hChange
      unfold settled at this
      omega
    · simp only [find, hLast, if_neg hLimit]
      have hLow : year ≤ right := by
        by_contra hNot
        have := yearStart_mono (show right + 1 ≤ year by omega)
        omega
      rw [(h.orderly.fits_timeline h.one_le_year).before] at hMade
      have hLater : last ≤ limit := by omega
      rw [lookup_append_of_passes (passes_of_le hLater hPasses)]
      exact (h.offset_lookup_unmade hPlace (passes_of_le hLater hMade) hLow hHigh hStart
        hEnd).symm

/-- The year of a reading, of which the seconds are counted from 1970 on. -/
theorem secondsOf_bounds (wall : Wall) :
    yearOfDay wall.dayNumber ≤ lastYear ∧ yearStart (yearOfDay wall.dayNumber) ≤ secondsOf wall ∧
      secondsOf wall < yearStart (yearOfDay wall.dayNumber + 1) := by
  obtain ⟨hLow, hHigh⟩ := yearOfDay_bounds wall.dayNumber
  have hLast : yearOfDay wall.dayNumber ≤ lastYear := yearOfDay_le_lastYear
    (Nat.div_lt_of_lt_mul (Nat.mul_comm dayCount day ▸ wall.count_lt))
  refine ⟨hLast, ?_, ?_⟩
  · unfold Wall.dayNumber day at *
    unfold yearStart secondsOf second
    omega
  · unfold Wall.dayNumber day at *
    unfold yearStart secondsOf second
    omega

/-- All that a zone has in force in the calendar is looked up in its changes. -/
theorem offset_find_of_wall (h : zone.TakesOver year) (hPlace : Placing place)
    (hMeets : zone.Meets year place) (wall : Wall) :
    (zone.find place (yearOfDay wall.dayNumber) (secondsOf wall)).offset =
      (lookup place zone.recorded.before (secondsOf wall)
        (zone.changesFrom year (lastYear + 1))).offset := by
  obtain ⟨hYear, hStart, hEnd⟩ := secondsOf_bounds wall
  exact h.offset_find hPlace hMeets (by omega) hStart hEnd

/-- A zone whose rule takes over from the recorded changes is regular. -/
theorem regular (h : zone.TakesOver year) : zone.Regular := by
  refine ⟨zone.changesFrom year (lastYear + 1), ?_, ?_, ?_⟩
  · exact isChain_changesFrom h.apart (h.orderly.isChain_yearly (Nat.le_add_left 1 year) _)
  · exact h.offset_find_of_wall placing_atInstant h.meets_atInstant
  · exact h.offset_find_of_wall (placing_onWall .first) h.meets_onWall

end TakesOver

/-- The year in which the last recorded change is made. -/
def lastRecordedYear (zone : Zone) : Nat :=
  match zone.recorded.changes.getLast? with
  | some change => yearOfDay ((change.instant + epoch) / 86400).toNat
  | none => 1

/-- The rule of every known zone takes over in the year of its last recorded change. -/
theorem takesOver_of_mem_all {zone : Zone} (h : zone ∈ Zone.all) :
    zone.TakesOver zone.lastRecordedYear := by
  have hAll : ∀ zone ∈ Zone.all, zone.TakesOver zone.lastRecordedYear := by decide +kernel
  exact hAll zone h

/-- **The known zones.** All known zones are regular. -/
theorem regular_of_mem_all {zone : Zone} (h : zone ∈ Zone.all) : zone.Regular :=
  (takesOver_of_mem_all h).regular

end Zone

/-! ## Readings in the calendar -/

/-- The local types that a rule has in force. -/
def Rule.types : Rule → List LocalType
  | .fixed type => [type]
  | .alternating standard daylight _ _ => [standard, daylight]

/-- What is looked up is the first local type or one that a change leads to. -/
theorem Timeline.lookup_mem {place : LocalType → Change → Int} {current : LocalType} {limit : Int}
    {changes : List Change} :
    lookup place current limit changes ∈ current :: changes.map Change.into := by
  induction changes generalizing current with
  | nil => exact List.mem_cons_self
  | cons change rest ih =>
    rw [lookup]
    split
    · exact List.mem_cons_of_mem _ ih
    · exact List.mem_cons_self

/-- What is looked up in a year under a rule is one of the local types of the rule. -/
theorem Rule.lookup_timeline_mem {place : LocalType → Change → Int} {rule : Rule} {year : Nat}
    {limit : Int} :
    lookup place (rule.timeline year).before limit (rule.timeline year).changes ∈ rule.types := by
  have hMem := @lookup_mem place (rule.timeline year).before limit (rule.timeline year).changes
  revert hMem
  generalize lookup _ _ _ _ = found
  cases rule with
  | fixed type => exact id
  | alternating standard daylight start finish =>
    simp only [Rule.timeline]
    split <;> simp [types] <;> tauto

namespace Zone

/-- The local types that a zone has in force at some time. -/
def types (zone : Zone) : List LocalType :=
  zone.recorded.before :: zone.recorded.changes.map Change.into ++ zone.rule.types

/-- What is in force at an instant is one of the local types of the zone. -/
theorem typeAt_mem_types (zone : Zone) (utc : Wall) : zone.typeAt utc ∈ zone.types := by
  simp only [typeAt, find, types]
  split
  · split
    · exact List.mem_append_left _ lookup_mem
    · exact List.mem_append_right _ Rule.lookup_timeline_mem
  · exact List.mem_append_right _ Rule.lookup_timeline_mem

/-- No known zone is ever more than a day from universal time. -/
theorem offset_typeAt_le {zone : Zone} (h : zone ∈ Zone.all) (utc : Wall) :
    ((zone.typeAt utc).offset.natAbs : Int) ≤ offsetBound := by
  have hAll : ∀ zone ∈ Zone.all, ∀ type ∈ zone.types,
      (type.offset.natAbs : Int) ≤ offsetBound := by decide +kernel
  exact hAll zone h _ (zone.typeAt_mem_types utc)

/-- Apart from the first and the last day of the calendar all known zones have a reading. -/
theorem exists_wallAt? {zone : Zone} (h : zone ∈ Zone.all) {utc : Wall} (hStart : day ≤ utc.count)
    (hEnd : utc.count + day < dayCount * day) : ∃ wall, zone.wallAt? utc = some wall := by
  have hOffset := offset_typeAt_le h utc
  unfold offsetBound at hOffset
  have hSpan : (zone.typeAt utc).span = (zone.typeAt utc).offset * 1000000 := rfl
  refine ⟨⟨(utc.count + (zone.typeAt utc).span).toNat, ?_⟩, ?_⟩
  · unfold day at *
    omega
  · rw [wallAt?, Wall.shift?_eq_some_iff]
    unfold day at hStart
    simp only
    omega

end Zone

end Crontab.Time
