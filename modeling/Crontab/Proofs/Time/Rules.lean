import Crontab.Proofs.Time.Calendar
import Crontab.Proofs.Time.Timeline
import Mathlib.Data.List.Chain

/-!
# Rules for the years to come

Clocks are looked up in the recorded changes of a zone first, and in the changes that a rule makes
in the year in question afterwards.  Both together are one list of changes, as long as the changes
of a year stay away from its ends.

* `Timeline.passes`, `Timeline.standing` — whether a list of changes is over, and what it leaves;
* `Timeline.lookup_append_of_passes`, `Timeline.lookup_append_of_stop` — looking up in two lists;
* `Placing` — the scales on which changes are placed;
* `Rule.Orderly`, `Rule.yearly` — rules with their changes well inside the year, and the changes of
  several years in a row;
* `Rule.Orderly.offset_lookup_yearly` — looking up in several years is looking up in the right one.
-/

namespace Crontab.Time

/-! ## Looking up in two lists -/

namespace Timeline

/-- Whether all of the changes are placed no later than `limit`. -/
def passes (place : LocalType → Change → Int) (current : LocalType) (limit : Int) :
    List Change → Bool
  | [] => true
  | change :: rest => decide (place current change ≤ limit) && passes place change.into limit rest

/-- The local type that a list of changes leaves in force. -/
def standing (current : LocalType) (changes : List Change) : LocalType :=
  changes.foldl (fun _ change => change.into) current

/-- After a change its own local type stands until the next. -/
theorem standing_cons (current : LocalType) (change : Change) (rest : List Change) :
    standing current (change :: rest) = standing change.into rest := rfl

/-- What two lists of changes leave in force is what the second leaves after the first. -/
theorem standing_append (current : LocalType) (front back : List Change) :
    standing current (front ++ back) = standing (standing current front) back :=
  List.foldl_append

section lookup

variable {place : LocalType → Change → Int} {current : LocalType} {limit : Int}
  {front : List Change}

/-- A list of changes is over when its first change is and the rest is. -/
theorem passes_cons {change : Change} {rest : List Change} :
    passes place current limit (change :: rest) = true ↔
      place current change ≤ limit ∧ passes place change.into limit rest = true := by
  rw [passes, Bool.and_eq_true, decide_eq_true_eq]

/-- Two lists of changes are over when each of them is. -/
theorem passes_append {back : List Change} :
    passes place current limit (front ++ back) = true ↔
      passes place current limit front = true ∧
        passes place (standing current front) limit back = true := by
  induction front generalizing current with
  | nil => simp [passes, standing]
  | cons change rest ih =>
    rw [List.cons_append, passes_cons, passes_cons, ih, standing_cons, and_assoc]

/-- What is over at some point is over at any later one. -/
theorem passes_of_le {later : Int} (hLe : limit ≤ later)
    (h : passes place current limit front = true) : passes place current later front = true := by
  induction front generalizing current with
  | nil => rfl
  | cons change rest ih =>
    obtain ⟨hChange, hRest⟩ := passes_cons.1 h
    exact passes_cons.2 ⟨Int.le_trans hChange hLe, ih hRest⟩

/-- Once a first list is over, the second one counts. -/
theorem lookup_append_of_passes (h : passes place current limit front = true)
    (back : List Change) :
    lookup place current limit (front ++ back) =
      lookup place (standing current front) limit back := by
  induction front generalizing current with
  | nil => rfl
  | cons change rest ih =>
    obtain ⟨hChange, hRest⟩ := passes_cons.1 h
    rw [List.cons_append, lookup, if_pos hChange, standing_cons, ih hRest]

/-- As long as a second list has not begun, the first one counts. -/
theorem lookup_append_of_stop {back : List Change}
    (h : ∀ change ∈ back.head?, limit < place (standing current front) change) :
    lookup place current limit (front ++ back) = lookup place current limit front := by
  induction front generalizing current with
  | nil =>
    cases back with
    | nil => rfl
    | cons change rest =>
      have hNot : ¬place current change ≤ limit := Int.not_le.2 (h change rfl)
      rw [List.nil_append, lookup, lookup, if_neg hNot]
  | cons change rest ih =>
    rw [List.cons_append, lookup, lookup, ih h]

end lookup

end Timeline

/-! ## The scales of changes -/

/-- The greatest offset of a clock in seconds. -/
def offsetBound : Int := 86400

/-- A scale that depends on offsets only, and on which changes stay within a day of their
instants. -/
structure Placing (place : LocalType → Change → Int) : Prop where
  congr : ∀ {current other : LocalType}, current.offset = other.offset →
    ∀ change, place current change = place other change
  near : ∀ {current : LocalType} {change : Change}, (current.offset.natAbs : Int) ≤ offsetBound →
    (change.into.offset.natAbs : Int) ≤ offsetBound →
      change.instant - offsetBound ≤ place current change ∧
        place current change ≤ change.instant + offsetBound

/-- Instants are a scale on which changes can be placed. -/
theorem placing_atInstant : Placing Timeline.atInstant where
  congr _ _ := rfl
  near _ _ := by
    unfold Timeline.atInstant offsetBound
    omega

/-- Wall clocks are a scale on which changes can be placed. -/
theorem placing_onWall (pass : Pass) : Placing (Timeline.onWall pass) where
  congr {current other} h change := by
    unfold Timeline.onWall
    rw [h]
  near {current change} hCurrent hInto := by
    unfold offsetBound at *
    cases pass with
    | first =>
      simp only [Timeline.onWall]
      omega
    | second =>
      simp only [Timeline.onWall]
      omega

namespace Placing

open Timeline

variable {place : LocalType → Change → Int} {current other : LocalType}

/-- The offset looked up depends on no more of the local type before the changes than its offset. -/
theorem offset_lookup (hPlace : Placing place) (h : current.offset = other.offset) (limit : Int)
    (changes : List Change) :
    (lookup place current limit changes).offset = (lookup place other limit changes).offset := by
  cases changes with
  | nil => exact h
  | cons change rest =>
    rw [lookup, lookup, hPlace.congr h change]
    split
    · rfl
    · exact h

/-- Whether changes are over depends on no more of the local type before them than its offset. -/
theorem passes_eq (hPlace : Placing place) (h : current.offset = other.offset) (limit : Int)
    (changes : List Change) : passes place current limit changes = passes place other limit changes := by
  cases changes with
  | nil => rfl
  | cons change rest => rw [passes, passes, hPlace.congr h change]

end Placing

/-- The offset left in force depends on no more of the local type before than its offset. -/
theorem Timeline.offset_standing {current other : LocalType} (h : current.offset = other.offset)
    (changes : List Change) :
    (standing current changes).offset = (standing other changes).offset := by
  cases changes with
  | nil => exact h
  | cons change rest => rfl

/-! ## Yearly changes -/

/-- The first second of a year. -/
def yearStart (year : Nat) : Int :=
  (daysBeforeYear year : Int) * 86400 - epoch

/-- A later year starts no earlier. -/
theorem yearStart_mono {year later : Nat} (h : year ≤ later) : yearStart year ≤ yearStart later := by
  have := daysBeforeYear_mono h
  unfold yearStart
  omega

/-- The distance that yearly changes keep from the ends of the year and from each other. -/
def respite : Int := 20 * 86400

namespace YearlyChange

/-- A yearly change neither falls into the first or the last month of the year, nor more than a day
away from its date. -/
structure Orderly (change : YearlyChange) : Prop where
  two_le_month : 2 ≤ change.month
  month_le_eleven : change.month ≤ 11
  week_le_five : change.week ≤ 5
  near : (change.seconds.natAbs : Int) ≤ 86400

instance (change : YearlyChange) : Decidable change.Orderly :=
  decidable_of_iff (2 ≤ change.month ∧ change.month ≤ 11 ∧ change.week ≤ 5 ∧
      (change.seconds.natAbs : Int) ≤ 86400)
    ⟨fun ⟨h₁, h₂, h₃, h₄⟩ => ⟨h₁, h₂, h₃, h₄⟩, fun ⟨h₁, h₂, h₃, h₄⟩ => ⟨h₁, h₂, h₃, h₄⟩⟩

variable {change later : YearlyChange}

/-- A yearly change falls into its month. -/
theorem dayIn_bounds (h : change.Orderly) (year : Nat) :
    daysBeforeYear year + daysBeforeMonth year change.month ≤ change.dayIn year ∧
      change.dayIn year <
        daysBeforeYear year + daysBeforeMonth year change.month + monthLength year change.month := by
  obtain ⟨hMonth, hMonth', hWeek, -⟩ := h
  have hLength := monthLength_bounds year (show 1 ≤ change.month by omega) (by omega)
  have hFirst : (Date.mk year change.month 1).dayNumber =
      daysBeforeYear year + daysBeforeMonth year change.month := rfl
  unfold dayIn
  simp only [hFirst]
  split <;> omega

/-- An orderly change stays well away from the start of its year. -/
theorem yearStart_add_le_wallIn (h : change.Orderly) (year : Nat) :
    yearStart year + (respite + 2 * 86400) ≤ change.wallIn year := by
  have hDay := (dayIn_bounds h year).1
  have hBefore := daysBeforeMonth_add_le year (Nat.le_refl 1) (show 1 < change.month from
    h.two_le_month) (Nat.le_trans h.month_le_eleven (by decide))
  have hLength := (monthLength_bounds year (Nat.le_refl 1) (by decide)).1
  have hNear := h.near
  unfold yearStart wallIn respite
  omega

/-- An orderly change stays well away from the end of its year. -/
theorem wallIn_add_le_yearStart (h : change.Orderly) {year : Nat} (hYear : 1 ≤ year) :
    change.wallIn year + (respite + 2 * 86400) ≤ yearStart (year + 1) := by
  have hDay := (dayIn_bounds h year).2
  have hMonth := h.month_le_eleven
  have hBefore := daysBeforeMonth_add_le year (Nat.le_of_succ_le h.two_le_month)
    (show change.month < 13 by omega) (Nat.le_refl 13)
  have hNear := h.near
  rw [daysBeforeMonth_thirteen] at hBefore
  unfold yearStart wallIn respite
  rw [daysBeforeYear_succ hYear]
  omega

/-- Orderly changes two months apart stay well away from each other. -/
theorem wallIn_add_le_wallIn (h : change.Orderly) (hLater : later.Orderly)
    (hMonth : change.month + 2 ≤ later.month) (year : Nat) :
    change.wallIn year + (respite + 2 * 86400) ≤ later.wallIn year := by
  have hDay := (dayIn_bounds h year).2
  have hDay' := (dayIn_bounds hLater year).1
  have hBefore := daysBeforeMonth_add_le year (Nat.le_of_succ_le h.two_le_month)
    (show change.month < later.month by omega)
    (Nat.le_trans hLater.month_le_eleven (by decide))
  have hNear := h.near
  have hNear' := hLater.near
  unfold wallIn respite
  omega

end YearlyChange

/-! ## Rules -/

/-- The second of two changes comes well after the first one. -/
def Spaced (change next : Change) : Prop :=
  change.instant + respite ≤ next.instant

/-- The second of two changes comes some days after the first one. -/
def DaysApart (change next : Change) : Prop :=
  change.instant + 4 * offsetBound ≤ next.instant

instance (change next : Change) : Decidable (DaysApart change next) :=
  inferInstanceAs (Decidable (_ ≤ _))

/-- A change that comes well after another one comes some days after it. -/
theorem Spaced.daysApart {change next : Change} (h : Spaced change next) : DaysApart change next := by
  unfold Spaced respite at h
  unfold DaysApart offsetBound
  omega

/-- Changes that come days after each other lie far enough apart. -/
theorem isChain_apart_of_daysApart {changes : List Change}
    (hBounded : ∀ change ∈ changes, (change.into.offset.natAbs : Int) ≤ offsetBound)
    (h : changes.IsChain DaysApart) : changes.IsChain Timeline.Apart := by
  refine h.imp_of_mem_imp ?_
  intro change next hChange hNext hDays
  have hBound := hBounded change hChange
  have hBound' := hBounded next hNext
  unfold DaysApart offsetBound at hDays
  unfold offsetBound at hBound hBound'
  unfold Timeline.Apart
  omega

namespace Rule

/-- A rule that never moves clocks by more than two days, and not near the end of a year. -/
def Orderly : Rule → Prop
  | fixed type => (type.offset.natAbs : Int) ≤ offsetBound
  | alternating standard daylight start finish =>
    (standard.offset.natAbs : Int) ≤ offsetBound ∧ (daylight.offset.natAbs : Int) ≤ offsetBound ∧
      start.Orderly ∧ finish.Orderly ∧
        (start.month + 2 ≤ finish.month ∨ finish.month + 2 ≤ start.month)

instance : (rule : Rule) → Decidable rule.Orderly
  | fixed _ => inferInstanceAs (Decidable (_ ≤ _))
  | alternating _ _ _ _ => inferInstanceAs (Decidable (_ ∧ _))

/-- The local type in force at the beginning of each year. -/
def newYear : Rule → LocalType
  | fixed type => type
  | alternating standard daylight start finish =>
    if start.month ≤ finish.month then standard else daylight

/-- The changes of a number of years, from a given one on. -/
def yearly (rule : Rule) (year : Nat) : (count : Nat) → List Change
  | 0 => []
  | count + 1 => (rule.timeline year).changes ++ rule.yearly (year + 1) count

/-- A fixed rule makes no changes. -/
theorem yearly_fixed (type : LocalType) (year count : Nat) : (fixed type).yearly year count = [] := by
  induction count generalizing year with
  | zero => rfl
  | succ count ih => rw [yearly, ih]; rfl

/-- The first change of several years is the first change of the first year. -/
theorem head?_yearly_succ (rule : Rule) (year count : Nat) :
    (rule.yearly year (count + 1)).head? = (rule.yearly year 1).head? := by
  cases rule with
  | fixed type => rw [yearly_fixed, yearly_fixed]
  | alternating standard daylight start finish =>
    rw [yearly, yearly, timeline]
    split <;> rfl

/-- A timeline of a year that starts and ends alike and leaves the ends of the year alone. -/
structure Fits (timeline : Timeline) (year : Nat) (newYear : LocalType) : Prop where
  before : timeline.before = newYear
  standing : Timeline.standing newYear timeline.changes = newYear
  spaced : timeline.changes.IsChain Spaced
  inside : ∀ change ∈ timeline.changes, yearStart year + respite ≤ change.instant ∧
    change.instant + respite ≤ yearStart (year + 1)
  bounded : ∀ change ∈ timeline.changes, (change.into.offset.natAbs : Int) ≤ offsetBound

namespace Orderly

variable {rule : Rule}

/-- The offset an orderly rule starts the year with is within bounds. -/
theorem offset_newYear (h : rule.Orderly) : (rule.newYear.offset.natAbs : Int) ≤ offsetBound := by
  cases rule with
  | fixed type => exact h
  | alternating standard daylight start finish =>
    obtain ⟨hStandard, hDaylight, -⟩ := h
    simp only [newYear]
    split
    · exact hStandard
    · exact hDaylight

/-- Two changes that follow each other in a year make a timeline that fits the year. -/
theorem fits_pair {first second : LocalType} {early late : YearlyChange} {year : Nat}
    (hYear : 1 ≤ year) (hFirst : (first.offset.natAbs : Int) ≤ offsetBound)
    (hSecond : (second.offset.natAbs : Int) ≤ offsetBound) (hEarly : early.Orderly)
    (hLate : late.Orderly) (hMonth : early.month + 2 ≤ late.month) :
    Fits ⟨first, [⟨early.wallIn year - first.offset, second⟩,
      ⟨late.wallIn year - second.offset, first⟩]⟩ year first := by
  have hStart := YearlyChange.yearStart_add_le_wallIn hEarly year
  have hGap := YearlyChange.wallIn_add_le_wallIn hEarly hLate hMonth year
  have hEnd := YearlyChange.wallIn_add_le_yearStart hLate hYear
  unfold offsetBound at hFirst hSecond
  refine ⟨rfl, rfl, ?_, ?_, ?_⟩
  · rw [List.isChain_cons_cons]
    refine ⟨?_, List.IsChain.singleton _⟩
    unfold Spaced respite at *
    simp only
    omega
  · unfold respite at *
    simp only [List.forall_mem_cons, List.not_mem_nil, false_implies, implies_true, and_true]
    omega
  · simp only [List.forall_mem_cons, List.not_mem_nil, false_implies, implies_true, and_true]
    exact ⟨hSecond, hFirst⟩

/-- The timeline of a year under an orderly rule fits the year. -/
theorem fits_timeline (h : rule.Orderly) {year : Nat} (hYear : 1 ≤ year) :
    Fits (rule.timeline year) year rule.newYear := by
  cases rule with
  | fixed type =>
    refine ⟨rfl, rfl, List.IsChain.nil, ?_, ?_⟩ <;> simp [timeline]
  | alternating standard daylight start finish =>
    obtain ⟨hStandard, hDaylight, hStart, hFinish, hMonths⟩ := h
    unfold offsetBound at hStandard hDaylight
    -- the two changes of a year come in either order, on the two halves of the globe
    rcases hMonths with hMonth | hMonth
    · have hGap := YearlyChange.wallIn_add_le_wallIn hStart hFinish hMonth year
      have hOrder : start.wallIn year - standard.offset < finish.wallIn year - daylight.offset := by
        unfold respite at hGap
        omega
      have hNewYear : start.month ≤ finish.month := by omega
      simp only [timeline, newYear, if_pos hOrder, if_pos hNewYear]
      exact fits_pair hYear hStandard hDaylight hStart hFinish hMonth
    · have hGap := YearlyChange.wallIn_add_le_wallIn hFinish hStart hMonth year
      have hOrder : ¬start.wallIn year - standard.offset < finish.wallIn year - daylight.offset := by
        unfold respite at hGap
        omega
      have hNewYear : ¬start.month ≤ finish.month := by omega
      simp only [timeline, newYear, if_neg hOrder, if_neg hNewYear]
      exact fits_pair hYear hDaylight hStandard hFinish hStart hMonth

/-! ## Several years in a row -/

/-- The changes of several years begin after the first year does. -/
theorem head?_yearly (h : rule.Orderly) {year : Nat} (hYear : 1 ≤ year) (count : Nat) :
    ∀ change ∈ (rule.yearly year count).head?, yearStart year + respite ≤ change.instant := by
  induction count generalizing year with
  | zero => simp [yearly]
  | succ count ih =>
    have hFits := h.fits_timeline hYear
    intro change hChange
    rw [yearly, List.head?_append] at hChange
    cases hHead : (rule.timeline year).changes.head? with
    | some first =>
      rw [hHead, Option.some_or] at hChange
      obtain rfl := Option.some.inj hChange
      exact (hFits.inside first (List.mem_of_mem_head? hHead)).1
    | none =>
      rw [hHead, Option.none_or] at hChange
      have hNext := ih (Nat.le_succ_of_le hYear) change hChange
      have := yearStart_mono (Nat.le_succ year)
      omega

/-- The offsets an orderly rule changes to are within bounds. -/
theorem bounded_yearly (h : rule.Orderly) {year : Nat} (hYear : 1 ≤ year) (count : Nat) :
    ∀ change ∈ rule.yearly year count, (change.into.offset.natAbs : Int) ≤ offsetBound := by
  induction count generalizing year with
  | zero => simp [yearly]
  | succ count ih =>
    intro change hChange
    rcases List.mem_append.1 hChange with hMem | hMem
    · exact (h.fits_timeline hYear).bounded change hMem
    · exact ih (Nat.le_succ_of_le hYear) change hMem

/-- The changes an orderly rule makes in successive years come well after each other. -/
theorem isChain_spaced_yearly (h : rule.Orderly) {year : Nat} (hYear : 1 ≤ year) (count : Nat) :
    (rule.yearly year count).IsChain Spaced := by
  induction count generalizing year with
  | zero => exact List.IsChain.nil
  | succ count ih =>
    have hFits := h.fits_timeline hYear
    refine List.IsChain.append hFits.spaced (ih (Nat.le_succ_of_le hYear)) ?_
    intro change hChange next hNext
    have hInside := (hFits.inside change (List.mem_of_getLast? hChange)).2
    have hHead : yearStart (year + 1) + respite ≤ next.instant :=
      h.head?_yearly (Nat.le_succ_of_le hYear) count next hNext
    unfold Spaced respite at *
    omega

/-- The changes an orderly rule makes in successive years come some days after each other. -/
theorem isChain_daysApart_yearly (h : rule.Orderly) {year : Nat} (hYear : 1 ≤ year) (count : Nat) :
    (rule.yearly year count).IsChain DaysApart :=
  (h.isChain_spaced_yearly hYear count).imp fun _ _ => Spaced.daysApart

/-- The changes of several years lie far enough apart. -/
theorem isChain_yearly (h : rule.Orderly) {year : Nat} (hYear : 1 ≤ year) (count : Nat) :
    (rule.yearly year count).IsChain Timeline.Apart :=
  isChain_apart_of_daysApart (h.bounded_yearly hYear count) (h.isChain_daysApart_yearly hYear count)

section lookup

open Timeline

variable {place : LocalType → Change → Int} {current : LocalType} {limit : Int} {year : Nat}

/-- An offset that an orderly rule starts the year with is within bounds. -/
theorem bounded_of_offset_eq (h : rule.Orderly) (hCurrent : current.offset = rule.newYear.offset) :
    (current.offset.natAbs : Int) ≤ offsetBound := by
  rw [hCurrent]
  exact h.offset_newYear

/-- Before the first year none of the changes of several years has been made. -/
theorem yearly_stops (h : rule.Orderly) (hPlace : Placing place) (hYear : 1 ≤ year)
    (hCurrent : current.offset = rule.newYear.offset) (hLimit : limit < yearStart year)
    (count : Nat) : ∀ change ∈ (rule.yearly year count).head?, limit < place current change := by
  intro change hChange
  have hHead := h.head?_yearly hYear count change hChange
  have hBounded := h.bounded_yearly hYear count change (List.mem_of_mem_head? hChange)
  have hNear := (hPlace.near (h.bounded_of_offset_eq hCurrent) hBounded).1
  unfold respite at hHead
  unfold offsetBound at hNear
  omega

/-- Changes well before a point of time are over there. -/
theorem passes_of_before (hPlace : Placing place) {changes : List Change}
    (hCurrent : (current.offset.natAbs : Int) ≤ offsetBound)
    (hBounded : ∀ change ∈ changes, (change.into.offset.natAbs : Int) ≤ offsetBound)
    (hBefore : ∀ change ∈ changes, change.instant + respite ≤ limit) :
    passes place current limit changes = true := by
  induction changes generalizing current with
  | nil => rfl
  | cons change rest ih =>
    rw [List.forall_mem_cons] at hBounded hBefore
    have hNear := (hPlace.near hCurrent hBounded.1).2
    refine passes_cons.2 ⟨?_, ih hBounded.1 hBounded.2 hBefore.2⟩
    have := hBefore.1
    unfold respite at this
    unfold offsetBound at hNear
    omega

/-- After a year its changes are over. -/
theorem passes_timeline (h : rule.Orderly) (hPlace : Placing place) (hYear : 1 ≤ year)
    (hCurrent : current.offset = rule.newYear.offset) (hLimit : yearStart (year + 1) ≤ limit) :
    passes place current limit (rule.timeline year).changes = true := by
  have hFits := h.fits_timeline hYear
  refine passes_of_before hPlace (h.bounded_of_offset_eq hCurrent) hFits.bounded ?_
  intro change hChange
  have := (hFits.inside change hChange).2
  omega

/-- A year leaves the clocks as it found them. -/
theorem offset_standing_timeline (h : rule.Orderly) (hYear : 1 ≤ year)
    (hCurrent : current.offset = rule.newYear.offset) :
    (standing current (rule.timeline year).changes).offset = rule.newYear.offset := by
  rw [offset_standing hCurrent, (h.fits_timeline hYear).standing]

/-- **Several years as one list.** Looking up in the changes of several years is looking up in the
timeline of the right year. -/
theorem offset_lookup_yearly (h : rule.Orderly) (hPlace : Placing place) (hYear : 1 ≤ year)
    (hCurrent : current.offset = rule.newYear.offset) {count right : Nat} (hLow : year ≤ right)
    (hHigh : right < year + count) (hStart : yearStart right ≤ limit)
    (hEnd : limit < yearStart (right + 1)) :
    (lookup place current limit (rule.yearly year count)).offset =
      (lookup place (rule.timeline right).before limit (rule.timeline right).changes).offset := by
  induction count generalizing year current with
  | zero => omega
  | succ count ih =>
    rw [yearly]
    have hStanding := h.offset_standing_timeline hYear hCurrent
    rcases Nat.eq_or_lt_of_le hLow with rfl | hLt
    · rw [lookup_append_of_stop
        (h.yearly_stops hPlace (Nat.le_succ_of_le hYear) hStanding hEnd count)]
      refine hPlace.offset_lookup ?_ _ _
      rw [hCurrent, (h.fits_timeline hYear).before]
    · have hOver : yearStart (year + 1) ≤ limit := Int.le_trans (yearStart_mono hLt) hStart
      rw [lookup_append_of_passes (h.passes_timeline hPlace hYear hCurrent hOver)]
      exact ih (Nat.le_succ_of_le hYear) hStanding hLt (by omega)

end lookup

end Orderly

end Rule

end Crontab.Time
