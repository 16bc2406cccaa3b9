import Crontab.Time.Zone
import Mathlib.Data.List.Chain
import Mathlib.Tactic.SplitIfs

/-!
# Clocks that follow a list of changes

Clocks that are set once in a while show some readings twice and others never.  If the changes lie
farther apart than they move the clocks, then the first pass over a reading behaves like a clock of
its own: it is an instant at which the reading is shown, no earlier instant shows it, and the order
of readings is the order of their first passes.

* `Apart`, `offsetAt`, `offsetOnWall` — changes with enough time between them, and the offsets in
  force at an instant and meant by a reading;
* `firstPass_spec` — the first pass over a reading that is shown;
* `firstPass_strictMono` — of two readings that are shown, the earlier one has the earlier first
  pass.
-/

namespace Crontab.Time

namespace Timeline

/-- Two changes in a row lie farther apart than the second one moves the clocks. -/
def Apart (change next : Change) : Prop :=
  ((next.into.offset - change.into.offset).natAbs : Int) < next.instant - change.instant

instance (change next : Change) : Decidable (Apart change next) :=
  inferInstanceAs (Decidable (_ < _))

/-- The offset in force at an instant. -/
def offsetAt (current : LocalType) (changes : List Change) (instant : Int) : Int :=
  (lookup atInstant current instant changes).offset

/-- The offset that a reading means in the first pass over it. -/
def offsetOnWall (current : LocalType) (changes : List Change) (wall : Int) : Int :=
  (lookup (onWall .first) current wall changes).offset

/-- The instant of the first pass over a reading. -/
def firstPass (current : LocalType) (changes : List Change) (wall : Int) : Int :=
  wall - offsetOnWall current changes wall

/-! ## One change at a time -/

section change

variable (current : LocalType) (change : Change) (rest : List Change)

/-- Without changes the offset stays as it is at every instant. -/
theorem offsetAt_nil (instant : Int) : offsetAt current [] instant = current.offset := rfl

/-- Without changes the offset stays as it is on every wall clock. -/
theorem offsetOnWall_nil (wall : Int) : offsetOnWall current [] wall = current.offset := rfl

/-- Before a change the offset is the old one. -/
theorem offsetAt_cons_of_lt {instant : Int} (h : instant < change.instant) :
    offsetAt current (change :: rest) instant = current.offset := by
  have hNot : ¬atInstant current change ≤ instant := Int.not_le.2 h
  rw [offsetAt, lookup, if_neg hNot]

/-- From the instant of a change on, the later changes decide on the offset. -/
theorem offsetAt_cons_of_le {instant : Int} (h : change.instant ≤ instant) :
    offsetAt current (change :: rest) instant = offsetAt change.into rest instant := by
  have hLe : atInstant current change ≤ instant := h
  rw [offsetAt, lookup, if_pos hLe]
  rfl

/-- The reading from which on the first pass counts with the offset after a change. -/
def seen : Int :=
  change.instant + max current.offset change.into.offset

/-- On a wall clock before a change the offset is the old one. -/
theorem offsetOnWall_cons_of_lt {wall : Int} (h : wall < seen current change) :
    offsetOnWall current (change :: rest) wall = current.offset := by
  have hNot : ¬onWall .first current change ≤ wall := Int.not_le.2 h
  rw [offsetOnWall, lookup, if_neg hNot]

/-- On a wall clock from a change on, the later changes decide on the offset. -/
theorem offsetOnWall_cons_of_le {wall : Int} (h : seen current change ≤ wall) :
    offsetOnWall current (change :: rest) wall = offsetOnWall change.into rest wall := by
  have hLe : onWall .first current change ≤ wall := h
  rw [offsetOnWall, lookup, if_pos hLe]
  rfl

variable {change rest}

/-- From a change on, the clocks show nothing before what they are set to. -/
theorem setTo_le_shown (h : (change :: rest).IsChain Apart) {instant : Int}
    (hLe : change.instant ≤ instant) :
    change.instant + change.into.offset ≤ instant + offsetAt change.into rest instant := by
  induction rest generalizing change with
  | nil =>
    rw [offsetAt_nil]
    omega
  | cons next rest ih =>
    obtain ⟨hApart, hRest⟩ := List.isChain_cons_cons.1 h
    unfold Apart at hApart
    by_cases hNext : next.instant ≤ instant
    · rw [offsetAt_cons_of_le _ _ _ hNext]
      have := ih hRest hNext
      omega
    · rw [offsetAt_cons_of_lt _ _ _ (Int.not_le.1 hNext)]
      omega

/-- A reading that is not before what a change sets the clocks to is not passed before the change,
if it is passed with the offsets from there on. -/
theorem instant_le_firstPass (h : (change :: rest).IsChain Apart) {wall : Int}
    (hLe : change.instant + change.into.offset ≤ wall) :
    change.instant ≤ firstPass change.into rest wall := by
  induction rest generalizing change with
  | nil =>
    rw [firstPass, offsetOnWall_nil]
    omega
  | cons next rest ih =>
    obtain ⟨hApart, hRest⟩ := List.isChain_cons_cons.1 h
    unfold Apart at hApart
    -- a later change moves the pass to a still later instant, as the changes are apart
    by_cases hNext : seen change.into next ≤ wall
    · rw [firstPass, offsetOnWall_cons_of_le _ _ _ hNext]
      have hSeen : next.instant + next.into.offset ≤ wall := by
        unfold seen at hNext
        omega
      have := ih hRest hSeen
      rw [firstPass] at this
      omega
    · rw [firstPass, offsetOnWall_cons_of_lt _ _ _ (Int.not_le.1 hNext)]
      omega

end change

/-! ## The first pass -/

variable {current : LocalType} {changes : List Change}

/-- On a wall clock from a change on, the first instant to show it comes after the change. -/
theorem firstPass_cons_of_le {change : Change} {rest : List Change} {wall : Int}
    (h : seen current change ≤ wall) :
    firstPass current (change :: rest) wall = firstPass change.into rest wall := by
  rw [firstPass, offsetOnWall_cons_of_le _ _ _ h, firstPass]

/-- On a wall clock before a change, the first instant to show it is at the old offset. -/
theorem firstPass_cons_of_lt {change : Change} {rest : List Change} {wall : Int}
    (h : wall < seen current change) :
    firstPass current (change :: rest) wall = wall - current.offset := by
  rw [firstPass, offsetOnWall_cons_of_lt _ _ _ h]

/-- **The first pass is a pass.** The clocks show at the first pass over a reading what they show at
any instant, and no later than there. -/
theorem firstPass_spec (current : LocalType) (h : changes.IsChain Apart) (instant : Int) :
    firstPass current changes (instant + offsetAt current changes instant) ≤ instant ∧
      offsetAt current changes
          (firstPass current changes (instant + offsetAt current changes instant)) =
        offsetOnWall current changes (instant + offsetAt current changes instant) := by
  induction changes generalizing current with
  | nil =>
    simp only [firstPass, offsetAt_nil, offsetOnWall_nil, and_true]
    omega
  | cons change rest ih =>
    by_cases hInstant : change.instant ≤ instant
    · rw [offsetAt_cons_of_le _ _ _ hInstant]
      have hSetTo := setTo_le_shown h hInstant
      have hRest := ih change.into h.of_cons
      by_cases hSeen : seen current change ≤ instant + offsetAt change.into rest instant
      · have hAfter := instant_le_firstPass h hSetTo
        rw [firstPass_cons_of_le hSeen, offsetOnWall_cons_of_le _ _ _ hSeen,
          offsetAt_cons_of_le _ _ _ hAfter]
        exact hRest
      · -- the reading comes again after the change, and was passed first before it
        have hSeen := Int.not_le.1 hSeen
        have hBefore : instant + offsetAt change.into rest instant - current.offset <
            change.instant := by
          unfold seen at hSeen
          omega
        rw [firstPass_cons_of_lt hSeen, offsetOnWall_cons_of_lt _ _ _ hSeen,
          offsetAt_cons_of_lt _ _ _ hBefore]
        exact ⟨by omega, rfl⟩
    · have hInstant := Int.not_le.1 hInstant
      have hSeen : instant + current.offset < seen current change := by
        unfold seen
        omega
      rw [offsetAt_cons_of_lt _ _ _ hInstant, firstPass_cons_of_lt hSeen,
        offsetOnWall_cons_of_lt _ _ _ hSeen, Int.add_sub_cancel,
        offsetAt_cons_of_lt _ _ _ hInstant]
      exact ⟨Int.le_refl _, rfl⟩

/-- **The order of first passes.** If the clocks show two readings at their first passes, the earlier
reading has the earlier pass. -/
theorem firstPass_strictMono (h : changes.IsChain Apart) {wall later : Int} (hLt : wall < later)
    (hWall : offsetAt current changes (firstPass current changes wall) =
      offsetOnWall current changes wall)
    (hLater : offsetAt current changes (firstPass current changes later) =
      offsetOnWall current changes later) :
    firstPass current changes wall < firstPass current changes later := by
  induction changes generalizing current with
  | nil =>
    simp only [firstPass, offsetOnWall_nil]
    omega
  | cons change rest ih =>
    have hAfter : ∀ {reading : Int}, seen current change ≤ reading →
        change.instant ≤ firstPass change.into rest reading := by
      intro reading hReading
      refine instant_le_firstPass h ?_
      unfold seen at hReading
      omega
    by_cases hSeen : seen current change ≤ wall
    · have hSeen' : seen current change ≤ later := by omega
      rw [firstPass_cons_of_le hSeen, offsetAt_cons_of_le _ _ _ (hAfter hSeen),
        offsetOnWall_cons_of_le _ _ _ hSeen] at hWall
      rw [firstPass_cons_of_le hSeen', offsetAt_cons_of_le _ _ _ (hAfter hSeen'),
        offsetOnWall_cons_of_le _ _ _ hSeen'] at hLater
      rw [firstPass_cons_of_le hSeen, firstPass_cons_of_le hSeen']
      exact ih h.of_cons hWall hLater
    · have hSeen := Int.not_le.1 hSeen
      rw [firstPass_cons_of_lt hSeen] at hWall ⊢
      by_cases hSeen' : seen current change ≤ later
      · -- the earlier reading is shown before the change: from the change on the clocks show
        -- nothing before what they are set to
        have hBefore : wall - current.offset < change.instant := by
          by_contra hNot
          have hNot := Int.not_lt.1 hNot
          rw [offsetAt_cons_of_le _ _ _ hNot, offsetOnWall_cons_of_lt _ _ _ hSeen] at hWall
          have hSetTo := setTo_le_shown h hNot
          unfold seen at hSeen
          omega
        have := hAfter hSeen'
        rw [firstPass_cons_of_le hSeen']
        omega
      · rw [firstPass_cons_of_lt (Int.not_le.1 hSeen')]
        omega

end Timeline

end Crontab.Time
