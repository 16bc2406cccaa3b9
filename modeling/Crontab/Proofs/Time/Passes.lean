import Crontab.Proofs.Time.Atlas

/-!
# Both passes over a reading

Clocks that are set back show some readings twice, and a reading of such a clock means an instant only
together with its pass.  As long as a zone never changes its clocks twice within a few days, nothing
is shown three times, and the pass tells the two instants apart: a reading that is shown is shown at
the instant that either pass means, and the pass of a reading at an instant leads back to that instant.

* `Sparse` — changes that come days after each other, on clocks near to universal time;
* `Sparse.secondPass_spec`, `Sparse.offsetInPass_eq` — the second pass over a reading that is shown,
  and the offset at an instant from the reading there;
* `Zone.Steady` — zones whose clocks follow such changes in both passes;
* `Zone.Steady.offset_typeOnWall_passAt`, `Zone.Steady.wallAt?_utcOf?` — from an instant to a reading
  and back;
* `Zone.steady_of_mem_all` — all known zones are steady.
-/

namespace Crontab.Time

open Timeline

/-! ## Clocks that follow sparse changes -/

/-- The clocks are never more than a day from universal time, and the changes of them come days after
each other. -/
structure Sparse (current : LocalType) (changes : List Change) : Prop where
  current : (current.offset.natAbs : Int) ≤ offsetBound
  bounded : ∀ change ∈ changes, (change.into.offset.natAbs : Int) ≤ offsetBound
  daysApart : changes.IsChain DaysApart

instance (current : LocalType) (changes : List Change) : Decidable (Sparse current changes) :=
  decidable_of_iff
    ((current.offset.natAbs : Int) ≤ offsetBound ∧
      (∀ change ∈ changes, (change.into.offset.natAbs : Int) ≤ offsetBound) ∧
      changes.IsChain DaysApart)
    ⟨fun ⟨h₁, h₂, h₃⟩ => ⟨h₁, h₂, h₃⟩, fun ⟨h₁, h₂, h₃⟩ => ⟨h₁, h₂, h₃⟩⟩

/-- The offset that a reading means in a pass. -/
def Timeline.offsetInPass (pass : Pass) (current : LocalType) (changes : List Change)
    (wall : Int) : Int :=
  (lookup (onWall pass) current wall changes).offset

namespace Sparse

variable {current : LocalType} {change : Change} {changes rest : List Change} {pass : Pass}

/-- Sparse changes stay sparse without the first one. -/
theorem of_cons (h : Sparse current (change :: rest)) : Sparse change.into rest where
  current := h.bounded change List.mem_cons_self
  bounded := fun next hNext => h.bounded next (List.mem_cons_of_mem change hNext)
  daysApart := h.daysApart.of_cons

/-- Sparse changes are apart on the wall clock, each from the next. -/
theorem isChain_apart (h : Sparse current changes) : changes.IsChain Apart :=
  isChain_apart_of_daysApart h.bounded h.daysApart

/-- No offset in force is ever more than a day. -/
theorem natAbs_offset_lookup_le (h : Sparse current changes) (place : LocalType → Change → Int)
    (limit : Int) : ((lookup place current limit changes).offset.natAbs : Int) ≤ offsetBound := by
  have hMem := @lookup_mem place current limit changes
  rcases List.mem_cons.1 hMem with hFirst | hLater
  · rw [hFirst]
    exact h.current
  · obtain ⟨change, hChange, hInto⟩ := List.mem_map.1 hLater
    rw [← hInto]
    exact h.bounded change hChange

/-- Within two days after a change nothing else is changed. -/
theorem lookup_after (h : Sparse current (change :: rest)) {place : LocalType → Change → Int}
    (hPlace : Placing place) {limit : Int} (hSoon : limit ≤ change.instant + 2 * offsetBound) :
    lookup place change.into limit rest = change.into := by
  cases rest with
  | nil => rfl
  | cons next later =>
    have hGap := (List.isChain_cons_cons.1 h.daysApart).1
    have hNear := (hPlace.near h.of_cons.current (h.of_cons.bounded next List.mem_cons_self)).1
    have hNot : ¬place change.into next ≤ limit := by
      unfold DaysApart at hGap
      unfold offsetBound at hGap hNear hSoon
      omega
    rw [lookup, if_neg hNot]

/-- Before a change on the wall clock the old offset holds. -/
theorem offsetInPass_cons_of_lt {wall : Int} (h : wall < onWall pass current change) :
    offsetInPass pass current (change :: rest) wall = current.offset := by
  rw [offsetInPass, lookup, if_neg (Int.not_le.2 h)]

/-- From a change on the wall clock on, the later changes decide. -/
theorem offsetInPass_cons_of_le {wall : Int} (h : onWall pass current change ≤ wall) :
    offsetInPass pass current (change :: rest) wall = offsetInPass pass change.into rest wall := by
  rw [offsetInPass, lookup, if_pos h, offsetInPass]

/-- Soon after a change both a reading and an instant have the offset that it sets. -/
theorem offsets_after (h : Sparse current (change :: rest)) (pass : Pass) {limit : Int}
    (hSoon : limit ≤ change.instant + 2 * offsetBound) :
    offsetAt change.into rest limit = change.into.offset ∧
      offsetInPass pass change.into rest limit = change.into.offset := by
  constructor
  · rw [offsetAt, h.lookup_after placing_atInstant hSoon]
  · rw [offsetInPass, h.lookup_after (placing_onWall pass) hSoon]

/-- **The second pass is a pass.** The clocks show at the second pass over a reading what they show at
any instant, and no earlier than there. -/
theorem secondPass_spec (h : Sparse current changes) (instant : Int) :
    let wall := instant + offsetAt current changes instant
    let pass := wall - offsetInPass .second current changes wall
    instant ≤ pass ∧ offsetAt current changes pass = offsetInPass .second current changes wall := by
  intro wall pass
  induction changes generalizing current with
  | nil =>
    have hPass : pass = instant := by
      simp only [pass, wall, offsetAt, offsetInPass, lookup]
      omega
    exact ⟨Int.le_of_eq hPass.symm, rfl⟩
  | cons change rest ih =>
    have hCurrent := h.current
    have hInto := h.of_cons.current
    unfold offsetBound at hCurrent hInto
    by_cases hInstant : change.instant ≤ instant
    · -- from the change on the clocks show nothing before what they are set to
      have hSetTo := setTo_le_shown h.isChain_apart hInstant
      have hSeen : onWall .second current change ≤
          instant + offsetAt change.into rest instant := by
        simp only [onWall]
        omega
      obtain ⟨hLe, hOffset⟩ := ih h.of_cons
      simp only [pass, wall, offsetAt_cons_of_le _ _ _ hInstant, offsetInPass_cons_of_le hSeen]
      refine ⟨hLe, ?_⟩
      rw [offsetAt_cons_of_le _ _ _ (Int.le_trans hInstant hLe)]
      exact hOffset
    · have hBefore := Int.not_le.1 hInstant
      have hWall : wall = instant + current.offset := by
        simp only [wall, offsetAt_cons_of_lt _ _ _ hBefore]
      simp only [pass, hWall]
      by_cases hSeen : onWall .second current change ≤ instant + current.offset
      · -- the reading comes again after the change
        have hOffsets := (h.offsets_after .second
          (show instant + current.offset ≤ change.instant + 2 * offsetBound by
            unfold offsetBound
            omega)).2
        have hAgain : change.instant ≤ instant + current.offset - change.into.offset := by
          simp only [onWall] at hSeen
          omega
        rw [offsetInPass_cons_of_le hSeen, hOffsets, offsetAt_cons_of_le _ _ _ hAgain]
        refine ⟨by omega, (h.offsets_after .second ?_).1⟩
        unfold offsetBound
        omega
      · rw [offsetInPass_cons_of_lt (Int.not_le.1 hSeen), Int.add_sub_cancel]
        exact ⟨Int.le_refl instant, offsetAt_cons_of_lt _ _ _ hBefore⟩

/-- **An instant and its reading.** The offset at an instant is the one that the reading there means
in the first pass or in the second one. -/
theorem offsetInPass_eq (h : Sparse current changes) (instant : Int) :
    let wall := instant + offsetAt current changes instant
    offsetInPass .first current changes wall = offsetAt current changes instant ∨
      offsetInPass .second current changes wall = offsetAt current changes instant := by
  intro wall
  induction changes generalizing current with
  | nil => exact .inl rfl
  | cons change rest ih =>
    have hCurrent := h.current
    have hInto := h.of_cons.current
    unfold offsetBound at hCurrent hInto
    by_cases hInstant : change.instant ≤ instant
    -- after the change the second pass goes on with the later changes; the first one does so unless
    -- the reading was shown before the change
    · have hSetTo := setTo_le_shown h.isChain_apart hInstant
      have hSecond : onWall .second current change ≤
          instant + offsetAt change.into rest instant := by
        simp only [onWall]
        omega
      simp only [wall, offsetAt_cons_of_le _ _ _ hInstant, offsetInPass_cons_of_le hSecond]
      by_cases hFirst : onWall .first current change ≤ instant + offsetAt change.into rest instant
      · rw [offsetInPass_cons_of_le hFirst]
        exact ih h.of_cons
      · -- the reading was shown before the change, so that little time has passed since
        have hSoon : instant ≤ change.instant + 2 * offsetBound := by
          have hBounds := h.of_cons.natAbs_offset_lookup_le atInstant instant
          simp only [onWall] at hFirst
          unfold offsetAt at hFirst
          unfold offsetBound at hBounds ⊢
          omega
        have hOffsets := (h.offsets_after .second hSoon).1
        rw [hOffsets] at hFirst ⊢
        refine .inr (h.offsets_after .second ?_).2
        simp only [onWall] at hFirst
        unfold offsetBound
        omega
    · have hBefore := Int.not_le.1 hInstant
      have hFirst : instant + current.offset < onWall .first current change := by
        simp only [onWall]
        omega
      left
      simp only [wall, offsetAt_cons_of_lt _ _ _ hBefore, offsetInPass_cons_of_lt hFirst]

end Sparse

/-! ## Steady zones -/

namespace Zone

/-- The clocks of a zone follow sparse changes, in both passes over their readings. -/
structure Paced (zone : Zone) (changes : List Change) : Prop where
  sparse : Sparse zone.recorded.before changes
  offset_typeAt : ∀ utc : Wall, (zone.typeAt utc).offset =
    offsetAt zone.recorded.before changes (secondsOf utc)
  offset_typeOnWall : ∀ (pass : Pass) (wall : Wall), (zone.typeOnWall pass wall).offset =
    offsetInPass pass zone.recorded.before changes (secondsOf wall)

/-- The clocks of a zone follow some sparse changes. -/
def Steady (zone : Zone) : Prop :=
  ∃ changes, zone.Paced changes

/-- A wall clock read in some pass stands for the instant that its offset gives. -/
theorem utcOf?_eq_some_iff {zone : Zone} {pass : Pass} {utc wall : Wall} :
    zone.utcOf? pass wall = some utc ↔
      (utc.count : Int) = wall.count - (zone.typeOnWall pass wall).span :=
  Wall.shift?_eq_some_iff

namespace Steady

variable {zone : Zone} {utc wall : Wall}

/-- A steady zone is regular. -/
theorem regular (hZone : zone.Steady) : zone.Regular := by
  obtain ⟨changes, hPaced⟩ := hZone
  exact ⟨changes, hPaced.sparse.isChain_apart, hPaced.offset_typeAt, hPaced.offset_typeOnWall .first⟩

/-- **From an instant to its reading and back.** The pass in which a reading stands at an instant means
the offset that is in force there. -/
theorem offset_typeOnWall_passAt (hZone : zone.Steady) (h : zone.wallAt? utc = some wall) :
    (zone.typeOnWall (zone.passAt utc wall) wall).offset = (zone.typeAt utc).offset := by
  obtain ⟨changes, hPaced⟩ := hZone
  have hSeconds := secondsOf_eq (wallAt?_eq_some_iff.1 h)
  have hPasses := hPaced.sparse.offsetInPass_eq (secondsOf utc)
  simp only [← hPaced.offset_typeAt, ← hSeconds, ← hPaced.offset_typeOnWall] at hPasses
  unfold passAt
  split
  · assumption
  · next hFirst => exact hPasses.resolve_left hFirst

/-- **From a reading to an instant and back.** A reading that is shown at all is shown at the instants
that it means in its two passes. -/
theorem wallAt?_utcOf? (hZone : zone.Steady) (hShows : zone.Shows wall) {pass : Pass}
    (h : zone.utcOf? pass wall = some utc) : zone.wallAt? utc = some wall := by
  cases pass with
  | first => exact hZone.regular.wallAt?_first hShows h
  | second =>
    obtain ⟨shown, hShown⟩ := hShows
    obtain ⟨changes, hPaced⟩ := hZone
    have hSeconds := secondsOf_eq (wallAt?_eq_some_iff.1 hShown)
    have hCount := utcOf?_eq_some_iff.1 h
    have hBack : secondsOf utc = secondsOf wall - (zone.typeOnWall .second wall).offset := by
      have hMoved : (wall.count : Int) = utc.count + (zone.typeOnWall .second wall).span := by
        omega
      have := secondsOf_eq hMoved
      omega
    have hPass := (hPaced.sparse.secondPass_spec (secondsOf shown)).2
    simp only [← hPaced.offset_typeAt, ← hSeconds, ← hPaced.offset_typeOnWall] at hPass
    rw [← hBack, ← hPaced.offset_typeAt] at hPass
    rw [wallAt?_eq_some_iff, LocalType.span, hPass, ← LocalType.span]
    omega

end Steady

/-! ## The known zones -/

namespace TakesOver

variable {zone : Zone} {year : Nat}

/-- The changes of all years come days after each other, if the recorded ones and those of the first
year under the rule do. -/
theorem sparse_changesFrom (h : zone.TakesOver year)
    (hSparse : Sparse zone.recorded.before (zone.changesFrom year 1)) (count : Nat) :
    Sparse zone.recorded.before (zone.changesFrom year (count + 1)) where
  current := hSparse.current
  bounded := by
    intro change hChange
    have hFirst := hSparse.bounded change
    unfold changesFrom at hChange hFirst
    rw [← List.append_assoc] at hChange hFirst
    rcases List.mem_append.1 hChange with hEarly | hYearly
    · exact hFirst (List.mem_append_left _ hEarly)
    · exact h.orderly.bounded_yearly (Nat.le_add_left 1 year) _ change hYearly
  daysApart := isChain_changesFrom hSparse.daysApart
    (h.orderly.isChain_daysApart_yearly (Nat.le_add_left 1 year) _)

/-- A zone is steady if its rule takes over in the second pass as well, and its changes are sparse. -/
theorem steady (h : zone.TakesOver year) (hMeets : zone.Meets year (onWall .second))
    (hSparse : Sparse zone.recorded.before (zone.changesFrom year 1)) : zone.Steady := by
  refine ⟨zone.changesFrom year (lastYear + 1), h.sparse_changesFrom hSparse lastYear, ?_, ?_⟩
  · exact h.offset_find_of_wall placing_atInstant h.meets_atInstant
  · intro pass
    cases pass with
    | first => exact h.offset_find_of_wall (placing_onWall .first) h.meets_onWall
    | second => exact h.offset_find_of_wall (placing_onWall .second) hMeets

end TakesOver

/-- **The known zones.** All known zones are steady. -/
theorem steady_of_mem_all {zone : Zone} (h : zone ∈ Zone.all) : zone.Steady := by
  have hAll : ∀ zone ∈ Zone.all, zone.Meets zone.lastRecordedYear (onWall .second) ∧
      Sparse zone.recorded.before (zone.changesFrom zone.lastRecordedYear 1) := by decide +kernel
  exact (takesOver_of_mem_all h).steady (hAll zone h).1 (hAll zone h).2

end Zone

end Crontab.Time
