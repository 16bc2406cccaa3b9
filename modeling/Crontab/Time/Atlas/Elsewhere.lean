import Crontab.Time.Atlas.Table

/-!
# Zones of universal time, fixed offsets and the Antarctic

Each table gives the local type before the first change, the numbered local types, the changes as
pairs of an instant and the number of the local type that starts there, and the rule afterwards.
-/

namespace Crontab.Time.Atlas

/-- The zone `UTC`. -/
def universal : Zone :=
  Zone.ofTable "UTC" ⟨0, 0, "UTC"⟩
    []
    []
    (.fixed ⟨0, 0, "UTC"⟩)

/-- The zone `Antarctica/Troll`. -/
def troll : Zone :=
  Zone.ofTable "Antarctica/Troll" ⟨0, 0, "-00"⟩
    [⟨0, 0, "+00"⟩]
    [(1108166400, 0)]
    (.alternating ⟨0, 0, "+00"⟩ ⟨7200, 7200, "+02"⟩
      ⟨3, 5, 0, 3600⟩ ⟨10, 5, 0, 10800⟩)

/-- The zone `Etc/GMT+5`. -/
def fiveWest : Zone :=
  Zone.ofTable "Etc/GMT+5" ⟨-18000, 0, "-05"⟩
    []
    []
    (.fixed ⟨-18000, 0, "-05"⟩)

/-- The zone `Etc/GMT-14`. -/
def fourteenEast : Zone :=
  Zone.ofTable "Etc/GMT-14" ⟨50400, 0, "+14"⟩
    []
    []
    (.fixed ⟨50400, 0, "+14"⟩)

end Crontab.Time.Atlas
