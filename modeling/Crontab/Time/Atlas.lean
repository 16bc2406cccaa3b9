import Crontab.Time.Atlas.AfricaAsia
import Crontab.Time.Atlas.Americas
import Crontab.Time.Atlas.Elsewhere
import Crontab.Time.Atlas.Europe
import Crontab.Time.Atlas.Oceania

/-!
# The known zones

* `Zone.all` — the zones that have a key;
* `Zone.ofKey?` — the zone of a key; keys are compared exactly.
-/

namespace Crontab.Time

open Atlas

/-- The zone under another key. -/
def Zone.renamed (zone : Zone) (key : String) : Zone :=
  { zone with key := key }

/-- The known zones. -/
def Zone.all : List Zone :=
  [universal, newYork, losAngeles, saoPaulo, stJohns, london, paris, berlin, dublin, moscow,
   casablanca, tokyo, kolkata, kathmandu, sydney, lordHowe, apia, chatham, kiritimati, troll,
   fiveWest, fourteenEast,
   ⟨"GMT", ⟨⟨0, 0, "GMT"⟩, []⟩, .fixed ⟨0, 0, "GMT"⟩⟩,
   ⟨"Factory", ⟨⟨0, 0, "-00"⟩, []⟩, .fixed ⟨0, 0, "-00"⟩⟩,
   newYork.renamed "US/Eastern", newYork.renamed "EST5EDT", kolkata.renamed "Asia/Calcutta"]

/-- The zone of a key. -/
def Zone.ofKey? (key : String) : Option Zone :=
  Zone.all.find? (·.key = key)

end Crontab.Time
