import Crontab.Time.Atlas.Table

/-!
# Zones of Africa and Asia

Each table gives the local type before the first change, the numbered local types, the changes as
pairs of an instant and the number of the local type that starts there, and the rule afterwards.
-/

namespace Crontab.Time.Atlas

/-- The zone `Africa/Casablanca`. -/
def casablanca : Zone :=
  Zone.ofTable "Africa/Casablanca" ⟨-1820, 0, "LMT"⟩
    [⟨0, 0, "+00"⟩, ⟨3600, 3600, "+01"⟩, ⟨3600, 0, "+01"⟩, ⟨0, -3600, "+00"⟩]
    [(-1773012580, 0), (-956361600, 1), (-950490000, 0), (-942019200, 1), (-761187600, 0),
     (-617241600, 1), (-605149200, 0), (-81432000, 1), (-71110800, 0), (141264000, 1),
     (147222000, 0), (199756800, 1), (207702000, 0), (231292800, 1), (244249200, 0),
     (265507200, 1), (271033200, 0), (448243200, 2), (504918000, 0), (1212278400, 1),
     (1220223600, 0), (1243814400, 1), (1250809200, 0), (1272758400, 1), (1281222000, 0),
     (1301788800, 1), (1312066800, 0), (1335664800, 1), (1342749600, 0), (1345428000, 1),
     (1348970400, 0), (1367114400, 1), (1373162400, 0), (1376100000, 1), (1382839200, 0),
     (1396144800, 1), (1403920800, 0), (1406944800, 1), (1414288800, 0), (1427594400, 1),
     (1434247200, 0), (1437271200, 1), (1445738400, 0), (1459044000, 1), (1465092000, 0),
     (1468116000, 1), (1477792800, 0), (1490493600, 1), (1495332000, 0), (1498960800, 1),
     (1509242400, 0), (1521943200, 1), (1526176800, 0), (1529200800, 1), (1540692000, 2),
     (1557021600, 3), (1560045600, 2), (1587261600, 3), (1590890400, 2), (1618106400, 3),
     (1621130400, 2), (1648346400, 3), (1651975200, 2), (1679191200, 3), (1682215200, 2),
     (1710036000, 3), (1713060000, 2), (1740276000, 3), (1743904800, 2), (1771120800, 3),
     (1774144800, 2), (1789866000, 0)]
    (.fixed ⟨0, 0, "+00"⟩)

/-- The zone `Asia/Tokyo`. -/
def tokyo : Zone :=
  Zone.ofTable "Asia/Tokyo" ⟨33539, 0, "LMT"⟩
    [⟨32400, 0, "JST"⟩, ⟨36000, 3600, "JDT"⟩]
    [(-2587712400, 0), (-683802000, 1), (-672310800, 0), (-654771600, 1), (-640861200, 0),
     (-620298000, 1), (-609411600, 0), (-588848400, 1), (-577962000, 0)]
    (.fixed ⟨32400, 0, "JST"⟩)

/-- The zone `Asia/Kolkata`. -/
def kolkata : Zone :=
  Zone.ofTable "Asia/Kolkata" ⟨21208, 0, "LMT"⟩
    [⟨21200, 0, "HMT"⟩, ⟨19270, 0, "MMT"⟩, ⟨19800, 0, "IST"⟩, ⟨23400, 3600, "+0630"⟩]
    [(-3645237208, 0), (-3155694800, 1), (-2019705670, 2), (-891581400, 3), (-872058600, 2),
     (-862637400, 3), (-764145000, 2)]
    (.fixed ⟨19800, 0, "IST"⟩)

/-- The zone `Asia/Kathmandu`. -/
def kathmandu : Zone :=
  Zone.ofTable "Asia/Kathmandu" ⟨20476, 0, "LMT"⟩
    [⟨19800, 0, "+0530"⟩, ⟨20700, 0, "+0545"⟩]
    [(-1577943676, 0), (504901800, 1)]
    (.fixed ⟨20700, 0, "+0545"⟩)

end Crontab.Time.Atlas
