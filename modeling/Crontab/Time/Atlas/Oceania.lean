import Crontab.Time.Atlas.Table

/-!
# Zones of Australia and the Pacific

Each table gives the local type before the first change, the numbered local types, the changes as
pairs of an instant and the number of the local type that starts there, and the rule afterwards.
-/

namespace Crontab.Time.Atlas

/-- The zone `Australia/Sydney`. -/
def sydney : Zone :=
  Zone.ofTable "Australia/Sydney" ⟨36292, 0, "LMT"⟩
    [⟨36000, 0, "AEST"⟩, ⟨39600, 3600, "AEDT"⟩]
    [(-2364113092, 0), (-1672560000, 1), (-1665388800, 0), (-883641600, 1), (-876124800, 0),
     (-860400000, 1), (-844675200, 0), (-828345600, 1), (-813225600, 0), (57686400, 1),
     (67968000, 0), (89136000, 1), (100022400, 0), (120585600, 1), (131472000, 0), (152035200, 1),
     (162921600, 0), (183484800, 1), (194976000, 0), (215539200, 1), (226425600, 0),
     (246988800, 1), (257875200, 0), (278438400, 1), (289324800, 0), (309888000, 1),
     (320774400, 0), (341337600, 1), (352224000, 0), (372787200, 1), (386697600, 0),
     (404841600, 1), (415728000, 0), (436291200, 1), (447177600, 0), (467740800, 1),
     (478627200, 0), (499190400, 1), (511286400, 0), (530035200, 1), (542736000, 0),
     (562089600, 1), (574790400, 0), (594144000, 1), (606240000, 0), (625593600, 1),
     (636480000, 0), (657043200, 1), (667929600, 0), (688492800, 1), (699379200, 0),
     (719942400, 1), (731433600, 0), (751996800, 1), (762883200, 0), (783446400, 1),
     (794332800, 0), (814896000, 1), (828201600, 0), (846345600, 1), (859651200, 0),
     (877795200, 1), (891100800, 0), (909244800, 1), (922550400, 0), (941299200, 1),
     (954000000, 0), (967305600, 1), (985449600, 0), (1004198400, 1), (1017504000, 0),
     (1035648000, 1), (1048953600, 0), (1067097600, 1), (1080403200, 0), (1099152000, 1),
     (1111852800, 0), (1130601600, 1), (1143907200, 0), (1162051200, 1), (1174752000, 0),
     (1193500800, 1), (1207411200, 0)]
    (.alternating ⟨36000, 0, "AEST"⟩ ⟨39600, 3600, "AEDT"⟩
      ⟨10, 1, 0, 7200⟩ ⟨4, 1, 0, 10800⟩)

/-- The zone `Australia/Lord_Howe`. -/
def lordHowe : Zone :=
  Zone.ofTable "Australia/Lord_Howe" ⟨38180, 0, "LMT"⟩
    [⟨36000, 0, "AEST"⟩, ⟨37800, 0, "+1030"⟩, ⟨41400, 3600, "+1130"⟩, ⟨39600, 1800, "+11"⟩]
    [(-2364114980, 0), (352216800, 1), (372785400, 2), (384273000, 1), (404839800, 2),
     (415722600, 1), (436289400, 2), (447172200, 1), (467739000, 2), (478621800, 1),
     (499188600, 3), (511282800, 1), (530033400, 3), (542732400, 1), (562087800, 3),
     (574786800, 1), (594142200, 3), (606236400, 1), (625591800, 3), (636476400, 1),
     (657041400, 3), (667926000, 1), (688491000, 3), (699375600, 1), (719940600, 3),
     (731430000, 1), (751995000, 3), (762879600, 1), (783444600, 3), (794329200, 1),
     (814894200, 3), (828198000, 1), (846343800, 3), (859647600, 1), (877793400, 3),
     (891097200, 1), (909243000, 3), (922546800, 1), (941297400, 3), (953996400, 1),
     (967303800, 3), (985446000, 1), (1004196600, 3), (1017500400, 1), (1035646200, 3),
     (1048950000, 1), (1067095800, 3), (1080399600, 1), (1099150200, 3), (1111849200, 1),
     (1130599800, 3), (1143903600, 1), (1162049400, 3), (1174748400, 1), (1193499000, 3),
     (1207407600, 1)]
    (.alternating ⟨37800, 0, "+1030"⟩ ⟨39600, 1800, "+11"⟩
      ⟨10, 1, 0, 7200⟩ ⟨4, 1, 0, 7200⟩)

/-- The zone `Pacific/Apia`. -/
def apia : Zone :=
  Zone.ofTable "Pacific/Apia" ⟨45184, 0, "LMT"⟩
    [⟨-41216, 0, "LMT"⟩, ⟨-41400, 0, "-1130"⟩, ⟨-39600, 0, "-11"⟩, ⟨-36000, 3600, "-10"⟩,
     ⟨50400, 3600, "+14"⟩, ⟨46800, 0, "+13"⟩]
    [(-2445424384, 0), (-1861878784, 1), (-631110600, 2), (1285498800, 3), (1301752800, 2),
     (1316872800, 3), (1325239200, 4), (1333202400, 5), (1348927200, 4), (1365256800, 5),
     (1380376800, 4), (1396706400, 5), (1411826400, 4), (1428156000, 5), (1443276000, 4),
     (1459605600, 5), (1474725600, 4), (1491055200, 5), (1506175200, 4), (1522504800, 5),
     (1538229600, 4), (1554559200, 5), (1569679200, 4), (1586008800, 5), (1601128800, 4),
     (1617458400, 5)]
    (.fixed ⟨46800, 0, "+13"⟩)

/-- The zone `Pacific/Chatham`. -/
def chatham : Zone :=
  Zone.ofTable "Pacific/Chatham" ⟨44028, 0, "LMT"⟩
    [⟨44100, 0, "+1215"⟩, ⟨45900, 0, "+1245"⟩, ⟨49500, 3600, "+1345"⟩]
    [(-3192437628, 0), (-757426500, 1), (152632800, 2), (162309600, 1), (183477600, 2),
     (194968800, 1), (215532000, 2), (226418400, 1), (246981600, 2), (257868000, 1),
     (278431200, 2), (289317600, 1), (309880800, 2), (320767200, 1), (341330400, 2),
     (352216800, 1), (372780000, 2), (384271200, 1), (404834400, 2), (415720800, 1),
     (436284000, 2), (447170400, 1), (467733600, 2), (478620000, 1), (499183200, 2),
     (510069600, 1), (530632800, 2), (541519200, 1), (562082400, 2), (573573600, 1),
     (594136800, 2), (605023200, 1), (623772000, 2), (637682400, 1), (655221600, 2),
     (669132000, 1), (686671200, 2), (700581600, 1), (718120800, 2), (732636000, 1),
     (749570400, 2), (764085600, 1), (781020000, 2), (795535200, 1), (812469600, 2),
     (826984800, 1), (844524000, 2), (858434400, 1), (875973600, 2), (889884000, 1),
     (907423200, 2), (921938400, 1), (938872800, 2), (953388000, 1), (970322400, 2),
     (984837600, 1), (1002376800, 2), (1016287200, 1), (1033826400, 2), (1047736800, 1),
     (1065276000, 2), (1079791200, 1), (1096725600, 2), (1111240800, 1), (1128175200, 2),
     (1142690400, 1), (1159624800, 2), (1174140000, 1), (1191074400, 2)]
    (.alternating ⟨45900, 0, "+1245"⟩ ⟨49500, 3600, "+1345"⟩
      ⟨9, 5, 0, 9900⟩ ⟨4, 1, 0, 13500⟩)

/-- The zone `Pacific/Kiritimati`. -/
def kiritimati : Zone :=
  Zone.ofTable "Pacific/Kiritimati" ⟨-37760, 0, "LMT"⟩
    [⟨-38400, 0, "-1040"⟩, ⟨-36000, 0, "-10"⟩, ⟨50400, 0, "+14"⟩]
    [(-2177415040, 0), (307622400, 1), (788868000, 2)]
    (.fixed ⟨50400, 0, "+14"⟩)

end Crontab.Time.Atlas
