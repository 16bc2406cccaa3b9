import Crontab.Time.Atlas.Table

/-!
# Zones of Europe

Each table gives the local type before the first change, the numbered local types, the changes as
pairs of an instant and the number of the local type that starts there, and the rule afterwards.
-/

namespace Crontab.Time.Atlas

/-- The zone `Europe/London`. -/
def london : Zone :=
  Zone.ofTable "Europe/London" ⟨-75, 0, "LMT"⟩
    [⟨0, 0, "GMT"⟩, ⟨3600, 3600, "BST"⟩, ⟨7200, 3600, "BDST"⟩, ⟨3600, 0, "BST"⟩]
    [(-3852662325, 0), (-1691964000, 1), (-1680472800, 0), (-1664143200, 1), (-1650146400, 0),
     (-1633903200, 1), (-1617487200, 0), (-1601848800, 1), (-1586037600, 0), (-1570399200, 1),
     (-1552168800, 0), (-1538344800, 1), (-1522533600, 0), (-1507500000, 1), (-1490565600, 0),
     (-1473631200, 1), (-1460930400, 0), (-1442786400, 1), (-1428876000, 0), (-1410732000, 1),
     (-1396216800, 0), (-1379282400, 1), (-1364767200, 0), (-1348437600, 1), (-1333317600, 0),
     (-1315778400, 1), (-1301263200, 0), (-1284328800, 1), (-1269813600, 0), (-1253484000, 1),
     (-1238364000, 0), (-1221429600, 1), (-1206914400, 0), (-1189980000, 1), (-1175464800, 0),
     (-1159135200, 1), (-1143410400, 0), (-1126476000, 1), (-1111960800, 0), (-1095631200, 1),
     (-1080511200, 0), (-1063576800, 1), (-1049061600, 0), (-1032127200, 1), (-1017612000, 0),
     (-1001282400, 1), (-986162400, 0), (-969228000, 1), (-950479200, 0), (-942012000, 1),
     (-904518000, 2), (-896050800, 1), (-875487600, 2), (-864601200, 1), (-844038000, 2),
     (-832546800, 1), (-812588400, 2), (-798073200, 1), (-781052400, 2), (-772066800, 1),
     (-764805600, 0), (-748476000, 1), (-733356000, 0), (-719445600, 1), (-717030000, 2),
     (-706748400, 1), (-699487200, 0), (-687996000, 1), (-668037600, 0), (-654732000, 1),
     (-636588000, 0), (-622072800, 1), (-605743200, 0), (-590623200, 1), (-574293600, 0),
     (-558568800, 1), (-542239200, 0), (-527119200, 1), (-512604000, 0), (-496274400, 1),
     (-481154400, 0), (-464220000, 1), (-449704800, 0), (-432165600, 1), (-417650400, 0),
     (-401320800, 1), (-386200800, 0), (-369266400, 1), (-354751200, 0), (-337816800, 1),
     (-323301600, 0), (-306972000, 1), (-291852000, 0), (-276732000, 1), (-257983200, 0),
     (-245282400, 1), (-226533600, 0), (-213228000, 1), (-195084000, 0), (-182383200, 1),
     (-163634400, 0), (-150933600, 1), (-132184800, 0), (-119484000, 1), (-100735200, 0),
     (-88034400, 1), (-68680800, 0), (-59004000, 1), (-37242000, 3), (57722400, 0), (69818400, 1),
     (89172000, 0), (101268000, 1), (120621600, 0), (132717600, 1), (152071200, 0), (164167200, 1),
     (183520800, 0), (196221600, 1), (214970400, 0), (227671200, 1), (246420000, 0),
     (259120800, 1), (278474400, 0), (290570400, 1), (309924000, 0), (322020000, 1),
     (341373600, 0), (354675600, 1), (372819600, 0), (386125200, 1), (404269200, 0),
     (417574800, 1), (435718800, 0), (449024400, 1), (467773200, 0), (481078800, 1),
     (499222800, 0), (512528400, 1), (530672400, 0), (543978000, 1), (562122000, 0),
     (575427600, 1), (593571600, 0), (606877200, 1), (625626000, 0), (638326800, 1),
     (657075600, 0), (670381200, 1), (688525200, 0), (701830800, 1), (719974800, 0),
     (733280400, 1), (751424400, 0), (764730000, 1), (782874000, 0), (796179600, 1),
     (814323600, 0), (820454400, 0)]
    (.alternating ⟨0, 0, "GMT"⟩ ⟨3600, 3600, "BST"⟩
      ⟨3, 5, 0, 3600⟩ ⟨10, 5, 0, 7200⟩)

/-- The zone `Europe/Paris`. -/
def paris : Zone :=
  Zone.ofTable "Europe/Paris" ⟨561, 0, "LMT"⟩
    [⟨561, 0, "PMT"⟩, ⟨0, 0, "WET"⟩, ⟨3600, 3600, "WEST"⟩, ⟨7200, 3600, "CEST"⟩, ⟨3600, 0, "CET"⟩,
     ⟨7200, 3600, "WEMT"⟩]
    [(-2486592561, 0), (-1855958961, 1), (-1689814800, 2), (-1680397200, 1), (-1665363600, 2),
     (-1648342800, 1), (-1635123600, 2), (-1616893200, 1), (-1604278800, 2), (-1585443600, 1),
     (-1574038800, 2), (-1552266000, 1), (-1539997200, 2), (-1520557200, 1), (-1507510800, 2),
     (-1490576400, 1), (-1470618000, 2), (-1459126800, 1), (-1444006800, 2), (-1427677200, 1),
     (-1411952400, 2), (-1396227600, 1), (-1379293200, 2), (-1364778000, 1), (-1348448400, 2),
     (-1333328400, 1), (-1316394000, 2), (-1301274000, 1), (-1284339600, 2), (-1269824400, 1),
     (-1253494800, 2), (-1238374800, 1), (-1221440400, 2), (-1206925200, 1), (-1191200400, 2),
     (-1175475600, 1), (-1160355600, 2), (-1143421200, 1), (-1127696400, 2), (-1111971600, 1),
     (-1096851600, 2), (-1080522000, 1), (-1063587600, 2), (-1049072400, 1), (-1033347600, 2),
     (-1017622800, 1), (-1002502800, 2), (-986173200, 1), (-969238800, 2), (-950490000, 1),
     (-942012000, 2), (-932436000, 3), (-857257200, 4), (-844556400, 3), (-828226800, 4),
     (-812502000, 3), (-800071200, 5), (-796266000, 2), (-781052400, 5), (-766623600, 4),
     (196819200, 3), (212540400, 4), (228877200, 3), (243997200, 4), (260326800, 3),
     (276051600, 4), (291776400, 3), (307501200, 4), (323830800, 3), (338950800, 4),
     (354675600, 3), (370400400, 4), (386125200, 3), (401850000, 4), (417574800, 3),
     (433299600, 4), (449024400, 3), (465354000, 4), (481078800, 3), (496803600, 4),
     (512528400, 3), (528253200, 4), (543978000, 3), (559702800, 4), (575427600, 3),
     (591152400, 4), (606877200, 3), (622602000, 4), (638326800, 3), (654656400, 4),
     (670381200, 3), (686106000, 4), (701830800, 3), (717555600, 4), (733280400, 3),
     (749005200, 4), (764730000, 3), (780454800, 4), (796179600, 3), (811904400, 4),
     (828234000, 3)]
    (.alternating ⟨3600, 0, "CET"⟩ ⟨7200, 3600, "CEST"⟩
      ⟨3, 5, 0, 7200⟩ ⟨10, 5, 0, 10800⟩)

/-- The zone `Europe/Berlin`. -/
def berlin : Zone :=
  Zone.ofTable "Europe/Berlin" ⟨3208, 0, "LMT"⟩
    [⟨3600, 0, "CET"⟩, ⟨7200, 3600, "CEST"⟩, ⟨10800, 3600, "CEMT"⟩]
    [(-2422054408, 0), (-1693706400, 1), (-1680483600, 0), (-1663455600, 1), (-1650150000, 0),
     (-1632006000, 1), (-1618700400, 0), (-938905200, 1), (-857257200, 0), (-844556400, 1),
     (-828226800, 0), (-812502000, 1), (-796777200, 0), (-781052400, 1), (-776563200, 2),
     (-765936000, 1), (-761180400, 0), (-748479600, 1), (-733273200, 0), (-717631200, 1),
     (-714610800, 2), (-710380800, 1), (-701910000, 0), (-684975600, 1), (-670460400, 0),
     (-654130800, 1), (-639010800, 0), (323830800, 1), (338950800, 0), (354675600, 1),
     (370400400, 0), (386125200, 1), (401850000, 0), (417574800, 1), (433299600, 0),
     (449024400, 1), (465354000, 0), (481078800, 1), (496803600, 0), (512528400, 1),
     (528253200, 0), (543978000, 1), (559702800, 0), (575427600, 1), (591152400, 0),
     (606877200, 1), (622602000, 0), (638326800, 1), (654656400, 0), (670381200, 1),
     (686106000, 0), (701830800, 1), (717555600, 0), (733280400, 1), (749005200, 0),
     (764730000, 1), (780454800, 0), (796179600, 1), (811904400, 0), (828234000, 1)]
    (.alternating ⟨3600, 0, "CET"⟩ ⟨7200, 3600, "CEST"⟩
      ⟨3, 5, 0, 7200⟩ ⟨10, 5, 0, 10800⟩)

/-- The zone `Europe/Dublin`. -/
def dublin : Zone :=
  Zone.ofTable "Europe/Dublin" ⟨-1521, 0, "LMT"⟩
    [⟨-1521, 0, "DMT"⟩, ⟨2079, 3600, "IST"⟩, ⟨0, 0, "GMT"⟩, ⟨3600, 3600, "BST"⟩,
     ⟨3600, 3600, "IST"⟩, ⟨3600, 0, "IST"⟩, ⟨0, -3600, "GMT"⟩]
    [(-2821649679, 0), (-1691962479, 1), (-1680471279, 2), (-1664143200, 3), (-1650146400, 2),
     (-1633903200, 3), (-1617487200, 2), (-1601848800, 3), (-1586037600, 2), (-1570399200, 3),
     (-1552168800, 2), (-1538344800, 3), (-1522533600, 2), (-1507500000, 4), (-1490565600, 2),
     (-1473631200, 4), (-1460930400, 2), (-1442786400, 4), (-1428876000, 2), (-1410732000, 4),
     (-1397426400, 2), (-1379282400, 4), (-1364767200, 2), (-1348437600, 4), (-1333317600, 2),
     (-1315778400, 4), (-1301263200, 2), (-1284328800, 4), (-1269813600, 2), (-1253484000, 4),
     (-1238364000, 2), (-1221429600, 4), (-1206914400, 2), (-1189980000, 4), (-1175464800, 2),
     (-1159135200, 4), (-1143410400, 2), (-1126476000, 4), (-1111960800, 2), (-1095631200, 4),
     (-1080511200, 2), (-1063576800, 4), (-1049061600, 2), (-1032127200, 4), (-1017612000, 2),
     (-1001282400, 4), (-986162400, 2), (-969228000, 4), (-950479200, 2), (-942012000, 4),
     (-733356000, 2), (-719445600, 4), (-699487200, 2), (-684972000, 4), (-668037600, 2),
     (-654732000, 4), (-636588000, 2), (-622072800, 4), (-605743200, 2), (-590623200, 4),
     (-574293600, 2), (-558568800, 4), (-542239200, 2), (-527119200, 4), (-512604000, 2),
     (-496274400, 4), (-481154400, 2), (-464220000, 4), (-449704800, 2), (-432165600, 4),
     (-417650400, 2), (-401320800, 4), (-386200800, 2), (-369266400, 4), (-354751200, 2),
     (-337816800, 4), (-323301600, 2), (-306972000, 4), (-291852000, 2), (-276732000, 4),
     (-257983200, 2), (-245282400, 4), (-226533600, 2), (-213228000, 4), (-195084000, 2),
     (-182383200, 4), (-163634400, 2), (-150933600, 4), (-132184800, 2), (-119484000, 4),
     (-100735200, 2), (-88034400, 4), (-68680800, 2), (-59004000, 4), (-37242000, 5),
     (57722400, 6), (69818400, 5), (89172000, 6), (101268000, 5), (120621600, 6), (132717600, 5),
     (152071200, 6), (164167200, 5), (183520800, 6), (196221600, 5), (214970400, 6),
     (227671200, 5), (246420000, 6), (259120800, 5), (278474400, 6), (290570400, 5),
     (309924000, 6), (322020000, 5), (341373600, 6), (354675600, 5), (372819600, 6),
     (386125200, 5), (404269200, 6), (417574800, 5), (435718800, 6), (449024400, 5),
     (467773200, 6), (481078800, 5), (499222800, 6), (512528400, 5), (530672400, 6),
     (543978000, 5), (562122000, 6), (575427600, 5), (593571600, 6), (606877200, 5),
     (625626000, 6), (638326800, 5), (657075600, 6), (670381200, 5), (688525200, 6),
     (701830800, 5), (719974800, 6), (733280400, 5), (751424400, 6), (764730000, 5),
     (782874000, 6), (796179600, 5), (814323600, 6), (828234000, 5)]
    (.alternating ⟨3600, 0, "IST"⟩ ⟨0, -3600, "GMT"⟩
      ⟨10, 5, 0, 7200⟩ ⟨3, 5, 0, 3600⟩)

/-- The zone `Europe/Moscow`. -/
def moscow : Zone :=
  Zone.ofTable "Europe/Moscow" ⟨9017, 0, "LMT"⟩
    [⟨9017, 0, "MMT"⟩, ⟨9079, 0, "MMT"⟩, ⟨12679, 3600, "MST"⟩, ⟨16279, 7200, "MDST"⟩,
     ⟨14400, 3600, "MSD"⟩, ⟨10800, 0, "MSK"⟩, ⟨18000, 3600, "+05"⟩, ⟨7200, 0, "EET"⟩,
     ⟨10800, 3600, "EEST"⟩, ⟨14400, 0, "MSK"⟩]
    [(-2840149817, 0), (-1688265017, 1), (-1656819079, 2), (-1641353479, 1), (-1627965079, 3),
     (-1618716679, 2), (-1596429079, 3), (-1593820800, 4), (-1589860800, 5), (-1542427200, 4),
     (-1539493200, 6), (-1525323600, 4), (-1522728000, 5), (-1491188400, 7), (-1247536800, 5),
     (354920400, 4), (370728000, 5), (386456400, 4), (402264000, 5), (417992400, 4),
     (433800000, 5), (449614800, 4), (465346800, 5), (481071600, 4), (496796400, 5),
     (512521200, 4), (528246000, 5), (543970800, 4), (559695600, 5), (575420400, 4),
     (591145200, 5), (606870000, 4), (622594800, 5), (638319600, 4), (654649200, 5),
     (670374000, 8), (686102400, 7), (695779200, 5), (701823600, 4), (717548400, 5),
     (733273200, 4), (748998000, 5), (764722800, 4), (780447600, 5), (796172400, 4),
     (811897200, 5), (828226800, 4), (846370800, 5), (859676400, 4), (877820400, 5),
     (891126000, 4), (909270000, 5), (922575600, 4), (941324400, 5), (954025200, 4),
     (972774000, 5), (985474800, 4), (1004223600, 5), (1017529200, 4), (1035673200, 5),
     (1048978800, 4), (1067122800, 5), (1080428400, 4), (1099177200, 5), (1111878000, 4),
     (1130626800, 5), (1143327600, 4), (1162076400, 5), (1174777200, 4), (1193526000, 5),
     (1206831600, 4), (1224975600, 5), (1238281200, 4), (1256425200, 5), (1269730800, 4),
     (1288479600, 5), (1301180400, 9), (1414274400, 5)]
    (.fixed ⟨10800, 0, "MSK"⟩)

end Crontab.Time.Atlas
