import Crontab.Time.Atlas.Table

/-!
# Zones of the Americas

Each table gives the local type before the first change, the numbered local types, the changes as
pairs of an instant and the number of the local type that starts there, and the rule afterwards.
-/

namespace Crontab.Time.Atlas

/-- The zone `America/New_York`. -/
def newYork : Zone :=
  Zone.ofTable "America/New_York" ⟨-17762, 0, "LMT"⟩
    [⟨-18000, 0, "EST"⟩, ⟨-14400, 3600, "EDT"⟩, ⟨-14400, 3600, "EWT"⟩, ⟨-14400, 3600, "EPT"⟩]
    [(-2717650800, 0), (-1633280400, 1), (-1615140000, 0), (-1601830800, 1), (-1583690400, 0),
     (-1570381200, 1), (-1551636000, 0), (-1536512400, 1), (-1523210400, 0), (-1504458000, 1),
     (-1491760800, 0), (-1473008400, 1), (-1459706400, 0), (-1441558800, 1), (-1428256800, 0),
     (-1410109200, 1), (-1396807200, 0), (-1378659600, 1), (-1365357600, 0), (-1347210000, 1),
     (-1333908000, 0), (-1315155600, 1), (-1301853600, 0), (-1283706000, 1), (-1270404000, 0),
     (-1252256400, 1), (-1238954400, 0), (-1220806800, 1), (-1207504800, 0), (-1189357200, 1),
     (-1176055200, 0), (-1157302800, 1), (-1144605600, 0), (-1125853200, 1), (-1112551200, 0),
     (-1094403600, 1), (-1081101600, 0), (-1062954000, 1), (-1049652000, 0), (-1031504400, 1),
     (-1018202400, 0), (-1000054800, 1), (-986752800, 0), (-968000400, 1), (-955303200, 0),
     (-936550800, 1), (-923248800, 0), (-905101200, 1), (-891799200, 0), (-880218000, 2),
     (-769395600, 3), (-765396000, 0), (-747248400, 1), (-733946400, 0), (-715798800, 1),
     (-702496800, 0), (-684349200, 1), (-671047200, 0), (-652899600, 1), (-639597600, 0),
     (-620845200, 1), (-608148000, 0), (-589395600, 1), (-576093600, 0), (-557946000, 1),
     (-544644000, 0), (-526496400, 1), (-513194400, 0), (-495046800, 1), (-481744800, 0),
     (-463597200, 1), (-447271200, 0), (-431542800, 1), (-415821600, 0), (-400093200, 1),
     (-384372000, 0), (-368643600, 1), (-352922400, 0), (-337194000, 1), (-321472800, 0),
     (-305744400, 1), (-289418400, 0), (-273690000, 1), (-257968800, 0), (-242240400, 1),
     (-226519200, 0), (-210790800, 1), (-195069600, 0), (-179341200, 1), (-163620000, 0),
     (-147891600, 1), (-131565600, 0), (-116442000, 1), (-100116000, 0), (-84387600, 1),
     (-68666400, 0), (-52938000, 1), (-37216800, 0), (-21488400, 1), (-5767200, 0), (9961200, 1),
     (25682400, 0), (41410800, 1), (57736800, 0), (73465200, 1), (89186400, 0), (104914800, 1),
     (120636000, 0), (126687600, 1), (152085600, 0), (162370800, 1), (183535200, 0),
     (199263600, 1), (215589600, 0), (230713200, 1), (247039200, 0), (262767600, 1),
     (278488800, 0), (294217200, 1), (309938400, 0), (325666800, 1), (341388000, 0),
     (357116400, 1), (372837600, 0), (388566000, 1), (404892000, 0), (420015600, 1),
     (436341600, 0), (452070000, 1), (467791200, 0), (483519600, 1), (499240800, 0),
     (514969200, 1), (530690400, 0), (544604400, 1), (562140000, 0), (576054000, 1),
     (594194400, 0), (607503600, 1), (625644000, 0), (638953200, 1), (657093600, 0),
     (671007600, 1), (688543200, 0), (702457200, 1), (719992800, 0), (733906800, 1),
     (752047200, 0), (765356400, 1), (783496800, 0), (796806000, 1), (814946400, 0),
     (828860400, 1), (846396000, 0), (860310000, 1), (877845600, 0), (891759600, 1),
     (909295200, 0), (923209200, 1), (941349600, 0), (954658800, 1), (972799200, 0),
     (986108400, 1), (1004248800, 0), (1018162800, 1), (1035698400, 0), (1049612400, 1),
     (1067148000, 0), (1081062000, 1), (1099202400, 0), (1112511600, 1), (1130652000, 0),
     (1143961200, 1), (1162101600, 0), (1173596400, 1)]
    (.alternating ⟨-18000, 0, "EST"⟩ ⟨-14400, 3600, "EDT"⟩
      ⟨3, 2, 0, 7200⟩ ⟨11, 1, 0, 7200⟩)

/-- The zone `America/Los_Angeles`. -/
def losAngeles : Zone :=
  Zone.ofTable "America/Los_Angeles" ⟨-28378, 0, "LMT"⟩
    [⟨-28800, 0, "PST"⟩, ⟨-25200, 3600, "PDT"⟩, ⟨-25200, 3600, "PWT"⟩, ⟨-25200, 3600, "PPT"⟩]
    [(-2717640000, 0), (-1633269600, 1), (-1615129200, 0), (-1601820000, 1), (-1583679600, 0),
     (-880207200, 2), (-769395600, 3), (-765385200, 0), (-687967140, 1), (-662655600, 0),
     (-620838000, 1), (-608137200, 0), (-589388400, 1), (-576082800, 0), (-557938800, 1),
     (-544633200, 0), (-526489200, 1), (-513183600, 0), (-495039600, 1), (-481734000, 0),
     (-463590000, 1), (-450284400, 0), (-431535600, 1), (-418230000, 0), (-400086000, 1),
     (-386780400, 0), (-368636400, 1), (-355330800, 0), (-337186800, 1), (-323881200, 0),
     (-305737200, 1), (-292431600, 0), (-273682800, 1), (-260982000, 0), (-242233200, 1),
     (-226508400, 0), (-210783600, 1), (-195058800, 0), (-179334000, 1), (-163609200, 0),
     (-147884400, 1), (-131554800, 0), (-116434800, 1), (-100105200, 0), (-84376800, 1),
     (-68655600, 0), (-52927200, 1), (-37206000, 0), (-21477600, 1), (-5756400, 0), (9972000, 1),
     (25693200, 0), (41421600, 1), (57747600, 0), (73476000, 1), (89197200, 0), (104925600, 1),
     (120646800, 0), (126698400, 1), (152096400, 0), (162381600, 1), (183546000, 0),
     (199274400, 1), (215600400, 0), (230724000, 1), (247050000, 0), (262778400, 1),
     (278499600, 0), (294228000, 1), (309949200, 0), (325677600, 1), (341398800, 0),
     (357127200, 1), (372848400, 0), (388576800, 1), (404902800, 0), (420026400, 1),
     (436352400, 0), (452080800, 1), (467802000, 0), (483530400, 1), (499251600, 0),
     (514980000, 1), (530701200, 0), (544615200, 1), (562150800, 0), (576064800, 1),
     (594205200, 0), (607514400, 1), (625654800, 0), (638964000, 1), (657104400, 0),
     (671018400, 1), (688554000, 0), (702468000, 1), (720003600, 0), (733917600, 1),
     (752058000, 0), (765367200, 1), (783507600, 0), (796816800, 1), (814957200, 0),
     (828871200, 1), (846406800, 0), (860320800, 1), (877856400, 0), (891770400, 1),
     (909306000, 0), (923220000, 1), (941360400, 0), (954669600, 1), (972810000, 0),
     (986119200, 1), (1004259600, 0), (1018173600, 1), (1035709200, 0), (1049623200, 1),
     (1067158800, 0), (1081072800, 1), (1099213200, 0), (1112522400, 1), (1130662800, 0),
     (1143972000, 1), (1162112400, 0), (1173607200, 1)]
    (.alternating ⟨-28800, 0, "PST"⟩ ⟨-25200, 3600, "PDT"⟩
      ⟨3, 2, 0, 7200⟩ ⟨11, 1, 0, 7200⟩)

/-- The zone `America/Sao_Paulo`. -/
def saoPaulo : Zone :=
  Zone.ofTable "America/Sao_Paulo" ⟨-11188, 0, "LMT"⟩
    [⟨-10800, 0, "-03"⟩, ⟨-7200, 3600, "-02"⟩]
    [(-1767214412, 0), (-1206957600, 1), (-1191362400, 0), (-1175374800, 1), (-1159826400, 0),
     (-633819600, 1), (-622069200, 0), (-602283600, 1), (-591832800, 0), (-570747600, 1),
     (-560210400, 0), (-539125200, 1), (-531352800, 0), (-195426000, 1), (-184197600, 0),
     (-155163600, 1), (-149983200, 0), (-128898000, 1), (-121122000, 0), (-99954000, 1),
     (-89589600, 0), (-68418000, 1), (-57967200, 0), (499748400, 1), (511236000, 0),
     (530593200, 1), (540266400, 0), (562129200, 1), (571197600, 0), (592974000, 1),
     (602042400, 0), (624423600, 1), (634701600, 0), (656478000, 1), (666756000, 0),
     (687927600, 1), (697600800, 0), (719982000, 1), (728445600, 0), (750826800, 1),
     (761709600, 0), (782276400, 1), (793159200, 0), (813726000, 1), (824004000, 0),
     (844570800, 1), (856058400, 0), (876106800, 1), (888717600, 0), (908074800, 1),
     (919562400, 0), (938919600, 1), (951616800, 0), (970974000, 1), (982461600, 0),
     (1003028400, 1), (1013911200, 0), (1036292400, 1), (1045360800, 0), (1066532400, 1),
     (1076810400, 0), (1099364400, 1), (1108864800, 0), (1129431600, 1), (1140314400, 0),
     (1162695600, 1), (1172368800, 0), (1192330800, 1), (1203213600, 0), (1224385200, 1),
     (1234663200, 0), (1255834800, 1), (1266717600, 0), (1287284400, 1), (1298167200, 0),
     (1318734000, 1), (1330221600, 0), (1350788400, 1), (1361066400, 0), (1382238000, 1),
     (1392516000, 0), (1413687600, 1), (1424570400, 0), (1445137200, 1), (1456020000, 0),
     (1476586800, 1), (1487469600, 0), (1508036400, 1), (1518919200, 0), (1541300400, 1),
     (1550368800, 0)]
    (.fixed ⟨-10800, 0, "-03"⟩)

/-- The zone `America/St_Johns`. -/
def stJohns : Zone :=
  Zone.ofTable "America/St_Johns" ⟨-12652, 0, "LMT"⟩
    [⟨-12652, 0, "NST"⟩, ⟨-9052, 3600, "NDT"⟩, ⟨-12600, 0, "NST"⟩, ⟨-9000, 3600, "NDT"⟩,
     ⟨-9000, 3600, "NWT"⟩, ⟨-9000, 3600, "NPT"⟩, ⟨-5400, 7200, "NDDT"⟩]
    [(-2713897748, 0), (-1664130548, 1), (-1650137348, 0), (-1632076148, 1), (-1615145348, 0),
     (-1598650148, 1), (-1590100148, 0), (-1567286948, 1), (-1551565748, 0), (-1535837348, 1),
     (-1520116148, 0), (-1503782948, 1), (-1488666548, 0), (-1472333348, 1), (-1457216948, 0),
     (-1440883748, 1), (-1425767348, 0), (-1409434148, 1), (-1394317748, 0), (-1377984548, 1),
     (-1362263348, 0), (-1346534948, 1), (-1330813748, 0), (-1314480548, 1), (-1299364148, 0),
     (-1283030948, 1), (-1267914548, 0), (-1251581348, 1), (-1236464948, 0), (-1220131748, 1),
     (-1205015348, 0), (-1188682148, 1), (-1172960948, 0), (-1156627748, 1), (-1141511348, 0),
     (-1125178148, 1), (-1110061748, 0), (-1096921748, 2), (-1093728600, 3), (-1078612200, 2),
     (-1061670600, 3), (-1048973400, 2), (-1030221000, 3), (-1017523800, 2), (-998771400, 3),
     (-986074200, 2), (-966717000, 3), (-954624600, 2), (-935267400, 3), (-922570200, 2),
     (-903817800, 3), (-891120600, 2), (-872368200, 4), (-769395600, 5), (-765401400, 2),
     (-746044200, 3), (-733347000, 2), (-714594600, 3), (-701897400, 2), (-683145000, 3),
     (-670447800, 2), (-651695400, 3), (-638998200, 2), (-619641000, 3), (-606943800, 2),
     (-589401000, 3), (-576099000, 2), (-557951400, 3), (-544649400, 2), (-526501800, 3),
     (-513199800, 2), (-495052200, 3), (-481750200, 2), (-463602600, 3), (-450300600, 2),
     (-431548200, 3), (-418246200, 2), (-400098600, 3), (-386796600, 2), (-368649000, 3),
     (-355347000, 2), (-337199400, 3), (-323897400, 2), (-305749800, 3), (-289423800, 2),
     (-273695400, 3), (-257974200, 2), (-242245800, 3), (-226524600, 2), (-210796200, 3),
     (-195075000, 2), (-179346600, 3), (-163625400, 2), (-147897000, 3), (-131571000, 2),
     (-116447400, 3), (-100121400, 2), (-84393000, 3), (-68671800, 2), (-52943400, 3),
     (-37222200, 2), (-21493800, 3), (-5772600, 2), (9955800, 3), (25677000, 2), (41405400, 3),
     (57731400, 2), (73459800, 3), (89181000, 2), (104909400, 3), (120630600, 2), (136359000, 3),
     (152080200, 2), (167808600, 3), (183529800, 2), (199258200, 3), (215584200, 2),
     (230707800, 3), (247033800, 2), (262762200, 3), (278483400, 2), (294211800, 3),
     (309933000, 2), (325661400, 3), (341382600, 2), (357111000, 3), (372832200, 2),
     (388560600, 3), (404886600, 2), (420010200, 3), (436336200, 2), (452064600, 3),
     (467785800, 2), (483514200, 3), (499235400, 2), (514963800, 3), (530685000, 2),
     (544591860, 3), (562127460, 2), (576041460, 6), (594178260, 2), (607491060, 3),
     (625631460, 2), (638940660, 3), (657081060, 2), (670995060, 3), (688530660, 2),
     (702444660, 3), (719980260, 2), (733894260, 3), (752034660, 2), (765343860, 3),
     (783484260, 2), (796793460, 3), (814933860, 2), (828847860, 3), (846383460, 2),
     (860297460, 3), (877833060, 2), (891747060, 3), (909282660, 2), (923196660, 3),
     (941337060, 2), (954646260, 3), (972786660, 2), (986095860, 3), (1004236260, 2),
     (1018150260, 3), (1035685860, 2), (1049599860, 3), (1067135460, 2), (1081049460, 3),
     (1099189860, 2), (1112499060, 3), (1130639460, 2), (1143948660, 3), (1162089060, 2),
     (1173583860, 3), (1194143460, 2), (1205033460, 3), (1225593060, 2), (1236483060, 3),
     (1257042660, 2), (1268537460, 3), (1289097060, 2), (1299987060, 3), (1320114600, 3)]
    (.alternating ⟨-12600, 0, "NST"⟩ ⟨-9000, 3600, "NDT"⟩
      ⟨3, 2, 0, 7200⟩ ⟨11, 1, 0, 7200⟩)

end Crontab.Time.Atlas
