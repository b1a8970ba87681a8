-- The names of the characters from U+10000 on.
import Worksheet.Text.CharacterName.BasicPlane

namespace Worksheet.Text.CharacterName

/-- The names from U+10000 on, but for those that are made from the code point. -/
def supplementary : List Run := [
  ⟨0x10000, "LINEAR B SYLLABLE B0", "08 A|38 E|28 I|61 O|10 U|01 DA|45 DE|07 DI|14 DO|51 DU|57 JA|46 JE"⟩,
  ⟨0x1000D, "LINEAR B SYLLABLE B0", "36 JO|65 JU|77 KA|44 KE|67 KI|70 KO|81 KU|80 MA|13 ME|73 MI|15 MO|23 MU|06 NA|24 NE|30 NI|52 NO|55 NU|03 PA|72 PE|39 PI|11 PO|50 PU|16 QA|78 QE|21 QI|32 QO"⟩,
  ⟨0x10028, "LINEAR B SYLLABLE B0", "60 RA|27 RE|53 RI|02 RO|26 RU|31 SA|09 SE|41 SI|12 SO|58 SU|59 TA|04 TE|37 TI|05 TO|69 TU|54 WA|75 WE|40 WI|42 WO"⟩,
  ⟨0x1003C, "LINEAR B SYLLABLE B0", "17 ZA|74 ZE"⟩,
  ⟨0x1003F, "LINEAR B SYLLABLE B0", "20 ZO|25 A2|43 A3|85 AU|71 DWE|90 DWO|48 NWA|29 PU2|62 PTE|76 RA2|33 RA3|68 RO2|66 TA2|87 TWE|91 TWO"⟩,
  ⟨0x10050, "LINEAR B SYMBOL B0", "18|19|22|34|47|49|56|63|64|79|82|83|86|89"⟩,
  ⟨0x10080, "LINEAR B IDEOGRAM B1", "00 MAN|02 WOMAN|04 DEER|05 EQUID|05F MARE|05M STALLION|06F EWE|06M RAM|07F SHE-GOAT|07M HE-GOAT|08F SOW|08M BOAR|09F COW|09M BULL|20 WHEAT|21 BARLEY|22 OLIVE|23 SPICE|25 CYPERUS"⟩,
  ⟨0x10093, "LINEAR B ", "MONOGRAM B127 KAPO|MONOGRAM B128 KANAKO|IDEOGRAM B130 OIL|IDEOGRAM B131 WINE|IDEOGRAM B132|MONOGRAM B133 AREPA|MONOGRAM B135 MERI"⟩,
  ⟨0x1009A, "LINEAR B IDEOGRAM B1", "40 BRONZE|41 GOLD|42|45 WOOL|46|50|51 HORN|52|53|54"⟩,
  ⟨0x100A4, "LINEAR B MONOGRAM B156 TURO2", ""⟩,
  ⟨0x100A5, "LINEAR B IDEOGRAM B1", "57|58|59 CLOTH|60|61|62 GARMENT|63 ARMOUR|64|65|66|67|68|69|70|71|72|73 MONTH|74|76 TREE|77|78|79|80|81|82|83|84|85|89|90|91 HELMET"⟩,
  ⟨0x100C4, "LINEAR B IDEOGRAM B2", "20 FOOTSTOOL|25 BATHTUB|30 SPEAR|31 ARROW|32|33 SWORD|34|36|40 WHEELED CHARIOT|41 CHARIOT|42 CHARIOT FRAME|43 WHEEL|45|46"⟩,
  ⟨0x100D2, "LINEAR B MONOGRAM B247 DIPTE", ""⟩,
  ⟨0x100D3, "LINEAR B IDEOGRAM B2", "48|49|51|52|53|54 DART|55|56|57|58|59"⟩,
  ⟨0x100DE, "LINEAR B IDEOGRAM VESSEL B", "155|200|201|202|203|204|205|206|207|208|209|210|211|212|213|214|215|216|217|218|219|221|222|226|227|228|229|250|305"⟩,
  ⟨0x10100, "AEGEAN ", "WORD SEPARATOR LINE|WORD SEPARATOR DOT|CHECK MARK"⟩,
  ⟨0x10107, "AEGEAN NUMBER ", "ONE|TWO|THREE|FOUR|FIVE|SIX|SEVEN|EIGHT|NINE|TEN|TWENTY|THIRTY|FORTY|FIFTY|SIXTY|SEVENTY|EIGHTY|NINETY|ONE HUNDRED|TWO HUNDRED|THREE HUNDRED|FOUR HUNDRED|FIVE HUNDRED|SIX HUNDRED|SEVEN HUNDRED|EIGHT HUNDRED|NINE HUNDRED|ONE THOUSAND|TWO THOUSAND|THREE THOUSAND|FOUR THOUSAND|FIVE THOUSAND|SIX THOUSAND|SEVEN THOUSAND|EIGHT THOUSAND|NINE THOUSAND|TEN THOUSAND|TWENTY THOUSAND|THIRTY THOUSAND|FORTY THOUSAND|FIFTY THOUSAND|SIXTY THOUSAND|SEVENTY THOUSAND|EIGHTY THOUSAND|NINETY THOUSAND"⟩,
  ⟨0x10137, "AEGEAN ", "WEIGHT BASE UNIT|WEIGHT FIRST SUBUNIT|WEIGHT SECOND SUBUNIT|WEIGHT THIRD SUBUNIT|WEIGHT FOURTH SUBUNIT|DRY MEASURE FIRST SUBUNIT|LIQUID MEASURE FIRST SUBUNIT|MEASURE SECOND SUBUNIT|MEASURE THIRD SUBUNIT"⟩,
  ⟨0x10140, "GREEK ACROPHONIC ATTIC ", "ONE QUARTER|ONE HALF|ONE DRACHMA|FIVE|FIFTY|FIVE HUNDRED|FIVE THOUSAND|FIFTY THOUSAND|FIVE TALENTS|TEN TALENTS|FIFTY TALENTS|ONE HUNDRED TALENTS|FIVE HUNDRED TALENTS|ONE THOUSAND TALENTS|FIVE THOUSAND TALENTS|FIVE STATERS|TEN STATERS|FIFTY STATERS|ONE HUNDRED STATERS|FIVE HUNDRED STATERS|ONE THOUSAND STATERS|TEN THOUSAND STATERS|FIFTY THOUSAND STATERS|TEN MNAS"⟩,
  ⟨0x10158, "GREEK ACROPHONIC ", "HERAEUM ONE PLETHRON|THESPIAN ONE|HERMIONIAN ONE|EPIDAUREAN TWO|THESPIAN TWO|CYRENAIC TWO DRACHMAS|EPIDAUREAN TWO DRACHMAS|TROEZENIAN FIVE|TROEZENIAN TEN|TROEZENIAN TEN ALTERNATE FORM|HERMIONIAN TEN|MESSENIAN TEN|THESPIAN TEN|THESPIAN THIRTY|TROEZENIAN FIFTY|TROEZENIAN FIFTY ALTERNATE FORM|HERMIONIAN FIFTY|THESPIAN FIFTY|THESPIAN ONE HUNDRED|THESPIAN THREE HUNDRED|EPIDAUREAN FIVE HUNDRED|TROEZENIAN FIVE HUNDRED|THESPIAN FIVE HUNDRED|CARYSTIAN FIVE HUNDRED|NAXIAN FIVE HUNDRED|THESPIAN ONE THOUSAND|THESPIAN FIVE THOUSAND|DELPHIC FIVE MNAS|STRATIAN FIFTY MNAS"⟩,
  ⟨0x10175, "GREEK ", "ONE HALF SIGN|ONE HALF SIGN ALTERNATE FORM|TWO THIRDS SIGN|THREE QUARTERS SIGN|YEAR SIGN|TALENT SIGN|DRACHMA SIGN|OBOL SIGN|TWO OBOLS SIGN|THREE OBOLS SIGN|FOUR OBOLS SIGN|FIVE OBOLS SIGN|METRETES SIGN|KYATHOS BASE SIGN|LITRA SIGN|OUNKIA SIGN|XESTES SIGN|ARTABE SIGN|AROURA SIGN|GRAMMA SIGN|TRYBLION BASE SIGN|ZERO SIGN|ONE QUARTER SIGN|SINUSOID SIGN|INDICTION SIGN"⟩,
  ⟨0x1018E, "NOMISMA SIGN", ""⟩,
  ⟨0x10190, "ROMAN ", "SEXTANS SIGN|UNCIA SIGN|SEMUNCIA SIGN|SEXTULA SIGN|DIMIDIA SEXTULA SIGN|SILIQUA SIGN|DENARIUS SIGN|QUINARIUS SIGN|SESTERTIUS SIGN|DUPONDIUS SIGN|AS SIGN|CENTURIAL SIGN"⟩,
  ⟨0x1019C, "ASCIA SYMBOL", ""⟩,
  ⟨0x101A0, "GREEK SYMBOL TAU RHO", ""⟩,
  ⟨0x101D0, "PHAISTOS DISC SIGN ", "PEDESTRIAN|PLUMED HEAD|TATTOOED HEAD|CAPTIVE|CHILD|WOMAN|HELMET|GAUNTLET|TIARA|ARROW|BOW|SHIELD|CLUB|MANACLES|MATTOCK|SAW|LID|BOOMERANG|CARPENTRY PLANE|DOLIUM|COMB|SLING|COLUMN|BEEHIVE|SHIP|HORN|HIDE|BULLS LEG|CAT|RAM|EAGLE|DOVE|TUNNY|BEE|PLANE TREE|VINE|PAPYRUS|ROSETTE|LILY|OX BACK|FLUTE|GRATER|STRAINER|SMALL AXE|WAVY BAND|COMBINING OBLIQUE STROKE"⟩,
  ⟨0x10280, "LYCIAN LETTER ", "A|E|B|BH|G|D|I|W|Z|TH|J|K|Q|L|M|N|MM|NN|U|P|KK|R|S|T|TT|AN|EN|H|X"⟩,
  ⟨0x102A0, "CARIAN LETTER ", "A|P2|D|L|UUU|R|LD|A2|Q|B|M|O|D2|T|SH|SH2|S|C-18|U|NN|X|N|TT2|P|SS|I|E|UUUU|K|K2|ND|UU|G|G2|ST|ST2|NG|II|C-39|TT|UUU2|RR|MB|MB2|MB3|MB4|LD2|E2|UUU3"⟩,
  ⟨0x102E0, "COPTIC EPACT THOUSANDS MARK", ""⟩,
  ⟨0x102E1, "COPTIC EPACT DIGIT ", "ONE|TWO|THREE|FOUR|FIVE|SIX|SEVEN|EIGHT|NINE"⟩,
  ⟨0x102EA, "COPTIC EPACT NUMBER ", "TEN|TWENTY|THIRTY|FORTY|FIFTY|SIXTY|SEVENTY|EIGHTY|NINETY|ONE HUNDRED|TWO HUNDRED|THREE HUNDRED|FOUR HUNDRED|FIVE HUNDRED|SIX HUNDRED|SEVEN HUNDRED|EIGHT HUNDRED|NINE HUNDRED"⟩,
  ⟨0x10300, "OLD ITALIC LETTER ", "A|BE|KE|DE|E|VE|ZE|HE|THE|I|KA|EL|EM|EN|ESH|O|PE|SHE|KU|ER|ES|TE|U|EKS|PHE|KHE|EF|ERS|CHE|II|UU|ESS"⟩,
  ⟨0x10320, "OLD ITALIC NUMERAL ", "ONE|FIVE|TEN|FIFTY"⟩,
  ⟨0x1032D, "OLD ITALIC LETTER ", "YE|NORTHERN TSE|SOUTHERN TSE"⟩,
  ⟨0x10330, "GOTHIC LETTER ", "AHSA|BAIRKAN|GIBA|DAGS|AIHVUS|QAIRTHRA|IUJA|HAGL|THIUTH|EIS|KUSMA|LAGUS|MANNA|NAUTHS|JER|URUS|PAIRTHRA|NINETY|RAIDA|SAUIL|TEIWS|WINJA|FAIHU|IGGWS|HWAIR|OTHAL|NINE HUNDRED"⟩,
  ⟨0x10350, "OLD PERMIC LETTER ", "AN|BUR|GAI|DOI|E|ZHOI|DZHOI|ZATA|DZITA|I|KOKE|LEI|MENOE|NENOE|VOOI|PEEI|REI|SII|TAI|U|CHERY|SHOOI|SHCHOOI|YRY|YERU|O|OO|EF|HA|TSIU|VER|YER|YERI|YAT|IE|YU|YA|IA"⟩,
  ⟨0x10376, "COMBINING OLD PERMIC LETTER ", "AN|DOI|ZATA|NENOE|SII"⟩,
  ⟨0x10380, "UGARITIC LETTER ", "ALPA|BETA|GAMLA|KHA|DELTA|HO|WO|ZETA|HOTA|TET|YOD|KAF|SHIN|LAMDA|MEM|DHAL|NUN|ZU|SAMKA|AIN|PU|SADE|QOPA|RASHA|THANNA|GHAIN|TO|I|U|SSU"⟩,
  ⟨0x1039F, "UGARITIC WORD DIVIDER", ""⟩,
  ⟨0x103A0, "OLD PERSIAN SIGN ", "A|I|U|KA|KU|GA|GU|XA|CA|JA|JI|TA|TU|DA|DI|DU|THA|PA|BA|FA|NA|NU|MA|MI|MU|YA|VA|VI|RA|RU|LA|SA|ZA|SHA|SSA|HA"⟩,
  ⟨0x103C8, "OLD PERSIAN SIGN ", "AURAMAZDAA|AURAMAZDAA-2|AURAMAZDAAHA|XSHAAYATHIYA|DAHYAAUSH|DAHYAAUSH-2|BAGA|BUUMISH"⟩,
  ⟨0x103D0, "OLD PERSIAN ", "WORD DIVIDER|NUMBER ONE|NUMBER TWO|NUMBER TEN|NUMBER TWENTY|NUMBER HUNDRED"⟩,
  ⟨0x10400, "DESERET CAPITAL LETTER ", "LONG I|LONG E|LONG A|LONG AH|LONG O|LONG OO|SHORT I|SHORT E|SHORT A|SHORT AH|SHORT O|SHORT OO|AY|OW|WU|YEE|H|PEE|BEE|TEE|DEE|CHEE|JEE|KAY|GAY|EF|VEE|ETH|THEE|ES|ZEE|ESH|ZHEE|ER|EL|EM|EN|ENG|OI|EW"⟩,
  ⟨0x10428, "DESERET SMALL LETTER ", "LONG I|LONG E|LONG A|LONG AH|LONG O|LONG OO|SHORT I|SHORT E|SHORT A|SHORT AH|SHORT O|SHORT OO|AY|OW|WU|YEE|H|PEE|BEE|TEE|DEE|CHEE|JEE|KAY|GAY|EF|VEE|ETH|THEE|ES|ZEE|ESH|ZHEE|ER|EL|EM|EN|ENG|OI|EW"⟩,
  ⟨0x10450, "SHAVIAN LETTER ", "PEEP|TOT|KICK|FEE|THIGH|SO|SURE|CHURCH|YEA|HUNG|BIB|DEAD|GAG|VOW|THEY|ZOO|MEASURE|JUDGE|WOE|HA-HA|LOLL|MIME|IF|EGG|ASH|ADO|ON|WOOL|OUT|AH|ROAR|NUN|EAT|AGE|ICE|UP|OAK|OOZE|OIL|AWE|ARE|OR|AIR|ERR|ARRAY|EAR|IAN|YEW"⟩,
  ⟨0x10480, "OSMANYA LETTER ", "ALEF|BA|TA|JA|XA|KHA|DEEL|RA|SA|SHIIN|DHA|CAYN|GA|FA|QAAF|KAAF|LAAN|MIIN|NUUN|WAW|HA|YA|A|E|I|O|U|AA|EE|OO"⟩,
  ⟨0x104A0, "OSMANYA DIGIT ", "ZERO|ONE|TWO|THREE|FOUR|FIVE|SIX|SEVEN|EIGHT|NINE"⟩,
  ⟨0x104B0, "OSAGE CAPITAL LETTER ", "A|AI|AIN|AH|BRA|CHA|EHCHA|E|EIN|HA|HYA|I|KA|EHKA|KYA|LA|MA|NA|O|OIN|PA|EHPA|SA|SHA|TA|EHTA|TSA|EHTSA|TSHA|DHA|U|WA|KHA|GHA|ZA|ZHA"⟩,
  ⟨0x104D8, "OSAGE SMALL LETTER ", "A|AI|AIN|AH|BRA|CHA|EHCHA|E|EIN|HA|HYA|I|KA|EHKA|KYA|LA|MA|NA|O|OIN|PA|EHPA|SA|SHA|TA|EHTA|TSA|EHTSA|TSHA|DHA|U|WA|KHA|GHA|ZA|ZHA"⟩,
  ⟨0x10500, "ELBASAN LETTER ", "A|BE|CE|CHE|DE|NDE|DHE|EI|E|FE|GE|GJE|HE|I|JE|KE|LE|LLE|ME|NE|NA|NJE|O|PE|QE|RE|RRE|SE|SHE|TE|THE|U|VE|XE|Y|ZE|ZHE|GHE|GHAMMA|KHE"⟩,
  ⟨0x10530, "CAUCASIAN ALBANIAN LETTER ", "ALT|BET|GIM|DAT|EB|ZARL|EYN|ZHIL|TAS|CHA|YOWD|ZHA|IRB|SHA|LAN|INYA|XEYN|DYAN|CAR|JHOX|KAR|LYIT|HEYT|QAY|AOR|CHOY|CHI|CYAY|MAQ|QAR|NOWC|DZYAY|SHAK|JAYN|ON|TYAY|FAM|DZAY|CHAT|PEN|GHEYS|RAT|SEYK|VEYZ|TIWR|SHOY|IWN|CYAW|CAYN|YAYD|PIWR|KIW"⟩,
  ⟨0x1056F, "CAUCASIAN ALBANIAN CITATION MARK", ""⟩,
  ⟨0x10570, "VITHKUQI CAPITAL LETTER ", "A|BBE|BE|CE|CHE|DE|DHE|EI|E|FE|GA"⟩,
  ⟨0x1057C, "VITHKUQI CAPITAL LETTER ", "HA|HHA|I|IJE|JE|KA|LA|LLA|ME|NE|NJE|O|PE|QA|RE"⟩,
  ⟨0x1058C, "VITHKUQI CAPITAL LETTER ", "SE|SHE|TE|THE|U|VE|XE"⟩,
  ⟨0x10594, "VITHKUQI CAPITAL LETTER ", "Y|ZE"⟩,
  ⟨0x10597, "VITHKUQI SMALL LETTER ", "A|BBE|BE|CE|CHE|DE|DHE|EI|E|FE|GA"⟩,
  ⟨0x105A3, "VITHKUQI SMALL LETTER ", "HA|HHA|I|IJE|JE|KA|LA|LLA|ME|NE|NJE|O|PE|QA|RE"⟩,
  ⟨0x105B3, "VITHKUQI SMALL LETTER ", "SE|SHE|TE|THE|U|VE|XE"⟩,
  ⟨0x105BB, "VITHKUQI SMALL LETTER ", "Y|ZE"⟩,
  ⟨0x10600, "LINEAR A SIGN AB0", "01|02|03|04|05|06|07|08|09|10|11|13|16|17|20|21|21F|21M|22|22F|22M|23|23M|24|26|27|28"⟩,
  ⟨0x1061B, "LINEAR A SIGN A028B", ""⟩,
  ⟨0x1061C, "LINEAR A SIGN AB0", "29|30|31|34|37|38|39|40|41|44|45|46|47|48|49|50|51|53|54|55|56|57|58|59|60|61|65|66|67|69|70|73|74|76|77|78|79|80|81|82|85|86|87"⟩,
  ⟨0x10647, "LINEAR A SIGN A", "100-102|B118|B120|120B|B122|B123|B131A|B131B|131C|B164|B171|B180|B188|B191"⟩,
  ⟨0x10655, "LINEAR A SIGN A3", "01|02|03|04|05|06|07|08|09A|09B|09C|10|11|12|13A|13B|13C|14|15|16|17|18|19|20|21|22|23|24|25|26|27|28|29|30|31|32|33|34|35|36|37|38|39|40|41|42|43|44|45|46|47|48|49|50|51|52|53|54|55|56|57|58|59|60|61|62|63|64|65|66|67|68|69|70|71"⟩,
  ⟨0x106A0, "LINEAR A SIGN A4", "00-VAS|01-VAS|02-VAS|03-VAS|04-VAS|05-VAS|06-VAS|07-VAS|08-VAS|09-VAS|10-VAS|11-VAS|12-VAS|13-VAS|14-VAS|15-VAS|16-VAS|17-VAS|18-VAS"⟩,
  ⟨0x106B3, "LINEAR A SIGN A5", "01|02|03|04|05|06|08|09|10|11|12|13|15|16|20|21|23|24|25|26|27|28|29|30|31|32|34|35|36|37|38|39|40|41|42|45|47|48|49|50|51|52|53|54|55|56|57|59|63|64|65|66|68|69|70|71|72|73|74|75|76|77|78|79|80|81|82|83|84|85|86|87|88|89|91|92|94|95|96|98"⟩,
  ⟨0x10703, "LINEAR A SIGN A6", "00|01|02|03|04|06|08|09|10|11|12|13|14|15|16|17|18|19|20|21|22|23|24|26|27|28|29|34|37|38|40|42|43|44|45|46|48|49|51|52|53|54|55|56|57|58|59|60|61|62|63|64"⟩,
  ⟨0x10740, "LINEAR A SIGN A7", "01 A|02 B|03 D|04 E|05 F|06 H|07 J|08 K|09 L|09-2 L2|09-3 L3|09-4 L4|09-6 L6|10 W|11 X|12 Y|13 OMEGA|14 ABB|15 BB|17 DD|26 EYYY|32 JE"⟩,
  ⟨0x10760, "LINEAR A SIGN A80", "0|1|2|3|4|5|6|7"⟩,
  ⟨0x10780, "MODIFIER LETTER S", "MALL CAPITAL AA|UPERSCRIPT TRIANGULAR COLON|UPERSCRIPT HALF TRIANGULAR COLON|MALL AE|MALL CAPITAL B|MALL B WITH HOOK"⟩,
  ⟨0x10787, "MODIFIER LETTER SMALL ", "DZ DIGRAPH|DZ DIGRAPH WITH RETROFLEX HOOK|DZ DIGRAPH WITH CURL|DEZH DIGRAPH|D WITH TAIL|D WITH HOOK|D WITH HOOK AND TAIL|REVERSED E|CLOSED REVERSED OPEN E|FENG DIGRAPH|RAMS HORN|CAPITAL G|G WITH HOOK|CAPITAL G WITH HOOK|H WITH STROKE|CAPITAL H|HENG WITH HOOK|DOTLESS J WITH STROKE AND HOOK|LS DIGRAPH|LZ DIGRAPH|L WITH BELT|CAPITAL L WITH BELT|L WITH RETROFLEX HOOK AND BELT|LEZH|LEZH WITH RETROFLEX HOOK|TURNED Y|TURNED Y WITH BELT|O WITH STROKE|CAPITAL OE|CLOSED OMEGA|Q|TURNED R WITH LONG LEG|TURNED R WITH LONG LEG AND RETROFLEX HOOK|R WITH TAIL|R WITH FISHHOOK|CAPITAL R|TC DIGRAPH WITH CURL|TS DIGRAPH|TS DIGRAPH WITH RETROFLEX HOOK|TESH DIGRAPH|T WITH RETROFLEX HOOK|V WITH RIGHT HOOK"⟩,
  ⟨0x107B2, "MODIFIER LETTER ", "SMALL CAPITAL Y|GLOTTAL STOP WITH STROKE|REVERSED GLOTTAL STOP WITH STROKE|BILABIAL CLICK|DENTAL CLICK|LATERAL CLICK|ALVEOLAR CLICK|RETROFLEX CLICK WITH RETROFLEX HOOK|SMALL S WITH CURL"⟩,
  ⟨0x10800, "CYPRIOT SYLLABLE ", "A|E|I|O|U|JA"⟩,
  ⟨0x10808, "CYPRIOT SYLLABLE JO", ""⟩,
  ⟨0x1080A, "CYPRIOT SYLLABLE ", "KA|KE|KI|KO|KU|LA|LE|LI|LO|LU|MA|ME|MI|MO|MU|NA|NE|NI|NO|NU|PA|PE|PI|PO|PU|RA|RE|RI|RO|RU|SA|SE|SI|SO|SU|TA|TE|TI|TO|TU|WA|WE|WI|WO"⟩,
  ⟨0x10837, "CYPRIOT SYLLABLE X", "A|E"⟩,
  ⟨0x1083C, "CYPRIOT SYLLABLE ZA", ""⟩,
  ⟨0x1083F, "CYPRIOT SYLLABLE ZO", ""⟩,
  ⟨0x10840, "IMPERIAL ARAMAIC LETTER ", "ALEPH|BETH|GIMEL|DALETH|HE|WAW|ZAYIN|HETH|TETH|YODH|KAPH|LAMEDH|MEM|NUN|SAMEKH|AYIN|PE|SADHE|QOPH|RESH|SHIN|TAW"⟩,
  ⟨0x10857, "IMPERIAL ARAMAIC SECTION SIGN", ""⟩,
  ⟨0x10858, "IMPERIAL ARAMAIC NUMBER ", "ONE|TWO|THREE|TEN|TWENTY|ONE HUNDRED|ONE THOUSAND|TEN THOUSAND"⟩,
  ⟨0x10860, "PALMYRENE LETTER ", "ALEPH|BETH|GIMEL|DALETH|HE|WAW|ZAYIN|HETH|TETH|YODH|KAPH|LAMEDH|MEM|FINAL NUN|NUN|SAMEKH|AYIN|PE|SADHE|QOPH|RESH|SHIN|TAW"⟩,
  ⟨0x10877, "PALMYRENE ", "LEFT-POINTING FLEURON|RIGHT-POINTING FLEURON"⟩,
  ⟨0x10879, "PALMYRENE NUMBER ", "ONE|TWO|THREE|FOUR|FIVE|TEN|TWENTY"⟩,
  ⟨0x10880, "NABATAEAN LETTER ", "FINAL ALEPH|ALEPH|FINAL BETH|BETH|GIMEL|DALETH|FINAL HE|HE|WAW|ZAYIN|HETH|TETH|FINAL YODH|YODH|FINAL KAPH|KAPH|FINAL LAMEDH|LAMEDH|FINAL MEM|MEM|FINAL NUN|NUN|SAMEKH|AYIN|PE|SADHE|QOPH|RESH|FINAL SHIN|SHIN|TAW"⟩,
  ⟨0x108A7, "NABATAEAN ", "NUMBER ONE|NUMBER TWO|NUMBER THREE|NUMBER FOUR|CRUCIFORM NUMBER FOUR|NUMBER FIVE|NUMBER TEN|NUMBER TWENTY|NUMBER ONE HUNDRED"⟩,
  ⟨0x108E0, "HATRAN LETTER ", "ALEPH|BETH|GIMEL|DALETH-RESH|HE|WAW|ZAYN|HETH|TETH|YODH|KAPH|LAMEDH|MEM|NUN|SAMEKH|AYN|PE|SADHE|QOPH"⟩,
  ⟨0x108F4, "HATRAN LETTER ", "SHIN|TAW"⟩,
  ⟨0x108FB, "HATRAN NUMBER ", "ONE|FIVE|TEN|TWENTY|ONE HUNDRED"⟩,
  ⟨0x10900, "PHOENICIAN LETTER ", "ALF|BET|GAML|DELT|HE|WAU|ZAI|HET|TET|YOD|KAF|LAMD|MEM|NUN|SEMK|AIN|PE|SADE|QOF|ROSH|SHIN|TAU"⟩,
  ⟨0x10916, "PHOENICIAN NUMBER ", "ONE|TEN|TWENTY|ONE HUNDRED|TWO|THREE"⟩,
  ⟨0x1091F, "PHOENICIAN WORD SEPARATOR", ""⟩,
  ⟨0x10920, "LYDIAN LETTER ", "A|B|G|D|E|V|I|Y|K|L|M|N|O|R|SS|T|U|F|Q|S|TT|AN|EN|LY|NN|C"⟩,
  ⟨0x1093F, "LYDIAN TRIANGULAR MARK", ""⟩,
  ⟨0x10980, "MEROITIC HIEROGLYPHIC LETTER ", "A|E|I|O|YA|WA|BA|BA-2|PA|MA|NA|NA-2|NE|NE-2|RA|RA-2|LA|KHA|HHA|SA|SA-2|SE|KA|QA|TA|TA-2|TE|TE-2|TO|DA"⟩,
  ⟨0x1099E, "MEROITIC HIEROGLYPHIC SYMBOL VIDJ", "|-2"⟩,
  ⟨0x109A0, "MEROITIC CURSIVE LETTER ", "A|E|I|O|YA|WA|BA|PA|MA|NA|NE|RA|LA|KHA|HHA|SA|ARCHAIC SA|SE|KA|QA|TA|TE|TO|DA"⟩,
  ⟨0x109BC, "MEROITIC CURSIVE ", "FRACTION ELEVEN TWELFTHS|FRACTION ONE HALF|LOGOGRAM RMT|LOGOGRAM IMN"⟩,
  ⟨0x109C0, "MEROITIC CURSIVE NUMBER ", "ONE|TWO|THREE|FOUR|FIVE|SIX|SEVEN|EIGHT|NINE|TEN|TWENTY|THIRTY|FORTY|FIFTY|SIXTY|SEVENTY"⟩,
  ⟨0x109D2, "MEROITIC CURSIVE NUMBER ", "ONE HUNDRED|TWO HUNDRED|THREE HUNDRED|FOUR HUNDRED|FIVE HUNDRED|SIX HUNDRED|SEVEN HUNDRED|EIGHT HUNDRED|NINE HUNDRED|ONE THOUSAND|TWO THOUSAND|THREE THOUSAND|FOUR THOUSAND|FIVE THOUSAND|SIX THOUSAND|SEVEN THOUSAND|EIGHT THOUSAND|NINE THOUSAND|TEN THOUSAND|TWENTY THOUSAND|THIRTY THOUSAND|FORTY THOUSAND|FIFTY THOUSAND|SIXTY THOUSAND|SEVENTY THOUSAND|EIGHTY THOUSAND|NINETY THOUSAND|ONE HUNDRED THOUSAND|TWO HUNDRED THOUSAND|THREE HUNDRED THOUSAND|FOUR HUNDRED THOUSAND|FIVE HUNDRED THOUSAND|SIX HUNDRED THOUSAND|SEVEN HUNDRED THOUSAND|EIGHT HUNDRED THOUSAND|NINE HUNDRED THOUSAND"⟩,
  ⟨0x109F6, "MEROITIC CURSIVE FRACTION ", "ONE TWELFTH|TWO TWELFTHS|THREE TWELFTHS|FOUR TWELFTHS|FIVE TWELFTHS|SIX TWELFTHS|SEVEN TWELFTHS|EIGHT TWELFTHS|NINE TWELFTHS|TEN TWELFTHS"⟩,
  ⟨0x10A00, "KHAROSHTHI ", "LETTER A|VOWEL SIGN I|VOWEL SIGN U|VOWEL SIGN VOCALIC R"⟩,
  ⟨0x10A05, "KHAROSHTHI VOWEL SIGN ", "E|O"⟩,
  ⟨0x10A0C, "KHAROSHTHI ", "VOWEL LENGTH MARK|SIGN DOUBLE RING BELOW|SIGN ANUSVARA|SIGN VISARGA|LETTER KA|LETTER KHA|LETTER GA|LETTER GHA"⟩,
  ⟨0x10A15, "KHAROSHTHI LETTER ", "CA|CHA|JA"⟩,
  ⟨0x10A19, "KHAROSHTHI LETTER ", "NYA|TTA|TTHA|DDA|DDHA|NNA|TA|THA|DA|DHA|NA|PA|PHA|BA|BHA|MA|YA|RA|LA|VA|SHA|SSA|SA|ZA|HA|KKA|TTTHA|TTTA|VHA"⟩,
  ⟨0x10A38, "KHAROSHTHI SIGN ", "BAR ABOVE|CAUDA|DOT BELOW"⟩,
  ⟨0x10A3F, "KHAROSHTHI ", "VIRAMA|DIGIT ONE|DIGIT TWO|DIGIT THREE|DIGIT FOUR|NUMBER TEN|NUMBER TWENTY|NUMBER ONE HUNDRED|NUMBER ONE THOUSAND|FRACTION ONE HALF"⟩,
  ⟨0x10A50, "KHAROSHTHI PUNCTUATION ", "DOT|SMALL CIRCLE|CIRCLE|CRESCENT BAR|MANGALAM|LOTUS|DANDA|DOUBLE DANDA|LINES"⟩,
  ⟨0x10A60, "OLD SOUTH ARABIAN LETTER ", "HE|LAMEDH|HETH|MEM|QOPH|WAW|SHIN|RESH|BETH|TAW|SAT|KAPH|NUN|KHETH|SADHE|SAMEKH|FE|ALEF|AYN|DHADHE|GIMEL|DALETH|GHAYN|TETH|ZAYN|DHALETH|YODH|THAW|THETH"⟩,
  ⟨0x10A7D, "OLD SOUTH ARABIAN NUM", "BER ONE|BER FIFTY|ERIC INDICATOR"⟩,
  ⟨0x10A80, "OLD NORTH ARABIAN LETTER ", "HEH|LAM|HAH|MEEM|QAF|WAW|ES-2|REH|BEH|TEH|ES-1|KAF|NOON|KHAH|SAD|ES-3|FEH|ALEF|AIN|DAD|GEEM|DAL|GHAIN|TAH|ZAIN|THAL|YEH|THEH|ZAH"⟩,
  ⟨0x10A9D, "OLD NORTH ARABIAN NUMBER ", "ONE|TEN|TWENTY"⟩,
  ⟨0x10AC0, "MANICHAEAN LETTER ", "ALEPH|BETH|BHETH|GIMEL|GHIMEL|DALETH|HE|WAW"⟩,
  ⟨0x10AC8, "MANICHAEAN SIGN UD", ""⟩,
  ⟨0x10AC9, "MANICHAEAN LETTER ", "ZAYIN|ZHAYIN|JAYIN|JHAYIN|HETH|TETH|YODH|KAPH|XAPH|KHAPH|LAMEDH|DHAMEDH|THAMEDH|MEM|NUN|SAMEKH|AYIN|AAYIN|PE|FE|SADHE|QOPH|XOPH|QHOPH|RESH|SHIN|SSHIN|TAW"⟩,
  ⟨0x10AE5, "MANICHAEAN ABBREVIATION MARK ", "ABOVE|BELOW"⟩,
  ⟨0x10AEB, "MANICHAEAN NUMBER ", "ONE|FIVE|TEN|TWENTY|ONE HUNDRED"⟩,
  ⟨0x10AF0, "MANICHAEAN PUNCTUATION ", "STAR|FLEURON|DOUBLE DOT WITHIN DOT|DOT WITHIN DOT|DOT|TWO DOTS|LINE FILLER"⟩,
  ⟨0x10B00, "AVESTAN LETTER ", "A|AA|AO|AAO|AN|AAN|AE|AEE|E|EE|O|OO|I|II|U|UU|KE|XE|XYE|XVE|GE|GGE|GHE|CE|JE|TE|THE|DE|DHE|TTE|PE|FE|BE|BHE|NGE|NGYE|NGVE|NE|NYE|NNE|ME|HME|YYE|YE|VE|RE|LE|SE|ZE|SHE|ZHE|SHYE|SSHE|HE"⟩,
  ⟨0x10B39, "", "AVESTAN ABBREVIATION MARK|TINY TWO DOTS OVER ONE DOT PUNCTUATION|SMALL TWO DOTS OVER ONE DOT PUNCTUATION|LARGE TWO DOTS OVER ONE DOT PUNCTUATION|LARGE ONE DOT OVER TWO DOTS PUNCTUATION|LARGE TWO RINGS OVER ONE RING PUNCTUATION|LARGE ONE RING OVER TWO RINGS PUNCTUATION"⟩,
  ⟨0x10B40, "INSCRIPTIONAL PARTHIAN LETTER ", "ALEPH|BETH|GIMEL|DALETH|HE|WAW|ZAYIN|HETH|TETH|YODH|KAPH|LAMEDH|MEM|NUN|SAMEKH|AYIN|PE|SADHE|QOPH|RESH|SHIN|TAW"⟩,
  ⟨0x10B58, "INSCRIPTIONAL PARTHIAN NUMBER ", "ONE|TWO|THREE|FOUR|TEN|TWENTY|ONE HUNDRED|ONE THOUSAND"⟩,
  ⟨0x10B60, "INSCRIPTIONAL PAHLAVI LETTER ", "ALEPH|BETH|GIMEL|DALETH|HE|WAW-AYIN-RESH|ZAYIN|HETH|TETH|YODH|KAPH|LAMEDH|MEM-QOPH|NUN|SAMEKH|PE|SADHE|SHIN|TAW"⟩,
  ⟨0x10B78, "INSCRIPTIONAL PAHLAVI NUMBER ", "ONE|TWO|THREE|FOUR|TEN|TWENTY|ONE HUNDRED|ONE THOUSAND"⟩,
  ⟨0x10B80, "PSALTER PAHLAVI LETTER ", "ALEPH|BETH|GIMEL|DALETH|HE|WAW-AYIN-RESH|ZAYIN|HETH|YODH|KAPH|LAMEDH|MEM-QOPH|NUN|SAMEKH|PE|SADHE|SHIN|TAW"⟩,
  ⟨0x10B99, "PSALTER PAHLAVI ", "SECTION MARK|TURNED SECTION MARK|FOUR DOTS WITH CROSS|FOUR DOTS WITH DOT"⟩,
  ⟨0x10BA9, "PSALTER PAHLAVI NUMBER ", "ONE|TWO|THREE|FOUR|TEN|TWENTY|ONE HUNDRED"⟩,
  ⟨0x10C00, "OLD TURKIC LETTER ", "ORKHON A|YENISEI A|YENISEI AE|ORKHON I|YENISEI I|YENISEI E|ORKHON O|ORKHON OE|YENISEI OE|ORKHON AB|YENISEI AB|ORKHON AEB|YENISEI AEB|ORKHON AG|YENISEI AG|ORKHON AEG|YENISEI AEG|ORKHON AD|YENISEI AD|ORKHON AED|ORKHON EZ|YENISEI EZ|ORKHON AY|YENISEI AY|ORKHON AEY|YENISEI AEY|ORKHON AEK|YENISEI AEK|ORKHON OEK|YENISEI OEK|ORKHON AL|YENISEI AL|ORKHON AEL|ORKHON ELT|ORKHON EM|ORKHON AN|ORKHON AEN|YENISEI AEN|ORKHON ENT|YENISEI ENT|ORKHON ENC|YENISEI ENC|ORKHON ENY|YENISEI ENY|YENISEI ANG|ORKHON ENG|YENISEI AENG|ORKHON EP|ORKHON OP|ORKHON IC|ORKHON EC|YENISEI EC|ORKHON AQ|YENISEI AQ|ORKHON IQ|YENISEI IQ|ORKHON OQ|YENISEI OQ|ORKHON AR|YENISEI AR|ORKHON AER|ORKHON AS|ORKHON AES|ORKHON ASH|YENISEI ASH|ORKHON ESH|YENISEI ESH|ORKHON AT|YENISEI AT|ORKHON AET|YENISEI AET|ORKHON OT|ORKHON BASH"⟩,
  ⟨0x10C80, "OLD HUNGARIAN CAPITAL LETTER ", "A|AA|EB|AMB|EC|ENC|ECS|ED|AND|E|CLOSE E|EE|EF|EG|EGY|EH|I|II|EJ|EK|AK|UNK|EL|ELY|EM|EN|ENY|O|OO|NIKOLSBURG OE|RUDIMENTA OE|OEE|EP|EMP|ER|SHORT ER|ES|ESZ|ET|ENT|ETY|ECH|U|UU|NIKOLSBURG UE|RUDIMENTA UE|EV|EZ|EZS|ENT-SHAPED SIGN|US"⟩,
  ⟨0x10CC0, "OLD HUNGARIAN SMALL LETTER ", "A|AA|EB|AMB|EC|ENC|ECS|ED|AND|E|CLOSE E|EE|EF|EG|EGY|EH|I|II|EJ|EK|AK|UNK|EL|ELY|EM|EN|ENY|O|OO|NIKOLSBURG OE|RUDIMENTA OE|OEE|EP|EMP|ER|SHORT ER|ES|ESZ|ET|ENT|ETY|ECH|U|UU|NIKOLSBURG UE|RUDIMENTA UE|EV|EZ|EZS|ENT-SHAPED SIGN|US"⟩,
  ⟨0x10CFA, "OLD HUNGARIAN NUMBER ", "ONE|FIVE|TEN|FIFTY|ONE HUNDRED|ONE THOUSAND"⟩,
  ⟨0x10D00, "HANIFI ROHINGYA LETTER ", "A|BA|PA|TA|TTA|JA|CA|HA|KHA|FA|DA|DDA|RA|RRA|ZA|SA|SHA|KA|GA|LA|MA|NA|WA|KINNA WA|YA|KINNA YA|NGA|NYA|VA"⟩,
  ⟨0x10D1D, "HANIFI ROHINGYA ", "VOWEL A|VOWEL I|VOWEL U|VOWEL E|VOWEL O|MARK SAKIN|MARK NA KHONNA|SIGN HARBAHAY|SIGN TAHALA|SIGN TANA|SIGN TASSI"⟩,
  ⟨0x10D30, "HANIFI ROHINGYA DIGIT ", "ZERO|ONE|TWO|THREE|FOUR|FIVE|SIX|SEVEN|EIGHT|NINE"⟩,
  ⟨0x10E60, "RUMI DIGIT ", "ONE|TWO|THREE|FOUR|FIVE|SIX|SEVEN|EIGHT|NINE"⟩,
  ⟨0x10E69, "RUMI NUMBER ", "TEN|TWENTY|THIRTY|FORTY|FIFTY|SIXTY|SEVENTY|EIGHTY|NINETY|ONE HUNDRED|TWO HUNDRED|THREE HUNDRED|FOUR HUNDRED|FIVE HUNDRED|SIX HUNDRED|SEVEN HUNDRED|EIGHT HUNDRED|NINE HUNDRED"⟩,
  ⟨0x10E7B, "RUMI FRACTION ", "ONE HALF|ONE QUARTER|ONE THIRD|TWO THIRDS"⟩,
  ⟨0x10E80, "YEZIDI LETTER ", "ELIF|BE|PE|PHE|THE|SE|CIM|CHIM|CHHIM|HHA|XA|DAL|ZAL|RA|RHA|ZA|JA|SIN|SHIN|SAD|DAD|TA|ZE|EYN|XHEYN|FA|VA|VA ALTERNATE FORM|QAF|KAF|KHAF|GAF|LAM|MIM|NUN|UM|WAW|OW|EW|HAY|YOT|ET"⟩,
  ⟨0x10EAB, "YEZIDI ", "COMBINING HAMZA MARK|COMBINING MADDA MARK|HYPHENATION MARK"⟩,
  ⟨0x10EB0, "YEZIDI LETTER ", "LAM WITH DOT ABOVE|YOT WITH CIRCUMFLEX ABOVE"⟩,
  ⟨0x10F00, "OLD SOGDIAN LETTER ", "ALEPH|FINAL ALEPH|BETH|FINAL BETH|GIMEL|HE|FINAL HE|WAW|ZAYIN|HETH|YODH|KAPH|LAMEDH|MEM|NUN|FINAL NUN|FINAL NUN WITH VERTICAL TAIL|SAMEKH|AYIN|ALTERNATE AYIN|PE|SADHE|FINAL SADHE|FINAL SADHE WITH VERTICAL TAIL|RESH-AYIN-DALETH|SHIN|TAW|FINAL TAW|FINAL TAW WITH VERTICAL TAIL"⟩,
  ⟨0x10F1D, "OLD SOGDIAN NUMBER ", "ONE|TWO|THREE|FOUR|FIVE|TEN|TWENTY|THIRTY|ONE HUNDRED"⟩,
  ⟨0x10F26, "OLD SOGDIAN ", "FRACTION ONE HALF|LIGATURE AYIN-DALETH"⟩,
  ⟨0x10F30, "SOGDIAN LETTER ", "ALEPH|BETH|GIMEL|HE|WAW|ZAYIN|HETH|YODH|KAPH|LAMEDH|MEM|NUN|SAMEKH|AYIN|PE|SADHE|RESH-AYIN|SHIN|TAW|FETH|LESH"⟩,
  ⟨0x10F45, "SOGDIAN INDEPENDENT SHIN", ""⟩,
  ⟨0x10F46, "SOGDIAN COMBINING ", "DOT BELOW|TWO DOTS BELOW|DOT ABOVE|TWO DOTS ABOVE|CURVE ABOVE|CURVE BELOW|HOOK ABOVE|HOOK BELOW|LONG HOOK BELOW|RESH BELOW|STROKE BELOW"⟩,
  ⟨0x10F51, "SOGDIAN NUMBER ", "ONE|TEN|TWENTY|ONE HUNDRED"⟩,
  ⟨0x10F55, "SOGDIAN PUNCTUATION ", "TWO VERTICAL BARS|TWO VERTICAL BARS WITH DOTS|CIRCLE WITH DOT|TWO CIRCLES WITH DOTS|HALF CIRCLE WITH DOT"⟩,
  ⟨0x10F70, "OLD UYGHUR LETTER ", "ALEPH|BETH|GIMEL-HETH|WAW|ZAYIN|FINAL HETH|YODH|KAPH|LAMEDH|MEM|NUN|SAMEKH|PE|SADHE|RESH|SHIN|TAW|LESH"⟩,
  ⟨0x10F82, "OLD UYGHUR COMBINING ", "DOT ABOVE|DOT BELOW|TWO DOTS ABOVE|TWO DOTS BELOW"⟩,
  ⟨0x10F86, "OLD UYGHUR PUNCTUATION ", "BAR|TWO BARS|TWO DOTS|FOUR DOTS"⟩,
  ⟨0x10FB0, "CHORASMIAN LETTER ", "ALEPH|SMALL ALEPH|BETH|GIMEL|DALETH|HE|WAW|CURLED WAW|ZAYIN|HETH|YODH|KAPH|LAMEDH|MEM|NUN|SAMEKH|AYIN|PE|RESH|SHIN|TAW"⟩,
  ⟨0x10FC5, "CHORASMIAN NUMBER ", "ONE|TWO|THREE|FOUR|TEN|TWENTY|ONE HUNDRED"⟩,
  ⟨0x10FE0, "ELYMAIC LETTER ", "ALEPH|BETH|GIMEL|DALETH|HE|WAW|ZAYIN|HETH|TETH|YODH|KAPH|LAMEDH|MEM|NUN|SAMEKH|AYIN|PE|SADHE|QOPH|RESH|SHIN|TAW"⟩,
  ⟨0x10FF6, "ELYMAIC LIGATURE ZAYIN-YODH", ""⟩,
  ⟨0x11000, "BRAHMI SIGN ", "CANDRABINDU|ANUSVARA|VISARGA|JIHVAMULIYA|UPADHMANIYA"⟩,
  ⟨0x11005, "BRAHMI LETTER ", "A|AA|I|II|U|UU|VOCALIC R|VOCALIC RR|VOCALIC L|VOCALIC LL|E|AI|O|AU|KA|KHA|GA|GHA|NGA|CA|CHA|JA|JHA|NYA|TTA|TTHA|DDA|DDHA|NNA|TA|THA|DA|DHA|NA|PA|PHA|BA|BHA|MA|YA|RA|LA|VA|SHA|SSA|SA|HA|LLA|OLD TAMIL LLLA|OLD TAMIL RRA|OLD TAMIL NNNA"⟩,
  ⟨0x11038, "BRAHMI VOWEL SIGN ", "AA|BHATTIPROLU AA|I|II|U|UU|VOCALIC R|VOCALIC RR|VOCALIC L|VOCALIC LL|E|AI|O|AU"⟩,
  ⟨0x11046, "BRAHMI ", "VIRAMA|DANDA|DOUBLE DANDA"⟩,
  ⟨0x11049, "BRAHMI PUNCTUATION ", "DOT|DOUBLE DOT|LINE|CRESCENT BAR|LOTUS"⟩,
  ⟨0x11052, "BRAHMI NUMBER ", "ONE|TWO|THREE|FOUR|FIVE|SIX|SEVEN|EIGHT|NINE|TEN|TWENTY|THIRTY|FORTY|FIFTY|SIXTY|SEVENTY|EIGHTY|NINETY|ONE HUNDRED|ONE THOUSAND"⟩,
  ⟨0x11066, "BRAHMI DIGIT ", "ZERO|ONE|TWO|THREE|FOUR|FIVE|SIX|SEVEN|EIGHT|NINE"⟩,
  ⟨0x11070, "BRAHMI ", "SIGN OLD TAMIL VIRAMA|LETTER OLD TAMIL SHORT E|LETTER OLD TAMIL SHORT O|VOWEL SIGN OLD TAMIL SHORT E|VOWEL SIGN OLD TAMIL SHORT O|LETTER OLD TAMIL LLA"⟩,
  ⟨0x1107F, "BRAHMI NUMBER JOINER", ""⟩,
  ⟨0x11080, "KAITHI SIGN ", "CANDRABINDU|ANUSVARA|VISARGA"⟩,
  ⟨0x11083, "KAITHI LETTER ", "A|AA|I|II|U|UU|E|AI|O|AU|KA|KHA|GA|GHA|NGA|CA|CHA|JA|JHA|NYA|TTA|TTHA|DDA|DDDHA|DDHA|RHA|NNA|TA|THA|DA|DHA|NA|PA|PHA|BA|BHA|MA|YA|RA|LA|VA|SHA|SSA|SA|HA"⟩,
  ⟨0x110B0, "KAITHI VOWEL SIGN ", "AA|I|II|U|UU|E|AI|O|AU"⟩,
  ⟨0x110B9, "KAITHI ", "SIGN VIRAMA|SIGN NUKTA|ABBREVIATION SIGN|ENUMERATION SIGN|NUMBER SIGN|SECTION MARK|DOUBLE SECTION MARK|DANDA|DOUBLE DANDA|VOWEL SIGN VOCALIC R"⟩,
  ⟨0x110CD, "KAITHI NUMBER SIGN ABOVE", ""⟩,
  ⟨0x110D0, "SORA SOMPENG LETTER ", "SAH|TAH|BAH|CAH|DAH|GAH|MAH|NGAH|LAH|NAH|VAH|PAH|YAH|RAH|HAH|KAH|JAH|NYAH|AH|EEH|IH|UH|OH|EH|MAE"⟩,
  ⟨0x110F0, "SORA SOMPENG DIGIT ", "ZERO|ONE|TWO|THREE|FOUR|FIVE|SIX|SEVEN|EIGHT|NINE"⟩,
  ⟨0x11100, "CHAKMA SIGN ", "CANDRABINDU|ANUSVARA|VISARGA"⟩,
  ⟨0x11103, "CHAKMA LETTER ", "AA|I|U|E|KAA|KHAA|GAA|GHAA|NGAA|CAA|CHAA|JAA|JHAA|NYAA|TTAA|TTHAA|DDAA|DDHAA|NNAA|TAA|THAA|DAA|DHAA|NAA|PAA|PHAA|BAA|BHAA|MAA|YYAA|YAA|RAA|LAA|WAA|SAA|HAA"⟩,
  ⟨0x11127, "CHAKMA VOWEL SIGN ", "A|I|II|U|UU|E|AI|O|AU|OI"⟩,
  ⟨0x11131, "CHAKMA ", "O MARK|AU MARK|VIRAMA|MAAYYAA"⟩,
  ⟨0x11136, "CHAKMA DIGIT ", "ZERO|ONE|TWO|THREE|FOUR|FIVE|SIX|SEVEN|EIGHT|NINE"⟩,
  ⟨0x11140, "CHAKMA ", "SECTION MARK|DANDA|DOUBLE DANDA|QUESTION MARK|LETTER LHAA|VOWEL SIGN AA|VOWEL SIGN EI|LETTER VAA"⟩,
  ⟨0x11150, "MAHAJANI LETTER ", "A|I|U|E|O|KA|KHA|GA|GHA|CA|CHA|JA|JHA|NYA|TTA|TTHA|DDA|DDHA|NNA|TA|THA|DA|DHA|NA|PA|PHA|BA|BHA|MA|RA|LA|VA|SA|HA|RRA"⟩,
  ⟨0x11173, "MAHAJANI ", "SIGN NUKTA|ABBREVIATION SIGN|SECTION MARK|LIGATURE SHRI"⟩,
  ⟨0x11180, "SHARADA SIGN ", "CANDRABINDU|ANUSVARA|VISARGA"⟩,
  ⟨0x11183, "SHARADA LETTER ", "A|AA|I|II|U|UU|VOCALIC R|VOCALIC RR|VOCALIC L|VOCALIC LL|E|AI|O|AU|KA|KHA|GA|GHA|NGA|CA|CHA|JA|JHA|NYA|TTA|TTHA|DDA|DDHA|NNA|TA|THA|DA|DHA|NA|PA|PHA|BA|BHA|MA|YA|RA|LA|LLA|VA|SHA|SSA|SA|HA"⟩,
  ⟨0x111B3, "SHARADA VOWEL SIGN ", "AA|I|II|U|UU|VOCALIC R|VOCALIC RR|VOCALIC L|VOCALIC LL|E|AI|O|AU"⟩,
  ⟨0x111C0, "SHARADA ", "SIGN VIRAMA|SIGN AVAGRAHA|SIGN JIHVAMULIYA|SIGN UPADHMANIYA|OM|DANDA|DOUBLE DANDA|ABBREVIATION SIGN|SEPARATOR|SANDHI MARK|SIGN NUKTA|VOWEL MODIFIER MARK|EXTRA SHORT VOWEL MARK|SUTRA MARK|VOWEL SIGN PRISHTHAMATRA E|SIGN INVERTED CANDRABINDU|DIGIT ZERO|DIGIT ONE|DIGIT TWO|DIGIT THREE|DIGIT FOUR|DIGIT FIVE|DIGIT SIX|DIGIT SEVEN|DIGIT EIGHT|DIGIT NINE|EKAM|SIGN SIDDHAM|HEADSTROKE|CONTINUATION SIGN|SECTION MARK-1|SECTION MARK-2"⟩,
  ⟨0x111E1, "SINHALA ARCHAIC DIGIT ", "ONE|TWO|THREE|FOUR|FIVE|SIX|SEVEN|EIGHT|NINE"⟩,
  ⟨0x111EA, "SINHALA ARCHAIC NUMBER ", "TEN|TWENTY|THIRTY|FORTY|FIFTY|SIXTY|SEVENTY|EIGHTY|NINETY|ONE HUNDRED|ONE THOUSAND"⟩,
  ⟨0x11200, "KHOJKI LETTER ", "A|AA|I|U|E|AI|O|AU|KA|KHA|GA|GGA|GHA|NGA|CA|CHA|JA|JJA"⟩,
  ⟨0x11213, "KHOJKI LETTER ", "NYA|TTA|TTHA|DDA|DDHA|NNA|TA|THA|DA|DDDA|DHA|NA|PA|PHA|BA|BBA|BHA|MA|YA|RA|LA|VA|SA|HA|LLA"⟩,
  ⟨0x1122C, "KHOJKI VOWEL SIGN ", "AA|I|II|U|E|AI|O|AU"⟩,
  ⟨0x11234, "KHOJKI ", "SIGN ANUSVARA|SIGN VIRAMA|SIGN NUKTA|SIGN SHADDA|DANDA|DOUBLE DANDA|WORD SEPARATOR|SECTION MARK|DOUBLE SECTION MARK|ABBREVIATION SIGN|SIGN SUKUN"⟩,
  ⟨0x11280, "MULTANI LETTER ", "A|I|U|E|KA|KHA|GA"⟩,
  ⟨0x11288, "MULTANI LETTER GHA", ""⟩,
  ⟨0x1128A, "MULTANI LETTER ", "CA|CHA|JA|JJA"⟩,
  ⟨0x1128F, "MULTANI LETTER ", "NYA|TTA|TTHA|DDA|DDDA|DDHA|NNA|TA|THA|DA|DHA|NA|PA|PHA|BA"⟩,
  ⟨0x1129F, "MULTANI LETTER ", "BHA|MA|YA|RA|LA|VA|SA|HA|RRA|RHA"⟩,
  ⟨0x112A9, "MULTANI SECTION MARK", ""⟩,
  ⟨0x112B0, "KHUDAWADI LETTER ", "A|AA|I|II|U|UU|E|AI|O|AU|KA|KHA|GA|GGA|GHA|NGA|CA|CHA|JA|JJA|JHA|NYA|TTA|TTHA|DDA|DDDA|RRA|DDHA|NNA|TA|THA|DA|DHA|NA|PA|PHA|BA|BBA|BHA|MA|YA|RA|LA|VA|SHA|SA|HA"⟩,
  ⟨0x112DF, "KHUDAWADI SIGN ANUSVARA", ""⟩,
  ⟨0x112E0, "KHUDAWADI VOWEL SIGN ", "AA|I|II|U|UU|E|AI|O|AU"⟩,
  ⟨0x112E9, "KHUDAWADI SIGN ", "NUKTA|VIRAMA"⟩,
  ⟨0x112F0, "KHUDAWADI DIGIT ", "ZERO|ONE|TWO|THREE|FOUR|FIVE|SIX|SEVEN|EIGHT|NINE"⟩,
  ⟨0x11300, "GRANTHA SIGN ", "COMBINING ANUSVARA ABOVE|CANDRABINDU|ANUSVARA|VISARGA"⟩,
  ⟨0x11305, "GRANTHA LETTER ", "A|AA|I|II|U|UU|VOCALIC R|VOCALIC L"⟩,
  ⟨0x1130F, "GRANTHA LETTER ", "EE|AI"⟩,
  ⟨0x11313, "GRANTHA LETTER ", "OO|AU|KA|KHA|GA|GHA|NGA|CA|CHA|JA|JHA|NYA|TTA|TTHA|DDA|DDHA|NNA|TA|THA|DA|DHA|NA"⟩,
  ⟨0x1132A, "GRANTHA LETTER ", "PA|PHA|BA|BHA|MA|YA|RA"⟩,
  ⟨0x11332, "GRANTHA LETTER L", "A|LA"⟩,
  ⟨0x11335, "GRANTHA LETTER ", "VA|SHA|SSA|SA|HA"⟩,
  ⟨0x1133B, "", "COMBINING BINDU BELOW|GRANTHA SIGN NUKTA|GRANTHA SIGN AVAGRAHA"⟩,
  ⟨0x1133E, "GRANTHA VOWEL SIGN ", "AA|I|II|U|UU|VOCALIC R|VOCALIC RR"⟩,
  ⟨0x11347, "GRANTHA VOWEL SIGN ", "EE|AI"⟩,
  ⟨0x1134B, "GRANTHA ", "VOWEL SIGN OO|VOWEL SIGN AU|SIGN VIRAMA"⟩,
  ⟨0x11350, "GRANTHA OM", ""⟩,
  ⟨0x11357, "GRANTHA AU LENGTH MARK", ""⟩,
  ⟨0x1135D, "GRANTHA ", "SIGN PLUTA|LETTER VEDIC ANUSVARA|LETTER VEDIC DOUBLE ANUSVARA|LETTER VOCALIC RR|LETTER VOCALIC LL|VOWEL SIGN VOCALIC L|VOWEL SIGN VOCALIC LL"⟩,
  ⟨0x11366, "COMBINING GRANTHA DIGIT ", "ZERO|ONE|TWO|THREE|FOUR|FIVE|SIX"⟩,
  ⟨0x11370, "COMBINING GRANTHA LETTER ", "A|KA|NA|VI|PA"⟩,
  ⟨0x11400, "NEWA LETTER ", "A|AA|I|II|U|UU|VOCALIC R|VOCALIC RR|VOCALIC L|VOCALIC LL|E|AI|O|AU|KA|KHA|GA|GHA|NGA|NGHA|CA|CHA|JA|JHA|NYA|NYHA|TTA|TTHA|DDA|DDHA|NNA|TA|THA|DA|DHA|NA|NHA|PA|PHA|BA|BHA|MA|MHA|YA|RA|RHA|LA|LHA|WA|SHA|SSA|SA|HA"⟩,
  ⟨0x11435, "NEWA VOWEL SIGN ", "AA|I|II|U|UU|VOCALIC R|VOCALIC RR|VOCALIC L|VOCALIC LL|E|AI|O|AU"⟩,
  ⟨0x11442, "NEWA SIGN ", "VIRAMA|CANDRABINDU|ANUSVARA|VISARGA|NUKTA|AVAGRAHA|FINAL ANUSVARA"⟩,
  ⟨0x11449, "NEWA ", "OM|SIDDHI|DANDA|DOUBLE DANDA|COMMA|GAP FILLER|ABBREVIATION SIGN|DIGIT ZERO|DIGIT ONE|DIGIT TWO|DIGIT THREE|DIGIT FOUR|DIGIT FIVE|DIGIT SIX|DIGIT SEVEN|DIGIT EIGHT|DIGIT NINE|DOUBLE COMMA|PLACEHOLDER MARK"⟩,
  ⟨0x1145D, "NEWA ", "INSERTION SIGN|SANDHI MARK|LETTER VEDIC ANUSVARA|SIGN JIHVAMULIYA|SIGN UPADHMANIYA"⟩,
  ⟨0x11480, "TIRHUTA ANJI", ""⟩,
  ⟨0x11481, "TIRHUTA LETTER ", "A|AA|I|II|U|UU|VOCALIC R|VOCALIC RR|VOCALIC L|VOCALIC LL|E|AI|O|AU|KA|KHA|GA|GHA|NGA|CA|CHA|JA|JHA|NYA|TTA|TTHA|DDA|DDHA|NNA|TA|THA|DA|DHA|NA|PA|PHA|BA|BHA|MA|YA|RA|LA|VA|SHA|SSA|SA|HA"⟩,
  ⟨0x114B0, "TIRHUTA VOWEL SIGN ", "AA|I|II|U|UU|VOCALIC R|VOCALIC RR|VOCALIC L|VOCALIC LL|E|SHORT E|AI|O|SHORT O|AU"⟩,
  ⟨0x114BF, "TIRHUTA ", "SIGN CANDRABINDU|SIGN ANUSVARA|SIGN VISARGA|SIGN VIRAMA|SIGN NUKTA|SIGN AVAGRAHA|GVANG|ABBREVIATION SIGN|OM"⟩,
  ⟨0x114D0, "TIRHUTA DIGIT ", "ZERO|ONE|TWO|THREE|FOUR|FIVE|SIX|SEVEN|EIGHT|NINE"⟩,
  ⟨0x11580, "SIDDHAM LETTER ", "A|AA|I|II|U|UU|VOCALIC R|VOCALIC RR|VOCALIC L|VOCALIC LL|E|AI|O|AU|KA|KHA|GA|GHA|NGA|CA|CHA|JA|JHA|NYA|TTA|TTHA|DDA|DDHA|NNA|TA|THA|DA|DHA|NA|PA|PHA|BA|BHA|MA|YA|RA|LA|VA|SHA|SSA|SA|HA"⟩,
  ⟨0x115AF, "SIDDHAM VOWEL SIGN ", "AA|I|II|U|UU|VOCALIC R|VOCALIC RR"⟩,
  ⟨0x115B8, "SIDDHAM VOWEL SIGN ", "E|AI|O|AU"⟩,
  ⟨0x115BC, "SIDDHAM ", "SIGN CANDRABINDU|SIGN ANUSVARA|SIGN VISARGA|SIGN VIRAMA|SIGN NUKTA|SIGN SIDDHAM|DANDA|DOUBLE DANDA|SEPARATOR DOT|SEPARATOR BAR|REPETITION MARK-1|REPETITION MARK-2|REPETITION MARK-3|END OF TEXT MARK"⟩,
  ⟨0x115CA, "SIDDHAM SECTION MARK ", "WITH TRIDENT AND U-SHAPED ORNAMENTS|WITH TRIDENT AND DOTTED CRESCENTS|WITH RAYS AND DOTTED CRESCENTS|WITH RAYS AND DOTTED DOUBLE CRESCENTS|WITH RAYS AND DOTTED TRIPLE CRESCENTS|DOUBLE RING|DOUBLE RING WITH RAYS|WITH DOUBLE CRESCENTS|WITH TRIPLE CRESCENTS|WITH QUADRUPLE CRESCENTS|WITH SEPTUPLE CRESCENTS|WITH CIRCLES AND RAYS|WITH CIRCLES AND TWO ENCLOSURES|WITH CIRCLES AND FOUR ENCLOSURES"⟩,
  ⟨0x115D8, "SIDDHAM LETTER ", "THREE-CIRCLE ALTERNATE I|TWO-CIRCLE ALTERNATE I|TWO-CIRCLE ALTERNATE II|ALTERNATE U"⟩,
  ⟨0x115DC, "SIDDHAM VOWEL SIGN ALTERNATE U", "|U"⟩,
  ⟨0x11600, "MODI LETTER ", "A|AA|I|II|U|UU|VOCALIC R|VOCALIC RR|VOCALIC L|VOCALIC LL|E|AI|O|AU|KA|KHA|GA|GHA|NGA|CA|CHA|JA|JHA|NYA|TTA|TTHA|DDA|DDHA|NNA|TA|THA|DA|DHA|NA|PA|PHA|BA|BHA|MA|YA|RA|LA|VA|SHA|SSA|SA|HA|LLA"⟩,
  ⟨0x11630, "MODI VOWEL SIGN ", "AA|I|II|U|UU|VOCALIC R|VOCALIC RR|VOCALIC L|VOCALIC LL|E|AI|O|AU"⟩,
  ⟨0x1163D, "MODI ", "SIGN ANUSVARA|SIGN VISARGA|SIGN VIRAMA|SIGN ARDHACANDRA|DANDA|DOUBLE DANDA|ABBREVIATION SIGN|SIGN HUVA"⟩,
  ⟨0x11650, "MODI DIGIT ", "ZERO|ONE|TWO|THREE|FOUR|FIVE|SIX|SEVEN|EIGHT|NINE"⟩,
  ⟨0x11660, "MONGOLIAN ", "BIRGA WITH ORNAMENT|ROTATED BIRGA|DOUBLE BIRGA WITH ORNAMENT|TRIPLE BIRGA WITH ORNAMENT|BIRGA WITH DOUBLE ORNAMENT|ROTATED BIRGA WITH ORNAMENT|ROTATED BIRGA WITH DOUBLE ORNAMENT|INVERTED BIRGA|INVERTED BIRGA WITH DOUBLE ORNAMENT|SWIRL BIRGA|SWIRL BIRGA WITH ORNAMENT|SWIRL BIRGA WITH DOUBLE ORNAMENT|TURNED SWIRL BIRGA WITH DOUBLE ORNAMENT"⟩,
  ⟨0x11680, "TAKRI LETTER ", "A|AA|I|II|U|UU|E|AI|O|AU|KA|KHA|GA|GHA|NGA|CA|CHA|JA|JHA|NYA|TTA|TTHA|DDA|DDHA|NNA|TA|THA|DA|DHA|NA|PA|PHA|BA|BHA|MA|YA|RA|LA|VA|SHA|SA|HA|RRA"⟩,
  ⟨0x116AB, "TAKRI SIGN ", "ANUSVARA|VISARGA"⟩,
  ⟨0x116AD, "TAKRI VOWEL SIGN ", "AA|I|II|U|UU|E|AI|O|AU"⟩,
  ⟨0x116B6, "TAKRI ", "SIGN VIRAMA|SIGN NUKTA|LETTER ARCHAIC KHA|ABBREVIATION SIGN"⟩,
  ⟨0x116C0, "TAKRI DIGIT ", "ZERO|ONE|TWO|THREE|FOUR|FIVE|SIX|SEVEN|EIGHT|NINE"⟩,
  ⟨0x11700, "AHOM LETTER ", "KA|KHA|NGA|NA|TA|ALTERNATE TA|PA|PHA|BA|MA|JA|CHA|THA|RA|LA|SA|NYA|HA|A|DA|DHA|GA|ALTERNATE GA|GHA|BHA|JHA|ALTERNATE BA"⟩,
  ⟨0x1171D, "AHOM CONSONANT SIGN MEDIAL ", "LA|RA|LIGATING RA"⟩,
  ⟨0x11720, "AHOM VOWEL SIGN ", "A|AA|I|II|U|UU|E|AW|O|AI|AM"⟩,
  ⟨0x1172B, "AHOM SIGN KILLER", ""⟩,
  ⟨0x11730, "AHOM DIGIT ", "ZERO|ONE|TWO|THREE|FOUR|FIVE|SIX|SEVEN|EIGHT|NINE"⟩,
  ⟨0x1173A, "AHOM ", "NUMBER TEN|NUMBER TWENTY|SIGN SMALL SECTION|SIGN SECTION|SIGN RULAI|SYMBOL VI"⟩,
  ⟨0x11740, "AHOM LETTER ", "CA|TTA|TTHA|DDA|DDHA|NNA|LLA"⟩,
  ⟨0x11800, "DOGRA LETTER ", "A|AA|I|II|U|UU|E|AI|O|AU|KA|KHA|GA|GHA|NGA|CA|CHA|JA|JHA|NYA|TTA|TTHA|DDA|DDHA|NNA|TA|THA|DA|DHA|NA|PA|PHA|BA|BHA|MA|YA|RA|LA|VA|SHA|SSA|SA|HA|RRA"⟩,
  ⟨0x1182C, "DOGRA VOWEL SIGN ", "AA|I|II|U|UU|VOCALIC R|VOCALIC RR|E|AI|O|AU"⟩,
  ⟨0x11837, "DOGRA ", "SIGN ANUSVARA|SIGN VISARGA|SIGN VIRAMA|SIGN NUKTA|ABBREVIATION SIGN"⟩,
  ⟨0x118A0, "WARANG CITI CAPITAL LETTER ", "NGAA|A|WI|YU|YA|YO|II|UU|E|O|ANG|GA|KO|ENY|YUJ|UC|ENN|ODD|TTE|NUNG|DA|AT|AM|BU|PU|HIYO|HOLO|HORR|HAR|SSUU|SII|VIYO"⟩,
  ⟨0x118C0, "WARANG CITI SMALL LETTER ", "NGAA|A|WI|YU|YA|YO|II|UU|E|O|ANG|GA|KO|ENY|YUJ|UC|ENN|ODD|TTE|NUNG|DA|AT|AM|BU|PU|HIYO|HOLO|HORR|HAR|SSUU|SII|VIYO"⟩,
  ⟨0x118E0, "WARANG CITI DIGIT ", "ZERO|ONE|TWO|THREE|FOUR|FIVE|SIX|SEVEN|EIGHT|NINE"⟩,
  ⟨0x118EA, "WARANG CITI NUMBER ", "TEN|TWENTY|THIRTY|FORTY|FIFTY|SIXTY|SEVENTY|EIGHTY|NINETY"⟩,
  ⟨0x118FF, "WARANG CITI OM", ""⟩,
  ⟨0x11900, "DIVES AKURU LETTER ", "A|AA|I|II|U|UU|E"⟩,
  ⟨0x11909, "DIVES AKURU LETTER O", ""⟩,
  ⟨0x1190C, "DIVES AKURU LETTER ", "KA|KHA|GA|GHA|NGA|CA|CHA|JA"⟩,
  ⟨0x11915, "DIVES AKURU LETTER ", "NYA|TTA"⟩,
  ⟨0x11918, "DIVES AKURU LETTER ", "DDA|DDHA|NNA|TA|THA|DA|DHA|NA|PA|PHA|BA|BHA|MA|YA|YYA|RA|LA|VA|SHA|SSA|SA|HA|LLA|ZA"⟩,
  ⟨0x11930, "DIVES AKURU VOWEL SIGN ", "AA|I|II|U|UU|E"⟩,
  ⟨0x11937, "DIVES AKURU VOWEL SIGN ", "AI|O"⟩,
  ⟨0x1193B, "DIVES AKURU ", "SIGN ANUSVARA|SIGN CANDRABINDU|SIGN HALANTA|VIRAMA|PREFIXED NASAL SIGN|MEDIAL YA|INITIAL RA|MEDIAL RA|SIGN NUKTA|DOUBLE DANDA|GAP FILLER|END OF TEXT MARK"⟩,
  ⟨0x11950, "DIVES AKURU DIGIT ", "ZERO|ONE|TWO|THREE|FOUR|FIVE|SIX|SEVEN|EIGHT|NINE"⟩,
  ⟨0x119A0, "NANDINAGARI LETTER ", "A|AA|I|II|U|UU|VOCALIC R|VOCALIC RR"⟩,
  ⟨0x119AA, "NANDINAGARI LETTER ", "E|AI|O|AU|KA|KHA|GA|GHA|NGA|CA|CHA|JA|JHA|NYA|TTA|TTHA|DDA|DDHA|NNA|TA|THA|DA|DHA|NA|PA|PHA|BA|BHA|MA|YA|RA|LA|VA|SHA|SSA|SA|HA|LLA|RRA"⟩,
  ⟨0x119D1, "NANDINAGARI VOWEL SIGN ", "AA|I|II|U|UU|VOCALIC R|VOCALIC RR"⟩,
  ⟨0x119DA, "NANDINAGARI ", "VOWEL SIGN E|VOWEL SIGN AI|VOWEL SIGN O|VOWEL SIGN AU|SIGN ANUSVARA|SIGN VISARGA|SIGN VIRAMA|SIGN AVAGRAHA|SIGN SIDDHAM|HEADSTROKE|VOWEL SIGN PRISHTHAMATRA E"⟩,
  ⟨0x11A00, "ZANABAZAR SQUARE LETTER A", ""⟩,
  ⟨0x11A01, "ZANABAZAR SQUARE VOWEL ", "SIGN I|SIGN UE|SIGN U|SIGN E|SIGN OE|SIGN O|SIGN AI|SIGN AU|SIGN REVERSED I|LENGTH MARK"⟩,
  ⟨0x11A0B, "ZANABAZAR SQUARE LETTER ", "KA|KHA|GA|GHA|NGA|CA|CHA|JA|NYA|TTA|TTHA|DDA|DDHA|NNA|TA|THA|DA|DHA|NA|PA|PHA|BA|BHA|MA|TSA|TSHA|DZA|DZHA|ZHA|ZA|-A|YA|RA|LA|VA|SHA|SSA|SA|HA|KSSA"⟩,
  ⟨0x11A33, "ZANABAZAR SQUARE ", "FINAL CONSONANT MARK|SIGN VIRAMA|SIGN CANDRABINDU|SIGN CANDRABINDU WITH ORNAMENT|SIGN CANDRA WITH ORNAMENT|SIGN ANUSVARA|SIGN VISARGA|CLUSTER-INITIAL LETTER RA|CLUSTER-FINAL LETTER YA|CLUSTER-FINAL LETTER RA|CLUSTER-FINAL LETTER LA|CLUSTER-FINAL LETTER VA|INITIAL HEAD MARK|CLOSING HEAD MARK|MARK TSHEG|MARK SHAD|MARK DOUBLE SHAD|MARK LONG TSHEG|INITIAL DOUBLE-LINED HEAD MARK|CLOSING DOUBLE-LINED HEAD MARK|SUBJOINER"⟩,
  ⟨0x11A50, "SOYOMBO LETTER A", ""⟩,
  ⟨0x11A51, "SOYOMBO VOWEL SIGN ", "I|UE|U|E|O|OE|AI|AU|VOCALIC R|VOCALIC L"⟩,
  ⟨0x11A5B, "SOYOMBO VOWEL LENGTH MARK", ""⟩,
  ⟨0x11A5C, "SOYOMBO LETTER ", "KA|KHA|GA|GHA|NGA|CA|CHA|JA|JHA|NYA|TTA|TTHA|DDA|DDHA|NNA|TA|THA|DA|DHA|NA|PA|PHA|BA|BHA|MA|TSA|TSHA|DZA|ZHA|ZA|-A|YA|RA|LA|VA|SHA|SSA|SA|HA|KSSA"⟩,
  ⟨0x11A84, "SOYOMBO SIGN ", "JIHVAMULIYA|UPADHMANIYA"⟩,
  ⟨0x11A86, "SOYOMBO CLUSTER-INITIAL LETTER ", "RA|LA|SHA|SA"⟩,
  ⟨0x11A8A, "SOYOMBO FINAL CONSONANT SIGN ", "G|K|NG|D|N|B|M|R|L|SH|S|-A"⟩,
  ⟨0x11A96, "SOYOMBO ", "SIGN ANUSVARA|SIGN VISARGA|GEMINATION MARK|SUBJOINER|MARK TSHEG|MARK SHAD|MARK DOUBLE SHAD|MARK PLUTA"⟩,
  ⟨0x11A9E, "SOYOMBO HEAD MARK WITH MOON AND SUN", " AND TRIPLE FLAME| AND FLAME|"⟩,
  ⟨0x11AA1, "SOYOMBO TERMINAL MARK-", "1|2"⟩,
  ⟨0x11AB0, "CANADIAN SYLLABICS NATTILIK ", "HI|HII|HO|HOO|HA|HAA|SHRI|SHRII|SHRO|SHROO|SHRA|SHRAA"⟩,
  ⟨0x11ABC, "CANADIAN SYLLABICS SP", "E|I|O|A"⟩,
  ⟨0x11AC0, "PAU CIN HAU LETTER ", "PA|KA|LA|MA|DA|ZA|VA|NGA|HA|GA|KHA|SA|BA|CA|TA|THA|NA|PHA|RA|FA|CHA|A|E|I|O|U|UA|IA"⟩,
  ⟨0x11ADC, "PAU CIN HAU LETTER FINAL ", "P|K|T|M|N|L|W|NG|Y"⟩,
  ⟨0x11AE5, "PAU CIN HAU ", "RISING TONE LONG|RISING TONE|SANDHI GLOTTAL STOP|RISING TONE LONG FINAL|RISING TONE FINAL|SANDHI GLOTTAL STOP FINAL|SANDHI TONE LONG|SANDHI TONE|SANDHI TONE LONG FINAL|SANDHI TONE FINAL|MID-LEVEL TONE|GLOTTAL STOP VARIANT|MID-LEVEL TONE LONG FINAL|MID-LEVEL TONE FINAL|LOW-FALLING TONE LONG|LOW-FALLING TONE|GLOTTAL STOP|LOW-FALLING TONE LONG FINAL|LOW-FALLING TONE FINAL|GLOTTAL STOP FINAL"⟩,
  ⟨0x11C00, "BHAIKSUKI LETTER ", "A|AA|I|II|U|UU|VOCALIC R|VOCALIC RR|VOCALIC L"⟩,
  ⟨0x11C0A, "BHAIKSUKI LETTER ", "E|AI|O|AU|KA|KHA|GA|GHA|NGA|CA|CHA|JA|JHA|NYA|TTA|TTHA|DDA|DDHA|NNA|TA|THA|DA|DHA|NA|PA|PHA|BA|BHA|MA|YA|RA|LA|VA|SHA|SSA|SA|HA"⟩,
  ⟨0x11C2F, "BHAIKSUKI VOWEL SIGN ", "AA|I|II|U|UU|VOCALIC R|VOCALIC RR|VOCALIC L"⟩,
  ⟨0x11C38, "BHAIKSUKI VOWEL SIGN ", "E|AI|O|AU"⟩,
  ⟨0x11C3C, "BHAIKSUKI ", "SIGN CANDRABINDU|SIGN ANUSVARA|SIGN VISARGA|SIGN VIRAMA|SIGN AVAGRAHA|DANDA|DOUBLE DANDA|WORD SEPARATOR|GAP FILLER-1|GAP FILLER-2"⟩,
  ⟨0x11C50, "BHAIKSUKI DIGIT ", "ZERO|ONE|TWO|THREE|FOUR|FIVE|SIX|SEVEN|EIGHT|NINE"⟩,
  ⟨0x11C5A, "BHAIKSUKI NUMBER ", "ONE|TWO|THREE|FOUR|FIVE|SIX|SEVEN|EIGHT|NINE|TEN|TWENTY|THIRTY|FORTY|FIFTY|SIXTY|SEVENTY|EIGHTY|NINETY"⟩,
  ⟨0x11C6C, "BHAIKSUKI HUNDREDS UNIT MARK", ""⟩,
  ⟨0x11C70, "MARCHEN ", "HEAD MARK|MARK SHAD"⟩,
  ⟨0x11C72, "MARCHEN LETTER ", "KA|KHA|GA|NGA|CA|CHA|JA|NYA|TA|THA|DA|NA|PA|PHA|BA|MA|TSA|TSHA|DZA|WA|ZHA|ZA|-A|YA|RA|LA|SHA|SA|HA|A"⟩,
  ⟨0x11C92, "MARCHEN SUBJOINED LETTER ", "KA|KHA|GA|NGA|CA|CHA|JA|NYA|TA|THA|DA|NA|PA|PHA|BA|MA|TSA|TSHA|DZA|WA|ZHA|ZA"⟩,
  ⟨0x11CA9, "MARCHEN SUBJOINED LETTER ", "YA|RA|LA|SHA|SA|HA|A"⟩,
  ⟨0x11CB0, "MARCHEN VOWEL SIGN ", "AA|I|U|E|O"⟩,
  ⟨0x11CB5, "MARCHEN SIGN ", "ANUSVARA|CANDRABINDU"⟩,
  ⟨0x11D00, "MASARAM GONDI LETTER ", "A|AA|I|II|U|UU|E"⟩,
  ⟨0x11D08, "MASARAM GONDI LETTER ", "AI|O"⟩,
  ⟨0x11D0B, "MASARAM GONDI LETTER ", "AU|KA|KHA|GA|GHA|NGA|CA|CHA|JA|JHA|NYA|TTA|TTHA|DDA|DDHA|NNA|TA|THA|DA|DHA|NA|PA|PHA|BA|BHA|MA|YA|RA|LA|VA|SHA|SSA|SA|HA|LLA|KSSA|JNYA|TRA"⟩,
  ⟨0x11D31, "MASARAM GONDI VOWEL SIGN ", "AA|I|II|U|UU|VOCALIC R"⟩,
  ⟨0x11D3A, "MASARAM GONDI VOWEL SIGN E", ""⟩,
  ⟨0x11D3C, "MASARAM GONDI VOWEL SIGN ", "AI|O"⟩,
  ⟨0x11D3F, "MASARAM GONDI ", "VOWEL SIGN AU|SIGN ANUSVARA|SIGN VISARGA|SIGN NUKTA|SIGN CANDRA|SIGN HALANTA|VIRAMA|REPHA|RA-KARA"⟩,
  ⟨0x11D50, "MASARAM GONDI DIGIT ", "ZERO|ONE|TWO|THREE|FOUR|FIVE|SIX|SEVEN|EIGHT|NINE"⟩,
  ⟨0x11D60, "GUNJALA GONDI LETTER ", "A|AA|I|II|U|UU"⟩,
  ⟨0x11D67, "GUNJALA GONDI LETTER ", "EE|AI"⟩,
  ⟨0x11D6A, "GUNJALA GONDI LETTER ", "OO|AU|YA|VA|BA|BHA|MA|KA|KHA|TA|THA|LA|GA|GHA|DA|DHA|NA|CA|CHA|TTA|TTHA|LLA|JA|JHA|DDA|DDHA|NGA|PA|PHA|HA|RA|SA"⟩,
  ⟨0x11D8A, "GUNJALA GONDI VOWEL SIGN ", "AA|I|II|U|UU"⟩,
  ⟨0x11D90, "GUNJALA GONDI VOWEL SIGN ", "EE|AI"⟩,
  ⟨0x11D93, "GUNJALA GONDI ", "VOWEL SIGN OO|VOWEL SIGN AU|SIGN ANUSVARA|SIGN VISARGA|VIRAMA|OM"⟩,
  ⟨0x11DA0, "GUNJALA GONDI DIGIT ", "ZERO|ONE|TWO|THREE|FOUR|FIVE|SIX|SEVEN|EIGHT|NINE"⟩,
  ⟨0x11EE0, "MAKASAR LETTER ", "KA|GA|NGA|PA|BA|MA|TA|DA|NA|CA|JA|NYA|YA|RA|LA|VA|SA|A"⟩,
  ⟨0x11EF2, "MAKASAR ", "ANGKA|VOWEL SIGN I|VOWEL SIGN U|VOWEL SIGN E|VOWEL SIGN O|PASSIMBANG|END OF SECTION"⟩,
  ⟨0x11FB0, "LISU LETTER YHA", ""⟩,
  ⟨0x11FC0, "TAMIL FRACTION ", "ONE THREE-HUNDRED-AND-TWENTIETH|ONE ONE-HUNDRED-AND-SIXTIETH|ONE EIGHTIETH|ONE SIXTY-FOURTH|ONE FORTIETH|ONE THIRTY-SECOND|THREE EIGHTIETHS|THREE SIXTY-FOURTHS|ONE TWENTIETH|ONE SIXTEENTH-1|ONE SIXTEENTH-2|ONE TENTH|ONE EIGHTH|THREE TWENTIETHS|THREE SIXTEENTHS|ONE FIFTH|ONE QUARTER|ONE HALF-1|ONE HALF-2|THREE QUARTERS|DOWNSCALING FACTOR KIIZH"⟩,
  ⟨0x11FD5, "TAMIL SIGN ", "NEL|CEVITU|AAZHAAKKU|UZHAKKU|MUUVUZHAKKU|KURUNI|PATHAKKU|MUKKURUNI|KAACU|PANAM|PON|VARAAKAN|PAARAM|KUZHI|VELI"⟩,
  ⟨0x11FE4, "TAMIL ", "WET CULTIVATION SIGN|DRY CULTIVATION SIGN|LAND SIGN|SALT PAN SIGN|TRADITIONAL CREDIT SIGN|TRADITIONAL NUMBER SIGN|CURRENT SIGN|AND ODD SIGN|SPENT SIGN|TOTAL SIGN|IN POSSESSION SIGN|STARTING FROM SIGN|SIGN MUTHALIYA|SIGN VAKAIYARAA"⟩,
  ⟨0x11FFF, "TAMIL PUNCTUATION END OF TEXT", ""⟩,
  ⟨0x12000, "CUNEIFORM SIGN A", "| TIMES A| TIMES BAD| TIMES GAN2 TENU| TIMES HA| TIMES IGI| TIMES LAGAR GUNU| TIMES MUSH| TIMES SAG|2|B|B TIMES ASH2|B TIMES DUN3 GUNU|B TIMES GAL|B TIMES GAN2 TENU|B TIMES HA|B TIMES IGI GUNU|B TIMES IMIN|B TIMES LAGAB|B TIMES SHESH|B TIMES U PLUS U PLUS U|B GUNU|B2|B2 TIMES BALAG|B2 TIMES GAN2 TENU|B2 TIMES ME PLUS EN|B2 TIMES SHA3|B2 TIMES TAK4|D|K|K TIMES ERIN2|K TIMES SHITA PLUS GISH|L|L TIMES AL|L TIMES DIM2|L TIMES GISH|L TIMES HA|L TIMES KAD3|L TIMES KI|L TIMES SHE|L TIMES USH|LAN|LEPH|MAR|MAR TIMES SHE|N|N OVER AN|N THREE TIMES|N PLUS NAGA OPPOSING AN PLUS NAGA|N PLUS NAGA SQUARED|NSHE|PIN|RAD|RAD TIMES KUR|RKAB|SAL2|SH|SH ZIDA TENU|SH KABA TENU|SH OVER ASH TUG2 OVER TUG2 TUG2 OVER TUG2 PAP|SH OVER ASH OVER ASH|SH OVER ASH OVER ASH CROSSING ASH OVER ASH OVER ASH|SH2|SHGAB"⟩,
  ⟨0x12040, "CUNEIFORM SIGN ", "BA|BAD|BAG3|BAHAR2|BAL|BAL OVER BAL|BALAG|BAR|BARA2|BI|BI TIMES A|BI TIMES GAR|BI TIMES IGI GUNU|BU|BU OVER BU AB|BU OVER BU UN|BU CROSSING BU|BULUG|BULUG OVER BULUG|BUR|BUR2|DA|DAG"⟩,
  ⟨0x12057, "CUNEIFORM SIGN DAG KISIM5 TIMES ", "A PLUS MASH|AMAR|BALAG|BI|GA|GA PLUS MASH|GI|GIR2|GUD|HA|IR|IR PLUS LU|KAK|LA|LU|LU PLUS MASH2|LUM|NE|PAP PLUS PAP|SI|TAK4|U2 PLUS GIR2|USH"⟩,
  ⟨0x1206E, "CUNEIFORM SIGN D", "AM|AR|ARA3|ARA4|I|IB|IM|IM TIMES SHE|IM2|IN|IN KASKAL U GUNU DISH|ISH|U|U OVER DU|U GUNU|U SHESHIG|UB|UB TIMES ESH2|UB2|UG|UGUD|UH|UN|UN3|UN3 GUNU|UN3 GUNU GUNU|UN4|UR2"⟩,
  ⟨0x1208A, "CUNEIFORM SIGN E", "| TIMES PAP| OVER E NUN OVER NUN|2|2 TIMES A PLUS HA PLUS DA|2 TIMES GAR|2 TIMES MI|2 TIMES SAL|2 TIMES SHE|2 TIMES U|DIN|GIR|L|N|N TIMES GAN2|N TIMES GAN2 TENU|N TIMES ME|N CROSSING EN|N OPPOSING EN|N SQUARED|REN|RIN2|SH2|ZEN"⟩,
  ⟨0x120A2, "CUNEIFORM SIGN EZEN TIMES ", "A|A PLUS LAL|A PLUS LAL TIMES LAL|AN|BAD|DUN3 GUNU|DUN3 GUNU GUNU|HA|HA GUNU|IGI GUNU|KASKAL|KASKAL SQUARED|KU3|LA|LAL TIMES LAL|LI|LU|U2|UD"⟩,
  ⟨0x120B5, "CUNEIFORM SIGN GA", "| GUNU|2"⟩,
  ⟨0x120B8, "CUNEIFORM SIGN GA2 TIMES ", "A PLUS DA PLUS HA|A PLUS HA|A PLUS IGI|AB2 TENU PLUS TAB|AN|ASH|ASH2 PLUS GAL|BAD|BAR PLUS RA|BUR|BUR PLUS RA|DA|DI|DIM TIMES SHE|DUB|EL|EL PLUS LA|EN|EN TIMES GAN2 TENU|GAN2 TENU|GAR|GI|GI4|GI4 PLUS A|GIR2 PLUS SU|HA PLUS LU PLUS ESH2|HAL|HAL PLUS LA|HI PLUS LI|HUB2|IGI GUNU|ISH PLUS HU PLUS ASH|KAK|KASKAL|KID|KID PLUS LAL|KU3 PLUS AN|LA|ME PLUS EN|MI|NUN|NUN OVER NUN|PA|SAL|SAR|SHE|SHE PLUS TUR|SHID|SUM|TAK4|U|UD|UD PLUS DU"⟩,
  ⟨0x120ED, "CUNEIFORM SIGN G", "A2 OVER GA2|ABA|ABA CROSSING GABA|AD|AD OVER GAD GAR OVER GAR|AL|AL GAD OVER GAD GAR OVER GAR|ALAM|AM|AN|AN2|AN2 TENU|AN2 OVER GAN2|AN2 CROSSING GAN2|AR|AR3|ASHAN|ESHTIN|ESHTIN TIMES KUR|I|I TIMES E|I TIMES U|I CROSSING GI|I4|I4 OVER GI4|I4 CROSSING GI4|IDIM|IR2|IR2 GUNU|IR3|IR3 TIMES A PLUS IGI|IR3 TIMES GAN2 TENU|IR3 TIMES IGI|IR3 TIMES LU PLUS IGI|IR3 TIMES PA|ISAL|ISH|ISH CROSSING GISH|ISH TIMES BAD|ISH TIMES TAK4|ISH TENU|U|U CROSSING GU|U2|U2 TIMES KAK|U2 TIMES KAK TIMES IGI GUNU|U2 TIMES NUN|U2 TIMES SAL PLUS TUG2|U2 GUNU|UD|UD TIMES A PLUS KUR|UD TIMES KUR|UD OVER GUD LUGAL|UL|UM|UM TIMES SHE|UR|UR7|URUN|URUSH"⟩,
  ⟨0x12129, "CUNEIFORM SIGN H", "A|A TENU|A GUNU|AL|I"⟩,
  ⟨0x1212E, "CUNEIFORM SIGN HI TIMES ", "ASH|ASH2|BAD|DISH|GAD|KIN|NUN|SHE|U"⟩,
  ⟨0x12137, "CUNEIFORM SIGN ", "HU|HUB2|HUB2 TIMES AN|HUB2 TIMES HAL|HUB2 TIMES KASKAL|HUB2 TIMES LISH|HUB2 TIMES UD|HUL2|I|I A|IB|IDIM|IDIM OVER IDIM BUR|IDIM OVER IDIM SQUARED|IG|IGI|IGI DIB|IGI RI|IGI OVER IGI SHIR OVER SHIR UD OVER UD|IGI GUNU|IL|IL TIMES GAN2 TENU|IL2|IM|IM TIMES TAK4|IM CROSSING IM|IM OPPOSING IM|IM SQUARED|IMIN|IN|IR|ISH|KA"⟩,
  ⟨0x12158, "CUNEIFORM SIGN KA TIMES ", "A|AD|AD PLUS KU3|ASH2|BAD|BALAG|BAR|BI|ERIN2|ESH2|GA|GAL|GAN2 TENU|GAR|GAR PLUS SHA3 PLUS A|GI|GIR2|GISH PLUS SAR|GISH CROSSING GISH|GU|GUR7|IGI|IM|KAK|KI|KID|LI|LU|ME|ME PLUS DU|ME PLUS GI|ME PLUS TE|MI|MI PLUS NUNUZ|NE|NUN|PI|RU|SA|SAR|SHA|SHE|SHID|SHU|SIG|SUHUR|TAR|U|U2|UD|UMUM TIMES PA|USH|ZI"⟩,
  ⟨0x1218D, "CUNEIFORM SIGN K", "A2|A2 CROSSING KA2|AB|AD2|AD3|AD4|AD5|AD5 OVER KAD5|AK|AK TIMES IGI GUNU|AL|AL TIMES BAD|AL CROSSING KAL|AM2|AM4|ASKAL|ASKAL LAGAB TIMES U OVER LAGAB TIMES U|ASKAL OVER KASKAL LAGAB TIMES U OVER LAGAB TIMES U|ESH2|I|I TIMES BAD|I TIMES U|I TIMES UD|ID|IN|ISAL|ISH|ISIM5|ISIM5 OVER KISIM5|U|U OVER HI TIMES ASH2 KU OVER HI TIMES ASH2|U3|U4|U4 VARIANT FORM|U7|UL|UL GUNU|UN|UR|UR OPPOSING KUR|USHU2|WU318"⟩,
  ⟨0x121B7, "CUNEIFORM SIGN LA", "|GAB"⟩,
  ⟨0x121B9, "CUNEIFORM SIGN LAGAB TIMES ", "A|A PLUS DA PLUS HA|A PLUS GAR|A PLUS LAL|AL|AN|ASH ZIDA TENU|BAD|BI|DAR|EN|GA|GAR|GUD|GUD PLUS GUD|HA|HAL|HI TIMES NUN|IGI GUNU|IM|IM PLUS HA|IM PLUS LU|KI|KIN|KU3|KUL|KUL PLUS HI PLUS A|LAGAB|LISH|LU|LUL|ME|ME PLUS EN|MUSH|NE|SHE PLUS SUM|SHITA PLUS GISH PLUS ERIN2|SHITA PLUS GISH TENU|SHU2|SHU2 PLUS SHU2|SUM|TAG|TAK4|TE PLUS A PLUS SU PLUS NA|U|U PLUS A|U PLUS U PLUS U|U2 PLUS ASH|UD|USH"⟩,
  ⟨0x121EB, "CUNEIFORM SIGN L", "AGAB SQUARED|AGAR|AGAR TIMES SHE|AGAR TIMES SHE PLUS SUM|AGAR GUNU|AGAR GUNU OVER LAGAR GUNU SHE|AHSHU|AL|AL TIMES LAL|AM|AM TIMES KUR|AM TIMES KUR PLUS RU|I|IL|IMMU2|ISH|U|U TIMES BAD|U2"⟩,
  ⟨0x121FE, "CUNEIFORM SIGN LU2 TIMES ", "AL|BAD|ESH2|ESH2 TENU|GAN2 TENU|HI TIMES BAD|IM|KAD2|KAD3|KAD3 PLUS ASH|KI|LA PLUS ASH|LAGAB|ME PLUS EN|NE|NU|SI PLUS ASH|SIK2 PLUS BU|TUG2"⟩,
  ⟨0x12211, "CUNEIFORM SIGN LU", "2 TENU|2 CROSSING LU2|2 OPPOSING LU2|2 SQUARED|2 SHESHIG|3|GAL|GAL OVER LUGAL|GAL OPPOSING LUGAL|GAL SHESHIG|H|L|M|M OVER LUM|M OVER LUM GAR OVER GAR"⟩,
  ⟨0x12220, "CUNEIFORM SIGN M", "A|A TIMES TAK4|A GUNU|A2|AH|AR|ASH|ASH2|E|ES|I|IN|U|U OVER MU|UG|UG GUNU|UNSUB|URGU2|USH|USH TIMES A|USH TIMES KUR|USH TIMES ZA|USH OVER MUSH|USH OVER MUSH TIMES A PLUS NA|USH CROSSING MUSH|USH3|USH3 TIMES A|USH3 TIMES A PLUS DI|USH3 TIMES DI|USH3 GUNU"⟩,
  ⟨0x1223E, "CUNEIFORM SIGN N", "A|A2|AGA|AGA INVERTED|AGA TIMES SHU TENU|AGA OPPOSING NAGA|AGAR|AM NUTILLU|AM|AM2|E|E TIMES A|E TIMES UD|E SHESHIG|I|I TIMES E|I2|IM|IM TIMES GAN2 TENU|IM TIMES GAR PLUS GAN2 TENU|INDA2"⟩,
  ⟨0x12253, "CUNEIFORM SIGN NINDA2 TIMES ", "AN|ASH|ASH PLUS ASH|GUD|ME PLUS GAN2 TENU|NE|NUN|SHE|SHE PLUS A AN|SHE PLUS ASH|SHE PLUS ASH PLUS ASH|U2 PLUS ASH|USH"⟩,
  ⟨0x12260, "CUNEIFORM SIGN N", "ISAG|U|U11|UN|UN LAGAR TIMES GAR|UN LAGAR TIMES MASH|UN LAGAR TIMES SAL|UN LAGAR TIMES SAL OVER NUN LAGAR TIMES SAL|UN LAGAR TIMES USH|UN TENU|UN OVER NUN|UN CROSSING NUN|UN CROSSING NUN LAGAR OVER LAGAR|UNUZ"⟩,
  ⟨0x1226E, "CUNEIFORM SIGN NUNUZ AB2 TIMES ", "ASHGAB|BI|DUG|GUD|IGI GUNU|KAD3|LA|NE|SILA3|U2"⟩,
  ⟨0x12278, "CUNEIFORM SIGN ", "NUNUZ KISIM5 TIMES BI|NUNUZ KISIM5 TIMES BI U|PA|PAD|PAN|PAP|PESH2|PI|PI TIMES A|PI TIMES AB|PI TIMES BI|PI TIMES BU|PI TIMES E|PI TIMES I|PI TIMES IB|PI TIMES U|PI TIMES U2|PI CROSSING PI|PIRIG|PIRIG TIMES KAL|PIRIG TIMES UD|PIRIG TIMES ZA|PIRIG OPPOSING PIRIG|RA|RAB|RI|RU|SA|SAG NUTILLU|SAG"⟩,
  ⟨0x12296, "CUNEIFORM SIGN SAG TIMES ", "A|DU|DUB|HA|KAK|KUR|LUM|MI|NUN|SAL|SHID|TAB|U2|UB|UM|UR|USH"⟩,
  ⟨0x122A7, "CUNEIFORM SIGN S", "AG OVER SAG|AG GUNU|AL|AL LAGAB TIMES ASH2|ANGA2|AR|HA|HA3"⟩,
  ⟨0x122AF, "CUNEIFORM SIGN SHA3 TIMES ", "A|BAD|GISH|NE|SHU2|TUR|U|U PLUS A"⟩,
  ⟨0x122B7, "CUNEIFORM SIGN SH", "A6|AB6|AR2|E|E HU|E OVER SHE GAD OVER GAD GAR OVER GAR|E OVER SHE TAB OVER TAB GAR OVER GAR|EG9|EN|ESH|ESH2|ESHLAM|ID|ID TIMES A|ID TIMES IM|IM"⟩,
  ⟨0x122C7, "CUNEIFORM SIGN SHIM TIMES ", "A|BAL|BULUG|DIN|GAR|IGI|IGI GUNU|KUSHU2|LUL|MUG|SAL"⟩,
  ⟨0x122D2, "CUNEIFORM SIGN S", "HINIG|HIR|HIR TENU|HIR OVER SHIR BUR OVER BUR|HITA|HU|HU OVER INVERTED SHU|HU2|HUBUR|I|I GUNU|IG|IG4|IG4 OVER SIG4 SHU2|IK2|ILA3|U|U OVER SU|UD|UD2|UHUR|UM|UMASH|UR|UR9"⟩,
  ⟨0x122EB, "CUNEIFORM SIGN T", "A|A ASTERISK|A TIMES HI|A TIMES MI|A GUNU|AB|AB OVER TAB NI OVER NI DISH OVER DISH|AB SQUARED|AG|AG TIMES BI|AG TIMES GUD|AG TIMES SHE|AG TIMES SHU|AG TIMES TUG2|AG TIMES UD|AK4|AR|E|E GUNU|I|I TENU|IL|IR|IR TIMES TAK4|IR OVER TIR|IR OVER TIR GAD OVER GAD GAR OVER GAR|U|UG2|UK|UM|UR|UR OVER TUR ZA OVER ZA"⟩,
  ⟨0x1230B, "CUNEIFORM SIGN U", "| GUD| U U| OVER U PA OVER PA GAR OVER GAR| OVER U SUR OVER SUR| OVER U U REVERSED OVER U REVERSED|2|B|D|D KUSHU2|D TIMES BAD|D TIMES MI|D TIMES U PLUS U PLUS U|D TIMES U PLUS U PLUS U GUNU|D GUNU|D SHESHIG|D SHESHIG TIMES BAD|DUG|M|M TIMES LAGAB|M TIMES ME PLUS DA|M TIMES SHA3|M TIMES U|MBIN|MUM|MUM TIMES KASKAL|MUM TIMES PA|N|N GUNU|R|R CROSSING UR|R SHESHIG|R2|R2 TIMES A PLUS HA|R2 TIMES A PLUS NA|R2 TIMES AL|R2 TIMES HA|R2 TIMES NUN|R2 TIMES U2|R2 TIMES U2 PLUS ASH|R2 TIMES U2 PLUS BI|R4|RI|RI3|RU"⟩,
  ⟨0x12338, "CUNEIFORM SIGN URU TIMES ", "A|ASHGAB|BAR|DUN|GA|GAL|GAN2 TENU|GAR|GU|HA|IGI|IM|ISH|KI|LUM|MIN|PA|SHE|SIG4|TU|U PLUS GUD|UD|URUDA"⟩,
  ⟨0x1234F, "CUNEIFORM SIGN ", "URUDA|URUDA TIMES U|USH|USH TIMES A|USH TIMES KU|USH TIMES KUR|USH TIMES TAK4|USHX|USH2|USHUMX|UTUKI|UZ3|UZ3 TIMES KASKAL|UZU|ZA|ZA TENU|ZA SQUARED TIMES KUR|ZAG|ZAMX|ZE2|ZI|ZI OVER ZI|ZI3|ZIB|ZIB KABA TENU|ZIG|ZIZ2|ZU|ZU5|ZU5 TIMES A|ZUBUR|ZUM|KAP ELAMITE|AB TIMES NUN|AB2 TIMES A|AMAR TIMES KUG|DAG KISIM5 TIMES U2 PLUS MASH|DAG3|DISH PLUS SHU|DUB TIMES SHE|EZEN TIMES GUD|EZEN TIMES SHE|GA2 TIMES AN PLUS KAK PLUS A|GA2 TIMES ASH2|GE22|GIG|HUSH"⟩,
  ⟨0x1237E, "CUNEIFORM SIGN KA TIMES ", "ANSHE|ASH3|GISH|GUD|HI TIMES ASH2|LUM|PA|SHUL|TU|UR2"⟩,
  ⟨0x12388, "CUNEIFORM SIGN ", "LAGAB TIMES GI|LU2 SHESHIG TIMES BAD|LU2 TIMES ESH2 PLUS LAL|LU2 TIMES SHU|MESH|MUSH3 TIMES ZA|NA4|NIN|NIN9|NINDA2 TIMES BAL|NINDA2 TIMES GI|NU11 ROTATED NINETY DEGREES|PESH2 ASTERISK|PIR2|SAG TIMES IGI GUNU|TI2|UM TIMES ME|U U"⟩,
  ⟨0x12400, "CUNEIFORM NUMERIC SIGN ", "TWO ASH|THREE ASH|FOUR ASH|FIVE ASH|SIX ASH|SEVEN ASH|EIGHT ASH|NINE ASH|THREE DISH|FOUR DISH|FIVE DISH|SIX DISH|SEVEN DISH|EIGHT DISH|NINE DISH|FOUR U|FIVE U|SIX U|SEVEN U|EIGHT U|NINE U|ONE GESH2|TWO GESH2|THREE GESH2|FOUR GESH2|FIVE GESH2|SIX GESH2|SEVEN GESH2|EIGHT GESH2|NINE GESH2|ONE GESHU|TWO GESHU|THREE GESHU|FOUR GESHU|FIVE GESHU|TWO SHAR2|THREE SHAR2|THREE SHAR2 VARIANT FORM|FOUR SHAR2|FIVE SHAR2|SIX SHAR2|SEVEN SHAR2|EIGHT SHAR2|NINE SHAR2|ONE SHARU|TWO SHARU|THREE SHARU|THREE SHARU VARIANT FORM|FOUR SHARU|FIVE SHARU|SHAR2 TIMES GAL PLUS DISH|SHAR2 TIMES GAL PLUS MIN|ONE BURU|TWO BURU|THREE BURU|THREE BURU VARIANT FORM|FOUR BURU|FIVE BURU|THREE VARIANT FORM ESH16|THREE VARIANT FORM ESH21|FOUR VARIANT FORM LIMMU|FOUR VARIANT FORM LIMMU4|FOUR VARIANT FORM LIMMU A|FOUR VARIANT FORM LIMMU B|SIX VARIANT FORM ASH9|SEVEN VARIANT FORM IMIN3|SEVEN VARIANT FORM IMIN A|SEVEN VARIANT FORM IMIN B|EIGHT VARIANT FORM USSU|EIGHT VARIANT FORM USSU3|NINE VARIANT FORM ILIMMU|NINE VARIANT FORM ILIMMU3|NINE VARIANT FORM ILIMMU4|NINE VARIANT FORM ILIMMU A|TWO ASH TENU|THREE ASH TENU|FOUR ASH TENU|FIVE ASH TENU|SIX ASH TENU|ONE BAN2|TWO BAN2|THREE BAN2|FOUR BAN2|FOUR BAN2 VARIANT FORM|FIVE BAN2|FIVE BAN2 VARIANT FORM|NIGIDAMIN|NIGIDAESH|ONE ESHE3|TWO ESHE3|ONE THIRD DISH|TWO THIRDS DISH|FIVE SIXTHS DISH|ONE THIRD VARIANT FORM A|TWO THIRDS VARIANT FORM A|ONE EIGHTH ASH|ONE QUARTER ASH|OLD ASSYRIAN ONE SIXTH|OLD ASSYRIAN ONE QUARTER|ONE QUARTER GUR|ONE HALF GUR|ELAMITE ONE THIRD"⟩,
  ⟨0x12466, "CUNEIFORM NUMERIC SIGN ", "ELAMITE TWO THIRDS|ELAMITE FORTY|ELAMITE FIFTY|FOUR U VARIANT FORM|FIVE U VARIANT FORM|SIX U VARIANT FORM|SEVEN U VARIANT FORM|EIGHT U VARIANT FORM|NINE U VARIANT FORM"⟩,
  ⟨0x12470, "CUNEIFORM PUNCTUATION SIGN ", "OLD ASSYRIAN WORD DIVIDER|VERTICAL COLON|DIAGONAL COLON|DIAGONAL TRICOLON|DIAGONAL QUADCOLON"⟩,
  ⟨0x12480, "CUNEIFORM SIGN ", "AB TIMES NUN TENU|AB TIMES SHU2|AD TIMES ESH2|BAD TIMES DISH TENU|BAHAR2 TIMES AB2|BAHAR2 TIMES NI|BAHAR2 TIMES ZA|BU OVER BU TIMES NA2|DA TIMES TAK4|DAG TIMES KUR|DIM TIMES IGI|DIM TIMES U U U|DIM2 TIMES UD"⟩,
  ⟨0x1248D, "CUNEIFORM SIGN DUG TIMES ", "ANSHE|ASH|ASH AT LEFT|DIN|DUN|ERIN2|GA|GI|GIR2 GUNU|GISH|HA|HI|IGI GUNU|KASKAL|KUR|KUSHU2|KUSHU2 PLUS KASKAL|LAK-020|LAM|LAM TIMES KUR|LUH PLUS GISH|MASH|MES|MI|NI|PI|SHE|SI GUNU"⟩,
  ⟨0x124A9, "CUNEIFORM SIGN E", "2 TIMES KUR|2 TIMES PAP|RIN2 X|SH2 CROSSING ESH2"⟩,
  ⟨0x124AD, "CUNEIFORM SIGN EZEN SHESHIG TIMES ", "ASH|HI|IGI GUNU|LA|LAL|ME|MES|SU"⟩,
  ⟨0x124B5, "CUNEIFORM SIGN EZEN TIMES SU", ""⟩,
  ⟨0x124B6, "CUNEIFORM SIGN GA2 TIMES ", "BAHAR2|DIM GUNU|DUG TIMES IGI GUNU|DUG TIMES KASKAL|EREN|GA|GAR PLUS DI|GAR PLUS NE|HA PLUS A|KUSHU2 PLUS KASKAL|LAM|LAM TIMES KUR|LUH|MUSH|NE|NE PLUS E2|NE PLUS GI|SHIM|ZIZ2"⟩,
  ⟨0x124C9, "CUNEIFORM SIGN ", "GABA ROTATED NINETY DEGREES|GESHTIN TIMES U|GISH TIMES GISH CROSSING GISH|GU2 TIMES IGI GUNU|GUD PLUS GISH TIMES TAK4|HA TENU GUNU|HI TIMES ASH OVER HI TIMES ASH|KA TIMES BU|KA TIMES KA|KA TIMES U U U|KA TIMES UR|LAGAB TIMES ZU OVER ZU"⟩,
  ⟨0x124D5, "CUNEIFORM SIGN LAK-", "003|021|025|030|050|051|062|079 OVER LAK-079 GUNU|080|081 OVER LAK-081|092|130|142|210|219|220|225|228|238|265|266|343|347|348|383|384|390|441|449|449 TIMES GU|449 TIMES IGI|449 TIMES PAP PLUS LU3|449 TIMES PAP PLUS PAP PLUS LU3|449 TIMES U2 PLUS BA|450|457|470|483|490|492|493|495|550|608|617"⟩,
  ⟨0x12502, "CUNEIFORM SIGN LAK-617 TIMES ", "ASH|BAD|DUN3 GUNU GUNU|KU3|LA|TAR|TE|U2|UD|URUDA"⟩,
  ⟨0x1250C, "CUNEIFORM SIGN LAK-6", "36|48"⟩,
  ⟨0x1250E, "CUNEIFORM SIGN LAK-648 TIMES ", "DUB|GA|IGI|IGI GUNU|NI|PAP PLUS PAP PLUS LU3|SHESH PLUS KI|UD|URUDA"⟩,
  ⟨0x12517, "CUNEIFORM SIGN ", "LAK-724|LAK-749|LU2 GUNU TIMES ASH|LU2 TIMES DISH|LU2 TIMES HAL|LU2 TIMES PAP|LU2 TIMES PAP PLUS PAP PLUS LU3|LU2 TIMES TAK4|MI PLUS ZA7|MUSH OVER MUSH TIMES GA|MUSH OVER MUSH TIMES KAK"⟩,
  ⟨0x12522, "CUNEIFORM SIGN NINDA2 TIMES ", "DIM GUNU|GISH|GUL|HI|KESH2|LAK-050|MASH|PAP PLUS PAP|U|U PLUS U|URUDA"⟩,
  ⟨0x1252D, "CUNEIFORM SIGN ", "SAG GUNU TIMES HA|SAG TIMES EN|SAG TIMES SHE AT LEFT|SAG TIMES TAK4|SHA6 TENU|SHE OVER SHE|SHE PLUS HUB2|SHE PLUS NAM2|SHE PLUS SAR|SHU2 PLUS DUG TIMES NI|SHU2 PLUS E2 TIMES AN|SI TIMES TAK4|TAK4 PLUS SAG|TUM TIMES GAN2 TENU|TUM TIMES THREE DISH|UR2 INVERTED|UR2 TIMES UD|URU TIMES DARA3|URU TIMES LAK-668|URU TIMES LU3|ZA7|ZU OVER ZU PLUS SAR|ZU5 TIMES THREE DISH TENU"⟩,
  ⟨0x12F90, "CYPRO-MINOAN SIGN CM0", "01|02|04|05|06|07|08|09|10|11|12|12B|13|15|17|19|21|23|24|25|26|27|28|29|30|33|34|35|36|37|38|39|40|41|44|46|47|49|50|51|52|53|54|55|56|58|59|60|61|62|63|64|66|67|68|69|70|71|72|73|74|75|75B|76|78|79|80|81|82|83|84|85|86|87|88|89|90|91|92|94|95|96|97|98|99"⟩,
  ⟨0x12FE5, "CYPRO-MINOAN SIGN CM", "100|101|102|103|104|105|107|108|109|110|112|114|301|302"⟩,
  ⟨0x13000, "EGYPTIAN HIEROGLYPH A0", "01|02|03|04|05|05A|06|06A|06B|07|08|09|10|11|12|13|14|14A|15|16|17|17A|18|19|20|21|22|23|24|25|26|27|28|29|30|31|32|32A|33|34|35|36|37|38|39|40|40A|41|42|42A|43|43A|44|45|45A|46|47|48|49|50|51|52|53|54|55|56|57|58|59|60|61|62|63|64|65|66|67|68|69|70"⟩,
  ⟨0x13050, "EGYPTIAN HIEROGLYPH B00", "1|2|3|4|5|5A|6|7|8|9"⟩,
  ⟨0x1305A, "EGYPTIAN HIEROGLYPH C0", "01|02|02A|02B|02C|03|04|05|06|07|08|09|10|10A|11|12|13|14|15|16|17|18|19|20|21|22|23|24"⟩,
  ⟨0x13076, "EGYPTIAN HIEROGLYPH D0", "01|02|03|04|05|06|07|08|08A|09|10|11|12|13|14|15|16|17|18|19|20|21|22|23|24|25|26|27|27A|28|29|30|31|31A|32|33|34|34A|35|36|37|38|39|40|41|42|43|44|45|46|46A|47|48|48A|49|50|50A|50B|50C|50D|50E|50F|50G|50H|50I|51|52|52A|53|54|54A|55|56|57|58|59|60|61|62|63|64|65|66|67|67A|67B|67C|67D|67E|67F|67G|67H"⟩,
  ⟨0x130D2, "EGYPTIAN HIEROGLYPH E0", "01|02|03|04|05|06|07|08|08A|09|09A|10|11|12|13|14|15|16|16A|17|17A|18|19|20|20A|21|22|23|24|25|26|27|28|28A|29|30|31|32|33|34|34A|36|37|38"⟩,
  ⟨0x130FE, "EGYPTIAN HIEROGLYPH F0", "01|01A|02|03|04|05|06|07|08|09|10|11|12|13|13A|14|15|16|17|18|19|20|21|21A|22|23|24|25|26|27|28|29|30|31|31A|32|33|34|35|36|37|37A|38|38A|39|40|41|42|43|44|45|45A|46|46A|47|47A|48|49|50|51|51A|51B|51C|52|53"⟩,
  ⟨0x1313F, "EGYPTIAN HIEROGLYPH G0", "01|02|03|04|05|06|06A|07|07A|07B|08|09|10|11|11A|12|13|14|15|16|17|18|19|20|20A|21|22|23|24|25|26|26A|27|28|29|30|31|32|33|34|35|36|36A|37|37A|38|39|40|41|42|43|43A|44|45|45A|46|47|48|49|50|51|52|53|54"⟩,
  ⟨0x1317F, "EGYPTIAN HIEROGLYPH ", "H001|H002|H003|H004|H005|H006|H006A|H007|H008|I001|I002|I003|I004|I005|I005A|I006|I007|I008|I009|I009A|I010|I010A|I011|I011A|I012|I013|I014|I015|K001|K002|K003|K004|K005|K006|K007|K008|L001|L002|L002A|L003|L004|L005|L006|L006A|L007|L008"⟩,
  ⟨0x131AD, "EGYPTIAN HIEROGLYPH M0", "01|01A|01B|02|03|03A|04|05|06|07|08|09|10|10A|11|12|12A|12B|12C|12D|12E|12F|12G|12H|13|14|15|15A|16|16A|17|17A|18|19|20|21|22|22A|23|24|24A|25|26|27|28|28A|29|30|31|31A|32|33|33A|33B|34|35|36|37|38|39|40|40A|41|42|43|44"⟩,
  ⟨0x131EF, "EGYPTIAN HIEROGLYPH N0", "01|02|03|04|05|06|07|08|09|10|11|12|13|14|15|16|17|18|18A|18B|19|20|21|22|23|24|25|25A|26|27|28|29|30|31|32|33|33A|34|34A|35|35A|36|37|37A|38|39|40|41|42"⟩,
  ⟨0x13220, "EGYPTIAN HIEROGLYPH NL0", "01|02|03|04|05|05A|06|07|08|09|10|11|12|13|14|15|16|17|17A|18|19|20"⟩,
  ⟨0x13236, "EGYPTIAN HIEROGLYPH NU0", "01|02|03|04|05|06|07|08|09|10|10A|11|11A|12|13|14|15|16|17|18|18A|19|20|21|22|22A"⟩,
  ⟨0x13250, "EGYPTIAN HIEROGLYPH O0", "01|01A|02|03|04|05|05A|06|06A|06B|06C|06D|06E|06F|07|08|09|10|10A|10B|10C|11|12|13|14|15|16|17|18|19|19A|20|20A|21|22|23|24|24A|25|25A|26|27|28|29|29A|30|30A|31|32|33|33A|34|35|36|36A|36B|36C|36D|37|38|39|40|41|42|43|44|45|46|47|48|49|50|50A|50B|51"⟩,
  ⟨0x1329B, "EGYPTIAN HIEROGLYPH ", "P001|P001A|P002|P003|P003A|P004|P005|P006|P007|P008|P009|P010|P011|Q001|Q002|Q003|Q004|Q005|Q006|Q007"⟩,
  ⟨0x132AF, "EGYPTIAN HIEROGLYPH R0", "01|02|02A|03|03A|03B|04|05|06|07|08|09|10|10A|11|12|13|14|15|16|16A|17|18|19|20|21|22|23|24|25|26|27|28|29"⟩,
  ⟨0x132D1, "EGYPTIAN HIEROGLYPH S0", "01|02|02A|03|04|05|06|06A|07|08|09|10|11|12|13|14|14A|14B|15|16|17|17A|18|19|20|21|22|23|24|25|26|26A|26B|27|28|29|30|31|32|33|34|35|35A|36|37|38|39|40|41|42|43|44|45|46"⟩,
  ⟨0x13307, "EGYPTIAN HIEROGLYPH T0", "01|02|03|03A|04|05|06|07|07A|08|08A|09|09A|10|11|11A|12|13|14|15|16|16A|17|18|19|20|21|22|23|24|25|26|27|28|29|30|31|32|32A|33|33A|34|35|36"⟩,
  ⟨0x13333, "EGYPTIAN HIEROGLYPH U0", "01|02|03|04|05|06|06A|06B|07|08|09|10|11|12|13|14|15|16|17|18|19|20|21|22|23|23A|24|25|26|27|28|29|29A|30|31|32|32A|33|34|35|36|37|38|39|40|41|42"⟩,
  ⟨0x13362, "EGYPTIAN HIEROGLYPH V0", "01|01A|01B|01C|01D|01E|01F|01G|01H|01I|02|02A|03|04|05|06|07|07A|07B|08|09|10|11|11A|11B|11C|12|12A|12B|13|14|15|16|17|18|19|20|20A|20B|20C|20D|20E|20F|20G|20H|20I|20J|20K|20L|21|22|23|23A|24|25|26|27|28|28A|29|29A|30|30A|31|31A|32|33|33A|34|35|36|37|37A|38|39|40|40A"⟩,
  ⟨0x133AF, "EGYPTIAN HIEROGLYPH W0", "01|02|03|03A|04|05|06|07|08|09|09A|10|10A|11|12|13|14|14A|15|16|17|17A|18|18A|19|20|21|22|23|24|24A|25"⟩,
  ⟨0x133CF, "EGYPTIAN HIEROGLYPH X00", "1|2|3|4|4A|4B|5|6|6A|7|8|8A"⟩,
  ⟨0x133DB, "EGYPTIAN HIEROGLYPH Y00", "1|1A|2|3|4|5|6|7|8"⟩,
  ⟨0x133E4, "EGYPTIAN HIEROGLYPH Z0", "01|02|02A|02B|02C|02D|03|03A|03B|04|04A|05|05A|06|07|08|09|10|11|12|13|14|15|15A|15B|15C|15D|15E|15F|15G|15H|15I|16|16A|16B|16C|16D|16E|16F|16G|16H"⟩,
  ⟨0x1340D, "EGYPTIAN HIEROGLYPH AA0", "01|02|03|04|05|06|07|07A|07B|08|09|10|11|12|13|14|15|16|17|18|19|20|21|22|23|24|25|26|27|28|29|30|31|32"⟩,
  ⟨0x13430, "EGYPTIAN HIEROGLYPH ", "VERTICAL JOINER|HORIZONTAL JOINER|INSERT AT TOP START|INSERT AT BOTTOM START|INSERT AT TOP END|INSERT AT BOTTOM END|OVERLAY MIDDLE|BEGIN SEGMENT|END SEGMENT"⟩,
  ⟨0x14400, "ANATOLIAN HIEROGLYPH A0", "01|02|03|04|05|06|07|08|09|10|10A|11|12|13|14|15|16|17|18|19|20|21|22|23|24|25|26|26A|27|28|29|30|31|32|33|34|35|36|37|38|39|39A|40|41|41A|42|43|44|45|45A|46|46A|46B|47|48|49|50|51|52|53|54|55|56|57|58|59|60|61|62|63|64|65|66|66A|66B|66C|67|68|69|70|71|72|73|74|75|76|77|78|79|80|81|82|83|84|85|86|87|88|89|90|91|92|93|94|95|96|97|97A|98|98A|99"⟩,
  ⟨0x1446F, "ANATOLIAN HIEROGLYPH A1", "00|00A|01|01A|02|02A|03|04|04A|04B|04C|05|05A|05B|06|07|07A|07B|07C|08|09|10|10A|10B|11|12|13|14|15|15A|16|17|18|19|20|21|22|23|24|25|25A|26|27|28|29|30|31|32|33|34|35|35A|36|37|38|39|40|41|42|43|44|45|46|47|48|49|50|51|52|53|54|55|56|57|58|59|60|61|62|63|64|65|66|67|68|69|70|71|72|73|74|75|76|77|78|79|80|81|82|83|84|85|86|87|88|89|90|91|92|93|94|95|96|97|98|99"⟩,
  ⟨0x144E3, "ANATOLIAN HIEROGLYPH A2", "00|01|02|02A|02B|03|04|05|06|07|07A|08|09|09A|10|11|12|13|14|15|15A|16|16A|17|18|19|20|21|22|23|24|25|26|27|27A|28|29|30|31|32|33|34|35|36|37|38|39|40|41|42|43|44|45|46|47|48|49|50|51|52|53|54|55|56|57|58|59|60|61|62|63|64|65|66|67|67A|68|69|70|71|72|73|74|75|76|77|78|79|80|81|82|83|84|85|86|87|88|89|89A|90|91|92|93|94|94A|95|96|97|98|99|99A"⟩,
  ⟨0x14552, "ANATOLIAN HIEROGLYPH A3", "00|01|02|03|04|05|06|07|08|09|09A|10|11|12|13|14|15|16|17|18|19|20|21|22|23|24|25|26|27|28|29|29A|30|31|32A|32B|32C|33|34|35|36|36A|36B|36C|37|38|39|40|41|42|43|44|45|46|47|48|49|50|51|52|53|54|55|56|57|58|59|59A|60|61|62|63|64|64A|65|66|67|68|68A|69|70|71|71A|72|73|74|75|76|77|78|79|80|81|81A|82|83 RA OR RI|83A|84|85|86|86A|87|88|89|90|91|92|93 EIGHT|94|95|96|97|98|99"⟩,
  ⟨0x145C4, "ANATOLIAN HIEROGLYPH A4", "00|01|02|03|04|05|06|07|08|09|10 BEGIN LOGOGRAM MARK|10A END LOGOGRAM MARK|11|12|13|14|15|16|17|18|19|20|21|22|23|24|25|26|27|28|29|30|31|32|33|34|35|36|37|38|39|40|41|42|43|44|45|46|47|48|49|50|50A|51|52|53|54|55|56|57|57A|58|59|60|61|62|63|64|65|66|67|68|69|70|71|72|73|74|75|76|77|78|79|80|81|82|83|84|85|86|87|88|89|90|91|92|93|94|95|96|97"⟩,
  ⟨0x14629, "ANATOLIAN HIEROGLYPH A5", "01|02|03|04|05|06|07|08|09|10|11|12|13|14|15|16|17|18|19|20|21|22|23|24|25|26|27|28|29|30"⟩,
  ⟨0x16800, "BAMUM LETTER PHASE-A ", "NGKUE MFON|GBIEE FON|PON MFON PIPAEMGBIEE|PON MFON PIPAEMBA|NAA MFON|SHUENSHUET|TITA MFON|NZA MFON|SHINDA PA NJI|PON PA NJI PIPAEMGBIEE|PON PA NJI PIPAEMBA|MAEMBGBIEE|TU MAEMBA|NGANGU|MAEMVEUX|MANSUAE|MVEUAENGAM|SEUNYAM|NTOQPEN|KEUKEUTNDA|NKINDI|SUU|NGKUENZEUM|LAPAQ|LET KUT|NTAP MFAA|MAEKEUP|PASHAE|GHEUAERAE|PAMSHAE|MON NGGEUAET|NZUN MEUT|U YUQ NAE|GHEUAEGHEUAE|NTAP NTAA|SISA|MGBASA|MEUNJOMNDEUQ|MOOMPUQ|KAFA|PA LEERAEWA|NDA LEERAEWA|PET|MAEMKPEN|NIKA|PUP|TUAEP|LUAEP|SONJAM|TEUTEUWEN|MAENYI|KET|NDAANGGEUAET|KUOQ|MOOMEUT|SHUM|LOMMAE|FIRI|ROM|KPOQ|SOQ|MAP PIEET|SHIRAE|NTAP|SHOQ NSHUT YUM|NYIT MONGKEUAEQ|PAARAE|NKAARAE|UNKNOWN|NGGEN|MAESI|NJAM|MBANYI|NYET|TEUAEN|SOT|PAAM|NSHIEE|MAEM|NYI|KAQ|NSHA|VEE|LU|NEN|NAQ|MBAQ"⟩,
  ⟨0x16857, "BAMUM LETTER PHASE-B ", "NSHUET|TU MAEMGBIEE|SIEE|SET TU|LOM NTEUM|MBA MAELEE|KIEEM|YEURAE|MBAARAE|KAM|PEESHI|YAFU LEERAEWA|LAM NSHUT NYAM|NTIEE SHEUOQ|NDU NJAA|GHEUGHEUAEM|PIT|TU NSIEE|SHET NJAQ|SHEUAEQTU|MFON TEUAEQ|MBIT MBAAKET|NYI NTEUM|KEUPUQ|GHEUGHEN|KEUYEUX|LAANAE|PARUM|VEUM|NGKINDI MVOP|NGGEU MBU|WUAET|SAKEUAE|TAAM|MEUQ|NGGUOQ|NGGUOQ LARGE|MFIYAQ|SUE|MBEURI|MONTIEEN|NYAEMAE|PUNGAAM|MEUT NGGEET|FEUX|MBUOQ|FEE|KEUAEM|MA NJEUAENA|MA NJUQA|LET|NGGAAM|NSEN|MA|KIQ|NGOM"⟩,
  ⟨0x1688F, "BAMUM LETTER PHASE-C ", "NGKUE MAEMBA|NZA|YUM|WANGKUOQ|NGGEN|NDEUAEREE|NGKAQ|GHARAE|MBEEKEET|GBAYI|NYIR MKPARAQ MEUN|NTU MBIT|MBEUM|PIRIEEN|NDOMBU|MBAA CABBAGE-TREE|KEUSHEUAEP|GHAP|KEUKAQ|YU MUOMAE|NZEUM|MBUE|NSEUAEN|MBIT|YEUQ|KPARAQ|KAA|SEUX|NDIDA|TAASHAE|NJUEQ|TITA YUE|SUAET|NGGUAEN NYAM|VEUX|NANSANAQ|MA KEUAERI|NTAA|NGGUON|LAP|MBIRIEEN|MGBASAQ|NTEUNGBA|TEUTEUX|NGGUM|FUE|NDEUT|NSA|NSHAQ|BUNG|VEUAEPEN|MBERAE|RU|NJAEM|LAM|TITUAEP|NSUOT NGOM|NJEEEE|KET|NGGU|MAESI|MBUAEM|LU|KUT|NJAM|NGOM|WUP|NGGUEET|NSOM|NTEN|KUOP NKAARAE|NSUN|NDAM|MA NSIEE|YAA|NDAP|SHUEQ|SETFON|MBI|MAEMBA|MBANYI|KEUSEUX|MBEUX|KEUM|MBAA PICKET|YUWOQ|NJEUX|MIEE|MUAE|SHIQ|KEN LAW|KEN FATIGUE|NGAQ|NAQ|LIQ|PIN|PEN|TET"⟩,
  ⟨0x168F1, "BAMUM LETTER PHASE-D ", "MBUO|WAP|NJI|MFON|NJIEE|LIEE|NJEUT|NSHEE|NGGAAMAE|NYAM|WUAEN|NGKUN|SHEE|NGKAP|KEUAETMEUN|TEUT|SHEUAE|NJAP|SUE|KET|YAEMMAE|KUOM|SAP|MFEUT|NDEUX|MALEERI|MEUT|SEUAEQ|YEN|NJEUAEM|KEUOT MBUAE|NGKEURI|TU|GHAA|NGKYEE|FEUFEUAET|NDEE|MGBOFUM|LEUAEP|NDON|MONI|MGBEUN|PUUT|MGBIEE|MFO|LUM|NSIEEP|MBAA|KWAET|NYET|TEUAEN|SOT|YUWOQ|KEUM|RAEM|TEEEE|NGKEUAEQ|MFEUAE|NSIEET|KEUP|PIP|PEUTAE|NYUE|LET|NGGAAM|MFIEE|NGGWAEN|YUOM|PAP|YUOP|NDAM|NTEUM|SUAE|KUN|NGGEUX|NGKIEE|TUOT|MEUN|KUQ|NSUM|TEUN|MAENJET|NGGAP|LEUM|NGGUOM|NSHUT|NJUEQ|GHEUAE|KU|REN OLD|TAE|TOQ|NYI|RII|LEEEE|MEEEE|M|SUU|MU|SHII|SHEUX|KYEE|NU|SHU|NTEE|PEE|NI|SHOQ|PUQ|MVOP|LOQ|REN MUCH|TI|NTUU|MBAA SEVEN|SAQ|FAA"⟩,
  ⟨0x16966, "BAMUM LETTER PHASE-E ", "NDAP|TOON|MBEUM|LAP|VOM|LOON|PAA|SOM|RAQ|NSHUOP|NDUN|PUAE|TAM|NGKA|KPEUX|WUO|SEE|NGGEUAET|PAAM|TOO|KUOP|LOM|NSHIEE|NGOP|MAEM|NGKEUX|NGOQ|NSHUE|RIMGBA|NJEUX|PEEM|SAA|NGGURAE|MGBA|GHEUX|NGKEUAEM|NJAEMLI|MAP|LOOT|NGGEEEE|NDIQ|TAEN NTEUM|SET|PUM|NDAA SOFTNESS|NGGUAESHAE NYAM|YIEE|GHEUN|TUAE|YEUAE|PO|TUMAE|KEUAE|SUAEN|TEUAEQ|VEUAE|WEUX|LAAM|PU|TAAQ|GHAAMAE|NGEUREUT|SHEUAEQ|MGBEN|MBEE|NZAQ|NKOM|GBET|TUM|KUET|YAP|NYI CLEAVER|YIT|MFEUQ|NDIAQ|PIEEQ|YUEQ|LEUAEM|FUE|GBEUX|NGKUP|KET|MAE|NGKAAMI|GHET|FA|NTUM|PEUT|YEUM|NGGEUAE|NYI BETWEEN|NZUQ|POON|MIEE|FUET|NAE|MUAE|GHEUAE|FU I|MVI|PUAQ|NGKUM|KUT|PIET|NTAP|YEUAET|NGGUP|PA PEOPLE|FU CALL|FOM|NJEE|A|TOQ|O|I|LAQ|PA PLURAL|TAA|TAQ|NDAA MY HOUSE|SHIQ|YEUX|NGUAE|YUAEN|YOQ SWIMMING|YOQ COVER|YUQ|YUN|KEUX|PEUX|NJEE EPOCH|PUE|WUE|FEE|VEE|LU|MI|REUX|RAE|NGUAET|NGA|SHO|SHOQ|FU REMEDY|NA|PI|LOQ|KO|MEN|MA|MAQ|TEU|KI|MON|TEN|FAQ|GHOM"⟩,
  ⟨0x16A03, "BAMUM LETTER PHASE-F ", "KA|U|KU|EE|REE|TAE|NYI|LA|RII|RIEE|MEEEE|TAA|NDAA|NJAEM|M|SUU|SHII|SI|SEUX|KYEE|KET|NUAE|NU|NJUAE|YOQ|SHU|YA|NSHA|PEUX|NTEE|WUE|PEE|RU|NI|REUX|KEN|NGKWAEN|NGGA|SHO|PUAE|FOM|WA|LI|LOQ|KO|MBEN|REN|MA|MO|MBAA|TET|KPA|SAMBA|VUEQ"⟩,
  ⟨0x16A40, "MRO LETTER ", "TA|NGI|YO|MIM|BA|DA|A|PHI|KHAI|HAO|DAI|CHU|KEAAE|OL|MAEM|NIN|PA|OO|O|RO|SHI|THEA|EA|WA|E|KO|LAN|LA|HAI|RI|TEK"⟩,
  ⟨0x16A60, "MRO DIGIT ", "ZERO|ONE|TWO|THREE|FOUR|FIVE|SIX|SEVEN|EIGHT|NINE"⟩,
  ⟨0x16A6E, "MRO D", "ANDA|OUBLE DANDA"⟩,
  ⟨0x16A70, "TANGSA LETTER ", "OZ|OC|OQ|OX|AZ|AC|AQ|AX|VZ|VC|VQ|VX|EZ|EC|EQ|EX|IZ|IC|IQ|IX|UZ|UC|UQ|UX|AWZ|AWC|AWQ|AWX|UIZ|UIC|UIQ|UIX|FINAL NG|LONG UEX|SHORT UEZ|SHORT AWX|UEC|UEZ|UEQ|UEX|UIUZ|UIUC|UIUQ|UIUX|MZ|MC|MQ|MX|KA|KHA|GA|NGA|SA|YA|WA|PA|NYA|PHA|BA|MA|NA|HA|LA|HTA|TA|DA|RA|NHA|SHA|CA|TSA|GHA|HTTA|THA|XA|FA|DHA|CHA|ZA"⟩,
  ⟨0x16AC0, "TANGSA DIGIT ", "ZERO|ONE|TWO|THREE|FOUR|FIVE|SIX|SEVEN|EIGHT|NINE"⟩,
  ⟨0x16AD0, "BASSA VAH LETTER ", "ENNI|KA|SE|FA|MBE|YIE|GAH|DHII|KPAH|JO|HWAH|WA|ZO|GBU|DO|CE|UWU|TO|BA|VU|YEIN|PA|WADDA|A|O|OO|U|EE|E|I"⟩,
  ⟨0x16AF0, "BASSA VAH COMBINING ", "HIGH TONE|LOW TONE|MID TONE|LOW-MID TONE|HIGH-LOW TONE"⟩,
  ⟨0x16AF5, "BASSA VAH FULL STOP", ""⟩,
  ⟨0x16B00, "PAHAWH HMONG VOWEL K", "EEB|EEV|IB|IV|AUB|AUV|UB|UV|EB|EV|AIB|AIV|OOB|OOV|AWB|AWV|UAB|UAV|OB|OV|IAB|IAV|AB|AV|WB|WV|AAB|AAV"⟩,
  ⟨0x16B1C, "PAHAWH HMONG CONSONANT ", "VAU|NTSAU|LAU|HAU|NLAU|RAU|NKAU|QHAU|YAU|HLAU|MAU|CHAU|NCHAU|HNAU|PLHAU|NTHAU|NAU|AU|XAU|CAU"⟩,
  ⟨0x16B30, "PAHAWH HMONG MARK CIM ", "TUB|SO|KES|KHAV|SUAM|HOM|TAUM"⟩,
  ⟨0x16B37, "PAHAWH HMONG SIGN ", "VOS THOM|VOS TSHAB CEEB|CIM CHEEM|VOS THIAB|VOS FEEM|XYEEM NTXIV|XYEEM RHO|XYEEM TOV|XYEEM FAIB|VOS SEEV|MEEJ SUAB|VOS NRUA|IB YAM|XAUS|CIM TSOV ROG"⟩,
  ⟨0x16B50, "PAHAWH HMONG DIGIT ", "ZERO|ONE|TWO|THREE|FOUR|FIVE|SIX|SEVEN|EIGHT|NINE"⟩,
  ⟨0x16B5B, "PAHAWH HMONG NUMBER ", "TENS|HUNDREDS|TEN THOUSANDS|MILLIONS|HUNDRED MILLIONS|TEN BILLIONS|TRILLIONS"⟩,
  ⟨0x16B63, "PAHAWH HMONG SIGN ", "VOS LUB|XYOO|HLI|THIRD-STAGE HLI|ZWJ THAJ|HNUB|NQIG|XIAB|NTUJ|AV|TXHEEJ CEEV|MEEJ TSEEB|TAU|LOS|MUS|CIM HAIS LUS NTOG NTOG|CIM CUAM TSHOOJ|CIM TXWV|CIM TXWV CHWV|CIM PUB DAWB|CIM NRES TOS"⟩,
  ⟨0x16B7D, "PAHAWH HMONG CLAN SIGN ", "TSHEEJ|YEEG|LIS|LAUJ|XYOOJ|KOO|HAWJ|MUAS|THOJ|TSAB|PHAB|KHAB|HAM|VAJ|FAJ|YAJ|TSWB|KWM|VWJ"⟩,
  ⟨0x16E40, "MEDEFAIDRIN CAPITAL LETTER ", "M|S|V|W|ATIU|Z|KP|P|T|G|F|I|K|A|J|E|B|C|U|YU|L|Q|HP|NY|X|D|OE|N|R|O|AI|Y"⟩,
  ⟨0x16E60, "MEDEFAIDRIN SMALL LETTER ", "M|S|V|W|ATIU|Z|KP|P|T|G|F|I|K|A|J|E|B|C|U|YU|L|Q|HP|NY|X|D|OE|N|R|O|AI|Y"⟩,
  ⟨0x16E80, "MEDEFAIDRIN DIGIT ", "ZERO|ONE|TWO|THREE|FOUR|FIVE|SIX|SEVEN|EIGHT|NINE"⟩,
  ⟨0x16E8A, "MEDEFAIDRIN NUMBER ", "TEN|ELEVEN|TWELVE|THIRTEEN|FOURTEEN|FIFTEEN|SIXTEEN|SEVENTEEN|EIGHTEEN|NINETEEN"⟩,
  ⟨0x16E94, "MEDEFAIDRIN ", "DIGIT ONE ALTERNATE FORM|DIGIT TWO ALTERNATE FORM|DIGIT THREE ALTERNATE FORM|COMMA|FULL STOP|SYMBOL AIVA|EXCLAMATION OH"⟩,
  ⟨0x16F00, "MIAO LETTER ", "PA|BA|YI PA|PLA|MA|MHA|ARCHAIC MA|FA|VA|VFA|TA|DA|YI TTA|YI TA|TTA|DDA|NA|NHA|YI NNA|ARCHAIC NA|NNA|NNHA|LA|LYA|LHA|LHYA|TLHA|DLHA|TLHYA|DLHYA|KA|GA|YI KA|QA|QGA|NGA|NGHA|ARCHAIC NGA|HA|XA|GHA|GHHA|TSSA|DZZA|NYA|NYHA|TSHA|DZHA|YI TSHA|YI DZHA|REFORMED TSHA|SHA|SSA|ZHA|ZSHA|TSA|DZA|YI TSA|SA|ZA|ZSA|ZZA|ZZSA|ARCHAIC ZZA|ZZYA|ZZSYA|WA|AH|HHA|BRI|SYI|DZYI|TE|TSE|RTE"⟩,
  ⟨0x16F4F, "MIAO ", "SIGN CONSONANT MODIFIER BAR|LETTER NASALIZATION|SIGN ASPIRATION|SIGN REFORMED VOICING|SIGN REFORMED ASPIRATION"⟩,
  ⟨0x16F54, "MIAO VOWEL SIGN ", "A|AA|AHH|AN|ANG|O|OO|WO|W|E|EN|ENG|OEY|I|IA|IAN|IANG|IO|IE|II|IU|ING|U|UA|UAN|UANG|UU|UEI|UNG|Y|YI|AE|AEE|ERR|ROUNDED ERR|ER|ROUNDED ER|AI|EI|AU|OU|N|NG|UOG|YUI|OG|OER|VW|IG|EA|IONG|UI"⟩,
  ⟨0x16F8F, "MIAO TONE ", "RIGHT|TOP RIGHT|ABOVE|BELOW"⟩,
  ⟨0x16F93, "MIAO LETTER TONE-", "2|3|4|5|6|7|8"⟩,
  ⟨0x16F9A, "MIAO LETTER REFORMED TONE-", "1|2|4|5|6|8"⟩,
  ⟨0x16FE0, "", "TANGUT ITERATION MARK|NUSHU ITERATION MARK|OLD CHINESE HOOK MARK|OLD CHINESE ITERATION MARK|KHITAN SMALL SCRIPT FILLER"⟩,
  ⟨0x16FF0, "VIETNAMESE ALTERNATE READING MARK ", "CA|NHAY"⟩,
  ⟨0x18800, "TANGUT COMPONENT-0", "01|02|03|04|05|06|07|08|09|10|11|12|13|14|15|16|17|18|19|20|21|22|23|24|25|26|27|28|29|30|31|32|33|34|35|36|37|38|39|40|41|42|43|44|45|46|47|48|49|50|51|52|53|54|55|56|57|58|59|60|61|62|63|64|65|66|67|68|69|70|71|72|73|74|75|76|77|78|79|80|81|82|83|84|85|86|87|88|89|90|91|92|93|94|95|96|97|98|99"⟩,
  ⟨0x18863, "TANGUT COMPONENT-1", "00|01|02|03|04|05|06|07|08|09|10|11|12|13|14|15|16|17|18|19|20|21|22|23|24|25|26|27|28|29|30|31|32|33|34|35|36|37|38|39|40|41|42|43|44|45|46|47|48|49|50|51|52|53|54|55|56|57|58|59|60|61|62|63|64|65|66|67|68|69|70|71|72|73|74|75|76|77|78|79|80|81|82|83|84|85|86|87|88|89|90|91|92|93|94|95|96|97|98|99"⟩,
  ⟨0x188C7, "TANGUT COMPONENT-2", "00|01|02|03|04|05|06|07|08|09|10|11|12|13|14|15|16|17|18|19|20|21|22|23|24|25|26|27|28|29|30|31|32|33|34|35|36|37|38|39|40|41|42|43|44|45|46|47|48|49|50|51|52|53|54|55|56|57|58|59|60|61|62|63|64|65|66|67|68|69|70|71|72|73|74|75|76|77|78|79|80|81|82|83|84|85|86|87|88|89|90|91|92|93|94|95|96|97|98|99"⟩,
  ⟨0x1892B, "TANGUT COMPONENT-3", "00|01|02|03|04|05|06|07|08|09|10|11|12|13|14|15|16|17|18|19|20|21|22|23|24|25|26|27|28|29|30|31|32|33|34|35|36|37|38|39|40|41|42|43|44|45|46|47|48|49|50|51|52|53|54|55|56|57|58|59|60|61|62|63|64|65|66|67|68|69|70|71|72|73|74|75|76|77|78|79|80|81|82|83|84|85|86|87|88|89|90|91|92|93|94|95|96|97|98|99"⟩,
  ⟨0x1898F, "TANGUT COMPONENT-4", "00|01|02|03|04|05|06|07|08|09|10|11|12|13|14|15|16|17|18|19|20|21|22|23|24|25|26|27|28|29|30|31|32|33|34|35|36|37|38|39|40|41|42|43|44|45|46|47|48|49|50|51|52|53|54|55|56|57|58|59|60|61|62|63|64|65|66|67|68|69|70|71|72|73|74|75|76|77|78|79|80|81|82|83|84|85|86|87|88|89|90|91|92|93|94|95|96|97|98|99"⟩,
  ⟨0x189F3, "TANGUT COMPONENT-5", "00|01|02|03|04|05|06|07|08|09|10|11|12|13|14|15|16|17|18|19|20|21|22|23|24|25|26|27|28|29|30|31|32|33|34|35|36|37|38|39|40|41|42|43|44|45|46|47|48|49|50|51|52|53|54|55|56|57|58|59|60|61|62|63|64|65|66|67|68|69|70|71|72|73|74|75|76|77|78|79|80|81|82|83|84|85|86|87|88|89|90|91|92|93|94|95|96|97|98|99"⟩,
  ⟨0x18A57, "TANGUT COMPONENT-6", "00|01|02|03|04|05|06|07|08|09|10|11|12|13|14|15|16|17|18|19|20|21|22|23|24|25|26|27|28|29|30|31|32|33|34|35|36|37|38|39|40|41|42|43|44|45|46|47|48|49|50|51|52|53|54|55|56|57|58|59|60|61|62|63|64|65|66|67|68|69|70|71|72|73|74|75|76|77|78|79|80|81|82|83|84|85|86|87|88|89|90|91|92|93|94|95|96|97|98|99"⟩,
  ⟨0x18ABB, "TANGUT COMPONENT-7", "00|01|02|03|04|05|06|07|08|09|10|11|12|13|14|15|16|17|18|19|20|21|22|23|24|25|26|27|28|29|30|31|32|33|34|35|36|37|38|39|40|41|42|43|44|45|46|47|48|49|50|51|52|53|54|55|56|57|58|59|60|61|62|63|64|65|66|67|68"⟩,
  ⟨0x1AFF0, "KATAKANA LETTER MINNAN TONE-", "2|3|4|5"⟩,
  ⟨0x1AFF5, "KATAKANA LETTER MINNAN TONE-", "7|8"⟩,
  ⟨0x1AFF7, "KATAKANA LETTER MINNAN NASALIZED TONE-", "1|2|3|4|5"⟩,
  ⟨0x1AFFD, "KATAKANA LETTER MINNAN NASALIZED TONE-", "7|8"⟩,
  ⟨0x1B000, "", "KATAKANA LETTER ARCHAIC E|HIRAGANA LETTER ARCHAIC YE"⟩,
  ⟨0x1B002, "HENTAIGANA LETTER ", "A-1|A-2|A-3|A-WO|I-1|I-2|I-3|I-4|U-1|U-2|U-3|U-4|U-5|E-2|E-3|E-4|E-5|E-6|O-1|O-2|O-3|KA-1|KA-2|KA-3|KA-4|KA-5|KA-6|KA-7|KA-8|KA-9|KA-10|KA-11|KA-KE|KI-1|KI-2|KI-3|KI-4|KI-5|KI-6|KI-7|KI-8|KU-1|KU-2|KU-3|KU-4|KU-5|KU-6|KU-7|KE-1|KE-2|KE-3|KE-4|KE-5|KE-6|KO-1|KO-2|KO-3|KO-KI|SA-1|SA-2|SA-3|SA-4|SA-5|SA-6|SA-7|SA-8|SI-1|SI-2|SI-3|SI-4|SI-5|SI-6|SU-1|SU-2|SU-3|SU-4|SU-5|SU-6|SU-7|SU-8|SE-1|SE-2|SE-3|SE-4|SE-5|SO-1|SO-2|SO-3|SO-4|SO-5|SO-6|SO-7|TA-1|TA-2|TA-3|TA-4|TI-1|TI-2|TI-3|TI-4|TI-5|TI-6|TI-7|TU-1|TU-2|TU-3|TU-4|TU-TO|TE-1|TE-2|TE-3|TE-4|TE-5|TE-6|TE-7|TE-8|TE-9|TO-1|TO-2|TO-3|TO-4|TO-5|TO-6|TO-RA|NA-1|NA-2|NA-3|NA-4|NA-5|NA-6|NA-7|NA-8|NA-9|NI-1|NI-2|NI-3|NI-4|NI-5|NI-6|NI-7|NI-TE|NU-1|NU-2|NU-3|NE-1|NE-2|NE-3|NE-4|NE-5|NE-6|NE-KO|NO-1|NO-2|NO-3|NO-4|NO-5|HA-1|HA-2|HA-3|HA-4|HA-5|HA-6|HA-7|HA-8|HA-9|HA-10|HA-11|HI-1|HI-2|HI-3|HI-4|HI-5|HI-6|HI-7|HU-1|HU-2|HU-3|HE-1|HE-2|HE-3|HE-4|HE-5|HE-6|HE-7|HO-1|HO-2|HO-3|HO-4|HO-5|HO-6|HO-7|HO-8|MA-1|MA-2|MA-3|MA-4|MA-5|MA-6|MA-7|MI-1|MI-2|MI-3|MI-4|MI-5|MI-6|MI-7|MU-1|MU-2|MU-3|MU-4|ME-1|ME-2|ME-MA|MO-1|MO-2|MO-3|MO-4|MO-5|MO-6|YA-1|YA-2|YA-3|YA-4|YA-5|YA-YO|YU-1|YU-2|YU-3|YU-4|YO-1|YO-2|YO-3|YO-4|YO-5|YO-6|RA-1|RA-2|RA-3|RA-4|RI-1|RI-2|RI-3|RI-4|RI-5|RI-6|RI-7|RU-1|RU-2|RU-3|RU-4|RU-5|RU-6|RE-1|RE-2|RE-3|RE-4|RO-1|RO-2|RO-3|RO-4|RO-5|RO-6|WA-1|WA-2|WA-3|WA-4|WA-5|WI-1|WI-2|WI-3|WI-4|WI-5|WE-1|WE-2|WE-3|WE-4|WO-1|WO-2|WO-3|WO-4|WO-5|WO-6|WO-7|N-MU-MO-1|N-MU-MO-2"⟩,
  ⟨0x1B11F, "HIRAGANA LETTER ARCHAIC WU", ""⟩,
  ⟨0x1B120, "KATAKANA LETTER ARCHAIC ", "YI|YE|WU"⟩,
  ⟨0x1B150, "HIRAGANA LETTER SMALL W", "I|E|O"⟩,
  ⟨0x1B164, "KATAKANA LETTER SMALL ", "WI|WE|WO|N"⟩,
  ⟨0x1BC00, "DUPLOYAN LETTER ", "H|X|P|T|F|K|L|B|D|V|G|R|P N|D S|F N|K M|R S|TH|SLOAN DH|DH|KK|SLOAN J|HL|LH|RH|M|N|J|S|M N|N M|J M|S J|M WITH DOT|N WITH DOT|J WITH DOT|J WITH DOTS INSIDE AND ABOVE|S WITH DOT|S WITH DOT BELOW|M S|N S|J S|S S|M N S|N M S|J M S|S J S|J S WITH DOT|J N|J N S|S T|S T R|S P|S P R|T S|T R S|W|WH|W R|S N|S M|K R S|G R S|S K|S K R|A|SLOAN OW|OA|O|AOU|I|E|IE|SHORT I|UI|EE|SLOAN EH|ROMANIAN I|SLOAN EE|LONG I|YE|U|EU|XW|U N|LONG U|ROMANIAN U|UH|SLOAN U|OOH|OW|OU|WA|WO|WI|WEI|WOW|NASAL U|NASAL O|NASAL I|NASAL A|PERNIN AN|PERNIN AM|SLOAN EN|SLOAN AN|SLOAN ON|VOCALIC M"⟩,
  ⟨0x1BC70, "DUPLOYAN AFFIX ", "LEFT HORIZONTAL SECANT|MID HORIZONTAL SECANT|RIGHT HORIZONTAL SECANT|LOW VERTICAL SECANT|MID VERTICAL SECANT|HIGH VERTICAL SECANT"⟩,
  ⟨0x1BC76, "DUPLOYAN AFFIX ATTACHED ", "SECANT|LEFT-TO-RIGHT SECANT|TANGENT|TAIL|E HOOK|I HOOK|TANGENT HOOK"⟩,
  ⟨0x1BC80, "DUPLOYAN AFFIX HIGH ", "ACUTE|TIGHT ACUTE|GRAVE|LONG GRAVE|DOT|CIRCLE|LINE|WAVE|VERTICAL"⟩,
  ⟨0x1BC90, "DUPLOYAN AFFIX LOW ", "ACUTE|TIGHT ACUTE|GRAVE|LONG GRAVE|DOT|CIRCLE|LINE|WAVE|VERTICAL|ARROW"⟩,
  ⟨0x1BC9C, "DUPLOYAN ", "SIGN O WITH CROSS|THICK LETTER SELECTOR|DOUBLE MARK|PUNCTUATION CHINOOK FULL STOP"⟩,
  ⟨0x1BCA0, "SHORTHAND FORMAT ", "LETTER OVERLAP|CONTINUING OVERLAP|DOWN STEP|UP STEP"⟩,
  ⟨0x1CF00, "ZNAMENNY COMBINING MARK ", "GORAZDO NIZKO S KRYZHEM ON LEFT|NIZKO S KRYZHEM ON LEFT|TSATA ON LEFT|GORAZDO NIZKO ON LEFT|NIZKO ON LEFT|SREDNE ON LEFT|MALO POVYSHE ON LEFT|POVYSHE ON LEFT|VYSOKO ON LEFT|MALO POVYSHE S KHOKHLOM ON LEFT|POVYSHE S KHOKHLOM ON LEFT|VYSOKO S KHOKHLOM ON LEFT|GORAZDO NIZKO S KRYZHEM ON RIGHT|NIZKO S KRYZHEM ON RIGHT|TSATA ON RIGHT|GORAZDO NIZKO ON RIGHT|NIZKO ON RIGHT|SREDNE ON RIGHT|MALO POVYSHE ON RIGHT|POVYSHE ON RIGHT|VYSOKO ON RIGHT|MALO POVYSHE S KHOKHLOM ON RIGHT|POVYSHE S KHOKHLOM ON RIGHT|VYSOKO S KHOKHLOM ON RIGHT|TSATA S KRYZHEM|MALO POVYSHE S KRYZHEM|STRANNO MALO POVYSHE|POVYSHE S KRYZHEM|POVYSHE STRANNO|VYSOKO S KRYZHEM|MALO POVYSHE STRANNO|GORAZDO VYSOKO|ZELO|ON|RAVNO|TIKHAYA|BORZAYA|UDARKA|PODVERTKA|LOMKA|KUPNAYA|KACHKA|ZEVOK|SKOBA|RAZSEKA|KRYZH ON LEFT"⟩,
  ⟨0x1CF30, "ZNAMENNY COMBINING TONAL RANGE MARK ", "MRACHNO|SVETLO|TRESVETLO"⟩,
  ⟨0x1CF33, "ZNAMENNY COMBINING MARK ", "ZADERZHKA|DEMESTVENNY ZADERZHKA|OTSECHKA|PODCHASHIE|PODCHASHIE WITH VERTICAL STROKE|CHASHKA|CHASHKA POLNAYA|OBLACHKO|SOROCHYA NOZHKA|TOCHKA|DVOETOCHIE"⟩,
  ⟨0x1CF3E, "ZNAMENNY COMBINING ", "ATTACHING VERTICAL OMET|MARK CURVED OMET|MARK KRYZH|LOWER TONAL RANGE INDICATOR"⟩,
  ⟨0x1CF42, "ZNAMENNY PRIZNAK MODIFIER ", "LEVEL-2|LEVEL-3|DIRECTION FLIP|KRYZH|ROG"⟩,
  ⟨0x1CF50, "ZNAMENNY NEUME ", "KRYUK|KRYUK TIKHY|PARAKLIT|DVA V CHELNU|KLYUCH|ZANOZHEK|STOPITSA|STOPITSA S OCHKOM|PEREVODKA|PEREVODKA NEPOSTOYANNAYA|STOPITSA WITH SOROCHYA NOZHKA|CHELYUSTKA|PALKA|ZAPYATAYA|GOLUBCHIK BORZY|GOLUBCHIK TIKHY|GOLUBCHIK MRACHNY|GOLUBCHIK SVETLY|GOLUBCHIK TRESVETLY|VRAKHIYA PROSTAYA|VRAKHIYA MRACHNAYA|VRAKHIYA SVETLAYA|VRAKHIYA TRESVETLAYA|VRAKHIYA KLYUCHEVAYA PROSTAYA|VRAKHIYA KLYUCHEVAYA MRACHNAYA|VRAKHIYA KLYUCHEVAYA SVETLAYA|VRAKHIYA KLYUCHEVAYA TRESVETLAYA|DOUBLE ZAPYATAYA|REVERSED CHELYUSTKA|DERBITSA|KHAMILO|CHASHKA|PODCHASHIE|SKAMEYTSA MRACHNAYA|SKAMEYTSA SVETLAYA|SKAMEYTSA TRESVETLAYA|SKAMEYTSA TIKHAYA|DEMESTVENNY KLYUCH|SKAMEYTSA KLYUCHEVAYA SVETLAYA|SKAMEYTSA KLYUCHENEPOSTOYANNAYA|SKAMEYTSA KLYUCHEVAYA TIKHAYA|SKAMEYTSA DVOECHELNAYA PROSTAYA|SKAMEYTSA DVOECHELNAYA SVETLAYA|SKAMEYTSA DVOECHELNAYA NEPOSTOYANNAYA|SKAMEYTSA DVOECHELNAYA KLYUCHEVAYA|SLOZHITIE|SLOZHITIE S ZAPYATOY|SLOZHITIE ZAKRYTOE|SLOZHITIE S KRYZHEM|KRYZH|ROG|FITA|KOBYLA|ZMEYTSA|STATYA|STATYA S ZAPYATOY|STATYA S KRYZHEM|STATYA S ZAPYATOY I KRYZHEM|STATYA S KRYZHEM I ZAPYATOY|STATYA ZAKRYTAYA|STATYA ZAKRYTAYA S ZAPYATOY|STATYA S ROGOM|STATYA S DVUMYA ZAPYATYMI|STATYA S ZAPYATOY I PODCHASHIEM|POLKULIZMY|STATYA NEPOSTOYANNAYA"⟩,
  ⟨0x1CF92, "ZNAMENNY NEUME STRELA ", "PROSTAYA|MRACHNOTIKHAYA|KRYZHEVAYA|POLUPOVODNAYA|POVODNAYA|NEPOSTOYANNAYA|KLYUCHEPOVODNAYA|KLYUCHENEPOSTOYANNAYA|TIKHAYA PUTNAYA|DVOECHELNAYA|DVOECHELNOKRYZHEVAYA|DVOECHELNOPOVODNAYA|DVOECHELNAYA KLYUCHEVAYA|DVOECHELNOPOVODNAYA KLYUCHEVAYA|GROMNAYA WITH SINGLE ZAPYATAYA|GROMOPOVODNAYA WITH SINGLE ZAPYATAYA|GROMNAYA|GROMOPOVODNAYA|GROMOPOVODNAYA WITH DOUBLE ZAPYATAYA|GROMOKRYZHEVAYA|GROMOKRYZHEVAYA POVODNAYA"⟩,
  ⟨0x1CFA7, "ZNAMENNY NEUME MECHIK", "| POVODNY| KLYUCHEVOY| KLYUCHEPOVODNY| KLYUCHENEPOSTOYANNY"⟩,
  ⟨0x1CFAC, "ZNAMENNY NEUME STRELA TRYASO", "GLASNAYA|POVODNAYA|STRELNAYA"⟩,
  ⟨0x1CFAF, "ZNAMENNY NEUME OSOKA", "| SVETLAYA| TRESVETLAYA| KRYUKOVAYA SVETLAYA| KLYUCHEVAYA SVETLAYA| KLYUCHEVAYA NEPOSTOYANNAYA"⟩,
  ⟨0x1CFB5, "ZNAMENNY NEUME STRELA KRYUKOVAYA", "| POVODNAYA| GROMNAYA WITH SINGLE ZAPYATAYA| GROMOPOVODNAYA WITH SINGLE ZAPYATAYA| GROMNAYA| GROMOPOVODNAYA| GROMOPOVODNAYA WITH DOUBLE ZAPYATAYA| GROMOKRYZHEVAYA| GROMOKRYZHEVAYA POVODNAYA| TRYASKA"⟩,
  ⟨0x1CFBF, "ZNAMENNY NEUME ", "KUFISMA|OBLAKO|DUDA|NEMKA|PAUK"⟩,
  ⟨0x1D000, "BYZANTINE MUSICAL SYMBOL ", "PSILI|DASEIA|PERISPOMENI|OXEIA EKFONITIKON|OXEIA DIPLI|VAREIA EKFONITIKON|VAREIA DIPLI|KATHISTI|SYRMATIKI|PARAKLITIKI|YPOKRISIS|YPOKRISIS DIPLI|KREMASTI|APESO EKFONITIKON|EXO EKFONITIKON|TELEIA|KENTIMATA|APOSTROFOS|APOSTROFOS DIPLI|SYNEVMA|THITA|OLIGON ARCHAION|GORGON ARCHAION|PSILON|CHAMILON|VATHY|ISON ARCHAION|KENTIMA ARCHAION|KENTIMATA ARCHAION|SAXIMATA|PARICHON|STAVROS APODEXIA|OXEIAI ARCHAION|VAREIAI ARCHAION|APODERMA ARCHAION|APOTHEMA|KLASMA|REVMA|PIASMA ARCHAION|TINAGMA|ANATRICHISMA|SEISMA|SYNAGMA ARCHAION|SYNAGMA META STAVROU|OYRANISMA ARCHAION|THEMA|LEMOI|DYO|TRIA|TESSERA|KRATIMATA|APESO EXO NEO|FTHORA ARCHAION|IMIFTHORA|TROMIKON ARCHAION|KATAVA TROMIKON|PELASTON|PSIFISTON|KONTEVMA|CHOREVMA ARCHAION|RAPISMA|PARAKALESMA ARCHAION|PARAKLITIKI ARCHAION|ICHADIN|NANA|PETASMA|KONTEVMA ALLO|TROMIKON ALLO|STRAGGISMATA|GRONTHISMATA|ISON NEO|OLIGON NEO|OXEIA NEO|PETASTI|KOUFISMA|PETASTOKOUFISMA|KRATIMOKOUFISMA|PELASTON NEO|KENTIMATA NEO ANO|KENTIMA NEO ANO|YPSILI|APOSTROFOS NEO|APOSTROFOI SYNDESMOS NEO|YPORROI|KRATIMOYPORROON|ELAFRON|CHAMILI|MIKRON ISON|VAREIA NEO|PIASMA NEO|PSIFISTON NEO|OMALON|ANTIKENOMA|LYGISMA|PARAKLITIKI NEO|PARAKALESMA NEO|ETERON PARAKALESMA|KYLISMA|ANTIKENOKYLISMA|TROMIKON NEO|EKSTREPTON|SYNAGMA NEO|SYRMA|CHOREVMA NEO|EPEGERMA|SEISMA NEO|XIRON KLASMA|TROMIKOPSIFISTON|PSIFISTOLYGISMA|TROMIKOLYGISMA|TROMIKOPARAKALESMA|PSIFISTOPARAKALESMA|TROMIKOSYNAGMA|PSIFISTOSYNAGMA|GORGOSYNTHETON|ARGOSYNTHETON|ETERON ARGOSYNTHETON|OYRANISMA NEO|THEMATISMOS ESO"⟩,
  ⟨0x1D077, "BYZANTINE MUSICAL SYMBOL ", "THEMATISMOS EXO|THEMA APLOUN|THES KAI APOTHES|KATAVASMA|ENDOFONON|YFEN KATO|YFEN ANO|STAVROS|KLASMA ANO|DIPLI ARCHAION|KRATIMA ARCHAION|KRATIMA ALLO|KRATIMA NEO|APODERMA NEO|APLI|DIPLI|TRIPLI|TETRAPLI|KORONIS|LEIMMA ENOS CHRONOU|LEIMMA DYO CHRONON|LEIMMA TRION CHRONON|LEIMMA TESSARON CHRONON|LEIMMA IMISEOS CHRONOU|GORGON NEO ANO|GORGON PARESTIGMENON ARISTERA|GORGON PARESTIGMENON DEXIA|DIGORGON|DIGORGON PARESTIGMENON ARISTERA KATO|DIGORGON PARESTIGMENON ARISTERA ANO|DIGORGON PARESTIGMENON DEXIA|TRIGORGON|ARGON|IMIDIARGON|DIARGON|AGOGI POLI ARGI|AGOGI ARGOTERI|AGOGI ARGI|AGOGI METRIA|AGOGI MESI|AGOGI GORGI|AGOGI GORGOTERI|AGOGI POLI GORGI|MARTYRIA PROTOS ICHOS|MARTYRIA ALLI PROTOS ICHOS|MARTYRIA DEYTEROS ICHOS|MARTYRIA ALLI DEYTEROS ICHOS|MARTYRIA TRITOS ICHOS|MARTYRIA TRIFONIAS|MARTYRIA TETARTOS ICHOS|MARTYRIA TETARTOS LEGETOS ICHOS|MARTYRIA LEGETOS ICHOS|MARTYRIA PLAGIOS ICHOS|ISAKIA TELOUS ICHIMATOS|APOSTROFOI TELOUS ICHIMATOS|FANEROSIS TETRAFONIAS|FANEROSIS MONOFONIAS|FANEROSIS DIFONIAS|MARTYRIA VARYS ICHOS|MARTYRIA PROTOVARYS ICHOS|MARTYRIA PLAGIOS TETARTOS ICHOS|GORTHMIKON N APLOUN|GORTHMIKON N DIPLOUN|ENARXIS KAI FTHORA VOU|IMIFONON|IMIFTHORON|FTHORA ARCHAION DEYTEROU ICHOU|FTHORA DIATONIKI PA|FTHORA DIATONIKI NANA|FTHORA NAOS ICHOS|FTHORA DIATONIKI DI|FTHORA SKLIRON DIATONON DI|FTHORA DIATONIKI KE|FTHORA DIATONIKI ZO|FTHORA DIATONIKI NI KATO|FTHORA DIATONIKI NI ANO|FTHORA MALAKON CHROMA DIFONIAS|FTHORA MALAKON CHROMA MONOFONIAS|FHTORA SKLIRON CHROMA VASIS"⟩,
  ⟨0x1D0C6, "BYZANTINE MUSICAL SYMBOL ", "FTHORA SKLIRON CHROMA SYNAFI|FTHORA NENANO|CHROA ZYGOS|CHROA KLITON|CHROA SPATHI|FTHORA I YFESIS TETARTIMORION|FTHORA ENARMONIOS ANTIFONIA|YFESIS TRITIMORION|DIESIS TRITIMORION|DIESIS TETARTIMORION|DIESIS APLI DYO DODEKATA|DIESIS MONOGRAMMOS TESSERA DODEKATA|DIESIS DIGRAMMOS EX DODEKATA|DIESIS TRIGRAMMOS OKTO DODEKATA|YFESIS APLI DYO DODEKATA|YFESIS MONOGRAMMOS TESSERA DODEKATA|YFESIS DIGRAMMOS EX DODEKATA|YFESIS TRIGRAMMOS OKTO DODEKATA|GENIKI DIESIS|GENIKI YFESIS|DIASTOLI APLI MIKRI|DIASTOLI APLI MEGALI|DIASTOLI DIPLI|DIASTOLI THESEOS|SIMANSIS THESEOS|SIMANSIS THESEOS DISIMOU|SIMANSIS THESEOS TRISIMOU|SIMANSIS THESEOS TETRASIMOU|SIMANSIS ARSEOS|SIMANSIS ARSEOS DISIMOU|SIMANSIS ARSEOS TRISIMOU|SIMANSIS ARSEOS TETRASIMOU|DIGRAMMA GG|DIFTOGGOS OU|STIGMA|ARKTIKO PA|ARKTIKO VOU|ARKTIKO GA|ARKTIKO DI|ARKTIKO KE|ARKTIKO ZO|ARKTIKO NI|KENTIMATA NEO MESO|KENTIMA NEO MESO|KENTIMATA NEO KATO|KENTIMA NEO KATO|KLASMA KATO|GORGON NEO KATO"⟩,
  ⟨0x1D100, "MUSICAL SYMBOL ", "SINGLE BARLINE|DOUBLE BARLINE|FINAL BARLINE|REVERSE FINAL BARLINE|DASHED BARLINE|SHORT BARLINE|LEFT REPEAT SIGN|RIGHT REPEAT SIGN|REPEAT DOTS|DAL SEGNO|DA CAPO|SEGNO|CODA|REPEATED FIGURE-1|REPEATED FIGURE-2|REPEATED FIGURE-3|FERMATA|FERMATA BELOW|BREATH MARK|CAESURA|BRACE|BRACKET|ONE-LINE STAFF|TWO-LINE STAFF|THREE-LINE STAFF|FOUR-LINE STAFF|FIVE-LINE STAFF|SIX-LINE STAFF|SIX-STRING FRETBOARD|FOUR-STRING FRETBOARD|G CLEF|G CLEF OTTAVA ALTA|G CLEF OTTAVA BASSA|C CLEF|F CLEF|F CLEF OTTAVA ALTA|F CLEF OTTAVA BASSA|DRUM CLEF-1|DRUM CLEF-2"⟩,
  ⟨0x1D129, "MUSICAL SYMBOL ", "MULTIPLE MEASURE REST|DOUBLE SHARP|DOUBLE FLAT|FLAT UP|FLAT DOWN|NATURAL UP|NATURAL DOWN|SHARP UP|SHARP DOWN|QUARTER TONE SHARP|QUARTER TONE FLAT|COMMON TIME|CUT TIME|OTTAVA ALTA|OTTAVA BASSA|QUINDICESIMA ALTA|QUINDICESIMA BASSA|MULTI REST|WHOLE REST|HALF REST|QUARTER REST|EIGHTH REST|SIXTEENTH REST|THIRTY-SECOND REST|SIXTY-FOURTH REST|ONE HUNDRED TWENTY-EIGHTH REST|X NOTEHEAD|PLUS NOTEHEAD|CIRCLE X NOTEHEAD|SQUARE NOTEHEAD WHITE|SQUARE NOTEHEAD BLACK"⟩,
  ⟨0x1D148, "MUSICAL SYMBOL TRIANGLE NOTEHEAD ", "UP WHITE|UP BLACK|LEFT WHITE|LEFT BLACK|RIGHT WHITE|RIGHT BLACK|DOWN WHITE|DOWN BLACK|UP RIGHT WHITE|UP RIGHT BLACK"⟩,
  ⟨0x1D152, "MUSICAL SYMBOL ", "MOON NOTEHEAD WHITE|MOON NOTEHEAD BLACK|TRIANGLE-ROUND NOTEHEAD DOWN WHITE|TRIANGLE-ROUND NOTEHEAD DOWN BLACK|PARENTHESIS NOTEHEAD|VOID NOTEHEAD|NOTEHEAD BLACK|NULL NOTEHEAD|CLUSTER NOTEHEAD WHITE|CLUSTER NOTEHEAD BLACK|BREVE|WHOLE NOTE|HALF NOTE|QUARTER NOTE|EIGHTH NOTE|SIXTEENTH NOTE|THIRTY-SECOND NOTE|SIXTY-FOURTH NOTE|ONE HUNDRED TWENTY-EIGHTH NOTE|COMBINING STEM|COMBINING SPRECHGESANG STEM|COMBINING TREMOLO-1|COMBINING TREMOLO-2|COMBINING TREMOLO-3|FINGERED TREMOLO-1|FINGERED TREMOLO-2|FINGERED TREMOLO-3|COMBINING AUGMENTATION DOT|COMBINING FLAG-1|COMBINING FLAG-2|COMBINING FLAG-3|COMBINING FLAG-4|COMBINING FLAG-5|BEGIN BEAM|END BEAM|BEGIN TIE|END TIE|BEGIN SLUR|END SLUR|BEGIN PHRASE|END PHRASE|COMBINING ACCENT|COMBINING STACCATO|COMBINING TENUTO|COMBINING STACCATISSIMO|COMBINING MARCATO|COMBINING MARCATO-STACCATO|COMBINING ACCENT-STACCATO|COMBINING LOURE|ARPEGGIATO UP|ARPEGGIATO DOWN|COMBINING DOIT|COMBINING RIP|COMBINING FLIP|COMBINING SMEAR|COMBINING BEND|COMBINING DOUBLE TONGUE|COMBINING TRIPLE TONGUE|RINFORZANDO|SUBITO|Z|PIANO|MEZZO|FORTE|CRESCENDO|DECRESCENDO|GRACE NOTE SLASH|GRACE NOTE NO SLASH|TR|TURN|INVERTED TURN|TURN SLASH|TURN UP"⟩,
  ⟨0x1D19B, "MUSICAL SYMBOL ORNAMENT STROKE-", "1|2|3|4|5|6|7|8|9|10|11"⟩,
  ⟨0x1D1A6, "MUSICAL SYMBOL ", "HAUPTSTIMME|NEBENSTIMME|END OF STIMME|DEGREE SLASH|COMBINING DOWN BOW|COMBINING UP BOW|COMBINING HARMONIC|COMBINING SNAP PIZZICATO|PEDAL MARK|PEDAL UP MARK|HALF PEDAL MARK|GLISSANDO UP|GLISSANDO DOWN|WITH FINGERNAILS|DAMP|DAMP ALL|MAXIMA|LONGA|BREVIS|SEMIBREVIS WHITE|SEMIBREVIS BLACK|MINIMA|MINIMA BLACK|SEMIMINIMA WHITE|SEMIMINIMA BLACK|FUSA WHITE|FUSA BLACK|LONGA PERFECTA REST|LONGA IMPERFECTA REST|BREVIS REST|SEMIBREVIS REST|MINIMA REST|SEMIMINIMA REST"⟩,
  ⟨0x1D1C7, "MUSICAL SYMBOL TEMPUS PERFECTUM CUM PROLATIONE ", "PERFECTA|IMPERFECTA|PERFECTA DIMINUTION-1"⟩,
  ⟨0x1D1CA, "MUSICAL SYMBOL TEMPUS IMPERFECTUM CUM PROLATIONE ", "PERFECTA|IMPERFECTA|IMPERFECTA DIMINUTION-1|IMPERFECTA DIMINUTION-2|IMPERFECTA DIMINUTION-3"⟩,
  ⟨0x1D1CF, "MUSICAL SYMBOL ", "CROIX|GREGORIAN C CLEF|GREGORIAN F CLEF|SQUARE B|VIRGA|PODATUS|CLIVIS|SCANDICUS|CLIMACUS|TORCULUS|PORRECTUS|PORRECTUS FLEXUS|SCANDICUS FLEXUS|TORCULUS RESUPINUS|PES SUBPUNCTIS|KIEVAN C CLEF|KIEVAN END OF PIECE|KIEVAN FINAL NOTE|KIEVAN RECITATIVE MARK|KIEVAN WHOLE NOTE|KIEVAN HALF NOTE|KIEVAN QUARTER NOTE STEM DOWN|KIEVAN QUARTER NOTE STEM UP|KIEVAN EIGHTH NOTE STEM DOWN|KIEVAN EIGHTH NOTE STEM UP|KIEVAN FLAT SIGN|SORI|KORON"⟩,
  ⟨0x1D200, "GREEK VOCAL NOTATION SYMBOL-", "1|2|3|4|5|6|7|8|9|10|11|12|13|14|15|16|17|18|19|20|21|22|23|24|50|51|52|53|54"⟩,
  ⟨0x1D21D, "GREEK INSTRUMENTAL NOTATION SYMBOL-", "1|2|4|5|7|8|11|12|13|14|17|18|19|23|24|25|26|27|29|30|32|36|37|38|39|40|42|43|45|47|48|49|50|51|52|53|54"⟩,
  ⟨0x1D242, "COMBINING GREEK MUSICAL ", "TRISEME|TETRASEME|PENTASEME"⟩,
  ⟨0x1D245, "GREEK MUSICAL LEIMMA", ""⟩,
  ⟨0x1D2E0, "MAYAN NUMERAL ", "ZERO|ONE|TWO|THREE|FOUR|FIVE|SIX|SEVEN|EIGHT|NINE|TEN|ELEVEN|TWELVE|THIRTEEN|FOURTEEN|FIFTEEN|SIXTEEN|SEVENTEEN|EIGHTEEN|NINETEEN"⟩,
  ⟨0x1D300, "MONOGRAM FOR EARTH", ""⟩,
  ⟨0x1D301, "DIGRAM FOR ", "HEAVENLY EARTH|HUMAN EARTH|EARTHLY HEAVEN|EARTHLY HUMAN|EARTH"⟩,
  ⟨0x1D306, "TETRAGRAM FOR ", "CENTRE|FULL CIRCLE|MIRED|BARRIER|KEEPING SMALL|CONTRARIETY|ASCENT|OPPOSITION|BRANCHING OUT|DEFECTIVENESS OR DISTORTION|DIVERGENCE|YOUTHFULNESS|INCREASE|PENETRATION|REACH|CONTACT|HOLDING BACK|WAITING|FOLLOWING|ADVANCE|RELEASE|RESISTANCE|EASE|JOY|CONTENTION|ENDEAVOUR|DUTIES|CHANGE|DECISIVENESS|BOLD RESOLUTION|PACKING|LEGION|CLOSENESS|KINSHIP|GATHERING|STRENGTH|PURITY|FULLNESS|RESIDENCE|LAW OR MODEL|RESPONSE|GOING TO MEET|ENCOUNTERS|STOVE|GREATNESS|ENLARGEMENT|PATTERN|RITUAL|FLIGHT|VASTNESS OR WASTING|CONSTANCY|MEASURE|ETERNITY|UNITY|DIMINISHMENT|CLOSED MOUTH|GUARDEDNESS|GATHERING IN|MASSING|ACCUMULATION|EMBELLISHMENT|DOUBT|WATCH|SINKING|INNER|DEPARTURE|DARKENING|DIMMING|EXHAUSTION|SEVERANCE|STOPPAGE|HARDNESS|COMPLETION|CLOSURE|FAILURE|AGGRAVATION|COMPLIANCE|ON THE VERGE|DIFFICULTIES|LABOURING|FOSTERING"⟩,
  ⟨0x1D360, "COUNTING ROD UNIT DIGIT ", "ONE|TWO|THREE|FOUR|FIVE|SIX|SEVEN|EIGHT|NINE"⟩,
  ⟨0x1D369, "COUNTING ROD TENS DIGIT ", "ONE|TWO|THREE|FOUR|FIVE|SIX|SEVEN|EIGHT|NINE"⟩,
  ⟨0x1D372, "IDEOGRAPHIC TALLY MARK ", "ONE|TWO|THREE|FOUR|FIVE"⟩,
  ⟨0x1D377, "TALLY MARK ", "ONE|FIVE"⟩,
  ⟨0x1D400, "MATHEMATICAL BOLD CAPITAL ", "A|B|C|D|E|F|G|H|I|J|K|L|M|N|O|P|Q|R|S|T|U|V|W|X|Y|Z"⟩,
  ⟨0x1D41A, "MATHEMATICAL BOLD SMALL ", "A|B|C|D|E|F|G|H|I|J|K|L|M|N|O|P|Q|R|S|T|U|V|W|X|Y|Z"⟩,
  ⟨0x1D434, "MATHEMATICAL ITALIC CAPITAL ", "A|B|C|D|E|F|G|H|I|J|K|L|M|N|O|P|Q|R|S|T|U|V|W|X|Y|Z"⟩,
  ⟨0x1D44E, "MATHEMATICAL ITALIC SMALL ", "A|B|C|D|E|F|G"⟩,
  ⟨0x1D456, "MATHEMATICAL ITALIC SMALL ", "I|J|K|L|M|N|O|P|Q|R|S|T|U|V|W|X|Y|Z"⟩,
  ⟨0x1D468, "MATHEMATICAL BOLD ITALIC CAPITAL ", "A|B|C|D|E|F|G|H|I|J|K|L|M|N|O|P|Q|R|S|T|U|V|W|X|Y|Z"⟩,
  ⟨0x1D482, "MATHEMATICAL BOLD ITALIC SMALL ", "A|B|C|D|E|F|G|H|I|J|K|L|M|N|O|P|Q|R|S|T|U|V|W|X|Y|Z"⟩,
  ⟨0x1D49C, "MATHEMATICAL SCRIPT CAPITAL A", ""⟩,
  ⟨0x1D49E, "MATHEMATICAL SCRIPT CAPITAL ", "C|D"⟩,
  ⟨0x1D4A2, "MATHEMATICAL SCRIPT CAPITAL G", ""⟩,
  ⟨0x1D4A5, "MATHEMATICAL SCRIPT CAPITAL ", "J|K"⟩,
  ⟨0x1D4A9, "MATHEMATICAL SCRIPT CAPITAL ", "N|O|P|Q"⟩,
  ⟨0x1D4AE, "MATHEMATICAL SCRIPT CAPITAL ", "S|T|U|V|W|X|Y|Z"⟩,
  ⟨0x1D4B6, "MATHEMATICAL SCRIPT SMALL ", "A|B|C|D"⟩,
  ⟨0x1D4BB, "MATHEMATICAL SCRIPT SMALL F", ""⟩,
  ⟨0x1D4BD, "MATHEMATICAL SCRIPT SMALL ", "H|I|J|K|L|M|N"⟩,
  ⟨0x1D4C5, "MATHEMATICAL SCRIPT SMALL ", "P|Q|R|S|T|U|V|W|X|Y|Z"⟩,
  ⟨0x1D4D0, "MATHEMATICAL BOLD SCRIPT CAPITAL ", "A|B|C|D|E|F|G|H|I|J|K|L|M|N|O|P|Q|R|S|T|U|V|W|X|Y|Z"⟩,
  ⟨0x1D4EA, "MATHEMATICAL BOLD SCRIPT SMALL ", "A|B|C|D|E|F|G|H|I|J|K|L|M|N|O|P|Q|R|S|T|U|V|W|X|Y|Z"⟩,
  ⟨0x1D504, "MATHEMATICAL FRAKTUR CAPITAL ", "A|B"⟩,
  ⟨0x1D507, "MATHEMATICAL FRAKTUR CAPITAL ", "D|E|F|G"⟩,
  ⟨0x1D50D, "MATHEMATICAL FRAKTUR CAPITAL ", "J|K|L|M|N|O|P|Q"⟩,
  ⟨0x1D516, "MATHEMATICAL FRAKTUR CAPITAL ", "S|T|U|V|W|X|Y"⟩,
  ⟨0x1D51E, "MATHEMATICAL FRAKTUR SMALL ", "A|B|C|D|E|F|G|H|I|J|K|L|M|N|O|P|Q|R|S|T|U|V|W|X|Y|Z"⟩,
  ⟨0x1D538, "MATHEMATICAL DOUBLE-STRUCK CAPITAL ", "A|B"⟩,
  ⟨0x1D53B, "MATHEMATICAL DOUBLE-STRUCK CAPITAL ", "D|E|F|G"⟩,
  ⟨0x1D540, "MATHEMATICAL DOUBLE-STRUCK CAPITAL ", "I|J|K|L|M"⟩,
  ⟨0x1D546, "MATHEMATICAL DOUBLE-STRUCK CAPITAL O", ""⟩,
  ⟨0x1D54A, "MATHEMATICAL DOUBLE-STRUCK CAPITAL ", "S|T|U|V|W|X|Y"⟩,
  ⟨0x1D552, "MATHEMATICAL DOUBLE-STRUCK SMALL ", "A|B|C|D|E|F|G|H|I|J|K|L|M|N|O|P|Q|R|S|T|U|V|W|X|Y|Z"⟩,
  ⟨0x1D56C, "MATHEMATICAL BOLD FRAKTUR CAPITAL ", "A|B|C|D|E|F|G|H|I|J|K|L|M|N|O|P|Q|R|S|T|U|V|W|X|Y|Z"⟩,
  ⟨0x1D586, "MATHEMATICAL BOLD FRAKTUR SMALL ", "A|B|C|D|E|F|G|H|I|J|K|L|M|N|O|P|Q|R|S|T|U|V|W|X|Y|Z"⟩,
  ⟨0x1D5A0, "MATHEMATICAL SANS-SERIF CAPITAL ", "A|B|C|D|E|F|G|H|I|J|K|L|M|N|O|P|Q|R|S|T|U|V|W|X|Y|Z"⟩,
  ⟨0x1D5BA, "MATHEMATICAL SANS-SERIF SMALL ", "A|B|C|D|E|F|G|H|I|J|K|L|M|N|O|P|Q|R|S|T|U|V|W|X|Y|Z"⟩,
  ⟨0x1D5D4, "MATHEMATICAL SANS-SERIF BOLD CAPITAL ", "A|B|C|D|E|F|G|H|I|J|K|L|M|N|O|P|Q|R|S|T|U|V|W|X|Y|Z"⟩,
  ⟨0x1D5EE, "MATHEMATICAL SANS-SERIF BOLD SMALL ", "A|B|C|D|E|F|G|H|I|J|K|L|M|N|O|P|Q|R|S|T|U|V|W|X|Y|Z"⟩,
  ⟨0x1D608, "MATHEMATICAL SANS-SERIF ITALIC CAPITAL ", "A|B|C|D|E|F|G|H|I|J|K|L|M|N|O|P|Q|R|S|T|U|V|W|X|Y|Z"⟩,
  ⟨0x1D622, "MATHEMATICAL SANS-SERIF ITALIC SMALL ", "A|B|C|D|E|F|G|H|I|J|K|L|M|N|O|P|Q|R|S|T|U|V|W|X|Y|Z"⟩,
  ⟨0x1D63C, "MATHEMATICAL SANS-SERIF BOLD ITALIC CAPITAL ", "A|B|C|D|E|F|G|H|I|J|K|L|M|N|O|P|Q|R|S|T|U|V|W|X|Y|Z"⟩,
  ⟨0x1D656, "MATHEMATICAL SANS-SERIF BOLD ITALIC SMALL ", "A|B|C|D|E|F|G|H|I|J|K|L|M|N|O|P|Q|R|S|T|U|V|W|X|Y|Z"⟩,
  ⟨0x1D670, "MATHEMATICAL MONOSPACE CAPITAL ", "A|B|C|D|E|F|G|H|I|J|K|L|M|N|O|P|Q|R|S|T|U|V|W|X|Y|Z"⟩,
  ⟨0x1D68A, "MATHEMATICAL MONOSPACE SMALL ", "A|B|C|D|E|F|G|H|I|J|K|L|M|N|O|P|Q|R|S|T|U|V|W|X|Y|Z"⟩,
  ⟨0x1D6A4, "MATHEMATICAL ITALIC SMALL DOTLESS ", "I|J"⟩,
  ⟨0x1D6A8, "MATHEMATICAL BOLD CAPITAL ", "ALPHA|BETA|GAMMA|DELTA|EPSILON|ZETA|ETA|THETA|IOTA|KAPPA|LAMDA|MU|NU|XI|OMICRON|PI|RHO|THETA SYMBOL|SIGMA|TAU|UPSILON|PHI|CHI|PSI|OMEGA"⟩,
  ⟨0x1D6C1, "MATHEMATICAL BOLD NABLA", ""⟩,
  ⟨0x1D6C2, "MATHEMATICAL BOLD SMALL ", "ALPHA|BETA|GAMMA|DELTA|EPSILON|ZETA|ETA|THETA|IOTA|KAPPA|LAMDA|MU|NU|XI|OMICRON|PI|RHO|FINAL SIGMA|SIGMA|TAU|UPSILON|PHI|CHI|PSI|OMEGA"⟩,
  ⟨0x1D6DB, "MATHEMATICAL BOLD ", "PARTIAL DIFFERENTIAL|EPSILON SYMBOL|THETA SYMBOL|KAPPA SYMBOL|PHI SYMBOL|RHO SYMBOL|PI SYMBOL"⟩,
  ⟨0x1D6E2, "MATHEMATICAL ITALIC CAPITAL ", "ALPHA|BETA|GAMMA|DELTA|EPSILON|ZETA|ETA|THETA|IOTA|KAPPA|LAMDA|MU|NU|XI|OMICRON|PI|RHO|THETA SYMBOL|SIGMA|TAU|UPSILON|PHI|CHI|PSI|OMEGA"⟩,
  ⟨0x1D6FB, "MATHEMATICAL ITALIC NABLA", ""⟩,
  ⟨0x1D6FC, "MATHEMATICAL ITALIC SMALL ", "ALPHA|BETA|GAMMA|DELTA|EPSILON|ZETA|ETA|THETA|IOTA|KAPPA|LAMDA|MU|NU|XI|OMICRON|PI|RHO|FINAL SIGMA|SIGMA|TAU|UPSILON|PHI|CHI|PSI|OMEGA"⟩,
  ⟨0x1D715, "MATHEMATICAL ITALIC ", "PARTIAL DIFFERENTIAL|EPSILON SYMBOL|THETA SYMBOL|KAPPA SYMBOL|PHI SYMBOL|RHO SYMBOL|PI SYMBOL"⟩,
  ⟨0x1D71C, "MATHEMATICAL BOLD ITALIC CAPITAL ", "ALPHA|BETA|GAMMA|DELTA|EPSILON|ZETA|ETA|THETA|IOTA|KAPPA|LAMDA|MU|NU|XI|OMICRON|PI|RHO|THETA SYMBOL|SIGMA|TAU|UPSILON|PHI|CHI|PSI|OMEGA"⟩,
  ⟨0x1D735, "MATHEMATICAL BOLD ITALIC NABLA", ""⟩,
  ⟨0x1D736, "MATHEMATICAL BOLD ITALIC SMALL ", "ALPHA|BETA|GAMMA|DELTA|EPSILON|ZETA|ETA|THETA|IOTA|KAPPA|LAMDA|MU|NU|XI|OMICRON|PI|RHO|FINAL SIGMA|SIGMA|TAU|UPSILON|PHI|CHI|PSI|OMEGA"⟩,
  ⟨0x1D74F, "MATHEMATICAL BOLD ITALIC ", "PARTIAL DIFFERENTIAL|EPSILON SYMBOL|THETA SYMBOL|KAPPA SYMBOL|PHI SYMBOL|RHO SYMBOL|PI SYMBOL"⟩,
  ⟨0x1D756, "MATHEMATICAL SANS-SERIF BOLD CAPITAL ", "ALPHA|BETA|GAMMA|DELTA|EPSILON|ZETA|ETA|THETA|IOTA|KAPPA|LAMDA|MU|NU|XI|OMICRON|PI|RHO|THETA SYMBOL|SIGMA|TAU|UPSILON|PHI|CHI|PSI|OMEGA"⟩,
  ⟨0x1D76F, "MATHEMATICAL SANS-SERIF BOLD NABLA", ""⟩,
  ⟨0x1D770, "MATHEMATICAL SANS-SERIF BOLD SMALL ", "ALPHA|BETA|GAMMA|DELTA|EPSILON|ZETA|ETA|THETA|IOTA|KAPPA|LAMDA|MU|NU|XI|OMICRON|PI|RHO|FINAL SIGMA|SIGMA|TAU|UPSILON|PHI|CHI|PSI|OMEGA"⟩,
  ⟨0x1D789, "MATHEMATICAL SANS-SERIF BOLD ", "PARTIAL DIFFERENTIAL|EPSILON SYMBOL|THETA SYMBOL|KAPPA SYMBOL|PHI SYMBOL|RHO SYMBOL|PI SYMBOL"⟩,
  ⟨0x1D790, "MATHEMATICAL SANS-SERIF BOLD ITALIC CAPITAL ", "ALPHA|BETA|GAMMA|DELTA|EPSILON|ZETA|ETA|THETA|IOTA|KAPPA|LAMDA|MU|NU|XI|OMICRON|PI|RHO|THETA SYMBOL|SIGMA|TAU|UPSILON|PHI|CHI|PSI|OMEGA"⟩,
  ⟨0x1D7A9, "MATHEMATICAL SANS-SERIF BOLD ITALIC NABLA", ""⟩,
  ⟨0x1D7AA, "MATHEMATICAL SANS-SERIF BOLD ITALIC SMALL ", "ALPHA|BETA|GAMMA|DELTA|EPSILON|ZETA|ETA|THETA|IOTA|KAPPA|LAMDA|MU|NU|XI|OMICRON|PI|RHO|FINAL SIGMA|SIGMA|TAU|UPSILON|PHI|CHI|PSI|OMEGA"⟩,
  ⟨0x1D7C3, "MATHEMATICAL SANS-SERIF BOLD ITALIC ", "PARTIAL DIFFERENTIAL|EPSILON SYMBOL|THETA SYMBOL|KAPPA SYMBOL|PHI SYMBOL|RHO SYMBOL|PI SYMBOL"⟩,
  ⟨0x1D7CA, "MATHEMATICAL BOLD ", "CAPITAL DIGAMMA|SMALL DIGAMMA"⟩,
  ⟨0x1D7CE, "MATHEMATICAL BOLD DIGIT ", "ZERO|ONE|TWO|THREE|FOUR|FIVE|SIX|SEVEN|EIGHT|NINE"⟩,
  ⟨0x1D7D8, "MATHEMATICAL DOUBLE-STRUCK DIGIT ", "ZERO|ONE|TWO|THREE|FOUR|FIVE|SIX|SEVEN|EIGHT|NINE"⟩,
  ⟨0x1D7E2, "MATHEMATICAL SANS-SERIF DIGIT ", "ZERO|ONE|TWO|THREE|FOUR|FIVE|SIX|SEVEN|EIGHT|NINE"⟩,
  ⟨0x1D7EC, "MATHEMATICAL SANS-SERIF BOLD DIGIT ", "ZERO|ONE|TWO|THREE|FOUR|FIVE|SIX|SEVEN|EIGHT|NINE"⟩,
  ⟨0x1D7F6, "MATHEMATICAL MONOSPACE DIGIT ", "ZERO|ONE|TWO|THREE|FOUR|FIVE|SIX|SEVEN|EIGHT|NINE"⟩,
  ⟨0x1D800, "SIGNWRITING HAND-", "FIST INDEX|CIRCLE INDEX|CUP INDEX|OVAL INDEX|HINGE INDEX|ANGLE INDEX|FIST INDEX BENT|CIRCLE INDEX BENT|FIST THUMB UNDER INDEX BENT|FIST INDEX RAISED KNUCKLE|FIST INDEX CUPPED|FIST INDEX HINGED|FIST INDEX HINGED LOW|CIRCLE INDEX HINGE|FIST INDEX MIDDLE|CIRCLE INDEX MIDDLE"⟩,
  ⟨0x1D810, "SIGNWRITING HAND-FIST INDEX ", "MIDDLE BENT|MIDDLE RAISED KNUCKLES|MIDDLE HINGED|UP MIDDLE HINGED|HINGED MIDDLE UP"⟩,
  ⟨0x1D815, "SIGNWRITING HAND-FIST INDEX MIDDLE CONJOINED", "| INDEX BENT| MIDDLE BENT| CUPPED| HINGED"⟩,
  ⟨0x1D81A, "SIGNWRITING HAND-", "FIST INDEX MIDDLE CROSSED|CIRCLE INDEX MIDDLE CROSSED|FIST MIDDLE BENT OVER INDEX|FIST INDEX BENT OVER MIDDLE|FIST INDEX MIDDLE THUMB|CIRCLE INDEX MIDDLE THUMB"⟩,
  ⟨0x1D820, "SIGNWRITING HAND-FIST INDEX ", "MIDDLE STRAIGHT THUMB BENT|MIDDLE BENT THUMB STRAIGHT|MIDDLE THUMB BENT|MIDDLE HINGED SPREAD THUMB SIDE|UP MIDDLE HINGED THUMB SIDE|UP MIDDLE HINGED THUMB CONJOINED|HINGED MIDDLE UP THUMB SIDE|MIDDLE UP SPREAD THUMB FORWARD|MIDDLE THUMB CUPPED|MIDDLE THUMB CIRCLED|MIDDLE THUMB HOOKED|MIDDLE THUMB HINGED"⟩,
  ⟨0x1D82C, "SIGNWRITING HAND-FIST ", "THUMB BETWEEN INDEX MIDDLE STRAIGHT|INDEX MIDDLE CONJOINED THUMB SIDE|INDEX MIDDLE CONJOINED THUMB SIDE CONJOINED|INDEX MIDDLE CONJOINED THUMB SIDE BENT|MIDDLE THUMB HOOKED INDEX UP|INDEX THUMB HOOKED MIDDLE UP|INDEX MIDDLE CONJOINED HINGED THUMB SIDE|INDEX MIDDLE CROSSED THUMB SIDE|INDEX MIDDLE CONJOINED THUMB FORWARD|INDEX MIDDLE CONJOINED CUPPED THUMB FORWARD|MIDDLE THUMB CUPPED INDEX UP|INDEX THUMB CUPPED MIDDLE UP|MIDDLE THUMB CIRCLED INDEX UP|MIDDLE THUMB CIRCLED INDEX HINGED|INDEX THUMB ANGLED OUT MIDDLE UP|INDEX THUMB ANGLED IN MIDDLE UP|INDEX THUMB CIRCLED MIDDLE UP|INDEX MIDDLE THUMB CONJOINED HINGED|INDEX MIDDLE THUMB ANGLED OUT|INDEX MIDDLE THUMB ANGLED|MIDDLE THUMB ANGLED OUT INDEX UP|MIDDLE THUMB ANGLED OUT INDEX CROSSED|MIDDLE THUMB ANGLED INDEX UP|INDEX THUMB HOOKED MIDDLE HINGED"⟩,
  ⟨0x1D844, "SIGNWRITING HAND-FLAT FOUR FINGERS", "| BENT| HINGED| CONJOINED| CONJOINED SPLIT"⟩,
  ⟨0x1D849, "SIGNWRITING HAND-", "CLAW FOUR FINGERS CONJOINED|FIST FOUR FINGERS CONJOINED BENT|HINGE FOUR FINGERS CONJOINED|FLAT FIVE FINGERS SPREAD|FLAT HEEL FIVE FINGERS SPREAD|FLAT FIVE FINGERS SPREAD FOUR BENT|FLAT HEEL FIVE FINGERS SPREAD FOUR BENT|FLAT FIVE FINGERS SPREAD BENT|FLAT HEEL FIVE FINGERS SPREAD BENT|FLAT FIVE FINGERS SPREAD THUMB FORWARD|CUP FIVE FINGERS SPREAD|CUP FIVE FINGERS SPREAD OPEN|HINGE FIVE FINGERS SPREAD OPEN|OVAL FIVE FINGERS SPREAD|FLAT FIVE FINGERS SPREAD HINGED|FLAT FIVE FINGERS SPREAD HINGED THUMB SIDE|FLAT FIVE FINGERS SPREAD HINGED NO THUMB|FLAT|FLAT BETWEEN PALM FACINGS|FLAT HEEL|FLAT THUMB SIDE|FLAT HEEL THUMB SIDE|FLAT THUMB BENT|FLAT THUMB FORWARD|FLAT SPLIT INDEX THUMB SIDE|FLAT SPLIT CENTRE|FLAT SPLIT CENTRE THUMB SIDE|FLAT SPLIT CENTRE THUMB SIDE BENT|FLAT SPLIT LITTLE|CLAW|CLAW THUMB SIDE|CLAW NO THUMB|CLAW THUMB FORWARD|HOOK CURLICUE|HOOK|CUP OPEN|CUP|CUP OPEN THUMB SIDE|CUP THUMB SIDE|CUP OPEN NO THUMB|CUP NO THUMB|CUP OPEN THUMB FORWARD|CUP THUMB FORWARD|CURLICUE OPEN|CURLICUE|CIRCLE|OVAL|OVAL THUMB SIDE|OVAL NO THUMB|OVAL THUMB FORWARD|HINGE OPEN|HINGE OPEN THUMB FORWARD|HINGE|HINGE SMALL|HINGE OPEN THUMB SIDE|HINGE THUMB SIDE|HINGE OPEN NO THUMB|HINGE NO THUMB|HINGE THUMB SIDE TOUCHING INDEX|HINGE THUMB BETWEEN MIDDLE RING|ANGLE|FIST INDEX MIDDLE RING|CIRCLE INDEX MIDDLE RING|HINGE INDEX MIDDLE RING|ANGLE INDEX MIDDLE RING|HINGE LITTLE|FIST INDEX MIDDLE RING BENT|FIST INDEX MIDDLE RING CONJOINED|HINGE INDEX MIDDLE RING CONJOINED|FIST LITTLE DOWN"⟩,
  ⟨0x1D88F, "SIGNWRITING HAND-", "FIST LITTLE DOWN RIPPLE STRAIGHT|FIST LITTLE DOWN RIPPLE CURVED|FIST LITTLE DOWN OTHERS CIRCLED|FIST LITTLE UP|FIST THUMB UNDER LITTLE UP|CIRCLE LITTLE UP|OVAL LITTLE UP|ANGLE LITTLE UP|FIST LITTLE RAISED KNUCKLE|FIST LITTLE BENT|FIST LITTLE TOUCHES THUMB|FIST LITTLE THUMB|HINGE LITTLE THUMB|FIST LITTLE INDEX THUMB|HINGE LITTLE INDEX THUMB|ANGLE LITTLE INDEX THUMB INDEX THUMB OUT|ANGLE LITTLE INDEX THUMB INDEX THUMB|FIST LITTLE INDEX|CIRCLE LITTLE INDEX|HINGE LITTLE INDEX|ANGLE LITTLE INDEX|FIST INDEX MIDDLE LITTLE|CIRCLE INDEX MIDDLE LITTLE|HINGE INDEX MIDDLE LITTLE|HINGE RING|ANGLE INDEX MIDDLE LITTLE|FIST INDEX MIDDLE CROSS LITTLE|CIRCLE INDEX MIDDLE CROSS LITTLE|FIST RING DOWN|HINGE RING DOWN INDEX THUMB HOOK MIDDLE|ANGLE RING DOWN MIDDLE THUMB INDEX CROSS|FIST RING UP|FIST RING RAISED KNUCKLE|FIST RING LITTLE|CIRCLE RING LITTLE|OVAL RING LITTLE|ANGLE RING LITTLE|FIST RING MIDDLE|FIST RING MIDDLE CONJOINED|FIST RING MIDDLE RAISED KNUCKLES|FIST RING INDEX|FIST RING THUMB|HOOK RING THUMB|FIST INDEX RING LITTLE|CIRCLE INDEX RING LITTLE|CURLICUE INDEX RING LITTLE ON|HOOK INDEX RING LITTLE OUT|HOOK INDEX RING LITTLE IN|HOOK INDEX RING LITTLE UNDER|CUP INDEX RING LITTLE|HINGE INDEX RING LITTLE|ANGLE INDEX RING LITTLE OUT|ANGLE INDEX RING LITTLE|FIST MIDDLE DOWN|HINGE MIDDLE|FIST MIDDLE UP|CIRCLE MIDDLE UP|FIST MIDDLE RAISED KNUCKLE|FIST MIDDLE UP THUMB SIDE|HOOK MIDDLE THUMB|FIST MIDDLE THUMB LITTLE|FIST MIDDLE LITTLE|FIST MIDDLE RING LITTLE|CIRCLE MIDDLE RING LITTLE"⟩,
  ⟨0x1D8CF, "SIGNWRITING HAND-", "CURLICUE MIDDLE RING LITTLE ON|CUP MIDDLE RING LITTLE|HINGE MIDDLE RING LITTLE|ANGLE MIDDLE RING LITTLE OUT|ANGLE MIDDLE RING LITTLE IN|ANGLE MIDDLE RING LITTLE|CIRCLE MIDDLE RING LITTLE BENT|CLAW MIDDLE RING LITTLE CONJOINED|CLAW MIDDLE RING LITTLE CONJOINED SIDE|HOOK MIDDLE RING LITTLE CONJOINED OUT|HOOK MIDDLE RING LITTLE CONJOINED IN|HOOK MIDDLE RING LITTLE CONJOINED|HINGE INDEX HINGED|FIST INDEX THUMB SIDE|HINGE INDEX THUMB SIDE"⟩,
  ⟨0x1D8DE, "SIGNWRITING HAND-FIST INDEX THUMB ", "SIDE THUMB DIAGONAL|SIDE THUMB CONJOINED|SIDE THUMB BENT|SIDE INDEX BENT|SIDE BOTH BENT|SIDE INDEX HINGE|FORWARD INDEX STRAIGHT|FORWARD INDEX BENT|HOOK|CURLICUE|CURVE THUMB INSIDE"⟩,
  ⟨0x1D8E9, "SIGNWRITING HAND-", "CLAW INDEX THUMB CURVE THUMB INSIDE|FIST INDEX THUMB CURVE THUMB UNDER|FIST INDEX THUMB CIRCLE|CUP INDEX THUMB|CUP INDEX THUMB OPEN"⟩,
  ⟨0x1D8EE, "SIGNWRITING HAND-HINGE INDEX THUMB", " OPEN| LARGE|| SMALL"⟩,
  ⟨0x1D8F2, "SIGNWRITING HAND-ANGLE INDEX THUMB", " OUT| IN|"⟩,
  ⟨0x1D8F5, "SIGNWRITING HAND-FIST THUMB", "| HEEL| SIDE DIAGONAL| SIDE CONJOINED| SIDE BENT| FORWARD| BETWEEN INDEX MIDDLE| BETWEEN MIDDLE RING| BETWEEN RING LITTLE| UNDER TWO FINGERS| OVER TWO FINGERS| UNDER THREE FINGERS| UNDER FOUR FINGERS| OVER FOUR RAISED KNUCKLES"⟩,
  ⟨0x1D903, "SIGNWRITING ", "HAND-FIST|HAND-FIST HEEL|TOUCH SINGLE|TOUCH MULTIPLE|TOUCH BETWEEN|GRASP SINGLE|GRASP MULTIPLE|GRASP BETWEEN|STRIKE SINGLE|STRIKE MULTIPLE|STRIKE BETWEEN|BRUSH SINGLE|BRUSH MULTIPLE|BRUSH BETWEEN|RUB SINGLE|RUB MULTIPLE|RUB BETWEEN|SURFACE SYMBOLS|SURFACE BETWEEN|SQUEEZE LARGE SINGLE|SQUEEZE SMALL SINGLE|SQUEEZE LARGE MULTIPLE|SQUEEZE SMALL MULTIPLE|SQUEEZE SEQUENTIAL|FLICK LARGE SINGLE|FLICK SMALL SINGLE|FLICK LARGE MULTIPLE|FLICK SMALL MULTIPLE|FLICK SEQUENTIAL|SQUEEZE FLICK ALTERNATING"⟩,
  ⟨0x1D921, "SIGNWRITING MOVEMENT-", "HINGE UP DOWN LARGE|HINGE UP DOWN SMALL|HINGE UP SEQUENTIAL|HINGE DOWN SEQUENTIAL|HINGE UP DOWN ALTERNATING LARGE|HINGE UP DOWN ALTERNATING SMALL|HINGE SIDE TO SIDE SCISSORS|WALLPLANE FINGER CONTACT|FLOORPLANE FINGER CONTACT"⟩,
  ⟨0x1D92A, "SIGNWRITING MOVEMENT-WALLPLANE ", "SINGLE STRAIGHT SMALL|SINGLE STRAIGHT MEDIUM|SINGLE STRAIGHT LARGE|SINGLE STRAIGHT LARGEST|SINGLE WRIST FLEX|DOUBLE STRAIGHT|DOUBLE WRIST FLEX|DOUBLE ALTERNATING|DOUBLE ALTERNATING WRIST FLEX|CROSS|TRIPLE STRAIGHT MOVEMENT|TRIPLE WRIST FLEX|TRIPLE ALTERNATING|TRIPLE ALTERNATING WRIST FLEX|BEND SMALL|BEND MEDIUM|BEND LARGE|CORNER SMALL|CORNER MEDIUM|CORNER LARGE|CORNER ROTATION|CHECK SMALL|CHECK MEDIUM|CHECK LARGE|BOX SMALL|BOX MEDIUM|BOX LARGE|ZIGZAG SMALL|ZIGZAG MEDIUM|ZIGZAG LARGE|PEAKS SMALL|PEAKS MEDIUM|PEAKS LARGE"⟩,
  ⟨0x1D94B, "SIGNWRITING TRAVEL-WALLPLANE ", "ROTATION-WALLPLANE SINGLE|ROTATION-WALLPLANE DOUBLE|ROTATION-WALLPLANE ALTERNATING|ROTATION-FLOORPLANE SINGLE|ROTATION-FLOORPLANE DOUBLE|ROTATION-FLOORPLANE ALTERNATING|SHAKING|ARM SPIRAL SINGLE|ARM SPIRAL DOUBLE|ARM SPIRAL TRIPLE"⟩,
  ⟨0x1D955, "SIGNWRITING MOVEMENT-DIAGONAL ", "AWAY SMALL|AWAY MEDIUM|AWAY LARGE|AWAY LARGEST|TOWARDS SMALL|TOWARDS MEDIUM|TOWARDS LARGE|TOWARDS LARGEST"⟩,
  ⟨0x1D95D, "SIGNWRITING MOVEMENT-DIAGONAL BETWEEN ", "AWAY SMALL|AWAY MEDIUM|AWAY LARGE|AWAY LARGEST|TOWARDS SMALL|TOWARDS MEDIUM|TOWARDS LARGE|TOWARDS LARGEST"⟩,
  ⟨0x1D965, "SIGNWRITING MOVEMENT-FLOORPLANE ", "SINGLE STRAIGHT SMALL|SINGLE STRAIGHT MEDIUM|SINGLE STRAIGHT LARGE|SINGLE STRAIGHT LARGEST|SINGLE WRIST FLEX|DOUBLE STRAIGHT|DOUBLE WRIST FLEX|DOUBLE ALTERNATING|DOUBLE ALTERNATING WRIST FLEX|CROSS|TRIPLE STRAIGHT MOVEMENT|TRIPLE WRIST FLEX|TRIPLE ALTERNATING MOVEMENT|TRIPLE ALTERNATING WRIST FLEX|BEND|CORNER SMALL|CORNER MEDIUM|CORNER LARGE|CHECK|BOX SMALL|BOX MEDIUM|BOX LARGE|ZIGZAG SMALL|ZIGZAG MEDIUM|ZIGZAG LARGE|PEAKS SMALL|PEAKS MEDIUM|PEAKS LARGE"⟩,
  ⟨0x1D981, "SIGNWRITING TRAVEL-FLOORPLANE ", "ROTATION-FLOORPLANE SINGLE|ROTATION-FLOORPLANE DOUBLE|ROTATION-FLOORPLANE ALTERNATING|ROTATION-WALLPLANE SINGLE|ROTATION-WALLPLANE DOUBLE|ROTATION-WALLPLANE ALTERNATING|SHAKING"⟩,
  ⟨0x1D988, "SIGNWRITING MOVEMENT-WALLPLANE CURVE ", "QUARTER SMALL|QUARTER MEDIUM|QUARTER LARGE|QUARTER LARGEST|HALF-CIRCLE SMALL|HALF-CIRCLE MEDIUM|HALF-CIRCLE LARGE|HALF-CIRCLE LARGEST|THREE-QUARTER CIRCLE SMALL|THREE-QUARTER CIRCLE MEDIUM"⟩,
  ⟨0x1D992, "SIGNWRITING MOVEMENT-WALLPLANE ", "HUMP SMALL|HUMP MEDIUM|HUMP LARGE|LOOP SMALL|LOOP MEDIUM|LOOP LARGE|LOOP SMALL DOUBLE|WAVE CURVE DOUBLE SMALL|WAVE CURVE DOUBLE MEDIUM|WAVE CURVE DOUBLE LARGE|WAVE CURVE TRIPLE SMALL|WAVE CURVE TRIPLE MEDIUM|WAVE CURVE TRIPLE LARGE|CURVE THEN STRAIGHT|CURVED CROSS SMALL|CURVED CROSS MEDIUM"⟩,
  ⟨0x1D9A2, "SIGNWRITING ROTATION-WALLPLANE ", "SINGLE|DOUBLE|ALTERNATE"⟩,
  ⟨0x1D9A5, "SIGNWRITING MOVEMENT-WALLPLANE ", "SHAKING|CURVE HITTING FRONT WALL|HUMP HITTING FRONT WALL|LOOP HITTING FRONT WALL|WAVE HITTING FRONT WALL"⟩,
  ⟨0x1D9AA, "SIGNWRITING ROTATION-WALLPLANE ", "SINGLE HITTING FRONT WALL|DOUBLE HITTING FRONT WALL|ALTERNATING HITTING FRONT WALL"⟩,
  ⟨0x1D9AD, "SIGNWRITING MOVEMENT-WALLPLANE ", "CURVE HITTING CHEST|HUMP HITTING CHEST|LOOP HITTING CHEST|WAVE HITTING CHEST"⟩,
  ⟨0x1D9B1, "SIGNWRITING ROTATION-WALLPLANE ", "SINGLE HITTING CHEST|DOUBLE HITTING CHEST|ALTERNATING HITTING CHEST"⟩,
  ⟨0x1D9B4, "SIGNWRITING MOVEMENT-WALLPLANE WAVE DIAGONAL PATH ", "SMALL|MEDIUM|LARGE"⟩,
  ⟨0x1D9B7, "SIGNWRITING MOVEMENT-FLOORPLANE CURVE HITTING CEILING ", "SMALL|LARGE"⟩,
  ⟨0x1D9B9, "SIGNWRITING MOVEMENT-FLOORPLANE HUMP HITTING CEILING ", "SMALL DOUBLE|LARGE DOUBLE|SMALL TRIPLE|LARGE TRIPLE"⟩,
  ⟨0x1D9BD, "SIGNWRITING MOVEMENT-FLOORPLANE LOOP HITTING CEILING ", "SMALL SINGLE|LARGE SINGLE|SMALL DOUBLE|LARGE DOUBLE"⟩,
  ⟨0x1D9C1, "SIGNWRITING MOVEMENT-FLOORPLANE WAVE HITTING CEILING ", "SMALL|LARGE"⟩,
  ⟨0x1D9C3, "SIGNWRITING ROTATION-FLOORPLANE ", "SINGLE HITTING CEILING|DOUBLE HITTING CEILING|ALTERNATING HITTING CEILING"⟩,
  ⟨0x1D9C6, "SIGNWRITING MOVEMENT-FLOORPLANE ", "CURVE HITTING FLOOR SMALL|CURVE HITTING FLOOR LARGE|HUMP HITTING FLOOR SMALL DOUBLE|HUMP HITTING FLOOR LARGE DOUBLE|HUMP HITTING FLOOR TRIPLE SMALL TRIPLE|HUMP HITTING FLOOR TRIPLE LARGE TRIPLE|LOOP HITTING FLOOR SMALL SINGLE|LOOP HITTING FLOOR LARGE SINGLE|LOOP HITTING FLOOR SMALL DOUBLE|LOOP HITTING FLOOR LARGE DOUBLE|WAVE HITTING FLOOR SMALL|WAVE HITTING FLOOR LARGE"⟩,
  ⟨0x1D9D2, "SIGNWRITING ROTATION-FLOORPLANE ", "SINGLE HITTING FLOOR|DOUBLE HITTING FLOOR|ALTERNATING HITTING FLOOR"⟩,
  ⟨0x1D9D5, "SIGNWRITING MOVEMENT-FLOORPLANE ", "CURVE SMALL|CURVE MEDIUM|CURVE LARGE|CURVE LARGEST|CURVE COMBINED|HUMP SMALL|LOOP SMALL|WAVE SNAKE|WAVE SMALL|WAVE LARGE"⟩,
  ⟨0x1D9DF, "SIGNWRITING ROTATION-FLOORPLANE ", "SINGLE|DOUBLE|ALTERNATING"⟩,
  ⟨0x1D9E2, "SIGNWRITING MOVEMENT-FLOORPLANE SHAKING PARALLEL", ""⟩,
  ⟨0x1D9E3, "SIGNWRITING MOVEMENT-WALLPLANE ARM CIRCLE ", "SMALL SINGLE|MEDIUM SINGLE|SMALL DOUBLE|MEDIUM DOUBLE"⟩,
  ⟨0x1D9E7, "SIGNWRITING MOVEMENT-FLOORPLANE ARM CIRCLE HITTING WALL ", "SMALL SINGLE|MEDIUM SINGLE|LARGE SINGLE|SMALL DOUBLE|MEDIUM DOUBLE|LARGE DOUBLE"⟩,
  ⟨0x1D9ED, "SIGNWRITING MOVEMENT-WALLPLANE WRIST CIRCLE FRONT ", "SINGLE|DOUBLE"⟩,
  ⟨0x1D9EF, "SIGNWRITING MOVEMENT-FLOORPLANE WRIST CIRCLE HITTING WALL ", "SINGLE|DOUBLE"⟩,
  ⟨0x1D9F1, "SIGNWRITING MOVEMENT-WALLPLANE FINGER CIRCLES ", "SINGLE|DOUBLE"⟩,
  ⟨0x1D9F3, "SIGNWRITING MOVEMENT-FLOORPLANE FINGER CIRCLES HITTING WALL ", "SINGLE|DOUBLE"⟩,
  ⟨0x1D9F5, "SIGNWRITING DYNAMIC ", "ARROWHEAD SMALL|ARROWHEAD LARGE|FAST|SLOW|TENSE|RELAXED|SIMULTANEOUS|SIMULTANEOUS ALTERNATING|EVERY OTHER TIME|GRADUAL"⟩,
  ⟨0x1D9FF, "SIGNWRITING HEAD", "| RIM"⟩,
  ⟨0x1DA01, "SIGNWRITING HEAD MOVEMENT", "-WALLPLANE STRAIGHT|-WALLPLANE TILT|-FLOORPLANE STRAIGHT|-WALLPLANE CURVE|-FLOORPLANE CURVE| CIRCLE"⟩,
  ⟨0x1DA07, "SIGNWRITING FACE DIRECTION POSITION NOSE ", "FORWARD TILTING|UP OR DOWN|UP OR DOWN TILTING"⟩,
  ⟨0x1DA0A, "SIGNWRITING EYEBROWS STRAIGHT ", "UP|NEUTRAL|DOWN"⟩,
  ⟨0x1DA0D, "SIGNWRITING DREAMY EYEBROWS ", "NEUTRAL DOWN|DOWN NEUTRAL|UP NEUTRAL|NEUTRAL UP"⟩,
  ⟨0x1DA11, "SIGNWRITING FOREHEAD ", "NEUTRAL|CONTACT|WRINKLED"⟩,
  ⟨0x1DA14, "SIGNWRITING EYE", "S OPEN|S SQUEEZED|S CLOSED| BLINK SINGLE| BLINK MULTIPLE|S HALF OPEN|S WIDE OPEN|S HALF CLOSED|S WIDENING MOVEMENT| WINK|LASHES UP|LASHES DOWN|LASHES FLUTTERING"⟩,
  ⟨0x1DA21, "SIGNWRITING EYEGAZE-WALLPLANE STRAIGHT", "| DOUBLE| ALTERNATING"⟩,
  ⟨0x1DA24, "SIGNWRITING EYEGAZE-FLOORPLANE STRAIGHT", "| DOUBLE| ALTERNATING"⟩,
  ⟨0x1DA27, "SIGNWRITING ", "EYEGAZE-WALLPLANE CURVED|EYEGAZE-FLOORPLANE CURVED|EYEGAZE-WALLPLANE CIRCLING|CHEEKS PUFFED|CHEEKS NEUTRAL|CHEEKS SUCKED|TENSE CHEEKS HIGH|TENSE CHEEKS MIDDLE|TENSE CHEEKS LOW|EARS|NOSE NEUTRAL|NOSE CONTACT|NOSE WRINKLES|NOSE WIGGLES|AIR BLOWING OUT|AIR SUCKING IN|AIR BLOW SMALL ROTATIONS|AIR SUCK SMALL ROTATIONS|BREATH INHALE|BREATH EXHALE"⟩,
  ⟨0x1DA3B, "SIGNWRITING MOUTH ", "CLOSED NEUTRAL|CLOSED FORWARD|CLOSED CONTACT|SMILE|SMILE WRINKLED|SMILE OPEN|FROWN|FROWN WRINKLED|FROWN OPEN|OPEN CIRCLE|OPEN FORWARD|OPEN WRINKLED|OPEN OVAL|OPEN OVAL WRINKLED|OPEN OVAL YAWN|OPEN RECTANGLE|OPEN RECTANGLE WRINKLED|OPEN RECTANGLE YAWN|KISS|KISS FORWARD|KISS WRINKLED|TENSE|TENSE FORWARD|TENSE SUCKED"⟩,
  ⟨0x1DA53, "SIGNWRITING ", "LIPS PRESSED TOGETHER|LIP LOWER OVER UPPER|LIP UPPER OVER LOWER|MOUTH CORNERS|MOUTH WRINKLES SINGLE|MOUTH WRINKLES DOUBLE|TONGUE STICKING OUT FAR|TONGUE LICKING LIPS|TONGUE TIP BETWEEN LIPS|TONGUE TIP TOUCHING INSIDE MOUTH|TONGUE INSIDE MOUTH RELAXED|TONGUE MOVES AGAINST CHEEK|TONGUE CENTRE STICKING OUT|TONGUE CENTRE INSIDE MOUTH|TEETH|TEETH MOVEMENT|TEETH ON TONGUE|TEETH ON TONGUE MOVEMENT|TEETH ON LIPS|TEETH ON LIPS MOVEMENT|TEETH BITE LIPS|MOVEMENT-WALLPLANE JAW|MOVEMENT-FLOORPLANE JAW|NECK|HAIR|EXCITEMENT|SHOULDER HIP SPINE|SHOULDER HIP POSITIONS|WALLPLANE SHOULDER HIP MOVE|FLOORPLANE SHOULDER HIP MOVE|SHOULDER TILTING FROM WAIST|TORSO-WALLPLANE STRAIGHT STRETCH|TORSO-WALLPLANE CURVED BEND|TORSO-FLOORPLANE TWISTING|UPPER BODY TILTING FROM HIP JOINTS|LIMB COMBINATION"⟩,
  ⟨0x1DA77, "SIGNWRITING LIMB LENGTH-", "1|2|3|4|5|6|7"⟩,
  ⟨0x1DA7E, "SIGNWRITING ", "FINGER|LOCATION-WALLPLANE SPACE|LOCATION-FLOORPLANE SPACE|LOCATION HEIGHT|LOCATION WIDTH|LOCATION DEPTH|LOCATION HEAD NECK|LOCATION TORSO|LOCATION LIMBS DIGITS|COMMA|FULL STOP|SEMICOLON|COLON|PARENTHESIS"⟩,
  ⟨0x1DA9B, "SIGNWRITING FILL MODIFIER-", "2|3|4|5|6"⟩,
  ⟨0x1DAA1, "SIGNWRITING ROTATION MODIFIER-", "2|3|4|5|6|7|8|9|10|11|12|13|14|15|16"⟩,
  ⟨0x1DF00, "LATIN ", "SMALL LETTER FENG DIGRAPH WITH TRILL|SMALL LETTER REVERSED SCRIPT G|LETTER SMALL CAPITAL TURNED G|SMALL LETTER REVERSED K|LETTER SMALL CAPITAL L WITH BELT|SMALL LETTER LEZH WITH RETROFLEX HOOK|SMALL LETTER TURNED Y WITH BELT|SMALL LETTER REVERSED ENG|SMALL LETTER TURNED R WITH LONG LEG AND RETROFLEX HOOK|SMALL LETTER T WITH HOOK AND RETROFLEX HOOK|LETTER RETROFLEX CLICK WITH RETROFLEX HOOK|SMALL LETTER ESH WITH DOUBLE BAR|SMALL LETTER ESH WITH DOUBLE BAR AND CURL|SMALL LETTER TURNED T WITH CURL|LETTER INVERTED GLOTTAL STOP WITH CURL|LETTER STRETCHED C WITH CURL|LETTER SMALL CAPITAL TURNED K"⟩,
  ⟨0x1DF11, "LATIN SMALL LETTER ", "L WITH FISHHOOK|DEZH DIGRAPH WITH PALATAL HOOK|L WITH BELT AND PALATAL HOOK|ENG WITH PALATAL HOOK|TURNED R WITH PALATAL HOOK|R WITH FISHHOOK AND PALATAL HOOK|TESH DIGRAPH WITH PALATAL HOOK|EZH WITH PALATAL HOOK|DEZH DIGRAPH WITH RETROFLEX HOOK|I WITH STROKE AND RETROFLEX HOOK|O WITH RETROFLEX HOOK|TESH DIGRAPH WITH RETROFLEX HOOK|C WITH RETROFLEX HOOK|S WITH CURL"⟩,
  ⟨0x1E000, "COMBINING GLAGOLITIC LETTER ", "AZU|BUKY|VEDE|GLAGOLI|DOBRO|YESTU|ZHIVETE"⟩,
  ⟨0x1E008, "COMBINING GLAGOLITIC LETTER ", "ZEMLJA|IZHE|INITIAL IZHE|I|DJERVI|KAKO|LJUDIJE|MYSLITE|NASHI|ONU|POKOJI|RITSI|SLOVO|TVRIDO|UKU|FRITU|HERU"⟩,
  ⟨0x1E01B, "COMBINING GLAGOLITIC LETTER ", "SHTA|TSI|CHRIVI|SHA|YERU|YERI|YATI"⟩,
  ⟨0x1E023, "COMBINING GLAGOLITIC LETTER ", "YU|SMALL YUS"⟩,
  ⟨0x1E026, "COMBINING GLAGOLITIC LETTER ", "YO|IOTATED SMALL YUS|BIG YUS|IOTATED BIG YUS|FITA"⟩,
  ⟨0x1E100, "NYIAKENG PUACHUE HMONG LETTER ", "MA|TSA|NTA|TA|HA|NA|XA|NKA|CA|LA|SA|ZA|NCA|NTSA|KA|DA|NYA|NRA|VA|NTXA|TXA|FA|RA|QA|YA|NQA|PA|XYA|NPA|DLA|NPLA|HAH|MLA|PLA|GA|RRA|A|AA|I|U|O|OO|E|EE|W"⟩,
  ⟨0x1E130, "NYIAKENG PUACHUE HMONG ", "TONE-B|TONE-M|TONE-J|TONE-V|TONE-S|TONE-G|TONE-D|SIGN FOR PERSON|SIGN FOR THING|SIGN FOR LOCATION|SIGN FOR ANIMAL|SIGN FOR INVERTEBRATE|SIGN XW XW|SYLLABLE LENGTHENER"⟩,
  ⟨0x1E140, "NYIAKENG PUACHUE HMONG DIGIT ", "ZERO|ONE|TWO|THREE|FOUR|FIVE|SIX|SEVEN|EIGHT|NINE"⟩,
  ⟨0x1E14E, "NYIAKENG PUACHUE HMONG ", "LOGOGRAM NYAJ|CIRCLED CA"⟩,
  ⟨0x1E290, "TOTO LETTER ", "PA|BA|TA|DA|KA|GA|MA|NA|NGA|SA|CHA|YA|WA|JA|HA|RA|LA|I|BREATHY I|IU|BREATHY IU|U|E|BREATHY E|EO|BREATHY EO|O|AE|BREATHY AE|A"⟩,
  ⟨0x1E2AE, "TOTO SIGN RISING TONE", ""⟩,
  ⟨0x1E2C0, "WANCHO LETTER ", "AA|A|BA|CA|DA|GA|YA|PHA|LA|NA|PA|TA|THA|FA|SA|SHA|JA|ZA|WA|VA|KA|O|AU|RA|MA|KHA|HA|E|I|NGA|U|LLHA|TSA|TRA|ONG|AANG|ANG|ING|ON|EN|AAN|NYA|UEN|YIH"⟩,
  ⟨0x1E2EC, "WANCHO TONE ", "TUP|TUPNI|KOI|KOINI"⟩,
  ⟨0x1E2F0, "WANCHO DIGIT ", "ZERO|ONE|TWO|THREE|FOUR|FIVE|SIX|SEVEN|EIGHT|NINE"⟩,
  ⟨0x1E2FF, "WANCHO NGUN SIGN", ""⟩,
  ⟨0x1E7E0, "ETHIOPIC SYLLABLE HHY", "A|U|I|AA|EE|E|O"⟩,
  ⟨0x1E7E8, "ETHIOPIC SYLLABLE ", "GURAGE HHWA|HHWI|HHWEE|HHWE"⟩,
  ⟨0x1E7ED, "ETHIOPIC SYLLABLE GURAGE MW", "I|EE"⟩,
  ⟨0x1E7F0, "ETHIOPIC SYLLABLE GURAGE ", "QWI|QWEE|QWE|BWI|BWEE|KWI|KWEE|KWE|GWI|GWEE|GWE|FWI|FWEE|PWI|PWEE"⟩,
  ⟨0x1E800, "MENDE KIKAKUI SYLLABLE M", "001 KI|002 KA|003 KU|065 KEE|095 KE|076 KOO|048 KO|179 KUA|004 WI|005 WA|006 WU|126 WEE|118 WE|114 WOO|045 WO|194 WUI|143 WEI|061 WVI|049 WVA|139 WVE|007 MIN|008 MAN|009 MUN|059 MEN|094 MON|154 MUAN|189 MUEN|010 BI|011 BA|012 BU|150 BEE|097 BE|103 BOO|138 BO|013 I|014 A|015 U|163 EE|100 E|165 OO|147 O|137 EI|131 IN|135 IN|195 AN|178 EN|019 SI|020 SA|021 SU|162 SEE|116 SE|136 SOO|079 SO|196 SIA|025 LI|026 LA|027 LU|084 LEE|073 LE|054 LOO|153 LO|110 LONG LE|016 DI|017 DA|018 DU|089 DEE|180 DOO|181 DO|022 TI|023 TA|024 TU|091 TEE|055 TE|104 TOO|069 TO|028 JI|029 JA|030 JU|157 JEE|113 JE|160 JOO|063 JO|175 LONG JO|031 YI|032 YA|033 YU|109 YEE|080 YE|141 YOO|121 YO|034 FI|035 FA|036 FU|078 FEE|075 FE|133 FOO|088 FO|197 FUA|101 FAN|037 NIN|038 NAN|039 NUN|117 NEN|169 NON|176 HI|041 HA|186 HU|040 HEE|096 HE|042 HOO|140 HO|083 HEEI|128 HOOU|053 HIN|130 HAN|087 HUN|052 HEN|193 HON|046 HUAN|090 NGGI|043 NGGA|082 NGGU|115 NGGEE|146 NGGE|156 NGGOO|120 NGGO|159 NGGAA|127 NGGUA|086 LONG NGGE|106 LONG NGGOO|183 LONG NGGO|155 GI|111 GA|168 GU|190 GEE|166 GUEI|167 GUAN|184 NGEN|057 NGON|177 NGUAN|068 PI|099 PA|050 PU|081 PEE|051 PE|102 POO|066 PO|145 MBI|062 MBA|122 MBU|047 MBEE|188 MBEE|072 MBE|172 MBOO|174 MBO|187 MBUU|161 LONG MBE|105 LONG MBOO|142 LONG MBO|132 KPI|092 KPA|074 KPU|044 KPEE|108 KPE|112 KPOO|158 KPO|124 GBI|056 GBA|148 GBU|093 GBEE|107 GBE|071 GBOO|070 GBO|171 RA|123 NDI|129 NDA|125 NDU|191 NDEE|119 NDE|067 NDOO|064 NDO|152 NJA|192 NJU|149 NJEE|134 NJOO|182 VI|185 VA|151 VU"⟩,
  ⟨0x1E8BC, "MENDE KIKAKUI SYLLABLE M", "173 VEE|085 VE|144 VOO|077 VO|164 NYIN|058 NYAN|170 NYUN|098 NYEN|060 NYON"⟩,
  ⟨0x1E8C7, "MENDE KIKAKUI DIGIT ", "ONE|TWO|THREE|FOUR|FIVE|SIX|SEVEN|EIGHT|NINE"⟩,
  ⟨0x1E8D0, "MENDE KIKAKUI COMBINING NUMBER ", "TEENS|TENS|HUNDREDS|THOUSANDS|TEN THOUSANDS|HUNDRED THOUSANDS|MILLIONS"⟩,
  ⟨0x1E900, "ADLAM CAPITAL LETTER ", "ALIF|DAALI|LAAM|MIIM|BA|SINNYIIYHE|PE|BHE|RA|E|FA|I|O|DHA|YHE|WAW|NUN|KAF|YA|U|JIIM|CHI|HA|QAAF|GA|NYA|TU|NHA|VA|KHA|GBE|ZAL|KPO|SHA"⟩,
  ⟨0x1E922, "ADLAM SMALL LETTER ", "ALIF|DAALI|LAAM|MIIM|BA|SINNYIIYHE|PE|BHE|RA|E|FA|I|O|DHA|YHE|WAW|NUN|KAF|YA|U|JIIM|CHI|HA|QAAF|GA|NYA|TU|NHA|VA|KHA|GBE|ZAL|KPO|SHA"⟩,
  ⟨0x1E944, "ADLAM ", "ALIF LENGTHENER|VOWEL LENGTHENER|GEMINATION MARK|HAMZA|CONSONANT MODIFIER|GEMINATE CONSONANT MODIFIER|NUKTA|NASALIZATION MARK"⟩,
  ⟨0x1E950, "ADLAM DIGIT ", "ZERO|ONE|TWO|THREE|FOUR|FIVE|SIX|SEVEN|EIGHT|NINE"⟩,
  ⟨0x1E95E, "ADLAM INITIAL ", "EXCLAMATION MARK|QUESTION MARK"⟩,
  ⟨0x1EC71, "INDIC SIYAQ NUMBER ", "ONE|TWO|THREE|FOUR|FIVE|SIX|SEVEN|EIGHT|NINE|TEN|TWENTY|THIRTY|FORTY|FIFTY|SIXTY|SEVENTY|EIGHTY|NINETY|ONE HUNDRED|TWO HUNDRED|THREE HUNDRED|FOUR HUNDRED|FIVE HUNDRED|SIX HUNDRED|SEVEN HUNDRED|EIGHT HUNDRED|NINE HUNDRED|ONE THOUSAND|TWO THOUSAND|THREE THOUSAND|FOUR THOUSAND|FIVE THOUSAND|SIX THOUSAND|SEVEN THOUSAND|EIGHT THOUSAND|NINE THOUSAND|TEN THOUSAND|TWENTY THOUSAND|THIRTY THOUSAND|FORTY THOUSAND|FIFTY THOUSAND|SIXTY THOUSAND|SEVENTY THOUSAND|EIGHTY THOUSAND|NINETY THOUSAND|LAKH|LAKHAN"⟩,
  ⟨0x1ECA0, "INDIC SIYAQ ", "LAKH MARK|NUMBER KAROR|NUMBER KARORAN"⟩,
  ⟨0x1ECA3, "INDIC SIYAQ NUMBER PREFIXED ", "ONE|TWO|THREE|FOUR|FIVE|SIX|SEVEN|EIGHT|NINE"⟩,
  ⟨0x1ECAC, "INDIC SIYAQ ", "PLACEHOLDER|FRACTION ONE QUARTER|FRACTION ONE HALF|FRACTION THREE QUARTERS|RUPEE MARK|NUMBER ALTERNATE ONE|NUMBER ALTERNATE TWO|NUMBER ALTERNATE TEN THOUSAND|ALTERNATE LAKH MARK"⟩,
  ⟨0x1ED01, "OTTOMAN SIYAQ NUMBER ", "ONE|TWO|THREE|FOUR|FIVE|SIX|SEVEN|EIGHT|NINE|TEN|TWENTY|THIRTY|FORTY|FIFTY|SIXTY|SEVENTY|EIGHTY|NINETY|ONE HUNDRED|TWO HUNDRED|THREE HUNDRED|FOUR HUNDRED|FIVE HUNDRED|SIX HUNDRED|SEVEN HUNDRED|EIGHT HUNDRED|NINE HUNDRED|ONE THOUSAND|TWO THOUSAND|THREE THOUSAND|FOUR THOUSAND|FIVE THOUSAND|SIX THOUSAND|SEVEN THOUSAND|EIGHT THOUSAND|NINE THOUSAND|TEN THOUSAND|TWENTY THOUSAND|THIRTY THOUSAND|FORTY THOUSAND|FIFTY THOUSAND|SIXTY THOUSAND|SEVENTY THOUSAND|EIGHTY THOUSAND|NINETY THOUSAND"⟩,
  ⟨0x1ED2E, "OTTOMAN SIYAQ MARRATAN", ""⟩,
  ⟨0x1ED2F, "OTTOMAN SIYAQ ALTERNATE NUMBER ", "TWO|THREE|FOUR|FIVE|SIX|SEVEN|EIGHT|NINE|TEN|FOUR HUNDRED|SIX HUNDRED|TWO THOUSAND|TEN THOUSAND"⟩,
  ⟨0x1ED3C, "OTTOMAN SIYAQ FRACTION ONE ", "HALF|SIXTH"⟩,
  ⟨0x1EE00, "ARABIC MATHEMATICAL ", "ALEF|BEH|JEEM|DAL"⟩,
  ⟨0x1EE05, "ARABIC MATHEMATICAL ", "WAW|ZAIN|HAH|TAH|YEH|KAF|LAM|MEEM|NOON|SEEN|AIN|FEH|SAD|QAF|REH|SHEEN|TEH|THEH|KHAH|THAL|DAD|ZAH|GHAIN|DOTLESS BEH|DOTLESS NOON|DOTLESS FEH|DOTLESS QAF"⟩,
  ⟨0x1EE21, "ARABIC MATHEMATICAL INITIAL ", "BEH|JEEM"⟩,
  ⟨0x1EE24, "ARABIC MATHEMATICAL INITIAL HEH", ""⟩,
  ⟨0x1EE27, "ARABIC MATHEMATICAL INITIAL HAH", ""⟩,
  ⟨0x1EE29, "ARABIC MATHEMATICAL INITIAL ", "YEH|KAF|LAM|MEEM|NOON|SEEN|AIN|FEH|SAD|QAF"⟩,
  ⟨0x1EE34, "ARABIC MATHEMATICAL INITIAL ", "SHEEN|TEH|THEH|KHAH"⟩,
  ⟨0x1EE39, "ARABIC MATHEMATICAL INITIAL DAD", ""⟩,
  ⟨0x1EE3B, "ARABIC MATHEMATICAL INITIAL GHAIN", ""⟩,
  ⟨0x1EE42, "ARABIC MATHEMATICAL TAILED JEEM", ""⟩,
  ⟨0x1EE47, "ARABIC MATHEMATICAL TAILED HAH", ""⟩,
  ⟨0x1EE49, "ARABIC MATHEMATICAL TAILED YEH", ""⟩,
  ⟨0x1EE4B, "ARABIC MATHEMATICAL TAILED LAM", ""⟩,
  ⟨0x1EE4D, "ARABIC MATHEMATICAL TAILED ", "NOON|SEEN|AIN"⟩,
  ⟨0x1EE51, "ARABIC MATHEMATICAL TAILED ", "SAD|QAF"⟩,
  ⟨0x1EE54, "ARABIC MATHEMATICAL TAILED SHEEN", ""⟩,
  ⟨0x1EE57, "ARABIC MATHEMATICAL TAILED KHAH", ""⟩,
  ⟨0x1EE59, "ARABIC MATHEMATICAL TAILED DAD", ""⟩,
  ⟨0x1EE5B, "ARABIC MATHEMATICAL TAILED GHAIN", ""⟩,
  ⟨0x1EE5D, "ARABIC MATHEMATICAL TAILED DOTLESS NOON", ""⟩,
  ⟨0x1EE5F, "ARABIC MATHEMATICAL TAILED DOTLESS QAF", ""⟩,
  ⟨0x1EE61, "ARABIC MATHEMATICAL STRETCHED ", "BEH|JEEM"⟩,
  ⟨0x1EE64, "ARABIC MATHEMATICAL STRETCHED HEH", ""⟩,
  ⟨0x1EE67, "ARABIC MATHEMATICAL STRETCHED ", "HAH|TAH|YEH|KAF"⟩,
  ⟨0x1EE6C, "ARABIC MATHEMATICAL STRETCHED ", "MEEM|NOON|SEEN|AIN|FEH|SAD|QAF"⟩,
  ⟨0x1EE74, "ARABIC MATHEMATICAL STRETCHED ", "SHEEN|TEH|THEH|KHAH"⟩,
  ⟨0x1EE79, "ARABIC MATHEMATICAL STRETCHED ", "DAD|ZAH|GHAIN|DOTLESS BEH"⟩,
  ⟨0x1EE7E, "ARABIC MATHEMATICAL STRETCHED DOTLESS FEH", ""⟩,
  ⟨0x1EE80, "ARABIC MATHEMATICAL LOOPED ", "ALEF|BEH|JEEM|DAL|HEH|WAW|ZAIN|HAH|TAH|YEH"⟩,
  ⟨0x1EE8B, "ARABIC MATHEMATICAL LOOPED ", "LAM|MEEM|NOON|SEEN|AIN|FEH|SAD|QAF|REH|SHEEN|TEH|THEH|KHAH|THAL|DAD|ZAH|GHAIN"⟩,
  ⟨0x1EEA1, "ARABIC MATHEMATICAL DOUBLE-STRUCK ", "BEH|JEEM|DAL"⟩,
  ⟨0x1EEA5, "ARABIC MATHEMATICAL DOUBLE-STRUCK ", "WAW|ZAIN|HAH|TAH|YEH"⟩,
  ⟨0x1EEAB, "ARABIC MATHEMATICAL DOUBLE-STRUCK ", "LAM|MEEM|NOON|SEEN|AIN|FEH|SAD|QAF|REH|SHEEN|TEH|THEH|KHAH|THAL|DAD|ZAH|GHAIN"⟩,
  ⟨0x1EEF0, "ARABIC MATHEMATICAL OPERATOR ", "MEEM WITH HAH WITH TATWEEL|HAH WITH DAL"⟩,
  ⟨0x1F000, "MAHJONG TILE ", "EAST WIND|SOUTH WIND|WEST WIND|NORTH WIND|RED DRAGON|GREEN DRAGON|WHITE DRAGON|ONE OF CHARACTERS|TWO OF CHARACTERS|THREE OF CHARACTERS|FOUR OF CHARACTERS|FIVE OF CHARACTERS|SIX OF CHARACTERS|SEVEN OF CHARACTERS|EIGHT OF CHARACTERS|NINE OF CHARACTERS|ONE OF BAMBOOS|TWO OF BAMBOOS|THREE OF BAMBOOS|FOUR OF BAMBOOS|FIVE OF BAMBOOS|SIX OF BAMBOOS|SEVEN OF BAMBOOS|EIGHT OF BAMBOOS|NINE OF BAMBOOS|ONE OF CIRCLES|TWO OF CIRCLES|THREE OF CIRCLES|FOUR OF CIRCLES|FIVE OF CIRCLES|SIX OF CIRCLES|SEVEN OF CIRCLES|EIGHT OF CIRCLES|NINE OF CIRCLES|PLUM|ORCHID|BAMBOO|CHRYSANTHEMUM|SPRING|SUMMER|AUTUMN|WINTER|JOKER|BACK"⟩,
  ⟨0x1F030, "DOMINO TILE HORIZONTAL BACK", ""⟩,
  ⟨0x1F031, "DOMINO TILE HORIZONTAL-0", "0-00|0-01|0-02|0-03|0-04|0-05|0-06|1-00|1-01|1-02|1-03|1-04|1-05|1-06|2-00|2-01|2-02|2-03|2-04|2-05|2-06|3-00|3-01|3-02|3-03|3-04|3-05|3-06|4-00|4-01|4-02|4-03|4-04|4-05|4-06|5-00|5-01|5-02|5-03|5-04|5-05|5-06|6-00|6-01|6-02|6-03|6-04|6-05|6-06"⟩,
  ⟨0x1F062, "DOMINO TILE VERTICAL BACK", ""⟩,
  ⟨0x1F063, "DOMINO TILE VERTICAL-0", "0-00|0-01|0-02|0-03|0-04|0-05|0-06|1-00|1-01|1-02|1-03|1-04|1-05|1-06|2-00|2-01|2-02|2-03|2-04|2-05|2-06|3-00|3-01|3-02|3-03|3-04|3-05|3-06|4-00|4-01|4-02|4-03|4-04|4-05|4-06|5-00|5-01|5-02|5-03|5-04|5-05|5-06|6-00|6-01|6-02|6-03|6-04|6-05|6-06"⟩,
  ⟨0x1F0A0, "PLAYING CARD ", "BACK|ACE OF SPADES|TWO OF SPADES|THREE OF SPADES|FOUR OF SPADES|FIVE OF SPADES|SIX OF SPADES|SEVEN OF SPADES|EIGHT OF SPADES|NINE OF SPADES|TEN OF SPADES|JACK OF SPADES|KNIGHT OF SPADES|QUEEN OF SPADES|KING OF SPADES"⟩,
  ⟨0x1F0B1, "PLAYING CARD ", "ACE OF HEARTS|TWO OF HEARTS|THREE OF HEARTS|FOUR OF HEARTS|FIVE OF HEARTS|SIX OF HEARTS|SEVEN OF HEARTS|EIGHT OF HEARTS|NINE OF HEARTS|TEN OF HEARTS|JACK OF HEARTS|KNIGHT OF HEARTS|QUEEN OF HEARTS|KING OF HEARTS|RED JOKER"⟩,
  ⟨0x1F0C1, "PLAYING CARD ", "ACE OF DIAMONDS|TWO OF DIAMONDS|THREE OF DIAMONDS|FOUR OF DIAMONDS|FIVE OF DIAMONDS|SIX OF DIAMONDS|SEVEN OF DIAMONDS|EIGHT OF DIAMONDS|NINE OF DIAMONDS|TEN OF DIAMONDS|JACK OF DIAMONDS|KNIGHT OF DIAMONDS|QUEEN OF DIAMONDS|KING OF DIAMONDS|BLACK JOKER"⟩,
  ⟨0x1F0D1, "PLAYING CARD ", "ACE OF CLUBS|TWO OF CLUBS|THREE OF CLUBS|FOUR OF CLUBS|FIVE OF CLUBS|SIX OF CLUBS|SEVEN OF CLUBS|EIGHT OF CLUBS|NINE OF CLUBS|TEN OF CLUBS|JACK OF CLUBS|KNIGHT OF CLUBS|QUEEN OF CLUBS|KING OF CLUBS|WHITE JOKER|FOOL"⟩,
  ⟨0x1F0E1, "PLAYING CARD TRUMP-", "1|2|3|4|5|6|7|8|9|10|11|12|13|14|15|16|17|18|19|20|21"⟩,
  ⟨0x1F100, "DIGIT ", "ZERO FULL STOP|ZERO COMMA|ONE COMMA|TWO COMMA|THREE COMMA|FOUR COMMA|FIVE COMMA|SIX COMMA|SEVEN COMMA|EIGHT COMMA|NINE COMMA"⟩,
  ⟨0x1F10B, "DINGBAT ", "CIRCLED SANS-SERIF DIGIT ZERO|NEGATIVE CIRCLED SANS-SERIF DIGIT ZERO"⟩,
  ⟨0x1F10D, "CIRCLED ", "ZERO WITH SLASH|ANTICLOCKWISE ARROW|DOLLAR SIGN WITH OVERLAID BACKSLASH"⟩,
  ⟨0x1F110, "PARENTHESIZED LATIN CAPITAL LETTER ", "A|B|C|D|E|F|G|H|I|J|K|L|M|N|O|P|Q|R|S|T|U|V|W|X|Y|Z"⟩,
  ⟨0x1F12A, "", "TORTOISE SHELL BRACKETED LATIN CAPITAL LETTER S|CIRCLED ITALIC LATIN CAPITAL LETTER C|CIRCLED ITALIC LATIN CAPITAL LETTER R|CIRCLED CD|CIRCLED WZ|COPYLEFT SYMBOL"⟩,
  ⟨0x1F130, "SQUARED LATIN CAPITAL LETTER ", "A|B|C|D|E|F|G|H|I|J|K|L|M|N|O|P|Q|R|S|T|U|V|W|X|Y|Z"⟩,
  ⟨0x1F14A, "SQUARED ", "HV|MV|SD|SS|PPV|WC"⟩,
  ⟨0x1F150, "NEGATIVE CIRCLED LATIN CAPITAL LETTER ", "A|B|C|D|E|F|G|H|I|J|K|L|M|N|O|P|Q|R|S|T|U|V|W|X|Y|Z"⟩,
  ⟨0x1F16A, "RAISED M", "C SIGN|D SIGN|R SIGN"⟩,
  ⟨0x1F16D, "CIRCLED ", "CC|C WITH OVERLAID BACKSLASH|HUMAN FIGURE"⟩,
  ⟨0x1F170, "NEGATIVE SQUARED LATIN CAPITAL LETTER ", "A|B|C|D|E|F|G|H|I|J|K|L|M|N|O|P|Q|R|S|T|U|V|W|X|Y|Z"⟩,
  ⟨0x1F18A, "CROSSED NEGATIVE SQUARED LATIN CAPITAL LETTER P", ""⟩,
  ⟨0x1F18B, "NEGATIVE SQUARED ", "IC|PA|SA|AB|WC"⟩,
  ⟨0x1F190, "SQUARE DJ", ""⟩,
  ⟨0x1F191, "SQUARED ", "CL|COOL|FREE|ID|NEW|NG|OK|SOS|UP WITH EXCLAMATION MARK|VS|THREE D|SECOND SCREEN|TWO K|FOUR K|EIGHT K|FIVE POINT ONE|SEVEN POINT ONE|TWENTY-TWO POINT TWO|SIXTY P|ONE HUNDRED TWENTY P|LATIN SMALL LETTER D|HC|HDR|HI-RES|LOSSLESS|SHV|UHD|VOD"⟩,
  ⟨0x1F1AD, "MASK WORK SYMBOL", ""⟩,
  ⟨0x1F1E6, "REGIONAL INDICATOR SYMBOL LETTER ", "A|B|C|D|E|F|G|H|I|J|K|L|M|N|O|P|Q|R|S|T|U|V|W|X|Y|Z"⟩,
  ⟨0x1F200, "SQUARE", " HIRAGANA HOKA|D KATAKANA KOKO|D KATAKANA SA"⟩,
  ⟨0x1F210, "SQUARED CJK UNIFIED IDEOGRAPH-", "624B|5B57|53CC"⟩,
  ⟨0x1F213, "SQUARED KATAKANA DE", ""⟩,
  ⟨0x1F214, "SQUARED CJK UNIFIED IDEOGRAPH-", "4E8C|591A|89E3|5929|4EA4|6620|7121|6599|524D|5F8C|518D|65B0|521D|7D42|751F|8CA9|58F0|5439|6F14|6295|6355|4E00|4E09|904A|5DE6|4E2D|53F3|6307|8D70|6253|7981|7A7A|5408|6E80|6709|6708|7533|5272|55B6|914D"⟩,
  ⟨0x1F240, "TORTOISE SHELL BRACKETED CJK UNIFIED IDEOGRAPH-", "672C|4E09|4E8C|5B89|70B9|6253|76D7|52DD|6557"⟩,
  ⟨0x1F250, "CIRCLED IDEOGRAPH A", "DVANTAGE|CCEPT"⟩,
  ⟨0x1F260, "ROUNDED SYMBOL FOR ", "FU|LU|SHOU|XI|SHUANGXI|CAI"⟩,
  ⟨0x1F300, "", "CYCLONE|FOGGY|CLOSED UMBRELLA|NIGHT WITH STARS|SUNRISE OVER MOUNTAINS|SUNRISE|CITYSCAPE AT DUSK|SUNSET OVER BUILDINGS|RAINBOW|BRIDGE AT NIGHT|WATER WAVE|VOLCANO|MILKY WAY|EARTH GLOBE EUROPE-AFRICA|EARTH GLOBE AMERICAS|EARTH GLOBE ASIA-AUSTRALIA|GLOBE WITH MERIDIANS|NEW MOON SYMBOL|WAXING CRESCENT MOON SYMBOL|FIRST QUARTER MOON SYMBOL|WAXING GIBBOUS MOON SYMBOL|FULL MOON SYMBOL|WANING GIBBOUS MOON SYMBOL|LAST QUARTER MOON SYMBOL|WANING CRESCENT MOON SYMBOL|CRESCENT MOON|NEW MOON WITH FACE|FIRST QUARTER MOON WITH FACE|LAST QUARTER MOON WITH FACE|FULL MOON WITH FACE|SUN WITH FACE|GLOWING STAR|SHOOTING STAR|THERMOMETER|BLACK DROPLET|WHITE SUN|WHITE SUN WITH SMALL CLOUD|WHITE SUN BEHIND CLOUD|WHITE SUN BEHIND CLOUD WITH RAIN|CLOUD WITH RAIN|CLOUD WITH SNOW|CLOUD WITH LIGHTNING|CLOUD WITH TORNADO|FOG|WIND BLOWING FACE|HOT DOG|TACO|BURRITO|CHESTNUT|SEEDLING|EVERGREEN TREE|DECIDUOUS TREE|PALM TREE|CACTUS|HOT PEPPER|TULIP|CHERRY BLOSSOM|ROSE|HIBISCUS|SUNFLOWER|BLOSSOM|EAR OF MAIZE|EAR OF RICE|HERB|FOUR LEAF CLOVER|MAPLE LEAF|FALLEN LEAF|LEAF FLUTTERING IN WIND|MUSHROOM|TOMATO|AUBERGINE|GRAPES|MELON|WATERMELON|TANGERINE|LEMON|BANANA|PINEAPPLE|RED APPLE|GREEN APPLE|PEAR|PEACH|CHERRIES|STRAWBERRY|HAMBURGER|SLICE OF PIZZA|MEAT ON BONE|POULTRY LEG|RICE CRACKER|RICE BALL|COOKED RICE|CURRY AND RICE|STEAMING BOWL|SPAGHETTI|BREAD|FRENCH FRIES|ROASTED SWEET POTATO|DANGO|ODEN|SUSHI|FRIED SHRIMP|FISH CAKE WITH SWIRL DESIGN|SOFT ICE CREAM|SHAVED ICE|ICE CREAM|DOUGHNUT|COOKIE|CHOCOLATE BAR|CANDY"⟩,
  ⟨0x1F36D, "", "LOLLIPOP|CUSTARD|HONEY POT|SHORTCAKE|BENTO BOX|POT OF FOOD|COOKING|FORK AND KNIFE|TEACUP WITHOUT HANDLE|SAKE BOTTLE AND CUP|WINE GLASS|COCKTAIL GLASS|TROPICAL DRINK|BEER MUG|CLINKING BEER MUGS|BABY BOTTLE|FORK AND KNIFE WITH PLATE|BOTTLE WITH POPPING CORK|POPCORN|RIBBON|WRAPPED PRESENT|BIRTHDAY CAKE|JACK-O-LANTERN|CHRISTMAS TREE|FATHER CHRISTMAS|FIREWORKS|FIREWORK SPARKLER|BALLOON|PARTY POPPER|CONFETTI BALL|TANABATA TREE|CROSSED FLAGS|PINE DECORATION|JAPANESE DOLLS|CARP STREAMER|WIND CHIME|MOON VIEWING CEREMONY|SCHOOL SATCHEL|GRADUATION CAP|HEART WITH TIP ON THE LEFT|BOUQUET OF FLOWERS|MILITARY MEDAL|REMINDER RIBBON|MUSICAL KEYBOARD WITH JACKS|STUDIO MICROPHONE|LEVEL SLIDER|CONTROL KNOBS|BEAMED ASCENDING MUSICAL NOTES|BEAMED DESCENDING MUSICAL NOTES|FILM FRAMES|ADMISSION TICKETS|CAROUSEL HORSE|FERRIS WHEEL|ROLLER COASTER|FISHING POLE AND FISH|MICROPHONE|MOVIE CAMERA|CINEMA|HEADPHONE|ARTIST PALETTE|TOP HAT|CIRCUS TENT|TICKET|CLAPPER BOARD|PERFORMING ARTS|VIDEO GAME|DIRECT HIT|SLOT MACHINE|BILLIARDS|GAME DIE|BOWLING|FLOWER PLAYING CARDS|MUSICAL NOTE|MULTIPLE MUSICAL NOTES|SAXOPHONE|GUITAR|MUSICAL KEYBOARD|TRUMPET|VIOLIN|MUSICAL SCORE|RUNNING SHIRT WITH SASH|TENNIS RACQUET AND BALL|SKI AND SKI BOOT|BASKETBALL AND HOOP|CHEQUERED FLAG|SNOWBOARDER|RUNNER|SURFER|SPORTS MEDAL|TROPHY|HORSE RACING|AMERICAN FOOTBALL|RUGBY FOOTBALL|SWIMMER|WEIGHT LIFTER|GOLFER|RACING MOTORCYCLE|RACING CAR|CRICKET BAT AND BALL|VOLLEYBALL|FIELD HOCKEY STICK AND BALL|ICE HOCKEY STICK AND PUCK"⟩,
  ⟨0x1F3D3, "", "TABLE TENNIS PADDLE AND BALL|SNOW CAPPED MOUNTAIN|CAMPING|BEACH WITH UMBRELLA|BUILDING CONSTRUCTION|HOUSE BUILDINGS|CITYSCAPE|DERELICT HOUSE BUILDING|CLASSICAL BUILDING|DESERT|DESERT ISLAND|NATIONAL PARK|STADIUM|HOUSE BUILDING|HOUSE WITH GARDEN|OFFICE BUILDING|JAPANESE POST OFFICE|EUROPEAN POST OFFICE|HOSPITAL|BANK|AUTOMATED TELLER MACHINE|HOTEL|LOVE HOTEL|CONVENIENCE STORE|SCHOOL|DEPARTMENT STORE|FACTORY|IZAKAYA LANTERN|JAPANESE CASTLE|EUROPEAN CASTLE|WHITE PENNANT|BLACK PENNANT|WAVING WHITE FLAG|WAVING BLACK FLAG|ROSETTE|BLACK ROSETTE|LABEL|BADMINTON RACQUET AND SHUTTLECOCK|BOW AND ARROW|AMPHORA"⟩,
  ⟨0x1F3FB, "EMOJI MODIFIER FITZPATRICK TYPE-", "1-2|3|4|5|6"⟩,
  ⟨0x1F400, "", "RAT|MOUSE|OX|WATER BUFFALO|COW|TIGER|LEOPARD|RABBIT|CAT|DRAGON|CROCODILE|WHALE|SNAIL|SNAKE|HORSE|RAM|GOAT|SHEEP|MONKEY|ROOSTER|CHICKEN|DOG|PIG|BOAR|ELEPHANT|OCTOPUS|SPIRAL SHELL|BUG|ANT|HONEYBEE|LADY BEETLE|FISH|TROPICAL FISH|BLOWFISH|TURTLE|HATCHING CHICK|BABY CHICK|FRONT-FACING BABY CHICK|BIRD|PENGUIN|KOALA|POODLE|DROMEDARY CAMEL|BACTRIAN CAMEL|DOLPHIN|MOUSE FACE|COW FACE|TIGER FACE|RABBIT FACE|CAT FACE|DRAGON FACE|SPOUTING WHALE|HORSE FACE|MONKEY FACE|DOG FACE|PIG FACE|FROG FACE|HAMSTER FACE|WOLF FACE|BEAR FACE|PANDA FACE|PIG NOSE|PAW PRINTS|CHIPMUNK|EYES|EYE|EAR|NOSE|MOUTH|TONGUE|WHITE UP POINTING BACKHAND INDEX|WHITE DOWN POINTING BACKHAND INDEX|WHITE LEFT POINTING BACKHAND INDEX|WHITE RIGHT POINTING BACKHAND INDEX|FISTED HAND SIGN|WAVING HAND SIGN|OK HAND SIGN|THUMBS UP SIGN|THUMBS DOWN SIGN|CLAPPING HANDS SIGN|OPEN HANDS SIGN|CROWN|WOMANS HAT|EYEGLASSES|NECKTIE|T-SHIRT|JEANS|DRESS|KIMONO|BIKINI|WOMANS CLOTHES|PURSE|HANDBAG|POUCH|MANS SHOE|ATHLETIC SHOE|HIGH-HEELED SHOE|WOMANS SANDAL|WOMANS BOOTS|FOOTPRINTS|BUST IN SILHOUETTE|BUSTS IN SILHOUETTE|BOY|GIRL|MAN|WOMAN|FAMILY|MAN AND WOMAN HOLDING HANDS|TWO MEN HOLDING HANDS|TWO WOMEN HOLDING HANDS|POLICE OFFICER|WOMAN WITH BUNNY EARS|BRIDE WITH VEIL|PERSON WITH BLOND HAIR|MAN WITH GUA PI MAO|MAN WITH TURBAN|OLDER MAN|OLDER WOMAN|BABY|CONSTRUCTION WORKER|PRINCESS|JAPANESE OGRE|JAPANESE GOBLIN|GHOST|BABY ANGEL|EXTRATERRESTRIAL ALIEN|ALIEN MONSTER|IMP|SKULL|INFORMATION DESK PERSON|GUARDSMAN|DANCER|LIPSTICK|NAIL POLISH"⟩,
  ⟨0x1F486, "", "FACE MASSAGE|HAIRCUT|BARBER POLE|SYRINGE|PILL|KISS MARK|LOVE LETTER|RING|GEM STONE|KISS|BOUQUET|COUPLE WITH HEART|WEDDING|BEATING HEART|BROKEN HEART|TWO HEARTS|SPARKLING HEART|GROWING HEART|HEART WITH ARROW|BLUE HEART|GREEN HEART|YELLOW HEART|PURPLE HEART|HEART WITH RIBBON|REVOLVING HEARTS|HEART DECORATION|DIAMOND SHAPE WITH A DOT INSIDE|ELECTRIC LIGHT BULB|ANGER SYMBOL|BOMB|SLEEPING SYMBOL|COLLISION SYMBOL|SPLASHING SWEAT SYMBOL|DROPLET|DASH SYMBOL|PILE OF POO|FLEXED BICEPS|DIZZY SYMBOL|SPEECH BALLOON|THOUGHT BALLOON|WHITE FLOWER|HUNDRED POINTS SYMBOL|MONEY BAG|CURRENCY EXCHANGE|HEAVY DOLLAR SIGN|CREDIT CARD|BANKNOTE WITH YEN SIGN|BANKNOTE WITH DOLLAR SIGN|BANKNOTE WITH EURO SIGN|BANKNOTE WITH POUND SIGN|MONEY WITH WINGS|CHART WITH UPWARDS TREND AND YEN SIGN|SEAT|PERSONAL COMPUTER|BRIEFCASE|MINIDISC|FLOPPY DISK|OPTICAL DISC|DVD|FILE FOLDER|OPEN FILE FOLDER|PAGE WITH CURL|PAGE FACING UP|CALENDAR|TEAR-OFF CALENDAR|CARD INDEX|CHART WITH UPWARDS TREND|CHART WITH DOWNWARDS TREND|BAR CHART|CLIPBOARD|PUSHPIN|ROUND PUSHPIN|PAPERCLIP|STRAIGHT RULER|TRIANGULAR RULER|BOOKMARK TABS|LEDGER|NOTEBOOK|NOTEBOOK WITH DECORATIVE COVER|CLOSED BOOK|OPEN BOOK|GREEN BOOK|BLUE BOOK|ORANGE BOOK|BOOKS|NAME BADGE|SCROLL|MEMO|TELEPHONE RECEIVER|PAGER|FAX MACHINE|SATELLITE ANTENNA|PUBLIC ADDRESS LOUDSPEAKER|CHEERING MEGAPHONE|OUTBOX TRAY|INBOX TRAY|PACKAGE|E-MAIL SYMBOL|INCOMING ENVELOPE|ENVELOPE WITH DOWNWARDS ARROW ABOVE|CLOSED MAILBOX WITH LOWERED FLAG|CLOSED MAILBOX WITH RAISED FLAG"⟩,
  ⟨0x1F4EC, "", "OPEN MAILBOX WITH RAISED FLAG|OPEN MAILBOX WITH LOWERED FLAG|POSTBOX|POSTAL HORN|NEWSPAPER|MOBILE PHONE|MOBILE PHONE WITH RIGHTWARDS ARROW AT LEFT|VIBRATION MODE|MOBILE PHONE OFF|NO MOBILE PHONES|ANTENNA WITH BARS|CAMERA|CAMERA WITH FLASH|VIDEO CAMERA|TELEVISION|RADIO|VIDEOCASSETTE|FILM PROJECTOR|PORTABLE STEREO|PRAYER BEADS|TWISTED RIGHTWARDS ARROWS"⟩,
  ⟨0x1F501, "CLOCKWISE RIGHTWARDS AND LEFTWARDS OPEN CIRCLE ARROWS", "| WITH CIRCLED ONE OVERLAY"⟩,
  ⟨0x1F503, "", "CLOCKWISE DOWNWARDS AND UPWARDS OPEN CIRCLE ARROWS|ANTICLOCKWISE DOWNWARDS AND UPWARDS OPEN CIRCLE ARROWS|LOW BRIGHTNESS SYMBOL|HIGH BRIGHTNESS SYMBOL|SPEAKER WITH CANCELLATION STROKE|SPEAKER|SPEAKER WITH ONE SOUND WAVE|SPEAKER WITH THREE SOUND WAVES|BATTERY|ELECTRIC PLUG|LEFT-POINTING MAGNIFYING GLASS|RIGHT-POINTING MAGNIFYING GLASS|LOCK WITH INK PEN|CLOSED LOCK WITH KEY|KEY|LOCK|OPEN LOCK|BELL|BELL WITH CANCELLATION STROKE|BOOKMARK|LINK SYMBOL|RADIO BUTTON|BACK WITH LEFTWARDS ARROW ABOVE|END WITH LEFTWARDS ARROW ABOVE|ON WITH EXCLAMATION MARK WITH LEFT RIGHT ARROW ABOVE|SOON WITH RIGHTWARDS ARROW ABOVE|TOP WITH UPWARDS ARROW ABOVE|NO ONE UNDER EIGHTEEN SYMBOL|KEYCAP TEN"⟩,
  ⟨0x1F520, "INPUT SYMBOL FOR ", "LATIN CAPITAL LETTERS|LATIN SMALL LETTERS|NUMBERS|SYMBOLS|LATIN LETTERS"⟩,
  ⟨0x1F525, "", "FIRE|ELECTRIC TORCH|WRENCH|HAMMER|NUT AND BOLT|HOCHO|PISTOL|MICROSCOPE|TELESCOPE|CRYSTAL BALL|SIX POINTED STAR WITH MIDDLE DOT|JAPANESE SYMBOL FOR BEGINNER|TRIDENT EMBLEM|BLACK SQUARE BUTTON|WHITE SQUARE BUTTON|LARGE RED CIRCLE|LARGE BLUE CIRCLE|LARGE ORANGE DIAMOND|LARGE BLUE DIAMOND|SMALL ORANGE DIAMOND|SMALL BLUE DIAMOND|UP-POINTING RED TRIANGLE|DOWN-POINTING RED TRIANGLE|UP-POINTING SMALL RED TRIANGLE|DOWN-POINTING SMALL RED TRIANGLE|LOWER RIGHT SHADOWED WHITE CIRCLE|UPPER RIGHT SHADOWED WHITE CIRCLE|CIRCLED CROSS POMMEE|CROSS POMMEE WITH HALF-CIRCLE BELOW|CROSS POMMEE|NOTCHED LEFT SEMICIRCLE WITH THREE DOTS|NOTCHED RIGHT SEMICIRCLE WITH THREE DOTS|SYMBOL FOR MARKS CHAPTER|WHITE LATIN CROSS|HEAVY LATIN CROSS|CELTIC CROSS|OM SYMBOL|DOVE OF PEACE|KAABA|MOSQUE|SYNAGOGUE|MENORAH WITH NINE BRANCHES|BOWL OF HYGIEIA"⟩,
  ⟨0x1F550, "CLOCK FACE ", "ONE OCLOCK|TWO OCLOCK|THREE OCLOCK|FOUR OCLOCK|FIVE OCLOCK|SIX OCLOCK|SEVEN OCLOCK|EIGHT OCLOCK|NINE OCLOCK|TEN OCLOCK|ELEVEN OCLOCK|TWELVE OCLOCK|ONE-THIRTY|TWO-THIRTY|THREE-THIRTY|FOUR-THIRTY|FIVE-THIRTY|SIX-THIRTY|SEVEN-THIRTY|EIGHT-THIRTY|NINE-THIRTY|TEN-THIRTY|ELEVEN-THIRTY|TWELVE-THIRTY"⟩,
  ⟨0x1F568, "RIGHT SPEAKER", "| WITH ONE SOUND WAVE| WITH THREE SOUND WAVES"⟩,
  ⟨0x1F56B, "", "BULLHORN|BULLHORN WITH SOUND WAVES|RINGING BELL|BOOK|CANDLE|MANTELPIECE CLOCK|BLACK SKULL AND CROSSBONES|NO PIRACY|HOLE|MAN IN BUSINESS SUIT LEVITATING|SLEUTH OR SPY|DARK SUNGLASSES|SPIDER|SPIDER WEB|JOYSTICK|MAN DANCING|LEFT HAND TELEPHONE RECEIVER|TELEPHONE RECEIVER WITH PAGE|RIGHT HAND TELEPHONE RECEIVER|WHITE TOUCHTONE TELEPHONE|BLACK TOUCHTONE TELEPHONE|TELEPHONE ON TOP OF MODEM|CLAMSHELL MOBILE PHONE|BACK OF ENVELOPE|STAMPED ENVELOPE|ENVELOPE WITH LIGHTNING|FLYING ENVELOPE|PEN OVER STAMPED ENVELOPE|LINKED PAPERCLIPS|BLACK PUSHPIN|LOWER LEFT PENCIL|LOWER LEFT BALLPOINT PEN|LOWER LEFT FOUNTAIN PEN|LOWER LEFT PAINTBRUSH|LOWER LEFT CRAYON|LEFT WRITING HAND|TURNED OK HAND SIGN|RAISED HAND WITH FINGERS SPLAYED|REVERSED RAISED HAND WITH FINGERS SPLAYED|REVERSED THUMBS UP SIGN|REVERSED THUMBS DOWN SIGN|REVERSED VICTORY HAND|REVERSED HAND WITH MIDDLE FINGER EXTENDED|RAISED HAND WITH PART BETWEEN MIDDLE AND RING FINGERS|WHITE DOWN POINTING LEFT HAND INDEX|SIDEWAYS WHITE LEFT POINTING INDEX|SIDEWAYS WHITE RIGHT POINTING INDEX|SIDEWAYS BLACK LEFT POINTING INDEX|SIDEWAYS BLACK RIGHT POINTING INDEX|BLACK LEFT POINTING BACKHAND INDEX|BLACK RIGHT POINTING BACKHAND INDEX|SIDEWAYS WHITE UP POINTING INDEX|SIDEWAYS WHITE DOWN POINTING INDEX|SIDEWAYS BLACK UP POINTING INDEX|SIDEWAYS BLACK DOWN POINTING INDEX|BLACK UP POINTING BACKHAND INDEX|BLACK DOWN POINTING BACKHAND INDEX|BLACK HEART|DESKTOP COMPUTER|KEYBOARD AND MOUSE|THREE NETWORKED COMPUTERS|PRINTER|POCKET CALCULATOR"⟩,
  ⟨0x1F5AA, "", "BLACK HARD SHELL FLOPPY DISK|WHITE HARD SHELL FLOPPY DISK|SOFT SHELL FLOPPY DISK|TAPE CARTRIDGE|WIRED KEYBOARD|ONE BUTTON MOUSE|TWO BUTTON MOUSE|THREE BUTTON MOUSE|TRACKBALL|OLD PERSONAL COMPUTER|HARD DISK|SCREEN|PRINTER ICON|FAX ICON|OPTICAL DISC ICON|DOCUMENT WITH TEXT|DOCUMENT WITH TEXT AND PICTURE|DOCUMENT WITH PICTURE|FRAME WITH PICTURE|FRAME WITH TILES|FRAME WITH AN X|BLACK FOLDER|FOLDER|OPEN FOLDER|CARD INDEX DIVIDERS|CARD FILE BOX|FILE CABINET|EMPTY NOTE|EMPTY NOTE PAGE|EMPTY NOTE PAD|NOTE|NOTE PAGE|NOTE PAD|EMPTY DOCUMENT|EMPTY PAGE|EMPTY PAGES|DOCUMENT|PAGE|PAGES|WASTEBASKET|SPIRAL NOTE PAD|SPIRAL CALENDAR PAD|DESKTOP WINDOW|MINIMIZE|MAXIMIZE|OVERLAP|CLOCKWISE RIGHT AND LEFT SEMICIRCLE ARROWS|CANCELLATION X|INCREASE FONT SIZE SYMBOL|DECREASE FONT SIZE SYMBOL|COMPRESSION|OLD KEY|ROLLED-UP NEWSPAPER|PAGE WITH CIRCLED TEXT|STOCK CHART|DAGGER KNIFE|LIPS|SPEAKING HEAD IN SILHOUETTE|THREE RAYS ABOVE|THREE RAYS BELOW|THREE RAYS LEFT|THREE RAYS RIGHT|LEFT SPEECH BUBBLE|RIGHT SPEECH BUBBLE|TWO SPEECH BUBBLES|THREE SPEECH BUBBLES|LEFT THOUGHT BUBBLE|RIGHT THOUGHT BUBBLE|LEFT ANGER BUBBLE|RIGHT ANGER BUBBLE|MOOD BUBBLE|LIGHTNING MOOD BUBBLE|LIGHTNING MOOD|BALLOT BOX WITH BALLOT|BALLOT SCRIPT X|BALLOT BOX WITH SCRIPT X|BALLOT BOLD SCRIPT X|BALLOT BOX WITH BOLD SCRIPT X|LIGHT CHECK MARK|BALLOT BOX WITH BOLD CHECK|WORLD MAP|MOUNT FUJI|TOKYO TOWER|STATUE OF LIBERTY|SILHOUETTE OF JAPAN|MOYAI|GRINNING FACE|GRINNING FACE WITH SMILING EYES|FACE WITH TEARS OF JOY"⟩,
  ⟨0x1F603, "SMILING FACE WITH ", "OPEN MOUTH|OPEN MOUTH AND SMILING EYES|OPEN MOUTH AND COLD SWEAT|OPEN MOUTH AND TIGHTLY-CLOSED EYES|HALO|HORNS"⟩,
  ⟨0x1F609, "", "WINKING FACE|SMILING FACE WITH SMILING EYES|FACE SAVOURING DELICIOUS FOOD|RELIEVED FACE|SMILING FACE WITH HEART-SHAPED EYES|SMILING FACE WITH SUNGLASSES|SMIRKING FACE|NEUTRAL FACE|EXPRESSIONLESS FACE|UNAMUSED FACE|FACE WITH COLD SWEAT|PENSIVE FACE|CONFUSED FACE|CONFOUNDED FACE|KISSING FACE|FACE THROWING A KISS|KISSING FACE WITH SMILING EYES|KISSING FACE WITH CLOSED EYES"⟩,
  ⟨0x1F61B, "FACE WITH STUCK-OUT TONGUE", "| AND WINKING EYE| AND TIGHTLY-CLOSED EYES"⟩,
  ⟨0x1F61E, "", "DISAPPOINTED FACE|WORRIED FACE|ANGRY FACE|POUTING FACE|CRYING FACE|PERSEVERING FACE|FACE WITH LOOK OF TRIUMPH|DISAPPOINTED BUT RELIEVED FACE|FROWNING FACE WITH OPEN MOUTH|ANGUISHED FACE|FEARFUL FACE|WEARY FACE|SLEEPY FACE|TIRED FACE|GRIMACING FACE|LOUDLY CRYING FACE|FACE WITH OPEN MOUTH|HUSHED FACE|FACE WITH OPEN MOUTH AND COLD SWEAT|FACE SCREAMING IN FEAR|ASTONISHED FACE|FLUSHED FACE|SLEEPING FACE|DIZZY FACE|FACE WITHOUT MOUTH|FACE WITH MEDICAL MASK|GRINNING CAT FACE WITH SMILING EYES|CAT FACE WITH TEARS OF JOY|SMILING CAT FACE WITH OPEN MOUTH|SMILING CAT FACE WITH HEART-SHAPED EYES|CAT FACE WITH WRY SMILE|KISSING CAT FACE WITH CLOSED EYES|POUTING CAT FACE|CRYING CAT FACE|WEARY CAT FACE|SLIGHTLY FROWNING FACE|SLIGHTLY SMILING FACE|UPSIDE-DOWN FACE|FACE WITH ROLLING EYES|FACE WITH NO GOOD GESTURE|FACE WITH OK GESTURE|PERSON BOWING DEEPLY|SEE-NO-EVIL MONKEY|HEAR-NO-EVIL MONKEY|SPEAK-NO-EVIL MONKEY|HAPPY PERSON RAISING ONE HAND|PERSON RAISING BOTH HANDS IN CELEBRATION|PERSON FROWNING|PERSON WITH POUTING FACE|PERSON WITH FOLDED HANDS|NORTH WEST POINTING LEAF|SOUTH WEST POINTING LEAF|NORTH EAST POINTING LEAF|SOUTH EAST POINTING LEAF|TURNED NORTH WEST POINTING LEAF|TURNED SOUTH WEST POINTING LEAF|TURNED NORTH EAST POINTING LEAF|TURNED SOUTH EAST POINTING LEAF|NORTH WEST POINTING VINE LEAF|SOUTH WEST POINTING VINE LEAF|NORTH EAST POINTING VINE LEAF|SOUTH EAST POINTING VINE LEAF|HEAVY NORTH WEST POINTING VINE LEAF|HEAVY SOUTH WEST POINTING VINE LEAF"⟩,
  ⟨0x1F65E, "", "HEAVY NORTH EAST POINTING VINE LEAF|HEAVY SOUTH EAST POINTING VINE LEAF|NORTH WEST POINTING BUD|SOUTH WEST POINTING BUD|NORTH EAST POINTING BUD|SOUTH EAST POINTING BUD|HEAVY NORTH WEST POINTING BUD|HEAVY SOUTH WEST POINTING BUD|HEAVY NORTH EAST POINTING BUD|HEAVY SOUTH EAST POINTING BUD|HOLLOW QUILT SQUARE ORNAMENT|HOLLOW QUILT SQUARE ORNAMENT IN BLACK SQUARE|SOLID QUILT SQUARE ORNAMENT|SOLID QUILT SQUARE ORNAMENT IN BLACK SQUARE|LEFTWARDS ROCKET|UPWARDS ROCKET|RIGHTWARDS ROCKET|DOWNWARDS ROCKET|SCRIPT LIGATURE ET ORNAMENT|HEAVY SCRIPT LIGATURE ET ORNAMENT|LIGATURE OPEN ET ORNAMENT|HEAVY LIGATURE OPEN ET ORNAMENT|HEAVY AMPERSAND ORNAMENT|SWASH AMPERSAND ORNAMENT|SANS-SERIF HEAVY DOUBLE TURNED COMMA QUOTATION MARK ORNAMENT|SANS-SERIF HEAVY DOUBLE COMMA QUOTATION MARK ORNAMENT|SANS-SERIF HEAVY LOW DOUBLE COMMA QUOTATION MARK ORNAMENT|HEAVY INTERROBANG ORNAMENT|SANS-SERIF INTERROBANG ORNAMENT|HEAVY SANS-SERIF INTERROBANG ORNAMENT|VERY HEAVY SOLIDUS|VERY HEAVY REVERSE SOLIDUS|CHECKER BOARD|REVERSE CHECKER BOARD|ROCKET|HELICOPTER|STEAM LOCOMOTIVE|RAILWAY CAR|HIGH-SPEED TRAIN|HIGH-SPEED TRAIN WITH BULLET NOSE|TRAIN|METRO|LIGHT RAIL|STATION|TRAM|TRAM CAR|BUS|ONCOMING BUS|TROLLEYBUS|BUS STOP|MINIBUS|AMBULANCE|FIRE ENGINE|POLICE CAR|ONCOMING POLICE CAR|TAXI|ONCOMING TAXI|AUTOMOBILE|ONCOMING AUTOMOBILE|RECREATIONAL VEHICLE|DELIVERY TRUCK|ARTICULATED LORRY|TRACTOR|MONORAIL|MOUNTAIN RAILWAY|SUSPENSION RAILWAY|MOUNTAIN CABLEWAY|AERIAL TRAMWAY|SHIP|ROWBOAT|SPEEDBOAT"⟩,
  ⟨0x1F6A5, "", "HORIZONTAL TRAFFIC LIGHT|VERTICAL TRAFFIC LIGHT|CONSTRUCTION SIGN|POLICE CARS REVOLVING LIGHT|TRIANGULAR FLAG ON POST|DOOR|NO ENTRY SIGN|SMOKING SYMBOL|NO SMOKING SYMBOL|PUT LITTER IN ITS PLACE SYMBOL|DO NOT LITTER SYMBOL|POTABLE WATER SYMBOL|NON-POTABLE WATER SYMBOL|BICYCLE|NO BICYCLES|BICYCLIST|MOUNTAIN BICYCLIST|PEDESTRIAN|NO PEDESTRIANS|CHILDREN CROSSING|MENS SYMBOL|WOMENS SYMBOL|RESTROOM|BABY SYMBOL|TOILET|WATER CLOSET|SHOWER|BATH|BATHTUB|PASSPORT CONTROL|CUSTOMS|BAGGAGE CLAIM|LEFT LUGGAGE|TRIANGLE WITH ROUNDED CORNERS|PROHIBITED SIGN|CIRCLED INFORMATION SOURCE|BOYS SYMBOL|GIRLS SYMBOL|COUCH AND LAMP|SLEEPING ACCOMMODATION|SHOPPING BAGS|BELLHOP BELL|BED|PLACE OF WORSHIP|OCTAGONAL SIGN|SHOPPING TROLLEY|STUPA|PAGODA|HINDU TEMPLE|HUT|ELEVATOR"⟩,
  ⟨0x1F6DD, "", "PLAYGROUND SLIDE|WHEEL|RING BUOY|HAMMER AND WRENCH|SHIELD|OIL DRUM|MOTORWAY|RAILWAY TRACK|MOTOR BOAT|UP-POINTING MILITARY AIRPLANE|UP-POINTING AIRPLANE|UP-POINTING SMALL AIRPLANE|SMALL AIRPLANE|NORTHEAST-POINTING AIRPLANE|AIRPLANE DEPARTURE|AIRPLANE ARRIVING"⟩,
  ⟨0x1F6F0, "", "SATELLITE|ONCOMING FIRE ENGINE|DIESEL LOCOMOTIVE|PASSENGER SHIP|SCOOTER|MOTOR SCOOTER|CANOE|SLED|FLYING SAUCER|SKATEBOARD|AUTO RICKSHAW|PICKUP TRUCK|ROLLER SKATE"⟩,
  ⟨0x1F700, "ALCHEMICAL SYMBOL FOR ", "QUINTESSENCE|AIR|FIRE|EARTH|WATER|AQUAFORTIS|AQUA REGIA|AQUA REGIA-2|AQUA VITAE|AQUA VITAE-2|VINEGAR|VINEGAR-2|VINEGAR-3|SULFUR|PHILOSOPHERS SULFUR|BLACK SULFUR|MERCURY SUBLIMATE|MERCURY SUBLIMATE-2|MERCURY SUBLIMATE-3|CINNABAR|SALT|NITRE|VITRIOL|VITRIOL-2|ROCK SALT|ROCK SALT-2|GOLD|SILVER|IRON ORE|IRON ORE-2|CROCUS OF IRON|REGULUS OF IRON|COPPER ORE|IRON-COPPER ORE|SUBLIMATE OF COPPER|CROCUS OF COPPER|CROCUS OF COPPER-2|COPPER ANTIMONIATE|SALT OF COPPER ANTIMONIATE|SUBLIMATE OF SALT OF COPPER|VERDIGRIS|TIN ORE|LEAD ORE|ANTIMONY ORE|SUBLIMATE OF ANTIMONY|SALT OF ANTIMONY|SUBLIMATE OF SALT OF ANTIMONY|VINEGAR OF ANTIMONY|REGULUS OF ANTIMONY|REGULUS OF ANTIMONY-2|REGULUS|REGULUS-2|REGULUS-3|REGULUS-4|ALKALI|ALKALI-2|MARCASITE|SAL-AMMONIAC|ARSENIC|REALGAR|REALGAR-2|AURIPIGMENT|BISMUTH ORE|TARTAR|TARTAR-2|QUICK LIME|BORAX|BORAX-2|BORAX-3|ALUM|OIL|SPIRIT|TINCTURE|GUM|WAX|POWDER|CALX|TUTTY|CAPUT MORTUUM|SCEPTER OF JOVE|CADUCEUS|TRIDENT|STARRED TRIDENT|LODESTONE|SOAP|URINE|HORSE DUNG|ASHES|POT ASHES|BRICK|POWDERED BRICK|AMALGAM|STRATUM SUPER STRATUM|STRATUM SUPER STRATUM-2|SUBLIMATION|PRECIPITATE|DISTILL|DISSOLVE|DISSOLVE-2|PURIFY|PUTREFACTION|CRUCIBLE|CRUCIBLE-2|CRUCIBLE-3|CRUCIBLE-4|CRUCIBLE-5|ALEMBIC|BATH OF MARY|BATH OF VAPOURS|RETORT|HOUR|NIGHT|DAY-NIGHT|MONTH|HALF DRAM|HALF OUNCE"⟩,
  ⟨0x1F780, "BLACK ", "LEFT-POINTING ISOSCELES RIGHT TRIANGLE|UP-POINTING ISOSCELES RIGHT TRIANGLE|RIGHT-POINTING ISOSCELES RIGHT TRIANGLE|DOWN-POINTING ISOSCELES RIGHT TRIANGLE|SLIGHTLY SMALL CIRCLE"⟩,
  ⟨0x1F785, "", "MEDIUM BOLD WHITE CIRCLE|BOLD WHITE CIRCLE|HEAVY WHITE CIRCLE|VERY HEAVY WHITE CIRCLE|EXTREMELY HEAVY WHITE CIRCLE|WHITE CIRCLE CONTAINING BLACK SMALL CIRCLE|ROUND TARGET|BLACK TINY SQUARE|BLACK SLIGHTLY SMALL SQUARE|LIGHT WHITE SQUARE|MEDIUM WHITE SQUARE|BOLD WHITE SQUARE|HEAVY WHITE SQUARE|VERY HEAVY WHITE SQUARE|EXTREMELY HEAVY WHITE SQUARE|WHITE SQUARE CONTAINING BLACK VERY SMALL SQUARE|WHITE SQUARE CONTAINING BLACK MEDIUM SQUARE|SQUARE TARGET|BLACK TINY DIAMOND|BLACK VERY SMALL DIAMOND|BLACK MEDIUM SMALL DIAMOND|WHITE DIAMOND CONTAINING BLACK VERY SMALL DIAMOND|WHITE DIAMOND CONTAINING BLACK MEDIUM DIAMOND|DIAMOND TARGET|BLACK TINY LOZENGE|BLACK VERY SMALL LOZENGE|BLACK MEDIUM SMALL LOZENGE|WHITE LOZENGE CONTAINING BLACK SMALL LOZENGE|THIN GREEK CROSS|LIGHT GREEK CROSS|MEDIUM GREEK CROSS|BOLD GREEK CROSS|VERY BOLD GREEK CROSS|VERY HEAVY GREEK CROSS|EXTREMELY HEAVY GREEK CROSS|THIN SALTIRE|LIGHT SALTIRE|MEDIUM SALTIRE|BOLD SALTIRE|HEAVY SALTIRE|VERY HEAVY SALTIRE|EXTREMELY HEAVY SALTIRE|LIGHT FIVE SPOKED ASTERISK|MEDIUM FIVE SPOKED ASTERISK|BOLD FIVE SPOKED ASTERISK|HEAVY FIVE SPOKED ASTERISK|VERY HEAVY FIVE SPOKED ASTERISK|EXTREMELY HEAVY FIVE SPOKED ASTERISK|LIGHT SIX SPOKED ASTERISK|MEDIUM SIX SPOKED ASTERISK|BOLD SIX SPOKED ASTERISK|HEAVY SIX SPOKED ASTERISK|VERY HEAVY SIX SPOKED ASTERISK|EXTREMELY HEAVY SIX SPOKED ASTERISK|LIGHT EIGHT SPOKED ASTERISK|MEDIUM EIGHT SPOKED ASTERISK|BOLD EIGHT SPOKED ASTERISK|HEAVY EIGHT SPOKED ASTERISK|VERY HEAVY EIGHT SPOKED ASTERISK"⟩,
  ⟨0x1F7C0, "", "LIGHT THREE POINTED BLACK STAR|MEDIUM THREE POINTED BLACK STAR|THREE POINTED BLACK STAR|MEDIUM THREE POINTED PINWHEEL STAR|LIGHT FOUR POINTED BLACK STAR|MEDIUM FOUR POINTED BLACK STAR|FOUR POINTED BLACK STAR|MEDIUM FOUR POINTED PINWHEEL STAR|REVERSE LIGHT FOUR POINTED PINWHEEL STAR|LIGHT FIVE POINTED BLACK STAR|HEAVY FIVE POINTED BLACK STAR|MEDIUM SIX POINTED BLACK STAR|HEAVY SIX POINTED BLACK STAR|SIX POINTED PINWHEEL STAR|MEDIUM EIGHT POINTED BLACK STAR|HEAVY EIGHT POINTED BLACK STAR|VERY HEAVY EIGHT POINTED BLACK STAR|HEAVY EIGHT POINTED PINWHEEL STAR|LIGHT TWELVE POINTED BLACK STAR|HEAVY TWELVE POINTED BLACK STAR|HEAVY TWELVE POINTED PINWHEEL STAR|CIRCLED TRIANGLE|NEGATIVE CIRCLED TRIANGLE|CIRCLED SQUARE|NEGATIVE CIRCLED SQUARE"⟩,
  ⟨0x1F7E0, "LARGE ", "ORANGE CIRCLE|YELLOW CIRCLE|GREEN CIRCLE|PURPLE CIRCLE|BROWN CIRCLE|RED SQUARE|BLUE SQUARE|ORANGE SQUARE|YELLOW SQUARE|GREEN SQUARE|PURPLE SQUARE|BROWN SQUARE"⟩,
  ⟨0x1F7F0, "HEAVY EQUALS SIGN", ""⟩,
  ⟨0x1F800, "", "LEFTWARDS ARROW WITH SMALL TRIANGLE ARROWHEAD|UPWARDS ARROW WITH SMALL TRIANGLE ARROWHEAD|RIGHTWARDS ARROW WITH SMALL TRIANGLE ARROWHEAD|DOWNWARDS ARROW WITH SMALL TRIANGLE ARROWHEAD|LEFTWARDS ARROW WITH MEDIUM TRIANGLE ARROWHEAD|UPWARDS ARROW WITH MEDIUM TRIANGLE ARROWHEAD|RIGHTWARDS ARROW WITH MEDIUM TRIANGLE ARROWHEAD|DOWNWARDS ARROW WITH MEDIUM TRIANGLE ARROWHEAD|LEFTWARDS ARROW WITH LARGE TRIANGLE ARROWHEAD|UPWARDS ARROW WITH LARGE TRIANGLE ARROWHEAD|RIGHTWARDS ARROW WITH LARGE TRIANGLE ARROWHEAD|DOWNWARDS ARROW WITH LARGE TRIANGLE ARROWHEAD"⟩,
  ⟨0x1F810, "", "LEFTWARDS ARROW WITH SMALL EQUILATERAL ARROWHEAD|UPWARDS ARROW WITH SMALL EQUILATERAL ARROWHEAD|RIGHTWARDS ARROW WITH SMALL EQUILATERAL ARROWHEAD|DOWNWARDS ARROW WITH SMALL EQUILATERAL ARROWHEAD|LEFTWARDS ARROW WITH EQUILATERAL ARROWHEAD|UPWARDS ARROW WITH EQUILATERAL ARROWHEAD|RIGHTWARDS ARROW WITH EQUILATERAL ARROWHEAD|DOWNWARDS ARROW WITH EQUILATERAL ARROWHEAD|HEAVY LEFTWARDS ARROW WITH EQUILATERAL ARROWHEAD|HEAVY UPWARDS ARROW WITH EQUILATERAL ARROWHEAD|HEAVY RIGHTWARDS ARROW WITH EQUILATERAL ARROWHEAD|HEAVY DOWNWARDS ARROW WITH EQUILATERAL ARROWHEAD|HEAVY LEFTWARDS ARROW WITH LARGE EQUILATERAL ARROWHEAD|HEAVY UPWARDS ARROW WITH LARGE EQUILATERAL ARROWHEAD|HEAVY RIGHTWARDS ARROW WITH LARGE EQUILATERAL ARROWHEAD|HEAVY DOWNWARDS ARROW WITH LARGE EQUILATERAL ARROWHEAD|LEFTWARDS TRIANGLE-HEADED ARROW WITH NARROW SHAFT|UPWARDS TRIANGLE-HEADED ARROW WITH NARROW SHAFT|RIGHTWARDS TRIANGLE-HEADED ARROW WITH NARROW SHAFT|DOWNWARDS TRIANGLE-HEADED ARROW WITH NARROW SHAFT|LEFTWARDS TRIANGLE-HEADED ARROW WITH MEDIUM SHAFT|UPWARDS TRIANGLE-HEADED ARROW WITH MEDIUM SHAFT|RIGHTWARDS TRIANGLE-HEADED ARROW WITH MEDIUM SHAFT|DOWNWARDS TRIANGLE-HEADED ARROW WITH MEDIUM SHAFT|LEFTWARDS TRIANGLE-HEADED ARROW WITH BOLD SHAFT|UPWARDS TRIANGLE-HEADED ARROW WITH BOLD SHAFT|RIGHTWARDS TRIANGLE-HEADED ARROW WITH BOLD SHAFT|DOWNWARDS TRIANGLE-HEADED ARROW WITH BOLD SHAFT|LEFTWARDS TRIANGLE-HEADED ARROW WITH HEAVY SHAFT|UPWARDS TRIANGLE-HEADED ARROW WITH HEAVY SHAFT"⟩,
  ⟨0x1F82E, "", "RIGHTWARDS TRIANGLE-HEADED ARROW WITH HEAVY SHAFT|DOWNWARDS TRIANGLE-HEADED ARROW WITH HEAVY SHAFT|LEFTWARDS TRIANGLE-HEADED ARROW WITH VERY HEAVY SHAFT|UPWARDS TRIANGLE-HEADED ARROW WITH VERY HEAVY SHAFT|RIGHTWARDS TRIANGLE-HEADED ARROW WITH VERY HEAVY SHAFT|DOWNWARDS TRIANGLE-HEADED ARROW WITH VERY HEAVY SHAFT|LEFTWARDS FINGER-POST ARROW|UPWARDS FINGER-POST ARROW|RIGHTWARDS FINGER-POST ARROW|DOWNWARDS FINGER-POST ARROW|LEFTWARDS SQUARED ARROW|UPWARDS SQUARED ARROW|RIGHTWARDS SQUARED ARROW|DOWNWARDS SQUARED ARROW|LEFTWARDS COMPRESSED ARROW|UPWARDS COMPRESSED ARROW|RIGHTWARDS COMPRESSED ARROW|DOWNWARDS COMPRESSED ARROW|LEFTWARDS HEAVY COMPRESSED ARROW|UPWARDS HEAVY COMPRESSED ARROW|RIGHTWARDS HEAVY COMPRESSED ARROW|DOWNWARDS HEAVY COMPRESSED ARROW|LEFTWARDS HEAVY ARROW|UPWARDS HEAVY ARROW|RIGHTWARDS HEAVY ARROW|DOWNWARDS HEAVY ARROW"⟩,
  ⟨0x1F850, "", "LEFTWARDS SANS-SERIF ARROW|UPWARDS SANS-SERIF ARROW|RIGHTWARDS SANS-SERIF ARROW|DOWNWARDS SANS-SERIF ARROW|NORTH WEST SANS-SERIF ARROW|NORTH EAST SANS-SERIF ARROW|SOUTH EAST SANS-SERIF ARROW|SOUTH WEST SANS-SERIF ARROW|LEFT RIGHT SANS-SERIF ARROW|UP DOWN SANS-SERIF ARROW"⟩,
  ⟨0x1F860, "WIDE-HEADED ", "LEFTWARDS LIGHT BARB ARROW|UPWARDS LIGHT BARB ARROW|RIGHTWARDS LIGHT BARB ARROW|DOWNWARDS LIGHT BARB ARROW|NORTH WEST LIGHT BARB ARROW|NORTH EAST LIGHT BARB ARROW|SOUTH EAST LIGHT BARB ARROW|SOUTH WEST LIGHT BARB ARROW|LEFTWARDS BARB ARROW|UPWARDS BARB ARROW|RIGHTWARDS BARB ARROW|DOWNWARDS BARB ARROW|NORTH WEST BARB ARROW|NORTH EAST BARB ARROW|SOUTH EAST BARB ARROW|SOUTH WEST BARB ARROW|LEFTWARDS MEDIUM BARB ARROW|UPWARDS MEDIUM BARB ARROW|RIGHTWARDS MEDIUM BARB ARROW|DOWNWARDS MEDIUM BARB ARROW|NORTH WEST MEDIUM BARB ARROW|NORTH EAST MEDIUM BARB ARROW|SOUTH EAST MEDIUM BARB ARROW|SOUTH WEST MEDIUM BARB ARROW|LEFTWARDS HEAVY BARB ARROW|UPWARDS HEAVY BARB ARROW|RIGHTWARDS HEAVY BARB ARROW|DOWNWARDS HEAVY BARB ARROW|NORTH WEST HEAVY BARB ARROW|NORTH EAST HEAVY BARB ARROW|SOUTH EAST HEAVY BARB ARROW|SOUTH WEST HEAVY BARB ARROW|LEFTWARDS VERY HEAVY BARB ARROW|UPWARDS VERY HEAVY BARB ARROW|RIGHTWARDS VERY HEAVY BARB ARROW|DOWNWARDS VERY HEAVY BARB ARROW|NORTH WEST VERY HEAVY BARB ARROW|NORTH EAST VERY HEAVY BARB ARROW|SOUTH EAST VERY HEAVY BARB ARROW|SOUTH WEST VERY HEAVY BARB ARROW"⟩,
  ⟨0x1F890, "", "LEFTWARDS TRIANGLE ARROWHEAD|UPWARDS TRIANGLE ARROWHEAD|RIGHTWARDS TRIANGLE ARROWHEAD|DOWNWARDS TRIANGLE ARROWHEAD|LEFTWARDS WHITE ARROW WITHIN TRIANGLE ARROWHEAD|UPWARDS WHITE ARROW WITHIN TRIANGLE ARROWHEAD|RIGHTWARDS WHITE ARROW WITHIN TRIANGLE ARROWHEAD|DOWNWARDS WHITE ARROW WITHIN TRIANGLE ARROWHEAD|LEFTWARDS ARROW WITH NOTCHED TAIL|UPWARDS ARROW WITH NOTCHED TAIL|RIGHTWARDS ARROW WITH NOTCHED TAIL|DOWNWARDS ARROW WITH NOTCHED TAIL"⟩,
  ⟨0x1F89C, "HEAVY ARROW SHAFT WIDTH ", "ONE|TWO THIRDS|ONE HALF|ONE THIRD"⟩,
  ⟨0x1F8A0, "", "LEFTWARDS BOTTOM-SHADED WHITE ARROW|RIGHTWARDS BOTTOM SHADED WHITE ARROW|LEFTWARDS TOP SHADED WHITE ARROW|RIGHTWARDS TOP SHADED WHITE ARROW|LEFTWARDS LEFT-SHADED WHITE ARROW|RIGHTWARDS RIGHT-SHADED WHITE ARROW|LEFTWARDS RIGHT-SHADED WHITE ARROW|RIGHTWARDS LEFT-SHADED WHITE ARROW|LEFTWARDS BACK-TILTED SHADOWED WHITE ARROW|RIGHTWARDS BACK-TILTED SHADOWED WHITE ARROW|LEFTWARDS FRONT-TILTED SHADOWED WHITE ARROW|RIGHTWARDS FRONT-TILTED SHADOWED WHITE ARROW"⟩,
  ⟨0x1F8AC, "WHITE ARROW SHAFT WIDTH ", "ONE|TWO THIRDS"⟩,
  ⟨0x1F8B0, "ARROW POINTING ", "UPWARDS THEN NORTH WEST|RIGHTWARDS THEN CURVING SOUTH WEST"⟩,
  ⟨0x1F900, "CIRCLED CROSS FORMEE", " WITH FOUR DOTS| WITH TWO DOTS|"⟩,
  ⟨0x1F903, "LEFT HALF CIRCLE", " WITH FOUR DOTS| WITH THREE DOTS| WITH TWO DOTS| WITH DOT|"⟩,
  ⟨0x1F908, "DOWNWARD FACING ", "HOOK|NOTCHED HOOK|HOOK WITH DOT|NOTCHED HOOK WITH DOT"⟩,
  ⟨0x1F90C, "", "PINCHED FINGERS|WHITE HEART|BROWN HEART|PINCHING HAND|ZIPPER-MOUTH FACE|MONEY-MOUTH FACE|FACE WITH THERMOMETER|NERD FACE|THINKING FACE|FACE WITH HEAD-BANDAGE|ROBOT FACE|HUGGING FACE|SIGN OF THE HORNS|CALL ME HAND|RAISED BACK OF HAND|LEFT-FACING FIST|RIGHT-FACING FIST|HANDSHAKE|HAND WITH INDEX AND MIDDLE FINGERS CROSSED|I LOVE YOU HAND SIGN|FACE WITH COWBOY HAT|CLOWN FACE|NAUSEATED FACE|ROLLING ON THE FLOOR LAUGHING|DROOLING FACE|LYING FACE|FACE PALM|SNEEZING FACE|FACE WITH ONE EYEBROW RAISED|GRINNING FACE WITH STAR EYES|GRINNING FACE WITH ONE LARGE AND ONE SMALL EYE|FACE WITH FINGER COVERING CLOSED LIPS|SERIOUS FACE WITH SYMBOLS COVERING MOUTH|SMILING FACE WITH SMILING EYES AND HAND COVERING MOUTH|FACE WITH OPEN MOUTH VOMITING|SHOCKED FACE WITH EXPLODING HEAD|PREGNANT WOMAN|BREAST-FEEDING|PALMS UP TOGETHER|SELFIE|PRINCE|MAN IN TUXEDO|MOTHER CHRISTMAS|SHRUG|PERSON DOING CARTWHEEL|JUGGLING|FENCER|MODERN PENTATHLON|WRESTLERS|WATER POLO|HANDBALL|DIVING MASK|WILTED FLOWER|DRUM WITH DRUMSTICKS|CLINKING GLASSES|TUMBLER GLASS|SPOON|GOAL NET|RIFLE|FIRST PLACE MEDAL|SECOND PLACE MEDAL|THIRD PLACE MEDAL|BOXING GLOVE|MARTIAL ARTS UNIFORM|CURLING STONE|LACROSSE STICK AND BALL|SOFTBALL|FLYING DISC|CROISSANT|AVOCADO|CUCUMBER|BACON|POTATO|CARROT|BAGUETTE BREAD|GREEN SALAD|SHALLOW PAN OF FOOD|STUFFED FLATBREAD|EGG|GLASS OF MILK|PEANUTS|KIWIFRUIT|PANCAKES|DUMPLING|FORTUNE COOKIE|TAKEOUT BOX|CHOPSTICKS|BOWL WITH SPOON|CUP WITH STRAW|COCONUT|BROCCOLI|PIE|PRETZEL|CUT OF MEAT|SANDWICH|CANNED FOOD"⟩,
  ⟨0x1F96C, "", "LEAFY GREEN|MANGO|MOON CAKE|BAGEL|SMILING FACE WITH SMILING EYES AND THREE HEARTS|YAWNING FACE|SMILING FACE WITH TEAR|FACE WITH PARTY HORN AND PARTY HAT|FACE WITH UNEVEN EYES AND WAVY MOUTH|OVERHEATED FACE|FREEZING FACE|NINJA|DISGUISED FACE|FACE HOLDING BACK TEARS|FACE WITH PLEADING EYES|SARI|LAB COAT|GOGGLES|HIKING BOOT|FLAT SHOE|CRAB|LION FACE|SCORPION|TURKEY|UNICORN FACE|EAGLE|DUCK|BAT|SHARK|OWL|FOX FACE|BUTTERFLY|DEER|GORILLA|LIZARD|RHINOCEROS|SHRIMP|SQUID|GIRAFFE FACE|ZEBRA FACE|HEDGEHOG|SAUROPOD|T-REX|CRICKET|KANGAROO|LLAMA|PEACOCK|HIPPOPOTAMUS|PARROT|RACCOON|LOBSTER|MOSQUITO|MICROBE|BADGER|SWAN|MAMMOTH|DODO|SLOTH|OTTER|ORANGUTAN|SKUNK|FLAMINGO|OYSTER|BEAVER|BISON|SEAL|GUIDE DOG|PROBING CANE"⟩,
  ⟨0x1F9B0, "EMOJI COMPONENT ", "RED HAIR|CURLY HAIR|BALD|WHITE HAIR"⟩,
  ⟨0x1F9B4, "", "BONE|LEG|FOOT|TOOTH|SUPERHERO|SUPERVILLAIN|SAFETY VEST|EAR WITH HEARING AID|MOTORIZED WHEELCHAIR|MANUAL WHEELCHAIR|MECHANICAL ARM|MECHANICAL LEG|CHEESE WEDGE|CUPCAKE|SALT SHAKER|BEVERAGE BOX|GARLIC|ONION|FALAFEL|WAFFLE|BUTTER|MATE DRINK|ICE CUBE|BUBBLE TEA|TROLL|STANDING PERSON|KNEELING PERSON|DEAF PERSON|FACE WITH MONOCLE|ADULT|CHILD|OLDER ADULT|BEARDED PERSON|PERSON WITH HEADSCARF|PERSON IN STEAMY ROOM|PERSON CLIMBING|PERSON IN LOTUS POSITION|MAGE|FAIRY|VAMPIRE|MERPERSON|ELF|GENIE|ZOMBIE|BRAIN|ORANGE HEART|BILLED CAP|SCARF|GLOVES|COAT|SOCKS|RED GIFT ENVELOPE|FIRECRACKER|JIGSAW PUZZLE PIECE|TEST TUBE|PETRI DISH|DNA DOUBLE HELIX|COMPASS|ABACUS|FIRE EXTINGUISHER|TOOLBOX|BRICK|MAGNET|LUGGAGE|LOTION BOTTLE|SPOOL OF THREAD|BALL OF YARN|SAFETY PIN|TEDDY BEAR|BROOM|BASKET|ROLL OF PAPER|BAR OF SOAP|SPONGE|RECEIPT|NAZAR AMULET"⟩,
  ⟨0x1FA00, "NEUTRAL CHESS ", "KING|QUEEN|ROOK|BISHOP|KNIGHT|PAWN"⟩,
  ⟨0x1FA06, "", "WHITE CHESS KNIGHT ROTATED FORTY-FIVE DEGREES|BLACK CHESS KNIGHT ROTATED FORTY-FIVE DEGREES|NEUTRAL CHESS KNIGHT ROTATED FORTY-FIVE DEGREES"⟩,
  ⟨0x1FA09, "WHITE CHESS ", "KING ROTATED NINETY DEGREES|QUEEN ROTATED NINETY DEGREES|ROOK ROTATED NINETY DEGREES|BISHOP ROTATED NINETY DEGREES|KNIGHT ROTATED NINETY DEGREES|PAWN ROTATED NINETY DEGREES"⟩,
  ⟨0x1FA0F, "BLACK CHESS ", "KING ROTATED NINETY DEGREES|QUEEN ROTATED NINETY DEGREES|ROOK ROTATED NINETY DEGREES|BISHOP ROTATED NINETY DEGREES|KNIGHT ROTATED NINETY DEGREES|PAWN ROTATED NINETY DEGREES"⟩,
  ⟨0x1FA15, "NEUTRAL CHESS ", "KING ROTATED NINETY DEGREES|QUEEN ROTATED NINETY DEGREES|ROOK ROTATED NINETY DEGREES|BISHOP ROTATED NINETY DEGREES|KNIGHT ROTATED NINETY DEGREES|PAWN ROTATED NINETY DEGREES"⟩,
  ⟨0x1FA1B, "", "WHITE CHESS KNIGHT ROTATED ONE HUNDRED THIRTY-FIVE DEGREES|BLACK CHESS KNIGHT ROTATED ONE HUNDRED THIRTY-FIVE DEGREES|NEUTRAL CHESS KNIGHT ROTATED ONE HUNDRED THIRTY-FIVE DEGREES"⟩,
  ⟨0x1FA1E, "WHITE CHESS TURNED ", "KING|QUEEN|ROOK|BISHOP|KNIGHT|PAWN"⟩,
  ⟨0x1FA24, "BLACK CHESS TURNED ", "KING|QUEEN|ROOK|BISHOP|KNIGHT|PAWN"⟩,
  ⟨0x1FA2A, "NEUTRAL CHESS TURNED ", "KING|QUEEN|ROOK|BISHOP|KNIGHT|PAWN"⟩,
  ⟨0x1FA30, "", "WHITE CHESS KNIGHT ROTATED TWO HUNDRED TWENTY-FIVE DEGREES|BLACK CHESS KNIGHT ROTATED TWO HUNDRED TWENTY-FIVE DEGREES|NEUTRAL CHESS KNIGHT ROTATED TWO HUNDRED TWENTY-FIVE DEGREES"⟩,
  ⟨0x1FA33, "WHITE CHESS ", "KING ROTATED TWO HUNDRED SEVENTY DEGREES|QUEEN ROTATED TWO HUNDRED SEVENTY DEGREES|ROOK ROTATED TWO HUNDRED SEVENTY DEGREES|BISHOP ROTATED TWO HUNDRED SEVENTY DEGREES|KNIGHT ROTATED TWO HUNDRED SEVENTY DEGREES|PAWN ROTATED TWO HUNDRED SEVENTY DEGREES"⟩,
  ⟨0x1FA39, "BLACK CHESS ", "KING ROTATED TWO HUNDRED SEVENTY DEGREES|QUEEN ROTATED TWO HUNDRED SEVENTY DEGREES|ROOK ROTATED TWO HUNDRED SEVENTY DEGREES|BISHOP ROTATED TWO HUNDRED SEVENTY DEGREES|KNIGHT ROTATED TWO HUNDRED SEVENTY DEGREES|PAWN ROTATED TWO HUNDRED SEVENTY DEGREES"⟩,
  ⟨0x1FA3F, "NEUTRAL CHESS ", "KING ROTATED TWO HUNDRED SEVENTY DEGREES|QUEEN ROTATED TWO HUNDRED SEVENTY DEGREES|ROOK ROTATED TWO HUNDRED SEVENTY DEGREES|BISHOP ROTATED TWO HUNDRED SEVENTY DEGREES|KNIGHT ROTATED TWO HUNDRED SEVENTY DEGREES|PAWN ROTATED TWO HUNDRED SEVENTY DEGREES"⟩,
  ⟨0x1FA45, "", "WHITE CHESS KNIGHT ROTATED THREE HUNDRED FIFTEEN DEGREES|BLACK CHESS KNIGHT ROTATED THREE HUNDRED FIFTEEN DEGREES|NEUTRAL CHESS KNIGHT ROTATED THREE HUNDRED FIFTEEN DEGREES|WHITE CHESS EQUIHOPPER|BLACK CHESS EQUIHOPPER|NEUTRAL CHESS EQUIHOPPER|WHITE CHESS EQUIHOPPER ROTATED NINETY DEGREES|BLACK CHESS EQUIHOPPER ROTATED NINETY DEGREES|NEUTRAL CHESS EQUIHOPPER ROTATED NINETY DEGREES"⟩,
  ⟨0x1FA4E, "WHITE CHESS KNIGHT-", "QUEEN|ROOK|BISHOP"⟩,
  ⟨0x1FA51, "BLACK CHESS KNIGHT-", "QUEEN|ROOK|BISHOP"⟩,
  ⟨0x1FA60, "XIANGQI RED ", "GENERAL|MANDARIN|ELEPHANT|HORSE|CHARIOT|CANNON|SOLDIER"⟩,
  ⟨0x1FA67, "XIANGQI BLACK ", "GENERAL|MANDARIN|ELEPHANT|HORSE|CHARIOT|CANNON|SOLDIER"⟩,
  ⟨0x1FA70, "", "BALLET SHOES|ONE-PIECE SWIMSUIT|BRIEFS|SHORTS|THONG SANDAL"⟩,
  ⟨0x1FA78, "", "DROP OF BLOOD|ADHESIVE BANDAGE|STETHOSCOPE|X-RAY|CRUTCH"⟩,
  ⟨0x1FA80, "", "YO-YO|KITE|PARACHUTE|BOOMERANG|MAGIC WAND|PINATA|NESTING DOLLS"⟩,
  ⟨0x1FA90, "", "RINGED PLANET|CHAIR|RAZOR|AXE|DIYA LAMP|BANJO|MILITARY HELMET|ACCORDION|LONG DRUM|COIN|CARPENTRY SAW|SCREWDRIVER|LADDER|HOOK|MIRROR|WINDOW|PLUNGER|SEWING NEEDLE|KNOT|BUCKET|MOUSE TRAP|TOOTHBRUSH|HEADSTONE|PLACARD|ROCK|MIRROR BALL|IDENTIFICATION CARD|LOW BATTERY|HAMSA"⟩,
  ⟨0x1FAB0, "", "FLY|WORM|BEETLE|COCKROACH|POTTED PLANT|WOOD|FEATHER|LOTUS|CORAL|EMPTY NEST|NEST WITH EGGS"⟩,
  ⟨0x1FAC0, "", "ANATOMICAL HEART|LUNGS|PEOPLE HUGGING|PREGNANT MAN|PREGNANT PERSON|PERSON WITH CROWN"⟩,
  ⟨0x1FAD0, "", "BLUEBERRIES|BELL PEPPER|OLIVE|FLATBREAD|TAMALE|FONDUE|TEAPOT|POURING LIQUID|BEANS|JAR"⟩,
  ⟨0x1FAE0, "", "MELTING FACE|SALUTING FACE|FACE WITH OPEN EYES AND HAND OVER MOUTH|FACE WITH PEEKING EYE|FACE WITH DIAGONAL MOUTH|DOTTED LINE FACE|BITING LIP|BUBBLES"⟩,
  ⟨0x1FAF0, "", "HAND WITH INDEX FINGER AND THUMB CROSSED|RIGHTWARDS HAND|LEFTWARDS HAND|PALM DOWN HAND|PALM UP HAND|INDEX POINTING AT THE VIEWER|HEART HANDS"⟩,
  ⟨0x1FB00, "BLOCK SEXTANT-", "1|2|12|3|13|23|123|4|14|24|124|34|134|234|1234|5|15|25|125|35|235|1235|45|145|245|1245|345|1345|2345|12345|6|16|26|126|36|136|236|1236|46|146|1246|346|1346|2346|12346|56|156|256|1256|356|1356|2356|12356|456|1456|2456|12456|3456|13456|23456"⟩,
  ⟨0x1FB3C, "LOWER LEFT BLOCK DIAGONAL ", "LOWER MIDDLE LEFT TO LOWER CENTRE|LOWER MIDDLE LEFT TO LOWER RIGHT|UPPER MIDDLE LEFT TO LOWER CENTRE|UPPER MIDDLE LEFT TO LOWER RIGHT|UPPER LEFT TO LOWER CENTRE"⟩,
  ⟨0x1FB41, "LOWER RIGHT BLOCK DIAGONAL UPPER MIDDLE LEFT TO UPPER ", "CENTRE|RIGHT"⟩,
  ⟨0x1FB43, "LOWER RIGHT BLOCK DIAGONAL LOWER ", "MIDDLE LEFT TO UPPER CENTRE|MIDDLE LEFT TO UPPER RIGHT|LEFT TO UPPER CENTRE|MIDDLE LEFT TO UPPER MIDDLE RIGHT|CENTRE TO LOWER MIDDLE RIGHT|LEFT TO LOWER MIDDLE RIGHT|CENTRE TO UPPER MIDDLE RIGHT|LEFT TO UPPER MIDDLE RIGHT|CENTRE TO UPPER RIGHT"⟩,
  ⟨0x1FB4C, "LOWER LEFT BLOCK DIAGONAL UPPER ", "CENTRE TO UPPER MIDDLE RIGHT|LEFT TO UPPER MIDDLE RIGHT|CENTRE TO LOWER MIDDLE RIGHT|LEFT TO LOWER MIDDLE RIGHT|CENTRE TO LOWER RIGHT|MIDDLE LEFT TO LOWER MIDDLE RIGHT"⟩,
  ⟨0x1FB52, "UPPER RIGHT BLOCK DIAGONAL ", "LOWER MIDDLE LEFT TO LOWER CENTRE|LOWER MIDDLE LEFT TO LOWER RIGHT|UPPER MIDDLE LEFT TO LOWER CENTRE|UPPER MIDDLE LEFT TO LOWER RIGHT|UPPER LEFT TO LOWER CENTRE"⟩,
  ⟨0x1FB57, "UPPER LEFT BLOCK DIAGONAL UPPER MIDDLE LEFT TO UPPER ", "CENTRE|RIGHT"⟩,
  ⟨0x1FB59, "UPPER LEFT BLOCK DIAGONAL LOWER ", "MIDDLE LEFT TO UPPER CENTRE|MIDDLE LEFT TO UPPER RIGHT|LEFT TO UPPER CENTRE|MIDDLE LEFT TO UPPER MIDDLE RIGHT|CENTRE TO LOWER MIDDLE RIGHT|LEFT TO LOWER MIDDLE RIGHT|CENTRE TO UPPER MIDDLE RIGHT|LEFT TO UPPER MIDDLE RIGHT|CENTRE TO UPPER RIGHT"⟩,
  ⟨0x1FB62, "UPPER RIGHT BLOCK DIAGONAL UPPER ", "CENTRE TO UPPER MIDDLE RIGHT|LEFT TO UPPER MIDDLE RIGHT|CENTRE TO LOWER MIDDLE RIGHT|LEFT TO LOWER MIDDLE RIGHT|CENTRE TO LOWER RIGHT|MIDDLE LEFT TO LOWER MIDDLE RIGHT"⟩,
  ⟨0x1FB68, "", "UPPER AND RIGHT AND LOWER TRIANGULAR THREE QUARTERS BLOCK|LEFT AND LOWER AND RIGHT TRIANGULAR THREE QUARTERS BLOCK|UPPER AND LEFT AND LOWER TRIANGULAR THREE QUARTERS BLOCK|LEFT AND UPPER AND RIGHT TRIANGULAR THREE QUARTERS BLOCK|LEFT TRIANGULAR ONE QUARTER BLOCK|UPPER TRIANGULAR ONE QUARTER BLOCK|RIGHT TRIANGULAR ONE QUARTER BLOCK|LOWER TRIANGULAR ONE QUARTER BLOCK"⟩,
  ⟨0x1FB70, "VERTICAL ONE EIGHTH BLOCK-", "2|3|4|5|6|7"⟩,
  ⟨0x1FB76, "HORIZONTAL ONE EIGHTH BLOCK-", "2|3|4|5|6|7"⟩,
  ⟨0x1FB7C, "", "LEFT AND LOWER ONE EIGHTH BLOCK|LEFT AND UPPER ONE EIGHTH BLOCK|RIGHT AND UPPER ONE EIGHTH BLOCK|RIGHT AND LOWER ONE EIGHTH BLOCK|UPPER AND LOWER ONE EIGHTH BLOCK|HORIZONTAL ONE EIGHTH BLOCK-1358|UPPER ONE QUARTER BLOCK|UPPER THREE EIGHTHS BLOCK|UPPER FIVE EIGHTHS BLOCK|UPPER THREE QUARTERS BLOCK|UPPER SEVEN EIGHTHS BLOCK|RIGHT ONE QUARTER BLOCK|RIGHT THREE EIGHTHS BLOCK|RIGHT FIVE EIGHTHS BLOCK|RIGHT THREE QUARTERS BLOCK|RIGHT SEVEN EIGHTHS BLOCK|LEFT HALF MEDIUM SHADE|RIGHT HALF MEDIUM SHADE|UPPER HALF MEDIUM SHADE|LOWER HALF MEDIUM SHADE|INVERSE MEDIUM SHADE|UPPER HALF BLOCK AND LOWER HALF INVERSE MEDIUM SHADE|UPPER HALF INVERSE MEDIUM SHADE AND LOWER HALF BLOCK"⟩,
  ⟨0x1FB94, "", "LEFT HALF INVERSE MEDIUM SHADE AND RIGHT HALF BLOCK|CHECKER BOARD FILL|INVERSE CHECKER BOARD FILL|HEAVY HORIZONTAL FILL|UPPER LEFT TO LOWER RIGHT FILL|UPPER RIGHT TO LOWER LEFT FILL|UPPER AND LOWER TRIANGULAR HALF BLOCK|LEFT AND RIGHT TRIANGULAR HALF BLOCK|UPPER LEFT TRIANGULAR MEDIUM SHADE|UPPER RIGHT TRIANGULAR MEDIUM SHADE|LOWER RIGHT TRIANGULAR MEDIUM SHADE|LOWER LEFT TRIANGULAR MEDIUM SHADE"⟩,
  ⟨0x1FBA0, "BOX DRAWINGS LIGHT DIAGONAL ", "UPPER CENTRE TO MIDDLE LEFT|UPPER CENTRE TO MIDDLE RIGHT|MIDDLE LEFT TO LOWER CENTRE|MIDDLE RIGHT TO LOWER CENTRE|UPPER CENTRE TO MIDDLE LEFT TO LOWER CENTRE|UPPER CENTRE TO MIDDLE RIGHT TO LOWER CENTRE|MIDDLE LEFT TO LOWER CENTRE TO MIDDLE RIGHT|MIDDLE LEFT TO UPPER CENTRE TO MIDDLE RIGHT|UPPER CENTRE TO MIDDLE LEFT AND MIDDLE RIGHT TO LOWER CENTRE|UPPER CENTRE TO MIDDLE RIGHT AND MIDDLE LEFT TO LOWER CENTRE|UPPER CENTRE TO MIDDLE RIGHT TO LOWER CENTRE TO MIDDLE LEFT|UPPER CENTRE TO MIDDLE LEFT TO LOWER CENTRE TO MIDDLE RIGHT|MIDDLE LEFT TO UPPER CENTRE TO MIDDLE RIGHT TO LOWER CENTRE|MIDDLE RIGHT TO UPPER CENTRE TO MIDDLE LEFT TO LOWER CENTRE|DIAMOND"⟩,
  ⟨0x1FBAF, "", "BOX DRAWINGS LIGHT HORIZONTAL WITH VERTICAL STROKE|ARROWHEAD-SHAPED POINTER|INVERSE CHECK MARK|LEFT HALF RUNNING MAN|RIGHT HALF RUNNING MAN|INVERSE DOWNWARDS ARROW WITH TIP LEFTWARDS|LEFTWARDS ARROW AND UPPER AND LOWER ONE EIGHTH BLOCK|RIGHTWARDS ARROW AND UPPER AND LOWER ONE EIGHTH BLOCK|DOWNWARDS ARROW AND RIGHT ONE EIGHTH BLOCK|UPWARDS ARROW AND RIGHT ONE EIGHTH BLOCK|LEFT HALF FOLDER|RIGHT HALF FOLDER|VOIDED GREEK CROSS|RIGHT OPEN SQUARED DOT|NEGATIVE DIAGONAL CROSS|NEGATIVE DIAGONAL MIDDLE RIGHT TO LOWER CENTRE|NEGATIVE DIAGONAL DIAMOND|WHITE HEAVY SALTIRE WITH ROUNDED CORNERS|LEFT THIRD WHITE RIGHT POINTING INDEX|MIDDLE THIRD WHITE RIGHT POINTING INDEX|RIGHT THIRD WHITE RIGHT POINTING INDEX|NEGATIVE SQUARED QUESTION MARK"⟩,
  ⟨0x1FBC5, "STICK FIGURE", "| WITH ARMS RAISED| LEANING LEFT| LEANING RIGHT| WITH DRESS"⟩,
  ⟨0x1FBCA, "WHITE UP-POINTING CHEVRON", ""⟩,
  ⟨0x1FBF0, "SEGMENTED DIGIT ", "ZERO|ONE|TWO|THREE|FOUR|FIVE|SIX|SEVEN|EIGHT|NINE"⟩,
  ⟨0xE0001, "LANGUAGE TAG", ""⟩,
  ⟨0xE0020, "TAG ", "SPACE|EXCLAMATION MARK|QUOTATION MARK|NUMBER SIGN|DOLLAR SIGN|PERCENT SIGN|AMPERSAND|APOSTROPHE|LEFT PARENTHESIS|RIGHT PARENTHESIS|ASTERISK|PLUS SIGN|COMMA|HYPHEN-MINUS|FULL STOP|SOLIDUS"⟩,
  ⟨0xE0030, "TAG DIGIT ", "ZERO|ONE|TWO|THREE|FOUR|FIVE|SIX|SEVEN|EIGHT|NINE"⟩,
  ⟨0xE003A, "TAG ", "COLON|SEMICOLON|LESS-THAN SIGN|EQUALS SIGN|GREATER-THAN SIGN|QUESTION MARK|COMMERCIAL AT"⟩,
  ⟨0xE0041, "TAG LATIN CAPITAL LETTER ", "A|B|C|D|E|F|G|H|I|J|K|L|M|N|O|P|Q|R|S|T|U|V|W|X|Y|Z"⟩,
  ⟨0xE005B, "TAG ", "LEFT SQUARE BRACKET|REVERSE SOLIDUS|RIGHT SQUARE BRACKET|CIRCUMFLEX ACCENT|LOW LINE|GRAVE ACCENT"⟩,
  ⟨0xE0061, "TAG LATIN SMALL LETTER ", "A|B|C|D|E|F|G|H|I|J|K|L|M|N|O|P|Q|R|S|T|U|V|W|X|Y|Z"⟩,
  ⟨0xE007B, "", "TAG LEFT CURLY BRACKET|TAG VERTICAL LINE|TAG RIGHT CURLY BRACKET|TAG TILDE|CANCEL TAG"⟩,
  ⟨0xE0100, "VARIATION SELECTOR-", "17|18|19|20|21|22|23|24|25|26|27|28|29|30|31|32|33|34|35|36|37|38|39|40|41|42|43|44|45|46|47|48|49|50|51|52|53|54|55|56|57|58|59|60|61|62|63|64|65|66|67|68|69|70|71|72|73|74|75|76|77|78|79|80|81|82|83|84|85|86|87|88|89|90|91|92|93|94|95|96|97|98|99"⟩,
  ⟨0xE0153, "VARIATION SELECTOR-1", "00|01|02|03|04|05|06|07|08|09|10|11|12|13|14|15|16|17|18|19|20|21|22|23|24|25|26|27|28|29|30|31|32|33|34|35|36|37|38|39|40|41|42|43|44|45|46|47|48|49|50|51|52|53|54|55|56|57|58|59|60|61|62|63|64|65|66|67|68|69|70|71|72|73|74|75|76|77|78|79|80|81|82|83|84|85|86|87|88|89|90|91|92|93|94|95|96|97|98|99"⟩,
  ⟨0xE01B7, "VARIATION SELECTOR-2", "00|01|02|03|04|05|06|07|08|09|10|11|12|13|14|15|16|17|18|19|20|21|22|23|24|25|26|27|28|29|30|31|32|33|34|35|36|37|38|39|40|41|42|43|44|45|46|47|48|49|50|51|52|53|54|55|56"⟩]

end Worksheet.Text.CharacterName
