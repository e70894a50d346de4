import HttpRouting.Text.CharacterName.Run

/-!
# Names of the scripts of antiquity

The names from U+10000 to U+12FF2 in the Unicode standard.
-/

namespace HttpRouting.Text.CharacterName

def ancientScripts : List Run :=
  [
    ⟨0x10000, "LINEAR B SYLLABLE ", "B008 A,B038 E,B028 I,B061 O,B010 U"⟩,
    ⟨0x10005, "LINEAR B SYLLABLE ", "B001 DA,B045 DE,B007 DI,B014 DO,B051 DU,B057 JA,B046 JE"⟩,
    ⟨0x1000d, "LINEAR B SYLLABLE ", "B036 JO,B065 JU,B077 KA,B044 KE,B067 KI,B070 KO,B081 KU"⟩,
    ⟨0x10014, "LINEAR B SYLLABLE ", "B080 MA,B013 ME,B073 MI,B015 MO,B023 MU,B006 NA,B024 NE"⟩,
    ⟨0x1001b, "LINEAR B SYLLABLE ", "B030 NI,B052 NO,B055 NU,B003 PA,B072 PE,B039 PI,B011 PO"⟩,
    ⟨0x10022, "LINEAR B SYLLABLE ", "B050 PU,B016 QA,B078 QE,B021 QI,B032 QO,,B060 RA,B027 RE"⟩,
    ⟨0x1002a, "LINEAR B SYLLABLE ", "B053 RI,B002 RO,B026 RU,B031 SA,B009 SE,B041 SI,B012 SO"⟩,
    ⟨0x10031, "LINEAR B SYLLABLE ", "B058 SU,B059 TA,B004 TE,B037 TI,B005 TO,B069 TU,B054 WA"⟩,
    ⟨0x10038, "LINEAR B SYLLABLE ", "B075 WE,B040 WI,B042 WO,,B017 ZA,B074 ZE,,B020 ZO,B025 A2"⟩,
    ⟨0x10041, "LINEAR B SYLLABLE ", "B043 A3,B085 AU,B071 DWE,B090 DWO,B048 NWA,B029 PU2,B062 PTE"⟩,
    ⟨0x10048, "LINEAR B SYLLABLE ", "B076 RA2,B033 RA3,B068 RO2,B066 TA2,B087 TWE,B091 TWO"⟩,
    ⟨0x10050, "LINEAR B SYMBOL ", "B018,B019"⟩,
    ⟨0x10052, "LINEAR B SYMBOL ", "B022,B034,B047,B049,B056,B063,B064,B079,B082,B083,B086,B089"⟩,
    ⟨0x10080, "LINEAR B IDEOGRAM ", "B100 MAN,B102 WOMAN,B104 DEER,B105 EQUID"⟩,
    ⟨0x10084, "LINEAR B IDEOGRAM ", "B105F MARE,B105M STALLION,B106F EWE,B106M RAM,B107F SHE-GOAT"⟩,
    ⟨0x10089, "LINEAR B IDEOGRAM ", "B107M HE-GOAT,B108F SOW,B108M BOAR,B109F COW,B109M BULL"⟩,
    ⟨0x1008e, "LINEAR B IDEOGRAM ", "B120 WHEAT,B121 BARLEY,B122 OLIVE,B123 SPICE,B125 CYPERUS"⟩,
    ⟨0x10093, "LINEAR B MONOGRAM ", "B127 KAPO,B128 KANAKO"⟩,
    ⟨0x10095, "LINEAR B IDEOGRAM ", "B130 OIL,B131 WINE,B132"⟩,
    ⟨0x10098, "LINEAR B ", "MONOGRAM B133 AREPA,MONOGRAM B135 MERI,IDEOGRAM B140 BRONZE"⟩,
    ⟨0x1009b, "LINEAR B IDEOGRAM ", "B141 GOLD,B142,B145 WOOL,B146,B150,B151 HORN,B152,B153,B154"⟩,
    ⟨0x100a4, "", "LINEAR B MONOGRAM B156 TURO2"⟩,
    ⟨0x100a5, "LINEAR B IDEOGRAM ", "B157,B158,B159 CLOTH,B160,B161,B162 GARMENT,B163 ARMOUR"⟩,
    ⟨0x100ac, "LINEAR B IDEOGRAM ", "B164,B165,B166,B167,B168,B169,B170,B171,B172,B173 MONTH"⟩,
    ⟨0x100b6, "LINEAR B IDEOGRAM ", "B174,B176 TREE,B177,B178,B179,B180,B181,B182,B183,B184,B185"⟩,
    ⟨0x100c1, "LINEAR B IDEOGRAM ", "B189,B190,B191 HELMET,B220 FOOTSTOOL,B225 BATHTUB,B230 SPEAR"⟩,
    ⟨0x100c7, "LINEAR B IDEOGRAM ", "B231 ARROW,B232,B233 SWORD,B234,B236,B240 WHEELED CHARIOT"⟩,
    ⟨0x100cd, "LINEAR B IDEOGRAM ", "B241 CHARIOT,B242 CHARIOT FRAME,B243 WHEEL,B245,B246"⟩,
    ⟨0x100d2, "", "LINEAR B MONOGRAM B247 DIPTE"⟩,
    ⟨0x100d3, "LINEAR B IDEOGRAM ", "B248,B249,B251,B252,B253,B254 DART,B255,B256,B257,B258,B259"⟩,
    ⟨0x100de, "LINEAR B IDEOGRAM VESSEL ", "B155,B200,B201,B202,B203,B204,B205,B206,B207"⟩,
    ⟨0x100e7, "LINEAR B IDEOGRAM VESSEL ", "B208,B209,B210,B211,B212,B213,B214,B215,B216,B217"⟩,
    ⟨0x100f1, "LINEAR B IDEOGRAM VESSEL ", "B218,B219,B221,B222,B226,B227,B228,B229,B250,B305"⟩,
    ⟨0x10100, "AEGEAN ", "WORD SEPARATOR LINE,WORD SEPARATOR DOT,CHECK MARK"⟩,
    ⟨0x10107, "AEGEAN NUMBER ", "ONE,TWO,THREE,FOUR,FIVE,SIX,SEVEN,EIGHT,NINE,TEN,TWENTY"⟩,
    ⟨0x10112, "AEGEAN NUMBER ", "THIRTY,FORTY,FIFTY,SIXTY,SEVENTY,EIGHTY,NINETY,ONE HUNDRED"⟩,
    ⟨0x1011a, "AEGEAN NUMBER ", "TWO HUNDRED,THREE HUNDRED,FOUR HUNDRED,FIVE HUNDRED,SIX HUNDRED"⟩,
    ⟨0x1011f, "AEGEAN NUMBER ", "SEVEN HUNDRED,EIGHT HUNDRED,NINE HUNDRED,ONE THOUSAND"⟩,
    ⟨0x10123, "AEGEAN NUMBER ", "TWO THOUSAND,THREE THOUSAND,FOUR THOUSAND,FIVE THOUSAND"⟩,
    ⟨0x10127, "AEGEAN NUMBER ", "SIX THOUSAND,SEVEN THOUSAND,EIGHT THOUSAND,NINE THOUSAND"⟩,
    ⟨0x1012b, "AEGEAN NUMBER ", "TEN THOUSAND,TWENTY THOUSAND,THIRTY THOUSAND,FORTY THOUSAND"⟩,
    ⟨0x1012f, "AEGEAN NUMBER ", "FIFTY THOUSAND,SIXTY THOUSAND,SEVENTY THOUSAND,EIGHTY THOUSAND"⟩,
    ⟨0x10133, "AEGEAN ", "NUMBER NINETY THOUSAND,,,,WEIGHT BASE UNIT"⟩,
    ⟨0x10138, "AEGEAN WEIGHT ", "FIRST SUBUNIT,SECOND SUBUNIT,THIRD SUBUNIT,FOURTH SUBUNIT"⟩,
    ⟨0x1013c, "AEGEAN ", "DRY MEASURE FIRST SUBUNIT,LIQUID MEASURE FIRST SUBUNIT"⟩,
    ⟨0x1013e, "AEGEAN MEASURE ", "SECOND SUBUNIT,THIRD SUBUNIT"⟩,
    ⟨0x10140, "GREEK ACROPHONIC ATTIC ONE ", "QUARTER,HALF,DRACHMA"⟩,
    ⟨0x10143, "GREEK ACROPHONIC ATTIC ", "FIVE,FIFTY,FIVE HUNDRED"⟩,
    ⟨0x10146, "GREEK ACROPHONIC ATTIC ", "FIVE THOUSAND,FIFTY THOUSAND,FIVE TALENTS,TEN TALENTS"⟩,
    ⟨0x1014a, "GREEK ACROPHONIC ATTIC ", "FIFTY TALENTS,ONE HUNDRED TALENTS,FIVE HUNDRED TALENTS"⟩,
    ⟨0x1014d, "GREEK ACROPHONIC ATTIC ", "ONE THOUSAND TALENTS,FIVE THOUSAND TALENTS,FIVE STATERS"⟩,
    ⟨0x10150, "GREEK ACROPHONIC ATTIC ", "TEN STATERS,FIFTY STATERS,ONE HUNDRED STATERS"⟩,
    ⟨0x10153, "GREEK ACROPHONIC ATTIC ", "FIVE HUNDRED STATERS,ONE THOUSAND STATERS"⟩,
    ⟨0x10155, "GREEK ACROPHONIC ATTIC ", "TEN THOUSAND STATERS,FIFTY THOUSAND STATERS,TEN MNAS"⟩,
    ⟨0x10158, "", "GREEK ACROPHONIC HERAEUM ONE PLETHRON"⟩,
    ⟨0x10159, "GREEK ACROPHONIC ", "THESPIAN ONE,HERMIONIAN ONE,EPIDAUREAN TWO,THESPIAN TWO"⟩,
    ⟨0x1015d, "GREEK ACROPHONIC ", "CYRENAIC TWO DRACHMAS,EPIDAUREAN TWO DRACHMAS,TROEZENIAN FIVE"⟩,
    ⟨0x10160, "GREEK ACROPHONIC ", "TROEZENIAN TEN,TROEZENIAN TEN ALTERNATE FORM,HERMIONIAN TEN"⟩,
    ⟨0x10163, "GREEK ACROPHONIC ", "MESSENIAN TEN,THESPIAN TEN,THESPIAN THIRTY,TROEZENIAN FIFTY"⟩,
    ⟨0x10167, "GREEK ACROPHONIC ", "TROEZENIAN FIFTY ALTERNATE FORM,HERMIONIAN FIFTY"⟩,
    ⟨0x10169, "GREEK ACROPHONIC THESPIAN ", "FIFTY,ONE HUNDRED,THREE HUNDRED"⟩,
    ⟨0x1016c, "GREEK ACROPHONIC ", "EPIDAUREAN FIVE HUNDRED,TROEZENIAN FIVE HUNDRED"⟩,
    ⟨0x1016e, "GREEK ACROPHONIC ", "THESPIAN FIVE HUNDRED,CARYSTIAN FIVE HUNDRED"⟩,
    ⟨0x10170, "GREEK ACROPHONIC ", "NAXIAN FIVE HUNDRED,THESPIAN ONE THOUSAND"⟩,
    ⟨0x10172, "GREEK ACROPHONIC ", "THESPIAN FIVE THOUSAND,DELPHIC FIVE MNAS,STRATIAN FIFTY MNAS"⟩,
    ⟨0x10175, "GREEK ", "ONE HALF SIGN,ONE HALF SIGN ALTERNATE FORM,TWO THIRDS SIGN"⟩,
    ⟨0x10178, "GREEK ", "THREE QUARTERS SIGN,YEAR SIGN,TALENT SIGN,DRACHMA SIGN,OBOL SIGN"⟩,
    ⟨0x1017d, "GREEK ", "TWO OBOLS SIGN,THREE OBOLS SIGN,FOUR OBOLS SIGN,FIVE OBOLS SIGN"⟩,
    ⟨0x10181, "GREEK ", "METRETES SIGN,KYATHOS BASE SIGN,LITRA SIGN,OUNKIA SIGN,XESTES SIGN"⟩,
    ⟨0x10186, "GREEK ", "ARTABE SIGN,AROURA SIGN,GRAMMA SIGN,TRYBLION BASE SIGN,ZERO SIGN"⟩,
    ⟨0x1018b, "", "GREEK ONE QUARTER SIGN,GREEK SINUSOID SIGN,GREEK INDICTION SIGN,NOMISMA SIGN"⟩,
    ⟨0x10190, "ROMAN ", "SEXTANS SIGN,UNCIA SIGN,SEMUNCIA SIGN,SEXTULA SIGN,DIMIDIA SEXTULA SIGN"⟩,
    ⟨0x10195, "ROMAN ", "SILIQUA SIGN,DENARIUS SIGN,QUINARIUS SIGN,SESTERTIUS SIGN,DUPONDIUS SIGN"⟩,
    ⟨0x1019a, "", "ROMAN AS SIGN,ROMAN CENTURIAL SIGN,ASCIA SYMBOL,,,,GREEK SYMBOL TAU RHO"⟩,
    ⟨0x101d0, "PHAISTOS DISC SIGN ", "PEDESTRIAN,PLUMED HEAD"⟩,
    ⟨0x101d2, "PHAISTOS DISC SIGN ", "TATTOOED HEAD,CAPTIVE,CHILD,WOMAN,HELMET,GAUNTLET"⟩,
    ⟨0x101d8, "PHAISTOS DISC SIGN ", "TIARA,ARROW,BOW,SHIELD,CLUB,MANACLES,MATTOCK,SAW,LID"⟩,
    ⟨0x101e1, "PHAISTOS DISC SIGN ", "BOOMERANG,CARPENTRY PLANE,DOLIUM,COMB,SLING,COLUMN,BEEHIVE"⟩,
    ⟨0x101e8, "PHAISTOS DISC SIGN ", "SHIP,HORN,HIDE,BULLS LEG,CAT,RAM,EAGLE,DOVE,TUNNY,BEE"⟩,
    ⟨0x101f2, "PHAISTOS DISC SIGN ", "PLANE TREE,VINE,PAPYRUS,ROSETTE,LILY,OX BACK,FLUTE,GRATER"⟩,
    ⟨0x101fa, "PHAISTOS DISC SIGN ", "STRAINER,SMALL AXE,WAVY BAND,COMBINING OBLIQUE STROKE"⟩,
    ⟨0x10280, "", "LYCIAN LETTER A"⟩,
    ⟨0x10281, "LYCIAN LETTER ", "E,B,BH,G,D,I,W,Z,TH,J,K,Q,L,M,N,MM,NN,U,P,KK,R,S,T,TT,AN,EN,H,X"⟩,
    ⟨0x102a0, "CARIAN LETTER ", "A,P2,D,L,UUU,R,LD"⟩,
    ⟨0x102a7, "CARIAN LETTER ", "A2,Q,B,M,O,D2,T,SH,SH2,S,C-18,U,NN,X,N,TT2,P,SS,I,E,UUUU,K,K2,ND"⟩,
    ⟨0x102bf, "CARIAN LETTER ", "UU,G,G2,ST,ST2,NG,II,C-39,TT,UUU2,RR,MB,MB2,MB3,MB4,LD2,E2,UUU3"⟩,
    ⟨0x102e0, "", "COPTIC EPACT THOUSANDS MARK"⟩,
    ⟨0x102e1, "COPTIC EPACT DIGIT ", "ONE,TWO,THREE,FOUR,FIVE,SIX,SEVEN,EIGHT,NINE"⟩,
    ⟨0x102ea, "COPTIC EPACT NUMBER ", "TEN,TWENTY"⟩,
    ⟨0x102ec, "COPTIC EPACT NUMBER ", "THIRTY,FORTY,FIFTY,SIXTY,SEVENTY,EIGHTY,NINETY,ONE HUNDRED"⟩,
    ⟨0x102f4, "COPTIC EPACT NUMBER ", "TWO HUNDRED,THREE HUNDRED,FOUR HUNDRED,FIVE HUNDRED"⟩,
    ⟨0x102f8, "COPTIC EPACT NUMBER ", "SIX HUNDRED,SEVEN HUNDRED,EIGHT HUNDRED,NINE HUNDRED"⟩,
    ⟨0x10300, "OLD ITALIC LETTER ", "A,BE,KE,DE,E,VE,ZE,HE,THE,I,KA,EL,EM,EN"⟩,
    ⟨0x1030e, "OLD ITALIC LETTER ", "ESH,O,PE,SHE,KU,ER,ES,TE,U,EKS,PHE,KHE,EF,ERS,CHE,II,UU,ESS"⟩,
    ⟨0x10320, "OLD ITALIC NUMERAL ", "ONE,FIVE,TEN,FIFTY"⟩,
    ⟨0x1032d, "OLD ITALIC LETTER ", "YE,NORTHERN TSE,SOUTHERN TSE"⟩,
    ⟨0x10330, "GOTHIC LETTER ", "AHSA,BAIRKAN,GIBA,DAGS,AIHVUS,QAIRTHRA,IUJA,HAGL"⟩,
    ⟨0x10338, "GOTHIC LETTER ", "THIUTH,EIS,KUSMA,LAGUS,MANNA,NAUTHS,JER,URUS,PAIRTHRA,NINETY"⟩,
    ⟨0x10342, "GOTHIC LETTER ", "RAIDA,SAUIL,TEIWS,WINJA,FAIHU,IGGWS,HWAIR,OTHAL,NINE HUNDRED"⟩,
    ⟨0x10350, "OLD PERMIC LETTER ", "AN,BUR,GAI,DOI,E,ZHOI,DZHOI,ZATA,DZITA,I,KOKE"⟩,
    ⟨0x1035b, "OLD PERMIC LETTER ", "LEI,MENOE,NENOE,VOOI,PEEI,REI,SII,TAI,U,CHERY,SHOOI,SHCHOOI"⟩,
    ⟨0x10367, "OLD PERMIC LETTER ", "YRY,YERU,O,OO,EF,HA,TSIU,VER,YER,YERI,YAT,IE,YU,YA,IA"⟩,
    ⟨0x10376, "COMBINING OLD PERMIC LETTER ", "AN,DOI,ZATA,NENOE,SII"⟩,
    ⟨0x10380, "UGARITIC LETTER ", "ALPA,BETA,GAMLA,KHA,DELTA,HO,WO,ZETA,HOTA,TET,YOD,KAF"⟩,
    ⟨0x1038c, "UGARITIC LETTER ", "SHIN,LAMDA,MEM,DHAL,NUN,ZU,SAMKA,AIN,PU,SADE,QOPA,RASHA,THANNA"⟩,
    ⟨0x10399, "UGARITIC ", "LETTER GHAIN,LETTER TO,LETTER I,LETTER U,LETTER SSU,,WORD DIVIDER"⟩,
    ⟨0x103a0, "OLD PERSIAN SIGN ", "A,I,U,KA,KU,GA,GU,XA,CA,JA,JI,TA,TU,DA,DI,DU,THA,PA,BA,FA,NA"⟩,
    ⟨0x103b5, "OLD PERSIAN SIGN ", "NU,MA,MI,MU,YA,VA,VI,RA,RU,LA,SA,ZA,SHA,SSA,HA,,,,,AURAMAZDAA"⟩,
    ⟨0x103c9, "OLD PERSIAN SIGN ", "AURAMAZDAA-2,AURAMAZDAAHA,XSHAAYATHIYA,DAHYAAUSH,DAHYAAUSH-2"⟩,
    ⟨0x103ce, "OLD PERSIAN ", "SIGN BAGA,SIGN BUUMISH,WORD DIVIDER"⟩,
    ⟨0x103d1, "OLD PERSIAN NUMBER ", "ONE,TWO,TEN,TWENTY,HUNDRED"⟩,
    ⟨0x10400, "DESERET CAPITAL LETTER LONG ", "I,E,A,AH,O,OO"⟩,
    ⟨0x10406, "DESERET CAPITAL LETTER SHORT ", "I,E,A,AH,O,OO"⟩,
    ⟨0x1040c, "DESERET CAPITAL LETTER ", "AY,OW,WU,YEE,H,PEE,BEE,TEE,DEE,CHEE,JEE,KAY,GAY"⟩,
    ⟨0x10419, "DESERET CAPITAL LETTER ", "EF,VEE,ETH,THEE,ES,ZEE,ESH,ZHEE,ER,EL,EM,EN,ENG,OI,EW"⟩,
    ⟨0x10428, "DESERET SMALL LETTER LONG ", "I,E,A,AH,O,OO"⟩,
    ⟨0x1042e, "DESERET SMALL LETTER SHORT ", "I,E,A,AH,O,OO"⟩,
    ⟨0x10434, "DESERET SMALL LETTER ", "AY,OW,WU,YEE,H,PEE,BEE,TEE,DEE,CHEE,JEE,KAY"⟩,
    ⟨0x10440, "DESERET SMALL LETTER ", "GAY,EF,VEE,ETH,THEE,ES,ZEE,ESH,ZHEE,ER,EL,EM,EN,ENG,OI,EW"⟩,
    ⟨0x10450, "SHAVIAN LETTER ", "PEEP,TOT,KICK,FEE,THIGH"⟩,
    ⟨0x10455, "SHAVIAN LETTER ", "SO,SURE,CHURCH,YEA,HUNG,BIB,DEAD,GAG,VOW,THEY,ZOO,MEASURE,JUDGE"⟩,
    ⟨0x10462, "SHAVIAN LETTER ", "WOE,HA-HA,LOLL,MIME,IF,EGG,ASH,ADO,ON,WOOL,OUT,AH,ROAR,NUN,EAT"⟩,
    ⟨0x10471, "SHAVIAN LETTER ", "AGE,ICE,UP,OAK,OOZE,OIL,AWE,ARE,OR,AIR,ERR,ARRAY,EAR,IAN,YEW"⟩,
    ⟨0x10480, "OSMANYA LETTER ", "ALEF,BA,TA,JA,XA,KHA,DEEL,RA,SA,SHIIN,DHA,CAYN"⟩,
    ⟨0x1048c, "OSMANYA LETTER ", "GA,FA,QAAF,KAAF,LAAN,MIIN,NUUN,WAW,HA,YA,A,E,I,O,U,AA,EE,OO"⟩,
    ⟨0x104a0, "OSMANYA DIGIT ", "ZERO,ONE,TWO,THREE,FOUR,FIVE,SIX,SEVEN,EIGHT,NINE"⟩,
    ⟨0x104b0, "OSAGE CAPITAL LETTER ", "A,AI,AIN,AH,BRA,CHA"⟩,
    ⟨0x104b6, "OSAGE CAPITAL LETTER ", "EHCHA,E,EIN,HA,HYA,I,KA,EHKA,KYA,LA,MA,NA,O,OIN,PA,EHPA"⟩,
    ⟨0x104c6, "OSAGE CAPITAL LETTER ", "SA,SHA,TA,EHTA,TSA,EHTSA,TSHA,DHA,U,WA,KHA,GHA,ZA,ZHA"⟩,
    ⟨0x104d8, "OSAGE SMALL LETTER ", "A,AI,AIN,AH"⟩,
    ⟨0x104dc, "OSAGE SMALL LETTER ", "BRA,CHA,EHCHA,E,EIN,HA,HYA,I,KA,EHKA,KYA,LA,MA,NA,O,OIN,PA"⟩,
    ⟨0x104ed, "OSAGE SMALL LETTER ", "EHPA,SA,SHA,TA,EHTA,TSA,EHTSA,TSHA,DHA,U,WA,KHA,GHA,ZA,ZHA"⟩,
    ⟨0x10500, "ELBASAN LETTER ", "A,BE"⟩,
    ⟨0x10502, "ELBASAN LETTER ", "CE,CHE,DE,NDE,DHE,EI,E,FE,GE,GJE,HE,I,JE,KE,LE,LLE,ME,NE,NA,NJE"⟩,
    ⟨0x10516, "ELBASAN LETTER ", "O,PE,QE,RE,RRE,SE,SHE,TE,THE,U,VE,XE,Y,ZE,ZHE,GHE,GHAMMA,KHE"⟩,
    ⟨0x10530, "CAUCASIAN ALBANIAN LETTER ", "ALT,BET,GIM,DAT,EB,ZARL"⟩,
    ⟨0x10536, "CAUCASIAN ALBANIAN LETTER ", "EYN,ZHIL,TAS,CHA,YOWD,ZHA,IRB,SHA,LAN,INYA,XEYN,DYAN"⟩,
    ⟨0x10542, "CAUCASIAN ALBANIAN LETTER ", "CAR,JHOX,KAR,LYIT,HEYT,QAY,AOR,CHOY,CHI,CYAY,MAQ,QAR"⟩,
    ⟨0x1054e, "CAUCASIAN ALBANIAN LETTER ", "NOWC,DZYAY,SHAK,JAYN,ON,TYAY,FAM,DZAY,CHAT,PEN,GHEYS"⟩,
    ⟨0x10559, "CAUCASIAN ALBANIAN LETTER ", "RAT,SEYK,VEYZ,TIWR,SHOY,IWN,CYAW,CAYN,YAYD,PIWR,KIW"⟩,
    ⟨0x1056f, "", "CAUCASIAN ALBANIAN CITATION MARK,VITHKUQI CAPITAL LETTER A"⟩,
    ⟨0x10571, "VITHKUQI CAPITAL LETTER ", "BBE,BE,CE,CHE,DE,DHE,EI,E,FE,GA,,HA,HHA,I,IJE,JE,KA,LA"⟩,
    ⟨0x10583, "VITHKUQI CAPITAL LETTER ", "LLA,ME,NE,NJE,O,PE,QA,RE,,SE,SHE,TE,THE,U,VE,XE,,Y,ZE"⟩,
    ⟨0x10597, "VITHKUQI SMALL LETTER ", "A,BBE,BE,CE,CHE,DE,DHE,EI,E,FE,GA,,HA,HHA,I,IJE,JE,KA"⟩,
    ⟨0x105a9, "VITHKUQI SMALL LETTER ", "LA,LLA,ME,NE,NJE,O,PE,QA,RE,,SE,SHE,TE,THE,U,VE,XE,,Y,ZE"⟩,
    ⟨0x10600, "LINEAR A SIGN ", "AB001,AB002"⟩,
    ⟨0x10602, "LINEAR A SIGN ", "AB003,AB004,AB005,AB006,AB007,AB008,AB009,AB010,AB011,AB013"⟩,
    ⟨0x1060c, "LINEAR A SIGN ", "AB016,AB017,AB020,AB021,AB021F,AB021M,AB022,AB022F,AB022M,AB023"⟩,
    ⟨0x10616, "LINEAR A SIGN ", "AB023M,AB024,AB026,AB027,AB028,A028B,AB029,AB030,AB031,AB034"⟩,
    ⟨0x10620, "LINEAR A SIGN ", "AB037,AB038,AB039,AB040,AB041,AB044,AB045,AB046,AB047,AB048"⟩,
    ⟨0x1062a, "LINEAR A SIGN ", "AB049,AB050,AB051,AB053,AB054,AB055,AB056,AB057,AB058,AB059"⟩,
    ⟨0x10634, "LINEAR A SIGN ", "AB060,AB061,AB065,AB066,AB067,AB069,AB070,AB073,AB074,AB076"⟩,
    ⟨0x1063e, "LINEAR A SIGN ", "AB077,AB078,AB079,AB080,AB081,AB082,AB085,AB086,AB087,A100-102"⟩,
    ⟨0x10648, "LINEAR A SIGN ", "AB118,AB120,A120B,AB122,AB123,AB131A,AB131B,A131C,AB164,AB171"⟩,
    ⟨0x10652, "LINEAR A SIGN ", "AB180,AB188,AB191,A301,A302,A303,A304,A305,A306,A307,A308,A309A"⟩,
    ⟨0x1065e, "LINEAR A SIGN ", "A309B,A309C,A310,A311,A312,A313A,A313B,A313C,A314,A315,A316,A317"⟩,
    ⟨0x1066a, "LINEAR A SIGN ", "A318,A319,A320,A321,A322,A323,A324,A325,A326,A327,A328,A329,A330"⟩,
    ⟨0x10677, "LINEAR A SIGN ", "A331,A332,A333,A334,A335,A336,A337,A338,A339,A340,A341,A342,A343"⟩,
    ⟨0x10684, "LINEAR A SIGN ", "A344,A345,A346,A347,A348,A349,A350,A351,A352,A353,A354,A355,A356"⟩,
    ⟨0x10691, "LINEAR A SIGN ", "A357,A358,A359,A360,A361,A362,A363,A364,A365,A366,A367,A368,A369"⟩,
    ⟨0x1069e, "LINEAR A SIGN ", "A370,A371,A400-VAS,A401-VAS,A402-VAS,A403-VAS,A404-VAS,A405-VAS"⟩,
    ⟨0x106a6, "LINEAR A SIGN ", "A406-VAS,A407-VAS,A408-VAS,A409-VAS,A410-VAS,A411-VAS,A412-VAS"⟩,
    ⟨0x106ad, "LINEAR A SIGN ", "A413-VAS,A414-VAS,A415-VAS,A416-VAS,A417-VAS,A418-VAS,A501,A502"⟩,
    ⟨0x106b5, "LINEAR A SIGN ", "A503,A504,A505,A506,A508,A509,A510,A511,A512,A513,A515,A516,A520"⟩,
    ⟨0x106c2, "LINEAR A SIGN ", "A521,A523,A524,A525,A526,A527,A528,A529,A530,A531,A532,A534,A535"⟩,
    ⟨0x106cf, "LINEAR A SIGN ", "A536,A537,A538,A539,A540,A541,A542,A545,A547,A548,A549,A550,A551"⟩,
    ⟨0x106dc, "LINEAR A SIGN ", "A552,A553,A554,A555,A556,A557,A559,A563,A564,A565,A566,A568,A569"⟩,
    ⟨0x106e9, "LINEAR A SIGN ", "A570,A571,A572,A573,A574,A575,A576,A577,A578,A579,A580,A581,A582"⟩,
    ⟨0x106f6, "LINEAR A SIGN ", "A583,A584,A585,A586,A587,A588,A589,A591,A592,A594,A595,A596,A598"⟩,
    ⟨0x10703, "LINEAR A SIGN ", "A600,A601,A602,A603,A604,A606,A608,A609,A610,A611,A612,A613,A614"⟩,
    ⟨0x10710, "LINEAR A SIGN ", "A615,A616,A617,A618,A619,A620,A621,A622,A623,A624,A626,A627,A628"⟩,
    ⟨0x1071d, "LINEAR A SIGN ", "A629,A634,A637,A638,A640,A642,A643,A644,A645,A646,A648,A649,A651"⟩,
    ⟨0x1072a, "LINEAR A SIGN ", "A652,A653,A654,A655,A656,A657,A658,A659,A660,A661,A662,A663,A664"⟩,
    ⟨0x10740, "LINEAR A SIGN ", "A701 A,A702 B,A703 D,A704 E,A705 F,A706 H,A707 J,A708 K"⟩,
    ⟨0x10748, "LINEAR A SIGN ", "A709 L,A709-2 L2,A709-3 L3,A709-4 L4,A709-6 L6,A710 W,A711 X"⟩,
    ⟨0x1074f, "LINEAR A SIGN ", "A712 Y,A713 OMEGA,A714 ABB,A715 BB,A717 DD,A726 EYYY,A732 JE"⟩,
    ⟨0x10760, "LINEAR A SIGN ", "A800,A801,A802,A803,A804,A805,A806,A807"⟩,
    ⟨0x10780, "MODIFIER LETTER ", "SMALL CAPITAL AA,SUPERSCRIPT TRIANGULAR COLON"⟩,
    ⟨0x10782, "MODIFIER LETTER ", "SUPERSCRIPT HALF TRIANGULAR COLON,SMALL AE,SMALL CAPITAL B"⟩,
    ⟨0x10785, "MODIFIER LETTER SMALL ", "B WITH HOOK,,DZ DIGRAPH,DZ DIGRAPH WITH RETROFLEX HOOK"⟩,
    ⟨0x10789, "MODIFIER LETTER SMALL ", "DZ DIGRAPH WITH CURL,DEZH DIGRAPH"⟩,
    ⟨0x1078b, "MODIFIER LETTER SMALL D WITH ", "TAIL,HOOK,HOOK AND TAIL"⟩,
    ⟨0x1078e, "MODIFIER LETTER SMALL ", "REVERSED E,CLOSED REVERSED OPEN E,FENG DIGRAPH,RAMS HORN"⟩,
    ⟨0x10792, "MODIFIER LETTER SMALL ", "CAPITAL G,G WITH HOOK,CAPITAL G WITH HOOK,H WITH STROKE"⟩,
    ⟨0x10796, "MODIFIER LETTER SMALL ", "CAPITAL H,HENG WITH HOOK,DOTLESS J WITH STROKE AND HOOK"⟩,
    ⟨0x10799, "MODIFIER LETTER SMALL ", "LS DIGRAPH,LZ DIGRAPH,L WITH BELT"⟩,
    ⟨0x1079c, "MODIFIER LETTER SMALL ", "CAPITAL L WITH BELT,L WITH RETROFLEX HOOK AND BELT,LEZH"⟩,
    ⟨0x1079f, "MODIFIER LETTER SMALL ", "LEZH WITH RETROFLEX HOOK,TURNED Y,TURNED Y WITH BELT"⟩,
    ⟨0x107a2, "MODIFIER LETTER SMALL ", "O WITH STROKE,CAPITAL OE,CLOSED OMEGA,Q"⟩,
    ⟨0x107a6, "MODIFIER LETTER SMALL TURNED R WITH LONG ", "LEG,LEG AND RETROFLEX HOOK"⟩,
    ⟨0x107a8, "MODIFIER LETTER SMALL R WITH ", "TAIL,FISHHOOK"⟩,
    ⟨0x107aa, "MODIFIER LETTER SMALL ", "CAPITAL R,TC DIGRAPH WITH CURL"⟩,
    ⟨0x107ac, "MODIFIER LETTER SMALL ", "TS DIGRAPH,TS DIGRAPH WITH RETROFLEX HOOK,TESH DIGRAPH"⟩,
    ⟨0x107af, "MODIFIER LETTER SMALL ", "T WITH RETROFLEX HOOK,V WITH RIGHT HOOK,,CAPITAL Y"⟩,
    ⟨0x107b3, "MODIFIER LETTER ", "GLOTTAL STOP WITH STROKE,REVERSED GLOTTAL STOP WITH STROKE"⟩,
    ⟨0x107b5, "MODIFIER LETTER ", "BILABIAL CLICK,DENTAL CLICK,LATERAL CLICK,ALVEOLAR CLICK"⟩,
    ⟨0x107b9, "MODIFIER LETTER ", "RETROFLEX CLICK WITH RETROFLEX HOOK,SMALL S WITH CURL"⟩,
    ⟨0x10800, "CYPRIOT SYLLABLE ", "A,E,I,O,U,JA,,,JO,,KA,KE,KI,KO,KU,LA,LE,LI,LO,LU"⟩,
    ⟨0x10814, "CYPRIOT SYLLABLE ", "MA,ME,MI,MO,MU,NA,NE,NI,NO,NU,PA,PE,PI,PO,PU,RA,RE,RI,RO,RU"⟩,
    ⟨0x10828, "CYPRIOT SYLLABLE ", "SA,SE,SI,SO,SU,TA,TE,TI,TO,TU,WA,WE,WI,WO,,XA,XE,,,,ZA,,,ZO"⟩,
    ⟨0x10840, "IMPERIAL ARAMAIC LETTER ", "ALEPH,BETH,GIMEL,DALETH,HE,WAW,ZAYIN,HETH,TETH,YODH"⟩,
    ⟨0x1084a, "IMPERIAL ARAMAIC LETTER ", "KAPH,LAMEDH,MEM,NUN,SAMEKH,AYIN,PE,SADHE,QOPH,RESH"⟩,
    ⟨0x10854, "IMPERIAL ARAMAIC ", "LETTER SHIN,LETTER TAW,,SECTION SIGN,NUMBER ONE,NUMBER TWO"⟩,
    ⟨0x1085a, "IMPERIAL ARAMAIC NUMBER ", "THREE,TEN,TWENTY,ONE HUNDRED,ONE THOUSAND,TEN THOUSAND"⟩,
    ⟨0x10860, "PALMYRENE LETTER ", "ALEPH,BETH,GIMEL,DALETH,HE,WAW,ZAYIN,HETH,TETH,YODH,KAPH"⟩,
    ⟨0x1086b, "PALMYRENE LETTER ", "LAMEDH,MEM,FINAL NUN,NUN,SAMEKH,AYIN,PE,SADHE,QOPH,RESH,SHIN"⟩,
    ⟨0x10876, "PALMYRENE ", "LETTER TAW,LEFT-POINTING FLEURON,RIGHT-POINTING FLEURON"⟩,
    ⟨0x10879, "PALMYRENE NUMBER ", "ONE,TWO,THREE,FOUR,FIVE,TEN,TWENTY"⟩,
    ⟨0x10880, "NABATAEAN LETTER ", "FINAL ALEPH,ALEPH,FINAL BETH,BETH"⟩,
    ⟨0x10884, "NABATAEAN LETTER ", "GIMEL,DALETH,FINAL HE,HE,WAW,ZAYIN,HETH,TETH,FINAL YODH,YODH"⟩,
    ⟨0x1088e, "NABATAEAN LETTER ", "FINAL KAPH,KAPH,FINAL LAMEDH,LAMEDH,FINAL MEM,MEM,FINAL NUN"⟩,
    ⟨0x10895, "NABATAEAN LETTER ", "NUN,SAMEKH,AYIN,PE,SADHE,QOPH,RESH,FINAL SHIN,SHIN,TAW"⟩,
    ⟨0x108a7, "NABATAEAN ", "NUMBER ONE,NUMBER TWO,NUMBER THREE,NUMBER FOUR,CRUCIFORM NUMBER FOUR"⟩,
    ⟨0x108ac, "NABATAEAN NUMBER ", "FIVE,TEN,TWENTY,ONE HUNDRED"⟩,
    ⟨0x108e0, "HATRAN LETTER ", "ALEPH,BETH,GIMEL,DALETH-RESH,HE,WAW,ZAYN,HETH"⟩,
    ⟨0x108e8, "HATRAN LETTER ", "TETH,YODH,KAPH,LAMEDH,MEM,NUN,SAMEKH,AYN,PE,SADHE,QOPH,,SHIN,TAW"⟩,
    ⟨0x108fb, "HATRAN NUMBER ", "ONE,FIVE,TEN,TWENTY,ONE HUNDRED"⟩,
    ⟨0x10900, "PHOENICIAN LETTER ", "ALF,BET,GAML,DELT,HE,WAU,ZAI,HET"⟩,
    ⟨0x10908, "PHOENICIAN LETTER ", "TET,YOD,KAF,LAMD,MEM,NUN,SEMK,AIN,PE,SADE,QOF,ROSH,SHIN,TAU"⟩,
    ⟨0x10916, "PHOENICIAN NUMBER ", "ONE,TEN,TWENTY,ONE HUNDRED,TWO,THREE"⟩,
    ⟨0x1091f, "", "PHOENICIAN WORD SEPARATOR"⟩,
    ⟨0x10920, "LYDIAN LETTER ", "A,B,G,D,E,V,I,Y,K,L,M,N,O,R,SS,T,U,F,Q,S,TT,AN,EN,LY,NN,C"⟩,
    ⟨0x1093f, "", "LYDIAN TRIANGULAR MARK"⟩,
    ⟨0x10980, "MEROITIC HIEROGLYPHIC LETTER ", "A,E,I,O,YA,WA,BA,BA-2,PA,MA,NA,NA-2,NE,NE-2,RA"⟩,
    ⟨0x1098f, "MEROITIC HIEROGLYPHIC LETTER ", "RA-2,LA,KHA,HHA,SA,SA-2,SE,KA,QA,TA,TA-2,TE,TE-2"⟩,
    ⟨0x1099c, "MEROITIC HIEROGLYPHIC ", "LETTER TO,LETTER DA,SYMBOL VIDJ,SYMBOL VIDJ-2"⟩,
    ⟨0x109a0, "MEROITIC CURSIVE LETTER ", "A,E,I,O,YA,WA,BA,PA,MA"⟩,
    ⟨0x109a9, "MEROITIC CURSIVE LETTER ", "NA,NE,RA,LA,KHA,HHA,SA,ARCHAIC SA,SE,KA,QA,TA,TE,TO,DA"⟩,
    ⟨0x109bc, "MEROITIC CURSIVE FRACTION ", "ELEVEN TWELFTHS,ONE HALF"⟩,
    ⟨0x109be, "MEROITIC CURSIVE LOGOGRAM ", "RMT,IMN"⟩,
    ⟨0x109c0, "MEROITIC CURSIVE NUMBER ", "ONE,TWO,THREE,FOUR,FIVE,SIX,SEVEN,EIGHT,NINE,TEN"⟩,
    ⟨0x109ca, "MEROITIC CURSIVE NUMBER ", "TWENTY,THIRTY,FORTY,FIFTY,SIXTY,SEVENTY,,,ONE HUNDRED"⟩,
    ⟨0x109d3, "MEROITIC CURSIVE NUMBER ", "TWO HUNDRED,THREE HUNDRED,FOUR HUNDRED,FIVE HUNDRED"⟩,
    ⟨0x109d7, "MEROITIC CURSIVE NUMBER ", "SIX HUNDRED,SEVEN HUNDRED,EIGHT HUNDRED,NINE HUNDRED"⟩,
    ⟨0x109db, "MEROITIC CURSIVE NUMBER ", "ONE THOUSAND,TWO THOUSAND,THREE THOUSAND,FOUR THOUSAND"⟩,
    ⟨0x109df, "MEROITIC CURSIVE NUMBER ", "FIVE THOUSAND,SIX THOUSAND,SEVEN THOUSAND"⟩,
    ⟨0x109e2, "MEROITIC CURSIVE NUMBER ", "EIGHT THOUSAND,NINE THOUSAND,TEN THOUSAND"⟩,
    ⟨0x109e5, "MEROITIC CURSIVE NUMBER ", "TWENTY THOUSAND,THIRTY THOUSAND,FORTY THOUSAND"⟩,
    ⟨0x109e8, "MEROITIC CURSIVE NUMBER ", "FIFTY THOUSAND,SIXTY THOUSAND,SEVENTY THOUSAND"⟩,
    ⟨0x109eb, "MEROITIC CURSIVE NUMBER ", "EIGHTY THOUSAND,NINETY THOUSAND,ONE HUNDRED THOUSAND"⟩,
    ⟨0x109ee, "MEROITIC CURSIVE NUMBER ", "TWO HUNDRED THOUSAND,THREE HUNDRED THOUSAND"⟩,
    ⟨0x109f0, "MEROITIC CURSIVE NUMBER ", "FOUR HUNDRED THOUSAND,FIVE HUNDRED THOUSAND"⟩,
    ⟨0x109f2, "MEROITIC CURSIVE NUMBER ", "SIX HUNDRED THOUSAND,SEVEN HUNDRED THOUSAND"⟩,
    ⟨0x109f4, "MEROITIC CURSIVE NUMBER ", "EIGHT HUNDRED THOUSAND,NINE HUNDRED THOUSAND"⟩,
    ⟨0x109f6, "MEROITIC CURSIVE FRACTION ", "ONE TWELFTH,TWO TWELFTHS,THREE TWELFTHS"⟩,
    ⟨0x109f9, "MEROITIC CURSIVE FRACTION ", "FOUR TWELFTHS,FIVE TWELFTHS,SIX TWELFTHS"⟩,
    ⟨0x109fc, "MEROITIC CURSIVE FRACTION ", "SEVEN TWELFTHS,EIGHT TWELFTHS,NINE TWELFTHS"⟩,
    ⟨0x109ff, "", "MEROITIC CURSIVE FRACTION TEN TWELFTHS,KHAROSHTHI LETTER A"⟩,
    ⟨0x10a01, "KHAROSHTHI VOWEL SIGN ", "I,U,VOCALIC R,,E,O"⟩,
    ⟨0x10a0c, "KHAROSHTHI ", "VOWEL LENGTH MARK,SIGN DOUBLE RING BELOW,SIGN ANUSVARA,SIGN VISARGA"⟩,
    ⟨0x10a10, "KHAROSHTHI LETTER ", "KA,KHA,GA,GHA"⟩,
    ⟨0x10a15, "KHAROSHTHI LETTER ", "CA,CHA,JA,,NYA,TTA,TTHA,DDA,DDHA,NNA,TA,THA,DA,DHA,NA,PA,PHA"⟩,
    ⟨0x10a26, "KHAROSHTHI LETTER ", "BA,BHA,MA,YA,RA,LA,VA,SHA,SSA,SA,ZA,HA,KKA,TTTHA,TTTA,VHA"⟩,
    ⟨0x10a38, "KHAROSHTHI ", "SIGN BAR ABOVE,SIGN CAUDA,SIGN DOT BELOW,,,,,VIRAMA"⟩,
    ⟨0x10a40, "KHAROSHTHI ", "DIGIT ONE,DIGIT TWO,DIGIT THREE,DIGIT FOUR,NUMBER TEN,NUMBER TWENTY"⟩,
    ⟨0x10a46, "KHAROSHTHI ", "NUMBER ONE HUNDRED,NUMBER ONE THOUSAND,FRACTION ONE HALF"⟩,
    ⟨0x10a50, "KHAROSHTHI PUNCTUATION ", "DOT,SMALL CIRCLE,CIRCLE"⟩,
    ⟨0x10a53, "KHAROSHTHI PUNCTUATION ", "CRESCENT BAR,MANGALAM,LOTUS,DANDA,DOUBLE DANDA,LINES"⟩,
    ⟨0x10a60, "OLD SOUTH ARABIAN LETTER ", "HE,LAMEDH,HETH,MEM,QOPH,WAW,SHIN,RESH,BETH,TAW"⟩,
    ⟨0x10a6a, "OLD SOUTH ARABIAN LETTER ", "SAT,KAPH,NUN,KHETH,SADHE,SAMEKH,FE,ALEF,AYN,DHADHE"⟩,
    ⟨0x10a74, "OLD SOUTH ARABIAN LETTER ", "GIMEL,DALETH,GHAYN,TETH,ZAYN,DHALETH,YODH,THAW,THETH"⟩,
    ⟨0x10a7d, "OLD SOUTH ARABIAN ", "NUMBER ONE,NUMBER FIFTY,NUMERIC INDICATOR"⟩,
    ⟨0x10a80, "OLD NORTH ARABIAN LETTER ", "HEH,LAM,HAH,MEEM,QAF,WAW"⟩,
    ⟨0x10a86, "OLD NORTH ARABIAN LETTER ", "ES-2,REH,BEH,TEH,ES-1,KAF,NOON,KHAH,SAD,ES-3,FEH,ALEF"⟩,
    ⟨0x10a92, "OLD NORTH ARABIAN LETTER ", "AIN,DAD,GEEM,DAL,GHAIN,TAH,ZAIN,THAL,YEH,THEH,ZAH"⟩,
    ⟨0x10a9d, "OLD NORTH ARABIAN NUMBER ", "ONE,TEN,TWENTY"⟩,
    ⟨0x10ac0, "MANICHAEAN LETTER ", "ALEPH,BETH,BHETH,GIMEL,GHIMEL,DALETH,HE,WAW"⟩,
    ⟨0x10ac8, "", "MANICHAEAN SIGN UD"⟩,
    ⟨0x10ac9, "MANICHAEAN LETTER ", "ZAYIN,ZHAYIN,JAYIN,JHAYIN,HETH,TETH"⟩,
    ⟨0x10acf, "MANICHAEAN LETTER ", "YODH,KAPH,XAPH,KHAPH,LAMEDH,DHAMEDH,THAMEDH,MEM,NUN,SAMEKH"⟩,
    ⟨0x10ad9, "MANICHAEAN LETTER ", "AYIN,AAYIN,PE,FE,SADHE,QOPH,XOPH,QHOPH,RESH,SHIN,SSHIN,TAW"⟩,
    ⟨0x10ae5, "MANICHAEAN ABBREVIATION MARK ", "ABOVE,BELOW"⟩,
    ⟨0x10aeb, "MANICHAEAN NUMBER ", "ONE,FIVE,TEN,TWENTY,ONE HUNDRED"⟩,
    ⟨0x10af0, "MANICHAEAN PUNCTUATION ", "STAR,FLEURON,DOUBLE DOT WITHIN DOT"⟩,
    ⟨0x10af3, "MANICHAEAN PUNCTUATION ", "DOT WITHIN DOT,DOT,TWO DOTS,LINE FILLER"⟩,
    ⟨0x10b00, "AVESTAN LETTER ", "A,AA,AO,AAO,AN,AAN,AE,AEE,E,EE,O,OO,I,II,U,UU,KE,XE,XYE,XVE"⟩,
    ⟨0x10b14, "AVESTAN LETTER ", "GE,GGE,GHE,CE,JE,TE,THE,DE,DHE,TTE,PE,FE,BE,BHE,NGE,NGYE,NGVE"⟩,
    ⟨0x10b25, "AVESTAN LETTER ", "NE,NYE,NNE,ME,HME,YYE,YE,VE,RE,LE,SE,ZE,SHE,ZHE,SHYE,SSHE,HE"⟩,
    ⟨0x10b39, "", "AVESTAN ABBREVIATION MARK"⟩,
    ⟨0x10b3a, "", "TINY TWO DOTS OVER ONE DOT PUNCTUATION,SMALL TWO DOTS OVER ONE DOT PUNCTUATION"⟩,
    ⟨0x10b3c, "LARGE ", "TWO DOTS OVER ONE DOT PUNCTUATION,ONE DOT OVER TWO DOTS PUNCTUATION"⟩,
    ⟨0x10b3e, "LARGE ", "TWO RINGS OVER ONE RING PUNCTUATION,ONE RING OVER TWO RINGS PUNCTUATION"⟩,
    ⟨0x10b40, "INSCRIPTIONAL PARTHIAN LETTER ", "ALEPH,BETH,GIMEL"⟩,
    ⟨0x10b43, "INSCRIPTIONAL PARTHIAN LETTER ", "DALETH,HE,WAW,ZAYIN,HETH,TETH,YODH,KAPH,LAMEDH"⟩,
    ⟨0x10b4c, "INSCRIPTIONAL PARTHIAN LETTER ", "MEM,NUN,SAMEKH,AYIN,PE,SADHE,QOPH,RESH,SHIN,TAW"⟩,
    ⟨0x10b58, "INSCRIPTIONAL PARTHIAN NUMBER ", "ONE,TWO,THREE,FOUR,TEN,TWENTY"⟩,
    ⟨0x10b5e, "INSCRIPTIONAL PARTHIAN NUMBER ONE ", "HUNDRED,THOUSAND"⟩,
    ⟨0x10b60, "INSCRIPTIONAL PAHLAVI LETTER ", "ALEPH,BETH,GIMEL"⟩,
    ⟨0x10b63, "INSCRIPTIONAL PAHLAVI LETTER ", "DALETH,HE,WAW-AYIN-RESH,ZAYIN,HETH,TETH,YODH"⟩,
    ⟨0x10b6a, "INSCRIPTIONAL PAHLAVI LETTER ", "KAPH,LAMEDH,MEM-QOPH,NUN,SAMEKH,PE,SADHE,SHIN,TAW"⟩,
    ⟨0x10b78, "INSCRIPTIONAL PAHLAVI NUMBER ", "ONE,TWO,THREE,FOUR,TEN,TWENTY"⟩,
    ⟨0x10b7e, "INSCRIPTIONAL PAHLAVI NUMBER ONE ", "HUNDRED,THOUSAND"⟩,
    ⟨0x10b80, "PSALTER PAHLAVI LETTER ", "ALEPH,BETH,GIMEL,DALETH,HE,WAW-AYIN-RESH,ZAYIN,HETH"⟩,
    ⟨0x10b88, "PSALTER PAHLAVI LETTER ", "YODH,KAPH,LAMEDH,MEM-QOPH,NUN,SAMEKH,PE,SADHE,SHIN,TAW"⟩,
    ⟨0x10b99, "PSALTER PAHLAVI ", "SECTION MARK,TURNED SECTION MARK"⟩,
    ⟨0x10b9b, "PSALTER PAHLAVI FOUR DOTS WITH ", "CROSS,DOT"⟩,
    ⟨0x10ba9, "PSALTER PAHLAVI NUMBER ", "ONE,TWO,THREE,FOUR,TEN,TWENTY,ONE HUNDRED"⟩,
    ⟨0x10c00, "OLD TURKIC LETTER ", "ORKHON A,YENISEI A,YENISEI AE,ORKHON I,YENISEI I,YENISEI E"⟩,
    ⟨0x10c06, "OLD TURKIC LETTER ORKHON ", "O,OE"⟩,
    ⟨0x10c08, "OLD TURKIC LETTER ", "YENISEI OE,ORKHON AB,YENISEI AB,ORKHON AEB"⟩,
    ⟨0x10c0c, "OLD TURKIC LETTER ", "YENISEI AEB,ORKHON AG,YENISEI AG,ORKHON AEG,YENISEI AEG"⟩,
    ⟨0x10c11, "OLD TURKIC LETTER ", "ORKHON AD,YENISEI AD,ORKHON AED,ORKHON EZ,YENISEI EZ"⟩,
    ⟨0x10c16, "OLD TURKIC LETTER ", "ORKHON AY,YENISEI AY,ORKHON AEY,YENISEI AEY,ORKHON AEK"⟩,
    ⟨0x10c1b, "OLD TURKIC LETTER ", "YENISEI AEK,ORKHON OEK,YENISEI OEK,ORKHON AL,YENISEI AL"⟩,
    ⟨0x10c20, "OLD TURKIC LETTER ORKHON ", "AEL,ELT,EM,AN,AEN"⟩,
    ⟨0x10c25, "OLD TURKIC LETTER ", "YENISEI AEN,ORKHON ENT,YENISEI ENT,ORKHON ENC,YENISEI ENC"⟩,
    ⟨0x10c2a, "OLD TURKIC LETTER ", "ORKHON ENY,YENISEI ENY,YENISEI ANG,ORKHON ENG,YENISEI AENG"⟩,
    ⟨0x10c2f, "OLD TURKIC LETTER ", "ORKHON EP,ORKHON OP,ORKHON IC,ORKHON EC,YENISEI EC,ORKHON AQ"⟩,
    ⟨0x10c35, "OLD TURKIC LETTER ", "YENISEI AQ,ORKHON IQ,YENISEI IQ,ORKHON OQ,YENISEI OQ"⟩,
    ⟨0x10c3a, "OLD TURKIC LETTER ", "ORKHON AR,YENISEI AR,ORKHON AER,ORKHON AS,ORKHON AES"⟩,
    ⟨0x10c3f, "OLD TURKIC LETTER ", "ORKHON ASH,YENISEI ASH,ORKHON ESH,YENISEI ESH,ORKHON AT"⟩,
    ⟨0x10c44, "OLD TURKIC LETTER ", "YENISEI AT,ORKHON AET,YENISEI AET,ORKHON OT,ORKHON BASH"⟩,
    ⟨0x10c80, "OLD HUNGARIAN CAPITAL LETTER ", "A,AA,EB,AMB,EC,ENC,ECS,ED,AND,E,CLOSE E"⟩,
    ⟨0x10c8b, "OLD HUNGARIAN CAPITAL LETTER ", "EE,EF,EG,EGY,EH,I,II,EJ,EK,AK,UNK,EL,ELY,EM,EN"⟩,
    ⟨0x10c9a, "OLD HUNGARIAN CAPITAL LETTER ", "ENY,O,OO,NIKOLSBURG OE,RUDIMENTA OE,OEE,EP,EMP,ER"⟩,
    ⟨0x10ca3, "OLD HUNGARIAN CAPITAL LETTER ", "SHORT ER,ES,ESZ,ET,ENT,ETY,ECH,U,UU,NIKOLSBURG UE"⟩,
    ⟨0x10cad, "OLD HUNGARIAN CAPITAL LETTER ", "RUDIMENTA UE,EV,EZ,EZS,ENT-SHAPED SIGN,US"⟩,
    ⟨0x10cc0, "OLD HUNGARIAN SMALL LETTER ", "A,AA,EB,AMB,EC,ENC,ECS,ED,AND,E,CLOSE E"⟩,
    ⟨0x10ccb, "OLD HUNGARIAN SMALL LETTER ", "EE,EF,EG,EGY,EH,I,II,EJ,EK,AK,UNK,EL,ELY,EM,EN"⟩,
    ⟨0x10cda, "OLD HUNGARIAN SMALL LETTER ", "ENY,O,OO,NIKOLSBURG OE,RUDIMENTA OE,OEE,EP,EMP,ER"⟩,
    ⟨0x10ce3, "OLD HUNGARIAN SMALL LETTER ", "SHORT ER,ES,ESZ,ET,ENT,ETY,ECH,U,UU,NIKOLSBURG UE"⟩,
    ⟨0x10ced, "OLD HUNGARIAN SMALL LETTER ", "RUDIMENTA UE,EV,EZ,EZS,ENT-SHAPED SIGN,US"⟩,
    ⟨0x10cfa, "OLD HUNGARIAN NUMBER ", "ONE,FIVE,TEN,FIFTY,ONE HUNDRED,ONE THOUSAND"⟩,
    ⟨0x10d00, "HANIFI ROHINGYA LETTER ", "A,BA,PA,TA,TTA,JA,CA,HA,KHA,FA,DA,DDA,RA,RRA,ZA,SA"⟩,
    ⟨0x10d10, "HANIFI ROHINGYA LETTER ", "SHA,KA,GA,LA,MA,NA,WA,KINNA WA,YA,KINNA YA,NGA,NYA,VA"⟩,
    ⟨0x10d1d, "HANIFI ROHINGYA ", "VOWEL A,VOWEL I,VOWEL U,VOWEL E,VOWEL O,MARK SAKIN"⟩,
    ⟨0x10d23, "HANIFI ROHINGYA ", "MARK NA KHONNA,SIGN HARBAHAY,SIGN TAHALA,SIGN TANA,SIGN TASSI"⟩,
    ⟨0x10d30, "HANIFI ROHINGYA DIGIT ", "ZERO,ONE,TWO,THREE,FOUR,FIVE,SIX,SEVEN,EIGHT,NINE"⟩,
    ⟨0x10e60, "RUMI DIGIT ", "ONE,TWO,THREE,FOUR,FIVE,SIX,SEVEN,EIGHT,NINE"⟩,
    ⟨0x10e69, "RUMI NUMBER ", "TEN,TWENTY,THIRTY,FORTY,FIFTY,SIXTY,SEVENTY"⟩,
    ⟨0x10e70, "RUMI NUMBER ", "EIGHTY,NINETY,ONE HUNDRED,TWO HUNDRED,THREE HUNDRED,FOUR HUNDRED"⟩,
    ⟨0x10e76, "RUMI NUMBER ", "FIVE HUNDRED,SIX HUNDRED,SEVEN HUNDRED,EIGHT HUNDRED,NINE HUNDRED"⟩,
    ⟨0x10e7b, "RUMI FRACTION ", "ONE HALF,ONE QUARTER,ONE THIRD,TWO THIRDS"⟩,
    ⟨0x10e80, "YEZIDI LETTER ", "ELIF,BE,PE,PHE,THE,SE,CIM,CHIM,CHHIM,HHA,XA,DAL,ZAL,RA,RHA"⟩,
    ⟨0x10e8f, "YEZIDI LETTER ", "ZA,JA,SIN,SHIN,SAD,DAD,TA,ZE,EYN,XHEYN,FA,VA,VA ALTERNATE FORM"⟩,
    ⟨0x10e9c, "YEZIDI LETTER ", "QAF,KAF,KHAF,GAF,LAM,MIM,NUN,UM,WAW,OW,EW,HAY,YOT,ET"⟩,
    ⟨0x10eab, "YEZIDI ", "COMBINING HAMZA MARK,COMBINING MADDA MARK,HYPHENATION MARK"⟩,
    ⟨0x10eb0, "YEZIDI LETTER ", "LAM WITH DOT ABOVE,YOT WITH CIRCUMFLEX ABOVE"⟩,
    ⟨0x10f00, "OLD SOGDIAN LETTER ", "ALEPH,FINAL ALEPH,BETH,FINAL BETH"⟩,
    ⟨0x10f04, "OLD SOGDIAN LETTER ", "GIMEL,HE,FINAL HE,WAW,ZAYIN,HETH,YODH,KAPH,LAMEDH,MEM,NUN"⟩,
    ⟨0x10f0f, "OLD SOGDIAN LETTER FINAL ", "NUN,NUN WITH VERTICAL TAIL"⟩,
    ⟨0x10f11, "OLD SOGDIAN LETTER ", "SAMEKH,AYIN,ALTERNATE AYIN,PE,SADHE,FINAL SADHE"⟩,
    ⟨0x10f17, "OLD SOGDIAN LETTER ", "FINAL SADHE WITH VERTICAL TAIL,RESH-AYIN-DALETH,SHIN,TAW"⟩,
    ⟨0x10f1b, "OLD SOGDIAN LETTER FINAL ", "TAW,TAW WITH VERTICAL TAIL"⟩,
    ⟨0x10f1d, "OLD SOGDIAN NUMBER ", "ONE,TWO,THREE,FOUR,FIVE,TEN,TWENTY,THIRTY,ONE HUNDRED"⟩,
    ⟨0x10f26, "OLD SOGDIAN ", "FRACTION ONE HALF,LIGATURE AYIN-DALETH"⟩,
    ⟨0x10f30, "SOGDIAN LETTER ", "ALEPH,BETH,GIMEL,HE,WAW,ZAYIN,HETH,YODH,KAPH,LAMEDH"⟩,
    ⟨0x10f3a, "SOGDIAN LETTER ", "MEM,NUN,SAMEKH,AYIN,PE,SADHE,RESH-AYIN,SHIN,TAW,FETH,LESH"⟩,
    ⟨0x10f45, "SOGDIAN ", "INDEPENDENT SHIN,COMBINING DOT BELOW,COMBINING TWO DOTS BELOW"⟩,
    ⟨0x10f48, "SOGDIAN COMBINING ", "DOT ABOVE,TWO DOTS ABOVE,CURVE ABOVE,CURVE BELOW,HOOK ABOVE"⟩,
    ⟨0x10f4d, "SOGDIAN COMBINING ", "HOOK BELOW,LONG HOOK BELOW,RESH BELOW,STROKE BELOW"⟩,
    ⟨0x10f51, "SOGDIAN NUMBER ", "ONE,TEN,TWENTY,ONE HUNDRED"⟩,
    ⟨0x10f55, "SOGDIAN PUNCTUATION TWO VERTICAL ", "BARS,BARS WITH DOTS"⟩,
    ⟨0x10f57, "SOGDIAN PUNCTUATION ", "CIRCLE WITH DOT,TWO CIRCLES WITH DOTS,HALF CIRCLE WITH DOT"⟩,
    ⟨0x10f70, "OLD UYGHUR LETTER ", "ALEPH,BETH,GIMEL-HETH,WAW,ZAYIN,FINAL HETH"⟩,
    ⟨0x10f76, "OLD UYGHUR LETTER ", "YODH,KAPH,LAMEDH,MEM,NUN,SAMEKH,PE,SADHE,RESH,SHIN,TAW,LESH"⟩,
    ⟨0x10f82, "OLD UYGHUR COMBINING ", "DOT ABOVE,DOT BELOW,TWO DOTS ABOVE,TWO DOTS BELOW"⟩,
    ⟨0x10f86, "OLD UYGHUR PUNCTUATION ", "BAR,TWO BARS,TWO DOTS,FOUR DOTS"⟩,
    ⟨0x10fb0, "CHORASMIAN LETTER ", "ALEPH,SMALL ALEPH,BETH,GIMEL,DALETH,HE,WAW,CURLED WAW,ZAYIN"⟩,
    ⟨0x10fb9, "CHORASMIAN LETTER ", "HETH,YODH,KAPH,LAMEDH,MEM,NUN,SAMEKH,AYIN,PE,RESH,SHIN,TAW"⟩,
    ⟨0x10fc5, "CHORASMIAN NUMBER ", "ONE,TWO,THREE,FOUR,TEN,TWENTY,ONE HUNDRED"⟩,
    ⟨0x10fe0, "ELYMAIC LETTER ", "ALEPH,BETH,GIMEL,DALETH,HE,WAW,ZAYIN,HETH,TETH,YODH"⟩,
    ⟨0x10fea, "ELYMAIC LETTER ", "KAPH,LAMEDH,MEM,NUN,SAMEKH,AYIN,PE,SADHE,QOPH,RESH,SHIN,TAW"⟩,
    ⟨0x10ff6, "", "ELYMAIC LIGATURE ZAYIN-YODH"⟩,
    ⟨0x11000, "BRAHMI SIGN ", "CANDRABINDU,ANUSVARA,VISARGA,JIHVAMULIYA,UPADHMANIYA"⟩,
    ⟨0x11005, "BRAHMI LETTER ", "A,AA,I,II,U,UU,VOCALIC R,VOCALIC RR,VOCALIC L,VOCALIC LL,E,AI"⟩,
    ⟨0x11011, "BRAHMI LETTER ", "O,AU,KA,KHA,GA,GHA,NGA,CA,CHA,JA,JHA,NYA,TTA,TTHA,DDA,DDHA,NNA"⟩,
    ⟨0x11022, "BRAHMI LETTER ", "TA,THA,DA,DHA,NA,PA,PHA,BA,BHA,MA,YA,RA,LA,VA,SHA,SSA,SA,HA,LLA"⟩,
    ⟨0x11035, "BRAHMI LETTER OLD TAMIL ", "LLLA,RRA,NNNA"⟩,
    ⟨0x11038, "BRAHMI VOWEL SIGN ", "AA,BHATTIPROLU AA,I"⟩,
    ⟨0x1103b, "BRAHMI VOWEL SIGN ", "II,U,UU,VOCALIC R,VOCALIC RR,VOCALIC L,VOCALIC LL,E,AI,O,AU"⟩,
    ⟨0x11046, "BRAHMI ", "VIRAMA,DANDA,DOUBLE DANDA"⟩,
    ⟨0x11049, "BRAHMI PUNCTUATION ", "DOT,DOUBLE DOT,LINE,CRESCENT BAR,LOTUS"⟩,
    ⟨0x11052, "BRAHMI NUMBER ", "ONE,TWO,THREE,FOUR,FIVE,SIX,SEVEN,EIGHT,NINE,TEN,TWENTY,THIRTY"⟩,
    ⟨0x1105e, "BRAHMI NUMBER ", "FORTY,FIFTY,SIXTY,SEVENTY,EIGHTY,NINETY,ONE HUNDRED,ONE THOUSAND"⟩,
    ⟨0x11066, "BRAHMI DIGIT ", "ZERO,ONE,TWO,THREE,FOUR,FIVE,SIX,SEVEN,EIGHT,NINE"⟩,
    ⟨0x11070, "BRAHMI ", "SIGN OLD TAMIL VIRAMA,LETTER OLD TAMIL SHORT E,LETTER OLD TAMIL SHORT O"⟩,
    ⟨0x11073, "BRAHMI VOWEL SIGN OLD TAMIL SHORT ", "E,O"⟩,
    ⟨0x11075, "", "BRAHMI LETTER OLD TAMIL LLA"⟩,
    ⟨0x1107f, "", "BRAHMI NUMBER JOINER"⟩,
    ⟨0x11080, "KAITHI SIGN ", "CANDRABINDU,ANUSVARA,VISARGA"⟩,
    ⟨0x11083, "KAITHI LETTER ", "A,AA,I,II,U,UU,E,AI,O,AU"⟩,
    ⟨0x1108d, "KAITHI LETTER ", "KA,KHA,GA,GHA,NGA,CA,CHA,JA,JHA,NYA,TTA,TTHA,DDA,DDDHA,DDHA,RHA"⟩,
    ⟨0x1109d, "KAITHI LETTER ", "NNA,TA,THA,DA,DHA,NA,PA,PHA,BA,BHA,MA,YA,RA,LA,VA,SHA,SSA,SA,HA"⟩,
    ⟨0x110b0, "KAITHI VOWEL SIGN ", "AA,I,II,U,UU,E,AI,O,AU"⟩,
    ⟨0x110b9, "KAITHI SIGN ", "VIRAMA,NUKTA"⟩,
    ⟨0x110bb, "KAITHI ", "ABBREVIATION SIGN,ENUMERATION SIGN,NUMBER SIGN,SECTION MARK"⟩,
    ⟨0x110bf, "KAITHI ", "DOUBLE SECTION MARK,DANDA,DOUBLE DANDA,VOWEL SIGN VOCALIC R"⟩,
    ⟨0x110cd, "", "KAITHI NUMBER SIGN ABOVE"⟩,
    ⟨0x110d0, "SORA SOMPENG LETTER ", "SAH,TAH,BAH,CAH,DAH,GAH,MAH,NGAH,LAH,NAH"⟩,
    ⟨0x110da, "SORA SOMPENG LETTER ", "VAH,PAH,YAH,RAH,HAH,KAH,JAH,NYAH,AH,EEH,IH,UH,OH,EH,MAE"⟩,
    ⟨0x110f0, "SORA SOMPENG DIGIT ", "ZERO,ONE,TWO,THREE,FOUR,FIVE,SIX,SEVEN,EIGHT,NINE"⟩,
    ⟨0x11100, "CHAKMA SIGN ", "CANDRABINDU,ANUSVARA,VISARGA"⟩,
    ⟨0x11103, "CHAKMA LETTER ", "AA,I,U,E,KAA,KHAA,GAA,GHAA"⟩,
    ⟨0x1110b, "CHAKMA LETTER ", "NGAA,CAA,CHAA,JAA,JHAA,NYAA,TTAA,TTHAA,DDAA,DDHAA,NNAA,TAA,THAA"⟩,
    ⟨0x11118, "CHAKMA LETTER ", "DAA,DHAA,NAA,PAA,PHAA,BAA,BHAA,MAA,YYAA,YAA,RAA,LAA,WAA,SAA,HAA"⟩,
    ⟨0x11127, "CHAKMA VOWEL SIGN ", "A,I,II,U,UU,E,AI,O,AU,OI"⟩,
    ⟨0x11131, "CHAKMA ", "O MARK,AU MARK,VIRAMA,MAAYYAA"⟩,
    ⟨0x11136, "CHAKMA DIGIT ", "ZERO,ONE,TWO,THREE,FOUR,FIVE,SIX,SEVEN,EIGHT,NINE"⟩,
    ⟨0x11140, "CHAKMA ", "SECTION MARK,DANDA,DOUBLE DANDA"⟩,
    ⟨0x11143, "CHAKMA ", "QUESTION MARK,LETTER LHAA,VOWEL SIGN AA,VOWEL SIGN EI,LETTER VAA"⟩,
    ⟨0x11150, "MAHAJANI LETTER ", "A,I,U,E,O,KA,KHA,GA,GHA,CA,CHA,JA,JHA,NYA,TTA,TTHA,DDA"⟩,
    ⟨0x11161, "MAHAJANI LETTER ", "DDHA,NNA,TA,THA,DA,DHA,NA,PA,PHA,BA,BHA,MA,RA,LA,VA,SA,HA,RRA"⟩,
    ⟨0x11173, "MAHAJANI ", "SIGN NUKTA,ABBREVIATION SIGN,SECTION MARK,LIGATURE SHRI"⟩,
    ⟨0x11180, "SHARADA SIGN ", "CANDRABINDU,ANUSVARA,VISARGA"⟩,
    ⟨0x11183, "SHARADA LETTER ", "A,AA,I,II,U,UU,VOCALIC R,VOCALIC RR,VOCALIC L,VOCALIC LL,E,AI"⟩,
    ⟨0x1118f, "SHARADA LETTER ", "O,AU,KA,KHA,GA,GHA,NGA,CA,CHA,JA,JHA,NYA,TTA,TTHA,DDA,DDHA,NNA"⟩,
    ⟨0x111a0, "SHARADA LETTER ", "TA,THA,DA,DHA,NA,PA,PHA,BA,BHA,MA,YA,RA,LA,LLA,VA,SHA,SSA,SA,HA"⟩,
    ⟨0x111b3, "SHARADA VOWEL SIGN ", "AA,I,II,U,UU,VOCALIC R,VOCALIC RR,VOCALIC L,VOCALIC LL,E,AI"⟩,
    ⟨0x111be, "SHARADA ", "VOWEL SIGN O,VOWEL SIGN AU,SIGN VIRAMA,SIGN AVAGRAHA,SIGN JIHVAMULIYA"⟩,
    ⟨0x111c3, "SHARADA ", "SIGN UPADHMANIYA,OM,DANDA,DOUBLE DANDA,ABBREVIATION SIGN,SEPARATOR"⟩,
    ⟨0x111c9, "SHARADA ", "SANDHI MARK,SIGN NUKTA,VOWEL MODIFIER MARK,EXTRA SHORT VOWEL MARK"⟩,
    ⟨0x111cd, "SHARADA ", "SUTRA MARK,VOWEL SIGN PRISHTHAMATRA E,SIGN INVERTED CANDRABINDU"⟩,
    ⟨0x111d0, "SHARADA DIGIT ", "ZERO,ONE,TWO,THREE,FOUR,FIVE,SIX,SEVEN,EIGHT,NINE"⟩,
    ⟨0x111da, "SHARADA ", "EKAM,SIGN SIDDHAM,HEADSTROKE,CONTINUATION SIGN"⟩,
    ⟨0x111de, "SHARADA SECTION MARK-", "1,2"⟩,
    ⟨0x111e1, "SINHALA ARCHAIC DIGIT ", "ONE,TWO,THREE,FOUR,FIVE,SIX,SEVEN,EIGHT,NINE"⟩,
    ⟨0x111ea, "SINHALA ARCHAIC NUMBER ", "TEN,TWENTY,THIRTY,FORTY,FIFTY"⟩,
    ⟨0x111ef, "SINHALA ARCHAIC NUMBER ", "SIXTY,SEVENTY,EIGHTY,NINETY,ONE HUNDRED,ONE THOUSAND"⟩,
    ⟨0x11200, "KHOJKI LETTER ", "A,AA,I,U,E,AI,O,AU,KA,KHA,GA,GGA,GHA,NGA,CA,CHA,JA,JJA"⟩,
    ⟨0x11213, "KHOJKI LETTER ", "NYA,TTA,TTHA,DDA,DDHA,NNA"⟩,
    ⟨0x11219, "KHOJKI LETTER ", "TA,THA,DA,DDDA,DHA,NA,PA,PHA,BA,BBA,BHA,MA,YA,RA,LA,VA,SA,HA,LLA"⟩,
    ⟨0x1122c, "KHOJKI VOWEL SIGN ", "AA,I,II,U,E,AI,O,AU"⟩,
    ⟨0x11234, "KHOJKI SIGN ", "ANUSVARA,VIRAMA,NUKTA,SHADDA"⟩,
    ⟨0x11238, "KHOJKI ", "DANDA,DOUBLE DANDA,WORD SEPARATOR"⟩,
    ⟨0x1123b, "KHOJKI ", "SECTION MARK,DOUBLE SECTION MARK,ABBREVIATION SIGN,SIGN SUKUN"⟩,
    ⟨0x11280, "MULTANI LETTER ", "A,I,U,E,KA,KHA,GA,,GHA,,CA,CHA,JA,JJA,,NYA,TTA,TTHA,DDA,DDDA"⟩,
    ⟨0x11294, "MULTANI LETTER ", "DDHA,NNA,TA,THA,DA,DHA,NA,PA,PHA,BA,,BHA,MA,YA,RA,LA,VA,SA,HA"⟩,
    ⟨0x112a7, "MULTANI ", "LETTER RRA,LETTER RHA,SECTION MARK"⟩,
    ⟨0x112b0, "KHUDAWADI LETTER ", "A,AA,I,II,U,UU,E,AI,O,AU,KA,KHA,GA,GGA"⟩,
    ⟨0x112be, "KHUDAWADI LETTER ", "GHA,NGA,CA,CHA,JA,JJA,JHA,NYA,TTA,TTHA,DDA,DDDA,RRA,DDHA,NNA"⟩,
    ⟨0x112cd, "KHUDAWADI LETTER ", "TA,THA,DA,DHA,NA,PA,PHA,BA,BBA,BHA,MA,YA,RA,LA,VA,SHA,SA,HA"⟩,
    ⟨0x112df, "", "KHUDAWADI SIGN ANUSVARA"⟩,
    ⟨0x112e0, "KHUDAWADI VOWEL SIGN ", "AA,I,II,U,UU,E,AI,O,AU"⟩,
    ⟨0x112e9, "KHUDAWADI SIGN ", "NUKTA,VIRAMA"⟩,
    ⟨0x112f0, "KHUDAWADI DIGIT ", "ZERO,ONE,TWO,THREE,FOUR,FIVE,SIX,SEVEN,EIGHT,NINE"⟩,
    ⟨0x11300, "GRANTHA SIGN ", "COMBINING ANUSVARA ABOVE,CANDRABINDU,ANUSVARA,VISARGA"⟩,
    ⟨0x11305, "GRANTHA LETTER ", "A,AA,I,II,U,UU,VOCALIC R,VOCALIC L,,,EE,AI,,,OO"⟩,
    ⟨0x11314, "GRANTHA LETTER ", "AU,KA,KHA,GA,GHA,NGA,CA,CHA,JA,JHA,NYA,TTA,TTHA,DDA,DDHA,NNA,TA"⟩,
    ⟨0x11325, "GRANTHA LETTER ", "THA,DA,DHA,NA,,PA,PHA,BA,BHA,MA,YA,RA,,LA,LLA,,VA,SHA,SSA,SA,HA"⟩,
    ⟨0x1133b, "", "COMBINING BINDU BELOW,GRANTHA SIGN NUKTA,GRANTHA SIGN AVAGRAHA"⟩,
    ⟨0x1133e, "GRANTHA VOWEL SIGN ", "AA,I,II,U,UU,VOCALIC R,VOCALIC RR,,,EE,AI,,,OO,AU"⟩,
    ⟨0x1134d, "GRANTHA ", "SIGN VIRAMA,,,OM,,,,,,,AU LENGTH MARK,,,,,,SIGN PLUTA"⟩,
    ⟨0x1135e, "GRANTHA LETTER ", "VEDIC ANUSVARA,VEDIC DOUBLE ANUSVARA,VOCALIC RR,VOCALIC LL"⟩,
    ⟨0x11362, "GRANTHA VOWEL SIGN VOCALIC ", "L,LL"⟩,
    ⟨0x11366, "COMBINING GRANTHA DIGIT ", "ZERO,ONE,TWO,THREE,FOUR,FIVE,SIX"⟩,
    ⟨0x11370, "COMBINING GRANTHA LETTER ", "A,KA,NA,VI,PA"⟩,
    ⟨0x11400, "NEWA LETTER ", "A,AA,I,II,U,UU,VOCALIC R,VOCALIC RR,VOCALIC L,VOCALIC LL,E,AI,O"⟩,
    ⟨0x1140d, "NEWA LETTER ", "AU,KA,KHA,GA,GHA,NGA,NGHA,CA,CHA,JA,JHA,NYA,NYHA,TTA,TTHA,DDA,DDHA"⟩,
    ⟨0x1141e, "NEWA LETTER ", "NNA,TA,THA,DA,DHA,NA,NHA,PA,PHA,BA,BHA,MA,MHA,YA,RA,RHA,LA,LHA,WA"⟩,
    ⟨0x11431, "NEWA ", "LETTER SHA,LETTER SSA,LETTER SA,LETTER HA,VOWEL SIGN AA"⟩,
    ⟨0x11436, "NEWA VOWEL SIGN ", "I,II,U,UU,VOCALIC R,VOCALIC RR,VOCALIC L,VOCALIC LL,E,AI,O,AU"⟩,
    ⟨0x11442, "NEWA SIGN ", "VIRAMA,CANDRABINDU,ANUSVARA,VISARGA,NUKTA,AVAGRAHA,FINAL ANUSVARA"⟩,
    ⟨0x11449, "NEWA ", "OM,SIDDHI,DANDA,DOUBLE DANDA,COMMA,GAP FILLER,ABBREVIATION SIGN"⟩,
    ⟨0x11450, "NEWA DIGIT ", "ZERO,ONE,TWO,THREE,FOUR,FIVE,SIX,SEVEN,EIGHT,NINE"⟩,
    ⟨0x1145a, "NEWA ", "DOUBLE COMMA,PLACEHOLDER MARK,,INSERTION SIGN"⟩,
    ⟨0x1145e, "NEWA ", "SANDHI MARK,LETTER VEDIC ANUSVARA,SIGN JIHVAMULIYA,SIGN UPADHMANIYA"⟩,
    ⟨0x11480, "", "TIRHUTA ANJI"⟩,
    ⟨0x11481, "TIRHUTA LETTER ", "A,AA,I,II,U,UU,VOCALIC R,VOCALIC RR,VOCALIC L,VOCALIC LL"⟩,
    ⟨0x1148b, "TIRHUTA LETTER ", "E,AI,O,AU,KA,KHA,GA,GHA,NGA,CA,CHA,JA,JHA,NYA,TTA,TTHA,DDA,DDHA"⟩,
    ⟨0x1149d, "TIRHUTA LETTER ", "NNA,TA,THA,DA,DHA,NA,PA,PHA,BA,BHA,MA,YA,RA,LA,VA,SHA,SSA,SA,HA"⟩,
    ⟨0x114b0, "TIRHUTA VOWEL SIGN ", "AA,I,II,U,UU,VOCALIC R"⟩,
    ⟨0x114b6, "TIRHUTA VOWEL SIGN ", "VOCALIC RR,VOCALIC L,VOCALIC LL,E,SHORT E,AI,O,SHORT O,AU"⟩,
    ⟨0x114bf, "TIRHUTA SIGN ", "CANDRABINDU,ANUSVARA,VISARGA,VIRAMA,NUKTA,AVAGRAHA"⟩,
    ⟨0x114c5, "TIRHUTA ", "GVANG,ABBREVIATION SIGN,OM"⟩,
    ⟨0x114d0, "TIRHUTA DIGIT ", "ZERO,ONE,TWO,THREE,FOUR,FIVE,SIX,SEVEN,EIGHT,NINE"⟩,
    ⟨0x11580, "SIDDHAM LETTER ", "A,AA,I,II,U,UU,VOCALIC R,VOCALIC RR,VOCALIC L,VOCALIC LL"⟩,
    ⟨0x1158a, "SIDDHAM LETTER ", "E,AI,O,AU,KA,KHA,GA,GHA,NGA,CA,CHA,JA,JHA,NYA,TTA,TTHA,DDA,DDHA"⟩,
    ⟨0x1159c, "SIDDHAM LETTER ", "NNA,TA,THA,DA,DHA,NA,PA,PHA,BA,BHA,MA,YA,RA,LA,VA,SHA,SSA,SA,HA"⟩,
    ⟨0x115af, "SIDDHAM VOWEL SIGN ", "AA,I,II,U,UU,VOCALIC R,VOCALIC RR,,,E,AI,O,AU"⟩,
    ⟨0x115bc, "SIDDHAM SIGN ", "CANDRABINDU,ANUSVARA,VISARGA,VIRAMA,NUKTA,SIDDHAM"⟩,
    ⟨0x115c2, "SIDDHAM ", "DANDA,DOUBLE DANDA,SEPARATOR DOT,SEPARATOR BAR"⟩,
    ⟨0x115c6, "SIDDHAM ", "REPETITION MARK-1,REPETITION MARK-2,REPETITION MARK-3,END OF TEXT MARK"⟩,
    ⟨0x115ca, "SIDDHAM SECTION MARK WITH TRIDENT AND ", "U-SHAPED ORNAMENTS,DOTTED CRESCENTS"⟩,
    ⟨0x115cc, "", "SIDDHAM SECTION MARK WITH RAYS AND DOTTED CRESCENTS"⟩,
    ⟨0x115cd, "SIDDHAM SECTION MARK WITH RAYS AND DOTTED ", "DOUBLE CRESCENTS,TRIPLE CRESCENTS"⟩,
    ⟨0x115cf, "SIDDHAM SECTION MARK DOUBLE ", "RING,RING WITH RAYS"⟩,
    ⟨0x115d1, "SIDDHAM SECTION MARK WITH ", "DOUBLE CRESCENTS,TRIPLE CRESCENTS"⟩,
    ⟨0x115d3, "SIDDHAM SECTION MARK WITH ", "QUADRUPLE CRESCENTS,SEPTUPLE CRESCENTS"⟩,
    ⟨0x115d5, "SIDDHAM SECTION MARK WITH CIRCLES AND ", "RAYS,TWO ENCLOSURES,FOUR ENCLOSURES"⟩,
    ⟨0x115d8, "", "SIDDHAM LETTER THREE-CIRCLE ALTERNATE I"⟩,
    ⟨0x115d9, "SIDDHAM LETTER ", "TWO-CIRCLE ALTERNATE I,TWO-CIRCLE ALTERNATE II,ALTERNATE U"⟩,
    ⟨0x115dc, "SIDDHAM VOWEL SIGN ALTERNATE ", "U,UU"⟩,
    ⟨0x11600, "MODI LETTER ", "A,AA,I,II,U,UU,VOCALIC R,VOCALIC RR,VOCALIC L,VOCALIC LL,E"⟩,
    ⟨0x1160b, "MODI LETTER ", "AI,O,AU,KA,KHA,GA,GHA,NGA,CA,CHA,JA,JHA,NYA,TTA,TTHA,DDA,DDHA,NNA"⟩,
    ⟨0x1161d, "MODI LETTER ", "TA,THA,DA,DHA,NA,PA,PHA,BA,BHA,MA,YA,RA,LA,VA,SHA,SSA,SA,HA,LLA"⟩,
    ⟨0x11630, "MODI VOWEL SIGN ", "AA,I,II,U,UU,VOCALIC R,VOCALIC RR,VOCALIC L,VOCALIC LL,E,AI,O"⟩,
    ⟨0x1163c, "MODI ", "VOWEL SIGN AU,SIGN ANUSVARA,SIGN VISARGA,SIGN VIRAMA"⟩,
    ⟨0x11640, "MODI ", "SIGN ARDHACANDRA,DANDA,DOUBLE DANDA,ABBREVIATION SIGN,SIGN HUVA"⟩,
    ⟨0x11650, "MODI DIGIT ", "ZERO,ONE,TWO,THREE,FOUR,FIVE,SIX,SEVEN,EIGHT,NINE"⟩,
    ⟨0x11660, "MONGOLIAN ", "BIRGA WITH ORNAMENT,ROTATED BIRGA,DOUBLE BIRGA WITH ORNAMENT"⟩,
    ⟨0x11663, "MONGOLIAN ", "TRIPLE BIRGA WITH ORNAMENT,BIRGA WITH DOUBLE ORNAMENT"⟩,
    ⟨0x11665, "MONGOLIAN ROTATED BIRGA WITH ", "ORNAMENT,DOUBLE ORNAMENT"⟩,
    ⟨0x11667, "MONGOLIAN INVERTED ", "BIRGA,BIRGA WITH DOUBLE ORNAMENT"⟩,
    ⟨0x11669, "MONGOLIAN SWIRL ", "BIRGA,BIRGA WITH ORNAMENT,BIRGA WITH DOUBLE ORNAMENT"⟩,
    ⟨0x1166c, "", "MONGOLIAN TURNED SWIRL BIRGA WITH DOUBLE ORNAMENT"⟩,
    ⟨0x11680, "TAKRI LETTER ", "A,AA,I,II,U,UU,E,AI,O,AU,KA,KHA,GA,GHA,NGA,CA,CHA,JA,JHA,NYA,TTA"⟩,
    ⟨0x11695, "TAKRI LETTER ", "TTHA,DDA,DDHA,NNA,TA,THA,DA,DHA,NA,PA,PHA,BA,BHA,MA,YA,RA,LA,VA"⟩,
    ⟨0x116a7, "TAKRI ", "LETTER SHA,LETTER SA,LETTER HA,LETTER RRA,SIGN ANUSVARA,SIGN VISARGA"⟩,
    ⟨0x116ad, "TAKRI VOWEL SIGN ", "AA,I,II,U,UU,E,AI,O,AU"⟩,
    ⟨0x116b6, "TAKRI ", "SIGN VIRAMA,SIGN NUKTA,LETTER ARCHAIC KHA,ABBREVIATION SIGN"⟩,
    ⟨0x116c0, "TAKRI DIGIT ", "ZERO,ONE,TWO,THREE,FOUR,FIVE,SIX,SEVEN,EIGHT,NINE"⟩,
    ⟨0x11700, "AHOM LETTER ", "KA,KHA,NGA,NA,TA,ALTERNATE TA,PA,PHA,BA,MA,JA,CHA,THA"⟩,
    ⟨0x1170d, "AHOM LETTER ", "RA,LA,SA,NYA,HA,A,DA,DHA,GA,ALTERNATE GA,GHA,BHA,JHA,ALTERNATE BA"⟩,
    ⟨0x1171d, "AHOM CONSONANT SIGN MEDIAL ", "LA,RA,LIGATING RA"⟩,
    ⟨0x11720, "AHOM VOWEL SIGN ", "A,AA,I,II,U,UU,E,AW,O,AI,AM"⟩,
    ⟨0x1172b, "AHOM ", "SIGN KILLER,,,,,DIGIT ZERO,DIGIT ONE,DIGIT TWO,DIGIT THREE,DIGIT FOUR"⟩,
    ⟨0x11735, "AHOM ", "DIGIT FIVE,DIGIT SIX,DIGIT SEVEN,DIGIT EIGHT,DIGIT NINE,NUMBER TEN"⟩,
    ⟨0x1173b, "AHOM ", "NUMBER TWENTY,SIGN SMALL SECTION,SIGN SECTION,SIGN RULAI,SYMBOL VI"⟩,
    ⟨0x11740, "AHOM LETTER ", "CA,TTA,TTHA,DDA,DDHA,NNA,LLA"⟩,
    ⟨0x11800, "DOGRA LETTER ", "A,AA,I,II,U,UU,E"⟩,
    ⟨0x11807, "DOGRA LETTER ", "AI,O,AU,KA,KHA,GA,GHA,NGA,CA,CHA,JA,JHA,NYA,TTA,TTHA,DDA,DDHA,NNA"⟩,
    ⟨0x11819, "DOGRA LETTER ", "TA,THA,DA,DHA,NA,PA,PHA,BA,BHA,MA,YA,RA,LA,VA,SHA,SSA,SA,HA,RRA"⟩,
    ⟨0x1182c, "DOGRA VOWEL SIGN ", "AA,I,II,U,UU,VOCALIC R,VOCALIC RR,E,AI,O,AU"⟩,
    ⟨0x11837, "DOGRA ", "SIGN ANUSVARA,SIGN VISARGA,SIGN VIRAMA,SIGN NUKTA,ABBREVIATION SIGN"⟩,
    ⟨0x118a0, "WARANG CITI CAPITAL LETTER ", "NGAA,A,WI,YU,YA"⟩,
    ⟨0x118a5, "WARANG CITI CAPITAL LETTER ", "YO,II,UU,E,O,ANG,GA,KO,ENY,YUJ,UC,ENN,ODD,TTE,NUNG"⟩,
    ⟨0x118b4, "WARANG CITI CAPITAL LETTER ", "DA,AT,AM,BU,PU,HIYO,HOLO,HORR,HAR,SSUU,SII,VIYO"⟩,
    ⟨0x118c0, "WARANG CITI SMALL LETTER ", "NGAA,A,WI"⟩,
    ⟨0x118c3, "WARANG CITI SMALL LETTER ", "YU,YA,YO,II,UU,E,O,ANG,GA,KO,ENY,YUJ,UC,ENN,ODD,TTE"⟩,
    ⟨0x118d3, "WARANG CITI SMALL LETTER ", "NUNG,DA,AT,AM,BU,PU,HIYO,HOLO,HORR,HAR,SSUU,SII,VIYO"⟩,
    ⟨0x118e0, "WARANG CITI DIGIT ", "ZERO,ONE,TWO,THREE,FOUR,FIVE,SIX,SEVEN,EIGHT,NINE"⟩,
    ⟨0x118ea, "WARANG CITI NUMBER ", "TEN,TWENTY,THIRTY,FORTY,FIFTY,SIXTY,SEVENTY,EIGHTY,NINETY"⟩,
    ⟨0x118ff, "", "WARANG CITI OM"⟩,
    ⟨0x11900, "DIVES AKURU LETTER ", "A,AA,I,II,U,UU,E,,,O,,,KA,KHA,GA,GHA,NGA,CA,CHA,JA"⟩,
    ⟨0x11915, "DIVES AKURU LETTER ", "NYA,TTA,,DDA,DDHA,NNA,TA,THA,DA,DHA"⟩,
    ⟨0x1191f, "DIVES AKURU LETTER ", "NA,PA,PHA,BA,BHA,MA,YA,YYA,RA,LA,VA,SHA,SSA,SA,HA,LLA,ZA"⟩,
    ⟨0x11930, "DIVES AKURU VOWEL SIGN ", "AA,I,II,U,UU,E,,AI,O"⟩,
    ⟨0x1193b, "DIVES AKURU SIGN ", "ANUSVARA,CANDRABINDU,HALANTA"⟩,
    ⟨0x1193e, "DIVES AKURU ", "VIRAMA,PREFIXED NASAL SIGN,MEDIAL YA,INITIAL RA"⟩,
    ⟨0x11942, "DIVES AKURU ", "MEDIAL RA,SIGN NUKTA,DOUBLE DANDA,GAP FILLER,END OF TEXT MARK"⟩,
    ⟨0x11950, "DIVES AKURU DIGIT ", "ZERO,ONE,TWO,THREE,FOUR,FIVE,SIX,SEVEN,EIGHT,NINE"⟩,
    ⟨0x119a0, "NANDINAGARI LETTER ", "A,AA,I,II,U,UU,VOCALIC R,VOCALIC RR,,,E,AI,O,AU,KA,KHA,GA"⟩,
    ⟨0x119b1, "NANDINAGARI LETTER ", "GHA,NGA,CA,CHA,JA,JHA,NYA,TTA,TTHA,DDA,DDHA,NNA,TA,THA,DA"⟩,
    ⟨0x119c0, "NANDINAGARI LETTER ", "DHA,NA,PA,PHA,BA,BHA,MA,YA,RA,LA,VA,SHA,SSA,SA,HA,LLA,RRA"⟩,
    ⟨0x119d1, "NANDINAGARI VOWEL SIGN ", "AA,I,II,U,UU,VOCALIC R,VOCALIC RR,,,E,AI,O,AU"⟩,
    ⟨0x119de, "NANDINAGARI SIGN ", "ANUSVARA,VISARGA,VIRAMA,AVAGRAHA,SIDDHAM"⟩,
    ⟨0x119e3, "NANDINAGARI ", "HEADSTROKE,VOWEL SIGN PRISHTHAMATRA E"⟩,
    ⟨0x11a00, "", "ZANABAZAR SQUARE LETTER A"⟩,
    ⟨0x11a01, "ZANABAZAR SQUARE VOWEL SIGN ", "I,UE,U,E,OE,O,AI,AU,REVERSED I"⟩,
    ⟨0x11a0a, "", "ZANABAZAR SQUARE VOWEL LENGTH MARK"⟩,
    ⟨0x11a0b, "ZANABAZAR SQUARE LETTER ", "KA,KHA,GA,GHA,NGA,CA,CHA,JA,NYA,TTA,TTHA"⟩,
    ⟨0x11a16, "ZANABAZAR SQUARE LETTER ", "DDA,DDHA,NNA,TA,THA,DA,DHA,NA,PA,PHA,BA,BHA,MA,TSA"⟩,
    ⟨0x11a24, "ZANABAZAR SQUARE LETTER ", "TSHA,DZA,DZHA,ZHA,ZA,-A,YA,RA,LA,VA,SHA,SSA,SA,HA,KSSA"⟩,
    ⟨0x11a33, "ZANABAZAR SQUARE ", "FINAL CONSONANT MARK,SIGN VIRAMA,SIGN CANDRABINDU"⟩,
    ⟨0x11a36, "ZANABAZAR SQUARE SIGN ", "CANDRABINDU WITH ORNAMENT,CANDRA WITH ORNAMENT,ANUSVARA"⟩,
    ⟨0x11a39, "ZANABAZAR SQUARE ", "SIGN VISARGA,CLUSTER-INITIAL LETTER RA"⟩,
    ⟨0x11a3b, "ZANABAZAR SQUARE CLUSTER-FINAL LETTER ", "YA,RA,LA,VA"⟩,
    ⟨0x11a3f, "ZANABAZAR SQUARE ", "INITIAL HEAD MARK,CLOSING HEAD MARK"⟩,
    ⟨0x11a41, "ZANABAZAR SQUARE MARK ", "TSHEG,SHAD,DOUBLE SHAD,LONG TSHEG"⟩,
    ⟨0x11a45, "ZANABAZAR SQUARE ", "INITIAL DOUBLE-LINED HEAD MARK,CLOSING DOUBLE-LINED HEAD MARK"⟩,
    ⟨0x11a47, "", "ZANABAZAR SQUARE SUBJOINER,,,,,,,,,SOYOMBO LETTER A"⟩,
    ⟨0x11a51, "SOYOMBO VOWEL SIGN ", "I,UE,U,E,O,OE,AI,AU,VOCALIC R,VOCALIC L"⟩,
    ⟨0x11a5b, "SOYOMBO ", "VOWEL LENGTH MARK,LETTER KA,LETTER KHA,LETTER GA,LETTER GHA,LETTER NGA"⟩,
    ⟨0x11a61, "SOYOMBO LETTER ", "CA,CHA,JA,JHA,NYA,TTA,TTHA,DDA,DDHA,NNA,TA,THA,DA,DHA,NA,PA,PHA"⟩,
    ⟨0x11a72, "SOYOMBO LETTER ", "BA,BHA,MA,TSA,TSHA,DZA,ZHA,ZA,-A,YA,RA,LA,VA,SHA,SSA,SA,HA,KSSA"⟩,
    ⟨0x11a84, "SOYOMBO SIGN ", "JIHVAMULIYA,UPADHMANIYA"⟩,
    ⟨0x11a86, "SOYOMBO CLUSTER-INITIAL LETTER ", "RA,LA,SHA,SA"⟩,
    ⟨0x11a8a, "SOYOMBO FINAL CONSONANT SIGN ", "G,K,NG,D,N,B,M,R,L,SH,S,-A"⟩,
    ⟨0x11a96, "SOYOMBO ", "SIGN ANUSVARA,SIGN VISARGA,GEMINATION MARK,SUBJOINER"⟩,
    ⟨0x11a9a, "SOYOMBO MARK ", "TSHEG,SHAD,DOUBLE SHAD,PLUTA"⟩,
    ⟨0x11a9e, "SOYOMBO HEAD MARK WITH MOON AND ", "SUN AND TRIPLE FLAME,SUN AND FLAME,SUN"⟩,
    ⟨0x11aa1, "SOYOMBO TERMINAL MARK-", "1,2"⟩,
    ⟨0x11ab0, "CANADIAN SYLLABICS NATTILIK ", "HI,HII,HO,HOO,HA,HAA,SHRI,SHRII,SHRO,SHROO,SHRA"⟩,
    ⟨0x11abb, "CANADIAN SYLLABICS ", "NATTILIK SHRAA,SPE,SPI,SPO,SPA"⟩,
    ⟨0x11ac0, "PAU CIN HAU LETTER ", "PA,KA,LA,MA,DA,ZA,VA,NGA"⟩,
    ⟨0x11ac8, "PAU CIN HAU LETTER ", "HA,GA,KHA,SA,BA,CA,TA,THA,NA,PHA,RA,FA,CHA,A,E,I,O,U,UA,IA"⟩,
    ⟨0x11adc, "PAU CIN HAU LETTER FINAL ", "P,K,T,M,N,L,W,NG,Y"⟩,
    ⟨0x11ae5, "PAU CIN HAU ", "RISING TONE LONG,RISING TONE,SANDHI GLOTTAL STOP"⟩,
    ⟨0x11ae8, "PAU CIN HAU ", "RISING TONE LONG FINAL,RISING TONE FINAL,SANDHI GLOTTAL STOP FINAL"⟩,
    ⟨0x11aeb, "PAU CIN HAU SANDHI ", "TONE LONG,TONE,TONE LONG FINAL,TONE FINAL"⟩,
    ⟨0x11aef, "PAU CIN HAU ", "MID-LEVEL TONE,GLOTTAL STOP VARIANT,MID-LEVEL TONE LONG FINAL"⟩,
    ⟨0x11af2, "PAU CIN HAU ", "MID-LEVEL TONE FINAL,LOW-FALLING TONE LONG"⟩,
    ⟨0x11af4, "PAU CIN HAU ", "LOW-FALLING TONE,GLOTTAL STOP,LOW-FALLING TONE LONG FINAL"⟩,
    ⟨0x11af7, "PAU CIN HAU ", "LOW-FALLING TONE FINAL,GLOTTAL STOP FINAL"⟩,
    ⟨0x11c00, "BHAIKSUKI LETTER ", "A,AA,I,II,U,UU,VOCALIC R,VOCALIC RR,VOCALIC L,,E,AI,O"⟩,
    ⟨0x11c0d, "BHAIKSUKI LETTER ", "AU,KA,KHA,GA,GHA,NGA,CA,CHA,JA,JHA,NYA,TTA,TTHA,DDA,DDHA,NNA"⟩,
    ⟨0x11c1d, "BHAIKSUKI LETTER ", "TA,THA,DA,DHA,NA,PA,PHA,BA,BHA,MA,YA,RA,LA,VA,SHA,SSA,SA,HA"⟩,
    ⟨0x11c2f, "BHAIKSUKI VOWEL SIGN ", "AA,I,II,U,UU,VOCALIC R,VOCALIC RR,VOCALIC L,,E,AI,O,AU"⟩,
    ⟨0x11c3c, "BHAIKSUKI SIGN ", "CANDRABINDU,ANUSVARA,VISARGA,VIRAMA,AVAGRAHA"⟩,
    ⟨0x11c41, "BHAIKSUKI ", "DANDA,DOUBLE DANDA,WORD SEPARATOR,GAP FILLER-1,GAP FILLER-2"⟩,
    ⟨0x11c50, "BHAIKSUKI DIGIT ", "ZERO,ONE,TWO,THREE,FOUR,FIVE,SIX,SEVEN,EIGHT,NINE"⟩,
    ⟨0x11c5a, "BHAIKSUKI NUMBER ", "ONE,TWO,THREE,FOUR,FIVE,SIX,SEVEN,EIGHT,NINE"⟩,
    ⟨0x11c63, "BHAIKSUKI NUMBER ", "TEN,TWENTY,THIRTY,FORTY,FIFTY,SIXTY,SEVENTY,EIGHTY,NINETY"⟩,
    ⟨0x11c6c, "", "BHAIKSUKI HUNDREDS UNIT MARK,,,,MARCHEN HEAD MARK,MARCHEN MARK SHAD"⟩,
    ⟨0x11c72, "MARCHEN LETTER ", "KA,KHA,GA,NGA,CA,CHA,JA,NYA,TA,THA,DA"⟩,
    ⟨0x11c7d, "MARCHEN LETTER ", "NA,PA,PHA,BA,MA,TSA,TSHA,DZA,WA,ZHA,ZA,-A,YA,RA,LA,SHA,SA,HA,A"⟩,
    ⟨0x11c92, "MARCHEN SUBJOINED LETTER ", "KA,KHA,GA,NGA,CA,CHA,JA,NYA,TA,THA,DA,NA,PA,PHA"⟩,
    ⟨0x11ca0, "MARCHEN SUBJOINED LETTER ", "BA,MA,TSA,TSHA,DZA,WA,ZHA,ZA,,YA,RA,LA,SHA,SA,HA,A"⟩,
    ⟨0x11cb0, "MARCHEN VOWEL SIGN ", "AA,I,U,E,O"⟩,
    ⟨0x11cb5, "MARCHEN SIGN ", "ANUSVARA,CANDRABINDU"⟩,
    ⟨0x11d00, "MASARAM GONDI LETTER ", "A,AA,I,II,U,UU,E,,AI,O,,AU,KA,KHA,GA,GHA,NGA,CA"⟩,
    ⟨0x11d12, "MASARAM GONDI LETTER ", "CHA,JA,JHA,NYA,TTA,TTHA,DDA,DDHA,NNA,TA,THA,DA,DHA,NA,PA"⟩,
    ⟨0x11d21, "MASARAM GONDI LETTER ", "PHA,BA,BHA,MA,YA,RA,LA,VA,SHA,SSA,SA,HA,LLA,KSSA,JNYA,TRA"⟩,
    ⟨0x11d31, "MASARAM GONDI VOWEL SIGN ", "AA,I,II,U,UU,VOCALIC R,,,,E,,AI,O,,AU"⟩,
    ⟨0x11d40, "MASARAM GONDI SIGN ", "ANUSVARA,VISARGA,NUKTA,CANDRA,HALANTA"⟩,
    ⟨0x11d45, "MASARAM GONDI ", "VIRAMA,REPHA,RA-KARA"⟩,
    ⟨0x11d50, "MASARAM GONDI DIGIT ", "ZERO,ONE,TWO,THREE,FOUR,FIVE,SIX,SEVEN,EIGHT,NINE"⟩,
    ⟨0x11d60, "GUNJALA GONDI LETTER ", "A,AA,I,II,U,UU,,EE,AI"⟩,
    ⟨0x11d6a, "GUNJALA GONDI LETTER ", "OO,AU,YA,VA,BA,BHA,MA,KA,KHA,TA,THA,LA,GA,GHA,DA,DHA,NA"⟩,
    ⟨0x11d7b, "GUNJALA GONDI LETTER ", "CA,CHA,TTA,TTHA,LLA,JA,JHA,DDA,DDHA,NGA,PA,PHA,HA,RA,SA"⟩,
    ⟨0x11d8a, "GUNJALA GONDI VOWEL SIGN ", "AA,I,II,U,UU,,EE,AI,,OO,AU"⟩,
    ⟨0x11d95, "GUNJALA GONDI ", "SIGN ANUSVARA,SIGN VISARGA,VIRAMA,OM"⟩,
    ⟨0x11da0, "GUNJALA GONDI DIGIT ", "ZERO,ONE,TWO,THREE,FOUR,FIVE,SIX,SEVEN,EIGHT,NINE"⟩,
    ⟨0x11ee0, "MAKASAR LETTER ", "KA,GA,NGA,PA,BA,MA,TA,DA,NA,CA,JA,NYA,YA,RA,LA,VA,SA,A"⟩,
    ⟨0x11ef2, "MAKASAR ", "ANGKA,VOWEL SIGN I"⟩,
    ⟨0x11ef4, "MAKASAR ", "VOWEL SIGN U,VOWEL SIGN E,VOWEL SIGN O,PASSIMBANG,END OF SECTION"⟩,
    ⟨0x11fb0, "", "LISU LETTER YHA"⟩,
    ⟨0x11fc0, "TAMIL FRACTION ONE ", "THREE-HUNDRED-AND-TWENTIETH,ONE-HUNDRED-AND-SIXTIETH"⟩,
    ⟨0x11fc2, "TAMIL FRACTION ONE ", "EIGHTIETH,SIXTY-FOURTH,FORTIETH,THIRTY-SECOND"⟩,
    ⟨0x11fc6, "TAMIL FRACTION THREE ", "EIGHTIETHS,SIXTY-FOURTHS"⟩,
    ⟨0x11fc8, "TAMIL FRACTION ONE ", "TWENTIETH,SIXTEENTH-1,SIXTEENTH-2,TENTH,EIGHTH"⟩,
    ⟨0x11fcd, "TAMIL FRACTION ", "THREE TWENTIETHS,THREE SIXTEENTHS,ONE FIFTH,ONE QUARTER"⟩,
    ⟨0x11fd1, "TAMIL FRACTION ", "ONE HALF-1,ONE HALF-2,THREE QUARTERS,DOWNSCALING FACTOR KIIZH"⟩,
    ⟨0x11fd5, "TAMIL SIGN ", "NEL,CEVITU,AAZHAAKKU,UZHAKKU,MUUVUZHAKKU,KURUNI"⟩,
    ⟨0x11fdb, "TAMIL SIGN ", "PATHAKKU,MUKKURUNI,KAACU,PANAM,PON,VARAAKAN,PAARAM,KUZHI,VELI"⟩,
    ⟨0x11fe4, "TAMIL ", "WET CULTIVATION SIGN,DRY CULTIVATION SIGN,LAND SIGN,SALT PAN SIGN"⟩,
    ⟨0x11fe8, "TAMIL TRADITIONAL ", "CREDIT SIGN,NUMBER SIGN"⟩,
    ⟨0x11fea, "TAMIL ", "CURRENT SIGN,AND ODD SIGN,SPENT SIGN,TOTAL SIGN"⟩,
    ⟨0x11fee, "TAMIL ", "IN POSSESSION SIGN,STARTING FROM SIGN,SIGN MUTHALIYA,SIGN VAKAIYARAA"⟩,
    ⟨0x11fff, "", "TAMIL PUNCTUATION END OF TEXT,CUNEIFORM SIGN A"⟩,
    ⟨0x12001, "CUNEIFORM SIGN A TIMES ", "A,BAD,GAN2 TENU,HA,IGI,LAGAR GUNU,MUSH,SAG"⟩,
    ⟨0x12009, "CUNEIFORM SIGN ", "A2,AB"⟩,
    ⟨0x1200b, "CUNEIFORM SIGN AB TIMES ", "ASH2,DUN3 GUNU,GAL,GAN2 TENU,HA,IGI GUNU,IMIN,LAGAB"⟩,
    ⟨0x12013, "CUNEIFORM SIGN ", "AB TIMES SHESH,AB TIMES U PLUS U PLUS U,AB GUNU,AB2"⟩,
    ⟨0x12017, "CUNEIFORM SIGN AB2 TIMES ", "BALAG,GAN2 TENU,ME PLUS EN,SHA3,TAK4"⟩,
    ⟨0x1201c, "CUNEIFORM SIGN ", "AD,AK,AK TIMES ERIN2,AK TIMES SHITA PLUS GISH,AL"⟩,
    ⟨0x12021, "CUNEIFORM SIGN AL TIMES ", "AL,DIM2,GISH,HA,KAD3,KI,SHE,USH"⟩,
    ⟨0x12029, "CUNEIFORM SIGN ", "ALAN,ALEPH,AMAR,AMAR TIMES SHE,AN,AN OVER AN,AN THREE TIMES"⟩,
    ⟨0x12030, "CUNEIFORM SIGN AN PLUS NAGA ", "OPPOSING AN PLUS NAGA,SQUARED"⟩,
    ⟨0x12032, "CUNEIFORM SIGN ", "ANSHE,APIN,ARAD,ARAD TIMES KUR,ARKAB,ASAL2,ASH,ASH ZIDA TENU"⟩,
    ⟨0x1203a, "CUNEIFORM SIGN ASH ", "KABA TENU,OVER ASH TUG2 OVER TUG2 TUG2 OVER TUG2 PAP"⟩,
    ⟨0x1203c, "CUNEIFORM SIGN ASH OVER ASH OVER ", "ASH,ASH CROSSING ASH OVER ASH OVER ASH"⟩,
    ⟨0x1203e, "CUNEIFORM SIGN ", "ASH2,ASHGAB,BA,BAD,BAG3,BAHAR2,BAL,BAL OVER BAL"⟩,
    ⟨0x12046, "CUNEIFORM SIGN ", "BALAG,BAR,BARA2,BI,BI TIMES A,BI TIMES GAR,BI TIMES IGI GUNU"⟩,
    ⟨0x1204d, "CUNEIFORM SIGN ", "BU,BU OVER BU AB,BU OVER BU UN,BU CROSSING BU,BULUG"⟩,
    ⟨0x12052, "CUNEIFORM SIGN ", "BULUG OVER BULUG,BUR,BUR2,DA,DAG,DAG KISIM5 TIMES A PLUS MASH"⟩,
    ⟨0x12058, "CUNEIFORM SIGN DAG KISIM5 TIMES ", "AMAR,BALAG,BI,GA,GA PLUS MASH,GI,GIR2"⟩,
    ⟨0x1205f, "CUNEIFORM SIGN DAG KISIM5 TIMES ", "GUD,HA,IR,IR PLUS LU,KAK,LA,LU,LU PLUS MASH2"⟩,
    ⟨0x12067, "CUNEIFORM SIGN DAG KISIM5 TIMES ", "LUM,NE,PAP PLUS PAP,SI,TAK4,U2 PLUS GIR2,USH"⟩,
    ⟨0x1206e, "CUNEIFORM SIGN ", "DAM,DAR,DARA3,DARA4,DI,DIB,DIM,DIM TIMES SHE,DIM2,DIN"⟩,
    ⟨0x12078, "CUNEIFORM SIGN ", "DIN KASKAL U GUNU DISH,DISH,DU,DU OVER DU,DU GUNU,DU SHESHIG"⟩,
    ⟨0x1207e, "CUNEIFORM SIGN ", "DUB,DUB TIMES ESH2,DUB2,DUG,DUGUD,DUH,DUN,DUN3,DUN3 GUNU"⟩,
    ⟨0x12087, "CUNEIFORM SIGN ", "DUN3 GUNU GUNU,DUN4,DUR2,E,E TIMES PAP,E OVER E NUN OVER NUN,E2"⟩,
    ⟨0x1208e, "CUNEIFORM SIGN E2 TIMES ", "A PLUS HA PLUS DA,GAR,MI,SAL,SHE,U"⟩,
    ⟨0x12094, "CUNEIFORM SIGN ", "EDIN,EGIR,EL,EN,EN TIMES GAN2,EN TIMES GAN2 TENU,EN TIMES ME"⟩,
    ⟨0x1209b, "CUNEIFORM SIGN ", "EN CROSSING EN,EN OPPOSING EN,EN SQUARED,EREN,ERIN2,ESH2,EZEN"⟩,
    ⟨0x120a2, "CUNEIFORM SIGN EZEN TIMES ", "A,A PLUS LAL,A PLUS LAL TIMES LAL,AN,BAD"⟩,
    ⟨0x120a7, "CUNEIFORM SIGN EZEN TIMES ", "DUN3 GUNU,DUN3 GUNU GUNU,HA,HA GUNU,IGI GUNU,KASKAL"⟩,
    ⟨0x120ad, "CUNEIFORM SIGN EZEN TIMES ", "KASKAL SQUARED,KU3,LA,LAL TIMES LAL,LI,LU,U2,UD"⟩,
    ⟨0x120b5, "CUNEIFORM SIGN ", "GA,GA GUNU,GA2,GA2 TIMES A PLUS DA PLUS HA,GA2 TIMES A PLUS HA"⟩,
    ⟨0x120ba, "CUNEIFORM SIGN GA2 TIMES ", "A PLUS IGI,AB2 TENU PLUS TAB,AN,ASH,ASH2 PLUS GAL"⟩,
    ⟨0x120bf, "CUNEIFORM SIGN GA2 TIMES ", "BAD,BAR PLUS RA,BUR,BUR PLUS RA,DA,DI,DIM TIMES SHE"⟩,
    ⟨0x120c6, "CUNEIFORM SIGN GA2 TIMES ", "DUB,EL,EL PLUS LA,EN,EN TIMES GAN2 TENU,GAN2 TENU,GAR"⟩,
    ⟨0x120cd, "CUNEIFORM SIGN GA2 TIMES ", "GI,GI4,GI4 PLUS A,GIR2 PLUS SU,HA PLUS LU PLUS ESH2"⟩,
    ⟨0x120d2, "CUNEIFORM SIGN GA2 TIMES ", "HAL,HAL PLUS LA,HI PLUS LI,HUB2,IGI GUNU"⟩,
    ⟨0x120d7, "CUNEIFORM SIGN GA2 TIMES ", "ISH PLUS HU PLUS ASH,KAK,KASKAL,KID,KID PLUS LAL"⟩,
    ⟨0x120dc, "CUNEIFORM SIGN GA2 TIMES ", "KU3 PLUS AN,LA,ME PLUS EN,MI,NUN,NUN OVER NUN,PA,SAL"⟩,
    ⟨0x120e4, "CUNEIFORM SIGN GA2 TIMES ", "SAR,SHE,SHE PLUS TUR,SHID,SUM,TAK4,U,UD,UD PLUS DU"⟩,
    ⟨0x120ed, "CUNEIFORM SIGN ", "GA2 OVER GA2,GABA,GABA CROSSING GABA"⟩,
    ⟨0x120f0, "CUNEIFORM SIGN ", "GAD,GAD OVER GAD GAR OVER GAR,GAL,GAL GAD OVER GAD GAR OVER GAR"⟩,
    ⟨0x120f4, "CUNEIFORM SIGN ", "GALAM,GAM,GAN,GAN2,GAN2 TENU,GAN2 OVER GAN2"⟩,
    ⟨0x120fa, "CUNEIFORM SIGN ", "GAN2 CROSSING GAN2,GAR,GAR3,GASHAN,GESHTIN,GESHTIN TIMES KUR,GI"⟩,
    ⟨0x12101, "CUNEIFORM SIGN GI ", "TIMES E,TIMES U,CROSSING GI"⟩,
    ⟨0x12104, "CUNEIFORM SIGN ", "GI4,GI4 OVER GI4,GI4 CROSSING GI4,GIDIM,GIR2,GIR2 GUNU,GIR3"⟩,
    ⟨0x1210b, "CUNEIFORM SIGN GIR3 TIMES ", "A PLUS IGI,GAN2 TENU,IGI,LU PLUS IGI,PA"⟩,
    ⟨0x12110, "CUNEIFORM SIGN ", "GISAL,GISH,GISH CROSSING GISH"⟩,
    ⟨0x12113, "CUNEIFORM SIGN ", "GISH TIMES BAD,GISH TIMES TAK4,GISH TENU,GU,GU CROSSING GU,GU2"⟩,
    ⟨0x12119, "CUNEIFORM SIGN GU2 TIMES ", "KAK,KAK TIMES IGI GUNU,NUN,SAL PLUS TUG2"⟩,
    ⟨0x1211d, "CUNEIFORM SIGN ", "GU2 GUNU,GUD"⟩,
    ⟨0x1211f, "CUNEIFORM SIGN ", "GUD TIMES A PLUS KUR,GUD TIMES KUR,GUD OVER GUD LUGAL,GUL,GUM"⟩,
    ⟨0x12124, "CUNEIFORM SIGN ", "GUM TIMES SHE,GUR,GUR7,GURUN,GURUSH,HA,HA TENU,HA GUNU,HAL,HI"⟩,
    ⟨0x1212e, "CUNEIFORM SIGN HI TIMES ", "ASH,ASH2,BAD,DISH,GAD,KIN,NUN,SHE,U"⟩,
    ⟨0x12137, "CUNEIFORM SIGN ", "HU,HUB2"⟩,
    ⟨0x12139, "CUNEIFORM SIGN HUB2 TIMES ", "AN,HAL,KASKAL,LISH,UD"⟩,
    ⟨0x1213e, "CUNEIFORM SIGN ", "HUL2,I,I A,IB,IDIM,IDIM OVER IDIM BUR,IDIM OVER IDIM SQUARED"⟩,
    ⟨0x12145, "CUNEIFORM SIGN ", "IG,IGI,IGI DIB,IGI RI,IGI OVER IGI SHIR OVER SHIR UD OVER UD"⟩,
    ⟨0x1214a, "CUNEIFORM SIGN ", "IGI GUNU,IL,IL TIMES GAN2 TENU,IL2,IM,IM TIMES TAK4"⟩,
    ⟨0x12150, "CUNEIFORM SIGN ", "IM CROSSING IM,IM OPPOSING IM,IM SQUARED,IMIN,IN,IR,ISH,KA"⟩,
    ⟨0x12158, "CUNEIFORM SIGN KA TIMES ", "A,AD,AD PLUS KU3,ASH2,BAD,BALAG,BAR,BI,ERIN2"⟩,
    ⟨0x12161, "CUNEIFORM SIGN KA TIMES ", "ESH2,GA,GAL,GAN2 TENU,GAR,GAR PLUS SHA3 PLUS A,GI"⟩,
    ⟨0x12168, "CUNEIFORM SIGN KA TIMES ", "GIR2,GISH PLUS SAR,GISH CROSSING GISH,GU,GUR7,IGI,IM"⟩,
    ⟨0x1216f, "CUNEIFORM SIGN KA TIMES ", "KAK,KI,KID,LI,LU,ME,ME PLUS DU,ME PLUS GI,ME PLUS TE"⟩,
    ⟨0x12178, "CUNEIFORM SIGN KA TIMES ", "MI,MI PLUS NUNUZ,NE,NUN,PI,RU,SA,SAR,SHA,SHE"⟩,
    ⟨0x12182, "CUNEIFORM SIGN KA TIMES ", "SHID,SHU,SIG,SUHUR,TAR,U,U2,UD,UMUM TIMES PA,USH,ZI"⟩,
    ⟨0x1218d, "CUNEIFORM SIGN ", "KA2,KA2 CROSSING KA2,KAB,KAD2,KAD3,KAD4,KAD5,KAD5 OVER KAD5"⟩,
    ⟨0x12195, "CUNEIFORM SIGN ", "KAK,KAK TIMES IGI GUNU,KAL,KAL TIMES BAD,KAL CROSSING KAL"⟩,
    ⟨0x1219a, "CUNEIFORM SIGN ", "KAM2,KAM4,KASKAL,KASKAL LAGAB TIMES U OVER LAGAB TIMES U"⟩,
    ⟨0x1219e, "CUNEIFORM SIGN ", "KASKAL OVER KASKAL LAGAB TIMES U OVER LAGAB TIMES U,KESH2,KI"⟩,
    ⟨0x121a1, "CUNEIFORM SIGN KI TIMES ", "BAD,U,UD"⟩,
    ⟨0x121a4, "CUNEIFORM SIGN ", "KID,KIN,KISAL,KISH,KISIM5,KISIM5 OVER KISIM5"⟩,
    ⟨0x121aa, "CUNEIFORM SIGN ", "KU,KU OVER HI TIMES ASH2 KU OVER HI TIMES ASH2"⟩,
    ⟨0x121ac, "CUNEIFORM SIGN ", "KU3,KU4,KU4 VARIANT FORM,KU7"⟩,
    ⟨0x121b0, "CUNEIFORM SIGN ", "KUL,KUL GUNU,KUN,KUR,KUR OPPOSING KUR,KUSHU2,KWU318,LA,LAGAB"⟩,
    ⟨0x121b9, "CUNEIFORM SIGN LAGAB TIMES ", "A,A PLUS DA PLUS HA,A PLUS GAR,A PLUS LAL,AL,AN"⟩,
    ⟨0x121bf, "CUNEIFORM SIGN LAGAB TIMES ", "ASH ZIDA TENU,BAD,BI,DAR,EN,GA,GAR,GUD,GUD PLUS GUD"⟩,
    ⟨0x121c8, "CUNEIFORM SIGN LAGAB TIMES ", "HA,HAL,HI TIMES NUN,IGI GUNU,IM,IM PLUS HA"⟩,
    ⟨0x121ce, "CUNEIFORM SIGN LAGAB TIMES ", "IM PLUS LU,KI,KIN,KU3,KUL,KUL PLUS HI PLUS A,LAGAB"⟩,
    ⟨0x121d5, "CUNEIFORM SIGN LAGAB TIMES ", "LISH,LU,LUL,ME,ME PLUS EN,MUSH,NE,SHE PLUS SUM"⟩,
    ⟨0x121dd, "CUNEIFORM SIGN LAGAB TIMES SHITA PLUS GISH ", "PLUS ERIN2,TENU"⟩,
    ⟨0x121df, "CUNEIFORM SIGN LAGAB TIMES ", "SHU2,SHU2 PLUS SHU2"⟩,
    ⟨0x121e1, "CUNEIFORM SIGN LAGAB TIMES ", "SUM,TAG,TAK4,TE PLUS A PLUS SU PLUS NA"⟩,
    ⟨0x121e5, "CUNEIFORM SIGN LAGAB TIMES ", "U,U PLUS A,U PLUS U PLUS U,U2 PLUS ASH,UD,USH"⟩,
    ⟨0x121eb, "CUNEIFORM SIGN ", "LAGAB SQUARED,LAGAR,LAGAR TIMES SHE"⟩,
    ⟨0x121ee, "CUNEIFORM SIGN LAGAR ", "TIMES SHE PLUS SUM,GUNU,GUNU OVER LAGAR GUNU SHE"⟩,
    ⟨0x121f1, "CUNEIFORM SIGN ", "LAHSHU,LAL,LAL TIMES LAL,LAM,LAM TIMES KUR"⟩,
    ⟨0x121f6, "CUNEIFORM SIGN ", "LAM TIMES KUR PLUS RU,LI,LIL,LIMMU2,LISH,LU,LU TIMES BAD,LU2"⟩,
    ⟨0x121fe, "CUNEIFORM SIGN LU2 TIMES ", "AL,BAD,ESH2,ESH2 TENU,GAN2 TENU,HI TIMES BAD"⟩,
    ⟨0x12204, "CUNEIFORM SIGN LU2 TIMES ", "IM,KAD2,KAD3,KAD3 PLUS ASH,KI,LA PLUS ASH"⟩,
    ⟨0x1220a, "CUNEIFORM SIGN LU2 TIMES ", "LAGAB,ME PLUS EN,NE,NU,SI PLUS ASH,SIK2 PLUS BU,TUG2"⟩,
    ⟨0x12211, "CUNEIFORM SIGN LU2 ", "TENU,CROSSING LU2,OPPOSING LU2,SQUARED,SHESHIG"⟩,
    ⟨0x12216, "CUNEIFORM SIGN ", "LU3,LUGAL,LUGAL OVER LUGAL,LUGAL OPPOSING LUGAL,LUGAL SHESHIG"⟩,
    ⟨0x1221b, "CUNEIFORM SIGN ", "LUH,LUL,LUM,LUM OVER LUM,LUM OVER LUM GAR OVER GAR"⟩,
    ⟨0x12220, "CUNEIFORM SIGN ", "MA,MA TIMES TAK4,MA GUNU,MA2,MAH,MAR,MASH,MASH2,ME,MES,MI"⟩,
    ⟨0x1222b, "CUNEIFORM SIGN ", "MIN,MU,MU OVER MU,MUG,MUG GUNU,MUNSUB,MURGU2,MUSH,MUSH TIMES A"⟩,
    ⟨0x12234, "CUNEIFORM SIGN MUSH ", "TIMES KUR,TIMES ZA,OVER MUSH,OVER MUSH TIMES A PLUS NA"⟩,
    ⟨0x12238, "CUNEIFORM SIGN ", "MUSH CROSSING MUSH,MUSH3,MUSH3 TIMES A"⟩,
    ⟨0x1223b, "CUNEIFORM SIGN ", "MUSH3 TIMES A PLUS DI,MUSH3 TIMES DI,MUSH3 GUNU,NA,NA2,NAGA"⟩,
    ⟨0x12241, "CUNEIFORM SIGN NAGA ", "INVERTED,TIMES SHU TENU,OPPOSING NAGA"⟩,
    ⟨0x12244, "CUNEIFORM SIGN ", "NAGAR,NAM NUTILLU,NAM,NAM2,NE,NE TIMES A,NE TIMES UD"⟩,
    ⟨0x1224b, "CUNEIFORM SIGN ", "NE SHESHIG,NI,NI TIMES E,NI2,NIM,NIM TIMES GAN2 TENU"⟩,
    ⟨0x12251, "CUNEIFORM SIGN ", "NIM TIMES GAR PLUS GAN2 TENU,NINDA2,NINDA2 TIMES AN"⟩,
    ⟨0x12254, "CUNEIFORM SIGN NINDA2 TIMES ", "ASH,ASH PLUS ASH,GUD,ME PLUS GAN2 TENU,NE,NUN,SHE"⟩,
    ⟨0x1225b, "CUNEIFORM SIGN NINDA2 TIMES SHE PLUS ", "A AN,ASH,ASH PLUS ASH"⟩,
    ⟨0x1225e, "CUNEIFORM SIGN ", "NINDA2 TIMES U2 PLUS ASH,NINDA2 TIMES USH,NISAG,NU,NU11,NUN"⟩,
    ⟨0x12264, "CUNEIFORM SIGN NUN LAGAR TIMES ", "GAR,MASH,SAL,SAL OVER NUN LAGAR TIMES SAL,USH"⟩,
    ⟨0x12269, "CUNEIFORM SIGN NUN ", "TENU,OVER NUN,CROSSING NUN,CROSSING NUN LAGAR OVER LAGAR"⟩,
    ⟨0x1226d, "", "CUNEIFORM SIGN NUNUZ"⟩,
    ⟨0x1226e, "CUNEIFORM SIGN NUNUZ AB2 TIMES ", "ASHGAB,BI,DUG,GUD,IGI GUNU,KAD3,LA,NE,SILA3,U2"⟩,
    ⟨0x12278, "CUNEIFORM SIGN ", "NUNUZ KISIM5 TIMES BI,NUNUZ KISIM5 TIMES BI U,PA,PAD"⟩,
    ⟨0x1227c, "CUNEIFORM SIGN ", "PAN,PAP,PESH2,PI,PI TIMES A,PI TIMES AB,PI TIMES BI,PI TIMES BU"⟩,
    ⟨0x12284, "CUNEIFORM SIGN PI ", "TIMES E,TIMES I,TIMES IB,TIMES U,TIMES U2,CROSSING PI"⟩,
    ⟨0x1228a, "CUNEIFORM SIGN ", "PIRIG,PIRIG TIMES KAL,PIRIG TIMES UD,PIRIG TIMES ZA"⟩,
    ⟨0x1228e, "CUNEIFORM SIGN ", "PIRIG OPPOSING PIRIG,RA,RAB,RI,RU,SA,SAG NUTILLU,SAG"⟩,
    ⟨0x12296, "CUNEIFORM SIGN SAG TIMES ", "A,DU,DUB,HA,KAK,KUR,LUM,MI,NUN,SAL,SHID,TAB,U2,UB,UM"⟩,
    ⟨0x122a5, "CUNEIFORM SIGN SAG ", "TIMES UR,TIMES USH,OVER SAG,GUNU"⟩,
    ⟨0x122a9, "CUNEIFORM SIGN ", "SAL,SAL LAGAB TIMES ASH2,SANGA2,SAR,SHA,SHA3"⟩,
    ⟨0x122af, "CUNEIFORM SIGN SHA3 TIMES ", "A,BAD,GISH,NE,SHU2,TUR,U,U PLUS A"⟩,
    ⟨0x122b7, "CUNEIFORM SIGN ", "SHA6,SHAB6,SHAR2,SHE"⟩,
    ⟨0x122bb, "CUNEIFORM SIGN SHE ", "HU,OVER SHE GAD OVER GAD GAR OVER GAR"⟩,
    ⟨0x122bd, "CUNEIFORM SIGN ", "SHE OVER SHE TAB OVER TAB GAR OVER GAR,SHEG9"⟩,
    ⟨0x122bf, "CUNEIFORM SIGN ", "SHEN,SHESH,SHESH2,SHESHLAM,SHID,SHID TIMES A,SHID TIMES IM,SHIM"⟩,
    ⟨0x122c7, "CUNEIFORM SIGN SHIM TIMES ", "A,BAL,BULUG,DIN,GAR,IGI,IGI GUNU,KUSHU2,LUL,MUG,SAL"⟩,
    ⟨0x122d2, "CUNEIFORM SIGN ", "SHINIG,SHIR,SHIR TENU,SHIR OVER SHIR BUR OVER BUR"⟩,
    ⟨0x122d6, "CUNEIFORM SIGN ", "SHITA,SHU,SHU OVER INVERTED SHU,SHU2,SHUBUR,SI,SI GUNU,SIG,SIG4"⟩,
    ⟨0x122df, "CUNEIFORM SIGN ", "SIG4 OVER SIG4 SHU2,SIK2,SILA3,SU,SU OVER SU,SUD,SUD2,SUHUR,SUM"⟩,
    ⟨0x122e8, "CUNEIFORM SIGN ", "SUMASH,SUR,SUR9,TA,TA ASTERISK,TA TIMES HI,TA TIMES MI,TA GUNU"⟩,
    ⟨0x122f0, "CUNEIFORM SIGN ", "TAB,TAB OVER TAB NI OVER NI DISH OVER DISH,TAB SQUARED,TAG"⟩,
    ⟨0x122f4, "CUNEIFORM SIGN TAG TIMES ", "BI,GUD,SHE,SHU,TUG2,UD"⟩,
    ⟨0x122fa, "CUNEIFORM SIGN ", "TAK4,TAR,TE,TE GUNU,TI,TI TENU,TIL,TIR,TIR TIMES TAK4"⟩,
    ⟨0x12303, "CUNEIFORM SIGN TIR OVER ", "TIR,TIR GAD OVER GAD GAR OVER GAR"⟩,
    ⟨0x12305, "CUNEIFORM SIGN ", "TU,TUG2,TUK,TUM,TUR,TUR OVER TUR ZA OVER ZA,U,U GUD,U U U"⟩,
    ⟨0x1230e, "CUNEIFORM SIGN U OVER U ", "PA OVER PA GAR OVER GAR,SUR OVER SUR"⟩,
    ⟨0x12310, "CUNEIFORM SIGN ", "U OVER U U REVERSED OVER U REVERSED,U2,UB,UD,UD KUSHU2"⟩,
    ⟨0x12315, "CUNEIFORM SIGN UD TIMES ", "BAD,MI,U PLUS U PLUS U,U PLUS U PLUS U GUNU"⟩,
    ⟨0x12319, "CUNEIFORM SIGN ", "UD GUNU,UD SHESHIG,UD SHESHIG TIMES BAD,UDUG,UM"⟩,
    ⟨0x1231e, "CUNEIFORM SIGN UM TIMES ", "LAGAB,ME PLUS DA,SHA3,U"⟩,
    ⟨0x12322, "CUNEIFORM SIGN ", "UMBIN,UMUM,UMUM TIMES KASKAL"⟩,
    ⟨0x12325, "CUNEIFORM SIGN ", "UMUM TIMES PA,UN,UN GUNU,UR,UR CROSSING UR,UR SHESHIG,UR2"⟩,
    ⟨0x1232c, "CUNEIFORM SIGN UR2 TIMES ", "A PLUS HA,A PLUS NA,AL,HA,NUN,U2,U2 PLUS ASH"⟩,
    ⟨0x12333, "CUNEIFORM SIGN ", "UR2 TIMES U2 PLUS BI,UR4,URI,URI3,URU"⟩,
    ⟨0x12338, "CUNEIFORM SIGN URU TIMES ", "A,ASHGAB,BAR,DUN,GA,GAL,GAN2 TENU,GAR,GU,HA,IGI"⟩,
    ⟨0x12343, "CUNEIFORM SIGN URU TIMES ", "IM,ISH,KI,LUM,MIN,PA,SHE,SIG4,TU,U PLUS GUD,UD,URUDA"⟩,
    ⟨0x1234f, "CUNEIFORM SIGN ", "URUDA,URUDA TIMES U,USH,USH TIMES A,USH TIMES KU,USH TIMES KUR"⟩,
    ⟨0x12355, "CUNEIFORM SIGN ", "USH TIMES TAK4,USHX,USH2,USHUMX,UTUKI,UZ3,UZ3 TIMES KASKAL"⟩,
    ⟨0x1235c, "CUNEIFORM SIGN ", "UZU,ZA,ZA TENU,ZA SQUARED TIMES KUR,ZAG,ZAMX,ZE2"⟩,
    ⟨0x12363, "CUNEIFORM SIGN ", "ZI,ZI OVER ZI,ZI3,ZIB,ZIB KABA TENU,ZIG,ZIZ2,ZU,ZU5,ZU5 TIMES A"⟩,
    ⟨0x1236d, "CUNEIFORM SIGN ", "ZUBUR,ZUM,KAP ELAMITE,AB TIMES NUN,AB2 TIMES A,AMAR TIMES KUG"⟩,
    ⟨0x12373, "CUNEIFORM SIGN ", "DAG KISIM5 TIMES U2 PLUS MASH,DAG3,DISH PLUS SHU,DUB TIMES SHE"⟩,
    ⟨0x12377, "CUNEIFORM SIGN EZEN TIMES ", "GUD,SHE"⟩,
    ⟨0x12379, "CUNEIFORM SIGN ", "GA2 TIMES AN PLUS KAK PLUS A,GA2 TIMES ASH2,GE22,GIG,HUSH"⟩,
    ⟨0x1237e, "CUNEIFORM SIGN KA TIMES ", "ANSHE,ASH3,GISH,GUD,HI TIMES ASH2,LUM,PA,SHUL,TU,UR2"⟩,
    ⟨0x12388, "CUNEIFORM SIGN ", "LAGAB TIMES GI,LU2 SHESHIG TIMES BAD,LU2 TIMES ESH2 PLUS LAL"⟩,
    ⟨0x1238b, "CUNEIFORM SIGN ", "LU2 TIMES SHU,MESH,MUSH3 TIMES ZA,NA4,NIN,NIN9"⟩,
    ⟨0x12391, "CUNEIFORM SIGN ", "NINDA2 TIMES BAL,NINDA2 TIMES GI,NU11 ROTATED NINETY DEGREES"⟩,
    ⟨0x12394, "CUNEIFORM SIGN ", "PESH2 ASTERISK,PIR2,SAG TIMES IGI GUNU,TI2,UM TIMES ME,U U"⟩,
    ⟨0x12400, "CUNEIFORM NUMERIC SIGN ", "TWO ASH,THREE ASH,FOUR ASH,FIVE ASH,SIX ASH"⟩,
    ⟨0x12405, "CUNEIFORM NUMERIC SIGN ", "SEVEN ASH,EIGHT ASH,NINE ASH,THREE DISH,FOUR DISH"⟩,
    ⟨0x1240a, "CUNEIFORM NUMERIC SIGN ", "FIVE DISH,SIX DISH,SEVEN DISH,EIGHT DISH,NINE DISH"⟩,
    ⟨0x1240f, "CUNEIFORM NUMERIC SIGN ", "FOUR U,FIVE U,SIX U,SEVEN U,EIGHT U,NINE U,ONE GESH2"⟩,
    ⟨0x12416, "CUNEIFORM NUMERIC SIGN ", "TWO GESH2,THREE GESH2,FOUR GESH2,FIVE GESH2,SIX GESH2"⟩,
    ⟨0x1241b, "CUNEIFORM NUMERIC SIGN ", "SEVEN GESH2,EIGHT GESH2,NINE GESH2,ONE GESHU,TWO GESHU"⟩,
    ⟨0x12420, "CUNEIFORM NUMERIC SIGN ", "THREE GESHU,FOUR GESHU,FIVE GESHU,TWO SHAR2,THREE SHAR2"⟩,
    ⟨0x12425, "CUNEIFORM NUMERIC SIGN ", "THREE SHAR2 VARIANT FORM,FOUR SHAR2,FIVE SHAR2"⟩,
    ⟨0x12428, "CUNEIFORM NUMERIC SIGN ", "SIX SHAR2,SEVEN SHAR2,EIGHT SHAR2,NINE SHAR2,ONE SHARU"⟩,
    ⟨0x1242d, "CUNEIFORM NUMERIC SIGN ", "TWO SHARU,THREE SHARU,THREE SHARU VARIANT FORM"⟩,
    ⟨0x12430, "CUNEIFORM NUMERIC SIGN ", "FOUR SHARU,FIVE SHARU,SHAR2 TIMES GAL PLUS DISH"⟩,
    ⟨0x12433, "CUNEIFORM NUMERIC SIGN ", "SHAR2 TIMES GAL PLUS MIN,ONE BURU,TWO BURU"⟩,
    ⟨0x12436, "CUNEIFORM NUMERIC SIGN ", "THREE BURU,THREE BURU VARIANT FORM,FOUR BURU,FIVE BURU"⟩,
    ⟨0x1243a, "CUNEIFORM NUMERIC SIGN THREE VARIANT FORM ", "ESH16,ESH21"⟩,
    ⟨0x1243c, "CUNEIFORM NUMERIC SIGN FOUR VARIANT FORM ", "LIMMU,LIMMU4,LIMMU A,LIMMU B"⟩,
    ⟨0x12440, "", "CUNEIFORM NUMERIC SIGN SIX VARIANT FORM ASH9"⟩,
    ⟨0x12441, "CUNEIFORM NUMERIC SIGN SEVEN VARIANT FORM ", "IMIN3,IMIN A,IMIN B"⟩,
    ⟨0x12444, "CUNEIFORM NUMERIC SIGN EIGHT VARIANT FORM ", "USSU,USSU3"⟩,
    ⟨0x12446, "CUNEIFORM NUMERIC SIGN NINE VARIANT FORM ", "ILIMMU,ILIMMU3,ILIMMU4,ILIMMU A"⟩,
    ⟨0x1244a, "CUNEIFORM NUMERIC SIGN ", "TWO ASH TENU,THREE ASH TENU,FOUR ASH TENU,FIVE ASH TENU"⟩,
    ⟨0x1244e, "CUNEIFORM NUMERIC SIGN ", "SIX ASH TENU,ONE BAN2,TWO BAN2,THREE BAN2,FOUR BAN2"⟩,
    ⟨0x12453, "CUNEIFORM NUMERIC SIGN ", "FOUR BAN2 VARIANT FORM,FIVE BAN2,FIVE BAN2 VARIANT FORM"⟩,
    ⟨0x12456, "CUNEIFORM NUMERIC SIGN ", "NIGIDAMIN,NIGIDAESH,ONE ESHE3,TWO ESHE3"⟩,
    ⟨0x1245a, "CUNEIFORM NUMERIC SIGN ", "ONE THIRD DISH,TWO THIRDS DISH,FIVE SIXTHS DISH"⟩,
    ⟨0x1245d, "CUNEIFORM NUMERIC SIGN ", "ONE THIRD VARIANT FORM A,TWO THIRDS VARIANT FORM A"⟩,
    ⟨0x1245f, "CUNEIFORM NUMERIC SIGN ", "ONE EIGHTH ASH,ONE QUARTER ASH,OLD ASSYRIAN ONE SIXTH"⟩,
    ⟨0x12462, "CUNEIFORM NUMERIC SIGN ", "OLD ASSYRIAN ONE QUARTER,ONE QUARTER GUR,ONE HALF GUR"⟩,
    ⟨0x12465, "CUNEIFORM NUMERIC SIGN ELAMITE ", "ONE THIRD,TWO THIRDS,FORTY,FIFTY"⟩,
    ⟨0x12469, "CUNEIFORM NUMERIC SIGN ", "FOUR U VARIANT FORM,FIVE U VARIANT FORM"⟩,
    ⟨0x1246b, "CUNEIFORM NUMERIC SIGN ", "SIX U VARIANT FORM,SEVEN U VARIANT FORM"⟩,
    ⟨0x1246d, "CUNEIFORM NUMERIC SIGN ", "EIGHT U VARIANT FORM,NINE U VARIANT FORM"⟩,
    ⟨0x12470, "CUNEIFORM PUNCTUATION SIGN ", "OLD ASSYRIAN WORD DIVIDER,VERTICAL COLON"⟩,
    ⟨0x12472, "CUNEIFORM PUNCTUATION SIGN DIAGONAL ", "COLON,TRICOLON,QUADCOLON"⟩,
    ⟨0x12480, "CUNEIFORM SIGN ", "AB TIMES NUN TENU,AB TIMES SHU2,AD TIMES ESH2"⟩,
    ⟨0x12483, "CUNEIFORM SIGN ", "BAD TIMES DISH TENU,BAHAR2 TIMES AB2,BAHAR2 TIMES NI"⟩,
    ⟨0x12486, "CUNEIFORM SIGN ", "BAHAR2 TIMES ZA,BU OVER BU TIMES NA2,DA TIMES TAK4"⟩,
    ⟨0x12489, "CUNEIFORM SIGN ", "DAG TIMES KUR,DIM TIMES IGI,DIM TIMES U U U,DIM2 TIMES UD"⟩,
    ⟨0x1248d, "CUNEIFORM SIGN DUG TIMES ", "ANSHE,ASH,ASH AT LEFT,DIN,DUN"⟩,
    ⟨0x12492, "CUNEIFORM SIGN DUG TIMES ", "ERIN2,GA,GI,GIR2 GUNU,GISH,HA,HI,IGI GUNU,KASKAL,KUR"⟩,
    ⟨0x1249c, "CUNEIFORM SIGN DUG TIMES ", "KUSHU2,KUSHU2 PLUS KASKAL,LAK-020,LAM,LAM TIMES KUR"⟩,
    ⟨0x124a1, "CUNEIFORM SIGN DUG TIMES ", "LUH PLUS GISH,MASH,MES,MI,NI,PI,SHE,SI GUNU"⟩,
    ⟨0x124a9, "CUNEIFORM SIGN ", "E2 TIMES KUR,E2 TIMES PAP,ERIN2 X,ESH2 CROSSING ESH2"⟩,
    ⟨0x124ad, "CUNEIFORM SIGN EZEN SHESHIG TIMES ", "ASH,HI,IGI GUNU,LA,LAL,ME,MES,SU"⟩,
    ⟨0x124b5, "CUNEIFORM SIGN ", "EZEN TIMES SU,GA2 TIMES BAHAR2"⟩,
    ⟨0x124b7, "CUNEIFORM SIGN GA2 TIMES ", "DIM GUNU,DUG TIMES IGI GUNU,DUG TIMES KASKAL,EREN,GA"⟩,
    ⟨0x124bc, "CUNEIFORM SIGN GA2 TIMES ", "GAR PLUS DI,GAR PLUS NE,HA PLUS A,KUSHU2 PLUS KASKAL"⟩,
    ⟨0x124c0, "CUNEIFORM SIGN GA2 TIMES ", "LAM,LAM TIMES KUR,LUH,MUSH,NE,NE PLUS E2,NE PLUS GI"⟩,
    ⟨0x124c7, "CUNEIFORM SIGN ", "GA2 TIMES SHIM,GA2 TIMES ZIZ2,GABA ROTATED NINETY DEGREES"⟩,
    ⟨0x124ca, "CUNEIFORM SIGN ", "GESHTIN TIMES U,GISH TIMES GISH CROSSING GISH"⟩,
    ⟨0x124cc, "CUNEIFORM SIGN ", "GU2 TIMES IGI GUNU,GUD PLUS GISH TIMES TAK4"⟩,
    ⟨0x124ce, "CUNEIFORM SIGN ", "HA TENU GUNU,HI TIMES ASH OVER HI TIMES ASH,KA TIMES BU"⟩,
    ⟨0x124d1, "CUNEIFORM SIGN ", "KA TIMES KA,KA TIMES U U U,KA TIMES UR,LAGAB TIMES ZU OVER ZU"⟩,
    ⟨0x124d5, "CUNEIFORM SIGN LAK-", "003,021,025,030,050,051,062,079 OVER LAK-079 GUNU"⟩,
    ⟨0x124dd, "CUNEIFORM SIGN LAK-", "080,081 OVER LAK-081,092,130,142,210,219,220,225,228"⟩,
    ⟨0x124e7, "CUNEIFORM SIGN LAK-", "238,265,266,343,347,348,383,384,390,441,449,449 TIMES GU"⟩,
    ⟨0x124f3, "CUNEIFORM SIGN LAK-449 TIMES ", "IGI,PAP PLUS LU3,PAP PLUS PAP PLUS LU3,U2 PLUS BA"⟩,
    ⟨0x124f7, "CUNEIFORM SIGN LAK-", "450,457,470,483,490,492,493,495,550,608,617"⟩,
    ⟨0x12502, "CUNEIFORM SIGN LAK-617 TIMES ", "ASH,BAD,DUN3 GUNU GUNU,KU3,LA,TAR,TE,U2,UD,URUDA"⟩,
    ⟨0x1250c, "CUNEIFORM SIGN LAK-", "636,648"⟩,
    ⟨0x1250e, "CUNEIFORM SIGN LAK-648 TIMES ", "DUB,GA,IGI,IGI GUNU"⟩,
    ⟨0x12512, "CUNEIFORM SIGN LAK-648 TIMES ", "NI,PAP PLUS PAP PLUS LU3,SHESH PLUS KI,UD,URUDA"⟩,
    ⟨0x12517, "CUNEIFORM SIGN ", "LAK-724,LAK-749,LU2 GUNU TIMES ASH"⟩,
    ⟨0x1251a, "CUNEIFORM SIGN LU2 TIMES ", "DISH,HAL,PAP,PAP PLUS PAP PLUS LU3,TAK4"⟩,
    ⟨0x1251f, "CUNEIFORM SIGN ", "MI PLUS ZA7,MUSH OVER MUSH TIMES GA,MUSH OVER MUSH TIMES KAK"⟩,
    ⟨0x12522, "CUNEIFORM SIGN NINDA2 TIMES ", "DIM GUNU,GISH,GUL,HI"⟩,
    ⟨0x12526, "CUNEIFORM SIGN NINDA2 TIMES ", "KESH2,LAK-050,MASH,PAP PLUS PAP,U,U PLUS U,URUDA"⟩,
    ⟨0x1252d, "CUNEIFORM SIGN SAG ", "GUNU TIMES HA,TIMES EN,TIMES SHE AT LEFT,TIMES TAK4"⟩,
    ⟨0x12531, "CUNEIFORM SIGN ", "SHA6 TENU,SHE OVER SHE,SHE PLUS HUB2,SHE PLUS NAM2,SHE PLUS SAR"⟩,
    ⟨0x12536, "CUNEIFORM SIGN ", "SHU2 PLUS DUG TIMES NI,SHU2 PLUS E2 TIMES AN,SI TIMES TAK4"⟩,
    ⟨0x12539, "CUNEIFORM SIGN ", "TAK4 PLUS SAG,TUM TIMES GAN2 TENU,TUM TIMES THREE DISH"⟩,
    ⟨0x1253c, "CUNEIFORM SIGN ", "UR2 INVERTED,UR2 TIMES UD,URU TIMES DARA3,URU TIMES LAK-668"⟩,
    ⟨0x12540, "CUNEIFORM SIGN ", "URU TIMES LU3,ZA7,ZU OVER ZU PLUS SAR,ZU5 TIMES THREE DISH TENU"⟩,
    ⟨0x12f90, "CYPRO-MINOAN SIGN ", "CM001,CM002,CM004,CM005,CM006,CM007,CM008,CM009,CM010"⟩,
    ⟨0x12f99, "CYPRO-MINOAN SIGN ", "CM011,CM012,CM012B,CM013,CM015,CM017,CM019,CM021,CM023,CM024"⟩,
    ⟨0x12fa3, "CYPRO-MINOAN SIGN ", "CM025,CM026,CM027,CM028,CM029,CM030,CM033,CM034,CM035,CM036"⟩,
    ⟨0x12fad, "CYPRO-MINOAN SIGN ", "CM037,CM038,CM039,CM040,CM041,CM044,CM046,CM047,CM049,CM050"⟩,
    ⟨0x12fb7, "CYPRO-MINOAN SIGN ", "CM051,CM052,CM053,CM054,CM055,CM056,CM058,CM059,CM060,CM061"⟩,
    ⟨0x12fc1, "CYPRO-MINOAN SIGN ", "CM062,CM063,CM064,CM066,CM067,CM068,CM069,CM070,CM071,CM072"⟩,
    ⟨0x12fcb, "CYPRO-MINOAN SIGN ", "CM073,CM074,CM075,CM075B,CM076,CM078,CM079,CM080,CM081,CM082"⟩,
    ⟨0x12fd5, "CYPRO-MINOAN SIGN ", "CM083,CM084,CM085,CM086,CM087,CM088,CM089,CM090,CM091,CM092"⟩,
    ⟨0x12fdf, "CYPRO-MINOAN SIGN ", "CM094,CM095,CM096,CM097,CM098,CM099,CM100,CM101,CM102,CM103"⟩,
    ⟨0x12fe9, "CYPRO-MINOAN SIGN ", "CM104,CM105,CM107,CM108,CM109,CM110,CM112,CM114,CM301,CM302"⟩]

end HttpRouting.Text.CharacterName
