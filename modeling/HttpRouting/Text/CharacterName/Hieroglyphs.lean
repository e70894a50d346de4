import HttpRouting.Text.CharacterName.Run

/-!
# Names of hieroglyphs and of further scripts

The names from U+13000 to U+1CFC3 in the Unicode standard.
-/

namespace HttpRouting.Text.CharacterName

def hieroglyphs : List Run :=
  [
    ⟨0x13000, "EGYPTIAN HIEROGLYPH ", "A001,A002,A003,A004,A005,A005A,A006,A006A,A006B,A007,A008"⟩,
    ⟨0x1300b, "EGYPTIAN HIEROGLYPH ", "A009,A010,A011,A012,A013,A014,A014A,A015,A016,A017,A017A"⟩,
    ⟨0x13016, "EGYPTIAN HIEROGLYPH ", "A018,A019,A020,A021,A022,A023,A024,A025,A026,A027,A028"⟩,
    ⟨0x13021, "EGYPTIAN HIEROGLYPH ", "A029,A030,A031,A032,A032A,A033,A034,A035,A036,A037,A038"⟩,
    ⟨0x1302c, "EGYPTIAN HIEROGLYPH ", "A039,A040,A040A,A041,A042,A042A,A043,A043A,A044,A045,A045A"⟩,
    ⟨0x13037, "EGYPTIAN HIEROGLYPH ", "A046,A047,A048,A049,A050,A051,A052,A053,A054,A055,A056"⟩,
    ⟨0x13042, "EGYPTIAN HIEROGLYPH ", "A057,A058,A059,A060,A061,A062,A063,A064,A065,A066,A067"⟩,
    ⟨0x1304d, "EGYPTIAN HIEROGLYPH ", "A068,A069,A070,B001,B002,B003,B004,B005,B005A,B006,B007"⟩,
    ⟨0x13058, "EGYPTIAN HIEROGLYPH ", "B008,B009,C001,C002,C002A,C002B,C002C,C003,C004,C005,C006"⟩,
    ⟨0x13063, "EGYPTIAN HIEROGLYPH ", "C007,C008,C009,C010,C010A,C011,C012,C013,C014,C015,C016"⟩,
    ⟨0x1306e, "EGYPTIAN HIEROGLYPH ", "C017,C018,C019,C020,C021,C022,C023,C024,D001,D002,D003"⟩,
    ⟨0x13079, "EGYPTIAN HIEROGLYPH ", "D004,D005,D006,D007,D008,D008A,D009,D010,D011,D012,D013"⟩,
    ⟨0x13084, "EGYPTIAN HIEROGLYPH ", "D014,D015,D016,D017,D018,D019,D020,D021,D022,D023,D024"⟩,
    ⟨0x1308f, "EGYPTIAN HIEROGLYPH ", "D025,D026,D027,D027A,D028,D029,D030,D031,D031A,D032,D033"⟩,
    ⟨0x1309a, "EGYPTIAN HIEROGLYPH ", "D034,D034A,D035,D036,D037,D038,D039,D040,D041,D042,D043"⟩,
    ⟨0x130a5, "EGYPTIAN HIEROGLYPH ", "D044,D045,D046,D046A,D047,D048,D048A,D049,D050,D050A,D050B"⟩,
    ⟨0x130b0, "EGYPTIAN HIEROGLYPH ", "D050C,D050D,D050E,D050F,D050G,D050H,D050I,D051,D052,D052A"⟩,
    ⟨0x130ba, "EGYPTIAN HIEROGLYPH ", "D053,D054,D054A,D055,D056,D057,D058,D059,D060,D061,D062"⟩,
    ⟨0x130c5, "EGYPTIAN HIEROGLYPH ", "D063,D064,D065,D066,D067,D067A,D067B,D067C,D067D,D067E"⟩,
    ⟨0x130cf, "EGYPTIAN HIEROGLYPH ", "D067F,D067G,D067H,E001,E002,E003,E004,E005,E006,E007,E008"⟩,
    ⟨0x130da, "EGYPTIAN HIEROGLYPH ", "E008A,E009,E009A,E010,E011,E012,E013,E014,E015,E016,E016A"⟩,
    ⟨0x130e5, "EGYPTIAN HIEROGLYPH ", "E017,E017A,E018,E019,E020,E020A,E021,E022,E023,E024,E025"⟩,
    ⟨0x130f0, "EGYPTIAN HIEROGLYPH ", "E026,E027,E028,E028A,E029,E030,E031,E032,E033,E034,E034A"⟩,
    ⟨0x130fb, "EGYPTIAN HIEROGLYPH ", "E036,E037,E038,F001,F001A,F002,F003,F004,F005,F006,F007"⟩,
    ⟨0x13106, "EGYPTIAN HIEROGLYPH ", "F008,F009,F010,F011,F012,F013,F013A,F014,F015,F016,F017"⟩,
    ⟨0x13111, "EGYPTIAN HIEROGLYPH ", "F018,F019,F020,F021,F021A,F022,F023,F024,F025,F026,F027"⟩,
    ⟨0x1311c, "EGYPTIAN HIEROGLYPH ", "F028,F029,F030,F031,F031A,F032,F033,F034,F035,F036,F037"⟩,
    ⟨0x13127, "EGYPTIAN HIEROGLYPH ", "F037A,F038,F038A,F039,F040,F041,F042,F043,F044,F045,F045A"⟩,
    ⟨0x13132, "EGYPTIAN HIEROGLYPH ", "F046,F046A,F047,F047A,F048,F049,F050,F051,F051A,F051B"⟩,
    ⟨0x1313c, "EGYPTIAN HIEROGLYPH ", "F051C,F052,F053,G001,G002,G003,G004,G005,G006,G006A,G007"⟩,
    ⟨0x13147, "EGYPTIAN HIEROGLYPH ", "G007A,G007B,G008,G009,G010,G011,G011A,G012,G013,G014,G015"⟩,
    ⟨0x13152, "EGYPTIAN HIEROGLYPH ", "G016,G017,G018,G019,G020,G020A,G021,G022,G023,G024,G025"⟩,
    ⟨0x1315d, "EGYPTIAN HIEROGLYPH ", "G026,G026A,G027,G028,G029,G030,G031,G032,G033,G034,G035"⟩,
    ⟨0x13168, "EGYPTIAN HIEROGLYPH ", "G036,G036A,G037,G037A,G038,G039,G040,G041,G042,G043,G043A"⟩,
    ⟨0x13173, "EGYPTIAN HIEROGLYPH ", "G044,G045,G045A,G046,G047,G048,G049,G050,G051,G052,G053"⟩,
    ⟨0x1317e, "EGYPTIAN HIEROGLYPH ", "G054,H001,H002,H003,H004,H005,H006,H006A,H007,H008,I001"⟩,
    ⟨0x13189, "EGYPTIAN HIEROGLYPH ", "I002,I003,I004,I005,I005A,I006,I007,I008,I009,I009A,I010"⟩,
    ⟨0x13194, "EGYPTIAN HIEROGLYPH ", "I010A,I011,I011A,I012,I013,I014,I015,K001,K002,K003,K004"⟩,
    ⟨0x1319f, "EGYPTIAN HIEROGLYPH ", "K005,K006,K007,K008,L001,L002,L002A,L003,L004,L005,L006"⟩,
    ⟨0x131aa, "EGYPTIAN HIEROGLYPH ", "L006A,L007,L008,M001,M001A,M001B,M002,M003,M003A,M004,M005"⟩,
    ⟨0x131b5, "EGYPTIAN HIEROGLYPH ", "M006,M007,M008,M009,M010,M010A,M011,M012,M012A,M012B,M012C"⟩,
    ⟨0x131c0, "EGYPTIAN HIEROGLYPH ", "M012D,M012E,M012F,M012G,M012H,M013,M014,M015,M015A,M016"⟩,
    ⟨0x131ca, "EGYPTIAN HIEROGLYPH ", "M016A,M017,M017A,M018,M019,M020,M021,M022,M022A,M023,M024"⟩,
    ⟨0x131d5, "EGYPTIAN HIEROGLYPH ", "M024A,M025,M026,M027,M028,M028A,M029,M030,M031,M031A,M032"⟩,
    ⟨0x131e0, "EGYPTIAN HIEROGLYPH ", "M033,M033A,M033B,M034,M035,M036,M037,M038,M039,M040,M040A"⟩,
    ⟨0x131eb, "EGYPTIAN HIEROGLYPH ", "M041,M042,M043,M044,N001,N002,N003,N004,N005,N006,N007"⟩,
    ⟨0x131f6, "EGYPTIAN HIEROGLYPH ", "N008,N009,N010,N011,N012,N013,N014,N015,N016,N017,N018"⟩,
    ⟨0x13201, "EGYPTIAN HIEROGLYPH ", "N018A,N018B,N019,N020,N021,N022,N023,N024,N025,N025A,N026"⟩,
    ⟨0x1320c, "EGYPTIAN HIEROGLYPH ", "N027,N028,N029,N030,N031,N032,N033,N033A,N034,N034A,N035"⟩,
    ⟨0x13217, "EGYPTIAN HIEROGLYPH ", "N035A,N036,N037,N037A,N038,N039,N040,N041,N042,NL001,NL002"⟩,
    ⟨0x13222, "EGYPTIAN HIEROGLYPH ", "NL003,NL004,NL005,NL005A,NL006,NL007,NL008,NL009,NL010"⟩,
    ⟨0x1322b, "EGYPTIAN HIEROGLYPH ", "NL011,NL012,NL013,NL014,NL015,NL016,NL017,NL017A,NL018"⟩,
    ⟨0x13234, "EGYPTIAN HIEROGLYPH ", "NL019,NL020,NU001,NU002,NU003,NU004,NU005,NU006,NU007"⟩,
    ⟨0x1323d, "EGYPTIAN HIEROGLYPH ", "NU008,NU009,NU010,NU010A,NU011,NU011A,NU012,NU013,NU014"⟩,
    ⟨0x13246, "EGYPTIAN HIEROGLYPH ", "NU015,NU016,NU017,NU018,NU018A,NU019,NU020,NU021,NU022"⟩,
    ⟨0x1324f, "EGYPTIAN HIEROGLYPH ", "NU022A,O001,O001A,O002,O003,O004,O005,O005A,O006,O006A"⟩,
    ⟨0x13259, "EGYPTIAN HIEROGLYPH ", "O006B,O006C,O006D,O006E,O006F,O007,O008,O009,O010,O010A"⟩,
    ⟨0x13263, "EGYPTIAN HIEROGLYPH ", "O010B,O010C,O011,O012,O013,O014,O015,O016,O017,O018,O019"⟩,
    ⟨0x1326e, "EGYPTIAN HIEROGLYPH ", "O019A,O020,O020A,O021,O022,O023,O024,O024A,O025,O025A,O026"⟩,
    ⟨0x13279, "EGYPTIAN HIEROGLYPH ", "O027,O028,O029,O029A,O030,O030A,O031,O032,O033,O033A,O034"⟩,
    ⟨0x13284, "EGYPTIAN HIEROGLYPH ", "O035,O036,O036A,O036B,O036C,O036D,O037,O038,O039,O040,O041"⟩,
    ⟨0x1328f, "EGYPTIAN HIEROGLYPH ", "O042,O043,O044,O045,O046,O047,O048,O049,O050,O050A,O050B"⟩,
    ⟨0x1329a, "EGYPTIAN HIEROGLYPH ", "O051,P001,P001A,P002,P003,P003A,P004,P005,P006,P007,P008"⟩,
    ⟨0x132a5, "EGYPTIAN HIEROGLYPH ", "P009,P010,P011,Q001,Q002,Q003,Q004,Q005,Q006,Q007,R001"⟩,
    ⟨0x132b0, "EGYPTIAN HIEROGLYPH ", "R002,R002A,R003,R003A,R003B,R004,R005,R006,R007,R008,R009"⟩,
    ⟨0x132bb, "EGYPTIAN HIEROGLYPH ", "R010,R010A,R011,R012,R013,R014,R015,R016,R016A,R017,R018"⟩,
    ⟨0x132c6, "EGYPTIAN HIEROGLYPH ", "R019,R020,R021,R022,R023,R024,R025,R026,R027,R028,R029"⟩,
    ⟨0x132d1, "EGYPTIAN HIEROGLYPH ", "S001,S002,S002A,S003,S004,S005,S006,S006A,S007,S008,S009"⟩,
    ⟨0x132dc, "EGYPTIAN HIEROGLYPH ", "S010,S011,S012,S013,S014,S014A,S014B,S015,S016,S017,S017A"⟩,
    ⟨0x132e7, "EGYPTIAN HIEROGLYPH ", "S018,S019,S020,S021,S022,S023,S024,S025,S026,S026A,S026B"⟩,
    ⟨0x132f2, "EGYPTIAN HIEROGLYPH ", "S027,S028,S029,S030,S031,S032,S033,S034,S035,S035A,S036"⟩,
    ⟨0x132fd, "EGYPTIAN HIEROGLYPH ", "S037,S038,S039,S040,S041,S042,S043,S044,S045,S046,T001"⟩,
    ⟨0x13308, "EGYPTIAN HIEROGLYPH ", "T002,T003,T003A,T004,T005,T006,T007,T007A,T008,T008A,T009"⟩,
    ⟨0x13313, "EGYPTIAN HIEROGLYPH ", "T009A,T010,T011,T011A,T012,T013,T014,T015,T016,T016A,T017"⟩,
    ⟨0x1331e, "EGYPTIAN HIEROGLYPH ", "T018,T019,T020,T021,T022,T023,T024,T025,T026,T027,T028"⟩,
    ⟨0x13329, "EGYPTIAN HIEROGLYPH ", "T029,T030,T031,T032,T032A,T033,T033A,T034,T035,T036,U001"⟩,
    ⟨0x13334, "EGYPTIAN HIEROGLYPH ", "U002,U003,U004,U005,U006,U006A,U006B,U007,U008,U009,U010"⟩,
    ⟨0x1333f, "EGYPTIAN HIEROGLYPH ", "U011,U012,U013,U014,U015,U016,U017,U018,U019,U020,U021"⟩,
    ⟨0x1334a, "EGYPTIAN HIEROGLYPH ", "U022,U023,U023A,U024,U025,U026,U027,U028,U029,U029A,U030"⟩,
    ⟨0x13355, "EGYPTIAN HIEROGLYPH ", "U031,U032,U032A,U033,U034,U035,U036,U037,U038,U039,U040"⟩,
    ⟨0x13360, "EGYPTIAN HIEROGLYPH ", "U041,U042,V001,V001A,V001B,V001C,V001D,V001E,V001F,V001G"⟩,
    ⟨0x1336a, "EGYPTIAN HIEROGLYPH ", "V001H,V001I,V002,V002A,V003,V004,V005,V006,V007,V007A"⟩,
    ⟨0x13374, "EGYPTIAN HIEROGLYPH ", "V007B,V008,V009,V010,V011,V011A,V011B,V011C,V012,V012A"⟩,
    ⟨0x1337e, "EGYPTIAN HIEROGLYPH ", "V012B,V013,V014,V015,V016,V017,V018,V019,V020,V020A,V020B"⟩,
    ⟨0x13389, "EGYPTIAN HIEROGLYPH ", "V020C,V020D,V020E,V020F,V020G,V020H,V020I,V020J,V020K"⟩,
    ⟨0x13392, "EGYPTIAN HIEROGLYPH ", "V020L,V021,V022,V023,V023A,V024,V025,V026,V027,V028,V028A"⟩,
    ⟨0x1339d, "EGYPTIAN HIEROGLYPH ", "V029,V029A,V030,V030A,V031,V031A,V032,V033,V033A,V034"⟩,
    ⟨0x133a7, "EGYPTIAN HIEROGLYPH ", "V035,V036,V037,V037A,V038,V039,V040,V040A,W001,W002,W003"⟩,
    ⟨0x133b2, "EGYPTIAN HIEROGLYPH ", "W003A,W004,W005,W006,W007,W008,W009,W009A,W010,W010A,W011"⟩,
    ⟨0x133bd, "EGYPTIAN HIEROGLYPH ", "W012,W013,W014,W014A,W015,W016,W017,W017A,W018,W018A,W019"⟩,
    ⟨0x133c8, "EGYPTIAN HIEROGLYPH ", "W020,W021,W022,W023,W024,W024A,W025,X001,X002,X003,X004"⟩,
    ⟨0x133d3, "EGYPTIAN HIEROGLYPH ", "X004A,X004B,X005,X006,X006A,X007,X008,X008A,Y001,Y001A"⟩,
    ⟨0x133dd, "EGYPTIAN HIEROGLYPH ", "Y002,Y003,Y004,Y005,Y006,Y007,Y008,Z001,Z002,Z002A,Z002B"⟩,
    ⟨0x133e8, "EGYPTIAN HIEROGLYPH ", "Z002C,Z002D,Z003,Z003A,Z003B,Z004,Z004A,Z005,Z005A,Z006"⟩,
    ⟨0x133f2, "EGYPTIAN HIEROGLYPH ", "Z007,Z008,Z009,Z010,Z011,Z012,Z013,Z014,Z015,Z015A,Z015B"⟩,
    ⟨0x133fd, "EGYPTIAN HIEROGLYPH ", "Z015C,Z015D,Z015E,Z015F,Z015G,Z015H,Z015I,Z016,Z016A,Z016B"⟩,
    ⟨0x13407, "EGYPTIAN HIEROGLYPH ", "Z016C,Z016D,Z016E,Z016F,Z016G,Z016H,AA001,AA002,AA003"⟩,
    ⟨0x13410, "EGYPTIAN HIEROGLYPH ", "AA004,AA005,AA006,AA007,AA007A,AA007B,AA008,AA009,AA010"⟩,
    ⟨0x13419, "EGYPTIAN HIEROGLYPH ", "AA011,AA012,AA013,AA014,AA015,AA016,AA017,AA018,AA019"⟩,
    ⟨0x13422, "EGYPTIAN HIEROGLYPH ", "AA020,AA021,AA022,AA023,AA024,AA025,AA026,AA027,AA028"⟩,
    ⟨0x1342b, "EGYPTIAN HIEROGLYPH ", "AA029,AA030,AA031,AA032,,VERTICAL JOINER,HORIZONTAL JOINER"⟩,
    ⟨0x13432, "EGYPTIAN HIEROGLYPH INSERT AT ", "TOP START,BOTTOM START,TOP END,BOTTOM END"⟩,
    ⟨0x13436, "EGYPTIAN HIEROGLYPH ", "OVERLAY MIDDLE,BEGIN SEGMENT,END SEGMENT"⟩,
    ⟨0x14400, "ANATOLIAN HIEROGLYPH ", "A001,A002,A003,A004,A005,A006"⟩,
    ⟨0x14406, "ANATOLIAN HIEROGLYPH ", "A007,A008,A009,A010,A010A,A011,A012,A013,A014,A015,A016"⟩,
    ⟨0x14411, "ANATOLIAN HIEROGLYPH ", "A017,A018,A019,A020,A021,A022,A023,A024,A025,A026,A026A"⟩,
    ⟨0x1441c, "ANATOLIAN HIEROGLYPH ", "A027,A028,A029,A030,A031,A032,A033,A034,A035,A036,A037"⟩,
    ⟨0x14427, "ANATOLIAN HIEROGLYPH ", "A038,A039,A039A,A040,A041,A041A,A042,A043,A044,A045,A045A"⟩,
    ⟨0x14432, "ANATOLIAN HIEROGLYPH ", "A046,A046A,A046B,A047,A048,A049,A050,A051,A052,A053,A054"⟩,
    ⟨0x1443d, "ANATOLIAN HIEROGLYPH ", "A055,A056,A057,A058,A059,A060,A061,A062,A063,A064,A065"⟩,
    ⟨0x14448, "ANATOLIAN HIEROGLYPH ", "A066,A066A,A066B,A066C,A067,A068,A069,A070,A071,A072,A073"⟩,
    ⟨0x14453, "ANATOLIAN HIEROGLYPH ", "A074,A075,A076,A077,A078,A079,A080,A081,A082,A083,A084"⟩,
    ⟨0x1445e, "ANATOLIAN HIEROGLYPH ", "A085,A086,A087,A088,A089,A090,A091,A092,A093,A094,A095"⟩,
    ⟨0x14469, "ANATOLIAN HIEROGLYPH ", "A096,A097,A097A,A098,A098A,A099,A100,A100A,A101,A101A"⟩,
    ⟨0x14473, "ANATOLIAN HIEROGLYPH ", "A102,A102A,A103,A104,A104A,A104B,A104C,A105,A105A,A105B"⟩,
    ⟨0x1447d, "ANATOLIAN HIEROGLYPH ", "A106,A107,A107A,A107B,A107C,A108,A109,A110,A110A,A110B"⟩,
    ⟨0x14487, "ANATOLIAN HIEROGLYPH ", "A111,A112,A113,A114,A115,A115A,A116,A117,A118,A119,A120"⟩,
    ⟨0x14492, "ANATOLIAN HIEROGLYPH ", "A121,A122,A123,A124,A125,A125A,A126,A127,A128,A129,A130"⟩,
    ⟨0x1449d, "ANATOLIAN HIEROGLYPH ", "A131,A132,A133,A134,A135,A135A,A136,A137,A138,A139,A140"⟩,
    ⟨0x144a8, "ANATOLIAN HIEROGLYPH ", "A141,A142,A143,A144,A145,A146,A147,A148,A149,A150,A151"⟩,
    ⟨0x144b3, "ANATOLIAN HIEROGLYPH ", "A152,A153,A154,A155,A156,A157,A158,A159,A160,A161,A162"⟩,
    ⟨0x144be, "ANATOLIAN HIEROGLYPH ", "A163,A164,A165,A166,A167,A168,A169,A170,A171,A172,A173"⟩,
    ⟨0x144c9, "ANATOLIAN HIEROGLYPH ", "A174,A175,A176,A177,A178,A179,A180,A181,A182,A183,A184"⟩,
    ⟨0x144d4, "ANATOLIAN HIEROGLYPH ", "A185,A186,A187,A188,A189,A190,A191,A192,A193,A194,A195"⟩,
    ⟨0x144df, "ANATOLIAN HIEROGLYPH ", "A196,A197,A198,A199,A200,A201,A202,A202A,A202B,A203,A204"⟩,
    ⟨0x144ea, "ANATOLIAN HIEROGLYPH ", "A205,A206,A207,A207A,A208,A209,A209A,A210,A211,A212,A213"⟩,
    ⟨0x144f5, "ANATOLIAN HIEROGLYPH ", "A214,A215,A215A,A216,A216A,A217,A218,A219,A220,A221,A222"⟩,
    ⟨0x14500, "ANATOLIAN HIEROGLYPH ", "A223,A224,A225,A226,A227,A227A,A228,A229,A230,A231,A232"⟩,
    ⟨0x1450b, "ANATOLIAN HIEROGLYPH ", "A233,A234,A235,A236,A237,A238,A239,A240,A241,A242,A243"⟩,
    ⟨0x14516, "ANATOLIAN HIEROGLYPH ", "A244,A245,A246,A247,A248,A249,A250,A251,A252,A253,A254"⟩,
    ⟨0x14521, "ANATOLIAN HIEROGLYPH ", "A255,A256,A257,A258,A259,A260,A261,A262,A263,A264,A265"⟩,
    ⟨0x1452c, "ANATOLIAN HIEROGLYPH ", "A266,A267,A267A,A268,A269,A270,A271,A272,A273,A274,A275"⟩,
    ⟨0x14537, "ANATOLIAN HIEROGLYPH ", "A276,A277,A278,A279,A280,A281,A282,A283,A284,A285,A286"⟩,
    ⟨0x14542, "ANATOLIAN HIEROGLYPH ", "A287,A288,A289,A289A,A290,A291,A292,A293,A294,A294A,A295"⟩,
    ⟨0x1454d, "ANATOLIAN HIEROGLYPH ", "A296,A297,A298,A299,A299A,A300,A301,A302,A303,A304,A305"⟩,
    ⟨0x14558, "ANATOLIAN HIEROGLYPH ", "A306,A307,A308,A309,A309A,A310,A311,A312,A313,A314,A315"⟩,
    ⟨0x14563, "ANATOLIAN HIEROGLYPH ", "A316,A317,A318,A319,A320,A321,A322,A323,A324,A325,A326"⟩,
    ⟨0x1456e, "ANATOLIAN HIEROGLYPH ", "A327,A328,A329,A329A,A330,A331,A332A,A332B,A332C,A333"⟩,
    ⟨0x14578, "ANATOLIAN HIEROGLYPH ", "A334,A335,A336,A336A,A336B,A336C,A337,A338,A339,A340,A341"⟩,
    ⟨0x14583, "ANATOLIAN HIEROGLYPH ", "A342,A343,A344,A345,A346,A347,A348,A349,A350,A351,A352"⟩,
    ⟨0x1458e, "ANATOLIAN HIEROGLYPH ", "A353,A354,A355,A356,A357,A358,A359,A359A,A360,A361,A362"⟩,
    ⟨0x14599, "ANATOLIAN HIEROGLYPH ", "A363,A364,A364A,A365,A366,A367,A368,A368A,A369,A370,A371"⟩,
    ⟨0x145a4, "ANATOLIAN HIEROGLYPH ", "A371A,A372,A373,A374,A375,A376,A377,A378,A379,A380,A381"⟩,
    ⟨0x145af, "ANATOLIAN HIEROGLYPH ", "A381A,A382,A383 RA OR RI,A383A,A384,A385,A386,A386A,A387"⟩,
    ⟨0x145b8, "ANATOLIAN HIEROGLYPH ", "A388,A389,A390,A391,A392,A393 EIGHT,A394,A395,A396,A397"⟩,
    ⟨0x145c2, "ANATOLIAN HIEROGLYPH ", "A398,A399,A400,A401,A402,A403,A404,A405,A406,A407,A408"⟩,
    ⟨0x145cd, "ANATOLIAN HIEROGLYPH ", "A409,A410 BEGIN LOGOGRAM MARK,A410A END LOGOGRAM MARK"⟩,
    ⟨0x145d0, "ANATOLIAN HIEROGLYPH ", "A411,A412,A413,A414,A415,A416,A417,A418,A419"⟩,
    ⟨0x145d9, "ANATOLIAN HIEROGLYPH ", "A420,A421,A422,A423,A424,A425,A426,A427,A428,A429,A430"⟩,
    ⟨0x145e4, "ANATOLIAN HIEROGLYPH ", "A431,A432,A433,A434,A435,A436,A437,A438,A439,A440,A441"⟩,
    ⟨0x145ef, "ANATOLIAN HIEROGLYPH ", "A442,A443,A444,A445,A446,A447,A448,A449,A450,A450A,A451"⟩,
    ⟨0x145fa, "ANATOLIAN HIEROGLYPH ", "A452,A453,A454,A455,A456,A457,A457A,A458,A459,A460,A461"⟩,
    ⟨0x14605, "ANATOLIAN HIEROGLYPH ", "A462,A463,A464,A465,A466,A467,A468,A469,A470,A471,A472"⟩,
    ⟨0x14610, "ANATOLIAN HIEROGLYPH ", "A473,A474,A475,A476,A477,A478,A479,A480,A481,A482,A483"⟩,
    ⟨0x1461b, "ANATOLIAN HIEROGLYPH ", "A484,A485,A486,A487,A488,A489,A490,A491,A492,A493,A494"⟩,
    ⟨0x14626, "ANATOLIAN HIEROGLYPH ", "A495,A496,A497,A501,A502,A503,A504,A505,A506,A507,A508"⟩,
    ⟨0x14631, "ANATOLIAN HIEROGLYPH ", "A509,A510,A511,A512,A513,A514,A515,A516,A517,A518,A519"⟩,
    ⟨0x1463c, "ANATOLIAN HIEROGLYPH ", "A520,A521,A522,A523,A524,A525,A526,A527,A528,A529,A530"⟩,
    ⟨0x16800, "BAMUM LETTER PHASE-A ", "NGKUE MFON,GBIEE FON,PON MFON PIPAEMGBIEE"⟩,
    ⟨0x16803, "BAMUM LETTER PHASE-A ", "PON MFON PIPAEMBA,NAA MFON,SHUENSHUET"⟩,
    ⟨0x16806, "BAMUM LETTER PHASE-A ", "TITA MFON,NZA MFON,SHINDA PA NJI,PON PA NJI PIPAEMGBIEE"⟩,
    ⟨0x1680a, "BAMUM LETTER PHASE-A ", "PON PA NJI PIPAEMBA,MAEMBGBIEE,TU MAEMBA"⟩,
    ⟨0x1680d, "BAMUM LETTER PHASE-A ", "NGANGU,MAEMVEUX,MANSUAE,MVEUAENGAM,SEUNYAM,NTOQPEN"⟩,
    ⟨0x16813, "BAMUM LETTER PHASE-A ", "KEUKEUTNDA,NKINDI,SUU,NGKUENZEUM,LAPAQ,LET KUT,NTAP MFAA"⟩,
    ⟨0x1681a, "BAMUM LETTER PHASE-A ", "MAEKEUP,PASHAE,GHEUAERAE,PAMSHAE,MON NGGEUAET,NZUN MEUT"⟩,
    ⟨0x16820, "BAMUM LETTER PHASE-A ", "U YUQ NAE,GHEUAEGHEUAE,NTAP NTAA,SISA,MGBASA,MEUNJOMNDEUQ"⟩,
    ⟨0x16826, "BAMUM LETTER PHASE-A ", "MOOMPUQ,KAFA,PA LEERAEWA,NDA LEERAEWA,PET,MAEMKPEN,NIKA"⟩,
    ⟨0x1682d, "BAMUM LETTER PHASE-A ", "PUP,TUAEP,LUAEP,SONJAM,TEUTEUWEN,MAENYI,KET,NDAANGGEUAET"⟩,
    ⟨0x16835, "BAMUM LETTER PHASE-A ", "KUOQ,MOOMEUT,SHUM,LOMMAE,FIRI,ROM,KPOQ,SOQ,MAP PIEET"⟩,
    ⟨0x1683e, "BAMUM LETTER PHASE-A ", "SHIRAE,NTAP,SHOQ NSHUT YUM,NYIT MONGKEUAEQ,PAARAE"⟩,
    ⟨0x16843, "BAMUM LETTER PHASE-A ", "NKAARAE,UNKNOWN,NGGEN,MAESI,NJAM,MBANYI,NYET,TEUAEN"⟩,
    ⟨0x1684b, "BAMUM LETTER PHASE-A ", "SOT,PAAM,NSHIEE,MAEM,NYI,KAQ,NSHA,VEE,LU,NEN,NAQ,MBAQ"⟩,
    ⟨0x16857, "BAMUM LETTER PHASE-B ", "NSHUET,TU MAEMGBIEE,SIEE,SET TU,LOM NTEUM"⟩,
    ⟨0x1685c, "BAMUM LETTER PHASE-B ", "MBA MAELEE,KIEEM,YEURAE,MBAARAE,KAM,PEESHI,YAFU LEERAEWA"⟩,
    ⟨0x16863, "BAMUM LETTER PHASE-B ", "LAM NSHUT NYAM,NTIEE SHEUOQ,NDU NJAA,GHEUGHEUAEM"⟩,
    ⟨0x16867, "BAMUM LETTER PHASE-B ", "PIT,TU NSIEE,SHET NJAQ,SHEUAEQTU,MFON TEUAEQ,MBIT MBAAKET"⟩,
    ⟨0x1686d, "BAMUM LETTER PHASE-B ", "NYI NTEUM,KEUPUQ,GHEUGHEN,KEUYEUX,LAANAE,PARUM,VEUM"⟩,
    ⟨0x16874, "BAMUM LETTER PHASE-B ", "NGKINDI MVOP,NGGEU MBU,WUAET,SAKEUAE,TAAM,MEUQ,NGGUOQ"⟩,
    ⟨0x1687b, "BAMUM LETTER PHASE-B ", "NGGUOQ LARGE,MFIYAQ,SUE,MBEURI,MONTIEEN,NYAEMAE,PUNGAAM"⟩,
    ⟨0x16882, "BAMUM LETTER PHASE-B ", "MEUT NGGEET,FEUX,MBUOQ,FEE,KEUAEM,MA NJEUAENA,MA NJUQA"⟩,
    ⟨0x16889, "BAMUM LETTER PHASE-", "B LET,B NGGAAM,B NSEN,B MA,B KIQ,B NGOM,C NGKUE MAEMBA"⟩,
    ⟨0x16890, "BAMUM LETTER PHASE-C ", "NZA,YUM,WANGKUOQ,NGGEN,NDEUAEREE,NGKAQ,GHARAE"⟩,
    ⟨0x16897, "BAMUM LETTER PHASE-C ", "MBEEKEET,GBAYI,NYIR MKPARAQ MEUN,NTU MBIT,MBEUM,PIRIEEN"⟩,
    ⟨0x1689d, "BAMUM LETTER PHASE-C ", "NDOMBU,MBAA CABBAGE-TREE,KEUSHEUAEP,GHAP,KEUKAQ,YU MUOMAE"⟩,
    ⟨0x168a3, "BAMUM LETTER PHASE-C ", "NZEUM,MBUE,NSEUAEN,MBIT,YEUQ,KPARAQ,KAA,SEUX,NDIDA"⟩,
    ⟨0x168ac, "BAMUM LETTER PHASE-C ", "TAASHAE,NJUEQ,TITA YUE,SUAET,NGGUAEN NYAM,VEUX,NANSANAQ"⟩,
    ⟨0x168b3, "BAMUM LETTER PHASE-C ", "MA KEUAERI,NTAA,NGGUON,LAP,MBIRIEEN,MGBASAQ,NTEUNGBA"⟩,
    ⟨0x168ba, "BAMUM LETTER PHASE-C ", "TEUTEUX,NGGUM,FUE,NDEUT,NSA,NSHAQ,BUNG,VEUAEPEN,MBERAE,RU"⟩,
    ⟨0x168c4, "BAMUM LETTER PHASE-C ", "NJAEM,LAM,TITUAEP,NSUOT NGOM,NJEEEE,KET,NGGU,MAESI,MBUAEM"⟩,
    ⟨0x168cd, "BAMUM LETTER PHASE-C ", "LU,KUT,NJAM,NGOM,WUP,NGGUEET,NSOM,NTEN,KUOP NKAARAE"⟩,
    ⟨0x168d6, "BAMUM LETTER PHASE-C ", "NSUN,NDAM,MA NSIEE,YAA,NDAP,SHUEQ,SETFON,MBI,MAEMBA"⟩,
    ⟨0x168df, "BAMUM LETTER PHASE-C ", "MBANYI,KEUSEUX,MBEUX,KEUM,MBAA PICKET,YUWOQ,NJEUX,MIEE"⟩,
    ⟨0x168e7, "BAMUM LETTER PHASE-C ", "MUAE,SHIQ,KEN LAW,KEN FATIGUE,NGAQ,NAQ,LIQ,PIN,PEN,TET"⟩,
    ⟨0x168f1, "BAMUM LETTER PHASE-D ", "MBUO,WAP,NJI,MFON,NJIEE,LIEE,NJEUT,NSHEE,NGGAAMAE"⟩,
    ⟨0x168fa, "BAMUM LETTER PHASE-D ", "NYAM,WUAEN,NGKUN,SHEE,NGKAP,KEUAETMEUN,TEUT,SHEUAE,NJAP"⟩,
    ⟨0x16903, "BAMUM LETTER PHASE-D ", "SUE,KET,YAEMMAE,KUOM,SAP,MFEUT,NDEUX,MALEERI,MEUT,SEUAEQ"⟩,
    ⟨0x1690d, "BAMUM LETTER PHASE-D ", "YEN,NJEUAEM,KEUOT MBUAE,NGKEURI,TU,GHAA,NGKYEE,FEUFEUAET"⟩,
    ⟨0x16915, "BAMUM LETTER PHASE-D ", "NDEE,MGBOFUM,LEUAEP,NDON,MONI,MGBEUN,PUUT,MGBIEE"⟩,
    ⟨0x1691d, "BAMUM LETTER PHASE-D ", "MFO,LUM,NSIEEP,MBAA,KWAET,NYET,TEUAEN,SOT,YUWOQ,KEUM"⟩,
    ⟨0x16927, "BAMUM LETTER PHASE-D ", "RAEM,TEEEE,NGKEUAEQ,MFEUAE,NSIEET,KEUP,PIP,PEUTAE,NYUE"⟩,
    ⟨0x16930, "BAMUM LETTER PHASE-D ", "LET,NGGAAM,MFIEE,NGGWAEN,YUOM,PAP,YUOP,NDAM,NTEUM,SUAE"⟩,
    ⟨0x1693a, "BAMUM LETTER PHASE-D ", "KUN,NGGEUX,NGKIEE,TUOT,MEUN,KUQ,NSUM,TEUN,MAENJET,NGGAP"⟩,
    ⟨0x16944, "BAMUM LETTER PHASE-D ", "LEUM,NGGUOM,NSHUT,NJUEQ,GHEUAE,KU,REN OLD,TAE,TOQ,NYI"⟩,
    ⟨0x1694e, "BAMUM LETTER PHASE-D ", "RII,LEEEE,MEEEE,M,SUU,MU,SHII,SHEUX,KYEE,NU,SHU,NTEE,PEE"⟩,
    ⟨0x1695b, "BAMUM LETTER PHASE-D ", "NI,SHOQ,PUQ,MVOP,LOQ,REN MUCH,TI,NTUU,MBAA SEVEN,SAQ,FAA"⟩,
    ⟨0x16966, "BAMUM LETTER PHASE-E ", "NDAP,TOON,MBEUM,LAP,VOM,LOON,PAA,SOM,RAQ,NSHUOP"⟩,
    ⟨0x16970, "BAMUM LETTER PHASE-E ", "NDUN,PUAE,TAM,NGKA,KPEUX,WUO,SEE,NGGEUAET,PAAM,TOO,KUOP"⟩,
    ⟨0x1697b, "BAMUM LETTER PHASE-E ", "LOM,NSHIEE,NGOP,MAEM,NGKEUX,NGOQ,NSHUE,RIMGBA,NJEUX,PEEM"⟩,
    ⟨0x16985, "BAMUM LETTER PHASE-E ", "SAA,NGGURAE,MGBA,GHEUX,NGKEUAEM,NJAEMLI,MAP,LOOT,NGGEEEE"⟩,
    ⟨0x1698e, "BAMUM LETTER PHASE-E ", "NDIQ,TAEN NTEUM,SET,PUM,NDAA SOFTNESS,NGGUAESHAE NYAM"⟩,
    ⟨0x16994, "BAMUM LETTER PHASE-E ", "YIEE,GHEUN,TUAE,YEUAE,PO,TUMAE,KEUAE,SUAEN"⟩,
    ⟨0x1699c, "BAMUM LETTER PHASE-E ", "TEUAEQ,VEUAE,WEUX,LAAM,PU,TAAQ,GHAAMAE,NGEUREUT,SHEUAEQ"⟩,
    ⟨0x169a5, "BAMUM LETTER PHASE-E ", "MGBEN,MBEE,NZAQ,NKOM,GBET,TUM,KUET,YAP,NYI CLEAVER"⟩,
    ⟨0x169ae, "BAMUM LETTER PHASE-E ", "YIT,MFEUQ,NDIAQ,PIEEQ,YUEQ,LEUAEM,FUE,GBEUX,NGKUP,KET,MAE"⟩,
    ⟨0x169b9, "BAMUM LETTER PHASE-E ", "NGKAAMI,GHET,FA,NTUM,PEUT,YEUM,NGGEUAE,NYI BETWEEN,NZUQ"⟩,
    ⟨0x169c2, "BAMUM LETTER PHASE-E ", "POON,MIEE,FUET,NAE,MUAE,GHEUAE,FU I,MVI,PUAQ,NGKUM,KUT"⟩,
    ⟨0x169cd, "BAMUM LETTER PHASE-E ", "PIET,NTAP,YEUAET,NGGUP,PA PEOPLE,FU CALL,FOM,NJEE,A,TOQ"⟩,
    ⟨0x169d7, "BAMUM LETTER PHASE-E ", "O,I,LAQ,PA PLURAL,TAA,TAQ,NDAA MY HOUSE,SHIQ,YEUX,NGUAE"⟩,
    ⟨0x169e1, "BAMUM LETTER PHASE-E ", "YUAEN,YOQ SWIMMING,YOQ COVER,YUQ,YUN,KEUX,PEUX,NJEE EPOCH"⟩,
    ⟨0x169e9, "BAMUM LETTER PHASE-E ", "PUE,WUE,FEE,VEE,LU,MI,REUX,RAE,NGUAET,NGA,SHO,SHOQ"⟩,
    ⟨0x169f5, "BAMUM LETTER PHASE-E ", "FU REMEDY,NA,PI,LOQ,KO,MEN,MA,MAQ,TEU,KI,MON,TEN,FAQ,GHOM"⟩,
    ⟨0x16a03, "BAMUM LETTER PHASE-F ", "KA,U,KU,EE,REE,TAE,NYI,LA,RII,RIEE,MEEEE,TAA,NDAA,NJAEM"⟩,
    ⟨0x16a11, "BAMUM LETTER PHASE-F ", "M,SUU,SHII,SI,SEUX,KYEE,KET,NUAE,NU,NJUAE,YOQ,SHU,YA,NSHA"⟩,
    ⟨0x16a1f, "BAMUM LETTER PHASE-F ", "PEUX,NTEE,WUE,PEE,RU,NI,REUX,KEN,NGKWAEN,NGGA,SHO,PUAE"⟩,
    ⟨0x16a2b, "BAMUM LETTER PHASE-F ", "FOM,WA,LI,LOQ,KO,MBEN,REN,MA,MO,MBAA,TET,KPA,SAMBA,VUEQ"⟩,
    ⟨0x16a40, "MRO LETTER ", "TA,NGI,YO,MIM,BA,DA,A,PHI,KHAI,HAO,DAI,CHU"⟩,
    ⟨0x16a4c, "MRO LETTER ", "KEAAE,OL,MAEM,NIN,PA,OO,O,RO,SHI,THEA,EA,WA,E,KO,LAN,LA,HAI,RI,TEK"⟩,
    ⟨0x16a60, "MRO DIGIT ", "ZERO,ONE,TWO,THREE,FOUR,FIVE,SIX,SEVEN,EIGHT,NINE"⟩,
    ⟨0x16a6e, "MRO ", "DANDA,DOUBLE DANDA"⟩,
    ⟨0x16a70, "TANGSA LETTER ", "OZ,OC,OQ,OX,AZ,AC,AQ,AX,VZ,VC,VQ,VX,EZ"⟩,
    ⟨0x16a7d, "TANGSA LETTER ", "EC,EQ,EX,IZ,IC,IQ,IX,UZ,UC,UQ,UX,AWZ,AWC,AWQ,AWX,UIZ,UIC,UIQ,UIX"⟩,
    ⟨0x16a90, "TANGSA LETTER ", "FINAL NG,LONG UEX,SHORT UEZ,SHORT AWX,UEC,UEZ,UEQ,UEX,UIUZ,UIUC"⟩,
    ⟨0x16a9a, "TANGSA LETTER ", "UIUQ,UIUX,MZ,MC,MQ,MX,KA,KHA,GA,NGA,SA,YA,WA,PA,NYA,PHA,BA,MA,NA"⟩,
    ⟨0x16aad, "TANGSA LETTER ", "HA,LA,HTA,TA,DA,RA,NHA,SHA,CA,TSA,GHA,HTTA,THA,XA,FA,DHA,CHA,ZA"⟩,
    ⟨0x16ac0, "TANGSA DIGIT ", "ZERO,ONE,TWO,THREE,FOUR,FIVE,SIX,SEVEN,EIGHT,NINE"⟩,
    ⟨0x16ad0, "BASSA VAH LETTER ", "ENNI,KA,SE,FA,MBE,YIE,GAH,DHII,KPAH,JO,HWAH"⟩,
    ⟨0x16adb, "BASSA VAH LETTER ", "WA,ZO,GBU,DO,CE,UWU,TO,BA,VU,YEIN,PA,WADDA,A,O,OO,U,EE,E,I"⟩,
    ⟨0x16af0, "BASSA VAH COMBINING ", "HIGH TONE,LOW TONE,MID TONE,LOW-MID TONE,HIGH-LOW TONE"⟩,
    ⟨0x16af5, "", "BASSA VAH FULL STOP"⟩,
    ⟨0x16b00, "PAHAWH HMONG VOWEL ", "KEEB,KEEV"⟩,
    ⟨0x16b02, "PAHAWH HMONG VOWEL ", "KIB,KIV,KAUB,KAUV,KUB,KUV,KEB,KEV,KAIB,KAIV,KOOB,KOOV,KAWB"⟩,
    ⟨0x16b0f, "PAHAWH HMONG VOWEL ", "KAWV,KUAB,KUAV,KOB,KOV,KIAB,KIAV,KAB,KAV,KWB,KWV,KAAB,KAAV"⟩,
    ⟨0x16b1c, "PAHAWH HMONG CONSONANT ", "VAU,NTSAU,LAU,HAU,NLAU,RAU,NKAU,QHAU"⟩,
    ⟨0x16b24, "PAHAWH HMONG CONSONANT ", "YAU,HLAU,MAU,CHAU,NCHAU,HNAU,PLHAU,NTHAU,NAU,AU,XAU,CAU"⟩,
    ⟨0x16b30, "PAHAWH HMONG MARK CIM ", "TUB,SO,KES,KHAV,SUAM,HOM,TAUM"⟩,
    ⟨0x16b37, "PAHAWH HMONG SIGN ", "VOS THOM,VOS TSHAB CEEB,CIM CHEEM,VOS THIAB,VOS FEEM"⟩,
    ⟨0x16b3c, "PAHAWH HMONG SIGN XYEEM ", "NTXIV,RHO,TOV,FAIB"⟩,
    ⟨0x16b40, "PAHAWH HMONG SIGN ", "VOS SEEV,MEEJ SUAB,VOS NRUA,IB YAM,XAUS,CIM TSOV ROG"⟩,
    ⟨0x16b50, "PAHAWH HMONG DIGIT ", "ZERO,ONE,TWO,THREE,FOUR,FIVE,SIX,SEVEN,EIGHT,NINE"⟩,
    ⟨0x16b5b, "PAHAWH HMONG NUMBER ", "TENS,HUNDREDS,TEN THOUSANDS,MILLIONS,HUNDRED MILLIONS"⟩,
    ⟨0x16b60, "PAHAWH HMONG ", "NUMBER TEN BILLIONS,NUMBER TRILLIONS,,SIGN VOS LUB"⟩,
    ⟨0x16b64, "PAHAWH HMONG SIGN ", "XYOO,HLI,THIRD-STAGE HLI,ZWJ THAJ,HNUB,NQIG,XIAB,NTUJ"⟩,
    ⟨0x16b6c, "PAHAWH HMONG SIGN ", "AV,TXHEEJ CEEV,MEEJ TSEEB,TAU,LOS,MUS,CIM HAIS LUS NTOG NTOG"⟩,
    ⟨0x16b73, "PAHAWH HMONG SIGN CIM ", "CUAM TSHOOJ,TXWV,TXWV CHWV,PUB DAWB,NRES TOS"⟩,
    ⟨0x16b7d, "PAHAWH HMONG CLAN SIGN ", "TSHEEJ,YEEG,LIS,LAUJ,XYOOJ,KOO,HAWJ"⟩,
    ⟨0x16b84, "PAHAWH HMONG CLAN SIGN ", "MUAS,THOJ,TSAB,PHAB,KHAB,HAM,VAJ,FAJ,YAJ,TSWB,KWM,VWJ"⟩,
    ⟨0x16e40, "MEDEFAIDRIN CAPITAL LETTER ", "M,S,V,W,ATIU,Z,KP,P,T"⟩,
    ⟨0x16e49, "MEDEFAIDRIN CAPITAL LETTER ", "G,F,I,K,A,J,E,B,C,U,YU,L,Q,HP,NY,X,D,OE,N,R,O,AI,Y"⟩,
    ⟨0x16e60, "MEDEFAIDRIN SMALL LETTER ", "M,S,V,W,ATIU,Z,KP,P"⟩,
    ⟨0x16e68, "MEDEFAIDRIN SMALL LETTER ", "T,G,F,I,K,A,J,E,B,C,U,YU,L,Q,HP,NY,X,D,OE,N,R,O,AI,Y"⟩,
    ⟨0x16e80, "MEDEFAIDRIN DIGIT ", "ZERO,ONE,TWO,THREE,FOUR,FIVE,SIX,SEVEN,EIGHT,NINE"⟩,
    ⟨0x16e8a, "MEDEFAIDRIN NUMBER ", "TEN,ELEVEN,TWELVE,THIRTEEN"⟩,
    ⟨0x16e8e, "MEDEFAIDRIN NUMBER ", "FOURTEEN,FIFTEEN,SIXTEEN,SEVENTEEN,EIGHTEEN,NINETEEN"⟩,
    ⟨0x16e94, "MEDEFAIDRIN DIGIT ", "ONE ALTERNATE FORM,TWO ALTERNATE FORM,THREE ALTERNATE FORM"⟩,
    ⟨0x16e97, "MEDEFAIDRIN ", "COMMA,FULL STOP,SYMBOL AIVA,EXCLAMATION OH"⟩,
    ⟨0x16f00, "MIAO LETTER ", "PA,BA,YI PA,PLA,MA,MHA,ARCHAIC MA,FA,VA"⟩,
    ⟨0x16f09, "MIAO LETTER ", "VFA,TA,DA,YI TTA,YI TA,TTA,DDA,NA,NHA,YI NNA,ARCHAIC NA,NNA,NNHA"⟩,
    ⟨0x16f16, "MIAO LETTER ", "LA,LYA,LHA,LHYA,TLHA,DLHA,TLHYA,DLHYA,KA,GA,YI KA,QA,QGA,NGA,NGHA"⟩,
    ⟨0x16f25, "MIAO LETTER ", "ARCHAIC NGA,HA,XA,GHA,GHHA,TSSA,DZZA,NYA,NYHA,TSHA,DZHA,YI TSHA"⟩,
    ⟨0x16f31, "MIAO LETTER ", "YI DZHA,REFORMED TSHA,SHA,SSA,ZHA,ZSHA,TSA,DZA,YI TSA,SA,ZA,ZSA"⟩,
    ⟨0x16f3d, "MIAO LETTER ", "ZZA,ZZSA,ARCHAIC ZZA,ZZYA,ZZSYA,WA,AH,HHA,BRI,SYI,DZYI,TE,TSE,RTE"⟩,
    ⟨0x16f4f, "MIAO ", "SIGN CONSONANT MODIFIER BAR,LETTER NASALIZATION,SIGN ASPIRATION"⟩,
    ⟨0x16f52, "MIAO SIGN REFORMED ", "VOICING,ASPIRATION"⟩,
    ⟨0x16f54, "MIAO VOWEL SIGN ", "A,AA,AHH,AN,ANG,O,OO,WO,W,E,EN,ENG,OEY,I,IA,IAN,IANG,IO,IE"⟩,
    ⟨0x16f67, "MIAO VOWEL SIGN ", "II,IU,ING,U,UA,UAN,UANG,UU,UEI,UNG,Y,YI,AE,AEE,ERR,ROUNDED ERR"⟩,
    ⟨0x16f77, "MIAO VOWEL SIGN ", "ER,ROUNDED ER,AI,EI,AU,OU,N,NG,UOG,YUI,OG,OER,VW,IG,EA,IONG,UI"⟩,
    ⟨0x16f8f, "MIAO TONE ", "RIGHT,TOP RIGHT,ABOVE,BELOW"⟩,
    ⟨0x16f93, "MIAO LETTER TONE-", "2,3,4,5,6,7,8"⟩,
    ⟨0x16f9a, "MIAO LETTER REFORMED TONE-", "1,2,4,5,6,8"⟩,
    ⟨0x16fe0, "", "TANGUT ITERATION MARK,NUSHU ITERATION MARK"⟩,
    ⟨0x16fe2, "", "OLD CHINESE HOOK MARK,OLD CHINESE ITERATION MARK,KHITAN SMALL SCRIPT FILLER"⟩,
    ⟨0x16ff0, "VIETNAMESE ALTERNATE READING MARK ", "CA,NHAY"⟩,
    ⟨0x18800, "TANGUT COMPONENT-", "001,002,003"⟩,
    ⟨0x18803, "TANGUT COMPONENT-", "004,005,006,007,008,009,010,011,012,013,014,015,016,017,018"⟩,
    ⟨0x18812, "TANGUT COMPONENT-", "019,020,021,022,023,024,025,026,027,028,029,030,031,032,033"⟩,
    ⟨0x18821, "TANGUT COMPONENT-", "034,035,036,037,038,039,040,041,042,043,044,045,046,047,048"⟩,
    ⟨0x18830, "TANGUT COMPONENT-", "049,050,051,052,053,054,055,056,057,058,059,060,061,062,063"⟩,
    ⟨0x1883f, "TANGUT COMPONENT-", "064,065,066,067,068,069,070,071,072,073,074,075,076,077,078"⟩,
    ⟨0x1884e, "TANGUT COMPONENT-", "079,080,081,082,083,084,085,086,087,088,089,090,091,092,093"⟩,
    ⟨0x1885d, "TANGUT COMPONENT-", "094,095,096,097,098,099,100,101,102,103,104,105,106,107,108"⟩,
    ⟨0x1886c, "TANGUT COMPONENT-", "109,110,111,112,113,114,115,116,117,118,119,120,121,122,123"⟩,
    ⟨0x1887b, "TANGUT COMPONENT-", "124,125,126,127,128,129,130,131,132,133,134,135,136,137,138"⟩,
    ⟨0x1888a, "TANGUT COMPONENT-", "139,140,141,142,143,144,145,146,147,148,149,150,151,152,153"⟩,
    ⟨0x18899, "TANGUT COMPONENT-", "154,155,156,157,158,159,160,161,162,163,164,165,166,167,168"⟩,
    ⟨0x188a8, "TANGUT COMPONENT-", "169,170,171,172,173,174,175,176,177,178,179,180,181,182,183"⟩,
    ⟨0x188b7, "TANGUT COMPONENT-", "184,185,186,187,188,189,190,191,192,193,194,195,196,197,198"⟩,
    ⟨0x188c6, "TANGUT COMPONENT-", "199,200,201,202,203,204,205,206,207,208,209,210,211,212,213"⟩,
    ⟨0x188d5, "TANGUT COMPONENT-", "214,215,216,217,218,219,220,221,222,223,224,225,226,227,228"⟩,
    ⟨0x188e4, "TANGUT COMPONENT-", "229,230,231,232,233,234,235,236,237,238,239,240,241,242,243"⟩,
    ⟨0x188f3, "TANGUT COMPONENT-", "244,245,246,247,248,249,250,251,252,253,254,255,256,257,258"⟩,
    ⟨0x18902, "TANGUT COMPONENT-", "259,260,261,262,263,264,265,266,267,268,269,270,271,272,273"⟩,
    ⟨0x18911, "TANGUT COMPONENT-", "274,275,276,277,278,279,280,281,282,283,284,285,286,287,288"⟩,
    ⟨0x18920, "TANGUT COMPONENT-", "289,290,291,292,293,294,295,296,297,298,299,300,301,302,303"⟩,
    ⟨0x1892f, "TANGUT COMPONENT-", "304,305,306,307,308,309,310,311,312,313,314,315,316,317,318"⟩,
    ⟨0x1893e, "TANGUT COMPONENT-", "319,320,321,322,323,324,325,326,327,328,329,330,331,332,333"⟩,
    ⟨0x1894d, "TANGUT COMPONENT-", "334,335,336,337,338,339,340,341,342,343,344,345,346,347,348"⟩,
    ⟨0x1895c, "TANGUT COMPONENT-", "349,350,351,352,353,354,355,356,357,358,359,360,361,362,363"⟩,
    ⟨0x1896b, "TANGUT COMPONENT-", "364,365,366,367,368,369,370,371,372,373,374,375,376,377,378"⟩,
    ⟨0x1897a, "TANGUT COMPONENT-", "379,380,381,382,383,384,385,386,387,388,389,390,391,392,393"⟩,
    ⟨0x18989, "TANGUT COMPONENT-", "394,395,396,397,398,399,400,401,402,403,404,405,406,407,408"⟩,
    ⟨0x18998, "TANGUT COMPONENT-", "409,410,411,412,413,414,415,416,417,418,419,420,421,422,423"⟩,
    ⟨0x189a7, "TANGUT COMPONENT-", "424,425,426,427,428,429,430,431,432,433,434,435,436,437,438"⟩,
    ⟨0x189b6, "TANGUT COMPONENT-", "439,440,441,442,443,444,445,446,447,448,449,450,451,452,453"⟩,
    ⟨0x189c5, "TANGUT COMPONENT-", "454,455,456,457,458,459,460,461,462,463,464,465,466,467,468"⟩,
    ⟨0x189d4, "TANGUT COMPONENT-", "469,470,471,472,473,474,475,476,477,478,479,480,481,482,483"⟩,
    ⟨0x189e3, "TANGUT COMPONENT-", "484,485,486,487,488,489,490,491,492,493,494,495,496,497,498"⟩,
    ⟨0x189f2, "TANGUT COMPONENT-", "499,500,501,502,503,504,505,506,507,508,509,510,511,512,513"⟩,
    ⟨0x18a01, "TANGUT COMPONENT-", "514,515,516,517,518,519,520,521,522,523,524,525,526,527,528"⟩,
    ⟨0x18a10, "TANGUT COMPONENT-", "529,530,531,532,533,534,535,536,537,538,539,540,541,542,543"⟩,
    ⟨0x18a1f, "TANGUT COMPONENT-", "544,545,546,547,548,549,550,551,552,553,554,555,556,557,558"⟩,
    ⟨0x18a2e, "TANGUT COMPONENT-", "559,560,561,562,563,564,565,566,567,568,569,570,571,572,573"⟩,
    ⟨0x18a3d, "TANGUT COMPONENT-", "574,575,576,577,578,579,580,581,582,583,584,585,586,587,588"⟩,
    ⟨0x18a4c, "TANGUT COMPONENT-", "589,590,591,592,593,594,595,596,597,598,599,600,601,602,603"⟩,
    ⟨0x18a5b, "TANGUT COMPONENT-", "604,605,606,607,608,609,610,611,612,613,614,615,616,617,618"⟩,
    ⟨0x18a6a, "TANGUT COMPONENT-", "619,620,621,622,623,624,625,626,627,628,629,630,631,632,633"⟩,
    ⟨0x18a79, "TANGUT COMPONENT-", "634,635,636,637,638,639,640,641,642,643,644,645,646,647,648"⟩,
    ⟨0x18a88, "TANGUT COMPONENT-", "649,650,651,652,653,654,655,656,657,658,659,660,661,662,663"⟩,
    ⟨0x18a97, "TANGUT COMPONENT-", "664,665,666,667,668,669,670,671,672,673,674,675,676,677,678"⟩,
    ⟨0x18aa6, "TANGUT COMPONENT-", "679,680,681,682,683,684,685,686,687,688,689,690,691,692,693"⟩,
    ⟨0x18ab5, "TANGUT COMPONENT-", "694,695,696,697,698,699,700,701,702,703,704,705,706,707,708"⟩,
    ⟨0x18ac4, "TANGUT COMPONENT-", "709,710,711,712,713,714,715,716,717,718,719,720,721,722,723"⟩,
    ⟨0x18ad3, "TANGUT COMPONENT-", "724,725,726,727,728,729,730,731,732,733,734,735,736,737,738"⟩,
    ⟨0x18ae2, "TANGUT COMPONENT-", "739,740,741,742,743,744,745,746,747,748,749,750,751,752,753"⟩,
    ⟨0x18af1, "TANGUT COMPONENT-", "754,755,756,757,758,759,760,761,762,763,764,765,766,767,768"⟩,
    ⟨0x18b00, "KHITAN SMALL SCRIPT CHARACTER-", "18B00,18B01,18B02,18B03,18B04,18B05"⟩,
    ⟨0x18b06, "KHITAN SMALL SCRIPT CHARACTER-", "18B06,18B07,18B08,18B09,18B0A,18B0B,18B0C,18B0D"⟩,
    ⟨0x18b0e, "KHITAN SMALL SCRIPT CHARACTER-", "18B0E,18B0F,18B10,18B11,18B12,18B13,18B14,18B15"⟩,
    ⟨0x18b16, "KHITAN SMALL SCRIPT CHARACTER-", "18B16,18B17,18B18,18B19,18B1A,18B1B,18B1C,18B1D"⟩,
    ⟨0x18b1e, "KHITAN SMALL SCRIPT CHARACTER-", "18B1E,18B1F,18B20,18B21,18B22,18B23,18B24,18B25"⟩,
    ⟨0x18b26, "KHITAN SMALL SCRIPT CHARACTER-", "18B26,18B27,18B28,18B29,18B2A,18B2B,18B2C,18B2D"⟩,
    ⟨0x18b2e, "KHITAN SMALL SCRIPT CHARACTER-", "18B2E,18B2F,18B30,18B31,18B32,18B33,18B34,18B35"⟩,
    ⟨0x18b36, "KHITAN SMALL SCRIPT CHARACTER-", "18B36,18B37,18B38,18B39,18B3A,18B3B,18B3C,18B3D"⟩,
    ⟨0x18b3e, "KHITAN SMALL SCRIPT CHARACTER-", "18B3E,18B3F,18B40,18B41,18B42,18B43,18B44,18B45"⟩,
    ⟨0x18b46, "KHITAN SMALL SCRIPT CHARACTER-", "18B46,18B47,18B48,18B49,18B4A,18B4B,18B4C,18B4D"⟩,
    ⟨0x18b4e, "KHITAN SMALL SCRIPT CHARACTER-", "18B4E,18B4F,18B50,18B51,18B52,18B53,18B54,18B55"⟩,
    ⟨0x18b56, "KHITAN SMALL SCRIPT CHARACTER-", "18B56,18B57,18B58,18B59,18B5A,18B5B,18B5C,18B5D"⟩,
    ⟨0x18b5e, "KHITAN SMALL SCRIPT CHARACTER-", "18B5E,18B5F,18B60,18B61,18B62,18B63,18B64,18B65"⟩,
    ⟨0x18b66, "KHITAN SMALL SCRIPT CHARACTER-", "18B66,18B67,18B68,18B69,18B6A,18B6B,18B6C,18B6D"⟩,
    ⟨0x18b6e, "KHITAN SMALL SCRIPT CHARACTER-", "18B6E,18B6F,18B70,18B71,18B72,18B73,18B74,18B75"⟩,
    ⟨0x18b76, "KHITAN SMALL SCRIPT CHARACTER-", "18B76,18B77,18B78,18B79,18B7A,18B7B,18B7C,18B7D"⟩,
    ⟨0x18b7e, "KHITAN SMALL SCRIPT CHARACTER-", "18B7E,18B7F,18B80,18B81,18B82,18B83,18B84,18B85"⟩,
    ⟨0x18b86, "KHITAN SMALL SCRIPT CHARACTER-", "18B86,18B87,18B88,18B89,18B8A,18B8B,18B8C,18B8D"⟩,
    ⟨0x18b8e, "KHITAN SMALL SCRIPT CHARACTER-", "18B8E,18B8F,18B90,18B91,18B92,18B93,18B94,18B95"⟩,
    ⟨0x18b96, "KHITAN SMALL SCRIPT CHARACTER-", "18B96,18B97,18B98,18B99,18B9A,18B9B,18B9C,18B9D"⟩,
    ⟨0x18b9e, "KHITAN SMALL SCRIPT CHARACTER-", "18B9E,18B9F,18BA0,18BA1,18BA2,18BA3,18BA4,18BA5"⟩,
    ⟨0x18ba6, "KHITAN SMALL SCRIPT CHARACTER-", "18BA6,18BA7,18BA8,18BA9,18BAA,18BAB,18BAC,18BAD"⟩,
    ⟨0x18bae, "KHITAN SMALL SCRIPT CHARACTER-", "18BAE,18BAF,18BB0,18BB1,18BB2,18BB3,18BB4,18BB5"⟩,
    ⟨0x18bb6, "KHITAN SMALL SCRIPT CHARACTER-", "18BB6,18BB7,18BB8,18BB9,18BBA,18BBB,18BBC,18BBD"⟩,
    ⟨0x18bbe, "KHITAN SMALL SCRIPT CHARACTER-", "18BBE,18BBF,18BC0,18BC1,18BC2,18BC3,18BC4,18BC5"⟩,
    ⟨0x18bc6, "KHITAN SMALL SCRIPT CHARACTER-", "18BC6,18BC7,18BC8,18BC9,18BCA,18BCB,18BCC,18BCD"⟩,
    ⟨0x18bce, "KHITAN SMALL SCRIPT CHARACTER-", "18BCE,18BCF,18BD0,18BD1,18BD2,18BD3,18BD4,18BD5"⟩,
    ⟨0x18bd6, "KHITAN SMALL SCRIPT CHARACTER-", "18BD6,18BD7,18BD8,18BD9,18BDA,18BDB,18BDC,18BDD"⟩,
    ⟨0x18bde, "KHITAN SMALL SCRIPT CHARACTER-", "18BDE,18BDF,18BE0,18BE1,18BE2,18BE3,18BE4,18BE5"⟩,
    ⟨0x18be6, "KHITAN SMALL SCRIPT CHARACTER-", "18BE6,18BE7,18BE8,18BE9,18BEA,18BEB,18BEC,18BED"⟩,
    ⟨0x18bee, "KHITAN SMALL SCRIPT CHARACTER-", "18BEE,18BEF,18BF0,18BF1,18BF2,18BF3,18BF4,18BF5"⟩,
    ⟨0x18bf6, "KHITAN SMALL SCRIPT CHARACTER-", "18BF6,18BF7,18BF8,18BF9,18BFA,18BFB,18BFC,18BFD"⟩,
    ⟨0x18bfe, "KHITAN SMALL SCRIPT CHARACTER-", "18BFE,18BFF,18C00,18C01,18C02,18C03,18C04,18C05"⟩,
    ⟨0x18c06, "KHITAN SMALL SCRIPT CHARACTER-", "18C06,18C07,18C08,18C09,18C0A,18C0B,18C0C,18C0D"⟩,
    ⟨0x18c0e, "KHITAN SMALL SCRIPT CHARACTER-", "18C0E,18C0F,18C10,18C11,18C12,18C13,18C14,18C15"⟩,
    ⟨0x18c16, "KHITAN SMALL SCRIPT CHARACTER-", "18C16,18C17,18C18,18C19,18C1A,18C1B,18C1C,18C1D"⟩,
    ⟨0x18c1e, "KHITAN SMALL SCRIPT CHARACTER-", "18C1E,18C1F,18C20,18C21,18C22,18C23,18C24,18C25"⟩,
    ⟨0x18c26, "KHITAN SMALL SCRIPT CHARACTER-", "18C26,18C27,18C28,18C29,18C2A,18C2B,18C2C,18C2D"⟩,
    ⟨0x18c2e, "KHITAN SMALL SCRIPT CHARACTER-", "18C2E,18C2F,18C30,18C31,18C32,18C33,18C34,18C35"⟩,
    ⟨0x18c36, "KHITAN SMALL SCRIPT CHARACTER-", "18C36,18C37,18C38,18C39,18C3A,18C3B,18C3C,18C3D"⟩,
    ⟨0x18c3e, "KHITAN SMALL SCRIPT CHARACTER-", "18C3E,18C3F,18C40,18C41,18C42,18C43,18C44,18C45"⟩,
    ⟨0x18c46, "KHITAN SMALL SCRIPT CHARACTER-", "18C46,18C47,18C48,18C49,18C4A,18C4B,18C4C,18C4D"⟩,
    ⟨0x18c4e, "KHITAN SMALL SCRIPT CHARACTER-", "18C4E,18C4F,18C50,18C51,18C52,18C53,18C54,18C55"⟩,
    ⟨0x18c56, "KHITAN SMALL SCRIPT CHARACTER-", "18C56,18C57,18C58,18C59,18C5A,18C5B,18C5C,18C5D"⟩,
    ⟨0x18c5e, "KHITAN SMALL SCRIPT CHARACTER-", "18C5E,18C5F,18C60,18C61,18C62,18C63,18C64,18C65"⟩,
    ⟨0x18c66, "KHITAN SMALL SCRIPT CHARACTER-", "18C66,18C67,18C68,18C69,18C6A,18C6B,18C6C,18C6D"⟩,
    ⟨0x18c6e, "KHITAN SMALL SCRIPT CHARACTER-", "18C6E,18C6F,18C70,18C71,18C72,18C73,18C74,18C75"⟩,
    ⟨0x18c76, "KHITAN SMALL SCRIPT CHARACTER-", "18C76,18C77,18C78,18C79,18C7A,18C7B,18C7C,18C7D"⟩,
    ⟨0x18c7e, "KHITAN SMALL SCRIPT CHARACTER-", "18C7E,18C7F,18C80,18C81,18C82,18C83,18C84,18C85"⟩,
    ⟨0x18c86, "KHITAN SMALL SCRIPT CHARACTER-", "18C86,18C87,18C88,18C89,18C8A,18C8B,18C8C,18C8D"⟩,
    ⟨0x18c8e, "KHITAN SMALL SCRIPT CHARACTER-", "18C8E,18C8F,18C90,18C91,18C92,18C93,18C94,18C95"⟩,
    ⟨0x18c96, "KHITAN SMALL SCRIPT CHARACTER-", "18C96,18C97,18C98,18C99,18C9A,18C9B,18C9C,18C9D"⟩,
    ⟨0x18c9e, "KHITAN SMALL SCRIPT CHARACTER-", "18C9E,18C9F,18CA0,18CA1,18CA2,18CA3,18CA4,18CA5"⟩,
    ⟨0x18ca6, "KHITAN SMALL SCRIPT CHARACTER-", "18CA6,18CA7,18CA8,18CA9,18CAA,18CAB,18CAC,18CAD"⟩,
    ⟨0x18cae, "KHITAN SMALL SCRIPT CHARACTER-", "18CAE,18CAF,18CB0,18CB1,18CB2,18CB3,18CB4,18CB5"⟩,
    ⟨0x18cb6, "KHITAN SMALL SCRIPT CHARACTER-", "18CB6,18CB7,18CB8,18CB9,18CBA,18CBB,18CBC,18CBD"⟩,
    ⟨0x18cbe, "KHITAN SMALL SCRIPT CHARACTER-", "18CBE,18CBF,18CC0,18CC1,18CC2,18CC3,18CC4,18CC5"⟩,
    ⟨0x18cc6, "KHITAN SMALL SCRIPT CHARACTER-", "18CC6,18CC7,18CC8,18CC9,18CCA,18CCB,18CCC,18CCD"⟩,
    ⟨0x18cce, "KHITAN SMALL SCRIPT CHARACTER-", "18CCE,18CCF,18CD0,18CD1,18CD2,18CD3,18CD4,18CD5"⟩,
    ⟨0x1aff0, "KATAKANA LETTER MINNAN TONE-", "2,3,4,5,,7,8"⟩,
    ⟨0x1aff7, "KATAKANA LETTER MINNAN NASALIZED TONE-", "1,2,3,4,5,,7,8"⟩,
    ⟨0x1b000, "", "KATAKANA LETTER ARCHAIC E,HIRAGANA LETTER ARCHAIC YE,HENTAIGANA LETTER A-1"⟩,
    ⟨0x1b003, "HENTAIGANA LETTER ", "A-2,A-3,A-WO,I-1,I-2,I-3,I-4,U-1,U-2,U-3,U-4,U-5,E-2,E-3,E-4"⟩,
    ⟨0x1b012, "HENTAIGANA LETTER ", "E-5,E-6,O-1,O-2,O-3,KA-1,KA-2,KA-3,KA-4,KA-5,KA-6,KA-7,KA-8"⟩,
    ⟨0x1b01f, "HENTAIGANA LETTER ", "KA-9,KA-10,KA-11,KA-KE,KI-1,KI-2,KI-3,KI-4,KI-5,KI-6,KI-7"⟩,
    ⟨0x1b02a, "HENTAIGANA LETTER ", "KI-8,KU-1,KU-2,KU-3,KU-4,KU-5,KU-6,KU-7,KE-1,KE-2,KE-3,KE-4"⟩,
    ⟨0x1b036, "HENTAIGANA LETTER ", "KE-5,KE-6,KO-1,KO-2,KO-3,KO-KI,SA-1,SA-2,SA-3,SA-4,SA-5,SA-6"⟩,
    ⟨0x1b042, "HENTAIGANA LETTER ", "SA-7,SA-8,SI-1,SI-2,SI-3,SI-4,SI-5,SI-6,SU-1,SU-2,SU-3,SU-4"⟩,
    ⟨0x1b04e, "HENTAIGANA LETTER ", "SU-5,SU-6,SU-7,SU-8,SE-1,SE-2,SE-3,SE-4,SE-5,SO-1,SO-2,SO-3"⟩,
    ⟨0x1b05a, "HENTAIGANA LETTER ", "SO-4,SO-5,SO-6,SO-7,TA-1,TA-2,TA-3,TA-4,TI-1,TI-2,TI-3,TI-4"⟩,
    ⟨0x1b066, "HENTAIGANA LETTER ", "TI-5,TI-6,TI-7,TU-1,TU-2,TU-3,TU-4,TU-TO,TE-1,TE-2,TE-3,TE-4"⟩,
    ⟨0x1b072, "HENTAIGANA LETTER ", "TE-5,TE-6,TE-7,TE-8,TE-9,TO-1,TO-2,TO-3,TO-4,TO-5,TO-6,TO-RA"⟩,
    ⟨0x1b07e, "HENTAIGANA LETTER NA-", "1,2,3,4,5,6,7,8,9"⟩,
    ⟨0x1b087, "HENTAIGANA LETTER ", "NI-1,NI-2,NI-3,NI-4,NI-5,NI-6,NI-7,NI-TE,NU-1,NU-2,NU-3"⟩,
    ⟨0x1b092, "HENTAIGANA LETTER ", "NE-1,NE-2,NE-3,NE-4,NE-5,NE-6,NE-KO,NO-1,NO-2,NO-3,NO-4,NO-5"⟩,
    ⟨0x1b09e, "HENTAIGANA LETTER HA-", "1,2,3,4,5,6,7,8,9,10,11"⟩,
    ⟨0x1b0a9, "HENTAIGANA LETTER ", "HI-1,HI-2,HI-3,HI-4,HI-5,HI-6,HI-7,HU-1,HU-2,HU-3,HE-1,HE-2"⟩,
    ⟨0x1b0b5, "HENTAIGANA LETTER ", "HE-3,HE-4,HE-5,HE-6,HE-7,HO-1,HO-2,HO-3,HO-4,HO-5,HO-6,HO-7"⟩,
    ⟨0x1b0c1, "HENTAIGANA LETTER ", "HO-8,MA-1,MA-2,MA-3,MA-4,MA-5,MA-6,MA-7,MI-1,MI-2,MI-3,MI-4"⟩,
    ⟨0x1b0cd, "HENTAIGANA LETTER ", "MI-5,MI-6,MI-7,MU-1,MU-2,MU-3,MU-4,ME-1,ME-2,ME-MA,MO-1,MO-2"⟩,
    ⟨0x1b0d9, "HENTAIGANA LETTER ", "MO-3,MO-4,MO-5,MO-6,YA-1,YA-2,YA-3,YA-4,YA-5,YA-YO,YU-1,YU-2"⟩,
    ⟨0x1b0e5, "HENTAIGANA LETTER ", "YU-3,YU-4,YO-1,YO-2,YO-3,YO-4,YO-5,YO-6,RA-1,RA-2,RA-3,RA-4"⟩,
    ⟨0x1b0f1, "HENTAIGANA LETTER ", "RI-1,RI-2,RI-3,RI-4,RI-5,RI-6,RI-7,RU-1,RU-2,RU-3,RU-4,RU-5"⟩,
    ⟨0x1b0fd, "HENTAIGANA LETTER ", "RU-6,RE-1,RE-2,RE-3,RE-4,RO-1,RO-2,RO-3,RO-4,RO-5,RO-6,WA-1"⟩,
    ⟨0x1b109, "HENTAIGANA LETTER ", "WA-2,WA-3,WA-4,WA-5,WI-1,WI-2,WI-3,WI-4,WI-5,WE-1,WE-2,WE-3"⟩,
    ⟨0x1b115, "HENTAIGANA LETTER ", "WE-4,WO-1,WO-2,WO-3,WO-4,WO-5,WO-6,WO-7,N-MU-MO-1,N-MU-MO-2"⟩,
    ⟨0x1b11f, "", "HIRAGANA LETTER ARCHAIC WU"⟩,
    ⟨0x1b120, "KATAKANA LETTER ARCHAIC ", "YI,YE,WU"⟩,
    ⟨0x1b150, "HIRAGANA LETTER SMALL ", "WI,WE,WO"⟩,
    ⟨0x1b164, "KATAKANA LETTER SMALL ", "WI,WE,WO,N"⟩,
    ⟨0x1b170, "NUSHU CHARACTER-", "1B170,1B171,1B172,1B173,1B174,1B175"⟩,
    ⟨0x1b176, "NUSHU CHARACTER-", "1B176,1B177,1B178,1B179,1B17A,1B17B,1B17C,1B17D,1B17E,1B17F"⟩,
    ⟨0x1b180, "NUSHU CHARACTER-", "1B180,1B181,1B182,1B183,1B184,1B185,1B186,1B187,1B188,1B189"⟩,
    ⟨0x1b18a, "NUSHU CHARACTER-", "1B18A,1B18B,1B18C,1B18D,1B18E,1B18F,1B190,1B191,1B192,1B193"⟩,
    ⟨0x1b194, "NUSHU CHARACTER-", "1B194,1B195,1B196,1B197,1B198,1B199,1B19A,1B19B,1B19C,1B19D"⟩,
    ⟨0x1b19e, "NUSHU CHARACTER-", "1B19E,1B19F,1B1A0,1B1A1,1B1A2,1B1A3,1B1A4,1B1A5,1B1A6,1B1A7"⟩,
    ⟨0x1b1a8, "NUSHU CHARACTER-", "1B1A8,1B1A9,1B1AA,1B1AB,1B1AC,1B1AD,1B1AE,1B1AF,1B1B0,1B1B1"⟩,
    ⟨0x1b1b2, "NUSHU CHARACTER-", "1B1B2,1B1B3,1B1B4,1B1B5,1B1B6,1B1B7,1B1B8,1B1B9,1B1BA,1B1BB"⟩,
    ⟨0x1b1bc, "NUSHU CHARACTER-", "1B1BC,1B1BD,1B1BE,1B1BF,1B1C0,1B1C1,1B1C2,1B1C3,1B1C4,1B1C5"⟩,
    ⟨0x1b1c6, "NUSHU CHARACTER-", "1B1C6,1B1C7,1B1C8,1B1C9,1B1CA,1B1CB,1B1CC,1B1CD,1B1CE,1B1CF"⟩,
    ⟨0x1b1d0, "NUSHU CHARACTER-", "1B1D0,1B1D1,1B1D2,1B1D3,1B1D4,1B1D5,1B1D6,1B1D7,1B1D8,1B1D9"⟩,
    ⟨0x1b1da, "NUSHU CHARACTER-", "1B1DA,1B1DB,1B1DC,1B1DD,1B1DE,1B1DF,1B1E0,1B1E1,1B1E2,1B1E3"⟩,
    ⟨0x1b1e4, "NUSHU CHARACTER-", "1B1E4,1B1E5,1B1E6,1B1E7,1B1E8,1B1E9,1B1EA,1B1EB,1B1EC,1B1ED"⟩,
    ⟨0x1b1ee, "NUSHU CHARACTER-", "1B1EE,1B1EF,1B1F0,1B1F1,1B1F2,1B1F3,1B1F4,1B1F5,1B1F6,1B1F7"⟩,
    ⟨0x1b1f8, "NUSHU CHARACTER-", "1B1F8,1B1F9,1B1FA,1B1FB,1B1FC,1B1FD,1B1FE,1B1FF,1B200,1B201"⟩,
    ⟨0x1b202, "NUSHU CHARACTER-", "1B202,1B203,1B204,1B205,1B206,1B207,1B208,1B209,1B20A,1B20B"⟩,
    ⟨0x1b20c, "NUSHU CHARACTER-", "1B20C,1B20D,1B20E,1B20F,1B210,1B211,1B212,1B213,1B214,1B215"⟩,
    ⟨0x1b216, "NUSHU CHARACTER-", "1B216,1B217,1B218,1B219,1B21A,1B21B,1B21C,1B21D,1B21E,1B21F"⟩,
    ⟨0x1b220, "NUSHU CHARACTER-", "1B220,1B221,1B222,1B223,1B224,1B225,1B226,1B227,1B228,1B229"⟩,
    ⟨0x1b22a, "NUSHU CHARACTER-", "1B22A,1B22B,1B22C,1B22D,1B22E,1B22F,1B230,1B231,1B232,1B233"⟩,
    ⟨0x1b234, "NUSHU CHARACTER-", "1B234,1B235,1B236,1B237,1B238,1B239,1B23A,1B23B,1B23C,1B23D"⟩,
    ⟨0x1b23e, "NUSHU CHARACTER-", "1B23E,1B23F,1B240,1B241,1B242,1B243,1B244,1B245,1B246,1B247"⟩,
    ⟨0x1b248, "NUSHU CHARACTER-", "1B248,1B249,1B24A,1B24B,1B24C,1B24D,1B24E,1B24F,1B250,1B251"⟩,
    ⟨0x1b252, "NUSHU CHARACTER-", "1B252,1B253,1B254,1B255,1B256,1B257,1B258,1B259,1B25A,1B25B"⟩,
    ⟨0x1b25c, "NUSHU CHARACTER-", "1B25C,1B25D,1B25E,1B25F,1B260,1B261,1B262,1B263,1B264,1B265"⟩,
    ⟨0x1b266, "NUSHU CHARACTER-", "1B266,1B267,1B268,1B269,1B26A,1B26B,1B26C,1B26D,1B26E,1B26F"⟩,
    ⟨0x1b270, "NUSHU CHARACTER-", "1B270,1B271,1B272,1B273,1B274,1B275,1B276,1B277,1B278,1B279"⟩,
    ⟨0x1b27a, "NUSHU CHARACTER-", "1B27A,1B27B,1B27C,1B27D,1B27E,1B27F,1B280,1B281,1B282,1B283"⟩,
    ⟨0x1b284, "NUSHU CHARACTER-", "1B284,1B285,1B286,1B287,1B288,1B289,1B28A,1B28B,1B28C,1B28D"⟩,
    ⟨0x1b28e, "NUSHU CHARACTER-", "1B28E,1B28F,1B290,1B291,1B292,1B293,1B294,1B295,1B296,1B297"⟩,
    ⟨0x1b298, "NUSHU CHARACTER-", "1B298,1B299,1B29A,1B29B,1B29C,1B29D,1B29E,1B29F,1B2A0,1B2A1"⟩,
    ⟨0x1b2a2, "NUSHU CHARACTER-", "1B2A2,1B2A3,1B2A4,1B2A5,1B2A6,1B2A7,1B2A8,1B2A9,1B2AA,1B2AB"⟩,
    ⟨0x1b2ac, "NUSHU CHARACTER-", "1B2AC,1B2AD,1B2AE,1B2AF,1B2B0,1B2B1,1B2B2,1B2B3,1B2B4,1B2B5"⟩,
    ⟨0x1b2b6, "NUSHU CHARACTER-", "1B2B6,1B2B7,1B2B8,1B2B9,1B2BA,1B2BB,1B2BC,1B2BD,1B2BE,1B2BF"⟩,
    ⟨0x1b2c0, "NUSHU CHARACTER-", "1B2C0,1B2C1,1B2C2,1B2C3,1B2C4,1B2C5,1B2C6,1B2C7,1B2C8,1B2C9"⟩,
    ⟨0x1b2ca, "NUSHU CHARACTER-", "1B2CA,1B2CB,1B2CC,1B2CD,1B2CE,1B2CF,1B2D0,1B2D1,1B2D2,1B2D3"⟩,
    ⟨0x1b2d4, "NUSHU CHARACTER-", "1B2D4,1B2D5,1B2D6,1B2D7,1B2D8,1B2D9,1B2DA,1B2DB,1B2DC,1B2DD"⟩,
    ⟨0x1b2de, "NUSHU CHARACTER-", "1B2DE,1B2DF,1B2E0,1B2E1,1B2E2,1B2E3,1B2E4,1B2E5,1B2E6,1B2E7"⟩,
    ⟨0x1b2e8, "NUSHU CHARACTER-", "1B2E8,1B2E9,1B2EA,1B2EB,1B2EC,1B2ED,1B2EE,1B2EF,1B2F0,1B2F1"⟩,
    ⟨0x1b2f2, "NUSHU CHARACTER-", "1B2F2,1B2F3,1B2F4,1B2F5,1B2F6,1B2F7,1B2F8,1B2F9,1B2FA,1B2FB"⟩,
    ⟨0x1bc00, "DUPLOYAN LETTER ", "H,X,P,T,F,K,L,B,D,V,G,R,P N,D S,F N,K M,R S,TH,SLOAN DH,DH,KK"⟩,
    ⟨0x1bc15, "DUPLOYAN LETTER ", "SLOAN J,HL,LH,RH,M,N,J,S,M N,N M,J M,S J,M WITH DOT,N WITH DOT"⟩,
    ⟨0x1bc23, "DUPLOYAN LETTER J WITH ", "DOT,DOTS INSIDE AND ABOVE"⟩,
    ⟨0x1bc25, "DUPLOYAN LETTER ", "S WITH DOT,S WITH DOT BELOW,M S,N S,J S,S S,M N S,N M S,J M S"⟩,
    ⟨0x1bc2e, "DUPLOYAN LETTER ", "S J S,J S WITH DOT,J N,J N S,S T,S T R,S P,S P R,T S,T R S"⟩,
    ⟨0x1bc38, "DUPLOYAN LETTER ", "W,WH,W R,S N,S M,K R S,G R S,S K,S K R,A,SLOAN OW,OA,O,AOU,I"⟩,
    ⟨0x1bc47, "DUPLOYAN LETTER ", "E,IE,SHORT I,UI,EE,SLOAN EH,ROMANIAN I,SLOAN EE,LONG I,YE,U,EU"⟩,
    ⟨0x1bc53, "DUPLOYAN LETTER ", "XW,U N,LONG U,ROMANIAN U,UH,SLOAN U,OOH,OW,OU,WA,WO,WI,WEI,WOW"⟩,
    ⟨0x1bc61, "DUPLOYAN LETTER NASAL ", "U,O,I,A"⟩,
    ⟨0x1bc65, "DUPLOYAN LETTER ", "PERNIN AN,PERNIN AM,SLOAN EN,SLOAN AN,SLOAN ON,VOCALIC M"⟩,
    ⟨0x1bc70, "", "DUPLOYAN AFFIX LEFT HORIZONTAL SECANT"⟩,
    ⟨0x1bc71, "DUPLOYAN AFFIX ", "MID HORIZONTAL SECANT,RIGHT HORIZONTAL SECANT"⟩,
    ⟨0x1bc73, "DUPLOYAN AFFIX ", "LOW VERTICAL SECANT,MID VERTICAL SECANT,HIGH VERTICAL SECANT"⟩,
    ⟨0x1bc76, "DUPLOYAN AFFIX ATTACHED ", "SECANT,LEFT-TO-RIGHT SECANT,TANGENT,TAIL,E HOOK,I HOOK"⟩,
    ⟨0x1bc7c, "DUPLOYAN AFFIX ", "ATTACHED TANGENT HOOK,,,,HIGH ACUTE"⟩,
    ⟨0x1bc81, "DUPLOYAN AFFIX HIGH ", "TIGHT ACUTE,GRAVE,LONG GRAVE,DOT,CIRCLE,LINE,WAVE,VERTICAL"⟩,
    ⟨0x1bc90, "DUPLOYAN AFFIX LOW ", "ACUTE,TIGHT ACUTE,GRAVE,LONG GRAVE,DOT,CIRCLE,LINE,WAVE"⟩,
    ⟨0x1bc98, "DUPLOYAN ", "AFFIX LOW VERTICAL,AFFIX LOW ARROW,,,SIGN O WITH CROSS"⟩,
    ⟨0x1bc9d, "DUPLOYAN ", "THICK LETTER SELECTOR,DOUBLE MARK,PUNCTUATION CHINOOK FULL STOP"⟩,
    ⟨0x1bca0, "SHORTHAND FORMAT ", "LETTER OVERLAP,CONTINUING OVERLAP,DOWN STEP,UP STEP"⟩,
    ⟨0x1cf00, "", "ZNAMENNY COMBINING MARK GORAZDO NIZKO S KRYZHEM ON LEFT"⟩,
    ⟨0x1cf01, "", "ZNAMENNY COMBINING MARK NIZKO S KRYZHEM ON LEFT"⟩,
    ⟨0x1cf02, "ZNAMENNY COMBINING MARK ", "TSATA ON LEFT,GORAZDO NIZKO ON LEFT,NIZKO ON LEFT"⟩,
    ⟨0x1cf05, "ZNAMENNY COMBINING MARK ", "SREDNE ON LEFT,MALO POVYSHE ON LEFT,POVYSHE ON LEFT"⟩,
    ⟨0x1cf08, "ZNAMENNY COMBINING MARK ", "VYSOKO ON LEFT,MALO POVYSHE S KHOKHLOM ON LEFT"⟩,
    ⟨0x1cf0a, "ZNAMENNY COMBINING MARK ", "POVYSHE S KHOKHLOM ON LEFT,VYSOKO S KHOKHLOM ON LEFT"⟩,
    ⟨0x1cf0c, "", "ZNAMENNY COMBINING MARK GORAZDO NIZKO S KRYZHEM ON RIGHT"⟩,
    ⟨0x1cf0d, "", "ZNAMENNY COMBINING MARK NIZKO S KRYZHEM ON RIGHT"⟩,
    ⟨0x1cf0e, "ZNAMENNY COMBINING MARK ", "TSATA ON RIGHT,GORAZDO NIZKO ON RIGHT,NIZKO ON RIGHT"⟩,
    ⟨0x1cf11, "ZNAMENNY COMBINING MARK ", "SREDNE ON RIGHT,MALO POVYSHE ON RIGHT,POVYSHE ON RIGHT"⟩,
    ⟨0x1cf14, "ZNAMENNY COMBINING MARK ", "VYSOKO ON RIGHT,MALO POVYSHE S KHOKHLOM ON RIGHT"⟩,
    ⟨0x1cf16, "ZNAMENNY COMBINING MARK ", "POVYSHE S KHOKHLOM ON RIGHT,VYSOKO S KHOKHLOM ON RIGHT"⟩,
    ⟨0x1cf18, "ZNAMENNY COMBINING MARK ", "TSATA S KRYZHEM,MALO POVYSHE S KRYZHEM"⟩,
    ⟨0x1cf1a, "ZNAMENNY COMBINING MARK ", "STRANNO MALO POVYSHE,POVYSHE S KRYZHEM,POVYSHE STRANNO"⟩,
    ⟨0x1cf1d, "ZNAMENNY COMBINING MARK ", "VYSOKO S KRYZHEM,MALO POVYSHE STRANNO,GORAZDO VYSOKO"⟩,
    ⟨0x1cf20, "ZNAMENNY COMBINING MARK ", "ZELO,ON,RAVNO,TIKHAYA,BORZAYA,UDARKA,PODVERTKA"⟩,
    ⟨0x1cf27, "ZNAMENNY COMBINING MARK ", "LOMKA,KUPNAYA,KACHKA,ZEVOK,SKOBA,RAZSEKA,KRYZH ON LEFT"⟩,
    ⟨0x1cf30, "ZNAMENNY COMBINING TONAL RANGE MARK ", "MRACHNO,SVETLO,TRESVETLO"⟩,
    ⟨0x1cf33, "ZNAMENNY COMBINING MARK ", "ZADERZHKA,DEMESTVENNY ZADERZHKA,OTSECHKA"⟩,
    ⟨0x1cf36, "ZNAMENNY COMBINING MARK ", "PODCHASHIE,PODCHASHIE WITH VERTICAL STROKE,CHASHKA"⟩,
    ⟨0x1cf39, "ZNAMENNY COMBINING MARK ", "CHASHKA POLNAYA,OBLACHKO,SOROCHYA NOZHKA,TOCHKA"⟩,
    ⟨0x1cf3d, "ZNAMENNY COMBINING ", "MARK DVOETOCHIE,ATTACHING VERTICAL OMET"⟩,
    ⟨0x1cf3f, "ZNAMENNY COMBINING ", "MARK CURVED OMET,MARK KRYZH,LOWER TONAL RANGE INDICATOR"⟩,
    ⟨0x1cf42, "ZNAMENNY PRIZNAK MODIFIER ", "LEVEL-2,LEVEL-3,DIRECTION FLIP,KRYZH,ROG"⟩,
    ⟨0x1cf50, "ZNAMENNY NEUME ", "KRYUK,KRYUK TIKHY,PARAKLIT,DVA V CHELNU,KLYUCH,ZANOZHEK"⟩,
    ⟨0x1cf56, "ZNAMENNY NEUME ", "STOPITSA,STOPITSA S OCHKOM,PEREVODKA,PEREVODKA NEPOSTOYANNAYA"⟩,
    ⟨0x1cf5a, "ZNAMENNY NEUME ", "STOPITSA WITH SOROCHYA NOZHKA,CHELYUSTKA,PALKA,ZAPYATAYA"⟩,
    ⟨0x1cf5e, "ZNAMENNY NEUME GOLUBCHIK ", "BORZY,TIKHY,MRACHNY,SVETLY,TRESVETLY"⟩,
    ⟨0x1cf63, "ZNAMENNY NEUME VRAKHIYA ", "PROSTAYA,MRACHNAYA,SVETLAYA,TRESVETLAYA"⟩,
    ⟨0x1cf67, "ZNAMENNY NEUME VRAKHIYA KLYUCHEVAYA ", "PROSTAYA,MRACHNAYA,SVETLAYA,TRESVETLAYA"⟩,
    ⟨0x1cf6b, "ZNAMENNY NEUME ", "DOUBLE ZAPYATAYA,REVERSED CHELYUSTKA,DERBITSA,KHAMILO"⟩,
    ⟨0x1cf6f, "ZNAMENNY NEUME ", "CHASHKA,PODCHASHIE,SKAMEYTSA MRACHNAYA,SKAMEYTSA SVETLAYA"⟩,
    ⟨0x1cf73, "ZNAMENNY NEUME ", "SKAMEYTSA TRESVETLAYA,SKAMEYTSA TIKHAYA,DEMESTVENNY KLYUCH"⟩,
    ⟨0x1cf76, "ZNAMENNY NEUME SKAMEYTSA ", "KLYUCHEVAYA SVETLAYA,KLYUCHENEPOSTOYANNAYA"⟩,
    ⟨0x1cf78, "ZNAMENNY NEUME SKAMEYTSA ", "KLYUCHEVAYA TIKHAYA,DVOECHELNAYA PROSTAYA"⟩,
    ⟨0x1cf7a, "ZNAMENNY NEUME SKAMEYTSA DVOECHELNAYA ", "SVETLAYA,NEPOSTOYANNAYA,KLYUCHEVAYA"⟩,
    ⟨0x1cf7d, "ZNAMENNY NEUME ", "SLOZHITIE,SLOZHITIE S ZAPYATOY,SLOZHITIE ZAKRYTOE"⟩,
    ⟨0x1cf80, "ZNAMENNY NEUME ", "SLOZHITIE S KRYZHEM,KRYZH,ROG,FITA,KOBYLA,ZMEYTSA,STATYA"⟩,
    ⟨0x1cf87, "ZNAMENNY NEUME STATYA S ", "ZAPYATOY,KRYZHEM,ZAPYATOY I KRYZHEM,KRYZHEM I ZAPYATOY"⟩,
    ⟨0x1cf8b, "ZNAMENNY NEUME STATYA ", "ZAKRYTAYA,ZAKRYTAYA S ZAPYATOY"⟩,
    ⟨0x1cf8d, "ZNAMENNY NEUME STATYA S ", "ROGOM,DVUMYA ZAPYATYMI,ZAPYATOY I PODCHASHIEM"⟩,
    ⟨0x1cf90, "ZNAMENNY NEUME ", "POLKULIZMY,STATYA NEPOSTOYANNAYA"⟩,
    ⟨0x1cf92, "ZNAMENNY NEUME STRELA ", "PROSTAYA,MRACHNOTIKHAYA"⟩,
    ⟨0x1cf94, "ZNAMENNY NEUME STRELA ", "KRYZHEVAYA,POLUPOVODNAYA,POVODNAYA,NEPOSTOYANNAYA"⟩,
    ⟨0x1cf98, "ZNAMENNY NEUME STRELA ", "KLYUCHEPOVODNAYA,KLYUCHENEPOSTOYANNAYA,TIKHAYA PUTNAYA"⟩,
    ⟨0x1cf9b, "ZNAMENNY NEUME STRELA ", "DVOECHELNAYA,DVOECHELNOKRYZHEVAYA,DVOECHELNOPOVODNAYA"⟩,
    ⟨0x1cf9e, "ZNAMENNY NEUME STRELA ", "DVOECHELNAYA KLYUCHEVAYA,DVOECHELNOPOVODNAYA KLYUCHEVAYA"⟩,
    ⟨0x1cfa0, "", "ZNAMENNY NEUME STRELA GROMNAYA WITH SINGLE ZAPYATAYA"⟩,
    ⟨0x1cfa1, "ZNAMENNY NEUME STRELA ", "GROMOPOVODNAYA WITH SINGLE ZAPYATAYA,GROMNAYA"⟩,
    ⟨0x1cfa3, "ZNAMENNY NEUME STRELA ", "GROMOPOVODNAYA,GROMOPOVODNAYA WITH DOUBLE ZAPYATAYA"⟩,
    ⟨0x1cfa5, "ZNAMENNY NEUME ", "STRELA GROMOKRYZHEVAYA,STRELA GROMOKRYZHEVAYA POVODNAYA,MECHIK"⟩,
    ⟨0x1cfa8, "ZNAMENNY NEUME MECHIK ", "POVODNY,KLYUCHEVOY,KLYUCHEPOVODNY,KLYUCHENEPOSTOYANNY"⟩,
    ⟨0x1cfac, "ZNAMENNY NEUME STRELA ", "TRYASOGLASNAYA,TRYASOPOVODNAYA,TRYASOSTRELNAYA"⟩,
    ⟨0x1cfaf, "ZNAMENNY NEUME ", "OSOKA,OSOKA SVETLAYA"⟩,
    ⟨0x1cfb1, "ZNAMENNY NEUME OSOKA ", "TRESVETLAYA,KRYUKOVAYA SVETLAYA,KLYUCHEVAYA SVETLAYA"⟩,
    ⟨0x1cfb4, "ZNAMENNY NEUME ", "OSOKA KLYUCHEVAYA NEPOSTOYANNAYA,STRELA KRYUKOVAYA"⟩,
    ⟨0x1cfb6, "ZNAMENNY NEUME STRELA KRYUKOVAYA ", "POVODNAYA,GROMNAYA WITH SINGLE ZAPYATAYA"⟩,
    ⟨0x1cfb8, "", "ZNAMENNY NEUME STRELA KRYUKOVAYA GROMOPOVODNAYA WITH SINGLE ZAPYATAYA"⟩,
    ⟨0x1cfb9, "ZNAMENNY NEUME STRELA KRYUKOVAYA ", "GROMNAYA,GROMOPOVODNAYA"⟩,
    ⟨0x1cfbb, "", "ZNAMENNY NEUME STRELA KRYUKOVAYA GROMOPOVODNAYA WITH DOUBLE ZAPYATAYA"⟩,
    ⟨0x1cfbc, "ZNAMENNY NEUME STRELA KRYUKOVAYA ", "GROMOKRYZHEVAYA,GROMOKRYZHEVAYA POVODNAYA"⟩,
    ⟨0x1cfbe, "ZNAMENNY NEUME ", "STRELA KRYUKOVAYA TRYASKA,KUFISMA,OBLAKO,DUDA,NEMKA,PAUK"⟩]

end HttpRouting.Text.CharacterName
