import HttpRouting.Text.CharacterName.Run

/-!
# Names of the scripts of East Asia and of further letters and forms

The names from U+2C00 to U+FFFD in the Unicode standard.
-/

namespace HttpRouting.Text.CharacterName

def easternScripts : List Run :=
  [
    ⟨0x2c00, "", "GLAGOLITIC CAPITAL LETTER AZU"⟩,
    ⟨0x2c01, "GLAGOLITIC CAPITAL LETTER ", "BUKY,VEDE,GLAGOLI,DOBRO,YESTU,ZHIVETE,DZELO,ZEMLJA"⟩,
    ⟨0x2c09, "GLAGOLITIC CAPITAL LETTER ", "IZHE,INITIAL IZHE,I,DJERVI,KAKO,LJUDIJE,MYSLITE"⟩,
    ⟨0x2c10, "GLAGOLITIC CAPITAL LETTER ", "NASHI,ONU,POKOJI,RITSI,SLOVO,TVRIDO,UKU,FRITU,HERU"⟩,
    ⟨0x2c19, "GLAGOLITIC CAPITAL LETTER ", "OTU,PE,SHTA,TSI,CHRIVI,SHA,YERU,YERI,YATI,SPIDERY HA"⟩,
    ⟨0x2c23, "GLAGOLITIC CAPITAL LETTER ", "YU,SMALL YUS,SMALL YUS WITH TAIL,YO,IOTATED SMALL YUS"⟩,
    ⟨0x2c28, "GLAGOLITIC CAPITAL LETTER ", "BIG YUS,IOTATED BIG YUS,FITA,IZHITSA"⟩,
    ⟨0x2c2c, "GLAGOLITIC CAPITAL LETTER ", "SHTAPIC,TROKUTASTI A,LATINATE MYSLITE,CAUDATE CHRIVI"⟩,
    ⟨0x2c30, "GLAGOLITIC SMALL LETTER ", "AZU,BUKY,VEDE,GLAGOLI,DOBRO,YESTU"⟩,
    ⟨0x2c36, "GLAGOLITIC SMALL LETTER ", "ZHIVETE,DZELO,ZEMLJA,IZHE,INITIAL IZHE,I,DJERVI,KAKO"⟩,
    ⟨0x2c3e, "GLAGOLITIC SMALL LETTER ", "LJUDIJE,MYSLITE,NASHI,ONU,POKOJI,RITSI,SLOVO,TVRIDO"⟩,
    ⟨0x2c46, "GLAGOLITIC SMALL LETTER ", "UKU,FRITU,HERU,OTU,PE,SHTA,TSI,CHRIVI,SHA,YERU,YERI"⟩,
    ⟨0x2c51, "GLAGOLITIC SMALL LETTER ", "YATI,SPIDERY HA,YU,SMALL YUS,SMALL YUS WITH TAIL,YO"⟩,
    ⟨0x2c57, "GLAGOLITIC SMALL LETTER ", "IOTATED SMALL YUS,BIG YUS,IOTATED BIG YUS,FITA,IZHITSA"⟩,
    ⟨0x2c5c, "GLAGOLITIC SMALL LETTER ", "SHTAPIC,TROKUTASTI A,LATINATE MYSLITE,CAUDATE CHRIVI"⟩,
    ⟨0x2c60, "LATIN ", "CAPITAL LETTER L WITH DOUBLE BAR,SMALL LETTER L WITH DOUBLE BAR"⟩,
    ⟨0x2c62, "LATIN CAPITAL LETTER ", "L WITH MIDDLE TILDE,P WITH STROKE,R WITH TAIL"⟩,
    ⟨0x2c65, "LATIN SMALL LETTER ", "A WITH STROKE,T WITH DIAGONAL STROKE"⟩,
    ⟨0x2c67, "LATIN ", "CAPITAL LETTER H WITH DESCENDER,SMALL LETTER H WITH DESCENDER"⟩,
    ⟨0x2c69, "LATIN ", "CAPITAL LETTER K WITH DESCENDER,SMALL LETTER K WITH DESCENDER"⟩,
    ⟨0x2c6b, "LATIN ", "CAPITAL LETTER Z WITH DESCENDER,SMALL LETTER Z WITH DESCENDER"⟩,
    ⟨0x2c6d, "LATIN CAPITAL LETTER ", "ALPHA,M WITH HOOK,TURNED A,TURNED ALPHA"⟩,
    ⟨0x2c71, "LATIN ", "SMALL LETTER V WITH RIGHT HOOK,CAPITAL LETTER W WITH HOOK"⟩,
    ⟨0x2c73, "LATIN ", "SMALL LETTER W WITH HOOK,SMALL LETTER V WITH CURL,CAPITAL LETTER HALF H"⟩,
    ⟨0x2c76, "LATIN SMALL LETTER ", "HALF H,TAILLESS PHI,E WITH NOTCH,TURNED R WITH TAIL"⟩,
    ⟨0x2c7a, "LATIN ", "SMALL LETTER O WITH LOW RING INSIDE,LETTER SMALL CAPITAL TURNED E"⟩,
    ⟨0x2c7c, "", "LATIN SUBSCRIPT SMALL LETTER J,MODIFIER LETTER CAPITAL V"⟩,
    ⟨0x2c7e, "LATIN CAPITAL LETTER ", "S WITH SWASH TAIL,Z WITH SWASH TAIL"⟩,
    ⟨0x2c80, "COPTIC ", "CAPITAL LETTER ALFA,SMALL LETTER ALFA,CAPITAL LETTER VIDA"⟩,
    ⟨0x2c83, "COPTIC ", "SMALL LETTER VIDA,CAPITAL LETTER GAMMA,SMALL LETTER GAMMA"⟩,
    ⟨0x2c86, "COPTIC ", "CAPITAL LETTER DALDA,SMALL LETTER DALDA,CAPITAL LETTER EIE"⟩,
    ⟨0x2c89, "COPTIC ", "SMALL LETTER EIE,CAPITAL LETTER SOU,SMALL LETTER SOU,CAPITAL LETTER ZATA"⟩,
    ⟨0x2c8d, "COPTIC ", "SMALL LETTER ZATA,CAPITAL LETTER HATE,SMALL LETTER HATE"⟩,
    ⟨0x2c90, "COPTIC ", "CAPITAL LETTER THETHE,SMALL LETTER THETHE,CAPITAL LETTER IAUDA"⟩,
    ⟨0x2c93, "COPTIC ", "SMALL LETTER IAUDA,CAPITAL LETTER KAPA,SMALL LETTER KAPA"⟩,
    ⟨0x2c96, "COPTIC ", "CAPITAL LETTER LAULA,SMALL LETTER LAULA,CAPITAL LETTER MI"⟩,
    ⟨0x2c99, "COPTIC ", "SMALL LETTER MI,CAPITAL LETTER NI,SMALL LETTER NI,CAPITAL LETTER KSI"⟩,
    ⟨0x2c9d, "COPTIC ", "SMALL LETTER KSI,CAPITAL LETTER O,SMALL LETTER O,CAPITAL LETTER PI"⟩,
    ⟨0x2ca1, "COPTIC ", "SMALL LETTER PI,CAPITAL LETTER RO,SMALL LETTER RO,CAPITAL LETTER SIMA"⟩,
    ⟨0x2ca5, "COPTIC ", "SMALL LETTER SIMA,CAPITAL LETTER TAU,SMALL LETTER TAU"⟩,
    ⟨0x2ca8, "COPTIC ", "CAPITAL LETTER UA,SMALL LETTER UA,CAPITAL LETTER FI,SMALL LETTER FI"⟩,
    ⟨0x2cac, "COPTIC ", "CAPITAL LETTER KHI,SMALL LETTER KHI,CAPITAL LETTER PSI,SMALL LETTER PSI"⟩,
    ⟨0x2cb0, "COPTIC ", "CAPITAL LETTER OOU,SMALL LETTER OOU,CAPITAL LETTER DIALECT-P ALEF"⟩,
    ⟨0x2cb3, "COPTIC ", "SMALL LETTER DIALECT-P ALEF,CAPITAL LETTER OLD COPTIC AIN"⟩,
    ⟨0x2cb5, "COPTIC ", "SMALL LETTER OLD COPTIC AIN,CAPITAL LETTER CRYPTOGRAMMIC EIE"⟩,
    ⟨0x2cb7, "COPTIC ", "SMALL LETTER CRYPTOGRAMMIC EIE,CAPITAL LETTER DIALECT-P KAPA"⟩,
    ⟨0x2cb9, "COPTIC ", "SMALL LETTER DIALECT-P KAPA,CAPITAL LETTER DIALECT-P NI"⟩,
    ⟨0x2cbb, "COPTIC ", "SMALL LETTER DIALECT-P NI,CAPITAL LETTER CRYPTOGRAMMIC NI"⟩,
    ⟨0x2cbd, "COPTIC ", "SMALL LETTER CRYPTOGRAMMIC NI,CAPITAL LETTER OLD COPTIC OOU"⟩,
    ⟨0x2cbf, "COPTIC ", "SMALL LETTER OLD COPTIC OOU,CAPITAL LETTER SAMPI"⟩,
    ⟨0x2cc1, "COPTIC ", "SMALL LETTER SAMPI,CAPITAL LETTER CROSSED SHEI,SMALL LETTER CROSSED SHEI"⟩,
    ⟨0x2cc4, "COPTIC ", "CAPITAL LETTER OLD COPTIC SHEI,SMALL LETTER OLD COPTIC SHEI"⟩,
    ⟨0x2cc6, "COPTIC ", "CAPITAL LETTER OLD COPTIC ESH,SMALL LETTER OLD COPTIC ESH"⟩,
    ⟨0x2cc8, "COPTIC ", "CAPITAL LETTER AKHMIMIC KHEI,SMALL LETTER AKHMIMIC KHEI"⟩,
    ⟨0x2cca, "COPTIC ", "CAPITAL LETTER DIALECT-P HORI,SMALL LETTER DIALECT-P HORI"⟩,
    ⟨0x2ccc, "COPTIC ", "CAPITAL LETTER OLD COPTIC HORI,SMALL LETTER OLD COPTIC HORI"⟩,
    ⟨0x2cce, "COPTIC ", "CAPITAL LETTER OLD COPTIC HA,SMALL LETTER OLD COPTIC HA"⟩,
    ⟨0x2cd0, "COPTIC ", "CAPITAL LETTER L-SHAPED HA,SMALL LETTER L-SHAPED HA"⟩,
    ⟨0x2cd2, "COPTIC ", "CAPITAL LETTER OLD COPTIC HEI,SMALL LETTER OLD COPTIC HEI"⟩,
    ⟨0x2cd4, "COPTIC ", "CAPITAL LETTER OLD COPTIC HAT,SMALL LETTER OLD COPTIC HAT"⟩,
    ⟨0x2cd6, "COPTIC ", "CAPITAL LETTER OLD COPTIC GANGIA,SMALL LETTER OLD COPTIC GANGIA"⟩,
    ⟨0x2cd8, "COPTIC ", "CAPITAL LETTER OLD COPTIC DJA,SMALL LETTER OLD COPTIC DJA"⟩,
    ⟨0x2cda, "COPTIC ", "CAPITAL LETTER OLD COPTIC SHIMA,SMALL LETTER OLD COPTIC SHIMA"⟩,
    ⟨0x2cdc, "COPTIC ", "CAPITAL LETTER OLD NUBIAN SHIMA,SMALL LETTER OLD NUBIAN SHIMA"⟩,
    ⟨0x2cde, "COPTIC ", "CAPITAL LETTER OLD NUBIAN NGI,SMALL LETTER OLD NUBIAN NGI"⟩,
    ⟨0x2ce0, "COPTIC ", "CAPITAL LETTER OLD NUBIAN NYI,SMALL LETTER OLD NUBIAN NYI"⟩,
    ⟨0x2ce2, "COPTIC ", "CAPITAL LETTER OLD NUBIAN WAU,SMALL LETTER OLD NUBIAN WAU"⟩,
    ⟨0x2ce4, "COPTIC SYMBOL ", "KAI,MI RO,PI RO,STAUROS,TAU RO,KHI RO,SHIMA SIMA"⟩,
    ⟨0x2ceb, "COPTIC ", "CAPITAL LETTER CRYPTOGRAMMIC SHEI,SMALL LETTER CRYPTOGRAMMIC SHEI"⟩,
    ⟨0x2ced, "COPTIC ", "CAPITAL LETTER CRYPTOGRAMMIC GANGIA,SMALL LETTER CRYPTOGRAMMIC GANGIA"⟩,
    ⟨0x2cef, "COPTIC COMBINING ", "NI ABOVE,SPIRITUS ASPER,SPIRITUS LENIS"⟩,
    ⟨0x2cf2, "COPTIC ", "CAPITAL LETTER BOHAIRIC KHEI,SMALL LETTER BOHAIRIC KHEI"⟩,
    ⟨0x2cf9, "", "COPTIC OLD NUBIAN FULL STOP"⟩,
    ⟨0x2cfa, "COPTIC OLD NUBIAN ", "DIRECT QUESTION MARK,INDIRECT QUESTION MARK,VERSE DIVIDER"⟩,
    ⟨0x2cfd, "COPTIC ", "FRACTION ONE HALF,FULL STOP,MORPHOLOGICAL DIVIDER"⟩,
    ⟨0x2d00, "GEORGIAN SMALL LETTER ", "AN,BAN,GAN,DON,EN,VIN,ZEN,TAN,IN,KAN,LAS,MAN,NAR,ON"⟩,
    ⟨0x2d0e, "GEORGIAN SMALL LETTER ", "PAR,ZHAR,RAE,SAN,TAR,UN,PHAR,KHAR,GHAN,QAR,SHIN,CHIN,CAN"⟩,
    ⟨0x2d1b, "GEORGIAN SMALL LETTER ", "JIL,CIL,CHAR,XAN,JHAN,HAE,HE,HIE,WE,HAR,HOE,,YN,,,,,,AEN"⟩,
    ⟨0x2d30, "TIFINAGH LETTER ", "YA,YAB,YABH,YAG,YAGHH,BERBER ACADEMY YAJ,YAJ,YAD,YADH"⟩,
    ⟨0x2d39, "TIFINAGH LETTER ", "YADD,YADDH,YEY,YAF,YAK,TUAREG YAK,YAKHH,YAH,BERBER ACADEMY YAH"⟩,
    ⟨0x2d42, "TIFINAGH LETTER ", "TUAREG YAH,YAHH,YAA,YAKH,TUAREG YAKH,YAQ,TUAREG YAQ,YI,YAZH"⟩,
    ⟨0x2d4b, "TIFINAGH LETTER ", "AHAGGAR YAZH,TUAREG YAZH,YAL,YAM,YAN,TUAREG YAGN,TUAREG YANG"⟩,
    ⟨0x2d52, "TIFINAGH LETTER ", "YAP,YU,YAR,YARR,YAGH,TUAREG YAGH,AYER YAGH,YAS,YASS,YASH"⟩,
    ⟨0x2d5c, "TIFINAGH LETTER ", "YAT,YATH,YACH,YATT,YAV,YAW,YAY,YAZ,TAWELLEMET YAZ,YAZZ,YE,YO"⟩,
    ⟨0x2d6f, "TIFINAGH ", "MODIFIER LETTER LABIALIZATION MARK,SEPARATOR MARK"⟩,
    ⟨0x2d7f, "", "TIFINAGH CONSONANT JOINER"⟩,
    ⟨0x2d80, "ETHIOPIC SYLLABLE ", "LOA,MOA,ROA,SOA,SHOA,BOA,TOA,COA,NOA,NYOA,GLOTTAL OA"⟩,
    ⟨0x2d8b, "ETHIOPIC SYLLABLE ", "ZOA,DOA,DDOA,JOA,THOA,CHOA,PHOA,POA,GGWA,GGWI,GGWEE,GGWE"⟩,
    ⟨0x2da0, "ETHIOPIC SYLLABLE ", "SSA,SSU,SSI,SSAA,SSEE,SSE,SSO"⟩,
    ⟨0x2da8, "ETHIOPIC SYLLABLE ", "CCA,CCU,CCI,CCAA,CCEE,CCE,CCO,,ZZA,ZZU,ZZI,ZZAA,ZZEE,ZZE,ZZO"⟩,
    ⟨0x2db8, "ETHIOPIC SYLLABLE ", "CCHA,CCHU,CCHI,CCHAA,CCHEE,CCHE,CCHO"⟩,
    ⟨0x2dc0, "ETHIOPIC SYLLABLE ", "QYA,QYU,QYI,QYAA,QYEE,QYE,QYO,,KYA,KYU,KYI,KYAA,KYEE,KYE,KYO"⟩,
    ⟨0x2dd0, "ETHIOPIC SYLLABLE ", "XYA,XYU,XYI,XYAA,XYEE,XYE,XYO,,GYA,GYU,GYI,GYAA,GYEE,GYE,GYO"⟩,
    ⟨0x2de0, "COMBINING CYRILLIC LETTER ", "BE,VE,GHE,DE,ZHE,ZE,KA,EL,EM,EN,O,PE,ER,ES,TE,HA"⟩,
    ⟨0x2df0, "COMBINING CYRILLIC LETTER ", "TSE,CHE,SHA,SHCHA,FITA,ES-TE,A,IE,DJERV,MONOGRAPH UK"⟩,
    ⟨0x2dfa, "COMBINING CYRILLIC LETTER ", "YAT,YU,IOTIFIED A,LITTLE YUS,BIG YUS,IOTIFIED BIG YUS"⟩,
    ⟨0x2e00, "RIGHT ANGLE ", "SUBSTITUTION MARKER,DOTTED SUBSTITUTION MARKER"⟩,
    ⟨0x2e02, "", "LEFT SUBSTITUTION BRACKET,RIGHT SUBSTITUTION BRACKET"⟩,
    ⟨0x2e04, "", "LEFT DOTTED SUBSTITUTION BRACKET,RIGHT DOTTED SUBSTITUTION BRACKET"⟩,
    ⟨0x2e06, "RAISED ", "INTERPOLATION MARKER,DOTTED INTERPOLATION MARKER"⟩,
    ⟨0x2e08, "", "DOTTED TRANSPOSITION MARKER,LEFT TRANSPOSITION BRACKET"⟩,
    ⟨0x2e0a, "", "RIGHT TRANSPOSITION BRACKET,RAISED SQUARE,LEFT RAISED OMISSION BRACKET"⟩,
    ⟨0x2e0d, "", "RIGHT RAISED OMISSION BRACKET,EDITORIAL CORONIS,PARAGRAPHOS,FORKED PARAGRAPHOS"⟩,
    ⟨0x2e11, "", "REVERSED FORKED PARAGRAPHOS,HYPODIASTOLE,DOTTED OBELOS,DOWNWARDS ANCORA"⟩,
    ⟨0x2e15, "", "UPWARDS ANCORA,DOTTED RIGHT-POINTING ANGLE,DOUBLE OBLIQUE HYPHEN"⟩,
    ⟨0x2e18, "", "INVERTED INTERROBANG,PALM BRANCH,HYPHEN WITH DIAERESIS,TILDE WITH RING ABOVE"⟩,
    ⟨0x2e1c, "", "LEFT LOW PARAPHRASE BRACKET,RIGHT LOW PARAPHRASE BRACKET,TILDE WITH DOT ABOVE"⟩,
    ⟨0x2e1f, "", "TILDE WITH DOT BELOW,LEFT VERTICAL BAR WITH QUILL,RIGHT VERTICAL BAR WITH QUILL"⟩,
    ⟨0x2e22, "TOP ", "LEFT HALF BRACKET,RIGHT HALF BRACKET"⟩,
    ⟨0x2e24, "BOTTOM ", "LEFT HALF BRACKET,RIGHT HALF BRACKET"⟩,
    ⟨0x2e26, "", "LEFT SIDEWAYS U BRACKET,RIGHT SIDEWAYS U BRACKET,LEFT DOUBLE PARENTHESIS"⟩,
    ⟨0x2e29, "", "RIGHT DOUBLE PARENTHESIS,TWO DOTS OVER ONE DOT PUNCTUATION"⟩,
    ⟨0x2e2b, "", "ONE DOT OVER TWO DOTS PUNCTUATION,SQUARED FOUR DOT PUNCTUATION,FIVE DOT MARK"⟩,
    ⟨0x2e2e, "", "REVERSED QUESTION MARK,VERTICAL TILDE,RING POINT,WORD SEPARATOR MIDDLE DOT"⟩,
    ⟨0x2e32, "", "TURNED COMMA,RAISED DOT,RAISED COMMA,TURNED SEMICOLON,DAGGER WITH LEFT GUARD"⟩,
    ⟨0x2e37, "", "DAGGER WITH RIGHT GUARD,TURNED DAGGER,TOP HALF SECTION SIGN,TWO-EM DASH"⟩,
    ⟨0x2e3b, "", "THREE-EM DASH,STENOGRAPHIC FULL STOP,VERTICAL SIX DOTS,WIGGLY VERTICAL LINE"⟩,
    ⟨0x2e3f, "", "CAPITULUM,DOUBLE HYPHEN,REVERSED COMMA,DOUBLE LOW-REVERSED-9 QUOTATION MARK"⟩,
    ⟨0x2e43, "", "DASH WITH LEFT UPTURN,DOUBLE SUSPENSION MARK"⟩,
    ⟨0x2e45, "", "INVERTED LOW KAVYKA,INVERTED LOW KAVYKA WITH KAVYKA ABOVE,LOW KAVYKA"⟩,
    ⟨0x2e48, "", "LOW KAVYKA WITH DOT,DOUBLE STACKED COMMA,DOTTED SOLIDUS,TRIPLE DAGGER"⟩,
    ⟨0x2e4c, "", "MEDIEVAL COMMA,PARAGRAPHUS MARK,PUNCTUS ELEVATUS MARK,CORNISH VERSE DIVIDER"⟩,
    ⟨0x2e50, "CROSS PATTY WITH ", "RIGHT CROSSBAR,LEFT CROSSBAR"⟩,
    ⟨0x2e52, "", "TIRONIAN SIGN CAPITAL ET,MEDIEVAL EXCLAMATION MARK,MEDIEVAL QUESTION MARK"⟩,
    ⟨0x2e55, "", "LEFT SQUARE BRACKET WITH STROKE,RIGHT SQUARE BRACKET WITH STROKE"⟩,
    ⟨0x2e57, "", "LEFT SQUARE BRACKET WITH DOUBLE STROKE,RIGHT SQUARE BRACKET WITH DOUBLE STROKE"⟩,
    ⟨0x2e59, "TOP HALF ", "LEFT PARENTHESIS,RIGHT PARENTHESIS"⟩,
    ⟨0x2e5b, "", "BOTTOM HALF LEFT PARENTHESIS,BOTTOM HALF RIGHT PARENTHESIS,OBLIQUE HYPHEN"⟩,
    ⟨0x2e80, "CJK RADICAL ", "REPEAT,CLIFF,SECOND ONE,SECOND TWO"⟩,
    ⟨0x2e84, "CJK RADICAL ", "SECOND THREE,PERSON,BOX,TABLE,KNIFE ONE,KNIFE TWO,DIVINATION,SEAL"⟩,
    ⟨0x2e8c, "CJK RADICAL ", "SMALL ONE,SMALL TWO,LAME ONE,LAME TWO,LAME THREE,LAME FOUR,SNAKE"⟩,
    ⟨0x2e93, "CJK RADICAL ", "THREAD,SNOUT ONE,SNOUT TWO,HEART ONE,HEART TWO,HAND,RAP,,CHOKE"⟩,
    ⟨0x2e9c, "CJK RADICAL ", "SUN,MOON,DEATH,MOTHER,CIVILIAN,WATER ONE,WATER TWO,FIRE,PAW ONE"⟩,
    ⟨0x2ea5, "CJK RADICAL ", "PAW TWO,SIMPLIFIED HALF TREE TRUNK,COW,DOG,JADE,BOLT OF CLOTH,EYE"⟩,
    ⟨0x2eac, "CJK RADICAL ", "SPIRIT ONE,SPIRIT TWO,BAMBOO,SILK,C-SIMPLIFIED SILK,NET ONE,NET TWO"⟩,
    ⟨0x2eb3, "CJK RADICAL ", "NET THREE,NET FOUR,MESH,SHEEP,RAM,EWE,OLD,BRUSH ONE,BRUSH TWO"⟩,
    ⟨0x2ebc, "CJK RADICAL ", "MEAT,MORTAR,GRASS ONE,GRASS TWO,GRASS THREE,TIGER,CLOTHES,WEST ONE"⟩,
    ⟨0x2ec4, "CJK RADICAL ", "WEST TWO,C-SIMPLIFIED SEE,SIMPLIFIED HORN,HORN,C-SIMPLIFIED SPEECH"⟩,
    ⟨0x2ec9, "CJK RADICAL ", "C-SIMPLIFIED SHELL,FOOT,C-SIMPLIFIED CART,SIMPLIFIED WALK"⟩,
    ⟨0x2ecd, "CJK RADICAL ", "WALK ONE,WALK TWO,CITY,C-SIMPLIFIED GOLD,LONG ONE,LONG TWO"⟩,
    ⟨0x2ed3, "CJK RADICAL ", "C-SIMPLIFIED LONG,C-SIMPLIFIED GATE,MOUND ONE,MOUND TWO,RAIN,BLUE"⟩,
    ⟨0x2ed9, "CJK RADICAL C-SIMPLIFIED ", "TANNED LEATHER,LEAF,WIND,FLY"⟩,
    ⟨0x2edd, "CJK RADICAL ", "EAT ONE,EAT TWO,EAT THREE,C-SIMPLIFIED EAT,HEAD,C-SIMPLIFIED HORSE"⟩,
    ⟨0x2ee3, "CJK RADICAL ", "BONE,GHOST,C-SIMPLIFIED FISH,C-SIMPLIFIED BIRD,C-SIMPLIFIED SALT"⟩,
    ⟨0x2ee8, "CJK RADICAL SIMPLIFIED ", "WHEAT,YELLOW"⟩,
    ⟨0x2eea, "CJK RADICAL ", "C-SIMPLIFIED FROG,J-SIMPLIFIED EVEN,C-SIMPLIFIED EVEN"⟩,
    ⟨0x2eed, "CJK RADICAL ", "J-SIMPLIFIED TOOTH,C-SIMPLIFIED TOOTH,J-SIMPLIFIED DRAGON"⟩,
    ⟨0x2ef0, "CJK RADICAL ", "C-SIMPLIFIED DRAGON,TURTLE,J-SIMPLIFIED TURTLE,C-SIMPLIFIED TURTLE"⟩,
    ⟨0x2f00, "", "KANGXI RADICAL ONE"⟩,
    ⟨0x2f01, "KANGXI RADICAL ", "LINE,DOT,SLASH,SECOND,HOOK,TWO,LID,MAN,LEGS,ENTER,EIGHT,DOWN BOX"⟩,
    ⟨0x2f0d, "KANGXI RADICAL ", "COVER,ICE,TABLE,OPEN BOX,KNIFE,POWER,WRAP,SPOON,RIGHT OPEN BOX"⟩,
    ⟨0x2f16, "KANGXI RADICAL ", "HIDING ENCLOSURE,TEN,DIVINATION,SEAL,CLIFF,PRIVATE,AGAIN,MOUTH"⟩,
    ⟨0x2f1e, "KANGXI RADICAL ", "ENCLOSURE,EARTH,SCHOLAR,GO,GO SLOWLY,EVENING,BIG,WOMAN,CHILD"⟩,
    ⟨0x2f27, "KANGXI RADICAL ", "ROOF,INCH,SMALL,LAME,CORPSE,SPROUT,MOUNTAIN,RIVER,WORK,ONESELF"⟩,
    ⟨0x2f31, "KANGXI RADICAL ", "TURBAN,DRY,SHORT THREAD,DOTTED CLIFF,LONG STRIDE,TWO HANDS,SHOOT"⟩,
    ⟨0x2f38, "KANGXI RADICAL ", "BOW,SNOUT,BRISTLE,STEP,HEART,HALBERD,DOOR,HAND,BRANCH,RAP,SCRIPT"⟩,
    ⟨0x2f43, "KANGXI RADICAL ", "DIPPER,AXE,SQUARE,NOT,SUN,SAY,MOON,TREE,LACK,STOP,DEATH,WEAPON"⟩,
    ⟨0x2f4f, "KANGXI RADICAL ", "DO NOT,COMPARE,FUR,CLAN,STEAM,WATER,FIRE,CLAW,FATHER,DOUBLE X"⟩,
    ⟨0x2f59, "KANGXI RADICAL ", "HALF TREE TRUNK,SLICE,FANG,COW,DOG,PROFOUND,JADE,MELON,TILE"⟩,
    ⟨0x2f62, "KANGXI RADICAL ", "SWEET,LIFE,USE,FIELD,BOLT OF CLOTH,SICKNESS,DOTTED TENT,WHITE"⟩,
    ⟨0x2f6a, "KANGXI RADICAL ", "SKIN,DISH,EYE,SPEAR,ARROW,STONE,SPIRIT,TRACK,GRAIN,CAVE,STAND"⟩,
    ⟨0x2f75, "KANGXI RADICAL ", "BAMBOO,RICE,SILK,JAR,NET,SHEEP,FEATHER,OLD,AND,PLOW,EAR,BRUSH"⟩,
    ⟨0x2f81, "KANGXI RADICAL ", "MEAT,MINISTER,SELF,ARRIVE,MORTAR,TONGUE,OPPOSE,BOAT,STOPPING"⟩,
    ⟨0x2f8a, "KANGXI RADICAL ", "COLOR,GRASS,TIGER,INSECT,BLOOD,WALK ENCLOSURE,CLOTHES,WEST"⟩,
    ⟨0x2f92, "KANGXI RADICAL ", "SEE,HORN,SPEECH,VALLEY,BEAN,PIG,BADGER,SHELL,RED,RUN,FOOT,BODY"⟩,
    ⟨0x2f9e, "KANGXI RADICAL ", "CART,BITTER,MORNING,WALK,CITY,WINE,DISTINGUISH,VILLAGE,GOLD,LONG"⟩,
    ⟨0x2fa8, "KANGXI RADICAL ", "GATE,MOUND,SLAVE,SHORT TAILED BIRD,RAIN,BLUE,WRONG,FACE,LEATHER"⟩,
    ⟨0x2fb1, "KANGXI RADICAL ", "TANNED LEATHER,LEEK,SOUND,LEAF,WIND,FLY,EAT,HEAD,FRAGRANT"⟩,
    ⟨0x2fba, "KANGXI RADICAL ", "HORSE,BONE,TALL,HAIR,FIGHT,SACRIFICIAL WINE,CAULDRON,GHOST"⟩,
    ⟨0x2fc2, "KANGXI RADICAL ", "FISH,BIRD,SALT,DEER,WHEAT,HEMP,YELLOW,MILLET,BLACK,EMBROIDERY"⟩,
    ⟨0x2fcc, "KANGXI RADICAL ", "FROG,TRIPOD,DRUM,RAT,NOSE,EVEN,TOOTH,DRAGON,TURTLE,FLUTE"⟩,
    ⟨0x2ff0, "", "IDEOGRAPHIC DESCRIPTION CHARACTER LEFT TO RIGHT"⟩,
    ⟨0x2ff1, "IDEOGRAPHIC DESCRIPTION CHARACTER ", "ABOVE TO BELOW,LEFT TO MIDDLE AND RIGHT"⟩,
    ⟨0x2ff3, "IDEOGRAPHIC DESCRIPTION CHARACTER ", "ABOVE TO MIDDLE AND BELOW,FULL SURROUND"⟩,
    ⟨0x2ff5, "IDEOGRAPHIC DESCRIPTION CHARACTER SURROUND FROM ", "ABOVE,BELOW,LEFT,UPPER LEFT"⟩,
    ⟨0x2ff9, "IDEOGRAPHIC DESCRIPTION CHARACTER SURROUND FROM ", "UPPER RIGHT,LOWER LEFT"⟩,
    ⟨0x2ffb, "IDEOGRAPHIC ", "DESCRIPTION CHARACTER OVERLAID,,,,,SPACE,COMMA,FULL STOP"⟩,
    ⟨0x3003, "", "DITTO MARK,JAPANESE INDUSTRIAL STANDARD SYMBOL"⟩,
    ⟨0x3005, "IDEOGRAPHIC ", "ITERATION MARK,CLOSING MARK,NUMBER ZERO"⟩,
    ⟨0x3008, "", "LEFT ANGLE BRACKET,RIGHT ANGLE BRACKET"⟩,
    ⟨0x300a, "", "LEFT DOUBLE ANGLE BRACKET,RIGHT DOUBLE ANGLE BRACKET,LEFT CORNER BRACKET"⟩,
    ⟨0x300d, "", "RIGHT CORNER BRACKET,LEFT WHITE CORNER BRACKET,RIGHT WHITE CORNER BRACKET"⟩,
    ⟨0x3010, "", "LEFT BLACK LENTICULAR BRACKET,RIGHT BLACK LENTICULAR BRACKET"⟩,
    ⟨0x3012, "", "POSTAL MARK,GETA MARK,LEFT TORTOISE SHELL BRACKET"⟩,
    ⟨0x3015, "", "RIGHT TORTOISE SHELL BRACKET,LEFT WHITE LENTICULAR BRACKET"⟩,
    ⟨0x3017, "", "RIGHT WHITE LENTICULAR BRACKET,LEFT WHITE TORTOISE SHELL BRACKET"⟩,
    ⟨0x3019, "", "RIGHT WHITE TORTOISE SHELL BRACKET,LEFT WHITE SQUARE BRACKET"⟩,
    ⟨0x301b, "", "RIGHT WHITE SQUARE BRACKET,WAVE DASH,REVERSED DOUBLE PRIME QUOTATION MARK"⟩,
    ⟨0x301e, "", "DOUBLE PRIME QUOTATION MARK,LOW DOUBLE PRIME QUOTATION MARK,POSTAL MARK FACE"⟩,
    ⟨0x3021, "HANGZHOU NUMERAL ", "ONE,TWO,THREE,FOUR,FIVE,SIX,SEVEN,EIGHT,NINE"⟩,
    ⟨0x302a, "", "IDEOGRAPHIC LEVEL TONE MARK"⟩,
    ⟨0x302b, "IDEOGRAPHIC ", "RISING TONE MARK,DEPARTING TONE MARK,ENTERING TONE MARK"⟩,
    ⟨0x302e, "", "HANGUL SINGLE DOT TONE MARK,HANGUL DOUBLE DOT TONE MARK,WAVY DASH"⟩,
    ⟨0x3031, "VERTICAL KANA REPEAT ", "MARK,WITH VOICED SOUND MARK,MARK UPPER HALF"⟩,
    ⟨0x3034, "VERTICAL KANA REPEAT ", "WITH VOICED SOUND MARK UPPER HALF,MARK LOWER HALF"⟩,
    ⟨0x3036, "", "CIRCLED POSTAL MARK,IDEOGRAPHIC TELEGRAPH LINE FEED SEPARATOR SYMBOL"⟩,
    ⟨0x3038, "HANGZHOU NUMERAL ", "TEN,TWENTY,THIRTY"⟩,
    ⟨0x303b, "", "VERTICAL IDEOGRAPHIC ITERATION MARK,MASU MARK,PART ALTERNATION MARK"⟩,
    ⟨0x303e, "IDEOGRAPHIC ", "VARIATION INDICATOR,HALF FILL SPACE"⟩,
    ⟨0x3041, "HIRAGANA LETTER ", "SMALL A,A,SMALL I,I,SMALL U,U,SMALL E,E,SMALL O,O,KA,GA"⟩,
    ⟨0x304d, "HIRAGANA LETTER ", "KI,GI,KU,GU,KE,GE,KO,GO,SA,ZA,SI,ZI,SU,ZU,SE,ZE,SO,ZO,TA,DA,TI"⟩,
    ⟨0x3062, "HIRAGANA LETTER ", "DI,SMALL TU,TU,DU,TE,DE,TO,DO,NA,NI,NU,NE,NO,HA,BA,PA,HI,BI,PI"⟩,
    ⟨0x3075, "HIRAGANA LETTER ", "HU,BU,PU,HE,BE,PE,HO,BO,PO,MA,MI,MU,ME,MO,SMALL YA,YA,SMALL YU"⟩,
    ⟨0x3086, "HIRAGANA LETTER ", "YU,SMALL YO,YO,RA,RI,RU,RE,RO,SMALL WA,WA,WI,WE,WO,N,VU"⟩,
    ⟨0x3095, "HIRAGANA LETTER SMALL ", "KA,KE"⟩,
    ⟨0x3099, "COMBINING KATAKANA-HIRAGANA ", "VOICED SOUND MARK,SEMI-VOICED SOUND MARK"⟩,
    ⟨0x309b, "KATAKANA-HIRAGANA ", "VOICED SOUND MARK,SEMI-VOICED SOUND MARK"⟩,
    ⟨0x309d, "HIRAGANA ", "ITERATION MARK,VOICED ITERATION MARK,DIGRAPH YORI"⟩,
    ⟨0x30a0, "", "KATAKANA-HIRAGANA DOUBLE HYPHEN"⟩,
    ⟨0x30a1, "KATAKANA LETTER ", "SMALL A,A,SMALL I"⟩,
    ⟨0x30a4, "KATAKANA LETTER ", "I,SMALL U,U,SMALL E,E,SMALL O,O,KA,GA,KI,GI,KU,GU,KE,GE,KO,GO"⟩,
    ⟨0x30b5, "KATAKANA LETTER ", "SA,ZA,SI,ZI,SU,ZU,SE,ZE,SO,ZO,TA,DA,TI,DI,SMALL TU,TU,DU,TE,DE"⟩,
    ⟨0x30c8, "KATAKANA LETTER ", "TO,DO,NA,NI,NU,NE,NO,HA,BA,PA,HI,BI,PI,HU,BU,PU,HE,BE,PE,HO,BO"⟩,
    ⟨0x30dd, "KATAKANA LETTER ", "PO,MA,MI,MU,ME,MO,SMALL YA,YA,SMALL YU,YU,SMALL YO,YO,RA,RI,RU"⟩,
    ⟨0x30ec, "KATAKANA LETTER ", "RE,RO,SMALL WA,WA,WI,WE,WO,N,VU,SMALL KA,SMALL KE,VA,VI,VE,VO"⟩,
    ⟨0x30fb, "", "KATAKANA MIDDLE DOT,KATAKANA-HIRAGANA PROLONGED SOUND MARK"⟩,
    ⟨0x30fd, "KATAKANA ", "ITERATION MARK,VOICED ITERATION MARK,DIGRAPH KOTO"⟩,
    ⟨0x3105, "BOPOMOFO LETTER ", "B,P,M,F,D,T,N,L,G,K,H,J,Q,X,ZH,CH,SH,R,Z,C,S,A,O,E,EH,AI"⟩,
    ⟨0x311f, "BOPOMOFO LETTER ", "EI,AU,OU,AN,EN,ANG,ENG,ER,I,U,IU,V,NG,GN,IH,O WITH DOT ABOVE,NN"⟩,
    ⟨0x3131, "HANGUL LETTER ", "KIYEOK,SSANGKIYEOK,KIYEOK-SIOS"⟩,
    ⟨0x3134, "HANGUL LETTER ", "NIEUN,NIEUN-CIEUC,NIEUN-HIEUH,TIKEUT,SSANGTIKEUT,RIEUL"⟩,
    ⟨0x313a, "HANGUL LETTER RIEUL-", "KIYEOK,MIEUM,PIEUP,SIOS,THIEUTH,PHIEUPH,HIEUH"⟩,
    ⟨0x3141, "HANGUL LETTER ", "MIEUM,PIEUP,SSANGPIEUP,PIEUP-SIOS,SIOS,SSANGSIOS"⟩,
    ⟨0x3147, "HANGUL LETTER ", "IEUNG,CIEUC,SSANGCIEUC,CHIEUCH,KHIEUKH,THIEUTH,PHIEUPH,HIEUH"⟩,
    ⟨0x314f, "HANGUL LETTER ", "A,AE,YA,YAE,EO,E,YEO,YE,O,WA,WAE,OE,YO,U,WEO,WE,WI,YU,EU,YI,I"⟩,
    ⟨0x3164, "HANGUL ", "FILLER,LETTER SSANGNIEUN"⟩,
    ⟨0x3166, "HANGUL LETTER NIEUN-", "TIKEUT,SIOS,PANSIOS"⟩,
    ⟨0x3169, "HANGUL LETTER RIEUL-", "KIYEOK-SIOS,TIKEUT,PIEUP-SIOS,PANSIOS,YEORINHIEUH"⟩,
    ⟨0x316e, "HANGUL LETTER ", "MIEUM-PIEUP,MIEUM-SIOS,MIEUM-PANSIOS,KAPYEOUNMIEUM"⟩,
    ⟨0x3172, "HANGUL LETTER PIEUP-", "KIYEOK,TIKEUT,SIOS-KIYEOK,SIOS-TIKEUT,CIEUC,THIEUTH"⟩,
    ⟨0x3178, "HANGUL LETTER ", "KAPYEOUNPIEUP,KAPYEOUNSSANGPIEUP,SIOS-KIYEOK,SIOS-NIEUN"⟩,
    ⟨0x317c, "HANGUL LETTER ", "SIOS-TIKEUT,SIOS-PIEUP,SIOS-CIEUC,PANSIOS,SSANGIEUNG,YESIEUNG"⟩,
    ⟨0x3182, "HANGUL LETTER ", "YESIEUNG-SIOS,YESIEUNG-PANSIOS,KAPYEOUNPHIEUPH,SSANGHIEUH"⟩,
    ⟨0x3186, "HANGUL LETTER ", "YEORINHIEUH,YO-YA,YO-YAE,YO-I,YU-YEO,YU-YE,YU-I,ARAEA,ARAEAE"⟩,
    ⟨0x3190, "", "IDEOGRAPHIC ANNOTATION LINKING MARK"⟩,
    ⟨0x3191, "IDEOGRAPHIC ANNOTATION ", "REVERSE MARK,ONE MARK,TWO MARK,THREE MARK,FOUR MARK"⟩,
    ⟨0x3196, "IDEOGRAPHIC ANNOTATION ", "TOP MARK,MIDDLE MARK,BOTTOM MARK,FIRST MARK,SECOND MARK"⟩,
    ⟨0x319b, "IDEOGRAPHIC ANNOTATION ", "THIRD MARK,FOURTH MARK,HEAVEN MARK,EARTH MARK,MAN MARK"⟩,
    ⟨0x31a0, "BOPOMOFO LETTER ", "BU,ZI,JI,GU,EE,ENN,OO,ONN,IR,ANN,INN,UNN,IM,NGG,AINN,AUNN,AM,OM"⟩,
    ⟨0x31b2, "BOPOMOFO ", "LETTER ONG,LETTER INNN,FINAL LETTER P,FINAL LETTER T,FINAL LETTER K"⟩,
    ⟨0x31b7, "BOPOMOFO ", "FINAL LETTER H,LETTER GH,LETTER LH,LETTER ZY,FINAL LETTER G"⟩,
    ⟨0x31bc, "BOPOMOFO LETTER ", "GW,KW,OE,AH"⟩,
    ⟨0x31c0, "CJK STROKE ", "T,WG,XG,BXG,SW,HZZ,HZG,HP,HZWG,SZWG,HZT,HZZP,HPWG,HZW,HZZZ"⟩,
    ⟨0x31cf, "CJK STROKE ", "N,H,S,P,SP,D,HZ,HG,SZ,SWZ,ST,SG,PD,PZ,TN,SZZ,SWG,HXWG,HZZZG,PG,Q"⟩,
    ⟨0x31f0, "KATAKANA LETTER SMALL ", "KU,SI,SU,TO,NU,HA,HI,HU,HE,HO,MU,RA,RI,RU,RE,RO"⟩,
    ⟨0x3200, "PARENTHESIZED HANGUL ", "KIYEOK,NIEUN,TIKEUT,RIEUL,MIEUM,PIEUP,SIOS,IEUNG,CIEUC"⟩,
    ⟨0x3209, "PARENTHESIZED HANGUL ", "CHIEUCH,KHIEUKH,THIEUTH,PHIEUPH,HIEUH,KIYEOK A,NIEUN A"⟩,
    ⟨0x3210, "PARENTHESIZED HANGUL ", "TIKEUT A,RIEUL A,MIEUM A,PIEUP A,SIOS A,IEUNG A,CIEUC A"⟩,
    ⟨0x3217, "PARENTHESIZED HANGUL ", "CHIEUCH A,KHIEUKH A,THIEUTH A,PHIEUPH A,HIEUH A,CIEUC U"⟩,
    ⟨0x321d, "PARENTHESIZED KOREAN CHARACTER ", "OJEON,O HU"⟩,
    ⟨0x3220, "PARENTHESIZED IDEOGRAPH ", "ONE,TWO,THREE,FOUR,FIVE"⟩,
    ⟨0x3225, "PARENTHESIZED IDEOGRAPH ", "SIX,SEVEN,EIGHT,NINE,TEN,MOON,FIRE,WATER,WOOD,METAL"⟩,
    ⟨0x322f, "PARENTHESIZED IDEOGRAPH ", "EARTH,SUN,STOCK,HAVE,SOCIETY,NAME,SPECIAL,FINANCIAL"⟩,
    ⟨0x3237, "PARENTHESIZED IDEOGRAPH ", "CONGRATULATION,LABOR,REPRESENT,CALL,STUDY,SUPERVISE"⟩,
    ⟨0x323d, "PARENTHESIZED IDEOGRAPH ", "ENTERPRISE,RESOURCE,ALLIANCE,FESTIVAL,REST,SELF,REACH"⟩,
    ⟨0x3244, "CIRCLED IDEOGRAPH ", "QUESTION,KINDERGARTEN,SCHOOL,KOTO"⟩,
    ⟨0x3248, "CIRCLED NUMBER ", "TEN ON BLACK SQUARE,TWENTY ON BLACK SQUARE"⟩,
    ⟨0x324a, "CIRCLED NUMBER ", "THIRTY ON BLACK SQUARE,FORTY ON BLACK SQUARE"⟩,
    ⟨0x324c, "CIRCLED NUMBER ", "FIFTY ON BLACK SQUARE,SIXTY ON BLACK SQUARE"⟩,
    ⟨0x324e, "CIRCLED NUMBER ", "SEVENTY ON BLACK SQUARE,EIGHTY ON BLACK SQUARE"⟩,
    ⟨0x3250, "", "PARTNERSHIP SIGN"⟩,
    ⟨0x3251, "CIRCLED NUMBER TWENTY ", "ONE,TWO,THREE,FOUR,FIVE,SIX,SEVEN,EIGHT,NINE"⟩,
    ⟨0x325a, "CIRCLED NUMBER ", "THIRTY,THIRTY ONE,THIRTY TWO,THIRTY THREE,THIRTY FOUR"⟩,
    ⟨0x325f, "CIRCLED ", "NUMBER THIRTY FIVE,HANGUL KIYEOK,HANGUL NIEUN,HANGUL TIKEUT"⟩,
    ⟨0x3263, "CIRCLED HANGUL ", "RIEUL,MIEUM,PIEUP,SIOS,IEUNG,CIEUC,CHIEUCH,KHIEUKH,THIEUTH"⟩,
    ⟨0x326c, "CIRCLED HANGUL ", "PHIEUPH,HIEUH,KIYEOK A,NIEUN A,TIKEUT A,RIEUL A,MIEUM A,PIEUP A"⟩,
    ⟨0x3274, "CIRCLED HANGUL ", "SIOS A,IEUNG A,CIEUC A,CHIEUCH A,KHIEUKH A,THIEUTH A,PHIEUPH A"⟩,
    ⟨0x327b, "CIRCLED ", "HANGUL HIEUH A,KOREAN CHARACTER CHAMKO,KOREAN CHARACTER JUEUI"⟩,
    ⟨0x327e, "", "CIRCLED HANGUL IEUNG U,KOREAN STANDARD SYMBOL"⟩,
    ⟨0x3280, "CIRCLED IDEOGRAPH ", "ONE,TWO,THREE,FOUR,FIVE"⟩,
    ⟨0x3285, "CIRCLED IDEOGRAPH ", "SIX,SEVEN,EIGHT,NINE,TEN,MOON,FIRE,WATER,WOOD,METAL,EARTH"⟩,
    ⟨0x3290, "CIRCLED IDEOGRAPH ", "SUN,STOCK,HAVE,SOCIETY,NAME,SPECIAL,FINANCIAL,CONGRATULATION"⟩,
    ⟨0x3298, "CIRCLED IDEOGRAPH ", "LABOR,SECRET,MALE,FEMALE,SUITABLE,EXCELLENT,PRINT,ATTENTION"⟩,
    ⟨0x32a0, "CIRCLED IDEOGRAPH ", "ITEM,REST,COPY,CORRECT,HIGH,CENTRE,LOW,LEFT,RIGHT,MEDICINE"⟩,
    ⟨0x32aa, "CIRCLED IDEOGRAPH ", "RELIGION,STUDY,SUPERVISE,ENTERPRISE,RESOURCE,ALLIANCE,NIGHT"⟩,
    ⟨0x32b1, "CIRCLED NUMBER ", "THIRTY SIX,THIRTY SEVEN,THIRTY EIGHT,THIRTY NINE,FORTY"⟩,
    ⟨0x32b6, "CIRCLED NUMBER FORTY ", "ONE,TWO,THREE,FOUR,FIVE,SIX,SEVEN,EIGHT,NINE"⟩,
    ⟨0x32bf, "", "CIRCLED NUMBER FIFTY"⟩,
    ⟨0x32c0, "IDEOGRAPHIC TELEGRAPH SYMBOL FOR ", "JANUARY,FEBRUARY,MARCH,APRIL,MAY,JUNE,JULY"⟩,
    ⟨0x32c7, "IDEOGRAPHIC TELEGRAPH SYMBOL FOR ", "AUGUST,SEPTEMBER,OCTOBER,NOVEMBER,DECEMBER"⟩,
    ⟨0x32cc, "", "SQUARE HG,SQUARE ERG,SQUARE EV,LIMITED LIABILITY SIGN"⟩,
    ⟨0x32d0, "CIRCLED KATAKANA ", "A,I,U,E,O"⟩,
    ⟨0x32d5, "CIRCLED KATAKANA ", "KA,KI,KU,KE,KO,SA,SI,SU,SE,SO,TA,TI,TU,TE,TO,NA,NI,NU,NE,NO,HA"⟩,
    ⟨0x32ea, "CIRCLED KATAKANA ", "HI,HU,HE,HO,MA,MI,MU,ME,MO,YA,YU,YO,RA,RI,RU,RE,RO,WA,WI,WE,WO"⟩,
    ⟨0x32ff, "SQUARE ", "ERA NAME REIWA,APAATO,ARUHUA,ANPEA,AARU,ININGU"⟩,
    ⟨0x3305, "SQUARE ", "INTI,UON,ESUKUUDO,EEKAA,ONSU,OOMU,KAIRI,KARATTO,KARORII,GARON,GANMA"⟩,
    ⟨0x3310, "SQUARE ", "GIGA,GINII,KYURII,GIRUDAA,KIRO,KIROGURAMU,KIROMEETORU,KIROWATTO,GURAMU"⟩,
    ⟨0x3319, "SQUARE ", "GURAMUTON,KURUZEIRO,KUROONE,KEESU,KORUNA,KOOPO,SAIKURU,SANTIIMU,SIRINGU"⟩,
    ⟨0x3322, "SQUARE ", "SENTI,SENTO,DAASU,DESI,DORU,TON,NANO,NOTTO,HAITU,PAASENTO,PAATU,BAARERU"⟩,
    ⟨0x332e, "SQUARE ", "PIASUTORU,PIKURU,PIKO,BIRU,HUARADDO,HUIITO,BUSSYERU,HURAN,HEKUTAARU"⟩,
    ⟨0x3337, "SQUARE ", "PESO,PENIHI,HERUTU,PENSU,PEEZI,BEETA,POINTO,BORUTO,HON,PONDO,HOORU,HOON"⟩,
    ⟨0x3343, "SQUARE ", "MAIKURO,MAIRU,MAHHA,MARUKU,MANSYON,MIKURON,MIRI,MIRIBAARU,MEGA,MEGATON"⟩,
    ⟨0x334d, "SQUARE ", "MEETORU,YAADO,YAARU,YUAN,RITTORU,RIRA,RUPII,RUUBURU,REMU,RENTOGEN,WATTO"⟩,
    ⟨0x3358, "IDEOGRAPHIC TELEGRAPH SYMBOL FOR HOUR ", "ZERO,ONE,TWO,THREE"⟩,
    ⟨0x335c, "IDEOGRAPHIC TELEGRAPH SYMBOL FOR HOUR ", "FOUR,FIVE,SIX,SEVEN,EIGHT,NINE,TEN,ELEVEN"⟩,
    ⟨0x3364, "IDEOGRAPHIC TELEGRAPH SYMBOL FOR HOUR ", "TWELVE,THIRTEEN,FOURTEEN,FIFTEEN,SIXTEEN"⟩,
    ⟨0x3369, "IDEOGRAPHIC TELEGRAPH SYMBOL FOR HOUR ", "SEVENTEEN,EIGHTEEN,NINETEEN,TWENTY"⟩,
    ⟨0x336d, "IDEOGRAPHIC TELEGRAPH SYMBOL FOR HOUR TWENTY-", "ONE,TWO,THREE,FOUR"⟩,
    ⟨0x3371, "SQUARE ", "HPA,DA,AU,BAR,OV,PC,DM,DM SQUARED,DM CUBED,IU,ERA NAME HEISEI"⟩,
    ⟨0x337c, "SQUARE ", "ERA NAME SYOUWA,ERA NAME TAISYOU,ERA NAME MEIZI,CORPORATION"⟩,
    ⟨0x3380, "SQUARE ", "PA AMPS,NA,MU A,MA,KA,KB,MB,GB,CAL,KCAL,PF,NF,MU F,MU G,MG,KG,HZ"⟩,
    ⟨0x3391, "SQUARE ", "KHZ,MHZ,GHZ,THZ,MU L,ML,DL,KL,FM,NM,MU M,MM,CM,KM,MM SQUARED,CM SQUARED"⟩,
    ⟨0x33a1, "SQUARE ", "M SQUARED,KM SQUARED,MM CUBED,CM CUBED,M CUBED,KM CUBED,M OVER S"⟩,
    ⟨0x33a8, "SQUARE ", "M OVER S SQUARED,PA,KPA,MPA,GPA,RAD,RAD OVER S,RAD OVER S SQUARED"⟩,
    ⟨0x33b0, "SQUARE ", "PS,NS,MU S,MS,PV,NV,MU V,MV,KV,MV MEGA,PW,NW,MU W,MW,KW,MW MEGA"⟩,
    ⟨0x33c0, "SQUARE ", "K OHM,M OHM,AM,BQ,CC,CD,C OVER KG,CO,DB,GY,HA,HP,IN,KK,KM CAPITAL"⟩,
    ⟨0x33cf, "SQUARE ", "KT,LM,LN,LOG,LX,MB SMALL,MIL,MOL,PH,PM,PPM,PR,SR,SV,WB,V OVER M,A OVER M"⟩,
    ⟨0x33e0, "IDEOGRAPHIC TELEGRAPH SYMBOL FOR DAY ", "ONE,TWO"⟩,
    ⟨0x33e2, "IDEOGRAPHIC TELEGRAPH SYMBOL FOR DAY ", "THREE,FOUR,FIVE,SIX,SEVEN,EIGHT,NINE,TEN"⟩,
    ⟨0x33ea, "IDEOGRAPHIC TELEGRAPH SYMBOL FOR DAY ", "ELEVEN,TWELVE,THIRTEEN,FOURTEEN,FIFTEEN"⟩,
    ⟨0x33ef, "IDEOGRAPHIC TELEGRAPH SYMBOL FOR DAY ", "SIXTEEN,SEVENTEEN,EIGHTEEN,NINETEEN,TWENTY"⟩,
    ⟨0x33f4, "IDEOGRAPHIC TELEGRAPH SYMBOL FOR DAY TWENTY-", "ONE,TWO,THREE,FOUR,FIVE,SIX,SEVEN"⟩,
    ⟨0x33fb, "IDEOGRAPHIC TELEGRAPH SYMBOL FOR DAY ", "TWENTY-EIGHT,TWENTY-NINE,THIRTY,THIRTY-ONE"⟩,
    ⟨0x33ff, "", "SQUARE GAL"⟩,
    ⟨0x4dc0, "HEXAGRAM FOR THE ", "CREATIVE HEAVEN,RECEPTIVE EARTH"⟩,
    ⟨0x4dc2, "HEXAGRAM FOR ", "DIFFICULTY AT THE BEGINNING,YOUTHFUL FOLLY"⟩,
    ⟨0x4dc4, "HEXAGRAM FOR ", "WAITING,CONFLICT,THE ARMY,HOLDING TOGETHER,SMALL TAMING"⟩,
    ⟨0x4dc9, "HEXAGRAM FOR ", "TREADING,PEACE,STANDSTILL,FELLOWSHIP,GREAT POSSESSION,MODESTY"⟩,
    ⟨0x4dcf, "HEXAGRAM FOR ", "ENTHUSIASM,FOLLOWING,WORK ON THE DECAYED,APPROACH,CONTEMPLATION"⟩,
    ⟨0x4dd4, "HEXAGRAM FOR ", "BITING THROUGH,GRACE,SPLITTING APART,RETURN,INNOCENCE"⟩,
    ⟨0x4dd9, "HEXAGRAM FOR ", "GREAT TAMING,MOUTH CORNERS,GREAT PREPONDERANCE,THE ABYSMAL WATER"⟩,
    ⟨0x4ddd, "HEXAGRAM FOR ", "THE CLINGING FIRE,INFLUENCE,DURATION,RETREAT,GREAT POWER"⟩,
    ⟨0x4de2, "HEXAGRAM FOR ", "PROGRESS,DARKENING OF THE LIGHT,THE FAMILY,OPPOSITION,OBSTRUCTION"⟩,
    ⟨0x4de7, "HEXAGRAM FOR ", "DELIVERANCE,DECREASE,INCREASE,BREAKTHROUGH,COMING TO MEET"⟩,
    ⟨0x4dec, "HEXAGRAM FOR ", "GATHERING TOGETHER,PUSHING UPWARD,OPPRESSION,THE WELL,REVOLUTION"⟩,
    ⟨0x4df1, "HEXAGRAM FOR THE ", "CAULDRON,AROUSING THUNDER,KEEPING STILL MOUNTAIN"⟩,
    ⟨0x4df4, "HEXAGRAM FOR ", "DEVELOPMENT,THE MARRYING MAIDEN,ABUNDANCE"⟩,
    ⟨0x4df7, "HEXAGRAM FOR ", "THE WANDERER,THE GENTLE WIND,THE JOYOUS LAKE,DISPERSION,LIMITATION"⟩,
    ⟨0x4dfc, "HEXAGRAM FOR ", "INNER TRUTH,SMALL PREPONDERANCE,AFTER COMPLETION,BEFORE COMPLETION"⟩,
    ⟨0xa000, "YI SYLLABLE ", "IT,IX,I,IP,IET,IEX,IE,IEP,AT,AX,A,AP"⟩,
    ⟨0xa00c, "YI SYLLABLE ", "UOX,UO,UOP,OT,OX,O,OP,EX,E,WU,BIT,BIX,BI,BIP,BIET,BIEX,BIE,BIEP,BAT"⟩,
    ⟨0xa01f, "YI SYLLABLE ", "BAX,BA,BAP,BUOX,BUO,BUOP,BOT,BOX,BO,BOP,BEX,BE,BEP,BUT,BUX,BU,BUP"⟩,
    ⟨0xa030, "YI SYLLABLE ", "BURX,BUR,BYT,BYX,BY,BYP,BYRX,BYR,PIT,PIX,PI,PIP,PIEX,PIE,PIEP,PAT"⟩,
    ⟨0xa040, "YI SYLLABLE ", "PAX,PA,PAP,PUOX,PUO,PUOP,POT,POX,PO,POP,PUT,PUX,PU,PUP,PURX,PUR,PYT"⟩,
    ⟨0xa051, "YI SYLLABLE ", "PYX,PY,PYP,PYRX,PYR,BBIT,BBIX,BBI,BBIP,BBIET,BBIEX,BBIE,BBIEP,BBAT"⟩,
    ⟨0xa05f, "YI SYLLABLE ", "BBAX,BBA,BBAP,BBUOX,BBUO,BBUOP,BBOT,BBOX,BBO,BBOP,BBEX,BBE,BBEP"⟩,
    ⟨0xa06c, "YI SYLLABLE ", "BBUT,BBUX,BBU,BBUP,BBURX,BBUR,BBYT,BBYX,BBY,BBYP,NBIT,NBIX,NBI,NBIP"⟩,
    ⟨0xa07a, "YI SYLLABLE ", "NBIEX,NBIE,NBIEP,NBAT,NBAX,NBA,NBAP,NBOT,NBOX,NBO,NBOP,NBUT,NBUX"⟩,
    ⟨0xa087, "YI SYLLABLE ", "NBU,NBUP,NBURX,NBUR,NBYT,NBYX,NBY,NBYP,NBYRX,NBYR,HMIT,HMIX,HMI"⟩,
    ⟨0xa094, "YI SYLLABLE ", "HMIP,HMIEX,HMIE,HMIEP,HMAT,HMAX,HMA,HMAP,HMUOX,HMUO,HMUOP,HMOT,HMOX"⟩,
    ⟨0xa0a1, "YI SYLLABLE ", "HMO,HMOP,HMUT,HMUX,HMU,HMUP,HMURX,HMUR,HMYX,HMY,HMYP,HMYRX,HMYR"⟩,
    ⟨0xa0ae, "YI SYLLABLE ", "MIT,MIX,MI,MIP,MIEX,MIE,MIEP,MAT,MAX,MA,MAP,MUOT,MUOX,MUO,MUOP,MOT"⟩,
    ⟨0xa0be, "YI SYLLABLE ", "MOX,MO,MOP,MEX,ME,MUT,MUX,MU,MUP,MURX,MUR,MYT,MYX,MY,MYP,FIT,FIX"⟩,
    ⟨0xa0cf, "YI SYLLABLE ", "FI,FIP,FAT,FAX,FA,FAP,FOX,FO,FOP,FUT,FUX,FU,FUP,FURX,FUR,FYT,FYX,FY"⟩,
    ⟨0xa0e1, "YI SYLLABLE ", "FYP,VIT,VIX,VI,VIP,VIET,VIEX,VIE,VIEP,VAT,VAX,VA,VAP,VOT,VOX,VO,VOP"⟩,
    ⟨0xa0f2, "YI SYLLABLE ", "VEX,VEP,VUT,VUX,VU,VUP,VURX,VUR,VYT,VYX,VY,VYP,VYRX,VYR,DIT,DIX,DI"⟩,
    ⟨0xa103, "YI SYLLABLE ", "DIP,DIEX,DIE,DIEP,DAT,DAX,DA,DAP,DUOX,DUO,DOT,DOX,DO,DOP,DEX,DE,DEP"⟩,
    ⟨0xa114, "YI SYLLABLE ", "DUT,DUX,DU,DUP,DURX,DUR,TIT,TIX,TI,TIP,TIEX,TIE,TIEP,TAT,TAX,TA,TAP"⟩,
    ⟨0xa125, "YI SYLLABLE ", "TUOT,TUOX,TUO,TUOP,TOT,TOX,TO,TOP,TEX,TE,TEP,TUT,TUX,TU,TUP,TURX"⟩,
    ⟨0xa135, "YI SYLLABLE ", "TUR,DDIT,DDIX,DDI,DDIP,DDIEX,DDIE,DDIEP,DDAT,DDAX,DDA,DDAP,DDUOX"⟩,
    ⟨0xa142, "YI SYLLABLE ", "DDUO,DDUOP,DDOT,DDOX,DDO,DDOP,DDEX,DDE,DDEP,DDUT,DDUX,DDU,DDUP"⟩,
    ⟨0xa14f, "YI SYLLABLE ", "DDURX,DDUR,NDIT,NDIX,NDI,NDIP,NDIEX,NDIE,NDAT,NDAX,NDA,NDAP,NDOT"⟩,
    ⟨0xa15c, "YI SYLLABLE ", "NDOX,NDO,NDOP,NDEX,NDE,NDEP,NDUT,NDUX,NDU,NDUP,NDURX,NDUR,HNIT,HNIX"⟩,
    ⟨0xa16a, "YI SYLLABLE ", "HNI,HNIP,HNIET,HNIEX,HNIE,HNIEP,HNAT,HNAX,HNA,HNAP,HNUOX,HNUO,HNOT"⟩,
    ⟨0xa177, "YI SYLLABLE ", "HNOX,HNOP,HNEX,HNE,HNEP,HNUT,NIT,NIX,NI,NIP,NIEX,NIE,NIEP,NAX,NA"⟩,
    ⟨0xa186, "YI SYLLABLE ", "NAP,NUOX,NUO,NUOP,NOT,NOX,NO,NOP,NEX,NE,NEP,NUT,NUX,NU,NUP,NURX,NUR"⟩,
    ⟨0xa197, "YI SYLLABLE ", "HLIT,HLIX,HLI,HLIP,HLIEX,HLIE,HLIEP,HLAT,HLAX,HLA,HLAP,HLUOX,HLUO"⟩,
    ⟨0xa1a4, "YI SYLLABLE ", "HLUOP,HLOX,HLO,HLOP,HLEX,HLE,HLEP,HLUT,HLUX,HLU,HLUP,HLURX,HLUR"⟩,
    ⟨0xa1b1, "YI SYLLABLE ", "HLYT,HLYX,HLY,HLYP,HLYRX,HLYR,LIT,LIX,LI,LIP,LIET,LIEX,LIE,LIEP,LAT"⟩,
    ⟨0xa1c0, "YI SYLLABLE ", "LAX,LA,LAP,LUOT,LUOX,LUO,LUOP,LOT,LOX,LO,LOP,LEX,LE,LEP,LUT,LUX,LU"⟩,
    ⟨0xa1d1, "YI SYLLABLE ", "LUP,LURX,LUR,LYT,LYX,LY,LYP,LYRX,LYR,GIT,GIX,GI,GIP,GIET,GIEX,GIE"⟩,
    ⟨0xa1e1, "YI SYLLABLE ", "GIEP,GAT,GAX,GA,GAP,GUOT,GUOX,GUO,GUOP,GOT,GOX,GO,GOP,GET,GEX,GE"⟩,
    ⟨0xa1f1, "YI SYLLABLE ", "GEP,GUT,GUX,GU,GUP,GURX,GUR,KIT,KIX,KI,KIP,KIEX,KIE,KIEP,KAT,KAX,KA"⟩,
    ⟨0xa202, "YI SYLLABLE ", "KAP,KUOX,KUO,KUOP,KOT,KOX,KO,KOP,KET,KEX,KE,KEP,KUT,KUX,KU,KUP,KURX"⟩,
    ⟨0xa213, "YI SYLLABLE ", "KUR,GGIT,GGIX,GGI,GGIEX,GGIE,GGIEP,GGAT,GGAX,GGA,GGAP,GGUOT,GGUOX"⟩,
    ⟨0xa220, "YI SYLLABLE ", "GGUO,GGUOP,GGOT,GGOX,GGO,GGOP,GGET,GGEX,GGE,GGEP,GGUT,GGUX,GGU"⟩,
    ⟨0xa22d, "YI SYLLABLE ", "GGUP,GGURX,GGUR,MGIEX,MGIE,MGAT,MGAX,MGA,MGAP,MGUOX,MGUO,MGUOP,MGOT"⟩,
    ⟨0xa23a, "YI SYLLABLE ", "MGOX,MGO,MGOP,MGEX,MGE,MGEP,MGUT,MGUX,MGU,MGUP,MGURX,MGUR,HXIT,HXIX"⟩,
    ⟨0xa248, "YI SYLLABLE ", "HXI,HXIP,HXIET,HXIEX,HXIE,HXIEP,HXAT,HXAX,HXA,HXAP,HXUOT,HXUOX,HXUO"⟩,
    ⟨0xa255, "YI SYLLABLE ", "HXUOP,HXOT,HXOX,HXO,HXOP,HXEX,HXE,HXEP,NGIEX,NGIE,NGIEP,NGAT,NGAX"⟩,
    ⟨0xa262, "YI SYLLABLE ", "NGA,NGAP,NGUOT,NGUOX,NGUO,NGOT,NGOX,NGO,NGOP,NGEX,NGE,NGEP,HIT,HIEX"⟩,
    ⟨0xa270, "YI SYLLABLE ", "HIE,HAT,HAX,HA,HAP,HUOT,HUOX,HUO,HUOP,HOT,HOX,HO,HOP,HEX,HE,HEP"⟩,
    ⟨0xa280, "YI SYLLABLE ", "WAT,WAX,WA,WAP,WUOX,WUO,WUOP,WOX,WO,WOP,WEX,WE,WEP,ZIT,ZIX,ZI,ZIP"⟩,
    ⟨0xa291, "YI SYLLABLE ", "ZIEX,ZIE,ZIEP,ZAT,ZAX,ZA,ZAP,ZUOX,ZUO,ZUOP,ZOT,ZOX,ZO,ZOP,ZEX,ZE"⟩,
    ⟨0xa2a1, "YI SYLLABLE ", "ZEP,ZUT,ZUX,ZU,ZUP,ZURX,ZUR,ZYT,ZYX,ZY,ZYP,ZYRX,ZYR,CIT,CIX,CI,CIP"⟩,
    ⟨0xa2b2, "YI SYLLABLE ", "CIET,CIEX,CIE,CIEP,CAT,CAX,CA,CAP,CUOX,CUO,CUOP,COT,COX,CO,COP,CEX"⟩,
    ⟨0xa2c2, "YI SYLLABLE ", "CE,CEP,CUT,CUX,CU,CUP,CURX,CUR,CYT,CYX,CY,CYP,CYRX,CYR,ZZIT,ZZIX"⟩,
    ⟨0xa2d2, "YI SYLLABLE ", "ZZI,ZZIP,ZZIET,ZZIEX,ZZIE,ZZIEP,ZZAT,ZZAX,ZZA,ZZAP,ZZOX,ZZO,ZZOP"⟩,
    ⟨0xa2df, "YI SYLLABLE ", "ZZEX,ZZE,ZZEP,ZZUX,ZZU,ZZUP,ZZURX,ZZUR,ZZYT,ZZYX,ZZY,ZZYP,ZZYRX"⟩,
    ⟨0xa2ec, "YI SYLLABLE ", "ZZYR,NZIT,NZIX,NZI,NZIP,NZIEX,NZIE,NZIEP,NZAT,NZAX,NZA,NZAP,NZUOX"⟩,
    ⟨0xa2f9, "YI SYLLABLE ", "NZUO,NZOX,NZOP,NZEX,NZE,NZUX,NZU,NZUP,NZURX,NZUR,NZYT,NZYX,NZY,NZYP"⟩,
    ⟨0xa307, "YI SYLLABLE ", "NZYRX,NZYR,SIT,SIX,SI,SIP,SIEX,SIE,SIEP,SAT,SAX,SA,SAP,SUOX,SUO"⟩,
    ⟨0xa316, "YI SYLLABLE ", "SUOP,SOT,SOX,SO,SOP,SEX,SE,SEP,SUT,SUX,SU,SUP,SURX,SUR,SYT,SYX,SY"⟩,
    ⟨0xa327, "YI SYLLABLE ", "SYP,SYRX,SYR,SSIT,SSIX,SSI,SSIP,SSIEX,SSIE,SSIEP,SSAT,SSAX,SSA,SSAP"⟩,
    ⟨0xa335, "YI SYLLABLE ", "SSOT,SSOX,SSO,SSOP,SSEX,SSE,SSEP,SSUT,SSUX,SSU,SSUP,SSYT,SSYX,SSY"⟩,
    ⟨0xa343, "YI SYLLABLE ", "SSYP,SSYRX,SSYR,ZHAT,ZHAX,ZHA,ZHAP,ZHUOX,ZHUO,ZHUOP,ZHOT,ZHOX,ZHO"⟩,
    ⟨0xa350, "YI SYLLABLE ", "ZHOP,ZHET,ZHEX,ZHE,ZHEP,ZHUT,ZHUX,ZHU,ZHUP,ZHURX,ZHUR,ZHYT,ZHYX,ZHY"⟩,
    ⟨0xa35e, "YI SYLLABLE ", "ZHYP,ZHYRX,ZHYR,CHAT,CHAX,CHA,CHAP,CHUOT,CHUOX,CHUO,CHUOP,CHOT,CHOX"⟩,
    ⟨0xa36b, "YI SYLLABLE ", "CHO,CHOP,CHET,CHEX,CHE,CHEP,CHUX,CHU,CHUP,CHURX,CHUR,CHYT,CHYX,CHY"⟩,
    ⟨0xa379, "YI SYLLABLE ", "CHYP,CHYRX,CHYR,RRAX,RRA,RRUOX,RRUO,RROT,RROX,RRO,RROP,RRET,RREX"⟩,
    ⟨0xa386, "YI SYLLABLE ", "RRE,RREP,RRUT,RRUX,RRU,RRUP,RRURX,RRUR,RRYT,RRYX,RRY,RRYP,RRYRX"⟩,
    ⟨0xa393, "YI SYLLABLE ", "RRYR,NRAT,NRAX,NRA,NRAP,NROX,NRO,NROP,NRET,NREX,NRE,NREP,NRUT,NRUX"⟩,
    ⟨0xa3a1, "YI SYLLABLE ", "NRU,NRUP,NRURX,NRUR,NRYT,NRYX,NRY,NRYP,NRYRX,NRYR,SHAT,SHAX,SHA"⟩,
    ⟨0xa3ae, "YI SYLLABLE ", "SHAP,SHUOX,SHUO,SHUOP,SHOT,SHOX,SHO,SHOP,SHET,SHEX,SHE,SHEP,SHUT"⟩,
    ⟨0xa3bb, "YI SYLLABLE ", "SHUX,SHU,SHUP,SHURX,SHUR,SHYT,SHYX,SHY,SHYP,SHYRX,SHYR,RAT,RAX,RA"⟩,
    ⟨0xa3c9, "YI SYLLABLE ", "RAP,RUOX,RUO,RUOP,ROT,ROX,RO,ROP,REX,RE,REP,RUT,RUX,RU,RUP,RURX,RUR"⟩,
    ⟨0xa3da, "YI SYLLABLE ", "RYT,RYX,RY,RYP,RYRX,RYR,JIT,JIX,JI,JIP,JIET,JIEX,JIE,JIEP,JUOT,JUOX"⟩,
    ⟨0xa3ea, "YI SYLLABLE ", "JUO,JUOP,JOT,JOX,JO,JOP,JUT,JUX,JU,JUP,JURX,JUR,JYT,JYX,JY,JYP,JYRX"⟩,
    ⟨0xa3fb, "YI SYLLABLE ", "JYR,QIT,QIX,QI,QIP,QIET,QIEX,QIE,QIEP,QUOT,QUOX,QUO,QUOP,QOT,QOX"⟩,
    ⟨0xa40a, "YI SYLLABLE ", "QO,QOP,QUT,QUX,QU,QUP,QURX,QUR,QYT,QYX,QY,QYP,QYRX,QYR,JJIT,JJIX"⟩,
    ⟨0xa41a, "YI SYLLABLE ", "JJI,JJIP,JJIET,JJIEX,JJIE,JJIEP,JJUOX,JJUO,JJUOP,JJOT,JJOX,JJO,JJOP"⟩,
    ⟨0xa427, "YI SYLLABLE ", "JJUT,JJUX,JJU,JJUP,JJURX,JJUR,JJYT,JJYX,JJY,JJYP,NJIT,NJIX,NJI,NJIP"⟩,
    ⟨0xa435, "YI SYLLABLE ", "NJIET,NJIEX,NJIE,NJIEP,NJUOX,NJUO,NJOT,NJOX,NJO,NJOP,NJUX,NJU,NJUP"⟩,
    ⟨0xa442, "YI SYLLABLE ", "NJURX,NJUR,NJYT,NJYX,NJY,NJYP,NJYRX,NJYR,NYIT,NYIX,NYI,NYIP,NYIET"⟩,
    ⟨0xa44f, "YI SYLLABLE ", "NYIEX,NYIE,NYIEP,NYUOX,NYUO,NYUOP,NYOT,NYOX,NYO,NYOP,NYUT,NYUX,NYU"⟩,
    ⟨0xa45c, "YI SYLLABLE ", "NYUP,XIT,XIX,XI,XIP,XIET,XIEX,XIE,XIEP,XUOX,XUO,XOT,XOX,XO,XOP,XYT"⟩,
    ⟨0xa46c, "YI SYLLABLE ", "XYX,XY,XYP,XYRX,XYR,YIT,YIX,YI,YIP,YIET,YIEX,YIE,YIEP,YUOT,YUOX,YUO"⟩,
    ⟨0xa47c, "YI SYLLABLE ", "YUOP,YOT,YOX,YO,YOP,YUT,YUX,YU,YUP,YURX,YUR,YYT,YYX,YY,YYP,YYRX,YYR"⟩,
    ⟨0xa490, "YI RADICAL ", "QOT,LI,KIT,NYIP,CYP,SSI"⟩,
    ⟨0xa496, "YI RADICAL ", "GGOP,GEP,MI,HXIT,LYR,BBUT,MOP,YO,PUT,HXUO,TAT,GA,ZUP,CYT,DDUR,BUR"⟩,
    ⟨0xa4a6, "YI RADICAL ", "GGUO,NYOP,TU,OP,JJUT,ZOT,PYT,HMO,YIT,VUR,SHY,VEP,ZA,JO,NZUP,JJY,GOT"⟩,
    ⟨0xa4b7, "YI RADICAL ", "JJIE,WO,DU,SHUR,LIE,CY,CUOP,CIP,HXOP,SHAT,ZUR,SHOP,CHE,ZZIET,NBIE,KE"⟩,
    ⟨0xa4d0, "LISU LETTER ", "BA,PA,PHA,DA,TA,THA,GA,KA,KHA,JA,CA,CHA,DZA,TSA,TSHA,MA,NA,LA"⟩,
    ⟨0xa4e2, "LISU LETTER ", "SA,ZHA,ZA,NGA,HA,XA,HHA,FA,WA,SHA,YA,GHA,A,AE,E,EU,I,O,U,UE,UH,OE"⟩,
    ⟨0xa4f8, "LISU LETTER TONE ", "MYA TI,NA PO,MYA CYA,MYA BO,MYA NA,MYA JEU"⟩,
    ⟨0xa4fe, "LISU PUNCTUATION ", "COMMA,FULL STOP"⟩,
    ⟨0xa500, "VAI SYLLABLE ", "EE,EEN,HEE,WEE,WEEN,PEE,BHEE,BEE,MBEE,KPEE,MGBEE,GBEE"⟩,
    ⟨0xa50c, "VAI SYLLABLE ", "FEE,VEE,TEE,THEE,DHEE,DHHEE,LEE,REE,DEE,NDEE,SEE,SHEE,ZEE,ZHEE"⟩,
    ⟨0xa51a, "VAI SYLLABLE ", "CEE,JEE,NJEE,YEE,KEE,NGGEE,GEE,MEE,NEE,NYEE,I,IN,HI,HIN,WI,WIN,PI"⟩,
    ⟨0xa52b, "VAI SYLLABLE ", "BHI,BI,MBI,KPI,MGBI,GBI,FI,VI,TI,THI,DHI,DHHI,LI,RI,DI,NDI,SI,SHI"⟩,
    ⟨0xa53d, "VAI SYLLABLE ", "ZI,ZHI,CI,JI,NJI,YI,KI,NGGI,GI,MI,NI,NYI,A,AN,NGAN,HA,HAN,WA,WAN"⟩,
    ⟨0xa550, "VAI SYLLABLE ", "PA,BHA,BA,MBA,KPA,KPAN,MGBA,GBA,FA,VA,TA,THA,DHA,DHHA,LA,RA,DA,NDA"⟩,
    ⟨0xa562, "VAI SYLLABLE ", "SA,SHA,ZA,ZHA,CA,JA,NJA,YA,KA,KAN,NGGA,GA,MA,NA,NYA,OO,OON,HOO,WOO"⟩,
    ⟨0xa575, "VAI SYLLABLE ", "WOON,POO,BHOO,BOO,MBOO,KPOO,MGBOO,GBOO,FOO,VOO,TOO,THOO,DHOO,DHHOO"⟩,
    ⟨0xa583, "VAI SYLLABLE ", "LOO,ROO,DOO,NDOO,SOO,SHOO,ZOO,ZHOO,COO,JOO,NJOO,YOO,KOO,NGGOO"⟩,
    ⟨0xa591, "VAI SYLLABLE ", "GOO,MOO,NOO,NYOO,U,UN,HU,HUN,WU,WUN,PU,BHU,BU,MBU,KPU,MGBU,GBU"⟩,
    ⟨0xa5a2, "VAI SYLLABLE ", "FU,VU,TU,THU,DHU,DHHU,LU,RU,DU,NDU,SU,SHU,ZU,ZHU,CU,JU,NJU,YU,KU"⟩,
    ⟨0xa5b5, "VAI SYLLABLE ", "NGGU,GU,MU,NU,NYU,O,ON,NGON,HO,HON,WO,WON,PO,BHO,BO,MBO,KPO,MGBO"⟩,
    ⟨0xa5c7, "VAI SYLLABLE ", "GBO,GBON,FO,VO,TO,THO,DHO,DHHO,LO,RO,DO,NDO,SO,SHO,ZO,ZHO,CO,JO"⟩,
    ⟨0xa5d9, "VAI SYLLABLE ", "NJO,YO,KO,NGGO,GO,MO,NO,NYO,E,EN,NGEN,HE,HEN,WE,WEN,PE,BHE,BE,MBE"⟩,
    ⟨0xa5ec, "VAI SYLLABLE ", "KPE,KPEN,MGBE,GBE,GBEN,FE,VE,TE,THE,DHE,DHHE,LE,RE,DE,NDE,SE,SHE"⟩,
    ⟨0xa5fd, "VAI SYLLABLE ", "ZE,ZHE,CE,JE,NJE,YE,KE,NGGE,NGGEN,GE,GEN,ME,NE,NYE,NG,LENGTHENER"⟩,
    ⟨0xa60d, "VAI ", "COMMA,FULL STOP,QUESTION MARK"⟩,
    ⟨0xa610, "VAI SYLLABLE NDOLE ", "FA,KA,SOO"⟩,
    ⟨0xa613, "VAI SYMBOL ", "FEENG,KEENG,TING,NII,BANG,FAA,TAA,DANG,DOONG,KUNG,TONG,DO-O,JONG"⟩,
    ⟨0xa620, "VAI DIGIT ", "ZERO,ONE,TWO,THREE,FOUR,FIVE,SIX,SEVEN,EIGHT,NINE"⟩,
    ⟨0xa62a, "VAI SYLLABLE NDOLE ", "MA,DO"⟩,
    ⟨0xa640, "CYRILLIC ", "CAPITAL LETTER ZEMLYA,SMALL LETTER ZEMLYA"⟩,
    ⟨0xa642, "CYRILLIC ", "CAPITAL LETTER DZELO,SMALL LETTER DZELO,CAPITAL LETTER REVERSED DZE"⟩,
    ⟨0xa645, "CYRILLIC ", "SMALL LETTER REVERSED DZE,CAPITAL LETTER IOTA,SMALL LETTER IOTA"⟩,
    ⟨0xa648, "CYRILLIC ", "CAPITAL LETTER DJERV,SMALL LETTER DJERV,CAPITAL LETTER MONOGRAPH UK"⟩,
    ⟨0xa64b, "CYRILLIC ", "SMALL LETTER MONOGRAPH UK,CAPITAL LETTER BROAD OMEGA"⟩,
    ⟨0xa64d, "CYRILLIC ", "SMALL LETTER BROAD OMEGA,CAPITAL LETTER NEUTRAL YER"⟩,
    ⟨0xa64f, "CYRILLIC ", "SMALL LETTER NEUTRAL YER,CAPITAL LETTER YERU WITH BACK YER"⟩,
    ⟨0xa651, "CYRILLIC ", "SMALL LETTER YERU WITH BACK YER,CAPITAL LETTER IOTIFIED YAT"⟩,
    ⟨0xa653, "CYRILLIC ", "SMALL LETTER IOTIFIED YAT,CAPITAL LETTER REVERSED YU"⟩,
    ⟨0xa655, "CYRILLIC ", "SMALL LETTER REVERSED YU,CAPITAL LETTER IOTIFIED A"⟩,
    ⟨0xa657, "CYRILLIC ", "SMALL LETTER IOTIFIED A,CAPITAL LETTER CLOSED LITTLE YUS"⟩,
    ⟨0xa659, "CYRILLIC ", "SMALL LETTER CLOSED LITTLE YUS,CAPITAL LETTER BLENDED YUS"⟩,
    ⟨0xa65b, "CYRILLIC ", "SMALL LETTER BLENDED YUS,CAPITAL LETTER IOTIFIED CLOSED LITTLE YUS"⟩,
    ⟨0xa65d, "", "CYRILLIC SMALL LETTER IOTIFIED CLOSED LITTLE YUS"⟩,
    ⟨0xa65e, "CYRILLIC ", "CAPITAL LETTER YN,SMALL LETTER YN,CAPITAL LETTER REVERSED TSE"⟩,
    ⟨0xa661, "CYRILLIC ", "SMALL LETTER REVERSED TSE,CAPITAL LETTER SOFT DE"⟩,
    ⟨0xa663, "CYRILLIC ", "SMALL LETTER SOFT DE,CAPITAL LETTER SOFT EL,SMALL LETTER SOFT EL"⟩,
    ⟨0xa666, "CYRILLIC ", "CAPITAL LETTER SOFT EM,SMALL LETTER SOFT EM,CAPITAL LETTER MONOCULAR O"⟩,
    ⟨0xa669, "CYRILLIC ", "SMALL LETTER MONOCULAR O,CAPITAL LETTER BINOCULAR O"⟩,
    ⟨0xa66b, "CYRILLIC ", "SMALL LETTER BINOCULAR O,CAPITAL LETTER DOUBLE MONOCULAR O"⟩,
    ⟨0xa66d, "CYRILLIC ", "SMALL LETTER DOUBLE MONOCULAR O,LETTER MULTIOCULAR O"⟩,
    ⟨0xa66f, "COMBINING CYRILLIC ", "VZMET,TEN MILLIONS SIGN,HUNDRED MILLIONS SIGN"⟩,
    ⟨0xa672, "", "COMBINING CYRILLIC THOUSAND MILLIONS SIGN,SLAVONIC ASTERISK"⟩,
    ⟨0xa674, "COMBINING CYRILLIC LETTER ", "UKRAINIAN IE,I,YI,U,HARD SIGN,YERU,SOFT SIGN,OMEGA"⟩,
    ⟨0xa67c, "COMBINING CYRILLIC ", "KAVYKA,PAYEROK"⟩,
    ⟨0xa67e, "CYRILLIC ", "KAVYKA,PAYEROK,CAPITAL LETTER DWE,SMALL LETTER DWE,CAPITAL LETTER DZWE"⟩,
    ⟨0xa683, "CYRILLIC ", "SMALL LETTER DZWE,CAPITAL LETTER ZHWE,SMALL LETTER ZHWE"⟩,
    ⟨0xa686, "CYRILLIC ", "CAPITAL LETTER CCHE,SMALL LETTER CCHE,CAPITAL LETTER DZZE"⟩,
    ⟨0xa689, "CYRILLIC ", "SMALL LETTER DZZE,CAPITAL LETTER TE WITH MIDDLE HOOK"⟩,
    ⟨0xa68b, "CYRILLIC ", "SMALL LETTER TE WITH MIDDLE HOOK,CAPITAL LETTER TWE"⟩,
    ⟨0xa68d, "CYRILLIC ", "SMALL LETTER TWE,CAPITAL LETTER TSWE,SMALL LETTER TSWE"⟩,
    ⟨0xa690, "CYRILLIC ", "CAPITAL LETTER TSSE,SMALL LETTER TSSE,CAPITAL LETTER TCHE"⟩,
    ⟨0xa693, "CYRILLIC ", "SMALL LETTER TCHE,CAPITAL LETTER HWE,SMALL LETTER HWE"⟩,
    ⟨0xa696, "CYRILLIC ", "CAPITAL LETTER SHWE,SMALL LETTER SHWE,CAPITAL LETTER DOUBLE O"⟩,
    ⟨0xa699, "CYRILLIC ", "SMALL LETTER DOUBLE O,CAPITAL LETTER CROSSED O,SMALL LETTER CROSSED O"⟩,
    ⟨0xa69c, "MODIFIER LETTER CYRILLIC ", "HARD SIGN,SOFT SIGN"⟩,
    ⟨0xa69e, "COMBINING CYRILLIC LETTER ", "EF,IOTIFIED E"⟩,
    ⟨0xa6a0, "BAMUM LETTER ", "A,KA,U,KU,EE,REE,TAE,O,NYI,I,LA,PA,RII,RIEE,LEEEE,MEEEE,TAA"⟩,
    ⟨0xa6b1, "BAMUM LETTER ", "NDAA,NJAEM,M,SUU,MU,SHII,SI,SHEUX,SEUX,KYEE,KET,NUAE,NU,NJUAE,YOQ"⟩,
    ⟨0xa6c0, "BAMUM LETTER ", "SHU,YUQ,YA,NSHA,KEUX,PEUX,NJEE,NTEE,PUE,WUE,PEE,FEE,RU,LU,MI,NI"⟩,
    ⟨0xa6d0, "BAMUM LETTER ", "REUX,RAE,KEN,NGKWAEN,NGGA,NGA,SHO,PUAE,FU,FOM,WA,NA,LI,PI,LOQ,KO"⟩,
    ⟨0xa6e0, "BAMUM LETTER ", "MBEN,REN,MEN,MA,TI,KI,MO,MBAA,TET,KPA,TEN,NTUU,SAMBA,FAAMAE,KOVUU"⟩,
    ⟨0xa6ef, "BAMUM ", "LETTER KOGHOM,COMBINING MARK KOQNDON,COMBINING MARK TUKWENTIS"⟩,
    ⟨0xa6f2, "BAMUM ", "NJAEMLI,FULL STOP,COLON,COMMA,SEMICOLON,QUESTION MARK"⟩,
    ⟨0xa700, "MODIFIER LETTER CHINESE TONE ", "YIN PING,YANG PING"⟩,
    ⟨0xa702, "MODIFIER LETTER CHINESE TONE ", "YIN SHANG,YANG SHANG,YIN QU,YANG QU,YIN RU,YANG RU"⟩,
    ⟨0xa708, "", "MODIFIER LETTER EXTRA-HIGH DOTTED TONE BAR"⟩,
    ⟨0xa709, "MODIFIER LETTER ", "HIGH DOTTED TONE BAR,MID DOTTED TONE BAR,LOW DOTTED TONE BAR"⟩,
    ⟨0xa70c, "MODIFIER LETTER EXTRA-", "LOW DOTTED TONE BAR,HIGH DOTTED LEFT-STEM TONE BAR"⟩,
    ⟨0xa70e, "", "MODIFIER LETTER HIGH DOTTED LEFT-STEM TONE BAR"⟩,
    ⟨0xa70f, "MODIFIER LETTER ", "MID DOTTED LEFT-STEM TONE BAR,LOW DOTTED LEFT-STEM TONE BAR"⟩,
    ⟨0xa711, "MODIFIER LETTER EXTRA-", "LOW DOTTED LEFT-STEM TONE BAR,HIGH LEFT-STEM TONE BAR"⟩,
    ⟨0xa713, "MODIFIER LETTER ", "HIGH LEFT-STEM TONE BAR,MID LEFT-STEM TONE BAR"⟩,
    ⟨0xa715, "MODIFIER LETTER ", "LOW LEFT-STEM TONE BAR,EXTRA-LOW LEFT-STEM TONE BAR"⟩,
    ⟨0xa717, "MODIFIER LETTER DOT ", "VERTICAL BAR,SLASH,HORIZONTAL BAR"⟩,
    ⟨0xa71a, "MODIFIER LETTER ", "LOWER RIGHT CORNER ANGLE,RAISED UP ARROW"⟩,
    ⟨0xa71c, "MODIFIER LETTER RAISED ", "DOWN ARROW,EXCLAMATION MARK,INVERTED EXCLAMATION MARK"⟩,
    ⟨0xa71f, "MODIFIER LETTER ", "LOW INVERTED EXCLAMATION MARK,STRESS AND HIGH TONE"⟩,
    ⟨0xa721, "", "MODIFIER LETTER STRESS AND LOW TONE,LATIN CAPITAL LETTER EGYPTOLOGICAL ALEF"⟩,
    ⟨0xa723, "LATIN ", "SMALL LETTER EGYPTOLOGICAL ALEF,CAPITAL LETTER EGYPTOLOGICAL AIN"⟩,
    ⟨0xa725, "LATIN ", "SMALL LETTER EGYPTOLOGICAL AIN,CAPITAL LETTER HENG,SMALL LETTER HENG"⟩,
    ⟨0xa728, "LATIN ", "CAPITAL LETTER TZ,SMALL LETTER TZ,CAPITAL LETTER TRESILLO"⟩,
    ⟨0xa72b, "LATIN ", "SMALL LETTER TRESILLO,CAPITAL LETTER CUATRILLO,SMALL LETTER CUATRILLO"⟩,
    ⟨0xa72e, "LATIN ", "CAPITAL LETTER CUATRILLO WITH COMMA,SMALL LETTER CUATRILLO WITH COMMA"⟩,
    ⟨0xa730, "LATIN LETTER SMALL CAPITAL ", "F,S"⟩,
    ⟨0xa732, "LATIN ", "CAPITAL LETTER AA,SMALL LETTER AA"⟩,
    ⟨0xa734, "LATIN ", "CAPITAL LETTER AO,SMALL LETTER AO,CAPITAL LETTER AU,SMALL LETTER AU"⟩,
    ⟨0xa738, "LATIN ", "CAPITAL LETTER AV,SMALL LETTER AV,CAPITAL LETTER AV WITH HORIZONTAL BAR"⟩,
    ⟨0xa73b, "LATIN ", "SMALL LETTER AV WITH HORIZONTAL BAR,CAPITAL LETTER AY,SMALL LETTER AY"⟩,
    ⟨0xa73e, "LATIN ", "CAPITAL LETTER REVERSED C WITH DOT,SMALL LETTER REVERSED C WITH DOT"⟩,
    ⟨0xa740, "LATIN ", "CAPITAL LETTER K WITH STROKE,SMALL LETTER K WITH STROKE"⟩,
    ⟨0xa742, "LATIN ", "CAPITAL LETTER K WITH DIAGONAL STROKE,SMALL LETTER K WITH DIAGONAL STROKE"⟩,
    ⟨0xa744, "", "LATIN CAPITAL LETTER K WITH STROKE AND DIAGONAL STROKE"⟩,
    ⟨0xa745, "LATIN ", "SMALL LETTER K WITH STROKE AND DIAGONAL STROKE,CAPITAL LETTER BROKEN L"⟩,
    ⟨0xa747, "LATIN ", "SMALL LETTER BROKEN L,CAPITAL LETTER L WITH HIGH STROKE"⟩,
    ⟨0xa749, "LATIN ", "SMALL LETTER L WITH HIGH STROKE,CAPITAL LETTER O WITH LONG STROKE OVERLAY"⟩,
    ⟨0xa74b, "", "LATIN SMALL LETTER O WITH LONG STROKE OVERLAY"⟩,
    ⟨0xa74c, "LATIN ", "CAPITAL LETTER O WITH LOOP,SMALL LETTER O WITH LOOP,CAPITAL LETTER OO"⟩,
    ⟨0xa74f, "LATIN ", "SMALL LETTER OO,CAPITAL LETTER P WITH STROKE THROUGH DESCENDER"⟩,
    ⟨0xa751, "", "LATIN SMALL LETTER P WITH STROKE THROUGH DESCENDER"⟩,
    ⟨0xa752, "LATIN ", "CAPITAL LETTER P WITH FLOURISH,SMALL LETTER P WITH FLOURISH"⟩,
    ⟨0xa754, "LATIN ", "CAPITAL LETTER P WITH SQUIRREL TAIL,SMALL LETTER P WITH SQUIRREL TAIL"⟩,
    ⟨0xa756, "", "LATIN CAPITAL LETTER Q WITH STROKE THROUGH DESCENDER"⟩,
    ⟨0xa757, "", "LATIN SMALL LETTER Q WITH STROKE THROUGH DESCENDER"⟩,
    ⟨0xa758, "", "LATIN CAPITAL LETTER Q WITH DIAGONAL STROKE"⟩,
    ⟨0xa759, "LATIN ", "SMALL LETTER Q WITH DIAGONAL STROKE,CAPITAL LETTER R ROTUNDA"⟩,
    ⟨0xa75b, "LATIN ", "SMALL LETTER R ROTUNDA,CAPITAL LETTER RUM ROTUNDA"⟩,
    ⟨0xa75d, "LATIN ", "SMALL LETTER RUM ROTUNDA,CAPITAL LETTER V WITH DIAGONAL STROKE"⟩,
    ⟨0xa75f, "LATIN ", "SMALL LETTER V WITH DIAGONAL STROKE,CAPITAL LETTER VY"⟩,
    ⟨0xa761, "LATIN ", "SMALL LETTER VY,CAPITAL LETTER VISIGOTHIC Z,SMALL LETTER VISIGOTHIC Z"⟩,
    ⟨0xa764, "LATIN ", "CAPITAL LETTER THORN WITH STROKE,SMALL LETTER THORN WITH STROKE"⟩,
    ⟨0xa766, "", "LATIN CAPITAL LETTER THORN WITH STROKE THROUGH DESCENDER"⟩,
    ⟨0xa767, "", "LATIN SMALL LETTER THORN WITH STROKE THROUGH DESCENDER"⟩,
    ⟨0xa768, "LATIN ", "CAPITAL LETTER VEND,SMALL LETTER VEND,CAPITAL LETTER ET,SMALL LETTER ET"⟩,
    ⟨0xa76c, "LATIN ", "CAPITAL LETTER IS,SMALL LETTER IS,CAPITAL LETTER CON,SMALL LETTER CON"⟩,
    ⟨0xa770, "", "MODIFIER LETTER US"⟩,
    ⟨0xa771, "LATIN SMALL LETTER ", "DUM,LUM,MUM,NUM,RUM"⟩,
    ⟨0xa776, "LATIN ", "LETTER SMALL CAPITAL RUM,SMALL LETTER TUM"⟩,
    ⟨0xa778, "LATIN ", "SMALL LETTER UM,CAPITAL LETTER INSULAR D,SMALL LETTER INSULAR D"⟩,
    ⟨0xa77b, "LATIN ", "CAPITAL LETTER INSULAR F,SMALL LETTER INSULAR F,CAPITAL LETTER INSULAR G"⟩,
    ⟨0xa77e, "LATIN ", "CAPITAL LETTER TURNED INSULAR G,SMALL LETTER TURNED INSULAR G"⟩,
    ⟨0xa780, "LATIN ", "CAPITAL LETTER TURNED L,SMALL LETTER TURNED L"⟩,
    ⟨0xa782, "LATIN ", "CAPITAL LETTER INSULAR R,SMALL LETTER INSULAR R,CAPITAL LETTER INSULAR S"⟩,
    ⟨0xa785, "LATIN ", "SMALL LETTER INSULAR S,CAPITAL LETTER INSULAR T,SMALL LETTER INSULAR T"⟩,
    ⟨0xa788, "MODIFIER LETTER ", "LOW CIRCUMFLEX ACCENT,COLON,SHORT EQUALS SIGN"⟩,
    ⟨0xa78b, "LATIN ", "CAPITAL LETTER SALTILLO,SMALL LETTER SALTILLO"⟩,
    ⟨0xa78d, "LATIN ", "CAPITAL LETTER TURNED H,SMALL LETTER L WITH RETROFLEX HOOK AND BELT"⟩,
    ⟨0xa78f, "LATIN ", "LETTER SINOLOGICAL DOT,CAPITAL LETTER N WITH DESCENDER"⟩,
    ⟨0xa791, "LATIN ", "SMALL LETTER N WITH DESCENDER,CAPITAL LETTER C WITH BAR"⟩,
    ⟨0xa793, "LATIN SMALL LETTER ", "C WITH BAR,C WITH PALATAL HOOK,H WITH PALATAL HOOK"⟩,
    ⟨0xa796, "", "LATIN CAPITAL LETTER B WITH FLOURISH"⟩,
    ⟨0xa797, "LATIN ", "SMALL LETTER B WITH FLOURISH,CAPITAL LETTER F WITH STROKE"⟩,
    ⟨0xa799, "LATIN ", "SMALL LETTER F WITH STROKE,CAPITAL LETTER VOLAPUK AE"⟩,
    ⟨0xa79b, "LATIN ", "SMALL LETTER VOLAPUK AE,CAPITAL LETTER VOLAPUK OE"⟩,
    ⟨0xa79d, "LATIN ", "SMALL LETTER VOLAPUK OE,CAPITAL LETTER VOLAPUK UE,SMALL LETTER VOLAPUK UE"⟩,
    ⟨0xa7a0, "LATIN ", "CAPITAL LETTER G WITH OBLIQUE STROKE,SMALL LETTER G WITH OBLIQUE STROKE"⟩,
    ⟨0xa7a2, "LATIN ", "CAPITAL LETTER K WITH OBLIQUE STROKE,SMALL LETTER K WITH OBLIQUE STROKE"⟩,
    ⟨0xa7a4, "LATIN ", "CAPITAL LETTER N WITH OBLIQUE STROKE,SMALL LETTER N WITH OBLIQUE STROKE"⟩,
    ⟨0xa7a6, "LATIN ", "CAPITAL LETTER R WITH OBLIQUE STROKE,SMALL LETTER R WITH OBLIQUE STROKE"⟩,
    ⟨0xa7a8, "LATIN ", "CAPITAL LETTER S WITH OBLIQUE STROKE,SMALL LETTER S WITH OBLIQUE STROKE"⟩,
    ⟨0xa7aa, "LATIN CAPITAL LETTER ", "H WITH HOOK,REVERSED OPEN E,SCRIPT G,L WITH BELT"⟩,
    ⟨0xa7ae, "LATIN ", "CAPITAL LETTER SMALL CAPITAL I,LETTER SMALL CAPITAL Q"⟩,
    ⟨0xa7b0, "LATIN CAPITAL LETTER ", "TURNED K,TURNED T,J WITH CROSSED-TAIL,CHI,BETA"⟩,
    ⟨0xa7b5, "LATIN ", "SMALL LETTER BETA,CAPITAL LETTER OMEGA,SMALL LETTER OMEGA"⟩,
    ⟨0xa7b8, "LATIN ", "CAPITAL LETTER U WITH STROKE,SMALL LETTER U WITH STROKE"⟩,
    ⟨0xa7ba, "LATIN ", "CAPITAL LETTER GLOTTAL A,SMALL LETTER GLOTTAL A,CAPITAL LETTER GLOTTAL I"⟩,
    ⟨0xa7bd, "LATIN ", "SMALL LETTER GLOTTAL I,CAPITAL LETTER GLOTTAL U,SMALL LETTER GLOTTAL U"⟩,
    ⟨0xa7c0, "LATIN ", "CAPITAL LETTER OLD POLISH O,SMALL LETTER OLD POLISH O"⟩,
    ⟨0xa7c2, "LATIN ", "CAPITAL LETTER ANGLICANA W,SMALL LETTER ANGLICANA W"⟩,
    ⟨0xa7c4, "LATIN CAPITAL LETTER ", "C WITH PALATAL HOOK,S WITH HOOK"⟩,
    ⟨0xa7c6, "LATIN CAPITAL LETTER ", "Z WITH PALATAL HOOK,D WITH SHORT STROKE OVERLAY"⟩,
    ⟨0xa7c8, "", "LATIN SMALL LETTER D WITH SHORT STROKE OVERLAY"⟩,
    ⟨0xa7c9, "", "LATIN CAPITAL LETTER S WITH SHORT STROKE OVERLAY"⟩,
    ⟨0xa7ca, "", "LATIN SMALL LETTER S WITH SHORT STROKE OVERLAY"⟩,
    ⟨0xa7d0, "", "LATIN CAPITAL LETTER CLOSED INSULAR G"⟩,
    ⟨0xa7d1, "LATIN SMALL LETTER ", "CLOSED INSULAR G,,DOUBLE THORN,,DOUBLE WYNN"⟩,
    ⟨0xa7d6, "LATIN ", "CAPITAL LETTER MIDDLE SCOTS S,SMALL LETTER MIDDLE SCOTS S"⟩,
    ⟨0xa7d8, "LATIN ", "CAPITAL LETTER SIGMOID S,SMALL LETTER SIGMOID S"⟩,
    ⟨0xa7f2, "MODIFIER LETTER CAPITAL ", "C,F,Q"⟩,
    ⟨0xa7f5, "LATIN ", "CAPITAL LETTER REVERSED HALF H,SMALL LETTER REVERSED HALF H"⟩,
    ⟨0xa7f7, "", "LATIN EPIGRAPHIC LETTER SIDEWAYS I,MODIFIER LETTER CAPITAL H WITH STROKE"⟩,
    ⟨0xa7f9, "", "MODIFIER LETTER SMALL LIGATURE OE,LATIN LETTER SMALL CAPITAL TURNED M"⟩,
    ⟨0xa7fb, "LATIN EPIGRAPHIC LETTER ", "REVERSED F,REVERSED P,INVERTED M,I LONGA,ARCHAIC M"⟩,
    ⟨0xa800, "SYLOTI NAGRI LETTER ", "A,I"⟩,
    ⟨0xa802, "SYLOTI NAGRI ", "SIGN DVISVARA,LETTER U,LETTER E,LETTER O,SIGN HASANTA,LETTER KO"⟩,
    ⟨0xa808, "SYLOTI NAGRI ", "LETTER KHO,LETTER GO,LETTER GHO,SIGN ANUSVARA,LETTER CO,LETTER CHO"⟩,
    ⟨0xa80e, "SYLOTI NAGRI LETTER ", "JO,JHO,TTO,TTHO,DDO,DDHO,TO,THO,DO,DHO,NO,PO,PHO,BO,BHO,MO"⟩,
    ⟨0xa81e, "SYLOTI NAGRI ", "LETTER RO,LETTER LO,LETTER RRO,LETTER SO,LETTER HO,VOWEL SIGN A"⟩,
    ⟨0xa824, "SYLOTI NAGRI ", "VOWEL SIGN I,VOWEL SIGN U,VOWEL SIGN E,VOWEL SIGN OO,POETRY MARK-1"⟩,
    ⟨0xa829, "SYLOTI NAGRI ", "POETRY MARK-2,POETRY MARK-3,POETRY MARK-4,SIGN ALTERNATE HASANTA"⟩,
    ⟨0xa830, "NORTH INDIC FRACTION ONE ", "QUARTER,HALF"⟩,
    ⟨0xa832, "NORTH INDIC FRACTION ", "THREE QUARTERS,ONE SIXTEENTH,ONE EIGHTH,THREE SIXTEENTHS"⟩,
    ⟨0xa836, "NORTH INDIC ", "QUARTER MARK,PLACEHOLDER MARK,RUPEE MARK,QUANTITY MARK"⟩,
    ⟨0xa840, "PHAGS-PA LETTER ", "KA,KHA,GA,NGA,CA,CHA,JA,NYA,TA,THA,DA,NA,PA,PHA,BA,MA,TSA,TSHA"⟩,
    ⟨0xa852, "PHAGS-PA LETTER ", "DZA,WA,ZHA,ZA,SMALL A,YA,RA,LA,SHA,SA,HA,A,I,U,E,O,QA,XA,FA,GGA"⟩,
    ⟨0xa866, "PHAGS-PA ", "LETTER EE,SUBJOINED LETTER WA,SUBJOINED LETTER YA,LETTER TTA"⟩,
    ⟨0xa86a, "PHAGS-PA LETTER ", "TTHA,DDA,NNA,ALTERNATE YA,VOICELESS SHA,VOICED HA,ASPIRATED FA"⟩,
    ⟨0xa871, "PHAGS-PA ", "SUBJOINED LETTER RA,SUPERFIXED LETTER RA,LETTER CANDRABINDU"⟩,
    ⟨0xa874, "PHAGS-PA ", "SINGLE HEAD MARK,DOUBLE HEAD MARK,MARK SHAD,MARK DOUBLE SHAD"⟩,
    ⟨0xa880, "SAURASHTRA SIGN ", "ANUSVARA,VISARGA"⟩,
    ⟨0xa882, "SAURASHTRA LETTER ", "A,AA,I,II,U,UU,VOCALIC R,VOCALIC RR,VOCALIC L,VOCALIC LL,E,EE"⟩,
    ⟨0xa88e, "SAURASHTRA LETTER ", "AI,O,OO,AU,KA,KHA,GA,GHA,NGA,CA,CHA,JA,JHA,NYA,TTA,TTHA,DDA"⟩,
    ⟨0xa89f, "SAURASHTRA LETTER ", "DDHA,NNA,TA,THA,DA,DHA,NA,PA,PHA,BA,BHA,MA,YA,RA,LA,VA,SHA"⟩,
    ⟨0xa8b0, "SAURASHTRA ", "LETTER SSA,LETTER SA,LETTER HA,LETTER LLA,CONSONANT SIGN HAARU"⟩,
    ⟨0xa8b5, "SAURASHTRA VOWEL SIGN ", "AA,I,II,U,UU"⟩,
    ⟨0xa8ba, "SAURASHTRA VOWEL SIGN ", "VOCALIC R,VOCALIC RR,VOCALIC L,VOCALIC LL,E,EE,AI,O,OO,AU"⟩,
    ⟨0xa8c4, "SAURASHTRA ", "SIGN VIRAMA,SIGN CANDRABINDU,,,,,,,,,DANDA,DOUBLE DANDA"⟩,
    ⟨0xa8d0, "SAURASHTRA DIGIT ", "ZERO,ONE,TWO,THREE,FOUR,FIVE,SIX,SEVEN,EIGHT,NINE"⟩,
    ⟨0xa8e0, "COMBINING DEVANAGARI DIGIT ", "ZERO,ONE,TWO,THREE,FOUR,FIVE,SIX,SEVEN,EIGHT,NINE"⟩,
    ⟨0xa8ea, "COMBINING DEVANAGARI LETTER ", "A,U,KA,NA,PA,RA,VI"⟩,
    ⟨0xa8f1, "", "COMBINING DEVANAGARI SIGN AVAGRAHA,DEVANAGARI SIGN SPACING CANDRABINDU"⟩,
    ⟨0xa8f3, "DEVANAGARI SIGN ", "CANDRABINDU VIRAMA,DOUBLE CANDRABINDU VIRAMA"⟩,
    ⟨0xa8f5, "DEVANAGARI SIGN CANDRABINDU ", "TWO,THREE,AVAGRAHA"⟩,
    ⟨0xa8f8, "DEVANAGARI ", "SIGN PUSHPIKA,GAP FILLER"⟩,
    ⟨0xa8fa, "DEVANAGARI ", "CARET,HEADSTROKE,SIGN SIDDHAM,JAIN OM,LETTER AY,VOWEL SIGN AY"⟩,
    ⟨0xa900, "KAYAH LI DIGIT ", "ZERO,ONE,TWO,THREE,FOUR,FIVE,SIX,SEVEN,EIGHT,NINE"⟩,
    ⟨0xa90a, "KAYAH LI LETTER ", "KA,KHA,GA,NGA,SA,SHA,ZA,NYA"⟩,
    ⟨0xa912, "KAYAH LI LETTER ", "TA,HTA,NA,PA,PHA,MA,DA,BA,RA,YA,LA,WA,THA,HA,VA,CA,A,OE,I,OO"⟩,
    ⟨0xa926, "KAYAH LI VOWEL ", "UE,E,U,EE,O"⟩,
    ⟨0xa92b, "KAYAH LI ", "TONE PLOPHU,TONE CALYA,TONE CALYA PLOPHU,SIGN CWI,SIGN SHYA"⟩,
    ⟨0xa930, "REJANG LETTER ", "KA,GA,NGA"⟩,
    ⟨0xa933, "REJANG LETTER ", "TA,DA,NA,PA,BA,MA,CA,JA,NYA,SA,RA,LA,YA,WA,HA,MBA,NGGA,NDA,NYJA,A"⟩,
    ⟨0xa947, "REJANG VOWEL SIGN ", "I,U,E,AI,O,AU,EU,EA"⟩,
    ⟨0xa94f, "REJANG CONSONANT SIGN ", "NG,N,R,H"⟩,
    ⟨0xa953, "", "REJANG VIRAMA"⟩,
    ⟨0xa95f, "", "REJANG SECTION MARK,HANGUL CHOSEONG TIKEUT-MIEUM,HANGUL CHOSEONG TIKEUT-PIEUP"⟩,
    ⟨0xa962, "HANGUL CHOSEONG ", "TIKEUT-SIOS,TIKEUT-CIEUC,RIEUL-KIYEOK,RIEUL-SSANGKIYEOK"⟩,
    ⟨0xa966, "HANGUL CHOSEONG RIEUL-", "TIKEUT,SSANGTIKEUT,MIEUM,PIEUP,SSANGPIEUP,KAPYEOUNPIEUP"⟩,
    ⟨0xa96c, "HANGUL CHOSEONG ", "RIEUL-SIOS,RIEUL-CIEUC,RIEUL-KHIEUKH,MIEUM-KIYEOK,MIEUM-TIKEUT"⟩,
    ⟨0xa971, "HANGUL CHOSEONG ", "MIEUM-SIOS,PIEUP-SIOS-THIEUTH,PIEUP-KHIEUKH,PIEUP-HIEUH"⟩,
    ⟨0xa975, "HANGUL CHOSEONG ", "SSANGSIOS-PIEUP,IEUNG-RIEUL,IEUNG-HIEUH,SSANGCIEUC-HIEUH"⟩,
    ⟨0xa979, "HANGUL CHOSEONG ", "SSANGTHIEUTH,PHIEUPH-HIEUH,HIEUH-SIOS,SSANGYEORINHIEUH"⟩,
    ⟨0xa980, "JAVANESE SIGN ", "PANYANGGA,CECAK,LAYAR,WIGNYAN"⟩,
    ⟨0xa984, "JAVANESE LETTER ", "A,I KAWI,I,II,U,PA CEREK,NGA LELET,NGA LELET RASWADI"⟩,
    ⟨0xa98c, "JAVANESE LETTER ", "E,AI,O,KA,KA SASAK,KA MURDA,GA,GA MURDA,NGA,CA,CA MURDA,JA"⟩,
    ⟨0xa998, "JAVANESE LETTER ", "NYA MURDA,JA MAHAPRANA,NYA,TTA,TTA MAHAPRANA,DDA,DDA MAHAPRANA"⟩,
    ⟨0xa99f, "JAVANESE LETTER ", "NA MURDA,TA,TA MURDA,DA,DA MAHAPRANA,NA,PA,PA MURDA"⟩,
    ⟨0xa9a7, "JAVANESE LETTER ", "BA,BA MURDA,MA,YA,RA,RA AGUNG,LA,WA,SA MURDA,SA MAHAPRANA,SA,HA"⟩,
    ⟨0xa9b3, "JAVANESE ", "SIGN CECAK TELU,VOWEL SIGN TARUNG,VOWEL SIGN TOLONG"⟩,
    ⟨0xa9b6, "JAVANESE VOWEL SIGN ", "WULU,WULU MELIK,SUKU,SUKU MENDUT,TALING,DIRGA MURE,PEPET"⟩,
    ⟨0xa9bd, "JAVANESE CONSONANT SIGN ", "KERET,PENGKAL,CAKRA"⟩,
    ⟨0xa9c0, "JAVANESE ", "PANGKON,LEFT RERENGGAN,RIGHT RERENGGAN"⟩,
    ⟨0xa9c3, "JAVANESE PADA ", "ANDAP,MADYA,LUHUR,WINDU,PANGKAT,LINGSA,LUNGSI,ADEG,ADEG ADEG"⟩,
    ⟨0xa9cc, "JAVANESE ", "PADA PISELEH,TURNED PADA PISELEH,,PANGRANGKEP"⟩,
    ⟨0xa9d0, "JAVANESE DIGIT ", "ZERO,ONE,TWO,THREE,FOUR,FIVE,SIX,SEVEN,EIGHT,NINE"⟩,
    ⟨0xa9de, "JAVANESE PADA ", "TIRTA TUMETES,ISEN-ISEN"⟩,
    ⟨0xa9e0, "MYANMAR LETTER SHAN ", "GHA,CHA,JHA,NNA,BHA"⟩,
    ⟨0xa9e5, "MYANMAR ", "SIGN SHAN SAW,MODIFIER LETTER SHAN REDUPLICATION"⟩,
    ⟨0xa9e7, "MYANMAR LETTER TAI LAING ", "NYA,FA,GA,GHA,JA,JHA,DDA,DDHA,NNA"⟩,
    ⟨0xa9f0, "MYANMAR TAI LAING DIGIT ", "ZERO,ONE,TWO,THREE,FOUR,FIVE,SIX,SEVEN,EIGHT,NINE"⟩,
    ⟨0xa9fa, "MYANMAR LETTER TAI LAING ", "LLA,DA,DHA,BA,BHA"⟩,
    ⟨0xaa00, "CHAM LETTER ", "A,I,U,E"⟩,
    ⟨0xaa04, "CHAM LETTER ", "AI,O,KA,KHA,GA,GHA,NGUE,NGA,CHA,CHHA,JA,JHA,NHUE,NHA,NHJA,TA,THA,DA"⟩,
    ⟨0xaa16, "CHAM LETTER ", "DHA,NUE,NA,DDA,PA,PPA,PHA,BA,BHA,MUE,MA,BBA,YA,RA,LA,VA,SSA,SA,HA"⟩,
    ⟨0xaa29, "CHAM VOWEL SIGN ", "AA,I,II,EI,U,OE,O,AI,AU,UE"⟩,
    ⟨0xaa33, "CHAM CONSONANT SIGN ", "YA,RA,LA,WA"⟩,
    ⟨0xaa40, "CHAM ", "LETTER FINAL K,LETTER FINAL G,LETTER FINAL NG,CONSONANT SIGN FINAL NG"⟩,
    ⟨0xaa44, "CHAM LETTER FINAL ", "CH,T,N,P,Y,R,L,SS"⟩,
    ⟨0xaa4c, "CHAM CONSONANT SIGN FINAL ", "M,H"⟩,
    ⟨0xaa50, "CHAM DIGIT ", "ZERO,ONE,TWO,THREE,FOUR,FIVE,SIX,SEVEN,EIGHT,NINE"⟩,
    ⟨0xaa5c, "CHAM PUNCTUATION ", "SPIRAL,DANDA,DOUBLE DANDA,TRIPLE DANDA"⟩,
    ⟨0xaa60, "MYANMAR LETTER KHAMTI ", "GA,CA,CHA,JA,JHA,NYA,TTA,TTHA,DDA,DDHA,DHA,NA,SA,HA,HHA"⟩,
    ⟨0xaa6f, "MYANMAR ", "LETTER KHAMTI FA,MODIFIER LETTER KHAMTI REDUPLICATION"⟩,
    ⟨0xaa71, "MYANMAR ", "LETTER KHAMTI XA,LETTER KHAMTI ZA,LETTER KHAMTI RA,LOGOGRAM KHAMTI OAY"⟩,
    ⟨0xaa75, "MYANMAR ", "LOGOGRAM KHAMTI QN,LOGOGRAM KHAMTI HM,SYMBOL AITON EXCLAMATION"⟩,
    ⟨0xaa78, "MYANMAR ", "SYMBOL AITON ONE,SYMBOL AITON TWO,LETTER AITON RA,SIGN PAO KAREN TONE"⟩,
    ⟨0xaa7c, "MYANMAR ", "SIGN TAI LAING TONE-2,SIGN TAI LAING TONE-5,LETTER SHWE PALAUNG CHA"⟩,
    ⟨0xaa7f, "", "MYANMAR LETTER SHWE PALAUNG SHA,TAI VIET LETTER LOW KO"⟩,
    ⟨0xaa81, "TAI VIET LETTER ", "HIGH KO,LOW KHO,HIGH KHO,LOW KHHO,HIGH KHHO,LOW GO,HIGH GO"⟩,
    ⟨0xaa88, "TAI VIET LETTER ", "LOW NGO,HIGH NGO,LOW CO,HIGH CO,LOW CHO,HIGH CHO,LOW SO,HIGH SO"⟩,
    ⟨0xaa90, "TAI VIET LETTER ", "LOW NYO,HIGH NYO,LOW DO,HIGH DO,LOW TO,HIGH TO,LOW THO,HIGH THO"⟩,
    ⟨0xaa98, "TAI VIET LETTER ", "LOW NO,HIGH NO,LOW BO,HIGH BO,LOW PO,HIGH PO,LOW PHO,HIGH PHO"⟩,
    ⟨0xaaa0, "TAI VIET LETTER ", "LOW FO,HIGH FO,LOW MO,HIGH MO,LOW YO,HIGH YO,LOW RO,HIGH RO"⟩,
    ⟨0xaaa8, "TAI VIET LETTER ", "LOW LO,HIGH LO,LOW VO,HIGH VO,LOW HO,HIGH HO,LOW O,HIGH O"⟩,
    ⟨0xaab0, "TAI VIET ", "MAI KANG,VOWEL AA,VOWEL I,VOWEL UE,VOWEL U,VOWEL E,VOWEL O,MAI KHIT"⟩,
    ⟨0xaab8, "TAI VIET VOWEL ", "IA,UEA,UA,AUE,AY,AN,AM"⟩,
    ⟨0xaabf, "TAI VIET TONE MAI ", "EK,NUENG,THO,SONG"⟩,
    ⟨0xaadb, "TAI VIET SYMBOL ", "KON,NUENG,SAM,HO HOI,KOI KOI"⟩,
    ⟨0xaae0, "MEETEI MAYEK LETTER ", "E,O,CHA,NYA,TTA,TTHA,DDA,DDHA,NNA,SHA,SSA"⟩,
    ⟨0xaaeb, "MEETEI MAYEK VOWEL SIGN ", "II,UU,AAI,AU,AAU"⟩,
    ⟨0xaaf0, "MEETEI MAYEK ", "CHEIKHAN,AHANG KHUDAM,ANJI,SYLLABLE REPETITION MARK"⟩,
    ⟨0xaaf4, "MEETEI MAYEK ", "WORD REPETITION MARK,VOWEL SIGN VISARGA,VIRAMA"⟩,
    ⟨0xab01, "ETHIOPIC SYLLABLE ", "TTHU,TTHI,TTHAA,TTHEE,TTHE,TTHO"⟩,
    ⟨0xab09, "ETHIOPIC SYLLABLE ", "DDHU,DDHI,DDHAA,DDHEE,DDHE,DDHO,,,DZU,DZI,DZAA,DZEE,DZE,DZO"⟩,
    ⟨0xab20, "ETHIOPIC SYLLABLE ", "CCHHA,CCHHU,CCHHI,CCHHAA,CCHHEE,CCHHE,CCHHO"⟩,
    ⟨0xab28, "ETHIOPIC SYLLABLE ", "BBA,BBU,BBI,BBAA,BBEE,BBE,BBO"⟩,
    ⟨0xab30, "LATIN SMALL LETTER ", "BARRED ALPHA,A REVERSED-SCHWA,BLACKLETTER E"⟩,
    ⟨0xab33, "LATIN SMALL LETTER ", "BARRED E,E WITH FLOURISH,LENIS F,SCRIPT G WITH CROSSED-TAIL"⟩,
    ⟨0xab37, "LATIN SMALL LETTER L WITH ", "INVERTED LAZY S,DOUBLE MIDDLE TILDE,MIDDLE RING"⟩,
    ⟨0xab3a, "", "LATIN SMALL LETTER M WITH CROSSED-TAIL"⟩,
    ⟨0xab3b, "LATIN SMALL LETTER ", "N WITH CROSSED-TAIL,ENG WITH CROSSED-TAIL,BLACKLETTER O"⟩,
    ⟨0xab3e, "LATIN SMALL LETTER ", "BLACKLETTER O WITH STROKE,OPEN O WITH STROKE,INVERTED OE"⟩,
    ⟨0xab41, "LATIN SMALL LETTER TURNED OE WITH ", "STROKE,HORIZONTAL STROKE"⟩,
    ⟨0xab43, "LATIN SMALL LETTER ", "TURNED O OPEN-O,TURNED O OPEN-O WITH STROKE,STIRRUP R"⟩,
    ⟨0xab46, "LATIN ", "LETTER SMALL CAPITAL R WITH RIGHT LEG,SMALL LETTER R WITHOUT HANDLE"⟩,
    ⟨0xab48, "LATIN SMALL LETTER ", "DOUBLE R,R WITH CROSSED-TAIL,DOUBLE R WITH CROSSED-TAIL"⟩,
    ⟨0xab4b, "LATIN SMALL LETTER ", "SCRIPT R,SCRIPT R WITH RING,BASELINE ESH"⟩,
    ⟨0xab4e, "LATIN SMALL LETTER U ", "WITH SHORT RIGHT LEG,BAR WITH SHORT RIGHT LEG"⟩,
    ⟨0xab50, "LATIN SMALL LETTER ", "UI,TURNED UI,U WITH LEFT HOOK,CHI,CHI WITH LOW RIGHT RING"⟩,
    ⟨0xab55, "LATIN SMALL LETTER ", "CHI WITH LOW LEFT SERIF,X WITH LOW RIGHT RING"⟩,
    ⟨0xab57, "LATIN SMALL LETTER X WITH LONG LEFT ", "LEG,LEG AND LOW RIGHT RING,LEG WITH SERIF"⟩,
    ⟨0xab5a, "", "LATIN SMALL LETTER Y WITH SHORT RIGHT LEG,MODIFIER BREVE WITH INVERTED BREVE"⟩,
    ⟨0xab5c, "MODIFIER LETTER SMALL ", "HENG,L WITH INVERTED LAZY S"⟩,
    ⟨0xab5e, "MODIFIER LETTER SMALL ", "L WITH MIDDLE TILDE,U WITH LEFT HOOK"⟩,
    ⟨0xab60, "LATIN SMALL LETTER ", "SAKHA YAT,IOTIFIED E,OPEN OE,UO,INVERTED ALPHA"⟩,
    ⟨0xab65, "", "GREEK LETTER SMALL CAPITAL OMEGA"⟩,
    ⟨0xab66, "", "LATIN SMALL LETTER DZ DIGRAPH WITH RETROFLEX HOOK"⟩,
    ⟨0xab67, "LATIN SMALL LETTER ", "TS DIGRAPH WITH RETROFLEX HOOK,TURNED R WITH MIDDLE TILDE"⟩,
    ⟨0xab69, "MODIFIER LETTER ", "SMALL TURNED W,LEFT TACK,RIGHT TACK"⟩,
    ⟨0xab70, "CHEROKEE SMALL LETTER ", "A,E,I,O,U,V,GA,KA,GE,GI"⟩,
    ⟨0xab7a, "CHEROKEE SMALL LETTER ", "GO,GU,GV,HA,HE,HI,HO,HU,HV,LA,LE,LI,LO,LU,LV,MA,ME,MI,MO"⟩,
    ⟨0xab8d, "CHEROKEE SMALL LETTER ", "MU,NA,HNA,NAH,NE,NI,NO,NU,NV,QUA,QUE,QUI,QUO,QUU,QUV,SA,S"⟩,
    ⟨0xab9e, "CHEROKEE SMALL LETTER ", "SE,SI,SO,SU,SV,DA,TA,DE,TE,DI,TI,DO,DU,DV,DLA,TLA,TLE,TLI"⟩,
    ⟨0xabb0, "CHEROKEE SMALL LETTER ", "TLO,TLU,TLV,TSA,TSE,TSI,TSO,TSU,TSV,WA,WE,WI,WO,WU,WV,YA"⟩,
    ⟨0xabc0, "MEETEI MAYEK LETTER ", "KOK,SAM,LAI,MIT,PA,NA,CHIL,TIL"⟩,
    ⟨0xabc8, "MEETEI MAYEK LETTER ", "KHOU,NGOU,THOU,WAI,YANG,HUK,UN,I,PHAM,ATIYA,GOK,JHAM,RAI"⟩,
    ⟨0xabd5, "MEETEI MAYEK LETTER ", "BA,JIL,DIL,GHOU,DHOU,BHAM,KOK LONSUM,LAI LONSUM,MIT LONSUM"⟩,
    ⟨0xabde, "MEETEI MAYEK LETTER ", "PA LONSUM,NA LONSUM,TIL LONSUM,NGOU LONSUM,I LONSUM"⟩,
    ⟨0xabe3, "MEETEI MAYEK VOWEL SIGN ", "ONAP,INAP,ANAP,YENAP,SOUNAP,UNAP,CHEINAP,NUNG"⟩,
    ⟨0xabeb, "MEETEI MAYEK ", "CHEIKHEI,LUM IYEK,APUN IYEK"⟩,
    ⟨0xabf0, "MEETEI MAYEK DIGIT ", "ZERO,ONE,TWO,THREE,FOUR,FIVE,SIX,SEVEN,EIGHT,NINE"⟩,
    ⟨0xd7b0, "HANGUL JUNGSEONG ", "O-YEO,O-O-I,YO-A,YO-AE,YO-EO,U-YEO,U-I-I,YU-AE,YU-O"⟩,
    ⟨0xd7b9, "HANGUL JUNGSEONG EU-", "A,EO,E,O"⟩,
    ⟨0xd7bd, "HANGUL JUNGSEONG ", "I-YA-O,I-YAE,I-YEO,I-YE,I-O-I,I-YO,I-YU,I-I,ARAEA-A,ARAEA-E"⟩,
    ⟨0xd7cb, "HANGUL JONGSEONG ", "NIEUN-RIEUL,NIEUN-CHIEUCH,SSANGTIKEUT,SSANGTIKEUT-PIEUP"⟩,
    ⟨0xd7cf, "HANGUL JONGSEONG TIKEUT-", "PIEUP,SIOS,SIOS-KIYEOK,CIEUC,CHIEUCH,THIEUTH"⟩,
    ⟨0xd7d5, "HANGUL JONGSEONG ", "RIEUL-SSANGKIYEOK,RIEUL-KIYEOK-HIEUH,SSANGRIEUL-KHIEUKH"⟩,
    ⟨0xd7d8, "HANGUL JONGSEONG RIEUL-", "MIEUM-HIEUH,PIEUP-TIKEUT,PIEUP-PHIEUPH,YESIEUNG"⟩,
    ⟨0xd7dc, "HANGUL JONGSEONG ", "RIEUL-YEORINHIEUH-HIEUH,KAPYEOUNRIEUL,MIEUM-NIEUN"⟩,
    ⟨0xd7df, "HANGUL JONGSEONG ", "MIEUM-SSANGNIEUN,SSANGMIEUM,MIEUM-PIEUP-SIOS,MIEUM-CIEUC"⟩,
    ⟨0xd7e3, "HANGUL JONGSEONG ", "PIEUP-TIKEUT,PIEUP-RIEUL-PHIEUPH,PIEUP-MIEUM,SSANGPIEUP"⟩,
    ⟨0xd7e7, "HANGUL JONGSEONG ", "PIEUP-SIOS-TIKEUT,PIEUP-CIEUC,PIEUP-CHIEUCH,SIOS-MIEUM"⟩,
    ⟨0xd7eb, "HANGUL JONGSEONG ", "SIOS-KAPYEOUNPIEUP,SSANGSIOS-KIYEOK,SSANGSIOS-TIKEUT"⟩,
    ⟨0xd7ee, "HANGUL JONGSEONG SIOS-", "PANSIOS,CIEUC,CHIEUCH,THIEUTH,HIEUH"⟩,
    ⟨0xd7f3, "HANGUL JONGSEONG ", "PANSIOS-PIEUP,PANSIOS-KAPYEOUNPIEUP,YESIEUNG-MIEUM"⟩,
    ⟨0xd7f6, "HANGUL JONGSEONG ", "YESIEUNG-HIEUH,CIEUC-PIEUP,CIEUC-SSANGPIEUP,SSANGCIEUC"⟩,
    ⟨0xd7fa, "HANGUL JONGSEONG PHIEUPH-", "SIOS,THIEUTH"⟩,
    ⟨0xf900, "CJK COMPATIBILITY IDEOGRAPH-", "F900,F901,F902,F903,F904,F905"⟩,
    ⟨0xf906, "CJK COMPATIBILITY IDEOGRAPH-", "F906,F907,F908,F909,F90A,F90B,F90C,F90D,F90E,F90F"⟩,
    ⟨0xf910, "CJK COMPATIBILITY IDEOGRAPH-", "F910,F911,F912,F913,F914,F915,F916,F917,F918,F919"⟩,
    ⟨0xf91a, "CJK COMPATIBILITY IDEOGRAPH-", "F91A,F91B,F91C,F91D,F91E,F91F,F920,F921,F922,F923"⟩,
    ⟨0xf924, "CJK COMPATIBILITY IDEOGRAPH-", "F924,F925,F926,F927,F928,F929,F92A,F92B,F92C,F92D"⟩,
    ⟨0xf92e, "CJK COMPATIBILITY IDEOGRAPH-", "F92E,F92F,F930,F931,F932,F933,F934,F935,F936,F937"⟩,
    ⟨0xf938, "CJK COMPATIBILITY IDEOGRAPH-", "F938,F939,F93A,F93B,F93C,F93D,F93E,F93F,F940,F941"⟩,
    ⟨0xf942, "CJK COMPATIBILITY IDEOGRAPH-", "F942,F943,F944,F945,F946,F947,F948,F949,F94A,F94B"⟩,
    ⟨0xf94c, "CJK COMPATIBILITY IDEOGRAPH-", "F94C,F94D,F94E,F94F,F950,F951,F952,F953,F954,F955"⟩,
    ⟨0xf956, "CJK COMPATIBILITY IDEOGRAPH-", "F956,F957,F958,F959,F95A,F95B,F95C,F95D,F95E,F95F"⟩,
    ⟨0xf960, "CJK COMPATIBILITY IDEOGRAPH-", "F960,F961,F962,F963,F964,F965,F966,F967,F968,F969"⟩,
    ⟨0xf96a, "CJK COMPATIBILITY IDEOGRAPH-", "F96A,F96B,F96C,F96D,F96E,F96F,F970,F971,F972,F973"⟩,
    ⟨0xf974, "CJK COMPATIBILITY IDEOGRAPH-", "F974,F975,F976,F977,F978,F979,F97A,F97B,F97C,F97D"⟩,
    ⟨0xf97e, "CJK COMPATIBILITY IDEOGRAPH-", "F97E,F97F,F980,F981,F982,F983,F984,F985,F986,F987"⟩,
    ⟨0xf988, "CJK COMPATIBILITY IDEOGRAPH-", "F988,F989,F98A,F98B,F98C,F98D,F98E,F98F,F990,F991"⟩,
    ⟨0xf992, "CJK COMPATIBILITY IDEOGRAPH-", "F992,F993,F994,F995,F996,F997,F998,F999,F99A,F99B"⟩,
    ⟨0xf99c, "CJK COMPATIBILITY IDEOGRAPH-", "F99C,F99D,F99E,F99F,F9A0,F9A1,F9A2,F9A3,F9A4,F9A5"⟩,
    ⟨0xf9a6, "CJK COMPATIBILITY IDEOGRAPH-", "F9A6,F9A7,F9A8,F9A9,F9AA,F9AB,F9AC,F9AD,F9AE,F9AF"⟩,
    ⟨0xf9b0, "CJK COMPATIBILITY IDEOGRAPH-", "F9B0,F9B1,F9B2,F9B3,F9B4,F9B5,F9B6,F9B7,F9B8,F9B9"⟩,
    ⟨0xf9ba, "CJK COMPATIBILITY IDEOGRAPH-", "F9BA,F9BB,F9BC,F9BD,F9BE,F9BF,F9C0,F9C1,F9C2,F9C3"⟩,
    ⟨0xf9c4, "CJK COMPATIBILITY IDEOGRAPH-", "F9C4,F9C5,F9C6,F9C7,F9C8,F9C9,F9CA,F9CB,F9CC,F9CD"⟩,
    ⟨0xf9ce, "CJK COMPATIBILITY IDEOGRAPH-", "F9CE,F9CF,F9D0,F9D1,F9D2,F9D3,F9D4,F9D5,F9D6,F9D7"⟩,
    ⟨0xf9d8, "CJK COMPATIBILITY IDEOGRAPH-", "F9D8,F9D9,F9DA,F9DB,F9DC,F9DD,F9DE,F9DF,F9E0,F9E1"⟩,
    ⟨0xf9e2, "CJK COMPATIBILITY IDEOGRAPH-", "F9E2,F9E3,F9E4,F9E5,F9E6,F9E7,F9E8,F9E9,F9EA,F9EB"⟩,
    ⟨0xf9ec, "CJK COMPATIBILITY IDEOGRAPH-", "F9EC,F9ED,F9EE,F9EF,F9F0,F9F1,F9F2,F9F3,F9F4,F9F5"⟩,
    ⟨0xf9f6, "CJK COMPATIBILITY IDEOGRAPH-", "F9F6,F9F7,F9F8,F9F9,F9FA,F9FB,F9FC,F9FD,F9FE,F9FF"⟩,
    ⟨0xfa00, "CJK COMPATIBILITY IDEOGRAPH-", "FA00,FA01,FA02,FA03,FA04,FA05,FA06,FA07,FA08,FA09"⟩,
    ⟨0xfa0a, "CJK COMPATIBILITY IDEOGRAPH-", "FA0A,FA0B,FA0C,FA0D,FA0E,FA0F,FA10,FA11,FA12,FA13"⟩,
    ⟨0xfa14, "CJK COMPATIBILITY IDEOGRAPH-", "FA14,FA15,FA16,FA17,FA18,FA19,FA1A,FA1B,FA1C,FA1D"⟩,
    ⟨0xfa1e, "CJK COMPATIBILITY IDEOGRAPH-", "FA1E,FA1F,FA20,FA21,FA22,FA23,FA24,FA25,FA26,FA27"⟩,
    ⟨0xfa28, "CJK COMPATIBILITY IDEOGRAPH-", "FA28,FA29,FA2A,FA2B,FA2C,FA2D,FA2E,FA2F,FA30,FA31"⟩,
    ⟨0xfa32, "CJK COMPATIBILITY IDEOGRAPH-", "FA32,FA33,FA34,FA35,FA36,FA37,FA38,FA39,FA3A,FA3B"⟩,
    ⟨0xfa3c, "CJK COMPATIBILITY IDEOGRAPH-", "FA3C,FA3D,FA3E,FA3F,FA40,FA41,FA42,FA43,FA44,FA45"⟩,
    ⟨0xfa46, "CJK COMPATIBILITY IDEOGRAPH-", "FA46,FA47,FA48,FA49,FA4A,FA4B,FA4C,FA4D,FA4E,FA4F"⟩,
    ⟨0xfa50, "CJK COMPATIBILITY IDEOGRAPH-", "FA50,FA51,FA52,FA53,FA54,FA55,FA56,FA57,FA58,FA59"⟩,
    ⟨0xfa5a, "CJK COMPATIBILITY IDEOGRAPH-", "FA5A,FA5B,FA5C,FA5D,FA5E,FA5F,FA60,FA61,FA62,FA63"⟩,
    ⟨0xfa64, "CJK COMPATIBILITY IDEOGRAPH-", "FA64,FA65,FA66,FA67,FA68,FA69,FA6A,FA6B,FA6C,FA6D"⟩,
    ⟨0xfa70, "CJK COMPATIBILITY IDEOGRAPH-", "FA70,FA71,FA72,FA73,FA74,FA75"⟩,
    ⟨0xfa76, "CJK COMPATIBILITY IDEOGRAPH-", "FA76,FA77,FA78,FA79,FA7A,FA7B,FA7C,FA7D,FA7E,FA7F"⟩,
    ⟨0xfa80, "CJK COMPATIBILITY IDEOGRAPH-", "FA80,FA81,FA82,FA83,FA84,FA85,FA86,FA87,FA88,FA89"⟩,
    ⟨0xfa8a, "CJK COMPATIBILITY IDEOGRAPH-", "FA8A,FA8B,FA8C,FA8D,FA8E,FA8F,FA90,FA91,FA92,FA93"⟩,
    ⟨0xfa94, "CJK COMPATIBILITY IDEOGRAPH-", "FA94,FA95,FA96,FA97,FA98,FA99,FA9A,FA9B,FA9C,FA9D"⟩,
    ⟨0xfa9e, "CJK COMPATIBILITY IDEOGRAPH-", "FA9E,FA9F,FAA0,FAA1,FAA2,FAA3,FAA4,FAA5,FAA6,FAA7"⟩,
    ⟨0xfaa8, "CJK COMPATIBILITY IDEOGRAPH-", "FAA8,FAA9,FAAA,FAAB,FAAC,FAAD,FAAE,FAAF,FAB0,FAB1"⟩,
    ⟨0xfab2, "CJK COMPATIBILITY IDEOGRAPH-", "FAB2,FAB3,FAB4,FAB5,FAB6,FAB7,FAB8,FAB9,FABA,FABB"⟩,
    ⟨0xfabc, "CJK COMPATIBILITY IDEOGRAPH-", "FABC,FABD,FABE,FABF,FAC0,FAC1,FAC2,FAC3,FAC4,FAC5"⟩,
    ⟨0xfac6, "CJK COMPATIBILITY IDEOGRAPH-", "FAC6,FAC7,FAC8,FAC9,FACA,FACB,FACC,FACD,FACE,FACF"⟩,
    ⟨0xfad0, "CJK COMPATIBILITY IDEOGRAPH-", "FAD0,FAD1,FAD2,FAD3,FAD4,FAD5,FAD6,FAD7,FAD8,FAD9"⟩,
    ⟨0xfb00, "LATIN SMALL LIGATURE ", "FF,FI,FL,FFI,FFL,LONG S T,ST"⟩,
    ⟨0xfb13, "ARMENIAN SMALL LIGATURE ", "MEN NOW,MEN ECH,MEN INI,VEW NOW,MEN XEH"⟩,
    ⟨0xfb1d, "HEBREW ", "LETTER YOD WITH HIRIQ,POINT JUDEO-SPANISH VARIKA"⟩,
    ⟨0xfb1f, "HEBREW ", "LIGATURE YIDDISH YOD YOD PATAH,LETTER ALTERNATIVE AYIN"⟩,
    ⟨0xfb21, "HEBREW LETTER WIDE ", "ALEF,DALET,HE,KAF,LAMED,FINAL MEM,RESH,TAV"⟩,
    ⟨0xfb29, "", "HEBREW LETTER ALTERNATIVE PLUS SIGN"⟩,
    ⟨0xfb2a, "HEBREW LETTER SHIN WITH ", "SHIN DOT,SIN DOT,DAGESH AND SHIN DOT,DAGESH AND SIN DOT"⟩,
    ⟨0xfb2e, "HEBREW LETTER ALEF WITH ", "PATAH,QAMATS,MAPIQ"⟩,
    ⟨0xfb31, "HEBREW LETTER ", "BET WITH DAGESH,GIMEL WITH DAGESH,DALET WITH DAGESH"⟩,
    ⟨0xfb34, "HEBREW LETTER ", "HE WITH MAPIQ,VAV WITH DAGESH,ZAYIN WITH DAGESH,,TET WITH DAGESH"⟩,
    ⟨0xfb39, "HEBREW LETTER ", "YOD WITH DAGESH,FINAL KAF WITH DAGESH,KAF WITH DAGESH"⟩,
    ⟨0xfb3c, "HEBREW LETTER ", "LAMED WITH DAGESH,,MEM WITH DAGESH,,NUN WITH DAGESH"⟩,
    ⟨0xfb41, "HEBREW LETTER ", "SAMEKH WITH DAGESH,,FINAL PE WITH DAGESH,PE WITH DAGESH"⟩,
    ⟨0xfb46, "HEBREW LETTER ", "TSADI WITH DAGESH,QOF WITH DAGESH,RESH WITH DAGESH"⟩,
    ⟨0xfb49, "HEBREW LETTER ", "SHIN WITH DAGESH,TAV WITH DAGESH,VAV WITH HOLAM,BET WITH RAFE"⟩,
    ⟨0xfb4d, "HEBREW ", "LETTER KAF WITH RAFE,LETTER PE WITH RAFE,LIGATURE ALEF LAMED"⟩,
    ⟨0xfb50, "ARABIC LETTER ALEF WASLA ", "ISOLATED FORM,FINAL FORM"⟩,
    ⟨0xfb52, "ARABIC LETTER BEEH ", "ISOLATED FORM,FINAL FORM,INITIAL FORM,MEDIAL FORM"⟩,
    ⟨0xfb56, "ARABIC LETTER PEH ", "ISOLATED FORM,FINAL FORM,INITIAL FORM,MEDIAL FORM"⟩,
    ⟨0xfb5a, "ARABIC LETTER BEHEH ", "ISOLATED FORM,FINAL FORM,INITIAL FORM,MEDIAL FORM"⟩,
    ⟨0xfb5e, "ARABIC LETTER TTEHEH ", "ISOLATED FORM,FINAL FORM,INITIAL FORM,MEDIAL FORM"⟩,
    ⟨0xfb62, "ARABIC LETTER TEHEH ", "ISOLATED FORM,FINAL FORM,INITIAL FORM,MEDIAL FORM"⟩,
    ⟨0xfb66, "ARABIC LETTER TTEH ", "ISOLATED FORM,FINAL FORM,INITIAL FORM,MEDIAL FORM"⟩,
    ⟨0xfb6a, "ARABIC LETTER VEH ", "ISOLATED FORM,FINAL FORM,INITIAL FORM,MEDIAL FORM"⟩,
    ⟨0xfb6e, "ARABIC LETTER PEHEH ", "ISOLATED FORM,FINAL FORM,INITIAL FORM,MEDIAL FORM"⟩,
    ⟨0xfb72, "ARABIC LETTER DYEH ", "ISOLATED FORM,FINAL FORM,INITIAL FORM,MEDIAL FORM"⟩,
    ⟨0xfb76, "ARABIC LETTER NYEH ", "ISOLATED FORM,FINAL FORM,INITIAL FORM,MEDIAL FORM"⟩,
    ⟨0xfb7a, "ARABIC LETTER TCHEH ", "ISOLATED FORM,FINAL FORM,INITIAL FORM,MEDIAL FORM"⟩,
    ⟨0xfb7e, "ARABIC LETTER TCHEHEH ", "ISOLATED FORM,FINAL FORM,INITIAL FORM,MEDIAL FORM"⟩,
    ⟨0xfb82, "ARABIC LETTER ", "DDAHAL ISOLATED FORM,DDAHAL FINAL FORM,DAHAL ISOLATED FORM"⟩,
    ⟨0xfb85, "ARABIC LETTER ", "DAHAL FINAL FORM,DUL ISOLATED FORM,DUL FINAL FORM"⟩,
    ⟨0xfb88, "ARABIC LETTER ", "DDAL ISOLATED FORM,DDAL FINAL FORM,JEH ISOLATED FORM"⟩,
    ⟨0xfb8b, "ARABIC LETTER ", "JEH FINAL FORM,RREH ISOLATED FORM,RREH FINAL FORM"⟩,
    ⟨0xfb8e, "ARABIC LETTER KEHEH ", "ISOLATED FORM,FINAL FORM,INITIAL FORM,MEDIAL FORM"⟩,
    ⟨0xfb92, "ARABIC LETTER GAF ", "ISOLATED FORM,FINAL FORM,INITIAL FORM,MEDIAL FORM"⟩,
    ⟨0xfb96, "ARABIC LETTER GUEH ", "ISOLATED FORM,FINAL FORM,INITIAL FORM,MEDIAL FORM"⟩,
    ⟨0xfb9a, "ARABIC LETTER NGOEH ", "ISOLATED FORM,FINAL FORM,INITIAL FORM,MEDIAL FORM"⟩,
    ⟨0xfb9e, "ARABIC LETTER NOON GHUNNA ", "ISOLATED FORM,FINAL FORM"⟩,
    ⟨0xfba0, "ARABIC LETTER RNOON ", "ISOLATED FORM,FINAL FORM,INITIAL FORM,MEDIAL FORM"⟩,
    ⟨0xfba4, "ARABIC LETTER HEH WITH YEH ABOVE ", "ISOLATED FORM,FINAL FORM"⟩,
    ⟨0xfba6, "ARABIC LETTER HEH GOAL ", "ISOLATED FORM,FINAL FORM,INITIAL FORM,MEDIAL FORM"⟩,
    ⟨0xfbaa, "ARABIC LETTER HEH DOACHASHMEE ", "ISOLATED FORM,FINAL FORM,INITIAL FORM,MEDIAL FORM"⟩,
    ⟨0xfbae, "ARABIC LETTER YEH BARREE ", "ISOLATED FORM,FINAL FORM"⟩,
    ⟨0xfbb0, "ARABIC LETTER YEH BARREE WITH HAMZA ABOVE ", "ISOLATED FORM,FINAL FORM"⟩,
    ⟨0xfbb2, "ARABIC SYMBOL ", "DOT ABOVE,DOT BELOW,TWO DOTS ABOVE,TWO DOTS BELOW"⟩,
    ⟨0xfbb6, "ARABIC SYMBOL THREE DOTS ", "ABOVE,BELOW"⟩,
    ⟨0xfbb8, "ARABIC SYMBOL THREE DOTS POINTING DOWNWARDS ", "ABOVE,BELOW"⟩,
    ⟨0xfbba, "ARABIC SYMBOL ", "FOUR DOTS ABOVE,FOUR DOTS BELOW,DOUBLE VERTICAL BAR BELOW"⟩,
    ⟨0xfbbd, "ARABIC SYMBOL TWO DOTS VERTICALLY ", "ABOVE,BELOW"⟩,
    ⟨0xfbbf, "ARABIC SYMBOL ", "RING,SMALL TAH ABOVE,SMALL TAH BELOW,WASLA ABOVE"⟩,
    ⟨0xfbd3, "ARABIC LETTER NG ", "ISOLATED FORM,FINAL FORM,INITIAL FORM,MEDIAL FORM"⟩,
    ⟨0xfbd7, "ARABIC LETTER ", "U ISOLATED FORM,U FINAL FORM,OE ISOLATED FORM,OE FINAL FORM"⟩,
    ⟨0xfbdb, "ARABIC LETTER ", "YU ISOLATED FORM,YU FINAL FORM,U WITH HAMZA ABOVE ISOLATED FORM"⟩,
    ⟨0xfbde, "ARABIC LETTER ", "VE ISOLATED FORM,VE FINAL FORM,KIRGHIZ OE ISOLATED FORM"⟩,
    ⟨0xfbe1, "ARABIC LETTER KIRGHIZ ", "OE FINAL FORM,YU ISOLATED FORM,YU FINAL FORM"⟩,
    ⟨0xfbe4, "ARABIC LETTER E ", "ISOLATED FORM,FINAL FORM,INITIAL FORM,MEDIAL FORM"⟩,
    ⟨0xfbe8, "ARABIC LETTER UIGHUR KAZAKH KIRGHIZ ALEF MAKSURA ", "INITIAL FORM,MEDIAL FORM"⟩,
    ⟨0xfbea, "ARABIC LIGATURE YEH WITH HAMZA ABOVE WITH ALEF ", "ISOLATED FORM,FINAL FORM"⟩,
    ⟨0xfbec, "ARABIC LIGATURE YEH WITH HAMZA ABOVE WITH AE ", "ISOLATED FORM,FINAL FORM"⟩,
    ⟨0xfbee, "ARABIC LIGATURE YEH WITH HAMZA ABOVE WITH WAW ", "ISOLATED FORM,FINAL FORM"⟩,
    ⟨0xfbf0, "ARABIC LIGATURE YEH WITH HAMZA ABOVE WITH U ", "ISOLATED FORM,FINAL FORM"⟩,
    ⟨0xfbf2, "ARABIC LIGATURE YEH WITH HAMZA ABOVE WITH OE ", "ISOLATED FORM,FINAL FORM"⟩,
    ⟨0xfbf4, "ARABIC LIGATURE YEH WITH HAMZA ABOVE WITH YU ", "ISOLATED FORM,FINAL FORM"⟩,
    ⟨0xfbf6, "", "ARABIC LIGATURE YEH WITH HAMZA ABOVE WITH E ISOLATED FORM"⟩,
    ⟨0xfbf7, "ARABIC LIGATURE YEH WITH HAMZA ABOVE WITH E ", "FINAL FORM,INITIAL FORM"⟩,
    ⟨0xfbf9, "", "ARABIC LIGATURE UIGHUR KIRGHIZ YEH WITH HAMZA ABOVE WITH ALEF MAKSURA ISOLATED FORM"⟩,
    ⟨0xfbfa, "", "ARABIC LIGATURE UIGHUR KIRGHIZ YEH WITH HAMZA ABOVE WITH ALEF MAKSURA FINAL FORM"⟩,
    ⟨0xfbfb, "", "ARABIC LIGATURE UIGHUR KIRGHIZ YEH WITH HAMZA ABOVE WITH ALEF MAKSURA INITIAL FORM"⟩,
    ⟨0xfbfc, "ARABIC LETTER FARSI YEH ", "ISOLATED FORM,FINAL FORM,INITIAL FORM,MEDIAL FORM"⟩,
    ⟨0xfc00, "", "ARABIC LIGATURE YEH WITH HAMZA ABOVE WITH JEEM ISOLATED FORM"⟩,
    ⟨0xfc01, "ARABIC LIGATURE YEH WITH HAMZA ABOVE WITH ", "HAH ISOLATED FORM,MEEM ISOLATED FORM"⟩,
    ⟨0xfc03, "", "ARABIC LIGATURE YEH WITH HAMZA ABOVE WITH ALEF MAKSURA ISOLATED FORM"⟩,
    ⟨0xfc04, "", "ARABIC LIGATURE YEH WITH HAMZA ABOVE WITH YEH ISOLATED FORM"⟩,
    ⟨0xfc05, "ARABIC LIGATURE BEH WITH ", "JEEM ISOLATED FORM,HAH ISOLATED FORM"⟩,
    ⟨0xfc07, "ARABIC LIGATURE BEH WITH ", "KHAH ISOLATED FORM,MEEM ISOLATED FORM"⟩,
    ⟨0xfc09, "ARABIC LIGATURE BEH WITH ", "ALEF MAKSURA ISOLATED FORM,YEH ISOLATED FORM"⟩,
    ⟨0xfc0b, "ARABIC LIGATURE TEH WITH ", "JEEM ISOLATED FORM,HAH ISOLATED FORM"⟩,
    ⟨0xfc0d, "ARABIC LIGATURE TEH WITH ", "KHAH ISOLATED FORM,MEEM ISOLATED FORM"⟩,
    ⟨0xfc0f, "ARABIC LIGATURE TEH WITH ", "ALEF MAKSURA ISOLATED FORM,YEH ISOLATED FORM"⟩,
    ⟨0xfc11, "ARABIC LIGATURE THEH WITH ", "JEEM ISOLATED FORM,MEEM ISOLATED FORM"⟩,
    ⟨0xfc13, "ARABIC LIGATURE THEH WITH ", "ALEF MAKSURA ISOLATED FORM,YEH ISOLATED FORM"⟩,
    ⟨0xfc15, "ARABIC LIGATURE JEEM WITH ", "HAH ISOLATED FORM,MEEM ISOLATED FORM"⟩,
    ⟨0xfc17, "ARABIC LIGATURE HAH WITH ", "JEEM ISOLATED FORM,MEEM ISOLATED FORM"⟩,
    ⟨0xfc19, "ARABIC LIGATURE KHAH WITH ", "JEEM ISOLATED FORM,HAH ISOLATED FORM"⟩,
    ⟨0xfc1b, "ARABIC LIGATURE ", "KHAH WITH MEEM ISOLATED FORM,SEEN WITH JEEM ISOLATED FORM"⟩,
    ⟨0xfc1d, "ARABIC LIGATURE SEEN WITH ", "HAH ISOLATED FORM,KHAH ISOLATED FORM"⟩,
    ⟨0xfc1f, "ARABIC LIGATURE ", "SEEN WITH MEEM ISOLATED FORM,SAD WITH HAH ISOLATED FORM"⟩,
    ⟨0xfc21, "ARABIC LIGATURE ", "SAD WITH MEEM ISOLATED FORM,DAD WITH JEEM ISOLATED FORM"⟩,
    ⟨0xfc23, "ARABIC LIGATURE DAD WITH ", "HAH ISOLATED FORM,KHAH ISOLATED FORM"⟩,
    ⟨0xfc25, "ARABIC LIGATURE ", "DAD WITH MEEM ISOLATED FORM,TAH WITH HAH ISOLATED FORM"⟩,
    ⟨0xfc27, "ARABIC LIGATURE ", "TAH WITH MEEM ISOLATED FORM,ZAH WITH MEEM ISOLATED FORM"⟩,
    ⟨0xfc29, "ARABIC LIGATURE AIN WITH ", "JEEM ISOLATED FORM,MEEM ISOLATED FORM"⟩,
    ⟨0xfc2b, "ARABIC LIGATURE GHAIN WITH ", "JEEM ISOLATED FORM,MEEM ISOLATED FORM"⟩,
    ⟨0xfc2d, "ARABIC LIGATURE FEH WITH ", "JEEM ISOLATED FORM,HAH ISOLATED FORM"⟩,
    ⟨0xfc2f, "ARABIC LIGATURE FEH WITH ", "KHAH ISOLATED FORM,MEEM ISOLATED FORM"⟩,
    ⟨0xfc31, "ARABIC LIGATURE FEH WITH ", "ALEF MAKSURA ISOLATED FORM,YEH ISOLATED FORM"⟩,
    ⟨0xfc33, "ARABIC LIGATURE QAF WITH ", "HAH ISOLATED FORM,MEEM ISOLATED FORM"⟩,
    ⟨0xfc35, "ARABIC LIGATURE QAF WITH ", "ALEF MAKSURA ISOLATED FORM,YEH ISOLATED FORM"⟩,
    ⟨0xfc37, "ARABIC LIGATURE KAF WITH ", "ALEF ISOLATED FORM,JEEM ISOLATED FORM"⟩,
    ⟨0xfc39, "ARABIC LIGATURE KAF WITH ", "HAH ISOLATED FORM,KHAH ISOLATED FORM"⟩,
    ⟨0xfc3b, "ARABIC LIGATURE KAF WITH ", "LAM ISOLATED FORM,MEEM ISOLATED FORM"⟩,
    ⟨0xfc3d, "ARABIC LIGATURE KAF WITH ", "ALEF MAKSURA ISOLATED FORM,YEH ISOLATED FORM"⟩,
    ⟨0xfc3f, "ARABIC LIGATURE LAM WITH ", "JEEM ISOLATED FORM,HAH ISOLATED FORM"⟩,
    ⟨0xfc41, "ARABIC LIGATURE LAM WITH ", "KHAH ISOLATED FORM,MEEM ISOLATED FORM"⟩,
    ⟨0xfc43, "ARABIC LIGATURE LAM WITH ", "ALEF MAKSURA ISOLATED FORM,YEH ISOLATED FORM"⟩,
    ⟨0xfc45, "ARABIC LIGATURE MEEM WITH ", "JEEM ISOLATED FORM,HAH ISOLATED FORM"⟩,
    ⟨0xfc47, "ARABIC LIGATURE MEEM WITH ", "KHAH ISOLATED FORM,MEEM ISOLATED FORM"⟩,
    ⟨0xfc49, "ARABIC LIGATURE MEEM WITH ", "ALEF MAKSURA ISOLATED FORM,YEH ISOLATED FORM"⟩,
    ⟨0xfc4b, "ARABIC LIGATURE NOON WITH ", "JEEM ISOLATED FORM,HAH ISOLATED FORM"⟩,
    ⟨0xfc4d, "ARABIC LIGATURE NOON WITH ", "KHAH ISOLATED FORM,MEEM ISOLATED FORM"⟩,
    ⟨0xfc4f, "ARABIC LIGATURE NOON WITH ", "ALEF MAKSURA ISOLATED FORM,YEH ISOLATED FORM"⟩,
    ⟨0xfc51, "ARABIC LIGATURE HEH WITH ", "JEEM ISOLATED FORM,MEEM ISOLATED FORM"⟩,
    ⟨0xfc53, "ARABIC LIGATURE HEH WITH ", "ALEF MAKSURA ISOLATED FORM,YEH ISOLATED FORM"⟩,
    ⟨0xfc55, "ARABIC LIGATURE YEH WITH ", "JEEM ISOLATED FORM,HAH ISOLATED FORM"⟩,
    ⟨0xfc57, "ARABIC LIGATURE YEH WITH ", "KHAH ISOLATED FORM,MEEM ISOLATED FORM"⟩,
    ⟨0xfc59, "ARABIC LIGATURE YEH WITH ", "ALEF MAKSURA ISOLATED FORM,YEH ISOLATED FORM"⟩,
    ⟨0xfc5b, "", "ARABIC LIGATURE THAL WITH SUPERSCRIPT ALEF ISOLATED FORM"⟩,
    ⟨0xfc5c, "", "ARABIC LIGATURE REH WITH SUPERSCRIPT ALEF ISOLATED FORM"⟩,
    ⟨0xfc5d, "", "ARABIC LIGATURE ALEF MAKSURA WITH SUPERSCRIPT ALEF ISOLATED FORM"⟩,
    ⟨0xfc5e, "ARABIC LIGATURE SHADDA WITH ", "DAMMATAN ISOLATED FORM,KASRATAN ISOLATED FORM"⟩,
    ⟨0xfc60, "ARABIC LIGATURE SHADDA WITH ", "FATHA ISOLATED FORM,DAMMA ISOLATED FORM"⟩,
    ⟨0xfc62, "ARABIC LIGATURE SHADDA WITH ", "KASRA ISOLATED FORM,SUPERSCRIPT ALEF ISOLATED FORM"⟩,
    ⟨0xfc64, "ARABIC LIGATURE YEH WITH HAMZA ABOVE WITH ", "REH FINAL FORM,ZAIN FINAL FORM"⟩,
    ⟨0xfc66, "ARABIC LIGATURE YEH WITH HAMZA ABOVE WITH ", "MEEM FINAL FORM,NOON FINAL FORM"⟩,
    ⟨0xfc68, "", "ARABIC LIGATURE YEH WITH HAMZA ABOVE WITH ALEF MAKSURA FINAL FORM"⟩,
    ⟨0xfc69, "", "ARABIC LIGATURE YEH WITH HAMZA ABOVE WITH YEH FINAL FORM"⟩,
    ⟨0xfc6a, "ARABIC LIGATURE BEH WITH ", "REH FINAL FORM,ZAIN FINAL FORM,MEEM FINAL FORM"⟩,
    ⟨0xfc6d, "ARABIC LIGATURE BEH WITH ", "NOON FINAL FORM,ALEF MAKSURA FINAL FORM,YEH FINAL FORM"⟩,
    ⟨0xfc70, "ARABIC LIGATURE TEH WITH ", "REH FINAL FORM,ZAIN FINAL FORM,MEEM FINAL FORM"⟩,
    ⟨0xfc73, "ARABIC LIGATURE TEH WITH ", "NOON FINAL FORM,ALEF MAKSURA FINAL FORM,YEH FINAL FORM"⟩,
    ⟨0xfc76, "", "ARABIC LIGATURE THEH WITH REH FINAL FORM"⟩,
    ⟨0xfc77, "ARABIC LIGATURE THEH WITH ", "ZAIN FINAL FORM,MEEM FINAL FORM,NOON FINAL FORM"⟩,
    ⟨0xfc7a, "ARABIC LIGATURE THEH WITH ", "ALEF MAKSURA FINAL FORM,YEH FINAL FORM"⟩,
    ⟨0xfc7c, "ARABIC LIGATURE FEH WITH ", "ALEF MAKSURA FINAL FORM,YEH FINAL FORM"⟩,
    ⟨0xfc7e, "ARABIC LIGATURE QAF WITH ", "ALEF MAKSURA FINAL FORM,YEH FINAL FORM"⟩,
    ⟨0xfc80, "ARABIC LIGATURE KAF WITH ", "ALEF FINAL FORM,LAM FINAL FORM"⟩,
    ⟨0xfc82, "ARABIC LIGATURE KAF WITH ", "MEEM FINAL FORM,ALEF MAKSURA FINAL FORM,YEH FINAL FORM"⟩,
    ⟨0xfc85, "ARABIC LIGATURE LAM WITH ", "MEEM FINAL FORM,ALEF MAKSURA FINAL FORM,YEH FINAL FORM"⟩,
    ⟨0xfc88, "ARABIC LIGATURE MEEM WITH ", "ALEF FINAL FORM,MEEM FINAL FORM"⟩,
    ⟨0xfc8a, "", "ARABIC LIGATURE NOON WITH REH FINAL FORM"⟩,
    ⟨0xfc8b, "ARABIC LIGATURE NOON WITH ", "ZAIN FINAL FORM,MEEM FINAL FORM,NOON FINAL FORM"⟩,
    ⟨0xfc8e, "ARABIC LIGATURE NOON WITH ", "ALEF MAKSURA FINAL FORM,YEH FINAL FORM"⟩,
    ⟨0xfc90, "", "ARABIC LIGATURE ALEF MAKSURA WITH SUPERSCRIPT ALEF FINAL FORM"⟩,
    ⟨0xfc91, "ARABIC LIGATURE YEH WITH ", "REH FINAL FORM,ZAIN FINAL FORM,MEEM FINAL FORM"⟩,
    ⟨0xfc94, "ARABIC LIGATURE YEH WITH ", "NOON FINAL FORM,ALEF MAKSURA FINAL FORM"⟩,
    ⟨0xfc96, "ARABIC LIGATURE YEH WITH ", "YEH FINAL FORM,HAMZA ABOVE WITH JEEM INITIAL FORM"⟩,
    ⟨0xfc98, "ARABIC LIGATURE YEH WITH HAMZA ABOVE WITH ", "HAH INITIAL FORM,KHAH INITIAL FORM"⟩,
    ⟨0xfc9a, "ARABIC LIGATURE YEH WITH HAMZA ABOVE WITH ", "MEEM INITIAL FORM,HEH INITIAL FORM"⟩,
    ⟨0xfc9c, "ARABIC LIGATURE BEH WITH ", "JEEM INITIAL FORM,HAH INITIAL FORM"⟩,
    ⟨0xfc9e, "ARABIC LIGATURE BEH WITH ", "KHAH INITIAL FORM,MEEM INITIAL FORM,HEH INITIAL FORM"⟩,
    ⟨0xfca1, "ARABIC LIGATURE TEH WITH ", "JEEM INITIAL FORM,HAH INITIAL FORM"⟩,
    ⟨0xfca3, "ARABIC LIGATURE TEH WITH ", "KHAH INITIAL FORM,MEEM INITIAL FORM,HEH INITIAL FORM"⟩,
    ⟨0xfca6, "ARABIC LIGATURE ", "THEH WITH MEEM INITIAL FORM,JEEM WITH HAH INITIAL FORM"⟩,
    ⟨0xfca8, "ARABIC LIGATURE ", "JEEM WITH MEEM INITIAL FORM,HAH WITH JEEM INITIAL FORM"⟩,
    ⟨0xfcaa, "ARABIC LIGATURE ", "HAH WITH MEEM INITIAL FORM,KHAH WITH JEEM INITIAL FORM"⟩,
    ⟨0xfcac, "ARABIC LIGATURE ", "KHAH WITH MEEM INITIAL FORM,SEEN WITH JEEM INITIAL FORM"⟩,
    ⟨0xfcae, "ARABIC LIGATURE SEEN WITH ", "HAH INITIAL FORM,KHAH INITIAL FORM,MEEM INITIAL FORM"⟩,
    ⟨0xfcb1, "ARABIC LIGATURE SAD WITH ", "HAH INITIAL FORM,KHAH INITIAL FORM,MEEM INITIAL FORM"⟩,
    ⟨0xfcb4, "ARABIC LIGATURE DAD WITH ", "JEEM INITIAL FORM,HAH INITIAL FORM,KHAH INITIAL FORM"⟩,
    ⟨0xfcb7, "ARABIC LIGATURE ", "DAD WITH MEEM INITIAL FORM,TAH WITH HAH INITIAL FORM"⟩,
    ⟨0xfcb9, "ARABIC LIGATURE ", "ZAH WITH MEEM INITIAL FORM,AIN WITH JEEM INITIAL FORM"⟩,
    ⟨0xfcbb, "ARABIC LIGATURE ", "AIN WITH MEEM INITIAL FORM,GHAIN WITH JEEM INITIAL FORM"⟩,
    ⟨0xfcbd, "ARABIC LIGATURE ", "GHAIN WITH MEEM INITIAL FORM,FEH WITH JEEM INITIAL FORM"⟩,
    ⟨0xfcbf, "ARABIC LIGATURE FEH WITH ", "HAH INITIAL FORM,KHAH INITIAL FORM,MEEM INITIAL FORM"⟩,
    ⟨0xfcc2, "ARABIC LIGATURE QAF WITH ", "HAH INITIAL FORM,MEEM INITIAL FORM"⟩,
    ⟨0xfcc4, "ARABIC LIGATURE KAF WITH ", "JEEM INITIAL FORM,HAH INITIAL FORM"⟩,
    ⟨0xfcc6, "ARABIC LIGATURE KAF WITH ", "KHAH INITIAL FORM,LAM INITIAL FORM,MEEM INITIAL FORM"⟩,
    ⟨0xfcc9, "ARABIC LIGATURE LAM WITH ", "JEEM INITIAL FORM,HAH INITIAL FORM"⟩,
    ⟨0xfccb, "ARABIC LIGATURE LAM WITH ", "KHAH INITIAL FORM,MEEM INITIAL FORM,HEH INITIAL FORM"⟩,
    ⟨0xfcce, "ARABIC LIGATURE MEEM WITH ", "JEEM INITIAL FORM,HAH INITIAL FORM,KHAH INITIAL FORM"⟩,
    ⟨0xfcd1, "ARABIC LIGATURE ", "MEEM WITH MEEM INITIAL FORM,NOON WITH JEEM INITIAL FORM"⟩,
    ⟨0xfcd3, "ARABIC LIGATURE NOON WITH ", "HAH INITIAL FORM,KHAH INITIAL FORM,MEEM INITIAL FORM"⟩,
    ⟨0xfcd6, "ARABIC LIGATURE ", "NOON WITH HEH INITIAL FORM,HEH WITH JEEM INITIAL FORM"⟩,
    ⟨0xfcd8, "ARABIC LIGATURE HEH WITH ", "MEEM INITIAL FORM,SUPERSCRIPT ALEF INITIAL FORM"⟩,
    ⟨0xfcda, "ARABIC LIGATURE YEH WITH ", "JEEM INITIAL FORM,HAH INITIAL FORM"⟩,
    ⟨0xfcdc, "ARABIC LIGATURE YEH WITH ", "KHAH INITIAL FORM,MEEM INITIAL FORM,HEH INITIAL FORM"⟩,
    ⟨0xfcdf, "ARABIC LIGATURE YEH WITH HAMZA ABOVE WITH ", "MEEM MEDIAL FORM,HEH MEDIAL FORM"⟩,
    ⟨0xfce1, "ARABIC LIGATURE BEH WITH ", "MEEM MEDIAL FORM,HEH MEDIAL FORM"⟩,
    ⟨0xfce3, "ARABIC LIGATURE TEH WITH ", "MEEM MEDIAL FORM,HEH MEDIAL FORM"⟩,
    ⟨0xfce5, "ARABIC LIGATURE THEH WITH ", "MEEM MEDIAL FORM,HEH MEDIAL FORM"⟩,
    ⟨0xfce7, "ARABIC LIGATURE SEEN WITH ", "MEEM MEDIAL FORM,HEH MEDIAL FORM"⟩,
    ⟨0xfce9, "ARABIC LIGATURE SHEEN WITH ", "MEEM MEDIAL FORM,HEH MEDIAL FORM"⟩,
    ⟨0xfceb, "ARABIC LIGATURE KAF WITH ", "LAM MEDIAL FORM,MEEM MEDIAL FORM"⟩,
    ⟨0xfced, "ARABIC LIGATURE ", "LAM WITH MEEM MEDIAL FORM,NOON WITH MEEM MEDIAL FORM"⟩,
    ⟨0xfcef, "ARABIC LIGATURE ", "NOON WITH HEH MEDIAL FORM,YEH WITH MEEM MEDIAL FORM"⟩,
    ⟨0xfcf1, "ARABIC LIGATURE ", "YEH WITH HEH MEDIAL FORM,SHADDA WITH FATHA MEDIAL FORM"⟩,
    ⟨0xfcf3, "ARABIC LIGATURE SHADDA WITH ", "DAMMA MEDIAL FORM,KASRA MEDIAL FORM"⟩,
    ⟨0xfcf5, "ARABIC LIGATURE TAH WITH ", "ALEF MAKSURA ISOLATED FORM,YEH ISOLATED FORM"⟩,
    ⟨0xfcf7, "ARABIC LIGATURE AIN WITH ", "ALEF MAKSURA ISOLATED FORM,YEH ISOLATED FORM"⟩,
    ⟨0xfcf9, "ARABIC LIGATURE GHAIN WITH ", "ALEF MAKSURA ISOLATED FORM,YEH ISOLATED FORM"⟩,
    ⟨0xfcfb, "ARABIC LIGATURE SEEN WITH ", "ALEF MAKSURA ISOLATED FORM,YEH ISOLATED FORM"⟩,
    ⟨0xfcfd, "ARABIC LIGATURE SHEEN WITH ", "ALEF MAKSURA ISOLATED FORM,YEH ISOLATED FORM"⟩,
    ⟨0xfcff, "ARABIC LIGATURE HAH WITH ", "ALEF MAKSURA ISOLATED FORM,YEH ISOLATED FORM"⟩,
    ⟨0xfd01, "ARABIC LIGATURE JEEM WITH ", "ALEF MAKSURA ISOLATED FORM,YEH ISOLATED FORM"⟩,
    ⟨0xfd03, "ARABIC LIGATURE KHAH WITH ", "ALEF MAKSURA ISOLATED FORM,YEH ISOLATED FORM"⟩,
    ⟨0xfd05, "ARABIC LIGATURE SAD WITH ", "ALEF MAKSURA ISOLATED FORM,YEH ISOLATED FORM"⟩,
    ⟨0xfd07, "ARABIC LIGATURE DAD WITH ", "ALEF MAKSURA ISOLATED FORM,YEH ISOLATED FORM"⟩,
    ⟨0xfd09, "ARABIC LIGATURE SHEEN WITH ", "JEEM ISOLATED FORM,HAH ISOLATED FORM"⟩,
    ⟨0xfd0b, "ARABIC LIGATURE SHEEN WITH ", "KHAH ISOLATED FORM,MEEM ISOLATED FORM"⟩,
    ⟨0xfd0d, "ARABIC LIGATURE ", "SHEEN WITH REH ISOLATED FORM,SEEN WITH REH ISOLATED FORM"⟩,
    ⟨0xfd0f, "ARABIC LIGATURE ", "SAD WITH REH ISOLATED FORM,DAD WITH REH ISOLATED FORM"⟩,
    ⟨0xfd11, "ARABIC LIGATURE TAH WITH ", "ALEF MAKSURA FINAL FORM,YEH FINAL FORM"⟩,
    ⟨0xfd13, "ARABIC LIGATURE AIN WITH ", "ALEF MAKSURA FINAL FORM,YEH FINAL FORM"⟩,
    ⟨0xfd15, "ARABIC LIGATURE GHAIN WITH ", "ALEF MAKSURA FINAL FORM,YEH FINAL FORM"⟩,
    ⟨0xfd17, "ARABIC LIGATURE SEEN WITH ", "ALEF MAKSURA FINAL FORM,YEH FINAL FORM"⟩,
    ⟨0xfd19, "ARABIC LIGATURE SHEEN WITH ", "ALEF MAKSURA FINAL FORM,YEH FINAL FORM"⟩,
    ⟨0xfd1b, "ARABIC LIGATURE HAH WITH ", "ALEF MAKSURA FINAL FORM,YEH FINAL FORM"⟩,
    ⟨0xfd1d, "ARABIC LIGATURE JEEM WITH ", "ALEF MAKSURA FINAL FORM,YEH FINAL FORM"⟩,
    ⟨0xfd1f, "ARABIC LIGATURE KHAH WITH ", "ALEF MAKSURA FINAL FORM,YEH FINAL FORM"⟩,
    ⟨0xfd21, "ARABIC LIGATURE SAD WITH ", "ALEF MAKSURA FINAL FORM,YEH FINAL FORM"⟩,
    ⟨0xfd23, "ARABIC LIGATURE DAD WITH ", "ALEF MAKSURA FINAL FORM,YEH FINAL FORM"⟩,
    ⟨0xfd25, "ARABIC LIGATURE SHEEN WITH ", "JEEM FINAL FORM,HAH FINAL FORM"⟩,
    ⟨0xfd27, "ARABIC LIGATURE SHEEN WITH ", "KHAH FINAL FORM,MEEM FINAL FORM,REH FINAL FORM"⟩,
    ⟨0xfd2a, "", "ARABIC LIGATURE SEEN WITH REH FINAL FORM"⟩,
    ⟨0xfd2b, "ARABIC LIGATURE ", "SAD WITH REH FINAL FORM,DAD WITH REH FINAL FORM"⟩,
    ⟨0xfd2d, "ARABIC LIGATURE SHEEN WITH ", "JEEM INITIAL FORM,HAH INITIAL FORM,KHAH INITIAL FORM"⟩,
    ⟨0xfd30, "ARABIC LIGATURE ", "SHEEN WITH MEEM INITIAL FORM,SEEN WITH HEH INITIAL FORM"⟩,
    ⟨0xfd32, "ARABIC LIGATURE ", "SHEEN WITH HEH INITIAL FORM,TAH WITH MEEM INITIAL FORM"⟩,
    ⟨0xfd34, "ARABIC LIGATURE SEEN WITH ", "JEEM MEDIAL FORM,HAH MEDIAL FORM,KHAH MEDIAL FORM"⟩,
    ⟨0xfd37, "ARABIC LIGATURE SHEEN WITH ", "JEEM MEDIAL FORM,HAH MEDIAL FORM,KHAH MEDIAL FORM"⟩,
    ⟨0xfd3a, "ARABIC LIGATURE ", "TAH WITH MEEM MEDIAL FORM,ZAH WITH MEEM MEDIAL FORM"⟩,
    ⟨0xfd3c, "ARABIC LIGATURE ALEF WITH FATHATAN ", "FINAL FORM,ISOLATED FORM"⟩,
    ⟨0xfd3e, "ORNATE ", "LEFT PARENTHESIS,RIGHT PARENTHESIS"⟩,
    ⟨0xfd40, "", "ARABIC LIGATURE RAHIMAHU ALLAAH"⟩,
    ⟨0xfd41, "ARABIC LIGATURE RADI ALLAAHU ", "ANH,ANHAA,ANHUM,ANHUMAA,ANHUNNA"⟩,
    ⟨0xfd46, "ARABIC LIGATURE ", "SALLALLAAHU ALAYHI WA-AALIH,ALAYHI AS-SALAAM,ALAYHIM AS-SALAAM"⟩,
    ⟨0xfd49, "ARABIC LIGATURE ", "ALAYHIMAA AS-SALAAM,ALAYHI AS-SALAATU WAS-SALAAM"⟩,
    ⟨0xfd4b, "ARABIC LIGATURE ", "QUDDISA SIRRAH,SALLALLAHU ALAYHI WAAALIHEE WA-SALLAM"⟩,
    ⟨0xfd4d, "ARABIC LIGATURE ", "ALAYHAA AS-SALAAM,TABAARAKA WA-TAAALAA"⟩,
    ⟨0xfd4f, "ARABIC LIGATURE ", "RAHIMAHUM ALLAAH,TEH WITH JEEM WITH MEEM INITIAL FORM"⟩,
    ⟨0xfd51, "ARABIC LIGATURE TEH WITH HAH WITH JEEM ", "FINAL FORM,INITIAL FORM"⟩,
    ⟨0xfd53, "ARABIC LIGATURE TEH WITH ", "HAH WITH MEEM INITIAL FORM,KHAH WITH MEEM INITIAL FORM"⟩,
    ⟨0xfd55, "", "ARABIC LIGATURE TEH WITH MEEM WITH JEEM INITIAL FORM"⟩,
    ⟨0xfd56, "ARABIC LIGATURE TEH WITH MEEM WITH ", "HAH INITIAL FORM,KHAH INITIAL FORM"⟩,
    ⟨0xfd58, "ARABIC LIGATURE JEEM WITH MEEM WITH HAH ", "FINAL FORM,INITIAL FORM"⟩,
    ⟨0xfd5a, "ARABIC LIGATURE HAH WITH MEEM WITH ", "YEH FINAL FORM,ALEF MAKSURA FINAL FORM"⟩,
    ⟨0xfd5c, "", "ARABIC LIGATURE SEEN WITH HAH WITH JEEM INITIAL FORM"⟩,
    ⟨0xfd5d, "ARABIC LIGATURE SEEN WITH JEEM WITH ", "HAH INITIAL FORM,ALEF MAKSURA FINAL FORM"⟩,
    ⟨0xfd5f, "ARABIC LIGATURE SEEN WITH MEEM WITH HAH ", "FINAL FORM,INITIAL FORM"⟩,
    ⟨0xfd61, "", "ARABIC LIGATURE SEEN WITH MEEM WITH JEEM INITIAL FORM"⟩,
    ⟨0xfd62, "ARABIC LIGATURE SEEN WITH MEEM WITH MEEM ", "FINAL FORM,INITIAL FORM"⟩,
    ⟨0xfd64, "ARABIC LIGATURE SAD WITH HAH WITH HAH ", "FINAL FORM,INITIAL FORM"⟩,
    ⟨0xfd66, "", "ARABIC LIGATURE SAD WITH MEEM WITH MEEM FINAL FORM"⟩,
    ⟨0xfd67, "ARABIC LIGATURE SHEEN WITH HAH WITH MEEM ", "FINAL FORM,INITIAL FORM"⟩,
    ⟨0xfd69, "", "ARABIC LIGATURE SHEEN WITH JEEM WITH YEH FINAL FORM"⟩,
    ⟨0xfd6a, "ARABIC LIGATURE SHEEN WITH MEEM WITH KHAH ", "FINAL FORM,INITIAL FORM"⟩,
    ⟨0xfd6c, "ARABIC LIGATURE SHEEN WITH MEEM WITH MEEM ", "FINAL FORM,INITIAL FORM"⟩,
    ⟨0xfd6e, "", "ARABIC LIGATURE DAD WITH HAH WITH ALEF MAKSURA FINAL FORM"⟩,
    ⟨0xfd6f, "ARABIC LIGATURE DAD WITH KHAH WITH MEEM ", "FINAL FORM,INITIAL FORM"⟩,
    ⟨0xfd71, "ARABIC LIGATURE TAH WITH MEEM WITH HAH ", "FINAL FORM,INITIAL FORM"⟩,
    ⟨0xfd73, "ARABIC LIGATURE TAH WITH MEEM WITH ", "MEEM INITIAL FORM,YEH FINAL FORM"⟩,
    ⟨0xfd75, "ARABIC LIGATURE AIN WITH ", "JEEM WITH MEEM FINAL FORM,MEEM WITH MEEM FINAL FORM"⟩,
    ⟨0xfd77, "ARABIC LIGATURE AIN WITH MEEM WITH ", "MEEM INITIAL FORM,ALEF MAKSURA FINAL FORM"⟩,
    ⟨0xfd79, "", "ARABIC LIGATURE GHAIN WITH MEEM WITH MEEM FINAL FORM"⟩,
    ⟨0xfd7a, "ARABIC LIGATURE GHAIN WITH MEEM WITH ", "YEH FINAL FORM,ALEF MAKSURA FINAL FORM"⟩,
    ⟨0xfd7c, "ARABIC LIGATURE FEH WITH KHAH WITH MEEM ", "FINAL FORM,INITIAL FORM"⟩,
    ⟨0xfd7e, "ARABIC LIGATURE QAF WITH MEEM WITH ", "HAH FINAL FORM,MEEM FINAL FORM"⟩,
    ⟨0xfd80, "", "ARABIC LIGATURE LAM WITH HAH WITH MEEM FINAL FORM"⟩,
    ⟨0xfd81, "ARABIC LIGATURE LAM WITH HAH WITH ", "YEH FINAL FORM,ALEF MAKSURA FINAL FORM"⟩,
    ⟨0xfd83, "ARABIC LIGATURE LAM WITH JEEM WITH JEEM ", "INITIAL FORM,FINAL FORM"⟩,
    ⟨0xfd85, "ARABIC LIGATURE LAM WITH KHAH WITH MEEM ", "FINAL FORM,INITIAL FORM"⟩,
    ⟨0xfd87, "ARABIC LIGATURE LAM WITH MEEM WITH HAH ", "FINAL FORM,INITIAL FORM"⟩,
    ⟨0xfd89, "", "ARABIC LIGATURE MEEM WITH HAH WITH JEEM INITIAL FORM"⟩,
    ⟨0xfd8a, "ARABIC LIGATURE MEEM WITH HAH WITH ", "MEEM INITIAL FORM,YEH FINAL FORM"⟩,
    ⟨0xfd8c, "ARABIC LIGATURE MEEM WITH JEEM WITH ", "HAH INITIAL FORM,MEEM INITIAL FORM"⟩,
    ⟨0xfd8e, "ARABIC LIGATURE MEEM WITH KHAH WITH ", "JEEM INITIAL FORM,MEEM INITIAL FORM"⟩,
    ⟨0xfd92, "", "ARABIC LIGATURE MEEM WITH JEEM WITH KHAH INITIAL FORM"⟩,
    ⟨0xfd93, "ARABIC LIGATURE HEH WITH MEEM WITH ", "JEEM INITIAL FORM,MEEM INITIAL FORM"⟩,
    ⟨0xfd95, "ARABIC LIGATURE NOON WITH HAH WITH ", "MEEM INITIAL FORM,ALEF MAKSURA FINAL FORM"⟩,
    ⟨0xfd97, "ARABIC LIGATURE NOON WITH JEEM WITH MEEM ", "FINAL FORM,INITIAL FORM"⟩,
    ⟨0xfd99, "", "ARABIC LIGATURE NOON WITH JEEM WITH ALEF MAKSURA FINAL FORM"⟩,
    ⟨0xfd9a, "ARABIC LIGATURE NOON WITH MEEM WITH ", "YEH FINAL FORM,ALEF MAKSURA FINAL FORM"⟩,
    ⟨0xfd9c, "ARABIC LIGATURE YEH WITH MEEM WITH MEEM ", "FINAL FORM,INITIAL FORM"⟩,
    ⟨0xfd9e, "", "ARABIC LIGATURE BEH WITH KHAH WITH YEH FINAL FORM"⟩,
    ⟨0xfd9f, "ARABIC LIGATURE TEH WITH JEEM WITH ", "YEH FINAL FORM,ALEF MAKSURA FINAL FORM"⟩,
    ⟨0xfda1, "ARABIC LIGATURE TEH WITH KHAH WITH ", "YEH FINAL FORM,ALEF MAKSURA FINAL FORM"⟩,
    ⟨0xfda3, "ARABIC LIGATURE TEH WITH MEEM WITH ", "YEH FINAL FORM,ALEF MAKSURA FINAL FORM"⟩,
    ⟨0xfda5, "", "ARABIC LIGATURE JEEM WITH MEEM WITH YEH FINAL FORM"⟩,
    ⟨0xfda6, "", "ARABIC LIGATURE JEEM WITH HAH WITH ALEF MAKSURA FINAL FORM"⟩,
    ⟨0xfda7, "", "ARABIC LIGATURE JEEM WITH MEEM WITH ALEF MAKSURA FINAL FORM"⟩,
    ⟨0xfda8, "", "ARABIC LIGATURE SEEN WITH KHAH WITH ALEF MAKSURA FINAL FORM"⟩,
    ⟨0xfda9, "", "ARABIC LIGATURE SAD WITH HAH WITH YEH FINAL FORM"⟩,
    ⟨0xfdaa, "", "ARABIC LIGATURE SHEEN WITH HAH WITH YEH FINAL FORM"⟩,
    ⟨0xfdab, "", "ARABIC LIGATURE DAD WITH HAH WITH YEH FINAL FORM"⟩,
    ⟨0xfdac, "ARABIC LIGATURE LAM WITH ", "JEEM WITH YEH FINAL FORM,MEEM WITH YEH FINAL FORM"⟩,
    ⟨0xfdae, "", "ARABIC LIGATURE YEH WITH HAH WITH YEH FINAL FORM"⟩,
    ⟨0xfdaf, "ARABIC LIGATURE YEH WITH ", "JEEM WITH YEH FINAL FORM,MEEM WITH YEH FINAL FORM"⟩,
    ⟨0xfdb1, "", "ARABIC LIGATURE MEEM WITH MEEM WITH YEH FINAL FORM"⟩,
    ⟨0xfdb2, "", "ARABIC LIGATURE QAF WITH MEEM WITH YEH FINAL FORM"⟩,
    ⟨0xfdb3, "", "ARABIC LIGATURE NOON WITH HAH WITH YEH FINAL FORM"⟩,
    ⟨0xfdb4, "", "ARABIC LIGATURE QAF WITH MEEM WITH HAH INITIAL FORM"⟩,
    ⟨0xfdb5, "", "ARABIC LIGATURE LAM WITH HAH WITH MEEM INITIAL FORM"⟩,
    ⟨0xfdb6, "", "ARABIC LIGATURE AIN WITH MEEM WITH YEH FINAL FORM"⟩,
    ⟨0xfdb7, "", "ARABIC LIGATURE KAF WITH MEEM WITH YEH FINAL FORM"⟩,
    ⟨0xfdb8, "", "ARABIC LIGATURE NOON WITH JEEM WITH HAH INITIAL FORM"⟩,
    ⟨0xfdb9, "", "ARABIC LIGATURE MEEM WITH KHAH WITH YEH FINAL FORM"⟩,
    ⟨0xfdba, "", "ARABIC LIGATURE LAM WITH JEEM WITH MEEM INITIAL FORM"⟩,
    ⟨0xfdbb, "", "ARABIC LIGATURE KAF WITH MEEM WITH MEEM FINAL FORM"⟩,
    ⟨0xfdbc, "", "ARABIC LIGATURE LAM WITH JEEM WITH MEEM FINAL FORM"⟩,
    ⟨0xfdbd, "", "ARABIC LIGATURE NOON WITH JEEM WITH HAH FINAL FORM"⟩,
    ⟨0xfdbe, "", "ARABIC LIGATURE JEEM WITH HAH WITH YEH FINAL FORM"⟩,
    ⟨0xfdbf, "", "ARABIC LIGATURE HAH WITH JEEM WITH YEH FINAL FORM"⟩,
    ⟨0xfdc0, "", "ARABIC LIGATURE MEEM WITH JEEM WITH YEH FINAL FORM"⟩,
    ⟨0xfdc1, "", "ARABIC LIGATURE FEH WITH MEEM WITH YEH FINAL FORM"⟩,
    ⟨0xfdc2, "", "ARABIC LIGATURE BEH WITH HAH WITH YEH FINAL FORM"⟩,
    ⟨0xfdc3, "", "ARABIC LIGATURE KAF WITH MEEM WITH MEEM INITIAL FORM"⟩,
    ⟨0xfdc4, "", "ARABIC LIGATURE AIN WITH JEEM WITH MEEM INITIAL FORM"⟩,
    ⟨0xfdc5, "", "ARABIC LIGATURE SAD WITH MEEM WITH MEEM INITIAL FORM"⟩,
    ⟨0xfdc6, "", "ARABIC LIGATURE SEEN WITH KHAH WITH YEH FINAL FORM"⟩,
    ⟨0xfdc7, "ARABIC LIGATURE ", "NOON WITH JEEM WITH YEH FINAL FORM,,,,,,,,SALAAMUHU ALAYNAA"⟩,
    ⟨0xfdf0, "", "ARABIC LIGATURE SALLA USED AS KORANIC STOP SIGN ISOLATED FORM"⟩,
    ⟨0xfdf1, "", "ARABIC LIGATURE QALA USED AS KORANIC STOP SIGN ISOLATED FORM"⟩,
    ⟨0xfdf2, "ARABIC LIGATURE ", "ALLAH ISOLATED FORM,AKBAR ISOLATED FORM"⟩,
    ⟨0xfdf4, "ARABIC LIGATURE ", "MOHAMMAD ISOLATED FORM,SALAM ISOLATED FORM,RASOUL ISOLATED FORM"⟩,
    ⟨0xfdf7, "ARABIC LIGATURE ", "ALAYHE ISOLATED FORM,WASALLAM ISOLATED FORM"⟩,
    ⟨0xfdf9, "ARABIC LIGATURE ", "SALLA ISOLATED FORM,SALLALLAHOU ALAYHE WASALLAM,JALLAJALALOUHOU"⟩,
    ⟨0xfdfc, "", "RIAL SIGN,ARABIC LIGATURE BISMILLAH AR-RAHMAN AR-RAHEEM"⟩,
    ⟨0xfdfe, "ARABIC LIGATURE ", "SUBHAANAHU WA TAAALAA,AZZA WA JALL"⟩,
    ⟨0xfe00, "VARIATION SELECTOR-", "1,2,3,4,5,6,7,8,9,10,11,12,13,14,15,16"⟩,
    ⟨0xfe10, "PRESENTATION FORM FOR VERTICAL ", "COMMA,IDEOGRAPHIC COMMA,IDEOGRAPHIC FULL STOP"⟩,
    ⟨0xfe13, "PRESENTATION FORM FOR VERTICAL ", "COLON,SEMICOLON,EXCLAMATION MARK"⟩,
    ⟨0xfe16, "PRESENTATION FORM FOR VERTICAL ", "QUESTION MARK,LEFT WHITE LENTICULAR BRACKET"⟩,
    ⟨0xfe18, "", "PRESENTATION FORM FOR VERTICAL RIGHT WHITE LENTICULAR BRAKCET"⟩,
    ⟨0xfe19, "", "PRESENTATION FORM FOR VERTICAL HORIZONTAL ELLIPSIS"⟩,
    ⟨0xfe20, "COMBINING ", "LIGATURE LEFT HALF,LIGATURE RIGHT HALF,DOUBLE TILDE LEFT HALF"⟩,
    ⟨0xfe23, "COMBINING ", "DOUBLE TILDE RIGHT HALF,MACRON LEFT HALF,MACRON RIGHT HALF"⟩,
    ⟨0xfe26, "COMBINING ", "CONJOINING MACRON,LIGATURE LEFT HALF BELOW,LIGATURE RIGHT HALF BELOW"⟩,
    ⟨0xfe29, "COMBINING ", "TILDE LEFT HALF BELOW,TILDE RIGHT HALF BELOW,MACRON LEFT HALF BELOW"⟩,
    ⟨0xfe2c, "COMBINING ", "MACRON RIGHT HALF BELOW,CONJOINING MACRON BELOW"⟩,
    ⟨0xfe2e, "COMBINING CYRILLIC TITLO ", "LEFT HALF,RIGHT HALF"⟩,
    ⟨0xfe30, "PRESENTATION FORM FOR VERTICAL ", "TWO DOT LEADER,EM DASH"⟩,
    ⟨0xfe32, "PRESENTATION FORM FOR VERTICAL ", "EN DASH,LOW LINE,WAVY LOW LINE,LEFT PARENTHESIS"⟩,
    ⟨0xfe36, "PRESENTATION FORM FOR VERTICAL ", "RIGHT PARENTHESIS,LEFT CURLY BRACKET"⟩,
    ⟨0xfe38, "PRESENTATION FORM FOR VERTICAL ", "RIGHT CURLY BRACKET,LEFT TORTOISE SHELL BRACKET"⟩,
    ⟨0xfe3a, "", "PRESENTATION FORM FOR VERTICAL RIGHT TORTOISE SHELL BRACKET"⟩,
    ⟨0xfe3b, "", "PRESENTATION FORM FOR VERTICAL LEFT BLACK LENTICULAR BRACKET"⟩,
    ⟨0xfe3c, "", "PRESENTATION FORM FOR VERTICAL RIGHT BLACK LENTICULAR BRACKET"⟩,
    ⟨0xfe3d, "", "PRESENTATION FORM FOR VERTICAL LEFT DOUBLE ANGLE BRACKET"⟩,
    ⟨0xfe3e, "PRESENTATION FORM FOR VERTICAL ", "RIGHT DOUBLE ANGLE BRACKET,LEFT ANGLE BRACKET"⟩,
    ⟨0xfe40, "PRESENTATION FORM FOR VERTICAL ", "RIGHT ANGLE BRACKET,LEFT CORNER BRACKET"⟩,
    ⟨0xfe42, "PRESENTATION FORM FOR VERTICAL ", "RIGHT CORNER BRACKET,LEFT WHITE CORNER BRACKET"⟩,
    ⟨0xfe44, "", "PRESENTATION FORM FOR VERTICAL RIGHT WHITE CORNER BRACKET"⟩,
    ⟨0xfe45, "", "SESAME DOT,WHITE SESAME DOT,PRESENTATION FORM FOR VERTICAL LEFT SQUARE BRACKET"⟩,
    ⟨0xfe48, "", "PRESENTATION FORM FOR VERTICAL RIGHT SQUARE BRACKET,DASHED OVERLINE"⟩,
    ⟨0xfe4a, "", "CENTRELINE OVERLINE,WAVY OVERLINE,DOUBLE WAVY OVERLINE,DASHED LOW LINE"⟩,
    ⟨0xfe4e, "", "CENTRELINE LOW LINE,WAVY LOW LINE,SMALL COMMA,SMALL IDEOGRAPHIC COMMA"⟩,
    ⟨0xfe52, "SMALL ", "FULL STOP,,SEMICOLON,COLON,QUESTION MARK,EXCLAMATION MARK,EM DASH"⟩,
    ⟨0xfe59, "SMALL ", "LEFT PARENTHESIS,RIGHT PARENTHESIS,LEFT CURLY BRACKET,RIGHT CURLY BRACKET"⟩,
    ⟨0xfe5d, "SMALL ", "LEFT TORTOISE SHELL BRACKET,RIGHT TORTOISE SHELL BRACKET"⟩,
    ⟨0xfe5f, "SMALL ", "NUMBER SIGN,AMPERSAND,ASTERISK,PLUS SIGN,HYPHEN-MINUS,LESS-THAN SIGN"⟩,
    ⟨0xfe65, "SMALL ", "GREATER-THAN SIGN,EQUALS SIGN,,REVERSE SOLIDUS,DOLLAR SIGN,PERCENT SIGN"⟩,
    ⟨0xfe6b, "", "SMALL COMMERCIAL AT,,,,,ARABIC FATHATAN ISOLATED FORM"⟩,
    ⟨0xfe71, "ARABIC ", "TATWEEL WITH FATHATAN ABOVE,DAMMATAN ISOLATED FORM,TAIL FRAGMENT"⟩,
    ⟨0xfe74, "ARABIC ", "KASRATAN ISOLATED FORM,,FATHA ISOLATED FORM,FATHA MEDIAL FORM"⟩,
    ⟨0xfe78, "ARABIC ", "DAMMA ISOLATED FORM,DAMMA MEDIAL FORM,KASRA ISOLATED FORM"⟩,
    ⟨0xfe7b, "ARABIC ", "KASRA MEDIAL FORM,SHADDA ISOLATED FORM,SHADDA MEDIAL FORM"⟩,
    ⟨0xfe7e, "ARABIC ", "SUKUN ISOLATED FORM,SUKUN MEDIAL FORM,LETTER HAMZA ISOLATED FORM"⟩,
    ⟨0xfe81, "ARABIC LETTER ALEF WITH MADDA ABOVE ", "ISOLATED FORM,FINAL FORM"⟩,
    ⟨0xfe83, "ARABIC LETTER ALEF WITH HAMZA ABOVE ", "ISOLATED FORM,FINAL FORM"⟩,
    ⟨0xfe85, "ARABIC LETTER WAW WITH HAMZA ABOVE ", "ISOLATED FORM,FINAL FORM"⟩,
    ⟨0xfe87, "ARABIC LETTER ALEF WITH HAMZA BELOW ", "ISOLATED FORM,FINAL FORM"⟩,
    ⟨0xfe89, "ARABIC LETTER YEH WITH HAMZA ABOVE ", "ISOLATED FORM,FINAL FORM,INITIAL FORM"⟩,
    ⟨0xfe8c, "ARABIC LETTER ", "YEH WITH HAMZA ABOVE MEDIAL FORM,ALEF ISOLATED FORM"⟩,
    ⟨0xfe8e, "ARABIC LETTER ", "ALEF FINAL FORM,BEH ISOLATED FORM,BEH FINAL FORM,BEH INITIAL FORM"⟩,
    ⟨0xfe92, "ARABIC LETTER ", "BEH MEDIAL FORM,TEH MARBUTA ISOLATED FORM,TEH MARBUTA FINAL FORM"⟩,
    ⟨0xfe95, "ARABIC LETTER TEH ", "ISOLATED FORM,FINAL FORM,INITIAL FORM,MEDIAL FORM"⟩,
    ⟨0xfe99, "ARABIC LETTER THEH ", "ISOLATED FORM,FINAL FORM,INITIAL FORM,MEDIAL FORM"⟩,
    ⟨0xfe9d, "ARABIC LETTER JEEM ", "ISOLATED FORM,FINAL FORM,INITIAL FORM,MEDIAL FORM"⟩,
    ⟨0xfea1, "ARABIC LETTER HAH ", "ISOLATED FORM,FINAL FORM,INITIAL FORM,MEDIAL FORM"⟩,
    ⟨0xfea5, "ARABIC LETTER KHAH ", "ISOLATED FORM,FINAL FORM,INITIAL FORM,MEDIAL FORM"⟩,
    ⟨0xfea9, "ARABIC LETTER ", "DAL ISOLATED FORM,DAL FINAL FORM,THAL ISOLATED FORM"⟩,
    ⟨0xfeac, "ARABIC LETTER ", "THAL FINAL FORM,REH ISOLATED FORM,REH FINAL FORM"⟩,
    ⟨0xfeaf, "ARABIC LETTER ZAIN ", "ISOLATED FORM,FINAL FORM"⟩,
    ⟨0xfeb1, "ARABIC LETTER SEEN ", "ISOLATED FORM,FINAL FORM,INITIAL FORM,MEDIAL FORM"⟩,
    ⟨0xfeb5, "ARABIC LETTER SHEEN ", "ISOLATED FORM,FINAL FORM,INITIAL FORM,MEDIAL FORM"⟩,
    ⟨0xfeb9, "ARABIC LETTER SAD ", "ISOLATED FORM,FINAL FORM,INITIAL FORM,MEDIAL FORM"⟩,
    ⟨0xfebd, "ARABIC LETTER DAD ", "ISOLATED FORM,FINAL FORM,INITIAL FORM,MEDIAL FORM"⟩,
    ⟨0xfec1, "ARABIC LETTER TAH ", "ISOLATED FORM,FINAL FORM,INITIAL FORM,MEDIAL FORM"⟩,
    ⟨0xfec5, "ARABIC LETTER ZAH ", "ISOLATED FORM,FINAL FORM,INITIAL FORM,MEDIAL FORM"⟩,
    ⟨0xfec9, "ARABIC LETTER AIN ", "ISOLATED FORM,FINAL FORM,INITIAL FORM,MEDIAL FORM"⟩,
    ⟨0xfecd, "ARABIC LETTER GHAIN ", "ISOLATED FORM,FINAL FORM,INITIAL FORM,MEDIAL FORM"⟩,
    ⟨0xfed1, "ARABIC LETTER FEH ", "ISOLATED FORM,FINAL FORM,INITIAL FORM,MEDIAL FORM"⟩,
    ⟨0xfed5, "ARABIC LETTER QAF ", "ISOLATED FORM,FINAL FORM,INITIAL FORM,MEDIAL FORM"⟩,
    ⟨0xfed9, "ARABIC LETTER KAF ", "ISOLATED FORM,FINAL FORM,INITIAL FORM,MEDIAL FORM"⟩,
    ⟨0xfedd, "ARABIC LETTER LAM ", "ISOLATED FORM,FINAL FORM,INITIAL FORM,MEDIAL FORM"⟩,
    ⟨0xfee1, "ARABIC LETTER MEEM ", "ISOLATED FORM,FINAL FORM,INITIAL FORM,MEDIAL FORM"⟩,
    ⟨0xfee5, "ARABIC LETTER NOON ", "ISOLATED FORM,FINAL FORM,INITIAL FORM,MEDIAL FORM"⟩,
    ⟨0xfee9, "ARABIC LETTER HEH ", "ISOLATED FORM,FINAL FORM,INITIAL FORM,MEDIAL FORM"⟩,
    ⟨0xfeed, "ARABIC LETTER WAW ", "ISOLATED FORM,FINAL FORM"⟩,
    ⟨0xfeef, "ARABIC LETTER ALEF MAKSURA ", "ISOLATED FORM,FINAL FORM"⟩,
    ⟨0xfef1, "ARABIC LETTER YEH ", "ISOLATED FORM,FINAL FORM,INITIAL FORM,MEDIAL FORM"⟩,
    ⟨0xfef5, "ARABIC LIGATURE LAM WITH ALEF WITH MADDA ABOVE ", "ISOLATED FORM,FINAL FORM"⟩,
    ⟨0xfef7, "ARABIC LIGATURE LAM WITH ALEF WITH HAMZA ABOVE ", "ISOLATED FORM,FINAL FORM"⟩,
    ⟨0xfef9, "ARABIC LIGATURE LAM WITH ALEF WITH HAMZA BELOW ", "ISOLATED FORM,FINAL FORM"⟩,
    ⟨0xfefb, "ARABIC LIGATURE LAM WITH ALEF ", "ISOLATED FORM,FINAL FORM"⟩,
    ⟨0xfeff, "", "ZERO WIDTH NO-BREAK SPACE"⟩,
    ⟨0xff01, "FULLWIDTH ", "EXCLAMATION MARK,QUOTATION MARK,NUMBER SIGN,DOLLAR SIGN"⟩,
    ⟨0xff05, "FULLWIDTH ", "PERCENT SIGN,AMPERSAND,APOSTROPHE,LEFT PARENTHESIS,RIGHT PARENTHESIS"⟩,
    ⟨0xff0a, "FULLWIDTH ", "ASTERISK,PLUS SIGN,COMMA,HYPHEN-MINUS,FULL STOP,SOLIDUS"⟩,
    ⟨0xff10, "FULLWIDTH DIGIT ", "ZERO,ONE,TWO,THREE,FOUR,FIVE,SIX,SEVEN,EIGHT,NINE"⟩,
    ⟨0xff1a, "FULLWIDTH ", "COLON,SEMICOLON,LESS-THAN SIGN"⟩,
    ⟨0xff1d, "FULLWIDTH ", "EQUALS SIGN,GREATER-THAN SIGN,QUESTION MARK,COMMERCIAL AT"⟩,
    ⟨0xff21, "FULLWIDTH LATIN CAPITAL LETTER ", "A,B"⟩,
    ⟨0xff23, "FULLWIDTH LATIN CAPITAL LETTER ", "C,D,E,F,G,H,I,J,K,L,M,N,O,P,Q,R,S,T,U,V,W,X,Y,Z"⟩,
    ⟨0xff3b, "FULLWIDTH ", "LEFT SQUARE BRACKET,REVERSE SOLIDUS,RIGHT SQUARE BRACKET"⟩,
    ⟨0xff3e, "FULLWIDTH ", "CIRCUMFLEX ACCENT,LOW LINE,GRAVE ACCENT,LATIN SMALL LETTER A"⟩,
    ⟨0xff42, "FULLWIDTH LATIN SMALL LETTER ", "B,C,D,E,F,G,H,I,J,K,L,M,N,O,P,Q,R,S,T,U,V,W,X,Y,Z"⟩,
    ⟨0xff5b, "FULLWIDTH ", "LEFT CURLY BRACKET,VERTICAL LINE,RIGHT CURLY BRACKET"⟩,
    ⟨0xff5e, "FULLWIDTH ", "TILDE,LEFT WHITE PARENTHESIS,RIGHT WHITE PARENTHESIS"⟩,
    ⟨0xff61, "HALFWIDTH ", "IDEOGRAPHIC FULL STOP,LEFT CORNER BRACKET,RIGHT CORNER BRACKET"⟩,
    ⟨0xff64, "HALFWIDTH ", "IDEOGRAPHIC COMMA,KATAKANA MIDDLE DOT,KATAKANA LETTER WO"⟩,
    ⟨0xff67, "HALFWIDTH KATAKANA LETTER SMALL ", "A,I,U,E,O,YA,YU,YO,TU"⟩,
    ⟨0xff70, "", "HALFWIDTH KATAKANA-HIRAGANA PROLONGED SOUND MARK"⟩,
    ⟨0xff71, "HALFWIDTH KATAKANA LETTER ", "A,I,U,E,O,KA,KI,KU,KE"⟩,
    ⟨0xff7a, "HALFWIDTH KATAKANA LETTER ", "KO,SA,SI,SU,SE,SO,TA,TI,TU,TE,TO,NA,NI,NU,NE,NO,HA,HI"⟩,
    ⟨0xff8c, "HALFWIDTH KATAKANA LETTER ", "HU,HE,HO,MA,MI,MU,ME,MO,YA,YU,YO,RA,RI,RU,RE,RO,WA,N"⟩,
    ⟨0xff9e, "HALFWIDTH KATAKANA ", "VOICED SOUND MARK,SEMI-VOICED SOUND MARK"⟩,
    ⟨0xffa0, "HALFWIDTH HANGUL ", "FILLER,LETTER KIYEOK,LETTER SSANGKIYEOK,LETTER KIYEOK-SIOS"⟩,
    ⟨0xffa4, "HALFWIDTH HANGUL LETTER ", "NIEUN,NIEUN-CIEUC,NIEUN-HIEUH,TIKEUT,SSANGTIKEUT,RIEUL"⟩,
    ⟨0xffaa, "HALFWIDTH HANGUL LETTER RIEUL-", "KIYEOK,MIEUM,PIEUP,SIOS,THIEUTH,PHIEUPH,HIEUH"⟩,
    ⟨0xffb1, "HALFWIDTH HANGUL LETTER ", "MIEUM,PIEUP,SSANGPIEUP,PIEUP-SIOS,SIOS,SSANGSIOS,IEUNG"⟩,
    ⟨0xffb8, "HALFWIDTH HANGUL LETTER ", "CIEUC,SSANGCIEUC,CHIEUCH,KHIEUKH,THIEUTH,PHIEUPH,HIEUH"⟩,
    ⟨0xffc2, "HALFWIDTH HANGUL LETTER ", "A,AE,YA,YAE,EO,E"⟩,
    ⟨0xffca, "HALFWIDTH HANGUL LETTER ", "YEO,YE,O,WA,WAE,OE,,,YO,U,WEO,WE,WI,YU,,,EU,YI,I"⟩,
    ⟨0xffe0, "FULLWIDTH ", "CENT SIGN,POUND SIGN,NOT SIGN,MACRON,BROKEN BAR,YEN SIGN,WON SIGN"⟩,
    ⟨0xffe8, "HALFWIDTH ", "FORMS LIGHT VERTICAL,LEFTWARDS ARROW,UPWARDS ARROW"⟩,
    ⟨0xffeb, "HALFWIDTH ", "RIGHTWARDS ARROW,DOWNWARDS ARROW,BLACK SQUARE,WHITE CIRCLE"⟩,
    ⟨0xfff9, "INTERLINEAR ANNOTATION ", "ANCHOR,SEPARATOR,TERMINATOR"⟩,
    ⟨0xfffc, "", "OBJECT REPLACEMENT CHARACTER,REPLACEMENT CHARACTER"⟩]

end HttpRouting.Text.CharacterName
