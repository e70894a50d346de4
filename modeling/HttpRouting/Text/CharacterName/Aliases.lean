import HttpRouting.Text.CharacterName.Run

/-!
# Further names of characters

Control characters have no name of their own; they are known by further names, as are
some characters whose names are abbreviated or were corrected.
-/

namespace HttpRouting.Text.CharacterName

def aliases : List Run :=
  [
    ⟨0x0, "", "NUL,SOH,START OF TEXT,END OF TEXT,END OF TRANSMISSION"⟩,
    ⟨0x5, "", "ENQ,ACK,ALERT,BACKSPACE,CHARACTER TABULATION,END OF LINE,LINE TABULATION,FF"⟩,
    ⟨0xd, "", "CARRIAGE RETURN,LOCKING-SHIFT ONE,LOCKING-SHIFT ZERO,DATA LINK ESCAPE,DC1,DC2,DC3"⟩,
    ⟨0x14, "", "DC4,NAK,SYN,END OF TRANSMISSION BLOCK,CAN,END OF MEDIUM,SUB,ESC,FILE SEPARATOR"⟩,
    ⟨0x1d, "", "GROUP SEPARATOR,INFORMATION SEPARATOR TWO,INFORMATION SEPARATOR ONE,SP"⟩,
    ⟨0x7f, "", "DEL,PAD,HIGH OCTET PRESET,BPH,NBH,IND,NEL,SSA,END OF SELECTED AREA"⟩,
    ⟨0x88, "CHARACTER TABULATION ", "SET,WITH JUSTIFICATION"⟩,
    ⟨0x8a, "", "LINE TABULATION SET,PARTIAL LINE DOWN,PARTIAL LINE BACKWARD,REVERSE INDEX"⟩,
    ⟨0x8e, "", "SINGLE SHIFT TWO,SINGLE SHIFT THREE,DCS,PRIVATE USE ONE,PRIVATE USE TWO"⟩,
    ⟨0x93, "", "SET TRANSMIT STATE,CANCEL CHARACTER,MESSAGE WAITING,SPA,END OF GUARDED AREA"⟩,
    ⟨0x98, "", "SOS,SGC,SCI,CONTROL SEQUENCE INTRODUCER,ST,OPERATING SYSTEM COMMAND,PM,APC,NBSP"⟩,
    ⟨0xad, "", "SHY"⟩,
    ⟨0x1a2, "LATIN ", "CAPITAL LETTER GHA,SMALL LETTER GHA"⟩,
    ⟨0x34f, "", "CGJ"⟩,
    ⟨0x61c, "", "ALM"⟩,
    ⟨0x709, "", "SYRIAC SUBLINEAR COLON SKEWED LEFT"⟩,
    ⟨0xcde, "", "KANNADA LETTER LLLA"⟩,
    ⟨0xe9d, "LAO LETTER ", "FO FON,,FO FAY,,,,RO,,LO"⟩,
    ⟨0xfd0, "", "TIBETAN MARK BKA- SHOG GI MGO RGYAN"⟩,
    ⟨0x11ec, "HANGUL JONGSEONG YESIEUNG-", "KIYEOK,SSANGKIYEOK"⟩,
    ⟨0x11ee, "HANGUL JONGSEONG ", "SSANGYESIEUNG,YESIEUNG-KHIEUKH"⟩,
    ⟨0x180b, "", "FVS1,FVS2,FVS3,MVS,FVS4"⟩,
    ⟨0x200b, "", "ZWSP,ZWNJ,ZWJ,LRM,RLM"⟩,
    ⟨0x202a, "", "LRE,RLE,PDF,LRO,RLO,NNBSP"⟩,
    ⟨0x205f, "", "MMSP,WJ,,,,,,LRI,RLI,FSI,PDI"⟩,
    ⟨0x2118, "", "WEIERSTRASS ELLIPTIC FUNCTION"⟩,
    ⟨0x2448, "MICR ", "ON US SYMBOL,DASH SYMBOL"⟩,
    ⟨0x2b7a, "", "LEFTWARDS TRIANGLE-HEADED ARROW WITH DOUBLE VERTICAL STROKE"⟩,
    ⟨0x2b7c, "", "RIGHTWARDS TRIANGLE-HEADED ARROW WITH DOUBLE VERTICAL STROKE"⟩,
    ⟨0xa015, "", "YI SYLLABLE ITERATION MARK"⟩,
    ⟨0xaa6e, "", "MYANMAR LETTER KHAMTI LLA"⟩,
    ⟨0xfe00, "", "VS1,VS2,VS3,VS4,VS5,VS6,VS7,VS8,VS9,VS10,VS11,VS12,VS13,VS14,VS15,VS16"⟩,
    ⟨0xfe18, "", "PRESENTATION FORM FOR VERTICAL RIGHT WHITE LENTICULAR BRACKET"⟩,
    ⟨0xfeff, "", "BOM"⟩,
    ⟨0x122d4, "CUNEIFORM SIGN NU11 ", "TENU,OVER NU11 BUR OVER BUR"⟩,
    ⟨0x16e56, "MEDEFAIDRIN CAPITAL LETTER ", "H,NG"⟩,
    ⟨0x16e76, "MEDEFAIDRIN SMALL LETTER ", "H,NG"⟩,
    ⟨0x1b001, "", "HENTAIGANA LETTER E-1"⟩,
    ⟨0x1d0c5, "", "BYZANTINE MUSICAL SYMBOL FTHORA SKLIRON CHROMA VASIS"⟩,
    ⟨0xe0100, "", "VS17,VS18,VS19,VS20,VS21,VS22,VS23,VS24,VS25"⟩,
    ⟨0xe0109, "", "VS26,VS27,VS28,VS29,VS30,VS31,VS32,VS33,VS34,VS35,VS36,VS37,VS38,VS39,VS40"⟩,
    ⟨0xe0118, "", "VS41,VS42,VS43,VS44,VS45,VS46,VS47,VS48,VS49,VS50,VS51,VS52,VS53,VS54,VS55"⟩,
    ⟨0xe0127, "", "VS56,VS57,VS58,VS59,VS60,VS61,VS62,VS63,VS64,VS65,VS66,VS67,VS68,VS69,VS70"⟩,
    ⟨0xe0136, "", "VS71,VS72,VS73,VS74,VS75,VS76,VS77,VS78,VS79,VS80,VS81,VS82,VS83,VS84,VS85"⟩,
    ⟨0xe0145, "", "VS86,VS87,VS88,VS89,VS90,VS91,VS92,VS93,VS94,VS95,VS96,VS97,VS98,VS99,VS100"⟩,
    ⟨0xe0154, "", "VS101,VS102,VS103,VS104,VS105,VS106,VS107,VS108,VS109,VS110,VS111,VS112,VS113"⟩,
    ⟨0xe0161, "", "VS114,VS115,VS116,VS117,VS118,VS119,VS120,VS121,VS122,VS123,VS124,VS125,VS126"⟩,
    ⟨0xe016e, "", "VS127,VS128,VS129,VS130,VS131,VS132,VS133,VS134,VS135,VS136,VS137,VS138,VS139"⟩,
    ⟨0xe017b, "", "VS140,VS141,VS142,VS143,VS144,VS145,VS146,VS147,VS148,VS149,VS150,VS151,VS152"⟩,
    ⟨0xe0188, "", "VS153,VS154,VS155,VS156,VS157,VS158,VS159,VS160,VS161,VS162,VS163,VS164,VS165"⟩,
    ⟨0xe0195, "", "VS166,VS167,VS168,VS169,VS170,VS171,VS172,VS173,VS174,VS175,VS176,VS177,VS178"⟩,
    ⟨0xe01a2, "", "VS179,VS180,VS181,VS182,VS183,VS184,VS185,VS186,VS187,VS188,VS189,VS190,VS191"⟩,
    ⟨0xe01af, "", "VS192,VS193,VS194,VS195,VS196,VS197,VS198,VS199,VS200,VS201,VS202,VS203,VS204"⟩,
    ⟨0xe01bc, "", "VS205,VS206,VS207,VS208,VS209,VS210,VS211,VS212,VS213,VS214,VS215,VS216,VS217"⟩,
    ⟨0xe01c9, "", "VS218,VS219,VS220,VS221,VS222,VS223,VS224,VS225,VS226,VS227,VS228,VS229,VS230"⟩,
    ⟨0xe01d6, "", "VS231,VS232,VS233,VS234,VS235,VS236,VS237,VS238,VS239,VS240,VS241,VS242,VS243"⟩,
    ⟨0xe01e3, "", "VS244,VS245,VS246,VS247,VS248,VS249,VS250,VS251,VS252,VS253,VS254,VS255,VS256"⟩,
    ⟨0x0, "", "NULL,START OF HEADING,STX,ETX,EOT,ENQUIRY,ACKNOWLEDGE,BEL,BS"⟩,
    ⟨0x9, "", "HORIZONTAL TABULATION,EOL,VERTICAL TABULATION,FORM FEED,CR,SHIFT OUT,SHIFT IN,DLE"⟩,
    ⟨0x11, "DEVICE CONTROL ", "ONE,TWO,THREE,FOUR"⟩,
    ⟨0x15, "", "NEGATIVE ACKNOWLEDGE,SYNCHRONOUS IDLE"⟩,
    ⟨0x17, "", "ETB,CANCEL,EOM,SUBSTITUTE,ESCAPE,FS,GS,RECORD SEPARATOR,UNIT SEPARATOR"⟩,
    ⟨0x7f, "", "DELETE,PADDING CHARACTER"⟩,
    ⟨0x81, "", "HOP,BREAK PERMITTED HERE,NO BREAK HERE,INDEX,NEXT LINE,START OF SELECTED AREA,ESA"⟩,
    ⟨0x88, "HORIZONTAL TABULATION ", "SET,WITH JUSTIFICATION"⟩,
    ⟨0x8a, "", "VERTICAL TABULATION SET,PARTIAL LINE FORWARD,PARTIAL LINE UP,REVERSE LINE FEED"⟩,
    ⟨0x8e, "", "SINGLE-SHIFT-2,SINGLE-SHIFT-3,DEVICE CONTROL STRING,PRIVATE USE-1,PRIVATE USE-2"⟩,
    ⟨0x93, "", "STS,CCH,MW,START OF GUARDED AREA,END OF PROTECTED AREA,START OF STRING"⟩,
    ⟨0x99, "SINGLE ", "GRAPHIC CHARACTER INTRODUCER,CHARACTER INTRODUCER"⟩,
    ⟨0x9b, "", "CSI,STRING TERMINATOR,OSC,PRIVACY MESSAGE,APPLICATION PROGRAM COMMAND"⟩,
    ⟨0xfeff, "", "BYTE ORDER MARK"⟩,
    ⟨0x9, "", "HT,LF,VT,,,SO,SI"⟩,
    ⟨0x1c, "", "INFORMATION SEPARATOR FOUR,INFORMATION SEPARATOR THREE,RS,US"⟩,
    ⟨0x88, "", "HTS,HTJ,VTS,PLD,PLU,RI,SS2,SS3,,PU1,PU2,,,,START OF PROTECTED AREA,EPA"⟩,
    ⟨0xfeff, "", "ZWNBSP"⟩,
    ⟨0x9, "", "TAB,LINE FEED"⟩,
    ⟨0xa, "", "NEW LINE"⟩,
    ⟨0xa, "", "NL"⟩]

end HttpRouting.Text.CharacterName
