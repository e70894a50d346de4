import HttpRouting.Text.CharacterName.Run

/-!
# Names of punctuation, signs and shapes

The names from U+2000 to U+2BFF in the Unicode standard.
-/

namespace HttpRouting.Text.CharacterName

def symbols : List Run :=
  [
    ⟨0x2000, "", "EN QUAD,EM QUAD,EN SPACE,EM SPACE,THREE-PER-EM SPACE,FOUR-PER-EM SPACE"⟩,
    ⟨0x2006, "", "SIX-PER-EM SPACE,FIGURE SPACE,PUNCTUATION SPACE,THIN SPACE,HAIR SPACE"⟩,
    ⟨0x200b, "ZERO WIDTH ", "SPACE,NON-JOINER,JOINER"⟩,
    ⟨0x200e, "", "LEFT-TO-RIGHT MARK,RIGHT-TO-LEFT MARK,HYPHEN,NON-BREAKING HYPHEN"⟩,
    ⟨0x2012, "", "FIGURE DASH,EN DASH,EM DASH,HORIZONTAL BAR,DOUBLE VERTICAL LINE"⟩,
    ⟨0x2017, "", "DOUBLE LOW LINE,LEFT SINGLE QUOTATION MARK,RIGHT SINGLE QUOTATION MARK"⟩,
    ⟨0x201a, "SINGLE ", "LOW-9 QUOTATION MARK,HIGH-REVERSED-9 QUOTATION MARK"⟩,
    ⟨0x201c, "", "LEFT DOUBLE QUOTATION MARK,RIGHT DOUBLE QUOTATION MARK"⟩,
    ⟨0x201e, "DOUBLE ", "LOW-9 QUOTATION MARK,HIGH-REVERSED-9 QUOTATION MARK"⟩,
    ⟨0x2020, "", "DAGGER,DOUBLE DAGGER,BULLET,TRIANGULAR BULLET,ONE DOT LEADER"⟩,
    ⟨0x2025, "", "TWO DOT LEADER,HORIZONTAL ELLIPSIS,HYPHENATION POINT,LINE SEPARATOR"⟩,
    ⟨0x2029, "", "PARAGRAPH SEPARATOR,LEFT-TO-RIGHT EMBEDDING,RIGHT-TO-LEFT EMBEDDING"⟩,
    ⟨0x202c, "", "POP DIRECTIONAL FORMATTING,LEFT-TO-RIGHT OVERRIDE,RIGHT-TO-LEFT OVERRIDE"⟩,
    ⟨0x202f, "", "NARROW NO-BREAK SPACE,PER MILLE SIGN,PER TEN THOUSAND SIGN,PRIME,DOUBLE PRIME"⟩,
    ⟨0x2034, "", "TRIPLE PRIME,REVERSED PRIME,REVERSED DOUBLE PRIME,REVERSED TRIPLE PRIME,CARET"⟩,
    ⟨0x2039, "SINGLE ", "LEFT-POINTING ANGLE QUOTATION MARK,RIGHT-POINTING ANGLE QUOTATION MARK"⟩,
    ⟨0x203b, "", "REFERENCE MARK,DOUBLE EXCLAMATION MARK"⟩,
    ⟨0x203d, "", "INTERROBANG,OVERLINE,UNDERTIE,CHARACTER TIE,CARET INSERTION POINT"⟩,
    ⟨0x2042, "", "ASTERISM,HYPHEN BULLET,FRACTION SLASH,LEFT SQUARE BRACKET WITH QUILL"⟩,
    ⟨0x2046, "", "RIGHT SQUARE BRACKET WITH QUILL,DOUBLE QUESTION MARK,QUESTION EXCLAMATION MARK"⟩,
    ⟨0x2049, "", "EXCLAMATION QUESTION MARK,TIRONIAN SIGN ET,REVERSED PILCROW SIGN"⟩,
    ⟨0x204c, "", "BLACK LEFTWARDS BULLET,BLACK RIGHTWARDS BULLET,LOW ASTERISK,REVERSED SEMICOLON"⟩,
    ⟨0x2050, "", "CLOSE UP,TWO ASTERISKS ALIGNED VERTICALLY,COMMERCIAL MINUS SIGN,SWUNG DASH"⟩,
    ⟨0x2054, "", "INVERTED UNDERTIE,FLOWER PUNCTUATION MARK,THREE DOT PUNCTUATION,QUADRUPLE PRIME"⟩,
    ⟨0x2058, "", "FOUR DOT PUNCTUATION,FIVE DOT PUNCTUATION,TWO DOT PUNCTUATION,FOUR DOT MARK"⟩,
    ⟨0x205c, "", "DOTTED CROSS,TRICOLON,VERTICAL FOUR DOTS,MEDIUM MATHEMATICAL SPACE,WORD JOINER"⟩,
    ⟨0x2061, "", "FUNCTION APPLICATION,INVISIBLE TIMES,INVISIBLE SEPARATOR,INVISIBLE PLUS"⟩,
    ⟨0x2066, "", "LEFT-TO-RIGHT ISOLATE,RIGHT-TO-LEFT ISOLATE,FIRST STRONG ISOLATE"⟩,
    ⟨0x2069, "", "POP DIRECTIONAL ISOLATE,INHIBIT SYMMETRIC SWAPPING,ACTIVATE SYMMETRIC SWAPPING"⟩,
    ⟨0x206c, "", "INHIBIT ARABIC FORM SHAPING,ACTIVATE ARABIC FORM SHAPING,NATIONAL DIGIT SHAPES"⟩,
    ⟨0x206f, "", "NOMINAL DIGIT SHAPES,SUPERSCRIPT ZERO,SUPERSCRIPT LATIN SMALL LETTER I"⟩,
    ⟨0x2074, "SUPERSCRIPT ", "FOUR,FIVE,SIX,SEVEN,EIGHT,NINE,PLUS SIGN,MINUS"⟩,
    ⟨0x207c, "SUPERSCRIPT ", "EQUALS SIGN,LEFT PARENTHESIS,RIGHT PARENTHESIS,LATIN SMALL LETTER N"⟩,
    ⟨0x2080, "SUBSCRIPT ", "ZERO,ONE,TWO,THREE,FOUR,FIVE,SIX,SEVEN,EIGHT"⟩,
    ⟨0x2089, "SUBSCRIPT ", "NINE,PLUS SIGN,MINUS,EQUALS SIGN,LEFT PARENTHESIS,RIGHT PARENTHESIS"⟩,
    ⟨0x2090, "LATIN SUBSCRIPT SMALL LETTER ", "A,E,O,X,SCHWA,H,K,L,M,N,P,S,T"⟩,
    ⟨0x20a0, "", "EURO-CURRENCY SIGN,COLON SIGN,CRUZEIRO SIGN,FRENCH FRANC SIGN"⟩,
    ⟨0x20a4, "", "LIRA SIGN,MILL SIGN,NAIRA SIGN,PESETA SIGN,RUPEE SIGN,WON SIGN,NEW SHEQEL SIGN"⟩,
    ⟨0x20ab, "", "DONG SIGN,EURO SIGN,KIP SIGN,TUGRIK SIGN,DRACHMA SIGN,GERMAN PENNY SIGN"⟩,
    ⟨0x20b1, "", "PESO SIGN,GUARANI SIGN,AUSTRAL SIGN,HRYVNIA SIGN,CEDI SIGN,LIVRE TOURNOIS SIGN"⟩,
    ⟨0x20b7, "", "SPESMILO SIGN,TENGE SIGN,INDIAN RUPEE SIGN,TURKISH LIRA SIGN"⟩,
    ⟨0x20bb, "", "NORDIC MARK SIGN,MANAT SIGN,RUBLE SIGN,LARI SIGN,BITCOIN SIGN,SOM SIGN"⟩,
    ⟨0x20d0, "COMBINING ", "LEFT HARPOON ABOVE,RIGHT HARPOON ABOVE,LONG VERTICAL LINE OVERLAY"⟩,
    ⟨0x20d3, "COMBINING ", "SHORT VERTICAL LINE OVERLAY,ANTICLOCKWISE ARROW ABOVE"⟩,
    ⟨0x20d5, "COMBINING ", "CLOCKWISE ARROW ABOVE,LEFT ARROW ABOVE,RIGHT ARROW ABOVE"⟩,
    ⟨0x20d8, "COMBINING ", "RING OVERLAY,CLOCKWISE RING OVERLAY,ANTICLOCKWISE RING OVERLAY"⟩,
    ⟨0x20db, "COMBINING ", "THREE DOTS ABOVE,FOUR DOTS ABOVE,ENCLOSING CIRCLE,ENCLOSING SQUARE"⟩,
    ⟨0x20df, "COMBINING ", "ENCLOSING DIAMOND,ENCLOSING CIRCLE BACKSLASH,LEFT RIGHT ARROW ABOVE"⟩,
    ⟨0x20e2, "COMBINING ENCLOSING ", "SCREEN,KEYCAP,UPWARD POINTING TRIANGLE"⟩,
    ⟨0x20e5, "COMBINING ", "REVERSE SOLIDUS OVERLAY,DOUBLE VERTICAL STROKE OVERLAY,ANNUITY SYMBOL"⟩,
    ⟨0x20e8, "COMBINING ", "TRIPLE UNDERDOT,WIDE BRIDGE ABOVE,LEFTWARDS ARROW OVERLAY"⟩,
    ⟨0x20eb, "COMBINING ", "LONG DOUBLE SOLIDUS OVERLAY,RIGHTWARDS HARPOON WITH BARB DOWNWARDS"⟩,
    ⟨0x20ed, "", "COMBINING LEFTWARDS HARPOON WITH BARB DOWNWARDS"⟩,
    ⟨0x20ee, "COMBINING ", "LEFT ARROW BELOW,RIGHT ARROW BELOW,ASTERISK ABOVE"⟩,
    ⟨0x2100, "", "ACCOUNT OF,ADDRESSED TO THE SUBJECT,DOUBLE-STRUCK CAPITAL C,DEGREE CELSIUS"⟩,
    ⟨0x2104, "", "CENTRE LINE SYMBOL,CARE OF,CADA UNA,EULER CONSTANT,SCRUPLE,DEGREE FAHRENHEIT"⟩,
    ⟨0x210a, "", "SCRIPT SMALL G,SCRIPT CAPITAL H,BLACK-LETTER CAPITAL H,DOUBLE-STRUCK CAPITAL H"⟩,
    ⟨0x210e, "", "PLANCK CONSTANT,PLANCK CONSTANT OVER TWO PI,SCRIPT CAPITAL I"⟩,
    ⟨0x2111, "", "BLACK-LETTER CAPITAL I,SCRIPT CAPITAL L,SCRIPT SMALL L,L B BAR SYMBOL"⟩,
    ⟨0x2115, "", "DOUBLE-STRUCK CAPITAL N,NUMERO SIGN,SOUND RECORDING COPYRIGHT,SCRIPT CAPITAL P"⟩,
    ⟨0x2119, "DOUBLE-STRUCK CAPITAL ", "P,Q"⟩,
    ⟨0x211b, "", "SCRIPT CAPITAL R,BLACK-LETTER CAPITAL R,DOUBLE-STRUCK CAPITAL R"⟩,
    ⟨0x211e, "", "PRESCRIPTION TAKE,RESPONSE,SERVICE MARK,TELEPHONE SIGN,TRADE MARK SIGN"⟩,
    ⟨0x2123, "", "VERSICLE,DOUBLE-STRUCK CAPITAL Z,OUNCE SIGN,OHM SIGN,INVERTED OHM SIGN"⟩,
    ⟨0x2128, "", "BLACK-LETTER CAPITAL Z,TURNED GREEK SMALL LETTER IOTA,KELVIN SIGN,ANGSTROM SIGN"⟩,
    ⟨0x212c, "", "SCRIPT CAPITAL B,BLACK-LETTER CAPITAL C,ESTIMATED SYMBOL,SCRIPT SMALL E"⟩,
    ⟨0x2130, "SCRIPT CAPITAL ", "E,F"⟩,
    ⟨0x2132, "", "TURNED CAPITAL F,SCRIPT CAPITAL M,SCRIPT SMALL O,ALEF SYMBOL,BET SYMBOL"⟩,
    ⟨0x2137, "", "GIMEL SYMBOL,DALET SYMBOL,INFORMATION SOURCE,ROTATED CAPITAL Q,FACSIMILE SIGN"⟩,
    ⟨0x213c, "DOUBLE-STRUCK ", "SMALL PI,SMALL GAMMA,CAPITAL GAMMA,CAPITAL PI,N-ARY SUMMATION"⟩,
    ⟨0x2141, "TURNED SANS-SERIF CAPITAL ", "G,L"⟩,
    ⟨0x2143, "", "REVERSED SANS-SERIF CAPITAL L,TURNED SANS-SERIF CAPITAL Y"⟩,
    ⟨0x2145, "DOUBLE-STRUCK ITALIC ", "CAPITAL D,SMALL D,SMALL E,SMALL I,SMALL J"⟩,
    ⟨0x214a, "", "PROPERTY LINE,TURNED AMPERSAND"⟩,
    ⟨0x214c, "", "PER SIGN,AKTIESELSKAB,TURNED SMALL F,SYMBOL FOR SAMARITAN SOURCE"⟩,
    ⟨0x2150, "VULGAR FRACTION ", "ONE SEVENTH,ONE NINTH,ONE TENTH,ONE THIRD,TWO THIRDS"⟩,
    ⟨0x2155, "VULGAR FRACTION ", "ONE FIFTH,TWO FIFTHS,THREE FIFTHS,FOUR FIFTHS,ONE SIXTH"⟩,
    ⟨0x215a, "VULGAR FRACTION ", "FIVE SIXTHS,ONE EIGHTH,THREE EIGHTHS,FIVE EIGHTHS,SEVEN EIGHTHS"⟩,
    ⟨0x215f, "", "FRACTION NUMERATOR ONE"⟩,
    ⟨0x2160, "ROMAN NUMERAL ", "ONE,TWO,THREE,FOUR,FIVE,SIX,SEVEN,EIGHT,NINE"⟩,
    ⟨0x2169, "ROMAN NUMERAL ", "TEN,ELEVEN,TWELVE,FIFTY,ONE HUNDRED,FIVE HUNDRED,ONE THOUSAND"⟩,
    ⟨0x2170, "SMALL ROMAN NUMERAL ", "ONE,TWO,THREE,FOUR,FIVE,SIX,SEVEN,EIGHT,NINE,TEN"⟩,
    ⟨0x217a, "SMALL ROMAN NUMERAL ", "ELEVEN,TWELVE,FIFTY,ONE HUNDRED,FIVE HUNDRED,ONE THOUSAND"⟩,
    ⟨0x2180, "ROMAN NUMERAL ", "ONE THOUSAND C D,FIVE THOUSAND,TEN THOUSAND,REVERSED ONE HUNDRED"⟩,
    ⟨0x2184, "", "LATIN SMALL LETTER REVERSED C,ROMAN NUMERAL SIX LATE FORM"⟩,
    ⟨0x2186, "ROMAN NUMERAL ", "FIFTY EARLY FORM,FIFTY THOUSAND,ONE HUNDRED THOUSAND"⟩,
    ⟨0x2189, "", "VULGAR FRACTION ZERO THIRDS,TURNED DIGIT TWO,TURNED DIGIT THREE"⟩,
    ⟨0x2190, "", "LEFTWARDS ARROW,UPWARDS ARROW,RIGHTWARDS ARROW"⟩,
    ⟨0x2193, "", "DOWNWARDS ARROW,LEFT RIGHT ARROW,UP DOWN ARROW,NORTH WEST ARROW"⟩,
    ⟨0x2197, "", "NORTH EAST ARROW,SOUTH EAST ARROW,SOUTH WEST ARROW,LEFTWARDS ARROW WITH STROKE"⟩,
    ⟨0x219b, "", "RIGHTWARDS ARROW WITH STROKE,LEFTWARDS WAVE ARROW,RIGHTWARDS WAVE ARROW"⟩,
    ⟨0x219e, "", "LEFTWARDS TWO HEADED ARROW,UPWARDS TWO HEADED ARROW,RIGHTWARDS TWO HEADED ARROW"⟩,
    ⟨0x21a1, "", "DOWNWARDS TWO HEADED ARROW,LEFTWARDS ARROW WITH TAIL,RIGHTWARDS ARROW WITH TAIL"⟩,
    ⟨0x21a4, "", "LEFTWARDS ARROW FROM BAR,UPWARDS ARROW FROM BAR,RIGHTWARDS ARROW FROM BAR"⟩,
    ⟨0x21a7, "", "DOWNWARDS ARROW FROM BAR,UP DOWN ARROW WITH BASE,LEFTWARDS ARROW WITH HOOK"⟩,
    ⟨0x21aa, "", "RIGHTWARDS ARROW WITH HOOK,LEFTWARDS ARROW WITH LOOP,RIGHTWARDS ARROW WITH LOOP"⟩,
    ⟨0x21ad, "", "LEFT RIGHT WAVE ARROW,LEFT RIGHT ARROW WITH STROKE,DOWNWARDS ZIGZAG ARROW"⟩,
    ⟨0x21b0, "UPWARDS ARROW WITH TIP ", "LEFTWARDS,RIGHTWARDS"⟩,
    ⟨0x21b2, "DOWNWARDS ARROW WITH TIP ", "LEFTWARDS,RIGHTWARDS"⟩,
    ⟨0x21b4, "", "RIGHTWARDS ARROW WITH CORNER DOWNWARDS"⟩,
    ⟨0x21b5, "", "DOWNWARDS ARROW WITH CORNER LEFTWARDS,ANTICLOCKWISE TOP SEMICIRCLE ARROW"⟩,
    ⟨0x21b7, "", "CLOCKWISE TOP SEMICIRCLE ARROW,NORTH WEST ARROW TO LONG BAR"⟩,
    ⟨0x21b9, "", "LEFTWARDS ARROW TO BAR OVER RIGHTWARDS ARROW TO BAR"⟩,
    ⟨0x21ba, "", "ANTICLOCKWISE OPEN CIRCLE ARROW,CLOCKWISE OPEN CIRCLE ARROW"⟩,
    ⟨0x21bc, "LEFTWARDS HARPOON WITH BARB ", "UPWARDS,DOWNWARDS"⟩,
    ⟨0x21be, "UPWARDS HARPOON WITH BARB ", "RIGHTWARDS,LEFTWARDS"⟩,
    ⟨0x21c0, "RIGHTWARDS HARPOON WITH BARB ", "UPWARDS,DOWNWARDS"⟩,
    ⟨0x21c2, "DOWNWARDS HARPOON WITH BARB ", "RIGHTWARDS,LEFTWARDS"⟩,
    ⟨0x21c4, "", "RIGHTWARDS ARROW OVER LEFTWARDS ARROW"⟩,
    ⟨0x21c5, "", "UPWARDS ARROW LEFTWARDS OF DOWNWARDS ARROW"⟩,
    ⟨0x21c6, "LEFTWARDS ", "ARROW OVER RIGHTWARDS ARROW,PAIRED ARROWS"⟩,
    ⟨0x21c8, "", "UPWARDS PAIRED ARROWS,RIGHTWARDS PAIRED ARROWS"⟩,
    ⟨0x21ca, "", "DOWNWARDS PAIRED ARROWS,LEFTWARDS HARPOON OVER RIGHTWARDS HARPOON"⟩,
    ⟨0x21cc, "", "RIGHTWARDS HARPOON OVER LEFTWARDS HARPOON,LEFTWARDS DOUBLE ARROW WITH STROKE"⟩,
    ⟨0x21ce, "", "LEFT RIGHT DOUBLE ARROW WITH STROKE,RIGHTWARDS DOUBLE ARROW WITH STROKE"⟩,
    ⟨0x21d0, "", "LEFTWARDS DOUBLE ARROW,UPWARDS DOUBLE ARROW,RIGHTWARDS DOUBLE ARROW"⟩,
    ⟨0x21d3, "", "DOWNWARDS DOUBLE ARROW,LEFT RIGHT DOUBLE ARROW,UP DOWN DOUBLE ARROW"⟩,
    ⟨0x21d6, "NORTH ", "WEST DOUBLE ARROW,EAST DOUBLE ARROW"⟩,
    ⟨0x21d8, "SOUTH ", "EAST DOUBLE ARROW,WEST DOUBLE ARROW"⟩,
    ⟨0x21da, "", "LEFTWARDS TRIPLE ARROW,RIGHTWARDS TRIPLE ARROW,LEFTWARDS SQUIGGLE ARROW"⟩,
    ⟨0x21dd, "", "RIGHTWARDS SQUIGGLE ARROW,UPWARDS ARROW WITH DOUBLE STROKE"⟩,
    ⟨0x21df, "", "DOWNWARDS ARROW WITH DOUBLE STROKE,LEFTWARDS DASHED ARROW"⟩,
    ⟨0x21e1, "", "UPWARDS DASHED ARROW,RIGHTWARDS DASHED ARROW,DOWNWARDS DASHED ARROW"⟩,
    ⟨0x21e4, "", "LEFTWARDS ARROW TO BAR,RIGHTWARDS ARROW TO BAR,LEFTWARDS WHITE ARROW"⟩,
    ⟨0x21e7, "", "UPWARDS WHITE ARROW,RIGHTWARDS WHITE ARROW,DOWNWARDS WHITE ARROW"⟩,
    ⟨0x21ea, "UPWARDS WHITE ARROW ", "FROM BAR,ON PEDESTAL,ON PEDESTAL WITH HORIZONTAL BAR"⟩,
    ⟨0x21ed, "UPWARDS WHITE ", "ARROW ON PEDESTAL WITH VERTICAL BAR,DOUBLE ARROW"⟩,
    ⟨0x21ef, "", "UPWARDS WHITE DOUBLE ARROW ON PEDESTAL,RIGHTWARDS WHITE ARROW FROM WALL"⟩,
    ⟨0x21f1, "", "NORTH WEST ARROW TO CORNER,SOUTH EAST ARROW TO CORNER,UP DOWN WHITE ARROW"⟩,
    ⟨0x21f4, "", "RIGHT ARROW WITH SMALL CIRCLE,DOWNWARDS ARROW LEFTWARDS OF UPWARDS ARROW"⟩,
    ⟨0x21f6, "", "THREE RIGHTWARDS ARROWS,LEFTWARDS ARROW WITH VERTICAL STROKE"⟩,
    ⟨0x21f8, "", "RIGHTWARDS ARROW WITH VERTICAL STROKE,LEFT RIGHT ARROW WITH VERTICAL STROKE"⟩,
    ⟨0x21fa, "", "LEFTWARDS ARROW WITH DOUBLE VERTICAL STROKE"⟩,
    ⟨0x21fb, "", "RIGHTWARDS ARROW WITH DOUBLE VERTICAL STROKE"⟩,
    ⟨0x21fc, "", "LEFT RIGHT ARROW WITH DOUBLE VERTICAL STROKE,LEFTWARDS OPEN-HEADED ARROW"⟩,
    ⟨0x21fe, "", "RIGHTWARDS OPEN-HEADED ARROW,LEFT RIGHT OPEN-HEADED ARROW,FOR ALL,COMPLEMENT"⟩,
    ⟨0x2202, "", "PARTIAL DIFFERENTIAL,THERE EXISTS,THERE DOES NOT EXIST,EMPTY SET,INCREMENT"⟩,
    ⟨0x2207, "", "NABLA,ELEMENT OF,NOT AN ELEMENT OF,SMALL ELEMENT OF,CONTAINS AS MEMBER"⟩,
    ⟨0x220c, "", "DOES NOT CONTAIN AS MEMBER,SMALL CONTAINS AS MEMBER,END OF PROOF"⟩,
    ⟨0x220f, "N-ARY ", "PRODUCT,COPRODUCT,SUMMATION"⟩,
    ⟨0x2212, "", "MINUS SIGN,MINUS-OR-PLUS SIGN,DOT PLUS,DIVISION SLASH"⟩,
    ⟨0x2216, "", "SET MINUS,ASTERISK OPERATOR,RING OPERATOR,BULLET OPERATOR,SQUARE ROOT"⟩,
    ⟨0x221b, "", "CUBE ROOT,FOURTH ROOT,PROPORTIONAL TO,INFINITY,RIGHT ANGLE,ANGLE,MEASURED ANGLE"⟩,
    ⟨0x2222, "", "SPHERICAL ANGLE,DIVIDES,DOES NOT DIVIDE,PARALLEL TO,NOT PARALLEL TO,LOGICAL AND"⟩,
    ⟨0x2228, "", "LOGICAL OR,INTERSECTION,UNION,INTEGRAL,DOUBLE INTEGRAL,TRIPLE INTEGRAL"⟩,
    ⟨0x222e, "", "CONTOUR INTEGRAL,SURFACE INTEGRAL,VOLUME INTEGRAL,CLOCKWISE INTEGRAL"⟩,
    ⟨0x2232, "", "CLOCKWISE CONTOUR INTEGRAL,ANTICLOCKWISE CONTOUR INTEGRAL,THEREFORE"⟩,
    ⟨0x2235, "", "BECAUSE,RATIO,PROPORTION,DOT MINUS,EXCESS,GEOMETRIC PROPORTION,HOMOTHETIC"⟩,
    ⟨0x223c, "", "TILDE OPERATOR,REVERSED TILDE,INVERTED LAZY S,SINE WAVE,WREATH PRODUCT"⟩,
    ⟨0x2241, "", "NOT TILDE,MINUS TILDE,ASYMPTOTICALLY EQUAL TO,NOT ASYMPTOTICALLY EQUAL TO"⟩,
    ⟨0x2245, "APPROXIMATELY ", "EQUAL TO,BUT NOT ACTUALLY EQUAL TO"⟩,
    ⟨0x2247, "", "NEITHER APPROXIMATELY NOR ACTUALLY EQUAL TO"⟩,
    ⟨0x2248, "", "ALMOST EQUAL TO,NOT ALMOST EQUAL TO,ALMOST EQUAL OR EQUAL TO"⟩,
    ⟨0x224b, "", "TRIPLE TILDE,ALL EQUAL TO,EQUIVALENT TO,GEOMETRICALLY EQUIVALENT TO"⟩,
    ⟨0x224f, "", "DIFFERENCE BETWEEN,APPROACHES THE LIMIT,GEOMETRICALLY EQUAL TO"⟩,
    ⟨0x2252, "", "APPROXIMATELY EQUAL TO OR THE IMAGE OF,IMAGE OF OR APPROXIMATELY EQUAL TO"⟩,
    ⟨0x2254, "", "COLON EQUALS,EQUALS COLON,RING IN EQUAL TO,RING EQUAL TO,CORRESPONDS TO"⟩,
    ⟨0x2259, "", "ESTIMATES,EQUIANGULAR TO,STAR EQUALS,DELTA EQUAL TO,EQUAL TO BY DEFINITION"⟩,
    ⟨0x225e, "", "MEASURED BY,QUESTIONED EQUAL TO,NOT EQUAL TO,IDENTICAL TO,NOT IDENTICAL TO"⟩,
    ⟨0x2263, "", "STRICTLY EQUIVALENT TO,LESS-THAN OR EQUAL TO,GREATER-THAN OR EQUAL TO"⟩,
    ⟨0x2266, "", "LESS-THAN OVER EQUAL TO,GREATER-THAN OVER EQUAL TO,LESS-THAN BUT NOT EQUAL TO"⟩,
    ⟨0x2269, "", "GREATER-THAN BUT NOT EQUAL TO,MUCH LESS-THAN,MUCH GREATER-THAN,BETWEEN"⟩,
    ⟨0x226d, "NOT ", "EQUIVALENT TO,LESS-THAN,GREATER-THAN"⟩,
    ⟨0x2270, "NEITHER ", "LESS-THAN NOR EQUAL TO,GREATER-THAN NOR EQUAL TO"⟩,
    ⟨0x2272, "", "LESS-THAN OR EQUIVALENT TO,GREATER-THAN OR EQUIVALENT TO"⟩,
    ⟨0x2274, "NEITHER ", "LESS-THAN NOR EQUIVALENT TO,GREATER-THAN NOR EQUIVALENT TO"⟩,
    ⟨0x2276, "", "LESS-THAN OR GREATER-THAN,GREATER-THAN OR LESS-THAN"⟩,
    ⟨0x2278, "NEITHER ", "LESS-THAN NOR GREATER-THAN,GREATER-THAN NOR LESS-THAN"⟩,
    ⟨0x227a, "", "PRECEDES,SUCCEEDS,PRECEDES OR EQUAL TO,SUCCEEDS OR EQUAL TO"⟩,
    ⟨0x227e, "", "PRECEDES OR EQUIVALENT TO,SUCCEEDS OR EQUIVALENT TO,DOES NOT PRECEDE"⟩,
    ⟨0x2281, "", "DOES NOT SUCCEED,SUBSET OF,SUPERSET OF,NOT A SUBSET OF,NOT A SUPERSET OF"⟩,
    ⟨0x2286, "", "SUBSET OF OR EQUAL TO,SUPERSET OF OR EQUAL TO,NEITHER A SUBSET OF NOR EQUAL TO"⟩,
    ⟨0x2289, "", "NEITHER A SUPERSET OF NOR EQUAL TO,SUBSET OF WITH NOT EQUAL TO"⟩,
    ⟨0x228b, "", "SUPERSET OF WITH NOT EQUAL TO,MULTISET,MULTISET MULTIPLICATION,MULTISET UNION"⟩,
    ⟨0x228f, "SQUARE ", "IMAGE OF,ORIGINAL OF,IMAGE OF OR EQUAL TO,ORIGINAL OF OR EQUAL TO,CAP"⟩,
    ⟨0x2294, "", "SQUARE CUP,CIRCLED PLUS,CIRCLED MINUS,CIRCLED TIMES"⟩,
    ⟨0x2298, "CIRCLED ", "DIVISION SLASH,DOT OPERATOR,RING OPERATOR,ASTERISK OPERATOR,EQUALS,DASH"⟩,
    ⟨0x229e, "SQUARED ", "PLUS,MINUS,TIMES,DOT OPERATOR"⟩,
    ⟨0x22a2, "", "RIGHT TACK,LEFT TACK,DOWN TACK,UP TACK,ASSERTION,MODELS,TRUE,FORCES"⟩,
    ⟨0x22aa, "", "TRIPLE VERTICAL BAR RIGHT TURNSTILE,DOUBLE VERTICAL BAR DOUBLE RIGHT TURNSTILE"⟩,
    ⟨0x22ac, "", "DOES NOT PROVE,NOT TRUE,DOES NOT FORCE"⟩,
    ⟨0x22af, "", "NEGATED DOUBLE VERTICAL BAR DOUBLE RIGHT TURNSTILE,PRECEDES UNDER RELATION"⟩,
    ⟨0x22b1, "", "SUCCEEDS UNDER RELATION,NORMAL SUBGROUP OF,CONTAINS AS NORMAL SUBGROUP"⟩,
    ⟨0x22b4, "", "NORMAL SUBGROUP OF OR EQUAL TO,CONTAINS AS NORMAL SUBGROUP OR EQUAL TO"⟩,
    ⟨0x22b6, "", "ORIGINAL OF,IMAGE OF,MULTIMAP,HERMITIAN CONJUGATE MATRIX"⟩,
    ⟨0x22ba, "", "INTERCALATE,XOR,NAND,NOR,RIGHT ANGLE WITH ARC,RIGHT TRIANGLE,N-ARY LOGICAL AND"⟩,
    ⟨0x22c1, "", "N-ARY LOGICAL OR,N-ARY INTERSECTION,N-ARY UNION,DIAMOND OPERATOR,DOT OPERATOR"⟩,
    ⟨0x22c6, "", "STAR OPERATOR,DIVISION TIMES,BOWTIE,LEFT NORMAL FACTOR SEMIDIRECT PRODUCT"⟩,
    ⟨0x22ca, "", "RIGHT NORMAL FACTOR SEMIDIRECT PRODUCT,LEFT SEMIDIRECT PRODUCT"⟩,
    ⟨0x22cc, "", "RIGHT SEMIDIRECT PRODUCT,REVERSED TILDE EQUALS,CURLY LOGICAL OR"⟩,
    ⟨0x22cf, "", "CURLY LOGICAL AND,DOUBLE SUBSET,DOUBLE SUPERSET,DOUBLE INTERSECTION"⟩,
    ⟨0x22d3, "", "DOUBLE UNION,PITCHFORK,EQUAL AND PARALLEL TO,LESS-THAN WITH DOT"⟩,
    ⟨0x22d7, "", "GREATER-THAN WITH DOT,VERY MUCH LESS-THAN,VERY MUCH GREATER-THAN"⟩,
    ⟨0x22da, "", "LESS-THAN EQUAL TO OR GREATER-THAN,GREATER-THAN EQUAL TO OR LESS-THAN"⟩,
    ⟨0x22dc, "EQUAL TO OR ", "LESS-THAN,GREATER-THAN,PRECEDES,SUCCEEDS"⟩,
    ⟨0x22e0, "DOES NOT ", "PRECEDE OR EQUAL,SUCCEED OR EQUAL"⟩,
    ⟨0x22e2, "NOT SQUARE ", "IMAGE OF OR EQUAL TO,ORIGINAL OF OR EQUAL TO"⟩,
    ⟨0x22e4, "SQUARE ", "IMAGE OF OR NOT EQUAL TO,ORIGINAL OF OR NOT EQUAL TO"⟩,
    ⟨0x22e6, "", "LESS-THAN BUT NOT EQUIVALENT TO,GREATER-THAN BUT NOT EQUIVALENT TO"⟩,
    ⟨0x22e8, "", "PRECEDES BUT NOT EQUIVALENT TO,SUCCEEDS BUT NOT EQUIVALENT TO"⟩,
    ⟨0x22ea, "", "NOT NORMAL SUBGROUP OF,DOES NOT CONTAIN AS NORMAL SUBGROUP"⟩,
    ⟨0x22ec, "", "NOT NORMAL SUBGROUP OF OR EQUAL TO,DOES NOT CONTAIN AS NORMAL SUBGROUP OR EQUAL"⟩,
    ⟨0x22ee, "", "VERTICAL ELLIPSIS,MIDLINE HORIZONTAL ELLIPSIS"⟩,
    ⟨0x22f0, "", "UP RIGHT DIAGONAL ELLIPSIS,DOWN RIGHT DIAGONAL ELLIPSIS"⟩,
    ⟨0x22f2, "ELEMENT OF WITH ", "LONG HORIZONTAL STROKE,VERTICAL BAR AT END OF HORIZONTAL STROKE"⟩,
    ⟨0x22f4, "", "SMALL ELEMENT OF WITH VERTICAL BAR AT END OF HORIZONTAL STROKE"⟩,
    ⟨0x22f5, "", "ELEMENT OF WITH DOT ABOVE,ELEMENT OF WITH OVERBAR,SMALL ELEMENT OF WITH OVERBAR"⟩,
    ⟨0x22f8, "ELEMENT OF WITH ", "UNDERBAR,TWO HORIZONTAL STROKES"⟩,
    ⟨0x22fa, "CONTAINS WITH ", "LONG HORIZONTAL STROKE,VERTICAL BAR AT END OF HORIZONTAL STROKE"⟩,
    ⟨0x22fc, "", "SMALL CONTAINS WITH VERTICAL BAR AT END OF HORIZONTAL STROKE"⟩,
    ⟨0x22fd, "", "CONTAINS WITH OVERBAR,SMALL CONTAINS WITH OVERBAR,Z NOTATION BAG MEMBERSHIP"⟩,
    ⟨0x2300, "", "DIAMETER SIGN,ELECTRIC ARROW,HOUSE,UP ARROWHEAD,DOWN ARROWHEAD,PROJECTIVE"⟩,
    ⟨0x2306, "", "PERSPECTIVE,WAVY LINE,LEFT CEILING,RIGHT CEILING,LEFT FLOOR,RIGHT FLOOR"⟩,
    ⟨0x230c, "BOTTOM ", "RIGHT CROP,LEFT CROP"⟩,
    ⟨0x230e, "", "TOP RIGHT CROP,TOP LEFT CROP,REVERSED NOT SIGN,SQUARE LOZENGE"⟩,
    ⟨0x2312, "", "ARC,SEGMENT,SECTOR,TELEPHONE RECORDER,POSITION INDICATOR,VIEWDATA SQUARE"⟩,
    ⟨0x2318, "", "PLACE OF INTEREST SIGN,TURNED NOT SIGN,WATCH,HOURGLASS,TOP LEFT CORNER"⟩,
    ⟨0x231d, "", "TOP RIGHT CORNER,BOTTOM LEFT CORNER,BOTTOM RIGHT CORNER,TOP HALF INTEGRAL"⟩,
    ⟨0x2321, "", "BOTTOM HALF INTEGRAL,FROWN,SMILE,UP ARROWHEAD BETWEEN TWO HORIZONTAL BARS"⟩,
    ⟨0x2325, "", "OPTION KEY,ERASE TO THE RIGHT,X IN A RECTANGLE BOX"⟩,
    ⟨0x2328, "", "KEYBOARD,LEFT-POINTING ANGLE BRACKET,RIGHT-POINTING ANGLE BRACKET"⟩,
    ⟨0x232b, "", "ERASE TO THE LEFT,BENZENE RING,CYLINDRICITY,ALL AROUND-PROFILE,SYMMETRY"⟩,
    ⟨0x2330, "", "TOTAL RUNOUT,DIMENSION ORIGIN,CONICAL TAPER,SLOPE,COUNTERBORE,COUNTERSINK"⟩,
    ⟨0x2336, "APL FUNCTIONAL SYMBOL ", "I-BEAM,SQUISH QUAD"⟩,
    ⟨0x2338, "APL FUNCTIONAL SYMBOL QUAD ", "EQUAL,DIVIDE,DIAMOND,JOT,CIRCLE"⟩,
    ⟨0x233d, "APL FUNCTIONAL SYMBOL ", "CIRCLE STILE,CIRCLE JOT,SLASH BAR,BACKSLASH BAR"⟩,
    ⟨0x2341, "APL FUNCTIONAL SYMBOL QUAD ", "SLASH,BACKSLASH,LESS-THAN,GREATER-THAN"⟩,
    ⟨0x2345, "APL FUNCTIONAL SYMBOL ", "LEFTWARDS VANE,RIGHTWARDS VANE,QUAD LEFTWARDS ARROW"⟩,
    ⟨0x2348, "APL FUNCTIONAL SYMBOL ", "QUAD RIGHTWARDS ARROW,CIRCLE BACKSLASH,DOWN TACK UNDERBAR"⟩,
    ⟨0x234b, "APL FUNCTIONAL SYMBOL ", "DELTA STILE,QUAD DOWN CARET,QUAD DELTA,DOWN TACK JOT"⟩,
    ⟨0x234f, "APL FUNCTIONAL SYMBOL ", "UPWARDS VANE,QUAD UPWARDS ARROW,UP TACK OVERBAR"⟩,
    ⟨0x2352, "APL FUNCTIONAL SYMBOL ", "DEL STILE,QUAD UP CARET,QUAD DEL,UP TACK JOT"⟩,
    ⟨0x2356, "APL FUNCTIONAL SYMBOL ", "DOWNWARDS VANE,QUAD DOWNWARDS ARROW,QUOTE UNDERBAR"⟩,
    ⟨0x2359, "APL FUNCTIONAL SYMBOL ", "DELTA UNDERBAR,DIAMOND UNDERBAR,JOT UNDERBAR"⟩,
    ⟨0x235c, "APL FUNCTIONAL SYMBOL ", "CIRCLE UNDERBAR,UP SHOE JOT,QUOTE QUAD,CIRCLE STAR"⟩,
    ⟨0x2360, "APL FUNCTIONAL SYMBOL ", "QUAD COLON,UP TACK DIAERESIS,DEL DIAERESIS,STAR DIAERESIS"⟩,
    ⟨0x2364, "APL FUNCTIONAL SYMBOL ", "JOT DIAERESIS,CIRCLE DIAERESIS,DOWN SHOE STILE"⟩,
    ⟨0x2367, "APL FUNCTIONAL SYMBOL ", "LEFT SHOE STILE,TILDE DIAERESIS,GREATER-THAN DIAERESIS"⟩,
    ⟨0x236a, "APL FUNCTIONAL SYMBOL ", "COMMA BAR,DEL TILDE,ZILDE,STILE TILDE,SEMICOLON UNDERBAR"⟩,
    ⟨0x236f, "APL FUNCTIONAL SYMBOL ", "QUAD NOT EQUAL,QUAD QUESTION,DOWN CARET TILDE"⟩,
    ⟨0x2372, "APL FUNCTIONAL SYMBOL ", "UP CARET TILDE,IOTA,RHO,OMEGA,ALPHA UNDERBAR"⟩,
    ⟨0x2377, "APL FUNCTIONAL SYMBOL ", "EPSILON UNDERBAR,IOTA UNDERBAR,OMEGA UNDERBAR,ALPHA"⟩,
    ⟨0x237b, "", "NOT CHECK MARK,RIGHT ANGLE WITH DOWNWARDS ZIGZAG ARROW"⟩,
    ⟨0x237d, "", "SHOULDERED OPEN BOX,BELL SYMBOL,VERTICAL LINE WITH MIDDLE DOT,INSERTION SYMBOL"⟩,
    ⟨0x2381, "", "CONTINUOUS UNDERLINE SYMBOL,DISCONTINUOUS UNDERLINE SYMBOL,EMPHASIS SYMBOL"⟩,
    ⟨0x2384, "", "COMPOSITION SYMBOL,WHITE SQUARE WITH CENTRE VERTICAL LINE,ENTER SYMBOL"⟩,
    ⟨0x2387, "", "ALTERNATIVE KEY SYMBOL,HELM SYMBOL,CIRCLED HORIZONTAL BAR WITH NOTCH"⟩,
    ⟨0x238a, "", "CIRCLED TRIANGLE DOWN,BROKEN CIRCLE WITH NORTHWEST ARROW"⟩,
    ⟨0x238c, "", "UNDO SYMBOL,MONOSTABLE SYMBOL,HYSTERESIS SYMBOL"⟩,
    ⟨0x238f, "OPEN-CIRCUIT-OUTPUT ", "H-TYPE SYMBOL,L-TYPE SYMBOL"⟩,
    ⟨0x2391, "PASSIVE-PULL-", "DOWN-OUTPUT SYMBOL,UP-OUTPUT SYMBOL"⟩,
    ⟨0x2393, "", "DIRECT CURRENT SYMBOL FORM TWO,SOFTWARE-FUNCTION SYMBOL"⟩,
    ⟨0x2395, "", "APL FUNCTIONAL SYMBOL QUAD,DECIMAL SEPARATOR KEY SYMBOL"⟩,
    ⟨0x2397, "", "PREVIOUS PAGE,NEXT PAGE,PRINT SCREEN SYMBOL,CLEAR SCREEN SYMBOL"⟩,
    ⟨0x239b, "LEFT PARENTHESIS ", "UPPER HOOK,EXTENSION,LOWER HOOK"⟩,
    ⟨0x239e, "RIGHT PARENTHESIS ", "UPPER HOOK,EXTENSION,LOWER HOOK"⟩,
    ⟨0x23a1, "LEFT SQUARE BRACKET ", "UPPER CORNER,EXTENSION,LOWER CORNER"⟩,
    ⟨0x23a4, "RIGHT SQUARE BRACKET ", "UPPER CORNER,EXTENSION,LOWER CORNER"⟩,
    ⟨0x23a7, "LEFT CURLY BRACKET ", "UPPER HOOK,MIDDLE PIECE,LOWER HOOK"⟩,
    ⟨0x23aa, "", "CURLY BRACKET EXTENSION"⟩,
    ⟨0x23ab, "RIGHT CURLY BRACKET ", "UPPER HOOK,MIDDLE PIECE,LOWER HOOK"⟩,
    ⟨0x23ae, "", "INTEGRAL EXTENSION"⟩,
    ⟨0x23af, "", "HORIZONTAL LINE EXTENSION,UPPER LEFT OR LOWER RIGHT CURLY BRACKET SECTION"⟩,
    ⟨0x23b1, "", "UPPER RIGHT OR LOWER LEFT CURLY BRACKET SECTION"⟩,
    ⟨0x23b2, "", "SUMMATION TOP,SUMMATION BOTTOM,TOP SQUARE BRACKET"⟩,
    ⟨0x23b5, "BOTTOM SQUARE ", "BRACKET,BRACKET OVER TOP SQUARE BRACKET"⟩,
    ⟨0x23b7, "", "RADICAL SYMBOL BOTTOM,LEFT VERTICAL BOX LINE,RIGHT VERTICAL BOX LINE"⟩,
    ⟨0x23ba, "HORIZONTAL SCAN LINE-", "1,3,7,9"⟩,
    ⟨0x23be, "DENTISTRY SYMBOL LIGHT VERTICAL ", "AND TOP RIGHT,AND BOTTOM RIGHT,WITH CIRCLE"⟩,
    ⟨0x23c1, "", "DENTISTRY SYMBOL LIGHT DOWN AND HORIZONTAL WITH CIRCLE"⟩,
    ⟨0x23c2, "", "DENTISTRY SYMBOL LIGHT UP AND HORIZONTAL WITH CIRCLE"⟩,
    ⟨0x23c3, "DENTISTRY SYMBOL LIGHT ", "VERTICAL WITH TRIANGLE,DOWN AND HORIZONTAL WITH TRIANGLE"⟩,
    ⟨0x23c5, "", "DENTISTRY SYMBOL LIGHT UP AND HORIZONTAL WITH TRIANGLE"⟩,
    ⟨0x23c6, "DENTISTRY SYMBOL LIGHT ", "VERTICAL AND WAVE,DOWN AND HORIZONTAL WITH WAVE"⟩,
    ⟨0x23c8, "", "DENTISTRY SYMBOL LIGHT UP AND HORIZONTAL WITH WAVE"⟩,
    ⟨0x23c9, "DENTISTRY SYMBOL LIGHT ", "DOWN AND HORIZONTAL,UP AND HORIZONTAL"⟩,
    ⟨0x23cb, "DENTISTRY SYMBOL LIGHT VERTICAL AND ", "TOP LEFT,BOTTOM LEFT"⟩,
    ⟨0x23cd, "", "SQUARE FOOT,RETURN SYMBOL,EJECT SYMBOL,VERTICAL LINE EXTENSION"⟩,
    ⟨0x23d1, "METRICAL ", "BREVE,LONG OVER SHORT,SHORT OVER LONG,LONG OVER TWO SHORTS"⟩,
    ⟨0x23d5, "METRICAL ", "TWO SHORTS OVER LONG,TWO SHORTS JOINED,TRISEME,TETRASEME,PENTASEME"⟩,
    ⟨0x23da, "", "EARTH GROUND,FUSE,TOP PARENTHESIS,BOTTOM PARENTHESIS,TOP CURLY BRACKET"⟩,
    ⟨0x23df, "", "BOTTOM CURLY BRACKET,TOP TORTOISE SHELL BRACKET,BOTTOM TORTOISE SHELL BRACKET"⟩,
    ⟨0x23e2, "", "WHITE TRAPEZIUM,BENZENE RING WITH CIRCLE,STRAIGHTNESS"⟩,
    ⟨0x23e5, "", "FLATNESS,AC CURRENT,ELECTRICAL INTERSECTION,DECIMAL EXPONENT SYMBOL"⟩,
    ⟨0x23e9, "BLACK ", "RIGHT-POINTING DOUBLE TRIANGLE,LEFT-POINTING DOUBLE TRIANGLE"⟩,
    ⟨0x23eb, "BLACK ", "UP-POINTING DOUBLE TRIANGLE,DOWN-POINTING DOUBLE TRIANGLE"⟩,
    ⟨0x23ed, "", "BLACK RIGHT-POINTING DOUBLE TRIANGLE WITH VERTICAL BAR"⟩,
    ⟨0x23ee, "", "BLACK LEFT-POINTING DOUBLE TRIANGLE WITH VERTICAL BAR"⟩,
    ⟨0x23ef, "", "BLACK RIGHT-POINTING TRIANGLE WITH DOUBLE VERTICAL BAR"⟩,
    ⟨0x23f0, "", "ALARM CLOCK,STOPWATCH,TIMER CLOCK,HOURGLASS WITH FLOWING SAND"⟩,
    ⟨0x23f4, "BLACK MEDIUM ", "LEFT-POINTING TRIANGLE,RIGHT-POINTING TRIANGLE"⟩,
    ⟨0x23f6, "BLACK MEDIUM ", "UP-POINTING TRIANGLE,DOWN-POINTING TRIANGLE"⟩,
    ⟨0x23f8, "", "DOUBLE VERTICAL BAR,BLACK SQUARE FOR STOP,BLACK CIRCLE FOR RECORD"⟩,
    ⟨0x23fb, "POWER ", "SYMBOL,ON-OFF SYMBOL,ON SYMBOL,SLEEP SYMBOL"⟩,
    ⟨0x23ff, "", "OBSERVER EYE SYMBOL,SYMBOL FOR NULL,SYMBOL FOR START OF HEADING"⟩,
    ⟨0x2402, "SYMBOL FOR ", "START OF TEXT,END OF TEXT,END OF TRANSMISSION,ENQUIRY,ACKNOWLEDGE"⟩,
    ⟨0x2407, "SYMBOL FOR ", "BELL,BACKSPACE,HORIZONTAL TABULATION,LINE FEED,VERTICAL TABULATION"⟩,
    ⟨0x240c, "SYMBOL FOR ", "FORM FEED,CARRIAGE RETURN,SHIFT OUT,SHIFT IN,DATA LINK ESCAPE"⟩,
    ⟨0x2411, "SYMBOL FOR DEVICE CONTROL ", "ONE,TWO,THREE,FOUR"⟩,
    ⟨0x2415, "SYMBOL FOR ", "NEGATIVE ACKNOWLEDGE,SYNCHRONOUS IDLE,END OF TRANSMISSION BLOCK"⟩,
    ⟨0x2418, "SYMBOL FOR ", "CANCEL,END OF MEDIUM,SUBSTITUTE,ESCAPE,FILE SEPARATOR"⟩,
    ⟨0x241d, "SYMBOL FOR ", "GROUP SEPARATOR,RECORD SEPARATOR,UNIT SEPARATOR,SPACE,DELETE"⟩,
    ⟨0x2422, "", "BLANK SYMBOL,OPEN BOX"⟩,
    ⟨0x2424, "SYMBOL FOR ", "NEWLINE,DELETE FORM TWO,SUBSTITUTE FORM TWO"⟩,
    ⟨0x2440, "", "OCR HOOK"⟩,
    ⟨0x2441, "OCR ", "CHAIR,FORK,INVERTED FORK,BELT BUCKLE,BOW TIE,BRANCH BANK IDENTIFICATION"⟩,
    ⟨0x2447, "OCR ", "AMOUNT OF CHECK,DASH,CUSTOMER ACCOUNT NUMBER,DOUBLE BACKSLASH"⟩,
    ⟨0x2460, "CIRCLED DIGIT ", "ONE,TWO,THREE,FOUR,FIVE,SIX,SEVEN,EIGHT,NINE"⟩,
    ⟨0x2469, "CIRCLED NUMBER ", "TEN,ELEVEN,TWELVE,THIRTEEN"⟩,
    ⟨0x246d, "CIRCLED NUMBER ", "FOURTEEN,FIFTEEN,SIXTEEN,SEVENTEEN,EIGHTEEN,NINETEEN,TWENTY"⟩,
    ⟨0x2474, "PARENTHESIZED DIGIT ", "ONE,TWO,THREE,FOUR,FIVE,SIX,SEVEN,EIGHT,NINE"⟩,
    ⟨0x247d, "PARENTHESIZED NUMBER ", "TEN,ELEVEN,TWELVE,THIRTEEN,FOURTEEN"⟩,
    ⟨0x2482, "PARENTHESIZED NUMBER ", "FIFTEEN,SIXTEEN,SEVENTEEN,EIGHTEEN,NINETEEN,TWENTY"⟩,
    ⟨0x2488, "DIGIT ", "ONE FULL STOP,TWO FULL STOP,THREE FULL STOP,FOUR FULL STOP,FIVE FULL STOP"⟩,
    ⟨0x248d, "DIGIT ", "SIX FULL STOP,SEVEN FULL STOP,EIGHT FULL STOP,NINE FULL STOP"⟩,
    ⟨0x2491, "", "NUMBER TEN FULL STOP"⟩,
    ⟨0x2492, "NUMBER ", "ELEVEN FULL STOP,TWELVE FULL STOP,THIRTEEN FULL STOP,FOURTEEN FULL STOP"⟩,
    ⟨0x2496, "NUMBER ", "FIFTEEN FULL STOP,SIXTEEN FULL STOP,SEVENTEEN FULL STOP"⟩,
    ⟨0x2499, "NUMBER ", "EIGHTEEN FULL STOP,NINETEEN FULL STOP,TWENTY FULL STOP"⟩,
    ⟨0x249c, "PARENTHESIZED LATIN SMALL LETTER ", "A,B,C"⟩,
    ⟨0x249f, "PARENTHESIZED LATIN SMALL LETTER ", "D,E,F,G,H,I,J,K,L,M,N,O,P,Q,R,S,T,U,V,W,X,Y,Z"⟩,
    ⟨0x24b6, "", "CIRCLED LATIN CAPITAL LETTER A"⟩,
    ⟨0x24b7, "CIRCLED LATIN CAPITAL LETTER ", "B,C,D,E,F,G,H,I,J,K,L,M,N,O,P,Q,R,S,T,U,V,W,X,Y,Z"⟩,
    ⟨0x24d0, "CIRCLED LATIN SMALL LETTER ", "A,B,C,D,E,F,G,H,I,J,K,L,M,N,O,P,Q,R,S,T,U,V,W,X,Y,Z"⟩,
    ⟨0x24ea, "", "CIRCLED DIGIT ZERO"⟩,
    ⟨0x24eb, "NEGATIVE CIRCLED NUMBER ", "ELEVEN,TWELVE,THIRTEEN,FOURTEEN"⟩,
    ⟨0x24ef, "NEGATIVE CIRCLED NUMBER ", "FIFTEEN,SIXTEEN,SEVENTEEN,EIGHTEEN,NINETEEN,TWENTY"⟩,
    ⟨0x24f5, "DOUBLE CIRCLED DIGIT ", "ONE,TWO,THREE,FOUR,FIVE,SIX,SEVEN,EIGHT,NINE"⟩,
    ⟨0x24fe, "", "DOUBLE CIRCLED NUMBER TEN,NEGATIVE CIRCLED DIGIT ZERO"⟩,
    ⟨0x2500, "BOX DRAWINGS ", "LIGHT HORIZONTAL,HEAVY HORIZONTAL"⟩,
    ⟨0x2502, "BOX DRAWINGS ", "LIGHT VERTICAL,HEAVY VERTICAL,LIGHT TRIPLE DASH HORIZONTAL"⟩,
    ⟨0x2505, "BOX DRAWINGS ", "HEAVY TRIPLE DASH HORIZONTAL,LIGHT TRIPLE DASH VERTICAL"⟩,
    ⟨0x2507, "BOX DRAWINGS ", "HEAVY TRIPLE DASH VERTICAL,LIGHT QUADRUPLE DASH HORIZONTAL"⟩,
    ⟨0x2509, "BOX DRAWINGS ", "HEAVY QUADRUPLE DASH HORIZONTAL,LIGHT QUADRUPLE DASH VERTICAL"⟩,
    ⟨0x250b, "BOX DRAWINGS ", "HEAVY QUADRUPLE DASH VERTICAL,LIGHT DOWN AND RIGHT"⟩,
    ⟨0x250d, "BOX DRAWINGS DOWN ", "LIGHT AND RIGHT HEAVY,HEAVY AND RIGHT LIGHT"⟩,
    ⟨0x250f, "BOX DRAWINGS ", "HEAVY DOWN AND RIGHT,LIGHT DOWN AND LEFT,DOWN LIGHT AND LEFT HEAVY"⟩,
    ⟨0x2512, "BOX DRAWINGS ", "DOWN HEAVY AND LEFT LIGHT,HEAVY DOWN AND LEFT,LIGHT UP AND RIGHT"⟩,
    ⟨0x2515, "BOX DRAWINGS UP ", "LIGHT AND RIGHT HEAVY,HEAVY AND RIGHT LIGHT"⟩,
    ⟨0x2517, "BOX DRAWINGS ", "HEAVY UP AND RIGHT,LIGHT UP AND LEFT,UP LIGHT AND LEFT HEAVY"⟩,
    ⟨0x251a, "BOX DRAWINGS ", "UP HEAVY AND LEFT LIGHT,HEAVY UP AND LEFT,LIGHT VERTICAL AND RIGHT"⟩,
    ⟨0x251d, "BOX DRAWINGS ", "VERTICAL LIGHT AND RIGHT HEAVY,UP HEAVY AND RIGHT DOWN LIGHT"⟩,
    ⟨0x251f, "BOX DRAWINGS ", "DOWN HEAVY AND RIGHT UP LIGHT,VERTICAL HEAVY AND RIGHT LIGHT"⟩,
    ⟨0x2521, "BOX DRAWINGS ", "DOWN LIGHT AND RIGHT UP HEAVY,UP LIGHT AND RIGHT DOWN HEAVY"⟩,
    ⟨0x2523, "BOX DRAWINGS ", "HEAVY VERTICAL AND RIGHT,LIGHT VERTICAL AND LEFT"⟩,
    ⟨0x2525, "BOX DRAWINGS ", "VERTICAL LIGHT AND LEFT HEAVY,UP HEAVY AND LEFT DOWN LIGHT"⟩,
    ⟨0x2527, "BOX DRAWINGS ", "DOWN HEAVY AND LEFT UP LIGHT,VERTICAL HEAVY AND LEFT LIGHT"⟩,
    ⟨0x2529, "BOX DRAWINGS ", "DOWN LIGHT AND LEFT UP HEAVY,UP LIGHT AND LEFT DOWN HEAVY"⟩,
    ⟨0x252b, "BOX DRAWINGS ", "HEAVY VERTICAL AND LEFT,LIGHT DOWN AND HORIZONTAL"⟩,
    ⟨0x252d, "BOX DRAWINGS ", "LEFT HEAVY AND RIGHT DOWN LIGHT,RIGHT HEAVY AND LEFT DOWN LIGHT"⟩,
    ⟨0x252f, "BOX DRAWINGS DOWN ", "LIGHT AND HORIZONTAL HEAVY,HEAVY AND HORIZONTAL LIGHT"⟩,
    ⟨0x2531, "BOX DRAWINGS ", "RIGHT LIGHT AND LEFT DOWN HEAVY,LEFT LIGHT AND RIGHT DOWN HEAVY"⟩,
    ⟨0x2533, "BOX DRAWINGS ", "HEAVY DOWN AND HORIZONTAL,LIGHT UP AND HORIZONTAL"⟩,
    ⟨0x2535, "BOX DRAWINGS ", "LEFT HEAVY AND RIGHT UP LIGHT,RIGHT HEAVY AND LEFT UP LIGHT"⟩,
    ⟨0x2537, "BOX DRAWINGS UP ", "LIGHT AND HORIZONTAL HEAVY,HEAVY AND HORIZONTAL LIGHT"⟩,
    ⟨0x2539, "", "BOX DRAWINGS RIGHT LIGHT AND LEFT UP HEAVY"⟩,
    ⟨0x253a, "BOX DRAWINGS ", "LEFT LIGHT AND RIGHT UP HEAVY,HEAVY UP AND HORIZONTAL"⟩,
    ⟨0x253c, "BOX DRAWINGS ", "LIGHT VERTICAL AND HORIZONTAL,LEFT HEAVY AND RIGHT VERTICAL LIGHT"⟩,
    ⟨0x253e, "", "BOX DRAWINGS RIGHT HEAVY AND LEFT VERTICAL LIGHT"⟩,
    ⟨0x253f, "", "BOX DRAWINGS VERTICAL LIGHT AND HORIZONTAL HEAVY"⟩,
    ⟨0x2540, "", "BOX DRAWINGS UP HEAVY AND DOWN HORIZONTAL LIGHT"⟩,
    ⟨0x2541, "", "BOX DRAWINGS DOWN HEAVY AND UP HORIZONTAL LIGHT"⟩,
    ⟨0x2542, "", "BOX DRAWINGS VERTICAL HEAVY AND HORIZONTAL LIGHT"⟩,
    ⟨0x2543, "", "BOX DRAWINGS LEFT UP HEAVY AND RIGHT DOWN LIGHT"⟩,
    ⟨0x2544, "", "BOX DRAWINGS RIGHT UP HEAVY AND LEFT DOWN LIGHT"⟩,
    ⟨0x2545, "", "BOX DRAWINGS LEFT DOWN HEAVY AND RIGHT UP LIGHT"⟩,
    ⟨0x2546, "", "BOX DRAWINGS RIGHT DOWN HEAVY AND LEFT UP LIGHT"⟩,
    ⟨0x2547, "", "BOX DRAWINGS DOWN LIGHT AND UP HORIZONTAL HEAVY"⟩,
    ⟨0x2548, "", "BOX DRAWINGS UP LIGHT AND DOWN HORIZONTAL HEAVY"⟩,
    ⟨0x2549, "", "BOX DRAWINGS RIGHT LIGHT AND LEFT VERTICAL HEAVY"⟩,
    ⟨0x254a, "BOX DRAWINGS ", "LEFT LIGHT AND RIGHT VERTICAL HEAVY,HEAVY VERTICAL AND HORIZONTAL"⟩,
    ⟨0x254c, "BOX DRAWINGS ", "LIGHT DOUBLE DASH HORIZONTAL,HEAVY DOUBLE DASH HORIZONTAL"⟩,
    ⟨0x254e, "BOX DRAWINGS ", "LIGHT DOUBLE DASH VERTICAL,HEAVY DOUBLE DASH VERTICAL"⟩,
    ⟨0x2550, "BOX DRAWINGS DOUBLE ", "HORIZONTAL,VERTICAL"⟩,
    ⟨0x2552, "BOX DRAWINGS DOWN ", "SINGLE AND RIGHT DOUBLE,DOUBLE AND RIGHT SINGLE"⟩,
    ⟨0x2554, "BOX DRAWINGS ", "DOUBLE DOWN AND RIGHT,DOWN SINGLE AND LEFT DOUBLE"⟩,
    ⟨0x2556, "BOX DRAWINGS ", "DOWN DOUBLE AND LEFT SINGLE,DOUBLE DOWN AND LEFT"⟩,
    ⟨0x2558, "BOX DRAWINGS UP ", "SINGLE AND RIGHT DOUBLE,DOUBLE AND RIGHT SINGLE"⟩,
    ⟨0x255a, "BOX DRAWINGS ", "DOUBLE UP AND RIGHT,UP SINGLE AND LEFT DOUBLE"⟩,
    ⟨0x255c, "BOX DRAWINGS ", "UP DOUBLE AND LEFT SINGLE,DOUBLE UP AND LEFT"⟩,
    ⟨0x255e, "BOX DRAWINGS VERTICAL ", "SINGLE AND RIGHT DOUBLE,DOUBLE AND RIGHT SINGLE"⟩,
    ⟨0x2560, "BOX DRAWINGS ", "DOUBLE VERTICAL AND RIGHT,VERTICAL SINGLE AND LEFT DOUBLE"⟩,
    ⟨0x2562, "BOX DRAWINGS ", "VERTICAL DOUBLE AND LEFT SINGLE,DOUBLE VERTICAL AND LEFT"⟩,
    ⟨0x2564, "BOX DRAWINGS DOWN ", "SINGLE AND HORIZONTAL DOUBLE,DOUBLE AND HORIZONTAL SINGLE"⟩,
    ⟨0x2566, "BOX DRAWINGS ", "DOUBLE DOWN AND HORIZONTAL,UP SINGLE AND HORIZONTAL DOUBLE"⟩,
    ⟨0x2568, "BOX DRAWINGS ", "UP DOUBLE AND HORIZONTAL SINGLE,DOUBLE UP AND HORIZONTAL"⟩,
    ⟨0x256a, "BOX DRAWINGS VERTICAL ", "SINGLE AND HORIZONTAL DOUBLE,DOUBLE AND HORIZONTAL SINGLE"⟩,
    ⟨0x256c, "", "BOX DRAWINGS DOUBLE VERTICAL AND HORIZONTAL"⟩,
    ⟨0x256d, "BOX DRAWINGS LIGHT ARC ", "DOWN AND RIGHT,DOWN AND LEFT,UP AND LEFT,UP AND RIGHT"⟩,
    ⟨0x2571, "BOX DRAWINGS LIGHT DIAGONAL UPPER ", "RIGHT TO LOWER LEFT,LEFT TO LOWER RIGHT"⟩,
    ⟨0x2573, "BOX DRAWINGS LIGHT ", "DIAGONAL CROSS,LEFT,UP,RIGHT,DOWN"⟩,
    ⟨0x2578, "BOX DRAWINGS HEAVY ", "LEFT,UP,RIGHT,DOWN"⟩,
    ⟨0x257c, "BOX DRAWINGS LIGHT ", "LEFT AND HEAVY RIGHT,UP AND HEAVY DOWN"⟩,
    ⟨0x257e, "BOX DRAWINGS HEAVY ", "LEFT AND LIGHT RIGHT,UP AND LIGHT DOWN"⟩,
    ⟨0x2580, "", "UPPER HALF BLOCK,LOWER ONE EIGHTH BLOCK,LOWER ONE QUARTER BLOCK"⟩,
    ⟨0x2583, "LOWER ", "THREE EIGHTHS BLOCK,HALF BLOCK,FIVE EIGHTHS BLOCK,THREE QUARTERS BLOCK"⟩,
    ⟨0x2587, "", "LOWER SEVEN EIGHTHS BLOCK,FULL BLOCK,LEFT SEVEN EIGHTHS BLOCK"⟩,
    ⟨0x258a, "LEFT ", "THREE QUARTERS BLOCK,FIVE EIGHTHS BLOCK,HALF BLOCK,THREE EIGHTHS BLOCK"⟩,
    ⟨0x258e, "", "LEFT ONE QUARTER BLOCK,LEFT ONE EIGHTH BLOCK,RIGHT HALF BLOCK,LIGHT SHADE"⟩,
    ⟨0x2592, "", "MEDIUM SHADE,DARK SHADE,UPPER ONE EIGHTH BLOCK,RIGHT ONE EIGHTH BLOCK"⟩,
    ⟨0x2596, "QUADRANT ", "LOWER LEFT,LOWER RIGHT,UPPER LEFT"⟩,
    ⟨0x2599, "QUADRANT UPPER LEFT AND LOWER ", "LEFT AND LOWER RIGHT,RIGHT"⟩,
    ⟨0x259b, "QUADRANT UPPER LEFT AND UPPER RIGHT AND LOWER ", "LEFT,RIGHT"⟩,
    ⟨0x259d, "QUADRANT UPPER ", "RIGHT,RIGHT AND LOWER LEFT,RIGHT AND LOWER LEFT AND LOWER RIGHT"⟩,
    ⟨0x25a0, "", "BLACK SQUARE,WHITE SQUARE"⟩,
    ⟨0x25a2, "WHITE SQUARE ", "WITH ROUNDED CORNERS,CONTAINING BLACK SMALL SQUARE"⟩,
    ⟨0x25a4, "SQUARE WITH ", "HORIZONTAL FILL,VERTICAL FILL,ORTHOGONAL CROSSHATCH FILL"⟩,
    ⟨0x25a7, "SQUARE WITH UPPER ", "LEFT TO LOWER RIGHT FILL,RIGHT TO LOWER LEFT FILL"⟩,
    ⟨0x25a9, "", "SQUARE WITH DIAGONAL CROSSHATCH FILL"⟩,
    ⟨0x25aa, "", "BLACK SMALL SQUARE,WHITE SMALL SQUARE,BLACK RECTANGLE,WHITE RECTANGLE"⟩,
    ⟨0x25ae, "", "BLACK VERTICAL RECTANGLE,WHITE VERTICAL RECTANGLE,BLACK PARALLELOGRAM"⟩,
    ⟨0x25b1, "", "WHITE PARALLELOGRAM,BLACK UP-POINTING TRIANGLE,WHITE UP-POINTING TRIANGLE"⟩,
    ⟨0x25b4, "", "BLACK UP-POINTING SMALL TRIANGLE,WHITE UP-POINTING SMALL TRIANGLE"⟩,
    ⟨0x25b6, "", "BLACK RIGHT-POINTING TRIANGLE,WHITE RIGHT-POINTING TRIANGLE"⟩,
    ⟨0x25b8, "", "BLACK RIGHT-POINTING SMALL TRIANGLE,WHITE RIGHT-POINTING SMALL TRIANGLE"⟩,
    ⟨0x25ba, "", "BLACK RIGHT-POINTING POINTER,WHITE RIGHT-POINTING POINTER"⟩,
    ⟨0x25bc, "", "BLACK DOWN-POINTING TRIANGLE,WHITE DOWN-POINTING TRIANGLE"⟩,
    ⟨0x25be, "", "BLACK DOWN-POINTING SMALL TRIANGLE,WHITE DOWN-POINTING SMALL TRIANGLE"⟩,
    ⟨0x25c0, "", "BLACK LEFT-POINTING TRIANGLE,WHITE LEFT-POINTING TRIANGLE"⟩,
    ⟨0x25c2, "", "BLACK LEFT-POINTING SMALL TRIANGLE,WHITE LEFT-POINTING SMALL TRIANGLE"⟩,
    ⟨0x25c4, "", "BLACK LEFT-POINTING POINTER,WHITE LEFT-POINTING POINTER,BLACK DIAMOND"⟩,
    ⟨0x25c7, "", "WHITE DIAMOND,WHITE DIAMOND CONTAINING BLACK SMALL DIAMOND,FISHEYE,LOZENGE"⟩,
    ⟨0x25cb, "", "WHITE CIRCLE,DOTTED CIRCLE,CIRCLE WITH VERTICAL FILL,BULLSEYE,BLACK CIRCLE"⟩,
    ⟨0x25d0, "CIRCLE WITH ", "LEFT HALF BLACK,RIGHT HALF BLACK,LOWER HALF BLACK,UPPER HALF BLACK"⟩,
    ⟨0x25d4, "CIRCLE WITH ", "UPPER RIGHT QUADRANT BLACK,ALL BUT UPPER LEFT QUADRANT BLACK"⟩,
    ⟨0x25d6, "", "LEFT HALF BLACK CIRCLE,RIGHT HALF BLACK CIRCLE"⟩,
    ⟨0x25d8, "INVERSE ", "BULLET,WHITE CIRCLE"⟩,
    ⟨0x25da, "", "UPPER HALF INVERSE WHITE CIRCLE,LOWER HALF INVERSE WHITE CIRCLE"⟩,
    ⟨0x25dc, "UPPER ", "LEFT QUADRANT CIRCULAR ARC,RIGHT QUADRANT CIRCULAR ARC"⟩,
    ⟨0x25de, "LOWER ", "RIGHT QUADRANT CIRCULAR ARC,LEFT QUADRANT CIRCULAR ARC"⟩,
    ⟨0x25e0, "", "UPPER HALF CIRCLE,LOWER HALF CIRCLE,BLACK LOWER RIGHT TRIANGLE"⟩,
    ⟨0x25e3, "BLACK ", "LOWER LEFT TRIANGLE,UPPER LEFT TRIANGLE,UPPER RIGHT TRIANGLE"⟩,
    ⟨0x25e6, "", "WHITE BULLET,SQUARE WITH LEFT HALF BLACK,SQUARE WITH RIGHT HALF BLACK"⟩,
    ⟨0x25e9, "SQUARE WITH ", "UPPER LEFT DIAGONAL HALF BLACK,LOWER RIGHT DIAGONAL HALF BLACK"⟩,
    ⟨0x25eb, "WHITE ", "SQUARE WITH VERTICAL BISECTING LINE,UP-POINTING TRIANGLE WITH DOT"⟩,
    ⟨0x25ed, "UP-POINTING TRIANGLE WITH ", "LEFT HALF BLACK,RIGHT HALF BLACK"⟩,
    ⟨0x25ef, "", "LARGE CIRCLE,WHITE SQUARE WITH UPPER LEFT QUADRANT"⟩,
    ⟨0x25f1, "WHITE SQUARE WITH ", "LOWER LEFT QUADRANT,LOWER RIGHT QUADRANT,UPPER RIGHT QUADRANT"⟩,
    ⟨0x25f4, "WHITE CIRCLE WITH ", "UPPER LEFT QUADRANT,LOWER LEFT QUADRANT,LOWER RIGHT QUADRANT"⟩,
    ⟨0x25f7, "", "WHITE CIRCLE WITH UPPER RIGHT QUADRANT,UPPER LEFT TRIANGLE"⟩,
    ⟨0x25f9, "", "UPPER RIGHT TRIANGLE,LOWER LEFT TRIANGLE,WHITE MEDIUM SQUARE"⟩,
    ⟨0x25fc, "", "BLACK MEDIUM SQUARE,WHITE MEDIUM SMALL SQUARE,BLACK MEDIUM SMALL SQUARE"⟩,
    ⟨0x25ff, "", "LOWER RIGHT TRIANGLE,BLACK SUN WITH RAYS,CLOUD,UMBRELLA,SNOWMAN,COMET"⟩,
    ⟨0x2605, "", "BLACK STAR,WHITE STAR,LIGHTNING,THUNDERSTORM,SUN,ASCENDING NODE,DESCENDING NODE"⟩,
    ⟨0x260c, "", "CONJUNCTION,OPPOSITION,BLACK TELEPHONE,WHITE TELEPHONE,BALLOT BOX"⟩,
    ⟨0x2611, "BALLOT BOX WITH ", "CHECK,X"⟩,
    ⟨0x2613, "", "SALTIRE,UMBRELLA WITH RAIN DROPS,HOT BEVERAGE,WHITE SHOGI PIECE"⟩,
    ⟨0x2617, "", "BLACK SHOGI PIECE,SHAMROCK,REVERSED ROTATED FLORAL HEART BULLET"⟩,
    ⟨0x261a, "", "BLACK LEFT POINTING INDEX,BLACK RIGHT POINTING INDEX,WHITE LEFT POINTING INDEX"⟩,
    ⟨0x261d, "WHITE ", "UP POINTING INDEX,RIGHT POINTING INDEX,DOWN POINTING INDEX"⟩,
    ⟨0x2620, "", "SKULL AND CROSSBONES,CAUTION SIGN,RADIOACTIVE SIGN,BIOHAZARD SIGN,CADUCEUS,ANKH"⟩,
    ⟨0x2626, "", "ORTHODOX CROSS,CHI RHO,CROSS OF LORRAINE,CROSS OF JERUSALEM,STAR AND CRESCENT"⟩,
    ⟨0x262b, "", "FARSI SYMBOL,ADI SHAKTI,HAMMER AND SICKLE,PEACE SYMBOL,YIN YANG"⟩,
    ⟨0x2630, "TRIGRAM FOR ", "HEAVEN,LAKE,FIRE,THUNDER,WIND,WATER,MOUNTAIN,EARTH"⟩,
    ⟨0x2638, "", "WHEEL OF DHARMA,WHITE FROWNING FACE,WHITE SMILING FACE,BLACK SMILING FACE"⟩,
    ⟨0x263c, "", "WHITE SUN WITH RAYS,FIRST QUARTER MOON,LAST QUARTER MOON,MERCURY"⟩,
    ⟨0x2640, "", "FEMALE SIGN,EARTH,MALE SIGN,JUPITER,SATURN,URANUS,NEPTUNE,PLUTO,ARIES,TAURUS"⟩,
    ⟨0x264a, "", "GEMINI,CANCER,LEO,VIRGO,LIBRA,SCORPIUS,SAGITTARIUS,CAPRICORN,AQUARIUS,PISCES"⟩,
    ⟨0x2654, "WHITE CHESS ", "KING,QUEEN,ROOK,BISHOP,KNIGHT,PAWN"⟩,
    ⟨0x265a, "BLACK CHESS ", "KING,QUEEN,ROOK,BISHOP,KNIGHT,PAWN"⟩,
    ⟨0x2660, "", "BLACK SPADE SUIT,WHITE HEART SUIT,WHITE DIAMOND SUIT,BLACK CLUB SUIT"⟩,
    ⟨0x2664, "", "WHITE SPADE SUIT,BLACK HEART SUIT,BLACK DIAMOND SUIT,WHITE CLUB SUIT"⟩,
    ⟨0x2668, "", "HOT SPRINGS,QUARTER NOTE,EIGHTH NOTE,BEAMED EIGHTH NOTES,BEAMED SIXTEENTH NOTES"⟩,
    ⟨0x266d, "MUSIC ", "FLAT SIGN,NATURAL SIGN,SHARP SIGN"⟩,
    ⟨0x2670, "", "WEST SYRIAC CROSS,EAST SYRIAC CROSS,UNIVERSAL RECYCLING SYMBOL"⟩,
    ⟨0x2673, "RECYCLING SYMBOL FOR TYPE-", "1 PLASTICS,2 PLASTICS,3 PLASTICS"⟩,
    ⟨0x2676, "RECYCLING SYMBOL FOR TYPE-", "4 PLASTICS,5 PLASTICS,6 PLASTICS,7 PLASTICS"⟩,
    ⟨0x267a, "", "RECYCLING SYMBOL FOR GENERIC MATERIALS,BLACK UNIVERSAL RECYCLING SYMBOL"⟩,
    ⟨0x267c, "", "RECYCLED PAPER SYMBOL,PARTIALLY-RECYCLED PAPER SYMBOL,PERMANENT PAPER SIGN"⟩,
    ⟨0x267f, "", "WHEELCHAIR SYMBOL,DIE FACE-1,DIE FACE-2,DIE FACE-3,DIE FACE-4"⟩,
    ⟨0x2684, "", "DIE FACE-5,DIE FACE-6,WHITE CIRCLE WITH DOT RIGHT,WHITE CIRCLE WITH TWO DOTS"⟩,
    ⟨0x2688, "BLACK CIRCLE WITH ", "WHITE DOT RIGHT,TWO WHITE DOTS"⟩,
    ⟨0x268a, "MONOGRAM FOR ", "YANG,YIN"⟩,
    ⟨0x268c, "DIGRAM FOR ", "GREATER YANG,LESSER YIN,LESSER YANG,GREATER YIN"⟩,
    ⟨0x2690, "", "WHITE FLAG,BLACK FLAG,HAMMER AND PICK,ANCHOR"⟩,
    ⟨0x2694, "", "CROSSED SWORDS,STAFF OF AESCULAPIUS,SCALES,ALEMBIC,FLOWER,GEAR,STAFF OF HERMES"⟩,
    ⟨0x269b, "", "ATOM SYMBOL,FLEUR-DE-LIS,OUTLINED WHITE STAR,THREE LINES CONVERGING RIGHT"⟩,
    ⟨0x269f, "", "THREE LINES CONVERGING LEFT,WARNING SIGN,HIGH VOLTAGE SIGN,DOUBLED FEMALE SIGN"⟩,
    ⟨0x26a3, "", "DOUBLED MALE SIGN,INTERLOCKED FEMALE AND MALE SIGN,MALE AND FEMALE SIGN"⟩,
    ⟨0x26a6, "MALE WITH STROKE ", "SIGN,AND MALE AND FEMALE SIGN"⟩,
    ⟨0x26a8, "", "VERTICAL MALE WITH STROKE SIGN,HORIZONTAL MALE WITH STROKE SIGN"⟩,
    ⟨0x26aa, "MEDIUM ", "WHITE CIRCLE,BLACK CIRCLE,SMALL WHITE CIRCLE"⟩,
    ⟨0x26ad, "", "MARRIAGE SYMBOL,DIVORCE SYMBOL,UNMARRIED PARTNERSHIP SYMBOL"⟩,
    ⟨0x26b0, "", "COFFIN,FUNERAL URN,NEUTER,CERES,PALLAS,JUNO,VESTA,CHIRON,BLACK MOON LILITH"⟩,
    ⟨0x26b9, "", "SEXTILE,SEMISEXTILE,QUINCUNX,SESQUIQUADRATE,SOCCER BALL,BASEBALL,SQUARED KEY"⟩,
    ⟨0x26c0, "", "WHITE DRAUGHTS MAN,WHITE DRAUGHTS KING,BLACK DRAUGHTS MAN,BLACK DRAUGHTS KING"⟩,
    ⟨0x26c4, "", "SNOWMAN WITHOUT SNOW,SUN BEHIND CLOUD,RAIN,BLACK SNOWMAN,THUNDER CLOUD AND RAIN"⟩,
    ⟨0x26c9, "TURNED ", "WHITE SHOGI PIECE,BLACK SHOGI PIECE"⟩,
    ⟨0x26cb, "", "WHITE DIAMOND IN SQUARE,CROSSING LANES,DISABLED CAR,OPHIUCHUS"⟩,
    ⟨0x26cf, "", "PICK,CAR SLIDING,HELMET WITH WHITE CROSS,CIRCLED CROSSING LANES,CHAINS"⟩,
    ⟨0x26d4, "", "NO ENTRY,ALTERNATE ONE-WAY LEFT WAY TRAFFIC,BLACK TWO-WAY LEFT WAY TRAFFIC"⟩,
    ⟨0x26d7, "", "WHITE TWO-WAY LEFT WAY TRAFFIC,BLACK LEFT LANE MERGE,WHITE LEFT LANE MERGE"⟩,
    ⟨0x26da, "", "DRIVE SLOW SIGN,HEAVY WHITE DOWN-POINTING TRIANGLE,LEFT CLOSED ENTRY"⟩,
    ⟨0x26dd, "", "SQUARED SALTIRE,FALLING DIAGONAL IN WHITE CIRCLE IN BLACK SQUARE,BLACK TRUCK"⟩,
    ⟨0x26e0, "RESTRICTED LEFT ENTRY-", "1,2"⟩,
    ⟨0x26e2, "", "ASTRONOMICAL SYMBOL FOR URANUS,HEAVY CIRCLE WITH STROKE AND TWO DOTS ABOVE"⟩,
    ⟨0x26e4, "", "PENTAGRAM,RIGHT-HANDED INTERLACED PENTAGRAM"⟩,
    ⟨0x26e6, "", "LEFT-HANDED INTERLACED PENTAGRAM,INVERTED PENTAGRAM,BLACK CROSS ON SHIELD"⟩,
    ⟨0x26e9, "", "SHINTO SHRINE,CHURCH,CASTLE,HISTORIC SITE,GEAR WITHOUT HUB"⟩,
    ⟨0x26ee, "", "GEAR WITH HANDLES,MAP SYMBOL FOR LIGHTHOUSE,MOUNTAIN,UMBRELLA ON GROUND"⟩,
    ⟨0x26f2, "", "FOUNTAIN,FLAG IN HOLE,FERRY,SAILBOAT,SQUARE FOUR CORNERS,SKIER"⟩,
    ⟨0x26f8, "", "ICE SKATE,PERSON WITH BALL,TENT,JAPANESE BANK SYMBOL,HEADSTONE GRAVEYARD SYMBOL"⟩,
    ⟨0x26fd, "", "FUEL PUMP,CUP ON BLACK SQUARE,WHITE FLAG WITH HORIZONTAL MIDDLE BLACK STRIPE"⟩,
    ⟨0x2700, "", "BLACK SAFETY SCISSORS,UPPER BLADE SCISSORS,BLACK SCISSORS,LOWER BLADE SCISSORS"⟩,
    ⟨0x2704, "", "WHITE SCISSORS,WHITE HEAVY CHECK MARK,TELEPHONE LOCATION SIGN"⟩,
    ⟨0x2707, "", "TAPE DRIVE,AIRPLANE,ENVELOPE,RAISED FIST,RAISED HAND,VICTORY HAND"⟩,
    ⟨0x270d, "", "WRITING HAND,LOWER RIGHT PENCIL,PENCIL,UPPER RIGHT PENCIL,WHITE NIB,BLACK NIB"⟩,
    ⟨0x2713, "", "CHECK MARK,HEAVY CHECK MARK,MULTIPLICATION X,HEAVY MULTIPLICATION X,BALLOT X"⟩,
    ⟨0x2718, "", "HEAVY BALLOT X,OUTLINED GREEK CROSS,HEAVY GREEK CROSS,OPEN CENTRE CROSS"⟩,
    ⟨0x271c, "", "HEAVY OPEN CENTRE CROSS,LATIN CROSS,SHADOWED WHITE LATIN CROSS"⟩,
    ⟨0x271f, "", "OUTLINED LATIN CROSS,MALTESE CROSS,STAR OF DAVID,FOUR TEARDROP-SPOKED ASTERISK"⟩,
    ⟨0x2723, "", "FOUR BALLOON-SPOKED ASTERISK,HEAVY FOUR BALLOON-SPOKED ASTERISK"⟩,
    ⟨0x2725, "", "FOUR CLUB-SPOKED ASTERISK,BLACK FOUR POINTED STAR,WHITE FOUR POINTED STAR"⟩,
    ⟨0x2728, "", "SPARKLES,STRESS OUTLINED WHITE STAR,CIRCLED WHITE STAR,OPEN CENTRE BLACK STAR"⟩,
    ⟨0x272c, "", "BLACK CENTRE WHITE STAR,OUTLINED BLACK STAR,HEAVY OUTLINED BLACK STAR"⟩,
    ⟨0x272f, "", "PINWHEEL STAR,SHADOWED WHITE STAR,HEAVY ASTERISK,OPEN CENTRE ASTERISK"⟩,
    ⟨0x2733, "EIGHT ", "SPOKED ASTERISK,POINTED BLACK STAR,POINTED PINWHEEL STAR"⟩,
    ⟨0x2736, "", "SIX POINTED BLACK STAR"⟩,
    ⟨0x2737, "", "EIGHT POINTED RECTILINEAR BLACK STAR,HEAVY EIGHT POINTED RECTILINEAR BLACK STAR"⟩,
    ⟨0x2739, "", "TWELVE POINTED BLACK STAR,SIXTEEN POINTED ASTERISK"⟩,
    ⟨0x273b, "", "TEARDROP-SPOKED ASTERISK,OPEN CENTRE TEARDROP-SPOKED ASTERISK"⟩,
    ⟨0x273d, "", "HEAVY TEARDROP-SPOKED ASTERISK,SIX PETALLED BLACK AND WHITE FLORETTE"⟩,
    ⟨0x273f, "", "BLACK FLORETTE,WHITE FLORETTE,EIGHT PETALLED OUTLINED BLACK FLORETTE"⟩,
    ⟨0x2742, "", "CIRCLED OPEN CENTRE EIGHT POINTED STAR,HEAVY TEARDROP-SPOKED PINWHEEL ASTERISK"⟩,
    ⟨0x2744, "", "SNOWFLAKE,TIGHT TRIFOLIATE SNOWFLAKE,HEAVY CHEVRON SNOWFLAKE,SPARKLE"⟩,
    ⟨0x2748, "", "HEAVY SPARKLE,BALLOON-SPOKED ASTERISK,EIGHT TEARDROP-SPOKED PROPELLER ASTERISK"⟩,
    ⟨0x274b, "", "HEAVY EIGHT TEARDROP-SPOKED PROPELLER ASTERISK,CROSS MARK,SHADOWED WHITE CIRCLE"⟩,
    ⟨0x274e, "", "NEGATIVE SQUARED CROSS MARK,LOWER RIGHT DROP-SHADOWED WHITE SQUARE"⟩,
    ⟨0x2750, "", "UPPER RIGHT DROP-SHADOWED WHITE SQUARE,LOWER RIGHT SHADOWED WHITE SQUARE"⟩,
    ⟨0x2752, "", "UPPER RIGHT SHADOWED WHITE SQUARE,BLACK QUESTION MARK ORNAMENT"⟩,
    ⟨0x2754, "WHITE ", "QUESTION MARK ORNAMENT,EXCLAMATION MARK ORNAMENT"⟩,
    ⟨0x2756, "", "BLACK DIAMOND MINUS WHITE X,HEAVY EXCLAMATION MARK SYMBOL"⟩,
    ⟨0x2758, "", "LIGHT VERTICAL BAR,MEDIUM VERTICAL BAR,HEAVY VERTICAL BAR"⟩,
    ⟨0x275b, "HEAVY SINGLE ", "TURNED COMMA QUOTATION MARK ORNAMENT,COMMA QUOTATION MARK ORNAMENT"⟩,
    ⟨0x275d, "HEAVY DOUBLE ", "TURNED COMMA QUOTATION MARK ORNAMENT,COMMA QUOTATION MARK ORNAMENT"⟩,
    ⟨0x275f, "", "HEAVY LOW SINGLE COMMA QUOTATION MARK ORNAMENT"⟩,
    ⟨0x2760, "", "HEAVY LOW DOUBLE COMMA QUOTATION MARK ORNAMENT"⟩,
    ⟨0x2761, "", "CURVED STEM PARAGRAPH SIGN ORNAMENT"⟩,
    ⟨0x2762, "HEAVY ", "EXCLAMATION MARK ORNAMENT,HEART EXCLAMATION MARK ORNAMENT,BLACK HEART"⟩,
    ⟨0x2765, "", "ROTATED HEAVY BLACK HEART BULLET,FLORAL HEART,ROTATED FLORAL HEART BULLET"⟩,
    ⟨0x2768, "MEDIUM ", "LEFT PARENTHESIS ORNAMENT,RIGHT PARENTHESIS ORNAMENT"⟩,
    ⟨0x276a, "MEDIUM FLATTENED ", "LEFT PARENTHESIS ORNAMENT,RIGHT PARENTHESIS ORNAMENT"⟩,
    ⟨0x276c, "", "MEDIUM LEFT-POINTING ANGLE BRACKET ORNAMENT"⟩,
    ⟨0x276d, "", "MEDIUM RIGHT-POINTING ANGLE BRACKET ORNAMENT"⟩,
    ⟨0x276e, "", "HEAVY LEFT-POINTING ANGLE QUOTATION MARK ORNAMENT"⟩,
    ⟨0x276f, "", "HEAVY RIGHT-POINTING ANGLE QUOTATION MARK ORNAMENT"⟩,
    ⟨0x2770, "", "HEAVY LEFT-POINTING ANGLE BRACKET ORNAMENT"⟩,
    ⟨0x2771, "", "HEAVY RIGHT-POINTING ANGLE BRACKET ORNAMENT"⟩,
    ⟨0x2772, "", "LIGHT LEFT TORTOISE SHELL BRACKET ORNAMENT"⟩,
    ⟨0x2773, "", "LIGHT RIGHT TORTOISE SHELL BRACKET ORNAMENT"⟩,
    ⟨0x2774, "MEDIUM ", "LEFT CURLY BRACKET ORNAMENT,RIGHT CURLY BRACKET ORNAMENT"⟩,
    ⟨0x2776, "DINGBAT NEGATIVE CIRCLED DIGIT ", "ONE,TWO,THREE,FOUR,FIVE,SIX,SEVEN,EIGHT,NINE"⟩,
    ⟨0x277f, "", "DINGBAT NEGATIVE CIRCLED NUMBER TEN"⟩,
    ⟨0x2780, "DINGBAT CIRCLED SANS-SERIF DIGIT ", "ONE,TWO,THREE,FOUR,FIVE,SIX,SEVEN,EIGHT,NINE"⟩,
    ⟨0x2789, "", "DINGBAT CIRCLED SANS-SERIF NUMBER TEN"⟩,
    ⟨0x278a, "DINGBAT NEGATIVE CIRCLED SANS-SERIF DIGIT ", "ONE,TWO,THREE,FOUR,FIVE,SIX,SEVEN"⟩,
    ⟨0x2791, "DINGBAT NEGATIVE CIRCLED SANS-SERIF ", "DIGIT EIGHT,DIGIT NINE,NUMBER TEN"⟩,
    ⟨0x2794, "HEAVY ", "WIDE-HEADED RIGHTWARDS ARROW,PLUS SIGN,MINUS SIGN"⟩,
    ⟨0x2797, "HEAVY ", "DIVISION SIGN,SOUTH EAST ARROW,RIGHTWARDS ARROW,NORTH EAST ARROW"⟩,
    ⟨0x279b, "", "DRAFTING POINT RIGHTWARDS ARROW"⟩,
    ⟨0x279c, "", "HEAVY ROUND-TIPPED RIGHTWARDS ARROW,TRIANGLE-HEADED RIGHTWARDS ARROW"⟩,
    ⟨0x279e, "", "HEAVY TRIANGLE-HEADED RIGHTWARDS ARROW,DASHED TRIANGLE-HEADED RIGHTWARDS ARROW"⟩,
    ⟨0x27a0, "", "HEAVY DASHED TRIANGLE-HEADED RIGHTWARDS ARROW,BLACK RIGHTWARDS ARROW"⟩,
    ⟨0x27a2, "THREE-D ", "TOP-LIGHTED RIGHTWARDS ARROWHEAD,BOTTOM-LIGHTED RIGHTWARDS ARROWHEAD"⟩,
    ⟨0x27a4, "", "BLACK RIGHTWARDS ARROWHEAD"⟩,
    ⟨0x27a5, "HEAVY BLACK CURVED ", "DOWNWARDS AND RIGHTWARDS ARROW,UPWARDS AND RIGHTWARDS ARROW"⟩,
    ⟨0x27a7, "", "SQUAT BLACK RIGHTWARDS ARROW,HEAVY CONCAVE-POINTED BLACK RIGHTWARDS ARROW"⟩,
    ⟨0x27a9, "", "RIGHT-SHADED WHITE RIGHTWARDS ARROW"⟩,
    ⟨0x27aa, "", "LEFT-SHADED WHITE RIGHTWARDS ARROW,BACK-TILTED SHADOWED WHITE RIGHTWARDS ARROW"⟩,
    ⟨0x27ac, "", "FRONT-TILTED SHADOWED WHITE RIGHTWARDS ARROW"⟩,
    ⟨0x27ad, "", "HEAVY LOWER RIGHT-SHADOWED WHITE RIGHTWARDS ARROW"⟩,
    ⟨0x27ae, "", "HEAVY UPPER RIGHT-SHADOWED WHITE RIGHTWARDS ARROW"⟩,
    ⟨0x27af, "", "NOTCHED LOWER RIGHT-SHADOWED WHITE RIGHTWARDS ARROW"⟩,
    ⟨0x27b0, "", "CURLY LOOP,NOTCHED UPPER RIGHT-SHADOWED WHITE RIGHTWARDS ARROW"⟩,
    ⟨0x27b2, "", "CIRCLED HEAVY WHITE RIGHTWARDS ARROW,WHITE-FEATHERED RIGHTWARDS ARROW"⟩,
    ⟨0x27b4, "BLACK-FEATHERED ", "SOUTH EAST ARROW,RIGHTWARDS ARROW,NORTH EAST ARROW"⟩,
    ⟨0x27b7, "HEAVY BLACK-FEATHERED ", "SOUTH EAST ARROW,RIGHTWARDS ARROW,NORTH EAST ARROW"⟩,
    ⟨0x27ba, "", "TEARDROP-BARBED RIGHTWARDS ARROW,HEAVY TEARDROP-SHANKED RIGHTWARDS ARROW"⟩,
    ⟨0x27bc, "", "WEDGE-TAILED RIGHTWARDS ARROW,HEAVY WEDGE-TAILED RIGHTWARDS ARROW"⟩,
    ⟨0x27be, "", "OPEN-OUTLINED RIGHTWARDS ARROW,DOUBLE CURLY LOOP,THREE DIMENSIONAL ANGLE"⟩,
    ⟨0x27c1, "", "WHITE TRIANGLE CONTAINING SMALL WHITE TRIANGLE,PERPENDICULAR,OPEN SUBSET"⟩,
    ⟨0x27c4, "", "OPEN SUPERSET,LEFT S-SHAPED BAG DELIMITER,RIGHT S-SHAPED BAG DELIMITER"⟩,
    ⟨0x27c7, "", "OR WITH DOT INSIDE,REVERSE SOLIDUS PRECEDING SUBSET,SUPERSET PRECEDING SOLIDUS"⟩,
    ⟨0x27ca, "", "VERTICAL BAR WITH HORIZONTAL STROKE,MATHEMATICAL RISING DIAGONAL,LONG DIVISION"⟩,
    ⟨0x27cd, "", "MATHEMATICAL FALLING DIAGONAL,SQUARED LOGICAL AND,SQUARED LOGICAL OR"⟩,
    ⟨0x27d0, "", "WHITE DIAMOND WITH CENTRED DOT,AND WITH DOT,ELEMENT OF OPENING UPWARDS"⟩,
    ⟨0x27d3, "", "LOWER RIGHT CORNER WITH DOT,UPPER LEFT CORNER WITH DOT"⟩,
    ⟨0x27d5, "", "LEFT OUTER JOIN,RIGHT OUTER JOIN,FULL OUTER JOIN,LARGE UP TACK,LARGE DOWN TACK"⟩,
    ⟨0x27da, "LEFT AND RIGHT ", "DOUBLE TURNSTILE,TACK"⟩,
    ⟨0x27dc, "", "LEFT MULTIMAP,LONG RIGHT TACK,LONG LEFT TACK,UP TACK WITH CIRCLE ABOVE"⟩,
    ⟨0x27e0, "", "LOZENGE DIVIDED BY HORIZONTAL RULE,WHITE CONCAVE-SIDED DIAMOND"⟩,
    ⟨0x27e2, "WHITE CONCAVE-SIDED DIAMOND WITH ", "LEFTWARDS TICK,RIGHTWARDS TICK"⟩,
    ⟨0x27e4, "WHITE SQUARE WITH ", "LEFTWARDS TICK,RIGHTWARDS TICK"⟩,
    ⟨0x27e6, "MATHEMATICAL ", "LEFT WHITE SQUARE BRACKET,RIGHT WHITE SQUARE BRACKET"⟩,
    ⟨0x27e8, "MATHEMATICAL ", "LEFT ANGLE BRACKET,RIGHT ANGLE BRACKET,LEFT DOUBLE ANGLE BRACKET"⟩,
    ⟨0x27eb, "MATHEMATICAL ", "RIGHT DOUBLE ANGLE BRACKET,LEFT WHITE TORTOISE SHELL BRACKET"⟩,
    ⟨0x27ed, "MATHEMATICAL ", "RIGHT WHITE TORTOISE SHELL BRACKET,LEFT FLATTENED PARENTHESIS"⟩,
    ⟨0x27ef, "", "MATHEMATICAL RIGHT FLATTENED PARENTHESIS,UPWARDS QUADRUPLE ARROW"⟩,
    ⟨0x27f1, "", "DOWNWARDS QUADRUPLE ARROW,ANTICLOCKWISE GAPPED CIRCLE ARROW"⟩,
    ⟨0x27f3, "", "CLOCKWISE GAPPED CIRCLE ARROW,RIGHT ARROW WITH CIRCLED PLUS"⟩,
    ⟨0x27f5, "LONG ", "LEFTWARDS ARROW,RIGHTWARDS ARROW,LEFT RIGHT ARROW,LEFTWARDS DOUBLE ARROW"⟩,
    ⟨0x27f9, "LONG ", "RIGHTWARDS DOUBLE ARROW,LEFT RIGHT DOUBLE ARROW,LEFTWARDS ARROW FROM BAR"⟩,
    ⟨0x27fc, "LONG ", "RIGHTWARDS ARROW FROM BAR,LEFTWARDS DOUBLE ARROW FROM BAR"⟩,
    ⟨0x27fe, "LONG RIGHTWARDS ", "DOUBLE ARROW FROM BAR,SQUIGGLE ARROW"⟩,
    ⟨0x2800, "", "BRAILLE PATTERN BLANK"⟩,
    ⟨0x2801, "BRAILLE PATTERN DOTS-", "1,2,12,3,13,23,123,4,14,24,124,34"⟩,
    ⟨0x280d, "BRAILLE PATTERN DOTS-", "134,234,1234,5,15,25,125,35,135,235,1235,45,145,245,1245"⟩,
    ⟨0x281c, "BRAILLE PATTERN DOTS-", "345,1345,2345,12345,6,16,26,126,36,136,236,1236,46,146"⟩,
    ⟨0x282a, "BRAILLE PATTERN DOTS-", "246,1246,346,1346,2346,12346,56,156,256,1256,356,1356,2356"⟩,
    ⟨0x2837, "BRAILLE PATTERN DOTS-", "12356,456,1456,2456,12456,3456,13456,23456,123456,7,17"⟩,
    ⟨0x2842, "BRAILLE PATTERN DOTS-", "27,127,37,137,237,1237,47,147,247,1247,347,1347,2347,12347"⟩,
    ⟨0x2850, "BRAILLE PATTERN DOTS-", "57,157,257,1257,357,1357,2357,12357,457,1457,2457,12457"⟩,
    ⟨0x285c, "BRAILLE PATTERN DOTS-", "3457,13457,23457,123457,67,167,267,1267,367,1367,2367"⟩,
    ⟨0x2867, "BRAILLE PATTERN DOTS-", "12367,467,1467,2467,12467,3467,13467,23467,123467,567,1567"⟩,
    ⟨0x2872, "BRAILLE PATTERN DOTS-", "2567,12567,3567,13567,23567,123567,4567,14567,24567,124567"⟩,
    ⟨0x287c, "BRAILLE PATTERN DOTS-", "34567,134567,234567,1234567,8,18,28,128,38,138,238,1238,48"⟩,
    ⟨0x2889, "BRAILLE PATTERN DOTS-", "148,248,1248,348,1348,2348,12348,58,158,258,1258,358,1358"⟩,
    ⟨0x2896, "BRAILLE PATTERN DOTS-", "2358,12358,458,1458,2458,12458,3458,13458,23458,123458"⟩,
    ⟨0x28a0, "BRAILLE PATTERN DOTS-", "68,168,268,1268,368,1368,2368,12368,468,1468,2468,12468"⟩,
    ⟨0x28ac, "BRAILLE PATTERN DOTS-", "3468,13468,23468,123468,568,1568,2568,12568,3568,13568"⟩,
    ⟨0x28b6, "BRAILLE PATTERN DOTS-", "23568,123568,4568,14568,24568,124568,34568,134568,234568"⟩,
    ⟨0x28bf, "BRAILLE PATTERN DOTS-", "1234568,78,178,278,1278,378,1378,2378,12378,478,1478"⟩,
    ⟨0x28ca, "BRAILLE PATTERN DOTS-", "2478,12478,3478,13478,23478,123478,578,1578,2578,12578"⟩,
    ⟨0x28d4, "BRAILLE PATTERN DOTS-", "3578,13578,23578,123578,4578,14578,24578,124578,34578"⟩,
    ⟨0x28dd, "BRAILLE PATTERN DOTS-", "134578,234578,1234578,678,1678,2678,12678,3678,13678,23678"⟩,
    ⟨0x28e7, "BRAILLE PATTERN DOTS-", "123678,4678,14678,24678,124678,34678,134678,234678,1234678"⟩,
    ⟨0x28f0, "BRAILLE PATTERN DOTS-", "5678,15678,25678,125678,35678,135678,235678,1235678,45678"⟩,
    ⟨0x28f9, "BRAILLE PATTERN DOTS-", "145678,245678,1245678,345678,1345678,2345678,12345678"⟩,
    ⟨0x2900, "RIGHTWARDS TWO-HEADED ARROW WITH ", "VERTICAL STROKE,DOUBLE VERTICAL STROKE"⟩,
    ⟨0x2902, "", "LEFTWARDS DOUBLE ARROW WITH VERTICAL STROKE"⟩,
    ⟨0x2903, "", "RIGHTWARDS DOUBLE ARROW WITH VERTICAL STROKE"⟩,
    ⟨0x2904, "", "LEFT RIGHT DOUBLE ARROW WITH VERTICAL STROKE"⟩,
    ⟨0x2905, "", "RIGHTWARDS TWO-HEADED ARROW FROM BAR,LEFTWARDS DOUBLE ARROW FROM BAR"⟩,
    ⟨0x2907, "", "RIGHTWARDS DOUBLE ARROW FROM BAR,DOWNWARDS ARROW WITH HORIZONTAL STROKE"⟩,
    ⟨0x2909, "UPWARDS ", "ARROW WITH HORIZONTAL STROKE,TRIPLE ARROW"⟩,
    ⟨0x290b, "", "DOWNWARDS TRIPLE ARROW,LEFTWARDS DOUBLE DASH ARROW"⟩,
    ⟨0x290d, "", "RIGHTWARDS DOUBLE DASH ARROW,LEFTWARDS TRIPLE DASH ARROW"⟩,
    ⟨0x290f, "RIGHTWARDS ", "TRIPLE DASH ARROW,TWO-HEADED TRIPLE DASH ARROW"⟩,
    ⟨0x2911, "", "RIGHTWARDS ARROW WITH DOTTED STEM,UPWARDS ARROW TO BAR,DOWNWARDS ARROW TO BAR"⟩,
    ⟨0x2914, "RIGHTWARDS ARROW WITH TAIL WITH ", "VERTICAL STROKE,DOUBLE VERTICAL STROKE"⟩,
    ⟨0x2916, "RIGHTWARDS TWO-HEADED ARROW WITH ", "TAIL,TAIL WITH VERTICAL STROKE"⟩,
    ⟨0x2918, "", "RIGHTWARDS TWO-HEADED ARROW WITH TAIL WITH DOUBLE VERTICAL STROKE"⟩,
    ⟨0x2919, "", "LEFTWARDS ARROW-TAIL,RIGHTWARDS ARROW-TAIL,LEFTWARDS DOUBLE ARROW-TAIL"⟩,
    ⟨0x291c, "", "RIGHTWARDS DOUBLE ARROW-TAIL,LEFTWARDS ARROW TO BLACK DIAMOND"⟩,
    ⟨0x291e, "", "RIGHTWARDS ARROW TO BLACK DIAMOND,LEFTWARDS ARROW FROM BAR TO BLACK DIAMOND"⟩,
    ⟨0x2920, "", "RIGHTWARDS ARROW FROM BAR TO BLACK DIAMOND,NORTH WEST AND SOUTH EAST ARROW"⟩,
    ⟨0x2922, "NORTH ", "EAST AND SOUTH WEST ARROW,WEST ARROW WITH HOOK,EAST ARROW WITH HOOK"⟩,
    ⟨0x2925, "SOUTH ", "EAST ARROW WITH HOOK,WEST ARROW WITH HOOK"⟩,
    ⟨0x2927, "NORTH ", "WEST ARROW AND NORTH EAST ARROW,EAST ARROW AND SOUTH EAST ARROW"⟩,
    ⟨0x2929, "SOUTH ", "EAST ARROW AND SOUTH WEST ARROW,WEST ARROW AND NORTH WEST ARROW"⟩,
    ⟨0x292b, "", "RISING DIAGONAL CROSSING FALLING DIAGONAL"⟩,
    ⟨0x292c, "", "FALLING DIAGONAL CROSSING RISING DIAGONAL"⟩,
    ⟨0x292d, "", "SOUTH EAST ARROW CROSSING NORTH EAST ARROW"⟩,
    ⟨0x292e, "", "NORTH EAST ARROW CROSSING SOUTH EAST ARROW"⟩,
    ⟨0x292f, "", "FALLING DIAGONAL CROSSING NORTH EAST ARROW"⟩,
    ⟨0x2930, "", "RISING DIAGONAL CROSSING SOUTH EAST ARROW"⟩,
    ⟨0x2931, "NORTH ", "EAST ARROW CROSSING NORTH WEST ARROW,WEST ARROW CROSSING NORTH EAST ARROW"⟩,
    ⟨0x2933, "", "WAVE ARROW POINTING DIRECTLY RIGHT"⟩,
    ⟨0x2934, "ARROW POINTING RIGHTWARDS THEN CURVING ", "UPWARDS,DOWNWARDS"⟩,
    ⟨0x2936, "ARROW POINTING DOWNWARDS THEN CURVING ", "LEFTWARDS,RIGHTWARDS"⟩,
    ⟨0x2938, "", "RIGHT-SIDE ARC CLOCKWISE ARROW,LEFT-SIDE ARC ANTICLOCKWISE ARROW"⟩,
    ⟨0x293a, "", "TOP ARC ANTICLOCKWISE ARROW,BOTTOM ARC ANTICLOCKWISE ARROW"⟩,
    ⟨0x293c, "TOP ARC ", "CLOCKWISE ARROW WITH MINUS,ANTICLOCKWISE ARROW WITH PLUS"⟩,
    ⟨0x293e, "LOWER ", "RIGHT SEMICIRCULAR CLOCKWISE ARROW,LEFT SEMICIRCULAR ANTICLOCKWISE ARROW"⟩,
    ⟨0x2940, "", "ANTICLOCKWISE CLOSED CIRCLE ARROW"⟩,
    ⟨0x2941, "", "CLOCKWISE CLOSED CIRCLE ARROW,RIGHTWARDS ARROW ABOVE SHORT LEFTWARDS ARROW"⟩,
    ⟨0x2943, "", "LEFTWARDS ARROW ABOVE SHORT RIGHTWARDS ARROW"⟩,
    ⟨0x2944, "", "SHORT RIGHTWARDS ARROW ABOVE LEFTWARDS ARROW"⟩,
    ⟨0x2945, "", "RIGHTWARDS ARROW WITH PLUS BELOW,LEFTWARDS ARROW WITH PLUS BELOW"⟩,
    ⟨0x2947, "", "RIGHTWARDS ARROW THROUGH X,LEFT RIGHT ARROW THROUGH SMALL CIRCLE"⟩,
    ⟨0x2949, "", "UPWARDS TWO-HEADED ARROW FROM SMALL CIRCLE"⟩,
    ⟨0x294a, "LEFT BARB ", "UP RIGHT BARB DOWN HARPOON,DOWN RIGHT BARB UP HARPOON"⟩,
    ⟨0x294c, "UP BARB ", "RIGHT DOWN BARB LEFT HARPOON,LEFT DOWN BARB RIGHT HARPOON"⟩,
    ⟨0x294e, "", "LEFT BARB UP RIGHT BARB UP HARPOON,UP BARB RIGHT DOWN BARB RIGHT HARPOON"⟩,
    ⟨0x2950, "", "LEFT BARB DOWN RIGHT BARB DOWN HARPOON,UP BARB LEFT DOWN BARB LEFT HARPOON"⟩,
    ⟨0x2952, "", "LEFTWARDS HARPOON WITH BARB UP TO BAR,RIGHTWARDS HARPOON WITH BARB UP TO BAR"⟩,
    ⟨0x2954, "", "UPWARDS HARPOON WITH BARB RIGHT TO BAR,DOWNWARDS HARPOON WITH BARB RIGHT TO BAR"⟩,
    ⟨0x2956, "", "LEFTWARDS HARPOON WITH BARB DOWN TO BAR"⟩,
    ⟨0x2957, "", "RIGHTWARDS HARPOON WITH BARB DOWN TO BAR,UPWARDS HARPOON WITH BARB LEFT TO BAR"⟩,
    ⟨0x2959, "", "DOWNWARDS HARPOON WITH BARB LEFT TO BAR,LEFTWARDS HARPOON WITH BARB UP FROM BAR"⟩,
    ⟨0x295b, "", "RIGHTWARDS HARPOON WITH BARB UP FROM BAR"⟩,
    ⟨0x295c, "", "UPWARDS HARPOON WITH BARB RIGHT FROM BAR"⟩,
    ⟨0x295d, "", "DOWNWARDS HARPOON WITH BARB RIGHT FROM BAR"⟩,
    ⟨0x295e, "", "LEFTWARDS HARPOON WITH BARB DOWN FROM BAR"⟩,
    ⟨0x295f, "", "RIGHTWARDS HARPOON WITH BARB DOWN FROM BAR"⟩,
    ⟨0x2960, "", "UPWARDS HARPOON WITH BARB LEFT FROM BAR"⟩,
    ⟨0x2961, "", "DOWNWARDS HARPOON WITH BARB LEFT FROM BAR"⟩,
    ⟨0x2962, "", "LEFTWARDS HARPOON WITH BARB UP ABOVE LEFTWARDS HARPOON WITH BARB DOWN"⟩,
    ⟨0x2963, "", "UPWARDS HARPOON WITH BARB LEFT BESIDE UPWARDS HARPOON WITH BARB RIGHT"⟩,
    ⟨0x2964, "", "RIGHTWARDS HARPOON WITH BARB UP ABOVE RIGHTWARDS HARPOON WITH BARB DOWN"⟩,
    ⟨0x2965, "", "DOWNWARDS HARPOON WITH BARB LEFT BESIDE DOWNWARDS HARPOON WITH BARB RIGHT"⟩,
    ⟨0x2966, "", "LEFTWARDS HARPOON WITH BARB UP ABOVE RIGHTWARDS HARPOON WITH BARB UP"⟩,
    ⟨0x2967, "", "LEFTWARDS HARPOON WITH BARB DOWN ABOVE RIGHTWARDS HARPOON WITH BARB DOWN"⟩,
    ⟨0x2968, "", "RIGHTWARDS HARPOON WITH BARB UP ABOVE LEFTWARDS HARPOON WITH BARB UP"⟩,
    ⟨0x2969, "", "RIGHTWARDS HARPOON WITH BARB DOWN ABOVE LEFTWARDS HARPOON WITH BARB DOWN"⟩,
    ⟨0x296a, "LEFTWARDS HARPOON WITH BARB ", "UP ABOVE LONG DASH,DOWN BELOW LONG DASH"⟩,
    ⟨0x296c, "RIGHTWARDS HARPOON WITH BARB ", "UP ABOVE LONG DASH,DOWN BELOW LONG DASH"⟩,
    ⟨0x296e, "", "UPWARDS HARPOON WITH BARB LEFT BESIDE DOWNWARDS HARPOON WITH BARB RIGHT"⟩,
    ⟨0x296f, "", "DOWNWARDS HARPOON WITH BARB LEFT BESIDE UPWARDS HARPOON WITH BARB RIGHT"⟩,
    ⟨0x2970, "", "RIGHT DOUBLE ARROW WITH ROUNDED HEAD,EQUALS SIGN ABOVE RIGHTWARDS ARROW"⟩,
    ⟨0x2972, "", "TILDE OPERATOR ABOVE RIGHTWARDS ARROW,LEFTWARDS ARROW ABOVE TILDE OPERATOR"⟩,
    ⟨0x2974, "RIGHTWARDS ARROW ABOVE ", "TILDE OPERATOR,ALMOST EQUAL TO"⟩,
    ⟨0x2976, "", "LESS-THAN ABOVE LEFTWARDS ARROW,LEFTWARDS ARROW THROUGH LESS-THAN"⟩,
    ⟨0x2978, "", "GREATER-THAN ABOVE RIGHTWARDS ARROW,SUBSET ABOVE RIGHTWARDS ARROW"⟩,
    ⟨0x297a, "", "LEFTWARDS ARROW THROUGH SUBSET,SUPERSET ABOVE LEFTWARDS ARROW,LEFT FISH TAIL"⟩,
    ⟨0x297d, "", "RIGHT FISH TAIL,UP FISH TAIL,DOWN FISH TAIL,TRIPLE VERTICAL BAR DELIMITER"⟩,
    ⟨0x2981, "", "Z NOTATION SPOT,Z NOTATION TYPE COLON,LEFT WHITE CURLY BRACKET"⟩,
    ⟨0x2984, "", "RIGHT WHITE CURLY BRACKET,LEFT WHITE PARENTHESIS,RIGHT WHITE PARENTHESIS"⟩,
    ⟨0x2987, "Z NOTATION ", "LEFT IMAGE BRACKET,RIGHT IMAGE BRACKET,LEFT BINDING BRACKET"⟩,
    ⟨0x298a, "", "Z NOTATION RIGHT BINDING BRACKET,LEFT SQUARE BRACKET WITH UNDERBAR"⟩,
    ⟨0x298c, "", "RIGHT SQUARE BRACKET WITH UNDERBAR,LEFT SQUARE BRACKET WITH TICK IN TOP CORNER"⟩,
    ⟨0x298e, "", "RIGHT SQUARE BRACKET WITH TICK IN BOTTOM CORNER"⟩,
    ⟨0x298f, "", "LEFT SQUARE BRACKET WITH TICK IN BOTTOM CORNER"⟩,
    ⟨0x2990, "", "RIGHT SQUARE BRACKET WITH TICK IN TOP CORNER,LEFT ANGLE BRACKET WITH DOT"⟩,
    ⟨0x2992, "", "RIGHT ANGLE BRACKET WITH DOT,LEFT ARC LESS-THAN BRACKET"⟩,
    ⟨0x2994, "", "RIGHT ARC GREATER-THAN BRACKET,DOUBLE LEFT ARC GREATER-THAN BRACKET"⟩,
    ⟨0x2996, "", "DOUBLE RIGHT ARC LESS-THAN BRACKET,LEFT BLACK TORTOISE SHELL BRACKET"⟩,
    ⟨0x2998, "", "RIGHT BLACK TORTOISE SHELL BRACKET,DOTTED FENCE,VERTICAL ZIGZAG LINE"⟩,
    ⟨0x299b, "", "MEASURED ANGLE OPENING LEFT,RIGHT ANGLE VARIANT WITH SQUARE"⟩,
    ⟨0x299d, "", "MEASURED RIGHT ANGLE WITH DOT,ANGLE WITH S INSIDE,ACUTE ANGLE"⟩,
    ⟨0x29a0, "SPHERICAL ANGLE OPENING ", "LEFT,UP"⟩,
    ⟨0x29a2, "", "TURNED ANGLE,REVERSED ANGLE,ANGLE WITH UNDERBAR,REVERSED ANGLE WITH UNDERBAR"⟩,
    ⟨0x29a6, "OBLIQUE ANGLE OPENING ", "UP,DOWN"⟩,
    ⟨0x29a8, "MEASURED ANGLE WITH OPEN ARM ENDING IN ARROW POINTING UP AND ", "RIGHT,LEFT"⟩,
    ⟨0x29aa, "MEASURED ANGLE WITH OPEN ARM ENDING IN ARROW POINTING DOWN AND ", "RIGHT,LEFT"⟩,
    ⟨0x29ac, "MEASURED ANGLE WITH OPEN ARM ENDING IN ARROW POINTING ", "RIGHT AND UP,LEFT AND UP"⟩,
    ⟨0x29ae, "", "MEASURED ANGLE WITH OPEN ARM ENDING IN ARROW POINTING RIGHT AND DOWN"⟩,
    ⟨0x29af, "", "MEASURED ANGLE WITH OPEN ARM ENDING IN ARROW POINTING LEFT AND DOWN"⟩,
    ⟨0x29b0, "", "REVERSED EMPTY SET"⟩,
    ⟨0x29b1, "EMPTY SET WITH ", "OVERBAR,SMALL CIRCLE ABOVE,RIGHT ARROW ABOVE,LEFT ARROW ABOVE"⟩,
    ⟨0x29b5, "", "CIRCLE WITH HORIZONTAL BAR"⟩,
    ⟨0x29b6, "CIRCLED ", "VERTICAL BAR,PARALLEL,REVERSE SOLIDUS,PERPENDICULAR"⟩,
    ⟨0x29ba, "", "CIRCLE DIVIDED BY HORIZONTAL BAR AND TOP HALF DIVIDED BY VERTICAL BAR"⟩,
    ⟨0x29bb, "", "CIRCLE WITH SUPERIMPOSED X,CIRCLED ANTICLOCKWISE-ROTATED DIVISION SIGN"⟩,
    ⟨0x29bd, "", "UP ARROW THROUGH CIRCLE,CIRCLED WHITE BULLET,CIRCLED BULLET"⟩,
    ⟨0x29c0, "", "CIRCLED LESS-THAN,CIRCLED GREATER-THAN,CIRCLE WITH SMALL CIRCLE TO THE RIGHT"⟩,
    ⟨0x29c3, "", "CIRCLE WITH TWO HORIZONTAL STROKES TO THE RIGHT,SQUARED RISING DIAGONAL SLASH"⟩,
    ⟨0x29c5, "SQUARED ", "FALLING DIAGONAL SLASH,ASTERISK,SMALL CIRCLE,SQUARE"⟩,
    ⟨0x29c9, "", "TWO JOINED SQUARES,TRIANGLE WITH DOT ABOVE,TRIANGLE WITH UNDERBAR"⟩,
    ⟨0x29cc, "", "S IN TRIANGLE,TRIANGLE WITH SERIFS AT BOTTOM,RIGHT TRIANGLE ABOVE LEFT TRIANGLE"⟩,
    ⟨0x29cf, "", "LEFT TRIANGLE BESIDE VERTICAL BAR,VERTICAL BAR BESIDE RIGHT TRIANGLE"⟩,
    ⟨0x29d1, "BOWTIE WITH ", "LEFT HALF BLACK,RIGHT HALF BLACK"⟩,
    ⟨0x29d3, "", "BLACK BOWTIE,TIMES WITH LEFT HALF BLACK,TIMES WITH RIGHT HALF BLACK"⟩,
    ⟨0x29d6, "", "WHITE HOURGLASS,BLACK HOURGLASS,LEFT WIGGLY FENCE,RIGHT WIGGLY FENCE"⟩,
    ⟨0x29da, "", "LEFT DOUBLE WIGGLY FENCE,RIGHT DOUBLE WIGGLY FENCE,INCOMPLETE INFINITY"⟩,
    ⟨0x29dd, "", "TIE OVER INFINITY,INFINITY NEGATED WITH VERTICAL BAR,DOUBLE-ENDED MULTIMAP"⟩,
    ⟨0x29e0, "", "SQUARE WITH CONTOURED OUTLINE,INCREASES AS,SHUFFLE PRODUCT"⟩,
    ⟨0x29e3, "EQUALS SIGN AND SLANTED ", "PARALLEL,PARALLEL WITH TILDE ABOVE"⟩,
    ⟨0x29e5, "", "IDENTICAL TO AND SLANTED PARALLEL,GLEICH STARK,THERMODYNAMIC"⟩,
    ⟨0x29e8, "DOWN-POINTING TRIANGLE WITH ", "LEFT HALF BLACK,RIGHT HALF BLACK"⟩,
    ⟨0x29ea, "BLACK ", "DIAMOND WITH DOWN ARROW,LOZENGE"⟩,
    ⟨0x29ec, "", "WHITE CIRCLE WITH DOWN ARROW,BLACK CIRCLE WITH DOWN ARROW"⟩,
    ⟨0x29ee, "ERROR-BARRED ", "WHITE SQUARE,BLACK SQUARE,WHITE DIAMOND,BLACK DIAMOND,WHITE CIRCLE"⟩,
    ⟨0x29f3, "", "ERROR-BARRED BLACK CIRCLE,RULE-DELAYED,REVERSE SOLIDUS OPERATOR"⟩,
    ⟨0x29f6, "", "SOLIDUS WITH OVERBAR,REVERSE SOLIDUS WITH HORIZONTAL STROKE,BIG SOLIDUS"⟩,
    ⟨0x29f9, "", "BIG REVERSE SOLIDUS,DOUBLE PLUS,TRIPLE PLUS,LEFT-POINTING CURVED ANGLE BRACKET"⟩,
    ⟨0x29fd, "", "RIGHT-POINTING CURVED ANGLE BRACKET,TINY,MINY,N-ARY CIRCLED DOT OPERATOR"⟩,
    ⟨0x2a01, "N-ARY ", "CIRCLED PLUS OPERATOR,CIRCLED TIMES OPERATOR,UNION OPERATOR WITH DOT"⟩,
    ⟨0x2a04, "N-ARY ", "UNION OPERATOR WITH PLUS,SQUARE INTERSECTION OPERATOR"⟩,
    ⟨0x2a06, "", "N-ARY SQUARE UNION OPERATOR,TWO LOGICAL AND OPERATOR"⟩,
    ⟨0x2a08, "", "TWO LOGICAL OR OPERATOR,N-ARY TIMES OPERATOR,MODULO TWO SUM"⟩,
    ⟨0x2a0b, "", "SUMMATION WITH INTEGRAL,QUADRUPLE INTEGRAL OPERATOR,FINITE PART INTEGRAL"⟩,
    ⟨0x2a0e, "", "INTEGRAL WITH DOUBLE STROKE,INTEGRAL AVERAGE WITH SLASH,CIRCULATION FUNCTION"⟩,
    ⟨0x2a11, "", "ANTICLOCKWISE INTEGRATION,LINE INTEGRATION WITH RECTANGULAR PATH AROUND POLE"⟩,
    ⟨0x2a13, "LINE INTEGRATION ", "WITH SEMICIRCULAR PATH AROUND POLE,NOT INCLUDING THE POLE"⟩,
    ⟨0x2a15, "", "INTEGRAL AROUND A POINT OPERATOR,QUATERNION INTEGRAL OPERATOR"⟩,
    ⟨0x2a17, "INTEGRAL WITH ", "LEFTWARDS ARROW WITH HOOK,TIMES SIGN,INTERSECTION,UNION,OVERBAR"⟩,
    ⟨0x2a1c, "", "INTEGRAL WITH UNDERBAR,JOIN,LARGE LEFT TRIANGLE OPERATOR"⟩,
    ⟨0x2a1f, "Z NOTATION SCHEMA ", "COMPOSITION,PIPING,PROJECTION"⟩,
    ⟨0x2a22, "PLUS SIGN WITH ", "SMALL CIRCLE ABOVE,CIRCUMFLEX ACCENT ABOVE"⟩,
    ⟨0x2a24, "PLUS SIGN WITH ", "TILDE ABOVE,DOT BELOW,TILDE BELOW,SUBSCRIPT TWO,BLACK TRIANGLE"⟩,
    ⟨0x2a29, "MINUS SIGN WITH ", "COMMA ABOVE,DOT BELOW,FALLING DOTS,RISING DOTS"⟩,
    ⟨0x2a2d, "PLUS SIGN IN ", "LEFT HALF CIRCLE,RIGHT HALF CIRCLE"⟩,
    ⟨0x2a2f, "", "VECTOR OR CROSS PRODUCT"⟩,
    ⟨0x2a30, "MULTIPLICATION SIGN WITH ", "DOT ABOVE,UNDERBAR"⟩,
    ⟨0x2a32, "", "SEMIDIRECT PRODUCT WITH BOTTOM CLOSED,SMASH PRODUCT"⟩,
    ⟨0x2a34, "MULTIPLICATION SIGN IN ", "LEFT HALF CIRCLE,RIGHT HALF CIRCLE"⟩,
    ⟨0x2a36, "", "CIRCLED MULTIPLICATION SIGN WITH CIRCUMFLEX ACCENT"⟩,
    ⟨0x2a37, "", "MULTIPLICATION SIGN IN DOUBLE CIRCLE,CIRCLED DIVISION SIGN"⟩,
    ⟨0x2a39, "", "PLUS SIGN IN TRIANGLE,MINUS SIGN IN TRIANGLE,MULTIPLICATION SIGN IN TRIANGLE"⟩,
    ⟨0x2a3c, "", "INTERIOR PRODUCT,RIGHTHAND INTERIOR PRODUCT,Z NOTATION RELATIONAL COMPOSITION"⟩,
    ⟨0x2a3f, "", "AMALGAMATION OR COPRODUCT,INTERSECTION WITH DOT,UNION WITH MINUS SIGN"⟩,
    ⟨0x2a42, "", "UNION WITH OVERBAR,INTERSECTION WITH OVERBAR,INTERSECTION WITH LOGICAL AND"⟩,
    ⟨0x2a45, "UNION ", "WITH LOGICAL OR,ABOVE INTERSECTION"⟩,
    ⟨0x2a47, "", "INTERSECTION ABOVE UNION,UNION ABOVE BAR ABOVE INTERSECTION"⟩,
    ⟨0x2a49, "", "INTERSECTION ABOVE BAR ABOVE UNION,UNION BESIDE AND JOINED WITH UNION"⟩,
    ⟨0x2a4b, "", "INTERSECTION BESIDE AND JOINED WITH INTERSECTION,CLOSED UNION WITH SERIFS"⟩,
    ⟨0x2a4d, "", "CLOSED INTERSECTION WITH SERIFS,DOUBLE SQUARE INTERSECTION,DOUBLE SQUARE UNION"⟩,
    ⟨0x2a50, "", "CLOSED UNION WITH SERIFS AND SMASH PRODUCT,LOGICAL AND WITH DOT ABOVE"⟩,
    ⟨0x2a52, "", "LOGICAL OR WITH DOT ABOVE,DOUBLE LOGICAL AND,DOUBLE LOGICAL OR"⟩,
    ⟨0x2a55, "TWO INTERSECTING LOGICAL ", "AND,OR"⟩,
    ⟨0x2a57, "", "SLOPING LARGE OR,SLOPING LARGE AND,LOGICAL OR OVERLAPPING LOGICAL AND"⟩,
    ⟨0x2a5a, "LOGICAL ", "AND WITH MIDDLE STEM,OR WITH MIDDLE STEM,AND WITH HORIZONTAL DASH"⟩,
    ⟨0x2a5d, "LOGICAL ", "OR WITH HORIZONTAL DASH,AND WITH DOUBLE OVERBAR,AND WITH UNDERBAR"⟩,
    ⟨0x2a60, "", "LOGICAL AND WITH DOUBLE UNDERBAR,SMALL VEE WITH UNDERBAR"⟩,
    ⟨0x2a62, "LOGICAL OR WITH DOUBLE ", "OVERBAR,UNDERBAR"⟩,
    ⟨0x2a64, "Z NOTATION ", "DOMAIN ANTIRESTRICTION,RANGE ANTIRESTRICTION"⟩,
    ⟨0x2a66, "", "EQUALS SIGN WITH DOT BELOW,IDENTICAL WITH DOT ABOVE"⟩,
    ⟨0x2a68, "TRIPLE HORIZONTAL BAR WITH ", "DOUBLE VERTICAL STROKE,TRIPLE VERTICAL STROKE"⟩,
    ⟨0x2a6a, "TILDE OPERATOR WITH ", "DOT ABOVE,RISING DOTS"⟩,
    ⟨0x2a6c, "", "SIMILAR MINUS SIMILAR,CONGRUENT WITH DOT ABOVE"⟩,
    ⟨0x2a6e, "", "EQUALS WITH ASTERISK,ALMOST EQUAL TO WITH CIRCUMFLEX ACCENT"⟩,
    ⟨0x2a70, "", "APPROXIMATELY EQUAL OR EQUAL TO,EQUALS SIGN ABOVE PLUS SIGN"⟩,
    ⟨0x2a72, "", "PLUS SIGN ABOVE EQUALS SIGN,EQUALS SIGN ABOVE TILDE OPERATOR"⟩,
    ⟨0x2a74, "", "DOUBLE COLON EQUAL,TWO CONSECUTIVE EQUALS SIGNS,THREE CONSECUTIVE EQUALS SIGNS"⟩,
    ⟨0x2a77, "", "EQUALS SIGN WITH TWO DOTS ABOVE AND TWO DOTS BELOW"⟩,
    ⟨0x2a78, "", "EQUIVALENT WITH FOUR DOTS ABOVE,LESS-THAN WITH CIRCLE INSIDE"⟩,
    ⟨0x2a7a, "", "GREATER-THAN WITH CIRCLE INSIDE,LESS-THAN WITH QUESTION MARK ABOVE"⟩,
    ⟨0x2a7c, "", "GREATER-THAN WITH QUESTION MARK ABOVE,LESS-THAN OR SLANTED EQUAL TO"⟩,
    ⟨0x2a7e, "", "GREATER-THAN OR SLANTED EQUAL TO,LESS-THAN OR SLANTED EQUAL TO WITH DOT INSIDE"⟩,
    ⟨0x2a80, "", "GREATER-THAN OR SLANTED EQUAL TO WITH DOT INSIDE"⟩,
    ⟨0x2a81, "", "LESS-THAN OR SLANTED EQUAL TO WITH DOT ABOVE"⟩,
    ⟨0x2a82, "", "GREATER-THAN OR SLANTED EQUAL TO WITH DOT ABOVE"⟩,
    ⟨0x2a83, "", "LESS-THAN OR SLANTED EQUAL TO WITH DOT ABOVE RIGHT"⟩,
    ⟨0x2a84, "", "GREATER-THAN OR SLANTED EQUAL TO WITH DOT ABOVE LEFT,LESS-THAN OR APPROXIMATE"⟩,
    ⟨0x2a86, "", "GREATER-THAN OR APPROXIMATE,LESS-THAN AND SINGLE-LINE NOT EQUAL TO"⟩,
    ⟨0x2a88, "", "GREATER-THAN AND SINGLE-LINE NOT EQUAL TO"⟩,
    ⟨0x2a89, "", "LESS-THAN AND NOT APPROXIMATE,GREATER-THAN AND NOT APPROXIMATE"⟩,
    ⟨0x2a8b, "", "LESS-THAN ABOVE DOUBLE-LINE EQUAL ABOVE GREATER-THAN"⟩,
    ⟨0x2a8c, "", "GREATER-THAN ABOVE DOUBLE-LINE EQUAL ABOVE LESS-THAN"⟩,
    ⟨0x2a8d, "", "LESS-THAN ABOVE SIMILAR OR EQUAL"⟩,
    ⟨0x2a8e, "", "GREATER-THAN ABOVE SIMILAR OR EQUAL,LESS-THAN ABOVE SIMILAR ABOVE GREATER-THAN"⟩,
    ⟨0x2a90, "", "GREATER-THAN ABOVE SIMILAR ABOVE LESS-THAN"⟩,
    ⟨0x2a91, "", "LESS-THAN ABOVE GREATER-THAN ABOVE DOUBLE-LINE EQUAL"⟩,
    ⟨0x2a92, "", "GREATER-THAN ABOVE LESS-THAN ABOVE DOUBLE-LINE EQUAL"⟩,
    ⟨0x2a93, "", "LESS-THAN ABOVE SLANTED EQUAL ABOVE GREATER-THAN ABOVE SLANTED EQUAL"⟩,
    ⟨0x2a94, "", "GREATER-THAN ABOVE SLANTED EQUAL ABOVE LESS-THAN ABOVE SLANTED EQUAL"⟩,
    ⟨0x2a95, "SLANTED EQUAL TO OR ", "LESS-THAN,GREATER-THAN"⟩,
    ⟨0x2a97, "SLANTED EQUAL TO OR ", "LESS-THAN WITH DOT INSIDE,GREATER-THAN WITH DOT INSIDE"⟩,
    ⟨0x2a99, "DOUBLE-LINE EQUAL TO OR ", "LESS-THAN,GREATER-THAN"⟩,
    ⟨0x2a9b, "DOUBLE-LINE SLANTED EQUAL TO OR ", "LESS-THAN,GREATER-THAN"⟩,
    ⟨0x2a9d, "SIMILAR OR ", "LESS-THAN,GREATER-THAN"⟩,
    ⟨0x2a9f, "SIMILAR ABOVE ", "LESS-THAN ABOVE EQUALS SIGN,GREATER-THAN ABOVE EQUALS SIGN"⟩,
    ⟨0x2aa1, "DOUBLE NESTED ", "LESS-THAN,GREATER-THAN,LESS-THAN WITH UNDERBAR"⟩,
    ⟨0x2aa4, "GREATER-THAN ", "OVERLAPPING LESS-THAN,BESIDE LESS-THAN"⟩,
    ⟨0x2aa6, "", "LESS-THAN CLOSED BY CURVE"⟩,
    ⟨0x2aa7, "", "GREATER-THAN CLOSED BY CURVE,LESS-THAN CLOSED BY CURVE ABOVE SLANTED EQUAL"⟩,
    ⟨0x2aa9, "", "GREATER-THAN CLOSED BY CURVE ABOVE SLANTED EQUAL,SMALLER THAN,LARGER THAN"⟩,
    ⟨0x2aac, "", "SMALLER THAN OR EQUAL TO,LARGER THAN OR EQUAL TO,EQUALS SIGN WITH BUMPY ABOVE"⟩,
    ⟨0x2aaf, "", "PRECEDES ABOVE SINGLE-LINE EQUALS SIGN,SUCCEEDS ABOVE SINGLE-LINE EQUALS SIGN"⟩,
    ⟨0x2ab1, "", "PRECEDES ABOVE SINGLE-LINE NOT EQUAL TO,SUCCEEDS ABOVE SINGLE-LINE NOT EQUAL TO"⟩,
    ⟨0x2ab3, "", "PRECEDES ABOVE EQUALS SIGN,SUCCEEDS ABOVE EQUALS SIGN"⟩,
    ⟨0x2ab5, "", "PRECEDES ABOVE NOT EQUAL TO,SUCCEEDS ABOVE NOT EQUAL TO"⟩,
    ⟨0x2ab7, "", "PRECEDES ABOVE ALMOST EQUAL TO,SUCCEEDS ABOVE ALMOST EQUAL TO"⟩,
    ⟨0x2ab9, "", "PRECEDES ABOVE NOT ALMOST EQUAL TO,SUCCEEDS ABOVE NOT ALMOST EQUAL TO"⟩,
    ⟨0x2abb, "", "DOUBLE PRECEDES,DOUBLE SUCCEEDS,SUBSET WITH DOT"⟩,
    ⟨0x2abe, "", "SUPERSET WITH DOT,SUBSET WITH PLUS SIGN BELOW,SUPERSET WITH PLUS SIGN BELOW"⟩,
    ⟨0x2ac1, "", "SUBSET WITH MULTIPLICATION SIGN BELOW,SUPERSET WITH MULTIPLICATION SIGN BELOW"⟩,
    ⟨0x2ac3, "", "SUBSET OF OR EQUAL TO WITH DOT ABOVE,SUPERSET OF OR EQUAL TO WITH DOT ABOVE"⟩,
    ⟨0x2ac5, "", "SUBSET OF ABOVE EQUALS SIGN,SUPERSET OF ABOVE EQUALS SIGN"⟩,
    ⟨0x2ac7, "", "SUBSET OF ABOVE TILDE OPERATOR,SUPERSET OF ABOVE TILDE OPERATOR"⟩,
    ⟨0x2ac9, "", "SUBSET OF ABOVE ALMOST EQUAL TO,SUPERSET OF ABOVE ALMOST EQUAL TO"⟩,
    ⟨0x2acb, "", "SUBSET OF ABOVE NOT EQUAL TO,SUPERSET OF ABOVE NOT EQUAL TO"⟩,
    ⟨0x2acd, "SQUARE ", "LEFT OPEN BOX OPERATOR,RIGHT OPEN BOX OPERATOR"⟩,
    ⟨0x2acf, "CLOSED ", "SUBSET,SUPERSET,SUBSET OR EQUAL TO,SUPERSET OR EQUAL TO"⟩,
    ⟨0x2ad3, "", "SUBSET ABOVE SUPERSET,SUPERSET ABOVE SUBSET,SUBSET ABOVE SUBSET"⟩,
    ⟨0x2ad6, "SUPERSET ", "ABOVE SUPERSET,BESIDE SUBSET,BESIDE AND JOINED BY DASH WITH SUBSET"⟩,
    ⟨0x2ad9, "", "ELEMENT OF OPENING DOWNWARDS"⟩,
    ⟨0x2ada, "", "PITCHFORK WITH TEE TOP,TRANSVERSAL INTERSECTION,FORKING"⟩,
    ⟨0x2add, "", "NONFORKING,SHORT LEFT TACK,SHORT DOWN TACK,SHORT UP TACK,PERPENDICULAR WITH S"⟩,
    ⟨0x2ae2, "", "VERTICAL BAR TRIPLE RIGHT TURNSTILE,DOUBLE VERTICAL BAR LEFT TURNSTILE"⟩,
    ⟨0x2ae4, "", "VERTICAL BAR DOUBLE LEFT TURNSTILE,DOUBLE VERTICAL BAR DOUBLE LEFT TURNSTILE"⟩,
    ⟨0x2ae6, "", "LONG DASH FROM LEFT MEMBER OF DOUBLE VERTICAL,SHORT DOWN TACK WITH OVERBAR"⟩,
    ⟨0x2ae8, "SHORT UP TACK ", "WITH UNDERBAR,ABOVE SHORT DOWN TACK"⟩,
    ⟨0x2aea, "DOUBLE ", "DOWN TACK,UP TACK,STROKE NOT SIGN"⟩,
    ⟨0x2aed, "", "REVERSED DOUBLE STROKE NOT SIGN,DOES NOT DIVIDE WITH REVERSED NEGATION SLASH"⟩,
    ⟨0x2aef, "VERTICAL LINE WITH CIRCLE ", "ABOVE,BELOW"⟩,
    ⟨0x2af1, "", "DOWN TACK WITH CIRCLE BELOW,PARALLEL WITH HORIZONTAL STROKE"⟩,
    ⟨0x2af3, "", "PARALLEL WITH TILDE OPERATOR,TRIPLE VERTICAL BAR BINARY RELATION"⟩,
    ⟨0x2af5, "TRIPLE ", "VERTICAL BAR WITH HORIZONTAL STROKE,COLON OPERATOR,NESTED LESS-THAN"⟩,
    ⟨0x2af8, "", "TRIPLE NESTED GREATER-THAN,DOUBLE-LINE SLANTED LESS-THAN OR EQUAL TO"⟩,
    ⟨0x2afa, "", "DOUBLE-LINE SLANTED GREATER-THAN OR EQUAL TO,TRIPLE SOLIDUS BINARY RELATION"⟩,
    ⟨0x2afc, "", "LARGE TRIPLE VERTICAL BAR OPERATOR,DOUBLE SOLIDUS OPERATOR,WHITE VERTICAL BAR"⟩,
    ⟨0x2aff, "", "N-ARY WHITE VERTICAL BAR,NORTH EAST WHITE ARROW,NORTH WEST WHITE ARROW"⟩,
    ⟨0x2b02, "", "SOUTH EAST WHITE ARROW,SOUTH WEST WHITE ARROW,LEFT RIGHT WHITE ARROW"⟩,
    ⟨0x2b05, "", "LEFTWARDS BLACK ARROW,UPWARDS BLACK ARROW,DOWNWARDS BLACK ARROW"⟩,
    ⟨0x2b08, "", "NORTH EAST BLACK ARROW,NORTH WEST BLACK ARROW,SOUTH EAST BLACK ARROW"⟩,
    ⟨0x2b0b, "", "SOUTH WEST BLACK ARROW,LEFT RIGHT BLACK ARROW,UP DOWN BLACK ARROW"⟩,
    ⟨0x2b0e, "RIGHTWARDS ARROW WITH TIP ", "DOWNWARDS,UPWARDS"⟩,
    ⟨0x2b10, "LEFTWARDS ARROW WITH TIP ", "DOWNWARDS,UPWARDS"⟩,
    ⟨0x2b12, "SQUARE WITH ", "TOP HALF BLACK,BOTTOM HALF BLACK"⟩,
    ⟨0x2b14, "SQUARE WITH ", "UPPER RIGHT DIAGONAL HALF BLACK,LOWER LEFT DIAGONAL HALF BLACK"⟩,
    ⟨0x2b16, "DIAMOND WITH ", "LEFT HALF BLACK,RIGHT HALF BLACK,TOP HALF BLACK,BOTTOM HALF BLACK"⟩,
    ⟨0x2b1a, "", "DOTTED SQUARE,BLACK LARGE SQUARE,WHITE LARGE SQUARE,BLACK VERY SMALL SQUARE"⟩,
    ⟨0x2b1e, "", "WHITE VERY SMALL SQUARE,BLACK PENTAGON,WHITE PENTAGON,WHITE HEXAGON"⟩,
    ⟨0x2b22, "", "BLACK HEXAGON,HORIZONTAL BLACK HEXAGON,BLACK LARGE CIRCLE,BLACK MEDIUM DIAMOND"⟩,
    ⟨0x2b26, "", "WHITE MEDIUM DIAMOND,BLACK MEDIUM LOZENGE,WHITE MEDIUM LOZENGE"⟩,
    ⟨0x2b29, "", "BLACK SMALL DIAMOND,BLACK SMALL LOZENGE,WHITE SMALL LOZENGE"⟩,
    ⟨0x2b2c, "", "BLACK HORIZONTAL ELLIPSE,WHITE HORIZONTAL ELLIPSE,BLACK VERTICAL ELLIPSE"⟩,
    ⟨0x2b2f, "", "WHITE VERTICAL ELLIPSE,LEFT ARROW WITH SMALL CIRCLE,THREE LEFTWARDS ARROWS"⟩,
    ⟨0x2b32, "", "LEFT ARROW WITH CIRCLED PLUS,LONG LEFTWARDS SQUIGGLE ARROW"⟩,
    ⟨0x2b34, "LEFTWARDS TWO-HEADED ARROW WITH ", "VERTICAL STROKE,DOUBLE VERTICAL STROKE"⟩,
    ⟨0x2b36, "LEFTWARDS TWO-HEADED ", "ARROW FROM BAR,TRIPLE DASH ARROW"⟩,
    ⟨0x2b38, "", "LEFTWARDS ARROW WITH DOTTED STEM"⟩,
    ⟨0x2b39, "LEFTWARDS ARROW WITH TAIL WITH ", "VERTICAL STROKE,DOUBLE VERTICAL STROKE"⟩,
    ⟨0x2b3b, "LEFTWARDS TWO-HEADED ARROW WITH ", "TAIL,TAIL WITH VERTICAL STROKE"⟩,
    ⟨0x2b3d, "", "LEFTWARDS TWO-HEADED ARROW WITH TAIL WITH DOUBLE VERTICAL STROKE"⟩,
    ⟨0x2b3e, "", "LEFTWARDS ARROW THROUGH X,WAVE ARROW POINTING DIRECTLY LEFT"⟩,
    ⟨0x2b40, "", "EQUALS SIGN ABOVE LEFTWARDS ARROW,REVERSE TILDE OPERATOR ABOVE LEFTWARDS ARROW"⟩,
    ⟨0x2b42, "", "LEFTWARDS ARROW ABOVE REVERSE ALMOST EQUAL TO"⟩,
    ⟨0x2b43, "RIGHTWARDS ARROW THROUGH ", "GREATER-THAN,SUPERSET"⟩,
    ⟨0x2b45, "", "LEFTWARDS QUADRUPLE ARROW"⟩,
    ⟨0x2b46, "", "RIGHTWARDS QUADRUPLE ARROW,REVERSE TILDE OPERATOR ABOVE RIGHTWARDS ARROW"⟩,
    ⟨0x2b48, "", "RIGHTWARDS ARROW ABOVE REVERSE ALMOST EQUAL TO"⟩,
    ⟨0x2b49, "", "TILDE OPERATOR ABOVE LEFTWARDS ARROW"⟩,
    ⟨0x2b4a, "LEFTWARDS ARROW ABOVE ", "ALMOST EQUAL TO,REVERSE TILDE OPERATOR"⟩,
    ⟨0x2b4c, "", "RIGHTWARDS ARROW ABOVE REVERSE TILDE OPERATOR"⟩,
    ⟨0x2b4d, "", "DOWNWARDS TRIANGLE-HEADED ZIGZAG ARROW"⟩,
    ⟨0x2b4e, "SHORT ", "SLANTED NORTH ARROW,BACKSLANTED SOUTH ARROW"⟩,
    ⟨0x2b50, "", "WHITE MEDIUM STAR,BLACK SMALL STAR,WHITE SMALL STAR"⟩,
    ⟨0x2b53, "", "BLACK RIGHT-POINTING PENTAGON,WHITE RIGHT-POINTING PENTAGON,HEAVY LARGE CIRCLE"⟩,
    ⟨0x2b56, "HEAVY ", "OVAL WITH OVAL INSIDE,CIRCLE WITH CIRCLE INSIDE,CIRCLE,CIRCLED SALTIRE"⟩,
    ⟨0x2b5a, "", "SLANTED NORTH ARROW WITH HOOKED HEAD,BACKSLANTED SOUTH ARROW WITH HOOKED TAIL"⟩,
    ⟨0x2b5c, "", "SLANTED NORTH ARROW WITH HORIZONTAL TAIL"⟩,
    ⟨0x2b5d, "", "BACKSLANTED SOUTH ARROW WITH HORIZONTAL TAIL"⟩,
    ⟨0x2b5e, "", "BENT ARROW POINTING DOWNWARDS THEN NORTH EAST"⟩,
    ⟨0x2b5f, "", "SHORT BENT ARROW POINTING DOWNWARDS THEN NORTH EAST"⟩,
    ⟨0x2b60, "", "LEFTWARDS TRIANGLE-HEADED ARROW,UPWARDS TRIANGLE-HEADED ARROW"⟩,
    ⟨0x2b62, "", "RIGHTWARDS TRIANGLE-HEADED ARROW,DOWNWARDS TRIANGLE-HEADED ARROW"⟩,
    ⟨0x2b64, "", "LEFT RIGHT TRIANGLE-HEADED ARROW,UP DOWN TRIANGLE-HEADED ARROW"⟩,
    ⟨0x2b66, "NORTH ", "WEST TRIANGLE-HEADED ARROW,EAST TRIANGLE-HEADED ARROW"⟩,
    ⟨0x2b68, "SOUTH ", "EAST TRIANGLE-HEADED ARROW,WEST TRIANGLE-HEADED ARROW"⟩,
    ⟨0x2b6a, "", "LEFTWARDS TRIANGLE-HEADED DASHED ARROW,UPWARDS TRIANGLE-HEADED DASHED ARROW"⟩,
    ⟨0x2b6c, "", "RIGHTWARDS TRIANGLE-HEADED DASHED ARROW,DOWNWARDS TRIANGLE-HEADED DASHED ARROW"⟩,
    ⟨0x2b6e, "", "CLOCKWISE TRIANGLE-HEADED OPEN CIRCLE ARROW"⟩,
    ⟨0x2b6f, "", "ANTICLOCKWISE TRIANGLE-HEADED OPEN CIRCLE ARROW"⟩,
    ⟨0x2b70, "", "LEFTWARDS TRIANGLE-HEADED ARROW TO BAR,UPWARDS TRIANGLE-HEADED ARROW TO BAR"⟩,
    ⟨0x2b72, "", "RIGHTWARDS TRIANGLE-HEADED ARROW TO BAR,DOWNWARDS TRIANGLE-HEADED ARROW TO BAR"⟩,
    ⟨0x2b76, "NORTH ", "WEST TRIANGLE-HEADED ARROW TO BAR,EAST TRIANGLE-HEADED ARROW TO BAR"⟩,
    ⟨0x2b78, "SOUTH ", "EAST TRIANGLE-HEADED ARROW TO BAR,WEST TRIANGLE-HEADED ARROW TO BAR"⟩,
    ⟨0x2b7a, "", "LEFTWARDS TRIANGLE-HEADED ARROW WITH DOUBLE HORIZONTAL STROKE"⟩,
    ⟨0x2b7b, "", "UPWARDS TRIANGLE-HEADED ARROW WITH DOUBLE HORIZONTAL STROKE"⟩,
    ⟨0x2b7c, "", "RIGHTWARDS TRIANGLE-HEADED ARROW WITH DOUBLE HORIZONTAL STROKE"⟩,
    ⟨0x2b7d, "", "DOWNWARDS TRIANGLE-HEADED ARROW WITH DOUBLE HORIZONTAL STROKE"⟩,
    ⟨0x2b7e, "", "HORIZONTAL TAB KEY,VERTICAL TAB KEY"⟩,
    ⟨0x2b80, "", "LEFTWARDS TRIANGLE-HEADED ARROW OVER RIGHTWARDS TRIANGLE-HEADED ARROW"⟩,
    ⟨0x2b81, "", "UPWARDS TRIANGLE-HEADED ARROW LEFTWARDS OF DOWNWARDS TRIANGLE-HEADED ARROW"⟩,
    ⟨0x2b82, "", "RIGHTWARDS TRIANGLE-HEADED ARROW OVER LEFTWARDS TRIANGLE-HEADED ARROW"⟩,
    ⟨0x2b83, "", "DOWNWARDS TRIANGLE-HEADED ARROW LEFTWARDS OF UPWARDS TRIANGLE-HEADED ARROW"⟩,
    ⟨0x2b84, "", "LEFTWARDS TRIANGLE-HEADED PAIRED ARROWS"⟩,
    ⟨0x2b85, "", "UPWARDS TRIANGLE-HEADED PAIRED ARROWS,RIGHTWARDS TRIANGLE-HEADED PAIRED ARROWS"⟩,
    ⟨0x2b87, "", "DOWNWARDS TRIANGLE-HEADED PAIRED ARROWS"⟩,
    ⟨0x2b88, "", "LEFTWARDS BLACK CIRCLED WHITE ARROW,UPWARDS BLACK CIRCLED WHITE ARROW"⟩,
    ⟨0x2b8a, "", "RIGHTWARDS BLACK CIRCLED WHITE ARROW,DOWNWARDS BLACK CIRCLED WHITE ARROW"⟩,
    ⟨0x2b8c, "ANTICLOCKWISE TRIANGLE-HEADED ", "RIGHT U-SHAPED ARROW,BOTTOM U-SHAPED ARROW"⟩,
    ⟨0x2b8e, "ANTICLOCKWISE TRIANGLE-HEADED ", "LEFT U-SHAPED ARROW,TOP U-SHAPED ARROW"⟩,
    ⟨0x2b90, "RETURN ", "LEFT,RIGHT"⟩,
    ⟨0x2b92, "", "NEWLINE LEFT,NEWLINE RIGHT,FOUR CORNER ARROWS CIRCLING ANTICLOCKWISE"⟩,
    ⟨0x2b95, "", "RIGHTWARDS BLACK ARROW,,SYMBOL FOR TYPE A ELECTRONICS"⟩,
    ⟨0x2b98, "", "THREE-D TOP-LIGHTED LEFTWARDS EQUILATERAL ARROWHEAD"⟩,
    ⟨0x2b99, "", "THREE-D RIGHT-LIGHTED UPWARDS EQUILATERAL ARROWHEAD"⟩,
    ⟨0x2b9a, "", "THREE-D TOP-LIGHTED RIGHTWARDS EQUILATERAL ARROWHEAD"⟩,
    ⟨0x2b9b, "", "THREE-D LEFT-LIGHTED DOWNWARDS EQUILATERAL ARROWHEAD"⟩,
    ⟨0x2b9c, "BLACK ", "LEFTWARDS EQUILATERAL ARROWHEAD,UPWARDS EQUILATERAL ARROWHEAD"⟩,
    ⟨0x2b9e, "BLACK ", "RIGHTWARDS EQUILATERAL ARROWHEAD,DOWNWARDS EQUILATERAL ARROWHEAD"⟩,
    ⟨0x2ba0, "DOWNWARDS TRIANGLE-HEADED ARROW WITH LONG TIP ", "LEFTWARDS,RIGHTWARDS"⟩,
    ⟨0x2ba2, "UPWARDS TRIANGLE-HEADED ARROW WITH LONG TIP ", "LEFTWARDS,RIGHTWARDS"⟩,
    ⟨0x2ba4, "", "LEFTWARDS TRIANGLE-HEADED ARROW WITH LONG TIP UPWARDS"⟩,
    ⟨0x2ba5, "", "RIGHTWARDS TRIANGLE-HEADED ARROW WITH LONG TIP UPWARDS"⟩,
    ⟨0x2ba6, "", "LEFTWARDS TRIANGLE-HEADED ARROW WITH LONG TIP DOWNWARDS"⟩,
    ⟨0x2ba7, "", "RIGHTWARDS TRIANGLE-HEADED ARROW WITH LONG TIP DOWNWARDS"⟩,
    ⟨0x2ba8, "BLACK CURVED DOWNWARDS AND ", "LEFTWARDS ARROW,RIGHTWARDS ARROW"⟩,
    ⟨0x2baa, "BLACK CURVED UPWARDS AND ", "LEFTWARDS ARROW,RIGHTWARDS ARROW"⟩,
    ⟨0x2bac, "BLACK CURVED ", "LEFTWARDS AND UPWARDS ARROW,RIGHTWARDS AND UPWARDS ARROW"⟩,
    ⟨0x2bae, "BLACK CURVED ", "LEFTWARDS AND DOWNWARDS ARROW,RIGHTWARDS AND DOWNWARDS ARROW"⟩,
    ⟨0x2bb0, "RIBBON ARROW ", "DOWN LEFT,DOWN RIGHT,UP LEFT,UP RIGHT,LEFT UP,RIGHT UP,LEFT DOWN"⟩,
    ⟨0x2bb7, "", "RIBBON ARROW RIGHT DOWN,UPWARDS WHITE ARROW FROM BAR WITH HORIZONTAL BAR"⟩,
    ⟨0x2bb9, "", "UP ARROWHEAD IN A RECTANGLE BOX"⟩,
    ⟨0x2bba, "OVERLAPPING ", "WHITE SQUARES,WHITE AND BLACK SQUARES,BLACK SQUARES"⟩,
    ⟨0x2bbd, "", "BALLOT BOX WITH LIGHT X,CIRCLED X,CIRCLED BOLD X"⟩,
    ⟨0x2bc0, "BLACK ", "SQUARE CENTRED,DIAMOND CENTRED"⟩,
    ⟨0x2bc2, "", "TURNED BLACK PENTAGON,HORIZONTAL BLACK OCTAGON,BLACK OCTAGON"⟩,
    ⟨0x2bc5, "BLACK MEDIUM ", "UP-POINTING TRIANGLE CENTRED,DOWN-POINTING TRIANGLE CENTRED"⟩,
    ⟨0x2bc7, "BLACK MEDIUM ", "LEFT-POINTING TRIANGLE CENTRED,RIGHT-POINTING TRIANGLE CENTRED"⟩,
    ⟨0x2bc9, "", "NEPTUNE FORM TWO,TOP HALF BLACK CIRCLE,BOTTOM HALF BLACK CIRCLE"⟩,
    ⟨0x2bcc, "", "LIGHT FOUR POINTED BLACK CUSP,ROTATED LIGHT FOUR POINTED BLACK CUSP"⟩,
    ⟨0x2bce, "", "WHITE FOUR POINTED CUSP,ROTATED WHITE FOUR POINTED CUSP"⟩,
    ⟨0x2bd0, "", "SQUARE POSITION INDICATOR,UNCERTAINTY SIGN,GROUP MARK,PLUTO FORM TWO"⟩,
    ⟨0x2bd4, "", "PLUTO FORM THREE,PLUTO FORM FOUR,PLUTO FORM FIVE,TRANSPLUTO,PROSERPINA"⟩,
    ⟨0x2bd9, "", "ASTRAEA,HYGIEA,PHOLUS,NESSUS,WHITE MOON SELENA,BLACK DIAMOND ON CROSS"⟩,
    ⟨0x2bdf, "", "TRUE LIGHT MOON ARTA,CUPIDO,HADES,ZEUS,KRONOS,APOLLON,ADMETOS,VULCANUS"⟩,
    ⟨0x2be7, "", "POSEIDON,LEFT HALF BLACK STAR,RIGHT HALF BLACK STAR,STAR WITH LEFT HALF BLACK"⟩,
    ⟨0x2beb, "", "STAR WITH RIGHT HALF BLACK,LEFTWARDS TWO-HEADED ARROW WITH TRIANGLE ARROWHEADS"⟩,
    ⟨0x2bed, "", "UPWARDS TWO-HEADED ARROW WITH TRIANGLE ARROWHEADS"⟩,
    ⟨0x2bee, "", "RIGHTWARDS TWO-HEADED ARROW WITH TRIANGLE ARROWHEADS"⟩,
    ⟨0x2bef, "", "DOWNWARDS TWO-HEADED ARROW WITH TRIANGLE ARROWHEADS"⟩,
    ⟨0x2bf0, "", "ERIS FORM ONE,ERIS FORM TWO,SEDNA,RUSSIAN ASTROLOGICAL SYMBOL VIGINTILE"⟩,
    ⟨0x2bf4, "RUSSIAN ASTROLOGICAL SYMBOL ", "NOVILE,QUINTILE,BINOVILE,SENTAGON,TREDECILE"⟩,
    ⟨0x2bf9, "", "EQUALS SIGN WITH INFINITY BELOW,UNITED SYMBOL,SEPARATED SYMBOL"⟩,
    ⟨0x2bfc, "", "DOUBLED SYMBOL,PASSED SYMBOL,REVERSED RIGHT ANGLE,HELLSCHREIBER PAUSE SYMBOL"⟩]

end HttpRouting.Text.CharacterName
