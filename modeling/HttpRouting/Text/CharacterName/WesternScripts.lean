import HttpRouting.Text.CharacterName.Run

/-!
# Names of the scripts of Europe, Africa and the Near East

The names from U+0020 to U+08FF in the Unicode standard.
-/

namespace HttpRouting.Text.CharacterName

def westernScripts : List Run :=
  [
    ⟨0x20, "", "SPACE,EXCLAMATION MARK,QUOTATION MARK"⟩,
    ⟨0x23, "", "NUMBER SIGN,DOLLAR SIGN,PERCENT SIGN,AMPERSAND,APOSTROPHE,LEFT PARENTHESIS"⟩,
    ⟨0x29, "", "RIGHT PARENTHESIS,ASTERISK,PLUS SIGN,COMMA,HYPHEN-MINUS,FULL STOP,SOLIDUS"⟩,
    ⟨0x30, "DIGIT ", "ZERO,ONE,TWO,THREE,FOUR,FIVE,SIX,SEVEN,EIGHT,NINE"⟩,
    ⟨0x3a, "", "COLON,SEMICOLON"⟩,
    ⟨0x3c, "", "LESS-THAN SIGN,EQUALS SIGN,GREATER-THAN SIGN,QUESTION MARK,COMMERCIAL AT"⟩,
    ⟨0x41, "LATIN CAPITAL LETTER ", "A,B,C,D,E,F,G,H,I,J,K,L,M,N,O,P,Q,R,S,T,U,V,W,X,Y,Z"⟩,
    ⟨0x5b, "", "LEFT SQUARE BRACKET"⟩,
    ⟨0x5c, "", "REVERSE SOLIDUS,RIGHT SQUARE BRACKET,CIRCUMFLEX ACCENT,LOW LINE,GRAVE ACCENT"⟩,
    ⟨0x61, "LATIN SMALL LETTER ", "A,B,C,D,E,F,G,H,I,J,K,L,M,N,O,P,Q,R,S,T,U,V,W,X,Y,Z"⟩,
    ⟨0x7b, "", "LEFT CURLY BRACKET,VERTICAL LINE,RIGHT CURLY BRACKET,TILDE"⟩,
    ⟨0xa0, "", "NO-BREAK SPACE,INVERTED EXCLAMATION MARK,CENT SIGN,POUND SIGN"⟩,
    ⟨0xa4, "", "CURRENCY SIGN,YEN SIGN,BROKEN BAR,SECTION SIGN,DIAERESIS,COPYRIGHT SIGN"⟩,
    ⟨0xaa, "", "FEMININE ORDINAL INDICATOR,LEFT-POINTING DOUBLE ANGLE QUOTATION MARK"⟩,
    ⟨0xac, "", "NOT SIGN,SOFT HYPHEN,REGISTERED SIGN,MACRON,DEGREE SIGN"⟩,
    ⟨0xb1, "", "PLUS-MINUS SIGN,SUPERSCRIPT TWO,SUPERSCRIPT THREE,ACUTE ACCENT,MICRO SIGN"⟩,
    ⟨0xb6, "", "PILCROW SIGN,MIDDLE DOT,CEDILLA,SUPERSCRIPT ONE,MASCULINE ORDINAL INDICATOR"⟩,
    ⟨0xbb, "", "RIGHT-POINTING DOUBLE ANGLE QUOTATION MARK,VULGAR FRACTION ONE QUARTER"⟩,
    ⟨0xbd, "", "VULGAR FRACTION ONE HALF,VULGAR FRACTION THREE QUARTERS,INVERTED QUESTION MARK"⟩,
    ⟨0xc0, "LATIN CAPITAL LETTER A WITH ", "GRAVE,ACUTE,CIRCUMFLEX,TILDE,DIAERESIS,RING ABOVE"⟩,
    ⟨0xc6, "LATIN CAPITAL LETTER ", "AE,C WITH CEDILLA,E WITH GRAVE,E WITH ACUTE"⟩,
    ⟨0xca, "LATIN CAPITAL LETTER ", "E WITH CIRCUMFLEX,E WITH DIAERESIS,I WITH GRAVE,I WITH ACUTE"⟩,
    ⟨0xce, "LATIN CAPITAL LETTER ", "I WITH CIRCUMFLEX,I WITH DIAERESIS,ETH,N WITH TILDE"⟩,
    ⟨0xd2, "LATIN CAPITAL LETTER O WITH ", "GRAVE,ACUTE,CIRCUMFLEX,TILDE,DIAERESIS"⟩,
    ⟨0xd7, "", "MULTIPLICATION SIGN,LATIN CAPITAL LETTER O WITH STROKE"⟩,
    ⟨0xd9, "LATIN CAPITAL LETTER U WITH ", "GRAVE,ACUTE,CIRCUMFLEX,DIAERESIS"⟩,
    ⟨0xdd, "LATIN ", "CAPITAL LETTER Y WITH ACUTE,CAPITAL LETTER THORN,SMALL LETTER SHARP S"⟩,
    ⟨0xe0, "LATIN SMALL LETTER A WITH ", "GRAVE,ACUTE,CIRCUMFLEX,TILDE,DIAERESIS,RING ABOVE"⟩,
    ⟨0xe6, "LATIN SMALL LETTER ", "AE,C WITH CEDILLA,E WITH GRAVE,E WITH ACUTE"⟩,
    ⟨0xea, "LATIN SMALL LETTER ", "E WITH CIRCUMFLEX,E WITH DIAERESIS,I WITH GRAVE,I WITH ACUTE"⟩,
    ⟨0xee, "LATIN SMALL LETTER ", "I WITH CIRCUMFLEX,I WITH DIAERESIS,ETH,N WITH TILDE"⟩,
    ⟨0xf2, "LATIN SMALL LETTER O WITH ", "GRAVE,ACUTE,CIRCUMFLEX,TILDE,DIAERESIS"⟩,
    ⟨0xf7, "", "DIVISION SIGN,LATIN SMALL LETTER O WITH STROKE"⟩,
    ⟨0xf9, "LATIN SMALL LETTER U WITH ", "GRAVE,ACUTE,CIRCUMFLEX,DIAERESIS"⟩,
    ⟨0xfd, "LATIN SMALL LETTER ", "Y WITH ACUTE,THORN,Y WITH DIAERESIS"⟩,
    ⟨0x100, "LATIN ", "CAPITAL LETTER A WITH MACRON,SMALL LETTER A WITH MACRON"⟩,
    ⟨0x102, "LATIN ", "CAPITAL LETTER A WITH BREVE,SMALL LETTER A WITH BREVE"⟩,
    ⟨0x104, "LATIN ", "CAPITAL LETTER A WITH OGONEK,SMALL LETTER A WITH OGONEK"⟩,
    ⟨0x106, "LATIN ", "CAPITAL LETTER C WITH ACUTE,SMALL LETTER C WITH ACUTE"⟩,
    ⟨0x108, "LATIN ", "CAPITAL LETTER C WITH CIRCUMFLEX,SMALL LETTER C WITH CIRCUMFLEX"⟩,
    ⟨0x10a, "LATIN ", "CAPITAL LETTER C WITH DOT ABOVE,SMALL LETTER C WITH DOT ABOVE"⟩,
    ⟨0x10c, "LATIN ", "CAPITAL LETTER C WITH CARON,SMALL LETTER C WITH CARON"⟩,
    ⟨0x10e, "LATIN ", "CAPITAL LETTER D WITH CARON,SMALL LETTER D WITH CARON"⟩,
    ⟨0x110, "LATIN ", "CAPITAL LETTER D WITH STROKE,SMALL LETTER D WITH STROKE"⟩,
    ⟨0x112, "LATIN ", "CAPITAL LETTER E WITH MACRON,SMALL LETTER E WITH MACRON"⟩,
    ⟨0x114, "LATIN ", "CAPITAL LETTER E WITH BREVE,SMALL LETTER E WITH BREVE"⟩,
    ⟨0x116, "LATIN ", "CAPITAL LETTER E WITH DOT ABOVE,SMALL LETTER E WITH DOT ABOVE"⟩,
    ⟨0x118, "LATIN ", "CAPITAL LETTER E WITH OGONEK,SMALL LETTER E WITH OGONEK"⟩,
    ⟨0x11a, "LATIN ", "CAPITAL LETTER E WITH CARON,SMALL LETTER E WITH CARON"⟩,
    ⟨0x11c, "LATIN ", "CAPITAL LETTER G WITH CIRCUMFLEX,SMALL LETTER G WITH CIRCUMFLEX"⟩,
    ⟨0x11e, "LATIN ", "CAPITAL LETTER G WITH BREVE,SMALL LETTER G WITH BREVE"⟩,
    ⟨0x120, "LATIN ", "CAPITAL LETTER G WITH DOT ABOVE,SMALL LETTER G WITH DOT ABOVE"⟩,
    ⟨0x122, "LATIN ", "CAPITAL LETTER G WITH CEDILLA,SMALL LETTER G WITH CEDILLA"⟩,
    ⟨0x124, "LATIN ", "CAPITAL LETTER H WITH CIRCUMFLEX,SMALL LETTER H WITH CIRCUMFLEX"⟩,
    ⟨0x126, "LATIN ", "CAPITAL LETTER H WITH STROKE,SMALL LETTER H WITH STROKE"⟩,
    ⟨0x128, "LATIN ", "CAPITAL LETTER I WITH TILDE,SMALL LETTER I WITH TILDE"⟩,
    ⟨0x12a, "LATIN ", "CAPITAL LETTER I WITH MACRON,SMALL LETTER I WITH MACRON"⟩,
    ⟨0x12c, "LATIN ", "CAPITAL LETTER I WITH BREVE,SMALL LETTER I WITH BREVE"⟩,
    ⟨0x12e, "LATIN ", "CAPITAL LETTER I WITH OGONEK,SMALL LETTER I WITH OGONEK"⟩,
    ⟨0x130, "LATIN ", "CAPITAL LETTER I WITH DOT ABOVE,SMALL LETTER DOTLESS I"⟩,
    ⟨0x132, "LATIN ", "CAPITAL LIGATURE IJ,SMALL LIGATURE IJ,CAPITAL LETTER J WITH CIRCUMFLEX"⟩,
    ⟨0x135, "LATIN ", "SMALL LETTER J WITH CIRCUMFLEX,CAPITAL LETTER K WITH CEDILLA"⟩,
    ⟨0x137, "LATIN ", "SMALL LETTER K WITH CEDILLA,SMALL LETTER KRA,CAPITAL LETTER L WITH ACUTE"⟩,
    ⟨0x13a, "LATIN ", "SMALL LETTER L WITH ACUTE,CAPITAL LETTER L WITH CEDILLA"⟩,
    ⟨0x13c, "LATIN ", "SMALL LETTER L WITH CEDILLA,CAPITAL LETTER L WITH CARON"⟩,
    ⟨0x13e, "LATIN ", "SMALL LETTER L WITH CARON,CAPITAL LETTER L WITH MIDDLE DOT"⟩,
    ⟨0x140, "LATIN ", "SMALL LETTER L WITH MIDDLE DOT,CAPITAL LETTER L WITH STROKE"⟩,
    ⟨0x142, "LATIN ", "SMALL LETTER L WITH STROKE,CAPITAL LETTER N WITH ACUTE"⟩,
    ⟨0x144, "LATIN ", "SMALL LETTER N WITH ACUTE,CAPITAL LETTER N WITH CEDILLA"⟩,
    ⟨0x146, "LATIN ", "SMALL LETTER N WITH CEDILLA,CAPITAL LETTER N WITH CARON"⟩,
    ⟨0x148, "LATIN SMALL LETTER N ", "WITH CARON,PRECEDED BY APOSTROPHE"⟩,
    ⟨0x14a, "LATIN ", "CAPITAL LETTER ENG,SMALL LETTER ENG,CAPITAL LETTER O WITH MACRON"⟩,
    ⟨0x14d, "LATIN ", "SMALL LETTER O WITH MACRON,CAPITAL LETTER O WITH BREVE"⟩,
    ⟨0x14f, "LATIN ", "SMALL LETTER O WITH BREVE,CAPITAL LETTER O WITH DOUBLE ACUTE"⟩,
    ⟨0x151, "LATIN ", "SMALL LETTER O WITH DOUBLE ACUTE,CAPITAL LIGATURE OE"⟩,
    ⟨0x153, "LATIN ", "SMALL LIGATURE OE,CAPITAL LETTER R WITH ACUTE,SMALL LETTER R WITH ACUTE"⟩,
    ⟨0x156, "LATIN ", "CAPITAL LETTER R WITH CEDILLA,SMALL LETTER R WITH CEDILLA"⟩,
    ⟨0x158, "LATIN ", "CAPITAL LETTER R WITH CARON,SMALL LETTER R WITH CARON"⟩,
    ⟨0x15a, "LATIN ", "CAPITAL LETTER S WITH ACUTE,SMALL LETTER S WITH ACUTE"⟩,
    ⟨0x15c, "LATIN ", "CAPITAL LETTER S WITH CIRCUMFLEX,SMALL LETTER S WITH CIRCUMFLEX"⟩,
    ⟨0x15e, "LATIN ", "CAPITAL LETTER S WITH CEDILLA,SMALL LETTER S WITH CEDILLA"⟩,
    ⟨0x160, "LATIN ", "CAPITAL LETTER S WITH CARON,SMALL LETTER S WITH CARON"⟩,
    ⟨0x162, "LATIN ", "CAPITAL LETTER T WITH CEDILLA,SMALL LETTER T WITH CEDILLA"⟩,
    ⟨0x164, "LATIN ", "CAPITAL LETTER T WITH CARON,SMALL LETTER T WITH CARON"⟩,
    ⟨0x166, "LATIN ", "CAPITAL LETTER T WITH STROKE,SMALL LETTER T WITH STROKE"⟩,
    ⟨0x168, "LATIN ", "CAPITAL LETTER U WITH TILDE,SMALL LETTER U WITH TILDE"⟩,
    ⟨0x16a, "LATIN ", "CAPITAL LETTER U WITH MACRON,SMALL LETTER U WITH MACRON"⟩,
    ⟨0x16c, "LATIN ", "CAPITAL LETTER U WITH BREVE,SMALL LETTER U WITH BREVE"⟩,
    ⟨0x16e, "LATIN ", "CAPITAL LETTER U WITH RING ABOVE,SMALL LETTER U WITH RING ABOVE"⟩,
    ⟨0x170, "LATIN ", "CAPITAL LETTER U WITH DOUBLE ACUTE,SMALL LETTER U WITH DOUBLE ACUTE"⟩,
    ⟨0x172, "LATIN ", "CAPITAL LETTER U WITH OGONEK,SMALL LETTER U WITH OGONEK"⟩,
    ⟨0x174, "LATIN ", "CAPITAL LETTER W WITH CIRCUMFLEX,SMALL LETTER W WITH CIRCUMFLEX"⟩,
    ⟨0x176, "LATIN ", "CAPITAL LETTER Y WITH CIRCUMFLEX,SMALL LETTER Y WITH CIRCUMFLEX"⟩,
    ⟨0x178, "LATIN CAPITAL LETTER ", "Y WITH DIAERESIS,Z WITH ACUTE"⟩,
    ⟨0x17a, "LATIN ", "SMALL LETTER Z WITH ACUTE,CAPITAL LETTER Z WITH DOT ABOVE"⟩,
    ⟨0x17c, "LATIN ", "SMALL LETTER Z WITH DOT ABOVE,CAPITAL LETTER Z WITH CARON"⟩,
    ⟨0x17e, "LATIN SMALL LETTER ", "Z WITH CARON,LONG S,B WITH STROKE"⟩,
    ⟨0x181, "LATIN CAPITAL LETTER B WITH ", "HOOK,TOPBAR"⟩,
    ⟨0x183, "LATIN ", "SMALL LETTER B WITH TOPBAR,CAPITAL LETTER TONE SIX,SMALL LETTER TONE SIX"⟩,
    ⟨0x186, "LATIN ", "CAPITAL LETTER OPEN O,CAPITAL LETTER C WITH HOOK,SMALL LETTER C WITH HOOK"⟩,
    ⟨0x189, "LATIN CAPITAL LETTER ", "AFRICAN D,D WITH HOOK,D WITH TOPBAR"⟩,
    ⟨0x18c, "LATIN SMALL LETTER ", "D WITH TOPBAR,TURNED DELTA"⟩,
    ⟨0x18e, "LATIN CAPITAL LETTER ", "REVERSED E,SCHWA,OPEN E,F WITH HOOK"⟩,
    ⟨0x192, "", "LATIN SMALL LETTER F WITH HOOK"⟩,
    ⟨0x193, "LATIN ", "CAPITAL LETTER G WITH HOOK,CAPITAL LETTER GAMMA,SMALL LETTER HV"⟩,
    ⟨0x196, "LATIN CAPITAL LETTER ", "IOTA,I WITH STROKE,K WITH HOOK"⟩,
    ⟨0x199, "LATIN SMALL LETTER ", "K WITH HOOK,L WITH BAR,LAMBDA WITH STROKE"⟩,
    ⟨0x19c, "LATIN CAPITAL LETTER ", "TURNED M,N WITH LEFT HOOK"⟩,
    ⟨0x19e, "LATIN ", "SMALL LETTER N WITH LONG RIGHT LEG,CAPITAL LETTER O WITH MIDDLE TILDE"⟩,
    ⟨0x1a0, "LATIN ", "CAPITAL LETTER O WITH HORN,SMALL LETTER O WITH HORN,CAPITAL LETTER OI"⟩,
    ⟨0x1a3, "LATIN ", "SMALL LETTER OI,CAPITAL LETTER P WITH HOOK,SMALL LETTER P WITH HOOK"⟩,
    ⟨0x1a6, "LATIN ", "LETTER YR,CAPITAL LETTER TONE TWO,SMALL LETTER TONE TWO,CAPITAL LETTER ESH"⟩,
    ⟨0x1aa, "LATIN ", "LETTER REVERSED ESH LOOP,SMALL LETTER T WITH PALATAL HOOK"⟩,
    ⟨0x1ac, "LATIN ", "CAPITAL LETTER T WITH HOOK,SMALL LETTER T WITH HOOK"⟩,
    ⟨0x1ae, "LATIN CAPITAL LETTER ", "T WITH RETROFLEX HOOK,U WITH HORN"⟩,
    ⟨0x1b0, "", "LATIN SMALL LETTER U WITH HORN"⟩,
    ⟨0x1b1, "LATIN CAPITAL LETTER ", "UPSILON,V WITH HOOK,Y WITH HOOK"⟩,
    ⟨0x1b4, "LATIN ", "SMALL LETTER Y WITH HOOK,CAPITAL LETTER Z WITH STROKE"⟩,
    ⟨0x1b6, "LATIN ", "SMALL LETTER Z WITH STROKE,CAPITAL LETTER EZH,CAPITAL LETTER EZH REVERSED"⟩,
    ⟨0x1b9, "LATIN SMALL LETTER EZH ", "REVERSED,WITH TAIL"⟩,
    ⟨0x1bb, "LATIN ", "LETTER TWO WITH STROKE,CAPITAL LETTER TONE FIVE,SMALL LETTER TONE FIVE"⟩,
    ⟨0x1be, "LATIN LETTER ", "INVERTED GLOTTAL STOP WITH STROKE,WYNN,DENTAL CLICK,LATERAL CLICK"⟩,
    ⟨0x1c2, "LATIN ", "LETTER ALVEOLAR CLICK,LETTER RETROFLEX CLICK,CAPITAL LETTER DZ WITH CARON"⟩,
    ⟨0x1c5, "LATIN ", "CAPITAL LETTER D WITH SMALL LETTER Z WITH CARON,SMALL LETTER DZ WITH CARON"⟩,
    ⟨0x1c7, "LATIN ", "CAPITAL LETTER LJ,CAPITAL LETTER L WITH SMALL LETTER J,SMALL LETTER LJ"⟩,
    ⟨0x1ca, "LATIN CAPITAL LETTER ", "NJ,N WITH SMALL LETTER J"⟩,
    ⟨0x1cc, "LATIN ", "SMALL LETTER NJ,CAPITAL LETTER A WITH CARON"⟩,
    ⟨0x1ce, "LATIN ", "SMALL LETTER A WITH CARON,CAPITAL LETTER I WITH CARON"⟩,
    ⟨0x1d0, "LATIN ", "SMALL LETTER I WITH CARON,CAPITAL LETTER O WITH CARON"⟩,
    ⟨0x1d2, "LATIN ", "SMALL LETTER O WITH CARON,CAPITAL LETTER U WITH CARON"⟩,
    ⟨0x1d4, "LATIN ", "SMALL LETTER U WITH CARON,CAPITAL LETTER U WITH DIAERESIS AND MACRON"⟩,
    ⟨0x1d6, "", "LATIN SMALL LETTER U WITH DIAERESIS AND MACRON"⟩,
    ⟨0x1d7, "", "LATIN CAPITAL LETTER U WITH DIAERESIS AND ACUTE"⟩,
    ⟨0x1d8, "", "LATIN SMALL LETTER U WITH DIAERESIS AND ACUTE"⟩,
    ⟨0x1d9, "", "LATIN CAPITAL LETTER U WITH DIAERESIS AND CARON"⟩,
    ⟨0x1da, "", "LATIN SMALL LETTER U WITH DIAERESIS AND CARON"⟩,
    ⟨0x1db, "", "LATIN CAPITAL LETTER U WITH DIAERESIS AND GRAVE"⟩,
    ⟨0x1dc, "LATIN SMALL LETTER ", "U WITH DIAERESIS AND GRAVE,TURNED E"⟩,
    ⟨0x1de, "", "LATIN CAPITAL LETTER A WITH DIAERESIS AND MACRON"⟩,
    ⟨0x1df, "", "LATIN SMALL LETTER A WITH DIAERESIS AND MACRON"⟩,
    ⟨0x1e0, "", "LATIN CAPITAL LETTER A WITH DOT ABOVE AND MACRON"⟩,
    ⟨0x1e1, "LATIN ", "SMALL LETTER A WITH DOT ABOVE AND MACRON,CAPITAL LETTER AE WITH MACRON"⟩,
    ⟨0x1e3, "LATIN ", "SMALL LETTER AE WITH MACRON,CAPITAL LETTER G WITH STROKE"⟩,
    ⟨0x1e5, "LATIN ", "SMALL LETTER G WITH STROKE,CAPITAL LETTER G WITH CARON"⟩,
    ⟨0x1e7, "LATIN ", "SMALL LETTER G WITH CARON,CAPITAL LETTER K WITH CARON"⟩,
    ⟨0x1e9, "LATIN ", "SMALL LETTER K WITH CARON,CAPITAL LETTER O WITH OGONEK"⟩,
    ⟨0x1eb, "LATIN ", "SMALL LETTER O WITH OGONEK,CAPITAL LETTER O WITH OGONEK AND MACRON"⟩,
    ⟨0x1ed, "LATIN ", "SMALL LETTER O WITH OGONEK AND MACRON,CAPITAL LETTER EZH WITH CARON"⟩,
    ⟨0x1ef, "LATIN SMALL LETTER ", "EZH WITH CARON,J WITH CARON"⟩,
    ⟨0x1f1, "LATIN CAPITAL LETTER ", "DZ,D WITH SMALL LETTER Z"⟩,
    ⟨0x1f3, "LATIN ", "SMALL LETTER DZ,CAPITAL LETTER G WITH ACUTE,SMALL LETTER G WITH ACUTE"⟩,
    ⟨0x1f6, "LATIN CAPITAL LETTER ", "HWAIR,WYNN,N WITH GRAVE"⟩,
    ⟨0x1f9, "LATIN ", "SMALL LETTER N WITH GRAVE,CAPITAL LETTER A WITH RING ABOVE AND ACUTE"⟩,
    ⟨0x1fb, "LATIN ", "SMALL LETTER A WITH RING ABOVE AND ACUTE,CAPITAL LETTER AE WITH ACUTE"⟩,
    ⟨0x1fd, "LATIN ", "SMALL LETTER AE WITH ACUTE,CAPITAL LETTER O WITH STROKE AND ACUTE"⟩,
    ⟨0x1ff, "LATIN ", "SMALL LETTER O WITH STROKE AND ACUTE,CAPITAL LETTER A WITH DOUBLE GRAVE"⟩,
    ⟨0x201, "LATIN ", "SMALL LETTER A WITH DOUBLE GRAVE,CAPITAL LETTER A WITH INVERTED BREVE"⟩,
    ⟨0x203, "LATIN ", "SMALL LETTER A WITH INVERTED BREVE,CAPITAL LETTER E WITH DOUBLE GRAVE"⟩,
    ⟨0x205, "LATIN ", "SMALL LETTER E WITH DOUBLE GRAVE,CAPITAL LETTER E WITH INVERTED BREVE"⟩,
    ⟨0x207, "LATIN ", "SMALL LETTER E WITH INVERTED BREVE,CAPITAL LETTER I WITH DOUBLE GRAVE"⟩,
    ⟨0x209, "LATIN ", "SMALL LETTER I WITH DOUBLE GRAVE,CAPITAL LETTER I WITH INVERTED BREVE"⟩,
    ⟨0x20b, "LATIN ", "SMALL LETTER I WITH INVERTED BREVE,CAPITAL LETTER O WITH DOUBLE GRAVE"⟩,
    ⟨0x20d, "LATIN ", "SMALL LETTER O WITH DOUBLE GRAVE,CAPITAL LETTER O WITH INVERTED BREVE"⟩,
    ⟨0x20f, "LATIN ", "SMALL LETTER O WITH INVERTED BREVE,CAPITAL LETTER R WITH DOUBLE GRAVE"⟩,
    ⟨0x211, "LATIN ", "SMALL LETTER R WITH DOUBLE GRAVE,CAPITAL LETTER R WITH INVERTED BREVE"⟩,
    ⟨0x213, "LATIN ", "SMALL LETTER R WITH INVERTED BREVE,CAPITAL LETTER U WITH DOUBLE GRAVE"⟩,
    ⟨0x215, "LATIN ", "SMALL LETTER U WITH DOUBLE GRAVE,CAPITAL LETTER U WITH INVERTED BREVE"⟩,
    ⟨0x217, "LATIN ", "SMALL LETTER U WITH INVERTED BREVE,CAPITAL LETTER S WITH COMMA BELOW"⟩,
    ⟨0x219, "LATIN ", "SMALL LETTER S WITH COMMA BELOW,CAPITAL LETTER T WITH COMMA BELOW"⟩,
    ⟨0x21b, "LATIN ", "SMALL LETTER T WITH COMMA BELOW,CAPITAL LETTER YOGH"⟩,
    ⟨0x21d, "LATIN ", "SMALL LETTER YOGH,CAPITAL LETTER H WITH CARON,SMALL LETTER H WITH CARON"⟩,
    ⟨0x220, "LATIN ", "CAPITAL LETTER N WITH LONG RIGHT LEG,SMALL LETTER D WITH CURL"⟩,
    ⟨0x222, "LATIN ", "CAPITAL LETTER OU,SMALL LETTER OU,CAPITAL LETTER Z WITH HOOK"⟩,
    ⟨0x225, "LATIN ", "SMALL LETTER Z WITH HOOK,CAPITAL LETTER A WITH DOT ABOVE"⟩,
    ⟨0x227, "LATIN ", "SMALL LETTER A WITH DOT ABOVE,CAPITAL LETTER E WITH CEDILLA"⟩,
    ⟨0x229, "LATIN ", "SMALL LETTER E WITH CEDILLA,CAPITAL LETTER O WITH DIAERESIS AND MACRON"⟩,
    ⟨0x22b, "", "LATIN SMALL LETTER O WITH DIAERESIS AND MACRON"⟩,
    ⟨0x22c, "", "LATIN CAPITAL LETTER O WITH TILDE AND MACRON"⟩,
    ⟨0x22d, "LATIN ", "SMALL LETTER O WITH TILDE AND MACRON,CAPITAL LETTER O WITH DOT ABOVE"⟩,
    ⟨0x22f, "LATIN ", "SMALL LETTER O WITH DOT ABOVE,CAPITAL LETTER O WITH DOT ABOVE AND MACRON"⟩,
    ⟨0x231, "LATIN ", "SMALL LETTER O WITH DOT ABOVE AND MACRON,CAPITAL LETTER Y WITH MACRON"⟩,
    ⟨0x233, "LATIN SMALL LETTER ", "Y WITH MACRON,L WITH CURL"⟩,
    ⟨0x235, "LATIN SMALL LETTER ", "N WITH CURL,T WITH CURL,DOTLESS J,DB DIGRAPH,QP DIGRAPH"⟩,
    ⟨0x23a, "LATIN CAPITAL LETTER ", "A WITH STROKE,C WITH STROKE"⟩,
    ⟨0x23c, "", "LATIN SMALL LETTER C WITH STROKE"⟩,
    ⟨0x23d, "LATIN CAPITAL LETTER ", "L WITH BAR,T WITH DIAGONAL STROKE"⟩,
    ⟨0x23f, "LATIN SMALL LETTER ", "S WITH SWASH TAIL,Z WITH SWASH TAIL"⟩,
    ⟨0x241, "LATIN ", "CAPITAL LETTER GLOTTAL STOP,SMALL LETTER GLOTTAL STOP"⟩,
    ⟨0x243, "LATIN CAPITAL LETTER ", "B WITH STROKE,U BAR,TURNED V,E WITH STROKE"⟩,
    ⟨0x247, "LATIN ", "SMALL LETTER E WITH STROKE,CAPITAL LETTER J WITH STROKE"⟩,
    ⟨0x249, "LATIN ", "SMALL LETTER J WITH STROKE,CAPITAL LETTER SMALL Q WITH HOOK TAIL"⟩,
    ⟨0x24b, "LATIN ", "SMALL LETTER Q WITH HOOK TAIL,CAPITAL LETTER R WITH STROKE"⟩,
    ⟨0x24d, "LATIN ", "SMALL LETTER R WITH STROKE,CAPITAL LETTER Y WITH STROKE"⟩,
    ⟨0x24f, "LATIN SMALL LETTER ", "Y WITH STROKE,TURNED A"⟩,
    ⟨0x251, "LATIN SMALL LETTER ", "ALPHA,TURNED ALPHA,B WITH HOOK,OPEN O,C WITH CURL,D WITH TAIL"⟩,
    ⟨0x257, "LATIN SMALL LETTER ", "D WITH HOOK,REVERSED E,SCHWA,SCHWA WITH HOOK,OPEN E"⟩,
    ⟨0x25c, "LATIN SMALL LETTER REVERSED OPEN ", "E,E WITH HOOK"⟩,
    ⟨0x25e, "LATIN SMALL LETTER ", "CLOSED REVERSED OPEN E,DOTLESS J WITH STROKE,G WITH HOOK"⟩,
    ⟨0x261, "LATIN ", "SMALL LETTER SCRIPT G,LETTER SMALL CAPITAL G"⟩,
    ⟨0x263, "LATIN SMALL LETTER ", "GAMMA,RAMS HORN,TURNED H,H WITH HOOK,HENG WITH HOOK"⟩,
    ⟨0x268, "LATIN ", "SMALL LETTER I WITH STROKE,SMALL LETTER IOTA,LETTER SMALL CAPITAL I"⟩,
    ⟨0x26b, "LATIN SMALL LETTER L WITH ", "MIDDLE TILDE,BELT,RETROFLEX HOOK"⟩,
    ⟨0x26e, "LATIN SMALL LETTER ", "LEZH,TURNED M,TURNED M WITH LONG LEG,M WITH HOOK"⟩,
    ⟨0x272, "LATIN SMALL LETTER N WITH ", "LEFT HOOK,RETROFLEX HOOK"⟩,
    ⟨0x274, "LATIN ", "LETTER SMALL CAPITAL N,SMALL LETTER BARRED O,LETTER SMALL CAPITAL OE"⟩,
    ⟨0x277, "LATIN SMALL LETTER ", "CLOSED OMEGA,PHI,TURNED R"⟩,
    ⟨0x27a, "LATIN SMALL LETTER ", "TURNED R WITH LONG LEG,TURNED R WITH HOOK,R WITH LONG LEG"⟩,
    ⟨0x27d, "LATIN SMALL LETTER ", "R WITH TAIL,R WITH FISHHOOK,REVERSED R WITH FISHHOOK"⟩,
    ⟨0x280, "LATIN LETTER SMALL CAPITAL ", "R,INVERTED R"⟩,
    ⟨0x282, "LATIN SMALL LETTER ", "S WITH HOOK,ESH,DOTLESS J WITH STROKE AND HOOK"⟩,
    ⟨0x285, "LATIN SMALL LETTER ", "SQUAT REVERSED ESH,ESH WITH CURL,TURNED T"⟩,
    ⟨0x288, "LATIN SMALL LETTER ", "T WITH RETROFLEX HOOK,U BAR,UPSILON,V WITH HOOK,TURNED V"⟩,
    ⟨0x28d, "LATIN ", "SMALL LETTER TURNED W,SMALL LETTER TURNED Y,LETTER SMALL CAPITAL Y"⟩,
    ⟨0x290, "LATIN SMALL LETTER ", "Z WITH RETROFLEX HOOK,Z WITH CURL,EZH,EZH WITH CURL"⟩,
    ⟨0x294, "LATIN LETTER ", "GLOTTAL STOP,PHARYNGEAL VOICED FRICATIVE"⟩,
    ⟨0x296, "LATIN LETTER ", "INVERTED GLOTTAL STOP,STRETCHED C,BILABIAL CLICK,SMALL CAPITAL B"⟩,
    ⟨0x29a, "LATIN ", "SMALL LETTER CLOSED OPEN E,LETTER SMALL CAPITAL G WITH HOOK"⟩,
    ⟨0x29c, "LATIN ", "LETTER SMALL CAPITAL H,SMALL LETTER J WITH CROSSED-TAIL"⟩,
    ⟨0x29e, "LATIN ", "SMALL LETTER TURNED K,LETTER SMALL CAPITAL L,SMALL LETTER Q WITH HOOK"⟩,
    ⟨0x2a1, "LATIN LETTER ", "GLOTTAL STOP WITH STROKE,REVERSED GLOTTAL STOP WITH STROKE"⟩,
    ⟨0x2a3, "", "LATIN SMALL LETTER DZ DIGRAPH"⟩,
    ⟨0x2a4, "LATIN SMALL LETTER ", "DEZH DIGRAPH,DZ DIGRAPH WITH CURL,TS DIGRAPH,TESH DIGRAPH"⟩,
    ⟨0x2a8, "LATIN SMALL LETTER ", "TC DIGRAPH WITH CURL,FENG DIGRAPH,LS DIGRAPH,LZ DIGRAPH"⟩,
    ⟨0x2ac, "LATIN LETTER ", "BILABIAL PERCUSSIVE,BIDENTAL PERCUSSIVE"⟩,
    ⟨0x2ae, "LATIN SMALL LETTER TURNED H WITH ", "FISHHOOK,FISHHOOK AND TAIL"⟩,
    ⟨0x2b0, "MODIFIER LETTER SMALL ", "H,H WITH HOOK,J,R,TURNED R,TURNED R WITH HOOK"⟩,
    ⟨0x2b6, "MODIFIER LETTER ", "SMALL CAPITAL INVERTED R,SMALL W,SMALL Y,PRIME,DOUBLE PRIME"⟩,
    ⟨0x2bb, "MODIFIER LETTER ", "TURNED COMMA,APOSTROPHE,REVERSED COMMA,RIGHT HALF RING"⟩,
    ⟨0x2bf, "MODIFIER LETTER ", "LEFT HALF RING,GLOTTAL STOP,REVERSED GLOTTAL STOP,LEFT ARROWHEAD"⟩,
    ⟨0x2c3, "MODIFIER LETTER ", "RIGHT ARROWHEAD,UP ARROWHEAD,DOWN ARROWHEAD,CIRCUMFLEX ACCENT"⟩,
    ⟨0x2c7, "", "CARON"⟩,
    ⟨0x2c8, "MODIFIER LETTER ", "VERTICAL LINE,MACRON,ACUTE ACCENT,GRAVE ACCENT"⟩,
    ⟨0x2cc, "MODIFIER LETTER LOW ", "VERTICAL LINE,MACRON,GRAVE ACCENT,ACUTE ACCENT"⟩,
    ⟨0x2d0, "MODIFIER LETTER ", "TRIANGULAR COLON,HALF TRIANGULAR COLON,CENTRED RIGHT HALF RING"⟩,
    ⟨0x2d3, "MODIFIER LETTER ", "CENTRED LEFT HALF RING,UP TACK,DOWN TACK,PLUS SIGN,MINUS SIGN"⟩,
    ⟨0x2d8, "", "BREVE,DOT ABOVE,RING ABOVE,OGONEK,SMALL TILDE,DOUBLE ACUTE ACCENT"⟩,
    ⟨0x2de, "MODIFIER LETTER ", "RHOTIC HOOK,CROSS ACCENT,SMALL GAMMA,SMALL L"⟩,
    ⟨0x2e2, "MODIFIER LETTER ", "SMALL S,SMALL X,SMALL REVERSED GLOTTAL STOP,EXTRA-HIGH TONE BAR"⟩,
    ⟨0x2e6, "MODIFIER LETTER ", "HIGH TONE BAR,MID TONE BAR,LOW TONE BAR,EXTRA-LOW TONE BAR"⟩,
    ⟨0x2ea, "MODIFIER LETTER ", "YIN DEPARTING TONE MARK,YANG DEPARTING TONE MARK"⟩,
    ⟨0x2ec, "MODIFIER LETTER ", "VOICING,UNASPIRATED,DOUBLE APOSTROPHE,LOW DOWN ARROWHEAD"⟩,
    ⟨0x2f0, "MODIFIER LETTER LOW ", "UP ARROWHEAD,LEFT ARROWHEAD,RIGHT ARROWHEAD,RING"⟩,
    ⟨0x2f4, "MODIFIER LETTER MIDDLE ", "GRAVE ACCENT,DOUBLE GRAVE ACCENT,DOUBLE ACUTE ACCENT"⟩,
    ⟨0x2f7, "MODIFIER LETTER ", "LOW TILDE,RAISED COLON,BEGIN HIGH TONE,END HIGH TONE"⟩,
    ⟨0x2fb, "MODIFIER LETTER ", "BEGIN LOW TONE,END LOW TONE,SHELF,OPEN SHELF,LOW LEFT ARROW"⟩,
    ⟨0x300, "COMBINING ", "GRAVE ACCENT,ACUTE ACCENT,CIRCUMFLEX ACCENT,TILDE,MACRON,OVERLINE"⟩,
    ⟨0x306, "COMBINING ", "BREVE,DOT ABOVE,DIAERESIS,HOOK ABOVE,RING ABOVE,DOUBLE ACUTE ACCENT"⟩,
    ⟨0x30c, "COMBINING ", "CARON,VERTICAL LINE ABOVE,DOUBLE VERTICAL LINE ABOVE"⟩,
    ⟨0x30f, "COMBINING ", "DOUBLE GRAVE ACCENT,CANDRABINDU,INVERTED BREVE"⟩,
    ⟨0x312, "COMBINING ", "TURNED COMMA ABOVE,COMMA ABOVE,REVERSED COMMA ABOVE,COMMA ABOVE RIGHT"⟩,
    ⟨0x316, "COMBINING ", "GRAVE ACCENT BELOW,ACUTE ACCENT BELOW,LEFT TACK BELOW"⟩,
    ⟨0x319, "COMBINING ", "RIGHT TACK BELOW,LEFT ANGLE ABOVE,HORN,LEFT HALF RING BELOW"⟩,
    ⟨0x31d, "COMBINING ", "UP TACK BELOW,DOWN TACK BELOW,PLUS SIGN BELOW,MINUS SIGN BELOW"⟩,
    ⟨0x321, "COMBINING ", "PALATALIZED HOOK BELOW,RETROFLEX HOOK BELOW,DOT BELOW,DIAERESIS BELOW"⟩,
    ⟨0x325, "COMBINING ", "RING BELOW,COMMA BELOW,CEDILLA,OGONEK,VERTICAL LINE BELOW,BRIDGE BELOW"⟩,
    ⟨0x32b, "COMBINING ", "INVERTED DOUBLE ARCH BELOW,CARON BELOW,CIRCUMFLEX ACCENT BELOW"⟩,
    ⟨0x32e, "COMBINING ", "BREVE BELOW,INVERTED BREVE BELOW,TILDE BELOW,MACRON BELOW"⟩,
    ⟨0x332, "COMBINING ", "LOW LINE,DOUBLE LOW LINE,TILDE OVERLAY,SHORT STROKE OVERLAY"⟩,
    ⟨0x336, "COMBINING ", "LONG STROKE OVERLAY,SHORT SOLIDUS OVERLAY,LONG SOLIDUS OVERLAY"⟩,
    ⟨0x339, "COMBINING ", "RIGHT HALF RING BELOW,INVERTED BRIDGE BELOW,SQUARE BELOW,SEAGULL BELOW"⟩,
    ⟨0x33d, "COMBINING ", "X ABOVE,VERTICAL TILDE,DOUBLE OVERLINE,GRAVE TONE MARK,ACUTE TONE MARK"⟩,
    ⟨0x342, "COMBINING GREEK ", "PERISPOMENI,KORONIS,DIALYTIKA TONOS,YPOGEGRAMMENI"⟩,
    ⟨0x346, "COMBINING ", "BRIDGE ABOVE,EQUALS SIGN BELOW"⟩,
    ⟨0x348, "COMBINING ", "DOUBLE VERTICAL LINE BELOW,LEFT ANGLE BELOW,NOT TILDE ABOVE"⟩,
    ⟨0x34b, "COMBINING ", "HOMOTHETIC ABOVE,ALMOST EQUAL TO ABOVE,LEFT RIGHT ARROW BELOW"⟩,
    ⟨0x34e, "COMBINING ", "UPWARDS ARROW BELOW,GRAPHEME JOINER,RIGHT ARROWHEAD ABOVE"⟩,
    ⟨0x351, "COMBINING ", "LEFT HALF RING ABOVE,FERMATA,X BELOW,LEFT ARROWHEAD BELOW"⟩,
    ⟨0x355, "COMBINING RIGHT ", "ARROWHEAD BELOW,ARROWHEAD AND UP ARROWHEAD BELOW,HALF RING ABOVE"⟩,
    ⟨0x358, "COMBINING ", "DOT ABOVE RIGHT,ASTERISK BELOW,DOUBLE RING BELOW,ZIGZAG ABOVE"⟩,
    ⟨0x35c, "COMBINING DOUBLE ", "BREVE BELOW,BREVE"⟩,
    ⟨0x35e, "COMBINING DOUBLE ", "MACRON,MACRON BELOW,TILDE,INVERTED BREVE,RIGHTWARDS ARROW BELOW"⟩,
    ⟨0x363, "COMBINING LATIN SMALL LETTER ", "A,E,I,O,U,C,D,H,M,R,T,V,X"⟩,
    ⟨0x370, "GREEK ", "CAPITAL LETTER HETA,SMALL LETTER HETA,CAPITAL LETTER ARCHAIC SAMPI"⟩,
    ⟨0x373, "GREEK ", "SMALL LETTER ARCHAIC SAMPI,NUMERAL SIGN,LOWER NUMERAL SIGN"⟩,
    ⟨0x376, "GREEK ", "CAPITAL LETTER PAMPHYLIAN DIGAMMA,SMALL LETTER PAMPHYLIAN DIGAMMA"⟩,
    ⟨0x37a, "", "GREEK YPOGEGRAMMENI"⟩,
    ⟨0x37b, "GREEK SMALL ", "REVERSED LUNATE SIGMA SYMBOL,DOTTED LUNATE SIGMA SYMBOL"⟩,
    ⟨0x37d, "GREEK ", "SMALL REVERSED DOTTED LUNATE SIGMA SYMBOL,QUESTION MARK,CAPITAL LETTER YOT"⟩,
    ⟨0x384, "GREEK ", "TONOS,DIALYTIKA TONOS,CAPITAL LETTER ALPHA WITH TONOS,ANO TELEIA"⟩,
    ⟨0x388, "GREEK CAPITAL LETTER ", "EPSILON WITH TONOS,ETA WITH TONOS,IOTA WITH TONOS"⟩,
    ⟨0x38c, "GREEK CAPITAL LETTER ", "OMICRON WITH TONOS,,UPSILON WITH TONOS,OMEGA WITH TONOS"⟩,
    ⟨0x390, "", "GREEK SMALL LETTER IOTA WITH DIALYTIKA AND TONOS"⟩,
    ⟨0x391, "GREEK CAPITAL LETTER ", "ALPHA,BETA,GAMMA,DELTA,EPSILON,ZETA,ETA,THETA,IOTA"⟩,
    ⟨0x39a, "GREEK CAPITAL LETTER ", "KAPPA,LAMDA,MU,NU,XI,OMICRON,PI,RHO,,SIGMA,TAU,UPSILON,PHI"⟩,
    ⟨0x3a7, "GREEK CAPITAL LETTER ", "CHI,PSI,OMEGA,IOTA WITH DIALYTIKA,UPSILON WITH DIALYTIKA"⟩,
    ⟨0x3ac, "GREEK SMALL LETTER ", "ALPHA WITH TONOS,EPSILON WITH TONOS,ETA WITH TONOS"⟩,
    ⟨0x3af, "GREEK SMALL LETTER ", "IOTA WITH TONOS,UPSILON WITH DIALYTIKA AND TONOS"⟩,
    ⟨0x3b1, "GREEK SMALL LETTER ", "ALPHA,BETA,GAMMA,DELTA,EPSILON,ZETA,ETA,THETA,IOTA,KAPPA"⟩,
    ⟨0x3bb, "GREEK SMALL LETTER ", "LAMDA,MU,NU,XI,OMICRON,PI,RHO,FINAL SIGMA,SIGMA,TAU,UPSILON"⟩,
    ⟨0x3c6, "GREEK SMALL LETTER ", "PHI,CHI,PSI,OMEGA,IOTA WITH DIALYTIKA,UPSILON WITH DIALYTIKA"⟩,
    ⟨0x3cc, "GREEK SMALL LETTER ", "OMICRON WITH TONOS,UPSILON WITH TONOS,OMEGA WITH TONOS"⟩,
    ⟨0x3cf, "GREEK ", "CAPITAL KAI SYMBOL,BETA SYMBOL,THETA SYMBOL"⟩,
    ⟨0x3d2, "GREEK UPSILON WITH ", "HOOK SYMBOL,ACUTE AND HOOK SYMBOL,DIAERESIS AND HOOK SYMBOL"⟩,
    ⟨0x3d5, "", "GREEK PHI SYMBOL"⟩,
    ⟨0x3d6, "GREEK ", "PI SYMBOL,KAI SYMBOL,LETTER ARCHAIC KOPPA,SMALL LETTER ARCHAIC KOPPA"⟩,
    ⟨0x3da, "GREEK ", "LETTER STIGMA,SMALL LETTER STIGMA,LETTER DIGAMMA,SMALL LETTER DIGAMMA"⟩,
    ⟨0x3de, "GREEK ", "LETTER KOPPA,SMALL LETTER KOPPA,LETTER SAMPI,SMALL LETTER SAMPI"⟩,
    ⟨0x3e2, "COPTIC ", "CAPITAL LETTER SHEI,SMALL LETTER SHEI,CAPITAL LETTER FEI,SMALL LETTER FEI"⟩,
    ⟨0x3e6, "COPTIC ", "CAPITAL LETTER KHEI,SMALL LETTER KHEI,CAPITAL LETTER HORI"⟩,
    ⟨0x3e9, "COPTIC ", "SMALL LETTER HORI,CAPITAL LETTER GANGIA,SMALL LETTER GANGIA"⟩,
    ⟨0x3ec, "COPTIC ", "CAPITAL LETTER SHIMA,SMALL LETTER SHIMA,CAPITAL LETTER DEI"⟩,
    ⟨0x3ef, "", "COPTIC SMALL LETTER DEI,GREEK KAPPA SYMBOL,GREEK RHO SYMBOL"⟩,
    ⟨0x3f2, "GREEK ", "LUNATE SIGMA SYMBOL,LETTER YOT,CAPITAL THETA SYMBOL,LUNATE EPSILON SYMBOL"⟩,
    ⟨0x3f6, "GREEK ", "REVERSED LUNATE EPSILON SYMBOL,CAPITAL LETTER SHO,SMALL LETTER SHO"⟩,
    ⟨0x3f9, "GREEK ", "CAPITAL LUNATE SIGMA SYMBOL,CAPITAL LETTER SAN,SMALL LETTER SAN"⟩,
    ⟨0x3fc, "GREEK ", "RHO WITH STROKE SYMBOL,CAPITAL REVERSED LUNATE SIGMA SYMBOL"⟩,
    ⟨0x3fe, "GREEK CAPITAL ", "DOTTED LUNATE SIGMA SYMBOL,REVERSED DOTTED LUNATE SIGMA SYMBOL"⟩,
    ⟨0x400, "", "CYRILLIC CAPITAL LETTER IE WITH GRAVE"⟩,
    ⟨0x401, "CYRILLIC CAPITAL LETTER ", "IO,DJE,GJE,UKRAINIAN IE,DZE,BYELORUSSIAN-UKRAINIAN I"⟩,
    ⟨0x407, "CYRILLIC CAPITAL LETTER ", "YI,JE,LJE,NJE,TSHE,KJE,I WITH GRAVE,SHORT U,DZHE,A,BE,VE"⟩,
    ⟨0x413, "CYRILLIC CAPITAL LETTER ", "GHE,DE,IE,ZHE,ZE,I,SHORT I,KA,EL,EM,EN,O,PE,ER,ES,TE,U"⟩,
    ⟨0x424, "CYRILLIC CAPITAL LETTER ", "EF,HA,TSE,CHE,SHA,SHCHA,HARD SIGN,YERU,SOFT SIGN,E,YU,YA"⟩,
    ⟨0x430, "CYRILLIC SMALL LETTER ", "A,BE,VE,GHE,DE,IE"⟩,
    ⟨0x436, "CYRILLIC SMALL LETTER ", "ZHE,ZE,I,SHORT I,KA,EL,EM,EN,O,PE,ER,ES,TE,U,EF,HA,TSE,CHE"⟩,
    ⟨0x448, "CYRILLIC SMALL LETTER ", "SHA,SHCHA,HARD SIGN,YERU,SOFT SIGN,E,YU,YA,IE WITH GRAVE"⟩,
    ⟨0x451, "CYRILLIC SMALL LETTER ", "IO,DJE,GJE,UKRAINIAN IE,DZE,BYELORUSSIAN-UKRAINIAN I"⟩,
    ⟨0x457, "CYRILLIC SMALL LETTER ", "YI,JE,LJE,NJE,TSHE,KJE,I WITH GRAVE,SHORT U,DZHE"⟩,
    ⟨0x460, "CYRILLIC ", "CAPITAL LETTER OMEGA,SMALL LETTER OMEGA,CAPITAL LETTER YAT"⟩,
    ⟨0x463, "CYRILLIC ", "SMALL LETTER YAT,CAPITAL LETTER IOTIFIED E,SMALL LETTER IOTIFIED E"⟩,
    ⟨0x466, "CYRILLIC ", "CAPITAL LETTER LITTLE YUS,SMALL LETTER LITTLE YUS"⟩,
    ⟨0x468, "CYRILLIC ", "CAPITAL LETTER IOTIFIED LITTLE YUS,SMALL LETTER IOTIFIED LITTLE YUS"⟩,
    ⟨0x46a, "CYRILLIC ", "CAPITAL LETTER BIG YUS,SMALL LETTER BIG YUS"⟩,
    ⟨0x46c, "CYRILLIC ", "CAPITAL LETTER IOTIFIED BIG YUS,SMALL LETTER IOTIFIED BIG YUS"⟩,
    ⟨0x46e, "CYRILLIC ", "CAPITAL LETTER KSI,SMALL LETTER KSI,CAPITAL LETTER PSI,SMALL LETTER PSI"⟩,
    ⟨0x472, "CYRILLIC ", "CAPITAL LETTER FITA,SMALL LETTER FITA,CAPITAL LETTER IZHITSA"⟩,
    ⟨0x475, "CYRILLIC ", "SMALL LETTER IZHITSA,CAPITAL LETTER IZHITSA WITH DOUBLE GRAVE ACCENT"⟩,
    ⟨0x477, "", "CYRILLIC SMALL LETTER IZHITSA WITH DOUBLE GRAVE ACCENT"⟩,
    ⟨0x478, "CYRILLIC ", "CAPITAL LETTER UK,SMALL LETTER UK,CAPITAL LETTER ROUND OMEGA"⟩,
    ⟨0x47b, "CYRILLIC ", "SMALL LETTER ROUND OMEGA,CAPITAL LETTER OMEGA WITH TITLO"⟩,
    ⟨0x47d, "CYRILLIC ", "SMALL LETTER OMEGA WITH TITLO,CAPITAL LETTER OT"⟩,
    ⟨0x47f, "CYRILLIC ", "SMALL LETTER OT,CAPITAL LETTER KOPPA,SMALL LETTER KOPPA,THOUSANDS SIGN"⟩,
    ⟨0x483, "COMBINING CYRILLIC ", "TITLO,PALATALIZATION,DASIA PNEUMATA"⟩,
    ⟨0x486, "COMBINING CYRILLIC ", "PSILI PNEUMATA,POKRYTIE,HUNDRED THOUSANDS SIGN,MILLIONS SIGN"⟩,
    ⟨0x48a, "", "CYRILLIC CAPITAL LETTER SHORT I WITH TAIL"⟩,
    ⟨0x48b, "CYRILLIC ", "SMALL LETTER SHORT I WITH TAIL,CAPITAL LETTER SEMISOFT SIGN"⟩,
    ⟨0x48d, "CYRILLIC ", "SMALL LETTER SEMISOFT SIGN,CAPITAL LETTER ER WITH TICK"⟩,
    ⟨0x48f, "CYRILLIC ", "SMALL LETTER ER WITH TICK,CAPITAL LETTER GHE WITH UPTURN"⟩,
    ⟨0x491, "CYRILLIC ", "SMALL LETTER GHE WITH UPTURN,CAPITAL LETTER GHE WITH STROKE"⟩,
    ⟨0x493, "CYRILLIC ", "SMALL LETTER GHE WITH STROKE,CAPITAL LETTER GHE WITH MIDDLE HOOK"⟩,
    ⟨0x495, "CYRILLIC ", "SMALL LETTER GHE WITH MIDDLE HOOK,CAPITAL LETTER ZHE WITH DESCENDER"⟩,
    ⟨0x497, "CYRILLIC ", "SMALL LETTER ZHE WITH DESCENDER,CAPITAL LETTER ZE WITH DESCENDER"⟩,
    ⟨0x499, "CYRILLIC ", "SMALL LETTER ZE WITH DESCENDER,CAPITAL LETTER KA WITH DESCENDER"⟩,
    ⟨0x49b, "CYRILLIC ", "SMALL LETTER KA WITH DESCENDER,CAPITAL LETTER KA WITH VERTICAL STROKE"⟩,
    ⟨0x49d, "CYRILLIC ", "SMALL LETTER KA WITH VERTICAL STROKE,CAPITAL LETTER KA WITH STROKE"⟩,
    ⟨0x49f, "CYRILLIC ", "SMALL LETTER KA WITH STROKE,CAPITAL LETTER BASHKIR KA"⟩,
    ⟨0x4a1, "CYRILLIC ", "SMALL LETTER BASHKIR KA,CAPITAL LETTER EN WITH DESCENDER"⟩,
    ⟨0x4a3, "CYRILLIC ", "SMALL LETTER EN WITH DESCENDER,CAPITAL LIGATURE EN GHE"⟩,
    ⟨0x4a5, "CYRILLIC ", "SMALL LIGATURE EN GHE,CAPITAL LETTER PE WITH MIDDLE HOOK"⟩,
    ⟨0x4a7, "CYRILLIC ", "SMALL LETTER PE WITH MIDDLE HOOK,CAPITAL LETTER ABKHASIAN HA"⟩,
    ⟨0x4a9, "CYRILLIC ", "SMALL LETTER ABKHASIAN HA,CAPITAL LETTER ES WITH DESCENDER"⟩,
    ⟨0x4ab, "CYRILLIC ", "SMALL LETTER ES WITH DESCENDER,CAPITAL LETTER TE WITH DESCENDER"⟩,
    ⟨0x4ad, "CYRILLIC ", "SMALL LETTER TE WITH DESCENDER,CAPITAL LETTER STRAIGHT U"⟩,
    ⟨0x4af, "CYRILLIC ", "SMALL LETTER STRAIGHT U,CAPITAL LETTER STRAIGHT U WITH STROKE"⟩,
    ⟨0x4b1, "CYRILLIC ", "SMALL LETTER STRAIGHT U WITH STROKE,CAPITAL LETTER HA WITH DESCENDER"⟩,
    ⟨0x4b3, "CYRILLIC ", "SMALL LETTER HA WITH DESCENDER,CAPITAL LIGATURE TE TSE"⟩,
    ⟨0x4b5, "CYRILLIC ", "SMALL LIGATURE TE TSE,CAPITAL LETTER CHE WITH DESCENDER"⟩,
    ⟨0x4b7, "CYRILLIC ", "SMALL LETTER CHE WITH DESCENDER,CAPITAL LETTER CHE WITH VERTICAL STROKE"⟩,
    ⟨0x4b9, "", "CYRILLIC SMALL LETTER CHE WITH VERTICAL STROKE"⟩,
    ⟨0x4ba, "CYRILLIC ", "CAPITAL LETTER SHHA,SMALL LETTER SHHA,CAPITAL LETTER ABKHASIAN CHE"⟩,
    ⟨0x4bd, "CYRILLIC ", "SMALL LETTER ABKHASIAN CHE,CAPITAL LETTER ABKHASIAN CHE WITH DESCENDER"⟩,
    ⟨0x4bf, "", "CYRILLIC SMALL LETTER ABKHASIAN CHE WITH DESCENDER"⟩,
    ⟨0x4c0, "CYRILLIC ", "LETTER PALOCHKA,CAPITAL LETTER ZHE WITH BREVE"⟩,
    ⟨0x4c2, "CYRILLIC ", "SMALL LETTER ZHE WITH BREVE,CAPITAL LETTER KA WITH HOOK"⟩,
    ⟨0x4c4, "CYRILLIC ", "SMALL LETTER KA WITH HOOK,CAPITAL LETTER EL WITH TAIL"⟩,
    ⟨0x4c6, "CYRILLIC ", "SMALL LETTER EL WITH TAIL,CAPITAL LETTER EN WITH HOOK"⟩,
    ⟨0x4c8, "CYRILLIC ", "SMALL LETTER EN WITH HOOK,CAPITAL LETTER EN WITH TAIL"⟩,
    ⟨0x4ca, "CYRILLIC ", "SMALL LETTER EN WITH TAIL,CAPITAL LETTER KHAKASSIAN CHE"⟩,
    ⟨0x4cc, "CYRILLIC ", "SMALL LETTER KHAKASSIAN CHE,CAPITAL LETTER EM WITH TAIL"⟩,
    ⟨0x4ce, "CYRILLIC SMALL LETTER ", "EM WITH TAIL,PALOCHKA"⟩,
    ⟨0x4d0, "CYRILLIC ", "CAPITAL LETTER A WITH BREVE,SMALL LETTER A WITH BREVE"⟩,
    ⟨0x4d2, "CYRILLIC ", "CAPITAL LETTER A WITH DIAERESIS,SMALL LETTER A WITH DIAERESIS"⟩,
    ⟨0x4d4, "CYRILLIC ", "CAPITAL LIGATURE A IE,SMALL LIGATURE A IE,CAPITAL LETTER IE WITH BREVE"⟩,
    ⟨0x4d7, "CYRILLIC ", "SMALL LETTER IE WITH BREVE,CAPITAL LETTER SCHWA"⟩,
    ⟨0x4d9, "CYRILLIC ", "SMALL LETTER SCHWA,CAPITAL LETTER SCHWA WITH DIAERESIS"⟩,
    ⟨0x4db, "CYRILLIC ", "SMALL LETTER SCHWA WITH DIAERESIS,CAPITAL LETTER ZHE WITH DIAERESIS"⟩,
    ⟨0x4dd, "CYRILLIC ", "SMALL LETTER ZHE WITH DIAERESIS,CAPITAL LETTER ZE WITH DIAERESIS"⟩,
    ⟨0x4df, "CYRILLIC ", "SMALL LETTER ZE WITH DIAERESIS,CAPITAL LETTER ABKHASIAN DZE"⟩,
    ⟨0x4e1, "CYRILLIC ", "SMALL LETTER ABKHASIAN DZE,CAPITAL LETTER I WITH MACRON"⟩,
    ⟨0x4e3, "CYRILLIC ", "SMALL LETTER I WITH MACRON,CAPITAL LETTER I WITH DIAERESIS"⟩,
    ⟨0x4e5, "CYRILLIC ", "SMALL LETTER I WITH DIAERESIS,CAPITAL LETTER O WITH DIAERESIS"⟩,
    ⟨0x4e7, "CYRILLIC ", "SMALL LETTER O WITH DIAERESIS,CAPITAL LETTER BARRED O"⟩,
    ⟨0x4e9, "CYRILLIC ", "SMALL LETTER BARRED O,CAPITAL LETTER BARRED O WITH DIAERESIS"⟩,
    ⟨0x4eb, "", "CYRILLIC SMALL LETTER BARRED O WITH DIAERESIS"⟩,
    ⟨0x4ec, "CYRILLIC ", "CAPITAL LETTER E WITH DIAERESIS,SMALL LETTER E WITH DIAERESIS"⟩,
    ⟨0x4ee, "CYRILLIC ", "CAPITAL LETTER U WITH MACRON,SMALL LETTER U WITH MACRON"⟩,
    ⟨0x4f0, "CYRILLIC ", "CAPITAL LETTER U WITH DIAERESIS,SMALL LETTER U WITH DIAERESIS"⟩,
    ⟨0x4f2, "CYRILLIC ", "CAPITAL LETTER U WITH DOUBLE ACUTE,SMALL LETTER U WITH DOUBLE ACUTE"⟩,
    ⟨0x4f4, "CYRILLIC ", "CAPITAL LETTER CHE WITH DIAERESIS,SMALL LETTER CHE WITH DIAERESIS"⟩,
    ⟨0x4f6, "CYRILLIC ", "CAPITAL LETTER GHE WITH DESCENDER,SMALL LETTER GHE WITH DESCENDER"⟩,
    ⟨0x4f8, "CYRILLIC ", "CAPITAL LETTER YERU WITH DIAERESIS,SMALL LETTER YERU WITH DIAERESIS"⟩,
    ⟨0x4fa, "", "CYRILLIC CAPITAL LETTER GHE WITH STROKE AND HOOK"⟩,
    ⟨0x4fb, "CYRILLIC ", "SMALL LETTER GHE WITH STROKE AND HOOK,CAPITAL LETTER HA WITH HOOK"⟩,
    ⟨0x4fd, "CYRILLIC ", "SMALL LETTER HA WITH HOOK,CAPITAL LETTER HA WITH STROKE"⟩,
    ⟨0x4ff, "CYRILLIC ", "SMALL LETTER HA WITH STROKE,CAPITAL LETTER KOMI DE"⟩,
    ⟨0x501, "CYRILLIC ", "SMALL LETTER KOMI DE,CAPITAL LETTER KOMI DJE,SMALL LETTER KOMI DJE"⟩,
    ⟨0x504, "CYRILLIC ", "CAPITAL LETTER KOMI ZJE,SMALL LETTER KOMI ZJE,CAPITAL LETTER KOMI DZJE"⟩,
    ⟨0x507, "CYRILLIC ", "SMALL LETTER KOMI DZJE,CAPITAL LETTER KOMI LJE,SMALL LETTER KOMI LJE"⟩,
    ⟨0x50a, "CYRILLIC ", "CAPITAL LETTER KOMI NJE,SMALL LETTER KOMI NJE,CAPITAL LETTER KOMI SJE"⟩,
    ⟨0x50d, "CYRILLIC ", "SMALL LETTER KOMI SJE,CAPITAL LETTER KOMI TJE,SMALL LETTER KOMI TJE"⟩,
    ⟨0x510, "CYRILLIC ", "CAPITAL LETTER REVERSED ZE,SMALL LETTER REVERSED ZE"⟩,
    ⟨0x512, "CYRILLIC ", "CAPITAL LETTER EL WITH HOOK,SMALL LETTER EL WITH HOOK"⟩,
    ⟨0x514, "CYRILLIC ", "CAPITAL LETTER LHA,SMALL LETTER LHA,CAPITAL LETTER RHA,SMALL LETTER RHA"⟩,
    ⟨0x518, "CYRILLIC ", "CAPITAL LETTER YAE,SMALL LETTER YAE,CAPITAL LETTER QA,SMALL LETTER QA"⟩,
    ⟨0x51c, "CYRILLIC ", "CAPITAL LETTER WE,SMALL LETTER WE,CAPITAL LETTER ALEUT KA"⟩,
    ⟨0x51f, "CYRILLIC ", "SMALL LETTER ALEUT KA,CAPITAL LETTER EL WITH MIDDLE HOOK"⟩,
    ⟨0x521, "CYRILLIC ", "SMALL LETTER EL WITH MIDDLE HOOK,CAPITAL LETTER EN WITH MIDDLE HOOK"⟩,
    ⟨0x523, "CYRILLIC ", "SMALL LETTER EN WITH MIDDLE HOOK,CAPITAL LETTER PE WITH DESCENDER"⟩,
    ⟨0x525, "CYRILLIC ", "SMALL LETTER PE WITH DESCENDER,CAPITAL LETTER SHHA WITH DESCENDER"⟩,
    ⟨0x527, "CYRILLIC ", "SMALL LETTER SHHA WITH DESCENDER,CAPITAL LETTER EN WITH LEFT HOOK"⟩,
    ⟨0x529, "CYRILLIC ", "SMALL LETTER EN WITH LEFT HOOK,CAPITAL LETTER DZZHE"⟩,
    ⟨0x52b, "CYRILLIC ", "SMALL LETTER DZZHE,CAPITAL LETTER DCHE,SMALL LETTER DCHE"⟩,
    ⟨0x52e, "CYRILLIC ", "CAPITAL LETTER EL WITH DESCENDER,SMALL LETTER EL WITH DESCENDER"⟩,
    ⟨0x531, "ARMENIAN CAPITAL LETTER ", "AYB,BEN,GIM,DA,ECH,ZA,EH,ET,TO,ZHE"⟩,
    ⟨0x53b, "ARMENIAN CAPITAL LETTER ", "INI,LIWN,XEH,CA,KEN,HO,JA,GHAD,CHEH,MEN,YI,NOW,SHA,VO"⟩,
    ⟨0x549, "ARMENIAN CAPITAL LETTER ", "CHA,PEH,JHEH,RA,SEH,VEW,TIWN,REH,CO,YIWN,PIWR,KEH,OH,FEH"⟩,
    ⟨0x559, "ARMENIAN ", "MODIFIER LETTER LEFT HALF RING,APOSTROPHE"⟩,
    ⟨0x55b, "ARMENIAN ", "EMPHASIS MARK,EXCLAMATION MARK,COMMA,QUESTION MARK,ABBREVIATION MARK"⟩,
    ⟨0x560, "ARMENIAN SMALL LETTER ", "TURNED AYB,AYB,BEN,GIM,DA,ECH,ZA,EH,ET,TO"⟩,
    ⟨0x56a, "ARMENIAN SMALL LETTER ", "ZHE,INI,LIWN,XEH,CA,KEN,HO,JA,GHAD,CHEH,MEN,YI,NOW,SHA,VO"⟩,
    ⟨0x579, "ARMENIAN SMALL LETTER ", "CHA,PEH,JHEH,RA,SEH,VEW,TIWN,REH,CO,YIWN,PIWR,KEH,OH,FEH"⟩,
    ⟨0x587, "ARMENIAN ", "SMALL LIGATURE ECH YIWN,SMALL LETTER YI WITH STROKE,FULL STOP,HYPHEN"⟩,
    ⟨0x58d, "", "RIGHT-FACING ARMENIAN ETERNITY SIGN"⟩,
    ⟨0x58e, "", "LEFT-FACING ARMENIAN ETERNITY SIGN,ARMENIAN DRAM SIGN"⟩,
    ⟨0x591, "HEBREW ACCENT ", "ETNAHTA,SEGOL,SHALSHELET,ZAQEF QATAN,ZAQEF GADOL,TIPEHA"⟩,
    ⟨0x597, "HEBREW ACCENT ", "REVIA,ZARQA,PASHTA,YETIV,TEVIR,GERESH,GERESH MUQDAM,GERSHAYIM"⟩,
    ⟨0x59f, "HEBREW ACCENT ", "QARNEY PARA,TELISHA GEDOLA,PAZER,ATNAH HAFUKH,MUNAH,MAHAPAKH"⟩,
    ⟨0x5a5, "HEBREW ACCENT ", "MERKHA,MERKHA KEFULA,DARGA,QADMA,TELISHA QETANA,YERAH BEN YOMO,OLE"⟩,
    ⟨0x5ac, "HEBREW ", "ACCENT ILUY,ACCENT DEHI,ACCENT ZINOR,MARK MASORA CIRCLE"⟩,
    ⟨0x5b0, "HEBREW POINT ", "SHEVA,HATAF SEGOL,HATAF PATAH,HATAF QAMATS,HIRIQ,TSERE,SEGOL"⟩,
    ⟨0x5b7, "HEBREW POINT ", "PATAH,QAMATS,HOLAM,HOLAM HASER FOR VAV,QUBUTS,DAGESH OR MAPIQ,METEG"⟩,
    ⟨0x5be, "HEBREW ", "PUNCTUATION MAQAF,POINT RAFE,PUNCTUATION PASEQ,POINT SHIN DOT"⟩,
    ⟨0x5c2, "HEBREW ", "POINT SIN DOT,PUNCTUATION SOF PASUQ,MARK UPPER DOT,MARK LOWER DOT"⟩,
    ⟨0x5c6, "HEBREW ", "PUNCTUATION NUN HAFUKHA,POINT QAMATS QATAN,,,,,,,,,LETTER ALEF,LETTER BET"⟩,
    ⟨0x5d2, "HEBREW LETTER ", "GIMEL,DALET,HE,VAV,ZAYIN,HET,TET,YOD,FINAL KAF,KAF,LAMED,FINAL MEM"⟩,
    ⟨0x5de, "HEBREW LETTER ", "MEM,FINAL NUN,NUN,SAMEKH,AYIN,FINAL PE,PE,FINAL TSADI,TSADI,QOF"⟩,
    ⟨0x5e8, "HEBREW ", "LETTER RESH,LETTER SHIN,LETTER TAV,,,,,YOD TRIANGLE"⟩,
    ⟨0x5f0, "HEBREW LIGATURE YIDDISH ", "DOUBLE VAV,VAV YOD,DOUBLE YOD"⟩,
    ⟨0x5f3, "HEBREW PUNCTUATION ", "GERESH,GERSHAYIM"⟩,
    ⟨0x600, "ARABIC ", "NUMBER SIGN,SIGN SANAH,FOOTNOTE MARKER,SIGN SAFHA,SIGN SAMVAT"⟩,
    ⟨0x605, "", "ARABIC NUMBER MARK ABOVE,ARABIC-INDIC CUBE ROOT,ARABIC-INDIC FOURTH ROOT"⟩,
    ⟨0x608, "", "ARABIC RAY,ARABIC-INDIC PER MILLE SIGN,ARABIC-INDIC PER TEN THOUSAND SIGN"⟩,
    ⟨0x60b, "", "AFGHANI SIGN,ARABIC COMMA,ARABIC DATE SEPARATOR"⟩,
    ⟨0x60e, "ARABIC ", "POETIC VERSE SIGN,SIGN MISRA,SIGN SALLALLAHOU ALAYHE WASSALLAM"⟩,
    ⟨0x611, "ARABIC SIGN ", "ALAYHE ASSALLAM,RAHMATULLAH ALAYHE,RADI ALLAHOU ANHU,TAKHALLUS"⟩,
    ⟨0x615, "ARABIC SMALL ", "HIGH TAH,HIGH LIGATURE ALEF WITH LAM WITH YEH,HIGH ZAIN,FATHA,DAMMA"⟩,
    ⟨0x61a, "ARABIC ", "SMALL KASRA,SEMICOLON"⟩,
    ⟨0x61c, "ARABIC ", "LETTER MARK,END OF TEXT MARK,TRIPLE DOT PUNCTUATION MARK,QUESTION MARK"⟩,
    ⟨0x620, "ARABIC LETTER ", "KASHMIRI YEH,HAMZA,ALEF WITH MADDA ABOVE"⟩,
    ⟨0x623, "ARABIC LETTER ", "ALEF WITH HAMZA ABOVE,WAW WITH HAMZA ABOVE,ALEF WITH HAMZA BELOW"⟩,
    ⟨0x626, "ARABIC LETTER ", "YEH WITH HAMZA ABOVE,ALEF,BEH,TEH MARBUTA,TEH,THEH,JEEM"⟩,
    ⟨0x62d, "ARABIC LETTER ", "HAH,KHAH,DAL,THAL,REH,ZAIN,SEEN,SHEEN,SAD,DAD,TAH,ZAH,AIN,GHAIN"⟩,
    ⟨0x63b, "ARABIC LETTER KEHEH WITH ", "TWO DOTS ABOVE,THREE DOTS BELOW"⟩,
    ⟨0x63d, "ARABIC LETTER FARSI YEH WITH ", "INVERTED V,TWO DOTS ABOVE,THREE DOTS ABOVE"⟩,
    ⟨0x640, "", "ARABIC TATWEEL"⟩,
    ⟨0x641, "ARABIC LETTER ", "FEH,QAF,KAF,LAM,MEEM,NOON,HEH,WAW,ALEF MAKSURA,YEH"⟩,
    ⟨0x64b, "ARABIC ", "FATHATAN,DAMMATAN,KASRATAN,FATHA,DAMMA,KASRA,SHADDA,SUKUN,MADDAH ABOVE"⟩,
    ⟨0x654, "ARABIC ", "HAMZA ABOVE,HAMZA BELOW,SUBSCRIPT ALEF,INVERTED DAMMA,MARK NOON GHUNNA"⟩,
    ⟨0x659, "ARABIC ", "ZWARAKAY,VOWEL SIGN SMALL V ABOVE,VOWEL SIGN INVERTED SMALL V ABOVE"⟩,
    ⟨0x65c, "ARABIC ", "VOWEL SIGN DOT BELOW,REVERSED DAMMA,FATHA WITH TWO DOTS,WAVY HAMZA BELOW"⟩,
    ⟨0x660, "ARABIC-INDIC DIGIT ", "ZERO,ONE,TWO,THREE,FOUR,FIVE,SIX,SEVEN,EIGHT,NINE"⟩,
    ⟨0x66a, "ARABIC ", "PERCENT SIGN,DECIMAL SEPARATOR,THOUSANDS SEPARATOR,FIVE POINTED STAR"⟩,
    ⟨0x66e, "ARABIC LETTER ", "DOTLESS BEH,DOTLESS QAF,SUPERSCRIPT ALEF,ALEF WASLA"⟩,
    ⟨0x672, "ARABIC LETTER ALEF WITH WAVY HAMZA ", "ABOVE,BELOW"⟩,
    ⟨0x674, "ARABIC LETTER HIGH ", "HAMZA,HAMZA ALEF,HAMZA WAW"⟩,
    ⟨0x677, "ARABIC LETTER ", "U WITH HAMZA ABOVE,HIGH HAMZA YEH,TTEH,TTEHEH"⟩,
    ⟨0x67b, "ARABIC LETTER ", "BEEH,TEH WITH RING,TEH WITH THREE DOTS ABOVE DOWNWARDS,PEH,TEHEH"⟩,
    ⟨0x680, "ARABIC LETTER ", "BEHEH,HAH WITH HAMZA ABOVE,HAH WITH TWO DOTS VERTICAL ABOVE,NYEH"⟩,
    ⟨0x684, "ARABIC LETTER ", "DYEH,HAH WITH THREE DOTS ABOVE,TCHEH,TCHEHEH,DDAL,DAL WITH RING"⟩,
    ⟨0x68a, "ARABIC LETTER ", "DAL WITH DOT BELOW,DAL WITH DOT BELOW AND SMALL TAH,DAHAL,DDAHAL"⟩,
    ⟨0x68e, "ARABIC LETTER ", "DUL,DAL WITH THREE DOTS ABOVE DOWNWARDS,DAL WITH FOUR DOTS ABOVE"⟩,
    ⟨0x691, "ARABIC LETTER ", "RREH,REH WITH SMALL V,REH WITH RING,REH WITH DOT BELOW"⟩,
    ⟨0x695, "ARABIC LETTER REH WITH ", "SMALL V BELOW,DOT BELOW AND DOT ABOVE,TWO DOTS ABOVE"⟩,
    ⟨0x698, "ARABIC LETTER ", "JEH,REH WITH FOUR DOTS ABOVE,SEEN WITH DOT BELOW AND DOT ABOVE"⟩,
    ⟨0x69b, "ARABIC LETTER SEEN WITH THREE DOTS ", "BELOW,BELOW AND THREE DOTS ABOVE"⟩,
    ⟨0x69d, "ARABIC LETTER SAD WITH ", "TWO DOTS BELOW,THREE DOTS ABOVE"⟩,
    ⟨0x69f, "ARABIC LETTER ", "TAH WITH THREE DOTS ABOVE,AIN WITH THREE DOTS ABOVE,DOTLESS FEH"⟩,
    ⟨0x6a2, "ARABIC LETTER FEH WITH DOT ", "MOVED BELOW,BELOW"⟩,
    ⟨0x6a4, "ARABIC LETTER ", "VEH,FEH WITH THREE DOTS BELOW,PEHEH,QAF WITH DOT ABOVE"⟩,
    ⟨0x6a8, "ARABIC LETTER ", "QAF WITH THREE DOTS ABOVE,KEHEH,SWASH KAF,KAF WITH RING"⟩,
    ⟨0x6ac, "ARABIC LETTER ", "KAF WITH DOT ABOVE,NG,KAF WITH THREE DOTS BELOW,GAF,GAF WITH RING"⟩,
    ⟨0x6b1, "ARABIC LETTER ", "NGOEH,GAF WITH TWO DOTS BELOW,GUEH,GAF WITH THREE DOTS ABOVE"⟩,
    ⟨0x6b5, "ARABIC LETTER LAM WITH ", "SMALL V,DOT ABOVE,THREE DOTS ABOVE,THREE DOTS BELOW"⟩,
    ⟨0x6b9, "ARABIC LETTER ", "NOON WITH DOT BELOW,NOON GHUNNA,RNOON"⟩,
    ⟨0x6bc, "ARABIC LETTER NOON WITH ", "RING,THREE DOTS ABOVE"⟩,
    ⟨0x6be, "ARABIC LETTER ", "HEH DOACHASHMEE,TCHEH WITH DOT ABOVE,HEH WITH YEH ABOVE"⟩,
    ⟨0x6c1, "ARABIC LETTER ", "HEH GOAL,HEH GOAL WITH HAMZA ABOVE,TEH MARBUTA GOAL,WAW WITH RING"⟩,
    ⟨0x6c5, "ARABIC LETTER ", "KIRGHIZ OE,OE,U,YU,KIRGHIZ YU,WAW WITH TWO DOTS ABOVE"⟩,
    ⟨0x6cb, "ARABIC LETTER ", "VE,FARSI YEH,YEH WITH TAIL,YEH WITH SMALL V,WAW WITH DOT ABOVE,E"⟩,
    ⟨0x6d1, "ARABIC LETTER YEH ", "WITH THREE DOTS BELOW,BARREE,BARREE WITH HAMZA ABOVE"⟩,
    ⟨0x6d4, "ARABIC ", "FULL STOP,LETTER AE,SMALL HIGH LIGATURE SAD WITH LAM WITH ALEF MAKSURA"⟩,
    ⟨0x6d7, "", "ARABIC SMALL HIGH LIGATURE QAF WITH LAM WITH ALEF MAKSURA"⟩,
    ⟨0x6d8, "ARABIC SMALL HIGH ", "MEEM INITIAL FORM,LAM ALEF,JEEM,THREE DOTS,SEEN"⟩,
    ⟨0x6dd, "ARABIC ", "END OF AYAH,START OF RUB EL HIZB"⟩,
    ⟨0x6df, "ARABIC SMALL HIGH ", "ROUNDED ZERO,UPRIGHT RECTANGULAR ZERO,DOTLESS HEAD OF KHAH"⟩,
    ⟨0x6e2, "ARABIC SMALL ", "HIGH MEEM ISOLATED FORM,LOW SEEN,HIGH MADDA,WAW,YEH,HIGH YEH"⟩,
    ⟨0x6e8, "ARABIC ", "SMALL HIGH NOON,PLACE OF SAJDAH,EMPTY CENTRE LOW STOP"⟩,
    ⟨0x6eb, "ARABIC ", "EMPTY CENTRE HIGH STOP,ROUNDED HIGH STOP WITH FILLED CENTRE"⟩,
    ⟨0x6ed, "ARABIC ", "SMALL LOW MEEM,LETTER DAL WITH INVERTED V,LETTER REH WITH INVERTED V"⟩,
    ⟨0x6f0, "EXTENDED ARABIC-INDIC DIGIT ", "ZERO,ONE,TWO,THREE,FOUR,FIVE,SIX,SEVEN,EIGHT,NINE"⟩,
    ⟨0x6fa, "ARABIC LETTER ", "SHEEN WITH DOT BELOW,DAD WITH DOT BELOW,GHAIN WITH DOT BELOW"⟩,
    ⟨0x6fd, "ARABIC SIGN SINDHI ", "AMPERSAND,POSTPOSITION MEN"⟩,
    ⟨0x6ff, "", "ARABIC LETTER HEH WITH INVERTED V,SYRIAC END OF PARAGRAPH"⟩,
    ⟨0x701, "SYRIAC ", "SUPRALINEAR FULL STOP,SUBLINEAR FULL STOP,SUPRALINEAR COLON"⟩,
    ⟨0x704, "SYRIAC ", "SUBLINEAR COLON,HORIZONTAL COLON,COLON SKEWED LEFT,COLON SKEWED RIGHT"⟩,
    ⟨0x708, "SYRIAC ", "SUPRALINEAR COLON SKEWED LEFT,SUBLINEAR COLON SKEWED RIGHT,CONTRACTION"⟩,
    ⟨0x70b, "SYRIAC ", "HARKLEAN OBELUS,HARKLEAN METOBELUS,HARKLEAN ASTERISCUS,,ABBREVIATION MARK"⟩,
    ⟨0x710, "SYRIAC LETTER ", "ALAPH,SUPERSCRIPT ALAPH,BETH,GAMAL,GAMAL GARSHUNI"⟩,
    ⟨0x715, "SYRIAC LETTER ", "DALATH,DOTLESS DALATH RISH,HE,WAW,ZAIN,HETH,TETH,TETH GARSHUNI"⟩,
    ⟨0x71d, "SYRIAC LETTER ", "YUDH,YUDH HE,KAPH,LAMADH,MIM,NUN,SEMKATH,FINAL SEMKATH,E,PE"⟩,
    ⟨0x727, "SYRIAC LETTER ", "REVERSED PE,SADHE,QAPH,RISH,SHIN,TAW,PERSIAN BHETH,PERSIAN GHAMAL"⟩,
    ⟨0x72f, "SYRIAC ", "LETTER PERSIAN DHALATH,PTHAHA ABOVE,PTHAHA BELOW,PTHAHA DOTTED"⟩,
    ⟨0x733, "SYRIAC ", "ZQAPHA ABOVE,ZQAPHA BELOW,ZQAPHA DOTTED,RBASA ABOVE,RBASA BELOW"⟩,
    ⟨0x738, "SYRIAC ", "DOTTED ZLAMA HORIZONTAL,DOTTED ZLAMA ANGULAR,HBASA ABOVE,HBASA BELOW"⟩,
    ⟨0x73c, "SYRIAC ", "HBASA-ESASA DOTTED,ESASA ABOVE,ESASA BELOW,RWAHA,FEMININE DOT,QUSHSHAYA"⟩,
    ⟨0x742, "SYRIAC ", "RUKKAKHA,TWO VERTICAL DOTS ABOVE,TWO VERTICAL DOTS BELOW,THREE DOTS ABOVE"⟩,
    ⟨0x746, "SYRIAC ", "THREE DOTS BELOW,OBLIQUE LINE ABOVE,OBLIQUE LINE BELOW,MUSIC,BARREKH"⟩,
    ⟨0x74d, "SYRIAC LETTER SOGDIAN ", "ZHAIN,KHAPH,FE"⟩,
    ⟨0x750, "", "ARABIC LETTER BEH WITH THREE DOTS HORIZONTALLY BELOW"⟩,
    ⟨0x751, "", "ARABIC LETTER BEH WITH DOT BELOW AND THREE DOTS ABOVE"⟩,
    ⟨0x752, "", "ARABIC LETTER BEH WITH THREE DOTS POINTING UPWARDS BELOW"⟩,
    ⟨0x753, "", "ARABIC LETTER BEH WITH THREE DOTS POINTING UPWARDS BELOW AND TWO DOTS ABOVE"⟩,
    ⟨0x754, "", "ARABIC LETTER BEH WITH TWO DOTS BELOW AND DOT ABOVE"⟩,
    ⟨0x755, "ARABIC LETTER BEH WITH ", "INVERTED SMALL V BELOW,SMALL V"⟩,
    ⟨0x757, "ARABIC LETTER HAH WITH ", "TWO DOTS ABOVE,THREE DOTS POINTING UPWARDS BELOW"⟩,
    ⟨0x759, "", "ARABIC LETTER DAL WITH TWO DOTS VERTICALLY BELOW AND SMALL TAH"⟩,
    ⟨0x75a, "", "ARABIC LETTER DAL WITH INVERTED SMALL V BELOW"⟩,
    ⟨0x75b, "ARABIC LETTER ", "REH WITH STROKE,SEEN WITH FOUR DOTS ABOVE"⟩,
    ⟨0x75d, "ARABIC LETTER AIN WITH ", "TWO DOTS ABOVE,THREE DOTS POINTING DOWNWARDS ABOVE"⟩,
    ⟨0x75f, "ARABIC LETTER ", "AIN WITH TWO DOTS VERTICALLY ABOVE,FEH WITH TWO DOTS BELOW"⟩,
    ⟨0x761, "ARABIC LETTER ", "FEH WITH THREE DOTS POINTING UPWARDS BELOW,KEHEH WITH DOT ABOVE"⟩,
    ⟨0x763, "ARABIC LETTER KEHEH WITH THREE DOTS ", "ABOVE,POINTING UPWARDS BELOW"⟩,
    ⟨0x765, "ARABIC LETTER MEEM WITH DOT ", "ABOVE,BELOW"⟩,
    ⟨0x767, "ARABIC LETTER NOON WITH ", "TWO DOTS BELOW,SMALL TAH,SMALL V"⟩,
    ⟨0x76a, "ARABIC LETTER ", "LAM WITH BAR,REH WITH TWO DOTS VERTICALLY ABOVE"⟩,
    ⟨0x76c, "ARABIC LETTER ", "REH WITH HAMZA ABOVE,SEEN WITH TWO DOTS VERTICALLY ABOVE"⟩,
    ⟨0x76e, "ARABIC LETTER HAH WITH SMALL ARABIC LETTER TAH ", "BELOW,AND TWO DOTS"⟩,
    ⟨0x770, "", "ARABIC LETTER SEEN WITH SMALL ARABIC LETTER TAH AND TWO DOTS"⟩,
    ⟨0x771, "", "ARABIC LETTER REH WITH SMALL ARABIC LETTER TAH AND TWO DOTS"⟩,
    ⟨0x772, "", "ARABIC LETTER HAH WITH SMALL ARABIC LETTER TAH ABOVE"⟩,
    ⟨0x773, "ARABIC LETTER ALEF WITH EXTENDED ARABIC-INDIC DIGIT ", "TWO ABOVE,THREE ABOVE"⟩,
    ⟨0x775, "", "ARABIC LETTER FARSI YEH WITH EXTENDED ARABIC-INDIC DIGIT TWO ABOVE"⟩,
    ⟨0x776, "ARABIC LETTER FARSI YEH WITH EXTENDED ARABIC-INDIC DIGIT ", "THREE ABOVE,FOUR BELOW"⟩,
    ⟨0x778, "ARABIC LETTER WAW WITH EXTENDED ARABIC-INDIC DIGIT ", "TWO ABOVE,THREE ABOVE"⟩,
    ⟨0x77a, "ARABIC LETTER YEH BARREE WITH EXTENDED ARABIC-INDIC DIGIT ", "TWO ABOVE,THREE ABOVE"⟩,
    ⟨0x77c, "", "ARABIC LETTER HAH WITH EXTENDED ARABIC-INDIC DIGIT FOUR BELOW"⟩,
    ⟨0x77d, "ARABIC LETTER SEEN WITH ", "EXTENDED ARABIC-INDIC DIGIT FOUR ABOVE,INVERTED V"⟩,
    ⟨0x77f, "", "ARABIC LETTER KAF WITH TWO DOTS ABOVE"⟩,
    ⟨0x780, "THAANA LETTER ", "HAA,SHAVIYANI,NOONU,RAA,BAA,LHAVIYANI,KAAFU,ALIFU"⟩,
    ⟨0x788, "THAANA LETTER ", "VAAVU,MEEMU,FAAFU,DHAALU,THAA,LAAMU,GAAFU,GNAVIYANI,SEENU,DAVIYANI"⟩,
    ⟨0x792, "THAANA LETTER ", "ZAVIYANI,TAVIYANI,YAA,PAVIYANI,JAVIYANI,CHAVIYANI,TTAA,HHAA"⟩,
    ⟨0x79a, "THAANA LETTER ", "KHAA,THAALU,ZAA,SHEENU,SAADHU,DAADHU,TO,ZO,AINU,GHAINU,QAAFU,WAAVU"⟩,
    ⟨0x7a6, "THAANA ", "ABAFILI,AABAAFILI,IBIFILI,EEBEEFILI"⟩,
    ⟨0x7aa, "THAANA ", "UBUFILI,OOBOOFILI,EBEFILI,EYBEYFILI,OBOFILI,OABOAFILI,SUKUN,LETTER NAA"⟩,
    ⟨0x7c0, "NKO DIGIT ", "ZERO,ONE,TWO,THREE,FOUR,FIVE,SIX,SEVEN,EIGHT,NINE"⟩,
    ⟨0x7ca, "NKO LETTER ", "A,EE,I,E,U,OO,O,DAGBASINNA,N,BA,PA,TA,JA,CHA,DA,RA,RRA,SA,GBA,FA,KA"⟩,
    ⟨0x7df, "NKO LETTER ", "LA,NA WOLOSO,MA,NYA,NA,HA,WA,YA,NYA WOLOSO,JONA JA,JONA CHA,JONA RA"⟩,
    ⟨0x7eb, "NKO COMBINING SHORT ", "HIGH TONE,LOW TONE,RISING TONE"⟩,
    ⟨0x7ee, "NKO COMBINING LONG ", "DESCENDING TONE,HIGH TONE,LOW TONE,RISING TONE"⟩,
    ⟨0x7f2, "NKO COMBINING ", "NASALIZATION MARK,DOUBLE DOT ABOVE"⟩,
    ⟨0x7f4, "NKO ", "HIGH TONE APOSTROPHE,LOW TONE APOSTROPHE,SYMBOL OO DENNEN,SYMBOL GBAKURUNEN"⟩,
    ⟨0x7f8, "NKO ", "COMMA,EXCLAMATION MARK,LAJANYALAN,,,DANTAYALAN,DOROME SIGN,TAMAN SIGN"⟩,
    ⟨0x800, "SAMARITAN LETTER ", "ALAF,BIT,GAMAN,DALAT,IY,BAA,ZEN,IT,TIT"⟩,
    ⟨0x809, "SAMARITAN LETTER ", "YUT,KAAF,LABAT,MIM,NUN,SINGAAT,IN,FI,TSAADIY,QUF,RISH,SHAN,TAAF"⟩,
    ⟨0x816, "SAMARITAN MARK ", "IN,IN-ALAF,OCCLUSION,DAGESH"⟩,
    ⟨0x81a, "SAMARITAN ", "MODIFIER LETTER EPENTHETIC YUT,MARK EPENTHETIC YUT"⟩,
    ⟨0x81c, "SAMARITAN VOWEL SIGN ", "LONG E,E,OVERLONG AA,LONG AA,AA,OVERLONG A,LONG A,A"⟩,
    ⟨0x824, "SAMARITAN ", "MODIFIER LETTER SHORT A,VOWEL SIGN SHORT A"⟩,
    ⟨0x826, "SAMARITAN ", "VOWEL SIGN LONG U,VOWEL SIGN U,MODIFIER LETTER I,VOWEL SIGN LONG I"⟩,
    ⟨0x82a, "SAMARITAN ", "VOWEL SIGN I,VOWEL SIGN O,VOWEL SIGN SUKUN,MARK NEQUDAA"⟩,
    ⟨0x830, "SAMARITAN PUNCTUATION ", "NEQUDAA,AFSAAQ,ANGED,BAU,ATMAAU,SHIYYAALAA"⟩,
    ⟨0x836, "SAMARITAN ", "ABBREVIATION MARK,PUNCTUATION MELODIC QITSA"⟩,
    ⟨0x838, "SAMARITAN PUNCTUATION ", "ZIQAA,QITSA,ZAEF,TURU,ARKAANU,SOF MASHFAAT,ANNAAU"⟩,
    ⟨0x840, "MANDAIC LETTER ", "HALQA,AB,AG,AD,AH,USHENNA,AZ,IT"⟩,
    ⟨0x848, "MANDAIC LETTER ", "ATT,AKSA,AK,AL,AM,AN,AS,IN,AP,ASZ,AQ,AR,ASH,AT,DUSHENNA,KAD,AIN"⟩,
    ⟨0x859, "MANDAIC ", "AFFRICATION MARK,VOCALIZATION MARK,GEMINATION MARK,,,PUNCTUATION"⟩,
    ⟨0x860, "SYRIAC LETTER MALAYALAM ", "NGA,JA,NYA,TTA,NNA,NNNA,BHA,RA,LLA,LLLA,SSA"⟩,
    ⟨0x870, "ARABIC LETTER ALEF WITH ATTACHED ", "FATHA,TOP RIGHT FATHA"⟩,
    ⟨0x872, "ARABIC LETTER ALEF WITH ", "RIGHT MIDDLE STROKE,LEFT MIDDLE STROKE"⟩,
    ⟨0x874, "ARABIC LETTER ALEF WITH ATTACHED ", "KASRA,BOTTOM RIGHT KASRA,ROUND DOT ABOVE"⟩,
    ⟨0x877, "ARABIC LETTER ALEF WITH ATTACHED ", "RIGHT ROUND DOT,LEFT ROUND DOT,ROUND DOT BELOW"⟩,
    ⟨0x87a, "ARABIC LETTER ALEF WITH ", "DOT ABOVE,ATTACHED TOP RIGHT FATHA AND DOT ABOVE"⟩,
    ⟨0x87c, "", "ARABIC LETTER ALEF WITH RIGHT MIDDLE STROKE AND DOT ABOVE"⟩,
    ⟨0x87d, "", "ARABIC LETTER ALEF WITH ATTACHED BOTTOM RIGHT KASRA AND DOT ABOVE"⟩,
    ⟨0x87e, "", "ARABIC LETTER ALEF WITH ATTACHED TOP RIGHT FATHA AND LEFT RING"⟩,
    ⟨0x87f, "", "ARABIC LETTER ALEF WITH RIGHT MIDDLE STROKE AND LEFT RING"⟩,
    ⟨0x880, "ARABIC LETTER ALEF WITH ATTACHED ", "BOTTOM RIGHT KASRA AND LEFT RING,RIGHT HAMZA"⟩,
    ⟨0x882, "ARABIC ", "LETTER ALEF WITH ATTACHED LEFT HAMZA,TATWEEL WITH OVERSTRUCK HAMZA"⟩,
    ⟨0x884, "ARABIC ", "TATWEEL WITH OVERSTRUCK WAW,TATWEEL WITH TWO DOTS BELOW,LETTER THIN YEH"⟩,
    ⟨0x887, "ARABIC ", "BASELINE ROUND DOT,RAISED ROUND DOT,LETTER NOON WITH INVERTED SMALL V"⟩,
    ⟨0x88a, "ARABIC LETTER ", "HAH WITH INVERTED SMALL V BELOW,TAH WITH DOT BELOW"⟩,
    ⟨0x88c, "ARABIC LETTER ", "TAH WITH THREE DOTS BELOW,KEHEH WITH TWO DOTS VERTICALLY BELOW"⟩,
    ⟨0x88e, "ARABIC ", "VERTICAL TAIL,,POUND MARK ABOVE,PIASTRE MARK ABOVE"⟩,
    ⟨0x898, "ARABIC SMALL ", "HIGH WORD AL-JUZ,LOW WORD ISHMAAM,LOW WORD IMAALA,LOW WORD TASHEEL"⟩,
    ⟨0x89c, "ARABIC ", "MADDA WAAJIB,SUPERSCRIPT ALEF MOKHASSAS"⟩,
    ⟨0x89e, "ARABIC ", "DOUBLED MADDA,HALF MADDA OVER MADDA,LETTER BEH WITH SMALL V BELOW"⟩,
    ⟨0x8a1, "ARABIC LETTER ", "BEH WITH HAMZA ABOVE,JEEM WITH TWO DOTS ABOVE"⟩,
    ⟨0x8a3, "ARABIC LETTER ", "TAH WITH TWO DOTS ABOVE,FEH WITH DOT BELOW AND THREE DOTS ABOVE"⟩,
    ⟨0x8a5, "ARABIC LETTER ", "QAF WITH DOT BELOW,LAM WITH DOUBLE BAR,MEEM WITH THREE DOTS ABOVE"⟩,
    ⟨0x8a8, "ARABIC LETTER YEH WITH TWO DOTS BELOW AND ", "HAMZA ABOVE,DOT ABOVE"⟩,
    ⟨0x8aa, "ARABIC LETTER ", "REH WITH LOOP,WAW WITH DOT WITHIN"⟩,
    ⟨0x8ac, "ARABIC LETTER ", "ROHINGYA YEH,LOW ALEF,DAL WITH THREE DOTS BELOW"⟩,
    ⟨0x8af, "ARABIC LETTER ", "SAD WITH THREE DOTS BELOW,GAF WITH INVERTED STROKE"⟩,
    ⟨0x8b1, "ARABIC LETTER ", "STRAIGHT WAW,ZAIN WITH INVERTED V ABOVE,AIN WITH THREE DOTS BELOW"⟩,
    ⟨0x8b4, "ARABIC LETTER ", "KAF WITH DOT BELOW,QAF WITH DOT BELOW AND NO DOTS ABOVE"⟩,
    ⟨0x8b6, "ARABIC LETTER ", "BEH WITH SMALL MEEM ABOVE,PEH WITH SMALL MEEM ABOVE"⟩,
    ⟨0x8b8, "ARABIC LETTER ", "TEH WITH SMALL TEH ABOVE,REH WITH SMALL NOON ABOVE"⟩,
    ⟨0x8ba, "ARABIC LETTER ", "YEH WITH TWO DOTS BELOW AND SMALL NOON ABOVE,AFRICAN FEH"⟩,
    ⟨0x8bc, "ARABIC LETTER ", "AFRICAN QAF,AFRICAN NOON,PEH WITH SMALL V,TEH WITH SMALL V"⟩,
    ⟨0x8c0, "ARABIC LETTER ", "TTEH WITH SMALL V,TCHEH WITH SMALL V,KEHEH WITH SMALL V"⟩,
    ⟨0x8c3, "ARABIC LETTER ", "GHAIN WITH THREE DOTS ABOVE,AFRICAN QAF WITH THREE DOTS ABOVE"⟩,
    ⟨0x8c5, "ARABIC LETTER JEEM WITH THREE DOTS ", "ABOVE,BELOW"⟩,
    ⟨0x8c7, "ARABIC ", "LETTER LAM WITH SMALL ARABIC LETTER TAH ABOVE,LETTER GRAF,SMALL FARSI YEH"⟩,
    ⟨0x8ca, "ARABIC SMALL HIGH ", "FARSI YEH,YEH BARREE WITH TWO DOTS BELOW,WORD SAH,ZAH"⟩,
    ⟨0x8ce, "ARABIC ", "LARGE ROUND DOT ABOVE,LARGE ROUND DOT BELOW,SUKUN BELOW"⟩,
    ⟨0x8d1, "ARABIC ", "LARGE CIRCLE BELOW,LARGE ROUND DOT INSIDE CIRCLE BELOW,SMALL LOW WAW"⟩,
    ⟨0x8d4, "ARABIC SMALL HIGH ", "WORD AR-RUB,SAD,AIN,QAF,NOON WITH KASRA"⟩,
    ⟨0x8d9, "ARABIC SMALL ", "LOW NOON WITH KASRA,HIGH WORD ATH-THALATHA,HIGH WORD AS-SAJDA"⟩,
    ⟨0x8dc, "ARABIC SMALL HIGH ", "WORD AN-NISF,WORD SAKTA,WORD QIF,WORD WAQFA,FOOTNOTE MARKER"⟩,
    ⟨0x8e1, "ARABIC ", "SMALL HIGH SIGN SAFHA,DISPUTED END OF AYAH,TURNED DAMMA BELOW"⟩,
    ⟨0x8e4, "ARABIC CURLY ", "FATHA,DAMMA,KASRA,FATHATAN,DAMMATAN,KASRATAN"⟩,
    ⟨0x8ea, "ARABIC TONE ", "ONE DOT ABOVE,TWO DOTS ABOVE,LOOP ABOVE,ONE DOT BELOW,TWO DOTS BELOW"⟩,
    ⟨0x8ef, "ARABIC ", "TONE LOOP BELOW,OPEN FATHATAN,OPEN DAMMATAN,OPEN KASRATAN,SMALL HIGH WAW"⟩,
    ⟨0x8f4, "ARABIC FATHA WITH ", "RING,DOT ABOVE"⟩,
    ⟨0x8f6, "ARABIC ", "KASRA WITH DOT BELOW,LEFT ARROWHEAD ABOVE"⟩,
    ⟨0x8f8, "ARABIC ", "RIGHT ARROWHEAD ABOVE,LEFT ARROWHEAD BELOW,RIGHT ARROWHEAD BELOW"⟩,
    ⟨0x8fb, "ARABIC DOUBLE RIGHT ARROWHEAD ", "ABOVE,ABOVE WITH DOT"⟩,
    ⟨0x8fd, "ARABIC ", "RIGHT ARROWHEAD ABOVE WITH DOT,DAMMA WITH DOT,MARK SIDEWAYS NOON GHUNNA"⟩]

end HttpRouting.Text.CharacterName
