import HttpRouting.Text.CharacterName.Run

/-!
# Names of the scripts of South and Southeast Asia and of America

The names from U+0900 to U+1FFE in the Unicode standard.
-/

namespace HttpRouting.Text.CharacterName

def southernScripts : List Run :=
  [
    ⟨0x900, "DEVANAGARI SIGN ", "INVERTED CANDRABINDU,CANDRABINDU,ANUSVARA,VISARGA"⟩,
    ⟨0x904, "DEVANAGARI LETTER ", "SHORT A,A,AA,I,II,U,UU,VOCALIC R,VOCALIC L"⟩,
    ⟨0x90d, "DEVANAGARI LETTER ", "CANDRA E,SHORT E,E,AI,CANDRA O,SHORT O,O,AU,KA,KHA,GA,GHA"⟩,
    ⟨0x919, "DEVANAGARI LETTER ", "NGA,CA,CHA,JA,JHA,NYA,TTA,TTHA,DDA,DDHA,NNA,TA,THA,DA,DHA,NA"⟩,
    ⟨0x929, "DEVANAGARI LETTER ", "NNNA,PA,PHA,BA,BHA,MA,YA,RA,RRA,LA,LLA,LLLA,VA,SHA,SSA,SA,HA"⟩,
    ⟨0x93a, "DEVANAGARI ", "VOWEL SIGN OE,VOWEL SIGN OOE,SIGN NUKTA,SIGN AVAGRAHA"⟩,
    ⟨0x93e, "DEVANAGARI VOWEL SIGN ", "AA,I,II,U,UU,VOCALIC R"⟩,
    ⟨0x944, "DEVANAGARI VOWEL SIGN ", "VOCALIC RR,CANDRA E,SHORT E,E,AI,CANDRA O,SHORT O,O,AU"⟩,
    ⟨0x94d, "DEVANAGARI ", "SIGN VIRAMA,VOWEL SIGN PRISHTHAMATRA E,VOWEL SIGN AW"⟩,
    ⟨0x950, "DEVANAGARI ", "OM,STRESS SIGN UDATTA,STRESS SIGN ANUDATTA,GRAVE ACCENT,ACUTE ACCENT"⟩,
    ⟨0x955, "DEVANAGARI VOWEL SIGN ", "CANDRA LONG E,UE,UUE"⟩,
    ⟨0x958, "DEVANAGARI LETTER ", "QA,KHHA,GHHA,ZA,DDDHA,RHA,FA,YYA,VOCALIC RR,VOCALIC LL"⟩,
    ⟨0x962, "DEVANAGARI ", "VOWEL SIGN VOCALIC L,VOWEL SIGN VOCALIC LL,DANDA,DOUBLE DANDA"⟩,
    ⟨0x966, "DEVANAGARI DIGIT ", "ZERO,ONE,TWO,THREE,FOUR,FIVE,SIX,SEVEN,EIGHT,NINE"⟩,
    ⟨0x970, "DEVANAGARI ", "ABBREVIATION SIGN,SIGN HIGH SPACING DOT"⟩,
    ⟨0x972, "DEVANAGARI LETTER ", "CANDRA A,OE,OOE,AW"⟩,
    ⟨0x976, "DEVANAGARI LETTER ", "UE,UUE,MARWARI DDA,ZHA,HEAVY YA,GGA,JJA,GLOTTAL STOP,DDDA,BBA"⟩,
    ⟨0x980, "BENGALI ", "ANJI,SIGN CANDRABINDU,SIGN ANUSVARA,SIGN VISARGA"⟩,
    ⟨0x985, "BENGALI LETTER ", "A,AA,I,II,U,UU,VOCALIC R,VOCALIC L"⟩,
    ⟨0x98f, "BENGALI LETTER ", "E,AI,,,O,AU,KA,KHA,GA,GHA,NGA,CA,CHA,JA,JHA,NYA,TTA,TTHA,DDA,DDHA"⟩,
    ⟨0x9a3, "BENGALI LETTER ", "NNA,TA,THA,DA,DHA,NA,,PA,PHA,BA,BHA,MA,YA,RA,,LA,,,,SHA,SSA,SA,HA"⟩,
    ⟨0x9bc, "BENGALI SIGN ", "NUKTA,AVAGRAHA"⟩,
    ⟨0x9be, "BENGALI VOWEL SIGN ", "AA,I,II,U,UU,VOCALIC R,VOCALIC RR,,,E,AI,,,O,AU"⟩,
    ⟨0x9cd, "BENGALI ", "SIGN VIRAMA,LETTER KHANDA TA,,,,,,,,,AU LENGTH MARK"⟩,
    ⟨0x9dc, "BENGALI LETTER ", "RRA,RHA,,YYA,VOCALIC RR,VOCALIC LL"⟩,
    ⟨0x9e2, "BENGALI VOWEL SIGN VOCALIC ", "L,LL"⟩,
    ⟨0x9e6, "BENGALI DIGIT ", "ZERO,ONE,TWO,THREE,FOUR,FIVE,SIX,SEVEN,EIGHT,NINE"⟩,
    ⟨0x9f0, "BENGALI LETTER RA WITH ", "MIDDLE DIAGONAL,LOWER DIAGONAL"⟩,
    ⟨0x9f2, "BENGALI RUPEE ", "MARK,SIGN"⟩,
    ⟨0x9f4, "BENGALI CURRENCY NUMERATOR ", "ONE,TWO,THREE,FOUR,ONE LESS THAN THE DENOMINATOR"⟩,
    ⟨0x9f9, "BENGALI ", "CURRENCY DENOMINATOR SIXTEEN,ISSHAR,GANDA MARK,LETTER VEDIC ANUSVARA"⟩,
    ⟨0x9fd, "", "BENGALI ABBREVIATION SIGN,BENGALI SANDHI MARK,,,GURMUKHI SIGN ADAK BINDI"⟩,
    ⟨0xa02, "GURMUKHI ", "SIGN BINDI,SIGN VISARGA,,LETTER A,LETTER AA,LETTER I,LETTER II"⟩,
    ⟨0xa09, "GURMUKHI LETTER ", "U,UU,,,,,EE,AI,,,OO,AU,KA,KHA,GA,GHA,NGA,CA,CHA,JA,JHA,NYA,TTA"⟩,
    ⟨0xa20, "GURMUKHI LETTER ", "TTHA,DDA,DDHA,NNA,TA,THA,DA,DHA,NA,,PA,PHA,BA,BHA,MA,YA,RA,,LA"⟩,
    ⟨0xa33, "GURMUKHI ", "LETTER LLA,,LETTER VA,LETTER SHA,,LETTER SA,LETTER HA,,,SIGN NUKTA"⟩,
    ⟨0xa3e, "GURMUKHI VOWEL SIGN ", "AA,I,II,U,UU,,,,,EE,AI,,,OO,AU"⟩,
    ⟨0xa4d, "GURMUKHI SIGN ", "VIRAMA,,,,UDAAT"⟩,
    ⟨0xa59, "GURMUKHI LETTER ", "KHHA,GHHA,ZA,RRA,,FA"⟩,
    ⟨0xa66, "GURMUKHI DIGIT ", "ZERO,ONE,TWO,THREE,FOUR,FIVE,SIX,SEVEN,EIGHT,NINE"⟩,
    ⟨0xa70, "GURMUKHI ", "TIPPI,ADDAK,IRI,URA,EK ONKAR,SIGN YAKASH,ABBREVIATION SIGN"⟩,
    ⟨0xa81, "GUJARATI SIGN ", "CANDRABINDU,ANUSVARA,VISARGA"⟩,
    ⟨0xa85, "GUJARATI LETTER ", "A,AA,I,II,U,UU,VOCALIC R,VOCALIC L"⟩,
    ⟨0xa8d, "GUJARATI ", "VOWEL CANDRA E,,LETTER E,LETTER AI,VOWEL CANDRA O,,LETTER O"⟩,
    ⟨0xa94, "GUJARATI LETTER ", "AU,KA,KHA,GA,GHA,NGA,CA,CHA,JA,JHA,NYA,TTA,TTHA,DDA,DDHA,NNA,TA"⟩,
    ⟨0xaa5, "GUJARATI LETTER ", "THA,DA,DHA,NA,,PA,PHA,BA,BHA,MA,YA,RA,,LA,LLA,,VA,SHA,SSA,SA,HA"⟩,
    ⟨0xabc, "GUJARATI SIGN ", "NUKTA,AVAGRAHA"⟩,
    ⟨0xabe, "GUJARATI VOWEL SIGN ", "AA,I,II,U,UU,VOCALIC R,VOCALIC RR,CANDRA E,,E,AI,CANDRA O,,O"⟩,
    ⟨0xacc, "GUJARATI ", "VOWEL SIGN AU,SIGN VIRAMA,,,OM"⟩,
    ⟨0xae0, "GUJARATI LETTER VOCALIC ", "RR,LL"⟩,
    ⟨0xae2, "GUJARATI VOWEL SIGN VOCALIC ", "L,LL"⟩,
    ⟨0xae6, "GUJARATI DIGIT ", "ZERO,ONE,TWO,THREE,FOUR,FIVE,SIX,SEVEN,EIGHT,NINE"⟩,
    ⟨0xaf0, "GUJARATI ", "ABBREVIATION SIGN,RUPEE SIGN,,,,,,,,LETTER ZHA"⟩,
    ⟨0xafa, "GUJARATI SIGN ", "SUKUN,SHADDA,MADDAH"⟩,
    ⟨0xafd, "GUJARATI SIGN ", "THREE-DOT NUKTA ABOVE,CIRCLE NUKTA ABOVE,TWO-CIRCLE NUKTA ABOVE"⟩,
    ⟨0xb01, "ORIYA SIGN ", "CANDRABINDU,ANUSVARA,VISARGA"⟩,
    ⟨0xb05, "ORIYA LETTER ", "A,AA,I,II,U,UU,VOCALIC R,VOCALIC L,,,E,AI"⟩,
    ⟨0xb13, "ORIYA LETTER ", "O,AU,KA,KHA,GA,GHA,NGA,CA,CHA,JA,JHA,NYA,TTA,TTHA,DDA,DDHA,NNA"⟩,
    ⟨0xb24, "ORIYA LETTER ", "TA,THA,DA,DHA,NA,,PA,PHA,BA,BHA,MA,YA,RA,,LA,LLA,,VA,SHA,SSA,SA,HA"⟩,
    ⟨0xb3c, "ORIYA SIGN ", "NUKTA,AVAGRAHA"⟩,
    ⟨0xb3e, "ORIYA VOWEL SIGN ", "AA,I,II,U,UU,VOCALIC R,VOCALIC RR,,,E,AI,,,O,AU"⟩,
    ⟨0xb4d, "ORIYA ", "SIGN VIRAMA,,,,,,,,SIGN OVERLINE,AI LENGTH MARK,AU LENGTH MARK"⟩,
    ⟨0xb5c, "ORIYA LETTER ", "RRA,RHA,,YYA,VOCALIC RR,VOCALIC LL"⟩,
    ⟨0xb62, "ORIYA VOWEL SIGN VOCALIC ", "L,LL"⟩,
    ⟨0xb66, "ORIYA DIGIT ", "ZERO,ONE,TWO,THREE,FOUR,FIVE,SIX,SEVEN,EIGHT,NINE"⟩,
    ⟨0xb70, "ORIYA ", "ISSHAR,LETTER WA,FRACTION ONE QUARTER"⟩,
    ⟨0xb73, "ORIYA FRACTION ", "ONE HALF,THREE QUARTERS,ONE SIXTEENTH,ONE EIGHTH,THREE SIXTEENTHS"⟩,
    ⟨0xb82, "TAMIL SIGN ", "ANUSVARA,VISARGA"⟩,
    ⟨0xb85, "TAMIL LETTER ", "A,AA,I,II,U,UU,,,,E,EE,AI,,O,OO,AU,KA,,,,NGA,CA,,JA,,NYA,TTA"⟩,
    ⟨0xba3, "TAMIL LETTER ", "NNA,TA,,,,NA,NNNA,PA,,,,MA,YA,RA,RRA,LA,LLA,LLLA,VA,SHA,SSA,SA,HA"⟩,
    ⟨0xbbe, "TAMIL VOWEL SIGN ", "AA,I,II,U,UU,,,,E,EE,AI,,O,OO,AU"⟩,
    ⟨0xbcd, "TAMIL ", "SIGN VIRAMA,,,OM,,,,,,,AU LENGTH MARK"⟩,
    ⟨0xbe6, "TAMIL DIGIT ", "ZERO,ONE,TWO,THREE,FOUR,FIVE,SIX,SEVEN,EIGHT,NINE"⟩,
    ⟨0xbf0, "TAMIL ", "NUMBER TEN,NUMBER ONE HUNDRED,NUMBER ONE THOUSAND,DAY SIGN,MONTH SIGN"⟩,
    ⟨0xbf5, "TAMIL ", "YEAR SIGN,DEBIT SIGN,CREDIT SIGN,AS ABOVE SIGN,RUPEE SIGN,NUMBER SIGN"⟩,
    ⟨0xc00, "", "TELUGU SIGN COMBINING CANDRABINDU ABOVE"⟩,
    ⟨0xc01, "TELUGU SIGN ", "CANDRABINDU,ANUSVARA,VISARGA,COMBINING ANUSVARA ABOVE"⟩,
    ⟨0xc05, "TELUGU LETTER ", "A,AA,I,II,U,UU,VOCALIC R,VOCALIC L,,E,EE,AI,,O,OO,AU,KA,KHA,GA"⟩,
    ⟨0xc18, "TELUGU LETTER ", "GHA,NGA,CA,CHA,JA,JHA,NYA,TTA,TTHA,DDA,DDHA,NNA,TA,THA,DA,DHA,NA"⟩,
    ⟨0xc2a, "TELUGU LETTER ", "PA,PHA,BA,BHA,MA,YA,RA,RRA,LA,LLA,LLLA,VA,SHA,SSA,SA,HA"⟩,
    ⟨0xc3c, "TELUGU SIGN ", "NUKTA,AVAGRAHA"⟩,
    ⟨0xc3e, "TELUGU VOWEL SIGN ", "AA,I,II,U,UU,VOCALIC R,VOCALIC RR,,E,EE,AI,,O,OO,AU"⟩,
    ⟨0xc4d, "TELUGU ", "SIGN VIRAMA,,,,,,,,LENGTH MARK,AI LENGTH MARK"⟩,
    ⟨0xc58, "TELUGU LETTER ", "TSA,DZA,RRRA,,,NAKAARA POLLU,,,VOCALIC RR,VOCALIC LL"⟩,
    ⟨0xc62, "TELUGU VOWEL SIGN VOCALIC ", "L,LL"⟩,
    ⟨0xc66, "TELUGU DIGIT ", "ZERO,ONE,TWO,THREE,FOUR,FIVE,SIX,SEVEN,EIGHT,NINE"⟩,
    ⟨0xc77, "", "TELUGU SIGN SIDDHAM"⟩,
    ⟨0xc78, "TELUGU FRACTION DIGIT ", "ZERO FOR ODD POWERS OF FOUR,ONE FOR ODD POWERS OF FOUR"⟩,
    ⟨0xc7a, "TELUGU FRACTION DIGIT ", "TWO FOR ODD POWERS OF FOUR,THREE FOR ODD POWERS OF FOUR"⟩,
    ⟨0xc7c, "TELUGU FRACTION DIGIT ", "ONE FOR EVEN POWERS OF FOUR,TWO FOR EVEN POWERS OF FOUR"⟩,
    ⟨0xc7e, "TELUGU ", "FRACTION DIGIT THREE FOR EVEN POWERS OF FOUR,SIGN TUUMU"⟩,
    ⟨0xc80, "KANNADA SIGN ", "SPACING CANDRABINDU,CANDRABINDU,ANUSVARA,VISARGA,SIDDHAM"⟩,
    ⟨0xc85, "KANNADA LETTER ", "A,AA,I,II,U,UU,VOCALIC R,VOCALIC L,,E,EE,AI,,O,OO,AU,KA,KHA,GA"⟩,
    ⟨0xc98, "KANNADA LETTER ", "GHA,NGA,CA,CHA,JA,JHA,NYA,TTA,TTHA,DDA,DDHA,NNA,TA,THA,DA,DHA,NA"⟩,
    ⟨0xcaa, "KANNADA LETTER ", "PA,PHA,BA,BHA,MA,YA,RA,RRA,LA,LLA,,VA,SHA,SSA,SA,HA"⟩,
    ⟨0xcbc, "KANNADA SIGN ", "NUKTA,AVAGRAHA"⟩,
    ⟨0xcbe, "KANNADA VOWEL SIGN ", "AA,I,II,U,UU,VOCALIC R,VOCALIC RR,,E,EE,AI,,O,OO,AU"⟩,
    ⟨0xccd, "KANNADA ", "SIGN VIRAMA,,,,,,,,LENGTH MARK,AI LENGTH MARK"⟩,
    ⟨0xcdd, "KANNADA LETTER ", "NAKAARA POLLU,FA,,VOCALIC RR,VOCALIC LL"⟩,
    ⟨0xce2, "KANNADA VOWEL SIGN VOCALIC ", "L,LL"⟩,
    ⟨0xce6, "KANNADA DIGIT ", "ZERO,ONE,TWO,THREE,FOUR,FIVE,SIX,SEVEN,EIGHT,NINE"⟩,
    ⟨0xcf1, "KANNADA SIGN ", "JIHVAMULIYA,UPADHMANIYA"⟩,
    ⟨0xd00, "MALAYALAM SIGN ", "COMBINING ANUSVARA ABOVE,CANDRABINDU,ANUSVARA,VISARGA"⟩,
    ⟨0xd04, "MALAYALAM LETTER ", "VEDIC ANUSVARA,A,AA,I,II,U,UU,VOCALIC R,VOCALIC L"⟩,
    ⟨0xd0e, "MALAYALAM LETTER ", "E,EE,AI,,O,OO,AU,KA,KHA,GA,GHA,NGA"⟩,
    ⟨0xd1a, "MALAYALAM LETTER ", "CA,CHA,JA,JHA,NYA,TTA,TTHA,DDA,DDHA,NNA,TA,THA,DA,DHA,NA,NNNA"⟩,
    ⟨0xd2a, "MALAYALAM LETTER ", "PA,PHA,BA,BHA,MA,YA,RA,RRA,LA,LLA,LLLA,VA,SHA,SSA,SA,HA,TTTA"⟩,
    ⟨0xd3b, "MALAYALAM SIGN ", "VERTICAL BAR VIRAMA,CIRCULAR VIRAMA,AVAGRAHA"⟩,
    ⟨0xd3e, "MALAYALAM VOWEL SIGN ", "AA,I,II,U,UU,VOCALIC R,VOCALIC RR,,E,EE,AI,,O,OO,AU"⟩,
    ⟨0xd4d, "MALAYALAM ", "SIGN VIRAMA,LETTER DOT REPH,SIGN PARA"⟩,
    ⟨0xd54, "MALAYALAM ", "LETTER CHILLU M,LETTER CHILLU Y,LETTER CHILLU LLL,AU LENGTH MARK"⟩,
    ⟨0xd58, "MALAYALAM FRACTION ", "ONE ONE-HUNDRED-AND-SIXTIETH,ONE FORTIETH,THREE EIGHTIETHS"⟩,
    ⟨0xd5b, "MALAYALAM FRACTION ", "ONE TWENTIETH,ONE TENTH,THREE TWENTIETHS,ONE FIFTH"⟩,
    ⟨0xd5f, "MALAYALAM LETTER ", "ARCHAIC II,VOCALIC RR,VOCALIC LL"⟩,
    ⟨0xd62, "MALAYALAM VOWEL SIGN VOCALIC ", "L,LL"⟩,
    ⟨0xd66, "MALAYALAM DIGIT ", "ZERO,ONE,TWO,THREE,FOUR,FIVE,SIX,SEVEN,EIGHT,NINE"⟩,
    ⟨0xd70, "MALAYALAM NUMBER ", "TEN,ONE HUNDRED,ONE THOUSAND"⟩,
    ⟨0xd73, "MALAYALAM FRACTION ", "ONE QUARTER,ONE HALF,THREE QUARTERS,ONE SIXTEENTH,ONE EIGHTH"⟩,
    ⟨0xd78, "MALAYALAM ", "FRACTION THREE SIXTEENTHS,DATE MARK"⟩,
    ⟨0xd7a, "MALAYALAM LETTER CHILLU ", "NN,N,RR,L,LL,K"⟩,
    ⟨0xd81, "SINHALA SIGN ", "CANDRABINDU,ANUSVARAYA,VISARGAYA"⟩,
    ⟨0xd85, "SINHALA LETTER ", "AYANNA,AAYANNA,AEYANNA,AEEYANNA,IYANNA,IIYANNA,UYANNA,UUYANNA"⟩,
    ⟨0xd8d, "SINHALA LETTER ", "IRUYANNA,IRUUYANNA,ILUYANNA,ILUUYANNA,EYANNA,EEYANNA,AIYANNA"⟩,
    ⟨0xd94, "SINHALA LETTER ", "OYANNA,OOYANNA,AUYANNA,,,,ALPAPRAANA KAYANNA,MAHAAPRAANA KAYANNA"⟩,
    ⟨0xd9c, "SINHALA LETTER ", "ALPAPRAANA GAYANNA,MAHAAPRAANA GAYANNA,KANTAJA NAASIKYAYA"⟩,
    ⟨0xd9f, "SINHALA LETTER ", "SANYAKA GAYANNA,ALPAPRAANA CAYANNA,MAHAAPRAANA CAYANNA"⟩,
    ⟨0xda2, "SINHALA LETTER ", "ALPAPRAANA JAYANNA,MAHAAPRAANA JAYANNA,TAALUJA NAASIKYAYA"⟩,
    ⟨0xda5, "SINHALA LETTER ", "TAALUJA SANYOOGA NAAKSIKYAYA,SANYAKA JAYANNA,ALPAPRAANA TTAYANNA"⟩,
    ⟨0xda8, "SINHALA LETTER ", "MAHAAPRAANA TTAYANNA,ALPAPRAANA DDAYANNA,MAHAAPRAANA DDAYANNA"⟩,
    ⟨0xdab, "SINHALA LETTER ", "MUURDHAJA NAYANNA,SANYAKA DDAYANNA,ALPAPRAANA TAYANNA"⟩,
    ⟨0xdae, "SINHALA LETTER ", "MAHAAPRAANA TAYANNA,ALPAPRAANA DAYANNA,MAHAAPRAANA DAYANNA"⟩,
    ⟨0xdb1, "SINHALA LETTER ", "DANTAJA NAYANNA,,SANYAKA DAYANNA,ALPAPRAANA PAYANNA"⟩,
    ⟨0xdb5, "SINHALA LETTER ", "MAHAAPRAANA PAYANNA,ALPAPRAANA BAYANNA,MAHAAPRAANA BAYANNA"⟩,
    ⟨0xdb8, "SINHALA LETTER ", "MAYANNA,AMBA BAYANNA,YAYANNA,RAYANNA,,DANTAJA LAYANNA"⟩,
    ⟨0xdc0, "SINHALA LETTER ", "VAYANNA,TAALUJA SAYANNA,MUURDHAJA SAYANNA,DANTAJA SAYANNA,HAYANNA"⟩,
    ⟨0xdc5, "SINHALA ", "LETTER MUURDHAJA LAYANNA,LETTER FAYANNA,,,,SIGN AL-LAKUNA"⟩,
    ⟨0xdcf, "SINHALA VOWEL SIGN ", "AELA-PILLA,KETTI AEDA-PILLA"⟩,
    ⟨0xdd1, "SINHALA VOWEL SIGN ", "DIGA AEDA-PILLA,KETTI IS-PILLA,DIGA IS-PILLA,KETTI PAA-PILLA"⟩,
    ⟨0xdd6, "SINHALA VOWEL SIGN ", "DIGA PAA-PILLA,,GAETTA-PILLA,KOMBUVA,DIGA KOMBUVA,KOMBU DEKA"⟩,
    ⟨0xddc, "SINHALA VOWEL SIGN KOMBUVA HAA ", "AELA-PILLA,DIGA AELA-PILLA,GAYANUKITTA"⟩,
    ⟨0xddf, "", "SINHALA VOWEL SIGN GAYANUKITTA"⟩,
    ⟨0xde6, "SINHALA LITH DIGIT ", "ZERO,ONE,TWO,THREE,FOUR,FIVE,SIX,SEVEN,EIGHT,NINE"⟩,
    ⟨0xdf2, "SINHALA VOWEL SIGN DIGA ", "GAETTA-PILLA,GAYANUKITTA"⟩,
    ⟨0xdf4, "", "SINHALA PUNCTUATION KUNDDALIYA"⟩,
    ⟨0xe01, "THAI CHARACTER ", "KO KAI,KHO KHAI,KHO KHUAT,KHO KHWAI,KHO KHON"⟩,
    ⟨0xe06, "THAI CHARACTER ", "KHO RAKHANG,NGO NGU,CHO CHAN,CHO CHING,CHO CHANG,SO SO,CHO CHOE"⟩,
    ⟨0xe0d, "THAI CHARACTER ", "YO YING,DO CHADA,TO PATAK,THO THAN,THO NANGMONTHO,THO PHUTHAO"⟩,
    ⟨0xe13, "THAI CHARACTER ", "NO NEN,DO DEK,TO TAO,THO THUNG,THO THAHAN,THO THONG,NO NU"⟩,
    ⟨0xe1a, "THAI CHARACTER ", "BO BAIMAI,PO PLA,PHO PHUNG,FO FA,PHO PHAN,FO FAN,PHO SAMPHAO"⟩,
    ⟨0xe21, "THAI CHARACTER ", "MO MA,YO YAK,RO RUA,RU,LO LING,LU,WO WAEN,SO SALA,SO RUSI,SO SUA"⟩,
    ⟨0xe2b, "THAI CHARACTER ", "HO HIP,LO CHULA,O ANG,HO NOKHUK,PAIYANNOI,SARA A,MAI HAN-AKAT"⟩,
    ⟨0xe32, "THAI CHARACTER SARA ", "AA,AM,I,II,UE,UEE,U,UU"⟩,
    ⟨0xe3a, "THAI ", "CHARACTER PHINTHU,,,,,CURRENCY SYMBOL BAHT"⟩,
    ⟨0xe40, "THAI CHARACTER SARA ", "E,AE,O,AI MAIMUAN,AI MAIMALAI"⟩,
    ⟨0xe45, "THAI CHARACTER ", "LAKKHANGYAO,MAIYAMOK,MAITAIKHU,MAI EK,MAI THO"⟩,
    ⟨0xe4a, "THAI CHARACTER ", "MAI TRI,MAI CHATTAWA,THANTHAKHAT,NIKHAHIT,YAMAKKAN,FONGMAN"⟩,
    ⟨0xe50, "THAI DIGIT ", "ZERO,ONE,TWO,THREE,FOUR,FIVE,SIX,SEVEN,EIGHT,NINE"⟩,
    ⟨0xe5a, "THAI CHARACTER ", "ANGKHANKHU,KHOMUT"⟩,
    ⟨0xe81, "LAO LETTER ", "KO,KHO SUNG,,KHO TAM,,PALI GHA,NGO,CO,PALI CHA,SO TAM,,PALI JHA"⟩,
    ⟨0xe8d, "LAO LETTER ", "NYO,PALI NYA,PALI TTA,PALI TTHA,PALI DDA,PALI DDHA,PALI NNA,DO"⟩,
    ⟨0xe95, "LAO LETTER ", "TO,THO SUNG,THO TAM,PALI DHA,NO,BO,PO,PHO SUNG,FO TAM,PHO TAM,FO SUNG"⟩,
    ⟨0xea0, "LAO LETTER ", "PALI BHA,MO,YO,LO LING,,LO LOOT,,WO,SANSKRIT SHA,SANSKRIT SSA,SO SUNG"⟩,
    ⟨0xeab, "LAO ", "LETTER HO SUNG,LETTER PALI LLA,LETTER O,LETTER HO TAM,ELLIPSIS"⟩,
    ⟨0xeb0, "LAO VOWEL SIGN ", "A,MAI KAN,AA,AM,I,II,Y,YY,U,UU"⟩,
    ⟨0xeba, "LAO ", "SIGN PALI VIRAMA,VOWEL SIGN MAI KON,SEMIVOWEL SIGN LO,SEMIVOWEL SIGN NYO"⟩,
    ⟨0xec0, "LAO VOWEL SIGN ", "E,EI,O,AY,AI"⟩,
    ⟨0xec6, "LAO ", "KO LA,,TONE MAI EK"⟩,
    ⟨0xec9, "LAO ", "TONE MAI THO,TONE MAI TI,TONE MAI CATAWA,CANCELLATION MARK,NIGGAHITA"⟩,
    ⟨0xed0, "LAO DIGIT ", "ZERO,ONE,TWO,THREE,FOUR,FIVE,SIX,SEVEN,EIGHT,NINE"⟩,
    ⟨0xedc, "LAO ", "HO NO,HO MO,LETTER KHMU GO,LETTER KHMU NYO"⟩,
    ⟨0xf00, "", "TIBETAN SYLLABLE OM"⟩,
    ⟨0xf01, "TIBETAN MARK GTER YIG MGO ", "TRUNCATED A,-UM RNAM BCAD MA,-UM GTER TSHEG MA"⟩,
    ⟨0xf04, "TIBETAN MARK ", "INITIAL YIG MGO MDUN MA,CLOSING YIG MGO SGAB MA"⟩,
    ⟨0xf06, "TIBETAN MARK ", "CARET YIG MGO PHUR SHAD MA,YIG MGO TSHEG SHAD MA"⟩,
    ⟨0xf08, "TIBETAN MARK ", "SBRUL SHAD,BSKUR YIG MGO,BKA- SHOG YIG MGO,INTERSYLLABIC TSHEG"⟩,
    ⟨0xf0c, "TIBETAN MARK ", "DELIMITER TSHEG BSTAR,SHAD,NYIS SHAD,TSHEG SHAD,NYIS TSHEG SHAD"⟩,
    ⟨0xf11, "TIBETAN MARK ", "RIN CHEN SPUNGS SHAD,RGYA GRAM SHAD,CARET -DZUD RTAGS ME LONG CAN"⟩,
    ⟨0xf14, "TIBETAN ", "MARK GTER TSHEG,LOGOTYPE SIGN CHAD RTAGS,LOGOTYPE SIGN LHAG RTAGS"⟩,
    ⟨0xf17, "TIBETAN ASTROLOGICAL SIGN ", "SGRA GCAN -CHAR RTAGS,-KHYUD PA,SDONG TSHUGS"⟩,
    ⟨0xf1a, "TIBETAN SIGN RDEL DKAR ", "GCIG,GNYIS,GSUM"⟩,
    ⟨0xf1d, "TIBETAN SIGN RDEL ", "NAG GCIG,NAG GNYIS,DKAR RDEL NAG"⟩,
    ⟨0xf20, "TIBETAN DIGIT ", "ZERO,ONE,TWO,THREE,FOUR,FIVE,SIX,SEVEN,EIGHT,NINE"⟩,
    ⟨0xf2a, "TIBETAN DIGIT HALF ", "ONE,TWO,THREE,FOUR,FIVE,SIX,SEVEN,EIGHT,NINE,ZERO"⟩,
    ⟨0xf34, "TIBETAN MARK ", "BSDUS RTAGS,NGAS BZUNG NYI ZLA,CARET -DZUD RTAGS BZHI MIG CAN"⟩,
    ⟨0xf37, "TIBETAN MARK ", "NGAS BZUNG SGOR RTAGS,CHE MGO,TSA -PHRU"⟩,
    ⟨0xf3a, "TIBETAN MARK ", "GUG RTAGS GYON,GUG RTAGS GYAS,ANG KHANG GYON,ANG KHANG GYAS"⟩,
    ⟨0xf3e, "TIBETAN SIGN ", "YAR TSHES,MAR TSHES"⟩,
    ⟨0xf40, "TIBETAN LETTER ", "KA,KHA,GA,GHA,NGA,CA,CHA,JA,,NYA,TTA,TTHA"⟩,
    ⟨0xf4c, "TIBETAN LETTER ", "DDA,DDHA,NNA,TA,THA,DA,DHA,NA,PA,PHA,BA,BHA,MA,TSA,TSHA,DZA,DZHA"⟩,
    ⟨0xf5d, "TIBETAN LETTER ", "WA,ZHA,ZA,-A,YA,RA,LA,SHA,SSA,SA,HA,A,KSSA,FIXED-FORM RA,KKA,RRA"⟩,
    ⟨0xf71, "TIBETAN VOWEL SIGN ", "AA,I,II,U,UU,VOCALIC R,VOCALIC RR,VOCALIC L,VOCALIC LL,E,EE,O"⟩,
    ⟨0xf7d, "TIBETAN ", "VOWEL SIGN OO,SIGN RJES SU NGA RO,SIGN RNAM BCAD,VOWEL SIGN REVERSED I"⟩,
    ⟨0xf81, "TIBETAN ", "VOWEL SIGN REVERSED II,SIGN NYI ZLA NAA DA,SIGN SNA LDAN"⟩,
    ⟨0xf84, "TIBETAN ", "MARK HALANTA,MARK PALUTA,SIGN LCI RTAGS,SIGN YANG RTAGS,SIGN LCE TSA CAN"⟩,
    ⟨0xf89, "TIBETAN SIGN ", "MCHU CAN,GRU CAN RGYINGS,GRU MED RGYINGS,INVERTED MCHU CAN"⟩,
    ⟨0xf8d, "TIBETAN SUBJOINED SIGN ", "LCE TSA CAN,MCHU CAN,INVERTED MCHU CAN"⟩,
    ⟨0xf90, "TIBETAN SUBJOINED LETTER ", "KA,KHA,GA,GHA,NGA,CA,CHA,JA,,NYA,TTA,TTHA"⟩,
    ⟨0xf9c, "TIBETAN SUBJOINED LETTER ", "DDA,DDHA,NNA,TA,THA,DA,DHA,NA,PA,PHA,BA,BHA,MA,TSA,TSHA"⟩,
    ⟨0xfab, "TIBETAN SUBJOINED LETTER ", "DZA,DZHA,WA,ZHA,ZA,-A,YA,RA,LA,SHA,SSA,SA,HA,A,KSSA"⟩,
    ⟨0xfba, "TIBETAN SUBJOINED LETTER FIXED-FORM ", "WA,YA,RA"⟩,
    ⟨0xfbe, "TIBETAN KU RU ", "KHA,KHA BZHI MIG CAN"⟩,
    ⟨0xfc0, "TIBETAN CANTILLATION SIGN ", "HEAVY BEAT,LIGHT BEAT,CANG TE-U,SBUB -CHAL"⟩,
    ⟨0xfc4, "TIBETAN SYMBOL ", "DRIL BU,RDO RJE,PADMA GDAN,RDO RJE RGYA GRAM,PHUR PA,NOR BU"⟩,
    ⟨0xfca, "TIBETAN SYMBOL NOR BU ", "NYIS -KHYIL,GSUM -KHYIL,BZHI -KHYIL"⟩,
    ⟨0xfce, "TIBETAN SIGN RDEL NAG ", "RDEL DKAR,GSUM"⟩,
    ⟨0xfd0, "TIBETAN MARK ", "BSKA- SHOG GI MGO RGYAN,MNYAM YIG GI MGO RGYAN"⟩,
    ⟨0xfd2, "TIBETAN MARK ", "NYIS TSHEG,INITIAL BRDA RNYING YIG MGO MDUN MA"⟩,
    ⟨0xfd4, "", "TIBETAN MARK CLOSING BRDA RNYING YIG MGO SGAB MA"⟩,
    ⟨0xfd5, "", "RIGHT-FACING SVASTI SIGN,LEFT-FACING SVASTI SIGN"⟩,
    ⟨0xfd7, "", "RIGHT-FACING SVASTI SIGN WITH DOTS,LEFT-FACING SVASTI SIGN WITH DOTS"⟩,
    ⟨0xfd9, "TIBETAN MARK ", "LEADING MCHAN RTAGS,TRAILING MCHAN RTAGS"⟩,
    ⟨0x1000, "MYANMAR LETTER ", "KA,KHA,GA,GHA,NGA,CA,CHA"⟩,
    ⟨0x1007, "MYANMAR LETTER ", "JA,JHA,NYA,NNYA,TTA,TTHA,DDA,DDHA,NNA,TA,THA,DA,DHA,NA,PA,PHA"⟩,
    ⟨0x1017, "MYANMAR LETTER ", "BA,BHA,MA,YA,RA,LA,WA,SA,HA,LLA,A,SHAN A,I,II,U,UU,E,MON E,O,AU"⟩,
    ⟨0x102b, "MYANMAR VOWEL SIGN ", "TALL AA,AA,I,II,U,UU,E,AI,MON II,MON O,E ABOVE"⟩,
    ⟨0x1036, "MYANMAR SIGN ", "ANUSVARA,DOT BELOW,VISARGA,VIRAMA,ASAT"⟩,
    ⟨0x103b, "MYANMAR CONSONANT SIGN MEDIAL ", "YA,RA,WA,HA"⟩,
    ⟨0x103f, "", "MYANMAR LETTER GREAT SA"⟩,
    ⟨0x1040, "MYANMAR DIGIT ", "ZERO,ONE,TWO,THREE,FOUR,FIVE,SIX,SEVEN,EIGHT,NINE"⟩,
    ⟨0x104a, "MYANMAR SIGN ", "LITTLE SECTION,SECTION"⟩,
    ⟨0x104c, "MYANMAR SYMBOL ", "LOCATIVE,COMPLETED,AFOREMENTIONED,GENITIVE"⟩,
    ⟨0x1050, "MYANMAR LETTER ", "SHA,SSA,VOCALIC R,VOCALIC RR,VOCALIC L,VOCALIC LL"⟩,
    ⟨0x1056, "MYANMAR VOWEL SIGN VOCALIC ", "R,RR,L,LL"⟩,
    ⟨0x105a, "MYANMAR LETTER MON ", "NGA,JHA,BBA,BBE"⟩,
    ⟨0x105e, "MYANMAR CONSONANT SIGN MON MEDIAL ", "NA,MA,LA"⟩,
    ⟨0x1061, "MYANMAR ", "LETTER SGAW KAREN SHA,VOWEL SIGN SGAW KAREN EU"⟩,
    ⟨0x1063, "MYANMAR TONE MARK SGAW KAREN ", "HATHI,KE PHO"⟩,
    ⟨0x1065, "MYANMAR LETTER WESTERN PWO KAREN ", "THA,PWA"⟩,
    ⟨0x1067, "MYANMAR VOWEL SIGN WESTERN PWO KAREN ", "EU,UE"⟩,
    ⟨0x1069, "MYANMAR SIGN WESTERN PWO KAREN TONE-", "1,2,3,4,5"⟩,
    ⟨0x106e, "MYANMAR LETTER EASTERN PWO KAREN ", "NNA,YWA,GHWA"⟩,
    ⟨0x1071, "MYANMAR VOWEL SIGN ", "GEBA KAREN I,KAYAH OE,KAYAH U,KAYAH EE"⟩,
    ⟨0x1075, "MYANMAR LETTER SHAN ", "KA,KHA,GA,CA,ZA,NYA,DA,NA,PHA,FA,BA,THA,HA"⟩,
    ⟨0x1082, "", "MYANMAR CONSONANT SIGN SHAN MEDIAL WA"⟩,
    ⟨0x1083, "MYANMAR VOWEL SIGN SHAN ", "AA,E,E ABOVE,FINAL Y"⟩,
    ⟨0x1087, "MYANMAR SIGN SHAN TONE-", "2,3,5,6"⟩,
    ⟨0x108b, "MYANMAR SIGN SHAN COUNCIL ", "TONE-2,TONE-3,EMPHATIC TONE"⟩,
    ⟨0x108e, "MYANMAR ", "LETTER RUMAI PALAUNG FA,SIGN RUMAI PALAUNG TONE-5"⟩,
    ⟨0x1090, "MYANMAR SHAN DIGIT ", "ZERO,ONE,TWO,THREE,FOUR,FIVE,SIX,SEVEN,EIGHT,NINE"⟩,
    ⟨0x109a, "MYANMAR ", "SIGN KHAMTI TONE-1,SIGN KHAMTI TONE-3,VOWEL SIGN AITON A"⟩,
    ⟨0x109d, "MYANMAR ", "VOWEL SIGN AITON AI,SYMBOL SHAN ONE,SYMBOL SHAN EXCLAMATION"⟩,
    ⟨0x10a0, "GEORGIAN CAPITAL LETTER ", "AN,BAN,GAN,DON,EN,VIN,ZEN,TAN,IN,KAN,LAS,MAN,NAR"⟩,
    ⟨0x10ad, "GEORGIAN CAPITAL LETTER ", "ON,PAR,ZHAR,RAE,SAN,TAR,UN,PHAR,KHAR,GHAN,QAR,SHIN,CHIN"⟩,
    ⟨0x10ba, "GEORGIAN CAPITAL LETTER ", "CAN,JIL,CIL,CHAR,XAN,JHAN,HAE,HE,HIE,WE,HAR,HOE,,YN"⟩,
    ⟨0x10cd, "", "GEORGIAN CAPITAL LETTER AEN"⟩,
    ⟨0x10d0, "GEORGIAN LETTER ", "AN,BAN,GAN,DON,EN,VIN,ZEN,TAN,IN,KAN,LAS,MAN,NAR,ON,PAR"⟩,
    ⟨0x10df, "GEORGIAN LETTER ", "ZHAR,RAE,SAN,TAR,UN,PHAR,KHAR,GHAN,QAR,SHIN,CHIN,CAN,JIL,CIL"⟩,
    ⟨0x10ed, "GEORGIAN LETTER ", "CHAR,XAN,JHAN,HAE,HE,HIE,WE,HAR,HOE,FI,YN,ELIFI,TURNED GAN,AIN"⟩,
    ⟨0x10fb, "", "GEORGIAN PARAGRAPH SEPARATOR,MODIFIER LETTER GEORGIAN NAR"⟩,
    ⟨0x10fd, "GEORGIAN LETTER ", "AEN,HARD SIGN,LABIAL SIGN"⟩,
    ⟨0x1100, "HANGUL CHOSEONG ", "KIYEOK,SSANGKIYEOK,NIEUN,TIKEUT,SSANGTIKEUT"⟩,
    ⟨0x1105, "HANGUL CHOSEONG ", "RIEUL,MIEUM,PIEUP,SSANGPIEUP,SIOS,SSANGSIOS,IEUNG,CIEUC"⟩,
    ⟨0x110d, "HANGUL CHOSEONG ", "SSANGCIEUC,CHIEUCH,KHIEUKH,THIEUTH,PHIEUPH,HIEUH,NIEUN-KIYEOK"⟩,
    ⟨0x1114, "HANGUL CHOSEONG ", "SSANGNIEUN,NIEUN-TIKEUT,NIEUN-PIEUP,TIKEUT-KIYEOK,RIEUL-NIEUN"⟩,
    ⟨0x1119, "HANGUL CHOSEONG ", "SSANGRIEUL,RIEUL-HIEUH,KAPYEOUNRIEUL,MIEUM-PIEUP,KAPYEOUNMIEUM"⟩,
    ⟨0x111e, "HANGUL CHOSEONG PIEUP-", "KIYEOK,NIEUN,TIKEUT,SIOS,SIOS-KIYEOK,SIOS-TIKEUT"⟩,
    ⟨0x1124, "HANGUL CHOSEONG PIEUP-", "SIOS-PIEUP,SSANGSIOS,SIOS-CIEUC,CIEUC,CHIEUCH,THIEUTH"⟩,
    ⟨0x112a, "HANGUL CHOSEONG ", "PIEUP-PHIEUPH,KAPYEOUNPIEUP,KAPYEOUNSSANGPIEUP"⟩,
    ⟨0x112d, "HANGUL CHOSEONG SIOS-", "KIYEOK,NIEUN,TIKEUT,RIEUL,MIEUM,PIEUP,PIEUP-KIYEOK"⟩,
    ⟨0x1134, "HANGUL CHOSEONG SIOS-", "SSANGSIOS,IEUNG,CIEUC,CHIEUCH,KHIEUKH,THIEUTH,PHIEUPH"⟩,
    ⟨0x113b, "HANGUL CHOSEONG ", "SIOS-HIEUH,CHITUEUMSIOS,CHITUEUMSSANGSIOS,CEONGCHIEUMSIOS"⟩,
    ⟨0x113f, "HANGUL CHOSEONG ", "CEONGCHIEUMSSANGSIOS,PANSIOS,IEUNG-KIYEOK,IEUNG-TIKEUT"⟩,
    ⟨0x1143, "HANGUL CHOSEONG ", "IEUNG-MIEUM,IEUNG-PIEUP,IEUNG-SIOS,IEUNG-PANSIOS,SSANGIEUNG"⟩,
    ⟨0x1148, "HANGUL CHOSEONG IEUNG-", "CIEUC,CHIEUCH,THIEUTH,PHIEUPH"⟩,
    ⟨0x114c, "HANGUL CHOSEONG ", "YESIEUNG,CIEUC-IEUNG,CHITUEUMCIEUC,CHITUEUMSSANGCIEUC"⟩,
    ⟨0x1150, "HANGUL CHOSEONG ", "CEONGCHIEUMCIEUC,CEONGCHIEUMSSANGCIEUC,CHIEUCH-KHIEUKH"⟩,
    ⟨0x1153, "HANGUL CHOSEONG ", "CHIEUCH-HIEUH,CHITUEUMCHIEUCH,CEONGCHIEUMCHIEUCH,PHIEUPH-PIEUP"⟩,
    ⟨0x1157, "HANGUL CHOSEONG ", "KAPYEOUNPHIEUPH,SSANGHIEUH,YEORINHIEUH,KIYEOK-TIKEUT"⟩,
    ⟨0x115b, "HANGUL CHOSEONG ", "NIEUN-SIOS,NIEUN-CIEUC,NIEUN-HIEUH,TIKEUT-RIEUL,FILLER"⟩,
    ⟨0x1160, "HANGUL JUNGSEONG ", "FILLER,A,AE,YA,YAE,EO,E,YEO,YE,O,WA,WAE,OE,YO,U"⟩,
    ⟨0x116f, "HANGUL JUNGSEONG ", "WEO,WE,WI,YU,EU,YI,I,A-O,A-U,YA-O,YA-YO,EO-O,EO-U,EO-EU,YEO-O"⟩,
    ⟨0x117e, "HANGUL JUNGSEONG ", "YEO-U,O-EO,O-E,O-YE,O-O,O-U,YO-YA,YO-YAE,YO-YEO,YO-O,YO-I,U-A"⟩,
    ⟨0x118a, "HANGUL JUNGSEONG ", "U-AE,U-EO-EU,U-YE,U-U,YU-A,YU-EO,YU-E,YU-YEO,YU-YE,YU-U,YU-I"⟩,
    ⟨0x1195, "HANGUL JUNGSEONG ", "EU-U,EU-EU,YI-U,I-A,I-YA,I-O,I-U,I-EU,I-ARAEA,ARAEA,ARAEA-EO"⟩,
    ⟨0x11a0, "HANGUL JUNGSEONG ", "ARAEA-U,ARAEA-I,SSANGARAEA,A-EU,YA-U,YEO-YA,O-YA,O-YAE"⟩,
    ⟨0x11a8, "HANGUL JONGSEONG ", "KIYEOK,SSANGKIYEOK"⟩,
    ⟨0x11aa, "HANGUL JONGSEONG ", "KIYEOK-SIOS,NIEUN,NIEUN-CIEUC,NIEUN-HIEUH,TIKEUT,RIEUL"⟩,
    ⟨0x11b0, "HANGUL JONGSEONG RIEUL-", "KIYEOK,MIEUM,PIEUP,SIOS,THIEUTH,PHIEUPH,HIEUH"⟩,
    ⟨0x11b7, "HANGUL JONGSEONG ", "MIEUM,PIEUP,PIEUP-SIOS,SIOS,SSANGSIOS,IEUNG,CIEUC,CHIEUCH"⟩,
    ⟨0x11bf, "HANGUL JONGSEONG ", "KHIEUKH,THIEUTH,PHIEUPH,HIEUH,KIYEOK-RIEUL,KIYEOK-SIOS-KIYEOK"⟩,
    ⟨0x11c5, "HANGUL JONGSEONG NIEUN-", "KIYEOK,TIKEUT,SIOS,PANSIOS,THIEUTH"⟩,
    ⟨0x11ca, "HANGUL JONGSEONG ", "TIKEUT-KIYEOK,TIKEUT-RIEUL,RIEUL-KIYEOK-SIOS"⟩,
    ⟨0x11cd, "HANGUL JONGSEONG ", "RIEUL-NIEUN,RIEUL-TIKEUT,RIEUL-TIKEUT-HIEUH,SSANGRIEUL"⟩,
    ⟨0x11d1, "HANGUL JONGSEONG RIEUL-", "MIEUM-KIYEOK,MIEUM-SIOS,PIEUP-SIOS,PIEUP-HIEUH"⟩,
    ⟨0x11d5, "HANGUL JONGSEONG RIEUL-", "KAPYEOUNPIEUP,SSANGSIOS,PANSIOS,KHIEUKH,YEORINHIEUH"⟩,
    ⟨0x11da, "HANGUL JONGSEONG MIEUM-", "KIYEOK,RIEUL,PIEUP,SIOS,SSANGSIOS,PANSIOS,CHIEUCH,HIEUH"⟩,
    ⟨0x11e2, "HANGUL JONGSEONG ", "KAPYEOUNMIEUM,PIEUP-RIEUL,PIEUP-PHIEUPH"⟩,
    ⟨0x11e5, "HANGUL JONGSEONG ", "PIEUP-HIEUH,KAPYEOUNPIEUP,SIOS-KIYEOK,SIOS-TIKEUT,SIOS-RIEUL"⟩,
    ⟨0x11ea, "HANGUL JONGSEONG ", "SIOS-PIEUP,PANSIOS,IEUNG-KIYEOK,IEUNG-SSANGKIYEOK,SSANGIEUNG"⟩,
    ⟨0x11ef, "HANGUL JONGSEONG ", "IEUNG-KHIEUKH,YESIEUNG,YESIEUNG-SIOS,YESIEUNG-PANSIOS"⟩,
    ⟨0x11f3, "HANGUL JONGSEONG ", "PHIEUPH-PIEUP,KAPYEOUNPHIEUPH,HIEUH-NIEUN,HIEUH-RIEUL"⟩,
    ⟨0x11f7, "HANGUL JONGSEONG ", "HIEUH-MIEUM,HIEUH-PIEUP,YEORINHIEUH,KIYEOK-NIEUN,KIYEOK-PIEUP"⟩,
    ⟨0x11fc, "HANGUL JONGSEONG ", "KIYEOK-CHIEUCH,KIYEOK-KHIEUKH,KIYEOK-HIEUH,SSANGNIEUN"⟩,
    ⟨0x1200, "ETHIOPIC SYLLABLE ", "HA,HU,HI,HAA,HEE,HE,HO,HOA,LA,LU,LI,LAA,LEE,LE"⟩,
    ⟨0x120e, "ETHIOPIC SYLLABLE ", "LO,LWA,HHA,HHU,HHI,HHAA,HHEE,HHE,HHO,HHWA,MA,MU,MI,MAA,MEE,ME"⟩,
    ⟨0x121e, "ETHIOPIC SYLLABLE ", "MO,MWA,SZA,SZU,SZI,SZAA,SZEE,SZE,SZO,SZWA,RA,RU,RI,RAA,REE,RE"⟩,
    ⟨0x122e, "ETHIOPIC SYLLABLE ", "RO,RWA,SA,SU,SI,SAA,SEE,SE,SO,SWA,SHA,SHU,SHI,SHAA,SHEE,SHE"⟩,
    ⟨0x123e, "ETHIOPIC SYLLABLE ", "SHO,SHWA,QA,QU,QI,QAA,QEE,QE,QO,QOA,QWA,,QWI,QWAA,QWEE,QWE"⟩,
    ⟨0x1250, "ETHIOPIC SYLLABLE ", "QHA,QHU,QHI,QHAA,QHEE,QHE,QHO,,QHWA,,QHWI,QHWAA,QHWEE,QHWE"⟩,
    ⟨0x1260, "ETHIOPIC SYLLABLE ", "BA,BU,BI,BAA,BEE,BE,BO,BWA,VA,VU,VI"⟩,
    ⟨0x126b, "ETHIOPIC SYLLABLE ", "VAA,VEE,VE,VO,VWA,TA,TU,TI,TAA,TEE,TE,TO,TWA,CA,CU,CI,CAA,CEE"⟩,
    ⟨0x127d, "ETHIOPIC SYLLABLE ", "CE,CO,CWA,XA,XU,XI,XAA,XEE,XE,XO,XOA,XWA,,XWI,XWAA,XWEE,XWE"⟩,
    ⟨0x1290, "ETHIOPIC SYLLABLE ", "NA,NU,NI,NAA,NEE,NE,NO,NWA,NYA,NYU,NYI,NYAA,NYEE,NYE,NYO,NYWA"⟩,
    ⟨0x12a0, "ETHIOPIC SYLLABLE GLOTTAL ", "A,U,I,AA,EE,E,O,WA"⟩,
    ⟨0x12a8, "ETHIOPIC SYLLABLE ", "KA,KU,KI,KAA,KEE,KE,KO,KOA,KWA,,KWI,KWAA,KWEE,KWE"⟩,
    ⟨0x12b8, "ETHIOPIC SYLLABLE ", "KXA,KXU,KXI,KXAA,KXEE,KXE,KXO,,KXWA,,KXWI,KXWAA,KXWEE,KXWE"⟩,
    ⟨0x12c8, "ETHIOPIC SYLLABLE ", "WA,WU,WI,WAA,WEE,WE,WO,WOA"⟩,
    ⟨0x12d0, "ETHIOPIC SYLLABLE PHARYNGEAL ", "A,U,I,AA,EE,E,O"⟩,
    ⟨0x12d8, "ETHIOPIC SYLLABLE ", "ZA,ZU,ZI,ZAA,ZEE,ZE,ZO,ZWA,ZHA,ZHU,ZHI,ZHAA"⟩,
    ⟨0x12e4, "ETHIOPIC SYLLABLE ", "ZHEE,ZHE,ZHO,ZHWA,YA,YU,YI,YAA,YEE,YE,YO,YOA,DA,DU,DI,DAA,DEE"⟩,
    ⟨0x12f5, "ETHIOPIC SYLLABLE ", "DE,DO,DWA,DDA,DDU,DDI,DDAA,DDEE,DDE,DDO,DDWA,JA,JU,JI,JAA,JEE"⟩,
    ⟨0x1305, "ETHIOPIC SYLLABLE ", "JE,JO,JWA,GA,GU,GI,GAA,GEE,GE,GO,GOA,GWA,,GWI,GWAA,GWEE,GWE"⟩,
    ⟨0x1318, "ETHIOPIC SYLLABLE ", "GGA,GGU,GGI,GGAA,GGEE,GGE,GGO,GGWAA"⟩,
    ⟨0x1320, "ETHIOPIC SYLLABLE ", "THA,THU,THI,THAA,THEE,THE,THO,THWA,CHA,CHU,CHI,CHAA,CHEE,CHE"⟩,
    ⟨0x132e, "ETHIOPIC SYLLABLE ", "CHO,CHWA,PHA,PHU,PHI,PHAA,PHEE,PHE,PHO,PHWA,TSA,TSU,TSI,TSAA"⟩,
    ⟨0x133c, "ETHIOPIC SYLLABLE ", "TSEE,TSE,TSO,TSWA,TZA,TZU,TZI,TZAA,TZEE,TZE,TZO,TZOA,FA,FU"⟩,
    ⟨0x134a, "ETHIOPIC SYLLABLE ", "FI,FAA,FEE,FE,FO,FWA,PA,PU,PI,PAA,PEE,PE,PO,PWA,RYA,MYA,FYA"⟩,
    ⟨0x135d, "ETHIOPIC COMBINING ", "GEMINATION AND VOWEL LENGTH MARK,VOWEL LENGTH MARK"⟩,
    ⟨0x135f, "ETHIOPIC ", "COMBINING GEMINATION MARK,SECTION MARK,WORDSPACE,FULL STOP"⟩,
    ⟨0x1363, "ETHIOPIC ", "COMMA,SEMICOLON,COLON,PREFACE COLON,QUESTION MARK,PARAGRAPH SEPARATOR"⟩,
    ⟨0x1369, "ETHIOPIC DIGIT ", "ONE,TWO,THREE,FOUR,FIVE,SIX,SEVEN,EIGHT,NINE"⟩,
    ⟨0x1372, "ETHIOPIC NUMBER ", "TEN,TWENTY,THIRTY"⟩,
    ⟨0x1375, "ETHIOPIC NUMBER ", "FORTY,FIFTY,SIXTY,SEVENTY,EIGHTY,NINETY,HUNDRED,TEN THOUSAND"⟩,
    ⟨0x1380, "ETHIOPIC SYLLABLE ", "SEBATBEIT MWA,MWI,MWEE,MWE,SEBATBEIT BWA,BWI,BWEE"⟩,
    ⟨0x1387, "ETHIOPIC SYLLABLE ", "BWE,SEBATBEIT FWA,FWI,FWEE,FWE,SEBATBEIT PWA,PWI,PWEE,PWE"⟩,
    ⟨0x1390, "ETHIOPIC TONAL MARK ", "YIZET,DERET,RIKRIK"⟩,
    ⟨0x1393, "ETHIOPIC TONAL MARK ", "SHORT RIKRIK,DIFAT,KENAT,CHIRET,HIDET,DERET-HIDET,KURT"⟩,
    ⟨0x13a0, "CHEROKEE LETTER ", "A,E,I,O,U,V,GA,KA"⟩,
    ⟨0x13a8, "CHEROKEE LETTER ", "GE,GI,GO,GU,GV,HA,HE,HI,HO,HU,HV,LA,LE,LI,LO,LU,LV,MA,ME,MI,MO"⟩,
    ⟨0x13bd, "CHEROKEE LETTER ", "MU,NA,HNA,NAH,NE,NI,NO,NU,NV,QUA,QUE,QUI,QUO,QUU,QUV,SA,S,SE,SI"⟩,
    ⟨0x13d0, "CHEROKEE LETTER ", "SO,SU,SV,DA,TA,DE,TE,DI,TI,DO,DU,DV,DLA,TLA,TLE,TLI,TLO,TLU,TLV"⟩,
    ⟨0x13e3, "CHEROKEE LETTER ", "TSA,TSE,TSI,TSO,TSU,TSV,WA,WE,WI,WO,WU,WV,YA,YE,YI,YO,YU,YV,MV"⟩,
    ⟨0x13f8, "CHEROKEE SMALL LETTER ", "YE,YI,YO,YU,YV,MV"⟩,
    ⟨0x1400, "CANADIAN SYLLABICS ", "HYPHEN,E,AAI,I,II,O,OO,Y-CREE OO,CARRIER EE,CARRIER I"⟩,
    ⟨0x140a, "CANADIAN SYLLABICS ", "A,AA,WE,WEST-CREE WE,WI,WEST-CREE WI,WII,WEST-CREE WII,WO"⟩,
    ⟨0x1413, "CANADIAN SYLLABICS ", "WEST-CREE WO,WOO,WEST-CREE WOO,NASKAPI WOO,WA,WEST-CREE WA"⟩,
    ⟨0x1419, "CANADIAN SYLLABICS ", "WAA,WEST-CREE WAA,NASKAPI WAA,AI,Y-CREE W,GLOTTAL STOP"⟩,
    ⟨0x141f, "CANADIAN SYLLABICS FINAL ", "ACUTE,GRAVE"⟩,
    ⟨0x1421, "CANADIAN SYLLABICS FINAL ", "BOTTOM HALF RING,TOP HALF RING,RIGHT HALF RING,RING"⟩,
    ⟨0x1425, "CANADIAN SYLLABICS FINAL DOUBLE ", "ACUTE,SHORT VERTICAL STROKES"⟩,
    ⟨0x1427, "CANADIAN SYLLABICS FINAL ", "MIDDLE DOT,SHORT HORIZONTAL STROKE,PLUS,DOWN TACK"⟩,
    ⟨0x142b, "CANADIAN SYLLABICS ", "EN,IN,ON,AN"⟩,
    ⟨0x142f, "CANADIAN SYLLABICS ", "PE,PAAI,PI,PII,PO,POO,Y-CREE POO,CARRIER HEE,CARRIER HI,PA"⟩,
    ⟨0x1439, "CANADIAN SYLLABICS ", "PAA,PWE,WEST-CREE PWE,PWI,WEST-CREE PWI,PWII,WEST-CREE PWII"⟩,
    ⟨0x1440, "CANADIAN SYLLABICS ", "PWO,WEST-CREE PWO,PWOO,WEST-CREE PWOO,PWA,WEST-CREE PWA"⟩,
    ⟨0x1446, "CANADIAN SYLLABICS ", "PWAA,WEST-CREE PWAA,Y-CREE PWAA,P,WEST-CREE P,CARRIER H"⟩,
    ⟨0x144c, "CANADIAN SYLLABICS ", "TE,TAAI,TI,TII,TO,TOO,Y-CREE TOO,CARRIER DEE,CARRIER DI,TA"⟩,
    ⟨0x1456, "CANADIAN SYLLABICS ", "TAA,TWE,WEST-CREE TWE,TWI,WEST-CREE TWI,TWII,WEST-CREE TWII"⟩,
    ⟨0x145d, "CANADIAN SYLLABICS ", "TWO,WEST-CREE TWO,TWOO,WEST-CREE TWOO,TWA,WEST-CREE TWA,TWAA"⟩,
    ⟨0x1464, "CANADIAN SYLLABICS ", "WEST-CREE TWAA,NASKAPI TWAA,T,TTE,TTI,TTO,TTA,KE,KAAI,KI,KII"⟩,
    ⟨0x146f, "CANADIAN SYLLABICS ", "KO,KOO,Y-CREE KOO,KA,KAA,KWE,WEST-CREE KWE,KWI,WEST-CREE KWI"⟩,
    ⟨0x1478, "CANADIAN SYLLABICS ", "KWII,WEST-CREE KWII,KWO,WEST-CREE KWO,KWOO,WEST-CREE KWOO"⟩,
    ⟨0x147e, "CANADIAN SYLLABICS ", "KWA,WEST-CREE KWA,KWAA,WEST-CREE KWAA,NASKAPI KWAA,K,KW"⟩,
    ⟨0x1485, "CANADIAN SYLLABICS SOUTH-SLAVEY ", "KEH,KIH,KOH,KAH"⟩,
    ⟨0x1489, "CANADIAN SYLLABICS ", "CE,CAAI,CI,CII,CO,COO,Y-CREE COO,CA"⟩,
    ⟨0x1491, "CANADIAN SYLLABICS ", "CAA,CWE,WEST-CREE CWE,CWI,WEST-CREE CWI,CWII,WEST-CREE CWII"⟩,
    ⟨0x1498, "CANADIAN SYLLABICS ", "CWO,WEST-CREE CWO,CWOO,WEST-CREE CWOO,CWA,WEST-CREE CWA"⟩,
    ⟨0x149e, "CANADIAN SYLLABICS ", "CWAA,WEST-CREE CWAA,NASKAPI CWAA,C,SAYISI TH,ME,MAAI,MI,MII"⟩,
    ⟨0x14a7, "CANADIAN SYLLABICS ", "MO,MOO,Y-CREE MOO,MA,MAA,MWE,WEST-CREE MWE,MWI,WEST-CREE MWI"⟩,
    ⟨0x14b0, "CANADIAN SYLLABICS ", "MWII,WEST-CREE MWII,MWO,WEST-CREE MWO,MWOO,WEST-CREE MWOO"⟩,
    ⟨0x14b6, "CANADIAN SYLLABICS ", "MWA,WEST-CREE MWA,MWAA,WEST-CREE MWAA,NASKAPI MWAA"⟩,
    ⟨0x14bb, "CANADIAN SYLLABICS ", "M,WEST-CREE M,MH,ATHAPASCAN M,SAYISI M,NE,NAAI,NI,NII,NO,NOO"⟩,
    ⟨0x14c6, "CANADIAN SYLLABICS ", "Y-CREE NOO,NA,NAA,NWE,WEST-CREE NWE,NWA,WEST-CREE NWA,NWAA"⟩,
    ⟨0x14ce, "CANADIAN SYLLABICS ", "WEST-CREE NWAA,NASKAPI NWAA,N,CARRIER NG,NH,LE,LAAI,LI,LII"⟩,
    ⟨0x14d7, "CANADIAN SYLLABICS ", "LO,LOO,Y-CREE LOO,LA,LAA,LWE,WEST-CREE LWE,LWI,WEST-CREE LWI"⟩,
    ⟨0x14e0, "CANADIAN SYLLABICS ", "LWII,WEST-CREE LWII,LWO,WEST-CREE LWO,LWOO,WEST-CREE LWOO"⟩,
    ⟨0x14e6, "CANADIAN SYLLABICS ", "LWA,WEST-CREE LWA,LWAA,WEST-CREE LWAA,L,WEST-CREE L,MEDIAL L"⟩,
    ⟨0x14ed, "CANADIAN SYLLABICS ", "SE,SAAI,SI,SII,SO,SOO,Y-CREE SOO,SA,SAA,SWE,WEST-CREE SWE"⟩,
    ⟨0x14f8, "CANADIAN SYLLABICS ", "SWI,WEST-CREE SWI,SWII,WEST-CREE SWII,SWO,WEST-CREE SWO"⟩,
    ⟨0x14fe, "CANADIAN SYLLABICS ", "SWOO,WEST-CREE SWOO,SWA,WEST-CREE SWA,SWAA,WEST-CREE SWAA"⟩,
    ⟨0x1504, "CANADIAN SYLLABICS ", "NASKAPI SWAA,S,ATHAPASCAN S,SW,BLACKFOOT S,MOOSE-CREE SK"⟩,
    ⟨0x150a, "CANADIAN SYLLABICS NASKAPI ", "SKW,S-W,SPWA,STWA,SKWA,SCWA"⟩,
    ⟨0x1510, "CANADIAN SYLLABICS ", "SHE,SHI,SHII,SHO"⟩,
    ⟨0x1514, "CANADIAN SYLLABICS ", "SHOO,SHA,SHAA,SHWE,WEST-CREE SHWE,SHWI,WEST-CREE SHWI,SHWII"⟩,
    ⟨0x151c, "CANADIAN SYLLABICS ", "WEST-CREE SHWII,SHWO,WEST-CREE SHWO,SHWOO,WEST-CREE SHWOO"⟩,
    ⟨0x1521, "CANADIAN SYLLABICS ", "SHWA,WEST-CREE SHWA,SHWAA,WEST-CREE SHWAA,SH,YE,YAAI,YI,YII"⟩,
    ⟨0x152a, "CANADIAN SYLLABICS ", "YO,YOO,Y-CREE YOO,YA,YAA,YWE,WEST-CREE YWE,YWI,WEST-CREE YWI"⟩,
    ⟨0x1533, "CANADIAN SYLLABICS ", "YWII,WEST-CREE YWII,YWO,WEST-CREE YWO,YWOO,WEST-CREE YWOO"⟩,
    ⟨0x1539, "CANADIAN SYLLABICS ", "YWA,WEST-CREE YWA,YWAA,WEST-CREE YWAA,NASKAPI YWAA,Y"⟩,
    ⟨0x153f, "CANADIAN SYLLABICS ", "BIBLE-CREE Y,WEST-CREE Y,SAYISI YI,RE,R-CREE RE,WEST-CREE LE"⟩,
    ⟨0x1545, "CANADIAN SYLLABICS ", "RAAI,RI,RII,RO,ROO,WEST-CREE LO,RA,RAA,WEST-CREE LA"⟩,
    ⟨0x154e, "CANADIAN SYLLABICS ", "RWAA,WEST-CREE RWAA,R,WEST-CREE R,MEDIAL R,FE,FAAI"⟩,
    ⟨0x1555, "CANADIAN SYLLABICS ", "FI,FII,FO,FOO,FA,FAA,FWAA,WEST-CREE FWAA,F,THE,N-CREE THE"⟩,
    ⟨0x1560, "CANADIAN SYLLABICS ", "THI,N-CREE THI,THII,N-CREE THII,THO,THOO,THA,THAA,THWAA"⟩,
    ⟨0x1569, "CANADIAN SYLLABICS ", "WEST-CREE THWAA,TH,TTHE,TTHI,TTHO,TTHA,TTH,TYE,TYI,TYO,TYA"⟩,
    ⟨0x1574, "CANADIAN SYLLABICS NUNAVIK ", "HE,HI,HII,HO,HOO,HA,HAA,H"⟩,
    ⟨0x157c, "CANADIAN SYLLABICS ", "NUNAVUT H,HK,QAAI,QI,QII,QO,QOO,QA,QAA,Q,TLHE,TLHI,TLHO,TLHA"⟩,
    ⟨0x158a, "CANADIAN SYLLABICS WEST-CREE ", "RE,RI,RO,RA"⟩,
    ⟨0x158e, "CANADIAN SYLLABICS ", "NGAAI,NGI,NGII,NGO,NGOO,NGA,NGAA,NG,NNG"⟩,
    ⟨0x1597, "CANADIAN SYLLABICS SAYISI ", "SHE,SHI,SHO,SHA"⟩,
    ⟨0x159b, "CANADIAN SYLLABICS WOODS-CREE ", "THE,THI,THO,THA,TH"⟩,
    ⟨0x15a0, "CANADIAN SYLLABICS ", "LHI,LHII,LHO,LHOO,LHA,LHAA,LH"⟩,
    ⟨0x15a7, "CANADIAN SYLLABICS TH-CREE ", "THE,THI,THII,THO,THOO,THA,THAA,TH"⟩,
    ⟨0x15af, "", "CANADIAN SYLLABICS AIVILIK B"⟩,
    ⟨0x15b0, "CANADIAN SYLLABICS BLACKFOOT ", "E,I,O,A,WE,WI,WO,WA,NE,NI,NO,NA,KE,KI,KO,KA"⟩,
    ⟨0x15c0, "CANADIAN SYLLABICS SAYISI ", "HE,HI,HO,HA"⟩,
    ⟨0x15c4, "CANADIAN SYLLABICS CARRIER ", "GHU,GHO,GHE,GHEE,GHI,GHA,RU,RO,RE,REE"⟩,
    ⟨0x15ce, "CANADIAN SYLLABICS CARRIER ", "RI,RA,WU,WO,WE,WEE,WI,WA,HWU,HWO,HWE,HWEE,HWI,HWA"⟩,
    ⟨0x15dc, "CANADIAN SYLLABICS CARRIER ", "THU,THO,THE,THEE,THI,THA,TTU,TTO,TTE,TTEE,TTI,TTA"⟩,
    ⟨0x15e8, "CANADIAN SYLLABICS CARRIER ", "PU,PO,PE,PEE,PI,PA,P,GU,GO,GE,GEE,GI,GA,KHU,KHO,KHE"⟩,
    ⟨0x15f8, "CANADIAN SYLLABICS CARRIER ", "KHEE,KHI,KHA,KKU,KKO,KKE,KKEE,KKI,KKA,KK,NU,NO,NE"⟩,
    ⟨0x1605, "CANADIAN SYLLABICS CARRIER ", "NEE,NI,NA,MU,MO,ME,MEE,MI,MA,YU,YO,YE,YEE,YI,YA,JU"⟩,
    ⟨0x1615, "", "CANADIAN SYLLABICS SAYISI JU"⟩,
    ⟨0x1616, "CANADIAN SYLLABICS ", "CARRIER JO,CARRIER JE,CARRIER JEE,CARRIER JI,SAYISI JI"⟩,
    ⟨0x161b, "CANADIAN SYLLABICS CARRIER ", "JA,JJU,JJO,JJE,JJEE,JJI,JJA"⟩,
    ⟨0x1622, "CANADIAN SYLLABICS CARRIER ", "LU,LO,LE,LEE,LI,LA,DLU,DLO,DLE,DLEE,DLI,DLA,LHU,LHO"⟩,
    ⟨0x1630, "CANADIAN SYLLABICS CARRIER ", "LHE,LHEE,LHI,LHA,TLHU,TLHO,TLHE,TLHEE,TLHI,TLHA,TLU"⟩,
    ⟨0x163b, "CANADIAN SYLLABICS CARRIER ", "TLO,TLE,TLEE,TLI,TLA,ZU,ZO,ZE,ZEE,ZI,ZA,Z,INITIAL Z"⟩,
    ⟨0x1648, "CANADIAN SYLLABICS CARRIER ", "DZU,DZO,DZE,DZEE,DZI,DZA,SU,SO,SE,SEE,SI,SA,SHU"⟩,
    ⟨0x1655, "CANADIAN SYLLABICS CARRIER ", "SHO,SHE,SHEE,SHI,SHA,SH,TSU,TSO,TSE,TSEE,TSI,TSA,CHU"⟩,
    ⟨0x1662, "CANADIAN SYLLABICS CARRIER ", "CHO,CHE,CHEE,CHI,CHA,TTSU,TTSO,TTSE,TTSEE,TTSI,TTSA"⟩,
    ⟨0x166d, "CANADIAN SYLLABICS ", "CHI SIGN,FULL STOP,QAI,NGAI,NNGI,NNGII,NNGO,NNGOO,NNGA,NNGAA"⟩,
    ⟨0x1677, "CANADIAN SYLLABICS WOODS-CREE ", "THWEE,THWI,THWII,THWO,THWOO,THWA,THWAA,FINAL TH"⟩,
    ⟨0x167f, "", "CANADIAN SYLLABICS BLACKFOOT W,OGHAM SPACE MARK"⟩,
    ⟨0x1681, "OGHAM LETTER ", "BEITH,LUIS,FEARN,SAIL"⟩,
    ⟨0x1685, "OGHAM LETTER ", "NION,UATH,DAIR,TINNE,COLL,CEIRT,MUIN,GORT,NGEADAL,STRAIF,RUIS,AILM"⟩,
    ⟨0x1691, "OGHAM LETTER ", "ONN,UR,EADHADH,IODHADH,EABHADH,OR,UILLEANN,IFIN,EAMHANCHOLL,PEITH"⟩,
    ⟨0x169b, "", "OGHAM FEATHER MARK,OGHAM REVERSED FEATHER MARK,,,,RUNIC LETTER FEHU FEOH FE F"⟩,
    ⟨0x16a1, "RUNIC LETTER ", "V,URUZ UR U,YR,Y,W,THURISAZ THURS THORN,ETH,ANSUZ A,OS O,AC A"⟩,
    ⟨0x16ab, "RUNIC LETTER ", "AESC,LONG-BRANCH-OSS O,SHORT-TWIG-OSS O,O,OE,ON,RAIDO RAD REID R"⟩,
    ⟨0x16b2, "RUNIC LETTER ", "KAUNA,CEN,KAUN K,G,ENG,GEBO GYFU G,GAR,WUNJO WYNN W,HAGLAZ H"⟩,
    ⟨0x16bb, "RUNIC LETTER ", "HAEGL H,LONG-BRANCH-HAGALL H,SHORT-TWIG-HAGALL H,NAUDIZ NYD NAUD N"⟩,
    ⟨0x16bf, "RUNIC LETTER ", "SHORT-TWIG-NAUD N,DOTTED-N,ISAZ IS ISS I,E,JERAN J"⟩,
    ⟨0x16c4, "RUNIC LETTER ", "GER,LONG-BRANCH-AR AE,SHORT-TWIG-AR A,IWAZ EOH,PERTHO PEORTH P"⟩,
    ⟨0x16c9, "RUNIC LETTER ", "ALGIZ EOLHX,SOWILO S,SIGEL LONG-BRANCH-SOL S,SHORT-TWIG-SOL S"⟩,
    ⟨0x16cd, "RUNIC LETTER ", "C,Z,TIWAZ TIR TYR T,SHORT-TWIG-TYR T,D,BERKANAN BEORC BJARKAN B"⟩,
    ⟨0x16d3, "RUNIC LETTER ", "SHORT-TWIG-BJARKAN B,DOTTED-P,OPEN-P,EHWAZ EH E,MANNAZ MAN M"⟩,
    ⟨0x16d8, "RUNIC LETTER ", "LONG-BRANCH-MADR M,SHORT-TWIG-MADR M,LAUKAZ LAGU LOGR L"⟩,
    ⟨0x16db, "RUNIC LETTER ", "DOTTED-L,INGWAZ,ING,DAGAZ DAEG D,OTHALAN ETHEL O,EAR,IOR,CWEORTH"⟩,
    ⟨0x16e3, "RUNIC LETTER ", "CALC,CEALC,STAN,LONG-BRANCH-YR,SHORT-TWIG-YR,ICELANDIC-YR,Q,X"⟩,
    ⟨0x16eb, "RUNIC ", "SINGLE PUNCTUATION,MULTIPLE PUNCTUATION,CROSS PUNCTUATION,ARLAUG SYMBOL"⟩,
    ⟨0x16ef, "RUNIC ", "TVIMADUR SYMBOL,BELGTHOR SYMBOL,LETTER K,LETTER SH,LETTER OO"⟩,
    ⟨0x16f4, "RUNIC LETTER FRANKS CASKET ", "OS,IS,EH,AC,AESC"⟩,
    ⟨0x1700, "TAGALOG LETTER ", "A,I,U,KA,GA,NGA,TA,DA,NA,PA,BA,MA,YA,RA,LA,WA,SA,HA"⟩,
    ⟨0x1712, "TAGALOG ", "VOWEL SIGN I,VOWEL SIGN U,SIGN VIRAMA,SIGN PAMUDPOD"⟩,
    ⟨0x171f, "", "TAGALOG LETTER ARCHAIC RA"⟩,
    ⟨0x1720, "HANUNOO LETTER ", "A,I,U,KA,GA,NGA,TA,DA,NA,PA,BA,MA,YA,RA,LA,WA,SA,HA"⟩,
    ⟨0x1732, "HANUNOO ", "VOWEL SIGN I,VOWEL SIGN U,SIGN PAMUDPOD"⟩,
    ⟨0x1735, "PHILIPPINE ", "SINGLE PUNCTUATION,DOUBLE PUNCTUATION"⟩,
    ⟨0x1740, "BUHID LETTER ", "A,I,U,KA,GA,NGA,TA,DA,NA,PA,BA,MA,YA,RA,LA,WA,SA,HA"⟩,
    ⟨0x1752, "BUHID VOWEL SIGN ", "I,U"⟩,
    ⟨0x1760, "TAGBANWA LETTER ", "A,I,U,KA,GA,NGA,TA,DA,NA,PA,BA,MA,YA,,LA,WA,SA"⟩,
    ⟨0x1772, "TAGBANWA VOWEL SIGN ", "I,U"⟩,
    ⟨0x1780, "KHMER LETTER ", "KA,KHA,KO,KHO,NGO,CA,CHA,CO,CHO,NYO,DA,TTHA,DO,TTHO,NNO"⟩,
    ⟨0x178f, "KHMER LETTER ", "TA,THA,TO,THO,NO,BA,PHA,PO,PHO,MO,YO,RO,LO,VO,SHA,SSO,SA,HA,LA,QA"⟩,
    ⟨0x17a3, "KHMER INDEPENDENT VOWEL ", "QAQ,QAA,QI,QII,QU,QUK,QUU"⟩,
    ⟨0x17aa, "KHMER INDEPENDENT VOWEL ", "QUUV,RY,RYY,LY,LYY,QE,QAI,QOO TYPE ONE,QOO TYPE TWO,QAU"⟩,
    ⟨0x17b4, "KHMER VOWEL INHERENT ", "AQ,AA"⟩,
    ⟨0x17b6, "KHMER VOWEL SIGN ", "AA,I,II,Y,YY,U,UU,UA,OE,YA,IE,E,AE,AI,OO,AU"⟩,
    ⟨0x17c6, "KHMER SIGN ", "NIKAHIT,REAHMUK,YUUKALEAPINTU,MUUSIKATOAN,TRIISAP,BANTOC,ROBAT"⟩,
    ⟨0x17cd, "KHMER SIGN ", "TOANDAKHIAT,KAKABAT,AHSDA,SAMYOK SANNYA,VIRIAM,COENG,BATHAMASAT"⟩,
    ⟨0x17d4, "KHMER SIGN ", "KHAN,BARIYOOSAN,CAMNUC PII KUUH,LEK TOO,BEYYAL,PHNAEK MUAN,KOOMUUT"⟩,
    ⟨0x17db, "KHMER ", "CURRENCY SYMBOL RIEL,SIGN AVAKRAHASANYA,SIGN ATTHACAN"⟩,
    ⟨0x17e0, "KHMER DIGIT ", "ZERO,ONE,TWO,THREE,FOUR,FIVE,SIX,SEVEN,EIGHT,NINE"⟩,
    ⟨0x17f0, "KHMER SYMBOL LEK ATTAK ", "SON,MUOY,PII,BEI,BUON,PRAM"⟩,
    ⟨0x17f6, "KHMER SYMBOL LEK ATTAK PRAM-", "MUOY,PII,BEI,BUON"⟩,
    ⟨0x1800, "MONGOLIAN ", "BIRGA,ELLIPSIS,COMMA,FULL STOP,COLON,FOUR DOTS,TODO SOFT HYPHEN"⟩,
    ⟨0x1807, "MONGOLIAN ", "SIBE SYLLABLE BOUNDARY MARKER,MANCHU COMMA,MANCHU FULL STOP,NIRUGU"⟩,
    ⟨0x180b, "MONGOLIAN FREE VARIATION SELECTOR ", "ONE,TWO,THREE"⟩,
    ⟨0x180e, "MONGOLIAN ", "VOWEL SEPARATOR,FREE VARIATION SELECTOR FOUR"⟩,
    ⟨0x1810, "MONGOLIAN DIGIT ", "ZERO,ONE,TWO,THREE,FOUR,FIVE,SIX,SEVEN,EIGHT,NINE"⟩,
    ⟨0x1820, "MONGOLIAN LETTER ", "A,E,I,O,U,OE,UE,EE,NA,ANG,BA,PA,QA,GA,MA,LA,SA"⟩,
    ⟨0x1831, "MONGOLIAN LETTER ", "SHA,TA,DA,CHA,JA,YA,RA,WA,FA,KA,KHA,TSA,ZA,HAA,ZRA,LHA,ZHI,CHI"⟩,
    ⟨0x1843, "MONGOLIAN LETTER TODO ", "LONG VOWEL SIGN,E,I,O,U,OE,UE,ANG,BA"⟩,
    ⟨0x184c, "MONGOLIAN LETTER TODO ", "PA,QA,GA,MA,TA,DA,CHA,JA,TSA,YA,WA,KA,GAA,HAA,JIA,NIA,DZA"⟩,
    ⟨0x185d, "MONGOLIAN LETTER SIBE ", "E,I,IY,UE,U,ANG,KA,GA,HA,PA,SHA,TA,DA,JA,FA,GAA,HAA,TSA"⟩,
    ⟨0x186f, "MONGOLIAN LETTER ", "SIBE ZA,SIBE RAA,SIBE CHA,SIBE ZHA,MANCHU I"⟩,
    ⟨0x1874, "MONGOLIAN LETTER ", "MANCHU KA,MANCHU RA,MANCHU FA,MANCHU ZHA,CHA WITH TWO DOTS"⟩,
    ⟨0x1880, "MONGOLIAN LETTER ALI GALI ", "ANUSVARA ONE,VISARGA ONE,DAMARU"⟩,
    ⟨0x1883, "MONGOLIAN LETTER ALI GALI ", "UBADAMA,INVERTED UBADAMA,BALUDA,THREE BALUDA,A,I"⟩,
    ⟨0x1889, "MONGOLIAN LETTER ALI GALI ", "KA,NGA,CA,TTA,TTHA,DDA,NNA,TA,DA,PA,PHA,SSA,ZHA,ZA,AH"⟩,
    ⟨0x1898, "MONGOLIAN LETTER TODO ALI GALI ", "TA,ZHA"⟩,
    ⟨0x189a, "MONGOLIAN LETTER MANCHU ALI GALI ", "GHA,NGA,CA,JHA,TTA,DDHA,TA,DHA,SSA,CYA,ZHA,ZA"⟩,
    ⟨0x18a6, "MONGOLIAN LETTER ALI GALI HALF ", "U,YA"⟩,
    ⟨0x18a8, "MONGOLIAN LETTER ", "MANCHU ALI GALI BHA,ALI GALI DAGALGA,MANCHU ALI GALI LHA"⟩,
    ⟨0x18b0, "CANADIAN SYLLABICS ", "OY,AY,AAY,WAY,POY,PAY,PWOY,TAY,KAY,KWAY,MAY,NOY"⟩,
    ⟨0x18bc, "CANADIAN SYLLABICS ", "NAY,LAY,SOY,SAY,SHOY,SHAY,SHWOY,YOY,YAY,RAY,NWI,OJIBWAY NWI"⟩,
    ⟨0x18c8, "CANADIAN SYLLABICS ", "NWII,OJIBWAY NWII,NWO,OJIBWAY NWO,NWOO,OJIBWAY NWOO"⟩,
    ⟨0x18ce, "CANADIAN SYLLABICS ", "RWEE,RWI,RWII,RWO,RWOO,RWA,OJIBWAY P,OJIBWAY T,OJIBWAY K"⟩,
    ⟨0x18d7, "CANADIAN SYLLABICS ", "OJIBWAY C,OJIBWAY M,OJIBWAY N,OJIBWAY S,OJIBWAY SH,EASTERN W"⟩,
    ⟨0x18dd, "CANADIAN SYLLABICS ", "WESTERN W,FINAL SMALL RING,FINAL RAISED DOT,R-CREE RWE"⟩,
    ⟨0x18e1, "CANADIAN SYLLABICS ", "WEST-CREE LOO,WEST-CREE LAA,THWE,THWA,TTHWE,TTHOO,TTHAA"⟩,
    ⟨0x18e8, "CANADIAN SYLLABICS ", "TLHWE,TLHOO,SAYISI SHWE,SAYISI SHOO,SAYISI HOO,CARRIER GWU"⟩,
    ⟨0x18ee, "CANADIAN SYLLABICS ", "CARRIER DENE GEE,CARRIER GAA,CARRIER GWA,SAYISI JUU"⟩,
    ⟨0x18f2, "CANADIAN SYLLABICS ", "CARRIER JWA,BEAVER DENE L,BEAVER DENE R,CARRIER DENTAL S"⟩,
    ⟨0x1900, "", "LIMBU VOWEL-CARRIER LETTER"⟩,
    ⟨0x1901, "LIMBU LETTER ", "KA,KHA,GA,GHA,NGA,CA,CHA,JA,JHA,YAN,TA"⟩,
    ⟨0x190c, "LIMBU LETTER ", "THA,DA,DHA,NA,PA,PHA,BA,BHA,MA,YA,RA,LA,WA,SHA,SSA,SA,HA,GYAN,TRA"⟩,
    ⟨0x1920, "LIMBU VOWEL SIGN ", "A,I,U,EE,AI,OO,AU,E,O"⟩,
    ⟨0x1929, "LIMBU SUBJOINED LETTER ", "YA,RA,WA"⟩,
    ⟨0x1930, "LIMBU SMALL LETTER ", "KA,NGA,ANUSVARA,TA,NA,PA,MA,RA,LA"⟩,
    ⟨0x1939, "LIMBU SIGN ", "MUKPHRENG,KEMPHRENG,SA-I,,,,,LOO"⟩,
    ⟨0x1944, "LIMBU ", "EXCLAMATION MARK,QUESTION MARK"⟩,
    ⟨0x1946, "LIMBU DIGIT ", "ZERO,ONE,TWO,THREE,FOUR,FIVE,SIX,SEVEN,EIGHT,NINE"⟩,
    ⟨0x1950, "TAI LE LETTER ", "KA,XA,NGA,TSA,SA,YA,TA,THA,LA,PA,PHA,MA,FA,VA,HA,QA,KHA,TSHA,NA"⟩,
    ⟨0x1963, "TAI LE LETTER ", "A,I,EE,EH,U,OO,O,UE,E,AUE,AI,,,TONE-2,TONE-3,TONE-4,TONE-5,TONE-6"⟩,
    ⟨0x1980, "NEW TAI LUE LETTER ", "HIGH QA,LOW QA,HIGH KA,HIGH XA,HIGH NGA,LOW KA,LOW XA"⟩,
    ⟨0x1987, "NEW TAI LUE LETTER ", "LOW NGA,HIGH TSA,HIGH SA,HIGH YA,LOW TSA,LOW SA,LOW YA"⟩,
    ⟨0x198e, "NEW TAI LUE LETTER ", "HIGH TA,HIGH THA,HIGH NA,LOW TA,LOW THA,LOW NA,HIGH PA"⟩,
    ⟨0x1995, "NEW TAI LUE LETTER ", "HIGH PHA,HIGH MA,LOW PA,LOW PHA,LOW MA,HIGH FA,HIGH VA"⟩,
    ⟨0x199c, "NEW TAI LUE LETTER ", "HIGH LA,LOW FA,LOW VA,LOW LA,HIGH HA,HIGH DA,HIGH BA,LOW HA"⟩,
    ⟨0x19a4, "NEW TAI LUE LETTER ", "LOW DA,LOW BA,HIGH KVA,HIGH XVA,LOW KVA,LOW XVA,HIGH SUA"⟩,
    ⟨0x19ab, "NEW TAI LUE ", "LETTER LOW SUA,,,,,VOWEL SIGN VOWEL SHORTENER"⟩,
    ⟨0x19b1, "NEW TAI LUE VOWEL SIGN ", "AA,II,U,UU,E,AE,O,OA,UE,AY,AAY,UY,OY,OAY,UEY,IY"⟩,
    ⟨0x19c1, "NEW TAI LUE LETTER FINAL ", "V,NG,N,M,K,D,B"⟩,
    ⟨0x19c8, "NEW TAI LUE TONE MARK-", "1,2"⟩,
    ⟨0x19d0, "NEW TAI LUE DIGIT ", "ZERO,ONE,TWO,THREE,FOUR,FIVE,SIX,SEVEN,EIGHT,NINE"⟩,
    ⟨0x19da, "NEW TAI LUE ", "THAM DIGIT ONE,,,,SIGN LAE,SIGN LAEV"⟩,
    ⟨0x19e0, "KHMER SYMBOL ", "PATHAMASAT,MUOY KOET,PII KOET,BEI KOET,BUON KOET,PRAM KOET"⟩,
    ⟨0x19e6, "KHMER SYMBOL ", "PRAM-MUOY KOET,PRAM-PII KOET,PRAM-BEI KOET,PRAM-BUON KOET,DAP KOET"⟩,
    ⟨0x19eb, "KHMER SYMBOL DAP-", "MUOY KOET,PII KOET,BEI KOET,BUON KOET,PRAM KOET"⟩,
    ⟨0x19f0, "KHMER SYMBOL ", "TUTEYASAT,MUOY ROC,PII ROC,BEI ROC,BUON ROC,PRAM ROC"⟩,
    ⟨0x19f6, "KHMER SYMBOL ", "PRAM-MUOY ROC,PRAM-PII ROC,PRAM-BEI ROC,PRAM-BUON ROC,DAP ROC"⟩,
    ⟨0x19fb, "KHMER SYMBOL DAP-", "MUOY ROC,PII ROC,BEI ROC,BUON ROC,PRAM ROC"⟩,
    ⟨0x1a00, "BUGINESE LETTER ", "KA,GA,NGA,NGKA"⟩,
    ⟨0x1a04, "BUGINESE LETTER ", "PA,BA,MA,MPA,TA,DA,NA,NRA,CA,JA,NYA,NYCA,YA,RA,LA,VA,SA,A,HA"⟩,
    ⟨0x1a17, "BUGINESE VOWEL SIGN ", "I,U,E,O,AE"⟩,
    ⟨0x1a1e, "BUGINESE ", "PALLAWA,END OF SECTION"⟩,
    ⟨0x1a20, "TAI THAM LETTER ", "HIGH KA,HIGH KHA,HIGH KXA,LOW KA,LOW KXA,LOW KHA,NGA,HIGH CA"⟩,
    ⟨0x1a28, "TAI THAM LETTER ", "HIGH CHA,LOW CA,LOW SA,LOW CHA,NYA,RATA,HIGH RATHA,DA,LOW RATHA"⟩,
    ⟨0x1a31, "TAI THAM LETTER ", "RANA,HIGH TA,HIGH THA,LOW TA,LOW THA,NA,BA,HIGH PA,HIGH PHA"⟩,
    ⟨0x1a3a, "TAI THAM LETTER ", "HIGH FA,LOW PA,LOW FA,LOW PHA,MA,LOW YA,HIGH YA,RA,RUE,LA,LUE"⟩,
    ⟨0x1a45, "TAI THAM LETTER ", "WA,HIGH SHA,HIGH SSA,HIGH SA,HIGH HA,LLA,A,LOW HA,I,II,U,UU,EE"⟩,
    ⟨0x1a52, "TAI THAM ", "LETTER OO,LETTER LAE,LETTER GREAT SA,CONSONANT SIGN MEDIAL RA"⟩,
    ⟨0x1a56, "TAI THAM ", "CONSONANT SIGN MEDIAL LA,CONSONANT SIGN LA TANG LAI,SIGN MAI KANG LAI"⟩,
    ⟨0x1a59, "TAI THAM CONSONANT SIGN ", "FINAL NGA,LOW PA,HIGH RATHA OR LOW PA,MA,BA,SA"⟩,
    ⟨0x1a60, "", "TAI THAM SIGN SAKOT"⟩,
    ⟨0x1a61, "TAI THAM VOWEL SIGN ", "A,MAI SAT,AA,TALL AA,I,II,UE,UUE,U,UU,O,OA BELOW,OY,E,AE,OO"⟩,
    ⟨0x1a71, "TAI THAM ", "VOWEL SIGN AI,VOWEL SIGN THAM AI,VOWEL SIGN OA ABOVE,SIGN MAI KANG"⟩,
    ⟨0x1a75, "TAI THAM SIGN ", "TONE-1,TONE-2,KHUEN TONE-3,KHUEN TONE-4,KHUEN TONE-5,RA HAAM"⟩,
    ⟨0x1a7b, "TAI THAM ", "SIGN MAI SAM,SIGN KHUEN-LUE KARAN,,,COMBINING CRYPTOGRAMMIC DOT"⟩,
    ⟨0x1a80, "TAI THAM HORA DIGIT ", "ZERO,ONE,TWO,THREE,FOUR,FIVE,SIX,SEVEN,EIGHT,NINE"⟩,
    ⟨0x1a90, "TAI THAM THAM DIGIT ", "ZERO,ONE,TWO,THREE,FOUR,FIVE,SIX,SEVEN,EIGHT,NINE"⟩,
    ⟨0x1aa0, "TAI THAM SIGN ", "WIANG,WIANGWAAK,SAWAN,KEOW,HOY,DOKMAI,REVERSED ROTATED RANA"⟩,
    ⟨0x1aa7, "TAI THAM SIGN ", "MAI YAMOK,KAAN,KAANKUU,SATKAAN,SATKAANKUU,HANG,CAANG"⟩,
    ⟨0x1ab0, "COMBINING ", "DOUBLED CIRCUMFLEX ACCENT,DIAERESIS-RING,INFINITY,DOWNWARDS ARROW"⟩,
    ⟨0x1ab4, "COMBINING ", "TRIPLE DOT,X-X BELOW,WIGGLY LINE BELOW,OPEN MARK BELOW"⟩,
    ⟨0x1ab8, "COMBINING ", "DOUBLE OPEN MARK BELOW,LIGHT CENTRALIZATION STROKE BELOW"⟩,
    ⟨0x1aba, "COMBINING ", "STRONG CENTRALIZATION STROKE BELOW,PARENTHESES ABOVE"⟩,
    ⟨0x1abc, "COMBINING ", "DOUBLE PARENTHESES ABOVE,PARENTHESES BELOW,PARENTHESES OVERLAY"⟩,
    ⟨0x1abf, "COMBINING LATIN SMALL LETTER ", "W BELOW,TURNED W BELOW"⟩,
    ⟨0x1ac1, "", "COMBINING LEFT PARENTHESIS ABOVE LEFT"⟩,
    ⟨0x1ac2, "COMBINING ", "RIGHT PARENTHESIS ABOVE RIGHT,LEFT PARENTHESIS BELOW LEFT"⟩,
    ⟨0x1ac4, "COMBINING ", "RIGHT PARENTHESIS BELOW RIGHT,SQUARE BRACKETS ABOVE"⟩,
    ⟨0x1ac6, "COMBINING ", "NUMBER SIGN ABOVE,INVERTED DOUBLE ARCH ABOVE,PLUS SIGN ABOVE"⟩,
    ⟨0x1ac9, "COMBINING ", "DOUBLE PLUS SIGN ABOVE,DOUBLE PLUS SIGN BELOW,TRIPLE ACUTE ACCENT"⟩,
    ⟨0x1acc, "COMBINING LATIN SMALL LETTER INSULAR ", "G,R,T"⟩,
    ⟨0x1b00, "BALINESE SIGN ", "ULU RICEM,ULU CANDRA,CECEK,SURANG,BISAH"⟩,
    ⟨0x1b05, "BALINESE LETTER ", "AKARA,AKARA TEDUNG,IKARA,IKARA TEDUNG,UKARA,UKARA TEDUNG"⟩,
    ⟨0x1b0b, "BALINESE LETTER ", "RA REPA,RA REPA TEDUNG,LA LENGA,LA LENGA TEDUNG,EKARA,AIKARA"⟩,
    ⟨0x1b11, "BALINESE LETTER ", "OKARA,OKARA TEDUNG,KA,KA MAHAPRANA,GA,GA GORA,NGA,CA,CA LACA"⟩,
    ⟨0x1b1a, "BALINESE LETTER ", "JA,JA JERA,NYA,TA LATIK,TA MURDA MAHAPRANA,DA MURDA ALPAPRANA"⟩,
    ⟨0x1b20, "BALINESE LETTER ", "DA MURDA MAHAPRANA,NA RAMBAT,TA,TA TAWA,DA,DA MADU,NA"⟩,
    ⟨0x1b27, "BALINESE LETTER ", "PA,PA KAPAL,BA,BA KEMBANG,MA,YA,RA,LA,WA,SA SAGA,SA SAPA,SA,HA"⟩,
    ⟨0x1b34, "", "BALINESE SIGN REREKAN"⟩,
    ⟨0x1b35, "BALINESE VOWEL SIGN ", "TEDUNG,ULU,ULU SARI,SUKU,SUKU ILUT,RA REPA"⟩,
    ⟨0x1b3b, "BALINESE VOWEL SIGN ", "RA REPA TEDUNG,LA LENGA,LA LENGA TEDUNG,TALING,TALING REPA"⟩,
    ⟨0x1b40, "BALINESE VOWEL SIGN ", "TALING TEDUNG,TALING REPA TEDUNG,PEPET,PEPET TEDUNG"⟩,
    ⟨0x1b44, "BALINESE ", "ADEG ADEG,LETTER KAF SASAK,LETTER KHOT SASAK,LETTER TZIR SASAK"⟩,
    ⟨0x1b48, "BALINESE LETTER ", "EF SASAK,VE SASAK,ZAL SASAK,ASYURA SASAK,ARCHAIC JNYA"⟩,
    ⟨0x1b50, "BALINESE DIGIT ", "ZERO,ONE,TWO,THREE,FOUR,FIVE,SIX,SEVEN,EIGHT,NINE"⟩,
    ⟨0x1b5a, "BALINESE ", "PANTI,PAMADA,WINDU,CARIK PAMUNGKAH,CARIK SIKI,CARIK PAREREN,PAMENENG"⟩,
    ⟨0x1b61, "BALINESE MUSICAL SYMBOL ", "DONG,DENG,DUNG,DANG,DANG SURANG,DING,DAENG"⟩,
    ⟨0x1b68, "BALINESE MUSICAL SYMBOL ", "DEUNG,DAING,DANG GEDE,COMBINING TEGEH,COMBINING ENDEP"⟩,
    ⟨0x1b6d, "BALINESE MUSICAL SYMBOL COMBINING ", "KEMPUL,KEMPLI,JEGOGAN,KEMPUL WITH JEGOGAN"⟩,
    ⟨0x1b71, "BALINESE MUSICAL SYMBOL COMBINING ", "KEMPLI WITH JEGOGAN,BENDE,GONG"⟩,
    ⟨0x1b74, "BALINESE MUSICAL SYMBOL RIGHT-HAND ", "OPEN DUG,OPEN DAG,CLOSED TUK,CLOSED TAK"⟩,
    ⟨0x1b78, "BALINESE MUSICAL SYMBOL LEFT-HAND ", "OPEN PANG,OPEN PUNG,CLOSED PLAK,CLOSED PLUK"⟩,
    ⟨0x1b7c, "BALINESE ", "MUSICAL SYMBOL LEFT-HAND OPEN PING,PANTI LANTANG,PAMADA LANTANG"⟩,
    ⟨0x1b80, "SUNDANESE SIGN ", "PANYECEK,PANGLAYAR,PANGWISAD"⟩,
    ⟨0x1b83, "SUNDANESE LETTER ", "A,I,U,AE,O,E,EU,KA,QA,GA"⟩,
    ⟨0x1b8d, "SUNDANESE LETTER ", "NGA,CA,JA,ZA,NYA,TA,DA,NA,PA,FA,VA,BA,MA,YA,RA,LA,WA,SA,XA,HA"⟩,
    ⟨0x1ba1, "SUNDANESE CONSONANT SIGN ", "PAMINGKAL,PANYAKRA,PANYIKU"⟩,
    ⟨0x1ba4, "SUNDANESE VOWEL SIGN ", "PANGHULU,PANYUKU,PANAELAENG,PANOLONG,PAMEPET,PANEULEUNG"⟩,
    ⟨0x1baa, "SUNDANESE ", "SIGN PAMAAEH,SIGN VIRAMA,CONSONANT SIGN PASANGAN MA"⟩,
    ⟨0x1bad, "SUNDANESE ", "CONSONANT SIGN PASANGAN WA,LETTER KHA,LETTER SYA"⟩,
    ⟨0x1bb0, "SUNDANESE DIGIT ", "ZERO,ONE,TWO,THREE,FOUR,FIVE,SIX,SEVEN,EIGHT,NINE"⟩,
    ⟨0x1bba, "SUNDANESE ", "AVAGRAHA,LETTER REU,LETTER LEU,LETTER BHA,LETTER FINAL K"⟩,
    ⟨0x1bbf, "", "SUNDANESE LETTER FINAL M,BATAK LETTER A,BATAK LETTER SIMALUNGUN A"⟩,
    ⟨0x1bc2, "BATAK LETTER ", "HA,SIMALUNGUN HA,MANDAILING HA,BA,KARO BA,PA,SIMALUNGUN PA"⟩,
    ⟨0x1bc9, "BATAK LETTER ", "NA,MANDAILING NA,WA,SIMALUNGUN WA,PAKPAK WA,GA,SIMALUNGUN GA"⟩,
    ⟨0x1bd0, "BATAK LETTER ", "JA,DA,RA,SIMALUNGUN RA,MA,SIMALUNGUN MA,SOUTHERN TA,NORTHERN TA,SA"⟩,
    ⟨0x1bd9, "BATAK LETTER ", "SIMALUNGUN SA,MANDAILING SA,YA,SIMALUNGUN YA,NGA,LA,SIMALUNGUN LA"⟩,
    ⟨0x1be0, "BATAK ", "LETTER NYA,LETTER CA,LETTER NDA,LETTER MBA,LETTER I,LETTER U,SIGN TOMPI"⟩,
    ⟨0x1be7, "BATAK VOWEL SIGN ", "E,PAKPAK E,EE,I,KARO I,O,KARO O,U,U FOR SIMALUNGUN SA"⟩,
    ⟨0x1bf0, "BATAK ", "CONSONANT SIGN NG,CONSONANT SIGN H,PANGOLAT,PANONGONAN"⟩,
    ⟨0x1bfc, "BATAK SYMBOL BINDU ", "NA METEK,PINARBORAS,JUDUL,PANGOLAT"⟩,
    ⟨0x1c00, "LEPCHA LETTER ", "KA,KLA,KHA,GA,GLA,NGA,CA,CHA,JA,NYA,TA,THA,DA,NA,PA,PLA,PHA"⟩,
    ⟨0x1c11, "LEPCHA LETTER ", "FA,FLA,BA,BLA,MA,MLA,TSA,TSHA,DZA,YA,RA,LA,HA,HLA,VA,SA,SHA,WA,A"⟩,
    ⟨0x1c24, "LEPCHA SUBJOINED LETTER ", "YA,RA"⟩,
    ⟨0x1c26, "LEPCHA VOWEL SIGN ", "AA,I,O,OO,U,UU,E"⟩,
    ⟨0x1c2d, "LEPCHA CONSONANT SIGN ", "K,M,L,N,P,R,T,NYIN-DO,KANG"⟩,
    ⟨0x1c36, "LEPCHA SIGN ", "RAN,NUKTA"⟩,
    ⟨0x1c3b, "LEPCHA PUNCTUATION ", "TA-ROL,NYET THYOOM TA-ROL,CER-WA,TSHOOK CER-WA,TSHOOK"⟩,
    ⟨0x1c40, "LEPCHA DIGIT ", "ZERO,ONE,TWO,THREE,FOUR,FIVE,SIX,SEVEN,EIGHT,NINE"⟩,
    ⟨0x1c4d, "LEPCHA LETTER ", "TTA,TTHA,DDA"⟩,
    ⟨0x1c50, "OL CHIKI DIGIT ", "ZERO,ONE,TWO,THREE,FOUR,FIVE,SIX,SEVEN,EIGHT,NINE"⟩,
    ⟨0x1c5a, "OL CHIKI LETTER ", "LA,AT,AG,ANG,AL,LAA,AAK,AAJ,AAM,AAW,LI"⟩,
    ⟨0x1c65, "OL CHIKI LETTER ", "IS,IH,INY,IR,LU,UC,UD,UNN,UY,LE,EP,EDD,EN,ERR,LO,OTT,OB,OV,OH"⟩,
    ⟨0x1c78, "OL CHIKI ", "MU TTUDDAG,GAAHLAA TTUDDAAG,MU-GAAHLAA TTUDDAAG,RELAA,PHAARKAA,AHAD"⟩,
    ⟨0x1c7e, "OL CHIKI PUNCTUATION ", "MUCAAD,DOUBLE MUCAAD"⟩,
    ⟨0x1c80, "CYRILLIC SMALL LETTER ", "ROUNDED VE,LONG-LEGGED DE,NARROW O,WIDE ES,TALL TE"⟩,
    ⟨0x1c85, "CYRILLIC SMALL LETTER ", "THREE-LEGGED TE,TALL HARD SIGN,TALL YAT,UNBLENDED UK"⟩,
    ⟨0x1c90, "GEORGIAN MTAVRULI CAPITAL LETTER ", "AN,BAN,GAN,DON,EN,VIN,ZEN,TAN,IN,KAN,LAS,MAN"⟩,
    ⟨0x1c9c, "GEORGIAN MTAVRULI CAPITAL LETTER ", "NAR,ON,PAR,ZHAR,RAE,SAN,TAR,UN,PHAR,KHAR,GHAN"⟩,
    ⟨0x1ca7, "GEORGIAN MTAVRULI CAPITAL LETTER ", "QAR,SHIN,CHIN,CAN,JIL,CIL,CHAR,XAN,JHAN,HAE"⟩,
    ⟨0x1cb1, "GEORGIAN MTAVRULI CAPITAL LETTER ", "HE,HIE,WE,HAR,HOE,FI,YN,ELIFI,TURNED GAN,AIN"⟩,
    ⟨0x1cbd, "GEORGIAN MTAVRULI CAPITAL LETTER ", "AEN,HARD SIGN,LABIAL SIGN"⟩,
    ⟨0x1cc0, "SUNDANESE PUNCTUATION BINDU ", "SURYA,PANGLONG,PURNAMA"⟩,
    ⟨0x1cc3, "SUNDANESE PUNCTUATION BINDU ", "CAKRA,LEU SATANGA,KA SATANGA,DA SATANGA,BA SATANGA"⟩,
    ⟨0x1cd0, "VEDIC TONE ", "KARSHANA,SHARA,PRENKHA"⟩,
    ⟨0x1cd3, "VEDIC SIGN ", "NIHSHVASA,YAJURVEDIC MIDLINE SVARITA"⟩,
    ⟨0x1cd5, "VEDIC TONE YAJURVEDIC ", "AGGRAVATED INDEPENDENT SVARITA,INDEPENDENT SVARITA"⟩,
    ⟨0x1cd7, "VEDIC TONE ", "YAJURVEDIC KATHAKA INDEPENDENT SVARITA,CANDRA BELOW"⟩,
    ⟨0x1cd9, "VEDIC TONE ", "YAJURVEDIC KATHAKA INDEPENDENT SVARITA SCHROEDER,DOUBLE SVARITA"⟩,
    ⟨0x1cdb, "VEDIC TONE ", "TRIPLE SVARITA,KATHAKA ANUDATTA,DOT BELOW,TWO DOTS BELOW"⟩,
    ⟨0x1cdf, "VEDIC TONE ", "THREE DOTS BELOW,RIGVEDIC KASHMIRI INDEPENDENT SVARITA"⟩,
    ⟨0x1ce1, "", "VEDIC TONE ATHARVAVEDIC INDEPENDENT SVARITA"⟩,
    ⟨0x1ce2, "VEDIC SIGN VISARGA ", "SVARITA,UDATTA"⟩,
    ⟨0x1ce4, "VEDIC SIGN ", "REVERSED VISARGA UDATTA,VISARGA ANUDATTA,REVERSED VISARGA ANUDATTA"⟩,
    ⟨0x1ce7, "VEDIC SIGN VISARGA ", "UDATTA WITH TAIL,ANUDATTA WITH TAIL"⟩,
    ⟨0x1ce9, "VEDIC SIGN ANUSVARA ", "ANTARGOMUKHA,BAHIRGOMUKHA,VAMAGOMUKHA,VAMAGOMUKHA WITH TAIL"⟩,
    ⟨0x1ced, "VEDIC SIGN ", "TIRYAK,HEXIFORM LONG ANUSVARA,LONG ANUSVARA,RTHANG LONG ANUSVARA"⟩,
    ⟨0x1cf1, "VEDIC SIGN ", "ANUSVARA UBHAYATO MUKHA,ARDHAVISARGA,ROTATED ARDHAVISARGA"⟩,
    ⟨0x1cf4, "VEDIC ", "TONE CANDRA ABOVE,SIGN JIHVAMULIYA,SIGN UPADHMANIYA,SIGN ATIKRAMA"⟩,
    ⟨0x1cf8, "VEDIC ", "TONE RING ABOVE,TONE DOUBLE RING ABOVE,SIGN DOUBLE ANUSVARA ANTARGOMUKHA"⟩,
    ⟨0x1d00, "LATIN ", "LETTER SMALL CAPITAL A,LETTER SMALL CAPITAL AE,SMALL LETTER TURNED AE"⟩,
    ⟨0x1d03, "LATIN LETTER SMALL CAPITAL ", "BARRED B,C,D,ETH,E"⟩,
    ⟨0x1d08, "LATIN SMALL LETTER TURNED ", "OPEN E,I"⟩,
    ⟨0x1d0a, "LATIN LETTER SMALL CAPITAL ", "J,K,L WITH STROKE,M,REVERSED N,O,OPEN O"⟩,
    ⟨0x1d11, "LATIN SMALL LETTER SIDEWAYS ", "O,OPEN O,O WITH STROKE"⟩,
    ⟨0x1d14, "LATIN ", "SMALL LETTER TURNED OE,LETTER SMALL CAPITAL OU"⟩,
    ⟨0x1d16, "LATIN SMALL LETTER ", "TOP HALF O,BOTTOM HALF O"⟩,
    ⟨0x1d18, "LATIN LETTER SMALL CAPITAL ", "P,REVERSED R,TURNED R,T,U"⟩,
    ⟨0x1d1d, "LATIN SMALL LETTER SIDEWAYS ", "U,DIAERESIZED U,TURNED M"⟩,
    ⟨0x1d20, "LATIN LETTER SMALL CAPITAL ", "V,W,Z,EZH"⟩,
    ⟨0x1d24, "LATIN LETTER ", "VOICED LARYNGEAL SPIRANT,AIN"⟩,
    ⟨0x1d26, "GREEK LETTER SMALL CAPITAL ", "GAMMA,LAMDA,PI,RHO,PSI"⟩,
    ⟨0x1d2b, "", "CYRILLIC LETTER SMALL CAPITAL EL"⟩,
    ⟨0x1d2c, "MODIFIER LETTER CAPITAL ", "A,AE,B,BARRED B,D"⟩,
    ⟨0x1d31, "MODIFIER LETTER CAPITAL ", "E,REVERSED E,G,H,I,J,K,L,M,N,REVERSED N,O,OU,P,R,T,U,W"⟩,
    ⟨0x1d43, "MODIFIER LETTER SMALL ", "A,TURNED A,ALPHA"⟩,
    ⟨0x1d46, "MODIFIER LETTER SMALL ", "TURNED AE,B,D,E,SCHWA,OPEN E,TURNED OPEN E,G,TURNED I,K"⟩,
    ⟨0x1d50, "MODIFIER LETTER SMALL ", "M,ENG,O,OPEN O,TOP HALF O,BOTTOM HALF O,P,T,U,SIDEWAYS U"⟩,
    ⟨0x1d5a, "MODIFIER LETTER SMALL ", "TURNED M,V,AIN,BETA,GREEK GAMMA,DELTA,GREEK PHI,CHI"⟩,
    ⟨0x1d62, "LATIN SUBSCRIPT SMALL LETTER ", "I,R,U,V"⟩,
    ⟨0x1d66, "GREEK SUBSCRIPT SMALL LETTER ", "BETA,GAMMA,RHO,PHI,CHI"⟩,
    ⟨0x1d6b, "LATIN SMALL LETTER ", "UE,B WITH MIDDLE TILDE"⟩,
    ⟨0x1d6d, "LATIN SMALL LETTER ", "D WITH MIDDLE TILDE,F WITH MIDDLE TILDE,M WITH MIDDLE TILDE"⟩,
    ⟨0x1d70, "LATIN SMALL LETTER ", "N WITH MIDDLE TILDE,P WITH MIDDLE TILDE,R WITH MIDDLE TILDE"⟩,
    ⟨0x1d73, "LATIN SMALL LETTER ", "R WITH FISHHOOK AND MIDDLE TILDE,S WITH MIDDLE TILDE"⟩,
    ⟨0x1d75, "LATIN SMALL LETTER ", "T WITH MIDDLE TILDE,Z WITH MIDDLE TILDE,TURNED G"⟩,
    ⟨0x1d78, "", "MODIFIER LETTER CYRILLIC EN"⟩,
    ⟨0x1d79, "LATIN SMALL LETTER ", "INSULAR G,TH WITH STRIKETHROUGH"⟩,
    ⟨0x1d7b, "LATIN SMALL ", "CAPITAL LETTER I WITH STROKE,LETTER IOTA WITH STROKE"⟩,
    ⟨0x1d7d, "LATIN SMALL ", "LETTER P WITH STROKE,CAPITAL LETTER U WITH STROKE"⟩,
    ⟨0x1d7f, "LATIN SMALL LETTER ", "UPSILON WITH STROKE,B WITH PALATAL HOOK"⟩,
    ⟨0x1d81, "LATIN SMALL LETTER ", "D WITH PALATAL HOOK,F WITH PALATAL HOOK,G WITH PALATAL HOOK"⟩,
    ⟨0x1d84, "LATIN SMALL LETTER ", "K WITH PALATAL HOOK,L WITH PALATAL HOOK,M WITH PALATAL HOOK"⟩,
    ⟨0x1d87, "LATIN SMALL LETTER ", "N WITH PALATAL HOOK,P WITH PALATAL HOOK,R WITH PALATAL HOOK"⟩,
    ⟨0x1d8a, "LATIN SMALL LETTER ", "S WITH PALATAL HOOK,ESH WITH PALATAL HOOK"⟩,
    ⟨0x1d8c, "LATIN SMALL LETTER ", "V WITH PALATAL HOOK,X WITH PALATAL HOOK"⟩,
    ⟨0x1d8e, "LATIN SMALL LETTER ", "Z WITH PALATAL HOOK,A WITH RETROFLEX HOOK"⟩,
    ⟨0x1d90, "LATIN SMALL LETTER ", "ALPHA WITH RETROFLEX HOOK,D WITH HOOK AND TAIL"⟩,
    ⟨0x1d92, "LATIN SMALL LETTER ", "E WITH RETROFLEX HOOK,OPEN E WITH RETROFLEX HOOK"⟩,
    ⟨0x1d94, "", "LATIN SMALL LETTER REVERSED OPEN E WITH RETROFLEX HOOK"⟩,
    ⟨0x1d95, "LATIN SMALL LETTER ", "SCHWA WITH RETROFLEX HOOK,I WITH RETROFLEX HOOK"⟩,
    ⟨0x1d97, "LATIN SMALL LETTER ", "OPEN O WITH RETROFLEX HOOK,ESH WITH RETROFLEX HOOK"⟩,
    ⟨0x1d99, "LATIN SMALL LETTER ", "U WITH RETROFLEX HOOK,EZH WITH RETROFLEX HOOK"⟩,
    ⟨0x1d9b, "MODIFIER LETTER SMALL ", "TURNED ALPHA,C,C WITH CURL,ETH,REVERSED OPEN E"⟩,
    ⟨0x1da0, "MODIFIER LETTER SMALL ", "F,DOTLESS J WITH STROKE,SCRIPT G,TURNED H,I WITH STROKE"⟩,
    ⟨0x1da5, "MODIFIER LETTER SMALL ", "IOTA,CAPITAL I,CAPITAL I WITH STROKE,J WITH CROSSED-TAIL"⟩,
    ⟨0x1da9, "MODIFIER LETTER SMALL L WITH ", "RETROFLEX HOOK,PALATAL HOOK"⟩,
    ⟨0x1dab, "MODIFIER LETTER SMALL ", "CAPITAL L,M WITH HOOK,TURNED M WITH LONG LEG"⟩,
    ⟨0x1dae, "MODIFIER LETTER SMALL N WITH ", "LEFT HOOK,RETROFLEX HOOK"⟩,
    ⟨0x1db0, "MODIFIER LETTER SMALL ", "CAPITAL N,BARRED O,PHI,S WITH HOOK,ESH"⟩,
    ⟨0x1db5, "MODIFIER LETTER SMALL ", "T WITH PALATAL HOOK,U BAR,UPSILON,CAPITAL U,V WITH HOOK"⟩,
    ⟨0x1dba, "MODIFIER LETTER SMALL ", "TURNED V,Z,Z WITH RETROFLEX HOOK,Z WITH CURL,EZH,THETA"⟩,
    ⟨0x1dc0, "COMBINING ", "DOTTED GRAVE ACCENT,DOTTED ACUTE ACCENT,SNAKE BELOW,SUSPENSION MARK"⟩,
    ⟨0x1dc4, "COMBINING ", "MACRON-ACUTE,GRAVE-MACRON,MACRON-GRAVE,ACUTE-MACRON,GRAVE-ACUTE-GRAVE"⟩,
    ⟨0x1dc9, "COMBINING ", "ACUTE-GRAVE-ACUTE,LATIN SMALL LETTER R BELOW,BREVE-MACRON"⟩,
    ⟨0x1dcc, "COMBINING ", "MACRON-BREVE,DOUBLE CIRCUMFLEX ABOVE,OGONEK ABOVE,ZIGZAG BELOW"⟩,
    ⟨0x1dd0, "COMBINING ", "IS BELOW,UR ABOVE,US ABOVE,LATIN SMALL LETTER FLATTENED OPEN A ABOVE"⟩,
    ⟨0x1dd4, "COMBINING LATIN SMALL LETTER ", "AE,AO,AV,C CEDILLA,INSULAR D,ETH,G"⟩,
    ⟨0x1ddb, "COMBINING LATIN ", "LETTER SMALL CAPITAL G,SMALL LETTER K,SMALL LETTER L"⟩,
    ⟨0x1dde, "COMBINING LATIN ", "LETTER SMALL CAPITAL L,LETTER SMALL CAPITAL M,SMALL LETTER N"⟩,
    ⟨0x1de1, "COMBINING LATIN LETTER SMALL CAPITAL ", "N,R"⟩,
    ⟨0x1de3, "COMBINING LATIN SMALL LETTER ", "R ROTUNDA,S,LONG S"⟩,
    ⟨0x1de6, "COMBINING LATIN SMALL LETTER ", "Z,ALPHA,B,BETA,SCHWA,F,L WITH DOUBLE MIDDLE TILDE"⟩,
    ⟨0x1ded, "", "COMBINING LATIN SMALL LETTER O WITH LIGHT CENTRALIZATION STROKE"⟩,
    ⟨0x1dee, "COMBINING LATIN SMALL LETTER ", "P,ESH,U WITH LIGHT CENTRALIZATION STROKE,W"⟩,
    ⟨0x1df2, "COMBINING LATIN SMALL LETTER ", "A WITH DIAERESIS,O WITH DIAERESIS,U WITH DIAERESIS"⟩,
    ⟨0x1df5, "COMBINING ", "UP TACK ABOVE,KAVYKA ABOVE RIGHT,KAVYKA ABOVE LEFT"⟩,
    ⟨0x1df8, "COMBINING ", "DOT ABOVE LEFT,WIDE INVERTED BRIDGE BELOW,DOT BELOW LEFT"⟩,
    ⟨0x1dfb, "COMBINING ", "DELETION MARK,DOUBLE INVERTED BREVE BELOW,ALMOST EQUAL TO BELOW"⟩,
    ⟨0x1dfe, "COMBINING ", "LEFT ARROWHEAD ABOVE,RIGHT ARROWHEAD AND DOWN ARROWHEAD BELOW"⟩,
    ⟨0x1e00, "", "LATIN CAPITAL LETTER A WITH RING BELOW"⟩,
    ⟨0x1e01, "LATIN ", "SMALL LETTER A WITH RING BELOW,CAPITAL LETTER B WITH DOT ABOVE"⟩,
    ⟨0x1e03, "LATIN ", "SMALL LETTER B WITH DOT ABOVE,CAPITAL LETTER B WITH DOT BELOW"⟩,
    ⟨0x1e05, "LATIN ", "SMALL LETTER B WITH DOT BELOW,CAPITAL LETTER B WITH LINE BELOW"⟩,
    ⟨0x1e07, "LATIN ", "SMALL LETTER B WITH LINE BELOW,CAPITAL LETTER C WITH CEDILLA AND ACUTE"⟩,
    ⟨0x1e09, "LATIN ", "SMALL LETTER C WITH CEDILLA AND ACUTE,CAPITAL LETTER D WITH DOT ABOVE"⟩,
    ⟨0x1e0b, "LATIN ", "SMALL LETTER D WITH DOT ABOVE,CAPITAL LETTER D WITH DOT BELOW"⟩,
    ⟨0x1e0d, "LATIN ", "SMALL LETTER D WITH DOT BELOW,CAPITAL LETTER D WITH LINE BELOW"⟩,
    ⟨0x1e0f, "LATIN ", "SMALL LETTER D WITH LINE BELOW,CAPITAL LETTER D WITH CEDILLA"⟩,
    ⟨0x1e11, "LATIN ", "SMALL LETTER D WITH CEDILLA,CAPITAL LETTER D WITH CIRCUMFLEX BELOW"⟩,
    ⟨0x1e13, "", "LATIN SMALL LETTER D WITH CIRCUMFLEX BELOW"⟩,
    ⟨0x1e14, "", "LATIN CAPITAL LETTER E WITH MACRON AND GRAVE"⟩,
    ⟨0x1e15, "", "LATIN SMALL LETTER E WITH MACRON AND GRAVE"⟩,
    ⟨0x1e16, "", "LATIN CAPITAL LETTER E WITH MACRON AND ACUTE"⟩,
    ⟨0x1e17, "", "LATIN SMALL LETTER E WITH MACRON AND ACUTE"⟩,
    ⟨0x1e18, "", "LATIN CAPITAL LETTER E WITH CIRCUMFLEX BELOW"⟩,
    ⟨0x1e19, "LATIN ", "SMALL LETTER E WITH CIRCUMFLEX BELOW,CAPITAL LETTER E WITH TILDE BELOW"⟩,
    ⟨0x1e1b, "LATIN ", "SMALL LETTER E WITH TILDE BELOW,CAPITAL LETTER E WITH CEDILLA AND BREVE"⟩,
    ⟨0x1e1d, "LATIN ", "SMALL LETTER E WITH CEDILLA AND BREVE,CAPITAL LETTER F WITH DOT ABOVE"⟩,
    ⟨0x1e1f, "LATIN ", "SMALL LETTER F WITH DOT ABOVE,CAPITAL LETTER G WITH MACRON"⟩,
    ⟨0x1e21, "LATIN ", "SMALL LETTER G WITH MACRON,CAPITAL LETTER H WITH DOT ABOVE"⟩,
    ⟨0x1e23, "LATIN ", "SMALL LETTER H WITH DOT ABOVE,CAPITAL LETTER H WITH DOT BELOW"⟩,
    ⟨0x1e25, "LATIN ", "SMALL LETTER H WITH DOT BELOW,CAPITAL LETTER H WITH DIAERESIS"⟩,
    ⟨0x1e27, "LATIN ", "SMALL LETTER H WITH DIAERESIS,CAPITAL LETTER H WITH CEDILLA"⟩,
    ⟨0x1e29, "LATIN ", "SMALL LETTER H WITH CEDILLA,CAPITAL LETTER H WITH BREVE BELOW"⟩,
    ⟨0x1e2b, "LATIN ", "SMALL LETTER H WITH BREVE BELOW,CAPITAL LETTER I WITH TILDE BELOW"⟩,
    ⟨0x1e2d, "LATIN ", "SMALL LETTER I WITH TILDE BELOW,CAPITAL LETTER I WITH DIAERESIS AND ACUTE"⟩,
    ⟨0x1e2f, "LATIN ", "SMALL LETTER I WITH DIAERESIS AND ACUTE,CAPITAL LETTER K WITH ACUTE"⟩,
    ⟨0x1e31, "LATIN ", "SMALL LETTER K WITH ACUTE,CAPITAL LETTER K WITH DOT BELOW"⟩,
    ⟨0x1e33, "LATIN ", "SMALL LETTER K WITH DOT BELOW,CAPITAL LETTER K WITH LINE BELOW"⟩,
    ⟨0x1e35, "LATIN ", "SMALL LETTER K WITH LINE BELOW,CAPITAL LETTER L WITH DOT BELOW"⟩,
    ⟨0x1e37, "LATIN ", "SMALL LETTER L WITH DOT BELOW,CAPITAL LETTER L WITH DOT BELOW AND MACRON"⟩,
    ⟨0x1e39, "LATIN ", "SMALL LETTER L WITH DOT BELOW AND MACRON,CAPITAL LETTER L WITH LINE BELOW"⟩,
    ⟨0x1e3b, "LATIN ", "SMALL LETTER L WITH LINE BELOW,CAPITAL LETTER L WITH CIRCUMFLEX BELOW"⟩,
    ⟨0x1e3d, "LATIN ", "SMALL LETTER L WITH CIRCUMFLEX BELOW,CAPITAL LETTER M WITH ACUTE"⟩,
    ⟨0x1e3f, "LATIN ", "SMALL LETTER M WITH ACUTE,CAPITAL LETTER M WITH DOT ABOVE"⟩,
    ⟨0x1e41, "LATIN ", "SMALL LETTER M WITH DOT ABOVE,CAPITAL LETTER M WITH DOT BELOW"⟩,
    ⟨0x1e43, "LATIN ", "SMALL LETTER M WITH DOT BELOW,CAPITAL LETTER N WITH DOT ABOVE"⟩,
    ⟨0x1e45, "LATIN ", "SMALL LETTER N WITH DOT ABOVE,CAPITAL LETTER N WITH DOT BELOW"⟩,
    ⟨0x1e47, "LATIN ", "SMALL LETTER N WITH DOT BELOW,CAPITAL LETTER N WITH LINE BELOW"⟩,
    ⟨0x1e49, "LATIN ", "SMALL LETTER N WITH LINE BELOW,CAPITAL LETTER N WITH CIRCUMFLEX BELOW"⟩,
    ⟨0x1e4b, "", "LATIN SMALL LETTER N WITH CIRCUMFLEX BELOW"⟩,
    ⟨0x1e4c, "LATIN ", "CAPITAL LETTER O WITH TILDE AND ACUTE,SMALL LETTER O WITH TILDE AND ACUTE"⟩,
    ⟨0x1e4e, "", "LATIN CAPITAL LETTER O WITH TILDE AND DIAERESIS"⟩,
    ⟨0x1e4f, "", "LATIN SMALL LETTER O WITH TILDE AND DIAERESIS"⟩,
    ⟨0x1e50, "", "LATIN CAPITAL LETTER O WITH MACRON AND GRAVE"⟩,
    ⟨0x1e51, "", "LATIN SMALL LETTER O WITH MACRON AND GRAVE"⟩,
    ⟨0x1e52, "", "LATIN CAPITAL LETTER O WITH MACRON AND ACUTE"⟩,
    ⟨0x1e53, "LATIN ", "SMALL LETTER O WITH MACRON AND ACUTE,CAPITAL LETTER P WITH ACUTE"⟩,
    ⟨0x1e55, "LATIN ", "SMALL LETTER P WITH ACUTE,CAPITAL LETTER P WITH DOT ABOVE"⟩,
    ⟨0x1e57, "LATIN ", "SMALL LETTER P WITH DOT ABOVE,CAPITAL LETTER R WITH DOT ABOVE"⟩,
    ⟨0x1e59, "LATIN ", "SMALL LETTER R WITH DOT ABOVE,CAPITAL LETTER R WITH DOT BELOW"⟩,
    ⟨0x1e5b, "LATIN ", "SMALL LETTER R WITH DOT BELOW,CAPITAL LETTER R WITH DOT BELOW AND MACRON"⟩,
    ⟨0x1e5d, "LATIN ", "SMALL LETTER R WITH DOT BELOW AND MACRON,CAPITAL LETTER R WITH LINE BELOW"⟩,
    ⟨0x1e5f, "LATIN ", "SMALL LETTER R WITH LINE BELOW,CAPITAL LETTER S WITH DOT ABOVE"⟩,
    ⟨0x1e61, "LATIN ", "SMALL LETTER S WITH DOT ABOVE,CAPITAL LETTER S WITH DOT BELOW"⟩,
    ⟨0x1e63, "LATIN ", "SMALL LETTER S WITH DOT BELOW,CAPITAL LETTER S WITH ACUTE AND DOT ABOVE"⟩,
    ⟨0x1e65, "", "LATIN SMALL LETTER S WITH ACUTE AND DOT ABOVE"⟩,
    ⟨0x1e66, "", "LATIN CAPITAL LETTER S WITH CARON AND DOT ABOVE"⟩,
    ⟨0x1e67, "", "LATIN SMALL LETTER S WITH CARON AND DOT ABOVE"⟩,
    ⟨0x1e68, "", "LATIN CAPITAL LETTER S WITH DOT BELOW AND DOT ABOVE"⟩,
    ⟨0x1e69, "", "LATIN SMALL LETTER S WITH DOT BELOW AND DOT ABOVE"⟩,
    ⟨0x1e6a, "", "LATIN CAPITAL LETTER T WITH DOT ABOVE"⟩,
    ⟨0x1e6b, "LATIN ", "SMALL LETTER T WITH DOT ABOVE,CAPITAL LETTER T WITH DOT BELOW"⟩,
    ⟨0x1e6d, "LATIN ", "SMALL LETTER T WITH DOT BELOW,CAPITAL LETTER T WITH LINE BELOW"⟩,
    ⟨0x1e6f, "LATIN ", "SMALL LETTER T WITH LINE BELOW,CAPITAL LETTER T WITH CIRCUMFLEX BELOW"⟩,
    ⟨0x1e71, "", "LATIN SMALL LETTER T WITH CIRCUMFLEX BELOW"⟩,
    ⟨0x1e72, "", "LATIN CAPITAL LETTER U WITH DIAERESIS BELOW"⟩,
    ⟨0x1e73, "LATIN ", "SMALL LETTER U WITH DIAERESIS BELOW,CAPITAL LETTER U WITH TILDE BELOW"⟩,
    ⟨0x1e75, "LATIN ", "SMALL LETTER U WITH TILDE BELOW,CAPITAL LETTER U WITH CIRCUMFLEX BELOW"⟩,
    ⟨0x1e77, "", "LATIN SMALL LETTER U WITH CIRCUMFLEX BELOW"⟩,
    ⟨0x1e78, "LATIN ", "CAPITAL LETTER U WITH TILDE AND ACUTE,SMALL LETTER U WITH TILDE AND ACUTE"⟩,
    ⟨0x1e7a, "", "LATIN CAPITAL LETTER U WITH MACRON AND DIAERESIS"⟩,
    ⟨0x1e7b, "LATIN ", "SMALL LETTER U WITH MACRON AND DIAERESIS,CAPITAL LETTER V WITH TILDE"⟩,
    ⟨0x1e7d, "LATIN ", "SMALL LETTER V WITH TILDE,CAPITAL LETTER V WITH DOT BELOW"⟩,
    ⟨0x1e7f, "LATIN ", "SMALL LETTER V WITH DOT BELOW,CAPITAL LETTER W WITH GRAVE"⟩,
    ⟨0x1e81, "LATIN ", "SMALL LETTER W WITH GRAVE,CAPITAL LETTER W WITH ACUTE"⟩,
    ⟨0x1e83, "LATIN ", "SMALL LETTER W WITH ACUTE,CAPITAL LETTER W WITH DIAERESIS"⟩,
    ⟨0x1e85, "LATIN ", "SMALL LETTER W WITH DIAERESIS,CAPITAL LETTER W WITH DOT ABOVE"⟩,
    ⟨0x1e87, "LATIN ", "SMALL LETTER W WITH DOT ABOVE,CAPITAL LETTER W WITH DOT BELOW"⟩,
    ⟨0x1e89, "LATIN ", "SMALL LETTER W WITH DOT BELOW,CAPITAL LETTER X WITH DOT ABOVE"⟩,
    ⟨0x1e8b, "LATIN ", "SMALL LETTER X WITH DOT ABOVE,CAPITAL LETTER X WITH DIAERESIS"⟩,
    ⟨0x1e8d, "LATIN ", "SMALL LETTER X WITH DIAERESIS,CAPITAL LETTER Y WITH DOT ABOVE"⟩,
    ⟨0x1e8f, "LATIN ", "SMALL LETTER Y WITH DOT ABOVE,CAPITAL LETTER Z WITH CIRCUMFLEX"⟩,
    ⟨0x1e91, "LATIN ", "SMALL LETTER Z WITH CIRCUMFLEX,CAPITAL LETTER Z WITH DOT BELOW"⟩,
    ⟨0x1e93, "LATIN ", "SMALL LETTER Z WITH DOT BELOW,CAPITAL LETTER Z WITH LINE BELOW"⟩,
    ⟨0x1e95, "LATIN SMALL LETTER ", "Z WITH LINE BELOW,H WITH LINE BELOW,T WITH DIAERESIS"⟩,
    ⟨0x1e98, "LATIN SMALL LETTER ", "W WITH RING ABOVE,Y WITH RING ABOVE,A WITH RIGHT HALF RING"⟩,
    ⟨0x1e9b, "LATIN SMALL LETTER LONG S WITH ", "DOT ABOVE,DIAGONAL STROKE,HIGH STROKE"⟩,
    ⟨0x1e9e, "LATIN ", "CAPITAL LETTER SHARP S,SMALL LETTER DELTA,CAPITAL LETTER A WITH DOT BELOW"⟩,
    ⟨0x1ea1, "LATIN ", "SMALL LETTER A WITH DOT BELOW,CAPITAL LETTER A WITH HOOK ABOVE"⟩,
    ⟨0x1ea3, "LATIN ", "SMALL LETTER A WITH HOOK ABOVE,CAPITAL LETTER A WITH CIRCUMFLEX AND ACUTE"⟩,
    ⟨0x1ea5, "", "LATIN SMALL LETTER A WITH CIRCUMFLEX AND ACUTE"⟩,
    ⟨0x1ea6, "", "LATIN CAPITAL LETTER A WITH CIRCUMFLEX AND GRAVE"⟩,
    ⟨0x1ea7, "", "LATIN SMALL LETTER A WITH CIRCUMFLEX AND GRAVE"⟩,
    ⟨0x1ea8, "", "LATIN CAPITAL LETTER A WITH CIRCUMFLEX AND HOOK ABOVE"⟩,
    ⟨0x1ea9, "", "LATIN SMALL LETTER A WITH CIRCUMFLEX AND HOOK ABOVE"⟩,
    ⟨0x1eaa, "", "LATIN CAPITAL LETTER A WITH CIRCUMFLEX AND TILDE"⟩,
    ⟨0x1eab, "", "LATIN SMALL LETTER A WITH CIRCUMFLEX AND TILDE"⟩,
    ⟨0x1eac, "", "LATIN CAPITAL LETTER A WITH CIRCUMFLEX AND DOT BELOW"⟩,
    ⟨0x1ead, "", "LATIN SMALL LETTER A WITH CIRCUMFLEX AND DOT BELOW"⟩,
    ⟨0x1eae, "LATIN ", "CAPITAL LETTER A WITH BREVE AND ACUTE,SMALL LETTER A WITH BREVE AND ACUTE"⟩,
    ⟨0x1eb0, "LATIN ", "CAPITAL LETTER A WITH BREVE AND GRAVE,SMALL LETTER A WITH BREVE AND GRAVE"⟩,
    ⟨0x1eb2, "", "LATIN CAPITAL LETTER A WITH BREVE AND HOOK ABOVE"⟩,
    ⟨0x1eb3, "", "LATIN SMALL LETTER A WITH BREVE AND HOOK ABOVE"⟩,
    ⟨0x1eb4, "LATIN ", "CAPITAL LETTER A WITH BREVE AND TILDE,SMALL LETTER A WITH BREVE AND TILDE"⟩,
    ⟨0x1eb6, "", "LATIN CAPITAL LETTER A WITH BREVE AND DOT BELOW"⟩,
    ⟨0x1eb7, "LATIN ", "SMALL LETTER A WITH BREVE AND DOT BELOW,CAPITAL LETTER E WITH DOT BELOW"⟩,
    ⟨0x1eb9, "LATIN ", "SMALL LETTER E WITH DOT BELOW,CAPITAL LETTER E WITH HOOK ABOVE"⟩,
    ⟨0x1ebb, "LATIN ", "SMALL LETTER E WITH HOOK ABOVE,CAPITAL LETTER E WITH TILDE"⟩,
    ⟨0x1ebd, "LATIN ", "SMALL LETTER E WITH TILDE,CAPITAL LETTER E WITH CIRCUMFLEX AND ACUTE"⟩,
    ⟨0x1ebf, "", "LATIN SMALL LETTER E WITH CIRCUMFLEX AND ACUTE"⟩,
    ⟨0x1ec0, "", "LATIN CAPITAL LETTER E WITH CIRCUMFLEX AND GRAVE"⟩,
    ⟨0x1ec1, "", "LATIN SMALL LETTER E WITH CIRCUMFLEX AND GRAVE"⟩,
    ⟨0x1ec2, "", "LATIN CAPITAL LETTER E WITH CIRCUMFLEX AND HOOK ABOVE"⟩,
    ⟨0x1ec3, "", "LATIN SMALL LETTER E WITH CIRCUMFLEX AND HOOK ABOVE"⟩,
    ⟨0x1ec4, "", "LATIN CAPITAL LETTER E WITH CIRCUMFLEX AND TILDE"⟩,
    ⟨0x1ec5, "", "LATIN SMALL LETTER E WITH CIRCUMFLEX AND TILDE"⟩,
    ⟨0x1ec6, "", "LATIN CAPITAL LETTER E WITH CIRCUMFLEX AND DOT BELOW"⟩,
    ⟨0x1ec7, "", "LATIN SMALL LETTER E WITH CIRCUMFLEX AND DOT BELOW"⟩,
    ⟨0x1ec8, "", "LATIN CAPITAL LETTER I WITH HOOK ABOVE"⟩,
    ⟨0x1ec9, "LATIN ", "SMALL LETTER I WITH HOOK ABOVE,CAPITAL LETTER I WITH DOT BELOW"⟩,
    ⟨0x1ecb, "LATIN ", "SMALL LETTER I WITH DOT BELOW,CAPITAL LETTER O WITH DOT BELOW"⟩,
    ⟨0x1ecd, "LATIN ", "SMALL LETTER O WITH DOT BELOW,CAPITAL LETTER O WITH HOOK ABOVE"⟩,
    ⟨0x1ecf, "LATIN ", "SMALL LETTER O WITH HOOK ABOVE,CAPITAL LETTER O WITH CIRCUMFLEX AND ACUTE"⟩,
    ⟨0x1ed1, "", "LATIN SMALL LETTER O WITH CIRCUMFLEX AND ACUTE"⟩,
    ⟨0x1ed2, "", "LATIN CAPITAL LETTER O WITH CIRCUMFLEX AND GRAVE"⟩,
    ⟨0x1ed3, "", "LATIN SMALL LETTER O WITH CIRCUMFLEX AND GRAVE"⟩,
    ⟨0x1ed4, "", "LATIN CAPITAL LETTER O WITH CIRCUMFLEX AND HOOK ABOVE"⟩,
    ⟨0x1ed5, "", "LATIN SMALL LETTER O WITH CIRCUMFLEX AND HOOK ABOVE"⟩,
    ⟨0x1ed6, "", "LATIN CAPITAL LETTER O WITH CIRCUMFLEX AND TILDE"⟩,
    ⟨0x1ed7, "", "LATIN SMALL LETTER O WITH CIRCUMFLEX AND TILDE"⟩,
    ⟨0x1ed8, "", "LATIN CAPITAL LETTER O WITH CIRCUMFLEX AND DOT BELOW"⟩,
    ⟨0x1ed9, "", "LATIN SMALL LETTER O WITH CIRCUMFLEX AND DOT BELOW"⟩,
    ⟨0x1eda, "LATIN ", "CAPITAL LETTER O WITH HORN AND ACUTE,SMALL LETTER O WITH HORN AND ACUTE"⟩,
    ⟨0x1edc, "LATIN ", "CAPITAL LETTER O WITH HORN AND GRAVE,SMALL LETTER O WITH HORN AND GRAVE"⟩,
    ⟨0x1ede, "", "LATIN CAPITAL LETTER O WITH HORN AND HOOK ABOVE"⟩,
    ⟨0x1edf, "", "LATIN SMALL LETTER O WITH HORN AND HOOK ABOVE"⟩,
    ⟨0x1ee0, "LATIN ", "CAPITAL LETTER O WITH HORN AND TILDE,SMALL LETTER O WITH HORN AND TILDE"⟩,
    ⟨0x1ee2, "", "LATIN CAPITAL LETTER O WITH HORN AND DOT BELOW"⟩,
    ⟨0x1ee3, "", "LATIN SMALL LETTER O WITH HORN AND DOT BELOW"⟩,
    ⟨0x1ee4, "LATIN ", "CAPITAL LETTER U WITH DOT BELOW,SMALL LETTER U WITH DOT BELOW"⟩,
    ⟨0x1ee6, "LATIN ", "CAPITAL LETTER U WITH HOOK ABOVE,SMALL LETTER U WITH HOOK ABOVE"⟩,
    ⟨0x1ee8, "LATIN ", "CAPITAL LETTER U WITH HORN AND ACUTE,SMALL LETTER U WITH HORN AND ACUTE"⟩,
    ⟨0x1eea, "LATIN ", "CAPITAL LETTER U WITH HORN AND GRAVE,SMALL LETTER U WITH HORN AND GRAVE"⟩,
    ⟨0x1eec, "", "LATIN CAPITAL LETTER U WITH HORN AND HOOK ABOVE"⟩,
    ⟨0x1eed, "", "LATIN SMALL LETTER U WITH HORN AND HOOK ABOVE"⟩,
    ⟨0x1eee, "LATIN ", "CAPITAL LETTER U WITH HORN AND TILDE,SMALL LETTER U WITH HORN AND TILDE"⟩,
    ⟨0x1ef0, "", "LATIN CAPITAL LETTER U WITH HORN AND DOT BELOW"⟩,
    ⟨0x1ef1, "", "LATIN SMALL LETTER U WITH HORN AND DOT BELOW"⟩,
    ⟨0x1ef2, "LATIN ", "CAPITAL LETTER Y WITH GRAVE,SMALL LETTER Y WITH GRAVE"⟩,
    ⟨0x1ef4, "LATIN ", "CAPITAL LETTER Y WITH DOT BELOW,SMALL LETTER Y WITH DOT BELOW"⟩,
    ⟨0x1ef6, "LATIN ", "CAPITAL LETTER Y WITH HOOK ABOVE,SMALL LETTER Y WITH HOOK ABOVE"⟩,
    ⟨0x1ef8, "LATIN ", "CAPITAL LETTER Y WITH TILDE,SMALL LETTER Y WITH TILDE"⟩,
    ⟨0x1efa, "LATIN ", "CAPITAL LETTER MIDDLE-WELSH LL,SMALL LETTER MIDDLE-WELSH LL"⟩,
    ⟨0x1efc, "LATIN ", "CAPITAL LETTER MIDDLE-WELSH V,SMALL LETTER MIDDLE-WELSH V"⟩,
    ⟨0x1efe, "LATIN ", "CAPITAL LETTER Y WITH LOOP,SMALL LETTER Y WITH LOOP"⟩,
    ⟨0x1f00, "GREEK SMALL LETTER ALPHA WITH ", "PSILI,DASIA,PSILI AND VARIA"⟩,
    ⟨0x1f03, "GREEK SMALL LETTER ALPHA WITH ", "DASIA AND VARIA,PSILI AND OXIA,DASIA AND OXIA"⟩,
    ⟨0x1f06, "GREEK SMALL LETTER ALPHA WITH ", "PSILI AND PERISPOMENI,DASIA AND PERISPOMENI"⟩,
    ⟨0x1f08, "GREEK CAPITAL LETTER ALPHA WITH ", "PSILI,DASIA,PSILI AND VARIA"⟩,
    ⟨0x1f0b, "GREEK CAPITAL LETTER ALPHA WITH ", "DASIA AND VARIA,PSILI AND OXIA,DASIA AND OXIA"⟩,
    ⟨0x1f0e, "GREEK CAPITAL LETTER ALPHA WITH ", "PSILI AND PERISPOMENI,DASIA AND PERISPOMENI"⟩,
    ⟨0x1f10, "GREEK SMALL LETTER EPSILON WITH ", "PSILI,DASIA,PSILI AND VARIA"⟩,
    ⟨0x1f13, "GREEK SMALL LETTER EPSILON WITH ", "DASIA AND VARIA,PSILI AND OXIA,DASIA AND OXIA"⟩,
    ⟨0x1f18, "GREEK CAPITAL LETTER EPSILON WITH ", "PSILI,DASIA,PSILI AND VARIA"⟩,
    ⟨0x1f1b, "GREEK CAPITAL LETTER EPSILON WITH ", "DASIA AND VARIA,PSILI AND OXIA,DASIA AND OXIA"⟩,
    ⟨0x1f20, "GREEK SMALL LETTER ETA WITH ", "PSILI,DASIA,PSILI AND VARIA"⟩,
    ⟨0x1f23, "GREEK SMALL LETTER ETA WITH ", "DASIA AND VARIA,PSILI AND OXIA,DASIA AND OXIA"⟩,
    ⟨0x1f26, "GREEK SMALL LETTER ETA WITH ", "PSILI AND PERISPOMENI,DASIA AND PERISPOMENI"⟩,
    ⟨0x1f28, "GREEK CAPITAL LETTER ETA WITH ", "PSILI,DASIA,PSILI AND VARIA"⟩,
    ⟨0x1f2b, "GREEK CAPITAL LETTER ETA WITH ", "DASIA AND VARIA,PSILI AND OXIA,DASIA AND OXIA"⟩,
    ⟨0x1f2e, "GREEK CAPITAL LETTER ETA WITH ", "PSILI AND PERISPOMENI,DASIA AND PERISPOMENI"⟩,
    ⟨0x1f30, "GREEK SMALL LETTER IOTA WITH ", "PSILI,DASIA,PSILI AND VARIA"⟩,
    ⟨0x1f33, "GREEK SMALL LETTER IOTA WITH ", "DASIA AND VARIA,PSILI AND OXIA,DASIA AND OXIA"⟩,
    ⟨0x1f36, "GREEK SMALL LETTER IOTA WITH ", "PSILI AND PERISPOMENI,DASIA AND PERISPOMENI"⟩,
    ⟨0x1f38, "GREEK CAPITAL LETTER IOTA WITH ", "PSILI,DASIA,PSILI AND VARIA"⟩,
    ⟨0x1f3b, "GREEK CAPITAL LETTER IOTA WITH ", "DASIA AND VARIA,PSILI AND OXIA,DASIA AND OXIA"⟩,
    ⟨0x1f3e, "GREEK CAPITAL LETTER IOTA WITH ", "PSILI AND PERISPOMENI,DASIA AND PERISPOMENI"⟩,
    ⟨0x1f40, "GREEK SMALL LETTER OMICRON WITH ", "PSILI,DASIA,PSILI AND VARIA"⟩,
    ⟨0x1f43, "GREEK SMALL LETTER OMICRON WITH ", "DASIA AND VARIA,PSILI AND OXIA,DASIA AND OXIA"⟩,
    ⟨0x1f48, "GREEK CAPITAL LETTER OMICRON WITH ", "PSILI,DASIA,PSILI AND VARIA"⟩,
    ⟨0x1f4b, "GREEK CAPITAL LETTER OMICRON WITH ", "DASIA AND VARIA,PSILI AND OXIA,DASIA AND OXIA"⟩,
    ⟨0x1f50, "GREEK SMALL LETTER UPSILON WITH ", "PSILI,DASIA,PSILI AND VARIA"⟩,
    ⟨0x1f53, "GREEK SMALL LETTER UPSILON WITH ", "DASIA AND VARIA,PSILI AND OXIA,DASIA AND OXIA"⟩,
    ⟨0x1f56, "GREEK SMALL LETTER UPSILON WITH ", "PSILI AND PERISPOMENI,DASIA AND PERISPOMENI"⟩,
    ⟨0x1f59, "", "GREEK CAPITAL LETTER UPSILON WITH DASIA"⟩,
    ⟨0x1f5b, "GREEK CAPITAL LETTER UPSILON WITH DASIA AND ", "VARIA,,OXIA,,PERISPOMENI"⟩,
    ⟨0x1f60, "GREEK SMALL LETTER OMEGA WITH ", "PSILI,DASIA,PSILI AND VARIA"⟩,
    ⟨0x1f63, "GREEK SMALL LETTER OMEGA WITH ", "DASIA AND VARIA,PSILI AND OXIA,DASIA AND OXIA"⟩,
    ⟨0x1f66, "GREEK SMALL LETTER OMEGA WITH ", "PSILI AND PERISPOMENI,DASIA AND PERISPOMENI"⟩,
    ⟨0x1f68, "GREEK CAPITAL LETTER OMEGA WITH ", "PSILI,DASIA,PSILI AND VARIA"⟩,
    ⟨0x1f6b, "GREEK CAPITAL LETTER OMEGA WITH ", "DASIA AND VARIA,PSILI AND OXIA,DASIA AND OXIA"⟩,
    ⟨0x1f6e, "GREEK CAPITAL LETTER OMEGA WITH ", "PSILI AND PERISPOMENI,DASIA AND PERISPOMENI"⟩,
    ⟨0x1f70, "GREEK SMALL LETTER ALPHA WITH ", "VARIA,OXIA"⟩,
    ⟨0x1f72, "GREEK SMALL LETTER EPSILON WITH ", "VARIA,OXIA"⟩,
    ⟨0x1f74, "GREEK SMALL LETTER ", "ETA WITH VARIA,ETA WITH OXIA,IOTA WITH VARIA,IOTA WITH OXIA"⟩,
    ⟨0x1f78, "GREEK SMALL LETTER ", "OMICRON WITH VARIA,OMICRON WITH OXIA,UPSILON WITH VARIA"⟩,
    ⟨0x1f7b, "GREEK SMALL LETTER ", "UPSILON WITH OXIA,OMEGA WITH VARIA,OMEGA WITH OXIA"⟩,
    ⟨0x1f80, "GREEK SMALL LETTER ALPHA WITH ", "PSILI AND YPOGEGRAMMENI,DASIA AND YPOGEGRAMMENI"⟩,
    ⟨0x1f82, "", "GREEK SMALL LETTER ALPHA WITH PSILI AND VARIA AND YPOGEGRAMMENI"⟩,
    ⟨0x1f83, "", "GREEK SMALL LETTER ALPHA WITH DASIA AND VARIA AND YPOGEGRAMMENI"⟩,
    ⟨0x1f84, "", "GREEK SMALL LETTER ALPHA WITH PSILI AND OXIA AND YPOGEGRAMMENI"⟩,
    ⟨0x1f85, "", "GREEK SMALL LETTER ALPHA WITH DASIA AND OXIA AND YPOGEGRAMMENI"⟩,
    ⟨0x1f86, "", "GREEK SMALL LETTER ALPHA WITH PSILI AND PERISPOMENI AND YPOGEGRAMMENI"⟩,
    ⟨0x1f87, "", "GREEK SMALL LETTER ALPHA WITH DASIA AND PERISPOMENI AND YPOGEGRAMMENI"⟩,
    ⟨0x1f88, "", "GREEK CAPITAL LETTER ALPHA WITH PSILI AND PROSGEGRAMMENI"⟩,
    ⟨0x1f89, "", "GREEK CAPITAL LETTER ALPHA WITH DASIA AND PROSGEGRAMMENI"⟩,
    ⟨0x1f8a, "", "GREEK CAPITAL LETTER ALPHA WITH PSILI AND VARIA AND PROSGEGRAMMENI"⟩,
    ⟨0x1f8b, "", "GREEK CAPITAL LETTER ALPHA WITH DASIA AND VARIA AND PROSGEGRAMMENI"⟩,
    ⟨0x1f8c, "", "GREEK CAPITAL LETTER ALPHA WITH PSILI AND OXIA AND PROSGEGRAMMENI"⟩,
    ⟨0x1f8d, "", "GREEK CAPITAL LETTER ALPHA WITH DASIA AND OXIA AND PROSGEGRAMMENI"⟩,
    ⟨0x1f8e, "", "GREEK CAPITAL LETTER ALPHA WITH PSILI AND PERISPOMENI AND PROSGEGRAMMENI"⟩,
    ⟨0x1f8f, "", "GREEK CAPITAL LETTER ALPHA WITH DASIA AND PERISPOMENI AND PROSGEGRAMMENI"⟩,
    ⟨0x1f90, "GREEK SMALL LETTER ETA WITH ", "PSILI AND YPOGEGRAMMENI,DASIA AND YPOGEGRAMMENI"⟩,
    ⟨0x1f92, "", "GREEK SMALL LETTER ETA WITH PSILI AND VARIA AND YPOGEGRAMMENI"⟩,
    ⟨0x1f93, "", "GREEK SMALL LETTER ETA WITH DASIA AND VARIA AND YPOGEGRAMMENI"⟩,
    ⟨0x1f94, "", "GREEK SMALL LETTER ETA WITH PSILI AND OXIA AND YPOGEGRAMMENI"⟩,
    ⟨0x1f95, "", "GREEK SMALL LETTER ETA WITH DASIA AND OXIA AND YPOGEGRAMMENI"⟩,
    ⟨0x1f96, "", "GREEK SMALL LETTER ETA WITH PSILI AND PERISPOMENI AND YPOGEGRAMMENI"⟩,
    ⟨0x1f97, "", "GREEK SMALL LETTER ETA WITH DASIA AND PERISPOMENI AND YPOGEGRAMMENI"⟩,
    ⟨0x1f98, "GREEK CAPITAL LETTER ETA WITH ", "PSILI AND PROSGEGRAMMENI,DASIA AND PROSGEGRAMMENI"⟩,
    ⟨0x1f9a, "", "GREEK CAPITAL LETTER ETA WITH PSILI AND VARIA AND PROSGEGRAMMENI"⟩,
    ⟨0x1f9b, "", "GREEK CAPITAL LETTER ETA WITH DASIA AND VARIA AND PROSGEGRAMMENI"⟩,
    ⟨0x1f9c, "", "GREEK CAPITAL LETTER ETA WITH PSILI AND OXIA AND PROSGEGRAMMENI"⟩,
    ⟨0x1f9d, "", "GREEK CAPITAL LETTER ETA WITH DASIA AND OXIA AND PROSGEGRAMMENI"⟩,
    ⟨0x1f9e, "", "GREEK CAPITAL LETTER ETA WITH PSILI AND PERISPOMENI AND PROSGEGRAMMENI"⟩,
    ⟨0x1f9f, "", "GREEK CAPITAL LETTER ETA WITH DASIA AND PERISPOMENI AND PROSGEGRAMMENI"⟩,
    ⟨0x1fa0, "GREEK SMALL LETTER OMEGA WITH ", "PSILI AND YPOGEGRAMMENI,DASIA AND YPOGEGRAMMENI"⟩,
    ⟨0x1fa2, "", "GREEK SMALL LETTER OMEGA WITH PSILI AND VARIA AND YPOGEGRAMMENI"⟩,
    ⟨0x1fa3, "", "GREEK SMALL LETTER OMEGA WITH DASIA AND VARIA AND YPOGEGRAMMENI"⟩,
    ⟨0x1fa4, "", "GREEK SMALL LETTER OMEGA WITH PSILI AND OXIA AND YPOGEGRAMMENI"⟩,
    ⟨0x1fa5, "", "GREEK SMALL LETTER OMEGA WITH DASIA AND OXIA AND YPOGEGRAMMENI"⟩,
    ⟨0x1fa6, "", "GREEK SMALL LETTER OMEGA WITH PSILI AND PERISPOMENI AND YPOGEGRAMMENI"⟩,
    ⟨0x1fa7, "", "GREEK SMALL LETTER OMEGA WITH DASIA AND PERISPOMENI AND YPOGEGRAMMENI"⟩,
    ⟨0x1fa8, "", "GREEK CAPITAL LETTER OMEGA WITH PSILI AND PROSGEGRAMMENI"⟩,
    ⟨0x1fa9, "", "GREEK CAPITAL LETTER OMEGA WITH DASIA AND PROSGEGRAMMENI"⟩,
    ⟨0x1faa, "", "GREEK CAPITAL LETTER OMEGA WITH PSILI AND VARIA AND PROSGEGRAMMENI"⟩,
    ⟨0x1fab, "", "GREEK CAPITAL LETTER OMEGA WITH DASIA AND VARIA AND PROSGEGRAMMENI"⟩,
    ⟨0x1fac, "", "GREEK CAPITAL LETTER OMEGA WITH PSILI AND OXIA AND PROSGEGRAMMENI"⟩,
    ⟨0x1fad, "", "GREEK CAPITAL LETTER OMEGA WITH DASIA AND OXIA AND PROSGEGRAMMENI"⟩,
    ⟨0x1fae, "", "GREEK CAPITAL LETTER OMEGA WITH PSILI AND PERISPOMENI AND PROSGEGRAMMENI"⟩,
    ⟨0x1faf, "", "GREEK CAPITAL LETTER OMEGA WITH DASIA AND PERISPOMENI AND PROSGEGRAMMENI"⟩,
    ⟨0x1fb0, "GREEK SMALL LETTER ALPHA WITH ", "VRACHY,MACRON,VARIA AND YPOGEGRAMMENI"⟩,
    ⟨0x1fb3, "GREEK SMALL LETTER ALPHA WITH ", "YPOGEGRAMMENI,OXIA AND YPOGEGRAMMENI"⟩,
    ⟨0x1fb6, "GREEK SMALL LETTER ALPHA WITH ", "PERISPOMENI,PERISPOMENI AND YPOGEGRAMMENI"⟩,
    ⟨0x1fb8, "GREEK CAPITAL LETTER ALPHA WITH ", "VRACHY,MACRON,VARIA,OXIA,PROSGEGRAMMENI"⟩,
    ⟨0x1fbd, "GREEK ", "KORONIS,PROSGEGRAMMENI,PSILI,PERISPOMENI"⟩,
    ⟨0x1fc1, "GREEK ", "DIALYTIKA AND PERISPOMENI,SMALL LETTER ETA WITH VARIA AND YPOGEGRAMMENI"⟩,
    ⟨0x1fc3, "GREEK SMALL LETTER ETA WITH ", "YPOGEGRAMMENI,OXIA AND YPOGEGRAMMENI"⟩,
    ⟨0x1fc6, "GREEK SMALL LETTER ETA WITH ", "PERISPOMENI,PERISPOMENI AND YPOGEGRAMMENI"⟩,
    ⟨0x1fc8, "GREEK CAPITAL LETTER EPSILON WITH ", "VARIA,OXIA"⟩,
    ⟨0x1fca, "GREEK CAPITAL LETTER ETA WITH ", "VARIA,OXIA,PROSGEGRAMMENI"⟩,
    ⟨0x1fcd, "GREEK PSILI AND ", "VARIA,OXIA,PERISPOMENI"⟩,
    ⟨0x1fd0, "GREEK SMALL LETTER IOTA WITH ", "VRACHY,MACRON"⟩,
    ⟨0x1fd2, "GREEK SMALL LETTER IOTA WITH DIALYTIKA AND ", "VARIA,OXIA"⟩,
    ⟨0x1fd6, "GREEK SMALL LETTER IOTA WITH ", "PERISPOMENI,DIALYTIKA AND PERISPOMENI"⟩,
    ⟨0x1fd8, "GREEK CAPITAL LETTER IOTA WITH ", "VRACHY,MACRON,VARIA,OXIA"⟩,
    ⟨0x1fdd, "GREEK DASIA AND ", "VARIA,OXIA,PERISPOMENI"⟩,
    ⟨0x1fe0, "GREEK SMALL LETTER UPSILON WITH ", "VRACHY,MACRON"⟩,
    ⟨0x1fe2, "GREEK SMALL LETTER UPSILON WITH DIALYTIKA AND ", "VARIA,OXIA"⟩,
    ⟨0x1fe4, "GREEK SMALL LETTER RHO WITH ", "PSILI,DASIA"⟩,
    ⟨0x1fe6, "GREEK SMALL LETTER UPSILON WITH ", "PERISPOMENI,DIALYTIKA AND PERISPOMENI"⟩,
    ⟨0x1fe8, "GREEK CAPITAL LETTER UPSILON WITH ", "VRACHY,MACRON,VARIA,OXIA"⟩,
    ⟨0x1fec, "GREEK ", "CAPITAL LETTER RHO WITH DASIA,DIALYTIKA AND VARIA,DIALYTIKA AND OXIA"⟩,
    ⟨0x1fef, "GREEK ", "VARIA,,,SMALL LETTER OMEGA WITH VARIA AND YPOGEGRAMMENI"⟩,
    ⟨0x1ff3, "GREEK SMALL LETTER OMEGA WITH ", "YPOGEGRAMMENI,OXIA AND YPOGEGRAMMENI"⟩,
    ⟨0x1ff6, "GREEK SMALL LETTER OMEGA WITH ", "PERISPOMENI,PERISPOMENI AND YPOGEGRAMMENI"⟩,
    ⟨0x1ff8, "GREEK CAPITAL LETTER OMICRON WITH ", "VARIA,OXIA"⟩,
    ⟨0x1ffa, "GREEK CAPITAL LETTER OMEGA WITH ", "VARIA,OXIA,PROSGEGRAMMENI"⟩,
    ⟨0x1ffd, "GREEK ", "OXIA,DASIA"⟩]

end HttpRouting.Text.CharacterName
