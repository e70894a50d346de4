import HttpRouting.Text.CharacterName.Run

/-!
# Names of notes, sign writing and mathematical letters

The names from U+1D000 to U+1EEF1 in the Unicode standard.
-/

namespace HttpRouting.Text.CharacterName

def notations : List Run :=
  [
    ⟨0x1d000, "BYZANTINE MUSICAL SYMBOL ", "PSILI,DASEIA,PERISPOMENI,OXEIA EKFONITIKON"⟩,
    ⟨0x1d004, "BYZANTINE MUSICAL SYMBOL ", "OXEIA DIPLI,VAREIA EKFONITIKON,VAREIA DIPLI,KATHISTI"⟩,
    ⟨0x1d008, "BYZANTINE MUSICAL SYMBOL ", "SYRMATIKI,PARAKLITIKI,YPOKRISIS,YPOKRISIS DIPLI"⟩,
    ⟨0x1d00c, "BYZANTINE MUSICAL SYMBOL ", "KREMASTI,APESO EKFONITIKON,EXO EKFONITIKON,TELEIA"⟩,
    ⟨0x1d010, "BYZANTINE MUSICAL SYMBOL ", "KENTIMATA,APOSTROFOS,APOSTROFOS DIPLI,SYNEVMA,THITA"⟩,
    ⟨0x1d015, "BYZANTINE MUSICAL SYMBOL ", "OLIGON ARCHAION,GORGON ARCHAION,PSILON,CHAMILON,VATHY"⟩,
    ⟨0x1d01a, "BYZANTINE MUSICAL SYMBOL ", "ISON ARCHAION,KENTIMA ARCHAION,KENTIMATA ARCHAION"⟩,
    ⟨0x1d01d, "BYZANTINE MUSICAL SYMBOL ", "SAXIMATA,PARICHON,STAVROS APODEXIA,OXEIAI ARCHAION"⟩,
    ⟨0x1d021, "BYZANTINE MUSICAL SYMBOL ", "VAREIAI ARCHAION,APODERMA ARCHAION,APOTHEMA,KLASMA"⟩,
    ⟨0x1d025, "BYZANTINE MUSICAL SYMBOL ", "REVMA,PIASMA ARCHAION,TINAGMA,ANATRICHISMA,SEISMA"⟩,
    ⟨0x1d02a, "BYZANTINE MUSICAL SYMBOL SYNAGMA ", "ARCHAION,META STAVROU"⟩,
    ⟨0x1d02c, "BYZANTINE MUSICAL SYMBOL ", "OYRANISMA ARCHAION,THEMA,LEMOI,DYO"⟩,
    ⟨0x1d030, "BYZANTINE MUSICAL SYMBOL ", "TRIA,TESSERA,KRATIMATA,APESO EXO NEO,FTHORA ARCHAION"⟩,
    ⟨0x1d035, "BYZANTINE MUSICAL SYMBOL ", "IMIFTHORA,TROMIKON ARCHAION,KATAVA TROMIKON"⟩,
    ⟨0x1d038, "BYZANTINE MUSICAL SYMBOL ", "PELASTON,PSIFISTON,KONTEVMA,CHOREVMA ARCHAION,RAPISMA"⟩,
    ⟨0x1d03d, "BYZANTINE MUSICAL SYMBOL ", "PARAKALESMA ARCHAION,PARAKLITIKI ARCHAION,ICHADIN"⟩,
    ⟨0x1d040, "BYZANTINE MUSICAL SYMBOL ", "NANA,PETASMA,KONTEVMA ALLO,TROMIKON ALLO,STRAGGISMATA"⟩,
    ⟨0x1d045, "BYZANTINE MUSICAL SYMBOL ", "GRONTHISMATA,ISON NEO,OLIGON NEO,OXEIA NEO"⟩,
    ⟨0x1d049, "BYZANTINE MUSICAL SYMBOL ", "PETASTI,KOUFISMA,PETASTOKOUFISMA,KRATIMOKOUFISMA"⟩,
    ⟨0x1d04d, "BYZANTINE MUSICAL SYMBOL ", "PELASTON NEO,KENTIMATA NEO ANO,KENTIMA NEO ANO"⟩,
    ⟨0x1d050, "BYZANTINE MUSICAL SYMBOL ", "YPSILI,APOSTROFOS NEO,APOSTROFOI SYNDESMOS NEO"⟩,
    ⟨0x1d053, "BYZANTINE MUSICAL SYMBOL ", "YPORROI,KRATIMOYPORROON,ELAFRON,CHAMILI"⟩,
    ⟨0x1d057, "BYZANTINE MUSICAL SYMBOL ", "MIKRON ISON,VAREIA NEO,PIASMA NEO,PSIFISTON NEO"⟩,
    ⟨0x1d05b, "BYZANTINE MUSICAL SYMBOL ", "OMALON,ANTIKENOMA,LYGISMA,PARAKLITIKI NEO"⟩,
    ⟨0x1d05f, "BYZANTINE MUSICAL SYMBOL ", "PARAKALESMA NEO,ETERON PARAKALESMA,KYLISMA"⟩,
    ⟨0x1d062, "BYZANTINE MUSICAL SYMBOL ", "ANTIKENOKYLISMA,TROMIKON NEO,EKSTREPTON,SYNAGMA NEO"⟩,
    ⟨0x1d066, "BYZANTINE MUSICAL SYMBOL ", "SYRMA,CHOREVMA NEO,EPEGERMA,SEISMA NEO,XIRON KLASMA"⟩,
    ⟨0x1d06b, "BYZANTINE MUSICAL SYMBOL ", "TROMIKOPSIFISTON,PSIFISTOLYGISMA,TROMIKOLYGISMA"⟩,
    ⟨0x1d06e, "BYZANTINE MUSICAL SYMBOL ", "TROMIKOPARAKALESMA,PSIFISTOPARAKALESMA,TROMIKOSYNAGMA"⟩,
    ⟨0x1d071, "BYZANTINE MUSICAL SYMBOL ", "PSIFISTOSYNAGMA,GORGOSYNTHETON,ARGOSYNTHETON"⟩,
    ⟨0x1d074, "BYZANTINE MUSICAL SYMBOL ", "ETERON ARGOSYNTHETON,OYRANISMA NEO,THEMATISMOS ESO"⟩,
    ⟨0x1d077, "BYZANTINE MUSICAL SYMBOL ", "THEMATISMOS EXO,THEMA APLOUN,THES KAI APOTHES"⟩,
    ⟨0x1d07a, "BYZANTINE MUSICAL SYMBOL ", "KATAVASMA,ENDOFONON,YFEN KATO,YFEN ANO"⟩,
    ⟨0x1d07e, "BYZANTINE MUSICAL SYMBOL ", "STAVROS,KLASMA ANO,DIPLI ARCHAION,KRATIMA ARCHAION"⟩,
    ⟨0x1d082, "BYZANTINE MUSICAL SYMBOL ", "KRATIMA ALLO,KRATIMA NEO,APODERMA NEO,APLI"⟩,
    ⟨0x1d086, "BYZANTINE MUSICAL SYMBOL ", "DIPLI,TRIPLI,TETRAPLI,KORONIS,LEIMMA ENOS CHRONOU"⟩,
    ⟨0x1d08b, "BYZANTINE MUSICAL SYMBOL LEIMMA ", "DYO CHRONON,TRION CHRONON,TESSARON CHRONON"⟩,
    ⟨0x1d08e, "BYZANTINE MUSICAL SYMBOL ", "LEIMMA IMISEOS CHRONOU,GORGON NEO ANO"⟩,
    ⟨0x1d090, "BYZANTINE MUSICAL SYMBOL GORGON PARESTIGMENON ", "ARISTERA,DEXIA"⟩,
    ⟨0x1d092, "BYZANTINE MUSICAL SYMBOL ", "DIGORGON,DIGORGON PARESTIGMENON ARISTERA KATO"⟩,
    ⟨0x1d094, "BYZANTINE MUSICAL SYMBOL DIGORGON PARESTIGMENON ", "ARISTERA ANO,DEXIA"⟩,
    ⟨0x1d096, "BYZANTINE MUSICAL SYMBOL ", "TRIGORGON,ARGON,IMIDIARGON,DIARGON,AGOGI POLI ARGI"⟩,
    ⟨0x1d09b, "BYZANTINE MUSICAL SYMBOL AGOGI ", "ARGOTERI,ARGI,METRIA,MESI,GORGI,GORGOTERI"⟩,
    ⟨0x1d0a1, "BYZANTINE MUSICAL SYMBOL ", "AGOGI POLI GORGI,MARTYRIA PROTOS ICHOS"⟩,
    ⟨0x1d0a3, "BYZANTINE MUSICAL SYMBOL MARTYRIA ", "ALLI PROTOS ICHOS,DEYTEROS ICHOS"⟩,
    ⟨0x1d0a5, "BYZANTINE MUSICAL SYMBOL MARTYRIA ", "ALLI DEYTEROS ICHOS,TRITOS ICHOS,TRIFONIAS"⟩,
    ⟨0x1d0a8, "BYZANTINE MUSICAL SYMBOL MARTYRIA TETARTOS ", "ICHOS,LEGETOS ICHOS"⟩,
    ⟨0x1d0aa, "BYZANTINE MUSICAL SYMBOL MARTYRIA ", "LEGETOS ICHOS,PLAGIOS ICHOS"⟩,
    ⟨0x1d0ac, "BYZANTINE MUSICAL SYMBOL ", "ISAKIA TELOUS ICHIMATOS,APOSTROFOI TELOUS ICHIMATOS"⟩,
    ⟨0x1d0ae, "BYZANTINE MUSICAL SYMBOL FANEROSIS ", "TETRAFONIAS,MONOFONIAS,DIFONIAS"⟩,
    ⟨0x1d0b1, "BYZANTINE MUSICAL SYMBOL MARTYRIA ", "VARYS ICHOS,PROTOVARYS ICHOS"⟩,
    ⟨0x1d0b3, "BYZANTINE MUSICAL SYMBOL ", "MARTYRIA PLAGIOS TETARTOS ICHOS,GORTHMIKON N APLOUN"⟩,
    ⟨0x1d0b5, "BYZANTINE MUSICAL SYMBOL ", "GORTHMIKON N DIPLOUN,ENARXIS KAI FTHORA VOU"⟩,
    ⟨0x1d0b7, "BYZANTINE MUSICAL SYMBOL ", "IMIFONON,IMIFTHORON,FTHORA ARCHAION DEYTEROU ICHOU"⟩,
    ⟨0x1d0ba, "BYZANTINE MUSICAL SYMBOL FTHORA DIATONIKI ", "PA,NANA"⟩,
    ⟨0x1d0bc, "BYZANTINE MUSICAL SYMBOL FTHORA ", "NAOS ICHOS,DIATONIKI DI,SKLIRON DIATONON DI"⟩,
    ⟨0x1d0bf, "BYZANTINE MUSICAL SYMBOL FTHORA DIATONIKI ", "KE,ZO,NI KATO,NI ANO"⟩,
    ⟨0x1d0c3, "BYZANTINE MUSICAL SYMBOL FTHORA MALAKON CHROMA ", "DIFONIAS,MONOFONIAS"⟩,
    ⟨0x1d0c5, "", "BYZANTINE MUSICAL SYMBOL FHTORA SKLIRON CHROMA VASIS"⟩,
    ⟨0x1d0c6, "BYZANTINE MUSICAL SYMBOL FTHORA ", "SKLIRON CHROMA SYNAFI,NENANO"⟩,
    ⟨0x1d0c8, "BYZANTINE MUSICAL SYMBOL CHROA ", "ZYGOS,KLITON,SPATHI"⟩,
    ⟨0x1d0cb, "BYZANTINE MUSICAL SYMBOL FTHORA ", "I YFESIS TETARTIMORION,ENARMONIOS ANTIFONIA"⟩,
    ⟨0x1d0cd, "", "BYZANTINE MUSICAL SYMBOL YFESIS TRITIMORION"⟩,
    ⟨0x1d0ce, "BYZANTINE MUSICAL SYMBOL DIESIS ", "TRITIMORION,TETARTIMORION"⟩,
    ⟨0x1d0d0, "BYZANTINE MUSICAL SYMBOL DIESIS ", "APLI DYO DODEKATA,MONOGRAMMOS TESSERA DODEKATA"⟩,
    ⟨0x1d0d2, "BYZANTINE MUSICAL SYMBOL DIESIS ", "DIGRAMMOS EX DODEKATA,TRIGRAMMOS OKTO DODEKATA"⟩,
    ⟨0x1d0d4, "BYZANTINE MUSICAL SYMBOL YFESIS ", "APLI DYO DODEKATA,MONOGRAMMOS TESSERA DODEKATA"⟩,
    ⟨0x1d0d6, "BYZANTINE MUSICAL SYMBOL YFESIS ", "DIGRAMMOS EX DODEKATA,TRIGRAMMOS OKTO DODEKATA"⟩,
    ⟨0x1d0d8, "BYZANTINE MUSICAL SYMBOL GENIKI ", "DIESIS,YFESIS"⟩,
    ⟨0x1d0da, "BYZANTINE MUSICAL SYMBOL DIASTOLI ", "APLI MIKRI,APLI MEGALI,DIPLI,THESEOS"⟩,
    ⟨0x1d0de, "BYZANTINE MUSICAL SYMBOL SIMANSIS ", "THESEOS,THESEOS DISIMOU"⟩,
    ⟨0x1d0e0, "BYZANTINE MUSICAL SYMBOL SIMANSIS ", "THESEOS TRISIMOU,THESEOS TETRASIMOU,ARSEOS"⟩,
    ⟨0x1d0e3, "BYZANTINE MUSICAL SYMBOL SIMANSIS ARSEOS ", "DISIMOU,TRISIMOU,TETRASIMOU"⟩,
    ⟨0x1d0e6, "BYZANTINE MUSICAL SYMBOL ", "DIGRAMMA GG,DIFTOGGOS OU,STIGMA"⟩,
    ⟨0x1d0e9, "BYZANTINE MUSICAL SYMBOL ARKTIKO ", "PA,VOU,GA,DI,KE,ZO,NI"⟩,
    ⟨0x1d0f0, "", "BYZANTINE MUSICAL SYMBOL KENTIMATA NEO MESO"⟩,
    ⟨0x1d0f1, "BYZANTINE MUSICAL SYMBOL ", "KENTIMA NEO MESO,KENTIMATA NEO KATO"⟩,
    ⟨0x1d0f3, "BYZANTINE MUSICAL SYMBOL ", "KENTIMA NEO KATO,KLASMA KATO,GORGON NEO KATO"⟩,
    ⟨0x1d100, "", "MUSICAL SYMBOL SINGLE BARLINE"⟩,
    ⟨0x1d101, "MUSICAL SYMBOL ", "DOUBLE BARLINE,FINAL BARLINE,REVERSE FINAL BARLINE"⟩,
    ⟨0x1d104, "MUSICAL SYMBOL ", "DASHED BARLINE,SHORT BARLINE,LEFT REPEAT SIGN"⟩,
    ⟨0x1d107, "MUSICAL SYMBOL ", "RIGHT REPEAT SIGN,REPEAT DOTS,DAL SEGNO,DA CAPO,SEGNO,CODA"⟩,
    ⟨0x1d10d, "MUSICAL SYMBOL ", "REPEATED FIGURE-1,REPEATED FIGURE-2,REPEATED FIGURE-3,FERMATA"⟩,
    ⟨0x1d111, "MUSICAL SYMBOL ", "FERMATA BELOW,BREATH MARK,CAESURA,BRACE,BRACKET,ONE-LINE STAFF"⟩,
    ⟨0x1d117, "MUSICAL SYMBOL ", "TWO-LINE STAFF,THREE-LINE STAFF,FOUR-LINE STAFF,FIVE-LINE STAFF"⟩,
    ⟨0x1d11b, "MUSICAL SYMBOL ", "SIX-LINE STAFF,SIX-STRING FRETBOARD,FOUR-STRING FRETBOARD"⟩,
    ⟨0x1d11e, "MUSICAL SYMBOL ", "G CLEF,G CLEF OTTAVA ALTA,G CLEF OTTAVA BASSA,C CLEF,F CLEF"⟩,
    ⟨0x1d123, "MUSICAL SYMBOL ", "F CLEF OTTAVA ALTA,F CLEF OTTAVA BASSA,DRUM CLEF-1,DRUM CLEF-2"⟩,
    ⟨0x1d129, "MUSICAL SYMBOL ", "MULTIPLE MEASURE REST,DOUBLE SHARP,DOUBLE FLAT"⟩,
    ⟨0x1d12c, "MUSICAL SYMBOL ", "FLAT UP,FLAT DOWN,NATURAL UP,NATURAL DOWN,SHARP UP,SHARP DOWN"⟩,
    ⟨0x1d132, "MUSICAL SYMBOL QUARTER TONE ", "SHARP,FLAT"⟩,
    ⟨0x1d134, "MUSICAL SYMBOL ", "COMMON TIME,CUT TIME,OTTAVA ALTA,OTTAVA BASSA,QUINDICESIMA ALTA"⟩,
    ⟨0x1d139, "MUSICAL SYMBOL ", "QUINDICESIMA BASSA,MULTI REST,WHOLE REST,HALF REST,QUARTER REST"⟩,
    ⟨0x1d13e, "MUSICAL SYMBOL ", "EIGHTH REST,SIXTEENTH REST,THIRTY-SECOND REST,SIXTY-FOURTH REST"⟩,
    ⟨0x1d142, "MUSICAL SYMBOL ", "ONE HUNDRED TWENTY-EIGHTH REST,X NOTEHEAD,PLUS NOTEHEAD"⟩,
    ⟨0x1d145, "MUSICAL SYMBOL ", "CIRCLE X NOTEHEAD,SQUARE NOTEHEAD WHITE,SQUARE NOTEHEAD BLACK"⟩,
    ⟨0x1d148, "MUSICAL SYMBOL TRIANGLE NOTEHEAD ", "UP WHITE,UP BLACK,LEFT WHITE,LEFT BLACK"⟩,
    ⟨0x1d14c, "MUSICAL SYMBOL TRIANGLE NOTEHEAD ", "RIGHT WHITE,RIGHT BLACK,DOWN WHITE,DOWN BLACK"⟩,
    ⟨0x1d150, "MUSICAL SYMBOL TRIANGLE NOTEHEAD UP RIGHT ", "WHITE,BLACK"⟩,
    ⟨0x1d152, "MUSICAL SYMBOL MOON NOTEHEAD ", "WHITE,BLACK"⟩,
    ⟨0x1d154, "MUSICAL SYMBOL TRIANGLE-ROUND NOTEHEAD DOWN ", "WHITE,BLACK"⟩,
    ⟨0x1d156, "MUSICAL SYMBOL ", "PARENTHESIS NOTEHEAD,VOID NOTEHEAD,NOTEHEAD BLACK,NULL NOTEHEAD"⟩,
    ⟨0x1d15a, "MUSICAL SYMBOL CLUSTER NOTEHEAD ", "WHITE,BLACK"⟩,
    ⟨0x1d15c, "MUSICAL SYMBOL ", "BREVE,WHOLE NOTE,HALF NOTE"⟩,
    ⟨0x1d15f, "MUSICAL SYMBOL ", "QUARTER NOTE,EIGHTH NOTE,SIXTEENTH NOTE,THIRTY-SECOND NOTE"⟩,
    ⟨0x1d163, "MUSICAL SYMBOL ", "SIXTY-FOURTH NOTE,ONE HUNDRED TWENTY-EIGHTH NOTE"⟩,
    ⟨0x1d165, "MUSICAL SYMBOL COMBINING ", "STEM,SPRECHGESANG STEM,TREMOLO-1,TREMOLO-2,TREMOLO-3"⟩,
    ⟨0x1d16a, "MUSICAL SYMBOL FINGERED TREMOLO-", "1,2,3"⟩,
    ⟨0x1d16d, "MUSICAL SYMBOL COMBINING ", "AUGMENTATION DOT,FLAG-1,FLAG-2,FLAG-3,FLAG-4,FLAG-5"⟩,
    ⟨0x1d173, "MUSICAL SYMBOL ", "BEGIN BEAM,END BEAM"⟩,
    ⟨0x1d175, "MUSICAL SYMBOL ", "BEGIN TIE,END TIE,BEGIN SLUR,END SLUR,BEGIN PHRASE,END PHRASE"⟩,
    ⟨0x1d17b, "MUSICAL SYMBOL COMBINING ", "ACCENT,STACCATO,TENUTO,STACCATISSIMO"⟩,
    ⟨0x1d17f, "MUSICAL SYMBOL COMBINING ", "MARCATO,MARCATO-STACCATO,ACCENT-STACCATO,LOURE"⟩,
    ⟨0x1d183, "MUSICAL SYMBOL ARPEGGIATO ", "UP,DOWN"⟩,
    ⟨0x1d185, "MUSICAL SYMBOL COMBINING ", "DOIT,RIP,FLIP,SMEAR,BEND,DOUBLE TONGUE,TRIPLE TONGUE"⟩,
    ⟨0x1d18c, "MUSICAL SYMBOL ", "RINFORZANDO,SUBITO,Z,PIANO,MEZZO,FORTE,CRESCENDO,DECRESCENDO"⟩,
    ⟨0x1d194, "MUSICAL SYMBOL GRACE NOTE ", "SLASH,NO SLASH"⟩,
    ⟨0x1d196, "MUSICAL SYMBOL ", "TR,TURN,INVERTED TURN,TURN SLASH,TURN UP"⟩,
    ⟨0x1d19b, "MUSICAL SYMBOL ORNAMENT STROKE-", "1,2,3,4,5,6,7,8,9,10,11"⟩,
    ⟨0x1d1a6, "MUSICAL SYMBOL ", "HAUPTSTIMME,NEBENSTIMME,END OF STIMME,DEGREE SLASH"⟩,
    ⟨0x1d1aa, "MUSICAL SYMBOL COMBINING ", "DOWN BOW,UP BOW,HARMONIC,SNAP PIZZICATO"⟩,
    ⟨0x1d1ae, "MUSICAL SYMBOL ", "PEDAL MARK,PEDAL UP MARK,HALF PEDAL MARK,GLISSANDO UP"⟩,
    ⟨0x1d1b2, "MUSICAL SYMBOL ", "GLISSANDO DOWN,WITH FINGERNAILS,DAMP,DAMP ALL,MAXIMA,LONGA"⟩,
    ⟨0x1d1b8, "MUSICAL SYMBOL ", "BREVIS,SEMIBREVIS WHITE,SEMIBREVIS BLACK,MINIMA,MINIMA BLACK"⟩,
    ⟨0x1d1bd, "MUSICAL SYMBOL SEMIMINIMA ", "WHITE,BLACK"⟩,
    ⟨0x1d1bf, "MUSICAL SYMBOL ", "FUSA WHITE,FUSA BLACK,LONGA PERFECTA REST,LONGA IMPERFECTA REST"⟩,
    ⟨0x1d1c3, "MUSICAL SYMBOL ", "BREVIS REST,SEMIBREVIS REST,MINIMA REST,SEMIMINIMA REST"⟩,
    ⟨0x1d1c7, "MUSICAL SYMBOL TEMPUS PERFECTUM CUM PROLATIONE ", "PERFECTA,IMPERFECTA"⟩,
    ⟨0x1d1c9, "", "MUSICAL SYMBOL TEMPUS PERFECTUM CUM PROLATIONE PERFECTA DIMINUTION-1"⟩,
    ⟨0x1d1ca, "MUSICAL SYMBOL TEMPUS IMPERFECTUM CUM PROLATIONE ", "PERFECTA,IMPERFECTA"⟩,
    ⟨0x1d1cc, "MUSICAL SYMBOL TEMPUS IMPERFECTUM CUM PROLATIONE IMPERFECTA DIMINUTION-", "1,2,3"⟩,
    ⟨0x1d1cf, "MUSICAL SYMBOL ", "CROIX,GREGORIAN C CLEF,GREGORIAN F CLEF,SQUARE B,VIRGA,PODATUS"⟩,
    ⟨0x1d1d5, "MUSICAL SYMBOL ", "CLIVIS,SCANDICUS,CLIMACUS,TORCULUS,PORRECTUS,PORRECTUS FLEXUS"⟩,
    ⟨0x1d1db, "MUSICAL SYMBOL ", "SCANDICUS FLEXUS,TORCULUS RESUPINUS,PES SUBPUNCTIS"⟩,
    ⟨0x1d1de, "MUSICAL SYMBOL KIEVAN ", "C CLEF,END OF PIECE,FINAL NOTE,RECITATIVE MARK"⟩,
    ⟨0x1d1e2, "MUSICAL SYMBOL KIEVAN ", "WHOLE NOTE,HALF NOTE,QUARTER NOTE STEM DOWN"⟩,
    ⟨0x1d1e5, "MUSICAL SYMBOL KIEVAN ", "QUARTER NOTE STEM UP,EIGHTH NOTE STEM DOWN"⟩,
    ⟨0x1d1e7, "MUSICAL SYMBOL ", "KIEVAN EIGHTH NOTE STEM UP,KIEVAN FLAT SIGN,SORI,KORON"⟩,
    ⟨0x1d200, "GREEK VOCAL NOTATION SYMBOL-", "1,2,3,4,5,6,7,8,9,10,11,12"⟩,
    ⟨0x1d20c, "GREEK VOCAL NOTATION SYMBOL-", "13,14,15,16,17,18,19,20,21,22,23,24,50,51,52,53,54"⟩,
    ⟨0x1d21d, "GREEK INSTRUMENTAL NOTATION SYMBOL-", "1,2,4,5,7,8,11,12,13"⟩,
    ⟨0x1d226, "GREEK INSTRUMENTAL NOTATION SYMBOL-", "14,17,18,19,23,24,25,26,27,29,30,32,36,37"⟩,
    ⟨0x1d234, "GREEK INSTRUMENTAL NOTATION SYMBOL-", "38,39,40,42,43,45,47,48,49,50,51,52,53,54"⟩,
    ⟨0x1d242, "COMBINING GREEK MUSICAL ", "TRISEME,TETRASEME,PENTASEME"⟩,
    ⟨0x1d245, "", "GREEK MUSICAL LEIMMA"⟩,
    ⟨0x1d2e0, "", "MAYAN NUMERAL ZERO"⟩,
    ⟨0x1d2e1, "MAYAN NUMERAL ", "ONE,TWO,THREE,FOUR,FIVE,SIX,SEVEN,EIGHT,NINE,TEN,ELEVEN,TWELVE"⟩,
    ⟨0x1d2ed, "MAYAN NUMERAL ", "THIRTEEN,FOURTEEN,FIFTEEN,SIXTEEN,SEVENTEEN,EIGHTEEN,NINETEEN"⟩,
    ⟨0x1d300, "", "MONOGRAM FOR EARTH"⟩,
    ⟨0x1d301, "DIGRAM FOR ", "HEAVENLY EARTH,HUMAN EARTH,EARTHLY HEAVEN,EARTHLY HUMAN,EARTH"⟩,
    ⟨0x1d306, "TETRAGRAM FOR ", "CENTRE,FULL CIRCLE,MIRED,BARRIER"⟩,
    ⟨0x1d30a, "TETRAGRAM FOR ", "KEEPING SMALL,CONTRARIETY,ASCENT,OPPOSITION,BRANCHING OUT"⟩,
    ⟨0x1d30f, "TETRAGRAM FOR ", "DEFECTIVENESS OR DISTORTION,DIVERGENCE,YOUTHFULNESS,INCREASE"⟩,
    ⟨0x1d313, "TETRAGRAM FOR ", "PENETRATION,REACH,CONTACT,HOLDING BACK,WAITING,FOLLOWING"⟩,
    ⟨0x1d319, "TETRAGRAM FOR ", "ADVANCE,RELEASE,RESISTANCE,EASE,JOY,CONTENTION,ENDEAVOUR"⟩,
    ⟨0x1d320, "TETRAGRAM FOR ", "DUTIES,CHANGE,DECISIVENESS,BOLD RESOLUTION,PACKING,LEGION"⟩,
    ⟨0x1d326, "TETRAGRAM FOR ", "CLOSENESS,KINSHIP,GATHERING,STRENGTH,PURITY,FULLNESS,RESIDENCE"⟩,
    ⟨0x1d32d, "TETRAGRAM FOR ", "LAW OR MODEL,RESPONSE,GOING TO MEET,ENCOUNTERS,STOVE,GREATNESS"⟩,
    ⟨0x1d333, "TETRAGRAM FOR ", "ENLARGEMENT,PATTERN,RITUAL,FLIGHT,VASTNESS OR WASTING,CONSTANCY"⟩,
    ⟨0x1d339, "TETRAGRAM FOR ", "MEASURE,ETERNITY,UNITY,DIMINISHMENT,CLOSED MOUTH,GUARDEDNESS"⟩,
    ⟨0x1d33f, "TETRAGRAM FOR ", "GATHERING IN,MASSING,ACCUMULATION,EMBELLISHMENT,DOUBT,WATCH"⟩,
    ⟨0x1d345, "TETRAGRAM FOR ", "SINKING,INNER,DEPARTURE,DARKENING,DIMMING,EXHAUSTION,SEVERANCE"⟩,
    ⟨0x1d34c, "TETRAGRAM FOR ", "STOPPAGE,HARDNESS,COMPLETION,CLOSURE,FAILURE,AGGRAVATION"⟩,
    ⟨0x1d352, "TETRAGRAM FOR ", "COMPLIANCE,ON THE VERGE,DIFFICULTIES,LABOURING,FOSTERING"⟩,
    ⟨0x1d360, "COUNTING ROD UNIT DIGIT ", "ONE,TWO,THREE,FOUR,FIVE,SIX,SEVEN,EIGHT,NINE"⟩,
    ⟨0x1d369, "COUNTING ROD TENS DIGIT ", "ONE,TWO,THREE,FOUR,FIVE,SIX,SEVEN,EIGHT,NINE"⟩,
    ⟨0x1d372, "IDEOGRAPHIC TALLY MARK ", "ONE,TWO,THREE,FOUR,FIVE"⟩,
    ⟨0x1d377, "TALLY MARK ", "ONE,FIVE"⟩,
    ⟨0x1d400, "MATHEMATICAL BOLD CAPITAL ", "A,B,C,D,E,F,G,H,I,J,K,L,M,N,O,P,Q,R,S,T,U,V,W,X,Y,Z"⟩,
    ⟨0x1d41a, "MATHEMATICAL BOLD SMALL ", "A,B,C,D,E,F,G,H,I,J,K,L,M,N,O,P,Q,R,S,T,U,V,W,X,Y,Z"⟩,
    ⟨0x1d434, "", "MATHEMATICAL ITALIC CAPITAL A"⟩,
    ⟨0x1d435, "MATHEMATICAL ITALIC CAPITAL ", "B,C,D,E,F,G,H,I,J,K,L,M,N,O,P,Q,R,S,T,U,V,W,X,Y,Z"⟩,
    ⟨0x1d44e, "MATHEMATICAL ITALIC SMALL ", "A,B,C,D,E,F,G,,I,J,K,L,M,N,O,P,Q,R,S,T,U,V,W,X,Y,Z"⟩,
    ⟨0x1d468, "MATHEMATICAL BOLD ITALIC CAPITAL ", "A,B,C,D,E,F,G,H,I,J,K,L,M,N,O,P,Q,R,S,T,U,V,W"⟩,
    ⟨0x1d47f, "MATHEMATICAL BOLD ITALIC ", "CAPITAL X,CAPITAL Y,CAPITAL Z,SMALL A,SMALL B"⟩,
    ⟨0x1d484, "MATHEMATICAL BOLD ITALIC SMALL ", "C,D,E,F,G,H,I,J,K,L,M,N,O,P,Q,R,S,T,U,V,W,X,Y,Z"⟩,
    ⟨0x1d49c, "MATHEMATICAL SCRIPT CAPITAL ", "A,,C,D,,,G,,,J,K,,,N,O,P,Q,,S,T,U,V,W,X,Y,Z"⟩,
    ⟨0x1d4b6, "MATHEMATICAL SCRIPT SMALL ", "A,B,C,D,,F,,H,I,J,K,L,M,N,,P,Q,R,S,T,U,V,W,X,Y,Z"⟩,
    ⟨0x1d4d0, "MATHEMATICAL BOLD SCRIPT CAPITAL ", "A,B,C,D,E,F,G,H,I,J,K,L,M,N,O,P,Q,R,S,T,U,V,W"⟩,
    ⟨0x1d4e7, "MATHEMATICAL BOLD SCRIPT ", "CAPITAL X,CAPITAL Y,CAPITAL Z,SMALL A,SMALL B"⟩,
    ⟨0x1d4ec, "MATHEMATICAL BOLD SCRIPT SMALL ", "C,D,E,F,G,H,I,J,K,L,M,N,O,P,Q,R,S,T,U,V,W,X,Y,Z"⟩,
    ⟨0x1d504, "MATHEMATICAL FRAKTUR CAPITAL ", "A,B,,D,E,F,G,,,J,K,L,M,N,O,P,Q,,S,T,U,V,W,X,Y"⟩,
    ⟨0x1d51e, "MATHEMATICAL FRAKTUR SMALL ", "A,B,C,D,E,F,G,H,I,J,K,L,M,N,O,P,Q,R,S,T,U,V,W,X,Y,Z"⟩,
    ⟨0x1d538, "MATHEMATICAL DOUBLE-STRUCK CAPITAL ", "A,B,,D,E,F,G,,I,J,K,L,M,,O,,,,S,T,U,V,W,X,Y"⟩,
    ⟨0x1d552, "MATHEMATICAL DOUBLE-STRUCK SMALL ", "A,B,C"⟩,
    ⟨0x1d555, "MATHEMATICAL DOUBLE-STRUCK SMALL ", "D,E,F,G,H,I,J,K,L,M,N,O,P,Q,R,S,T,U,V,W,X,Y,Z"⟩,
    ⟨0x1d56c, "MATHEMATICAL BOLD FRAKTUR CAPITAL ", "A,B,C,D"⟩,
    ⟨0x1d570, "MATHEMATICAL BOLD FRAKTUR CAPITAL ", "E,F,G,H,I,J,K,L,M,N,O,P,Q,R,S,T,U,V,W,X,Y,Z"⟩,
    ⟨0x1d586, "MATHEMATICAL BOLD FRAKTUR SMALL ", "A,B,C"⟩,
    ⟨0x1d589, "MATHEMATICAL BOLD FRAKTUR SMALL ", "D,E,F,G,H,I,J,K,L,M,N,O,P,Q,R,S,T,U,V,W,X,Y,Z"⟩,
    ⟨0x1d5a0, "MATHEMATICAL SANS-SERIF CAPITAL ", "A,B,C,D,E,F,G,H,I,J,K,L,M,N,O,P,Q,R,S,T,U,V,W"⟩,
    ⟨0x1d5b7, "MATHEMATICAL SANS-SERIF ", "CAPITAL X,CAPITAL Y,CAPITAL Z,SMALL A,SMALL B"⟩,
    ⟨0x1d5bc, "MATHEMATICAL SANS-SERIF SMALL ", "C,D,E,F,G,H,I,J,K,L,M,N,O,P,Q,R,S,T,U,V,W,X,Y,Z"⟩,
    ⟨0x1d5d4, "MATHEMATICAL SANS-SERIF BOLD CAPITAL ", "A,B,C,D,E"⟩,
    ⟨0x1d5d9, "MATHEMATICAL SANS-SERIF BOLD CAPITAL ", "F,G,H,I,J,K,L,M,N,O,P,Q,R,S,T,U,V,W,X,Y,Z"⟩,
    ⟨0x1d5ee, "MATHEMATICAL SANS-SERIF BOLD SMALL ", "A,B,C,D"⟩,
    ⟨0x1d5f2, "MATHEMATICAL SANS-SERIF BOLD SMALL ", "E,F,G,H,I,J,K,L,M,N,O,P,Q,R,S,T,U,V,W,X,Y,Z"⟩,
    ⟨0x1d608, "MATHEMATICAL SANS-SERIF ITALIC CAPITAL ", "A,B,C,D,E,F"⟩,
    ⟨0x1d60e, "MATHEMATICAL SANS-SERIF ITALIC CAPITAL ", "G,H,I,J,K,L,M,N,O,P,Q,R,S,T,U,V,W,X,Y,Z"⟩,
    ⟨0x1d622, "MATHEMATICAL SANS-SERIF ITALIC SMALL ", "A,B,C,D,E"⟩,
    ⟨0x1d627, "MATHEMATICAL SANS-SERIF ITALIC SMALL ", "F,G,H,I,J,K,L,M,N,O,P,Q,R,S,T,U,V,W,X,Y,Z"⟩,
    ⟨0x1d63c, "MATHEMATICAL SANS-SERIF BOLD ITALIC CAPITAL ", "A,B,C,D,E,F,G,H,I"⟩,
    ⟨0x1d645, "MATHEMATICAL SANS-SERIF BOLD ITALIC CAPITAL ", "J,K,L,M,N,O,P,Q,R,S,T,U,V,W,X,Y,Z"⟩,
    ⟨0x1d656, "MATHEMATICAL SANS-SERIF BOLD ITALIC SMALL ", "A,B,C,D,E,F,G,H"⟩,
    ⟨0x1d65e, "MATHEMATICAL SANS-SERIF BOLD ITALIC SMALL ", "I,J,K,L,M,N,O,P,Q,R,S,T,U,V,W,X,Y,Z"⟩,
    ⟨0x1d670, "MATHEMATICAL MONOSPACE CAPITAL ", "A,B,C,D,E,F,G,H,I,J,K,L,M,N,O,P,Q,R,S,T,U,V,W,X"⟩,
    ⟨0x1d688, "MATHEMATICAL MONOSPACE ", "CAPITAL Y,CAPITAL Z,SMALL A"⟩,
    ⟨0x1d68b, "MATHEMATICAL MONOSPACE SMALL ", "B,C,D,E,F,G,H,I,J,K,L,M,N,O,P,Q,R,S,T,U,V,W,X,Y,Z"⟩,
    ⟨0x1d6a4, "MATHEMATICAL ITALIC SMALL DOTLESS ", "I,J"⟩,
    ⟨0x1d6a8, "MATHEMATICAL BOLD CAPITAL ", "ALPHA,BETA,GAMMA,DELTA,EPSILON"⟩,
    ⟨0x1d6ad, "MATHEMATICAL BOLD CAPITAL ", "ZETA,ETA,THETA,IOTA,KAPPA,LAMDA,MU,NU,XI,OMICRON,PI"⟩,
    ⟨0x1d6b8, "MATHEMATICAL BOLD CAPITAL ", "RHO,THETA SYMBOL,SIGMA,TAU,UPSILON,PHI,CHI,PSI,OMEGA"⟩,
    ⟨0x1d6c1, "MATHEMATICAL BOLD ", "NABLA,SMALL ALPHA,SMALL BETA,SMALL GAMMA"⟩,
    ⟨0x1d6c5, "MATHEMATICAL BOLD SMALL ", "DELTA,EPSILON,ZETA,ETA,THETA,IOTA,KAPPA,LAMDA,MU,NU,XI"⟩,
    ⟨0x1d6d0, "MATHEMATICAL BOLD SMALL ", "OMICRON,PI,RHO,FINAL SIGMA,SIGMA,TAU,UPSILON,PHI,CHI"⟩,
    ⟨0x1d6d9, "MATHEMATICAL BOLD ", "SMALL PSI,SMALL OMEGA,PARTIAL DIFFERENTIAL,EPSILON SYMBOL"⟩,
    ⟨0x1d6dd, "MATHEMATICAL BOLD ", "THETA SYMBOL,KAPPA SYMBOL,PHI SYMBOL,RHO SYMBOL,PI SYMBOL"⟩,
    ⟨0x1d6e2, "MATHEMATICAL ITALIC CAPITAL ", "ALPHA,BETA,GAMMA,DELTA,EPSILON,ZETA"⟩,
    ⟨0x1d6e8, "MATHEMATICAL ITALIC CAPITAL ", "ETA,THETA,IOTA,KAPPA,LAMDA,MU,NU,XI,OMICRON,PI,RHO"⟩,
    ⟨0x1d6f3, "MATHEMATICAL ITALIC CAPITAL ", "THETA SYMBOL,SIGMA,TAU,UPSILON,PHI,CHI,PSI,OMEGA"⟩,
    ⟨0x1d6fb, "MATHEMATICAL ITALIC ", "NABLA,SMALL ALPHA,SMALL BETA,SMALL GAMMA,SMALL DELTA"⟩,
    ⟨0x1d700, "MATHEMATICAL ITALIC SMALL ", "EPSILON,ZETA,ETA,THETA,IOTA,KAPPA,LAMDA,MU,NU,XI"⟩,
    ⟨0x1d70a, "MATHEMATICAL ITALIC SMALL ", "OMICRON,PI,RHO,FINAL SIGMA,SIGMA,TAU,UPSILON,PHI,CHI"⟩,
    ⟨0x1d713, "MATHEMATICAL ITALIC ", "SMALL PSI,SMALL OMEGA,PARTIAL DIFFERENTIAL,EPSILON SYMBOL"⟩,
    ⟨0x1d717, "MATHEMATICAL ITALIC ", "THETA SYMBOL,KAPPA SYMBOL,PHI SYMBOL,RHO SYMBOL,PI SYMBOL"⟩,
    ⟨0x1d71c, "MATHEMATICAL BOLD ITALIC CAPITAL ", "ALPHA,BETA,GAMMA,DELTA,EPSILON,ZETA,ETA,THETA"⟩,
    ⟨0x1d724, "MATHEMATICAL BOLD ITALIC CAPITAL ", "IOTA,KAPPA,LAMDA,MU,NU,XI,OMICRON,PI,RHO"⟩,
    ⟨0x1d72d, "MATHEMATICAL BOLD ITALIC CAPITAL ", "THETA SYMBOL,SIGMA,TAU,UPSILON,PHI,CHI,PSI"⟩,
    ⟨0x1d734, "MATHEMATICAL BOLD ITALIC ", "CAPITAL OMEGA,NABLA"⟩,
    ⟨0x1d736, "MATHEMATICAL BOLD ITALIC SMALL ", "ALPHA,BETA,GAMMA,DELTA,EPSILON,ZETA,ETA"⟩,
    ⟨0x1d73d, "MATHEMATICAL BOLD ITALIC SMALL ", "THETA,IOTA,KAPPA,LAMDA,MU,NU,XI,OMICRON,PI,RHO"⟩,
    ⟨0x1d747, "MATHEMATICAL BOLD ITALIC SMALL ", "FINAL SIGMA,SIGMA,TAU,UPSILON,PHI,CHI,PSI,OMEGA"⟩,
    ⟨0x1d74f, "MATHEMATICAL BOLD ITALIC ", "PARTIAL DIFFERENTIAL,EPSILON SYMBOL,THETA SYMBOL"⟩,
    ⟨0x1d752, "MATHEMATICAL BOLD ITALIC ", "KAPPA SYMBOL,PHI SYMBOL,RHO SYMBOL,PI SYMBOL"⟩,
    ⟨0x1d756, "MATHEMATICAL SANS-SERIF BOLD CAPITAL ", "ALPHA,BETA,GAMMA,DELTA"⟩,
    ⟨0x1d75a, "MATHEMATICAL SANS-SERIF BOLD CAPITAL ", "EPSILON,ZETA,ETA,THETA,IOTA,KAPPA,LAMDA"⟩,
    ⟨0x1d761, "MATHEMATICAL SANS-SERIF BOLD CAPITAL ", "MU,NU,XI,OMICRON,PI,RHO,THETA SYMBOL"⟩,
    ⟨0x1d768, "MATHEMATICAL SANS-SERIF BOLD CAPITAL ", "SIGMA,TAU,UPSILON,PHI,CHI,PSI,OMEGA"⟩,
    ⟨0x1d76f, "MATHEMATICAL SANS-SERIF BOLD ", "NABLA,SMALL ALPHA,SMALL BETA,SMALL GAMMA"⟩,
    ⟨0x1d773, "MATHEMATICAL SANS-SERIF BOLD SMALL ", "DELTA,EPSILON,ZETA,ETA,THETA,IOTA,KAPPA"⟩,
    ⟨0x1d77a, "MATHEMATICAL SANS-SERIF BOLD SMALL ", "LAMDA,MU,NU,XI,OMICRON,PI,RHO,FINAL SIGMA"⟩,
    ⟨0x1d782, "MATHEMATICAL SANS-SERIF BOLD SMALL ", "SIGMA,TAU,UPSILON,PHI,CHI,PSI,OMEGA"⟩,
    ⟨0x1d789, "MATHEMATICAL SANS-SERIF BOLD ", "PARTIAL DIFFERENTIAL,EPSILON SYMBOL,THETA SYMBOL"⟩,
    ⟨0x1d78c, "MATHEMATICAL SANS-SERIF BOLD ", "KAPPA SYMBOL,PHI SYMBOL,RHO SYMBOL,PI SYMBOL"⟩,
    ⟨0x1d790, "MATHEMATICAL SANS-SERIF BOLD ITALIC CAPITAL ", "ALPHA,BETA,GAMMA,DELTA,EPSILON"⟩,
    ⟨0x1d795, "MATHEMATICAL SANS-SERIF BOLD ITALIC CAPITAL ", "ZETA,ETA,THETA,IOTA,KAPPA,LAMDA,MU"⟩,
    ⟨0x1d79c, "MATHEMATICAL SANS-SERIF BOLD ITALIC CAPITAL ", "NU,XI,OMICRON,PI,RHO,THETA SYMBOL"⟩,
    ⟨0x1d7a2, "MATHEMATICAL SANS-SERIF BOLD ITALIC CAPITAL ", "SIGMA,TAU,UPSILON,PHI,CHI,PSI"⟩,
    ⟨0x1d7a8, "MATHEMATICAL SANS-SERIF BOLD ITALIC ", "CAPITAL OMEGA,NABLA"⟩,
    ⟨0x1d7aa, "MATHEMATICAL SANS-SERIF BOLD ITALIC SMALL ", "ALPHA,BETA,GAMMA,DELTA,EPSILON"⟩,
    ⟨0x1d7af, "MATHEMATICAL SANS-SERIF BOLD ITALIC SMALL ", "ZETA,ETA,THETA,IOTA,KAPPA,LAMDA"⟩,
    ⟨0x1d7b5, "MATHEMATICAL SANS-SERIF BOLD ITALIC SMALL ", "MU,NU,XI,OMICRON,PI,RHO,FINAL SIGMA"⟩,
    ⟨0x1d7bc, "MATHEMATICAL SANS-SERIF BOLD ITALIC SMALL ", "SIGMA,TAU,UPSILON,PHI,CHI,PSI,OMEGA"⟩,
    ⟨0x1d7c3, "", "MATHEMATICAL SANS-SERIF BOLD ITALIC PARTIAL DIFFERENTIAL"⟩,
    ⟨0x1d7c4, "MATHEMATICAL SANS-SERIF BOLD ITALIC ", "EPSILON SYMBOL,THETA SYMBOL,KAPPA SYMBOL"⟩,
    ⟨0x1d7c7, "MATHEMATICAL SANS-SERIF BOLD ITALIC ", "PHI SYMBOL,RHO SYMBOL,PI SYMBOL"⟩,
    ⟨0x1d7ca, "MATHEMATICAL BOLD ", "CAPITAL DIGAMMA,SMALL DIGAMMA"⟩,
    ⟨0x1d7ce, "MATHEMATICAL BOLD DIGIT ", "ZERO,ONE,TWO,THREE,FOUR,FIVE,SIX,SEVEN,EIGHT,NINE"⟩,
    ⟨0x1d7d8, "", "MATHEMATICAL DOUBLE-STRUCK DIGIT ZERO"⟩,
    ⟨0x1d7d9, "MATHEMATICAL DOUBLE-STRUCK DIGIT ", "ONE,TWO,THREE,FOUR,FIVE,SIX,SEVEN,EIGHT,NINE"⟩,
    ⟨0x1d7e2, "MATHEMATICAL SANS-SERIF DIGIT ", "ZERO,ONE,TWO,THREE,FOUR,FIVE,SIX,SEVEN,EIGHT"⟩,
    ⟨0x1d7eb, "MATHEMATICAL SANS-SERIF ", "DIGIT NINE,BOLD DIGIT ZERO,BOLD DIGIT ONE"⟩,
    ⟨0x1d7ee, "MATHEMATICAL SANS-SERIF BOLD DIGIT ", "TWO,THREE,FOUR,FIVE,SIX,SEVEN,EIGHT,NINE"⟩,
    ⟨0x1d7f6, "MATHEMATICAL MONOSPACE DIGIT ", "ZERO,ONE,TWO,THREE,FOUR,FIVE,SIX,SEVEN,EIGHT,NINE"⟩,
    ⟨0x1d800, "", "SIGNWRITING HAND-FIST INDEX"⟩,
    ⟨0x1d801, "SIGNWRITING HAND-", "CIRCLE INDEX,CUP INDEX,OVAL INDEX,HINGE INDEX,ANGLE INDEX"⟩,
    ⟨0x1d806, "SIGNWRITING HAND-", "FIST INDEX BENT,CIRCLE INDEX BENT,FIST THUMB UNDER INDEX BENT"⟩,
    ⟨0x1d809, "SIGNWRITING HAND-FIST INDEX ", "RAISED KNUCKLE,CUPPED,HINGED,HINGED LOW"⟩,
    ⟨0x1d80d, "SIGNWRITING HAND-", "CIRCLE INDEX HINGE,FIST INDEX MIDDLE,CIRCLE INDEX MIDDLE"⟩,
    ⟨0x1d810, "SIGNWRITING HAND-FIST INDEX MIDDLE ", "BENT,RAISED KNUCKLES,HINGED"⟩,
    ⟨0x1d813, "SIGNWRITING HAND-FIST INDEX ", "UP MIDDLE HINGED,HINGED MIDDLE UP,MIDDLE CONJOINED"⟩,
    ⟨0x1d816, "SIGNWRITING HAND-FIST INDEX MIDDLE CONJOINED ", "INDEX BENT,MIDDLE BENT,CUPPED"⟩,
    ⟨0x1d819, "SIGNWRITING HAND-FIST INDEX MIDDLE ", "CONJOINED HINGED,CROSSED"⟩,
    ⟨0x1d81b, "SIGNWRITING HAND-", "CIRCLE INDEX MIDDLE CROSSED,FIST MIDDLE BENT OVER INDEX"⟩,
    ⟨0x1d81d, "SIGNWRITING HAND-FIST INDEX ", "BENT OVER MIDDLE,MIDDLE THUMB"⟩,
    ⟨0x1d81f, "", "SIGNWRITING HAND-CIRCLE INDEX MIDDLE THUMB"⟩,
    ⟨0x1d820, "SIGNWRITING HAND-FIST INDEX MIDDLE ", "STRAIGHT THUMB BENT,BENT THUMB STRAIGHT"⟩,
    ⟨0x1d822, "SIGNWRITING HAND-FIST INDEX MIDDLE ", "THUMB BENT,HINGED SPREAD THUMB SIDE"⟩,
    ⟨0x1d824, "SIGNWRITING HAND-FIST INDEX UP MIDDLE HINGED THUMB ", "SIDE,CONJOINED"⟩,
    ⟨0x1d826, "", "SIGNWRITING HAND-FIST INDEX HINGED MIDDLE UP THUMB SIDE"⟩,
    ⟨0x1d827, "", "SIGNWRITING HAND-FIST INDEX MIDDLE UP SPREAD THUMB FORWARD"⟩,
    ⟨0x1d828, "SIGNWRITING HAND-FIST INDEX MIDDLE THUMB ", "CUPPED,CIRCLED,HOOKED,HINGED"⟩,
    ⟨0x1d82c, "", "SIGNWRITING HAND-FIST THUMB BETWEEN INDEX MIDDLE STRAIGHT"⟩,
    ⟨0x1d82d, "", "SIGNWRITING HAND-FIST INDEX MIDDLE CONJOINED THUMB SIDE"⟩,
    ⟨0x1d82e, "SIGNWRITING HAND-FIST INDEX MIDDLE CONJOINED THUMB SIDE ", "CONJOINED,BENT"⟩,
    ⟨0x1d830, "", "SIGNWRITING HAND-FIST MIDDLE THUMB HOOKED INDEX UP"⟩,
    ⟨0x1d831, "", "SIGNWRITING HAND-FIST INDEX THUMB HOOKED MIDDLE UP"⟩,
    ⟨0x1d832, "", "SIGNWRITING HAND-FIST INDEX MIDDLE CONJOINED HINGED THUMB SIDE"⟩,
    ⟨0x1d833, "SIGNWRITING HAND-FIST INDEX MIDDLE ", "CROSSED THUMB SIDE,CONJOINED THUMB FORWARD"⟩,
    ⟨0x1d835, "", "SIGNWRITING HAND-FIST INDEX MIDDLE CONJOINED CUPPED THUMB FORWARD"⟩,
    ⟨0x1d836, "", "SIGNWRITING HAND-FIST MIDDLE THUMB CUPPED INDEX UP"⟩,
    ⟨0x1d837, "", "SIGNWRITING HAND-FIST INDEX THUMB CUPPED MIDDLE UP"⟩,
    ⟨0x1d838, "SIGNWRITING HAND-FIST MIDDLE THUMB CIRCLED INDEX ", "UP,HINGED"⟩,
    ⟨0x1d83a, "SIGNWRITING HAND-FIST INDEX THUMB ANGLED ", "OUT MIDDLE UP,IN MIDDLE UP"⟩,
    ⟨0x1d83c, "", "SIGNWRITING HAND-FIST INDEX THUMB CIRCLED MIDDLE UP"⟩,
    ⟨0x1d83d, "SIGNWRITING HAND-FIST INDEX MIDDLE THUMB ", "CONJOINED HINGED,ANGLED OUT,ANGLED"⟩,
    ⟨0x1d840, "SIGNWRITING HAND-FIST MIDDLE THUMB ANGLED OUT INDEX ", "UP,CROSSED"⟩,
    ⟨0x1d842, "", "SIGNWRITING HAND-FIST MIDDLE THUMB ANGLED INDEX UP"⟩,
    ⟨0x1d843, "SIGNWRITING HAND-", "FIST INDEX THUMB HOOKED MIDDLE HINGED,FLAT FOUR FINGERS"⟩,
    ⟨0x1d845, "SIGNWRITING HAND-FLAT FOUR FINGERS ", "BENT,HINGED,CONJOINED,CONJOINED SPLIT"⟩,
    ⟨0x1d849, "SIGNWRITING HAND-", "CLAW FOUR FINGERS CONJOINED,FIST FOUR FINGERS CONJOINED BENT"⟩,
    ⟨0x1d84b, "SIGNWRITING HAND-", "HINGE FOUR FINGERS CONJOINED,FLAT FIVE FINGERS SPREAD"⟩,
    ⟨0x1d84d, "SIGNWRITING HAND-FLAT ", "HEEL FIVE FINGERS SPREAD,FIVE FINGERS SPREAD FOUR BENT"⟩,
    ⟨0x1d84f, "", "SIGNWRITING HAND-FLAT HEEL FIVE FINGERS SPREAD FOUR BENT"⟩,
    ⟨0x1d850, "SIGNWRITING HAND-FLAT ", "FIVE FINGERS SPREAD BENT,HEEL FIVE FINGERS SPREAD BENT"⟩,
    ⟨0x1d852, "", "SIGNWRITING HAND-FLAT FIVE FINGERS SPREAD THUMB FORWARD"⟩,
    ⟨0x1d853, "SIGNWRITING HAND-CUP FIVE FINGERS ", "SPREAD,SPREAD OPEN"⟩,
    ⟨0x1d855, "SIGNWRITING HAND-", "HINGE FIVE FINGERS SPREAD OPEN,OVAL FIVE FINGERS SPREAD"⟩,
    ⟨0x1d857, "SIGNWRITING HAND-FLAT FIVE FINGERS SPREAD ", "HINGED,HINGED THUMB SIDE"⟩,
    ⟨0x1d859, "SIGNWRITING HAND-", "FLAT FIVE FINGERS SPREAD HINGED NO THUMB,FLAT"⟩,
    ⟨0x1d85b, "SIGNWRITING HAND-FLAT ", "BETWEEN PALM FACINGS,HEEL,THUMB SIDE,HEEL THUMB SIDE"⟩,
    ⟨0x1d85f, "SIGNWRITING HAND-FLAT ", "THUMB BENT,THUMB FORWARD,SPLIT INDEX THUMB SIDE"⟩,
    ⟨0x1d862, "SIGNWRITING HAND-FLAT SPLIT ", "CENTRE,CENTRE THUMB SIDE,CENTRE THUMB SIDE BENT"⟩,
    ⟨0x1d865, "SIGNWRITING HAND-", "FLAT SPLIT LITTLE,CLAW,CLAW THUMB SIDE,CLAW NO THUMB"⟩,
    ⟨0x1d869, "SIGNWRITING HAND-", "CLAW THUMB FORWARD,HOOK CURLICUE,HOOK,CUP OPEN,CUP"⟩,
    ⟨0x1d86e, "SIGNWRITING HAND-CUP ", "OPEN THUMB SIDE,THUMB SIDE,OPEN NO THUMB,NO THUMB"⟩,
    ⟨0x1d872, "SIGNWRITING HAND-", "CUP OPEN THUMB FORWARD,CUP THUMB FORWARD,CURLICUE OPEN"⟩,
    ⟨0x1d875, "SIGNWRITING HAND-", "CURLICUE,CIRCLE,OVAL,OVAL THUMB SIDE,OVAL NO THUMB"⟩,
    ⟨0x1d87a, "SIGNWRITING HAND-", "OVAL THUMB FORWARD,HINGE OPEN,HINGE OPEN THUMB FORWARD,HINGE"⟩,
    ⟨0x1d87e, "SIGNWRITING HAND-HINGE ", "SMALL,OPEN THUMB SIDE,THUMB SIDE,OPEN NO THUMB,NO THUMB"⟩,
    ⟨0x1d883, "SIGNWRITING HAND-HINGE THUMB ", "SIDE TOUCHING INDEX,BETWEEN MIDDLE RING"⟩,
    ⟨0x1d885, "SIGNWRITING HAND-", "ANGLE,FIST INDEX MIDDLE RING,CIRCLE INDEX MIDDLE RING"⟩,
    ⟨0x1d888, "SIGNWRITING HAND-", "HINGE INDEX MIDDLE RING,ANGLE INDEX MIDDLE RING,HINGE LITTLE"⟩,
    ⟨0x1d88b, "SIGNWRITING HAND-FIST INDEX MIDDLE RING ", "BENT,CONJOINED"⟩,
    ⟨0x1d88d, "SIGNWRITING HAND-", "HINGE INDEX MIDDLE RING CONJOINED,FIST LITTLE DOWN"⟩,
    ⟨0x1d88f, "SIGNWRITING HAND-FIST LITTLE DOWN ", "RIPPLE STRAIGHT,RIPPLE CURVED,OTHERS CIRCLED"⟩,
    ⟨0x1d892, "SIGNWRITING HAND-FIST ", "LITTLE UP,THUMB UNDER LITTLE UP"⟩,
    ⟨0x1d894, "SIGNWRITING HAND-", "CIRCLE LITTLE UP,OVAL LITTLE UP,ANGLE LITTLE UP"⟩,
    ⟨0x1d897, "SIGNWRITING HAND-FIST LITTLE ", "RAISED KNUCKLE,BENT,TOUCHES THUMB,THUMB"⟩,
    ⟨0x1d89b, "", "SIGNWRITING HAND-HINGE LITTLE THUMB"⟩,
    ⟨0x1d89c, "SIGNWRITING HAND-", "FIST LITTLE INDEX THUMB,HINGE LITTLE INDEX THUMB"⟩,
    ⟨0x1d89e, "SIGNWRITING HAND-ANGLE LITTLE INDEX THUMB INDEX ", "THUMB OUT,THUMB"⟩,
    ⟨0x1d8a0, "", "SIGNWRITING HAND-FIST LITTLE INDEX"⟩,
    ⟨0x1d8a1, "SIGNWRITING HAND-", "CIRCLE LITTLE INDEX,HINGE LITTLE INDEX,ANGLE LITTLE INDEX"⟩,
    ⟨0x1d8a4, "SIGNWRITING HAND-", "FIST INDEX MIDDLE LITTLE,CIRCLE INDEX MIDDLE LITTLE"⟩,
    ⟨0x1d8a6, "SIGNWRITING HAND-HINGE ", "INDEX MIDDLE LITTLE,RING"⟩,
    ⟨0x1d8a8, "SIGNWRITING HAND-", "ANGLE INDEX MIDDLE LITTLE,FIST INDEX MIDDLE CROSS LITTLE"⟩,
    ⟨0x1d8aa, "", "SIGNWRITING HAND-CIRCLE INDEX MIDDLE CROSS LITTLE"⟩,
    ⟨0x1d8ab, "SIGNWRITING HAND-", "FIST RING DOWN,HINGE RING DOWN INDEX THUMB HOOK MIDDLE"⟩,
    ⟨0x1d8ad, "SIGNWRITING HAND-", "ANGLE RING DOWN MIDDLE THUMB INDEX CROSS,FIST RING UP"⟩,
    ⟨0x1d8af, "SIGNWRITING HAND-", "FIST RING RAISED KNUCKLE,FIST RING LITTLE,CIRCLE RING LITTLE"⟩,
    ⟨0x1d8b2, "SIGNWRITING HAND-", "OVAL RING LITTLE,ANGLE RING LITTLE,FIST RING MIDDLE"⟩,
    ⟨0x1d8b5, "SIGNWRITING HAND-FIST RING ", "MIDDLE CONJOINED,MIDDLE RAISED KNUCKLES,INDEX,THUMB"⟩,
    ⟨0x1d8b9, "SIGNWRITING HAND-", "HOOK RING THUMB,FIST INDEX RING LITTLE"⟩,
    ⟨0x1d8bb, "SIGNWRITING HAND-", "CIRCLE INDEX RING LITTLE,CURLICUE INDEX RING LITTLE ON"⟩,
    ⟨0x1d8bd, "SIGNWRITING HAND-HOOK INDEX RING LITTLE ", "OUT,IN,UNDER"⟩,
    ⟨0x1d8c0, "SIGNWRITING HAND-", "CUP INDEX RING LITTLE,HINGE INDEX RING LITTLE"⟩,
    ⟨0x1d8c2, "SIGNWRITING HAND-ANGLE INDEX RING ", "LITTLE OUT,LITTLE"⟩,
    ⟨0x1d8c4, "SIGNWRITING HAND-", "FIST MIDDLE DOWN,HINGE MIDDLE,FIST MIDDLE UP,CIRCLE MIDDLE UP"⟩,
    ⟨0x1d8c8, "SIGNWRITING HAND-FIST MIDDLE ", "RAISED KNUCKLE,UP THUMB SIDE"⟩,
    ⟨0x1d8ca, "", "SIGNWRITING HAND-HOOK MIDDLE THUMB"⟩,
    ⟨0x1d8cb, "SIGNWRITING HAND-FIST MIDDLE ", "THUMB LITTLE,LITTLE,RING LITTLE"⟩,
    ⟨0x1d8ce, "SIGNWRITING HAND-", "CIRCLE MIDDLE RING LITTLE,CURLICUE MIDDLE RING LITTLE ON"⟩,
    ⟨0x1d8d0, "SIGNWRITING HAND-", "CUP MIDDLE RING LITTLE,HINGE MIDDLE RING LITTLE"⟩,
    ⟨0x1d8d2, "SIGNWRITING HAND-ANGLE MIDDLE RING ", "LITTLE OUT,LITTLE IN,LITTLE"⟩,
    ⟨0x1d8d5, "", "SIGNWRITING HAND-CIRCLE MIDDLE RING LITTLE BENT"⟩,
    ⟨0x1d8d6, "SIGNWRITING HAND-CLAW MIDDLE RING LITTLE ", "CONJOINED,CONJOINED SIDE"⟩,
    ⟨0x1d8d8, "SIGNWRITING HAND-HOOK MIDDLE RING LITTLE ", "CONJOINED OUT,CONJOINED IN,CONJOINED"⟩,
    ⟨0x1d8db, "", "SIGNWRITING HAND-HINGE INDEX HINGED"⟩,
    ⟨0x1d8dc, "SIGNWRITING HAND-", "FIST INDEX THUMB SIDE,HINGE INDEX THUMB SIDE"⟩,
    ⟨0x1d8de, "SIGNWRITING HAND-FIST INDEX THUMB SIDE THUMB ", "DIAGONAL,CONJOINED,BENT"⟩,
    ⟨0x1d8e1, "SIGNWRITING HAND-FIST INDEX THUMB SIDE ", "INDEX BENT,BOTH BENT,INDEX HINGE"⟩,
    ⟨0x1d8e4, "SIGNWRITING HAND-FIST INDEX THUMB FORWARD INDEX ", "STRAIGHT,BENT"⟩,
    ⟨0x1d8e6, "SIGNWRITING HAND-FIST INDEX THUMB ", "HOOK,CURLICUE,CURVE THUMB INSIDE"⟩,
    ⟨0x1d8e9, "", "SIGNWRITING HAND-CLAW INDEX THUMB CURVE THUMB INSIDE"⟩,
    ⟨0x1d8ea, "SIGNWRITING HAND-FIST INDEX THUMB ", "CURVE THUMB UNDER,CIRCLE"⟩,
    ⟨0x1d8ec, "SIGNWRITING HAND-CUP INDEX ", "THUMB,THUMB OPEN"⟩,
    ⟨0x1d8ee, "SIGNWRITING HAND-HINGE INDEX ", "THUMB OPEN,THUMB LARGE,THUMB,THUMB SMALL"⟩,
    ⟨0x1d8f2, "SIGNWRITING HAND-ANGLE INDEX ", "THUMB OUT,THUMB IN,THUMB"⟩,
    ⟨0x1d8f5, "SIGNWRITING HAND-FIST ", "THUMB,THUMB HEEL"⟩,
    ⟨0x1d8f7, "SIGNWRITING HAND-FIST THUMB ", "SIDE DIAGONAL,SIDE CONJOINED,SIDE BENT,FORWARD"⟩,
    ⟨0x1d8fb, "SIGNWRITING HAND-FIST THUMB BETWEEN ", "INDEX MIDDLE,MIDDLE RING,RING LITTLE"⟩,
    ⟨0x1d8fe, "SIGNWRITING HAND-FIST THUMB ", "UNDER TWO FINGERS,OVER TWO FINGERS"⟩,
    ⟨0x1d900, "SIGNWRITING HAND-FIST THUMB UNDER ", "THREE FINGERS,FOUR FINGERS"⟩,
    ⟨0x1d902, "SIGNWRITING HAND-", "FIST THUMB OVER FOUR RAISED KNUCKLES,FIST,FIST HEEL"⟩,
    ⟨0x1d905, "SIGNWRITING TOUCH ", "SINGLE,MULTIPLE,BETWEEN"⟩,
    ⟨0x1d908, "SIGNWRITING GRASP ", "SINGLE,MULTIPLE,BETWEEN"⟩,
    ⟨0x1d90b, "SIGNWRITING STRIKE ", "SINGLE,MULTIPLE,BETWEEN"⟩,
    ⟨0x1d90e, "SIGNWRITING ", "BRUSH SINGLE,BRUSH MULTIPLE,BRUSH BETWEEN,RUB SINGLE,RUB MULTIPLE"⟩,
    ⟨0x1d913, "SIGNWRITING ", "RUB BETWEEN,SURFACE SYMBOLS,SURFACE BETWEEN,SQUEEZE LARGE SINGLE"⟩,
    ⟨0x1d917, "SIGNWRITING SQUEEZE ", "SMALL SINGLE,LARGE MULTIPLE,SMALL MULTIPLE,SEQUENTIAL"⟩,
    ⟨0x1d91b, "SIGNWRITING FLICK ", "LARGE SINGLE,SMALL SINGLE,LARGE MULTIPLE,SMALL MULTIPLE"⟩,
    ⟨0x1d91f, "SIGNWRITING ", "FLICK SEQUENTIAL,SQUEEZE FLICK ALTERNATING"⟩,
    ⟨0x1d921, "SIGNWRITING MOVEMENT-HINGE UP ", "DOWN LARGE,DOWN SMALL,SEQUENTIAL"⟩,
    ⟨0x1d924, "SIGNWRITING MOVEMENT-HINGE ", "DOWN SEQUENTIAL,UP DOWN ALTERNATING LARGE"⟩,
    ⟨0x1d926, "SIGNWRITING MOVEMENT-HINGE ", "UP DOWN ALTERNATING SMALL,SIDE TO SIDE SCISSORS"⟩,
    ⟨0x1d928, "SIGNWRITING MOVEMENT-", "WALLPLANE FINGER CONTACT,FLOORPLANE FINGER CONTACT"⟩,
    ⟨0x1d92a, "SIGNWRITING MOVEMENT-WALLPLANE SINGLE STRAIGHT ", "SMALL,MEDIUM,LARGE,LARGEST"⟩,
    ⟨0x1d92e, "", "SIGNWRITING MOVEMENT-WALLPLANE SINGLE WRIST FLEX"⟩,
    ⟨0x1d92f, "SIGNWRITING MOVEMENT-WALLPLANE DOUBLE ", "STRAIGHT,WRIST FLEX,ALTERNATING"⟩,
    ⟨0x1d932, "SIGNWRITING MOVEMENT-WALLPLANE ", "DOUBLE ALTERNATING WRIST FLEX,CROSS"⟩,
    ⟨0x1d934, "SIGNWRITING MOVEMENT-WALLPLANE TRIPLE ", "STRAIGHT MOVEMENT,WRIST FLEX"⟩,
    ⟨0x1d936, "SIGNWRITING MOVEMENT-WALLPLANE TRIPLE ", "ALTERNATING,ALTERNATING WRIST FLEX"⟩,
    ⟨0x1d938, "SIGNWRITING MOVEMENT-WALLPLANE BEND ", "SMALL,MEDIUM,LARGE"⟩,
    ⟨0x1d93b, "SIGNWRITING MOVEMENT-WALLPLANE CORNER ", "SMALL,MEDIUM,LARGE,ROTATION"⟩,
    ⟨0x1d93f, "SIGNWRITING MOVEMENT-WALLPLANE CHECK ", "SMALL,MEDIUM,LARGE"⟩,
    ⟨0x1d942, "SIGNWRITING MOVEMENT-WALLPLANE BOX ", "SMALL,MEDIUM,LARGE"⟩,
    ⟨0x1d945, "SIGNWRITING MOVEMENT-WALLPLANE ZIGZAG ", "SMALL,MEDIUM,LARGE"⟩,
    ⟨0x1d948, "SIGNWRITING MOVEMENT-WALLPLANE PEAKS ", "SMALL,MEDIUM,LARGE"⟩,
    ⟨0x1d94b, "SIGNWRITING TRAVEL-WALLPLANE ROTATION-WALLPLANE ", "SINGLE,DOUBLE,ALTERNATING"⟩,
    ⟨0x1d94e, "SIGNWRITING TRAVEL-WALLPLANE ROTATION-FLOORPLANE ", "SINGLE,DOUBLE,ALTERNATING"⟩,
    ⟨0x1d951, "", "SIGNWRITING TRAVEL-WALLPLANE SHAKING"⟩,
    ⟨0x1d952, "SIGNWRITING TRAVEL-WALLPLANE ARM SPIRAL ", "SINGLE,DOUBLE,TRIPLE"⟩,
    ⟨0x1d955, "SIGNWRITING MOVEMENT-DIAGONAL AWAY ", "SMALL,MEDIUM,LARGE,LARGEST"⟩,
    ⟨0x1d959, "SIGNWRITING MOVEMENT-DIAGONAL TOWARDS ", "SMALL,MEDIUM,LARGE,LARGEST"⟩,
    ⟨0x1d95d, "SIGNWRITING MOVEMENT-DIAGONAL BETWEEN AWAY ", "SMALL,MEDIUM,LARGE,LARGEST"⟩,
    ⟨0x1d961, "SIGNWRITING MOVEMENT-DIAGONAL BETWEEN TOWARDS ", "SMALL,MEDIUM,LARGE,LARGEST"⟩,
    ⟨0x1d965, "SIGNWRITING MOVEMENT-FLOORPLANE SINGLE STRAIGHT ", "SMALL,MEDIUM,LARGE,LARGEST"⟩,
    ⟨0x1d969, "", "SIGNWRITING MOVEMENT-FLOORPLANE SINGLE WRIST FLEX"⟩,
    ⟨0x1d96a, "SIGNWRITING MOVEMENT-FLOORPLANE DOUBLE ", "STRAIGHT,WRIST FLEX,ALTERNATING"⟩,
    ⟨0x1d96d, "SIGNWRITING MOVEMENT-FLOORPLANE ", "DOUBLE ALTERNATING WRIST FLEX,CROSS"⟩,
    ⟨0x1d96f, "SIGNWRITING MOVEMENT-FLOORPLANE TRIPLE ", "STRAIGHT MOVEMENT,WRIST FLEX"⟩,
    ⟨0x1d971, "SIGNWRITING MOVEMENT-FLOORPLANE TRIPLE ALTERNATING ", "MOVEMENT,WRIST FLEX"⟩,
    ⟨0x1d973, "SIGNWRITING MOVEMENT-FLOORPLANE ", "BEND,CORNER SMALL,CORNER MEDIUM,CORNER LARGE"⟩,
    ⟨0x1d977, "SIGNWRITING MOVEMENT-FLOORPLANE ", "CHECK,BOX SMALL,BOX MEDIUM,BOX LARGE"⟩,
    ⟨0x1d97b, "SIGNWRITING MOVEMENT-FLOORPLANE ZIGZAG ", "SMALL,MEDIUM,LARGE"⟩,
    ⟨0x1d97e, "SIGNWRITING MOVEMENT-FLOORPLANE PEAKS ", "SMALL,MEDIUM,LARGE"⟩,
    ⟨0x1d981, "SIGNWRITING TRAVEL-FLOORPLANE ROTATION-FLOORPLANE ", "SINGLE,DOUBLE,ALTERNATING"⟩,
    ⟨0x1d984, "SIGNWRITING TRAVEL-FLOORPLANE ROTATION-WALLPLANE ", "SINGLE,DOUBLE,ALTERNATING"⟩,
    ⟨0x1d987, "", "SIGNWRITING TRAVEL-FLOORPLANE SHAKING"⟩,
    ⟨0x1d988, "SIGNWRITING MOVEMENT-WALLPLANE CURVE QUARTER ", "SMALL,MEDIUM,LARGE,LARGEST"⟩,
    ⟨0x1d98c, "SIGNWRITING MOVEMENT-WALLPLANE CURVE HALF-CIRCLE ", "SMALL,MEDIUM,LARGE,LARGEST"⟩,
    ⟨0x1d990, "SIGNWRITING MOVEMENT-WALLPLANE CURVE THREE-QUARTER CIRCLE ", "SMALL,MEDIUM"⟩,
    ⟨0x1d992, "SIGNWRITING MOVEMENT-WALLPLANE HUMP ", "SMALL,MEDIUM,LARGE"⟩,
    ⟨0x1d995, "SIGNWRITING MOVEMENT-WALLPLANE LOOP ", "SMALL,MEDIUM,LARGE,SMALL DOUBLE"⟩,
    ⟨0x1d999, "SIGNWRITING MOVEMENT-WALLPLANE WAVE CURVE DOUBLE ", "SMALL,MEDIUM,LARGE"⟩,
    ⟨0x1d99c, "SIGNWRITING MOVEMENT-WALLPLANE WAVE CURVE TRIPLE ", "SMALL,MEDIUM,LARGE"⟩,
    ⟨0x1d99f, "", "SIGNWRITING MOVEMENT-WALLPLANE CURVE THEN STRAIGHT"⟩,
    ⟨0x1d9a0, "SIGNWRITING MOVEMENT-WALLPLANE CURVED CROSS ", "SMALL,MEDIUM"⟩,
    ⟨0x1d9a2, "SIGNWRITING ROTATION-WALLPLANE ", "SINGLE,DOUBLE,ALTERNATE"⟩,
    ⟨0x1d9a5, "SIGNWRITING MOVEMENT-WALLPLANE ", "SHAKING,CURVE HITTING FRONT WALL"⟩,
    ⟨0x1d9a7, "", "SIGNWRITING MOVEMENT-WALLPLANE HUMP HITTING FRONT WALL"⟩,
    ⟨0x1d9a8, "SIGNWRITING MOVEMENT-WALLPLANE ", "LOOP HITTING FRONT WALL,WAVE HITTING FRONT WALL"⟩,
    ⟨0x1d9aa, "", "SIGNWRITING ROTATION-WALLPLANE SINGLE HITTING FRONT WALL"⟩,
    ⟨0x1d9ab, "", "SIGNWRITING ROTATION-WALLPLANE DOUBLE HITTING FRONT WALL"⟩,
    ⟨0x1d9ac, "", "SIGNWRITING ROTATION-WALLPLANE ALTERNATING HITTING FRONT WALL"⟩,
    ⟨0x1d9ad, "SIGNWRITING MOVEMENT-WALLPLANE ", "CURVE HITTING CHEST,HUMP HITTING CHEST"⟩,
    ⟨0x1d9af, "SIGNWRITING MOVEMENT-WALLPLANE ", "LOOP HITTING CHEST,WAVE HITTING CHEST"⟩,
    ⟨0x1d9b1, "", "SIGNWRITING ROTATION-WALLPLANE SINGLE HITTING CHEST"⟩,
    ⟨0x1d9b2, "SIGNWRITING ROTATION-WALLPLANE ", "DOUBLE HITTING CHEST,ALTERNATING HITTING CHEST"⟩,
    ⟨0x1d9b4, "SIGNWRITING MOVEMENT-WALLPLANE WAVE DIAGONAL PATH ", "SMALL,MEDIUM,LARGE"⟩,
    ⟨0x1d9b7, "SIGNWRITING MOVEMENT-FLOORPLANE CURVE HITTING CEILING ", "SMALL,LARGE"⟩,
    ⟨0x1d9b9, "SIGNWRITING MOVEMENT-FLOORPLANE HUMP HITTING CEILING ", "SMALL DOUBLE,LARGE DOUBLE"⟩,
    ⟨0x1d9bb, "SIGNWRITING MOVEMENT-FLOORPLANE HUMP HITTING CEILING ", "SMALL TRIPLE,LARGE TRIPLE"⟩,
    ⟨0x1d9bd, "SIGNWRITING MOVEMENT-FLOORPLANE LOOP HITTING CEILING ", "SMALL SINGLE,LARGE SINGLE"⟩,
    ⟨0x1d9bf, "SIGNWRITING MOVEMENT-FLOORPLANE LOOP HITTING CEILING ", "SMALL DOUBLE,LARGE DOUBLE"⟩,
    ⟨0x1d9c1, "SIGNWRITING MOVEMENT-FLOORPLANE WAVE HITTING CEILING ", "SMALL,LARGE"⟩,
    ⟨0x1d9c3, "SIGNWRITING ROTATION-FLOORPLANE ", "SINGLE HITTING CEILING,DOUBLE HITTING CEILING"⟩,
    ⟨0x1d9c5, "", "SIGNWRITING ROTATION-FLOORPLANE ALTERNATING HITTING CEILING"⟩,
    ⟨0x1d9c6, "SIGNWRITING MOVEMENT-FLOORPLANE CURVE HITTING FLOOR ", "SMALL,LARGE"⟩,
    ⟨0x1d9c8, "SIGNWRITING MOVEMENT-FLOORPLANE HUMP HITTING FLOOR ", "SMALL DOUBLE,LARGE DOUBLE"⟩,
    ⟨0x1d9ca, "", "SIGNWRITING MOVEMENT-FLOORPLANE HUMP HITTING FLOOR TRIPLE SMALL TRIPLE"⟩,
    ⟨0x1d9cb, "", "SIGNWRITING MOVEMENT-FLOORPLANE HUMP HITTING FLOOR TRIPLE LARGE TRIPLE"⟩,
    ⟨0x1d9cc, "SIGNWRITING MOVEMENT-FLOORPLANE LOOP HITTING FLOOR ", "SMALL SINGLE,LARGE SINGLE"⟩,
    ⟨0x1d9ce, "SIGNWRITING MOVEMENT-FLOORPLANE LOOP HITTING FLOOR ", "SMALL DOUBLE,LARGE DOUBLE"⟩,
    ⟨0x1d9d0, "SIGNWRITING MOVEMENT-FLOORPLANE WAVE HITTING FLOOR ", "SMALL,LARGE"⟩,
    ⟨0x1d9d2, "", "SIGNWRITING ROTATION-FLOORPLANE SINGLE HITTING FLOOR"⟩,
    ⟨0x1d9d3, "SIGNWRITING ROTATION-FLOORPLANE ", "DOUBLE HITTING FLOOR,ALTERNATING HITTING FLOOR"⟩,
    ⟨0x1d9d5, "SIGNWRITING MOVEMENT-FLOORPLANE CURVE ", "SMALL,MEDIUM,LARGE,LARGEST,COMBINED"⟩,
    ⟨0x1d9da, "SIGNWRITING MOVEMENT-FLOORPLANE ", "HUMP SMALL,LOOP SMALL"⟩,
    ⟨0x1d9dc, "SIGNWRITING MOVEMENT-FLOORPLANE WAVE ", "SNAKE,SMALL,LARGE"⟩,
    ⟨0x1d9df, "SIGNWRITING ROTATION-FLOORPLANE ", "SINGLE,DOUBLE,ALTERNATING"⟩,
    ⟨0x1d9e2, "", "SIGNWRITING MOVEMENT-FLOORPLANE SHAKING PARALLEL"⟩,
    ⟨0x1d9e3, "SIGNWRITING MOVEMENT-WALLPLANE ARM CIRCLE ", "SMALL SINGLE,MEDIUM SINGLE"⟩,
    ⟨0x1d9e5, "SIGNWRITING MOVEMENT-WALLPLANE ARM CIRCLE ", "SMALL DOUBLE,MEDIUM DOUBLE"⟩,
    ⟨0x1d9e7, "", "SIGNWRITING MOVEMENT-FLOORPLANE ARM CIRCLE HITTING WALL SMALL SINGLE"⟩,
    ⟨0x1d9e8, "", "SIGNWRITING MOVEMENT-FLOORPLANE ARM CIRCLE HITTING WALL MEDIUM SINGLE"⟩,
    ⟨0x1d9e9, "", "SIGNWRITING MOVEMENT-FLOORPLANE ARM CIRCLE HITTING WALL LARGE SINGLE"⟩,
    ⟨0x1d9ea, "", "SIGNWRITING MOVEMENT-FLOORPLANE ARM CIRCLE HITTING WALL SMALL DOUBLE"⟩,
    ⟨0x1d9eb, "", "SIGNWRITING MOVEMENT-FLOORPLANE ARM CIRCLE HITTING WALL MEDIUM DOUBLE"⟩,
    ⟨0x1d9ec, "", "SIGNWRITING MOVEMENT-FLOORPLANE ARM CIRCLE HITTING WALL LARGE DOUBLE"⟩,
    ⟨0x1d9ed, "SIGNWRITING MOVEMENT-WALLPLANE WRIST CIRCLE FRONT ", "SINGLE,DOUBLE"⟩,
    ⟨0x1d9ef, "SIGNWRITING MOVEMENT-FLOORPLANE WRIST CIRCLE HITTING WALL ", "SINGLE,DOUBLE"⟩,
    ⟨0x1d9f1, "SIGNWRITING MOVEMENT-WALLPLANE FINGER CIRCLES ", "SINGLE,DOUBLE"⟩,
    ⟨0x1d9f3, "SIGNWRITING MOVEMENT-FLOORPLANE FINGER CIRCLES HITTING WALL ", "SINGLE,DOUBLE"⟩,
    ⟨0x1d9f5, "SIGNWRITING DYNAMIC ", "ARROWHEAD SMALL,ARROWHEAD LARGE,FAST,SLOW,TENSE,RELAXED"⟩,
    ⟨0x1d9fb, "SIGNWRITING DYNAMIC ", "SIMULTANEOUS,SIMULTANEOUS ALTERNATING,EVERY OTHER TIME"⟩,
    ⟨0x1d9fe, "SIGNWRITING ", "DYNAMIC GRADUAL,HEAD,HEAD RIM"⟩,
    ⟨0x1da01, "SIGNWRITING HEAD MOVEMENT-WALLPLANE ", "STRAIGHT,TILT"⟩,
    ⟨0x1da03, "SIGNWRITING HEAD MOVEMENT-", "FLOORPLANE STRAIGHT,WALLPLANE CURVE,FLOORPLANE CURVE"⟩,
    ⟨0x1da06, "SIGNWRITING ", "HEAD MOVEMENT CIRCLE,FACE DIRECTION POSITION NOSE FORWARD TILTING"⟩,
    ⟨0x1da08, "SIGNWRITING FACE DIRECTION POSITION NOSE UP OR ", "DOWN,DOWN TILTING"⟩,
    ⟨0x1da0a, "SIGNWRITING EYEBROWS STRAIGHT ", "UP,NEUTRAL,DOWN"⟩,
    ⟨0x1da0d, "SIGNWRITING DREAMY EYEBROWS ", "NEUTRAL DOWN,DOWN NEUTRAL,UP NEUTRAL,NEUTRAL UP"⟩,
    ⟨0x1da11, "SIGNWRITING ", "FOREHEAD NEUTRAL,FOREHEAD CONTACT,FOREHEAD WRINKLED,EYES OPEN"⟩,
    ⟨0x1da15, "SIGNWRITING ", "EYES SQUEEZED,EYES CLOSED,EYE BLINK SINGLE,EYE BLINK MULTIPLE"⟩,
    ⟨0x1da19, "SIGNWRITING EYES ", "HALF OPEN,WIDE OPEN,HALF CLOSED,WIDENING MOVEMENT"⟩,
    ⟨0x1da1d, "SIGNWRITING ", "EYE WINK,EYELASHES UP,EYELASHES DOWN,EYELASHES FLUTTERING"⟩,
    ⟨0x1da21, "SIGNWRITING EYEGAZE-WALLPLANE ", "STRAIGHT,STRAIGHT DOUBLE,STRAIGHT ALTERNATING"⟩,
    ⟨0x1da24, "SIGNWRITING EYEGAZE-FLOORPLANE ", "STRAIGHT,STRAIGHT DOUBLE,STRAIGHT ALTERNATING"⟩,
    ⟨0x1da27, "SIGNWRITING EYEGAZE-", "WALLPLANE CURVED,FLOORPLANE CURVED,WALLPLANE CIRCLING"⟩,
    ⟨0x1da2a, "SIGNWRITING ", "CHEEKS PUFFED,CHEEKS NEUTRAL,CHEEKS SUCKED,TENSE CHEEKS HIGH"⟩,
    ⟨0x1da2e, "SIGNWRITING ", "TENSE CHEEKS MIDDLE,TENSE CHEEKS LOW,EARS,NOSE NEUTRAL"⟩,
    ⟨0x1da32, "SIGNWRITING ", "NOSE CONTACT,NOSE WRINKLES,NOSE WIGGLES,AIR BLOWING OUT"⟩,
    ⟨0x1da36, "SIGNWRITING AIR ", "SUCKING IN,BLOW SMALL ROTATIONS,SUCK SMALL ROTATIONS"⟩,
    ⟨0x1da39, "SIGNWRITING ", "BREATH INHALE,BREATH EXHALE,MOUTH CLOSED NEUTRAL"⟩,
    ⟨0x1da3c, "SIGNWRITING MOUTH ", "CLOSED FORWARD,CLOSED CONTACT,SMILE,SMILE WRINKLED"⟩,
    ⟨0x1da40, "SIGNWRITING MOUTH ", "SMILE OPEN,FROWN,FROWN WRINKLED,FROWN OPEN,OPEN CIRCLE"⟩,
    ⟨0x1da45, "SIGNWRITING MOUTH OPEN ", "FORWARD,WRINKLED,OVAL,OVAL WRINKLED,OVAL YAWN,RECTANGLE"⟩,
    ⟨0x1da4b, "SIGNWRITING MOUTH ", "OPEN RECTANGLE WRINKLED,OPEN RECTANGLE YAWN,KISS"⟩,
    ⟨0x1da4e, "SIGNWRITING MOUTH ", "KISS FORWARD,KISS WRINKLED,TENSE,TENSE FORWARD,TENSE SUCKED"⟩,
    ⟨0x1da53, "SIGNWRITING ", "LIPS PRESSED TOGETHER,LIP LOWER OVER UPPER,LIP UPPER OVER LOWER"⟩,
    ⟨0x1da56, "SIGNWRITING MOUTH ", "CORNERS,WRINKLES SINGLE,WRINKLES DOUBLE"⟩,
    ⟨0x1da59, "SIGNWRITING TONGUE ", "STICKING OUT FAR,LICKING LIPS,TIP BETWEEN LIPS"⟩,
    ⟨0x1da5c, "SIGNWRITING TONGUE ", "TIP TOUCHING INSIDE MOUTH,INSIDE MOUTH RELAXED"⟩,
    ⟨0x1da5e, "SIGNWRITING TONGUE ", "MOVES AGAINST CHEEK,CENTRE STICKING OUT,CENTRE INSIDE MOUTH"⟩,
    ⟨0x1da61, "SIGNWRITING ", "TEETH,TEETH MOVEMENT"⟩,
    ⟨0x1da63, "SIGNWRITING TEETH ON ", "TONGUE,TONGUE MOVEMENT,LIPS,LIPS MOVEMENT"⟩,
    ⟨0x1da67, "SIGNWRITING ", "TEETH BITE LIPS,MOVEMENT-WALLPLANE JAW,MOVEMENT-FLOORPLANE JAW"⟩,
    ⟨0x1da6a, "SIGNWRITING ", "NECK,HAIR,EXCITEMENT,SHOULDER HIP SPINE,SHOULDER HIP POSITIONS"⟩,
    ⟨0x1da6f, "SIGNWRITING ", "WALLPLANE SHOULDER HIP MOVE,FLOORPLANE SHOULDER HIP MOVE"⟩,
    ⟨0x1da71, "SIGNWRITING ", "SHOULDER TILTING FROM WAIST,TORSO-WALLPLANE STRAIGHT STRETCH"⟩,
    ⟨0x1da73, "SIGNWRITING TORSO-", "WALLPLANE CURVED BEND,FLOORPLANE TWISTING"⟩,
    ⟨0x1da75, "SIGNWRITING ", "UPPER BODY TILTING FROM HIP JOINTS,LIMB COMBINATION"⟩,
    ⟨0x1da77, "SIGNWRITING LIMB LENGTH-", "1,2,3,4,5,6,7"⟩,
    ⟨0x1da7e, "SIGNWRITING ", "FINGER,LOCATION-WALLPLANE SPACE,LOCATION-FLOORPLANE SPACE"⟩,
    ⟨0x1da81, "SIGNWRITING LOCATION ", "HEIGHT,WIDTH,DEPTH,HEAD NECK,TORSO,LIMBS DIGITS"⟩,
    ⟨0x1da87, "SIGNWRITING ", "COMMA,FULL STOP,SEMICOLON,COLON,PARENTHESIS"⟩,
    ⟨0x1da9b, "SIGNWRITING FILL MODIFIER-", "2,3,4,5,6"⟩,
    ⟨0x1daa1, "SIGNWRITING ROTATION MODIFIER-", "2,3,4,5,6,7,8,9,10,11,12,13,14,15,16"⟩,
    ⟨0x1df00, "LATIN SMALL LETTER ", "FENG DIGRAPH WITH TRILL,REVERSED SCRIPT G"⟩,
    ⟨0x1df02, "", "LATIN LETTER SMALL CAPITAL TURNED G"⟩,
    ⟨0x1df03, "LATIN ", "SMALL LETTER REVERSED K,LETTER SMALL CAPITAL L WITH BELT"⟩,
    ⟨0x1df05, "LATIN SMALL LETTER ", "LEZH WITH RETROFLEX HOOK,TURNED Y WITH BELT"⟩,
    ⟨0x1df07, "LATIN SMALL LETTER ", "REVERSED ENG,TURNED R WITH LONG LEG AND RETROFLEX HOOK"⟩,
    ⟨0x1df09, "", "LATIN SMALL LETTER T WITH HOOK AND RETROFLEX HOOK"⟩,
    ⟨0x1df0a, "", "LATIN LETTER RETROFLEX CLICK WITH RETROFLEX HOOK"⟩,
    ⟨0x1df0b, "LATIN SMALL LETTER ESH WITH DOUBLE ", "BAR,BAR AND CURL"⟩,
    ⟨0x1df0d, "LATIN ", "SMALL LETTER TURNED T WITH CURL,LETTER INVERTED GLOTTAL STOP WITH CURL"⟩,
    ⟨0x1df0f, "LATIN LETTER ", "STRETCHED C WITH CURL,SMALL CAPITAL TURNED K"⟩,
    ⟨0x1df11, "LATIN SMALL LETTER ", "L WITH FISHHOOK,DEZH DIGRAPH WITH PALATAL HOOK"⟩,
    ⟨0x1df13, "LATIN SMALL LETTER ", "L WITH BELT AND PALATAL HOOK,ENG WITH PALATAL HOOK"⟩,
    ⟨0x1df15, "LATIN SMALL LETTER ", "TURNED R WITH PALATAL HOOK,R WITH FISHHOOK AND PALATAL HOOK"⟩,
    ⟨0x1df17, "", "LATIN SMALL LETTER TESH DIGRAPH WITH PALATAL HOOK"⟩,
    ⟨0x1df18, "LATIN SMALL LETTER ", "EZH WITH PALATAL HOOK,DEZH DIGRAPH WITH RETROFLEX HOOK"⟩,
    ⟨0x1df1a, "", "LATIN SMALL LETTER I WITH STROKE AND RETROFLEX HOOK"⟩,
    ⟨0x1df1b, "LATIN SMALL LETTER ", "O WITH RETROFLEX HOOK,TESH DIGRAPH WITH RETROFLEX HOOK"⟩,
    ⟨0x1df1d, "LATIN SMALL LETTER ", "C WITH RETROFLEX HOOK,S WITH CURL"⟩,
    ⟨0x1e000, "COMBINING GLAGOLITIC LETTER ", "AZU,BUKY,VEDE,GLAGOLI,DOBRO,YESTU,ZHIVETE,,ZEMLJA"⟩,
    ⟨0x1e009, "COMBINING GLAGOLITIC LETTER ", "IZHE,INITIAL IZHE,I,DJERVI,KAKO,LJUDIJE,MYSLITE"⟩,
    ⟨0x1e010, "COMBINING GLAGOLITIC LETTER ", "NASHI,ONU,POKOJI,RITSI,SLOVO,TVRIDO,UKU,FRITU,HERU"⟩,
    ⟨0x1e01b, "COMBINING GLAGOLITIC LETTER ", "SHTA,TSI,CHRIVI,SHA,YERU,YERI,YATI,,YU,SMALL YUS"⟩,
    ⟨0x1e026, "COMBINING GLAGOLITIC LETTER ", "YO,IOTATED SMALL YUS,BIG YUS,IOTATED BIG YUS,FITA"⟩,
    ⟨0x1e100, "NYIAKENG PUACHUE HMONG LETTER ", "MA,TSA"⟩,
    ⟨0x1e102, "NYIAKENG PUACHUE HMONG LETTER ", "NTA,TA,HA,NA,XA,NKA,CA,LA,SA,ZA,NCA,NTSA,KA,DA"⟩,
    ⟨0x1e110, "NYIAKENG PUACHUE HMONG LETTER ", "NYA,NRA,VA,NTXA,TXA,FA,RA,QA,YA,NQA,PA,XYA,NPA"⟩,
    ⟨0x1e11d, "NYIAKENG PUACHUE HMONG LETTER ", "DLA,NPLA,HAH,MLA,PLA,GA,RRA,A,AA,I,U,O,OO,E,EE,W"⟩,
    ⟨0x1e130, "NYIAKENG PUACHUE HMONG TONE-", "B,M,J,V,S,G,D"⟩,
    ⟨0x1e137, "NYIAKENG PUACHUE HMONG SIGN FOR ", "PERSON,THING,LOCATION,ANIMAL,INVERTEBRATE"⟩,
    ⟨0x1e13c, "NYIAKENG PUACHUE HMONG ", "SIGN XW XW,SYLLABLE LENGTHENER"⟩,
    ⟨0x1e140, "NYIAKENG PUACHUE HMONG DIGIT ", "ZERO,ONE,TWO,THREE,FOUR,FIVE,SIX,SEVEN,EIGHT,NINE"⟩,
    ⟨0x1e14e, "NYIAKENG PUACHUE HMONG ", "LOGOGRAM NYAJ,CIRCLED CA"⟩,
    ⟨0x1e290, "TOTO LETTER ", "PA,BA,TA,DA,KA,GA,MA,NA,NGA,SA,CHA,YA,WA,JA,HA,RA,LA,I,BREATHY I"⟩,
    ⟨0x1e2a3, "TOTO LETTER ", "IU,BREATHY IU,U,E,BREATHY E,EO,BREATHY EO,O,AE,BREATHY AE,A"⟩,
    ⟨0x1e2ae, "", "TOTO SIGN RISING TONE"⟩,
    ⟨0x1e2c0, "WANCHO LETTER ", "AA,A,BA,CA,DA,GA"⟩,
    ⟨0x1e2c6, "WANCHO LETTER ", "YA,PHA,LA,NA,PA,TA,THA,FA,SA,SHA,JA,ZA,WA,VA,KA,O,AU,RA,MA,KHA"⟩,
    ⟨0x1e2da, "WANCHO LETTER ", "HA,E,I,NGA,U,LLHA,TSA,TRA,ONG,AANG,ANG,ING,ON,EN,AAN,NYA,UEN,YIH"⟩,
    ⟨0x1e2ec, "WANCHO TONE ", "TUP,TUPNI,KOI,KOINI"⟩,
    ⟨0x1e2f0, "WANCHO DIGIT ", "ZERO,ONE,TWO,THREE,FOUR,FIVE,SIX,SEVEN,EIGHT,NINE"⟩,
    ⟨0x1e2ff, "", "WANCHO NGUN SIGN"⟩,
    ⟨0x1e7e0, "ETHIOPIC SYLLABLE ", "HHYA,HHYU,HHYI,HHYAA,HHYEE,HHYE,HHYO"⟩,
    ⟨0x1e7e8, "ETHIOPIC SYLLABLE ", "GURAGE HHWA,HHWI,HHWEE,HHWE"⟩,
    ⟨0x1e7ed, "ETHIOPIC SYLLABLE GURAGE ", "MWI,MWEE,,QWI,QWEE,QWE"⟩,
    ⟨0x1e7f3, "ETHIOPIC SYLLABLE GURAGE ", "BWI,BWEE,KWI,KWEE,KWE,GWI,GWEE,GWE,FWI,FWEE,PWI,PWEE"⟩,
    ⟨0x1e800, "MENDE KIKAKUI SYLLABLE ", "M001 KI,M002 KA,M003 KU,M065 KEE,M095 KE,M076 KOO"⟩,
    ⟨0x1e806, "MENDE KIKAKUI SYLLABLE ", "M048 KO,M179 KUA,M004 WI,M005 WA,M006 WU,M126 WEE"⟩,
    ⟨0x1e80c, "MENDE KIKAKUI SYLLABLE ", "M118 WE,M114 WOO,M045 WO,M194 WUI,M143 WEI,M061 WVI"⟩,
    ⟨0x1e812, "MENDE KIKAKUI SYLLABLE ", "M049 WVA,M139 WVE,M007 MIN,M008 MAN,M009 MUN,M059 MEN"⟩,
    ⟨0x1e818, "MENDE KIKAKUI SYLLABLE ", "M094 MON,M154 MUAN,M189 MUEN,M010 BI,M011 BA,M012 BU"⟩,
    ⟨0x1e81e, "MENDE KIKAKUI SYLLABLE ", "M150 BEE,M097 BE,M103 BOO,M138 BO,M013 I,M014 A,M015 U"⟩,
    ⟨0x1e825, "MENDE KIKAKUI SYLLABLE ", "M163 EE,M100 E,M165 OO,M147 O,M137 EI,M131 IN,M135 IN"⟩,
    ⟨0x1e82c, "MENDE KIKAKUI SYLLABLE ", "M195 AN,M178 EN,M019 SI,M020 SA,M021 SU,M162 SEE"⟩,
    ⟨0x1e832, "MENDE KIKAKUI SYLLABLE ", "M116 SE,M136 SOO,M079 SO,M196 SIA,M025 LI,M026 LA"⟩,
    ⟨0x1e838, "MENDE KIKAKUI SYLLABLE ", "M027 LU,M084 LEE,M073 LE,M054 LOO,M153 LO,M110 LONG LE"⟩,
    ⟨0x1e83e, "MENDE KIKAKUI SYLLABLE ", "M016 DI,M017 DA,M018 DU,M089 DEE,M180 DOO,M181 DO"⟩,
    ⟨0x1e844, "MENDE KIKAKUI SYLLABLE ", "M022 TI,M023 TA,M024 TU,M091 TEE,M055 TE,M104 TOO"⟩,
    ⟨0x1e84a, "MENDE KIKAKUI SYLLABLE ", "M069 TO,M028 JI,M029 JA,M030 JU,M157 JEE,M113 JE"⟩,
    ⟨0x1e850, "MENDE KIKAKUI SYLLABLE ", "M160 JOO,M063 JO,M175 LONG JO,M031 YI,M032 YA,M033 YU"⟩,
    ⟨0x1e856, "MENDE KIKAKUI SYLLABLE ", "M109 YEE,M080 YE,M141 YOO,M121 YO,M034 FI,M035 FA"⟩,
    ⟨0x1e85c, "MENDE KIKAKUI SYLLABLE ", "M036 FU,M078 FEE,M075 FE,M133 FOO,M088 FO,M197 FUA"⟩,
    ⟨0x1e862, "MENDE KIKAKUI SYLLABLE ", "M101 FAN,M037 NIN,M038 NAN,M039 NUN,M117 NEN,M169 NON"⟩,
    ⟨0x1e868, "MENDE KIKAKUI SYLLABLE ", "M176 HI,M041 HA,M186 HU,M040 HEE,M096 HE,M042 HOO"⟩,
    ⟨0x1e86e, "MENDE KIKAKUI SYLLABLE ", "M140 HO,M083 HEEI,M128 HOOU,M053 HIN,M130 HAN,M087 HUN"⟩,
    ⟨0x1e874, "MENDE KIKAKUI SYLLABLE ", "M052 HEN,M193 HON,M046 HUAN,M090 NGGI,M043 NGGA"⟩,
    ⟨0x1e879, "MENDE KIKAKUI SYLLABLE ", "M082 NGGU,M115 NGGEE,M146 NGGE,M156 NGGOO,M120 NGGO"⟩,
    ⟨0x1e87e, "MENDE KIKAKUI SYLLABLE ", "M159 NGGAA,M127 NGGUA,M086 LONG NGGE,M106 LONG NGGOO"⟩,
    ⟨0x1e882, "MENDE KIKAKUI SYLLABLE ", "M183 LONG NGGO,M155 GI,M111 GA,M168 GU,M190 GEE"⟩,
    ⟨0x1e887, "MENDE KIKAKUI SYLLABLE ", "M166 GUEI,M167 GUAN,M184 NGEN,M057 NGON,M177 NGUAN"⟩,
    ⟨0x1e88c, "MENDE KIKAKUI SYLLABLE ", "M068 PI,M099 PA,M050 PU,M081 PEE,M051 PE,M102 POO"⟩,
    ⟨0x1e892, "MENDE KIKAKUI SYLLABLE ", "M066 PO,M145 MBI,M062 MBA,M122 MBU,M047 MBEE,M188 MBEE"⟩,
    ⟨0x1e898, "MENDE KIKAKUI SYLLABLE ", "M072 MBE,M172 MBOO,M174 MBO,M187 MBUU,M161 LONG MBE"⟩,
    ⟨0x1e89d, "MENDE KIKAKUI SYLLABLE ", "M105 LONG MBOO,M142 LONG MBO,M132 KPI,M092 KPA,M074 KPU"⟩,
    ⟨0x1e8a2, "MENDE KIKAKUI SYLLABLE ", "M044 KPEE,M108 KPE,M112 KPOO,M158 KPO,M124 GBI,M056 GBA"⟩,
    ⟨0x1e8a8, "MENDE KIKAKUI SYLLABLE ", "M148 GBU,M093 GBEE,M107 GBE,M071 GBOO,M070 GBO,M171 RA"⟩,
    ⟨0x1e8ae, "MENDE KIKAKUI SYLLABLE ", "M123 NDI,M129 NDA,M125 NDU,M191 NDEE,M119 NDE,M067 NDOO"⟩,
    ⟨0x1e8b4, "MENDE KIKAKUI SYLLABLE ", "M064 NDO,M152 NJA,M192 NJU,M149 NJEE,M134 NJOO,M182 VI"⟩,
    ⟨0x1e8ba, "MENDE KIKAKUI SYLLABLE ", "M185 VA,M151 VU,M173 VEE,M085 VE,M144 VOO,M077 VO"⟩,
    ⟨0x1e8c0, "MENDE KIKAKUI SYLLABLE ", "M164 NYIN,M058 NYAN,M170 NYUN,M098 NYEN,M060 NYON"⟩,
    ⟨0x1e8c7, "MENDE KIKAKUI DIGIT ", "ONE,TWO,THREE,FOUR,FIVE,SIX,SEVEN,EIGHT,NINE"⟩,
    ⟨0x1e8d0, "MENDE KIKAKUI COMBINING NUMBER ", "TEENS,TENS,HUNDREDS,THOUSANDS"⟩,
    ⟨0x1e8d4, "MENDE KIKAKUI COMBINING NUMBER ", "TEN THOUSANDS,HUNDRED THOUSANDS,MILLIONS"⟩,
    ⟨0x1e900, "ADLAM CAPITAL LETTER ", "ALIF,DAALI,LAAM,MIIM"⟩,
    ⟨0x1e904, "ADLAM CAPITAL LETTER ", "BA,SINNYIIYHE,PE,BHE,RA,E,FA,I,O,DHA,YHE,WAW,NUN,KAF,YA"⟩,
    ⟨0x1e913, "ADLAM CAPITAL LETTER ", "U,JIIM,CHI,HA,QAAF,GA,NYA,TU,NHA,VA,KHA,GBE,ZAL,KPO,SHA"⟩,
    ⟨0x1e922, "ADLAM SMALL LETTER ", "ALIF,DAALI,LAAM"⟩,
    ⟨0x1e925, "ADLAM SMALL LETTER ", "MIIM,BA,SINNYIIYHE,PE,BHE,RA,E,FA,I,O,DHA,YHE,WAW,NUN,KAF"⟩,
    ⟨0x1e934, "ADLAM SMALL LETTER ", "YA,U,JIIM,CHI,HA,QAAF,GA,NYA,TU,NHA,VA,KHA,GBE,ZAL,KPO,SHA"⟩,
    ⟨0x1e944, "ADLAM ", "ALIF LENGTHENER,VOWEL LENGTHENER,GEMINATION MARK,HAMZA"⟩,
    ⟨0x1e948, "ADLAM ", "CONSONANT MODIFIER,GEMINATE CONSONANT MODIFIER,NUKTA,NASALIZATION MARK"⟩,
    ⟨0x1e950, "ADLAM DIGIT ", "ZERO,ONE,TWO,THREE,FOUR,FIVE,SIX,SEVEN,EIGHT,NINE"⟩,
    ⟨0x1e95e, "ADLAM INITIAL ", "EXCLAMATION MARK,QUESTION MARK"⟩,
    ⟨0x1ec71, "INDIC SIYAQ NUMBER ", "ONE,TWO,THREE,FOUR,FIVE,SIX,SEVEN,EIGHT,NINE,TEN,TWENTY"⟩,
    ⟨0x1ec7c, "INDIC SIYAQ NUMBER ", "THIRTY,FORTY,FIFTY,SIXTY,SEVENTY,EIGHTY,NINETY,ONE HUNDRED"⟩,
    ⟨0x1ec84, "INDIC SIYAQ NUMBER ", "TWO HUNDRED,THREE HUNDRED,FOUR HUNDRED,FIVE HUNDRED"⟩,
    ⟨0x1ec88, "INDIC SIYAQ NUMBER ", "SIX HUNDRED,SEVEN HUNDRED,EIGHT HUNDRED,NINE HUNDRED"⟩,
    ⟨0x1ec8c, "INDIC SIYAQ NUMBER ", "ONE THOUSAND,TWO THOUSAND,THREE THOUSAND,FOUR THOUSAND"⟩,
    ⟨0x1ec90, "INDIC SIYAQ NUMBER ", "FIVE THOUSAND,SIX THOUSAND,SEVEN THOUSAND,EIGHT THOUSAND"⟩,
    ⟨0x1ec94, "INDIC SIYAQ NUMBER ", "NINE THOUSAND,TEN THOUSAND,TWENTY THOUSAND,THIRTY THOUSAND"⟩,
    ⟨0x1ec98, "INDIC SIYAQ NUMBER ", "FORTY THOUSAND,FIFTY THOUSAND,SIXTY THOUSAND"⟩,
    ⟨0x1ec9b, "INDIC SIYAQ NUMBER ", "SEVENTY THOUSAND,EIGHTY THOUSAND,NINETY THOUSAND,LAKH"⟩,
    ⟨0x1ec9f, "INDIC SIYAQ ", "NUMBER LAKHAN,LAKH MARK,NUMBER KAROR,NUMBER KARORAN"⟩,
    ⟨0x1eca3, "INDIC SIYAQ NUMBER PREFIXED ", "ONE,TWO,THREE,FOUR,FIVE,SIX,SEVEN,EIGHT,NINE"⟩,
    ⟨0x1ecac, "INDIC SIYAQ ", "PLACEHOLDER,FRACTION ONE QUARTER"⟩,
    ⟨0x1ecae, "INDIC SIYAQ ", "FRACTION ONE HALF,FRACTION THREE QUARTERS,RUPEE MARK"⟩,
    ⟨0x1ecb1, "INDIC SIYAQ NUMBER ALTERNATE ", "ONE,TWO,TEN THOUSAND"⟩,
    ⟨0x1ecb4, "", "INDIC SIYAQ ALTERNATE LAKH MARK"⟩,
    ⟨0x1ed01, "OTTOMAN SIYAQ NUMBER ", "ONE,TWO,THREE,FOUR,FIVE,SIX,SEVEN,EIGHT"⟩,
    ⟨0x1ed09, "OTTOMAN SIYAQ NUMBER ", "NINE,TEN,TWENTY,THIRTY,FORTY,FIFTY,SIXTY,SEVENTY,EIGHTY"⟩,
    ⟨0x1ed12, "OTTOMAN SIYAQ NUMBER ", "NINETY,ONE HUNDRED,TWO HUNDRED,THREE HUNDRED,FOUR HUNDRED"⟩,
    ⟨0x1ed17, "OTTOMAN SIYAQ NUMBER ", "FIVE HUNDRED,SIX HUNDRED,SEVEN HUNDRED,EIGHT HUNDRED"⟩,
    ⟨0x1ed1b, "OTTOMAN SIYAQ NUMBER ", "NINE HUNDRED,ONE THOUSAND,TWO THOUSAND,THREE THOUSAND"⟩,
    ⟨0x1ed1f, "OTTOMAN SIYAQ NUMBER ", "FOUR THOUSAND,FIVE THOUSAND,SIX THOUSAND,SEVEN THOUSAND"⟩,
    ⟨0x1ed23, "OTTOMAN SIYAQ NUMBER ", "EIGHT THOUSAND,NINE THOUSAND,TEN THOUSAND,TWENTY THOUSAND"⟩,
    ⟨0x1ed27, "OTTOMAN SIYAQ NUMBER ", "THIRTY THOUSAND,FORTY THOUSAND,FIFTY THOUSAND"⟩,
    ⟨0x1ed2a, "OTTOMAN SIYAQ NUMBER ", "SIXTY THOUSAND,SEVENTY THOUSAND,EIGHTY THOUSAND"⟩,
    ⟨0x1ed2d, "OTTOMAN SIYAQ ", "NUMBER NINETY THOUSAND,MARRATAN"⟩,
    ⟨0x1ed2f, "OTTOMAN SIYAQ ALTERNATE NUMBER ", "TWO,THREE"⟩,
    ⟨0x1ed31, "OTTOMAN SIYAQ ALTERNATE NUMBER ", "FOUR,FIVE,SIX,SEVEN,EIGHT,NINE,TEN,FOUR HUNDRED"⟩,
    ⟨0x1ed39, "OTTOMAN SIYAQ ALTERNATE NUMBER ", "SIX HUNDRED,TWO THOUSAND,TEN THOUSAND"⟩,
    ⟨0x1ed3c, "OTTOMAN SIYAQ FRACTION ONE ", "HALF,SIXTH"⟩,
    ⟨0x1ee00, "ARABIC MATHEMATICAL ", "ALEF,BEH,JEEM,DAL,,WAW,ZAIN,HAH,TAH,YEH,KAF,LAM,MEEM"⟩,
    ⟨0x1ee0d, "ARABIC MATHEMATICAL ", "NOON,SEEN,AIN,FEH,SAD,QAF,REH,SHEEN,TEH,THEH,KHAH,THAL,DAD"⟩,
    ⟨0x1ee1a, "ARABIC MATHEMATICAL ", "ZAH,GHAIN,DOTLESS BEH,DOTLESS NOON,DOTLESS FEH,DOTLESS QAF"⟩,
    ⟨0x1ee21, "ARABIC MATHEMATICAL INITIAL ", "BEH,JEEM,,HEH,,,HAH,,YEH,KAF,LAM,MEEM,NOON,SEEN"⟩,
    ⟨0x1ee2f, "ARABIC MATHEMATICAL INITIAL ", "AIN,FEH,SAD,QAF,,SHEEN,TEH,THEH,KHAH,,DAD,,GHAIN"⟩,
    ⟨0x1ee42, "ARABIC MATHEMATICAL TAILED ", "JEEM,,,,,HAH,,YEH,,LAM,,NOON,SEEN,AIN,,SAD,QAF"⟩,
    ⟨0x1ee54, "ARABIC MATHEMATICAL TAILED ", "SHEEN,,,KHAH,,DAD,,GHAIN,,DOTLESS NOON,,DOTLESS QAF"⟩,
    ⟨0x1ee61, "ARABIC MATHEMATICAL STRETCHED ", "BEH,JEEM,,HEH,,,HAH,TAH,YEH,KAF"⟩,
    ⟨0x1ee6c, "ARABIC MATHEMATICAL STRETCHED ", "MEEM,NOON,SEEN,AIN,FEH,SAD,QAF,,SHEEN,TEH,THEH"⟩,
    ⟨0x1ee77, "ARABIC MATHEMATICAL STRETCHED ", "KHAH,,DAD,ZAH,GHAIN,DOTLESS BEH,,DOTLESS FEH"⟩,
    ⟨0x1ee80, "ARABIC MATHEMATICAL LOOPED ", "ALEF,BEH,JEEM,DAL,HEH,WAW,ZAIN,HAH,TAH,YEH"⟩,
    ⟨0x1ee8b, "ARABIC MATHEMATICAL LOOPED ", "LAM,MEEM,NOON,SEEN,AIN,FEH"⟩,
    ⟨0x1ee91, "ARABIC MATHEMATICAL LOOPED ", "SAD,QAF,REH,SHEEN,TEH,THEH,KHAH,THAL,DAD,ZAH,GHAIN"⟩,
    ⟨0x1eea1, "ARABIC MATHEMATICAL DOUBLE-STRUCK ", "BEH,JEEM,DAL,,WAW,ZAIN,HAH,TAH,YEH"⟩,
    ⟨0x1eeab, "ARABIC MATHEMATICAL DOUBLE-STRUCK ", "LAM,MEEM,NOON,SEEN,AIN,FEH,SAD,QAF"⟩,
    ⟨0x1eeb3, "ARABIC MATHEMATICAL DOUBLE-STRUCK ", "REH,SHEEN,TEH,THEH,KHAH,THAL,DAD,ZAH,GHAIN"⟩,
    ⟨0x1eef0, "ARABIC MATHEMATICAL OPERATOR ", "MEEM WITH HAH WITH TATWEEL,HAH WITH DAL"⟩]

end HttpRouting.Text.CharacterName
