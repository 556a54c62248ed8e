/-!
Names of characters from U+1D000 to U+1EFFF: music, mathematics and sign writing.
-/
namespace HttpContract.Text.Names

def signs : List (Nat × String × List String) := [
  (0x1d000, "BYZANTINE MUSICAL SYMBOL ", [
    "PSILI;DASEIA;PERISPOMENI;OXEIA EKFONITIKON;OXEIA DIPLI;VAREIA EKFONITIKON;VAREIA DIPLI",
    "KATHISTI;SYRMATIKI;PARAKLITIKI;YPOKRISIS;YPOKRISIS DIPLI;KREMASTI;APESO EKFONITIKON",
    "EXO EKFONITIKON;TELEIA;KENTIMATA;APOSTROFOS;APOSTROFOS DIPLI;SYNEVMA;THITA",
    "OLIGON ARCHAION;GORGON ARCHAION;PSILON;CHAMILON;VATHY;ISON ARCHAION;KENTIMA ARCHAION",
    "KENTIMATA ARCHAION;SAXIMATA;PARICHON;STAVROS APODEXIA;OXEIAI ARCHAION;VAREIAI ARCHAION",
    "APODERMA ARCHAION;APOTHEMA;KLASMA;REVMA;PIASMA ARCHAION;TINAGMA;ANATRICHISMA;SEISMA",
    "SYNAGMA ARCHAION;SYNAGMA META STAVROU;OYRANISMA ARCHAION;THEMA;LEMOI;DYO;TRIA;TESSERA",
    "KRATIMATA;APESO EXO NEO;FTHORA ARCHAION;IMIFTHORA;TROMIKON ARCHAION;KATAVA TROMIKON",
    "PELASTON;PSIFISTON;KONTEVMA;CHOREVMA ARCHAION;RAPISMA;PARAKALESMA ARCHAION",
    "PARAKLITIKI ARCHAION;ICHADIN;NANA;PETASMA;KONTEVMA ALLO;TROMIKON ALLO;STRAGGISMATA",
    "GRONTHISMATA;ISON NEO;OLIGON NEO;OXEIA NEO;PETASTI;KOUFISMA;PETASTOKOUFISMA",
    "KRATIMOKOUFISMA;PELASTON NEO;KENTIMATA NEO ANO;KENTIMA NEO ANO;YPSILI;APOSTROFOS NEO",
    "APOSTROFOI SYNDESMOS NEO;YPORROI;KRATIMOYPORROON;ELAFRON;CHAMILI;MIKRON ISON;VAREIA NEO",
    "PIASMA NEO;PSIFISTON NEO;OMALON;ANTIKENOMA;LYGISMA;PARAKLITIKI NEO;PARAKALESMA NEO",
    "ETERON PARAKALESMA;KYLISMA;ANTIKENOKYLISMA;TROMIKON NEO;EKSTREPTON;SYNAGMA NEO;SYRMA",
    "CHOREVMA NEO;EPEGERMA;SEISMA NEO;XIRON KLASMA;TROMIKOPSIFISTON;PSIFISTOLYGISMA",
    "TROMIKOLYGISMA;TROMIKOPARAKALESMA;PSIFISTOPARAKALESMA;TROMIKOSYNAGMA;PSIFISTOSYNAGMA",
    "GORGOSYNTHETON;ARGOSYNTHETON;ETERON ARGOSYNTHETON;OYRANISMA NEO;THEMATISMOS ESO",
    "THEMATISMOS EXO;THEMA APLOUN;THES KAI APOTHES;KATAVASMA;ENDOFONON;YFEN KATO;YFEN ANO",
    "STAVROS;KLASMA ANO;DIPLI ARCHAION;KRATIMA ARCHAION;KRATIMA ALLO;KRATIMA NEO;APODERMA NEO",
    "APLI;DIPLI;TRIPLI;TETRAPLI;KORONIS;LEIMMA ENOS CHRONOU;LEIMMA DYO CHRONON",
    "LEIMMA TRION CHRONON;LEIMMA TESSARON CHRONON;LEIMMA IMISEOS CHRONOU;GORGON NEO ANO",
    "GORGON PARESTIGMENON ARISTERA;GORGON PARESTIGMENON DEXIA;DIGORGON",
    "DIGORGON PARESTIGMENON ARISTERA KATO;DIGORGON PARESTIGMENON ARISTERA ANO",
    "DIGORGON PARESTIGMENON DEXIA;TRIGORGON;ARGON;IMIDIARGON;DIARGON;AGOGI POLI ARGI",
    "AGOGI ARGOTERI;AGOGI ARGI;AGOGI METRIA;AGOGI MESI;AGOGI GORGI;AGOGI GORGOTERI",
    "AGOGI POLI GORGI;MARTYRIA PROTOS ICHOS;MARTYRIA ALLI PROTOS ICHOS",
    "MARTYRIA DEYTEROS ICHOS;MARTYRIA ALLI DEYTEROS ICHOS;MARTYRIA TRITOS ICHOS",
    "MARTYRIA TRIFONIAS;MARTYRIA TETARTOS ICHOS;MARTYRIA TETARTOS LEGETOS ICHOS",
    "MARTYRIA LEGETOS ICHOS;MARTYRIA PLAGIOS ICHOS;ISAKIA TELOUS ICHIMATOS",
    "APOSTROFOI TELOUS ICHIMATOS;FANEROSIS TETRAFONIAS;FANEROSIS MONOFONIAS",
    "FANEROSIS DIFONIAS;MARTYRIA VARYS ICHOS;MARTYRIA PROTOVARYS ICHOS",
    "MARTYRIA PLAGIOS TETARTOS ICHOS;GORTHMIKON N APLOUN;GORTHMIKON N DIPLOUN",
    "ENARXIS KAI FTHORA VOU;IMIFONON;IMIFTHORON;FTHORA ARCHAION DEYTEROU ICHOU",
    "FTHORA DIATONIKI PA;FTHORA DIATONIKI NANA;FTHORA NAOS ICHOS;FTHORA DIATONIKI DI",
    "FTHORA SKLIRON DIATONON DI;FTHORA DIATONIKI KE;FTHORA DIATONIKI ZO",
    "FTHORA DIATONIKI NI KATO;FTHORA DIATONIKI NI ANO;FTHORA MALAKON CHROMA DIFONIAS",
    "FTHORA MALAKON CHROMA MONOFONIAS;FHTORA SKLIRON CHROMA VASIS",
    "FTHORA SKLIRON CHROMA SYNAFI;FTHORA NENANO;CHROA ZYGOS;CHROA KLITON;CHROA SPATHI",
    "FTHORA I YFESIS TETARTIMORION;FTHORA ENARMONIOS ANTIFONIA;YFESIS TRITIMORION",
    "DIESIS TRITIMORION;DIESIS TETARTIMORION;DIESIS APLI DYO DODEKATA",
    "DIESIS MONOGRAMMOS TESSERA DODEKATA;DIESIS DIGRAMMOS EX DODEKATA",
    "DIESIS TRIGRAMMOS OKTO DODEKATA;YFESIS APLI DYO DODEKATA",
    "YFESIS MONOGRAMMOS TESSERA DODEKATA;YFESIS DIGRAMMOS EX DODEKATA",
    "YFESIS TRIGRAMMOS OKTO DODEKATA;GENIKI DIESIS;GENIKI YFESIS;DIASTOLI APLI MIKRI",
    "DIASTOLI APLI MEGALI;DIASTOLI DIPLI;DIASTOLI THESEOS;SIMANSIS THESEOS",
    "SIMANSIS THESEOS DISIMOU;SIMANSIS THESEOS TRISIMOU;SIMANSIS THESEOS TETRASIMOU",
    "SIMANSIS ARSEOS;SIMANSIS ARSEOS DISIMOU;SIMANSIS ARSEOS TRISIMOU",
    "SIMANSIS ARSEOS TETRASIMOU;DIGRAMMA GG;DIFTOGGOS OU;STIGMA;ARKTIKO PA;ARKTIKO VOU",
    "ARKTIKO GA;ARKTIKO DI;ARKTIKO KE;ARKTIKO ZO;ARKTIKO NI;KENTIMATA NEO MESO",
    "KENTIMA NEO MESO;KENTIMATA NEO KATO;KENTIMA NEO KATO;KLASMA KATO;GORGON NEO KATO"]),
  (0x1d100, "MUSICAL SYMBOL ", [
    "SINGLE BARLINE;DOUBLE BARLINE;FINAL BARLINE;REVERSE FINAL BARLINE;DASHED BARLINE",
    "SHORT BARLINE;LEFT REPEAT SIGN;RIGHT REPEAT SIGN;REPEAT DOTS;DAL SEGNO;DA CAPO;SEGNO",
    "CODA;REPEATED FIGURE-1;REPEATED FIGURE-2;REPEATED FIGURE-3;FERMATA;FERMATA BELOW",
    "BREATH MARK;CAESURA;BRACE;BRACKET;ONE-LINE STAFF;TWO-LINE STAFF;THREE-LINE STAFF",
    "FOUR-LINE STAFF;FIVE-LINE STAFF;SIX-LINE STAFF;SIX-STRING FRETBOARD",
    "FOUR-STRING FRETBOARD;G CLEF;G CLEF OTTAVA ALTA;G CLEF OTTAVA BASSA;C CLEF;F CLEF",
    "F CLEF OTTAVA ALTA;F CLEF OTTAVA BASSA;DRUM CLEF-1;DRUM CLEF-2"]),
  (0x1d129, "MUSICAL SYMBOL ", [
    "MULTIPLE MEASURE REST;DOUBLE SHARP;DOUBLE FLAT;FLAT UP;FLAT DOWN;NATURAL UP;NATURAL DOWN",
    "SHARP UP;SHARP DOWN;QUARTER TONE SHARP;QUARTER TONE FLAT;COMMON TIME;CUT TIME",
    "OTTAVA ALTA;OTTAVA BASSA;QUINDICESIMA ALTA;QUINDICESIMA BASSA;MULTI REST;WHOLE REST",
    "HALF REST;QUARTER REST;EIGHTH REST;SIXTEENTH REST;THIRTY-SECOND REST;SIXTY-FOURTH REST",
    "ONE HUNDRED TWENTY-EIGHTH REST;X NOTEHEAD;PLUS NOTEHEAD;CIRCLE X NOTEHEAD",
    "SQUARE NOTEHEAD WHITE;SQUARE NOTEHEAD BLACK;TRIANGLE NOTEHEAD UP WHITE",
    "TRIANGLE NOTEHEAD UP BLACK;TRIANGLE NOTEHEAD LEFT WHITE;TRIANGLE NOTEHEAD LEFT BLACK",
    "TRIANGLE NOTEHEAD RIGHT WHITE;TRIANGLE NOTEHEAD RIGHT BLACK;TRIANGLE NOTEHEAD DOWN WHITE",
    "TRIANGLE NOTEHEAD DOWN BLACK;TRIANGLE NOTEHEAD UP RIGHT WHITE",
    "TRIANGLE NOTEHEAD UP RIGHT BLACK;MOON NOTEHEAD WHITE;MOON NOTEHEAD BLACK",
    "TRIANGLE-ROUND NOTEHEAD DOWN WHITE;TRIANGLE-ROUND NOTEHEAD DOWN BLACK",
    "PARENTHESIS NOTEHEAD;VOID NOTEHEAD;NOTEHEAD BLACK;NULL NOTEHEAD;CLUSTER NOTEHEAD WHITE",
    "CLUSTER NOTEHEAD BLACK;BREVE;WHOLE NOTE;HALF NOTE;QUARTER NOTE;EIGHTH NOTE",
    "SIXTEENTH NOTE;THIRTY-SECOND NOTE;SIXTY-FOURTH NOTE;ONE HUNDRED TWENTY-EIGHTH NOTE",
    "COMBINING STEM;COMBINING SPRECHGESANG STEM;COMBINING TREMOLO-1;COMBINING TREMOLO-2",
    "COMBINING TREMOLO-3;FINGERED TREMOLO-1;FINGERED TREMOLO-2;FINGERED TREMOLO-3",
    "COMBINING AUGMENTATION DOT;COMBINING FLAG-1;COMBINING FLAG-2;COMBINING FLAG-3",
    "COMBINING FLAG-4;COMBINING FLAG-5;BEGIN BEAM;END BEAM;BEGIN TIE;END TIE;BEGIN SLUR",
    "END SLUR;BEGIN PHRASE;END PHRASE;COMBINING ACCENT;COMBINING STACCATO;COMBINING TENUTO",
    "COMBINING STACCATISSIMO;COMBINING MARCATO;COMBINING MARCATO-STACCATO",
    "COMBINING ACCENT-STACCATO;COMBINING LOURE;ARPEGGIATO UP;ARPEGGIATO DOWN;COMBINING DOIT",
    "COMBINING RIP;COMBINING FLIP;COMBINING SMEAR;COMBINING BEND;COMBINING DOUBLE TONGUE",
    "COMBINING TRIPLE TONGUE;RINFORZANDO;SUBITO;Z;PIANO;MEZZO;FORTE;CRESCENDO;DECRESCENDO",
    "GRACE NOTE SLASH;GRACE NOTE NO SLASH;TR;TURN;INVERTED TURN;TURN SLASH;TURN UP",
    "ORNAMENT STROKE-1;ORNAMENT STROKE-2;ORNAMENT STROKE-3;ORNAMENT STROKE-4",
    "ORNAMENT STROKE-5;ORNAMENT STROKE-6;ORNAMENT STROKE-7;ORNAMENT STROKE-8",
    "ORNAMENT STROKE-9;ORNAMENT STROKE-10;ORNAMENT STROKE-11;HAUPTSTIMME;NEBENSTIMME",
    "END OF STIMME;DEGREE SLASH;COMBINING DOWN BOW;COMBINING UP BOW;COMBINING HARMONIC",
    "COMBINING SNAP PIZZICATO;PEDAL MARK;PEDAL UP MARK;HALF PEDAL MARK;GLISSANDO UP",
    "GLISSANDO DOWN;WITH FINGERNAILS;DAMP;DAMP ALL;MAXIMA;LONGA;BREVIS;SEMIBREVIS WHITE",
    "SEMIBREVIS BLACK;MINIMA;MINIMA BLACK;SEMIMINIMA WHITE;SEMIMINIMA BLACK;FUSA WHITE",
    "FUSA BLACK;LONGA PERFECTA REST;LONGA IMPERFECTA REST;BREVIS REST;SEMIBREVIS REST",
    "MINIMA REST;SEMIMINIMA REST;TEMPUS PERFECTUM CUM PROLATIONE PERFECTA",
    "TEMPUS PERFECTUM CUM PROLATIONE IMPERFECTA",
    "TEMPUS PERFECTUM CUM PROLATIONE PERFECTA DIMINUTION-1",
    "TEMPUS IMPERFECTUM CUM PROLATIONE PERFECTA;TEMPUS IMPERFECTUM CUM PROLATIONE IMPERFECTA",
    "TEMPUS IMPERFECTUM CUM PROLATIONE IMPERFECTA DIMINUTION-1",
    "TEMPUS IMPERFECTUM CUM PROLATIONE IMPERFECTA DIMINUTION-2",
    "TEMPUS IMPERFECTUM CUM PROLATIONE IMPERFECTA DIMINUTION-3;CROIX;GREGORIAN C CLEF",
    "GREGORIAN F CLEF;SQUARE B;VIRGA;PODATUS;CLIVIS;SCANDICUS;CLIMACUS;TORCULUS;PORRECTUS",
    "PORRECTUS FLEXUS;SCANDICUS FLEXUS;TORCULUS RESUPINUS;PES SUBPUNCTIS;KIEVAN C CLEF",
    "KIEVAN END OF PIECE;KIEVAN FINAL NOTE;KIEVAN RECITATIVE MARK;KIEVAN WHOLE NOTE",
    "KIEVAN HALF NOTE;KIEVAN QUARTER NOTE STEM DOWN;KIEVAN QUARTER NOTE STEM UP",
    "KIEVAN EIGHTH NOTE STEM DOWN;KIEVAN EIGHTH NOTE STEM UP;KIEVAN FLAT SIGN;SORI;KORON"]),
  (0x1d200, "GREEK VOCAL NOTATION ", [
    "SYMBOL-1;SYMBOL-2;SYMBOL-3;SYMBOL-4;SYMBOL-5;SYMBOL-6;SYMBOL-7;SYMBOL-8;SYMBOL-9",
    "SYMBOL-10;SYMBOL-11;SYMBOL-12;SYMBOL-13;SYMBOL-14;SYMBOL-15;SYMBOL-16;SYMBOL-17",
    "SYMBOL-18;SYMBOL-19;SYMBOL-20;SYMBOL-21;SYMBOL-22;SYMBOL-23;SYMBOL-24;SYMBOL-50",
    "SYMBOL-51;SYMBOL-52;SYMBOL-53;SYMBOL-54"]),
  (0x1d21d, "GREEK INSTRUMENTAL NOTATION ", [
    "SYMBOL-1;SYMBOL-2;SYMBOL-4;SYMBOL-5;SYMBOL-7;SYMBOL-8;SYMBOL-11;SYMBOL-12;SYMBOL-13",
    "SYMBOL-14;SYMBOL-17;SYMBOL-18;SYMBOL-19;SYMBOL-23;SYMBOL-24;SYMBOL-25;SYMBOL-26",
    "SYMBOL-27;SYMBOL-29;SYMBOL-30;SYMBOL-32;SYMBOL-36;SYMBOL-37;SYMBOL-38;SYMBOL-39",
    "SYMBOL-40;SYMBOL-42;SYMBOL-43;SYMBOL-45;SYMBOL-47;SYMBOL-48;SYMBOL-49;SYMBOL-50",
    "SYMBOL-51;SYMBOL-52;SYMBOL-53;SYMBOL-54"]),
  (0x1d242, "COMBINING GREEK MUSICAL ", ["TRISEME;TETRASEME;PENTASEME"]),
  (0x1d245, "", ["GREEK MUSICAL LEIMMA"]),
  (0x1d2e0, "MAYAN NUMERAL ", [
    "ZERO;ONE;TWO;THREE;FOUR;FIVE;SIX;SEVEN;EIGHT;NINE;TEN;ELEVEN;TWELVE;THIRTEEN;FOURTEEN",
    "FIFTEEN;SIXTEEN;SEVENTEEN;EIGHTEEN;NINETEEN"]),
  (0x1d300, "", ["MONOGRAM FOR EARTH"]),
  (0x1d301, "DIGRAM FOR ", ["HEAVENLY EARTH;HUMAN EARTH;EARTHLY HEAVEN;EARTHLY HUMAN;EARTH"]),
  (0x1d306, "TETRAGRAM FOR ", [
    "CENTRE;FULL CIRCLE;MIRED;BARRIER;KEEPING SMALL;CONTRARIETY;ASCENT;OPPOSITION",
    "BRANCHING OUT;DEFECTIVENESS OR DISTORTION;DIVERGENCE;YOUTHFULNESS;INCREASE;PENETRATION",
    "REACH;CONTACT;HOLDING BACK;WAITING;FOLLOWING;ADVANCE;RELEASE;RESISTANCE;EASE;JOY",
    "CONTENTION;ENDEAVOUR;DUTIES;CHANGE;DECISIVENESS;BOLD RESOLUTION;PACKING;LEGION;CLOSENESS",
    "KINSHIP;GATHERING;STRENGTH;PURITY;FULLNESS;RESIDENCE;LAW OR MODEL;RESPONSE;GOING TO MEET",
    "ENCOUNTERS;STOVE;GREATNESS;ENLARGEMENT;PATTERN;RITUAL;FLIGHT;VASTNESS OR WASTING",
    "CONSTANCY;MEASURE;ETERNITY;UNITY;DIMINISHMENT;CLOSED MOUTH;GUARDEDNESS;GATHERING IN",
    "MASSING;ACCUMULATION;EMBELLISHMENT;DOUBT;WATCH;SINKING;INNER;DEPARTURE;DARKENING;DIMMING",
    "EXHAUSTION;SEVERANCE;STOPPAGE;HARDNESS;COMPLETION;CLOSURE;FAILURE;AGGRAVATION;COMPLIANCE",
    "ON THE VERGE;DIFFICULTIES;LABOURING;FOSTERING"]),
  (0x1d360, "COUNTING ROD ", [
    "UNIT DIGIT ONE;UNIT DIGIT TWO;UNIT DIGIT THREE;UNIT DIGIT FOUR;UNIT DIGIT FIVE",
    "UNIT DIGIT SIX;UNIT DIGIT SEVEN;UNIT DIGIT EIGHT;UNIT DIGIT NINE;TENS DIGIT ONE",
    "TENS DIGIT TWO;TENS DIGIT THREE;TENS DIGIT FOUR;TENS DIGIT FIVE;TENS DIGIT SIX",
    "TENS DIGIT SEVEN;TENS DIGIT EIGHT;TENS DIGIT NINE"]),
  (0x1d372, "IDEOGRAPHIC TALLY MARK ", ["ONE;TWO;THREE;FOUR;FIVE"]),
  (0x1d377, "", ["TALLY MARK ONE;TALLY MARK FIVE"]),
  (0x1d400, "MATHEMATICAL ", [
    "BOLD CAPITAL A;BOLD CAPITAL B;BOLD CAPITAL C;BOLD CAPITAL D;BOLD CAPITAL E",
    "BOLD CAPITAL F;BOLD CAPITAL G;BOLD CAPITAL H;BOLD CAPITAL I;BOLD CAPITAL J",
    "BOLD CAPITAL K;BOLD CAPITAL L;BOLD CAPITAL M;BOLD CAPITAL N;BOLD CAPITAL O",
    "BOLD CAPITAL P;BOLD CAPITAL Q;BOLD CAPITAL R;BOLD CAPITAL S;BOLD CAPITAL T",
    "BOLD CAPITAL U;BOLD CAPITAL V;BOLD CAPITAL W;BOLD CAPITAL X;BOLD CAPITAL Y",
    "BOLD CAPITAL Z;BOLD SMALL A;BOLD SMALL B;BOLD SMALL C;BOLD SMALL D;BOLD SMALL E",
    "BOLD SMALL F;BOLD SMALL G;BOLD SMALL H;BOLD SMALL I;BOLD SMALL J;BOLD SMALL K",
    "BOLD SMALL L;BOLD SMALL M;BOLD SMALL N;BOLD SMALL O;BOLD SMALL P;BOLD SMALL Q",
    "BOLD SMALL R;BOLD SMALL S;BOLD SMALL T;BOLD SMALL U;BOLD SMALL V;BOLD SMALL W",
    "BOLD SMALL X;BOLD SMALL Y;BOLD SMALL Z;ITALIC CAPITAL A;ITALIC CAPITAL B",
    "ITALIC CAPITAL C;ITALIC CAPITAL D;ITALIC CAPITAL E;ITALIC CAPITAL F;ITALIC CAPITAL G",
    "ITALIC CAPITAL H;ITALIC CAPITAL I;ITALIC CAPITAL J;ITALIC CAPITAL K;ITALIC CAPITAL L",
    "ITALIC CAPITAL M;ITALIC CAPITAL N;ITALIC CAPITAL O;ITALIC CAPITAL P;ITALIC CAPITAL Q",
    "ITALIC CAPITAL R;ITALIC CAPITAL S;ITALIC CAPITAL T;ITALIC CAPITAL U;ITALIC CAPITAL V",
    "ITALIC CAPITAL W;ITALIC CAPITAL X;ITALIC CAPITAL Y;ITALIC CAPITAL Z;ITALIC SMALL A",
    "ITALIC SMALL B;ITALIC SMALL C;ITALIC SMALL D;ITALIC SMALL E;ITALIC SMALL F",
    "ITALIC SMALL G"]),
  (0x1d456, "MATHEMATICAL ", [
    "ITALIC SMALL I;ITALIC SMALL J;ITALIC SMALL K;ITALIC SMALL L;ITALIC SMALL M",
    "ITALIC SMALL N;ITALIC SMALL O;ITALIC SMALL P;ITALIC SMALL Q;ITALIC SMALL R",
    "ITALIC SMALL S;ITALIC SMALL T;ITALIC SMALL U;ITALIC SMALL V;ITALIC SMALL W",
    "ITALIC SMALL X;ITALIC SMALL Y;ITALIC SMALL Z;BOLD ITALIC CAPITAL A;BOLD ITALIC CAPITAL B",
    "BOLD ITALIC CAPITAL C;BOLD ITALIC CAPITAL D;BOLD ITALIC CAPITAL E;BOLD ITALIC CAPITAL F",
    "BOLD ITALIC CAPITAL G;BOLD ITALIC CAPITAL H;BOLD ITALIC CAPITAL I;BOLD ITALIC CAPITAL J",
    "BOLD ITALIC CAPITAL K;BOLD ITALIC CAPITAL L;BOLD ITALIC CAPITAL M;BOLD ITALIC CAPITAL N",
    "BOLD ITALIC CAPITAL O;BOLD ITALIC CAPITAL P;BOLD ITALIC CAPITAL Q;BOLD ITALIC CAPITAL R",
    "BOLD ITALIC CAPITAL S;BOLD ITALIC CAPITAL T;BOLD ITALIC CAPITAL U;BOLD ITALIC CAPITAL V",
    "BOLD ITALIC CAPITAL W;BOLD ITALIC CAPITAL X;BOLD ITALIC CAPITAL Y;BOLD ITALIC CAPITAL Z",
    "BOLD ITALIC SMALL A;BOLD ITALIC SMALL B;BOLD ITALIC SMALL C;BOLD ITALIC SMALL D",
    "BOLD ITALIC SMALL E;BOLD ITALIC SMALL F;BOLD ITALIC SMALL G;BOLD ITALIC SMALL H",
    "BOLD ITALIC SMALL I;BOLD ITALIC SMALL J;BOLD ITALIC SMALL K;BOLD ITALIC SMALL L",
    "BOLD ITALIC SMALL M;BOLD ITALIC SMALL N;BOLD ITALIC SMALL O;BOLD ITALIC SMALL P",
    "BOLD ITALIC SMALL Q;BOLD ITALIC SMALL R;BOLD ITALIC SMALL S;BOLD ITALIC SMALL T",
    "BOLD ITALIC SMALL U;BOLD ITALIC SMALL V;BOLD ITALIC SMALL W;BOLD ITALIC SMALL X",
    "BOLD ITALIC SMALL Y;BOLD ITALIC SMALL Z;SCRIPT CAPITAL A"]),
  (0x1d49e, "MATHEMATICAL SCRIPT CAPITAL ", ["C;D"]),
  (0x1d4a2, "", ["MATHEMATICAL SCRIPT CAPITAL G"]),
  (0x1d4a5, "MATHEMATICAL SCRIPT CAPITAL ", ["J;K"]),
  (0x1d4a9, "MATHEMATICAL SCRIPT CAPITAL ", ["N;O;P;Q"]),
  (0x1d4ae, "MATHEMATICAL SCRIPT ", [
    "CAPITAL S;CAPITAL T;CAPITAL U;CAPITAL V;CAPITAL W;CAPITAL X;CAPITAL Y;CAPITAL Z;SMALL A",
    "SMALL B;SMALL C;SMALL D"]),
  (0x1d4bb, "", ["MATHEMATICAL SCRIPT SMALL F"]),
  (0x1d4bd, "MATHEMATICAL SCRIPT SMALL ", ["H;I;J;K;L;M;N"]),
  (0x1d4c5, "MATHEMATICAL ", [
    "SCRIPT SMALL P;SCRIPT SMALL Q;SCRIPT SMALL R;SCRIPT SMALL S;SCRIPT SMALL T",
    "SCRIPT SMALL U;SCRIPT SMALL V;SCRIPT SMALL W;SCRIPT SMALL X;SCRIPT SMALL Y",
    "SCRIPT SMALL Z;BOLD SCRIPT CAPITAL A;BOLD SCRIPT CAPITAL B;BOLD SCRIPT CAPITAL C",
    "BOLD SCRIPT CAPITAL D;BOLD SCRIPT CAPITAL E;BOLD SCRIPT CAPITAL F;BOLD SCRIPT CAPITAL G",
    "BOLD SCRIPT CAPITAL H;BOLD SCRIPT CAPITAL I;BOLD SCRIPT CAPITAL J;BOLD SCRIPT CAPITAL K",
    "BOLD SCRIPT CAPITAL L;BOLD SCRIPT CAPITAL M;BOLD SCRIPT CAPITAL N;BOLD SCRIPT CAPITAL O",
    "BOLD SCRIPT CAPITAL P;BOLD SCRIPT CAPITAL Q;BOLD SCRIPT CAPITAL R;BOLD SCRIPT CAPITAL S",
    "BOLD SCRIPT CAPITAL T;BOLD SCRIPT CAPITAL U;BOLD SCRIPT CAPITAL V;BOLD SCRIPT CAPITAL W",
    "BOLD SCRIPT CAPITAL X;BOLD SCRIPT CAPITAL Y;BOLD SCRIPT CAPITAL Z;BOLD SCRIPT SMALL A",
    "BOLD SCRIPT SMALL B;BOLD SCRIPT SMALL C;BOLD SCRIPT SMALL D;BOLD SCRIPT SMALL E",
    "BOLD SCRIPT SMALL F;BOLD SCRIPT SMALL G;BOLD SCRIPT SMALL H;BOLD SCRIPT SMALL I",
    "BOLD SCRIPT SMALL J;BOLD SCRIPT SMALL K;BOLD SCRIPT SMALL L;BOLD SCRIPT SMALL M",
    "BOLD SCRIPT SMALL N;BOLD SCRIPT SMALL O;BOLD SCRIPT SMALL P;BOLD SCRIPT SMALL Q",
    "BOLD SCRIPT SMALL R;BOLD SCRIPT SMALL S;BOLD SCRIPT SMALL T;BOLD SCRIPT SMALL U",
    "BOLD SCRIPT SMALL V;BOLD SCRIPT SMALL W;BOLD SCRIPT SMALL X;BOLD SCRIPT SMALL Y",
    "BOLD SCRIPT SMALL Z;FRAKTUR CAPITAL A;FRAKTUR CAPITAL B"]),
  (0x1d507, "MATHEMATICAL FRAKTUR CAPITAL ", ["D;E;F;G"]),
  (0x1d50d, "MATHEMATICAL FRAKTUR CAPITAL ", ["J;K;L;M;N;O;P;Q"]),
  (0x1d516, "MATHEMATICAL FRAKTUR CAPITAL ", ["S;T;U;V;W;X;Y"]),
  (0x1d51e, "MATHEMATICAL FRAKTUR SMALL ", ["A;B;C;D;E;F;G;H;I;J;K;L;M;N;O;P;Q;R;S;T;U;V;W;X;Y;Z"]),
  (0x1d538, "MATHEMATICAL DOUBLE-STRUCK CAPITAL ", ["A;B"]),
  (0x1d53b, "MATHEMATICAL DOUBLE-STRUCK CAPITAL ", ["D;E;F;G"]),
  (0x1d540, "MATHEMATICAL DOUBLE-STRUCK CAPITAL ", ["I;J;K;L;M"]),
  (0x1d546, "", ["MATHEMATICAL DOUBLE-STRUCK CAPITAL O"]),
  (0x1d54a, "MATHEMATICAL DOUBLE-STRUCK CAPITAL ", ["S;T;U;V;W;X;Y"]),
  (0x1d552, "MATHEMATICAL ", [
    "DOUBLE-STRUCK SMALL A;DOUBLE-STRUCK SMALL B;DOUBLE-STRUCK SMALL C;DOUBLE-STRUCK SMALL D",
    "DOUBLE-STRUCK SMALL E;DOUBLE-STRUCK SMALL F;DOUBLE-STRUCK SMALL G;DOUBLE-STRUCK SMALL H",
    "DOUBLE-STRUCK SMALL I;DOUBLE-STRUCK SMALL J;DOUBLE-STRUCK SMALL K;DOUBLE-STRUCK SMALL L",
    "DOUBLE-STRUCK SMALL M;DOUBLE-STRUCK SMALL N;DOUBLE-STRUCK SMALL O;DOUBLE-STRUCK SMALL P",
    "DOUBLE-STRUCK SMALL Q;DOUBLE-STRUCK SMALL R;DOUBLE-STRUCK SMALL S;DOUBLE-STRUCK SMALL T",
    "DOUBLE-STRUCK SMALL U;DOUBLE-STRUCK SMALL V;DOUBLE-STRUCK SMALL W;DOUBLE-STRUCK SMALL X",
    "DOUBLE-STRUCK SMALL Y;DOUBLE-STRUCK SMALL Z;BOLD FRAKTUR CAPITAL A",
    "BOLD FRAKTUR CAPITAL B;BOLD FRAKTUR CAPITAL C;BOLD FRAKTUR CAPITAL D",
    "BOLD FRAKTUR CAPITAL E;BOLD FRAKTUR CAPITAL F;BOLD FRAKTUR CAPITAL G",
    "BOLD FRAKTUR CAPITAL H;BOLD FRAKTUR CAPITAL I;BOLD FRAKTUR CAPITAL J",
    "BOLD FRAKTUR CAPITAL K;BOLD FRAKTUR CAPITAL L;BOLD FRAKTUR CAPITAL M",
    "BOLD FRAKTUR CAPITAL N;BOLD FRAKTUR CAPITAL O;BOLD FRAKTUR CAPITAL P",
    "BOLD FRAKTUR CAPITAL Q;BOLD FRAKTUR CAPITAL R;BOLD FRAKTUR CAPITAL S",
    "BOLD FRAKTUR CAPITAL T;BOLD FRAKTUR CAPITAL U;BOLD FRAKTUR CAPITAL V",
    "BOLD FRAKTUR CAPITAL W;BOLD FRAKTUR CAPITAL X;BOLD FRAKTUR CAPITAL Y",
    "BOLD FRAKTUR CAPITAL Z;BOLD FRAKTUR SMALL A;BOLD FRAKTUR SMALL B;BOLD FRAKTUR SMALL C",
    "BOLD FRAKTUR SMALL D;BOLD FRAKTUR SMALL E;BOLD FRAKTUR SMALL F;BOLD FRAKTUR SMALL G",
    "BOLD FRAKTUR SMALL H;BOLD FRAKTUR SMALL I;BOLD FRAKTUR SMALL J;BOLD FRAKTUR SMALL K",
    "BOLD FRAKTUR SMALL L;BOLD FRAKTUR SMALL M;BOLD FRAKTUR SMALL N;BOLD FRAKTUR SMALL O",
    "BOLD FRAKTUR SMALL P;BOLD FRAKTUR SMALL Q;BOLD FRAKTUR SMALL R;BOLD FRAKTUR SMALL S",
    "BOLD FRAKTUR SMALL T;BOLD FRAKTUR SMALL U;BOLD FRAKTUR SMALL V;BOLD FRAKTUR SMALL W",
    "BOLD FRAKTUR SMALL X;BOLD FRAKTUR SMALL Y;BOLD FRAKTUR SMALL Z;SANS-SERIF CAPITAL A",
    "SANS-SERIF CAPITAL B;SANS-SERIF CAPITAL C;SANS-SERIF CAPITAL D;SANS-SERIF CAPITAL E",
    "SANS-SERIF CAPITAL F;SANS-SERIF CAPITAL G;SANS-SERIF CAPITAL H;SANS-SERIF CAPITAL I",
    "SANS-SERIF CAPITAL J;SANS-SERIF CAPITAL K;SANS-SERIF CAPITAL L;SANS-SERIF CAPITAL M",
    "SANS-SERIF CAPITAL N;SANS-SERIF CAPITAL O;SANS-SERIF CAPITAL P;SANS-SERIF CAPITAL Q",
    "SANS-SERIF CAPITAL R;SANS-SERIF CAPITAL S;SANS-SERIF CAPITAL T;SANS-SERIF CAPITAL U",
    "SANS-SERIF CAPITAL V;SANS-SERIF CAPITAL W;SANS-SERIF CAPITAL X;SANS-SERIF CAPITAL Y",
    "SANS-SERIF CAPITAL Z;SANS-SERIF SMALL A;SANS-SERIF SMALL B;SANS-SERIF SMALL C",
    "SANS-SERIF SMALL D;SANS-SERIF SMALL E;SANS-SERIF SMALL F;SANS-SERIF SMALL G",
    "SANS-SERIF SMALL H;SANS-SERIF SMALL I;SANS-SERIF SMALL J;SANS-SERIF SMALL K",
    "SANS-SERIF SMALL L;SANS-SERIF SMALL M;SANS-SERIF SMALL N;SANS-SERIF SMALL O",
    "SANS-SERIF SMALL P;SANS-SERIF SMALL Q;SANS-SERIF SMALL R;SANS-SERIF SMALL S",
    "SANS-SERIF SMALL T;SANS-SERIF SMALL U;SANS-SERIF SMALL V;SANS-SERIF SMALL W",
    "SANS-SERIF SMALL X;SANS-SERIF SMALL Y;SANS-SERIF SMALL Z;SANS-SERIF BOLD CAPITAL A",
    "SANS-SERIF BOLD CAPITAL B;SANS-SERIF BOLD CAPITAL C;SANS-SERIF BOLD CAPITAL D",
    "SANS-SERIF BOLD CAPITAL E;SANS-SERIF BOLD CAPITAL F;SANS-SERIF BOLD CAPITAL G",
    "SANS-SERIF BOLD CAPITAL H;SANS-SERIF BOLD CAPITAL I;SANS-SERIF BOLD CAPITAL J",
    "SANS-SERIF BOLD CAPITAL K;SANS-SERIF BOLD CAPITAL L;SANS-SERIF BOLD CAPITAL M",
    "SANS-SERIF BOLD CAPITAL N;SANS-SERIF BOLD CAPITAL O;SANS-SERIF BOLD CAPITAL P",
    "SANS-SERIF BOLD CAPITAL Q;SANS-SERIF BOLD CAPITAL R;SANS-SERIF BOLD CAPITAL S",
    "SANS-SERIF BOLD CAPITAL T;SANS-SERIF BOLD CAPITAL U;SANS-SERIF BOLD CAPITAL V",
    "SANS-SERIF BOLD CAPITAL W;SANS-SERIF BOLD CAPITAL X;SANS-SERIF BOLD CAPITAL Y",
    "SANS-SERIF BOLD CAPITAL Z;SANS-SERIF BOLD SMALL A;SANS-SERIF BOLD SMALL B",
    "SANS-SERIF BOLD SMALL C;SANS-SERIF BOLD SMALL D;SANS-SERIF BOLD SMALL E",
    "SANS-SERIF BOLD SMALL F;SANS-SERIF BOLD SMALL G;SANS-SERIF BOLD SMALL H",
    "SANS-SERIF BOLD SMALL I;SANS-SERIF BOLD SMALL J;SANS-SERIF BOLD SMALL K",
    "SANS-SERIF BOLD SMALL L;SANS-SERIF BOLD SMALL M;SANS-SERIF BOLD SMALL N",
    "SANS-SERIF BOLD SMALL O;SANS-SERIF BOLD SMALL P;SANS-SERIF BOLD SMALL Q",
    "SANS-SERIF BOLD SMALL R;SANS-SERIF BOLD SMALL S;SANS-SERIF BOLD SMALL T",
    "SANS-SERIF BOLD SMALL U;SANS-SERIF BOLD SMALL V;SANS-SERIF BOLD SMALL W",
    "SANS-SERIF BOLD SMALL X;SANS-SERIF BOLD SMALL Y;SANS-SERIF BOLD SMALL Z",
    "SANS-SERIF ITALIC CAPITAL A;SANS-SERIF ITALIC CAPITAL B;SANS-SERIF ITALIC CAPITAL C",
    "SANS-SERIF ITALIC CAPITAL D;SANS-SERIF ITALIC CAPITAL E;SANS-SERIF ITALIC CAPITAL F",
    "SANS-SERIF ITALIC CAPITAL G;SANS-SERIF ITALIC CAPITAL H;SANS-SERIF ITALIC CAPITAL I",
    "SANS-SERIF ITALIC CAPITAL J;SANS-SERIF ITALIC CAPITAL K;SANS-SERIF ITALIC CAPITAL L",
    "SANS-SERIF ITALIC CAPITAL M;SANS-SERIF ITALIC CAPITAL N;SANS-SERIF ITALIC CAPITAL O",
    "SANS-SERIF ITALIC CAPITAL P;SANS-SERIF ITALIC CAPITAL Q;SANS-SERIF ITALIC CAPITAL R",
    "SANS-SERIF ITALIC CAPITAL S;SANS-SERIF ITALIC CAPITAL T;SANS-SERIF ITALIC CAPITAL U",
    "SANS-SERIF ITALIC CAPITAL V;SANS-SERIF ITALIC CAPITAL W;SANS-SERIF ITALIC CAPITAL X",
    "SANS-SERIF ITALIC CAPITAL Y;SANS-SERIF ITALIC CAPITAL Z;SANS-SERIF ITALIC SMALL A",
    "SANS-SERIF ITALIC SMALL B;SANS-SERIF ITALIC SMALL C;SANS-SERIF ITALIC SMALL D",
    "SANS-SERIF ITALIC SMALL E;SANS-SERIF ITALIC SMALL F;SANS-SERIF ITALIC SMALL G",
    "SANS-SERIF ITALIC SMALL H;SANS-SERIF ITALIC SMALL I;SANS-SERIF ITALIC SMALL J",
    "SANS-SERIF ITALIC SMALL K;SANS-SERIF ITALIC SMALL L;SANS-SERIF ITALIC SMALL M",
    "SANS-SERIF ITALIC SMALL N;SANS-SERIF ITALIC SMALL O;SANS-SERIF ITALIC SMALL P",
    "SANS-SERIF ITALIC SMALL Q;SANS-SERIF ITALIC SMALL R;SANS-SERIF ITALIC SMALL S",
    "SANS-SERIF ITALIC SMALL T;SANS-SERIF ITALIC SMALL U;SANS-SERIF ITALIC SMALL V",
    "SANS-SERIF ITALIC SMALL W;SANS-SERIF ITALIC SMALL X;SANS-SERIF ITALIC SMALL Y",
    "SANS-SERIF ITALIC SMALL Z;SANS-SERIF BOLD ITALIC CAPITAL A",
    "SANS-SERIF BOLD ITALIC CAPITAL B;SANS-SERIF BOLD ITALIC CAPITAL C",
    "SANS-SERIF BOLD ITALIC CAPITAL D;SANS-SERIF BOLD ITALIC CAPITAL E",
    "SANS-SERIF BOLD ITALIC CAPITAL F;SANS-SERIF BOLD ITALIC CAPITAL G",
    "SANS-SERIF BOLD ITALIC CAPITAL H;SANS-SERIF BOLD ITALIC CAPITAL I",
    "SANS-SERIF BOLD ITALIC CAPITAL J;SANS-SERIF BOLD ITALIC CAPITAL K",
    "SANS-SERIF BOLD ITALIC CAPITAL L;SANS-SERIF BOLD ITALIC CAPITAL M",
    "SANS-SERIF BOLD ITALIC CAPITAL N;SANS-SERIF BOLD ITALIC CAPITAL O",
    "SANS-SERIF BOLD ITALIC CAPITAL P;SANS-SERIF BOLD ITALIC CAPITAL Q",
    "SANS-SERIF BOLD ITALIC CAPITAL R;SANS-SERIF BOLD ITALIC CAPITAL S",
    "SANS-SERIF BOLD ITALIC CAPITAL T;SANS-SERIF BOLD ITALIC CAPITAL U",
    "SANS-SERIF BOLD ITALIC CAPITAL V;SANS-SERIF BOLD ITALIC CAPITAL W",
    "SANS-SERIF BOLD ITALIC CAPITAL X;SANS-SERIF BOLD ITALIC CAPITAL Y",
    "SANS-SERIF BOLD ITALIC CAPITAL Z;SANS-SERIF BOLD ITALIC SMALL A",
    "SANS-SERIF BOLD ITALIC SMALL B;SANS-SERIF BOLD ITALIC SMALL C",
    "SANS-SERIF BOLD ITALIC SMALL D;SANS-SERIF BOLD ITALIC SMALL E",
    "SANS-SERIF BOLD ITALIC SMALL F;SANS-SERIF BOLD ITALIC SMALL G",
    "SANS-SERIF BOLD ITALIC SMALL H;SANS-SERIF BOLD ITALIC SMALL I",
    "SANS-SERIF BOLD ITALIC SMALL J;SANS-SERIF BOLD ITALIC SMALL K",
    "SANS-SERIF BOLD ITALIC SMALL L;SANS-SERIF BOLD ITALIC SMALL M",
    "SANS-SERIF BOLD ITALIC SMALL N;SANS-SERIF BOLD ITALIC SMALL O",
    "SANS-SERIF BOLD ITALIC SMALL P;SANS-SERIF BOLD ITALIC SMALL Q",
    "SANS-SERIF BOLD ITALIC SMALL R;SANS-SERIF BOLD ITALIC SMALL S",
    "SANS-SERIF BOLD ITALIC SMALL T;SANS-SERIF BOLD ITALIC SMALL U",
    "SANS-SERIF BOLD ITALIC SMALL V;SANS-SERIF BOLD ITALIC SMALL W",
    "SANS-SERIF BOLD ITALIC SMALL X;SANS-SERIF BOLD ITALIC SMALL Y",
    "SANS-SERIF BOLD ITALIC SMALL Z;MONOSPACE CAPITAL A;MONOSPACE CAPITAL B",
    "MONOSPACE CAPITAL C;MONOSPACE CAPITAL D;MONOSPACE CAPITAL E;MONOSPACE CAPITAL F",
    "MONOSPACE CAPITAL G;MONOSPACE CAPITAL H;MONOSPACE CAPITAL I;MONOSPACE CAPITAL J",
    "MONOSPACE CAPITAL K;MONOSPACE CAPITAL L;MONOSPACE CAPITAL M;MONOSPACE CAPITAL N",
    "MONOSPACE CAPITAL O;MONOSPACE CAPITAL P;MONOSPACE CAPITAL Q;MONOSPACE CAPITAL R",
    "MONOSPACE CAPITAL S;MONOSPACE CAPITAL T;MONOSPACE CAPITAL U;MONOSPACE CAPITAL V",
    "MONOSPACE CAPITAL W;MONOSPACE CAPITAL X;MONOSPACE CAPITAL Y;MONOSPACE CAPITAL Z",
    "MONOSPACE SMALL A;MONOSPACE SMALL B;MONOSPACE SMALL C;MONOSPACE SMALL D",
    "MONOSPACE SMALL E;MONOSPACE SMALL F;MONOSPACE SMALL G;MONOSPACE SMALL H",
    "MONOSPACE SMALL I;MONOSPACE SMALL J;MONOSPACE SMALL K;MONOSPACE SMALL L",
    "MONOSPACE SMALL M;MONOSPACE SMALL N;MONOSPACE SMALL O;MONOSPACE SMALL P",
    "MONOSPACE SMALL Q;MONOSPACE SMALL R;MONOSPACE SMALL S;MONOSPACE SMALL T",
    "MONOSPACE SMALL U;MONOSPACE SMALL V;MONOSPACE SMALL W;MONOSPACE SMALL X",
    "MONOSPACE SMALL Y;MONOSPACE SMALL Z;ITALIC SMALL DOTLESS I;ITALIC SMALL DOTLESS J"]),
  (0x1d6a8, "MATHEMATICAL ", [
    "BOLD CAPITAL ALPHA;BOLD CAPITAL BETA;BOLD CAPITAL GAMMA;BOLD CAPITAL DELTA",
    "BOLD CAPITAL EPSILON;BOLD CAPITAL ZETA;BOLD CAPITAL ETA;BOLD CAPITAL THETA",
    "BOLD CAPITAL IOTA;BOLD CAPITAL KAPPA;BOLD CAPITAL LAMDA;BOLD CAPITAL MU;BOLD CAPITAL NU",
    "BOLD CAPITAL XI;BOLD CAPITAL OMICRON;BOLD CAPITAL PI;BOLD CAPITAL RHO",
    "BOLD CAPITAL THETA SYMBOL;BOLD CAPITAL SIGMA;BOLD CAPITAL TAU;BOLD CAPITAL UPSILON",
    "BOLD CAPITAL PHI;BOLD CAPITAL CHI;BOLD CAPITAL PSI;BOLD CAPITAL OMEGA;BOLD NABLA",
    "BOLD SMALL ALPHA;BOLD SMALL BETA;BOLD SMALL GAMMA;BOLD SMALL DELTA;BOLD SMALL EPSILON",
    "BOLD SMALL ZETA;BOLD SMALL ETA;BOLD SMALL THETA;BOLD SMALL IOTA;BOLD SMALL KAPPA",
    "BOLD SMALL LAMDA;BOLD SMALL MU;BOLD SMALL NU;BOLD SMALL XI;BOLD SMALL OMICRON",
    "BOLD SMALL PI;BOLD SMALL RHO;BOLD SMALL FINAL SIGMA;BOLD SMALL SIGMA;BOLD SMALL TAU",
    "BOLD SMALL UPSILON;BOLD SMALL PHI;BOLD SMALL CHI;BOLD SMALL PSI;BOLD SMALL OMEGA",
    "BOLD PARTIAL DIFFERENTIAL;BOLD EPSILON SYMBOL;BOLD THETA SYMBOL;BOLD KAPPA SYMBOL",
    "BOLD PHI SYMBOL;BOLD RHO SYMBOL;BOLD PI SYMBOL;ITALIC CAPITAL ALPHA;ITALIC CAPITAL BETA",
    "ITALIC CAPITAL GAMMA;ITALIC CAPITAL DELTA;ITALIC CAPITAL EPSILON;ITALIC CAPITAL ZETA",
    "ITALIC CAPITAL ETA;ITALIC CAPITAL THETA;ITALIC CAPITAL IOTA;ITALIC CAPITAL KAPPA",
    "ITALIC CAPITAL LAMDA;ITALIC CAPITAL MU;ITALIC CAPITAL NU;ITALIC CAPITAL XI",
    "ITALIC CAPITAL OMICRON;ITALIC CAPITAL PI;ITALIC CAPITAL RHO;ITALIC CAPITAL THETA SYMBOL",
    "ITALIC CAPITAL SIGMA;ITALIC CAPITAL TAU;ITALIC CAPITAL UPSILON;ITALIC CAPITAL PHI",
    "ITALIC CAPITAL CHI;ITALIC CAPITAL PSI;ITALIC CAPITAL OMEGA;ITALIC NABLA",
    "ITALIC SMALL ALPHA;ITALIC SMALL BETA;ITALIC SMALL GAMMA;ITALIC SMALL DELTA",
    "ITALIC SMALL EPSILON;ITALIC SMALL ZETA;ITALIC SMALL ETA;ITALIC SMALL THETA",
    "ITALIC SMALL IOTA;ITALIC SMALL KAPPA;ITALIC SMALL LAMDA;ITALIC SMALL MU;ITALIC SMALL NU",
    "ITALIC SMALL XI;ITALIC SMALL OMICRON;ITALIC SMALL PI;ITALIC SMALL RHO",
    "ITALIC SMALL FINAL SIGMA;ITALIC SMALL SIGMA;ITALIC SMALL TAU;ITALIC SMALL UPSILON",
    "ITALIC SMALL PHI;ITALIC SMALL CHI;ITALIC SMALL PSI;ITALIC SMALL OMEGA",
    "ITALIC PARTIAL DIFFERENTIAL;ITALIC EPSILON SYMBOL;ITALIC THETA SYMBOL",
    "ITALIC KAPPA SYMBOL;ITALIC PHI SYMBOL;ITALIC RHO SYMBOL;ITALIC PI SYMBOL",
    "BOLD ITALIC CAPITAL ALPHA;BOLD ITALIC CAPITAL BETA;BOLD ITALIC CAPITAL GAMMA",
    "BOLD ITALIC CAPITAL DELTA;BOLD ITALIC CAPITAL EPSILON;BOLD ITALIC CAPITAL ZETA",
    "BOLD ITALIC CAPITAL ETA;BOLD ITALIC CAPITAL THETA;BOLD ITALIC CAPITAL IOTA",
    "BOLD ITALIC CAPITAL KAPPA;BOLD ITALIC CAPITAL LAMDA;BOLD ITALIC CAPITAL MU",
    "BOLD ITALIC CAPITAL NU;BOLD ITALIC CAPITAL XI;BOLD ITALIC CAPITAL OMICRON",
    "BOLD ITALIC CAPITAL PI;BOLD ITALIC CAPITAL RHO;BOLD ITALIC CAPITAL THETA SYMBOL",
    "BOLD ITALIC CAPITAL SIGMA;BOLD ITALIC CAPITAL TAU;BOLD ITALIC CAPITAL UPSILON",
    "BOLD ITALIC CAPITAL PHI;BOLD ITALIC CAPITAL CHI;BOLD ITALIC CAPITAL PSI",
    "BOLD ITALIC CAPITAL OMEGA;BOLD ITALIC NABLA;BOLD ITALIC SMALL ALPHA",
    "BOLD ITALIC SMALL BETA;BOLD ITALIC SMALL GAMMA;BOLD ITALIC SMALL DELTA",
    "BOLD ITALIC SMALL EPSILON;BOLD ITALIC SMALL ZETA;BOLD ITALIC SMALL ETA",
    "BOLD ITALIC SMALL THETA;BOLD ITALIC SMALL IOTA;BOLD ITALIC SMALL KAPPA",
    "BOLD ITALIC SMALL LAMDA;BOLD ITALIC SMALL MU;BOLD ITALIC SMALL NU;BOLD ITALIC SMALL XI",
    "BOLD ITALIC SMALL OMICRON;BOLD ITALIC SMALL PI;BOLD ITALIC SMALL RHO",
    "BOLD ITALIC SMALL FINAL SIGMA;BOLD ITALIC SMALL SIGMA;BOLD ITALIC SMALL TAU",
    "BOLD ITALIC SMALL UPSILON;BOLD ITALIC SMALL PHI;BOLD ITALIC SMALL CHI",
    "BOLD ITALIC SMALL PSI;BOLD ITALIC SMALL OMEGA;BOLD ITALIC PARTIAL DIFFERENTIAL",
    "BOLD ITALIC EPSILON SYMBOL;BOLD ITALIC THETA SYMBOL;BOLD ITALIC KAPPA SYMBOL",
    "BOLD ITALIC PHI SYMBOL;BOLD ITALIC RHO SYMBOL;BOLD ITALIC PI SYMBOL",
    "SANS-SERIF BOLD CAPITAL ALPHA;SANS-SERIF BOLD CAPITAL BETA;SANS-SERIF BOLD CAPITAL GAMMA",
    "SANS-SERIF BOLD CAPITAL DELTA;SANS-SERIF BOLD CAPITAL EPSILON",
    "SANS-SERIF BOLD CAPITAL ZETA;SANS-SERIF BOLD CAPITAL ETA;SANS-SERIF BOLD CAPITAL THETA",
    "SANS-SERIF BOLD CAPITAL IOTA;SANS-SERIF BOLD CAPITAL KAPPA;SANS-SERIF BOLD CAPITAL LAMDA",
    "SANS-SERIF BOLD CAPITAL MU;SANS-SERIF BOLD CAPITAL NU;SANS-SERIF BOLD CAPITAL XI",
    "SANS-SERIF BOLD CAPITAL OMICRON;SANS-SERIF BOLD CAPITAL PI;SANS-SERIF BOLD CAPITAL RHO",
    "SANS-SERIF BOLD CAPITAL THETA SYMBOL;SANS-SERIF BOLD CAPITAL SIGMA",
    "SANS-SERIF BOLD CAPITAL TAU;SANS-SERIF BOLD CAPITAL UPSILON;SANS-SERIF BOLD CAPITAL PHI",
    "SANS-SERIF BOLD CAPITAL CHI;SANS-SERIF BOLD CAPITAL PSI;SANS-SERIF BOLD CAPITAL OMEGA",
    "SANS-SERIF BOLD NABLA;SANS-SERIF BOLD SMALL ALPHA;SANS-SERIF BOLD SMALL BETA",
    "SANS-SERIF BOLD SMALL GAMMA;SANS-SERIF BOLD SMALL DELTA;SANS-SERIF BOLD SMALL EPSILON",
    "SANS-SERIF BOLD SMALL ZETA;SANS-SERIF BOLD SMALL ETA;SANS-SERIF BOLD SMALL THETA",
    "SANS-SERIF BOLD SMALL IOTA;SANS-SERIF BOLD SMALL KAPPA;SANS-SERIF BOLD SMALL LAMDA",
    "SANS-SERIF BOLD SMALL MU;SANS-SERIF BOLD SMALL NU;SANS-SERIF BOLD SMALL XI",
    "SANS-SERIF BOLD SMALL OMICRON;SANS-SERIF BOLD SMALL PI;SANS-SERIF BOLD SMALL RHO",
    "SANS-SERIF BOLD SMALL FINAL SIGMA;SANS-SERIF BOLD SMALL SIGMA;SANS-SERIF BOLD SMALL TAU",
    "SANS-SERIF BOLD SMALL UPSILON;SANS-SERIF BOLD SMALL PHI;SANS-SERIF BOLD SMALL CHI",
    "SANS-SERIF BOLD SMALL PSI;SANS-SERIF BOLD SMALL OMEGA",
    "SANS-SERIF BOLD PARTIAL DIFFERENTIAL;SANS-SERIF BOLD EPSILON SYMBOL",
    "SANS-SERIF BOLD THETA SYMBOL;SANS-SERIF BOLD KAPPA SYMBOL;SANS-SERIF BOLD PHI SYMBOL",
    "SANS-SERIF BOLD RHO SYMBOL;SANS-SERIF BOLD PI SYMBOL",
    "SANS-SERIF BOLD ITALIC CAPITAL ALPHA;SANS-SERIF BOLD ITALIC CAPITAL BETA",
    "SANS-SERIF BOLD ITALIC CAPITAL GAMMA;SANS-SERIF BOLD ITALIC CAPITAL DELTA",
    "SANS-SERIF BOLD ITALIC CAPITAL EPSILON;SANS-SERIF BOLD ITALIC CAPITAL ZETA",
    "SANS-SERIF BOLD ITALIC CAPITAL ETA;SANS-SERIF BOLD ITALIC CAPITAL THETA",
    "SANS-SERIF BOLD ITALIC CAPITAL IOTA;SANS-SERIF BOLD ITALIC CAPITAL KAPPA",
    "SANS-SERIF BOLD ITALIC CAPITAL LAMDA;SANS-SERIF BOLD ITALIC CAPITAL MU",
    "SANS-SERIF BOLD ITALIC CAPITAL NU;SANS-SERIF BOLD ITALIC CAPITAL XI",
    "SANS-SERIF BOLD ITALIC CAPITAL OMICRON;SANS-SERIF BOLD ITALIC CAPITAL PI",
    "SANS-SERIF BOLD ITALIC CAPITAL RHO;SANS-SERIF BOLD ITALIC CAPITAL THETA SYMBOL",
    "SANS-SERIF BOLD ITALIC CAPITAL SIGMA;SANS-SERIF BOLD ITALIC CAPITAL TAU",
    "SANS-SERIF BOLD ITALIC CAPITAL UPSILON;SANS-SERIF BOLD ITALIC CAPITAL PHI",
    "SANS-SERIF BOLD ITALIC CAPITAL CHI;SANS-SERIF BOLD ITALIC CAPITAL PSI",
    "SANS-SERIF BOLD ITALIC CAPITAL OMEGA;SANS-SERIF BOLD ITALIC NABLA",
    "SANS-SERIF BOLD ITALIC SMALL ALPHA;SANS-SERIF BOLD ITALIC SMALL BETA",
    "SANS-SERIF BOLD ITALIC SMALL GAMMA;SANS-SERIF BOLD ITALIC SMALL DELTA",
    "SANS-SERIF BOLD ITALIC SMALL EPSILON;SANS-SERIF BOLD ITALIC SMALL ZETA",
    "SANS-SERIF BOLD ITALIC SMALL ETA;SANS-SERIF BOLD ITALIC SMALL THETA",
    "SANS-SERIF BOLD ITALIC SMALL IOTA;SANS-SERIF BOLD ITALIC SMALL KAPPA",
    "SANS-SERIF BOLD ITALIC SMALL LAMDA;SANS-SERIF BOLD ITALIC SMALL MU",
    "SANS-SERIF BOLD ITALIC SMALL NU;SANS-SERIF BOLD ITALIC SMALL XI",
    "SANS-SERIF BOLD ITALIC SMALL OMICRON;SANS-SERIF BOLD ITALIC SMALL PI",
    "SANS-SERIF BOLD ITALIC SMALL RHO;SANS-SERIF BOLD ITALIC SMALL FINAL SIGMA",
    "SANS-SERIF BOLD ITALIC SMALL SIGMA;SANS-SERIF BOLD ITALIC SMALL TAU",
    "SANS-SERIF BOLD ITALIC SMALL UPSILON;SANS-SERIF BOLD ITALIC SMALL PHI",
    "SANS-SERIF BOLD ITALIC SMALL CHI;SANS-SERIF BOLD ITALIC SMALL PSI",
    "SANS-SERIF BOLD ITALIC SMALL OMEGA;SANS-SERIF BOLD ITALIC PARTIAL DIFFERENTIAL",
    "SANS-SERIF BOLD ITALIC EPSILON SYMBOL;SANS-SERIF BOLD ITALIC THETA SYMBOL",
    "SANS-SERIF BOLD ITALIC KAPPA SYMBOL;SANS-SERIF BOLD ITALIC PHI SYMBOL",
    "SANS-SERIF BOLD ITALIC RHO SYMBOL;SANS-SERIF BOLD ITALIC PI SYMBOL;BOLD CAPITAL DIGAMMA",
    "BOLD SMALL DIGAMMA"]),
  (0x1d7ce, "MATHEMATICAL ", [
    "BOLD DIGIT ZERO;BOLD DIGIT ONE;BOLD DIGIT TWO;BOLD DIGIT THREE;BOLD DIGIT FOUR",
    "BOLD DIGIT FIVE;BOLD DIGIT SIX;BOLD DIGIT SEVEN;BOLD DIGIT EIGHT;BOLD DIGIT NINE",
    "DOUBLE-STRUCK DIGIT ZERO;DOUBLE-STRUCK DIGIT ONE;DOUBLE-STRUCK DIGIT TWO",
    "DOUBLE-STRUCK DIGIT THREE;DOUBLE-STRUCK DIGIT FOUR;DOUBLE-STRUCK DIGIT FIVE",
    "DOUBLE-STRUCK DIGIT SIX;DOUBLE-STRUCK DIGIT SEVEN;DOUBLE-STRUCK DIGIT EIGHT",
    "DOUBLE-STRUCK DIGIT NINE;SANS-SERIF DIGIT ZERO;SANS-SERIF DIGIT ONE;SANS-SERIF DIGIT TWO",
    "SANS-SERIF DIGIT THREE;SANS-SERIF DIGIT FOUR;SANS-SERIF DIGIT FIVE;SANS-SERIF DIGIT SIX",
    "SANS-SERIF DIGIT SEVEN;SANS-SERIF DIGIT EIGHT;SANS-SERIF DIGIT NINE",
    "SANS-SERIF BOLD DIGIT ZERO;SANS-SERIF BOLD DIGIT ONE;SANS-SERIF BOLD DIGIT TWO",
    "SANS-SERIF BOLD DIGIT THREE;SANS-SERIF BOLD DIGIT FOUR;SANS-SERIF BOLD DIGIT FIVE",
    "SANS-SERIF BOLD DIGIT SIX;SANS-SERIF BOLD DIGIT SEVEN;SANS-SERIF BOLD DIGIT EIGHT",
    "SANS-SERIF BOLD DIGIT NINE;MONOSPACE DIGIT ZERO;MONOSPACE DIGIT ONE;MONOSPACE DIGIT TWO",
    "MONOSPACE DIGIT THREE;MONOSPACE DIGIT FOUR;MONOSPACE DIGIT FIVE;MONOSPACE DIGIT SIX",
    "MONOSPACE DIGIT SEVEN;MONOSPACE DIGIT EIGHT;MONOSPACE DIGIT NINE"]),
  (0x1d800, "SIGNWRITING ", [
    "HAND-FIST INDEX;HAND-CIRCLE INDEX;HAND-CUP INDEX;HAND-OVAL INDEX;HAND-HINGE INDEX",
    "HAND-ANGLE INDEX;HAND-FIST INDEX BENT;HAND-CIRCLE INDEX BENT",
    "HAND-FIST THUMB UNDER INDEX BENT;HAND-FIST INDEX RAISED KNUCKLE;HAND-FIST INDEX CUPPED",
    "HAND-FIST INDEX HINGED;HAND-FIST INDEX HINGED LOW;HAND-CIRCLE INDEX HINGE",
    "HAND-FIST INDEX MIDDLE;HAND-CIRCLE INDEX MIDDLE;HAND-FIST INDEX MIDDLE BENT",
    "HAND-FIST INDEX MIDDLE RAISED KNUCKLES;HAND-FIST INDEX MIDDLE HINGED",
    "HAND-FIST INDEX UP MIDDLE HINGED;HAND-FIST INDEX HINGED MIDDLE UP",
    "HAND-FIST INDEX MIDDLE CONJOINED;HAND-FIST INDEX MIDDLE CONJOINED INDEX BENT",
    "HAND-FIST INDEX MIDDLE CONJOINED MIDDLE BENT;HAND-FIST INDEX MIDDLE CONJOINED CUPPED",
    "HAND-FIST INDEX MIDDLE CONJOINED HINGED;HAND-FIST INDEX MIDDLE CROSSED",
    "HAND-CIRCLE INDEX MIDDLE CROSSED;HAND-FIST MIDDLE BENT OVER INDEX",
    "HAND-FIST INDEX BENT OVER MIDDLE;HAND-FIST INDEX MIDDLE THUMB",
    "HAND-CIRCLE INDEX MIDDLE THUMB;HAND-FIST INDEX MIDDLE STRAIGHT THUMB BENT",
    "HAND-FIST INDEX MIDDLE BENT THUMB STRAIGHT;HAND-FIST INDEX MIDDLE THUMB BENT",
    "HAND-FIST INDEX MIDDLE HINGED SPREAD THUMB SIDE",
    "HAND-FIST INDEX UP MIDDLE HINGED THUMB SIDE",
    "HAND-FIST INDEX UP MIDDLE HINGED THUMB CONJOINED",
    "HAND-FIST INDEX HINGED MIDDLE UP THUMB SIDE",
    "HAND-FIST INDEX MIDDLE UP SPREAD THUMB FORWARD;HAND-FIST INDEX MIDDLE THUMB CUPPED",
    "HAND-FIST INDEX MIDDLE THUMB CIRCLED;HAND-FIST INDEX MIDDLE THUMB HOOKED",
    "HAND-FIST INDEX MIDDLE THUMB HINGED;HAND-FIST THUMB BETWEEN INDEX MIDDLE STRAIGHT",
    "HAND-FIST INDEX MIDDLE CONJOINED THUMB SIDE",
    "HAND-FIST INDEX MIDDLE CONJOINED THUMB SIDE CONJOINED",
    "HAND-FIST INDEX MIDDLE CONJOINED THUMB SIDE BENT;HAND-FIST MIDDLE THUMB HOOKED INDEX UP",
    "HAND-FIST INDEX THUMB HOOKED MIDDLE UP",
    "HAND-FIST INDEX MIDDLE CONJOINED HINGED THUMB SIDE",
    "HAND-FIST INDEX MIDDLE CROSSED THUMB SIDE;HAND-FIST INDEX MIDDLE CONJOINED THUMB FORWARD",
    "HAND-FIST INDEX MIDDLE CONJOINED CUPPED THUMB FORWARD",
    "HAND-FIST MIDDLE THUMB CUPPED INDEX UP;HAND-FIST INDEX THUMB CUPPED MIDDLE UP",
    "HAND-FIST MIDDLE THUMB CIRCLED INDEX UP;HAND-FIST MIDDLE THUMB CIRCLED INDEX HINGED",
    "HAND-FIST INDEX THUMB ANGLED OUT MIDDLE UP;HAND-FIST INDEX THUMB ANGLED IN MIDDLE UP",
    "HAND-FIST INDEX THUMB CIRCLED MIDDLE UP;HAND-FIST INDEX MIDDLE THUMB CONJOINED HINGED",
    "HAND-FIST INDEX MIDDLE THUMB ANGLED OUT;HAND-FIST INDEX MIDDLE THUMB ANGLED",
    "HAND-FIST MIDDLE THUMB ANGLED OUT INDEX UP",
    "HAND-FIST MIDDLE THUMB ANGLED OUT INDEX CROSSED;HAND-FIST MIDDLE THUMB ANGLED INDEX UP",
    "HAND-FIST INDEX THUMB HOOKED MIDDLE HINGED;HAND-FLAT FOUR FINGERS",
    "HAND-FLAT FOUR FINGERS BENT;HAND-FLAT FOUR FINGERS HINGED",
    "HAND-FLAT FOUR FINGERS CONJOINED;HAND-FLAT FOUR FINGERS CONJOINED SPLIT",
    "HAND-CLAW FOUR FINGERS CONJOINED;HAND-FIST FOUR FINGERS CONJOINED BENT",
    "HAND-HINGE FOUR FINGERS CONJOINED;HAND-FLAT FIVE FINGERS SPREAD",
    "HAND-FLAT HEEL FIVE FINGERS SPREAD;HAND-FLAT FIVE FINGERS SPREAD FOUR BENT",
    "HAND-FLAT HEEL FIVE FINGERS SPREAD FOUR BENT;HAND-FLAT FIVE FINGERS SPREAD BENT",
    "HAND-FLAT HEEL FIVE FINGERS SPREAD BENT;HAND-FLAT FIVE FINGERS SPREAD THUMB FORWARD",
    "HAND-CUP FIVE FINGERS SPREAD;HAND-CUP FIVE FINGERS SPREAD OPEN",
    "HAND-HINGE FIVE FINGERS SPREAD OPEN;HAND-OVAL FIVE FINGERS SPREAD",
    "HAND-FLAT FIVE FINGERS SPREAD HINGED;HAND-FLAT FIVE FINGERS SPREAD HINGED THUMB SIDE",
    "HAND-FLAT FIVE FINGERS SPREAD HINGED NO THUMB;HAND-FLAT;HAND-FLAT BETWEEN PALM FACINGS",
    "HAND-FLAT HEEL;HAND-FLAT THUMB SIDE;HAND-FLAT HEEL THUMB SIDE;HAND-FLAT THUMB BENT",
    "HAND-FLAT THUMB FORWARD;HAND-FLAT SPLIT INDEX THUMB SIDE;HAND-FLAT SPLIT CENTRE",
    "HAND-FLAT SPLIT CENTRE THUMB SIDE;HAND-FLAT SPLIT CENTRE THUMB SIDE BENT",
    "HAND-FLAT SPLIT LITTLE;HAND-CLAW;HAND-CLAW THUMB SIDE;HAND-CLAW NO THUMB",
    "HAND-CLAW THUMB FORWARD;HAND-HOOK CURLICUE;HAND-HOOK;HAND-CUP OPEN;HAND-CUP",
    "HAND-CUP OPEN THUMB SIDE;HAND-CUP THUMB SIDE;HAND-CUP OPEN NO THUMB;HAND-CUP NO THUMB",
    "HAND-CUP OPEN THUMB FORWARD;HAND-CUP THUMB FORWARD;HAND-CURLICUE OPEN;HAND-CURLICUE",
    "HAND-CIRCLE;HAND-OVAL;HAND-OVAL THUMB SIDE;HAND-OVAL NO THUMB;HAND-OVAL THUMB FORWARD",
    "HAND-HINGE OPEN;HAND-HINGE OPEN THUMB FORWARD;HAND-HINGE;HAND-HINGE SMALL",
    "HAND-HINGE OPEN THUMB SIDE;HAND-HINGE THUMB SIDE;HAND-HINGE OPEN NO THUMB",
    "HAND-HINGE NO THUMB;HAND-HINGE THUMB SIDE TOUCHING INDEX",
    "HAND-HINGE THUMB BETWEEN MIDDLE RING;HAND-ANGLE;HAND-FIST INDEX MIDDLE RING",
    "HAND-CIRCLE INDEX MIDDLE RING;HAND-HINGE INDEX MIDDLE RING;HAND-ANGLE INDEX MIDDLE RING",
    "HAND-HINGE LITTLE;HAND-FIST INDEX MIDDLE RING BENT;HAND-FIST INDEX MIDDLE RING CONJOINED",
    "HAND-HINGE INDEX MIDDLE RING CONJOINED;HAND-FIST LITTLE DOWN",
    "HAND-FIST LITTLE DOWN RIPPLE STRAIGHT;HAND-FIST LITTLE DOWN RIPPLE CURVED",
    "HAND-FIST LITTLE DOWN OTHERS CIRCLED;HAND-FIST LITTLE UP;HAND-FIST THUMB UNDER LITTLE UP",
    "HAND-CIRCLE LITTLE UP;HAND-OVAL LITTLE UP;HAND-ANGLE LITTLE UP",
    "HAND-FIST LITTLE RAISED KNUCKLE;HAND-FIST LITTLE BENT;HAND-FIST LITTLE TOUCHES THUMB",
    "HAND-FIST LITTLE THUMB;HAND-HINGE LITTLE THUMB;HAND-FIST LITTLE INDEX THUMB",
    "HAND-HINGE LITTLE INDEX THUMB;HAND-ANGLE LITTLE INDEX THUMB INDEX THUMB OUT",
    "HAND-ANGLE LITTLE INDEX THUMB INDEX THUMB;HAND-FIST LITTLE INDEX",
    "HAND-CIRCLE LITTLE INDEX;HAND-HINGE LITTLE INDEX;HAND-ANGLE LITTLE INDEX",
    "HAND-FIST INDEX MIDDLE LITTLE;HAND-CIRCLE INDEX MIDDLE LITTLE",
    "HAND-HINGE INDEX MIDDLE LITTLE;HAND-HINGE RING;HAND-ANGLE INDEX MIDDLE LITTLE",
    "HAND-FIST INDEX MIDDLE CROSS LITTLE;HAND-CIRCLE INDEX MIDDLE CROSS LITTLE",
    "HAND-FIST RING DOWN;HAND-HINGE RING DOWN INDEX THUMB HOOK MIDDLE",
    "HAND-ANGLE RING DOWN MIDDLE THUMB INDEX CROSS;HAND-FIST RING UP",
    "HAND-FIST RING RAISED KNUCKLE;HAND-FIST RING LITTLE;HAND-CIRCLE RING LITTLE",
    "HAND-OVAL RING LITTLE;HAND-ANGLE RING LITTLE;HAND-FIST RING MIDDLE",
    "HAND-FIST RING MIDDLE CONJOINED;HAND-FIST RING MIDDLE RAISED KNUCKLES",
    "HAND-FIST RING INDEX;HAND-FIST RING THUMB;HAND-HOOK RING THUMB",
    "HAND-FIST INDEX RING LITTLE;HAND-CIRCLE INDEX RING LITTLE",
    "HAND-CURLICUE INDEX RING LITTLE ON;HAND-HOOK INDEX RING LITTLE OUT",
    "HAND-HOOK INDEX RING LITTLE IN;HAND-HOOK INDEX RING LITTLE UNDER",
    "HAND-CUP INDEX RING LITTLE;HAND-HINGE INDEX RING LITTLE;HAND-ANGLE INDEX RING LITTLE OUT",
    "HAND-ANGLE INDEX RING LITTLE;HAND-FIST MIDDLE DOWN;HAND-HINGE MIDDLE;HAND-FIST MIDDLE UP",
    "HAND-CIRCLE MIDDLE UP;HAND-FIST MIDDLE RAISED KNUCKLE;HAND-FIST MIDDLE UP THUMB SIDE",
    "HAND-HOOK MIDDLE THUMB;HAND-FIST MIDDLE THUMB LITTLE;HAND-FIST MIDDLE LITTLE",
    "HAND-FIST MIDDLE RING LITTLE;HAND-CIRCLE MIDDLE RING LITTLE",
    "HAND-CURLICUE MIDDLE RING LITTLE ON;HAND-CUP MIDDLE RING LITTLE",
    "HAND-HINGE MIDDLE RING LITTLE;HAND-ANGLE MIDDLE RING LITTLE OUT",
    "HAND-ANGLE MIDDLE RING LITTLE IN;HAND-ANGLE MIDDLE RING LITTLE",
    "HAND-CIRCLE MIDDLE RING LITTLE BENT;HAND-CLAW MIDDLE RING LITTLE CONJOINED",
    "HAND-CLAW MIDDLE RING LITTLE CONJOINED SIDE;HAND-HOOK MIDDLE RING LITTLE CONJOINED OUT",
    "HAND-HOOK MIDDLE RING LITTLE CONJOINED IN;HAND-HOOK MIDDLE RING LITTLE CONJOINED",
    "HAND-HINGE INDEX HINGED;HAND-FIST INDEX THUMB SIDE;HAND-HINGE INDEX THUMB SIDE",
    "HAND-FIST INDEX THUMB SIDE THUMB DIAGONAL;HAND-FIST INDEX THUMB SIDE THUMB CONJOINED",
    "HAND-FIST INDEX THUMB SIDE THUMB BENT;HAND-FIST INDEX THUMB SIDE INDEX BENT",
    "HAND-FIST INDEX THUMB SIDE BOTH BENT;HAND-FIST INDEX THUMB SIDE INDEX HINGE",
    "HAND-FIST INDEX THUMB FORWARD INDEX STRAIGHT;HAND-FIST INDEX THUMB FORWARD INDEX BENT",
    "HAND-FIST INDEX THUMB HOOK;HAND-FIST INDEX THUMB CURLICUE",
    "HAND-FIST INDEX THUMB CURVE THUMB INSIDE;HAND-CLAW INDEX THUMB CURVE THUMB INSIDE",
    "HAND-FIST INDEX THUMB CURVE THUMB UNDER;HAND-FIST INDEX THUMB CIRCLE",
    "HAND-CUP INDEX THUMB;HAND-CUP INDEX THUMB OPEN;HAND-HINGE INDEX THUMB OPEN",
    "HAND-HINGE INDEX THUMB LARGE;HAND-HINGE INDEX THUMB;HAND-HINGE INDEX THUMB SMALL",
    "HAND-ANGLE INDEX THUMB OUT;HAND-ANGLE INDEX THUMB IN;HAND-ANGLE INDEX THUMB",
    "HAND-FIST THUMB;HAND-FIST THUMB HEEL;HAND-FIST THUMB SIDE DIAGONAL",
    "HAND-FIST THUMB SIDE CONJOINED;HAND-FIST THUMB SIDE BENT;HAND-FIST THUMB FORWARD",
    "HAND-FIST THUMB BETWEEN INDEX MIDDLE;HAND-FIST THUMB BETWEEN MIDDLE RING",
    "HAND-FIST THUMB BETWEEN RING LITTLE;HAND-FIST THUMB UNDER TWO FINGERS",
    "HAND-FIST THUMB OVER TWO FINGERS;HAND-FIST THUMB UNDER THREE FINGERS",
    "HAND-FIST THUMB UNDER FOUR FINGERS;HAND-FIST THUMB OVER FOUR RAISED KNUCKLES;HAND-FIST",
    "HAND-FIST HEEL;TOUCH SINGLE;TOUCH MULTIPLE;TOUCH BETWEEN;GRASP SINGLE;GRASP MULTIPLE",
    "GRASP BETWEEN;STRIKE SINGLE;STRIKE MULTIPLE;STRIKE BETWEEN;BRUSH SINGLE;BRUSH MULTIPLE",
    "BRUSH BETWEEN;RUB SINGLE;RUB MULTIPLE;RUB BETWEEN;SURFACE SYMBOLS;SURFACE BETWEEN",
    "SQUEEZE LARGE SINGLE;SQUEEZE SMALL SINGLE;SQUEEZE LARGE MULTIPLE;SQUEEZE SMALL MULTIPLE",
    "SQUEEZE SEQUENTIAL;FLICK LARGE SINGLE;FLICK SMALL SINGLE;FLICK LARGE MULTIPLE",
    "FLICK SMALL MULTIPLE;FLICK SEQUENTIAL;SQUEEZE FLICK ALTERNATING",
    "MOVEMENT-HINGE UP DOWN LARGE;MOVEMENT-HINGE UP DOWN SMALL;MOVEMENT-HINGE UP SEQUENTIAL",
    "MOVEMENT-HINGE DOWN SEQUENTIAL;MOVEMENT-HINGE UP DOWN ALTERNATING LARGE",
    "MOVEMENT-HINGE UP DOWN ALTERNATING SMALL;MOVEMENT-HINGE SIDE TO SIDE SCISSORS",
    "MOVEMENT-WALLPLANE FINGER CONTACT;MOVEMENT-FLOORPLANE FINGER CONTACT",
    "MOVEMENT-WALLPLANE SINGLE STRAIGHT SMALL;MOVEMENT-WALLPLANE SINGLE STRAIGHT MEDIUM",
    "MOVEMENT-WALLPLANE SINGLE STRAIGHT LARGE;MOVEMENT-WALLPLANE SINGLE STRAIGHT LARGEST",
    "MOVEMENT-WALLPLANE SINGLE WRIST FLEX;MOVEMENT-WALLPLANE DOUBLE STRAIGHT",
    "MOVEMENT-WALLPLANE DOUBLE WRIST FLEX;MOVEMENT-WALLPLANE DOUBLE ALTERNATING",
    "MOVEMENT-WALLPLANE DOUBLE ALTERNATING WRIST FLEX;MOVEMENT-WALLPLANE CROSS",
    "MOVEMENT-WALLPLANE TRIPLE STRAIGHT MOVEMENT;MOVEMENT-WALLPLANE TRIPLE WRIST FLEX",
    "MOVEMENT-WALLPLANE TRIPLE ALTERNATING;MOVEMENT-WALLPLANE TRIPLE ALTERNATING WRIST FLEX",
    "MOVEMENT-WALLPLANE BEND SMALL;MOVEMENT-WALLPLANE BEND MEDIUM",
    "MOVEMENT-WALLPLANE BEND LARGE;MOVEMENT-WALLPLANE CORNER SMALL",
    "MOVEMENT-WALLPLANE CORNER MEDIUM;MOVEMENT-WALLPLANE CORNER LARGE",
    "MOVEMENT-WALLPLANE CORNER ROTATION;MOVEMENT-WALLPLANE CHECK SMALL",
    "MOVEMENT-WALLPLANE CHECK MEDIUM;MOVEMENT-WALLPLANE CHECK LARGE",
    "MOVEMENT-WALLPLANE BOX SMALL;MOVEMENT-WALLPLANE BOX MEDIUM;MOVEMENT-WALLPLANE BOX LARGE",
    "MOVEMENT-WALLPLANE ZIGZAG SMALL;MOVEMENT-WALLPLANE ZIGZAG MEDIUM",
    "MOVEMENT-WALLPLANE ZIGZAG LARGE;MOVEMENT-WALLPLANE PEAKS SMALL",
    "MOVEMENT-WALLPLANE PEAKS MEDIUM;MOVEMENT-WALLPLANE PEAKS LARGE",
    "TRAVEL-WALLPLANE ROTATION-WALLPLANE SINGLE;TRAVEL-WALLPLANE ROTATION-WALLPLANE DOUBLE",
    "TRAVEL-WALLPLANE ROTATION-WALLPLANE ALTERNATING",
    "TRAVEL-WALLPLANE ROTATION-FLOORPLANE SINGLE;TRAVEL-WALLPLANE ROTATION-FLOORPLANE DOUBLE",
    "TRAVEL-WALLPLANE ROTATION-FLOORPLANE ALTERNATING;TRAVEL-WALLPLANE SHAKING",
    "TRAVEL-WALLPLANE ARM SPIRAL SINGLE;TRAVEL-WALLPLANE ARM SPIRAL DOUBLE",
    "TRAVEL-WALLPLANE ARM SPIRAL TRIPLE;MOVEMENT-DIAGONAL AWAY SMALL",
    "MOVEMENT-DIAGONAL AWAY MEDIUM;MOVEMENT-DIAGONAL AWAY LARGE",
    "MOVEMENT-DIAGONAL AWAY LARGEST;MOVEMENT-DIAGONAL TOWARDS SMALL",
    "MOVEMENT-DIAGONAL TOWARDS MEDIUM;MOVEMENT-DIAGONAL TOWARDS LARGE",
    "MOVEMENT-DIAGONAL TOWARDS LARGEST;MOVEMENT-DIAGONAL BETWEEN AWAY SMALL",
    "MOVEMENT-DIAGONAL BETWEEN AWAY MEDIUM;MOVEMENT-DIAGONAL BETWEEN AWAY LARGE",
    "MOVEMENT-DIAGONAL BETWEEN AWAY LARGEST;MOVEMENT-DIAGONAL BETWEEN TOWARDS SMALL",
    "MOVEMENT-DIAGONAL BETWEEN TOWARDS MEDIUM;MOVEMENT-DIAGONAL BETWEEN TOWARDS LARGE",
    "MOVEMENT-DIAGONAL BETWEEN TOWARDS LARGEST;MOVEMENT-FLOORPLANE SINGLE STRAIGHT SMALL",
    "MOVEMENT-FLOORPLANE SINGLE STRAIGHT MEDIUM;MOVEMENT-FLOORPLANE SINGLE STRAIGHT LARGE",
    "MOVEMENT-FLOORPLANE SINGLE STRAIGHT LARGEST;MOVEMENT-FLOORPLANE SINGLE WRIST FLEX",
    "MOVEMENT-FLOORPLANE DOUBLE STRAIGHT;MOVEMENT-FLOORPLANE DOUBLE WRIST FLEX",
    "MOVEMENT-FLOORPLANE DOUBLE ALTERNATING;MOVEMENT-FLOORPLANE DOUBLE ALTERNATING WRIST FLEX",
    "MOVEMENT-FLOORPLANE CROSS;MOVEMENT-FLOORPLANE TRIPLE STRAIGHT MOVEMENT",
    "MOVEMENT-FLOORPLANE TRIPLE WRIST FLEX;MOVEMENT-FLOORPLANE TRIPLE ALTERNATING MOVEMENT",
    "MOVEMENT-FLOORPLANE TRIPLE ALTERNATING WRIST FLEX;MOVEMENT-FLOORPLANE BEND",
    "MOVEMENT-FLOORPLANE CORNER SMALL;MOVEMENT-FLOORPLANE CORNER MEDIUM",
    "MOVEMENT-FLOORPLANE CORNER LARGE;MOVEMENT-FLOORPLANE CHECK;MOVEMENT-FLOORPLANE BOX SMALL",
    "MOVEMENT-FLOORPLANE BOX MEDIUM;MOVEMENT-FLOORPLANE BOX LARGE",
    "MOVEMENT-FLOORPLANE ZIGZAG SMALL;MOVEMENT-FLOORPLANE ZIGZAG MEDIUM",
    "MOVEMENT-FLOORPLANE ZIGZAG LARGE;MOVEMENT-FLOORPLANE PEAKS SMALL",
    "MOVEMENT-FLOORPLANE PEAKS MEDIUM;MOVEMENT-FLOORPLANE PEAKS LARGE",
    "TRAVEL-FLOORPLANE ROTATION-FLOORPLANE SINGLE",
    "TRAVEL-FLOORPLANE ROTATION-FLOORPLANE DOUBLE",
    "TRAVEL-FLOORPLANE ROTATION-FLOORPLANE ALTERNATING",
    "TRAVEL-FLOORPLANE ROTATION-WALLPLANE SINGLE;TRAVEL-FLOORPLANE ROTATION-WALLPLANE DOUBLE",
    "TRAVEL-FLOORPLANE ROTATION-WALLPLANE ALTERNATING;TRAVEL-FLOORPLANE SHAKING",
    "MOVEMENT-WALLPLANE CURVE QUARTER SMALL;MOVEMENT-WALLPLANE CURVE QUARTER MEDIUM",
    "MOVEMENT-WALLPLANE CURVE QUARTER LARGE;MOVEMENT-WALLPLANE CURVE QUARTER LARGEST",
    "MOVEMENT-WALLPLANE CURVE HALF-CIRCLE SMALL;MOVEMENT-WALLPLANE CURVE HALF-CIRCLE MEDIUM",
    "MOVEMENT-WALLPLANE CURVE HALF-CIRCLE LARGE;MOVEMENT-WALLPLANE CURVE HALF-CIRCLE LARGEST",
    "MOVEMENT-WALLPLANE CURVE THREE-QUARTER CIRCLE SMALL",
    "MOVEMENT-WALLPLANE CURVE THREE-QUARTER CIRCLE MEDIUM;MOVEMENT-WALLPLANE HUMP SMALL",
    "MOVEMENT-WALLPLANE HUMP MEDIUM;MOVEMENT-WALLPLANE HUMP LARGE",
    "MOVEMENT-WALLPLANE LOOP SMALL;MOVEMENT-WALLPLANE LOOP MEDIUM",
    "MOVEMENT-WALLPLANE LOOP LARGE;MOVEMENT-WALLPLANE LOOP SMALL DOUBLE",
    "MOVEMENT-WALLPLANE WAVE CURVE DOUBLE SMALL;MOVEMENT-WALLPLANE WAVE CURVE DOUBLE MEDIUM",
    "MOVEMENT-WALLPLANE WAVE CURVE DOUBLE LARGE;MOVEMENT-WALLPLANE WAVE CURVE TRIPLE SMALL",
    "MOVEMENT-WALLPLANE WAVE CURVE TRIPLE MEDIUM;MOVEMENT-WALLPLANE WAVE CURVE TRIPLE LARGE",
    "MOVEMENT-WALLPLANE CURVE THEN STRAIGHT;MOVEMENT-WALLPLANE CURVED CROSS SMALL",
    "MOVEMENT-WALLPLANE CURVED CROSS MEDIUM;ROTATION-WALLPLANE SINGLE",
    "ROTATION-WALLPLANE DOUBLE;ROTATION-WALLPLANE ALTERNATE;MOVEMENT-WALLPLANE SHAKING",
    "MOVEMENT-WALLPLANE CURVE HITTING FRONT WALL;MOVEMENT-WALLPLANE HUMP HITTING FRONT WALL",
    "MOVEMENT-WALLPLANE LOOP HITTING FRONT WALL;MOVEMENT-WALLPLANE WAVE HITTING FRONT WALL",
    "ROTATION-WALLPLANE SINGLE HITTING FRONT WALL",
    "ROTATION-WALLPLANE DOUBLE HITTING FRONT WALL",
    "ROTATION-WALLPLANE ALTERNATING HITTING FRONT WALL;MOVEMENT-WALLPLANE CURVE HITTING CHEST",
    "MOVEMENT-WALLPLANE HUMP HITTING CHEST;MOVEMENT-WALLPLANE LOOP HITTING CHEST",
    "MOVEMENT-WALLPLANE WAVE HITTING CHEST;ROTATION-WALLPLANE SINGLE HITTING CHEST",
    "ROTATION-WALLPLANE DOUBLE HITTING CHEST;ROTATION-WALLPLANE ALTERNATING HITTING CHEST",
    "MOVEMENT-WALLPLANE WAVE DIAGONAL PATH SMALL;MOVEMENT-WALLPLANE WAVE DIAGONAL PATH MEDIUM",
    "MOVEMENT-WALLPLANE WAVE DIAGONAL PATH LARGE",
    "MOVEMENT-FLOORPLANE CURVE HITTING CEILING SMALL",
    "MOVEMENT-FLOORPLANE CURVE HITTING CEILING LARGE",
    "MOVEMENT-FLOORPLANE HUMP HITTING CEILING SMALL DOUBLE",
    "MOVEMENT-FLOORPLANE HUMP HITTING CEILING LARGE DOUBLE",
    "MOVEMENT-FLOORPLANE HUMP HITTING CEILING SMALL TRIPLE",
    "MOVEMENT-FLOORPLANE HUMP HITTING CEILING LARGE TRIPLE",
    "MOVEMENT-FLOORPLANE LOOP HITTING CEILING SMALL SINGLE",
    "MOVEMENT-FLOORPLANE LOOP HITTING CEILING LARGE SINGLE",
    "MOVEMENT-FLOORPLANE LOOP HITTING CEILING SMALL DOUBLE",
    "MOVEMENT-FLOORPLANE LOOP HITTING CEILING LARGE DOUBLE",
    "MOVEMENT-FLOORPLANE WAVE HITTING CEILING SMALL",
    "MOVEMENT-FLOORPLANE WAVE HITTING CEILING LARGE",
    "ROTATION-FLOORPLANE SINGLE HITTING CEILING;ROTATION-FLOORPLANE DOUBLE HITTING CEILING",
    "ROTATION-FLOORPLANE ALTERNATING HITTING CEILING",
    "MOVEMENT-FLOORPLANE CURVE HITTING FLOOR SMALL",
    "MOVEMENT-FLOORPLANE CURVE HITTING FLOOR LARGE",
    "MOVEMENT-FLOORPLANE HUMP HITTING FLOOR SMALL DOUBLE",
    "MOVEMENT-FLOORPLANE HUMP HITTING FLOOR LARGE DOUBLE",
    "MOVEMENT-FLOORPLANE HUMP HITTING FLOOR TRIPLE SMALL TRIPLE",
    "MOVEMENT-FLOORPLANE HUMP HITTING FLOOR TRIPLE LARGE TRIPLE",
    "MOVEMENT-FLOORPLANE LOOP HITTING FLOOR SMALL SINGLE",
    "MOVEMENT-FLOORPLANE LOOP HITTING FLOOR LARGE SINGLE",
    "MOVEMENT-FLOORPLANE LOOP HITTING FLOOR SMALL DOUBLE",
    "MOVEMENT-FLOORPLANE LOOP HITTING FLOOR LARGE DOUBLE",
    "MOVEMENT-FLOORPLANE WAVE HITTING FLOOR SMALL",
    "MOVEMENT-FLOORPLANE WAVE HITTING FLOOR LARGE;ROTATION-FLOORPLANE SINGLE HITTING FLOOR",
    "ROTATION-FLOORPLANE DOUBLE HITTING FLOOR;ROTATION-FLOORPLANE ALTERNATING HITTING FLOOR",
    "MOVEMENT-FLOORPLANE CURVE SMALL;MOVEMENT-FLOORPLANE CURVE MEDIUM",
    "MOVEMENT-FLOORPLANE CURVE LARGE;MOVEMENT-FLOORPLANE CURVE LARGEST",
    "MOVEMENT-FLOORPLANE CURVE COMBINED;MOVEMENT-FLOORPLANE HUMP SMALL",
    "MOVEMENT-FLOORPLANE LOOP SMALL;MOVEMENT-FLOORPLANE WAVE SNAKE",
    "MOVEMENT-FLOORPLANE WAVE SMALL;MOVEMENT-FLOORPLANE WAVE LARGE;ROTATION-FLOORPLANE SINGLE",
    "ROTATION-FLOORPLANE DOUBLE;ROTATION-FLOORPLANE ALTERNATING",
    "MOVEMENT-FLOORPLANE SHAKING PARALLEL;MOVEMENT-WALLPLANE ARM CIRCLE SMALL SINGLE",
    "MOVEMENT-WALLPLANE ARM CIRCLE MEDIUM SINGLE;MOVEMENT-WALLPLANE ARM CIRCLE SMALL DOUBLE",
    "MOVEMENT-WALLPLANE ARM CIRCLE MEDIUM DOUBLE",
    "MOVEMENT-FLOORPLANE ARM CIRCLE HITTING WALL SMALL SINGLE",
    "MOVEMENT-FLOORPLANE ARM CIRCLE HITTING WALL MEDIUM SINGLE",
    "MOVEMENT-FLOORPLANE ARM CIRCLE HITTING WALL LARGE SINGLE",
    "MOVEMENT-FLOORPLANE ARM CIRCLE HITTING WALL SMALL DOUBLE",
    "MOVEMENT-FLOORPLANE ARM CIRCLE HITTING WALL MEDIUM DOUBLE",
    "MOVEMENT-FLOORPLANE ARM CIRCLE HITTING WALL LARGE DOUBLE",
    "MOVEMENT-WALLPLANE WRIST CIRCLE FRONT SINGLE",
    "MOVEMENT-WALLPLANE WRIST CIRCLE FRONT DOUBLE",
    "MOVEMENT-FLOORPLANE WRIST CIRCLE HITTING WALL SINGLE",
    "MOVEMENT-FLOORPLANE WRIST CIRCLE HITTING WALL DOUBLE",
    "MOVEMENT-WALLPLANE FINGER CIRCLES SINGLE;MOVEMENT-WALLPLANE FINGER CIRCLES DOUBLE",
    "MOVEMENT-FLOORPLANE FINGER CIRCLES HITTING WALL SINGLE",
    "MOVEMENT-FLOORPLANE FINGER CIRCLES HITTING WALL DOUBLE;DYNAMIC ARROWHEAD SMALL",
    "DYNAMIC ARROWHEAD LARGE;DYNAMIC FAST;DYNAMIC SLOW;DYNAMIC TENSE;DYNAMIC RELAXED",
    "DYNAMIC SIMULTANEOUS;DYNAMIC SIMULTANEOUS ALTERNATING;DYNAMIC EVERY OTHER TIME",
    "DYNAMIC GRADUAL;HEAD;HEAD RIM;HEAD MOVEMENT-WALLPLANE STRAIGHT",
    "HEAD MOVEMENT-WALLPLANE TILT;HEAD MOVEMENT-FLOORPLANE STRAIGHT",
    "HEAD MOVEMENT-WALLPLANE CURVE;HEAD MOVEMENT-FLOORPLANE CURVE;HEAD MOVEMENT CIRCLE",
    "FACE DIRECTION POSITION NOSE FORWARD TILTING;FACE DIRECTION POSITION NOSE UP OR DOWN",
    "FACE DIRECTION POSITION NOSE UP OR DOWN TILTING;EYEBROWS STRAIGHT UP",
    "EYEBROWS STRAIGHT NEUTRAL;EYEBROWS STRAIGHT DOWN;DREAMY EYEBROWS NEUTRAL DOWN",
    "DREAMY EYEBROWS DOWN NEUTRAL;DREAMY EYEBROWS UP NEUTRAL;DREAMY EYEBROWS NEUTRAL UP",
    "FOREHEAD NEUTRAL;FOREHEAD CONTACT;FOREHEAD WRINKLED;EYES OPEN;EYES SQUEEZED;EYES CLOSED",
    "EYE BLINK SINGLE;EYE BLINK MULTIPLE;EYES HALF OPEN;EYES WIDE OPEN;EYES HALF CLOSED",
    "EYES WIDENING MOVEMENT;EYE WINK;EYELASHES UP;EYELASHES DOWN;EYELASHES FLUTTERING",
    "EYEGAZE-WALLPLANE STRAIGHT;EYEGAZE-WALLPLANE STRAIGHT DOUBLE",
    "EYEGAZE-WALLPLANE STRAIGHT ALTERNATING;EYEGAZE-FLOORPLANE STRAIGHT",
    "EYEGAZE-FLOORPLANE STRAIGHT DOUBLE;EYEGAZE-FLOORPLANE STRAIGHT ALTERNATING",
    "EYEGAZE-WALLPLANE CURVED;EYEGAZE-FLOORPLANE CURVED;EYEGAZE-WALLPLANE CIRCLING",
    "CHEEKS PUFFED;CHEEKS NEUTRAL;CHEEKS SUCKED;TENSE CHEEKS HIGH;TENSE CHEEKS MIDDLE",
    "TENSE CHEEKS LOW;EARS;NOSE NEUTRAL;NOSE CONTACT;NOSE WRINKLES;NOSE WIGGLES",
    "AIR BLOWING OUT;AIR SUCKING IN;AIR BLOW SMALL ROTATIONS;AIR SUCK SMALL ROTATIONS",
    "BREATH INHALE;BREATH EXHALE;MOUTH CLOSED NEUTRAL;MOUTH CLOSED FORWARD",
    "MOUTH CLOSED CONTACT;MOUTH SMILE;MOUTH SMILE WRINKLED;MOUTH SMILE OPEN;MOUTH FROWN",
    "MOUTH FROWN WRINKLED;MOUTH FROWN OPEN;MOUTH OPEN CIRCLE;MOUTH OPEN FORWARD",
    "MOUTH OPEN WRINKLED;MOUTH OPEN OVAL;MOUTH OPEN OVAL WRINKLED;MOUTH OPEN OVAL YAWN",
    "MOUTH OPEN RECTANGLE;MOUTH OPEN RECTANGLE WRINKLED;MOUTH OPEN RECTANGLE YAWN;MOUTH KISS",
    "MOUTH KISS FORWARD;MOUTH KISS WRINKLED;MOUTH TENSE;MOUTH TENSE FORWARD",
    "MOUTH TENSE SUCKED;LIPS PRESSED TOGETHER;LIP LOWER OVER UPPER;LIP UPPER OVER LOWER",
    "MOUTH CORNERS;MOUTH WRINKLES SINGLE;MOUTH WRINKLES DOUBLE;TONGUE STICKING OUT FAR",
    "TONGUE LICKING LIPS;TONGUE TIP BETWEEN LIPS;TONGUE TIP TOUCHING INSIDE MOUTH",
    "TONGUE INSIDE MOUTH RELAXED;TONGUE MOVES AGAINST CHEEK;TONGUE CENTRE STICKING OUT",
    "TONGUE CENTRE INSIDE MOUTH;TEETH;TEETH MOVEMENT;TEETH ON TONGUE;TEETH ON TONGUE MOVEMENT",
    "TEETH ON LIPS;TEETH ON LIPS MOVEMENT;TEETH BITE LIPS;MOVEMENT-WALLPLANE JAW",
    "MOVEMENT-FLOORPLANE JAW;NECK;HAIR;EXCITEMENT;SHOULDER HIP SPINE;SHOULDER HIP POSITIONS",
    "WALLPLANE SHOULDER HIP MOVE;FLOORPLANE SHOULDER HIP MOVE;SHOULDER TILTING FROM WAIST",
    "TORSO-WALLPLANE STRAIGHT STRETCH;TORSO-WALLPLANE CURVED BEND;TORSO-FLOORPLANE TWISTING",
    "UPPER BODY TILTING FROM HIP JOINTS;LIMB COMBINATION;LIMB LENGTH-1;LIMB LENGTH-2",
    "LIMB LENGTH-3;LIMB LENGTH-4;LIMB LENGTH-5;LIMB LENGTH-6;LIMB LENGTH-7;FINGER",
    "LOCATION-WALLPLANE SPACE;LOCATION-FLOORPLANE SPACE;LOCATION HEIGHT;LOCATION WIDTH",
    "LOCATION DEPTH;LOCATION HEAD NECK;LOCATION TORSO;LOCATION LIMBS DIGITS;COMMA;FULL STOP",
    "SEMICOLON;COLON;PARENTHESIS"]),
  (0x1da9b, "SIGNWRITING FILL ", ["MODIFIER-2;MODIFIER-3;MODIFIER-4;MODIFIER-5;MODIFIER-6"]),
  (0x1daa1, "SIGNWRITING ROTATION ", [
    "MODIFIER-2;MODIFIER-3;MODIFIER-4;MODIFIER-5;MODIFIER-6;MODIFIER-7;MODIFIER-8;MODIFIER-9",
    "MODIFIER-10;MODIFIER-11;MODIFIER-12;MODIFIER-13;MODIFIER-14;MODIFIER-15;MODIFIER-16"]),
  (0x1df00, "LATIN ", [
    "SMALL LETTER FENG DIGRAPH WITH TRILL;SMALL LETTER REVERSED SCRIPT G",
    "LETTER SMALL CAPITAL TURNED G;SMALL LETTER REVERSED K;LETTER SMALL CAPITAL L WITH BELT",
    "SMALL LETTER LEZH WITH RETROFLEX HOOK;SMALL LETTER TURNED Y WITH BELT",
    "SMALL LETTER REVERSED ENG;SMALL LETTER TURNED R WITH LONG LEG AND RETROFLEX HOOK",
    "SMALL LETTER T WITH HOOK AND RETROFLEX HOOK;LETTER RETROFLEX CLICK WITH RETROFLEX HOOK",
    "SMALL LETTER ESH WITH DOUBLE BAR;SMALL LETTER ESH WITH DOUBLE BAR AND CURL",
    "SMALL LETTER TURNED T WITH CURL;LETTER INVERTED GLOTTAL STOP WITH CURL",
    "LETTER STRETCHED C WITH CURL;LETTER SMALL CAPITAL TURNED K;SMALL LETTER L WITH FISHHOOK",
    "SMALL LETTER DEZH DIGRAPH WITH PALATAL HOOK;SMALL LETTER L WITH BELT AND PALATAL HOOK",
    "SMALL LETTER ENG WITH PALATAL HOOK;SMALL LETTER TURNED R WITH PALATAL HOOK",
    "SMALL LETTER R WITH FISHHOOK AND PALATAL HOOK",
    "SMALL LETTER TESH DIGRAPH WITH PALATAL HOOK;SMALL LETTER EZH WITH PALATAL HOOK",
    "SMALL LETTER DEZH DIGRAPH WITH RETROFLEX HOOK",
    "SMALL LETTER I WITH STROKE AND RETROFLEX HOOK;SMALL LETTER O WITH RETROFLEX HOOK",
    "SMALL LETTER TESH DIGRAPH WITH RETROFLEX HOOK;SMALL LETTER C WITH RETROFLEX HOOK",
    "SMALL LETTER S WITH CURL"]),
  (0x1e000, "COMBINING GLAGOLITIC LETTER ", ["AZU;BUKY;VEDE;GLAGOLI;DOBRO;YESTU;ZHIVETE"]),
  (0x1e008, "COMBINING GLAGOLITIC LETTER ", [
    "ZEMLJA;IZHE;INITIAL IZHE;I;DJERVI;KAKO;LJUDIJE;MYSLITE;NASHI;ONU;POKOJI;RITSI;SLOVO",
    "TVRIDO;UKU;FRITU;HERU"]),
  (0x1e01b, "COMBINING GLAGOLITIC LETTER ", ["SHTA;TSI;CHRIVI;SHA;YERU;YERI;YATI"]),
  (0x1e023, "COMBINING GLAGOLITIC LETTER ", ["YU;SMALL YUS"]),
  (0x1e026, "COMBINING GLAGOLITIC LETTER ", ["YO;IOTATED SMALL YUS;BIG YUS;IOTATED BIG YUS;FITA"]),
  (0x1e100, "NYIAKENG PUACHUE HMONG LETTER ", [
    "MA;TSA;NTA;TA;HA;NA;XA;NKA;CA;LA;SA;ZA;NCA;NTSA;KA;DA;NYA;NRA;VA;NTXA;TXA;FA;RA;QA;YA",
    "NQA;PA;XYA;NPA;DLA;NPLA;HAH;MLA;PLA;GA;RRA;A;AA;I;U;O;OO;E;EE;W"]),
  (0x1e130, "NYIAKENG PUACHUE HMONG ", [
    "TONE-B;TONE-M;TONE-J;TONE-V;TONE-S;TONE-G;TONE-D;SIGN FOR PERSON;SIGN FOR THING",
    "SIGN FOR LOCATION;SIGN FOR ANIMAL;SIGN FOR INVERTEBRATE;SIGN XW XW;SYLLABLE LENGTHENER"]),
  (0x1e140, "NYIAKENG PUACHUE HMONG DIGIT ", ["ZERO;ONE;TWO;THREE;FOUR;FIVE;SIX;SEVEN;EIGHT;NINE"]),
  (0x1e14e, "NYIAKENG PUACHUE HMONG ", ["LOGOGRAM NYAJ;CIRCLED CA"]),
  (0x1e290, "TOTO LETTER ", [
    "PA;BA;TA;DA;KA;GA;MA;NA;NGA;SA;CHA;YA;WA;JA;HA;RA;LA;I;BREATHY I;IU;BREATHY IU;U;E",
    "BREATHY E;EO;BREATHY EO;O;AE;BREATHY AE;A"]),
  (0x1e2ae, "", ["TOTO SIGN RISING TONE"]),
  (0x1e2c0, "WANCHO LETTER ", [
    "AA;A;BA;CA;DA;GA;YA;PHA;LA;NA;PA;TA;THA;FA;SA;SHA;JA;ZA;WA;VA;KA;O;AU;RA;MA;KHA;HA;E;I",
    "NGA;U;LLHA;TSA;TRA;ONG;AANG;ANG;ING;ON;EN;AAN;NYA;UEN;YIH"]),
  (0x1e2ec, "WANCHO ", [
    "TONE TUP;TONE TUPNI;TONE KOI;TONE KOINI;DIGIT ZERO;DIGIT ONE;DIGIT TWO;DIGIT THREE",
    "DIGIT FOUR;DIGIT FIVE;DIGIT SIX;DIGIT SEVEN;DIGIT EIGHT;DIGIT NINE"]),
  (0x1e2ff, "", ["WANCHO NGUN SIGN"]),
  (0x1e7e0, "ETHIOPIC SYLLABLE ", ["HHYA;HHYU;HHYI;HHYAA;HHYEE;HHYE;HHYO"]),
  (0x1e7e8, "ETHIOPIC SYLLABLE ", ["GURAGE HHWA;HHWI;HHWEE;HHWE"]),
  (0x1e7ed, "ETHIOPIC SYLLABLE GURAGE ", ["MWI;MWEE"]),
  (0x1e7f0, "ETHIOPIC SYLLABLE GURAGE ", [
    "QWI;QWEE;QWE;BWI;BWEE;KWI;KWEE;KWE;GWI;GWEE;GWE;FWI;FWEE;PWI;PWEE"]),
  (0x1e800, "MENDE KIKAKUI SYLLABLE ", [
    "M001 KI;M002 KA;M003 KU;M065 KEE;M095 KE;M076 KOO;M048 KO;M179 KUA;M004 WI;M005 WA",
    "M006 WU;M126 WEE;M118 WE;M114 WOO;M045 WO;M194 WUI;M143 WEI;M061 WVI;M049 WVA;M139 WVE",
    "M007 MIN;M008 MAN;M009 MUN;M059 MEN;M094 MON;M154 MUAN;M189 MUEN;M010 BI;M011 BA;M012 BU",
    "M150 BEE;M097 BE;M103 BOO;M138 BO;M013 I;M014 A;M015 U;M163 EE;M100 E;M165 OO;M147 O",
    "M137 EI;M131 IN;M135 IN;M195 AN;M178 EN;M019 SI;M020 SA;M021 SU;M162 SEE;M116 SE",
    "M136 SOO;M079 SO;M196 SIA;M025 LI;M026 LA;M027 LU;M084 LEE;M073 LE;M054 LOO;M153 LO",
    "M110 LONG LE;M016 DI;M017 DA;M018 DU;M089 DEE;M180 DOO;M181 DO;M022 TI;M023 TA;M024 TU",
    "M091 TEE;M055 TE;M104 TOO;M069 TO;M028 JI;M029 JA;M030 JU;M157 JEE;M113 JE;M160 JOO",
    "M063 JO;M175 LONG JO;M031 YI;M032 YA;M033 YU;M109 YEE;M080 YE;M141 YOO;M121 YO;M034 FI",
    "M035 FA;M036 FU;M078 FEE;M075 FE;M133 FOO;M088 FO;M197 FUA;M101 FAN;M037 NIN;M038 NAN",
    "M039 NUN;M117 NEN;M169 NON;M176 HI;M041 HA;M186 HU;M040 HEE;M096 HE;M042 HOO;M140 HO",
    "M083 HEEI;M128 HOOU;M053 HIN;M130 HAN;M087 HUN;M052 HEN;M193 HON;M046 HUAN;M090 NGGI",
    "M043 NGGA;M082 NGGU;M115 NGGEE;M146 NGGE;M156 NGGOO;M120 NGGO;M159 NGGAA;M127 NGGUA",
    "M086 LONG NGGE;M106 LONG NGGOO;M183 LONG NGGO;M155 GI;M111 GA;M168 GU;M190 GEE;M166 GUEI",
    "M167 GUAN;M184 NGEN;M057 NGON;M177 NGUAN;M068 PI;M099 PA;M050 PU;M081 PEE;M051 PE",
    "M102 POO;M066 PO;M145 MBI;M062 MBA;M122 MBU;M047 MBEE;M188 MBEE;M072 MBE;M172 MBOO",
    "M174 MBO;M187 MBUU;M161 LONG MBE;M105 LONG MBOO;M142 LONG MBO;M132 KPI;M092 KPA;M074 KPU",
    "M044 KPEE;M108 KPE;M112 KPOO;M158 KPO;M124 GBI;M056 GBA;M148 GBU;M093 GBEE;M107 GBE",
    "M071 GBOO;M070 GBO;M171 RA;M123 NDI;M129 NDA;M125 NDU;M191 NDEE;M119 NDE;M067 NDOO",
    "M064 NDO;M152 NJA;M192 NJU;M149 NJEE;M134 NJOO;M182 VI;M185 VA;M151 VU;M173 VEE;M085 VE",
    "M144 VOO;M077 VO;M164 NYIN;M058 NYAN;M170 NYUN;M098 NYEN;M060 NYON"]),
  (0x1e8c7, "MENDE KIKAKUI ", [
    "DIGIT ONE;DIGIT TWO;DIGIT THREE;DIGIT FOUR;DIGIT FIVE;DIGIT SIX;DIGIT SEVEN;DIGIT EIGHT",
    "DIGIT NINE;COMBINING NUMBER TEENS;COMBINING NUMBER TENS;COMBINING NUMBER HUNDREDS",
    "COMBINING NUMBER THOUSANDS;COMBINING NUMBER TEN THOUSANDS",
    "COMBINING NUMBER HUNDRED THOUSANDS;COMBINING NUMBER MILLIONS"]),
  (0x1e900, "ADLAM CAPITAL LETTER ", [
    "ALIF;DAALI;LAAM;MIIM;BA;SINNYIIYHE;PE;BHE;RA;E;FA;I;O;DHA;YHE;WAW;NUN;KAF;YA;U;JIIM;CHI",
    "HA;QAAF;GA;NYA;TU;NHA;VA;KHA;GBE;ZAL;KPO;SHA"]),
  (0x1e922, "ADLAM SMALL LETTER ", [
    "ALIF;DAALI;LAAM;MIIM;BA;SINNYIIYHE;PE;BHE;RA;E;FA;I;O;DHA;YHE;WAW;NUN;KAF;YA;U;JIIM;CHI",
    "HA;QAAF;GA;NYA;TU;NHA;VA;KHA;GBE;ZAL;KPO;SHA"]),
  (0x1e944, "ADLAM ", [
    "ALIF LENGTHENER;VOWEL LENGTHENER;GEMINATION MARK;HAMZA;CONSONANT MODIFIER",
    "GEMINATE CONSONANT MODIFIER;NUKTA;NASALIZATION MARK"]),
  (0x1e950, "ADLAM DIGIT ", ["ZERO;ONE;TWO;THREE;FOUR;FIVE;SIX;SEVEN;EIGHT;NINE"]),
  (0x1e95e, "ADLAM INITIAL ", ["EXCLAMATION MARK;QUESTION MARK"]),
  (0x1ec71, "INDIC SIYAQ NUMBER ", [
    "ONE;TWO;THREE;FOUR;FIVE;SIX;SEVEN;EIGHT;NINE;TEN;TWENTY;THIRTY;FORTY;FIFTY;SIXTY;SEVENTY",
    "EIGHTY;NINETY;ONE HUNDRED;TWO HUNDRED;THREE HUNDRED;FOUR HUNDRED;FIVE HUNDRED",
    "SIX HUNDRED;SEVEN HUNDRED;EIGHT HUNDRED;NINE HUNDRED;ONE THOUSAND;TWO THOUSAND",
    "THREE THOUSAND;FOUR THOUSAND;FIVE THOUSAND;SIX THOUSAND;SEVEN THOUSAND;EIGHT THOUSAND",
    "NINE THOUSAND;TEN THOUSAND;TWENTY THOUSAND;THIRTY THOUSAND;FORTY THOUSAND;FIFTY THOUSAND",
    "SIXTY THOUSAND;SEVENTY THOUSAND;EIGHTY THOUSAND;NINETY THOUSAND;LAKH;LAKHAN"]),
  (0x1eca0, "INDIC SIYAQ ", [
    "LAKH MARK;NUMBER KAROR;NUMBER KARORAN;NUMBER PREFIXED ONE;NUMBER PREFIXED TWO",
    "NUMBER PREFIXED THREE;NUMBER PREFIXED FOUR;NUMBER PREFIXED FIVE;NUMBER PREFIXED SIX",
    "NUMBER PREFIXED SEVEN;NUMBER PREFIXED EIGHT;NUMBER PREFIXED NINE;PLACEHOLDER",
    "FRACTION ONE QUARTER;FRACTION ONE HALF;FRACTION THREE QUARTERS;RUPEE MARK",
    "NUMBER ALTERNATE ONE;NUMBER ALTERNATE TWO;NUMBER ALTERNATE TEN THOUSAND",
    "ALTERNATE LAKH MARK"]),
  (0x1ed01, "OTTOMAN SIYAQ NUMBER ", [
    "ONE;TWO;THREE;FOUR;FIVE;SIX;SEVEN;EIGHT;NINE;TEN;TWENTY;THIRTY;FORTY;FIFTY;SIXTY;SEVENTY",
    "EIGHTY;NINETY;ONE HUNDRED;TWO HUNDRED;THREE HUNDRED;FOUR HUNDRED;FIVE HUNDRED",
    "SIX HUNDRED;SEVEN HUNDRED;EIGHT HUNDRED;NINE HUNDRED;ONE THOUSAND;TWO THOUSAND",
    "THREE THOUSAND;FOUR THOUSAND;FIVE THOUSAND;SIX THOUSAND;SEVEN THOUSAND;EIGHT THOUSAND",
    "NINE THOUSAND;TEN THOUSAND;TWENTY THOUSAND;THIRTY THOUSAND;FORTY THOUSAND;FIFTY THOUSAND",
    "SIXTY THOUSAND;SEVENTY THOUSAND;EIGHTY THOUSAND;NINETY THOUSAND"]),
  (0x1ed2e, "OTTOMAN SIYAQ ", [
    "MARRATAN;ALTERNATE NUMBER TWO;ALTERNATE NUMBER THREE;ALTERNATE NUMBER FOUR",
    "ALTERNATE NUMBER FIVE;ALTERNATE NUMBER SIX;ALTERNATE NUMBER SEVEN;ALTERNATE NUMBER EIGHT",
    "ALTERNATE NUMBER NINE;ALTERNATE NUMBER TEN;ALTERNATE NUMBER FOUR HUNDRED",
    "ALTERNATE NUMBER SIX HUNDRED;ALTERNATE NUMBER TWO THOUSAND;ALTERNATE NUMBER TEN THOUSAND",
    "FRACTION ONE HALF;FRACTION ONE SIXTH"]),
  (0x1ee00, "ARABIC MATHEMATICAL ", ["ALEF;BEH;JEEM;DAL"]),
  (0x1ee05, "ARABIC MATHEMATICAL ", [
    "WAW;ZAIN;HAH;TAH;YEH;KAF;LAM;MEEM;NOON;SEEN;AIN;FEH;SAD;QAF;REH;SHEEN;TEH;THEH;KHAH;THAL",
    "DAD;ZAH;GHAIN;DOTLESS BEH;DOTLESS NOON;DOTLESS FEH;DOTLESS QAF"]),
  (0x1ee21, "ARABIC MATHEMATICAL INITIAL ", ["BEH;JEEM"]),
  (0x1ee24, "", ["ARABIC MATHEMATICAL INITIAL HEH"]),
  (0x1ee27, "", ["ARABIC MATHEMATICAL INITIAL HAH"]),
  (0x1ee29, "ARABIC MATHEMATICAL INITIAL ", ["YEH;KAF;LAM;MEEM;NOON;SEEN;AIN;FEH;SAD;QAF"]),
  (0x1ee34, "ARABIC MATHEMATICAL INITIAL ", ["SHEEN;TEH;THEH;KHAH"]),
  (0x1ee39, "", ["ARABIC MATHEMATICAL INITIAL DAD"]),
  (0x1ee3b, "", ["ARABIC MATHEMATICAL INITIAL GHAIN"]),
  (0x1ee42, "", ["ARABIC MATHEMATICAL TAILED JEEM"]),
  (0x1ee47, "", ["ARABIC MATHEMATICAL TAILED HAH"]),
  (0x1ee49, "", ["ARABIC MATHEMATICAL TAILED YEH"]),
  (0x1ee4b, "", ["ARABIC MATHEMATICAL TAILED LAM"]),
  (0x1ee4d, "ARABIC MATHEMATICAL TAILED ", ["NOON;SEEN;AIN"]),
  (0x1ee51, "ARABIC MATHEMATICAL TAILED ", ["SAD;QAF"]),
  (0x1ee54, "", ["ARABIC MATHEMATICAL TAILED SHEEN"]),
  (0x1ee57, "", ["ARABIC MATHEMATICAL TAILED KHAH"]),
  (0x1ee59, "", ["ARABIC MATHEMATICAL TAILED DAD"]),
  (0x1ee5b, "", ["ARABIC MATHEMATICAL TAILED GHAIN"]),
  (0x1ee5d, "", ["ARABIC MATHEMATICAL TAILED DOTLESS NOON"]),
  (0x1ee5f, "", ["ARABIC MATHEMATICAL TAILED DOTLESS QAF"]),
  (0x1ee61, "ARABIC MATHEMATICAL STRETCHED ", ["BEH;JEEM"]),
  (0x1ee64, "", ["ARABIC MATHEMATICAL STRETCHED HEH"]),
  (0x1ee67, "ARABIC MATHEMATICAL STRETCHED ", ["HAH;TAH;YEH;KAF"]),
  (0x1ee6c, "ARABIC MATHEMATICAL STRETCHED ", ["MEEM;NOON;SEEN;AIN;FEH;SAD;QAF"]),
  (0x1ee74, "ARABIC MATHEMATICAL STRETCHED ", ["SHEEN;TEH;THEH;KHAH"]),
  (0x1ee79, "ARABIC MATHEMATICAL STRETCHED ", ["DAD;ZAH;GHAIN;DOTLESS BEH"]),
  (0x1ee7e, "", ["ARABIC MATHEMATICAL STRETCHED DOTLESS FEH"]),
  (0x1ee80, "ARABIC MATHEMATICAL LOOPED ", ["ALEF;BEH;JEEM;DAL;HEH;WAW;ZAIN;HAH;TAH;YEH"]),
  (0x1ee8b, "ARABIC MATHEMATICAL LOOPED ", [
    "LAM;MEEM;NOON;SEEN;AIN;FEH;SAD;QAF;REH;SHEEN;TEH;THEH;KHAH;THAL;DAD;ZAH;GHAIN"]),
  (0x1eea1, "ARABIC MATHEMATICAL DOUBLE-STRUCK ", ["BEH;JEEM;DAL"]),
  (0x1eea5, "ARABIC MATHEMATICAL DOUBLE-STRUCK ", ["WAW;ZAIN;HAH;TAH;YEH"]),
  (0x1eeab, "ARABIC MATHEMATICAL DOUBLE-STRUCK ", [
    "LAM;MEEM;NOON;SEEN;AIN;FEH;SAD;QAF;REH;SHEEN;TEH;THEH;KHAH;THAL;DAD;ZAH;GHAIN"]),
  (0x1eef0, "ARABIC MATHEMATICAL OPERATOR ", ["MEEM WITH HAH WITH TATWEEL;HAH WITH DAL"])]

end HttpContract.Text.Names
