/-!
Names of characters from U+0000 to U+1FFF: the alphabets of modern languages.
-/
namespace HttpContract.Text.Names

def scripts : List (Nat × String × List String) := [
  (0x20, "", [
    "SPACE;EXCLAMATION MARK;QUOTATION MARK;NUMBER SIGN;DOLLAR SIGN;PERCENT SIGN;AMPERSAND",
    "APOSTROPHE;LEFT PARENTHESIS;RIGHT PARENTHESIS;ASTERISK;PLUS SIGN;COMMA;HYPHEN-MINUS",
    "FULL STOP;SOLIDUS"]),
  (0x30, "DIGIT ", ["ZERO;ONE;TWO;THREE;FOUR;FIVE;SIX;SEVEN;EIGHT;NINE"]),
  (0x3a, "", [
    "COLON;SEMICOLON;LESS-THAN SIGN;EQUALS SIGN;GREATER-THAN SIGN;QUESTION MARK;COMMERCIAL AT"]),
  (0x41, "LATIN CAPITAL LETTER ", ["A;B;C;D;E;F;G;H;I;J;K;L;M;N;O;P;Q;R;S;T;U;V;W;X;Y;Z"]),
  (0x5b, "", [
    "LEFT SQUARE BRACKET;REVERSE SOLIDUS;RIGHT SQUARE BRACKET;CIRCUMFLEX ACCENT;LOW LINE",
    "GRAVE ACCENT"]),
  (0x61, "LATIN SMALL LETTER ", ["A;B;C;D;E;F;G;H;I;J;K;L;M;N;O;P;Q;R;S;T;U;V;W;X;Y;Z"]),
  (0x7b, "", ["LEFT CURLY BRACKET;VERTICAL LINE;RIGHT CURLY BRACKET;TILDE"]),
  (0xa0, "", [
    "NO-BREAK SPACE;INVERTED EXCLAMATION MARK;CENT SIGN;POUND SIGN;CURRENCY SIGN;YEN SIGN",
    "BROKEN BAR;SECTION SIGN;DIAERESIS;COPYRIGHT SIGN;FEMININE ORDINAL INDICATOR",
    "LEFT-POINTING DOUBLE ANGLE QUOTATION MARK;NOT SIGN;SOFT HYPHEN;REGISTERED SIGN;MACRON",
    "DEGREE SIGN;PLUS-MINUS SIGN"]),
  (0xb2, "SUPERSCRIPT ", ["TWO;THREE"]),
  (0xb4, "", [
    "ACUTE ACCENT;MICRO SIGN;PILCROW SIGN;MIDDLE DOT;CEDILLA;SUPERSCRIPT ONE",
    "MASCULINE ORDINAL INDICATOR;RIGHT-POINTING DOUBLE ANGLE QUOTATION MARK"]),
  (0xbc, "VULGAR FRACTION ", ["ONE QUARTER;ONE HALF;THREE QUARTERS"]),
  (0xbf, "", ["INVERTED QUESTION MARK"]),
  (0xc0, "LATIN CAPITAL LETTER ", [
    "A WITH GRAVE;A WITH ACUTE;A WITH CIRCUMFLEX;A WITH TILDE;A WITH DIAERESIS",
    "A WITH RING ABOVE;AE;C WITH CEDILLA;E WITH GRAVE;E WITH ACUTE;E WITH CIRCUMFLEX",
    "E WITH DIAERESIS;I WITH GRAVE;I WITH ACUTE;I WITH CIRCUMFLEX;I WITH DIAERESIS;ETH",
    "N WITH TILDE;O WITH GRAVE;O WITH ACUTE;O WITH CIRCUMFLEX;O WITH TILDE;O WITH DIAERESIS"]),
  (0xd7, "", ["MULTIPLICATION SIGN"]),
  (0xd8, "LATIN ", [
    "CAPITAL LETTER O WITH STROKE;CAPITAL LETTER U WITH GRAVE;CAPITAL LETTER U WITH ACUTE",
    "CAPITAL LETTER U WITH CIRCUMFLEX;CAPITAL LETTER U WITH DIAERESIS",
    "CAPITAL LETTER Y WITH ACUTE;CAPITAL LETTER THORN;SMALL LETTER SHARP S",
    "SMALL LETTER A WITH GRAVE;SMALL LETTER A WITH ACUTE;SMALL LETTER A WITH CIRCUMFLEX",
    "SMALL LETTER A WITH TILDE;SMALL LETTER A WITH DIAERESIS;SMALL LETTER A WITH RING ABOVE",
    "SMALL LETTER AE;SMALL LETTER C WITH CEDILLA;SMALL LETTER E WITH GRAVE",
    "SMALL LETTER E WITH ACUTE;SMALL LETTER E WITH CIRCUMFLEX;SMALL LETTER E WITH DIAERESIS",
    "SMALL LETTER I WITH GRAVE;SMALL LETTER I WITH ACUTE;SMALL LETTER I WITH CIRCUMFLEX",
    "SMALL LETTER I WITH DIAERESIS;SMALL LETTER ETH;SMALL LETTER N WITH TILDE",
    "SMALL LETTER O WITH GRAVE;SMALL LETTER O WITH ACUTE;SMALL LETTER O WITH CIRCUMFLEX",
    "SMALL LETTER O WITH TILDE;SMALL LETTER O WITH DIAERESIS"]),
  (0xf7, "", ["DIVISION SIGN"]),
  (0xf8, "LATIN ", [
    "SMALL LETTER O WITH STROKE;SMALL LETTER U WITH GRAVE;SMALL LETTER U WITH ACUTE",
    "SMALL LETTER U WITH CIRCUMFLEX;SMALL LETTER U WITH DIAERESIS;SMALL LETTER Y WITH ACUTE",
    "SMALL LETTER THORN;SMALL LETTER Y WITH DIAERESIS;CAPITAL LETTER A WITH MACRON",
    "SMALL LETTER A WITH MACRON;CAPITAL LETTER A WITH BREVE;SMALL LETTER A WITH BREVE",
    "CAPITAL LETTER A WITH OGONEK;SMALL LETTER A WITH OGONEK;CAPITAL LETTER C WITH ACUTE",
    "SMALL LETTER C WITH ACUTE;CAPITAL LETTER C WITH CIRCUMFLEX",
    "SMALL LETTER C WITH CIRCUMFLEX;CAPITAL LETTER C WITH DOT ABOVE",
    "SMALL LETTER C WITH DOT ABOVE;CAPITAL LETTER C WITH CARON;SMALL LETTER C WITH CARON",
    "CAPITAL LETTER D WITH CARON;SMALL LETTER D WITH CARON;CAPITAL LETTER D WITH STROKE",
    "SMALL LETTER D WITH STROKE;CAPITAL LETTER E WITH MACRON;SMALL LETTER E WITH MACRON",
    "CAPITAL LETTER E WITH BREVE;SMALL LETTER E WITH BREVE;CAPITAL LETTER E WITH DOT ABOVE",
    "SMALL LETTER E WITH DOT ABOVE;CAPITAL LETTER E WITH OGONEK;SMALL LETTER E WITH OGONEK",
    "CAPITAL LETTER E WITH CARON;SMALL LETTER E WITH CARON;CAPITAL LETTER G WITH CIRCUMFLEX",
    "SMALL LETTER G WITH CIRCUMFLEX;CAPITAL LETTER G WITH BREVE;SMALL LETTER G WITH BREVE",
    "CAPITAL LETTER G WITH DOT ABOVE;SMALL LETTER G WITH DOT ABOVE",
    "CAPITAL LETTER G WITH CEDILLA;SMALL LETTER G WITH CEDILLA",
    "CAPITAL LETTER H WITH CIRCUMFLEX;SMALL LETTER H WITH CIRCUMFLEX",
    "CAPITAL LETTER H WITH STROKE;SMALL LETTER H WITH STROKE;CAPITAL LETTER I WITH TILDE",
    "SMALL LETTER I WITH TILDE;CAPITAL LETTER I WITH MACRON;SMALL LETTER I WITH MACRON",
    "CAPITAL LETTER I WITH BREVE;SMALL LETTER I WITH BREVE;CAPITAL LETTER I WITH OGONEK",
    "SMALL LETTER I WITH OGONEK;CAPITAL LETTER I WITH DOT ABOVE;SMALL LETTER DOTLESS I",
    "CAPITAL LIGATURE IJ;SMALL LIGATURE IJ;CAPITAL LETTER J WITH CIRCUMFLEX",
    "SMALL LETTER J WITH CIRCUMFLEX;CAPITAL LETTER K WITH CEDILLA;SMALL LETTER K WITH CEDILLA",
    "SMALL LETTER KRA;CAPITAL LETTER L WITH ACUTE;SMALL LETTER L WITH ACUTE",
    "CAPITAL LETTER L WITH CEDILLA;SMALL LETTER L WITH CEDILLA;CAPITAL LETTER L WITH CARON",
    "SMALL LETTER L WITH CARON;CAPITAL LETTER L WITH MIDDLE DOT",
    "SMALL LETTER L WITH MIDDLE DOT;CAPITAL LETTER L WITH STROKE;SMALL LETTER L WITH STROKE",
    "CAPITAL LETTER N WITH ACUTE;SMALL LETTER N WITH ACUTE;CAPITAL LETTER N WITH CEDILLA",
    "SMALL LETTER N WITH CEDILLA;CAPITAL LETTER N WITH CARON;SMALL LETTER N WITH CARON",
    "SMALL LETTER N PRECEDED BY APOSTROPHE;CAPITAL LETTER ENG;SMALL LETTER ENG",
    "CAPITAL LETTER O WITH MACRON;SMALL LETTER O WITH MACRON;CAPITAL LETTER O WITH BREVE",
    "SMALL LETTER O WITH BREVE;CAPITAL LETTER O WITH DOUBLE ACUTE",
    "SMALL LETTER O WITH DOUBLE ACUTE;CAPITAL LIGATURE OE;SMALL LIGATURE OE",
    "CAPITAL LETTER R WITH ACUTE;SMALL LETTER R WITH ACUTE;CAPITAL LETTER R WITH CEDILLA",
    "SMALL LETTER R WITH CEDILLA;CAPITAL LETTER R WITH CARON;SMALL LETTER R WITH CARON",
    "CAPITAL LETTER S WITH ACUTE;SMALL LETTER S WITH ACUTE;CAPITAL LETTER S WITH CIRCUMFLEX",
    "SMALL LETTER S WITH CIRCUMFLEX;CAPITAL LETTER S WITH CEDILLA;SMALL LETTER S WITH CEDILLA",
    "CAPITAL LETTER S WITH CARON;SMALL LETTER S WITH CARON;CAPITAL LETTER T WITH CEDILLA",
    "SMALL LETTER T WITH CEDILLA;CAPITAL LETTER T WITH CARON;SMALL LETTER T WITH CARON",
    "CAPITAL LETTER T WITH STROKE;SMALL LETTER T WITH STROKE;CAPITAL LETTER U WITH TILDE",
    "SMALL LETTER U WITH TILDE;CAPITAL LETTER U WITH MACRON;SMALL LETTER U WITH MACRON",
    "CAPITAL LETTER U WITH BREVE;SMALL LETTER U WITH BREVE;CAPITAL LETTER U WITH RING ABOVE",
    "SMALL LETTER U WITH RING ABOVE;CAPITAL LETTER U WITH DOUBLE ACUTE",
    "SMALL LETTER U WITH DOUBLE ACUTE;CAPITAL LETTER U WITH OGONEK;SMALL LETTER U WITH OGONEK",
    "CAPITAL LETTER W WITH CIRCUMFLEX;SMALL LETTER W WITH CIRCUMFLEX",
    "CAPITAL LETTER Y WITH CIRCUMFLEX;SMALL LETTER Y WITH CIRCUMFLEX",
    "CAPITAL LETTER Y WITH DIAERESIS;CAPITAL LETTER Z WITH ACUTE;SMALL LETTER Z WITH ACUTE",
    "CAPITAL LETTER Z WITH DOT ABOVE;SMALL LETTER Z WITH DOT ABOVE",
    "CAPITAL LETTER Z WITH CARON;SMALL LETTER Z WITH CARON;SMALL LETTER LONG S",
    "SMALL LETTER B WITH STROKE;CAPITAL LETTER B WITH HOOK;CAPITAL LETTER B WITH TOPBAR",
    "SMALL LETTER B WITH TOPBAR;CAPITAL LETTER TONE SIX;SMALL LETTER TONE SIX",
    "CAPITAL LETTER OPEN O;CAPITAL LETTER C WITH HOOK;SMALL LETTER C WITH HOOK",
    "CAPITAL LETTER AFRICAN D;CAPITAL LETTER D WITH HOOK;CAPITAL LETTER D WITH TOPBAR",
    "SMALL LETTER D WITH TOPBAR;SMALL LETTER TURNED DELTA;CAPITAL LETTER REVERSED E",
    "CAPITAL LETTER SCHWA;CAPITAL LETTER OPEN E;CAPITAL LETTER F WITH HOOK",
    "SMALL LETTER F WITH HOOK;CAPITAL LETTER G WITH HOOK;CAPITAL LETTER GAMMA;SMALL LETTER HV",
    "CAPITAL LETTER IOTA;CAPITAL LETTER I WITH STROKE;CAPITAL LETTER K WITH HOOK",
    "SMALL LETTER K WITH HOOK;SMALL LETTER L WITH BAR;SMALL LETTER LAMBDA WITH STROKE",
    "CAPITAL LETTER TURNED M;CAPITAL LETTER N WITH LEFT HOOK",
    "SMALL LETTER N WITH LONG RIGHT LEG;CAPITAL LETTER O WITH MIDDLE TILDE",
    "CAPITAL LETTER O WITH HORN;SMALL LETTER O WITH HORN;CAPITAL LETTER OI;SMALL LETTER OI",
    "CAPITAL LETTER P WITH HOOK;SMALL LETTER P WITH HOOK;LETTER YR;CAPITAL LETTER TONE TWO",
    "SMALL LETTER TONE TWO;CAPITAL LETTER ESH;LETTER REVERSED ESH LOOP",
    "SMALL LETTER T WITH PALATAL HOOK;CAPITAL LETTER T WITH HOOK;SMALL LETTER T WITH HOOK",
    "CAPITAL LETTER T WITH RETROFLEX HOOK;CAPITAL LETTER U WITH HORN;SMALL LETTER U WITH HORN",
    "CAPITAL LETTER UPSILON;CAPITAL LETTER V WITH HOOK;CAPITAL LETTER Y WITH HOOK",
    "SMALL LETTER Y WITH HOOK;CAPITAL LETTER Z WITH STROKE;SMALL LETTER Z WITH STROKE",
    "CAPITAL LETTER EZH;CAPITAL LETTER EZH REVERSED;SMALL LETTER EZH REVERSED",
    "SMALL LETTER EZH WITH TAIL;LETTER TWO WITH STROKE;CAPITAL LETTER TONE FIVE",
    "SMALL LETTER TONE FIVE;LETTER INVERTED GLOTTAL STOP WITH STROKE;LETTER WYNN",
    "LETTER DENTAL CLICK;LETTER LATERAL CLICK;LETTER ALVEOLAR CLICK;LETTER RETROFLEX CLICK",
    "CAPITAL LETTER DZ WITH CARON;CAPITAL LETTER D WITH SMALL LETTER Z WITH CARON",
    "SMALL LETTER DZ WITH CARON;CAPITAL LETTER LJ;CAPITAL LETTER L WITH SMALL LETTER J",
    "SMALL LETTER LJ;CAPITAL LETTER NJ;CAPITAL LETTER N WITH SMALL LETTER J;SMALL LETTER NJ",
    "CAPITAL LETTER A WITH CARON;SMALL LETTER A WITH CARON;CAPITAL LETTER I WITH CARON",
    "SMALL LETTER I WITH CARON;CAPITAL LETTER O WITH CARON;SMALL LETTER O WITH CARON",
    "CAPITAL LETTER U WITH CARON;SMALL LETTER U WITH CARON",
    "CAPITAL LETTER U WITH DIAERESIS AND MACRON;SMALL LETTER U WITH DIAERESIS AND MACRON",
    "CAPITAL LETTER U WITH DIAERESIS AND ACUTE;SMALL LETTER U WITH DIAERESIS AND ACUTE",
    "CAPITAL LETTER U WITH DIAERESIS AND CARON;SMALL LETTER U WITH DIAERESIS AND CARON",
    "CAPITAL LETTER U WITH DIAERESIS AND GRAVE;SMALL LETTER U WITH DIAERESIS AND GRAVE",
    "SMALL LETTER TURNED E;CAPITAL LETTER A WITH DIAERESIS AND MACRON",
    "SMALL LETTER A WITH DIAERESIS AND MACRON;CAPITAL LETTER A WITH DOT ABOVE AND MACRON",
    "SMALL LETTER A WITH DOT ABOVE AND MACRON;CAPITAL LETTER AE WITH MACRON",
    "SMALL LETTER AE WITH MACRON;CAPITAL LETTER G WITH STROKE;SMALL LETTER G WITH STROKE",
    "CAPITAL LETTER G WITH CARON;SMALL LETTER G WITH CARON;CAPITAL LETTER K WITH CARON",
    "SMALL LETTER K WITH CARON;CAPITAL LETTER O WITH OGONEK;SMALL LETTER O WITH OGONEK",
    "CAPITAL LETTER O WITH OGONEK AND MACRON;SMALL LETTER O WITH OGONEK AND MACRON",
    "CAPITAL LETTER EZH WITH CARON;SMALL LETTER EZH WITH CARON;SMALL LETTER J WITH CARON",
    "CAPITAL LETTER DZ;CAPITAL LETTER D WITH SMALL LETTER Z;SMALL LETTER DZ",
    "CAPITAL LETTER G WITH ACUTE;SMALL LETTER G WITH ACUTE;CAPITAL LETTER HWAIR",
    "CAPITAL LETTER WYNN;CAPITAL LETTER N WITH GRAVE;SMALL LETTER N WITH GRAVE",
    "CAPITAL LETTER A WITH RING ABOVE AND ACUTE;SMALL LETTER A WITH RING ABOVE AND ACUTE",
    "CAPITAL LETTER AE WITH ACUTE;SMALL LETTER AE WITH ACUTE",
    "CAPITAL LETTER O WITH STROKE AND ACUTE;SMALL LETTER O WITH STROKE AND ACUTE",
    "CAPITAL LETTER A WITH DOUBLE GRAVE;SMALL LETTER A WITH DOUBLE GRAVE",
    "CAPITAL LETTER A WITH INVERTED BREVE;SMALL LETTER A WITH INVERTED BREVE",
    "CAPITAL LETTER E WITH DOUBLE GRAVE;SMALL LETTER E WITH DOUBLE GRAVE",
    "CAPITAL LETTER E WITH INVERTED BREVE;SMALL LETTER E WITH INVERTED BREVE",
    "CAPITAL LETTER I WITH DOUBLE GRAVE;SMALL LETTER I WITH DOUBLE GRAVE",
    "CAPITAL LETTER I WITH INVERTED BREVE;SMALL LETTER I WITH INVERTED BREVE",
    "CAPITAL LETTER O WITH DOUBLE GRAVE;SMALL LETTER O WITH DOUBLE GRAVE",
    "CAPITAL LETTER O WITH INVERTED BREVE;SMALL LETTER O WITH INVERTED BREVE",
    "CAPITAL LETTER R WITH DOUBLE GRAVE;SMALL LETTER R WITH DOUBLE GRAVE",
    "CAPITAL LETTER R WITH INVERTED BREVE;SMALL LETTER R WITH INVERTED BREVE",
    "CAPITAL LETTER U WITH DOUBLE GRAVE;SMALL LETTER U WITH DOUBLE GRAVE",
    "CAPITAL LETTER U WITH INVERTED BREVE;SMALL LETTER U WITH INVERTED BREVE",
    "CAPITAL LETTER S WITH COMMA BELOW;SMALL LETTER S WITH COMMA BELOW",
    "CAPITAL LETTER T WITH COMMA BELOW;SMALL LETTER T WITH COMMA BELOW;CAPITAL LETTER YOGH",
    "SMALL LETTER YOGH;CAPITAL LETTER H WITH CARON;SMALL LETTER H WITH CARON",
    "CAPITAL LETTER N WITH LONG RIGHT LEG;SMALL LETTER D WITH CURL;CAPITAL LETTER OU",
    "SMALL LETTER OU;CAPITAL LETTER Z WITH HOOK;SMALL LETTER Z WITH HOOK",
    "CAPITAL LETTER A WITH DOT ABOVE;SMALL LETTER A WITH DOT ABOVE",
    "CAPITAL LETTER E WITH CEDILLA;SMALL LETTER E WITH CEDILLA",
    "CAPITAL LETTER O WITH DIAERESIS AND MACRON;SMALL LETTER O WITH DIAERESIS AND MACRON",
    "CAPITAL LETTER O WITH TILDE AND MACRON;SMALL LETTER O WITH TILDE AND MACRON",
    "CAPITAL LETTER O WITH DOT ABOVE;SMALL LETTER O WITH DOT ABOVE",
    "CAPITAL LETTER O WITH DOT ABOVE AND MACRON;SMALL LETTER O WITH DOT ABOVE AND MACRON",
    "CAPITAL LETTER Y WITH MACRON;SMALL LETTER Y WITH MACRON;SMALL LETTER L WITH CURL",
    "SMALL LETTER N WITH CURL;SMALL LETTER T WITH CURL;SMALL LETTER DOTLESS J",
    "SMALL LETTER DB DIGRAPH;SMALL LETTER QP DIGRAPH;CAPITAL LETTER A WITH STROKE",
    "CAPITAL LETTER C WITH STROKE;SMALL LETTER C WITH STROKE;CAPITAL LETTER L WITH BAR",
    "CAPITAL LETTER T WITH DIAGONAL STROKE;SMALL LETTER S WITH SWASH TAIL",
    "SMALL LETTER Z WITH SWASH TAIL;CAPITAL LETTER GLOTTAL STOP;SMALL LETTER GLOTTAL STOP",
    "CAPITAL LETTER B WITH STROKE;CAPITAL LETTER U BAR;CAPITAL LETTER TURNED V",
    "CAPITAL LETTER E WITH STROKE;SMALL LETTER E WITH STROKE;CAPITAL LETTER J WITH STROKE",
    "SMALL LETTER J WITH STROKE;CAPITAL LETTER SMALL Q WITH HOOK TAIL",
    "SMALL LETTER Q WITH HOOK TAIL;CAPITAL LETTER R WITH STROKE;SMALL LETTER R WITH STROKE",
    "CAPITAL LETTER Y WITH STROKE;SMALL LETTER Y WITH STROKE;SMALL LETTER TURNED A",
    "SMALL LETTER ALPHA;SMALL LETTER TURNED ALPHA;SMALL LETTER B WITH HOOK",
    "SMALL LETTER OPEN O;SMALL LETTER C WITH CURL;SMALL LETTER D WITH TAIL",
    "SMALL LETTER D WITH HOOK;SMALL LETTER REVERSED E;SMALL LETTER SCHWA",
    "SMALL LETTER SCHWA WITH HOOK;SMALL LETTER OPEN E;SMALL LETTER REVERSED OPEN E",
    "SMALL LETTER REVERSED OPEN E WITH HOOK;SMALL LETTER CLOSED REVERSED OPEN E",
    "SMALL LETTER DOTLESS J WITH STROKE;SMALL LETTER G WITH HOOK;SMALL LETTER SCRIPT G",
    "LETTER SMALL CAPITAL G;SMALL LETTER GAMMA;SMALL LETTER RAMS HORN;SMALL LETTER TURNED H",
    "SMALL LETTER H WITH HOOK;SMALL LETTER HENG WITH HOOK;SMALL LETTER I WITH STROKE",
    "SMALL LETTER IOTA;LETTER SMALL CAPITAL I;SMALL LETTER L WITH MIDDLE TILDE",
    "SMALL LETTER L WITH BELT;SMALL LETTER L WITH RETROFLEX HOOK;SMALL LETTER LEZH",
    "SMALL LETTER TURNED M;SMALL LETTER TURNED M WITH LONG LEG;SMALL LETTER M WITH HOOK",
    "SMALL LETTER N WITH LEFT HOOK;SMALL LETTER N WITH RETROFLEX HOOK;LETTER SMALL CAPITAL N",
    "SMALL LETTER BARRED O;LETTER SMALL CAPITAL OE;SMALL LETTER CLOSED OMEGA;SMALL LETTER PHI",
    "SMALL LETTER TURNED R;SMALL LETTER TURNED R WITH LONG LEG",
    "SMALL LETTER TURNED R WITH HOOK;SMALL LETTER R WITH LONG LEG;SMALL LETTER R WITH TAIL",
    "SMALL LETTER R WITH FISHHOOK;SMALL LETTER REVERSED R WITH FISHHOOK",
    "LETTER SMALL CAPITAL R;LETTER SMALL CAPITAL INVERTED R;SMALL LETTER S WITH HOOK",
    "SMALL LETTER ESH;SMALL LETTER DOTLESS J WITH STROKE AND HOOK",
    "SMALL LETTER SQUAT REVERSED ESH;SMALL LETTER ESH WITH CURL;SMALL LETTER TURNED T",
    "SMALL LETTER T WITH RETROFLEX HOOK;SMALL LETTER U BAR;SMALL LETTER UPSILON",
    "SMALL LETTER V WITH HOOK;SMALL LETTER TURNED V;SMALL LETTER TURNED W",
    "SMALL LETTER TURNED Y;LETTER SMALL CAPITAL Y;SMALL LETTER Z WITH RETROFLEX HOOK",
    "SMALL LETTER Z WITH CURL;SMALL LETTER EZH;SMALL LETTER EZH WITH CURL;LETTER GLOTTAL STOP",
    "LETTER PHARYNGEAL VOICED FRICATIVE;LETTER INVERTED GLOTTAL STOP;LETTER STRETCHED C",
    "LETTER BILABIAL CLICK;LETTER SMALL CAPITAL B;SMALL LETTER CLOSED OPEN E",
    "LETTER SMALL CAPITAL G WITH HOOK;LETTER SMALL CAPITAL H;SMALL LETTER J WITH CROSSED-TAIL",
    "SMALL LETTER TURNED K;LETTER SMALL CAPITAL L;SMALL LETTER Q WITH HOOK",
    "LETTER GLOTTAL STOP WITH STROKE;LETTER REVERSED GLOTTAL STOP WITH STROKE",
    "SMALL LETTER DZ DIGRAPH;SMALL LETTER DEZH DIGRAPH;SMALL LETTER DZ DIGRAPH WITH CURL",
    "SMALL LETTER TS DIGRAPH;SMALL LETTER TESH DIGRAPH;SMALL LETTER TC DIGRAPH WITH CURL",
    "SMALL LETTER FENG DIGRAPH;SMALL LETTER LS DIGRAPH;SMALL LETTER LZ DIGRAPH",
    "LETTER BILABIAL PERCUSSIVE;LETTER BIDENTAL PERCUSSIVE",
    "SMALL LETTER TURNED H WITH FISHHOOK;SMALL LETTER TURNED H WITH FISHHOOK AND TAIL"]),
  (0x2b0, "MODIFIER LETTER ", [
    "SMALL H;SMALL H WITH HOOK;SMALL J;SMALL R;SMALL TURNED R;SMALL TURNED R WITH HOOK",
    "SMALL CAPITAL INVERTED R;SMALL W;SMALL Y;PRIME;DOUBLE PRIME;TURNED COMMA;APOSTROPHE",
    "REVERSED COMMA;RIGHT HALF RING;LEFT HALF RING;GLOTTAL STOP;REVERSED GLOTTAL STOP",
    "LEFT ARROWHEAD;RIGHT ARROWHEAD;UP ARROWHEAD;DOWN ARROWHEAD;CIRCUMFLEX ACCENT"]),
  (0x2c7, "", ["CARON"]),
  (0x2c8, "MODIFIER LETTER ", [
    "VERTICAL LINE;MACRON;ACUTE ACCENT;GRAVE ACCENT;LOW VERTICAL LINE;LOW MACRON",
    "LOW GRAVE ACCENT;LOW ACUTE ACCENT;TRIANGULAR COLON;HALF TRIANGULAR COLON",
    "CENTRED RIGHT HALF RING;CENTRED LEFT HALF RING;UP TACK;DOWN TACK;PLUS SIGN;MINUS SIGN"]),
  (0x2d8, "", ["BREVE;DOT ABOVE;RING ABOVE;OGONEK;SMALL TILDE;DOUBLE ACUTE ACCENT"]),
  (0x2de, "MODIFIER LETTER ", [
    "RHOTIC HOOK;CROSS ACCENT;SMALL GAMMA;SMALL L;SMALL S;SMALL X;SMALL REVERSED GLOTTAL STOP",
    "EXTRA-HIGH TONE BAR;HIGH TONE BAR;MID TONE BAR;LOW TONE BAR;EXTRA-LOW TONE BAR",
    "YIN DEPARTING TONE MARK;YANG DEPARTING TONE MARK;VOICING;UNASPIRATED;DOUBLE APOSTROPHE",
    "LOW DOWN ARROWHEAD;LOW UP ARROWHEAD;LOW LEFT ARROWHEAD;LOW RIGHT ARROWHEAD;LOW RING",
    "MIDDLE GRAVE ACCENT;MIDDLE DOUBLE GRAVE ACCENT;MIDDLE DOUBLE ACUTE ACCENT;LOW TILDE",
    "RAISED COLON;BEGIN HIGH TONE;END HIGH TONE;BEGIN LOW TONE;END LOW TONE;SHELF;OPEN SHELF",
    "LOW LEFT ARROW"]),
  (0x300, "COMBINING ", [
    "GRAVE ACCENT;ACUTE ACCENT;CIRCUMFLEX ACCENT;TILDE;MACRON;OVERLINE;BREVE;DOT ABOVE",
    "DIAERESIS;HOOK ABOVE;RING ABOVE;DOUBLE ACUTE ACCENT;CARON;VERTICAL LINE ABOVE",
    "DOUBLE VERTICAL LINE ABOVE;DOUBLE GRAVE ACCENT;CANDRABINDU;INVERTED BREVE",
    "TURNED COMMA ABOVE;COMMA ABOVE;REVERSED COMMA ABOVE;COMMA ABOVE RIGHT;GRAVE ACCENT BELOW",
    "ACUTE ACCENT BELOW;LEFT TACK BELOW;RIGHT TACK BELOW;LEFT ANGLE ABOVE;HORN",
    "LEFT HALF RING BELOW;UP TACK BELOW;DOWN TACK BELOW;PLUS SIGN BELOW;MINUS SIGN BELOW",
    "PALATALIZED HOOK BELOW;RETROFLEX HOOK BELOW;DOT BELOW;DIAERESIS BELOW;RING BELOW",
    "COMMA BELOW;CEDILLA;OGONEK;VERTICAL LINE BELOW;BRIDGE BELOW;INVERTED DOUBLE ARCH BELOW",
    "CARON BELOW;CIRCUMFLEX ACCENT BELOW;BREVE BELOW;INVERTED BREVE BELOW;TILDE BELOW",
    "MACRON BELOW;LOW LINE;DOUBLE LOW LINE;TILDE OVERLAY;SHORT STROKE OVERLAY",
    "LONG STROKE OVERLAY;SHORT SOLIDUS OVERLAY;LONG SOLIDUS OVERLAY;RIGHT HALF RING BELOW",
    "INVERTED BRIDGE BELOW;SQUARE BELOW;SEAGULL BELOW;X ABOVE;VERTICAL TILDE;DOUBLE OVERLINE",
    "GRAVE TONE MARK;ACUTE TONE MARK;GREEK PERISPOMENI;GREEK KORONIS;GREEK DIALYTIKA TONOS",
    "GREEK YPOGEGRAMMENI;BRIDGE ABOVE;EQUALS SIGN BELOW;DOUBLE VERTICAL LINE BELOW",
    "LEFT ANGLE BELOW;NOT TILDE ABOVE;HOMOTHETIC ABOVE;ALMOST EQUAL TO ABOVE",
    "LEFT RIGHT ARROW BELOW;UPWARDS ARROW BELOW;GRAPHEME JOINER;RIGHT ARROWHEAD ABOVE",
    "LEFT HALF RING ABOVE;FERMATA;X BELOW;LEFT ARROWHEAD BELOW;RIGHT ARROWHEAD BELOW",
    "RIGHT ARROWHEAD AND UP ARROWHEAD BELOW;RIGHT HALF RING ABOVE;DOT ABOVE RIGHT",
    "ASTERISK BELOW;DOUBLE RING BELOW;ZIGZAG ABOVE;DOUBLE BREVE BELOW;DOUBLE BREVE",
    "DOUBLE MACRON;DOUBLE MACRON BELOW;DOUBLE TILDE;DOUBLE INVERTED BREVE",
    "DOUBLE RIGHTWARDS ARROW BELOW;LATIN SMALL LETTER A;LATIN SMALL LETTER E",
    "LATIN SMALL LETTER I;LATIN SMALL LETTER O;LATIN SMALL LETTER U;LATIN SMALL LETTER C",
    "LATIN SMALL LETTER D;LATIN SMALL LETTER H;LATIN SMALL LETTER M;LATIN SMALL LETTER R",
    "LATIN SMALL LETTER T;LATIN SMALL LETTER V;LATIN SMALL LETTER X"]),
  (0x370, "GREEK ", [
    "CAPITAL LETTER HETA;SMALL LETTER HETA;CAPITAL LETTER ARCHAIC SAMPI",
    "SMALL LETTER ARCHAIC SAMPI;NUMERAL SIGN;LOWER NUMERAL SIGN",
    "CAPITAL LETTER PAMPHYLIAN DIGAMMA;SMALL LETTER PAMPHYLIAN DIGAMMA"]),
  (0x37a, "GREEK ", [
    "YPOGEGRAMMENI;SMALL REVERSED LUNATE SIGMA SYMBOL;SMALL DOTTED LUNATE SIGMA SYMBOL",
    "SMALL REVERSED DOTTED LUNATE SIGMA SYMBOL;QUESTION MARK;CAPITAL LETTER YOT"]),
  (0x384, "GREEK ", [
    "TONOS;DIALYTIKA TONOS;CAPITAL LETTER ALPHA WITH TONOS;ANO TELEIA",
    "CAPITAL LETTER EPSILON WITH TONOS;CAPITAL LETTER ETA WITH TONOS",
    "CAPITAL LETTER IOTA WITH TONOS"]),
  (0x38c, "", ["GREEK CAPITAL LETTER OMICRON WITH TONOS"]),
  (0x38e, "GREEK ", [
    "CAPITAL LETTER UPSILON WITH TONOS;CAPITAL LETTER OMEGA WITH TONOS",
    "SMALL LETTER IOTA WITH DIALYTIKA AND TONOS;CAPITAL LETTER ALPHA;CAPITAL LETTER BETA",
    "CAPITAL LETTER GAMMA;CAPITAL LETTER DELTA;CAPITAL LETTER EPSILON;CAPITAL LETTER ZETA",
    "CAPITAL LETTER ETA;CAPITAL LETTER THETA;CAPITAL LETTER IOTA;CAPITAL LETTER KAPPA",
    "CAPITAL LETTER LAMDA;CAPITAL LETTER MU;CAPITAL LETTER NU;CAPITAL LETTER XI",
    "CAPITAL LETTER OMICRON;CAPITAL LETTER PI;CAPITAL LETTER RHO"]),
  (0x3a3, "GREEK ", [
    "CAPITAL LETTER SIGMA;CAPITAL LETTER TAU;CAPITAL LETTER UPSILON;CAPITAL LETTER PHI",
    "CAPITAL LETTER CHI;CAPITAL LETTER PSI;CAPITAL LETTER OMEGA",
    "CAPITAL LETTER IOTA WITH DIALYTIKA;CAPITAL LETTER UPSILON WITH DIALYTIKA",
    "SMALL LETTER ALPHA WITH TONOS;SMALL LETTER EPSILON WITH TONOS",
    "SMALL LETTER ETA WITH TONOS;SMALL LETTER IOTA WITH TONOS",
    "SMALL LETTER UPSILON WITH DIALYTIKA AND TONOS;SMALL LETTER ALPHA;SMALL LETTER BETA",
    "SMALL LETTER GAMMA;SMALL LETTER DELTA;SMALL LETTER EPSILON;SMALL LETTER ZETA",
    "SMALL LETTER ETA;SMALL LETTER THETA;SMALL LETTER IOTA;SMALL LETTER KAPPA",
    "SMALL LETTER LAMDA;SMALL LETTER MU;SMALL LETTER NU;SMALL LETTER XI;SMALL LETTER OMICRON",
    "SMALL LETTER PI;SMALL LETTER RHO;SMALL LETTER FINAL SIGMA;SMALL LETTER SIGMA",
    "SMALL LETTER TAU;SMALL LETTER UPSILON;SMALL LETTER PHI;SMALL LETTER CHI;SMALL LETTER PSI",
    "SMALL LETTER OMEGA;SMALL LETTER IOTA WITH DIALYTIKA;SMALL LETTER UPSILON WITH DIALYTIKA",
    "SMALL LETTER OMICRON WITH TONOS;SMALL LETTER UPSILON WITH TONOS",
    "SMALL LETTER OMEGA WITH TONOS;CAPITAL KAI SYMBOL;BETA SYMBOL;THETA SYMBOL",
    "UPSILON WITH HOOK SYMBOL;UPSILON WITH ACUTE AND HOOK SYMBOL",
    "UPSILON WITH DIAERESIS AND HOOK SYMBOL;PHI SYMBOL;PI SYMBOL;KAI SYMBOL",
    "LETTER ARCHAIC KOPPA;SMALL LETTER ARCHAIC KOPPA;LETTER STIGMA;SMALL LETTER STIGMA",
    "LETTER DIGAMMA;SMALL LETTER DIGAMMA;LETTER KOPPA;SMALL LETTER KOPPA;LETTER SAMPI",
    "SMALL LETTER SAMPI"]),
  (0x3e2, "COPTIC ", [
    "CAPITAL LETTER SHEI;SMALL LETTER SHEI;CAPITAL LETTER FEI;SMALL LETTER FEI",
    "CAPITAL LETTER KHEI;SMALL LETTER KHEI;CAPITAL LETTER HORI;SMALL LETTER HORI",
    "CAPITAL LETTER GANGIA;SMALL LETTER GANGIA;CAPITAL LETTER SHIMA;SMALL LETTER SHIMA",
    "CAPITAL LETTER DEI;SMALL LETTER DEI"]),
  (0x3f0, "GREEK ", [
    "KAPPA SYMBOL;RHO SYMBOL;LUNATE SIGMA SYMBOL;LETTER YOT;CAPITAL THETA SYMBOL",
    "LUNATE EPSILON SYMBOL;REVERSED LUNATE EPSILON SYMBOL;CAPITAL LETTER SHO;SMALL LETTER SHO",
    "CAPITAL LUNATE SIGMA SYMBOL;CAPITAL LETTER SAN;SMALL LETTER SAN;RHO WITH STROKE SYMBOL",
    "CAPITAL REVERSED LUNATE SIGMA SYMBOL;CAPITAL DOTTED LUNATE SIGMA SYMBOL",
    "CAPITAL REVERSED DOTTED LUNATE SIGMA SYMBOL"]),
  (0x400, "CYRILLIC ", [
    "CAPITAL LETTER IE WITH GRAVE;CAPITAL LETTER IO;CAPITAL LETTER DJE;CAPITAL LETTER GJE",
    "CAPITAL LETTER UKRAINIAN IE;CAPITAL LETTER DZE;CAPITAL LETTER BYELORUSSIAN-UKRAINIAN I",
    "CAPITAL LETTER YI;CAPITAL LETTER JE;CAPITAL LETTER LJE;CAPITAL LETTER NJE",
    "CAPITAL LETTER TSHE;CAPITAL LETTER KJE;CAPITAL LETTER I WITH GRAVE",
    "CAPITAL LETTER SHORT U;CAPITAL LETTER DZHE;CAPITAL LETTER A;CAPITAL LETTER BE",
    "CAPITAL LETTER VE;CAPITAL LETTER GHE;CAPITAL LETTER DE;CAPITAL LETTER IE",
    "CAPITAL LETTER ZHE;CAPITAL LETTER ZE;CAPITAL LETTER I;CAPITAL LETTER SHORT I",
    "CAPITAL LETTER KA;CAPITAL LETTER EL;CAPITAL LETTER EM;CAPITAL LETTER EN;CAPITAL LETTER O",
    "CAPITAL LETTER PE;CAPITAL LETTER ER;CAPITAL LETTER ES;CAPITAL LETTER TE;CAPITAL LETTER U",
    "CAPITAL LETTER EF;CAPITAL LETTER HA;CAPITAL LETTER TSE;CAPITAL LETTER CHE",
    "CAPITAL LETTER SHA;CAPITAL LETTER SHCHA;CAPITAL LETTER HARD SIGN;CAPITAL LETTER YERU",
    "CAPITAL LETTER SOFT SIGN;CAPITAL LETTER E;CAPITAL LETTER YU;CAPITAL LETTER YA",
    "SMALL LETTER A;SMALL LETTER BE;SMALL LETTER VE;SMALL LETTER GHE;SMALL LETTER DE",
    "SMALL LETTER IE;SMALL LETTER ZHE;SMALL LETTER ZE;SMALL LETTER I;SMALL LETTER SHORT I",
    "SMALL LETTER KA;SMALL LETTER EL;SMALL LETTER EM;SMALL LETTER EN;SMALL LETTER O",
    "SMALL LETTER PE;SMALL LETTER ER;SMALL LETTER ES;SMALL LETTER TE;SMALL LETTER U",
    "SMALL LETTER EF;SMALL LETTER HA;SMALL LETTER TSE;SMALL LETTER CHE;SMALL LETTER SHA",
    "SMALL LETTER SHCHA;SMALL LETTER HARD SIGN;SMALL LETTER YERU;SMALL LETTER SOFT SIGN",
    "SMALL LETTER E;SMALL LETTER YU;SMALL LETTER YA;SMALL LETTER IE WITH GRAVE",
    "SMALL LETTER IO;SMALL LETTER DJE;SMALL LETTER GJE;SMALL LETTER UKRAINIAN IE",
    "SMALL LETTER DZE;SMALL LETTER BYELORUSSIAN-UKRAINIAN I;SMALL LETTER YI;SMALL LETTER JE",
    "SMALL LETTER LJE;SMALL LETTER NJE;SMALL LETTER TSHE;SMALL LETTER KJE",
    "SMALL LETTER I WITH GRAVE;SMALL LETTER SHORT U;SMALL LETTER DZHE;CAPITAL LETTER OMEGA",
    "SMALL LETTER OMEGA;CAPITAL LETTER YAT;SMALL LETTER YAT;CAPITAL LETTER IOTIFIED E",
    "SMALL LETTER IOTIFIED E;CAPITAL LETTER LITTLE YUS;SMALL LETTER LITTLE YUS",
    "CAPITAL LETTER IOTIFIED LITTLE YUS;SMALL LETTER IOTIFIED LITTLE YUS",
    "CAPITAL LETTER BIG YUS;SMALL LETTER BIG YUS;CAPITAL LETTER IOTIFIED BIG YUS",
    "SMALL LETTER IOTIFIED BIG YUS;CAPITAL LETTER KSI;SMALL LETTER KSI;CAPITAL LETTER PSI",
    "SMALL LETTER PSI;CAPITAL LETTER FITA;SMALL LETTER FITA;CAPITAL LETTER IZHITSA",
    "SMALL LETTER IZHITSA;CAPITAL LETTER IZHITSA WITH DOUBLE GRAVE ACCENT",
    "SMALL LETTER IZHITSA WITH DOUBLE GRAVE ACCENT;CAPITAL LETTER UK;SMALL LETTER UK",
    "CAPITAL LETTER ROUND OMEGA;SMALL LETTER ROUND OMEGA;CAPITAL LETTER OMEGA WITH TITLO",
    "SMALL LETTER OMEGA WITH TITLO;CAPITAL LETTER OT;SMALL LETTER OT;CAPITAL LETTER KOPPA",
    "SMALL LETTER KOPPA;THOUSANDS SIGN"]),
  (0x483, "COMBINING CYRILLIC ", [
    "TITLO;PALATALIZATION;DASIA PNEUMATA;PSILI PNEUMATA;POKRYTIE;HUNDRED THOUSANDS SIGN",
    "MILLIONS SIGN"]),
  (0x48a, "CYRILLIC ", [
    "CAPITAL LETTER SHORT I WITH TAIL;SMALL LETTER SHORT I WITH TAIL",
    "CAPITAL LETTER SEMISOFT SIGN;SMALL LETTER SEMISOFT SIGN;CAPITAL LETTER ER WITH TICK",
    "SMALL LETTER ER WITH TICK;CAPITAL LETTER GHE WITH UPTURN;SMALL LETTER GHE WITH UPTURN",
    "CAPITAL LETTER GHE WITH STROKE;SMALL LETTER GHE WITH STROKE",
    "CAPITAL LETTER GHE WITH MIDDLE HOOK;SMALL LETTER GHE WITH MIDDLE HOOK",
    "CAPITAL LETTER ZHE WITH DESCENDER;SMALL LETTER ZHE WITH DESCENDER",
    "CAPITAL LETTER ZE WITH DESCENDER;SMALL LETTER ZE WITH DESCENDER",
    "CAPITAL LETTER KA WITH DESCENDER;SMALL LETTER KA WITH DESCENDER",
    "CAPITAL LETTER KA WITH VERTICAL STROKE;SMALL LETTER KA WITH VERTICAL STROKE",
    "CAPITAL LETTER KA WITH STROKE;SMALL LETTER KA WITH STROKE;CAPITAL LETTER BASHKIR KA",
    "SMALL LETTER BASHKIR KA;CAPITAL LETTER EN WITH DESCENDER;SMALL LETTER EN WITH DESCENDER",
    "CAPITAL LIGATURE EN GHE;SMALL LIGATURE EN GHE;CAPITAL LETTER PE WITH MIDDLE HOOK",
    "SMALL LETTER PE WITH MIDDLE HOOK;CAPITAL LETTER ABKHASIAN HA;SMALL LETTER ABKHASIAN HA",
    "CAPITAL LETTER ES WITH DESCENDER;SMALL LETTER ES WITH DESCENDER",
    "CAPITAL LETTER TE WITH DESCENDER;SMALL LETTER TE WITH DESCENDER",
    "CAPITAL LETTER STRAIGHT U;SMALL LETTER STRAIGHT U;CAPITAL LETTER STRAIGHT U WITH STROKE",
    "SMALL LETTER STRAIGHT U WITH STROKE;CAPITAL LETTER HA WITH DESCENDER",
    "SMALL LETTER HA WITH DESCENDER;CAPITAL LIGATURE TE TSE;SMALL LIGATURE TE TSE",
    "CAPITAL LETTER CHE WITH DESCENDER;SMALL LETTER CHE WITH DESCENDER",
    "CAPITAL LETTER CHE WITH VERTICAL STROKE;SMALL LETTER CHE WITH VERTICAL STROKE",
    "CAPITAL LETTER SHHA;SMALL LETTER SHHA;CAPITAL LETTER ABKHASIAN CHE",
    "SMALL LETTER ABKHASIAN CHE;CAPITAL LETTER ABKHASIAN CHE WITH DESCENDER",
    "SMALL LETTER ABKHASIAN CHE WITH DESCENDER;LETTER PALOCHKA;CAPITAL LETTER ZHE WITH BREVE",
    "SMALL LETTER ZHE WITH BREVE;CAPITAL LETTER KA WITH HOOK;SMALL LETTER KA WITH HOOK",
    "CAPITAL LETTER EL WITH TAIL;SMALL LETTER EL WITH TAIL;CAPITAL LETTER EN WITH HOOK",
    "SMALL LETTER EN WITH HOOK;CAPITAL LETTER EN WITH TAIL;SMALL LETTER EN WITH TAIL",
    "CAPITAL LETTER KHAKASSIAN CHE;SMALL LETTER KHAKASSIAN CHE;CAPITAL LETTER EM WITH TAIL",
    "SMALL LETTER EM WITH TAIL;SMALL LETTER PALOCHKA;CAPITAL LETTER A WITH BREVE",
    "SMALL LETTER A WITH BREVE;CAPITAL LETTER A WITH DIAERESIS;SMALL LETTER A WITH DIAERESIS",
    "CAPITAL LIGATURE A IE;SMALL LIGATURE A IE;CAPITAL LETTER IE WITH BREVE",
    "SMALL LETTER IE WITH BREVE;CAPITAL LETTER SCHWA;SMALL LETTER SCHWA",
    "CAPITAL LETTER SCHWA WITH DIAERESIS;SMALL LETTER SCHWA WITH DIAERESIS",
    "CAPITAL LETTER ZHE WITH DIAERESIS;SMALL LETTER ZHE WITH DIAERESIS",
    "CAPITAL LETTER ZE WITH DIAERESIS;SMALL LETTER ZE WITH DIAERESIS",
    "CAPITAL LETTER ABKHASIAN DZE;SMALL LETTER ABKHASIAN DZE;CAPITAL LETTER I WITH MACRON",
    "SMALL LETTER I WITH MACRON;CAPITAL LETTER I WITH DIAERESIS;SMALL LETTER I WITH DIAERESIS",
    "CAPITAL LETTER O WITH DIAERESIS;SMALL LETTER O WITH DIAERESIS;CAPITAL LETTER BARRED O",
    "SMALL LETTER BARRED O;CAPITAL LETTER BARRED O WITH DIAERESIS",
    "SMALL LETTER BARRED O WITH DIAERESIS;CAPITAL LETTER E WITH DIAERESIS",
    "SMALL LETTER E WITH DIAERESIS;CAPITAL LETTER U WITH MACRON;SMALL LETTER U WITH MACRON",
    "CAPITAL LETTER U WITH DIAERESIS;SMALL LETTER U WITH DIAERESIS",
    "CAPITAL LETTER U WITH DOUBLE ACUTE;SMALL LETTER U WITH DOUBLE ACUTE",
    "CAPITAL LETTER CHE WITH DIAERESIS;SMALL LETTER CHE WITH DIAERESIS",
    "CAPITAL LETTER GHE WITH DESCENDER;SMALL LETTER GHE WITH DESCENDER",
    "CAPITAL LETTER YERU WITH DIAERESIS;SMALL LETTER YERU WITH DIAERESIS",
    "CAPITAL LETTER GHE WITH STROKE AND HOOK;SMALL LETTER GHE WITH STROKE AND HOOK",
    "CAPITAL LETTER HA WITH HOOK;SMALL LETTER HA WITH HOOK;CAPITAL LETTER HA WITH STROKE",
    "SMALL LETTER HA WITH STROKE;CAPITAL LETTER KOMI DE;SMALL LETTER KOMI DE",
    "CAPITAL LETTER KOMI DJE;SMALL LETTER KOMI DJE;CAPITAL LETTER KOMI ZJE",
    "SMALL LETTER KOMI ZJE;CAPITAL LETTER KOMI DZJE;SMALL LETTER KOMI DZJE",
    "CAPITAL LETTER KOMI LJE;SMALL LETTER KOMI LJE;CAPITAL LETTER KOMI NJE",
    "SMALL LETTER KOMI NJE;CAPITAL LETTER KOMI SJE;SMALL LETTER KOMI SJE",
    "CAPITAL LETTER KOMI TJE;SMALL LETTER KOMI TJE;CAPITAL LETTER REVERSED ZE",
    "SMALL LETTER REVERSED ZE;CAPITAL LETTER EL WITH HOOK;SMALL LETTER EL WITH HOOK",
    "CAPITAL LETTER LHA;SMALL LETTER LHA;CAPITAL LETTER RHA;SMALL LETTER RHA",
    "CAPITAL LETTER YAE;SMALL LETTER YAE;CAPITAL LETTER QA;SMALL LETTER QA;CAPITAL LETTER WE",
    "SMALL LETTER WE;CAPITAL LETTER ALEUT KA;SMALL LETTER ALEUT KA",
    "CAPITAL LETTER EL WITH MIDDLE HOOK;SMALL LETTER EL WITH MIDDLE HOOK",
    "CAPITAL LETTER EN WITH MIDDLE HOOK;SMALL LETTER EN WITH MIDDLE HOOK",
    "CAPITAL LETTER PE WITH DESCENDER;SMALL LETTER PE WITH DESCENDER",
    "CAPITAL LETTER SHHA WITH DESCENDER;SMALL LETTER SHHA WITH DESCENDER",
    "CAPITAL LETTER EN WITH LEFT HOOK;SMALL LETTER EN WITH LEFT HOOK;CAPITAL LETTER DZZHE",
    "SMALL LETTER DZZHE;CAPITAL LETTER DCHE;SMALL LETTER DCHE",
    "CAPITAL LETTER EL WITH DESCENDER;SMALL LETTER EL WITH DESCENDER"]),
  (0x531, "ARMENIAN CAPITAL LETTER ", [
    "AYB;BEN;GIM;DA;ECH;ZA;EH;ET;TO;ZHE;INI;LIWN;XEH;CA;KEN;HO;JA;GHAD;CHEH;MEN;YI;NOW;SHA;VO",
    "CHA;PEH;JHEH;RA;SEH;VEW;TIWN;REH;CO;YIWN;PIWR;KEH;OH;FEH"]),
  (0x559, "ARMENIAN ", [
    "MODIFIER LETTER LEFT HALF RING;APOSTROPHE;EMPHASIS MARK;EXCLAMATION MARK;COMMA",
    "QUESTION MARK;ABBREVIATION MARK;SMALL LETTER TURNED AYB;SMALL LETTER AYB",
    "SMALL LETTER BEN;SMALL LETTER GIM;SMALL LETTER DA;SMALL LETTER ECH;SMALL LETTER ZA",
    "SMALL LETTER EH;SMALL LETTER ET;SMALL LETTER TO;SMALL LETTER ZHE;SMALL LETTER INI",
    "SMALL LETTER LIWN;SMALL LETTER XEH;SMALL LETTER CA;SMALL LETTER KEN;SMALL LETTER HO",
    "SMALL LETTER JA;SMALL LETTER GHAD;SMALL LETTER CHEH;SMALL LETTER MEN;SMALL LETTER YI",
    "SMALL LETTER NOW;SMALL LETTER SHA;SMALL LETTER VO;SMALL LETTER CHA;SMALL LETTER PEH",
    "SMALL LETTER JHEH;SMALL LETTER RA;SMALL LETTER SEH;SMALL LETTER VEW;SMALL LETTER TIWN",
    "SMALL LETTER REH;SMALL LETTER CO;SMALL LETTER YIWN;SMALL LETTER PIWR;SMALL LETTER KEH",
    "SMALL LETTER OH;SMALL LETTER FEH;SMALL LIGATURE ECH YIWN;SMALL LETTER YI WITH STROKE",
    "FULL STOP;HYPHEN"]),
  (0x58d, "", [
    "RIGHT-FACING ARMENIAN ETERNITY SIGN;LEFT-FACING ARMENIAN ETERNITY SIGN",
    "ARMENIAN DRAM SIGN"]),
  (0x591, "HEBREW ACCENT ", [
    "ETNAHTA;SEGOL;SHALSHELET;ZAQEF QATAN;ZAQEF GADOL;TIPEHA;REVIA;ZARQA;PASHTA;YETIV;TEVIR",
    "GERESH;GERESH MUQDAM;GERSHAYIM;QARNEY PARA;TELISHA GEDOLA;PAZER;ATNAH HAFUKH;MUNAH",
    "MAHAPAKH;MERKHA;MERKHA KEFULA;DARGA;QADMA;TELISHA QETANA;YERAH BEN YOMO;OLE;ILUY;DEHI",
    "ZINOR"]),
  (0x5af, "HEBREW ", [
    "MARK MASORA CIRCLE;POINT SHEVA;POINT HATAF SEGOL;POINT HATAF PATAH;POINT HATAF QAMATS",
    "POINT HIRIQ;POINT TSERE;POINT SEGOL;POINT PATAH;POINT QAMATS;POINT HOLAM",
    "POINT HOLAM HASER FOR VAV;POINT QUBUTS;POINT DAGESH OR MAPIQ;POINT METEG",
    "PUNCTUATION MAQAF;POINT RAFE;PUNCTUATION PASEQ;POINT SHIN DOT;POINT SIN DOT",
    "PUNCTUATION SOF PASUQ;MARK UPPER DOT;MARK LOWER DOT;PUNCTUATION NUN HAFUKHA",
    "POINT QAMATS QATAN"]),
  (0x5d0, "HEBREW LETTER ", [
    "ALEF;BET;GIMEL;DALET;HE;VAV;ZAYIN;HET;TET;YOD;FINAL KAF;KAF;LAMED;FINAL MEM;MEM",
    "FINAL NUN;NUN;SAMEKH;AYIN;FINAL PE;PE;FINAL TSADI;TSADI;QOF;RESH;SHIN;TAV"]),
  (0x5ef, "HEBREW ", [
    "YOD TRIANGLE;LIGATURE YIDDISH DOUBLE VAV;LIGATURE YIDDISH VAV YOD",
    "LIGATURE YIDDISH DOUBLE YOD;PUNCTUATION GERESH;PUNCTUATION GERSHAYIM"]),
  (0x600, "ARABIC ", [
    "NUMBER SIGN;SIGN SANAH;FOOTNOTE MARKER;SIGN SAFHA;SIGN SAMVAT;NUMBER MARK ABOVE"]),
  (0x606, "ARABIC-INDIC ", ["CUBE ROOT;FOURTH ROOT"]), (0x608, "", ["ARABIC RAY"]),
  (0x609, "ARABIC-INDIC PER ", ["MILLE SIGN;TEN THOUSAND SIGN"]), (0x60b, "", ["AFGHANI SIGN"]),
  (0x60c, "ARABIC ", [
    "COMMA;DATE SEPARATOR;POETIC VERSE SIGN;SIGN MISRA;SIGN SALLALLAHOU ALAYHE WASSALLAM",
    "SIGN ALAYHE ASSALLAM;SIGN RAHMATULLAH ALAYHE;SIGN RADI ALLAHOU ANHU;SIGN TAKHALLUS",
    "SMALL HIGH TAH;SMALL HIGH LIGATURE ALEF WITH LAM WITH YEH;SMALL HIGH ZAIN;SMALL FATHA",
    "SMALL DAMMA;SMALL KASRA;SEMICOLON;LETTER MARK;END OF TEXT MARK",
    "TRIPLE DOT PUNCTUATION MARK;QUESTION MARK;LETTER KASHMIRI YEH;LETTER HAMZA",
    "LETTER ALEF WITH MADDA ABOVE;LETTER ALEF WITH HAMZA ABOVE;LETTER WAW WITH HAMZA ABOVE",
    "LETTER ALEF WITH HAMZA BELOW;LETTER YEH WITH HAMZA ABOVE;LETTER ALEF;LETTER BEH",
    "LETTER TEH MARBUTA;LETTER TEH;LETTER THEH;LETTER JEEM;LETTER HAH;LETTER KHAH;LETTER DAL",
    "LETTER THAL;LETTER REH;LETTER ZAIN;LETTER SEEN;LETTER SHEEN;LETTER SAD;LETTER DAD",
    "LETTER TAH;LETTER ZAH;LETTER AIN;LETTER GHAIN;LETTER KEHEH WITH TWO DOTS ABOVE",
    "LETTER KEHEH WITH THREE DOTS BELOW;LETTER FARSI YEH WITH INVERTED V",
    "LETTER FARSI YEH WITH TWO DOTS ABOVE;LETTER FARSI YEH WITH THREE DOTS ABOVE;TATWEEL",
    "LETTER FEH;LETTER QAF;LETTER KAF;LETTER LAM;LETTER MEEM;LETTER NOON;LETTER HEH",
    "LETTER WAW;LETTER ALEF MAKSURA;LETTER YEH;FATHATAN;DAMMATAN;KASRATAN;FATHA;DAMMA;KASRA",
    "SHADDA;SUKUN;MADDAH ABOVE;HAMZA ABOVE;HAMZA BELOW;SUBSCRIPT ALEF;INVERTED DAMMA",
    "MARK NOON GHUNNA;ZWARAKAY;VOWEL SIGN SMALL V ABOVE;VOWEL SIGN INVERTED SMALL V ABOVE",
    "VOWEL SIGN DOT BELOW;REVERSED DAMMA;FATHA WITH TWO DOTS;WAVY HAMZA BELOW"]),
  (0x660, "ARABIC-INDIC DIGIT ", ["ZERO;ONE;TWO;THREE;FOUR;FIVE;SIX;SEVEN;EIGHT;NINE"]),
  (0x66a, "ARABIC ", [
    "PERCENT SIGN;DECIMAL SEPARATOR;THOUSANDS SEPARATOR;FIVE POINTED STAR;LETTER DOTLESS BEH",
    "LETTER DOTLESS QAF;LETTER SUPERSCRIPT ALEF;LETTER ALEF WASLA",
    "LETTER ALEF WITH WAVY HAMZA ABOVE;LETTER ALEF WITH WAVY HAMZA BELOW;LETTER HIGH HAMZA",
    "LETTER HIGH HAMZA ALEF;LETTER HIGH HAMZA WAW;LETTER U WITH HAMZA ABOVE",
    "LETTER HIGH HAMZA YEH;LETTER TTEH;LETTER TTEHEH;LETTER BEEH;LETTER TEH WITH RING",
    "LETTER TEH WITH THREE DOTS ABOVE DOWNWARDS;LETTER PEH;LETTER TEHEH;LETTER BEHEH",
    "LETTER HAH WITH HAMZA ABOVE;LETTER HAH WITH TWO DOTS VERTICAL ABOVE;LETTER NYEH",
    "LETTER DYEH;LETTER HAH WITH THREE DOTS ABOVE;LETTER TCHEH;LETTER TCHEHEH;LETTER DDAL",
    "LETTER DAL WITH RING;LETTER DAL WITH DOT BELOW;LETTER DAL WITH DOT BELOW AND SMALL TAH",
    "LETTER DAHAL;LETTER DDAHAL;LETTER DUL;LETTER DAL WITH THREE DOTS ABOVE DOWNWARDS",
    "LETTER DAL WITH FOUR DOTS ABOVE;LETTER RREH;LETTER REH WITH SMALL V;LETTER REH WITH RING",
    "LETTER REH WITH DOT BELOW;LETTER REH WITH SMALL V BELOW",
    "LETTER REH WITH DOT BELOW AND DOT ABOVE;LETTER REH WITH TWO DOTS ABOVE;LETTER JEH",
    "LETTER REH WITH FOUR DOTS ABOVE;LETTER SEEN WITH DOT BELOW AND DOT ABOVE",
    "LETTER SEEN WITH THREE DOTS BELOW;LETTER SEEN WITH THREE DOTS BELOW AND THREE DOTS ABOVE",
    "LETTER SAD WITH TWO DOTS BELOW;LETTER SAD WITH THREE DOTS ABOVE",
    "LETTER TAH WITH THREE DOTS ABOVE;LETTER AIN WITH THREE DOTS ABOVE;LETTER DOTLESS FEH",
    "LETTER FEH WITH DOT MOVED BELOW;LETTER FEH WITH DOT BELOW;LETTER VEH",
    "LETTER FEH WITH THREE DOTS BELOW;LETTER PEHEH;LETTER QAF WITH DOT ABOVE",
    "LETTER QAF WITH THREE DOTS ABOVE;LETTER KEHEH;LETTER SWASH KAF;LETTER KAF WITH RING",
    "LETTER KAF WITH DOT ABOVE;LETTER NG;LETTER KAF WITH THREE DOTS BELOW;LETTER GAF",
    "LETTER GAF WITH RING;LETTER NGOEH;LETTER GAF WITH TWO DOTS BELOW;LETTER GUEH",
    "LETTER GAF WITH THREE DOTS ABOVE;LETTER LAM WITH SMALL V;LETTER LAM WITH DOT ABOVE",
    "LETTER LAM WITH THREE DOTS ABOVE;LETTER LAM WITH THREE DOTS BELOW",
    "LETTER NOON WITH DOT BELOW;LETTER NOON GHUNNA;LETTER RNOON;LETTER NOON WITH RING",
    "LETTER NOON WITH THREE DOTS ABOVE;LETTER HEH DOACHASHMEE;LETTER TCHEH WITH DOT ABOVE",
    "LETTER HEH WITH YEH ABOVE;LETTER HEH GOAL;LETTER HEH GOAL WITH HAMZA ABOVE",
    "LETTER TEH MARBUTA GOAL;LETTER WAW WITH RING;LETTER KIRGHIZ OE;LETTER OE;LETTER U",
    "LETTER YU;LETTER KIRGHIZ YU;LETTER WAW WITH TWO DOTS ABOVE;LETTER VE;LETTER FARSI YEH",
    "LETTER YEH WITH TAIL;LETTER YEH WITH SMALL V;LETTER WAW WITH DOT ABOVE;LETTER E",
    "LETTER YEH WITH THREE DOTS BELOW;LETTER YEH BARREE;LETTER YEH BARREE WITH HAMZA ABOVE",
    "FULL STOP;LETTER AE;SMALL HIGH LIGATURE SAD WITH LAM WITH ALEF MAKSURA",
    "SMALL HIGH LIGATURE QAF WITH LAM WITH ALEF MAKSURA;SMALL HIGH MEEM INITIAL FORM",
    "SMALL HIGH LAM ALEF;SMALL HIGH JEEM;SMALL HIGH THREE DOTS;SMALL HIGH SEEN;END OF AYAH",
    "START OF RUB EL HIZB;SMALL HIGH ROUNDED ZERO;SMALL HIGH UPRIGHT RECTANGULAR ZERO",
    "SMALL HIGH DOTLESS HEAD OF KHAH;SMALL HIGH MEEM ISOLATED FORM;SMALL LOW SEEN",
    "SMALL HIGH MADDA;SMALL WAW;SMALL YEH;SMALL HIGH YEH;SMALL HIGH NOON;PLACE OF SAJDAH",
    "EMPTY CENTRE LOW STOP;EMPTY CENTRE HIGH STOP;ROUNDED HIGH STOP WITH FILLED CENTRE",
    "SMALL LOW MEEM;LETTER DAL WITH INVERTED V;LETTER REH WITH INVERTED V"]),
  (0x6f0, "EXTENDED ARABIC-INDIC DIGIT ", ["ZERO;ONE;TWO;THREE;FOUR;FIVE;SIX;SEVEN;EIGHT;NINE"]),
  (0x6fa, "ARABIC ", [
    "LETTER SHEEN WITH DOT BELOW;LETTER DAD WITH DOT BELOW;LETTER GHAIN WITH DOT BELOW",
    "SIGN SINDHI AMPERSAND;SIGN SINDHI POSTPOSITION MEN;LETTER HEH WITH INVERTED V"]),
  (0x700, "SYRIAC ", [
    "END OF PARAGRAPH;SUPRALINEAR FULL STOP;SUBLINEAR FULL STOP;SUPRALINEAR COLON",
    "SUBLINEAR COLON;HORIZONTAL COLON;COLON SKEWED LEFT;COLON SKEWED RIGHT",
    "SUPRALINEAR COLON SKEWED LEFT;SUBLINEAR COLON SKEWED RIGHT;CONTRACTION;HARKLEAN OBELUS",
    "HARKLEAN METOBELUS;HARKLEAN ASTERISCUS"]),
  (0x70f, "SYRIAC ", [
    "ABBREVIATION MARK;LETTER ALAPH;LETTER SUPERSCRIPT ALAPH;LETTER BETH;LETTER GAMAL",
    "LETTER GAMAL GARSHUNI;LETTER DALATH;LETTER DOTLESS DALATH RISH;LETTER HE;LETTER WAW",
    "LETTER ZAIN;LETTER HETH;LETTER TETH;LETTER TETH GARSHUNI;LETTER YUDH;LETTER YUDH HE",
    "LETTER KAPH;LETTER LAMADH;LETTER MIM;LETTER NUN;LETTER SEMKATH;LETTER FINAL SEMKATH",
    "LETTER E;LETTER PE;LETTER REVERSED PE;LETTER SADHE;LETTER QAPH;LETTER RISH;LETTER SHIN",
    "LETTER TAW;LETTER PERSIAN BHETH;LETTER PERSIAN GHAMAL;LETTER PERSIAN DHALATH",
    "PTHAHA ABOVE;PTHAHA BELOW;PTHAHA DOTTED;ZQAPHA ABOVE;ZQAPHA BELOW;ZQAPHA DOTTED",
    "RBASA ABOVE;RBASA BELOW;DOTTED ZLAMA HORIZONTAL;DOTTED ZLAMA ANGULAR;HBASA ABOVE",
    "HBASA BELOW;HBASA-ESASA DOTTED;ESASA ABOVE;ESASA BELOW;RWAHA;FEMININE DOT;QUSHSHAYA",
    "RUKKAKHA;TWO VERTICAL DOTS ABOVE;TWO VERTICAL DOTS BELOW;THREE DOTS ABOVE",
    "THREE DOTS BELOW;OBLIQUE LINE ABOVE;OBLIQUE LINE BELOW;MUSIC;BARREKH"]),
  (0x74d, "SYRIAC LETTER SOGDIAN ", ["ZHAIN;KHAPH;FE"]),
  (0x750, "ARABIC LETTER ", [
    "BEH WITH THREE DOTS HORIZONTALLY BELOW;BEH WITH DOT BELOW AND THREE DOTS ABOVE",
    "BEH WITH THREE DOTS POINTING UPWARDS BELOW",
    "BEH WITH THREE DOTS POINTING UPWARDS BELOW AND TWO DOTS ABOVE",
    "BEH WITH TWO DOTS BELOW AND DOT ABOVE;BEH WITH INVERTED SMALL V BELOW;BEH WITH SMALL V",
    "HAH WITH TWO DOTS ABOVE;HAH WITH THREE DOTS POINTING UPWARDS BELOW",
    "DAL WITH TWO DOTS VERTICALLY BELOW AND SMALL TAH;DAL WITH INVERTED SMALL V BELOW",
    "REH WITH STROKE;SEEN WITH FOUR DOTS ABOVE;AIN WITH TWO DOTS ABOVE",
    "AIN WITH THREE DOTS POINTING DOWNWARDS ABOVE;AIN WITH TWO DOTS VERTICALLY ABOVE",
    "FEH WITH TWO DOTS BELOW;FEH WITH THREE DOTS POINTING UPWARDS BELOW;KEHEH WITH DOT ABOVE",
    "KEHEH WITH THREE DOTS ABOVE;KEHEH WITH THREE DOTS POINTING UPWARDS BELOW",
    "MEEM WITH DOT ABOVE;MEEM WITH DOT BELOW;NOON WITH TWO DOTS BELOW;NOON WITH SMALL TAH",
    "NOON WITH SMALL V;LAM WITH BAR;REH WITH TWO DOTS VERTICALLY ABOVE;REH WITH HAMZA ABOVE",
    "SEEN WITH TWO DOTS VERTICALLY ABOVE;HAH WITH SMALL ARABIC LETTER TAH BELOW",
    "HAH WITH SMALL ARABIC LETTER TAH AND TWO DOTS",
    "SEEN WITH SMALL ARABIC LETTER TAH AND TWO DOTS",
    "REH WITH SMALL ARABIC LETTER TAH AND TWO DOTS;HAH WITH SMALL ARABIC LETTER TAH ABOVE",
    "ALEF WITH EXTENDED ARABIC-INDIC DIGIT TWO ABOVE",
    "ALEF WITH EXTENDED ARABIC-INDIC DIGIT THREE ABOVE",
    "FARSI YEH WITH EXTENDED ARABIC-INDIC DIGIT TWO ABOVE",
    "FARSI YEH WITH EXTENDED ARABIC-INDIC DIGIT THREE ABOVE",
    "FARSI YEH WITH EXTENDED ARABIC-INDIC DIGIT FOUR BELOW",
    "WAW WITH EXTENDED ARABIC-INDIC DIGIT TWO ABOVE",
    "WAW WITH EXTENDED ARABIC-INDIC DIGIT THREE ABOVE",
    "YEH BARREE WITH EXTENDED ARABIC-INDIC DIGIT TWO ABOVE",
    "YEH BARREE WITH EXTENDED ARABIC-INDIC DIGIT THREE ABOVE",
    "HAH WITH EXTENDED ARABIC-INDIC DIGIT FOUR BELOW",
    "SEEN WITH EXTENDED ARABIC-INDIC DIGIT FOUR ABOVE;SEEN WITH INVERTED V",
    "KAF WITH TWO DOTS ABOVE"]),
  (0x780, "THAANA LETTER ", [
    "HAA;SHAVIYANI;NOONU;RAA;BAA;LHAVIYANI;KAAFU;ALIFU;VAAVU;MEEMU;FAAFU;DHAALU;THAA;LAAMU",
    "GAAFU;GNAVIYANI;SEENU;DAVIYANI;ZAVIYANI;TAVIYANI;YAA;PAVIYANI;JAVIYANI;CHAVIYANI;TTAA",
    "HHAA;KHAA;THAALU;ZAA;SHEENU;SAADHU;DAADHU;TO;ZO;AINU;GHAINU;QAAFU;WAAVU"]),
  (0x7a6, "THAANA ", [
    "ABAFILI;AABAAFILI;IBIFILI;EEBEEFILI;UBUFILI;OOBOOFILI;EBEFILI;EYBEYFILI;OBOFILI",
    "OABOAFILI;SUKUN;LETTER NAA"]),
  (0x7c0, "NKO ", [
    "DIGIT ZERO;DIGIT ONE;DIGIT TWO;DIGIT THREE;DIGIT FOUR;DIGIT FIVE;DIGIT SIX;DIGIT SEVEN",
    "DIGIT EIGHT;DIGIT NINE;LETTER A;LETTER EE;LETTER I;LETTER E;LETTER U;LETTER OO;LETTER O",
    "LETTER DAGBASINNA;LETTER N;LETTER BA;LETTER PA;LETTER TA;LETTER JA;LETTER CHA;LETTER DA",
    "LETTER RA;LETTER RRA;LETTER SA;LETTER GBA;LETTER FA;LETTER KA;LETTER LA;LETTER NA WOLOSO",
    "LETTER MA;LETTER NYA;LETTER NA;LETTER HA;LETTER WA;LETTER YA;LETTER NYA WOLOSO",
    "LETTER JONA JA;LETTER JONA CHA;LETTER JONA RA;COMBINING SHORT HIGH TONE",
    "COMBINING SHORT LOW TONE;COMBINING SHORT RISING TONE;COMBINING LONG DESCENDING TONE",
    "COMBINING LONG HIGH TONE;COMBINING LONG LOW TONE;COMBINING LONG RISING TONE",
    "COMBINING NASALIZATION MARK;COMBINING DOUBLE DOT ABOVE;HIGH TONE APOSTROPHE",
    "LOW TONE APOSTROPHE;SYMBOL OO DENNEN;SYMBOL GBAKURUNEN;COMMA;EXCLAMATION MARK;LAJANYALAN"]),
  (0x7fd, "", ["NKO DANTAYALAN;NKO DOROME SIGN;NKO TAMAN SIGN"]),
  (0x800, "SAMARITAN ", [
    "LETTER ALAF;LETTER BIT;LETTER GAMAN;LETTER DALAT;LETTER IY;LETTER BAA;LETTER ZEN",
    "LETTER IT;LETTER TIT;LETTER YUT;LETTER KAAF;LETTER LABAT;LETTER MIM;LETTER NUN",
    "LETTER SINGAAT;LETTER IN;LETTER FI;LETTER TSAADIY;LETTER QUF;LETTER RISH;LETTER SHAN",
    "LETTER TAAF;MARK IN;MARK IN-ALAF;MARK OCCLUSION;MARK DAGESH",
    "MODIFIER LETTER EPENTHETIC YUT;MARK EPENTHETIC YUT;VOWEL SIGN LONG E;VOWEL SIGN E",
    "VOWEL SIGN OVERLONG AA;VOWEL SIGN LONG AA;VOWEL SIGN AA;VOWEL SIGN OVERLONG A",
    "VOWEL SIGN LONG A;VOWEL SIGN A;MODIFIER LETTER SHORT A;VOWEL SIGN SHORT A",
    "VOWEL SIGN LONG U;VOWEL SIGN U;MODIFIER LETTER I;VOWEL SIGN LONG I;VOWEL SIGN I",
    "VOWEL SIGN O;VOWEL SIGN SUKUN;MARK NEQUDAA"]),
  (0x830, "SAMARITAN ", [
    "PUNCTUATION NEQUDAA;PUNCTUATION AFSAAQ;PUNCTUATION ANGED;PUNCTUATION BAU",
    "PUNCTUATION ATMAAU;PUNCTUATION SHIYYAALAA;ABBREVIATION MARK;PUNCTUATION MELODIC QITSA",
    "PUNCTUATION ZIQAA;PUNCTUATION QITSA;PUNCTUATION ZAEF;PUNCTUATION TURU",
    "PUNCTUATION ARKAANU;PUNCTUATION SOF MASHFAAT;PUNCTUATION ANNAAU"]),
  (0x840, "MANDAIC LETTER ", [
    "HALQA;AB;AG;AD;AH;USHENNA;AZ;IT;ATT;AKSA;AK;AL;AM;AN;AS;IN;AP;ASZ;AQ;AR;ASH;AT;DUSHENNA",
    "KAD;AIN"]),
  (0x859, "MANDAIC ", ["AFFRICATION MARK;VOCALIZATION MARK;GEMINATION MARK"]),
  (0x85e, "", ["MANDAIC PUNCTUATION"]),
  (0x860, "SYRIAC LETTER MALAYALAM ", ["NGA;JA;NYA;TTA;NNA;NNNA;BHA;RA;LLA;LLLA;SSA"]),
  (0x870, "ARABIC LETTER ALEF WITH ", [
    "ATTACHED FATHA;ATTACHED TOP RIGHT FATHA;RIGHT MIDDLE STROKE;LEFT MIDDLE STROKE",
    "ATTACHED KASRA;ATTACHED BOTTOM RIGHT KASRA;ATTACHED ROUND DOT ABOVE",
    "ATTACHED RIGHT ROUND DOT;ATTACHED LEFT ROUND DOT;ATTACHED ROUND DOT BELOW;DOT ABOVE",
    "ATTACHED TOP RIGHT FATHA AND DOT ABOVE;RIGHT MIDDLE STROKE AND DOT ABOVE",
    "ATTACHED BOTTOM RIGHT KASRA AND DOT ABOVE;ATTACHED TOP RIGHT FATHA AND LEFT RING",
    "RIGHT MIDDLE STROKE AND LEFT RING;ATTACHED BOTTOM RIGHT KASRA AND LEFT RING",
    "ATTACHED RIGHT HAMZA;ATTACHED LEFT HAMZA"]),
  (0x883, "ARABIC ", [
    "TATWEEL WITH OVERSTRUCK HAMZA;TATWEEL WITH OVERSTRUCK WAW;TATWEEL WITH TWO DOTS BELOW",
    "LETTER THIN YEH;BASELINE ROUND DOT;RAISED ROUND DOT;LETTER NOON WITH INVERTED SMALL V",
    "LETTER HAH WITH INVERTED SMALL V BELOW;LETTER TAH WITH DOT BELOW",
    "LETTER TAH WITH THREE DOTS BELOW;LETTER KEHEH WITH TWO DOTS VERTICALLY BELOW",
    "VERTICAL TAIL"]),
  (0x890, "", ["ARABIC POUND MARK ABOVE;ARABIC PIASTRE MARK ABOVE"]),
  (0x898, "ARABIC ", [
    "SMALL HIGH WORD AL-JUZ;SMALL LOW WORD ISHMAAM;SMALL LOW WORD IMAALA",
    "SMALL LOW WORD TASHEEL;MADDA WAAJIB;SUPERSCRIPT ALEF MOKHASSAS;DOUBLED MADDA",
    "HALF MADDA OVER MADDA;LETTER BEH WITH SMALL V BELOW;LETTER BEH WITH HAMZA ABOVE",
    "LETTER JEEM WITH TWO DOTS ABOVE;LETTER TAH WITH TWO DOTS ABOVE",
    "LETTER FEH WITH DOT BELOW AND THREE DOTS ABOVE;LETTER QAF WITH DOT BELOW",
    "LETTER LAM WITH DOUBLE BAR;LETTER MEEM WITH THREE DOTS ABOVE",
    "LETTER YEH WITH TWO DOTS BELOW AND HAMZA ABOVE",
    "LETTER YEH WITH TWO DOTS BELOW AND DOT ABOVE;LETTER REH WITH LOOP",
    "LETTER WAW WITH DOT WITHIN;LETTER ROHINGYA YEH;LETTER LOW ALEF",
    "LETTER DAL WITH THREE DOTS BELOW;LETTER SAD WITH THREE DOTS BELOW",
    "LETTER GAF WITH INVERTED STROKE;LETTER STRAIGHT WAW;LETTER ZAIN WITH INVERTED V ABOVE",
    "LETTER AIN WITH THREE DOTS BELOW;LETTER KAF WITH DOT BELOW",
    "LETTER QAF WITH DOT BELOW AND NO DOTS ABOVE;LETTER BEH WITH SMALL MEEM ABOVE",
    "LETTER PEH WITH SMALL MEEM ABOVE;LETTER TEH WITH SMALL TEH ABOVE",
    "LETTER REH WITH SMALL NOON ABOVE;LETTER YEH WITH TWO DOTS BELOW AND SMALL NOON ABOVE",
    "LETTER AFRICAN FEH;LETTER AFRICAN QAF;LETTER AFRICAN NOON;LETTER PEH WITH SMALL V",
    "LETTER TEH WITH SMALL V;LETTER TTEH WITH SMALL V;LETTER TCHEH WITH SMALL V",
    "LETTER KEHEH WITH SMALL V;LETTER GHAIN WITH THREE DOTS ABOVE",
    "LETTER AFRICAN QAF WITH THREE DOTS ABOVE;LETTER JEEM WITH THREE DOTS ABOVE",
    "LETTER JEEM WITH THREE DOTS BELOW;LETTER LAM WITH SMALL ARABIC LETTER TAH ABOVE",
    "LETTER GRAF;SMALL FARSI YEH;SMALL HIGH FARSI YEH",
    "SMALL HIGH YEH BARREE WITH TWO DOTS BELOW;SMALL HIGH WORD SAH;SMALL HIGH ZAH",
    "LARGE ROUND DOT ABOVE;LARGE ROUND DOT BELOW;SUKUN BELOW;LARGE CIRCLE BELOW",
    "LARGE ROUND DOT INSIDE CIRCLE BELOW;SMALL LOW WAW;SMALL HIGH WORD AR-RUB;SMALL HIGH SAD",
    "SMALL HIGH AIN;SMALL HIGH QAF;SMALL HIGH NOON WITH KASRA;SMALL LOW NOON WITH KASRA",
    "SMALL HIGH WORD ATH-THALATHA;SMALL HIGH WORD AS-SAJDA;SMALL HIGH WORD AN-NISF",
    "SMALL HIGH WORD SAKTA;SMALL HIGH WORD QIF;SMALL HIGH WORD WAQFA",
    "SMALL HIGH FOOTNOTE MARKER;SMALL HIGH SIGN SAFHA;DISPUTED END OF AYAH;TURNED DAMMA BELOW",
    "CURLY FATHA;CURLY DAMMA;CURLY KASRA;CURLY FATHATAN;CURLY DAMMATAN;CURLY KASRATAN",
    "TONE ONE DOT ABOVE;TONE TWO DOTS ABOVE;TONE LOOP ABOVE;TONE ONE DOT BELOW",
    "TONE TWO DOTS BELOW;TONE LOOP BELOW;OPEN FATHATAN;OPEN DAMMATAN;OPEN KASRATAN",
    "SMALL HIGH WAW;FATHA WITH RING;FATHA WITH DOT ABOVE;KASRA WITH DOT BELOW",
    "LEFT ARROWHEAD ABOVE;RIGHT ARROWHEAD ABOVE;LEFT ARROWHEAD BELOW;RIGHT ARROWHEAD BELOW",
    "DOUBLE RIGHT ARROWHEAD ABOVE;DOUBLE RIGHT ARROWHEAD ABOVE WITH DOT",
    "RIGHT ARROWHEAD ABOVE WITH DOT;DAMMA WITH DOT;MARK SIDEWAYS NOON GHUNNA"]),
  (0x900, "DEVANAGARI ", [
    "SIGN INVERTED CANDRABINDU;SIGN CANDRABINDU;SIGN ANUSVARA;SIGN VISARGA;LETTER SHORT A",
    "LETTER A;LETTER AA;LETTER I;LETTER II;LETTER U;LETTER UU;LETTER VOCALIC R",
    "LETTER VOCALIC L;LETTER CANDRA E;LETTER SHORT E;LETTER E;LETTER AI;LETTER CANDRA O",
    "LETTER SHORT O;LETTER O;LETTER AU;LETTER KA;LETTER KHA;LETTER GA;LETTER GHA;LETTER NGA",
    "LETTER CA;LETTER CHA;LETTER JA;LETTER JHA;LETTER NYA;LETTER TTA;LETTER TTHA;LETTER DDA",
    "LETTER DDHA;LETTER NNA;LETTER TA;LETTER THA;LETTER DA;LETTER DHA;LETTER NA;LETTER NNNA",
    "LETTER PA;LETTER PHA;LETTER BA;LETTER BHA;LETTER MA;LETTER YA;LETTER RA;LETTER RRA",
    "LETTER LA;LETTER LLA;LETTER LLLA;LETTER VA;LETTER SHA;LETTER SSA;LETTER SA;LETTER HA",
    "VOWEL SIGN OE;VOWEL SIGN OOE;SIGN NUKTA;SIGN AVAGRAHA;VOWEL SIGN AA;VOWEL SIGN I",
    "VOWEL SIGN II;VOWEL SIGN U;VOWEL SIGN UU;VOWEL SIGN VOCALIC R;VOWEL SIGN VOCALIC RR",
    "VOWEL SIGN CANDRA E;VOWEL SIGN SHORT E;VOWEL SIGN E;VOWEL SIGN AI;VOWEL SIGN CANDRA O",
    "VOWEL SIGN SHORT O;VOWEL SIGN O;VOWEL SIGN AU;SIGN VIRAMA;VOWEL SIGN PRISHTHAMATRA E",
    "VOWEL SIGN AW;OM;STRESS SIGN UDATTA;STRESS SIGN ANUDATTA;GRAVE ACCENT;ACUTE ACCENT",
    "VOWEL SIGN CANDRA LONG E;VOWEL SIGN UE;VOWEL SIGN UUE;LETTER QA;LETTER KHHA;LETTER GHHA",
    "LETTER ZA;LETTER DDDHA;LETTER RHA;LETTER FA;LETTER YYA;LETTER VOCALIC RR",
    "LETTER VOCALIC LL;VOWEL SIGN VOCALIC L;VOWEL SIGN VOCALIC LL;DANDA;DOUBLE DANDA",
    "DIGIT ZERO;DIGIT ONE;DIGIT TWO;DIGIT THREE;DIGIT FOUR;DIGIT FIVE;DIGIT SIX;DIGIT SEVEN",
    "DIGIT EIGHT;DIGIT NINE;ABBREVIATION SIGN;SIGN HIGH SPACING DOT;LETTER CANDRA A;LETTER OE",
    "LETTER OOE;LETTER AW;LETTER UE;LETTER UUE;LETTER MARWARI DDA;LETTER ZHA;LETTER HEAVY YA",
    "LETTER GGA;LETTER JJA;LETTER GLOTTAL STOP;LETTER DDDA;LETTER BBA"]),
  (0x980, "BENGALI ", ["ANJI;SIGN CANDRABINDU;SIGN ANUSVARA;SIGN VISARGA"]),
  (0x985, "BENGALI LETTER ", ["A;AA;I;II;U;UU;VOCALIC R;VOCALIC L"]),
  (0x98f, "BENGALI LETTER ", ["E;AI"]),
  (0x993, "BENGALI LETTER ", [
    "O;AU;KA;KHA;GA;GHA;NGA;CA;CHA;JA;JHA;NYA;TTA;TTHA;DDA;DDHA;NNA;TA;THA;DA;DHA;NA"]),
  (0x9aa, "BENGALI LETTER ", ["PA;PHA;BA;BHA;MA;YA;RA"]), (0x9b2, "", ["BENGALI LETTER LA"]),
  (0x9b6, "BENGALI LETTER ", ["SHA;SSA;SA;HA"]),
  (0x9bc, "BENGALI ", [
    "SIGN NUKTA;SIGN AVAGRAHA;VOWEL SIGN AA;VOWEL SIGN I;VOWEL SIGN II;VOWEL SIGN U",
    "VOWEL SIGN UU;VOWEL SIGN VOCALIC R;VOWEL SIGN VOCALIC RR"]),
  (0x9c7, "BENGALI VOWEL SIGN ", ["E;AI"]),
  (0x9cb, "BENGALI ", ["VOWEL SIGN O;VOWEL SIGN AU;SIGN VIRAMA;LETTER KHANDA TA"]),
  (0x9d7, "", ["BENGALI AU LENGTH MARK"]), (0x9dc, "BENGALI LETTER ", ["RRA;RHA"]),
  (0x9df, "BENGALI ", [
    "LETTER YYA;LETTER VOCALIC RR;LETTER VOCALIC LL;VOWEL SIGN VOCALIC L",
    "VOWEL SIGN VOCALIC LL"]),
  (0x9e6, "BENGALI ", [
    "DIGIT ZERO;DIGIT ONE;DIGIT TWO;DIGIT THREE;DIGIT FOUR;DIGIT FIVE;DIGIT SIX;DIGIT SEVEN",
    "DIGIT EIGHT;DIGIT NINE;LETTER RA WITH MIDDLE DIAGONAL;LETTER RA WITH LOWER DIAGONAL",
    "RUPEE MARK;RUPEE SIGN;CURRENCY NUMERATOR ONE;CURRENCY NUMERATOR TWO",
    "CURRENCY NUMERATOR THREE;CURRENCY NUMERATOR FOUR",
    "CURRENCY NUMERATOR ONE LESS THAN THE DENOMINATOR;CURRENCY DENOMINATOR SIXTEEN;ISSHAR",
    "GANDA MARK;LETTER VEDIC ANUSVARA;ABBREVIATION SIGN;SANDHI MARK"]),
  (0xa01, "GURMUKHI SIGN ", ["ADAK BINDI;BINDI;VISARGA"]),
  (0xa05, "GURMUKHI LETTER ", ["A;AA;I;II;U;UU"]), (0xa0f, "GURMUKHI LETTER ", ["EE;AI"]),
  (0xa13, "GURMUKHI LETTER ", [
    "OO;AU;KA;KHA;GA;GHA;NGA;CA;CHA;JA;JHA;NYA;TTA;TTHA;DDA;DDHA;NNA;TA;THA;DA;DHA;NA"]),
  (0xa2a, "GURMUKHI LETTER ", ["PA;PHA;BA;BHA;MA;YA;RA"]), (0xa32, "GURMUKHI LETTER ", ["LA;LLA"]),
  (0xa35, "GURMUKHI LETTER ", ["VA;SHA"]), (0xa38, "GURMUKHI LETTER ", ["SA;HA"]),
  (0xa3c, "", ["GURMUKHI SIGN NUKTA"]), (0xa3e, "GURMUKHI VOWEL SIGN ", ["AA;I;II;U;UU"]),
  (0xa47, "GURMUKHI VOWEL SIGN ", ["EE;AI"]), (0xa4b, "GURMUKHI VOWEL SIGN ", ["OO;AU"]),
  (0xa4d, "", ["GURMUKHI SIGN VIRAMA"]), (0xa51, "", ["GURMUKHI SIGN UDAAT"]),
  (0xa59, "GURMUKHI LETTER ", ["KHHA;GHHA;ZA;RRA"]), (0xa5e, "", ["GURMUKHI LETTER FA"]),
  (0xa66, "GURMUKHI ", [
    "DIGIT ZERO;DIGIT ONE;DIGIT TWO;DIGIT THREE;DIGIT FOUR;DIGIT FIVE;DIGIT SIX;DIGIT SEVEN",
    "DIGIT EIGHT;DIGIT NINE;TIPPI;ADDAK;IRI;URA;EK ONKAR;SIGN YAKASH;ABBREVIATION SIGN"]),
  (0xa81, "GUJARATI SIGN ", ["CANDRABINDU;ANUSVARA;VISARGA"]),
  (0xa85, "GUJARATI LETTER ", ["A;AA;I;II;U;UU;VOCALIC R;VOCALIC L"]),
  (0xa8d, "", ["GUJARATI VOWEL CANDRA E"]),
  (0xa8f, "GUJARATI ", ["LETTER E;LETTER AI;VOWEL CANDRA O"]),
  (0xa93, "GUJARATI LETTER ", [
    "O;AU;KA;KHA;GA;GHA;NGA;CA;CHA;JA;JHA;NYA;TTA;TTHA;DDA;DDHA;NNA;TA;THA;DA;DHA;NA"]),
  (0xaaa, "GUJARATI LETTER ", ["PA;PHA;BA;BHA;MA;YA;RA"]), (0xab2, "GUJARATI LETTER ", ["LA;LLA"]),
  (0xab5, "GUJARATI LETTER ", ["VA;SHA;SSA;SA;HA"]),
  (0xabc, "GUJARATI ", [
    "SIGN NUKTA;SIGN AVAGRAHA;VOWEL SIGN AA;VOWEL SIGN I;VOWEL SIGN II;VOWEL SIGN U",
    "VOWEL SIGN UU;VOWEL SIGN VOCALIC R;VOWEL SIGN VOCALIC RR;VOWEL SIGN CANDRA E"]),
  (0xac7, "GUJARATI VOWEL SIGN ", ["E;AI;CANDRA O"]), (0xacb, "GUJARATI VOWEL SIGN ", ["O;AU"]),
  (0xacd, "", ["GUJARATI SIGN VIRAMA"]), (0xad0, "", ["GUJARATI OM"]),
  (0xae0, "GUJARATI ", [
    "LETTER VOCALIC RR;LETTER VOCALIC LL;VOWEL SIGN VOCALIC L;VOWEL SIGN VOCALIC LL"]),
  (0xae6, "GUJARATI DIGIT ", ["ZERO;ONE;TWO;THREE;FOUR;FIVE;SIX;SEVEN;EIGHT;NINE"]),
  (0xaf0, "", ["GUJARATI ABBREVIATION SIGN;GUJARATI RUPEE SIGN"]),
  (0xaf9, "GUJARATI ", [
    "LETTER ZHA;SIGN SUKUN;SIGN SHADDA;SIGN MADDAH;SIGN THREE-DOT NUKTA ABOVE",
    "SIGN CIRCLE NUKTA ABOVE;SIGN TWO-CIRCLE NUKTA ABOVE"]),
  (0xb01, "ORIYA SIGN ", ["CANDRABINDU;ANUSVARA;VISARGA"]),
  (0xb05, "ORIYA LETTER ", ["A;AA;I;II;U;UU;VOCALIC R;VOCALIC L"]),
  (0xb0f, "ORIYA LETTER ", ["E;AI"]),
  (0xb13, "ORIYA LETTER ", [
    "O;AU;KA;KHA;GA;GHA;NGA;CA;CHA;JA;JHA;NYA;TTA;TTHA;DDA;DDHA;NNA;TA;THA;DA;DHA;NA"]),
  (0xb2a, "ORIYA LETTER ", ["PA;PHA;BA;BHA;MA;YA;RA"]), (0xb32, "ORIYA LETTER ", ["LA;LLA"]),
  (0xb35, "ORIYA LETTER ", ["VA;SHA;SSA;SA;HA"]),
  (0xb3c, "ORIYA ", [
    "SIGN NUKTA;SIGN AVAGRAHA;VOWEL SIGN AA;VOWEL SIGN I;VOWEL SIGN II;VOWEL SIGN U",
    "VOWEL SIGN UU;VOWEL SIGN VOCALIC R;VOWEL SIGN VOCALIC RR"]),
  (0xb47, "ORIYA VOWEL SIGN ", ["E;AI"]), (0xb4b, "ORIYA VOWEL SIGN ", ["O;AU"]),
  (0xb4d, "", ["ORIYA SIGN VIRAMA"]),
  (0xb55, "ORIYA ", ["SIGN OVERLINE;AI LENGTH MARK;AU LENGTH MARK"]),
  (0xb5c, "ORIYA LETTER ", ["RRA;RHA"]), (0xb5f, "ORIYA LETTER ", ["YYA;VOCALIC RR;VOCALIC LL"]),
  (0xb62, "ORIYA VOWEL SIGN VOCALIC ", ["L;LL"]),
  (0xb66, "ORIYA DIGIT ", ["ZERO;ONE;TWO;THREE;FOUR;FIVE;SIX;SEVEN;EIGHT;NINE"]),
  (0xb70, "ORIYA ", [
    "ISSHAR;LETTER WA;FRACTION ONE QUARTER;FRACTION ONE HALF;FRACTION THREE QUARTERS",
    "FRACTION ONE SIXTEENTH;FRACTION ONE EIGHTH;FRACTION THREE SIXTEENTHS"]),
  (0xb82, "", ["TAMIL SIGN ANUSVARA;TAMIL SIGN VISARGA"]),
  (0xb85, "TAMIL LETTER ", ["A;AA;I;II;U;UU"]), (0xb8e, "TAMIL LETTER ", ["E;EE;AI"]),
  (0xb92, "TAMIL LETTER ", ["O;OO;AU;KA"]), (0xb99, "TAMIL LETTER ", ["NGA;CA"]),
  (0xb9c, "", ["TAMIL LETTER JA"]), (0xb9e, "TAMIL LETTER ", ["NYA;TTA"]),
  (0xba3, "TAMIL LETTER ", ["NNA;TA"]), (0xba8, "TAMIL LETTER ", ["NA;NNNA;PA"]),
  (0xbae, "TAMIL LETTER ", ["MA;YA;RA;RRA;LA;LLA;LLLA;VA;SHA;SSA;SA;HA"]),
  (0xbbe, "TAMIL VOWEL SIGN ", ["AA;I;II;U;UU"]), (0xbc6, "TAMIL VOWEL SIGN ", ["E;EE;AI"]),
  (0xbca, "TAMIL VOWEL SIGN ", ["O;OO;AU"]), (0xbcd, "", ["TAMIL SIGN VIRAMA"]),
  (0xbd0, "", ["TAMIL OM"]), (0xbd7, "", ["TAMIL AU LENGTH MARK"]),
  (0xbe6, "TAMIL ", [
    "DIGIT ZERO;DIGIT ONE;DIGIT TWO;DIGIT THREE;DIGIT FOUR;DIGIT FIVE;DIGIT SIX;DIGIT SEVEN",
    "DIGIT EIGHT;DIGIT NINE;NUMBER TEN;NUMBER ONE HUNDRED;NUMBER ONE THOUSAND;DAY SIGN",
    "MONTH SIGN;YEAR SIGN;DEBIT SIGN;CREDIT SIGN;AS ABOVE SIGN;RUPEE SIGN;NUMBER SIGN"]),
  (0xc00, "TELUGU ", [
    "SIGN COMBINING CANDRABINDU ABOVE;SIGN CANDRABINDU;SIGN ANUSVARA;SIGN VISARGA",
    "SIGN COMBINING ANUSVARA ABOVE;LETTER A;LETTER AA;LETTER I;LETTER II;LETTER U;LETTER UU",
    "LETTER VOCALIC R;LETTER VOCALIC L"]),
  (0xc0e, "TELUGU LETTER ", ["E;EE;AI"]),
  (0xc12, "TELUGU LETTER ", [
    "O;OO;AU;KA;KHA;GA;GHA;NGA;CA;CHA;JA;JHA;NYA;TTA;TTHA;DDA;DDHA;NNA;TA;THA;DA;DHA;NA"]),
  (0xc2a, "TELUGU LETTER ", ["PA;PHA;BA;BHA;MA;YA;RA;RRA;LA;LLA;LLLA;VA;SHA;SSA;SA;HA"]),
  (0xc3c, "TELUGU ", [
    "SIGN NUKTA;SIGN AVAGRAHA;VOWEL SIGN AA;VOWEL SIGN I;VOWEL SIGN II;VOWEL SIGN U",
    "VOWEL SIGN UU;VOWEL SIGN VOCALIC R;VOWEL SIGN VOCALIC RR"]),
  (0xc46, "TELUGU VOWEL SIGN ", ["E;EE;AI"]), (0xc4a, "TELUGU VOWEL SIGN ", ["O;OO;AU"]),
  (0xc4d, "", ["TELUGU SIGN VIRAMA"]), (0xc55, "", ["TELUGU LENGTH MARK;TELUGU AI LENGTH MARK"]),
  (0xc58, "TELUGU LETTER ", ["TSA;DZA;RRRA"]), (0xc5d, "", ["TELUGU LETTER NAKAARA POLLU"]),
  (0xc60, "TELUGU LETTER VOCALIC ", ["RR;LL"]), (0xc62, "TELUGU VOWEL SIGN VOCALIC ", ["L;LL"]),
  (0xc66, "TELUGU DIGIT ", ["ZERO;ONE;TWO;THREE;FOUR;FIVE;SIX;SEVEN;EIGHT;NINE"]),
  (0xc77, "TELUGU ", [
    "SIGN SIDDHAM;FRACTION DIGIT ZERO FOR ODD POWERS OF FOUR",
    "FRACTION DIGIT ONE FOR ODD POWERS OF FOUR;FRACTION DIGIT TWO FOR ODD POWERS OF FOUR",
    "FRACTION DIGIT THREE FOR ODD POWERS OF FOUR;FRACTION DIGIT ONE FOR EVEN POWERS OF FOUR",
    "FRACTION DIGIT TWO FOR EVEN POWERS OF FOUR;FRACTION DIGIT THREE FOR EVEN POWERS OF FOUR",
    "SIGN TUUMU"]),
  (0xc80, "KANNADA ", [
    "SIGN SPACING CANDRABINDU;SIGN CANDRABINDU;SIGN ANUSVARA;SIGN VISARGA;SIGN SIDDHAM",
    "LETTER A;LETTER AA;LETTER I;LETTER II;LETTER U;LETTER UU;LETTER VOCALIC R",
    "LETTER VOCALIC L"]),
  (0xc8e, "KANNADA LETTER ", ["E;EE;AI"]),
  (0xc92, "KANNADA LETTER ", [
    "O;OO;AU;KA;KHA;GA;GHA;NGA;CA;CHA;JA;JHA;NYA;TTA;TTHA;DDA;DDHA;NNA;TA;THA;DA;DHA;NA"]),
  (0xcaa, "KANNADA LETTER ", ["PA;PHA;BA;BHA;MA;YA;RA;RRA;LA;LLA"]),
  (0xcb5, "KANNADA LETTER ", ["VA;SHA;SSA;SA;HA"]),
  (0xcbc, "KANNADA ", [
    "SIGN NUKTA;SIGN AVAGRAHA;VOWEL SIGN AA;VOWEL SIGN I;VOWEL SIGN II;VOWEL SIGN U",
    "VOWEL SIGN UU;VOWEL SIGN VOCALIC R;VOWEL SIGN VOCALIC RR"]),
  (0xcc6, "KANNADA VOWEL SIGN ", ["E;EE;AI"]), (0xcca, "KANNADA VOWEL SIGN ", ["O;OO;AU"]),
  (0xccd, "", ["KANNADA SIGN VIRAMA"]),
  (0xcd5, "", ["KANNADA LENGTH MARK;KANNADA AI LENGTH MARK"]),
  (0xcdd, "KANNADA LETTER ", ["NAKAARA POLLU;FA"]),
  (0xce0, "KANNADA ", [
    "LETTER VOCALIC RR;LETTER VOCALIC LL;VOWEL SIGN VOCALIC L;VOWEL SIGN VOCALIC LL"]),
  (0xce6, "KANNADA DIGIT ", ["ZERO;ONE;TWO;THREE;FOUR;FIVE;SIX;SEVEN;EIGHT;NINE"]),
  (0xcf1, "KANNADA SIGN ", ["JIHVAMULIYA;UPADHMANIYA"]),
  (0xd00, "MALAYALAM ", [
    "SIGN COMBINING ANUSVARA ABOVE;SIGN CANDRABINDU;SIGN ANUSVARA;SIGN VISARGA",
    "LETTER VEDIC ANUSVARA;LETTER A;LETTER AA;LETTER I;LETTER II;LETTER U;LETTER UU",
    "LETTER VOCALIC R;LETTER VOCALIC L"]),
  (0xd0e, "MALAYALAM LETTER ", ["E;EE;AI"]),
  (0xd12, "MALAYALAM LETTER ", [
    "O;OO;AU;KA;KHA;GA;GHA;NGA;CA;CHA;JA;JHA;NYA;TTA;TTHA;DDA;DDHA;NNA;TA;THA;DA;DHA;NA;NNNA",
    "PA;PHA;BA;BHA;MA;YA;RA;RRA;LA;LLA;LLLA;VA;SHA;SSA;SA;HA;TTTA"]),
  (0xd3b, "MALAYALAM ", [
    "SIGN VERTICAL BAR VIRAMA;SIGN CIRCULAR VIRAMA;SIGN AVAGRAHA;VOWEL SIGN AA;VOWEL SIGN I",
    "VOWEL SIGN II;VOWEL SIGN U;VOWEL SIGN UU;VOWEL SIGN VOCALIC R;VOWEL SIGN VOCALIC RR"]),
  (0xd46, "MALAYALAM VOWEL SIGN ", ["E;EE;AI"]),
  (0xd4a, "MALAYALAM ", [
    "VOWEL SIGN O;VOWEL SIGN OO;VOWEL SIGN AU;SIGN VIRAMA;LETTER DOT REPH;SIGN PARA"]),
  (0xd54, "MALAYALAM ", [
    "LETTER CHILLU M;LETTER CHILLU Y;LETTER CHILLU LLL;AU LENGTH MARK",
    "FRACTION ONE ONE-HUNDRED-AND-SIXTIETH;FRACTION ONE FORTIETH;FRACTION THREE EIGHTIETHS",
    "FRACTION ONE TWENTIETH;FRACTION ONE TENTH;FRACTION THREE TWENTIETHS;FRACTION ONE FIFTH",
    "LETTER ARCHAIC II;LETTER VOCALIC RR;LETTER VOCALIC LL;VOWEL SIGN VOCALIC L",
    "VOWEL SIGN VOCALIC LL"]),
  (0xd66, "MALAYALAM ", [
    "DIGIT ZERO;DIGIT ONE;DIGIT TWO;DIGIT THREE;DIGIT FOUR;DIGIT FIVE;DIGIT SIX;DIGIT SEVEN",
    "DIGIT EIGHT;DIGIT NINE;NUMBER TEN;NUMBER ONE HUNDRED;NUMBER ONE THOUSAND",
    "FRACTION ONE QUARTER;FRACTION ONE HALF;FRACTION THREE QUARTERS;FRACTION ONE SIXTEENTH",
    "FRACTION ONE EIGHTH;FRACTION THREE SIXTEENTHS;DATE MARK;LETTER CHILLU NN;LETTER CHILLU N",
    "LETTER CHILLU RR;LETTER CHILLU L;LETTER CHILLU LL;LETTER CHILLU K"]),
  (0xd81, "SINHALA SIGN ", ["CANDRABINDU;ANUSVARAYA;VISARGAYA"]),
  (0xd85, "SINHALA LETTER ", [
    "AYANNA;AAYANNA;AEYANNA;AEEYANNA;IYANNA;IIYANNA;UYANNA;UUYANNA;IRUYANNA;IRUUYANNA",
    "ILUYANNA;ILUUYANNA;EYANNA;EEYANNA;AIYANNA;OYANNA;OOYANNA;AUYANNA"]),
  (0xd9a, "SINHALA LETTER ", [
    "ALPAPRAANA KAYANNA;MAHAAPRAANA KAYANNA;ALPAPRAANA GAYANNA;MAHAAPRAANA GAYANNA",
    "KANTAJA NAASIKYAYA;SANYAKA GAYANNA;ALPAPRAANA CAYANNA;MAHAAPRAANA CAYANNA",
    "ALPAPRAANA JAYANNA;MAHAAPRAANA JAYANNA;TAALUJA NAASIKYAYA;TAALUJA SANYOOGA NAAKSIKYAYA",
    "SANYAKA JAYANNA;ALPAPRAANA TTAYANNA;MAHAAPRAANA TTAYANNA;ALPAPRAANA DDAYANNA",
    "MAHAAPRAANA DDAYANNA;MUURDHAJA NAYANNA;SANYAKA DDAYANNA;ALPAPRAANA TAYANNA",
    "MAHAAPRAANA TAYANNA;ALPAPRAANA DAYANNA;MAHAAPRAANA DAYANNA;DANTAJA NAYANNA"]),
  (0xdb3, "SINHALA LETTER ", [
    "SANYAKA DAYANNA;ALPAPRAANA PAYANNA;MAHAAPRAANA PAYANNA;ALPAPRAANA BAYANNA",
    "MAHAAPRAANA BAYANNA;MAYANNA;AMBA BAYANNA;YAYANNA;RAYANNA"]),
  (0xdbd, "", ["SINHALA LETTER DANTAJA LAYANNA"]),
  (0xdc0, "SINHALA LETTER ", [
    "VAYANNA;TAALUJA SAYANNA;MUURDHAJA SAYANNA;DANTAJA SAYANNA;HAYANNA;MUURDHAJA LAYANNA",
    "FAYANNA"]),
  (0xdca, "", ["SINHALA SIGN AL-LAKUNA"]),
  (0xdcf, "SINHALA VOWEL SIGN ", [
    "AELA-PILLA;KETTI AEDA-PILLA;DIGA AEDA-PILLA;KETTI IS-PILLA;DIGA IS-PILLA;KETTI PAA-PILLA"]),
  (0xdd6, "", ["SINHALA VOWEL SIGN DIGA PAA-PILLA"]),
  (0xdd8, "SINHALA VOWEL SIGN ", [
    "GAETTA-PILLA;KOMBUVA;DIGA KOMBUVA;KOMBU DEKA;KOMBUVA HAA AELA-PILLA",
    "KOMBUVA HAA DIGA AELA-PILLA;KOMBUVA HAA GAYANUKITTA;GAYANUKITTA"]),
  (0xde6, "SINHALA LITH DIGIT ", ["ZERO;ONE;TWO;THREE;FOUR;FIVE;SIX;SEVEN;EIGHT;NINE"]),
  (0xdf2, "SINHALA VOWEL SIGN DIGA ", ["GAETTA-PILLA;GAYANUKITTA"]),
  (0xdf4, "", ["SINHALA PUNCTUATION KUNDDALIYA"]),
  (0xe01, "THAI CHARACTER ", [
    "KO KAI;KHO KHAI;KHO KHUAT;KHO KHWAI;KHO KHON;KHO RAKHANG;NGO NGU;CHO CHAN;CHO CHING",
    "CHO CHANG;SO SO;CHO CHOE;YO YING;DO CHADA;TO PATAK;THO THAN;THO NANGMONTHO;THO PHUTHAO",
    "NO NEN;DO DEK;TO TAO;THO THUNG;THO THAHAN;THO THONG;NO NU;BO BAIMAI;PO PLA;PHO PHUNG",
    "FO FA;PHO PHAN;FO FAN;PHO SAMPHAO;MO MA;YO YAK;RO RUA;RU;LO LING;LU;WO WAEN;SO SALA",
    "SO RUSI;SO SUA;HO HIP;LO CHULA;O ANG;HO NOKHUK;PAIYANNOI;SARA A;MAI HAN-AKAT;SARA AA",
    "SARA AM;SARA I;SARA II;SARA UE;SARA UEE;SARA U;SARA UU;PHINTHU"]),
  (0xe3f, "THAI ", [
    "CURRENCY SYMBOL BAHT;CHARACTER SARA E;CHARACTER SARA AE;CHARACTER SARA O",
    "CHARACTER SARA AI MAIMUAN;CHARACTER SARA AI MAIMALAI;CHARACTER LAKKHANGYAO",
    "CHARACTER MAIYAMOK;CHARACTER MAITAIKHU;CHARACTER MAI EK;CHARACTER MAI THO",
    "CHARACTER MAI TRI;CHARACTER MAI CHATTAWA;CHARACTER THANTHAKHAT;CHARACTER NIKHAHIT",
    "CHARACTER YAMAKKAN;CHARACTER FONGMAN;DIGIT ZERO;DIGIT ONE;DIGIT TWO;DIGIT THREE",
    "DIGIT FOUR;DIGIT FIVE;DIGIT SIX;DIGIT SEVEN;DIGIT EIGHT;DIGIT NINE;CHARACTER ANGKHANKHU",
    "CHARACTER KHOMUT"]),
  (0xe81, "", ["LAO LETTER KO;LAO LETTER KHO SUNG"]), (0xe84, "", ["LAO LETTER KHO TAM"]),
  (0xe86, "LAO LETTER ", ["PALI GHA;NGO;CO;PALI CHA;SO TAM"]),
  (0xe8c, "LAO LETTER ", [
    "PALI JHA;NYO;PALI NYA;PALI TTA;PALI TTHA;PALI DDA;PALI DDHA;PALI NNA;DO;TO;THO SUNG",
    "THO TAM;PALI DHA;NO;BO;PO;PHO SUNG;FO TAM;PHO TAM;FO SUNG;PALI BHA;MO;YO;LO LING"]),
  (0xea5, "", ["LAO LETTER LO LOOT"]),
  (0xea7, "LAO ", [
    "LETTER WO;LETTER SANSKRIT SHA;LETTER SANSKRIT SSA;LETTER SO SUNG;LETTER HO SUNG",
    "LETTER PALI LLA;LETTER O;LETTER HO TAM;ELLIPSIS;VOWEL SIGN A;VOWEL SIGN MAI KAN",
    "VOWEL SIGN AA;VOWEL SIGN AM;VOWEL SIGN I;VOWEL SIGN II;VOWEL SIGN Y;VOWEL SIGN YY",
    "VOWEL SIGN U;VOWEL SIGN UU;SIGN PALI VIRAMA;VOWEL SIGN MAI KON;SEMIVOWEL SIGN LO",
    "SEMIVOWEL SIGN NYO"]),
  (0xec0, "LAO VOWEL SIGN ", ["E;EI;O;AY;AI"]), (0xec6, "", ["LAO KO LA"]),
  (0xec8, "LAO TONE MAI ", ["EK;THO;TI;CATAWA"]),
  (0xecc, "", ["LAO CANCELLATION MARK;LAO NIGGAHITA"]),
  (0xed0, "LAO DIGIT ", ["ZERO;ONE;TWO;THREE;FOUR;FIVE;SIX;SEVEN;EIGHT;NINE"]),
  (0xedc, "LAO ", ["HO NO;HO MO;LETTER KHMU GO;LETTER KHMU NYO"]),
  (0xf00, "TIBETAN ", [
    "SYLLABLE OM;MARK GTER YIG MGO TRUNCATED A;MARK GTER YIG MGO -UM RNAM BCAD MA",
    "MARK GTER YIG MGO -UM GTER TSHEG MA;MARK INITIAL YIG MGO MDUN MA",
    "MARK CLOSING YIG MGO SGAB MA;MARK CARET YIG MGO PHUR SHAD MA;MARK YIG MGO TSHEG SHAD MA",
    "MARK SBRUL SHAD;MARK BSKUR YIG MGO;MARK BKA- SHOG YIG MGO;MARK INTERSYLLABIC TSHEG",
    "MARK DELIMITER TSHEG BSTAR;MARK SHAD;MARK NYIS SHAD;MARK TSHEG SHAD;MARK NYIS TSHEG SHAD",
    "MARK RIN CHEN SPUNGS SHAD;MARK RGYA GRAM SHAD;MARK CARET -DZUD RTAGS ME LONG CAN",
    "MARK GTER TSHEG;LOGOTYPE SIGN CHAD RTAGS;LOGOTYPE SIGN LHAG RTAGS",
    "ASTROLOGICAL SIGN SGRA GCAN -CHAR RTAGS;ASTROLOGICAL SIGN -KHYUD PA",
    "ASTROLOGICAL SIGN SDONG TSHUGS;SIGN RDEL DKAR GCIG;SIGN RDEL DKAR GNYIS",
    "SIGN RDEL DKAR GSUM;SIGN RDEL NAG GCIG;SIGN RDEL NAG GNYIS;SIGN RDEL DKAR RDEL NAG",
    "DIGIT ZERO;DIGIT ONE;DIGIT TWO;DIGIT THREE;DIGIT FOUR;DIGIT FIVE;DIGIT SIX;DIGIT SEVEN",
    "DIGIT EIGHT;DIGIT NINE;DIGIT HALF ONE;DIGIT HALF TWO;DIGIT HALF THREE;DIGIT HALF FOUR",
    "DIGIT HALF FIVE;DIGIT HALF SIX;DIGIT HALF SEVEN;DIGIT HALF EIGHT;DIGIT HALF NINE",
    "DIGIT HALF ZERO;MARK BSDUS RTAGS;MARK NGAS BZUNG NYI ZLA",
    "MARK CARET -DZUD RTAGS BZHI MIG CAN;MARK NGAS BZUNG SGOR RTAGS;MARK CHE MGO",
    "MARK TSA -PHRU;MARK GUG RTAGS GYON;MARK GUG RTAGS GYAS;MARK ANG KHANG GYON",
    "MARK ANG KHANG GYAS;SIGN YAR TSHES;SIGN MAR TSHES;LETTER KA;LETTER KHA;LETTER GA",
    "LETTER GHA;LETTER NGA;LETTER CA;LETTER CHA;LETTER JA"]),
  (0xf49, "TIBETAN LETTER ", [
    "NYA;TTA;TTHA;DDA;DDHA;NNA;TA;THA;DA;DHA;NA;PA;PHA;BA;BHA;MA;TSA;TSHA;DZA;DZHA;WA;ZHA;ZA",
    "-A;YA;RA;LA;SHA;SSA;SA;HA;A;KSSA;FIXED-FORM RA;KKA;RRA"]),
  (0xf71, "TIBETAN ", [
    "VOWEL SIGN AA;VOWEL SIGN I;VOWEL SIGN II;VOWEL SIGN U;VOWEL SIGN UU;VOWEL SIGN VOCALIC R",
    "VOWEL SIGN VOCALIC RR;VOWEL SIGN VOCALIC L;VOWEL SIGN VOCALIC LL;VOWEL SIGN E",
    "VOWEL SIGN EE;VOWEL SIGN O;VOWEL SIGN OO;SIGN RJES SU NGA RO;SIGN RNAM BCAD",
    "VOWEL SIGN REVERSED I;VOWEL SIGN REVERSED II;SIGN NYI ZLA NAA DA;SIGN SNA LDAN",
    "MARK HALANTA;MARK PALUTA;SIGN LCI RTAGS;SIGN YANG RTAGS;SIGN LCE TSA CAN;SIGN MCHU CAN",
    "SIGN GRU CAN RGYINGS;SIGN GRU MED RGYINGS;SIGN INVERTED MCHU CAN",
    "SUBJOINED SIGN LCE TSA CAN;SUBJOINED SIGN MCHU CAN;SUBJOINED SIGN INVERTED MCHU CAN",
    "SUBJOINED LETTER KA;SUBJOINED LETTER KHA;SUBJOINED LETTER GA;SUBJOINED LETTER GHA",
    "SUBJOINED LETTER NGA;SUBJOINED LETTER CA;SUBJOINED LETTER CHA;SUBJOINED LETTER JA"]),
  (0xf99, "TIBETAN SUBJOINED LETTER ", [
    "NYA;TTA;TTHA;DDA;DDHA;NNA;TA;THA;DA;DHA;NA;PA;PHA;BA;BHA;MA;TSA;TSHA;DZA;DZHA;WA;ZHA;ZA",
    "-A;YA;RA;LA;SHA;SSA;SA;HA;A;KSSA;FIXED-FORM WA;FIXED-FORM YA;FIXED-FORM RA"]),
  (0xfbe, "TIBETAN ", [
    "KU RU KHA;KU RU KHA BZHI MIG CAN;CANTILLATION SIGN HEAVY BEAT",
    "CANTILLATION SIGN LIGHT BEAT;CANTILLATION SIGN CANG TE-U;CANTILLATION SIGN SBUB -CHAL",
    "SYMBOL DRIL BU;SYMBOL RDO RJE;SYMBOL PADMA GDAN;SYMBOL RDO RJE RGYA GRAM;SYMBOL PHUR PA",
    "SYMBOL NOR BU;SYMBOL NOR BU NYIS -KHYIL;SYMBOL NOR BU GSUM -KHYIL",
    "SYMBOL NOR BU BZHI -KHYIL"]),
  (0xfce, "TIBETAN ", [
    "SIGN RDEL NAG RDEL DKAR;SIGN RDEL NAG GSUM;MARK BSKA- SHOG GI MGO RGYAN",
    "MARK MNYAM YIG GI MGO RGYAN;MARK NYIS TSHEG;MARK INITIAL BRDA RNYING YIG MGO MDUN MA",
    "MARK CLOSING BRDA RNYING YIG MGO SGAB MA"]),
  (0xfd5, "", [
    "RIGHT-FACING SVASTI SIGN;LEFT-FACING SVASTI SIGN;RIGHT-FACING SVASTI SIGN WITH DOTS",
    "LEFT-FACING SVASTI SIGN WITH DOTS"]),
  (0xfd9, "TIBETAN MARK ", ["LEADING MCHAN RTAGS;TRAILING MCHAN RTAGS"]),
  (0x1000, "MYANMAR ", [
    "LETTER KA;LETTER KHA;LETTER GA;LETTER GHA;LETTER NGA;LETTER CA;LETTER CHA;LETTER JA",
    "LETTER JHA;LETTER NYA;LETTER NNYA;LETTER TTA;LETTER TTHA;LETTER DDA;LETTER DDHA",
    "LETTER NNA;LETTER TA;LETTER THA;LETTER DA;LETTER DHA;LETTER NA;LETTER PA;LETTER PHA",
    "LETTER BA;LETTER BHA;LETTER MA;LETTER YA;LETTER RA;LETTER LA;LETTER WA;LETTER SA",
    "LETTER HA;LETTER LLA;LETTER A;LETTER SHAN A;LETTER I;LETTER II;LETTER U;LETTER UU",
    "LETTER E;LETTER MON E;LETTER O;LETTER AU;VOWEL SIGN TALL AA;VOWEL SIGN AA;VOWEL SIGN I",
    "VOWEL SIGN II;VOWEL SIGN U;VOWEL SIGN UU;VOWEL SIGN E;VOWEL SIGN AI;VOWEL SIGN MON II",
    "VOWEL SIGN MON O;VOWEL SIGN E ABOVE;SIGN ANUSVARA;SIGN DOT BELOW;SIGN VISARGA",
    "SIGN VIRAMA;SIGN ASAT;CONSONANT SIGN MEDIAL YA;CONSONANT SIGN MEDIAL RA",
    "CONSONANT SIGN MEDIAL WA;CONSONANT SIGN MEDIAL HA;LETTER GREAT SA;DIGIT ZERO;DIGIT ONE",
    "DIGIT TWO;DIGIT THREE;DIGIT FOUR;DIGIT FIVE;DIGIT SIX;DIGIT SEVEN;DIGIT EIGHT;DIGIT NINE",
    "SIGN LITTLE SECTION;SIGN SECTION;SYMBOL LOCATIVE;SYMBOL COMPLETED;SYMBOL AFOREMENTIONED",
    "SYMBOL GENITIVE;LETTER SHA;LETTER SSA;LETTER VOCALIC R;LETTER VOCALIC RR",
    "LETTER VOCALIC L;LETTER VOCALIC LL;VOWEL SIGN VOCALIC R;VOWEL SIGN VOCALIC RR",
    "VOWEL SIGN VOCALIC L;VOWEL SIGN VOCALIC LL;LETTER MON NGA;LETTER MON JHA;LETTER MON BBA",
    "LETTER MON BBE;CONSONANT SIGN MON MEDIAL NA;CONSONANT SIGN MON MEDIAL MA",
    "CONSONANT SIGN MON MEDIAL LA;LETTER SGAW KAREN SHA;VOWEL SIGN SGAW KAREN EU",
    "TONE MARK SGAW KAREN HATHI;TONE MARK SGAW KAREN KE PHO;LETTER WESTERN PWO KAREN THA",
    "LETTER WESTERN PWO KAREN PWA;VOWEL SIGN WESTERN PWO KAREN EU",
    "VOWEL SIGN WESTERN PWO KAREN UE;SIGN WESTERN PWO KAREN TONE-1",
    "SIGN WESTERN PWO KAREN TONE-2;SIGN WESTERN PWO KAREN TONE-3",
    "SIGN WESTERN PWO KAREN TONE-4;SIGN WESTERN PWO KAREN TONE-5;LETTER EASTERN PWO KAREN NNA",
    "LETTER EASTERN PWO KAREN YWA;LETTER EASTERN PWO KAREN GHWA;VOWEL SIGN GEBA KAREN I",
    "VOWEL SIGN KAYAH OE;VOWEL SIGN KAYAH U;VOWEL SIGN KAYAH EE;LETTER SHAN KA",
    "LETTER SHAN KHA;LETTER SHAN GA;LETTER SHAN CA;LETTER SHAN ZA;LETTER SHAN NYA",
    "LETTER SHAN DA;LETTER SHAN NA;LETTER SHAN PHA;LETTER SHAN FA;LETTER SHAN BA",
    "LETTER SHAN THA;LETTER SHAN HA;CONSONANT SIGN SHAN MEDIAL WA;VOWEL SIGN SHAN AA",
    "VOWEL SIGN SHAN E;VOWEL SIGN SHAN E ABOVE;VOWEL SIGN SHAN FINAL Y;SIGN SHAN TONE-2",
    "SIGN SHAN TONE-3;SIGN SHAN TONE-5;SIGN SHAN TONE-6;SIGN SHAN COUNCIL TONE-2",
    "SIGN SHAN COUNCIL TONE-3;SIGN SHAN COUNCIL EMPHATIC TONE;LETTER RUMAI PALAUNG FA",
    "SIGN RUMAI PALAUNG TONE-5;SHAN DIGIT ZERO;SHAN DIGIT ONE;SHAN DIGIT TWO;SHAN DIGIT THREE",
    "SHAN DIGIT FOUR;SHAN DIGIT FIVE;SHAN DIGIT SIX;SHAN DIGIT SEVEN;SHAN DIGIT EIGHT",
    "SHAN DIGIT NINE;SIGN KHAMTI TONE-1;SIGN KHAMTI TONE-3;VOWEL SIGN AITON A",
    "VOWEL SIGN AITON AI;SYMBOL SHAN ONE;SYMBOL SHAN EXCLAMATION"]),
  (0x10a0, "GEORGIAN CAPITAL LETTER ", [
    "AN;BAN;GAN;DON;EN;VIN;ZEN;TAN;IN;KAN;LAS;MAN;NAR;ON;PAR;ZHAR;RAE;SAN;TAR;UN;PHAR;KHAR",
    "GHAN;QAR;SHIN;CHIN;CAN;JIL;CIL;CHAR;XAN;JHAN;HAE;HE;HIE;WE;HAR;HOE"]),
  (0x10c7, "", ["GEORGIAN CAPITAL LETTER YN"]), (0x10cd, "", ["GEORGIAN CAPITAL LETTER AEN"]),
  (0x10d0, "GEORGIAN LETTER ", [
    "AN;BAN;GAN;DON;EN;VIN;ZEN;TAN;IN;KAN;LAS;MAN;NAR;ON;PAR;ZHAR;RAE;SAN;TAR;UN;PHAR;KHAR",
    "GHAN;QAR;SHIN;CHIN;CAN;JIL;CIL;CHAR;XAN;JHAN;HAE;HE;HIE;WE;HAR;HOE;FI;YN;ELIFI",
    "TURNED GAN;AIN"]),
  (0x10fb, "", ["GEORGIAN PARAGRAPH SEPARATOR;MODIFIER LETTER GEORGIAN NAR"]),
  (0x10fd, "GEORGIAN LETTER ", ["AEN;HARD SIGN;LABIAL SIGN"]),
  (0x1100, "HANGUL ", [
    "CHOSEONG KIYEOK;CHOSEONG SSANGKIYEOK;CHOSEONG NIEUN;CHOSEONG TIKEUT;CHOSEONG SSANGTIKEUT",
    "CHOSEONG RIEUL;CHOSEONG MIEUM;CHOSEONG PIEUP;CHOSEONG SSANGPIEUP;CHOSEONG SIOS",
    "CHOSEONG SSANGSIOS;CHOSEONG IEUNG;CHOSEONG CIEUC;CHOSEONG SSANGCIEUC;CHOSEONG CHIEUCH",
    "CHOSEONG KHIEUKH;CHOSEONG THIEUTH;CHOSEONG PHIEUPH;CHOSEONG HIEUH;CHOSEONG NIEUN-KIYEOK",
    "CHOSEONG SSANGNIEUN;CHOSEONG NIEUN-TIKEUT;CHOSEONG NIEUN-PIEUP;CHOSEONG TIKEUT-KIYEOK",
    "CHOSEONG RIEUL-NIEUN;CHOSEONG SSANGRIEUL;CHOSEONG RIEUL-HIEUH;CHOSEONG KAPYEOUNRIEUL",
    "CHOSEONG MIEUM-PIEUP;CHOSEONG KAPYEOUNMIEUM;CHOSEONG PIEUP-KIYEOK;CHOSEONG PIEUP-NIEUN",
    "CHOSEONG PIEUP-TIKEUT;CHOSEONG PIEUP-SIOS;CHOSEONG PIEUP-SIOS-KIYEOK",
    "CHOSEONG PIEUP-SIOS-TIKEUT;CHOSEONG PIEUP-SIOS-PIEUP;CHOSEONG PIEUP-SSANGSIOS",
    "CHOSEONG PIEUP-SIOS-CIEUC;CHOSEONG PIEUP-CIEUC;CHOSEONG PIEUP-CHIEUCH",
    "CHOSEONG PIEUP-THIEUTH;CHOSEONG PIEUP-PHIEUPH;CHOSEONG KAPYEOUNPIEUP",
    "CHOSEONG KAPYEOUNSSANGPIEUP;CHOSEONG SIOS-KIYEOK;CHOSEONG SIOS-NIEUN",
    "CHOSEONG SIOS-TIKEUT;CHOSEONG SIOS-RIEUL;CHOSEONG SIOS-MIEUM;CHOSEONG SIOS-PIEUP",
    "CHOSEONG SIOS-PIEUP-KIYEOK;CHOSEONG SIOS-SSANGSIOS;CHOSEONG SIOS-IEUNG",
    "CHOSEONG SIOS-CIEUC;CHOSEONG SIOS-CHIEUCH;CHOSEONG SIOS-KHIEUKH;CHOSEONG SIOS-THIEUTH",
    "CHOSEONG SIOS-PHIEUPH;CHOSEONG SIOS-HIEUH;CHOSEONG CHITUEUMSIOS",
    "CHOSEONG CHITUEUMSSANGSIOS;CHOSEONG CEONGCHIEUMSIOS;CHOSEONG CEONGCHIEUMSSANGSIOS",
    "CHOSEONG PANSIOS;CHOSEONG IEUNG-KIYEOK;CHOSEONG IEUNG-TIKEUT;CHOSEONG IEUNG-MIEUM",
    "CHOSEONG IEUNG-PIEUP;CHOSEONG IEUNG-SIOS;CHOSEONG IEUNG-PANSIOS;CHOSEONG SSANGIEUNG",
    "CHOSEONG IEUNG-CIEUC;CHOSEONG IEUNG-CHIEUCH;CHOSEONG IEUNG-THIEUTH",
    "CHOSEONG IEUNG-PHIEUPH;CHOSEONG YESIEUNG;CHOSEONG CIEUC-IEUNG;CHOSEONG CHITUEUMCIEUC",
    "CHOSEONG CHITUEUMSSANGCIEUC;CHOSEONG CEONGCHIEUMCIEUC;CHOSEONG CEONGCHIEUMSSANGCIEUC",
    "CHOSEONG CHIEUCH-KHIEUKH;CHOSEONG CHIEUCH-HIEUH;CHOSEONG CHITUEUMCHIEUCH",
    "CHOSEONG CEONGCHIEUMCHIEUCH;CHOSEONG PHIEUPH-PIEUP;CHOSEONG KAPYEOUNPHIEUPH",
    "CHOSEONG SSANGHIEUH;CHOSEONG YEORINHIEUH;CHOSEONG KIYEOK-TIKEUT;CHOSEONG NIEUN-SIOS",
    "CHOSEONG NIEUN-CIEUC;CHOSEONG NIEUN-HIEUH;CHOSEONG TIKEUT-RIEUL;CHOSEONG FILLER",
    "JUNGSEONG FILLER;JUNGSEONG A;JUNGSEONG AE;JUNGSEONG YA;JUNGSEONG YAE;JUNGSEONG EO",
    "JUNGSEONG E;JUNGSEONG YEO;JUNGSEONG YE;JUNGSEONG O;JUNGSEONG WA;JUNGSEONG WAE",
    "JUNGSEONG OE;JUNGSEONG YO;JUNGSEONG U;JUNGSEONG WEO;JUNGSEONG WE;JUNGSEONG WI",
    "JUNGSEONG YU;JUNGSEONG EU;JUNGSEONG YI;JUNGSEONG I;JUNGSEONG A-O;JUNGSEONG A-U",
    "JUNGSEONG YA-O;JUNGSEONG YA-YO;JUNGSEONG EO-O;JUNGSEONG EO-U;JUNGSEONG EO-EU",
    "JUNGSEONG YEO-O;JUNGSEONG YEO-U;JUNGSEONG O-EO;JUNGSEONG O-E;JUNGSEONG O-YE",
    "JUNGSEONG O-O;JUNGSEONG O-U;JUNGSEONG YO-YA;JUNGSEONG YO-YAE;JUNGSEONG YO-YEO",
    "JUNGSEONG YO-O;JUNGSEONG YO-I;JUNGSEONG U-A;JUNGSEONG U-AE;JUNGSEONG U-EO-EU",
    "JUNGSEONG U-YE;JUNGSEONG U-U;JUNGSEONG YU-A;JUNGSEONG YU-EO;JUNGSEONG YU-E",
    "JUNGSEONG YU-YEO;JUNGSEONG YU-YE;JUNGSEONG YU-U;JUNGSEONG YU-I;JUNGSEONG EU-U",
    "JUNGSEONG EU-EU;JUNGSEONG YI-U;JUNGSEONG I-A;JUNGSEONG I-YA;JUNGSEONG I-O;JUNGSEONG I-U",
    "JUNGSEONG I-EU;JUNGSEONG I-ARAEA;JUNGSEONG ARAEA;JUNGSEONG ARAEA-EO;JUNGSEONG ARAEA-U",
    "JUNGSEONG ARAEA-I;JUNGSEONG SSANGARAEA;JUNGSEONG A-EU;JUNGSEONG YA-U;JUNGSEONG YEO-YA",
    "JUNGSEONG O-YA;JUNGSEONG O-YAE;JONGSEONG KIYEOK;JONGSEONG SSANGKIYEOK",
    "JONGSEONG KIYEOK-SIOS;JONGSEONG NIEUN;JONGSEONG NIEUN-CIEUC;JONGSEONG NIEUN-HIEUH",
    "JONGSEONG TIKEUT;JONGSEONG RIEUL;JONGSEONG RIEUL-KIYEOK;JONGSEONG RIEUL-MIEUM",
    "JONGSEONG RIEUL-PIEUP;JONGSEONG RIEUL-SIOS;JONGSEONG RIEUL-THIEUTH",
    "JONGSEONG RIEUL-PHIEUPH;JONGSEONG RIEUL-HIEUH;JONGSEONG MIEUM;JONGSEONG PIEUP",
    "JONGSEONG PIEUP-SIOS;JONGSEONG SIOS;JONGSEONG SSANGSIOS;JONGSEONG IEUNG;JONGSEONG CIEUC",
    "JONGSEONG CHIEUCH;JONGSEONG KHIEUKH;JONGSEONG THIEUTH;JONGSEONG PHIEUPH;JONGSEONG HIEUH",
    "JONGSEONG KIYEOK-RIEUL;JONGSEONG KIYEOK-SIOS-KIYEOK;JONGSEONG NIEUN-KIYEOK",
    "JONGSEONG NIEUN-TIKEUT;JONGSEONG NIEUN-SIOS;JONGSEONG NIEUN-PANSIOS",
    "JONGSEONG NIEUN-THIEUTH;JONGSEONG TIKEUT-KIYEOK;JONGSEONG TIKEUT-RIEUL",
    "JONGSEONG RIEUL-KIYEOK-SIOS;JONGSEONG RIEUL-NIEUN;JONGSEONG RIEUL-TIKEUT",
    "JONGSEONG RIEUL-TIKEUT-HIEUH;JONGSEONG SSANGRIEUL;JONGSEONG RIEUL-MIEUM-KIYEOK",
    "JONGSEONG RIEUL-MIEUM-SIOS;JONGSEONG RIEUL-PIEUP-SIOS;JONGSEONG RIEUL-PIEUP-HIEUH",
    "JONGSEONG RIEUL-KAPYEOUNPIEUP;JONGSEONG RIEUL-SSANGSIOS;JONGSEONG RIEUL-PANSIOS",
    "JONGSEONG RIEUL-KHIEUKH;JONGSEONG RIEUL-YEORINHIEUH;JONGSEONG MIEUM-KIYEOK",
    "JONGSEONG MIEUM-RIEUL;JONGSEONG MIEUM-PIEUP;JONGSEONG MIEUM-SIOS",
    "JONGSEONG MIEUM-SSANGSIOS;JONGSEONG MIEUM-PANSIOS;JONGSEONG MIEUM-CHIEUCH",
    "JONGSEONG MIEUM-HIEUH;JONGSEONG KAPYEOUNMIEUM;JONGSEONG PIEUP-RIEUL",
    "JONGSEONG PIEUP-PHIEUPH;JONGSEONG PIEUP-HIEUH;JONGSEONG KAPYEOUNPIEUP",
    "JONGSEONG SIOS-KIYEOK;JONGSEONG SIOS-TIKEUT;JONGSEONG SIOS-RIEUL;JONGSEONG SIOS-PIEUP",
    "JONGSEONG PANSIOS;JONGSEONG IEUNG-KIYEOK;JONGSEONG IEUNG-SSANGKIYEOK",
    "JONGSEONG SSANGIEUNG;JONGSEONG IEUNG-KHIEUKH;JONGSEONG YESIEUNG;JONGSEONG YESIEUNG-SIOS",
    "JONGSEONG YESIEUNG-PANSIOS;JONGSEONG PHIEUPH-PIEUP;JONGSEONG KAPYEOUNPHIEUPH",
    "JONGSEONG HIEUH-NIEUN;JONGSEONG HIEUH-RIEUL;JONGSEONG HIEUH-MIEUM;JONGSEONG HIEUH-PIEUP",
    "JONGSEONG YEORINHIEUH;JONGSEONG KIYEOK-NIEUN;JONGSEONG KIYEOK-PIEUP",
    "JONGSEONG KIYEOK-CHIEUCH;JONGSEONG KIYEOK-KHIEUKH;JONGSEONG KIYEOK-HIEUH",
    "JONGSEONG SSANGNIEUN"]),
  (0x1200, "ETHIOPIC SYLLABLE ", [
    "HA;HU;HI;HAA;HEE;HE;HO;HOA;LA;LU;LI;LAA;LEE;LE;LO;LWA;HHA;HHU;HHI;HHAA;HHEE;HHE;HHO;HHWA",
    "MA;MU;MI;MAA;MEE;ME;MO;MWA;SZA;SZU;SZI;SZAA;SZEE;SZE;SZO;SZWA;RA;RU;RI;RAA;REE;RE;RO;RWA",
    "SA;SU;SI;SAA;SEE;SE;SO;SWA;SHA;SHU;SHI;SHAA;SHEE;SHE;SHO;SHWA;QA;QU;QI;QAA;QEE;QE;QO;QOA",
    "QWA"]),
  (0x124a, "ETHIOPIC SYLLABLE ", ["QWI;QWAA;QWEE;QWE"]),
  (0x1250, "ETHIOPIC SYLLABLE ", ["QHA;QHU;QHI;QHAA;QHEE;QHE;QHO"]),
  (0x1258, "", ["ETHIOPIC SYLLABLE QHWA"]),
  (0x125a, "ETHIOPIC SYLLABLE ", ["QHWI;QHWAA;QHWEE;QHWE"]),
  (0x1260, "ETHIOPIC SYLLABLE ", [
    "BA;BU;BI;BAA;BEE;BE;BO;BWA;VA;VU;VI;VAA;VEE;VE;VO;VWA;TA;TU;TI;TAA;TEE;TE;TO;TWA;CA;CU",
    "CI;CAA;CEE;CE;CO;CWA;XA;XU;XI;XAA;XEE;XE;XO;XOA;XWA"]),
  (0x128a, "ETHIOPIC SYLLABLE ", ["XWI;XWAA;XWEE;XWE"]),
  (0x1290, "ETHIOPIC SYLLABLE ", [
    "NA;NU;NI;NAA;NEE;NE;NO;NWA;NYA;NYU;NYI;NYAA;NYEE;NYE;NYO;NYWA;GLOTTAL A;GLOTTAL U",
    "GLOTTAL I;GLOTTAL AA;GLOTTAL EE;GLOTTAL E;GLOTTAL O;GLOTTAL WA;KA;KU;KI;KAA;KEE;KE;KO",
    "KOA;KWA"]),
  (0x12b2, "ETHIOPIC SYLLABLE ", ["KWI;KWAA;KWEE;KWE"]),
  (0x12b8, "ETHIOPIC SYLLABLE ", ["KXA;KXU;KXI;KXAA;KXEE;KXE;KXO"]),
  (0x12c0, "", ["ETHIOPIC SYLLABLE KXWA"]),
  (0x12c2, "ETHIOPIC SYLLABLE ", ["KXWI;KXWAA;KXWEE;KXWE"]),
  (0x12c8, "ETHIOPIC SYLLABLE ", [
    "WA;WU;WI;WAA;WEE;WE;WO;WOA;PHARYNGEAL A;PHARYNGEAL U;PHARYNGEAL I;PHARYNGEAL AA",
    "PHARYNGEAL EE;PHARYNGEAL E;PHARYNGEAL O"]),
  (0x12d8, "ETHIOPIC SYLLABLE ", [
    "ZA;ZU;ZI;ZAA;ZEE;ZE;ZO;ZWA;ZHA;ZHU;ZHI;ZHAA;ZHEE;ZHE;ZHO;ZHWA;YA;YU;YI;YAA;YEE;YE;YO;YOA",
    "DA;DU;DI;DAA;DEE;DE;DO;DWA;DDA;DDU;DDI;DDAA;DDEE;DDE;DDO;DDWA;JA;JU;JI;JAA;JEE;JE;JO;JWA",
    "GA;GU;GI;GAA;GEE;GE;GO;GOA;GWA"]),
  (0x1312, "ETHIOPIC SYLLABLE ", ["GWI;GWAA;GWEE;GWE"]),
  (0x1318, "ETHIOPIC SYLLABLE ", [
    "GGA;GGU;GGI;GGAA;GGEE;GGE;GGO;GGWAA;THA;THU;THI;THAA;THEE;THE;THO;THWA;CHA;CHU;CHI;CHAA",
    "CHEE;CHE;CHO;CHWA;PHA;PHU;PHI;PHAA;PHEE;PHE;PHO;PHWA;TSA;TSU;TSI;TSAA;TSEE;TSE;TSO;TSWA",
    "TZA;TZU;TZI;TZAA;TZEE;TZE;TZO;TZOA;FA;FU;FI;FAA;FEE;FE;FO;FWA;PA;PU;PI;PAA;PEE;PE;PO;PWA",
    "RYA;MYA;FYA"]),
  (0x135d, "ETHIOPIC ", [
    "COMBINING GEMINATION AND VOWEL LENGTH MARK;COMBINING VOWEL LENGTH MARK",
    "COMBINING GEMINATION MARK;SECTION MARK;WORDSPACE;FULL STOP;COMMA;SEMICOLON;COLON",
    "PREFACE COLON;QUESTION MARK;PARAGRAPH SEPARATOR;DIGIT ONE;DIGIT TWO;DIGIT THREE",
    "DIGIT FOUR;DIGIT FIVE;DIGIT SIX;DIGIT SEVEN;DIGIT EIGHT;DIGIT NINE;NUMBER TEN",
    "NUMBER TWENTY;NUMBER THIRTY;NUMBER FORTY;NUMBER FIFTY;NUMBER SIXTY;NUMBER SEVENTY",
    "NUMBER EIGHTY;NUMBER NINETY;NUMBER HUNDRED;NUMBER TEN THOUSAND"]),
  (0x1380, "ETHIOPIC SYLLABLE ", [
    "SEBATBEIT MWA;MWI;MWEE;MWE;SEBATBEIT BWA;BWI;BWEE;BWE;SEBATBEIT FWA;FWI;FWEE;FWE",
    "SEBATBEIT PWA;PWI;PWEE;PWE"]),
  (0x1390, "ETHIOPIC TONAL MARK ", [
    "YIZET;DERET;RIKRIK;SHORT RIKRIK;DIFAT;KENAT;CHIRET;HIDET;DERET-HIDET;KURT"]),
  (0x13a0, "CHEROKEE LETTER ", [
    "A;E;I;O;U;V;GA;KA;GE;GI;GO;GU;GV;HA;HE;HI;HO;HU;HV;LA;LE;LI;LO;LU;LV;MA;ME;MI;MO;MU;NA",
    "HNA;NAH;NE;NI;NO;NU;NV;QUA;QUE;QUI;QUO;QUU;QUV;SA;S;SE;SI;SO;SU;SV;DA;TA;DE;TE;DI;TI;DO",
    "DU;DV;DLA;TLA;TLE;TLI;TLO;TLU;TLV;TSA;TSE;TSI;TSO;TSU;TSV;WA;WE;WI;WO;WU;WV;YA;YE;YI;YO",
    "YU;YV;MV"]),
  (0x13f8, "CHEROKEE SMALL LETTER ", ["YE;YI;YO;YU;YV;MV"]),
  (0x1400, "CANADIAN SYLLABICS ", [
    "HYPHEN;E;AAI;I;II;O;OO;Y-CREE OO;CARRIER EE;CARRIER I;A;AA;WE;WEST-CREE WE;WI",
    "WEST-CREE WI;WII;WEST-CREE WII;WO;WEST-CREE WO;WOO;WEST-CREE WOO;NASKAPI WOO;WA",
    "WEST-CREE WA;WAA;WEST-CREE WAA;NASKAPI WAA;AI;Y-CREE W;GLOTTAL STOP;FINAL ACUTE",
    "FINAL GRAVE;FINAL BOTTOM HALF RING;FINAL TOP HALF RING;FINAL RIGHT HALF RING;FINAL RING",
    "FINAL DOUBLE ACUTE;FINAL DOUBLE SHORT VERTICAL STROKES;FINAL MIDDLE DOT",
    "FINAL SHORT HORIZONTAL STROKE;FINAL PLUS;FINAL DOWN TACK;EN;IN;ON;AN;PE;PAAI;PI;PII;PO",
    "POO;Y-CREE POO;CARRIER HEE;CARRIER HI;PA;PAA;PWE;WEST-CREE PWE;PWI;WEST-CREE PWI;PWII",
    "WEST-CREE PWII;PWO;WEST-CREE PWO;PWOO;WEST-CREE PWOO;PWA;WEST-CREE PWA;PWAA",
    "WEST-CREE PWAA;Y-CREE PWAA;P;WEST-CREE P;CARRIER H;TE;TAAI;TI;TII;TO;TOO;Y-CREE TOO",
    "CARRIER DEE;CARRIER DI;TA;TAA;TWE;WEST-CREE TWE;TWI;WEST-CREE TWI;TWII;WEST-CREE TWII",
    "TWO;WEST-CREE TWO;TWOO;WEST-CREE TWOO;TWA;WEST-CREE TWA;TWAA;WEST-CREE TWAA;NASKAPI TWAA",
    "T;TTE;TTI;TTO;TTA;KE;KAAI;KI;KII;KO;KOO;Y-CREE KOO;KA;KAA;KWE;WEST-CREE KWE;KWI",
    "WEST-CREE KWI;KWII;WEST-CREE KWII;KWO;WEST-CREE KWO;KWOO;WEST-CREE KWOO;KWA",
    "WEST-CREE KWA;KWAA;WEST-CREE KWAA;NASKAPI KWAA;K;KW;SOUTH-SLAVEY KEH;SOUTH-SLAVEY KIH",
    "SOUTH-SLAVEY KOH;SOUTH-SLAVEY KAH;CE;CAAI;CI;CII;CO;COO;Y-CREE COO;CA;CAA;CWE",
    "WEST-CREE CWE;CWI;WEST-CREE CWI;CWII;WEST-CREE CWII;CWO;WEST-CREE CWO;CWOO",
    "WEST-CREE CWOO;CWA;WEST-CREE CWA;CWAA;WEST-CREE CWAA;NASKAPI CWAA;C;SAYISI TH;ME;MAAI;MI",
    "MII;MO;MOO;Y-CREE MOO;MA;MAA;MWE;WEST-CREE MWE;MWI;WEST-CREE MWI;MWII;WEST-CREE MWII;MWO",
    "WEST-CREE MWO;MWOO;WEST-CREE MWOO;MWA;WEST-CREE MWA;MWAA;WEST-CREE MWAA;NASKAPI MWAA;M",
    "WEST-CREE M;MH;ATHAPASCAN M;SAYISI M;NE;NAAI;NI;NII;NO;NOO;Y-CREE NOO;NA;NAA;NWE",
    "WEST-CREE NWE;NWA;WEST-CREE NWA;NWAA;WEST-CREE NWAA;NASKAPI NWAA;N;CARRIER NG;NH;LE;LAAI",
    "LI;LII;LO;LOO;Y-CREE LOO;LA;LAA;LWE;WEST-CREE LWE;LWI;WEST-CREE LWI;LWII;WEST-CREE LWII",
    "LWO;WEST-CREE LWO;LWOO;WEST-CREE LWOO;LWA;WEST-CREE LWA;LWAA;WEST-CREE LWAA;L",
    "WEST-CREE L;MEDIAL L;SE;SAAI;SI;SII;SO;SOO;Y-CREE SOO;SA;SAA;SWE;WEST-CREE SWE;SWI",
    "WEST-CREE SWI;SWII;WEST-CREE SWII;SWO;WEST-CREE SWO;SWOO;WEST-CREE SWOO;SWA",
    "WEST-CREE SWA;SWAA;WEST-CREE SWAA;NASKAPI SWAA;S;ATHAPASCAN S;SW;BLACKFOOT S",
    "MOOSE-CREE SK;NASKAPI SKW;NASKAPI S-W;NASKAPI SPWA;NASKAPI STWA;NASKAPI SKWA",
    "NASKAPI SCWA;SHE;SHI;SHII;SHO;SHOO;SHA;SHAA;SHWE;WEST-CREE SHWE;SHWI;WEST-CREE SHWI",
    "SHWII;WEST-CREE SHWII;SHWO;WEST-CREE SHWO;SHWOO;WEST-CREE SHWOO;SHWA;WEST-CREE SHWA",
    "SHWAA;WEST-CREE SHWAA;SH;YE;YAAI;YI;YII;YO;YOO;Y-CREE YOO;YA;YAA;YWE;WEST-CREE YWE;YWI",
    "WEST-CREE YWI;YWII;WEST-CREE YWII;YWO;WEST-CREE YWO;YWOO;WEST-CREE YWOO;YWA",
    "WEST-CREE YWA;YWAA;WEST-CREE YWAA;NASKAPI YWAA;Y;BIBLE-CREE Y;WEST-CREE Y;SAYISI YI;RE",
    "R-CREE RE;WEST-CREE LE;RAAI;RI;RII;RO;ROO;WEST-CREE LO;RA;RAA;WEST-CREE LA;RWAA",
    "WEST-CREE RWAA;R;WEST-CREE R;MEDIAL R;FE;FAAI;FI;FII;FO;FOO;FA;FAA;FWAA;WEST-CREE FWAA;F",
    "THE;N-CREE THE;THI;N-CREE THI;THII;N-CREE THII;THO;THOO;THA;THAA;THWAA;WEST-CREE THWAA",
    "TH;TTHE;TTHI;TTHO;TTHA;TTH;TYE;TYI;TYO;TYA;NUNAVIK HE;NUNAVIK HI;NUNAVIK HII;NUNAVIK HO",
    "NUNAVIK HOO;NUNAVIK HA;NUNAVIK HAA;NUNAVIK H;NUNAVUT H;HK;QAAI;QI;QII;QO;QOO;QA;QAA;Q",
    "TLHE;TLHI;TLHO;TLHA;WEST-CREE RE;WEST-CREE RI;WEST-CREE RO;WEST-CREE RA;NGAAI;NGI;NGII",
    "NGO;NGOO;NGA;NGAA;NG;NNG;SAYISI SHE;SAYISI SHI;SAYISI SHO;SAYISI SHA;WOODS-CREE THE",
    "WOODS-CREE THI;WOODS-CREE THO;WOODS-CREE THA;WOODS-CREE TH;LHI;LHII;LHO;LHOO;LHA;LHAA;LH",
    "TH-CREE THE;TH-CREE THI;TH-CREE THII;TH-CREE THO;TH-CREE THOO;TH-CREE THA;TH-CREE THAA",
    "TH-CREE TH;AIVILIK B;BLACKFOOT E;BLACKFOOT I;BLACKFOOT O;BLACKFOOT A;BLACKFOOT WE",
    "BLACKFOOT WI;BLACKFOOT WO;BLACKFOOT WA;BLACKFOOT NE;BLACKFOOT NI;BLACKFOOT NO",
    "BLACKFOOT NA;BLACKFOOT KE;BLACKFOOT KI;BLACKFOOT KO;BLACKFOOT KA;SAYISI HE;SAYISI HI",
    "SAYISI HO;SAYISI HA;CARRIER GHU;CARRIER GHO;CARRIER GHE;CARRIER GHEE;CARRIER GHI",
    "CARRIER GHA;CARRIER RU;CARRIER RO;CARRIER RE;CARRIER REE;CARRIER RI;CARRIER RA",
    "CARRIER WU;CARRIER WO;CARRIER WE;CARRIER WEE;CARRIER WI;CARRIER WA;CARRIER HWU",
    "CARRIER HWO;CARRIER HWE;CARRIER HWEE;CARRIER HWI;CARRIER HWA;CARRIER THU;CARRIER THO",
    "CARRIER THE;CARRIER THEE;CARRIER THI;CARRIER THA;CARRIER TTU;CARRIER TTO;CARRIER TTE",
    "CARRIER TTEE;CARRIER TTI;CARRIER TTA;CARRIER PU;CARRIER PO;CARRIER PE;CARRIER PEE",
    "CARRIER PI;CARRIER PA;CARRIER P;CARRIER GU;CARRIER GO;CARRIER GE;CARRIER GEE;CARRIER GI",
    "CARRIER GA;CARRIER KHU;CARRIER KHO;CARRIER KHE;CARRIER KHEE;CARRIER KHI;CARRIER KHA",
    "CARRIER KKU;CARRIER KKO;CARRIER KKE;CARRIER KKEE;CARRIER KKI;CARRIER KKA;CARRIER KK",
    "CARRIER NU;CARRIER NO;CARRIER NE;CARRIER NEE;CARRIER NI;CARRIER NA;CARRIER MU;CARRIER MO",
    "CARRIER ME;CARRIER MEE;CARRIER MI;CARRIER MA;CARRIER YU;CARRIER YO;CARRIER YE",
    "CARRIER YEE;CARRIER YI;CARRIER YA;CARRIER JU;SAYISI JU;CARRIER JO;CARRIER JE;CARRIER JEE",
    "CARRIER JI;SAYISI JI;CARRIER JA;CARRIER JJU;CARRIER JJO;CARRIER JJE;CARRIER JJEE",
    "CARRIER JJI;CARRIER JJA;CARRIER LU;CARRIER LO;CARRIER LE;CARRIER LEE;CARRIER LI",
    "CARRIER LA;CARRIER DLU;CARRIER DLO;CARRIER DLE;CARRIER DLEE;CARRIER DLI;CARRIER DLA",
    "CARRIER LHU;CARRIER LHO;CARRIER LHE;CARRIER LHEE;CARRIER LHI;CARRIER LHA;CARRIER TLHU",
    "CARRIER TLHO;CARRIER TLHE;CARRIER TLHEE;CARRIER TLHI;CARRIER TLHA;CARRIER TLU",
    "CARRIER TLO;CARRIER TLE;CARRIER TLEE;CARRIER TLI;CARRIER TLA;CARRIER ZU;CARRIER ZO",
    "CARRIER ZE;CARRIER ZEE;CARRIER ZI;CARRIER ZA;CARRIER Z;CARRIER INITIAL Z;CARRIER DZU",
    "CARRIER DZO;CARRIER DZE;CARRIER DZEE;CARRIER DZI;CARRIER DZA;CARRIER SU;CARRIER SO",
    "CARRIER SE;CARRIER SEE;CARRIER SI;CARRIER SA;CARRIER SHU;CARRIER SHO;CARRIER SHE",
    "CARRIER SHEE;CARRIER SHI;CARRIER SHA;CARRIER SH;CARRIER TSU;CARRIER TSO;CARRIER TSE",
    "CARRIER TSEE;CARRIER TSI;CARRIER TSA;CARRIER CHU;CARRIER CHO;CARRIER CHE;CARRIER CHEE",
    "CARRIER CHI;CARRIER CHA;CARRIER TTSU;CARRIER TTSO;CARRIER TTSE;CARRIER TTSEE",
    "CARRIER TTSI;CARRIER TTSA;CHI SIGN;FULL STOP;QAI;NGAI;NNGI;NNGII;NNGO;NNGOO;NNGA;NNGAA",
    "WOODS-CREE THWEE;WOODS-CREE THWI;WOODS-CREE THWII;WOODS-CREE THWO;WOODS-CREE THWOO",
    "WOODS-CREE THWA;WOODS-CREE THWAA;WOODS-CREE FINAL TH;BLACKFOOT W"]),
  (0x1680, "OGHAM ", [
    "SPACE MARK;LETTER BEITH;LETTER LUIS;LETTER FEARN;LETTER SAIL;LETTER NION;LETTER UATH",
    "LETTER DAIR;LETTER TINNE;LETTER COLL;LETTER CEIRT;LETTER MUIN;LETTER GORT;LETTER NGEADAL",
    "LETTER STRAIF;LETTER RUIS;LETTER AILM;LETTER ONN;LETTER UR;LETTER EADHADH;LETTER IODHADH",
    "LETTER EABHADH;LETTER OR;LETTER UILLEANN;LETTER IFIN;LETTER EAMHANCHOLL;LETTER PEITH",
    "FEATHER MARK;REVERSED FEATHER MARK"]),
  (0x16a0, "RUNIC LETTER ", [
    "FEHU FEOH FE F;V;URUZ UR U;YR;Y;W;THURISAZ THURS THORN;ETH;ANSUZ A;OS O;AC A;AESC",
    "LONG-BRANCH-OSS O;SHORT-TWIG-OSS O;O;OE;ON;RAIDO RAD REID R;KAUNA;CEN;KAUN K;G;ENG",
    "GEBO GYFU G;GAR;WUNJO WYNN W;HAGLAZ H;HAEGL H;LONG-BRANCH-HAGALL H;SHORT-TWIG-HAGALL H",
    "NAUDIZ NYD NAUD N;SHORT-TWIG-NAUD N;DOTTED-N;ISAZ IS ISS I;E;JERAN J;GER",
    "LONG-BRANCH-AR AE;SHORT-TWIG-AR A;IWAZ EOH;PERTHO PEORTH P;ALGIZ EOLHX;SOWILO S",
    "SIGEL LONG-BRANCH-SOL S;SHORT-TWIG-SOL S;C;Z;TIWAZ TIR TYR T;SHORT-TWIG-TYR T;D",
    "BERKANAN BEORC BJARKAN B;SHORT-TWIG-BJARKAN B;DOTTED-P;OPEN-P;EHWAZ EH E;MANNAZ MAN M",
    "LONG-BRANCH-MADR M;SHORT-TWIG-MADR M;LAUKAZ LAGU LOGR L;DOTTED-L;INGWAZ;ING;DAGAZ DAEG D",
    "OTHALAN ETHEL O;EAR;IOR;CWEORTH;CALC;CEALC;STAN;LONG-BRANCH-YR;SHORT-TWIG-YR",
    "ICELANDIC-YR;Q;X"]),
  (0x16eb, "RUNIC ", [
    "SINGLE PUNCTUATION;MULTIPLE PUNCTUATION;CROSS PUNCTUATION;ARLAUG SYMBOL;TVIMADUR SYMBOL",
    "BELGTHOR SYMBOL;LETTER K;LETTER SH;LETTER OO;LETTER FRANKS CASKET OS",
    "LETTER FRANKS CASKET IS;LETTER FRANKS CASKET EH;LETTER FRANKS CASKET AC",
    "LETTER FRANKS CASKET AESC"]),
  (0x1700, "TAGALOG LETTER ", ["A;I;U;KA;GA;NGA;TA;DA;NA;PA;BA;MA;YA;RA;LA;WA;SA;HA"]),
  (0x1712, "TAGALOG ", ["VOWEL SIGN I;VOWEL SIGN U;SIGN VIRAMA;SIGN PAMUDPOD"]),
  (0x171f, "", ["TAGALOG LETTER ARCHAIC RA"]),
  (0x1720, "HANUNOO LETTER ", ["A;I;U;KA;GA;NGA;TA;DA;NA;PA;BA;MA;YA;RA;LA;WA;SA;HA"]),
  (0x1732, "HANUNOO VOWEL SIGN ", ["I;U"]),
  (0x1734, "", [
    "HANUNOO SIGN PAMUDPOD;PHILIPPINE SINGLE PUNCTUATION;PHILIPPINE DOUBLE PUNCTUATION"]),
  (0x1740, "BUHID LETTER ", ["A;I;U;KA;GA;NGA;TA;DA;NA;PA;BA;MA;YA;RA;LA;WA;SA;HA"]),
  (0x1752, "BUHID VOWEL SIGN ", ["I;U"]),
  (0x1760, "TAGBANWA LETTER ", ["A;I;U;KA;GA;NGA;TA;DA;NA;PA;BA;MA;YA"]),
  (0x176e, "TAGBANWA LETTER ", ["LA;WA;SA"]), (0x1772, "TAGBANWA VOWEL SIGN ", ["I;U"]),
  (0x1780, "KHMER ", [
    "LETTER KA;LETTER KHA;LETTER KO;LETTER KHO;LETTER NGO;LETTER CA;LETTER CHA;LETTER CO",
    "LETTER CHO;LETTER NYO;LETTER DA;LETTER TTHA;LETTER DO;LETTER TTHO;LETTER NNO;LETTER TA",
    "LETTER THA;LETTER TO;LETTER THO;LETTER NO;LETTER BA;LETTER PHA;LETTER PO;LETTER PHO",
    "LETTER MO;LETTER YO;LETTER RO;LETTER LO;LETTER VO;LETTER SHA;LETTER SSO;LETTER SA",
    "LETTER HA;LETTER LA;LETTER QA;INDEPENDENT VOWEL QAQ;INDEPENDENT VOWEL QAA",
    "INDEPENDENT VOWEL QI;INDEPENDENT VOWEL QII;INDEPENDENT VOWEL QU;INDEPENDENT VOWEL QUK",
    "INDEPENDENT VOWEL QUU;INDEPENDENT VOWEL QUUV;INDEPENDENT VOWEL RY;INDEPENDENT VOWEL RYY",
    "INDEPENDENT VOWEL LY;INDEPENDENT VOWEL LYY;INDEPENDENT VOWEL QE;INDEPENDENT VOWEL QAI",
    "INDEPENDENT VOWEL QOO TYPE ONE;INDEPENDENT VOWEL QOO TYPE TWO;INDEPENDENT VOWEL QAU",
    "VOWEL INHERENT AQ;VOWEL INHERENT AA;VOWEL SIGN AA;VOWEL SIGN I;VOWEL SIGN II",
    "VOWEL SIGN Y;VOWEL SIGN YY;VOWEL SIGN U;VOWEL SIGN UU;VOWEL SIGN UA;VOWEL SIGN OE",
    "VOWEL SIGN YA;VOWEL SIGN IE;VOWEL SIGN E;VOWEL SIGN AE;VOWEL SIGN AI;VOWEL SIGN OO",
    "VOWEL SIGN AU;SIGN NIKAHIT;SIGN REAHMUK;SIGN YUUKALEAPINTU;SIGN MUUSIKATOAN;SIGN TRIISAP",
    "SIGN BANTOC;SIGN ROBAT;SIGN TOANDAKHIAT;SIGN KAKABAT;SIGN AHSDA;SIGN SAMYOK SANNYA",
    "SIGN VIRIAM;SIGN COENG;SIGN BATHAMASAT;SIGN KHAN;SIGN BARIYOOSAN;SIGN CAMNUC PII KUUH",
    "SIGN LEK TOO;SIGN BEYYAL;SIGN PHNAEK MUAN;SIGN KOOMUUT;CURRENCY SYMBOL RIEL",
    "SIGN AVAKRAHASANYA;SIGN ATTHACAN"]),
  (0x17e0, "KHMER DIGIT ", ["ZERO;ONE;TWO;THREE;FOUR;FIVE;SIX;SEVEN;EIGHT;NINE"]),
  (0x17f0, "KHMER SYMBOL LEK ATTAK ", [
    "SON;MUOY;PII;BEI;BUON;PRAM;PRAM-MUOY;PRAM-PII;PRAM-BEI;PRAM-BUON"]),
  (0x1800, "MONGOLIAN ", [
    "BIRGA;ELLIPSIS;COMMA;FULL STOP;COLON;FOUR DOTS;TODO SOFT HYPHEN",
    "SIBE SYLLABLE BOUNDARY MARKER;MANCHU COMMA;MANCHU FULL STOP;NIRUGU",
    "FREE VARIATION SELECTOR ONE;FREE VARIATION SELECTOR TWO;FREE VARIATION SELECTOR THREE",
    "VOWEL SEPARATOR;FREE VARIATION SELECTOR FOUR;DIGIT ZERO;DIGIT ONE;DIGIT TWO;DIGIT THREE",
    "DIGIT FOUR;DIGIT FIVE;DIGIT SIX;DIGIT SEVEN;DIGIT EIGHT;DIGIT NINE"]),
  (0x1820, "MONGOLIAN LETTER ", [
    "A;E;I;O;U;OE;UE;EE;NA;ANG;BA;PA;QA;GA;MA;LA;SA;SHA;TA;DA;CHA;JA;YA;RA;WA;FA;KA;KHA;TSA",
    "ZA;HAA;ZRA;LHA;ZHI;CHI;TODO LONG VOWEL SIGN;TODO E;TODO I;TODO O;TODO U;TODO OE;TODO UE",
    "TODO ANG;TODO BA;TODO PA;TODO QA;TODO GA;TODO MA;TODO TA;TODO DA;TODO CHA;TODO JA",
    "TODO TSA;TODO YA;TODO WA;TODO KA;TODO GAA;TODO HAA;TODO JIA;TODO NIA;TODO DZA;SIBE E",
    "SIBE I;SIBE IY;SIBE UE;SIBE U;SIBE ANG;SIBE KA;SIBE GA;SIBE HA;SIBE PA;SIBE SHA;SIBE TA",
    "SIBE DA;SIBE JA;SIBE FA;SIBE GAA;SIBE HAA;SIBE TSA;SIBE ZA;SIBE RAA;SIBE CHA;SIBE ZHA",
    "MANCHU I;MANCHU KA;MANCHU RA;MANCHU FA;MANCHU ZHA;CHA WITH TWO DOTS"]),
  (0x1880, "MONGOLIAN LETTER ", [
    "ALI GALI ANUSVARA ONE;ALI GALI VISARGA ONE;ALI GALI DAMARU;ALI GALI UBADAMA",
    "ALI GALI INVERTED UBADAMA;ALI GALI BALUDA;ALI GALI THREE BALUDA;ALI GALI A;ALI GALI I",
    "ALI GALI KA;ALI GALI NGA;ALI GALI CA;ALI GALI TTA;ALI GALI TTHA;ALI GALI DDA",
    "ALI GALI NNA;ALI GALI TA;ALI GALI DA;ALI GALI PA;ALI GALI PHA;ALI GALI SSA;ALI GALI ZHA",
    "ALI GALI ZA;ALI GALI AH;TODO ALI GALI TA;TODO ALI GALI ZHA;MANCHU ALI GALI GHA",
    "MANCHU ALI GALI NGA;MANCHU ALI GALI CA;MANCHU ALI GALI JHA;MANCHU ALI GALI TTA",
    "MANCHU ALI GALI DDHA;MANCHU ALI GALI TA;MANCHU ALI GALI DHA;MANCHU ALI GALI SSA",
    "MANCHU ALI GALI CYA;MANCHU ALI GALI ZHA;MANCHU ALI GALI ZA;ALI GALI HALF U",
    "ALI GALI HALF YA;MANCHU ALI GALI BHA;ALI GALI DAGALGA;MANCHU ALI GALI LHA"]),
  (0x18b0, "CANADIAN SYLLABICS ", [
    "OY;AY;AAY;WAY;POY;PAY;PWOY;TAY;KAY;KWAY;MAY;NOY;NAY;LAY;SOY;SAY;SHOY;SHAY;SHWOY;YOY;YAY",
    "RAY;NWI;OJIBWAY NWI;NWII;OJIBWAY NWII;NWO;OJIBWAY NWO;NWOO;OJIBWAY NWOO;RWEE;RWI;RWII",
    "RWO;RWOO;RWA;OJIBWAY P;OJIBWAY T;OJIBWAY K;OJIBWAY C;OJIBWAY M;OJIBWAY N;OJIBWAY S",
    "OJIBWAY SH;EASTERN W;WESTERN W;FINAL SMALL RING;FINAL RAISED DOT;R-CREE RWE",
    "WEST-CREE LOO;WEST-CREE LAA;THWE;THWA;TTHWE;TTHOO;TTHAA;TLHWE;TLHOO;SAYISI SHWE",
    "SAYISI SHOO;SAYISI HOO;CARRIER GWU;CARRIER DENE GEE;CARRIER GAA;CARRIER GWA;SAYISI JUU",
    "CARRIER JWA;BEAVER DENE L;BEAVER DENE R;CARRIER DENTAL S"]),
  (0x1900, "LIMBU ", [
    "VOWEL-CARRIER LETTER;LETTER KA;LETTER KHA;LETTER GA;LETTER GHA;LETTER NGA;LETTER CA",
    "LETTER CHA;LETTER JA;LETTER JHA;LETTER YAN;LETTER TA;LETTER THA;LETTER DA;LETTER DHA",
    "LETTER NA;LETTER PA;LETTER PHA;LETTER BA;LETTER BHA;LETTER MA;LETTER YA;LETTER RA",
    "LETTER LA;LETTER WA;LETTER SHA;LETTER SSA;LETTER SA;LETTER HA;LETTER GYAN;LETTER TRA"]),
  (0x1920, "LIMBU VOWEL SIGN ", ["A;I;U;EE;AI;OO;AU;E;O"]),
  (0x1929, "LIMBU SUBJOINED LETTER ", ["YA;RA;WA"]),
  (0x1930, "LIMBU SMALL LETTER ", ["KA;NGA;ANUSVARA;TA;NA;PA;MA;RA;LA"]),
  (0x1939, "LIMBU SIGN ", ["MUKPHRENG;KEMPHRENG;SA-I"]), (0x1940, "", ["LIMBU SIGN LOO"]),
  (0x1944, "LIMBU ", [
    "EXCLAMATION MARK;QUESTION MARK;DIGIT ZERO;DIGIT ONE;DIGIT TWO;DIGIT THREE;DIGIT FOUR",
    "DIGIT FIVE;DIGIT SIX;DIGIT SEVEN;DIGIT EIGHT;DIGIT NINE"]),
  (0x1950, "TAI LE LETTER ", [
    "KA;XA;NGA;TSA;SA;YA;TA;THA;LA;PA;PHA;MA;FA;VA;HA;QA;KHA;TSHA;NA;A;I;EE;EH;U;OO;O;UE;E",
    "AUE;AI"]),
  (0x1970, "TAI LE LETTER ", ["TONE-2;TONE-3;TONE-4;TONE-5;TONE-6"]),
  (0x1980, "NEW TAI LUE LETTER ", [
    "HIGH QA;LOW QA;HIGH KA;HIGH XA;HIGH NGA;LOW KA;LOW XA;LOW NGA;HIGH TSA;HIGH SA;HIGH YA",
    "LOW TSA;LOW SA;LOW YA;HIGH TA;HIGH THA;HIGH NA;LOW TA;LOW THA;LOW NA;HIGH PA;HIGH PHA",
    "HIGH MA;LOW PA;LOW PHA;LOW MA;HIGH FA;HIGH VA;HIGH LA;LOW FA;LOW VA;LOW LA;HIGH HA",
    "HIGH DA;HIGH BA;LOW HA;LOW DA;LOW BA;HIGH KVA;HIGH XVA;LOW KVA;LOW XVA;HIGH SUA;LOW SUA"]),
  (0x19b0, "NEW TAI LUE VOWEL SIGN ", [
    "VOWEL SHORTENER;AA;II;U;UU;E;AE;O;OA;UE;AY;AAY;UY;OY;OAY;UEY;IY"]),
  (0x19c1, "NEW TAI LUE LETTER FINAL ", ["V;NG;N;M;K;D;B"]),
  (0x19c8, "NEW TAI LUE TONE ", ["MARK-1;MARK-2"]),
  (0x19d0, "NEW TAI LUE DIGIT ", ["ZERO;ONE;TWO;THREE;FOUR;FIVE;SIX;SEVEN;EIGHT;NINE"]),
  (0x19da, "", ["NEW TAI LUE THAM DIGIT ONE"]), (0x19de, "NEW TAI LUE SIGN ", ["LAE;LAEV"]),
  (0x19e0, "KHMER SYMBOL ", [
    "PATHAMASAT;MUOY KOET;PII KOET;BEI KOET;BUON KOET;PRAM KOET;PRAM-MUOY KOET;PRAM-PII KOET",
    "PRAM-BEI KOET;PRAM-BUON KOET;DAP KOET;DAP-MUOY KOET;DAP-PII KOET;DAP-BEI KOET",
    "DAP-BUON KOET;DAP-PRAM KOET;TUTEYASAT;MUOY ROC;PII ROC;BEI ROC;BUON ROC;PRAM ROC",
    "PRAM-MUOY ROC;PRAM-PII ROC;PRAM-BEI ROC;PRAM-BUON ROC;DAP ROC;DAP-MUOY ROC;DAP-PII ROC",
    "DAP-BEI ROC;DAP-BUON ROC;DAP-PRAM ROC"]),
  (0x1a00, "BUGINESE LETTER ", [
    "KA;GA;NGA;NGKA;PA;BA;MA;MPA;TA;DA;NA;NRA;CA;JA;NYA;NYCA;YA;RA;LA;VA;SA;A;HA"]),
  (0x1a17, "BUGINESE VOWEL SIGN ", ["I;U;E;O;AE"]),
  (0x1a1e, "", ["BUGINESE PALLAWA;BUGINESE END OF SECTION"]),
  (0x1a20, "TAI THAM LETTER ", [
    "HIGH KA;HIGH KHA;HIGH KXA;LOW KA;LOW KXA;LOW KHA;NGA;HIGH CA;HIGH CHA;LOW CA;LOW SA",
    "LOW CHA;NYA;RATA;HIGH RATHA;DA;LOW RATHA;RANA;HIGH TA;HIGH THA;LOW TA;LOW THA;NA;BA",
    "HIGH PA;HIGH PHA;HIGH FA;LOW PA;LOW FA;LOW PHA;MA;LOW YA;HIGH YA;RA;RUE;LA;LUE;WA",
    "HIGH SHA;HIGH SSA;HIGH SA;HIGH HA;LLA;A;LOW HA;I;II;U;UU;EE;OO;LAE;GREAT SA"]),
  (0x1a55, "TAI THAM ", [
    "CONSONANT SIGN MEDIAL RA;CONSONANT SIGN MEDIAL LA;CONSONANT SIGN LA TANG LAI",
    "SIGN MAI KANG LAI;CONSONANT SIGN FINAL NGA;CONSONANT SIGN LOW PA",
    "CONSONANT SIGN HIGH RATHA OR LOW PA;CONSONANT SIGN MA;CONSONANT SIGN BA",
    "CONSONANT SIGN SA"]),
  (0x1a60, "TAI THAM ", [
    "SIGN SAKOT;VOWEL SIGN A;VOWEL SIGN MAI SAT;VOWEL SIGN AA;VOWEL SIGN TALL AA;VOWEL SIGN I",
    "VOWEL SIGN II;VOWEL SIGN UE;VOWEL SIGN UUE;VOWEL SIGN U;VOWEL SIGN UU;VOWEL SIGN O",
    "VOWEL SIGN OA BELOW;VOWEL SIGN OY;VOWEL SIGN E;VOWEL SIGN AE;VOWEL SIGN OO;VOWEL SIGN AI",
    "VOWEL SIGN THAM AI;VOWEL SIGN OA ABOVE;SIGN MAI KANG;SIGN TONE-1;SIGN TONE-2",
    "SIGN KHUEN TONE-3;SIGN KHUEN TONE-4;SIGN KHUEN TONE-5;SIGN RA HAAM;SIGN MAI SAM",
    "SIGN KHUEN-LUE KARAN"]),
  (0x1a7f, "TAI THAM ", [
    "COMBINING CRYPTOGRAMMIC DOT;HORA DIGIT ZERO;HORA DIGIT ONE;HORA DIGIT TWO",
    "HORA DIGIT THREE;HORA DIGIT FOUR;HORA DIGIT FIVE;HORA DIGIT SIX;HORA DIGIT SEVEN",
    "HORA DIGIT EIGHT;HORA DIGIT NINE"]),
  (0x1a90, "TAI THAM THAM DIGIT ", ["ZERO;ONE;TWO;THREE;FOUR;FIVE;SIX;SEVEN;EIGHT;NINE"]),
  (0x1aa0, "TAI THAM SIGN ", [
    "WIANG;WIANGWAAK;SAWAN;KEOW;HOY;DOKMAI;REVERSED ROTATED RANA;MAI YAMOK;KAAN;KAANKUU",
    "SATKAAN;SATKAANKUU;HANG;CAANG"]),
  (0x1ab0, "COMBINING ", [
    "DOUBLED CIRCUMFLEX ACCENT;DIAERESIS-RING;INFINITY;DOWNWARDS ARROW;TRIPLE DOT;X-X BELOW",
    "WIGGLY LINE BELOW;OPEN MARK BELOW;DOUBLE OPEN MARK BELOW",
    "LIGHT CENTRALIZATION STROKE BELOW;STRONG CENTRALIZATION STROKE BELOW;PARENTHESES ABOVE",
    "DOUBLE PARENTHESES ABOVE;PARENTHESES BELOW;PARENTHESES OVERLAY",
    "LATIN SMALL LETTER W BELOW;LATIN SMALL LETTER TURNED W BELOW;LEFT PARENTHESIS ABOVE LEFT",
    "RIGHT PARENTHESIS ABOVE RIGHT;LEFT PARENTHESIS BELOW LEFT;RIGHT PARENTHESIS BELOW RIGHT",
    "SQUARE BRACKETS ABOVE;NUMBER SIGN ABOVE;INVERTED DOUBLE ARCH ABOVE;PLUS SIGN ABOVE",
    "DOUBLE PLUS SIGN ABOVE;DOUBLE PLUS SIGN BELOW;TRIPLE ACUTE ACCENT",
    "LATIN SMALL LETTER INSULAR G;LATIN SMALL LETTER INSULAR R;LATIN SMALL LETTER INSULAR T"]),
  (0x1b00, "BALINESE ", [
    "SIGN ULU RICEM;SIGN ULU CANDRA;SIGN CECEK;SIGN SURANG;SIGN BISAH;LETTER AKARA",
    "LETTER AKARA TEDUNG;LETTER IKARA;LETTER IKARA TEDUNG;LETTER UKARA;LETTER UKARA TEDUNG",
    "LETTER RA REPA;LETTER RA REPA TEDUNG;LETTER LA LENGA;LETTER LA LENGA TEDUNG;LETTER EKARA",
    "LETTER AIKARA;LETTER OKARA;LETTER OKARA TEDUNG;LETTER KA;LETTER KA MAHAPRANA;LETTER GA",
    "LETTER GA GORA;LETTER NGA;LETTER CA;LETTER CA LACA;LETTER JA;LETTER JA JERA;LETTER NYA",
    "LETTER TA LATIK;LETTER TA MURDA MAHAPRANA;LETTER DA MURDA ALPAPRANA",
    "LETTER DA MURDA MAHAPRANA;LETTER NA RAMBAT;LETTER TA;LETTER TA TAWA;LETTER DA",
    "LETTER DA MADU;LETTER NA;LETTER PA;LETTER PA KAPAL;LETTER BA;LETTER BA KEMBANG;LETTER MA",
    "LETTER YA;LETTER RA;LETTER LA;LETTER WA;LETTER SA SAGA;LETTER SA SAPA;LETTER SA",
    "LETTER HA;SIGN REREKAN;VOWEL SIGN TEDUNG;VOWEL SIGN ULU;VOWEL SIGN ULU SARI",
    "VOWEL SIGN SUKU;VOWEL SIGN SUKU ILUT;VOWEL SIGN RA REPA;VOWEL SIGN RA REPA TEDUNG",
    "VOWEL SIGN LA LENGA;VOWEL SIGN LA LENGA TEDUNG;VOWEL SIGN TALING;VOWEL SIGN TALING REPA",
    "VOWEL SIGN TALING TEDUNG;VOWEL SIGN TALING REPA TEDUNG;VOWEL SIGN PEPET",
    "VOWEL SIGN PEPET TEDUNG;ADEG ADEG;LETTER KAF SASAK;LETTER KHOT SASAK;LETTER TZIR SASAK",
    "LETTER EF SASAK;LETTER VE SASAK;LETTER ZAL SASAK;LETTER ASYURA SASAK;LETTER ARCHAIC JNYA"]),
  (0x1b50, "BALINESE ", [
    "DIGIT ZERO;DIGIT ONE;DIGIT TWO;DIGIT THREE;DIGIT FOUR;DIGIT FIVE;DIGIT SIX;DIGIT SEVEN",
    "DIGIT EIGHT;DIGIT NINE;PANTI;PAMADA;WINDU;CARIK PAMUNGKAH;CARIK SIKI;CARIK PAREREN",
    "PAMENENG;MUSICAL SYMBOL DONG;MUSICAL SYMBOL DENG;MUSICAL SYMBOL DUNG;MUSICAL SYMBOL DANG",
    "MUSICAL SYMBOL DANG SURANG;MUSICAL SYMBOL DING;MUSICAL SYMBOL DAENG;MUSICAL SYMBOL DEUNG",
    "MUSICAL SYMBOL DAING;MUSICAL SYMBOL DANG GEDE;MUSICAL SYMBOL COMBINING TEGEH",
    "MUSICAL SYMBOL COMBINING ENDEP;MUSICAL SYMBOL COMBINING KEMPUL",
    "MUSICAL SYMBOL COMBINING KEMPLI;MUSICAL SYMBOL COMBINING JEGOGAN",
    "MUSICAL SYMBOL COMBINING KEMPUL WITH JEGOGAN",
    "MUSICAL SYMBOL COMBINING KEMPLI WITH JEGOGAN;MUSICAL SYMBOL COMBINING BENDE",
    "MUSICAL SYMBOL COMBINING GONG;MUSICAL SYMBOL RIGHT-HAND OPEN DUG",
    "MUSICAL SYMBOL RIGHT-HAND OPEN DAG;MUSICAL SYMBOL RIGHT-HAND CLOSED TUK",
    "MUSICAL SYMBOL RIGHT-HAND CLOSED TAK;MUSICAL SYMBOL LEFT-HAND OPEN PANG",
    "MUSICAL SYMBOL LEFT-HAND OPEN PUNG;MUSICAL SYMBOL LEFT-HAND CLOSED PLAK",
    "MUSICAL SYMBOL LEFT-HAND CLOSED PLUK;MUSICAL SYMBOL LEFT-HAND OPEN PING;PANTI LANTANG",
    "PAMADA LANTANG"]),
  (0x1b80, "SUNDANESE ", [
    "SIGN PANYECEK;SIGN PANGLAYAR;SIGN PANGWISAD;LETTER A;LETTER I;LETTER U;LETTER AE",
    "LETTER O;LETTER E;LETTER EU;LETTER KA;LETTER QA;LETTER GA;LETTER NGA;LETTER CA;LETTER JA",
    "LETTER ZA;LETTER NYA;LETTER TA;LETTER DA;LETTER NA;LETTER PA;LETTER FA;LETTER VA",
    "LETTER BA;LETTER MA;LETTER YA;LETTER RA;LETTER LA;LETTER WA;LETTER SA;LETTER XA",
    "LETTER HA;CONSONANT SIGN PAMINGKAL;CONSONANT SIGN PANYAKRA;CONSONANT SIGN PANYIKU",
    "VOWEL SIGN PANGHULU;VOWEL SIGN PANYUKU;VOWEL SIGN PANAELAENG;VOWEL SIGN PANOLONG",
    "VOWEL SIGN PAMEPET;VOWEL SIGN PANEULEUNG;SIGN PAMAAEH;SIGN VIRAMA",
    "CONSONANT SIGN PASANGAN MA;CONSONANT SIGN PASANGAN WA;LETTER KHA;LETTER SYA;DIGIT ZERO",
    "DIGIT ONE;DIGIT TWO;DIGIT THREE;DIGIT FOUR;DIGIT FIVE;DIGIT SIX;DIGIT SEVEN;DIGIT EIGHT",
    "DIGIT NINE;AVAGRAHA;LETTER REU;LETTER LEU;LETTER BHA;LETTER FINAL K;LETTER FINAL M"]),
  (0x1bc0, "BATAK LETTER ", [
    "A;SIMALUNGUN A;HA;SIMALUNGUN HA;MANDAILING HA;BA;KARO BA;PA;SIMALUNGUN PA;NA",
    "MANDAILING NA;WA;SIMALUNGUN WA;PAKPAK WA;GA;SIMALUNGUN GA;JA;DA;RA;SIMALUNGUN RA;MA",
    "SIMALUNGUN MA;SOUTHERN TA;NORTHERN TA;SA;SIMALUNGUN SA;MANDAILING SA;YA;SIMALUNGUN YA",
    "NGA;LA;SIMALUNGUN LA;NYA;CA;NDA;MBA;I;U"]),
  (0x1be6, "BATAK ", [
    "SIGN TOMPI;VOWEL SIGN E;VOWEL SIGN PAKPAK E;VOWEL SIGN EE;VOWEL SIGN I;VOWEL SIGN KARO I",
    "VOWEL SIGN O;VOWEL SIGN KARO O;VOWEL SIGN U;VOWEL SIGN U FOR SIMALUNGUN SA",
    "CONSONANT SIGN NG;CONSONANT SIGN H;PANGOLAT;PANONGONAN"]),
  (0x1bfc, "BATAK SYMBOL BINDU ", ["NA METEK;PINARBORAS;JUDUL;PANGOLAT"]),
  (0x1c00, "LEPCHA LETTER ", [
    "KA;KLA;KHA;GA;GLA;NGA;CA;CHA;JA;NYA;TA;THA;DA;NA;PA;PLA;PHA;FA;FLA;BA;BLA;MA;MLA;TSA",
    "TSHA;DZA;YA;RA;LA;HA;HLA;VA;SA;SHA;WA;A"]),
  (0x1c24, "LEPCHA ", [
    "SUBJOINED LETTER YA;SUBJOINED LETTER RA;VOWEL SIGN AA;VOWEL SIGN I;VOWEL SIGN O",
    "VOWEL SIGN OO;VOWEL SIGN U;VOWEL SIGN UU;VOWEL SIGN E;CONSONANT SIGN K;CONSONANT SIGN M",
    "CONSONANT SIGN L;CONSONANT SIGN N;CONSONANT SIGN P;CONSONANT SIGN R;CONSONANT SIGN T",
    "CONSONANT SIGN NYIN-DO;CONSONANT SIGN KANG;SIGN RAN;SIGN NUKTA"]),
  (0x1c3b, "LEPCHA ", [
    "PUNCTUATION TA-ROL;PUNCTUATION NYET THYOOM TA-ROL;PUNCTUATION CER-WA",
    "PUNCTUATION TSHOOK CER-WA;PUNCTUATION TSHOOK;DIGIT ZERO;DIGIT ONE;DIGIT TWO;DIGIT THREE",
    "DIGIT FOUR;DIGIT FIVE;DIGIT SIX;DIGIT SEVEN;DIGIT EIGHT;DIGIT NINE"]),
  (0x1c4d, "LEPCHA LETTER ", ["TTA;TTHA;DDA"]),
  (0x1c50, "OL CHIKI ", [
    "DIGIT ZERO;DIGIT ONE;DIGIT TWO;DIGIT THREE;DIGIT FOUR;DIGIT FIVE;DIGIT SIX;DIGIT SEVEN",
    "DIGIT EIGHT;DIGIT NINE;LETTER LA;LETTER AT;LETTER AG;LETTER ANG;LETTER AL;LETTER LAA",
    "LETTER AAK;LETTER AAJ;LETTER AAM;LETTER AAW;LETTER LI;LETTER IS;LETTER IH;LETTER INY",
    "LETTER IR;LETTER LU;LETTER UC;LETTER UD;LETTER UNN;LETTER UY;LETTER LE;LETTER EP",
    "LETTER EDD;LETTER EN;LETTER ERR;LETTER LO;LETTER OTT;LETTER OB;LETTER OV;LETTER OH",
    "MU TTUDDAG;GAAHLAA TTUDDAAG;MU-GAAHLAA TTUDDAAG;RELAA;PHAARKAA;AHAD;PUNCTUATION MUCAAD",
    "PUNCTUATION DOUBLE MUCAAD"]),
  (0x1c80, "CYRILLIC SMALL LETTER ", [
    "ROUNDED VE;LONG-LEGGED DE;NARROW O;WIDE ES;TALL TE;THREE-LEGGED TE;TALL HARD SIGN",
    "TALL YAT;UNBLENDED UK"]),
  (0x1c90, "GEORGIAN MTAVRULI CAPITAL LETTER ", [
    "AN;BAN;GAN;DON;EN;VIN;ZEN;TAN;IN;KAN;LAS;MAN;NAR;ON;PAR;ZHAR;RAE;SAN;TAR;UN;PHAR;KHAR",
    "GHAN;QAR;SHIN;CHIN;CAN;JIL;CIL;CHAR;XAN;JHAN;HAE;HE;HIE;WE;HAR;HOE;FI;YN;ELIFI",
    "TURNED GAN;AIN"]),
  (0x1cbd, "GEORGIAN MTAVRULI CAPITAL LETTER ", ["AEN;HARD SIGN;LABIAL SIGN"]),
  (0x1cc0, "SUNDANESE PUNCTUATION BINDU ", [
    "SURYA;PANGLONG;PURNAMA;CAKRA;LEU SATANGA;KA SATANGA;DA SATANGA;BA SATANGA"]),
  (0x1cd0, "VEDIC ", [
    "TONE KARSHANA;TONE SHARA;TONE PRENKHA;SIGN NIHSHVASA;SIGN YAJURVEDIC MIDLINE SVARITA",
    "TONE YAJURVEDIC AGGRAVATED INDEPENDENT SVARITA;TONE YAJURVEDIC INDEPENDENT SVARITA",
    "TONE YAJURVEDIC KATHAKA INDEPENDENT SVARITA;TONE CANDRA BELOW",
    "TONE YAJURVEDIC KATHAKA INDEPENDENT SVARITA SCHROEDER;TONE DOUBLE SVARITA",
    "TONE TRIPLE SVARITA;TONE KATHAKA ANUDATTA;TONE DOT BELOW;TONE TWO DOTS BELOW",
    "TONE THREE DOTS BELOW;TONE RIGVEDIC KASHMIRI INDEPENDENT SVARITA",
    "TONE ATHARVAVEDIC INDEPENDENT SVARITA;SIGN VISARGA SVARITA;SIGN VISARGA UDATTA",
    "SIGN REVERSED VISARGA UDATTA;SIGN VISARGA ANUDATTA;SIGN REVERSED VISARGA ANUDATTA",
    "SIGN VISARGA UDATTA WITH TAIL;SIGN VISARGA ANUDATTA WITH TAIL;SIGN ANUSVARA ANTARGOMUKHA",
    "SIGN ANUSVARA BAHIRGOMUKHA;SIGN ANUSVARA VAMAGOMUKHA;SIGN ANUSVARA VAMAGOMUKHA WITH TAIL",
    "SIGN TIRYAK;SIGN HEXIFORM LONG ANUSVARA;SIGN LONG ANUSVARA;SIGN RTHANG LONG ANUSVARA",
    "SIGN ANUSVARA UBHAYATO MUKHA;SIGN ARDHAVISARGA;SIGN ROTATED ARDHAVISARGA",
    "TONE CANDRA ABOVE;SIGN JIHVAMULIYA;SIGN UPADHMANIYA;SIGN ATIKRAMA;TONE RING ABOVE",
    "TONE DOUBLE RING ABOVE;SIGN DOUBLE ANUSVARA ANTARGOMUKHA"]),
  (0x1d00, "LATIN ", [
    "LETTER SMALL CAPITAL A;LETTER SMALL CAPITAL AE;SMALL LETTER TURNED AE",
    "LETTER SMALL CAPITAL BARRED B;LETTER SMALL CAPITAL C;LETTER SMALL CAPITAL D",
    "LETTER SMALL CAPITAL ETH;LETTER SMALL CAPITAL E;SMALL LETTER TURNED OPEN E",
    "SMALL LETTER TURNED I;LETTER SMALL CAPITAL J;LETTER SMALL CAPITAL K",
    "LETTER SMALL CAPITAL L WITH STROKE;LETTER SMALL CAPITAL M",
    "LETTER SMALL CAPITAL REVERSED N;LETTER SMALL CAPITAL O;LETTER SMALL CAPITAL OPEN O",
    "SMALL LETTER SIDEWAYS O;SMALL LETTER SIDEWAYS OPEN O;SMALL LETTER SIDEWAYS O WITH STROKE",
    "SMALL LETTER TURNED OE;LETTER SMALL CAPITAL OU;SMALL LETTER TOP HALF O",
    "SMALL LETTER BOTTOM HALF O;LETTER SMALL CAPITAL P;LETTER SMALL CAPITAL REVERSED R",
    "LETTER SMALL CAPITAL TURNED R;LETTER SMALL CAPITAL T;LETTER SMALL CAPITAL U",
    "SMALL LETTER SIDEWAYS U;SMALL LETTER SIDEWAYS DIAERESIZED U",
    "SMALL LETTER SIDEWAYS TURNED M;LETTER SMALL CAPITAL V;LETTER SMALL CAPITAL W",
    "LETTER SMALL CAPITAL Z;LETTER SMALL CAPITAL EZH;LETTER VOICED LARYNGEAL SPIRANT",
    "LETTER AIN"]),
  (0x1d26, "GREEK LETTER SMALL CAPITAL ", ["GAMMA;LAMDA;PI;RHO;PSI"]),
  (0x1d2b, "", ["CYRILLIC LETTER SMALL CAPITAL EL"]),
  (0x1d2c, "MODIFIER LETTER ", [
    "CAPITAL A;CAPITAL AE;CAPITAL B;CAPITAL BARRED B;CAPITAL D;CAPITAL E;CAPITAL REVERSED E",
    "CAPITAL G;CAPITAL H;CAPITAL I;CAPITAL J;CAPITAL K;CAPITAL L;CAPITAL M;CAPITAL N",
    "CAPITAL REVERSED N;CAPITAL O;CAPITAL OU;CAPITAL P;CAPITAL R;CAPITAL T;CAPITAL U",
    "CAPITAL W;SMALL A;SMALL TURNED A;SMALL ALPHA;SMALL TURNED AE;SMALL B;SMALL D;SMALL E",
    "SMALL SCHWA;SMALL OPEN E;SMALL TURNED OPEN E;SMALL G;SMALL TURNED I;SMALL K;SMALL M",
    "SMALL ENG;SMALL O;SMALL OPEN O;SMALL TOP HALF O;SMALL BOTTOM HALF O;SMALL P;SMALL T",
    "SMALL U;SMALL SIDEWAYS U;SMALL TURNED M;SMALL V;SMALL AIN;SMALL BETA;SMALL GREEK GAMMA",
    "SMALL DELTA;SMALL GREEK PHI;SMALL CHI"]),
  (0x1d62, "LATIN SUBSCRIPT SMALL LETTER ", ["I;R;U;V"]),
  (0x1d66, "GREEK SUBSCRIPT SMALL LETTER ", ["BETA;GAMMA;RHO;PHI;CHI"]),
  (0x1d6b, "LATIN SMALL LETTER ", [
    "UE;B WITH MIDDLE TILDE;D WITH MIDDLE TILDE;F WITH MIDDLE TILDE;M WITH MIDDLE TILDE",
    "N WITH MIDDLE TILDE;P WITH MIDDLE TILDE;R WITH MIDDLE TILDE",
    "R WITH FISHHOOK AND MIDDLE TILDE;S WITH MIDDLE TILDE;T WITH MIDDLE TILDE",
    "Z WITH MIDDLE TILDE;TURNED G"]),
  (0x1d78, "", ["MODIFIER LETTER CYRILLIC EN"]),
  (0x1d79, "LATIN SMALL ", [
    "LETTER INSULAR G;LETTER TH WITH STRIKETHROUGH;CAPITAL LETTER I WITH STROKE",
    "LETTER IOTA WITH STROKE;LETTER P WITH STROKE;CAPITAL LETTER U WITH STROKE",
    "LETTER UPSILON WITH STROKE;LETTER B WITH PALATAL HOOK;LETTER D WITH PALATAL HOOK",
    "LETTER F WITH PALATAL HOOK;LETTER G WITH PALATAL HOOK;LETTER K WITH PALATAL HOOK",
    "LETTER L WITH PALATAL HOOK;LETTER M WITH PALATAL HOOK;LETTER N WITH PALATAL HOOK",
    "LETTER P WITH PALATAL HOOK;LETTER R WITH PALATAL HOOK;LETTER S WITH PALATAL HOOK",
    "LETTER ESH WITH PALATAL HOOK;LETTER V WITH PALATAL HOOK;LETTER X WITH PALATAL HOOK",
    "LETTER Z WITH PALATAL HOOK;LETTER A WITH RETROFLEX HOOK;LETTER ALPHA WITH RETROFLEX HOOK",
    "LETTER D WITH HOOK AND TAIL;LETTER E WITH RETROFLEX HOOK",
    "LETTER OPEN E WITH RETROFLEX HOOK;LETTER REVERSED OPEN E WITH RETROFLEX HOOK",
    "LETTER SCHWA WITH RETROFLEX HOOK;LETTER I WITH RETROFLEX HOOK",
    "LETTER OPEN O WITH RETROFLEX HOOK;LETTER ESH WITH RETROFLEX HOOK",
    "LETTER U WITH RETROFLEX HOOK;LETTER EZH WITH RETROFLEX HOOK"]),
  (0x1d9b, "MODIFIER LETTER SMALL ", [
    "TURNED ALPHA;C;C WITH CURL;ETH;REVERSED OPEN E;F;DOTLESS J WITH STROKE;SCRIPT G;TURNED H",
    "I WITH STROKE;IOTA;CAPITAL I;CAPITAL I WITH STROKE;J WITH CROSSED-TAIL",
    "L WITH RETROFLEX HOOK;L WITH PALATAL HOOK;CAPITAL L;M WITH HOOK;TURNED M WITH LONG LEG",
    "N WITH LEFT HOOK;N WITH RETROFLEX HOOK;CAPITAL N;BARRED O;PHI;S WITH HOOK;ESH",
    "T WITH PALATAL HOOK;U BAR;UPSILON;CAPITAL U;V WITH HOOK;TURNED V;Z;Z WITH RETROFLEX HOOK",
    "Z WITH CURL;EZH;THETA"]),
  (0x1dc0, "COMBINING ", [
    "DOTTED GRAVE ACCENT;DOTTED ACUTE ACCENT;SNAKE BELOW;SUSPENSION MARK;MACRON-ACUTE",
    "GRAVE-MACRON;MACRON-GRAVE;ACUTE-MACRON;GRAVE-ACUTE-GRAVE;ACUTE-GRAVE-ACUTE",
    "LATIN SMALL LETTER R BELOW;BREVE-MACRON;MACRON-BREVE;DOUBLE CIRCUMFLEX ABOVE",
    "OGONEK ABOVE;ZIGZAG BELOW;IS BELOW;UR ABOVE;US ABOVE",
    "LATIN SMALL LETTER FLATTENED OPEN A ABOVE;LATIN SMALL LETTER AE;LATIN SMALL LETTER AO",
    "LATIN SMALL LETTER AV;LATIN SMALL LETTER C CEDILLA;LATIN SMALL LETTER INSULAR D",
    "LATIN SMALL LETTER ETH;LATIN SMALL LETTER G;LATIN LETTER SMALL CAPITAL G",
    "LATIN SMALL LETTER K;LATIN SMALL LETTER L;LATIN LETTER SMALL CAPITAL L",
    "LATIN LETTER SMALL CAPITAL M;LATIN SMALL LETTER N;LATIN LETTER SMALL CAPITAL N",
    "LATIN LETTER SMALL CAPITAL R;LATIN SMALL LETTER R ROTUNDA;LATIN SMALL LETTER S",
    "LATIN SMALL LETTER LONG S;LATIN SMALL LETTER Z;LATIN SMALL LETTER ALPHA",
    "LATIN SMALL LETTER B;LATIN SMALL LETTER BETA;LATIN SMALL LETTER SCHWA",
    "LATIN SMALL LETTER F;LATIN SMALL LETTER L WITH DOUBLE MIDDLE TILDE",
    "LATIN SMALL LETTER O WITH LIGHT CENTRALIZATION STROKE;LATIN SMALL LETTER P",
    "LATIN SMALL LETTER ESH;LATIN SMALL LETTER U WITH LIGHT CENTRALIZATION STROKE",
    "LATIN SMALL LETTER W;LATIN SMALL LETTER A WITH DIAERESIS",
    "LATIN SMALL LETTER O WITH DIAERESIS;LATIN SMALL LETTER U WITH DIAERESIS;UP TACK ABOVE",
    "KAVYKA ABOVE RIGHT;KAVYKA ABOVE LEFT;DOT ABOVE LEFT;WIDE INVERTED BRIDGE BELOW",
    "DOT BELOW LEFT;DELETION MARK;DOUBLE INVERTED BREVE BELOW;ALMOST EQUAL TO BELOW",
    "LEFT ARROWHEAD ABOVE;RIGHT ARROWHEAD AND DOWN ARROWHEAD BELOW"]),
  (0x1e00, "LATIN ", [
    "CAPITAL LETTER A WITH RING BELOW;SMALL LETTER A WITH RING BELOW",
    "CAPITAL LETTER B WITH DOT ABOVE;SMALL LETTER B WITH DOT ABOVE",
    "CAPITAL LETTER B WITH DOT BELOW;SMALL LETTER B WITH DOT BELOW",
    "CAPITAL LETTER B WITH LINE BELOW;SMALL LETTER B WITH LINE BELOW",
    "CAPITAL LETTER C WITH CEDILLA AND ACUTE;SMALL LETTER C WITH CEDILLA AND ACUTE",
    "CAPITAL LETTER D WITH DOT ABOVE;SMALL LETTER D WITH DOT ABOVE",
    "CAPITAL LETTER D WITH DOT BELOW;SMALL LETTER D WITH DOT BELOW",
    "CAPITAL LETTER D WITH LINE BELOW;SMALL LETTER D WITH LINE BELOW",
    "CAPITAL LETTER D WITH CEDILLA;SMALL LETTER D WITH CEDILLA",
    "CAPITAL LETTER D WITH CIRCUMFLEX BELOW;SMALL LETTER D WITH CIRCUMFLEX BELOW",
    "CAPITAL LETTER E WITH MACRON AND GRAVE;SMALL LETTER E WITH MACRON AND GRAVE",
    "CAPITAL LETTER E WITH MACRON AND ACUTE;SMALL LETTER E WITH MACRON AND ACUTE",
    "CAPITAL LETTER E WITH CIRCUMFLEX BELOW;SMALL LETTER E WITH CIRCUMFLEX BELOW",
    "CAPITAL LETTER E WITH TILDE BELOW;SMALL LETTER E WITH TILDE BELOW",
    "CAPITAL LETTER E WITH CEDILLA AND BREVE;SMALL LETTER E WITH CEDILLA AND BREVE",
    "CAPITAL LETTER F WITH DOT ABOVE;SMALL LETTER F WITH DOT ABOVE",
    "CAPITAL LETTER G WITH MACRON;SMALL LETTER G WITH MACRON;CAPITAL LETTER H WITH DOT ABOVE",
    "SMALL LETTER H WITH DOT ABOVE;CAPITAL LETTER H WITH DOT BELOW",
    "SMALL LETTER H WITH DOT BELOW;CAPITAL LETTER H WITH DIAERESIS",
    "SMALL LETTER H WITH DIAERESIS;CAPITAL LETTER H WITH CEDILLA;SMALL LETTER H WITH CEDILLA",
    "CAPITAL LETTER H WITH BREVE BELOW;SMALL LETTER H WITH BREVE BELOW",
    "CAPITAL LETTER I WITH TILDE BELOW;SMALL LETTER I WITH TILDE BELOW",
    "CAPITAL LETTER I WITH DIAERESIS AND ACUTE;SMALL LETTER I WITH DIAERESIS AND ACUTE",
    "CAPITAL LETTER K WITH ACUTE;SMALL LETTER K WITH ACUTE;CAPITAL LETTER K WITH DOT BELOW",
    "SMALL LETTER K WITH DOT BELOW;CAPITAL LETTER K WITH LINE BELOW",
    "SMALL LETTER K WITH LINE BELOW;CAPITAL LETTER L WITH DOT BELOW",
    "SMALL LETTER L WITH DOT BELOW;CAPITAL LETTER L WITH DOT BELOW AND MACRON",
    "SMALL LETTER L WITH DOT BELOW AND MACRON;CAPITAL LETTER L WITH LINE BELOW",
    "SMALL LETTER L WITH LINE BELOW;CAPITAL LETTER L WITH CIRCUMFLEX BELOW",
    "SMALL LETTER L WITH CIRCUMFLEX BELOW;CAPITAL LETTER M WITH ACUTE",
    "SMALL LETTER M WITH ACUTE;CAPITAL LETTER M WITH DOT ABOVE;SMALL LETTER M WITH DOT ABOVE",
    "CAPITAL LETTER M WITH DOT BELOW;SMALL LETTER M WITH DOT BELOW",
    "CAPITAL LETTER N WITH DOT ABOVE;SMALL LETTER N WITH DOT ABOVE",
    "CAPITAL LETTER N WITH DOT BELOW;SMALL LETTER N WITH DOT BELOW",
    "CAPITAL LETTER N WITH LINE BELOW;SMALL LETTER N WITH LINE BELOW",
    "CAPITAL LETTER N WITH CIRCUMFLEX BELOW;SMALL LETTER N WITH CIRCUMFLEX BELOW",
    "CAPITAL LETTER O WITH TILDE AND ACUTE;SMALL LETTER O WITH TILDE AND ACUTE",
    "CAPITAL LETTER O WITH TILDE AND DIAERESIS;SMALL LETTER O WITH TILDE AND DIAERESIS",
    "CAPITAL LETTER O WITH MACRON AND GRAVE;SMALL LETTER O WITH MACRON AND GRAVE",
    "CAPITAL LETTER O WITH MACRON AND ACUTE;SMALL LETTER O WITH MACRON AND ACUTE",
    "CAPITAL LETTER P WITH ACUTE;SMALL LETTER P WITH ACUTE;CAPITAL LETTER P WITH DOT ABOVE",
    "SMALL LETTER P WITH DOT ABOVE;CAPITAL LETTER R WITH DOT ABOVE",
    "SMALL LETTER R WITH DOT ABOVE;CAPITAL LETTER R WITH DOT BELOW",
    "SMALL LETTER R WITH DOT BELOW;CAPITAL LETTER R WITH DOT BELOW AND MACRON",
    "SMALL LETTER R WITH DOT BELOW AND MACRON;CAPITAL LETTER R WITH LINE BELOW",
    "SMALL LETTER R WITH LINE BELOW;CAPITAL LETTER S WITH DOT ABOVE",
    "SMALL LETTER S WITH DOT ABOVE;CAPITAL LETTER S WITH DOT BELOW",
    "SMALL LETTER S WITH DOT BELOW;CAPITAL LETTER S WITH ACUTE AND DOT ABOVE",
    "SMALL LETTER S WITH ACUTE AND DOT ABOVE;CAPITAL LETTER S WITH CARON AND DOT ABOVE",
    "SMALL LETTER S WITH CARON AND DOT ABOVE;CAPITAL LETTER S WITH DOT BELOW AND DOT ABOVE",
    "SMALL LETTER S WITH DOT BELOW AND DOT ABOVE;CAPITAL LETTER T WITH DOT ABOVE",
    "SMALL LETTER T WITH DOT ABOVE;CAPITAL LETTER T WITH DOT BELOW",
    "SMALL LETTER T WITH DOT BELOW;CAPITAL LETTER T WITH LINE BELOW",
    "SMALL LETTER T WITH LINE BELOW;CAPITAL LETTER T WITH CIRCUMFLEX BELOW",
    "SMALL LETTER T WITH CIRCUMFLEX BELOW;CAPITAL LETTER U WITH DIAERESIS BELOW",
    "SMALL LETTER U WITH DIAERESIS BELOW;CAPITAL LETTER U WITH TILDE BELOW",
    "SMALL LETTER U WITH TILDE BELOW;CAPITAL LETTER U WITH CIRCUMFLEX BELOW",
    "SMALL LETTER U WITH CIRCUMFLEX BELOW;CAPITAL LETTER U WITH TILDE AND ACUTE",
    "SMALL LETTER U WITH TILDE AND ACUTE;CAPITAL LETTER U WITH MACRON AND DIAERESIS",
    "SMALL LETTER U WITH MACRON AND DIAERESIS;CAPITAL LETTER V WITH TILDE",
    "SMALL LETTER V WITH TILDE;CAPITAL LETTER V WITH DOT BELOW;SMALL LETTER V WITH DOT BELOW",
    "CAPITAL LETTER W WITH GRAVE;SMALL LETTER W WITH GRAVE;CAPITAL LETTER W WITH ACUTE",
    "SMALL LETTER W WITH ACUTE;CAPITAL LETTER W WITH DIAERESIS;SMALL LETTER W WITH DIAERESIS",
    "CAPITAL LETTER W WITH DOT ABOVE;SMALL LETTER W WITH DOT ABOVE",
    "CAPITAL LETTER W WITH DOT BELOW;SMALL LETTER W WITH DOT BELOW",
    "CAPITAL LETTER X WITH DOT ABOVE;SMALL LETTER X WITH DOT ABOVE",
    "CAPITAL LETTER X WITH DIAERESIS;SMALL LETTER X WITH DIAERESIS",
    "CAPITAL LETTER Y WITH DOT ABOVE;SMALL LETTER Y WITH DOT ABOVE",
    "CAPITAL LETTER Z WITH CIRCUMFLEX;SMALL LETTER Z WITH CIRCUMFLEX",
    "CAPITAL LETTER Z WITH DOT BELOW;SMALL LETTER Z WITH DOT BELOW",
    "CAPITAL LETTER Z WITH LINE BELOW;SMALL LETTER Z WITH LINE BELOW",
    "SMALL LETTER H WITH LINE BELOW;SMALL LETTER T WITH DIAERESIS",
    "SMALL LETTER W WITH RING ABOVE;SMALL LETTER Y WITH RING ABOVE",
    "SMALL LETTER A WITH RIGHT HALF RING;SMALL LETTER LONG S WITH DOT ABOVE",
    "SMALL LETTER LONG S WITH DIAGONAL STROKE;SMALL LETTER LONG S WITH HIGH STROKE",
    "CAPITAL LETTER SHARP S;SMALL LETTER DELTA;CAPITAL LETTER A WITH DOT BELOW",
    "SMALL LETTER A WITH DOT BELOW;CAPITAL LETTER A WITH HOOK ABOVE",
    "SMALL LETTER A WITH HOOK ABOVE;CAPITAL LETTER A WITH CIRCUMFLEX AND ACUTE",
    "SMALL LETTER A WITH CIRCUMFLEX AND ACUTE;CAPITAL LETTER A WITH CIRCUMFLEX AND GRAVE",
    "SMALL LETTER A WITH CIRCUMFLEX AND GRAVE;CAPITAL LETTER A WITH CIRCUMFLEX AND HOOK ABOVE",
    "SMALL LETTER A WITH CIRCUMFLEX AND HOOK ABOVE;CAPITAL LETTER A WITH CIRCUMFLEX AND TILDE",
    "SMALL LETTER A WITH CIRCUMFLEX AND TILDE;CAPITAL LETTER A WITH CIRCUMFLEX AND DOT BELOW",
    "SMALL LETTER A WITH CIRCUMFLEX AND DOT BELOW;CAPITAL LETTER A WITH BREVE AND ACUTE",
    "SMALL LETTER A WITH BREVE AND ACUTE;CAPITAL LETTER A WITH BREVE AND GRAVE",
    "SMALL LETTER A WITH BREVE AND GRAVE;CAPITAL LETTER A WITH BREVE AND HOOK ABOVE",
    "SMALL LETTER A WITH BREVE AND HOOK ABOVE;CAPITAL LETTER A WITH BREVE AND TILDE",
    "SMALL LETTER A WITH BREVE AND TILDE;CAPITAL LETTER A WITH BREVE AND DOT BELOW",
    "SMALL LETTER A WITH BREVE AND DOT BELOW;CAPITAL LETTER E WITH DOT BELOW",
    "SMALL LETTER E WITH DOT BELOW;CAPITAL LETTER E WITH HOOK ABOVE",
    "SMALL LETTER E WITH HOOK ABOVE;CAPITAL LETTER E WITH TILDE;SMALL LETTER E WITH TILDE",
    "CAPITAL LETTER E WITH CIRCUMFLEX AND ACUTE;SMALL LETTER E WITH CIRCUMFLEX AND ACUTE",
    "CAPITAL LETTER E WITH CIRCUMFLEX AND GRAVE;SMALL LETTER E WITH CIRCUMFLEX AND GRAVE",
    "CAPITAL LETTER E WITH CIRCUMFLEX AND HOOK ABOVE",
    "SMALL LETTER E WITH CIRCUMFLEX AND HOOK ABOVE;CAPITAL LETTER E WITH CIRCUMFLEX AND TILDE",
    "SMALL LETTER E WITH CIRCUMFLEX AND TILDE;CAPITAL LETTER E WITH CIRCUMFLEX AND DOT BELOW",
    "SMALL LETTER E WITH CIRCUMFLEX AND DOT BELOW;CAPITAL LETTER I WITH HOOK ABOVE",
    "SMALL LETTER I WITH HOOK ABOVE;CAPITAL LETTER I WITH DOT BELOW",
    "SMALL LETTER I WITH DOT BELOW;CAPITAL LETTER O WITH DOT BELOW",
    "SMALL LETTER O WITH DOT BELOW;CAPITAL LETTER O WITH HOOK ABOVE",
    "SMALL LETTER O WITH HOOK ABOVE;CAPITAL LETTER O WITH CIRCUMFLEX AND ACUTE",
    "SMALL LETTER O WITH CIRCUMFLEX AND ACUTE;CAPITAL LETTER O WITH CIRCUMFLEX AND GRAVE",
    "SMALL LETTER O WITH CIRCUMFLEX AND GRAVE;CAPITAL LETTER O WITH CIRCUMFLEX AND HOOK ABOVE",
    "SMALL LETTER O WITH CIRCUMFLEX AND HOOK ABOVE;CAPITAL LETTER O WITH CIRCUMFLEX AND TILDE",
    "SMALL LETTER O WITH CIRCUMFLEX AND TILDE;CAPITAL LETTER O WITH CIRCUMFLEX AND DOT BELOW",
    "SMALL LETTER O WITH CIRCUMFLEX AND DOT BELOW;CAPITAL LETTER O WITH HORN AND ACUTE",
    "SMALL LETTER O WITH HORN AND ACUTE;CAPITAL LETTER O WITH HORN AND GRAVE",
    "SMALL LETTER O WITH HORN AND GRAVE;CAPITAL LETTER O WITH HORN AND HOOK ABOVE",
    "SMALL LETTER O WITH HORN AND HOOK ABOVE;CAPITAL LETTER O WITH HORN AND TILDE",
    "SMALL LETTER O WITH HORN AND TILDE;CAPITAL LETTER O WITH HORN AND DOT BELOW",
    "SMALL LETTER O WITH HORN AND DOT BELOW;CAPITAL LETTER U WITH DOT BELOW",
    "SMALL LETTER U WITH DOT BELOW;CAPITAL LETTER U WITH HOOK ABOVE",
    "SMALL LETTER U WITH HOOK ABOVE;CAPITAL LETTER U WITH HORN AND ACUTE",
    "SMALL LETTER U WITH HORN AND ACUTE;CAPITAL LETTER U WITH HORN AND GRAVE",
    "SMALL LETTER U WITH HORN AND GRAVE;CAPITAL LETTER U WITH HORN AND HOOK ABOVE",
    "SMALL LETTER U WITH HORN AND HOOK ABOVE;CAPITAL LETTER U WITH HORN AND TILDE",
    "SMALL LETTER U WITH HORN AND TILDE;CAPITAL LETTER U WITH HORN AND DOT BELOW",
    "SMALL LETTER U WITH HORN AND DOT BELOW;CAPITAL LETTER Y WITH GRAVE",
    "SMALL LETTER Y WITH GRAVE;CAPITAL LETTER Y WITH DOT BELOW;SMALL LETTER Y WITH DOT BELOW",
    "CAPITAL LETTER Y WITH HOOK ABOVE;SMALL LETTER Y WITH HOOK ABOVE",
    "CAPITAL LETTER Y WITH TILDE;SMALL LETTER Y WITH TILDE;CAPITAL LETTER MIDDLE-WELSH LL",
    "SMALL LETTER MIDDLE-WELSH LL;CAPITAL LETTER MIDDLE-WELSH V;SMALL LETTER MIDDLE-WELSH V",
    "CAPITAL LETTER Y WITH LOOP;SMALL LETTER Y WITH LOOP"]),
  (0x1f00, "GREEK SMALL LETTER ALPHA WITH ", [
    "PSILI;DASIA;PSILI AND VARIA;DASIA AND VARIA;PSILI AND OXIA;DASIA AND OXIA",
    "PSILI AND PERISPOMENI;DASIA AND PERISPOMENI"]),
  (0x1f08, "GREEK CAPITAL LETTER ALPHA WITH ", [
    "PSILI;DASIA;PSILI AND VARIA;DASIA AND VARIA;PSILI AND OXIA;DASIA AND OXIA",
    "PSILI AND PERISPOMENI;DASIA AND PERISPOMENI"]),
  (0x1f10, "GREEK SMALL LETTER EPSILON WITH ", [
    "PSILI;DASIA;PSILI AND VARIA;DASIA AND VARIA;PSILI AND OXIA;DASIA AND OXIA"]),
  (0x1f18, "GREEK CAPITAL LETTER EPSILON WITH ", [
    "PSILI;DASIA;PSILI AND VARIA;DASIA AND VARIA;PSILI AND OXIA;DASIA AND OXIA"]),
  (0x1f20, "GREEK ", [
    "SMALL LETTER ETA WITH PSILI;SMALL LETTER ETA WITH DASIA",
    "SMALL LETTER ETA WITH PSILI AND VARIA;SMALL LETTER ETA WITH DASIA AND VARIA",
    "SMALL LETTER ETA WITH PSILI AND OXIA;SMALL LETTER ETA WITH DASIA AND OXIA",
    "SMALL LETTER ETA WITH PSILI AND PERISPOMENI;SMALL LETTER ETA WITH DASIA AND PERISPOMENI",
    "CAPITAL LETTER ETA WITH PSILI;CAPITAL LETTER ETA WITH DASIA",
    "CAPITAL LETTER ETA WITH PSILI AND VARIA;CAPITAL LETTER ETA WITH DASIA AND VARIA",
    "CAPITAL LETTER ETA WITH PSILI AND OXIA;CAPITAL LETTER ETA WITH DASIA AND OXIA",
    "CAPITAL LETTER ETA WITH PSILI AND PERISPOMENI",
    "CAPITAL LETTER ETA WITH DASIA AND PERISPOMENI;SMALL LETTER IOTA WITH PSILI",
    "SMALL LETTER IOTA WITH DASIA;SMALL LETTER IOTA WITH PSILI AND VARIA",
    "SMALL LETTER IOTA WITH DASIA AND VARIA;SMALL LETTER IOTA WITH PSILI AND OXIA",
    "SMALL LETTER IOTA WITH DASIA AND OXIA;SMALL LETTER IOTA WITH PSILI AND PERISPOMENI",
    "SMALL LETTER IOTA WITH DASIA AND PERISPOMENI;CAPITAL LETTER IOTA WITH PSILI",
    "CAPITAL LETTER IOTA WITH DASIA;CAPITAL LETTER IOTA WITH PSILI AND VARIA",
    "CAPITAL LETTER IOTA WITH DASIA AND VARIA;CAPITAL LETTER IOTA WITH PSILI AND OXIA",
    "CAPITAL LETTER IOTA WITH DASIA AND OXIA;CAPITAL LETTER IOTA WITH PSILI AND PERISPOMENI",
    "CAPITAL LETTER IOTA WITH DASIA AND PERISPOMENI;SMALL LETTER OMICRON WITH PSILI",
    "SMALL LETTER OMICRON WITH DASIA;SMALL LETTER OMICRON WITH PSILI AND VARIA",
    "SMALL LETTER OMICRON WITH DASIA AND VARIA;SMALL LETTER OMICRON WITH PSILI AND OXIA",
    "SMALL LETTER OMICRON WITH DASIA AND OXIA"]),
  (0x1f48, "GREEK CAPITAL LETTER OMICRON WITH ", [
    "PSILI;DASIA;PSILI AND VARIA;DASIA AND VARIA;PSILI AND OXIA;DASIA AND OXIA"]),
  (0x1f50, "GREEK SMALL LETTER UPSILON WITH ", [
    "PSILI;DASIA;PSILI AND VARIA;DASIA AND VARIA;PSILI AND OXIA;DASIA AND OXIA",
    "PSILI AND PERISPOMENI;DASIA AND PERISPOMENI"]),
  (0x1f59, "", ["GREEK CAPITAL LETTER UPSILON WITH DASIA"]),
  (0x1f5b, "", ["GREEK CAPITAL LETTER UPSILON WITH DASIA AND VARIA"]),
  (0x1f5d, "", ["GREEK CAPITAL LETTER UPSILON WITH DASIA AND OXIA"]),
  (0x1f5f, "GREEK ", [
    "CAPITAL LETTER UPSILON WITH DASIA AND PERISPOMENI;SMALL LETTER OMEGA WITH PSILI",
    "SMALL LETTER OMEGA WITH DASIA;SMALL LETTER OMEGA WITH PSILI AND VARIA",
    "SMALL LETTER OMEGA WITH DASIA AND VARIA;SMALL LETTER OMEGA WITH PSILI AND OXIA",
    "SMALL LETTER OMEGA WITH DASIA AND OXIA;SMALL LETTER OMEGA WITH PSILI AND PERISPOMENI",
    "SMALL LETTER OMEGA WITH DASIA AND PERISPOMENI;CAPITAL LETTER OMEGA WITH PSILI",
    "CAPITAL LETTER OMEGA WITH DASIA;CAPITAL LETTER OMEGA WITH PSILI AND VARIA",
    "CAPITAL LETTER OMEGA WITH DASIA AND VARIA;CAPITAL LETTER OMEGA WITH PSILI AND OXIA",
    "CAPITAL LETTER OMEGA WITH DASIA AND OXIA;CAPITAL LETTER OMEGA WITH PSILI AND PERISPOMENI",
    "CAPITAL LETTER OMEGA WITH DASIA AND PERISPOMENI;SMALL LETTER ALPHA WITH VARIA",
    "SMALL LETTER ALPHA WITH OXIA;SMALL LETTER EPSILON WITH VARIA",
    "SMALL LETTER EPSILON WITH OXIA;SMALL LETTER ETA WITH VARIA;SMALL LETTER ETA WITH OXIA",
    "SMALL LETTER IOTA WITH VARIA;SMALL LETTER IOTA WITH OXIA;SMALL LETTER OMICRON WITH VARIA",
    "SMALL LETTER OMICRON WITH OXIA;SMALL LETTER UPSILON WITH VARIA",
    "SMALL LETTER UPSILON WITH OXIA;SMALL LETTER OMEGA WITH VARIA",
    "SMALL LETTER OMEGA WITH OXIA"]),
  (0x1f80, "GREEK ", [
    "SMALL LETTER ALPHA WITH PSILI AND YPOGEGRAMMENI",
    "SMALL LETTER ALPHA WITH DASIA AND YPOGEGRAMMENI",
    "SMALL LETTER ALPHA WITH PSILI AND VARIA AND YPOGEGRAMMENI",
    "SMALL LETTER ALPHA WITH DASIA AND VARIA AND YPOGEGRAMMENI",
    "SMALL LETTER ALPHA WITH PSILI AND OXIA AND YPOGEGRAMMENI",
    "SMALL LETTER ALPHA WITH DASIA AND OXIA AND YPOGEGRAMMENI",
    "SMALL LETTER ALPHA WITH PSILI AND PERISPOMENI AND YPOGEGRAMMENI",
    "SMALL LETTER ALPHA WITH DASIA AND PERISPOMENI AND YPOGEGRAMMENI",
    "CAPITAL LETTER ALPHA WITH PSILI AND PROSGEGRAMMENI",
    "CAPITAL LETTER ALPHA WITH DASIA AND PROSGEGRAMMENI",
    "CAPITAL LETTER ALPHA WITH PSILI AND VARIA AND PROSGEGRAMMENI",
    "CAPITAL LETTER ALPHA WITH DASIA AND VARIA AND PROSGEGRAMMENI",
    "CAPITAL LETTER ALPHA WITH PSILI AND OXIA AND PROSGEGRAMMENI",
    "CAPITAL LETTER ALPHA WITH DASIA AND OXIA AND PROSGEGRAMMENI",
    "CAPITAL LETTER ALPHA WITH PSILI AND PERISPOMENI AND PROSGEGRAMMENI",
    "CAPITAL LETTER ALPHA WITH DASIA AND PERISPOMENI AND PROSGEGRAMMENI",
    "SMALL LETTER ETA WITH PSILI AND YPOGEGRAMMENI",
    "SMALL LETTER ETA WITH DASIA AND YPOGEGRAMMENI",
    "SMALL LETTER ETA WITH PSILI AND VARIA AND YPOGEGRAMMENI",
    "SMALL LETTER ETA WITH DASIA AND VARIA AND YPOGEGRAMMENI",
    "SMALL LETTER ETA WITH PSILI AND OXIA AND YPOGEGRAMMENI",
    "SMALL LETTER ETA WITH DASIA AND OXIA AND YPOGEGRAMMENI",
    "SMALL LETTER ETA WITH PSILI AND PERISPOMENI AND YPOGEGRAMMENI",
    "SMALL LETTER ETA WITH DASIA AND PERISPOMENI AND YPOGEGRAMMENI",
    "CAPITAL LETTER ETA WITH PSILI AND PROSGEGRAMMENI",
    "CAPITAL LETTER ETA WITH DASIA AND PROSGEGRAMMENI",
    "CAPITAL LETTER ETA WITH PSILI AND VARIA AND PROSGEGRAMMENI",
    "CAPITAL LETTER ETA WITH DASIA AND VARIA AND PROSGEGRAMMENI",
    "CAPITAL LETTER ETA WITH PSILI AND OXIA AND PROSGEGRAMMENI",
    "CAPITAL LETTER ETA WITH DASIA AND OXIA AND PROSGEGRAMMENI",
    "CAPITAL LETTER ETA WITH PSILI AND PERISPOMENI AND PROSGEGRAMMENI",
    "CAPITAL LETTER ETA WITH DASIA AND PERISPOMENI AND PROSGEGRAMMENI",
    "SMALL LETTER OMEGA WITH PSILI AND YPOGEGRAMMENI",
    "SMALL LETTER OMEGA WITH DASIA AND YPOGEGRAMMENI",
    "SMALL LETTER OMEGA WITH PSILI AND VARIA AND YPOGEGRAMMENI",
    "SMALL LETTER OMEGA WITH DASIA AND VARIA AND YPOGEGRAMMENI",
    "SMALL LETTER OMEGA WITH PSILI AND OXIA AND YPOGEGRAMMENI",
    "SMALL LETTER OMEGA WITH DASIA AND OXIA AND YPOGEGRAMMENI",
    "SMALL LETTER OMEGA WITH PSILI AND PERISPOMENI AND YPOGEGRAMMENI",
    "SMALL LETTER OMEGA WITH DASIA AND PERISPOMENI AND YPOGEGRAMMENI",
    "CAPITAL LETTER OMEGA WITH PSILI AND PROSGEGRAMMENI",
    "CAPITAL LETTER OMEGA WITH DASIA AND PROSGEGRAMMENI",
    "CAPITAL LETTER OMEGA WITH PSILI AND VARIA AND PROSGEGRAMMENI",
    "CAPITAL LETTER OMEGA WITH DASIA AND VARIA AND PROSGEGRAMMENI",
    "CAPITAL LETTER OMEGA WITH PSILI AND OXIA AND PROSGEGRAMMENI",
    "CAPITAL LETTER OMEGA WITH DASIA AND OXIA AND PROSGEGRAMMENI",
    "CAPITAL LETTER OMEGA WITH PSILI AND PERISPOMENI AND PROSGEGRAMMENI",
    "CAPITAL LETTER OMEGA WITH DASIA AND PERISPOMENI AND PROSGEGRAMMENI",
    "SMALL LETTER ALPHA WITH VRACHY;SMALL LETTER ALPHA WITH MACRON",
    "SMALL LETTER ALPHA WITH VARIA AND YPOGEGRAMMENI;SMALL LETTER ALPHA WITH YPOGEGRAMMENI",
    "SMALL LETTER ALPHA WITH OXIA AND YPOGEGRAMMENI"]),
  (0x1fb6, "GREEK ", [
    "SMALL LETTER ALPHA WITH PERISPOMENI",
    "SMALL LETTER ALPHA WITH PERISPOMENI AND YPOGEGRAMMENI;CAPITAL LETTER ALPHA WITH VRACHY",
    "CAPITAL LETTER ALPHA WITH MACRON;CAPITAL LETTER ALPHA WITH VARIA",
    "CAPITAL LETTER ALPHA WITH OXIA;CAPITAL LETTER ALPHA WITH PROSGEGRAMMENI;KORONIS",
    "PROSGEGRAMMENI;PSILI;PERISPOMENI;DIALYTIKA AND PERISPOMENI",
    "SMALL LETTER ETA WITH VARIA AND YPOGEGRAMMENI;SMALL LETTER ETA WITH YPOGEGRAMMENI",
    "SMALL LETTER ETA WITH OXIA AND YPOGEGRAMMENI"]),
  (0x1fc6, "GREEK ", [
    "SMALL LETTER ETA WITH PERISPOMENI;SMALL LETTER ETA WITH PERISPOMENI AND YPOGEGRAMMENI",
    "CAPITAL LETTER EPSILON WITH VARIA;CAPITAL LETTER EPSILON WITH OXIA",
    "CAPITAL LETTER ETA WITH VARIA;CAPITAL LETTER ETA WITH OXIA",
    "CAPITAL LETTER ETA WITH PROSGEGRAMMENI;PSILI AND VARIA;PSILI AND OXIA",
    "PSILI AND PERISPOMENI;SMALL LETTER IOTA WITH VRACHY;SMALL LETTER IOTA WITH MACRON",
    "SMALL LETTER IOTA WITH DIALYTIKA AND VARIA;SMALL LETTER IOTA WITH DIALYTIKA AND OXIA"]),
  (0x1fd6, "GREEK ", [
    "SMALL LETTER IOTA WITH PERISPOMENI;SMALL LETTER IOTA WITH DIALYTIKA AND PERISPOMENI",
    "CAPITAL LETTER IOTA WITH VRACHY;CAPITAL LETTER IOTA WITH MACRON",
    "CAPITAL LETTER IOTA WITH VARIA;CAPITAL LETTER IOTA WITH OXIA"]),
  (0x1fdd, "GREEK ", [
    "DASIA AND VARIA;DASIA AND OXIA;DASIA AND PERISPOMENI;SMALL LETTER UPSILON WITH VRACHY",
    "SMALL LETTER UPSILON WITH MACRON;SMALL LETTER UPSILON WITH DIALYTIKA AND VARIA",
    "SMALL LETTER UPSILON WITH DIALYTIKA AND OXIA;SMALL LETTER RHO WITH PSILI",
    "SMALL LETTER RHO WITH DASIA;SMALL LETTER UPSILON WITH PERISPOMENI",
    "SMALL LETTER UPSILON WITH DIALYTIKA AND PERISPOMENI;CAPITAL LETTER UPSILON WITH VRACHY",
    "CAPITAL LETTER UPSILON WITH MACRON;CAPITAL LETTER UPSILON WITH VARIA",
    "CAPITAL LETTER UPSILON WITH OXIA;CAPITAL LETTER RHO WITH DASIA;DIALYTIKA AND VARIA",
    "DIALYTIKA AND OXIA;VARIA"]),
  (0x1ff2, "GREEK SMALL LETTER OMEGA WITH ", [
    "VARIA AND YPOGEGRAMMENI;YPOGEGRAMMENI;OXIA AND YPOGEGRAMMENI"]),
  (0x1ff6, "GREEK ", [
    "SMALL LETTER OMEGA WITH PERISPOMENI",
    "SMALL LETTER OMEGA WITH PERISPOMENI AND YPOGEGRAMMENI;CAPITAL LETTER OMICRON WITH VARIA",
    "CAPITAL LETTER OMICRON WITH OXIA;CAPITAL LETTER OMEGA WITH VARIA",
    "CAPITAL LETTER OMEGA WITH OXIA;CAPITAL LETTER OMEGA WITH PROSGEGRAMMENI;OXIA;DASIA"])]

end HttpContract.Text.Names
