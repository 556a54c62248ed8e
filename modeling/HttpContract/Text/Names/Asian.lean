/-!
Names of characters from U+3000 to U+FFFF: the scripts of East Asia, and compatibility forms.
-/
namespace HttpContract.Text.Names

def asian : List (Nat × String × List String) := [
  (0x3000, "IDEOGRAPHIC ", ["SPACE;COMMA;FULL STOP"]),
  (0x3003, "", ["DITTO MARK;JAPANESE INDUSTRIAL STANDARD SYMBOL"]),
  (0x3005, "IDEOGRAPHIC ", ["ITERATION MARK;CLOSING MARK;NUMBER ZERO"]),
  (0x3008, "", [
    "LEFT ANGLE BRACKET;RIGHT ANGLE BRACKET;LEFT DOUBLE ANGLE BRACKET",
    "RIGHT DOUBLE ANGLE BRACKET;LEFT CORNER BRACKET;RIGHT CORNER BRACKET",
    "LEFT WHITE CORNER BRACKET;RIGHT WHITE CORNER BRACKET;LEFT BLACK LENTICULAR BRACKET",
    "RIGHT BLACK LENTICULAR BRACKET;POSTAL MARK;GETA MARK;LEFT TORTOISE SHELL BRACKET",
    "RIGHT TORTOISE SHELL BRACKET;LEFT WHITE LENTICULAR BRACKET",
    "RIGHT WHITE LENTICULAR BRACKET;LEFT WHITE TORTOISE SHELL BRACKET",
    "RIGHT WHITE TORTOISE SHELL BRACKET;LEFT WHITE SQUARE BRACKET;RIGHT WHITE SQUARE BRACKET",
    "WAVE DASH;REVERSED DOUBLE PRIME QUOTATION MARK;DOUBLE PRIME QUOTATION MARK",
    "LOW DOUBLE PRIME QUOTATION MARK;POSTAL MARK FACE"]),
  (0x3021, "HANGZHOU NUMERAL ", ["ONE;TWO;THREE;FOUR;FIVE;SIX;SEVEN;EIGHT;NINE"]),
  (0x302a, "IDEOGRAPHIC ", [
    "LEVEL TONE MARK;RISING TONE MARK;DEPARTING TONE MARK;ENTERING TONE MARK"]),
  (0x302e, "", ["HANGUL SINGLE DOT TONE MARK;HANGUL DOUBLE DOT TONE MARK;WAVY DASH"]),
  (0x3031, "VERTICAL KANA REPEAT ", [
    "MARK;WITH VOICED SOUND MARK;MARK UPPER HALF;WITH VOICED SOUND MARK UPPER HALF",
    "MARK LOWER HALF"]),
  (0x3036, "", ["CIRCLED POSTAL MARK;IDEOGRAPHIC TELEGRAPH LINE FEED SEPARATOR SYMBOL"]),
  (0x3038, "HANGZHOU NUMERAL ", ["TEN;TWENTY;THIRTY"]),
  (0x303b, "", ["VERTICAL IDEOGRAPHIC ITERATION MARK;MASU MARK;PART ALTERNATION MARK"]),
  (0x303e, "IDEOGRAPHIC ", ["VARIATION INDICATOR;HALF FILL SPACE"]),
  (0x3041, "HIRAGANA LETTER ", [
    "SMALL A;A;SMALL I;I;SMALL U;U;SMALL E;E;SMALL O;O;KA;GA;KI;GI;KU;GU;KE;GE;KO;GO;SA;ZA;SI",
    "ZI;SU;ZU;SE;ZE;SO;ZO;TA;DA;TI;DI;SMALL TU;TU;DU;TE;DE;TO;DO;NA;NI;NU;NE;NO;HA;BA;PA;HI",
    "BI;PI;HU;BU;PU;HE;BE;PE;HO;BO;PO;MA;MI;MU;ME;MO;SMALL YA;YA;SMALL YU;YU;SMALL YO;YO;RA",
    "RI;RU;RE;RO;SMALL WA;WA;WI;WE;WO;N;VU;SMALL KA;SMALL KE"]),
  (0x3099, "COMBINING KATAKANA-HIRAGANA ", ["VOICED SOUND MARK;SEMI-VOICED SOUND MARK"]),
  (0x309b, "KATAKANA-HIRAGANA ", ["VOICED SOUND MARK;SEMI-VOICED SOUND MARK"]),
  (0x309d, "HIRAGANA ", ["ITERATION MARK;VOICED ITERATION MARK;DIGRAPH YORI"]),
  (0x30a0, "", ["KATAKANA-HIRAGANA DOUBLE HYPHEN"]),
  (0x30a1, "KATAKANA LETTER ", [
    "SMALL A;A;SMALL I;I;SMALL U;U;SMALL E;E;SMALL O;O;KA;GA;KI;GI;KU;GU;KE;GE;KO;GO;SA;ZA;SI",
    "ZI;SU;ZU;SE;ZE;SO;ZO;TA;DA;TI;DI;SMALL TU;TU;DU;TE;DE;TO;DO;NA;NI;NU;NE;NO;HA;BA;PA;HI",
    "BI;PI;HU;BU;PU;HE;BE;PE;HO;BO;PO;MA;MI;MU;ME;MO;SMALL YA;YA;SMALL YU;YU;SMALL YO;YO;RA",
    "RI;RU;RE;RO;SMALL WA;WA;WI;WE;WO;N;VU;SMALL KA;SMALL KE;VA;VI;VE;VO"]),
  (0x30fb, "", ["KATAKANA MIDDLE DOT;KATAKANA-HIRAGANA PROLONGED SOUND MARK"]),
  (0x30fd, "KATAKANA ", ["ITERATION MARK;VOICED ITERATION MARK;DIGRAPH KOTO"]),
  (0x3105, "BOPOMOFO LETTER ", [
    "B;P;M;F;D;T;N;L;G;K;H;J;Q;X;ZH;CH;SH;R;Z;C;S;A;O;E;EH;AI;EI;AU;OU;AN;EN;ANG;ENG;ER;I;U",
    "IU;V;NG;GN;IH;O WITH DOT ABOVE;NN"]),
  (0x3131, "HANGUL LETTER ", [
    "KIYEOK;SSANGKIYEOK;KIYEOK-SIOS;NIEUN;NIEUN-CIEUC;NIEUN-HIEUH;TIKEUT;SSANGTIKEUT;RIEUL",
    "RIEUL-KIYEOK;RIEUL-MIEUM;RIEUL-PIEUP;RIEUL-SIOS;RIEUL-THIEUTH;RIEUL-PHIEUPH;RIEUL-HIEUH",
    "MIEUM;PIEUP;SSANGPIEUP;PIEUP-SIOS;SIOS;SSANGSIOS;IEUNG;CIEUC;SSANGCIEUC;CHIEUCH;KHIEUKH",
    "THIEUTH;PHIEUPH;HIEUH;A;AE;YA;YAE;EO;E;YEO;YE;O;WA;WAE;OE;YO;U;WEO;WE;WI;YU;EU;YI;I"]),
  (0x3164, "HANGUL ", [
    "FILLER;LETTER SSANGNIEUN;LETTER NIEUN-TIKEUT;LETTER NIEUN-SIOS;LETTER NIEUN-PANSIOS",
    "LETTER RIEUL-KIYEOK-SIOS;LETTER RIEUL-TIKEUT;LETTER RIEUL-PIEUP-SIOS",
    "LETTER RIEUL-PANSIOS;LETTER RIEUL-YEORINHIEUH;LETTER MIEUM-PIEUP;LETTER MIEUM-SIOS",
    "LETTER MIEUM-PANSIOS;LETTER KAPYEOUNMIEUM;LETTER PIEUP-KIYEOK;LETTER PIEUP-TIKEUT",
    "LETTER PIEUP-SIOS-KIYEOK;LETTER PIEUP-SIOS-TIKEUT;LETTER PIEUP-CIEUC",
    "LETTER PIEUP-THIEUTH;LETTER KAPYEOUNPIEUP;LETTER KAPYEOUNSSANGPIEUP;LETTER SIOS-KIYEOK",
    "LETTER SIOS-NIEUN;LETTER SIOS-TIKEUT;LETTER SIOS-PIEUP;LETTER SIOS-CIEUC;LETTER PANSIOS",
    "LETTER SSANGIEUNG;LETTER YESIEUNG;LETTER YESIEUNG-SIOS;LETTER YESIEUNG-PANSIOS",
    "LETTER KAPYEOUNPHIEUPH;LETTER SSANGHIEUH;LETTER YEORINHIEUH;LETTER YO-YA;LETTER YO-YAE",
    "LETTER YO-I;LETTER YU-YEO;LETTER YU-YE;LETTER YU-I;LETTER ARAEA;LETTER ARAEAE"]),
  (0x3190, "IDEOGRAPHIC ANNOTATION ", [
    "LINKING MARK;REVERSE MARK;ONE MARK;TWO MARK;THREE MARK;FOUR MARK;TOP MARK;MIDDLE MARK",
    "BOTTOM MARK;FIRST MARK;SECOND MARK;THIRD MARK;FOURTH MARK;HEAVEN MARK;EARTH MARK",
    "MAN MARK"]),
  (0x31a0, "BOPOMOFO LETTER ", [
    "BU;ZI;JI;GU;EE;ENN;OO;ONN;IR;ANN;INN;UNN;IM;NGG;AINN;AUNN;AM;OM;ONG;INNN"]),
  (0x31b4, "BOPOMOFO ", [
    "FINAL LETTER P;FINAL LETTER T;FINAL LETTER K;FINAL LETTER H;LETTER GH;LETTER LH",
    "LETTER ZY;FINAL LETTER G;LETTER GW;LETTER KW;LETTER OE;LETTER AH"]),
  (0x31c0, "CJK STROKE ", [
    "T;WG;XG;BXG;SW;HZZ;HZG;HP;HZWG;SZWG;HZT;HZZP;HPWG;HZW;HZZZ;N;H;S;P;SP;D;HZ;HG;SZ;SWZ;ST",
    "SG;PD;PZ;TN;SZZ;SWG;HXWG;HZZZG;PG;Q"]),
  (0x31f0, "KATAKANA LETTER SMALL ", ["KU;SI;SU;TO;NU;HA;HI;HU;HE;HO;MU;RA;RI;RU;RE;RO"]),
  (0x3200, "PARENTHESIZED HANGUL ", [
    "KIYEOK;NIEUN;TIKEUT;RIEUL;MIEUM;PIEUP;SIOS;IEUNG;CIEUC;CHIEUCH;KHIEUKH;THIEUTH;PHIEUPH",
    "HIEUH;KIYEOK A;NIEUN A;TIKEUT A;RIEUL A;MIEUM A;PIEUP A;SIOS A;IEUNG A;CIEUC A;CHIEUCH A",
    "KHIEUKH A;THIEUTH A;PHIEUPH A;HIEUH A;CIEUC U"]),
  (0x321d, "PARENTHESIZED KOREAN CHARACTER ", ["OJEON;O HU"]),
  (0x3220, "PARENTHESIZED IDEOGRAPH ", [
    "ONE;TWO;THREE;FOUR;FIVE;SIX;SEVEN;EIGHT;NINE;TEN;MOON;FIRE;WATER;WOOD;METAL;EARTH;SUN",
    "STOCK;HAVE;SOCIETY;NAME;SPECIAL;FINANCIAL;CONGRATULATION;LABOR;REPRESENT;CALL;STUDY",
    "SUPERVISE;ENTERPRISE;RESOURCE;ALLIANCE;FESTIVAL;REST;SELF;REACH"]),
  (0x3244, "CIRCLED ", [
    "IDEOGRAPH QUESTION;IDEOGRAPH KINDERGARTEN;IDEOGRAPH SCHOOL;IDEOGRAPH KOTO",
    "NUMBER TEN ON BLACK SQUARE;NUMBER TWENTY ON BLACK SQUARE;NUMBER THIRTY ON BLACK SQUARE",
    "NUMBER FORTY ON BLACK SQUARE;NUMBER FIFTY ON BLACK SQUARE;NUMBER SIXTY ON BLACK SQUARE",
    "NUMBER SEVENTY ON BLACK SQUARE;NUMBER EIGHTY ON BLACK SQUARE"]),
  (0x3250, "", ["PARTNERSHIP SIGN"]),
  (0x3251, "CIRCLED ", [
    "NUMBER TWENTY ONE;NUMBER TWENTY TWO;NUMBER TWENTY THREE;NUMBER TWENTY FOUR",
    "NUMBER TWENTY FIVE;NUMBER TWENTY SIX;NUMBER TWENTY SEVEN;NUMBER TWENTY EIGHT",
    "NUMBER TWENTY NINE;NUMBER THIRTY;NUMBER THIRTY ONE;NUMBER THIRTY TWO;NUMBER THIRTY THREE",
    "NUMBER THIRTY FOUR;NUMBER THIRTY FIVE;HANGUL KIYEOK;HANGUL NIEUN;HANGUL TIKEUT",
    "HANGUL RIEUL;HANGUL MIEUM;HANGUL PIEUP;HANGUL SIOS;HANGUL IEUNG;HANGUL CIEUC",
    "HANGUL CHIEUCH;HANGUL KHIEUKH;HANGUL THIEUTH;HANGUL PHIEUPH;HANGUL HIEUH;HANGUL KIYEOK A",
    "HANGUL NIEUN A;HANGUL TIKEUT A;HANGUL RIEUL A;HANGUL MIEUM A;HANGUL PIEUP A",
    "HANGUL SIOS A;HANGUL IEUNG A;HANGUL CIEUC A;HANGUL CHIEUCH A;HANGUL KHIEUKH A",
    "HANGUL THIEUTH A;HANGUL PHIEUPH A;HANGUL HIEUH A;KOREAN CHARACTER CHAMKO",
    "KOREAN CHARACTER JUEUI;HANGUL IEUNG U"]),
  (0x327f, "", ["KOREAN STANDARD SYMBOL"]),
  (0x3280, "CIRCLED IDEOGRAPH ", [
    "ONE;TWO;THREE;FOUR;FIVE;SIX;SEVEN;EIGHT;NINE;TEN;MOON;FIRE;WATER;WOOD;METAL;EARTH;SUN",
    "STOCK;HAVE;SOCIETY;NAME;SPECIAL;FINANCIAL;CONGRATULATION;LABOR;SECRET;MALE;FEMALE",
    "SUITABLE;EXCELLENT;PRINT;ATTENTION;ITEM;REST;COPY;CORRECT;HIGH;CENTRE;LOW;LEFT;RIGHT",
    "MEDICINE;RELIGION;STUDY;SUPERVISE;ENTERPRISE;RESOURCE;ALLIANCE;NIGHT"]),
  (0x32b1, "CIRCLED NUMBER ", [
    "THIRTY SIX;THIRTY SEVEN;THIRTY EIGHT;THIRTY NINE;FORTY;FORTY ONE;FORTY TWO;FORTY THREE",
    "FORTY FOUR;FORTY FIVE;FORTY SIX;FORTY SEVEN;FORTY EIGHT;FORTY NINE;FIFTY"]),
  (0x32c0, "IDEOGRAPHIC TELEGRAPH SYMBOL FOR ", [
    "JANUARY;FEBRUARY;MARCH;APRIL;MAY;JUNE;JULY;AUGUST;SEPTEMBER;OCTOBER;NOVEMBER;DECEMBER"]),
  (0x32cc, "SQUARE ", ["HG;ERG;EV"]), (0x32cf, "", ["LIMITED LIABILITY SIGN"]),
  (0x32d0, "CIRCLED KATAKANA ", [
    "A;I;U;E;O;KA;KI;KU;KE;KO;SA;SI;SU;SE;SO;TA;TI;TU;TE;TO;NA;NI;NU;NE;NO;HA;HI;HU;HE;HO;MA",
    "MI;MU;ME;MO;YA;YU;YO;RA;RI;RU;RE;RO;WA;WI;WE;WO"]),
  (0x32ff, "SQUARE ", [
    "ERA NAME REIWA;APAATO;ARUHUA;ANPEA;AARU;ININGU;INTI;UON;ESUKUUDO;EEKAA;ONSU;OOMU;KAIRI",
    "KARATTO;KARORII;GARON;GANMA;GIGA;GINII;KYURII;GIRUDAA;KIRO;KIROGURAMU;KIROMEETORU",
    "KIROWATTO;GURAMU;GURAMUTON;KURUZEIRO;KUROONE;KEESU;KORUNA;KOOPO;SAIKURU;SANTIIMU;SIRINGU",
    "SENTI;SENTO;DAASU;DESI;DORU;TON;NANO;NOTTO;HAITU;PAASENTO;PAATU;BAARERU;PIASUTORU;PIKURU",
    "PIKO;BIRU;HUARADDO;HUIITO;BUSSYERU;HURAN;HEKUTAARU;PESO;PENIHI;HERUTU;PENSU;PEEZI;BEETA",
    "POINTO;BORUTO;HON;PONDO;HOORU;HOON;MAIKURO;MAIRU;MAHHA;MARUKU;MANSYON;MIKURON;MIRI",
    "MIRIBAARU;MEGA;MEGATON;MEETORU;YAADO;YAARU;YUAN;RITTORU;RIRA;RUPII;RUUBURU;REMU;RENTOGEN",
    "WATTO"]),
  (0x3358, "IDEOGRAPHIC TELEGRAPH SYMBOL FOR HOUR ", [
    "ZERO;ONE;TWO;THREE;FOUR;FIVE;SIX;SEVEN;EIGHT;NINE;TEN;ELEVEN;TWELVE;THIRTEEN;FOURTEEN",
    "FIFTEEN;SIXTEEN;SEVENTEEN;EIGHTEEN;NINETEEN;TWENTY;TWENTY-ONE;TWENTY-TWO;TWENTY-THREE",
    "TWENTY-FOUR"]),
  (0x3371, "SQUARE ", [
    "HPA;DA;AU;BAR;OV;PC;DM;DM SQUARED;DM CUBED;IU;ERA NAME HEISEI;ERA NAME SYOUWA",
    "ERA NAME TAISYOU;ERA NAME MEIZI;CORPORATION;PA AMPS;NA;MU A;MA;KA;KB;MB;GB;CAL;KCAL;PF",
    "NF;MU F;MU G;MG;KG;HZ;KHZ;MHZ;GHZ;THZ;MU L;ML;DL;KL;FM;NM;MU M;MM;CM;KM;MM SQUARED",
    "CM SQUARED;M SQUARED;KM SQUARED;MM CUBED;CM CUBED;M CUBED;KM CUBED;M OVER S",
    "M OVER S SQUARED;PA;KPA;MPA;GPA;RAD;RAD OVER S;RAD OVER S SQUARED;PS;NS;MU S;MS;PV;NV",
    "MU V;MV;KV;MV MEGA;PW;NW;MU W;MW;KW;MW MEGA;K OHM;M OHM;AM;BQ;CC;CD;C OVER KG;CO;DB;GY",
    "HA;HP;IN;KK;KM CAPITAL;KT;LM;LN;LOG;LX;MB SMALL;MIL;MOL;PH;PM;PPM;PR;SR;SV;WB;V OVER M",
    "A OVER M"]),
  (0x33e0, "IDEOGRAPHIC TELEGRAPH SYMBOL FOR DAY ", [
    "ONE;TWO;THREE;FOUR;FIVE;SIX;SEVEN;EIGHT;NINE;TEN;ELEVEN;TWELVE;THIRTEEN;FOURTEEN;FIFTEEN",
    "SIXTEEN;SEVENTEEN;EIGHTEEN;NINETEEN;TWENTY;TWENTY-ONE;TWENTY-TWO;TWENTY-THREE",
    "TWENTY-FOUR;TWENTY-FIVE;TWENTY-SIX;TWENTY-SEVEN;TWENTY-EIGHT;TWENTY-NINE;THIRTY",
    "THIRTY-ONE"]),
  (0x33ff, "", ["SQUARE GAL"]),
  (0x4dc0, "HEXAGRAM FOR ", [
    "THE CREATIVE HEAVEN;THE RECEPTIVE EARTH;DIFFICULTY AT THE BEGINNING;YOUTHFUL FOLLY",
    "WAITING;CONFLICT;THE ARMY;HOLDING TOGETHER;SMALL TAMING;TREADING;PEACE;STANDSTILL",
    "FELLOWSHIP;GREAT POSSESSION;MODESTY;ENTHUSIASM;FOLLOWING;WORK ON THE DECAYED;APPROACH",
    "CONTEMPLATION;BITING THROUGH;GRACE;SPLITTING APART;RETURN;INNOCENCE;GREAT TAMING",
    "MOUTH CORNERS;GREAT PREPONDERANCE;THE ABYSMAL WATER;THE CLINGING FIRE;INFLUENCE;DURATION",
    "RETREAT;GREAT POWER;PROGRESS;DARKENING OF THE LIGHT;THE FAMILY;OPPOSITION;OBSTRUCTION",
    "DELIVERANCE;DECREASE;INCREASE;BREAKTHROUGH;COMING TO MEET;GATHERING TOGETHER",
    "PUSHING UPWARD;OPPRESSION;THE WELL;REVOLUTION;THE CAULDRON;THE AROUSING THUNDER",
    "THE KEEPING STILL MOUNTAIN;DEVELOPMENT;THE MARRYING MAIDEN;ABUNDANCE;THE WANDERER",
    "THE GENTLE WIND;THE JOYOUS LAKE;DISPERSION;LIMITATION;INNER TRUTH;SMALL PREPONDERANCE",
    "AFTER COMPLETION;BEFORE COMPLETION"]),
  (0xa000, "YI SYLLABLE ", [
    "IT;IX;I;IP;IET;IEX;IE;IEP;AT;AX;A;AP;UOX;UO;UOP;OT;OX;O;OP;EX;E;WU;BIT;BIX;BI;BIP;BIET",
    "BIEX;BIE;BIEP;BAT;BAX;BA;BAP;BUOX;BUO;BUOP;BOT;BOX;BO;BOP;BEX;BE;BEP;BUT;BUX;BU;BUP;BURX",
    "BUR;BYT;BYX;BY;BYP;BYRX;BYR;PIT;PIX;PI;PIP;PIEX;PIE;PIEP;PAT;PAX;PA;PAP;PUOX;PUO;PUOP",
    "POT;POX;PO;POP;PUT;PUX;PU;PUP;PURX;PUR;PYT;PYX;PY;PYP;PYRX;PYR;BBIT;BBIX;BBI;BBIP;BBIET",
    "BBIEX;BBIE;BBIEP;BBAT;BBAX;BBA;BBAP;BBUOX;BBUO;BBUOP;BBOT;BBOX;BBO;BBOP;BBEX;BBE;BBEP",
    "BBUT;BBUX;BBU;BBUP;BBURX;BBUR;BBYT;BBYX;BBY;BBYP;NBIT;NBIX;NBI;NBIP;NBIEX;NBIE;NBIEP",
    "NBAT;NBAX;NBA;NBAP;NBOT;NBOX;NBO;NBOP;NBUT;NBUX;NBU;NBUP;NBURX;NBUR;NBYT;NBYX;NBY;NBYP",
    "NBYRX;NBYR;HMIT;HMIX;HMI;HMIP;HMIEX;HMIE;HMIEP;HMAT;HMAX;HMA;HMAP;HMUOX;HMUO;HMUOP;HMOT",
    "HMOX;HMO;HMOP;HMUT;HMUX;HMU;HMUP;HMURX;HMUR;HMYX;HMY;HMYP;HMYRX;HMYR;MIT;MIX;MI;MIP;MIEX",
    "MIE;MIEP;MAT;MAX;MA;MAP;MUOT;MUOX;MUO;MUOP;MOT;MOX;MO;MOP;MEX;ME;MUT;MUX;MU;MUP;MURX;MUR",
    "MYT;MYX;MY;MYP;FIT;FIX;FI;FIP;FAT;FAX;FA;FAP;FOX;FO;FOP;FUT;FUX;FU;FUP;FURX;FUR;FYT;FYX",
    "FY;FYP;VIT;VIX;VI;VIP;VIET;VIEX;VIE;VIEP;VAT;VAX;VA;VAP;VOT;VOX;VO;VOP;VEX;VEP;VUT;VUX",
    "VU;VUP;VURX;VUR;VYT;VYX;VY;VYP;VYRX;VYR;DIT;DIX;DI;DIP;DIEX;DIE;DIEP;DAT;DAX;DA;DAP;DUOX",
    "DUO;DOT;DOX;DO;DOP;DEX;DE;DEP;DUT;DUX;DU;DUP;DURX;DUR;TIT;TIX;TI;TIP;TIEX;TIE;TIEP;TAT",
    "TAX;TA;TAP;TUOT;TUOX;TUO;TUOP;TOT;TOX;TO;TOP;TEX;TE;TEP;TUT;TUX;TU;TUP;TURX;TUR;DDIT",
    "DDIX;DDI;DDIP;DDIEX;DDIE;DDIEP;DDAT;DDAX;DDA;DDAP;DDUOX;DDUO;DDUOP;DDOT;DDOX;DDO;DDOP",
    "DDEX;DDE;DDEP;DDUT;DDUX;DDU;DDUP;DDURX;DDUR;NDIT;NDIX;NDI;NDIP;NDIEX;NDIE;NDAT;NDAX;NDA",
    "NDAP;NDOT;NDOX;NDO;NDOP;NDEX;NDE;NDEP;NDUT;NDUX;NDU;NDUP;NDURX;NDUR;HNIT;HNIX;HNI;HNIP",
    "HNIET;HNIEX;HNIE;HNIEP;HNAT;HNAX;HNA;HNAP;HNUOX;HNUO;HNOT;HNOX;HNOP;HNEX;HNE;HNEP;HNUT",
    "NIT;NIX;NI;NIP;NIEX;NIE;NIEP;NAX;NA;NAP;NUOX;NUO;NUOP;NOT;NOX;NO;NOP;NEX;NE;NEP;NUT;NUX",
    "NU;NUP;NURX;NUR;HLIT;HLIX;HLI;HLIP;HLIEX;HLIE;HLIEP;HLAT;HLAX;HLA;HLAP;HLUOX;HLUO;HLUOP",
    "HLOX;HLO;HLOP;HLEX;HLE;HLEP;HLUT;HLUX;HLU;HLUP;HLURX;HLUR;HLYT;HLYX;HLY;HLYP;HLYRX;HLYR",
    "LIT;LIX;LI;LIP;LIET;LIEX;LIE;LIEP;LAT;LAX;LA;LAP;LUOT;LUOX;LUO;LUOP;LOT;LOX;LO;LOP;LEX",
    "LE;LEP;LUT;LUX;LU;LUP;LURX;LUR;LYT;LYX;LY;LYP;LYRX;LYR;GIT;GIX;GI;GIP;GIET;GIEX;GIE;GIEP",
    "GAT;GAX;GA;GAP;GUOT;GUOX;GUO;GUOP;GOT;GOX;GO;GOP;GET;GEX;GE;GEP;GUT;GUX;GU;GUP;GURX;GUR",
    "KIT;KIX;KI;KIP;KIEX;KIE;KIEP;KAT;KAX;KA;KAP;KUOX;KUO;KUOP;KOT;KOX;KO;KOP;KET;KEX;KE;KEP",
    "KUT;KUX;KU;KUP;KURX;KUR;GGIT;GGIX;GGI;GGIEX;GGIE;GGIEP;GGAT;GGAX;GGA;GGAP;GGUOT;GGUOX",
    "GGUO;GGUOP;GGOT;GGOX;GGO;GGOP;GGET;GGEX;GGE;GGEP;GGUT;GGUX;GGU;GGUP;GGURX;GGUR;MGIEX",
    "MGIE;MGAT;MGAX;MGA;MGAP;MGUOX;MGUO;MGUOP;MGOT;MGOX;MGO;MGOP;MGEX;MGE;MGEP;MGUT;MGUX;MGU",
    "MGUP;MGURX;MGUR;HXIT;HXIX;HXI;HXIP;HXIET;HXIEX;HXIE;HXIEP;HXAT;HXAX;HXA;HXAP;HXUOT;HXUOX",
    "HXUO;HXUOP;HXOT;HXOX;HXO;HXOP;HXEX;HXE;HXEP;NGIEX;NGIE;NGIEP;NGAT;NGAX;NGA;NGAP;NGUOT",
    "NGUOX;NGUO;NGOT;NGOX;NGO;NGOP;NGEX;NGE;NGEP;HIT;HIEX;HIE;HAT;HAX;HA;HAP;HUOT;HUOX;HUO",
    "HUOP;HOT;HOX;HO;HOP;HEX;HE;HEP;WAT;WAX;WA;WAP;WUOX;WUO;WUOP;WOX;WO;WOP;WEX;WE;WEP;ZIT",
    "ZIX;ZI;ZIP;ZIEX;ZIE;ZIEP;ZAT;ZAX;ZA;ZAP;ZUOX;ZUO;ZUOP;ZOT;ZOX;ZO;ZOP;ZEX;ZE;ZEP;ZUT;ZUX",
    "ZU;ZUP;ZURX;ZUR;ZYT;ZYX;ZY;ZYP;ZYRX;ZYR;CIT;CIX;CI;CIP;CIET;CIEX;CIE;CIEP;CAT;CAX;CA;CAP",
    "CUOX;CUO;CUOP;COT;COX;CO;COP;CEX;CE;CEP;CUT;CUX;CU;CUP;CURX;CUR;CYT;CYX;CY;CYP;CYRX;CYR",
    "ZZIT;ZZIX;ZZI;ZZIP;ZZIET;ZZIEX;ZZIE;ZZIEP;ZZAT;ZZAX;ZZA;ZZAP;ZZOX;ZZO;ZZOP;ZZEX;ZZE;ZZEP",
    "ZZUX;ZZU;ZZUP;ZZURX;ZZUR;ZZYT;ZZYX;ZZY;ZZYP;ZZYRX;ZZYR;NZIT;NZIX;NZI;NZIP;NZIEX;NZIE",
    "NZIEP;NZAT;NZAX;NZA;NZAP;NZUOX;NZUO;NZOX;NZOP;NZEX;NZE;NZUX;NZU;NZUP;NZURX;NZUR;NZYT",
    "NZYX;NZY;NZYP;NZYRX;NZYR;SIT;SIX;SI;SIP;SIEX;SIE;SIEP;SAT;SAX;SA;SAP;SUOX;SUO;SUOP;SOT",
    "SOX;SO;SOP;SEX;SE;SEP;SUT;SUX;SU;SUP;SURX;SUR;SYT;SYX;SY;SYP;SYRX;SYR;SSIT;SSIX;SSI;SSIP",
    "SSIEX;SSIE;SSIEP;SSAT;SSAX;SSA;SSAP;SSOT;SSOX;SSO;SSOP;SSEX;SSE;SSEP;SSUT;SSUX;SSU;SSUP",
    "SSYT;SSYX;SSY;SSYP;SSYRX;SSYR;ZHAT;ZHAX;ZHA;ZHAP;ZHUOX;ZHUO;ZHUOP;ZHOT;ZHOX;ZHO;ZHOP",
    "ZHET;ZHEX;ZHE;ZHEP;ZHUT;ZHUX;ZHU;ZHUP;ZHURX;ZHUR;ZHYT;ZHYX;ZHY;ZHYP;ZHYRX;ZHYR;CHAT;CHAX",
    "CHA;CHAP;CHUOT;CHUOX;CHUO;CHUOP;CHOT;CHOX;CHO;CHOP;CHET;CHEX;CHE;CHEP;CHUX;CHU;CHUP",
    "CHURX;CHUR;CHYT;CHYX;CHY;CHYP;CHYRX;CHYR;RRAX;RRA;RRUOX;RRUO;RROT;RROX;RRO;RROP;RRET",
    "RREX;RRE;RREP;RRUT;RRUX;RRU;RRUP;RRURX;RRUR;RRYT;RRYX;RRY;RRYP;RRYRX;RRYR;NRAT;NRAX;NRA",
    "NRAP;NROX;NRO;NROP;NRET;NREX;NRE;NREP;NRUT;NRUX;NRU;NRUP;NRURX;NRUR;NRYT;NRYX;NRY;NRYP",
    "NRYRX;NRYR;SHAT;SHAX;SHA;SHAP;SHUOX;SHUO;SHUOP;SHOT;SHOX;SHO;SHOP;SHET;SHEX;SHE;SHEP",
    "SHUT;SHUX;SHU;SHUP;SHURX;SHUR;SHYT;SHYX;SHY;SHYP;SHYRX;SHYR;RAT;RAX;RA;RAP;RUOX;RUO;RUOP",
    "ROT;ROX;RO;ROP;REX;RE;REP;RUT;RUX;RU;RUP;RURX;RUR;RYT;RYX;RY;RYP;RYRX;RYR;JIT;JIX;JI;JIP",
    "JIET;JIEX;JIE;JIEP;JUOT;JUOX;JUO;JUOP;JOT;JOX;JO;JOP;JUT;JUX;JU;JUP;JURX;JUR;JYT;JYX;JY",
    "JYP;JYRX;JYR;QIT;QIX;QI;QIP;QIET;QIEX;QIE;QIEP;QUOT;QUOX;QUO;QUOP;QOT;QOX;QO;QOP;QUT;QUX",
    "QU;QUP;QURX;QUR;QYT;QYX;QY;QYP;QYRX;QYR;JJIT;JJIX;JJI;JJIP;JJIET;JJIEX;JJIE;JJIEP;JJUOX",
    "JJUO;JJUOP;JJOT;JJOX;JJO;JJOP;JJUT;JJUX;JJU;JJUP;JJURX;JJUR;JJYT;JJYX;JJY;JJYP;NJIT;NJIX",
    "NJI;NJIP;NJIET;NJIEX;NJIE;NJIEP;NJUOX;NJUO;NJOT;NJOX;NJO;NJOP;NJUX;NJU;NJUP;NJURX;NJUR",
    "NJYT;NJYX;NJY;NJYP;NJYRX;NJYR;NYIT;NYIX;NYI;NYIP;NYIET;NYIEX;NYIE;NYIEP;NYUOX;NYUO;NYUOP",
    "NYOT;NYOX;NYO;NYOP;NYUT;NYUX;NYU;NYUP;XIT;XIX;XI;XIP;XIET;XIEX;XIE;XIEP;XUOX;XUO;XOT;XOX",
    "XO;XOP;XYT;XYX;XY;XYP;XYRX;XYR;YIT;YIX;YI;YIP;YIET;YIEX;YIE;YIEP;YUOT;YUOX;YUO;YUOP;YOT",
    "YOX;YO;YOP;YUT;YUX;YU;YUP;YURX;YUR;YYT;YYX;YY;YYP;YYRX;YYR"]),
  (0xa490, "YI RADICAL ", [
    "QOT;LI;KIT;NYIP;CYP;SSI;GGOP;GEP;MI;HXIT;LYR;BBUT;MOP;YO;PUT;HXUO;TAT;GA;ZUP;CYT;DDUR",
    "BUR;GGUO;NYOP;TU;OP;JJUT;ZOT;PYT;HMO;YIT;VUR;SHY;VEP;ZA;JO;NZUP;JJY;GOT;JJIE;WO;DU;SHUR",
    "LIE;CY;CUOP;CIP;HXOP;SHAT;ZUR;SHOP;CHE;ZZIET;NBIE;KE"]),
  (0xa4d0, "LISU LETTER ", [
    "BA;PA;PHA;DA;TA;THA;GA;KA;KHA;JA;CA;CHA;DZA;TSA;TSHA;MA;NA;LA;SA;ZHA;ZA;NGA;HA;XA;HHA;FA",
    "WA;SHA;YA;GHA;A;AE;E;EU;I;O;U;UE;UH;OE;TONE MYA TI;TONE NA PO;TONE MYA CYA;TONE MYA BO",
    "TONE MYA NA;TONE MYA JEU"]),
  (0xa4fe, "LISU PUNCTUATION ", ["COMMA;FULL STOP"]),
  (0xa500, "VAI SYLLABLE ", [
    "EE;EEN;HEE;WEE;WEEN;PEE;BHEE;BEE;MBEE;KPEE;MGBEE;GBEE;FEE;VEE;TEE;THEE;DHEE;DHHEE;LEE",
    "REE;DEE;NDEE;SEE;SHEE;ZEE;ZHEE;CEE;JEE;NJEE;YEE;KEE;NGGEE;GEE;MEE;NEE;NYEE;I;IN;HI;HIN",
    "WI;WIN;PI;BHI;BI;MBI;KPI;MGBI;GBI;FI;VI;TI;THI;DHI;DHHI;LI;RI;DI;NDI;SI;SHI;ZI;ZHI;CI;JI",
    "NJI;YI;KI;NGGI;GI;MI;NI;NYI;A;AN;NGAN;HA;HAN;WA;WAN;PA;BHA;BA;MBA;KPA;KPAN;MGBA;GBA;FA",
    "VA;TA;THA;DHA;DHHA;LA;RA;DA;NDA;SA;SHA;ZA;ZHA;CA;JA;NJA;YA;KA;KAN;NGGA;GA;MA;NA;NYA;OO",
    "OON;HOO;WOO;WOON;POO;BHOO;BOO;MBOO;KPOO;MGBOO;GBOO;FOO;VOO;TOO;THOO;DHOO;DHHOO;LOO;ROO",
    "DOO;NDOO;SOO;SHOO;ZOO;ZHOO;COO;JOO;NJOO;YOO;KOO;NGGOO;GOO;MOO;NOO;NYOO;U;UN;HU;HUN;WU",
    "WUN;PU;BHU;BU;MBU;KPU;MGBU;GBU;FU;VU;TU;THU;DHU;DHHU;LU;RU;DU;NDU;SU;SHU;ZU;ZHU;CU;JU",
    "NJU;YU;KU;NGGU;GU;MU;NU;NYU;O;ON;NGON;HO;HON;WO;WON;PO;BHO;BO;MBO;KPO;MGBO;GBO;GBON;FO",
    "VO;TO;THO;DHO;DHHO;LO;RO;DO;NDO;SO;SHO;ZO;ZHO;CO;JO;NJO;YO;KO;NGGO;GO;MO;NO;NYO;E;EN",
    "NGEN;HE;HEN;WE;WEN;PE;BHE;BE;MBE;KPE;KPEN;MGBE;GBE;GBEN;FE;VE;TE;THE;DHE;DHHE;LE;RE;DE",
    "NDE;SE;SHE;ZE;ZHE;CE;JE;NJE;YE;KE;NGGE;NGGEN;GE;GEN;ME;NE;NYE;NG;LENGTHENER"]),
  (0xa60d, "VAI ", [
    "COMMA;FULL STOP;QUESTION MARK;SYLLABLE NDOLE FA;SYLLABLE NDOLE KA;SYLLABLE NDOLE SOO",
    "SYMBOL FEENG;SYMBOL KEENG;SYMBOL TING;SYMBOL NII;SYMBOL BANG;SYMBOL FAA;SYMBOL TAA",
    "SYMBOL DANG;SYMBOL DOONG;SYMBOL KUNG;SYMBOL TONG;SYMBOL DO-O;SYMBOL JONG;DIGIT ZERO",
    "DIGIT ONE;DIGIT TWO;DIGIT THREE;DIGIT FOUR;DIGIT FIVE;DIGIT SIX;DIGIT SEVEN;DIGIT EIGHT",
    "DIGIT NINE;SYLLABLE NDOLE MA;SYLLABLE NDOLE DO"]),
  (0xa640, "CYRILLIC ", [
    "CAPITAL LETTER ZEMLYA;SMALL LETTER ZEMLYA;CAPITAL LETTER DZELO;SMALL LETTER DZELO",
    "CAPITAL LETTER REVERSED DZE;SMALL LETTER REVERSED DZE;CAPITAL LETTER IOTA",
    "SMALL LETTER IOTA;CAPITAL LETTER DJERV;SMALL LETTER DJERV;CAPITAL LETTER MONOGRAPH UK",
    "SMALL LETTER MONOGRAPH UK;CAPITAL LETTER BROAD OMEGA;SMALL LETTER BROAD OMEGA",
    "CAPITAL LETTER NEUTRAL YER;SMALL LETTER NEUTRAL YER;CAPITAL LETTER YERU WITH BACK YER",
    "SMALL LETTER YERU WITH BACK YER;CAPITAL LETTER IOTIFIED YAT;SMALL LETTER IOTIFIED YAT",
    "CAPITAL LETTER REVERSED YU;SMALL LETTER REVERSED YU;CAPITAL LETTER IOTIFIED A",
    "SMALL LETTER IOTIFIED A;CAPITAL LETTER CLOSED LITTLE YUS;SMALL LETTER CLOSED LITTLE YUS",
    "CAPITAL LETTER BLENDED YUS;SMALL LETTER BLENDED YUS",
    "CAPITAL LETTER IOTIFIED CLOSED LITTLE YUS;SMALL LETTER IOTIFIED CLOSED LITTLE YUS",
    "CAPITAL LETTER YN;SMALL LETTER YN;CAPITAL LETTER REVERSED TSE;SMALL LETTER REVERSED TSE",
    "CAPITAL LETTER SOFT DE;SMALL LETTER SOFT DE;CAPITAL LETTER SOFT EL;SMALL LETTER SOFT EL",
    "CAPITAL LETTER SOFT EM;SMALL LETTER SOFT EM;CAPITAL LETTER MONOCULAR O",
    "SMALL LETTER MONOCULAR O;CAPITAL LETTER BINOCULAR O;SMALL LETTER BINOCULAR O",
    "CAPITAL LETTER DOUBLE MONOCULAR O;SMALL LETTER DOUBLE MONOCULAR O;LETTER MULTIOCULAR O"]),
  (0xa66f, "COMBINING CYRILLIC ", [
    "VZMET;TEN MILLIONS SIGN;HUNDRED MILLIONS SIGN;THOUSAND MILLIONS SIGN"]),
  (0xa673, "", ["SLAVONIC ASTERISK"]),
  (0xa674, "COMBINING CYRILLIC LETTER ", ["UKRAINIAN IE;I;YI;U;HARD SIGN;YERU;SOFT SIGN;OMEGA"]),
  (0xa67c, "COMBINING CYRILLIC ", ["KAVYKA;PAYEROK"]),
  (0xa67e, "CYRILLIC ", [
    "KAVYKA;PAYEROK;CAPITAL LETTER DWE;SMALL LETTER DWE;CAPITAL LETTER DZWE;SMALL LETTER DZWE",
    "CAPITAL LETTER ZHWE;SMALL LETTER ZHWE;CAPITAL LETTER CCHE;SMALL LETTER CCHE",
    "CAPITAL LETTER DZZE;SMALL LETTER DZZE;CAPITAL LETTER TE WITH MIDDLE HOOK",
    "SMALL LETTER TE WITH MIDDLE HOOK;CAPITAL LETTER TWE;SMALL LETTER TWE;CAPITAL LETTER TSWE",
    "SMALL LETTER TSWE;CAPITAL LETTER TSSE;SMALL LETTER TSSE;CAPITAL LETTER TCHE",
    "SMALL LETTER TCHE;CAPITAL LETTER HWE;SMALL LETTER HWE;CAPITAL LETTER SHWE",
    "SMALL LETTER SHWE;CAPITAL LETTER DOUBLE O;SMALL LETTER DOUBLE O;CAPITAL LETTER CROSSED O",
    "SMALL LETTER CROSSED O"]),
  (0xa69c, "MODIFIER LETTER CYRILLIC ", ["HARD SIGN;SOFT SIGN"]),
  (0xa69e, "COMBINING CYRILLIC LETTER ", ["EF;IOTIFIED E"]),
  (0xa6a0, "BAMUM LETTER ", [
    "A;KA;U;KU;EE;REE;TAE;O;NYI;I;LA;PA;RII;RIEE;LEEEE;MEEEE;TAA;NDAA;NJAEM;M;SUU;MU;SHII;SI",
    "SHEUX;SEUX;KYEE;KET;NUAE;NU;NJUAE;YOQ;SHU;YUQ;YA;NSHA;KEUX;PEUX;NJEE;NTEE;PUE;WUE;PEE",
    "FEE;RU;LU;MI;NI;REUX;RAE;KEN;NGKWAEN;NGGA;NGA;SHO;PUAE;FU;FOM;WA;NA;LI;PI;LOQ;KO;MBEN",
    "REN;MEN;MA;TI;KI;MO;MBAA;TET;KPA;TEN;NTUU;SAMBA;FAAMAE;KOVUU;KOGHOM"]),
  (0xa6f0, "BAMUM ", [
    "COMBINING MARK KOQNDON;COMBINING MARK TUKWENTIS;NJAEMLI;FULL STOP;COLON;COMMA;SEMICOLON",
    "QUESTION MARK"]),
  (0xa700, "MODIFIER LETTER ", [
    "CHINESE TONE YIN PING;CHINESE TONE YANG PING;CHINESE TONE YIN SHANG",
    "CHINESE TONE YANG SHANG;CHINESE TONE YIN QU;CHINESE TONE YANG QU;CHINESE TONE YIN RU",
    "CHINESE TONE YANG RU;EXTRA-HIGH DOTTED TONE BAR;HIGH DOTTED TONE BAR;MID DOTTED TONE BAR",
    "LOW DOTTED TONE BAR;EXTRA-LOW DOTTED TONE BAR;EXTRA-HIGH DOTTED LEFT-STEM TONE BAR",
    "HIGH DOTTED LEFT-STEM TONE BAR;MID DOTTED LEFT-STEM TONE BAR",
    "LOW DOTTED LEFT-STEM TONE BAR;EXTRA-LOW DOTTED LEFT-STEM TONE BAR",
    "EXTRA-HIGH LEFT-STEM TONE BAR;HIGH LEFT-STEM TONE BAR;MID LEFT-STEM TONE BAR",
    "LOW LEFT-STEM TONE BAR;EXTRA-LOW LEFT-STEM TONE BAR;DOT VERTICAL BAR;DOT SLASH",
    "DOT HORIZONTAL BAR;LOWER RIGHT CORNER ANGLE;RAISED UP ARROW;RAISED DOWN ARROW",
    "RAISED EXCLAMATION MARK;RAISED INVERTED EXCLAMATION MARK;LOW INVERTED EXCLAMATION MARK",
    "STRESS AND HIGH TONE;STRESS AND LOW TONE"]),
  (0xa722, "LATIN ", [
    "CAPITAL LETTER EGYPTOLOGICAL ALEF;SMALL LETTER EGYPTOLOGICAL ALEF",
    "CAPITAL LETTER EGYPTOLOGICAL AIN;SMALL LETTER EGYPTOLOGICAL AIN;CAPITAL LETTER HENG",
    "SMALL LETTER HENG;CAPITAL LETTER TZ;SMALL LETTER TZ;CAPITAL LETTER TRESILLO",
    "SMALL LETTER TRESILLO;CAPITAL LETTER CUATRILLO;SMALL LETTER CUATRILLO",
    "CAPITAL LETTER CUATRILLO WITH COMMA;SMALL LETTER CUATRILLO WITH COMMA",
    "LETTER SMALL CAPITAL F;LETTER SMALL CAPITAL S;CAPITAL LETTER AA;SMALL LETTER AA",
    "CAPITAL LETTER AO;SMALL LETTER AO;CAPITAL LETTER AU;SMALL LETTER AU;CAPITAL LETTER AV",
    "SMALL LETTER AV;CAPITAL LETTER AV WITH HORIZONTAL BAR",
    "SMALL LETTER AV WITH HORIZONTAL BAR;CAPITAL LETTER AY;SMALL LETTER AY",
    "CAPITAL LETTER REVERSED C WITH DOT;SMALL LETTER REVERSED C WITH DOT",
    "CAPITAL LETTER K WITH STROKE;SMALL LETTER K WITH STROKE",
    "CAPITAL LETTER K WITH DIAGONAL STROKE;SMALL LETTER K WITH DIAGONAL STROKE",
    "CAPITAL LETTER K WITH STROKE AND DIAGONAL STROKE",
    "SMALL LETTER K WITH STROKE AND DIAGONAL STROKE;CAPITAL LETTER BROKEN L",
    "SMALL LETTER BROKEN L;CAPITAL LETTER L WITH HIGH STROKE;SMALL LETTER L WITH HIGH STROKE",
    "CAPITAL LETTER O WITH LONG STROKE OVERLAY;SMALL LETTER O WITH LONG STROKE OVERLAY",
    "CAPITAL LETTER O WITH LOOP;SMALL LETTER O WITH LOOP;CAPITAL LETTER OO;SMALL LETTER OO",
    "CAPITAL LETTER P WITH STROKE THROUGH DESCENDER",
    "SMALL LETTER P WITH STROKE THROUGH DESCENDER;CAPITAL LETTER P WITH FLOURISH",
    "SMALL LETTER P WITH FLOURISH;CAPITAL LETTER P WITH SQUIRREL TAIL",
    "SMALL LETTER P WITH SQUIRREL TAIL;CAPITAL LETTER Q WITH STROKE THROUGH DESCENDER",
    "SMALL LETTER Q WITH STROKE THROUGH DESCENDER;CAPITAL LETTER Q WITH DIAGONAL STROKE",
    "SMALL LETTER Q WITH DIAGONAL STROKE;CAPITAL LETTER R ROTUNDA;SMALL LETTER R ROTUNDA",
    "CAPITAL LETTER RUM ROTUNDA;SMALL LETTER RUM ROTUNDA",
    "CAPITAL LETTER V WITH DIAGONAL STROKE;SMALL LETTER V WITH DIAGONAL STROKE",
    "CAPITAL LETTER VY;SMALL LETTER VY;CAPITAL LETTER VISIGOTHIC Z;SMALL LETTER VISIGOTHIC Z",
    "CAPITAL LETTER THORN WITH STROKE;SMALL LETTER THORN WITH STROKE",
    "CAPITAL LETTER THORN WITH STROKE THROUGH DESCENDER",
    "SMALL LETTER THORN WITH STROKE THROUGH DESCENDER;CAPITAL LETTER VEND;SMALL LETTER VEND",
    "CAPITAL LETTER ET;SMALL LETTER ET;CAPITAL LETTER IS;SMALL LETTER IS;CAPITAL LETTER CON",
    "SMALL LETTER CON"]),
  (0xa770, "", ["MODIFIER LETTER US"]),
  (0xa771, "LATIN ", [
    "SMALL LETTER DUM;SMALL LETTER LUM;SMALL LETTER MUM;SMALL LETTER NUM;SMALL LETTER RUM",
    "LETTER SMALL CAPITAL RUM;SMALL LETTER TUM;SMALL LETTER UM;CAPITAL LETTER INSULAR D",
    "SMALL LETTER INSULAR D;CAPITAL LETTER INSULAR F;SMALL LETTER INSULAR F",
    "CAPITAL LETTER INSULAR G;CAPITAL LETTER TURNED INSULAR G;SMALL LETTER TURNED INSULAR G",
    "CAPITAL LETTER TURNED L;SMALL LETTER TURNED L;CAPITAL LETTER INSULAR R",
    "SMALL LETTER INSULAR R;CAPITAL LETTER INSULAR S;SMALL LETTER INSULAR S",
    "CAPITAL LETTER INSULAR T;SMALL LETTER INSULAR T"]),
  (0xa788, "MODIFIER LETTER ", ["LOW CIRCUMFLEX ACCENT;COLON;SHORT EQUALS SIGN"]),
  (0xa78b, "LATIN ", [
    "CAPITAL LETTER SALTILLO;SMALL LETTER SALTILLO;CAPITAL LETTER TURNED H",
    "SMALL LETTER L WITH RETROFLEX HOOK AND BELT;LETTER SINOLOGICAL DOT",
    "CAPITAL LETTER N WITH DESCENDER;SMALL LETTER N WITH DESCENDER;CAPITAL LETTER C WITH BAR",
    "SMALL LETTER C WITH BAR;SMALL LETTER C WITH PALATAL HOOK",
    "SMALL LETTER H WITH PALATAL HOOK;CAPITAL LETTER B WITH FLOURISH",
    "SMALL LETTER B WITH FLOURISH;CAPITAL LETTER F WITH STROKE;SMALL LETTER F WITH STROKE",
    "CAPITAL LETTER VOLAPUK AE;SMALL LETTER VOLAPUK AE;CAPITAL LETTER VOLAPUK OE",
    "SMALL LETTER VOLAPUK OE;CAPITAL LETTER VOLAPUK UE;SMALL LETTER VOLAPUK UE",
    "CAPITAL LETTER G WITH OBLIQUE STROKE;SMALL LETTER G WITH OBLIQUE STROKE",
    "CAPITAL LETTER K WITH OBLIQUE STROKE;SMALL LETTER K WITH OBLIQUE STROKE",
    "CAPITAL LETTER N WITH OBLIQUE STROKE;SMALL LETTER N WITH OBLIQUE STROKE",
    "CAPITAL LETTER R WITH OBLIQUE STROKE;SMALL LETTER R WITH OBLIQUE STROKE",
    "CAPITAL LETTER S WITH OBLIQUE STROKE;SMALL LETTER S WITH OBLIQUE STROKE",
    "CAPITAL LETTER H WITH HOOK;CAPITAL LETTER REVERSED OPEN E;CAPITAL LETTER SCRIPT G",
    "CAPITAL LETTER L WITH BELT;CAPITAL LETTER SMALL CAPITAL I;LETTER SMALL CAPITAL Q",
    "CAPITAL LETTER TURNED K;CAPITAL LETTER TURNED T;CAPITAL LETTER J WITH CROSSED-TAIL",
    "CAPITAL LETTER CHI;CAPITAL LETTER BETA;SMALL LETTER BETA;CAPITAL LETTER OMEGA",
    "SMALL LETTER OMEGA;CAPITAL LETTER U WITH STROKE;SMALL LETTER U WITH STROKE",
    "CAPITAL LETTER GLOTTAL A;SMALL LETTER GLOTTAL A;CAPITAL LETTER GLOTTAL I",
    "SMALL LETTER GLOTTAL I;CAPITAL LETTER GLOTTAL U;SMALL LETTER GLOTTAL U",
    "CAPITAL LETTER OLD POLISH O;SMALL LETTER OLD POLISH O;CAPITAL LETTER ANGLICANA W",
    "SMALL LETTER ANGLICANA W;CAPITAL LETTER C WITH PALATAL HOOK;CAPITAL LETTER S WITH HOOK",
    "CAPITAL LETTER Z WITH PALATAL HOOK;CAPITAL LETTER D WITH SHORT STROKE OVERLAY",
    "SMALL LETTER D WITH SHORT STROKE OVERLAY;CAPITAL LETTER S WITH SHORT STROKE OVERLAY",
    "SMALL LETTER S WITH SHORT STROKE OVERLAY"]),
  (0xa7d0, "", ["LATIN CAPITAL LETTER CLOSED INSULAR G;LATIN SMALL LETTER CLOSED INSULAR G"]),
  (0xa7d3, "", ["LATIN SMALL LETTER DOUBLE THORN"]),
  (0xa7d5, "LATIN ", [
    "SMALL LETTER DOUBLE WYNN;CAPITAL LETTER MIDDLE SCOTS S;SMALL LETTER MIDDLE SCOTS S",
    "CAPITAL LETTER SIGMOID S;SMALL LETTER SIGMOID S"]),
  (0xa7f2, "MODIFIER LETTER CAPITAL ", ["C;F;Q"]),
  (0xa7f5, "LATIN ", [
    "CAPITAL LETTER REVERSED HALF H;SMALL LETTER REVERSED HALF H;EPIGRAPHIC LETTER SIDEWAYS I"]),
  (0xa7f8, "MODIFIER LETTER ", ["CAPITAL H WITH STROKE;SMALL LIGATURE OE"]),
  (0xa7fa, "LATIN ", [
    "LETTER SMALL CAPITAL TURNED M;EPIGRAPHIC LETTER REVERSED F;EPIGRAPHIC LETTER REVERSED P",
    "EPIGRAPHIC LETTER INVERTED M;EPIGRAPHIC LETTER I LONGA;EPIGRAPHIC LETTER ARCHAIC M"]),
  (0xa800, "SYLOTI NAGRI ", [
    "LETTER A;LETTER I;SIGN DVISVARA;LETTER U;LETTER E;LETTER O;SIGN HASANTA;LETTER KO",
    "LETTER KHO;LETTER GO;LETTER GHO;SIGN ANUSVARA;LETTER CO;LETTER CHO;LETTER JO;LETTER JHO",
    "LETTER TTO;LETTER TTHO;LETTER DDO;LETTER DDHO;LETTER TO;LETTER THO;LETTER DO;LETTER DHO",
    "LETTER NO;LETTER PO;LETTER PHO;LETTER BO;LETTER BHO;LETTER MO;LETTER RO;LETTER LO",
    "LETTER RRO;LETTER SO;LETTER HO;VOWEL SIGN A;VOWEL SIGN I;VOWEL SIGN U;VOWEL SIGN E",
    "VOWEL SIGN OO;POETRY MARK-1;POETRY MARK-2;POETRY MARK-3;POETRY MARK-4",
    "SIGN ALTERNATE HASANTA"]),
  (0xa830, "NORTH INDIC ", [
    "FRACTION ONE QUARTER;FRACTION ONE HALF;FRACTION THREE QUARTERS;FRACTION ONE SIXTEENTH",
    "FRACTION ONE EIGHTH;FRACTION THREE SIXTEENTHS;QUARTER MARK;PLACEHOLDER MARK;RUPEE MARK",
    "QUANTITY MARK"]),
  (0xa840, "PHAGS-PA LETTER ", [
    "KA;KHA;GA;NGA;CA;CHA;JA;NYA;TA;THA;DA;NA;PA;PHA;BA;MA;TSA;TSHA;DZA;WA;ZHA;ZA;SMALL A;YA",
    "RA;LA;SHA;SA;HA;A;I;U;E;O;QA;XA;FA;GGA;EE"]),
  (0xa867, "PHAGS-PA ", [
    "SUBJOINED LETTER WA;SUBJOINED LETTER YA;LETTER TTA;LETTER TTHA;LETTER DDA;LETTER NNA",
    "LETTER ALTERNATE YA;LETTER VOICELESS SHA;LETTER VOICED HA;LETTER ASPIRATED FA",
    "SUBJOINED LETTER RA;SUPERFIXED LETTER RA;LETTER CANDRABINDU;SINGLE HEAD MARK",
    "DOUBLE HEAD MARK;MARK SHAD;MARK DOUBLE SHAD"]),
  (0xa880, "SAURASHTRA ", [
    "SIGN ANUSVARA;SIGN VISARGA;LETTER A;LETTER AA;LETTER I;LETTER II;LETTER U;LETTER UU",
    "LETTER VOCALIC R;LETTER VOCALIC RR;LETTER VOCALIC L;LETTER VOCALIC LL;LETTER E;LETTER EE",
    "LETTER AI;LETTER O;LETTER OO;LETTER AU;LETTER KA;LETTER KHA;LETTER GA;LETTER GHA",
    "LETTER NGA;LETTER CA;LETTER CHA;LETTER JA;LETTER JHA;LETTER NYA;LETTER TTA;LETTER TTHA",
    "LETTER DDA;LETTER DDHA;LETTER NNA;LETTER TA;LETTER THA;LETTER DA;LETTER DHA;LETTER NA",
    "LETTER PA;LETTER PHA;LETTER BA;LETTER BHA;LETTER MA;LETTER YA;LETTER RA;LETTER LA",
    "LETTER VA;LETTER SHA;LETTER SSA;LETTER SA;LETTER HA;LETTER LLA;CONSONANT SIGN HAARU",
    "VOWEL SIGN AA;VOWEL SIGN I;VOWEL SIGN II;VOWEL SIGN U;VOWEL SIGN UU;VOWEL SIGN VOCALIC R",
    "VOWEL SIGN VOCALIC RR;VOWEL SIGN VOCALIC L;VOWEL SIGN VOCALIC LL;VOWEL SIGN E",
    "VOWEL SIGN EE;VOWEL SIGN AI;VOWEL SIGN O;VOWEL SIGN OO;VOWEL SIGN AU;SIGN VIRAMA",
    "SIGN CANDRABINDU"]),
  (0xa8ce, "SAURASHTRA ", [
    "DANDA;DOUBLE DANDA;DIGIT ZERO;DIGIT ONE;DIGIT TWO;DIGIT THREE;DIGIT FOUR;DIGIT FIVE",
    "DIGIT SIX;DIGIT SEVEN;DIGIT EIGHT;DIGIT NINE"]),
  (0xa8e0, "COMBINING DEVANAGARI ", [
    "DIGIT ZERO;DIGIT ONE;DIGIT TWO;DIGIT THREE;DIGIT FOUR;DIGIT FIVE;DIGIT SIX;DIGIT SEVEN",
    "DIGIT EIGHT;DIGIT NINE;LETTER A;LETTER U;LETTER KA;LETTER NA;LETTER PA;LETTER RA",
    "LETTER VI;SIGN AVAGRAHA"]),
  (0xa8f2, "DEVANAGARI ", [
    "SIGN SPACING CANDRABINDU;SIGN CANDRABINDU VIRAMA;SIGN DOUBLE CANDRABINDU VIRAMA",
    "SIGN CANDRABINDU TWO;SIGN CANDRABINDU THREE;SIGN CANDRABINDU AVAGRAHA;SIGN PUSHPIKA",
    "GAP FILLER;CARET;HEADSTROKE;SIGN SIDDHAM;JAIN OM;LETTER AY;VOWEL SIGN AY"]),
  (0xa900, "KAYAH LI ", [
    "DIGIT ZERO;DIGIT ONE;DIGIT TWO;DIGIT THREE;DIGIT FOUR;DIGIT FIVE;DIGIT SIX;DIGIT SEVEN",
    "DIGIT EIGHT;DIGIT NINE;LETTER KA;LETTER KHA;LETTER GA;LETTER NGA;LETTER SA;LETTER SHA",
    "LETTER ZA;LETTER NYA;LETTER TA;LETTER HTA;LETTER NA;LETTER PA;LETTER PHA;LETTER MA",
    "LETTER DA;LETTER BA;LETTER RA;LETTER YA;LETTER LA;LETTER WA;LETTER THA;LETTER HA",
    "LETTER VA;LETTER CA;LETTER A;LETTER OE;LETTER I;LETTER OO;VOWEL UE;VOWEL E;VOWEL U",
    "VOWEL EE;VOWEL O;TONE PLOPHU;TONE CALYA;TONE CALYA PLOPHU;SIGN CWI;SIGN SHYA"]),
  (0xa930, "REJANG LETTER ", [
    "KA;GA;NGA;TA;DA;NA;PA;BA;MA;CA;JA;NYA;SA;RA;LA;YA;WA;HA;MBA;NGGA;NDA;NYJA;A"]),
  (0xa947, "REJANG VOWEL SIGN ", ["I;U;E;AI;O;AU;EU;EA"]),
  (0xa94f, "REJANG CONSONANT SIGN ", ["NG;N;R;H"]), (0xa953, "", ["REJANG VIRAMA"]),
  (0xa95f, "", ["REJANG SECTION MARK"]),
  (0xa960, "HANGUL CHOSEONG ", [
    "TIKEUT-MIEUM;TIKEUT-PIEUP;TIKEUT-SIOS;TIKEUT-CIEUC;RIEUL-KIYEOK;RIEUL-SSANGKIYEOK",
    "RIEUL-TIKEUT;RIEUL-SSANGTIKEUT;RIEUL-MIEUM;RIEUL-PIEUP;RIEUL-SSANGPIEUP",
    "RIEUL-KAPYEOUNPIEUP;RIEUL-SIOS;RIEUL-CIEUC;RIEUL-KHIEUKH;MIEUM-KIYEOK;MIEUM-TIKEUT",
    "MIEUM-SIOS;PIEUP-SIOS-THIEUTH;PIEUP-KHIEUKH;PIEUP-HIEUH;SSANGSIOS-PIEUP;IEUNG-RIEUL",
    "IEUNG-HIEUH;SSANGCIEUC-HIEUH;SSANGTHIEUTH;PHIEUPH-HIEUH;HIEUH-SIOS;SSANGYEORINHIEUH"]),
  (0xa980, "JAVANESE ", [
    "SIGN PANYANGGA;SIGN CECAK;SIGN LAYAR;SIGN WIGNYAN;LETTER A;LETTER I KAWI;LETTER I",
    "LETTER II;LETTER U;LETTER PA CEREK;LETTER NGA LELET;LETTER NGA LELET RASWADI;LETTER E",
    "LETTER AI;LETTER O;LETTER KA;LETTER KA SASAK;LETTER KA MURDA;LETTER GA;LETTER GA MURDA",
    "LETTER NGA;LETTER CA;LETTER CA MURDA;LETTER JA;LETTER NYA MURDA;LETTER JA MAHAPRANA",
    "LETTER NYA;LETTER TTA;LETTER TTA MAHAPRANA;LETTER DDA;LETTER DDA MAHAPRANA",
    "LETTER NA MURDA;LETTER TA;LETTER TA MURDA;LETTER DA;LETTER DA MAHAPRANA;LETTER NA",
    "LETTER PA;LETTER PA MURDA;LETTER BA;LETTER BA MURDA;LETTER MA;LETTER YA;LETTER RA",
    "LETTER RA AGUNG;LETTER LA;LETTER WA;LETTER SA MURDA;LETTER SA MAHAPRANA;LETTER SA",
    "LETTER HA;SIGN CECAK TELU;VOWEL SIGN TARUNG;VOWEL SIGN TOLONG;VOWEL SIGN WULU",
    "VOWEL SIGN WULU MELIK;VOWEL SIGN SUKU;VOWEL SIGN SUKU MENDUT;VOWEL SIGN TALING",
    "VOWEL SIGN DIRGA MURE;VOWEL SIGN PEPET;CONSONANT SIGN KERET;CONSONANT SIGN PENGKAL",
    "CONSONANT SIGN CAKRA;PANGKON;LEFT RERENGGAN;RIGHT RERENGGAN;PADA ANDAP;PADA MADYA",
    "PADA LUHUR;PADA WINDU;PADA PANGKAT;PADA LINGSA;PADA LUNGSI;PADA ADEG;PADA ADEG ADEG",
    "PADA PISELEH;TURNED PADA PISELEH"]),
  (0xa9cf, "JAVANESE ", [
    "PANGRANGKEP;DIGIT ZERO;DIGIT ONE;DIGIT TWO;DIGIT THREE;DIGIT FOUR;DIGIT FIVE;DIGIT SIX",
    "DIGIT SEVEN;DIGIT EIGHT;DIGIT NINE"]),
  (0xa9de, "JAVANESE PADA ", ["TIRTA TUMETES;ISEN-ISEN"]),
  (0xa9e0, "MYANMAR ", [
    "LETTER SHAN GHA;LETTER SHAN CHA;LETTER SHAN JHA;LETTER SHAN NNA;LETTER SHAN BHA",
    "SIGN SHAN SAW;MODIFIER LETTER SHAN REDUPLICATION;LETTER TAI LAING NYA",
    "LETTER TAI LAING FA;LETTER TAI LAING GA;LETTER TAI LAING GHA;LETTER TAI LAING JA",
    "LETTER TAI LAING JHA;LETTER TAI LAING DDA;LETTER TAI LAING DDHA;LETTER TAI LAING NNA",
    "TAI LAING DIGIT ZERO;TAI LAING DIGIT ONE;TAI LAING DIGIT TWO;TAI LAING DIGIT THREE",
    "TAI LAING DIGIT FOUR;TAI LAING DIGIT FIVE;TAI LAING DIGIT SIX;TAI LAING DIGIT SEVEN",
    "TAI LAING DIGIT EIGHT;TAI LAING DIGIT NINE;LETTER TAI LAING LLA;LETTER TAI LAING DA",
    "LETTER TAI LAING DHA;LETTER TAI LAING BA;LETTER TAI LAING BHA"]),
  (0xaa00, "CHAM LETTER ", [
    "A;I;U;E;AI;O;KA;KHA;GA;GHA;NGUE;NGA;CHA;CHHA;JA;JHA;NHUE;NHA;NHJA;TA;THA;DA;DHA;NUE;NA",
    "DDA;PA;PPA;PHA;BA;BHA;MUE;MA;BBA;YA;RA;LA;VA;SSA;SA;HA"]),
  (0xaa29, "CHAM VOWEL SIGN ", ["AA;I;II;EI;U;OE;O;AI;AU;UE"]),
  (0xaa33, "CHAM CONSONANT SIGN ", ["YA;RA;LA;WA"]),
  (0xaa40, "CHAM ", [
    "LETTER FINAL K;LETTER FINAL G;LETTER FINAL NG;CONSONANT SIGN FINAL NG;LETTER FINAL CH",
    "LETTER FINAL T;LETTER FINAL N;LETTER FINAL P;LETTER FINAL Y;LETTER FINAL R",
    "LETTER FINAL L;LETTER FINAL SS;CONSONANT SIGN FINAL M;CONSONANT SIGN FINAL H"]),
  (0xaa50, "CHAM DIGIT ", ["ZERO;ONE;TWO;THREE;FOUR;FIVE;SIX;SEVEN;EIGHT;NINE"]),
  (0xaa5c, "CHAM PUNCTUATION ", ["SPIRAL;DANDA;DOUBLE DANDA;TRIPLE DANDA"]),
  (0xaa60, "MYANMAR LETTER KHAMTI ", [
    "GA;CA;CHA;JA;JHA;NYA;TTA;TTHA;DDA;DDHA;DHA;NA;SA;HA;HHA;FA"]),
  (0xaa70, "MYANMAR ", [
    "MODIFIER LETTER KHAMTI REDUPLICATION;LETTER KHAMTI XA;LETTER KHAMTI ZA;LETTER KHAMTI RA",
    "LOGOGRAM KHAMTI OAY;LOGOGRAM KHAMTI QN;LOGOGRAM KHAMTI HM;SYMBOL AITON EXCLAMATION",
    "SYMBOL AITON ONE;SYMBOL AITON TWO;LETTER AITON RA;SIGN PAO KAREN TONE",
    "SIGN TAI LAING TONE-2;SIGN TAI LAING TONE-5;LETTER SHWE PALAUNG CHA",
    "LETTER SHWE PALAUNG SHA"]),
  (0xaa80, "TAI VIET LETTER ", [
    "LOW KO;HIGH KO;LOW KHO;HIGH KHO;LOW KHHO;HIGH KHHO;LOW GO;HIGH GO;LOW NGO;HIGH NGO",
    "LOW CO;HIGH CO;LOW CHO;HIGH CHO;LOW SO;HIGH SO;LOW NYO;HIGH NYO;LOW DO;HIGH DO;LOW TO",
    "HIGH TO;LOW THO;HIGH THO;LOW NO;HIGH NO;LOW BO;HIGH BO;LOW PO;HIGH PO;LOW PHO;HIGH PHO",
    "LOW FO;HIGH FO;LOW MO;HIGH MO;LOW YO;HIGH YO;LOW RO;HIGH RO;LOW LO;HIGH LO;LOW VO",
    "HIGH VO;LOW HO;HIGH HO;LOW O;HIGH O"]),
  (0xaab0, "TAI VIET ", [
    "MAI KANG;VOWEL AA;VOWEL I;VOWEL UE;VOWEL U;VOWEL E;VOWEL O;MAI KHIT;VOWEL IA;VOWEL UEA",
    "VOWEL UA;VOWEL AUE;VOWEL AY;VOWEL AN;VOWEL AM;TONE MAI EK;TONE MAI NUENG;TONE MAI THO",
    "TONE MAI SONG"]),
  (0xaadb, "TAI VIET SYMBOL ", ["KON;NUENG;SAM;HO HOI;KOI KOI"]),
  (0xaae0, "MEETEI MAYEK ", [
    "LETTER E;LETTER O;LETTER CHA;LETTER NYA;LETTER TTA;LETTER TTHA;LETTER DDA;LETTER DDHA",
    "LETTER NNA;LETTER SHA;LETTER SSA;VOWEL SIGN II;VOWEL SIGN UU;VOWEL SIGN AAI",
    "VOWEL SIGN AU;VOWEL SIGN AAU;CHEIKHAN;AHANG KHUDAM;ANJI;SYLLABLE REPETITION MARK",
    "WORD REPETITION MARK;VOWEL SIGN VISARGA;VIRAMA"]),
  (0xab01, "ETHIOPIC SYLLABLE ", ["TTHU;TTHI;TTHAA;TTHEE;TTHE;TTHO"]),
  (0xab09, "ETHIOPIC SYLLABLE ", ["DDHU;DDHI;DDHAA;DDHEE;DDHE;DDHO"]),
  (0xab11, "ETHIOPIC SYLLABLE ", ["DZU;DZI;DZAA;DZEE;DZE;DZO"]),
  (0xab20, "ETHIOPIC SYLLABLE ", ["CCHHA;CCHHU;CCHHI;CCHHAA;CCHHEE;CCHHE;CCHHO"]),
  (0xab28, "ETHIOPIC SYLLABLE ", ["BBA;BBU;BBI;BBAA;BBEE;BBE;BBO"]),
  (0xab30, "LATIN SMALL LETTER ", [
    "BARRED ALPHA;A REVERSED-SCHWA;BLACKLETTER E;BARRED E;E WITH FLOURISH;LENIS F",
    "SCRIPT G WITH CROSSED-TAIL;L WITH INVERTED LAZY S;L WITH DOUBLE MIDDLE TILDE",
    "L WITH MIDDLE RING;M WITH CROSSED-TAIL;N WITH CROSSED-TAIL;ENG WITH CROSSED-TAIL",
    "BLACKLETTER O;BLACKLETTER O WITH STROKE;OPEN O WITH STROKE;INVERTED OE",
    "TURNED OE WITH STROKE;TURNED OE WITH HORIZONTAL STROKE;TURNED O OPEN-O",
    "TURNED O OPEN-O WITH STROKE;STIRRUP R"]),
  (0xab46, "LATIN ", [
    "LETTER SMALL CAPITAL R WITH RIGHT LEG;SMALL LETTER R WITHOUT HANDLE",
    "SMALL LETTER DOUBLE R;SMALL LETTER R WITH CROSSED-TAIL",
    "SMALL LETTER DOUBLE R WITH CROSSED-TAIL;SMALL LETTER SCRIPT R",
    "SMALL LETTER SCRIPT R WITH RING;SMALL LETTER BASELINE ESH",
    "SMALL LETTER U WITH SHORT RIGHT LEG;SMALL LETTER U BAR WITH SHORT RIGHT LEG",
    "SMALL LETTER UI;SMALL LETTER TURNED UI;SMALL LETTER U WITH LEFT HOOK;SMALL LETTER CHI",
    "SMALL LETTER CHI WITH LOW RIGHT RING;SMALL LETTER CHI WITH LOW LEFT SERIF",
    "SMALL LETTER X WITH LOW RIGHT RING;SMALL LETTER X WITH LONG LEFT LEG",
    "SMALL LETTER X WITH LONG LEFT LEG AND LOW RIGHT RING",
    "SMALL LETTER X WITH LONG LEFT LEG WITH SERIF;SMALL LETTER Y WITH SHORT RIGHT LEG"]),
  (0xab5b, "MODIFIER ", [
    "BREVE WITH INVERTED BREVE;LETTER SMALL HENG;LETTER SMALL L WITH INVERTED LAZY S",
    "LETTER SMALL L WITH MIDDLE TILDE;LETTER SMALL U WITH LEFT HOOK"]),
  (0xab60, "LATIN SMALL LETTER ", ["SAKHA YAT;IOTIFIED E;OPEN OE;UO;INVERTED ALPHA"]),
  (0xab65, "", ["GREEK LETTER SMALL CAPITAL OMEGA"]),
  (0xab66, "LATIN SMALL LETTER ", [
    "DZ DIGRAPH WITH RETROFLEX HOOK;TS DIGRAPH WITH RETROFLEX HOOK;TURNED R WITH MIDDLE TILDE"]),
  (0xab69, "MODIFIER LETTER ", ["SMALL TURNED W;LEFT TACK;RIGHT TACK"]),
  (0xab70, "CHEROKEE SMALL LETTER ", [
    "A;E;I;O;U;V;GA;KA;GE;GI;GO;GU;GV;HA;HE;HI;HO;HU;HV;LA;LE;LI;LO;LU;LV;MA;ME;MI;MO;MU;NA",
    "HNA;NAH;NE;NI;NO;NU;NV;QUA;QUE;QUI;QUO;QUU;QUV;SA;S;SE;SI;SO;SU;SV;DA;TA;DE;TE;DI;TI;DO",
    "DU;DV;DLA;TLA;TLE;TLI;TLO;TLU;TLV;TSA;TSE;TSI;TSO;TSU;TSV;WA;WE;WI;WO;WU;WV;YA"]),
  (0xabc0, "MEETEI MAYEK LETTER ", [
    "KOK;SAM;LAI;MIT;PA;NA;CHIL;TIL;KHOU;NGOU;THOU;WAI;YANG;HUK;UN;I;PHAM;ATIYA;GOK;JHAM;RAI",
    "BA;JIL;DIL;GHOU;DHOU;BHAM;KOK LONSUM;LAI LONSUM;MIT LONSUM;PA LONSUM;NA LONSUM",
    "TIL LONSUM;NGOU LONSUM;I LONSUM"]),
  (0xabe3, "MEETEI MAYEK VOWEL SIGN ", ["ONAP;INAP;ANAP;YENAP;SOUNAP;UNAP;CHEINAP;NUNG"]),
  (0xabeb, "MEETEI MAYEK ", ["CHEIKHEI;LUM IYEK;APUN IYEK"]),
  (0xabf0, "MEETEI MAYEK DIGIT ", ["ZERO;ONE;TWO;THREE;FOUR;FIVE;SIX;SEVEN;EIGHT;NINE"]),
  (0xd7b0, "HANGUL JUNGSEONG ", [
    "O-YEO;O-O-I;YO-A;YO-AE;YO-EO;U-YEO;U-I-I;YU-AE;YU-O;EU-A;EU-EO;EU-E;EU-O;I-YA-O;I-YAE",
    "I-YEO;I-YE;I-O-I;I-YO;I-YU;I-I;ARAEA-A;ARAEA-E"]),
  (0xd7cb, "HANGUL JONGSEONG ", [
    "NIEUN-RIEUL;NIEUN-CHIEUCH;SSANGTIKEUT;SSANGTIKEUT-PIEUP;TIKEUT-PIEUP;TIKEUT-SIOS",
    "TIKEUT-SIOS-KIYEOK;TIKEUT-CIEUC;TIKEUT-CHIEUCH;TIKEUT-THIEUTH;RIEUL-SSANGKIYEOK",
    "RIEUL-KIYEOK-HIEUH;SSANGRIEUL-KHIEUKH;RIEUL-MIEUM-HIEUH;RIEUL-PIEUP-TIKEUT",
    "RIEUL-PIEUP-PHIEUPH;RIEUL-YESIEUNG;RIEUL-YEORINHIEUH-HIEUH;KAPYEOUNRIEUL;MIEUM-NIEUN",
    "MIEUM-SSANGNIEUN;SSANGMIEUM;MIEUM-PIEUP-SIOS;MIEUM-CIEUC;PIEUP-TIKEUT",
    "PIEUP-RIEUL-PHIEUPH;PIEUP-MIEUM;SSANGPIEUP;PIEUP-SIOS-TIKEUT;PIEUP-CIEUC;PIEUP-CHIEUCH",
    "SIOS-MIEUM;SIOS-KAPYEOUNPIEUP;SSANGSIOS-KIYEOK;SSANGSIOS-TIKEUT;SIOS-PANSIOS;SIOS-CIEUC",
    "SIOS-CHIEUCH;SIOS-THIEUTH;SIOS-HIEUH;PANSIOS-PIEUP;PANSIOS-KAPYEOUNPIEUP;YESIEUNG-MIEUM",
    "YESIEUNG-HIEUH;CIEUC-PIEUP;CIEUC-SSANGPIEUP;SSANGCIEUC;PHIEUPH-SIOS;PHIEUPH-THIEUTH"]),
  (0xfb00, "LATIN SMALL LIGATURE ", ["FF;FI;FL;FFI;FFL;LONG S T;ST"]),
  (0xfb13, "ARMENIAN SMALL LIGATURE ", ["MEN NOW;MEN ECH;MEN INI;VEW NOW;MEN XEH"]),
  (0xfb1d, "HEBREW ", [
    "LETTER YOD WITH HIRIQ;POINT JUDEO-SPANISH VARIKA;LIGATURE YIDDISH YOD YOD PATAH",
    "LETTER ALTERNATIVE AYIN;LETTER WIDE ALEF;LETTER WIDE DALET;LETTER WIDE HE",
    "LETTER WIDE KAF;LETTER WIDE LAMED;LETTER WIDE FINAL MEM;LETTER WIDE RESH;LETTER WIDE TAV",
    "LETTER ALTERNATIVE PLUS SIGN;LETTER SHIN WITH SHIN DOT;LETTER SHIN WITH SIN DOT",
    "LETTER SHIN WITH DAGESH AND SHIN DOT;LETTER SHIN WITH DAGESH AND SIN DOT",
    "LETTER ALEF WITH PATAH;LETTER ALEF WITH QAMATS;LETTER ALEF WITH MAPIQ",
    "LETTER BET WITH DAGESH;LETTER GIMEL WITH DAGESH;LETTER DALET WITH DAGESH",
    "LETTER HE WITH MAPIQ;LETTER VAV WITH DAGESH;LETTER ZAYIN WITH DAGESH"]),
  (0xfb38, "HEBREW LETTER ", [
    "TET WITH DAGESH;YOD WITH DAGESH;FINAL KAF WITH DAGESH;KAF WITH DAGESH;LAMED WITH DAGESH"]),
  (0xfb3e, "", ["HEBREW LETTER MEM WITH DAGESH"]),
  (0xfb40, "HEBREW LETTER ", ["NUN WITH DAGESH;SAMEKH WITH DAGESH"]),
  (0xfb43, "HEBREW LETTER ", ["FINAL PE WITH DAGESH;PE WITH DAGESH"]),
  (0xfb46, "HEBREW LETTER ", [
    "TSADI WITH DAGESH;QOF WITH DAGESH;RESH WITH DAGESH;SHIN WITH DAGESH;TAV WITH DAGESH",
    "VAV WITH HOLAM;BET WITH RAFE;KAF WITH RAFE;PE WITH RAFE"]),
  (0xfb4f, "", ["HEBREW LIGATURE ALEF LAMED"]),
  (0xfb50, "ARABIC LETTER ", [
    "ALEF WASLA ISOLATED FORM;ALEF WASLA FINAL FORM;BEEH ISOLATED FORM;BEEH FINAL FORM",
    "BEEH INITIAL FORM;BEEH MEDIAL FORM;PEH ISOLATED FORM;PEH FINAL FORM;PEH INITIAL FORM",
    "PEH MEDIAL FORM;BEHEH ISOLATED FORM;BEHEH FINAL FORM;BEHEH INITIAL FORM",
    "BEHEH MEDIAL FORM;TTEHEH ISOLATED FORM;TTEHEH FINAL FORM;TTEHEH INITIAL FORM",
    "TTEHEH MEDIAL FORM;TEHEH ISOLATED FORM;TEHEH FINAL FORM;TEHEH INITIAL FORM",
    "TEHEH MEDIAL FORM;TTEH ISOLATED FORM;TTEH FINAL FORM;TTEH INITIAL FORM;TTEH MEDIAL FORM",
    "VEH ISOLATED FORM;VEH FINAL FORM;VEH INITIAL FORM;VEH MEDIAL FORM;PEHEH ISOLATED FORM",
    "PEHEH FINAL FORM;PEHEH INITIAL FORM;PEHEH MEDIAL FORM;DYEH ISOLATED FORM;DYEH FINAL FORM",
    "DYEH INITIAL FORM;DYEH MEDIAL FORM;NYEH ISOLATED FORM;NYEH FINAL FORM;NYEH INITIAL FORM",
    "NYEH MEDIAL FORM;TCHEH ISOLATED FORM;TCHEH FINAL FORM;TCHEH INITIAL FORM",
    "TCHEH MEDIAL FORM;TCHEHEH ISOLATED FORM;TCHEHEH FINAL FORM;TCHEHEH INITIAL FORM",
    "TCHEHEH MEDIAL FORM;DDAHAL ISOLATED FORM;DDAHAL FINAL FORM;DAHAL ISOLATED FORM",
    "DAHAL FINAL FORM;DUL ISOLATED FORM;DUL FINAL FORM;DDAL ISOLATED FORM;DDAL FINAL FORM",
    "JEH ISOLATED FORM;JEH FINAL FORM;RREH ISOLATED FORM;RREH FINAL FORM;KEHEH ISOLATED FORM",
    "KEHEH FINAL FORM;KEHEH INITIAL FORM;KEHEH MEDIAL FORM;GAF ISOLATED FORM;GAF FINAL FORM",
    "GAF INITIAL FORM;GAF MEDIAL FORM;GUEH ISOLATED FORM;GUEH FINAL FORM;GUEH INITIAL FORM",
    "GUEH MEDIAL FORM;NGOEH ISOLATED FORM;NGOEH FINAL FORM;NGOEH INITIAL FORM",
    "NGOEH MEDIAL FORM;NOON GHUNNA ISOLATED FORM;NOON GHUNNA FINAL FORM;RNOON ISOLATED FORM",
    "RNOON FINAL FORM;RNOON INITIAL FORM;RNOON MEDIAL FORM;HEH WITH YEH ABOVE ISOLATED FORM",
    "HEH WITH YEH ABOVE FINAL FORM;HEH GOAL ISOLATED FORM;HEH GOAL FINAL FORM",
    "HEH GOAL INITIAL FORM;HEH GOAL MEDIAL FORM;HEH DOACHASHMEE ISOLATED FORM",
    "HEH DOACHASHMEE FINAL FORM;HEH DOACHASHMEE INITIAL FORM;HEH DOACHASHMEE MEDIAL FORM",
    "YEH BARREE ISOLATED FORM;YEH BARREE FINAL FORM;YEH BARREE WITH HAMZA ABOVE ISOLATED FORM",
    "YEH BARREE WITH HAMZA ABOVE FINAL FORM"]),
  (0xfbb2, "ARABIC SYMBOL ", [
    "DOT ABOVE;DOT BELOW;TWO DOTS ABOVE;TWO DOTS BELOW;THREE DOTS ABOVE;THREE DOTS BELOW",
    "THREE DOTS POINTING DOWNWARDS ABOVE;THREE DOTS POINTING DOWNWARDS BELOW;FOUR DOTS ABOVE",
    "FOUR DOTS BELOW;DOUBLE VERTICAL BAR BELOW;TWO DOTS VERTICALLY ABOVE",
    "TWO DOTS VERTICALLY BELOW;RING;SMALL TAH ABOVE;SMALL TAH BELOW;WASLA ABOVE"]),
  (0xfbd3, "ARABIC ", [
    "LETTER NG ISOLATED FORM;LETTER NG FINAL FORM;LETTER NG INITIAL FORM",
    "LETTER NG MEDIAL FORM;LETTER U ISOLATED FORM;LETTER U FINAL FORM;LETTER OE ISOLATED FORM",
    "LETTER OE FINAL FORM;LETTER YU ISOLATED FORM;LETTER YU FINAL FORM",
    "LETTER U WITH HAMZA ABOVE ISOLATED FORM;LETTER VE ISOLATED FORM;LETTER VE FINAL FORM",
    "LETTER KIRGHIZ OE ISOLATED FORM;LETTER KIRGHIZ OE FINAL FORM",
    "LETTER KIRGHIZ YU ISOLATED FORM;LETTER KIRGHIZ YU FINAL FORM;LETTER E ISOLATED FORM",
    "LETTER E FINAL FORM;LETTER E INITIAL FORM;LETTER E MEDIAL FORM",
    "LETTER UIGHUR KAZAKH KIRGHIZ ALEF MAKSURA INITIAL FORM",
    "LETTER UIGHUR KAZAKH KIRGHIZ ALEF MAKSURA MEDIAL FORM",
    "LIGATURE YEH WITH HAMZA ABOVE WITH ALEF ISOLATED FORM",
    "LIGATURE YEH WITH HAMZA ABOVE WITH ALEF FINAL FORM",
    "LIGATURE YEH WITH HAMZA ABOVE WITH AE ISOLATED FORM",
    "LIGATURE YEH WITH HAMZA ABOVE WITH AE FINAL FORM",
    "LIGATURE YEH WITH HAMZA ABOVE WITH WAW ISOLATED FORM",
    "LIGATURE YEH WITH HAMZA ABOVE WITH WAW FINAL FORM",
    "LIGATURE YEH WITH HAMZA ABOVE WITH U ISOLATED FORM",
    "LIGATURE YEH WITH HAMZA ABOVE WITH U FINAL FORM",
    "LIGATURE YEH WITH HAMZA ABOVE WITH OE ISOLATED FORM",
    "LIGATURE YEH WITH HAMZA ABOVE WITH OE FINAL FORM",
    "LIGATURE YEH WITH HAMZA ABOVE WITH YU ISOLATED FORM",
    "LIGATURE YEH WITH HAMZA ABOVE WITH YU FINAL FORM",
    "LIGATURE YEH WITH HAMZA ABOVE WITH E ISOLATED FORM",
    "LIGATURE YEH WITH HAMZA ABOVE WITH E FINAL FORM",
    "LIGATURE YEH WITH HAMZA ABOVE WITH E INITIAL FORM",
    "LIGATURE UIGHUR KIRGHIZ YEH WITH HAMZA ABOVE WITH ALEF MAKSURA ISOLATED FORM",
    "LIGATURE UIGHUR KIRGHIZ YEH WITH HAMZA ABOVE WITH ALEF MAKSURA FINAL FORM",
    "LIGATURE UIGHUR KIRGHIZ YEH WITH HAMZA ABOVE WITH ALEF MAKSURA INITIAL FORM",
    "LETTER FARSI YEH ISOLATED FORM;LETTER FARSI YEH FINAL FORM;LETTER FARSI YEH INITIAL FORM",
    "LETTER FARSI YEH MEDIAL FORM;LIGATURE YEH WITH HAMZA ABOVE WITH JEEM ISOLATED FORM",
    "LIGATURE YEH WITH HAMZA ABOVE WITH HAH ISOLATED FORM",
    "LIGATURE YEH WITH HAMZA ABOVE WITH MEEM ISOLATED FORM",
    "LIGATURE YEH WITH HAMZA ABOVE WITH ALEF MAKSURA ISOLATED FORM",
    "LIGATURE YEH WITH HAMZA ABOVE WITH YEH ISOLATED FORM",
    "LIGATURE BEH WITH JEEM ISOLATED FORM;LIGATURE BEH WITH HAH ISOLATED FORM",
    "LIGATURE BEH WITH KHAH ISOLATED FORM;LIGATURE BEH WITH MEEM ISOLATED FORM",
    "LIGATURE BEH WITH ALEF MAKSURA ISOLATED FORM;LIGATURE BEH WITH YEH ISOLATED FORM",
    "LIGATURE TEH WITH JEEM ISOLATED FORM;LIGATURE TEH WITH HAH ISOLATED FORM",
    "LIGATURE TEH WITH KHAH ISOLATED FORM;LIGATURE TEH WITH MEEM ISOLATED FORM",
    "LIGATURE TEH WITH ALEF MAKSURA ISOLATED FORM;LIGATURE TEH WITH YEH ISOLATED FORM",
    "LIGATURE THEH WITH JEEM ISOLATED FORM;LIGATURE THEH WITH MEEM ISOLATED FORM",
    "LIGATURE THEH WITH ALEF MAKSURA ISOLATED FORM;LIGATURE THEH WITH YEH ISOLATED FORM",
    "LIGATURE JEEM WITH HAH ISOLATED FORM;LIGATURE JEEM WITH MEEM ISOLATED FORM",
    "LIGATURE HAH WITH JEEM ISOLATED FORM;LIGATURE HAH WITH MEEM ISOLATED FORM",
    "LIGATURE KHAH WITH JEEM ISOLATED FORM;LIGATURE KHAH WITH HAH ISOLATED FORM",
    "LIGATURE KHAH WITH MEEM ISOLATED FORM;LIGATURE SEEN WITH JEEM ISOLATED FORM",
    "LIGATURE SEEN WITH HAH ISOLATED FORM;LIGATURE SEEN WITH KHAH ISOLATED FORM",
    "LIGATURE SEEN WITH MEEM ISOLATED FORM;LIGATURE SAD WITH HAH ISOLATED FORM",
    "LIGATURE SAD WITH MEEM ISOLATED FORM;LIGATURE DAD WITH JEEM ISOLATED FORM",
    "LIGATURE DAD WITH HAH ISOLATED FORM;LIGATURE DAD WITH KHAH ISOLATED FORM",
    "LIGATURE DAD WITH MEEM ISOLATED FORM;LIGATURE TAH WITH HAH ISOLATED FORM",
    "LIGATURE TAH WITH MEEM ISOLATED FORM;LIGATURE ZAH WITH MEEM ISOLATED FORM",
    "LIGATURE AIN WITH JEEM ISOLATED FORM;LIGATURE AIN WITH MEEM ISOLATED FORM",
    "LIGATURE GHAIN WITH JEEM ISOLATED FORM;LIGATURE GHAIN WITH MEEM ISOLATED FORM",
    "LIGATURE FEH WITH JEEM ISOLATED FORM;LIGATURE FEH WITH HAH ISOLATED FORM",
    "LIGATURE FEH WITH KHAH ISOLATED FORM;LIGATURE FEH WITH MEEM ISOLATED FORM",
    "LIGATURE FEH WITH ALEF MAKSURA ISOLATED FORM;LIGATURE FEH WITH YEH ISOLATED FORM",
    "LIGATURE QAF WITH HAH ISOLATED FORM;LIGATURE QAF WITH MEEM ISOLATED FORM",
    "LIGATURE QAF WITH ALEF MAKSURA ISOLATED FORM;LIGATURE QAF WITH YEH ISOLATED FORM",
    "LIGATURE KAF WITH ALEF ISOLATED FORM;LIGATURE KAF WITH JEEM ISOLATED FORM",
    "LIGATURE KAF WITH HAH ISOLATED FORM;LIGATURE KAF WITH KHAH ISOLATED FORM",
    "LIGATURE KAF WITH LAM ISOLATED FORM;LIGATURE KAF WITH MEEM ISOLATED FORM",
    "LIGATURE KAF WITH ALEF MAKSURA ISOLATED FORM;LIGATURE KAF WITH YEH ISOLATED FORM",
    "LIGATURE LAM WITH JEEM ISOLATED FORM;LIGATURE LAM WITH HAH ISOLATED FORM",
    "LIGATURE LAM WITH KHAH ISOLATED FORM;LIGATURE LAM WITH MEEM ISOLATED FORM",
    "LIGATURE LAM WITH ALEF MAKSURA ISOLATED FORM;LIGATURE LAM WITH YEH ISOLATED FORM",
    "LIGATURE MEEM WITH JEEM ISOLATED FORM;LIGATURE MEEM WITH HAH ISOLATED FORM",
    "LIGATURE MEEM WITH KHAH ISOLATED FORM;LIGATURE MEEM WITH MEEM ISOLATED FORM",
    "LIGATURE MEEM WITH ALEF MAKSURA ISOLATED FORM;LIGATURE MEEM WITH YEH ISOLATED FORM",
    "LIGATURE NOON WITH JEEM ISOLATED FORM;LIGATURE NOON WITH HAH ISOLATED FORM",
    "LIGATURE NOON WITH KHAH ISOLATED FORM;LIGATURE NOON WITH MEEM ISOLATED FORM",
    "LIGATURE NOON WITH ALEF MAKSURA ISOLATED FORM;LIGATURE NOON WITH YEH ISOLATED FORM",
    "LIGATURE HEH WITH JEEM ISOLATED FORM;LIGATURE HEH WITH MEEM ISOLATED FORM",
    "LIGATURE HEH WITH ALEF MAKSURA ISOLATED FORM;LIGATURE HEH WITH YEH ISOLATED FORM",
    "LIGATURE YEH WITH JEEM ISOLATED FORM;LIGATURE YEH WITH HAH ISOLATED FORM",
    "LIGATURE YEH WITH KHAH ISOLATED FORM;LIGATURE YEH WITH MEEM ISOLATED FORM",
    "LIGATURE YEH WITH ALEF MAKSURA ISOLATED FORM;LIGATURE YEH WITH YEH ISOLATED FORM",
    "LIGATURE THAL WITH SUPERSCRIPT ALEF ISOLATED FORM",
    "LIGATURE REH WITH SUPERSCRIPT ALEF ISOLATED FORM",
    "LIGATURE ALEF MAKSURA WITH SUPERSCRIPT ALEF ISOLATED FORM",
    "LIGATURE SHADDA WITH DAMMATAN ISOLATED FORM;LIGATURE SHADDA WITH KASRATAN ISOLATED FORM",
    "LIGATURE SHADDA WITH FATHA ISOLATED FORM;LIGATURE SHADDA WITH DAMMA ISOLATED FORM",
    "LIGATURE SHADDA WITH KASRA ISOLATED FORM",
    "LIGATURE SHADDA WITH SUPERSCRIPT ALEF ISOLATED FORM",
    "LIGATURE YEH WITH HAMZA ABOVE WITH REH FINAL FORM",
    "LIGATURE YEH WITH HAMZA ABOVE WITH ZAIN FINAL FORM",
    "LIGATURE YEH WITH HAMZA ABOVE WITH MEEM FINAL FORM",
    "LIGATURE YEH WITH HAMZA ABOVE WITH NOON FINAL FORM",
    "LIGATURE YEH WITH HAMZA ABOVE WITH ALEF MAKSURA FINAL FORM",
    "LIGATURE YEH WITH HAMZA ABOVE WITH YEH FINAL FORM;LIGATURE BEH WITH REH FINAL FORM",
    "LIGATURE BEH WITH ZAIN FINAL FORM;LIGATURE BEH WITH MEEM FINAL FORM",
    "LIGATURE BEH WITH NOON FINAL FORM;LIGATURE BEH WITH ALEF MAKSURA FINAL FORM",
    "LIGATURE BEH WITH YEH FINAL FORM;LIGATURE TEH WITH REH FINAL FORM",
    "LIGATURE TEH WITH ZAIN FINAL FORM;LIGATURE TEH WITH MEEM FINAL FORM",
    "LIGATURE TEH WITH NOON FINAL FORM;LIGATURE TEH WITH ALEF MAKSURA FINAL FORM",
    "LIGATURE TEH WITH YEH FINAL FORM;LIGATURE THEH WITH REH FINAL FORM",
    "LIGATURE THEH WITH ZAIN FINAL FORM;LIGATURE THEH WITH MEEM FINAL FORM",
    "LIGATURE THEH WITH NOON FINAL FORM;LIGATURE THEH WITH ALEF MAKSURA FINAL FORM",
    "LIGATURE THEH WITH YEH FINAL FORM;LIGATURE FEH WITH ALEF MAKSURA FINAL FORM",
    "LIGATURE FEH WITH YEH FINAL FORM;LIGATURE QAF WITH ALEF MAKSURA FINAL FORM",
    "LIGATURE QAF WITH YEH FINAL FORM;LIGATURE KAF WITH ALEF FINAL FORM",
    "LIGATURE KAF WITH LAM FINAL FORM;LIGATURE KAF WITH MEEM FINAL FORM",
    "LIGATURE KAF WITH ALEF MAKSURA FINAL FORM;LIGATURE KAF WITH YEH FINAL FORM",
    "LIGATURE LAM WITH MEEM FINAL FORM;LIGATURE LAM WITH ALEF MAKSURA FINAL FORM",
    "LIGATURE LAM WITH YEH FINAL FORM;LIGATURE MEEM WITH ALEF FINAL FORM",
    "LIGATURE MEEM WITH MEEM FINAL FORM;LIGATURE NOON WITH REH FINAL FORM",
    "LIGATURE NOON WITH ZAIN FINAL FORM;LIGATURE NOON WITH MEEM FINAL FORM",
    "LIGATURE NOON WITH NOON FINAL FORM;LIGATURE NOON WITH ALEF MAKSURA FINAL FORM",
    "LIGATURE NOON WITH YEH FINAL FORM;LIGATURE ALEF MAKSURA WITH SUPERSCRIPT ALEF FINAL FORM",
    "LIGATURE YEH WITH REH FINAL FORM;LIGATURE YEH WITH ZAIN FINAL FORM",
    "LIGATURE YEH WITH MEEM FINAL FORM;LIGATURE YEH WITH NOON FINAL FORM",
    "LIGATURE YEH WITH ALEF MAKSURA FINAL FORM;LIGATURE YEH WITH YEH FINAL FORM",
    "LIGATURE YEH WITH HAMZA ABOVE WITH JEEM INITIAL FORM",
    "LIGATURE YEH WITH HAMZA ABOVE WITH HAH INITIAL FORM",
    "LIGATURE YEH WITH HAMZA ABOVE WITH KHAH INITIAL FORM",
    "LIGATURE YEH WITH HAMZA ABOVE WITH MEEM INITIAL FORM",
    "LIGATURE YEH WITH HAMZA ABOVE WITH HEH INITIAL FORM;LIGATURE BEH WITH JEEM INITIAL FORM",
    "LIGATURE BEH WITH HAH INITIAL FORM;LIGATURE BEH WITH KHAH INITIAL FORM",
    "LIGATURE BEH WITH MEEM INITIAL FORM;LIGATURE BEH WITH HEH INITIAL FORM",
    "LIGATURE TEH WITH JEEM INITIAL FORM;LIGATURE TEH WITH HAH INITIAL FORM",
    "LIGATURE TEH WITH KHAH INITIAL FORM;LIGATURE TEH WITH MEEM INITIAL FORM",
    "LIGATURE TEH WITH HEH INITIAL FORM;LIGATURE THEH WITH MEEM INITIAL FORM",
    "LIGATURE JEEM WITH HAH INITIAL FORM;LIGATURE JEEM WITH MEEM INITIAL FORM",
    "LIGATURE HAH WITH JEEM INITIAL FORM;LIGATURE HAH WITH MEEM INITIAL FORM",
    "LIGATURE KHAH WITH JEEM INITIAL FORM;LIGATURE KHAH WITH MEEM INITIAL FORM",
    "LIGATURE SEEN WITH JEEM INITIAL FORM;LIGATURE SEEN WITH HAH INITIAL FORM",
    "LIGATURE SEEN WITH KHAH INITIAL FORM;LIGATURE SEEN WITH MEEM INITIAL FORM",
    "LIGATURE SAD WITH HAH INITIAL FORM;LIGATURE SAD WITH KHAH INITIAL FORM",
    "LIGATURE SAD WITH MEEM INITIAL FORM;LIGATURE DAD WITH JEEM INITIAL FORM",
    "LIGATURE DAD WITH HAH INITIAL FORM;LIGATURE DAD WITH KHAH INITIAL FORM",
    "LIGATURE DAD WITH MEEM INITIAL FORM;LIGATURE TAH WITH HAH INITIAL FORM",
    "LIGATURE ZAH WITH MEEM INITIAL FORM;LIGATURE AIN WITH JEEM INITIAL FORM",
    "LIGATURE AIN WITH MEEM INITIAL FORM;LIGATURE GHAIN WITH JEEM INITIAL FORM",
    "LIGATURE GHAIN WITH MEEM INITIAL FORM;LIGATURE FEH WITH JEEM INITIAL FORM",
    "LIGATURE FEH WITH HAH INITIAL FORM;LIGATURE FEH WITH KHAH INITIAL FORM",
    "LIGATURE FEH WITH MEEM INITIAL FORM;LIGATURE QAF WITH HAH INITIAL FORM",
    "LIGATURE QAF WITH MEEM INITIAL FORM;LIGATURE KAF WITH JEEM INITIAL FORM",
    "LIGATURE KAF WITH HAH INITIAL FORM;LIGATURE KAF WITH KHAH INITIAL FORM",
    "LIGATURE KAF WITH LAM INITIAL FORM;LIGATURE KAF WITH MEEM INITIAL FORM",
    "LIGATURE LAM WITH JEEM INITIAL FORM;LIGATURE LAM WITH HAH INITIAL FORM",
    "LIGATURE LAM WITH KHAH INITIAL FORM;LIGATURE LAM WITH MEEM INITIAL FORM",
    "LIGATURE LAM WITH HEH INITIAL FORM;LIGATURE MEEM WITH JEEM INITIAL FORM",
    "LIGATURE MEEM WITH HAH INITIAL FORM;LIGATURE MEEM WITH KHAH INITIAL FORM",
    "LIGATURE MEEM WITH MEEM INITIAL FORM;LIGATURE NOON WITH JEEM INITIAL FORM",
    "LIGATURE NOON WITH HAH INITIAL FORM;LIGATURE NOON WITH KHAH INITIAL FORM",
    "LIGATURE NOON WITH MEEM INITIAL FORM;LIGATURE NOON WITH HEH INITIAL FORM",
    "LIGATURE HEH WITH JEEM INITIAL FORM;LIGATURE HEH WITH MEEM INITIAL FORM",
    "LIGATURE HEH WITH SUPERSCRIPT ALEF INITIAL FORM;LIGATURE YEH WITH JEEM INITIAL FORM",
    "LIGATURE YEH WITH HAH INITIAL FORM;LIGATURE YEH WITH KHAH INITIAL FORM",
    "LIGATURE YEH WITH MEEM INITIAL FORM;LIGATURE YEH WITH HEH INITIAL FORM",
    "LIGATURE YEH WITH HAMZA ABOVE WITH MEEM MEDIAL FORM",
    "LIGATURE YEH WITH HAMZA ABOVE WITH HEH MEDIAL FORM;LIGATURE BEH WITH MEEM MEDIAL FORM",
    "LIGATURE BEH WITH HEH MEDIAL FORM;LIGATURE TEH WITH MEEM MEDIAL FORM",
    "LIGATURE TEH WITH HEH MEDIAL FORM;LIGATURE THEH WITH MEEM MEDIAL FORM",
    "LIGATURE THEH WITH HEH MEDIAL FORM;LIGATURE SEEN WITH MEEM MEDIAL FORM",
    "LIGATURE SEEN WITH HEH MEDIAL FORM;LIGATURE SHEEN WITH MEEM MEDIAL FORM",
    "LIGATURE SHEEN WITH HEH MEDIAL FORM;LIGATURE KAF WITH LAM MEDIAL FORM",
    "LIGATURE KAF WITH MEEM MEDIAL FORM;LIGATURE LAM WITH MEEM MEDIAL FORM",
    "LIGATURE NOON WITH MEEM MEDIAL FORM;LIGATURE NOON WITH HEH MEDIAL FORM",
    "LIGATURE YEH WITH MEEM MEDIAL FORM;LIGATURE YEH WITH HEH MEDIAL FORM",
    "LIGATURE SHADDA WITH FATHA MEDIAL FORM;LIGATURE SHADDA WITH DAMMA MEDIAL FORM",
    "LIGATURE SHADDA WITH KASRA MEDIAL FORM;LIGATURE TAH WITH ALEF MAKSURA ISOLATED FORM",
    "LIGATURE TAH WITH YEH ISOLATED FORM;LIGATURE AIN WITH ALEF MAKSURA ISOLATED FORM",
    "LIGATURE AIN WITH YEH ISOLATED FORM;LIGATURE GHAIN WITH ALEF MAKSURA ISOLATED FORM",
    "LIGATURE GHAIN WITH YEH ISOLATED FORM;LIGATURE SEEN WITH ALEF MAKSURA ISOLATED FORM",
    "LIGATURE SEEN WITH YEH ISOLATED FORM;LIGATURE SHEEN WITH ALEF MAKSURA ISOLATED FORM",
    "LIGATURE SHEEN WITH YEH ISOLATED FORM;LIGATURE HAH WITH ALEF MAKSURA ISOLATED FORM",
    "LIGATURE HAH WITH YEH ISOLATED FORM;LIGATURE JEEM WITH ALEF MAKSURA ISOLATED FORM",
    "LIGATURE JEEM WITH YEH ISOLATED FORM;LIGATURE KHAH WITH ALEF MAKSURA ISOLATED FORM",
    "LIGATURE KHAH WITH YEH ISOLATED FORM;LIGATURE SAD WITH ALEF MAKSURA ISOLATED FORM",
    "LIGATURE SAD WITH YEH ISOLATED FORM;LIGATURE DAD WITH ALEF MAKSURA ISOLATED FORM",
    "LIGATURE DAD WITH YEH ISOLATED FORM;LIGATURE SHEEN WITH JEEM ISOLATED FORM",
    "LIGATURE SHEEN WITH HAH ISOLATED FORM;LIGATURE SHEEN WITH KHAH ISOLATED FORM",
    "LIGATURE SHEEN WITH MEEM ISOLATED FORM;LIGATURE SHEEN WITH REH ISOLATED FORM",
    "LIGATURE SEEN WITH REH ISOLATED FORM;LIGATURE SAD WITH REH ISOLATED FORM",
    "LIGATURE DAD WITH REH ISOLATED FORM;LIGATURE TAH WITH ALEF MAKSURA FINAL FORM",
    "LIGATURE TAH WITH YEH FINAL FORM;LIGATURE AIN WITH ALEF MAKSURA FINAL FORM",
    "LIGATURE AIN WITH YEH FINAL FORM;LIGATURE GHAIN WITH ALEF MAKSURA FINAL FORM",
    "LIGATURE GHAIN WITH YEH FINAL FORM;LIGATURE SEEN WITH ALEF MAKSURA FINAL FORM",
    "LIGATURE SEEN WITH YEH FINAL FORM;LIGATURE SHEEN WITH ALEF MAKSURA FINAL FORM",
    "LIGATURE SHEEN WITH YEH FINAL FORM;LIGATURE HAH WITH ALEF MAKSURA FINAL FORM",
    "LIGATURE HAH WITH YEH FINAL FORM;LIGATURE JEEM WITH ALEF MAKSURA FINAL FORM",
    "LIGATURE JEEM WITH YEH FINAL FORM;LIGATURE KHAH WITH ALEF MAKSURA FINAL FORM",
    "LIGATURE KHAH WITH YEH FINAL FORM;LIGATURE SAD WITH ALEF MAKSURA FINAL FORM",
    "LIGATURE SAD WITH YEH FINAL FORM;LIGATURE DAD WITH ALEF MAKSURA FINAL FORM",
    "LIGATURE DAD WITH YEH FINAL FORM;LIGATURE SHEEN WITH JEEM FINAL FORM",
    "LIGATURE SHEEN WITH HAH FINAL FORM;LIGATURE SHEEN WITH KHAH FINAL FORM",
    "LIGATURE SHEEN WITH MEEM FINAL FORM;LIGATURE SHEEN WITH REH FINAL FORM",
    "LIGATURE SEEN WITH REH FINAL FORM;LIGATURE SAD WITH REH FINAL FORM",
    "LIGATURE DAD WITH REH FINAL FORM;LIGATURE SHEEN WITH JEEM INITIAL FORM",
    "LIGATURE SHEEN WITH HAH INITIAL FORM;LIGATURE SHEEN WITH KHAH INITIAL FORM",
    "LIGATURE SHEEN WITH MEEM INITIAL FORM;LIGATURE SEEN WITH HEH INITIAL FORM",
    "LIGATURE SHEEN WITH HEH INITIAL FORM;LIGATURE TAH WITH MEEM INITIAL FORM",
    "LIGATURE SEEN WITH JEEM MEDIAL FORM;LIGATURE SEEN WITH HAH MEDIAL FORM",
    "LIGATURE SEEN WITH KHAH MEDIAL FORM;LIGATURE SHEEN WITH JEEM MEDIAL FORM",
    "LIGATURE SHEEN WITH HAH MEDIAL FORM;LIGATURE SHEEN WITH KHAH MEDIAL FORM",
    "LIGATURE TAH WITH MEEM MEDIAL FORM;LIGATURE ZAH WITH MEEM MEDIAL FORM",
    "LIGATURE ALEF WITH FATHATAN FINAL FORM;LIGATURE ALEF WITH FATHATAN ISOLATED FORM"]),
  (0xfd3e, "", ["ORNATE LEFT PARENTHESIS;ORNATE RIGHT PARENTHESIS"]),
  (0xfd40, "ARABIC LIGATURE ", [
    "RAHIMAHU ALLAAH;RADI ALLAAHU ANH;RADI ALLAAHU ANHAA;RADI ALLAAHU ANHUM",
    "RADI ALLAAHU ANHUMAA;RADI ALLAAHU ANHUNNA;SALLALLAAHU ALAYHI WA-AALIH;ALAYHI AS-SALAAM",
    "ALAYHIM AS-SALAAM;ALAYHIMAA AS-SALAAM;ALAYHI AS-SALAATU WAS-SALAAM;QUDDISA SIRRAH",
    "SALLALLAHU ALAYHI WAAALIHEE WA-SALLAM;ALAYHAA AS-SALAAM;TABAARAKA WA-TAAALAA",
    "RAHIMAHUM ALLAAH;TEH WITH JEEM WITH MEEM INITIAL FORM;TEH WITH HAH WITH JEEM FINAL FORM",
    "TEH WITH HAH WITH JEEM INITIAL FORM;TEH WITH HAH WITH MEEM INITIAL FORM",
    "TEH WITH KHAH WITH MEEM INITIAL FORM;TEH WITH MEEM WITH JEEM INITIAL FORM",
    "TEH WITH MEEM WITH HAH INITIAL FORM;TEH WITH MEEM WITH KHAH INITIAL FORM",
    "JEEM WITH MEEM WITH HAH FINAL FORM;JEEM WITH MEEM WITH HAH INITIAL FORM",
    "HAH WITH MEEM WITH YEH FINAL FORM;HAH WITH MEEM WITH ALEF MAKSURA FINAL FORM",
    "SEEN WITH HAH WITH JEEM INITIAL FORM;SEEN WITH JEEM WITH HAH INITIAL FORM",
    "SEEN WITH JEEM WITH ALEF MAKSURA FINAL FORM;SEEN WITH MEEM WITH HAH FINAL FORM",
    "SEEN WITH MEEM WITH HAH INITIAL FORM;SEEN WITH MEEM WITH JEEM INITIAL FORM",
    "SEEN WITH MEEM WITH MEEM FINAL FORM;SEEN WITH MEEM WITH MEEM INITIAL FORM",
    "SAD WITH HAH WITH HAH FINAL FORM;SAD WITH HAH WITH HAH INITIAL FORM",
    "SAD WITH MEEM WITH MEEM FINAL FORM;SHEEN WITH HAH WITH MEEM FINAL FORM",
    "SHEEN WITH HAH WITH MEEM INITIAL FORM;SHEEN WITH JEEM WITH YEH FINAL FORM",
    "SHEEN WITH MEEM WITH KHAH FINAL FORM;SHEEN WITH MEEM WITH KHAH INITIAL FORM",
    "SHEEN WITH MEEM WITH MEEM FINAL FORM;SHEEN WITH MEEM WITH MEEM INITIAL FORM",
    "DAD WITH HAH WITH ALEF MAKSURA FINAL FORM;DAD WITH KHAH WITH MEEM FINAL FORM",
    "DAD WITH KHAH WITH MEEM INITIAL FORM;TAH WITH MEEM WITH HAH FINAL FORM",
    "TAH WITH MEEM WITH HAH INITIAL FORM;TAH WITH MEEM WITH MEEM INITIAL FORM",
    "TAH WITH MEEM WITH YEH FINAL FORM;AIN WITH JEEM WITH MEEM FINAL FORM",
    "AIN WITH MEEM WITH MEEM FINAL FORM;AIN WITH MEEM WITH MEEM INITIAL FORM",
    "AIN WITH MEEM WITH ALEF MAKSURA FINAL FORM;GHAIN WITH MEEM WITH MEEM FINAL FORM",
    "GHAIN WITH MEEM WITH YEH FINAL FORM;GHAIN WITH MEEM WITH ALEF MAKSURA FINAL FORM",
    "FEH WITH KHAH WITH MEEM FINAL FORM;FEH WITH KHAH WITH MEEM INITIAL FORM",
    "QAF WITH MEEM WITH HAH FINAL FORM;QAF WITH MEEM WITH MEEM FINAL FORM",
    "LAM WITH HAH WITH MEEM FINAL FORM;LAM WITH HAH WITH YEH FINAL FORM",
    "LAM WITH HAH WITH ALEF MAKSURA FINAL FORM;LAM WITH JEEM WITH JEEM INITIAL FORM",
    "LAM WITH JEEM WITH JEEM FINAL FORM;LAM WITH KHAH WITH MEEM FINAL FORM",
    "LAM WITH KHAH WITH MEEM INITIAL FORM;LAM WITH MEEM WITH HAH FINAL FORM",
    "LAM WITH MEEM WITH HAH INITIAL FORM;MEEM WITH HAH WITH JEEM INITIAL FORM",
    "MEEM WITH HAH WITH MEEM INITIAL FORM;MEEM WITH HAH WITH YEH FINAL FORM",
    "MEEM WITH JEEM WITH HAH INITIAL FORM;MEEM WITH JEEM WITH MEEM INITIAL FORM",
    "MEEM WITH KHAH WITH JEEM INITIAL FORM;MEEM WITH KHAH WITH MEEM INITIAL FORM"]),
  (0xfd92, "ARABIC LIGATURE ", [
    "MEEM WITH JEEM WITH KHAH INITIAL FORM;HEH WITH MEEM WITH JEEM INITIAL FORM",
    "HEH WITH MEEM WITH MEEM INITIAL FORM;NOON WITH HAH WITH MEEM INITIAL FORM",
    "NOON WITH HAH WITH ALEF MAKSURA FINAL FORM;NOON WITH JEEM WITH MEEM FINAL FORM",
    "NOON WITH JEEM WITH MEEM INITIAL FORM;NOON WITH JEEM WITH ALEF MAKSURA FINAL FORM",
    "NOON WITH MEEM WITH YEH FINAL FORM;NOON WITH MEEM WITH ALEF MAKSURA FINAL FORM",
    "YEH WITH MEEM WITH MEEM FINAL FORM;YEH WITH MEEM WITH MEEM INITIAL FORM",
    "BEH WITH KHAH WITH YEH FINAL FORM;TEH WITH JEEM WITH YEH FINAL FORM",
    "TEH WITH JEEM WITH ALEF MAKSURA FINAL FORM;TEH WITH KHAH WITH YEH FINAL FORM",
    "TEH WITH KHAH WITH ALEF MAKSURA FINAL FORM;TEH WITH MEEM WITH YEH FINAL FORM",
    "TEH WITH MEEM WITH ALEF MAKSURA FINAL FORM;JEEM WITH MEEM WITH YEH FINAL FORM",
    "JEEM WITH HAH WITH ALEF MAKSURA FINAL FORM;JEEM WITH MEEM WITH ALEF MAKSURA FINAL FORM",
    "SEEN WITH KHAH WITH ALEF MAKSURA FINAL FORM;SAD WITH HAH WITH YEH FINAL FORM",
    "SHEEN WITH HAH WITH YEH FINAL FORM;DAD WITH HAH WITH YEH FINAL FORM",
    "LAM WITH JEEM WITH YEH FINAL FORM;LAM WITH MEEM WITH YEH FINAL FORM",
    "YEH WITH HAH WITH YEH FINAL FORM;YEH WITH JEEM WITH YEH FINAL FORM",
    "YEH WITH MEEM WITH YEH FINAL FORM;MEEM WITH MEEM WITH YEH FINAL FORM",
    "QAF WITH MEEM WITH YEH FINAL FORM;NOON WITH HAH WITH YEH FINAL FORM",
    "QAF WITH MEEM WITH HAH INITIAL FORM;LAM WITH HAH WITH MEEM INITIAL FORM",
    "AIN WITH MEEM WITH YEH FINAL FORM;KAF WITH MEEM WITH YEH FINAL FORM",
    "NOON WITH JEEM WITH HAH INITIAL FORM;MEEM WITH KHAH WITH YEH FINAL FORM",
    "LAM WITH JEEM WITH MEEM INITIAL FORM;KAF WITH MEEM WITH MEEM FINAL FORM",
    "LAM WITH JEEM WITH MEEM FINAL FORM;NOON WITH JEEM WITH HAH FINAL FORM",
    "JEEM WITH HAH WITH YEH FINAL FORM;HAH WITH JEEM WITH YEH FINAL FORM",
    "MEEM WITH JEEM WITH YEH FINAL FORM;FEH WITH MEEM WITH YEH FINAL FORM",
    "BEH WITH HAH WITH YEH FINAL FORM;KAF WITH MEEM WITH MEEM INITIAL FORM",
    "AIN WITH JEEM WITH MEEM INITIAL FORM;SAD WITH MEEM WITH MEEM INITIAL FORM",
    "SEEN WITH KHAH WITH YEH FINAL FORM;NOON WITH JEEM WITH YEH FINAL FORM"]),
  (0xfdcf, "", ["ARABIC LIGATURE SALAAMUHU ALAYNAA"]),
  (0xfdf0, "ARABIC LIGATURE ", [
    "SALLA USED AS KORANIC STOP SIGN ISOLATED FORM",
    "QALA USED AS KORANIC STOP SIGN ISOLATED FORM;ALLAH ISOLATED FORM;AKBAR ISOLATED FORM",
    "MOHAMMAD ISOLATED FORM;SALAM ISOLATED FORM;RASOUL ISOLATED FORM;ALAYHE ISOLATED FORM",
    "WASALLAM ISOLATED FORM;SALLA ISOLATED FORM;SALLALLAHOU ALAYHE WASALLAM;JALLAJALALOUHOU"]),
  (0xfdfc, "", ["RIAL SIGN"]),
  (0xfdfd, "ARABIC LIGATURE ", [
    "BISMILLAH AR-RAHMAN AR-RAHEEM;SUBHAANAHU WA TAAALAA;AZZA WA JALL"]),
  (0xfe10, "PRESENTATION FORM FOR VERTICAL ", [
    "COMMA;IDEOGRAPHIC COMMA;IDEOGRAPHIC FULL STOP;COLON;SEMICOLON;EXCLAMATION MARK",
    "QUESTION MARK;LEFT WHITE LENTICULAR BRACKET;RIGHT WHITE LENTICULAR BRAKCET",
    "HORIZONTAL ELLIPSIS"]),
  (0xfe20, "COMBINING ", [
    "LIGATURE LEFT HALF;LIGATURE RIGHT HALF;DOUBLE TILDE LEFT HALF;DOUBLE TILDE RIGHT HALF",
    "MACRON LEFT HALF;MACRON RIGHT HALF;CONJOINING MACRON;LIGATURE LEFT HALF BELOW",
    "LIGATURE RIGHT HALF BELOW;TILDE LEFT HALF BELOW;TILDE RIGHT HALF BELOW",
    "MACRON LEFT HALF BELOW;MACRON RIGHT HALF BELOW;CONJOINING MACRON BELOW",
    "CYRILLIC TITLO LEFT HALF;CYRILLIC TITLO RIGHT HALF"]),
  (0xfe30, "PRESENTATION FORM FOR VERTICAL ", [
    "TWO DOT LEADER;EM DASH;EN DASH;LOW LINE;WAVY LOW LINE;LEFT PARENTHESIS;RIGHT PARENTHESIS",
    "LEFT CURLY BRACKET;RIGHT CURLY BRACKET;LEFT TORTOISE SHELL BRACKET",
    "RIGHT TORTOISE SHELL BRACKET;LEFT BLACK LENTICULAR BRACKET",
    "RIGHT BLACK LENTICULAR BRACKET;LEFT DOUBLE ANGLE BRACKET;RIGHT DOUBLE ANGLE BRACKET",
    "LEFT ANGLE BRACKET;RIGHT ANGLE BRACKET;LEFT CORNER BRACKET;RIGHT CORNER BRACKET",
    "LEFT WHITE CORNER BRACKET;RIGHT WHITE CORNER BRACKET"]),
  (0xfe45, "", ["SESAME DOT;WHITE SESAME DOT"]),
  (0xfe47, "PRESENTATION FORM FOR VERTICAL ", ["LEFT SQUARE BRACKET;RIGHT SQUARE BRACKET"]),
  (0xfe49, "", [
    "DASHED OVERLINE;CENTRELINE OVERLINE;WAVY OVERLINE;DOUBLE WAVY OVERLINE;DASHED LOW LINE",
    "CENTRELINE LOW LINE;WAVY LOW LINE"]),
  (0xfe50, "SMALL ", ["COMMA;IDEOGRAPHIC COMMA;FULL STOP"]),
  (0xfe54, "SMALL ", [
    "SEMICOLON;COLON;QUESTION MARK;EXCLAMATION MARK;EM DASH;LEFT PARENTHESIS",
    "RIGHT PARENTHESIS;LEFT CURLY BRACKET;RIGHT CURLY BRACKET;LEFT TORTOISE SHELL BRACKET",
    "RIGHT TORTOISE SHELL BRACKET;NUMBER SIGN;AMPERSAND;ASTERISK;PLUS SIGN;HYPHEN-MINUS",
    "LESS-THAN SIGN;GREATER-THAN SIGN;EQUALS SIGN"]),
  (0xfe68, "SMALL ", ["REVERSE SOLIDUS;DOLLAR SIGN;PERCENT SIGN;COMMERCIAL AT"]),
  (0xfe70, "ARABIC ", [
    "FATHATAN ISOLATED FORM;TATWEEL WITH FATHATAN ABOVE;DAMMATAN ISOLATED FORM;TAIL FRAGMENT",
    "KASRATAN ISOLATED FORM"]),
  (0xfe76, "ARABIC ", [
    "FATHA ISOLATED FORM;FATHA MEDIAL FORM;DAMMA ISOLATED FORM;DAMMA MEDIAL FORM",
    "KASRA ISOLATED FORM;KASRA MEDIAL FORM;SHADDA ISOLATED FORM;SHADDA MEDIAL FORM",
    "SUKUN ISOLATED FORM;SUKUN MEDIAL FORM;LETTER HAMZA ISOLATED FORM",
    "LETTER ALEF WITH MADDA ABOVE ISOLATED FORM;LETTER ALEF WITH MADDA ABOVE FINAL FORM",
    "LETTER ALEF WITH HAMZA ABOVE ISOLATED FORM;LETTER ALEF WITH HAMZA ABOVE FINAL FORM",
    "LETTER WAW WITH HAMZA ABOVE ISOLATED FORM;LETTER WAW WITH HAMZA ABOVE FINAL FORM",
    "LETTER ALEF WITH HAMZA BELOW ISOLATED FORM;LETTER ALEF WITH HAMZA BELOW FINAL FORM",
    "LETTER YEH WITH HAMZA ABOVE ISOLATED FORM;LETTER YEH WITH HAMZA ABOVE FINAL FORM",
    "LETTER YEH WITH HAMZA ABOVE INITIAL FORM;LETTER YEH WITH HAMZA ABOVE MEDIAL FORM",
    "LETTER ALEF ISOLATED FORM;LETTER ALEF FINAL FORM;LETTER BEH ISOLATED FORM",
    "LETTER BEH FINAL FORM;LETTER BEH INITIAL FORM;LETTER BEH MEDIAL FORM",
    "LETTER TEH MARBUTA ISOLATED FORM;LETTER TEH MARBUTA FINAL FORM;LETTER TEH ISOLATED FORM",
    "LETTER TEH FINAL FORM;LETTER TEH INITIAL FORM;LETTER TEH MEDIAL FORM",
    "LETTER THEH ISOLATED FORM;LETTER THEH FINAL FORM;LETTER THEH INITIAL FORM",
    "LETTER THEH MEDIAL FORM;LETTER JEEM ISOLATED FORM;LETTER JEEM FINAL FORM",
    "LETTER JEEM INITIAL FORM;LETTER JEEM MEDIAL FORM;LETTER HAH ISOLATED FORM",
    "LETTER HAH FINAL FORM;LETTER HAH INITIAL FORM;LETTER HAH MEDIAL FORM",
    "LETTER KHAH ISOLATED FORM;LETTER KHAH FINAL FORM;LETTER KHAH INITIAL FORM",
    "LETTER KHAH MEDIAL FORM;LETTER DAL ISOLATED FORM;LETTER DAL FINAL FORM",
    "LETTER THAL ISOLATED FORM;LETTER THAL FINAL FORM;LETTER REH ISOLATED FORM",
    "LETTER REH FINAL FORM;LETTER ZAIN ISOLATED FORM;LETTER ZAIN FINAL FORM",
    "LETTER SEEN ISOLATED FORM;LETTER SEEN FINAL FORM;LETTER SEEN INITIAL FORM",
    "LETTER SEEN MEDIAL FORM;LETTER SHEEN ISOLATED FORM;LETTER SHEEN FINAL FORM",
    "LETTER SHEEN INITIAL FORM;LETTER SHEEN MEDIAL FORM;LETTER SAD ISOLATED FORM",
    "LETTER SAD FINAL FORM;LETTER SAD INITIAL FORM;LETTER SAD MEDIAL FORM",
    "LETTER DAD ISOLATED FORM;LETTER DAD FINAL FORM;LETTER DAD INITIAL FORM",
    "LETTER DAD MEDIAL FORM;LETTER TAH ISOLATED FORM;LETTER TAH FINAL FORM",
    "LETTER TAH INITIAL FORM;LETTER TAH MEDIAL FORM;LETTER ZAH ISOLATED FORM",
    "LETTER ZAH FINAL FORM;LETTER ZAH INITIAL FORM;LETTER ZAH MEDIAL FORM",
    "LETTER AIN ISOLATED FORM;LETTER AIN FINAL FORM;LETTER AIN INITIAL FORM",
    "LETTER AIN MEDIAL FORM;LETTER GHAIN ISOLATED FORM;LETTER GHAIN FINAL FORM",
    "LETTER GHAIN INITIAL FORM;LETTER GHAIN MEDIAL FORM;LETTER FEH ISOLATED FORM",
    "LETTER FEH FINAL FORM;LETTER FEH INITIAL FORM;LETTER FEH MEDIAL FORM",
    "LETTER QAF ISOLATED FORM;LETTER QAF FINAL FORM;LETTER QAF INITIAL FORM",
    "LETTER QAF MEDIAL FORM;LETTER KAF ISOLATED FORM;LETTER KAF FINAL FORM",
    "LETTER KAF INITIAL FORM;LETTER KAF MEDIAL FORM;LETTER LAM ISOLATED FORM",
    "LETTER LAM FINAL FORM;LETTER LAM INITIAL FORM;LETTER LAM MEDIAL FORM",
    "LETTER MEEM ISOLATED FORM;LETTER MEEM FINAL FORM;LETTER MEEM INITIAL FORM",
    "LETTER MEEM MEDIAL FORM;LETTER NOON ISOLATED FORM;LETTER NOON FINAL FORM",
    "LETTER NOON INITIAL FORM;LETTER NOON MEDIAL FORM;LETTER HEH ISOLATED FORM",
    "LETTER HEH FINAL FORM;LETTER HEH INITIAL FORM;LETTER HEH MEDIAL FORM",
    "LETTER WAW ISOLATED FORM;LETTER WAW FINAL FORM;LETTER ALEF MAKSURA ISOLATED FORM",
    "LETTER ALEF MAKSURA FINAL FORM;LETTER YEH ISOLATED FORM;LETTER YEH FINAL FORM",
    "LETTER YEH INITIAL FORM;LETTER YEH MEDIAL FORM",
    "LIGATURE LAM WITH ALEF WITH MADDA ABOVE ISOLATED FORM",
    "LIGATURE LAM WITH ALEF WITH MADDA ABOVE FINAL FORM",
    "LIGATURE LAM WITH ALEF WITH HAMZA ABOVE ISOLATED FORM",
    "LIGATURE LAM WITH ALEF WITH HAMZA ABOVE FINAL FORM",
    "LIGATURE LAM WITH ALEF WITH HAMZA BELOW ISOLATED FORM",
    "LIGATURE LAM WITH ALEF WITH HAMZA BELOW FINAL FORM;LIGATURE LAM WITH ALEF ISOLATED FORM",
    "LIGATURE LAM WITH ALEF FINAL FORM"]),
  (0xfeff, "", ["ZERO WIDTH NO-BREAK SPACE"]),
  (0xff01, "FULLWIDTH ", [
    "EXCLAMATION MARK;QUOTATION MARK;NUMBER SIGN;DOLLAR SIGN;PERCENT SIGN;AMPERSAND",
    "APOSTROPHE;LEFT PARENTHESIS;RIGHT PARENTHESIS;ASTERISK;PLUS SIGN;COMMA;HYPHEN-MINUS",
    "FULL STOP;SOLIDUS;DIGIT ZERO;DIGIT ONE;DIGIT TWO;DIGIT THREE;DIGIT FOUR;DIGIT FIVE",
    "DIGIT SIX;DIGIT SEVEN;DIGIT EIGHT;DIGIT NINE;COLON;SEMICOLON;LESS-THAN SIGN;EQUALS SIGN",
    "GREATER-THAN SIGN;QUESTION MARK;COMMERCIAL AT;LATIN CAPITAL LETTER A",
    "LATIN CAPITAL LETTER B;LATIN CAPITAL LETTER C;LATIN CAPITAL LETTER D",
    "LATIN CAPITAL LETTER E;LATIN CAPITAL LETTER F;LATIN CAPITAL LETTER G",
    "LATIN CAPITAL LETTER H;LATIN CAPITAL LETTER I;LATIN CAPITAL LETTER J",
    "LATIN CAPITAL LETTER K;LATIN CAPITAL LETTER L;LATIN CAPITAL LETTER M",
    "LATIN CAPITAL LETTER N;LATIN CAPITAL LETTER O;LATIN CAPITAL LETTER P",
    "LATIN CAPITAL LETTER Q;LATIN CAPITAL LETTER R;LATIN CAPITAL LETTER S",
    "LATIN CAPITAL LETTER T;LATIN CAPITAL LETTER U;LATIN CAPITAL LETTER V",
    "LATIN CAPITAL LETTER W;LATIN CAPITAL LETTER X;LATIN CAPITAL LETTER Y",
    "LATIN CAPITAL LETTER Z;LEFT SQUARE BRACKET;REVERSE SOLIDUS;RIGHT SQUARE BRACKET",
    "CIRCUMFLEX ACCENT;LOW LINE;GRAVE ACCENT;LATIN SMALL LETTER A;LATIN SMALL LETTER B",
    "LATIN SMALL LETTER C;LATIN SMALL LETTER D;LATIN SMALL LETTER E;LATIN SMALL LETTER F",
    "LATIN SMALL LETTER G;LATIN SMALL LETTER H;LATIN SMALL LETTER I;LATIN SMALL LETTER J",
    "LATIN SMALL LETTER K;LATIN SMALL LETTER L;LATIN SMALL LETTER M;LATIN SMALL LETTER N",
    "LATIN SMALL LETTER O;LATIN SMALL LETTER P;LATIN SMALL LETTER Q;LATIN SMALL LETTER R",
    "LATIN SMALL LETTER S;LATIN SMALL LETTER T;LATIN SMALL LETTER U;LATIN SMALL LETTER V",
    "LATIN SMALL LETTER W;LATIN SMALL LETTER X;LATIN SMALL LETTER Y;LATIN SMALL LETTER Z",
    "LEFT CURLY BRACKET;VERTICAL LINE;RIGHT CURLY BRACKET;TILDE;LEFT WHITE PARENTHESIS",
    "RIGHT WHITE PARENTHESIS"]),
  (0xff61, "HALFWIDTH ", [
    "IDEOGRAPHIC FULL STOP;LEFT CORNER BRACKET;RIGHT CORNER BRACKET;IDEOGRAPHIC COMMA",
    "KATAKANA MIDDLE DOT;KATAKANA LETTER WO;KATAKANA LETTER SMALL A;KATAKANA LETTER SMALL I",
    "KATAKANA LETTER SMALL U;KATAKANA LETTER SMALL E;KATAKANA LETTER SMALL O",
    "KATAKANA LETTER SMALL YA;KATAKANA LETTER SMALL YU;KATAKANA LETTER SMALL YO",
    "KATAKANA LETTER SMALL TU;KATAKANA-HIRAGANA PROLONGED SOUND MARK;KATAKANA LETTER A",
    "KATAKANA LETTER I;KATAKANA LETTER U;KATAKANA LETTER E;KATAKANA LETTER O",
    "KATAKANA LETTER KA;KATAKANA LETTER KI;KATAKANA LETTER KU;KATAKANA LETTER KE",
    "KATAKANA LETTER KO;KATAKANA LETTER SA;KATAKANA LETTER SI;KATAKANA LETTER SU",
    "KATAKANA LETTER SE;KATAKANA LETTER SO;KATAKANA LETTER TA;KATAKANA LETTER TI",
    "KATAKANA LETTER TU;KATAKANA LETTER TE;KATAKANA LETTER TO;KATAKANA LETTER NA",
    "KATAKANA LETTER NI;KATAKANA LETTER NU;KATAKANA LETTER NE;KATAKANA LETTER NO",
    "KATAKANA LETTER HA;KATAKANA LETTER HI;KATAKANA LETTER HU;KATAKANA LETTER HE",
    "KATAKANA LETTER HO;KATAKANA LETTER MA;KATAKANA LETTER MI;KATAKANA LETTER MU",
    "KATAKANA LETTER ME;KATAKANA LETTER MO;KATAKANA LETTER YA;KATAKANA LETTER YU",
    "KATAKANA LETTER YO;KATAKANA LETTER RA;KATAKANA LETTER RI;KATAKANA LETTER RU",
    "KATAKANA LETTER RE;KATAKANA LETTER RO;KATAKANA LETTER WA;KATAKANA LETTER N",
    "KATAKANA VOICED SOUND MARK;KATAKANA SEMI-VOICED SOUND MARK;HANGUL FILLER",
    "HANGUL LETTER KIYEOK;HANGUL LETTER SSANGKIYEOK;HANGUL LETTER KIYEOK-SIOS",
    "HANGUL LETTER NIEUN;HANGUL LETTER NIEUN-CIEUC;HANGUL LETTER NIEUN-HIEUH",
    "HANGUL LETTER TIKEUT;HANGUL LETTER SSANGTIKEUT;HANGUL LETTER RIEUL",
    "HANGUL LETTER RIEUL-KIYEOK;HANGUL LETTER RIEUL-MIEUM;HANGUL LETTER RIEUL-PIEUP",
    "HANGUL LETTER RIEUL-SIOS;HANGUL LETTER RIEUL-THIEUTH;HANGUL LETTER RIEUL-PHIEUPH",
    "HANGUL LETTER RIEUL-HIEUH;HANGUL LETTER MIEUM;HANGUL LETTER PIEUP",
    "HANGUL LETTER SSANGPIEUP;HANGUL LETTER PIEUP-SIOS;HANGUL LETTER SIOS",
    "HANGUL LETTER SSANGSIOS;HANGUL LETTER IEUNG;HANGUL LETTER CIEUC;HANGUL LETTER SSANGCIEUC",
    "HANGUL LETTER CHIEUCH;HANGUL LETTER KHIEUKH;HANGUL LETTER THIEUTH;HANGUL LETTER PHIEUPH",
    "HANGUL LETTER HIEUH"]),
  (0xffc2, "HALFWIDTH HANGUL LETTER ", ["A;AE;YA;YAE;EO;E"]),
  (0xffca, "HALFWIDTH HANGUL LETTER ", ["YEO;YE;O;WA;WAE;OE"]),
  (0xffd2, "HALFWIDTH HANGUL LETTER ", ["YO;U;WEO;WE;WI;YU"]),
  (0xffda, "HALFWIDTH HANGUL LETTER ", ["EU;YI;I"]),
  (0xffe0, "FULLWIDTH ", ["CENT SIGN;POUND SIGN;NOT SIGN;MACRON;BROKEN BAR;YEN SIGN;WON SIGN"]),
  (0xffe8, "HALFWIDTH ", [
    "FORMS LIGHT VERTICAL;LEFTWARDS ARROW;UPWARDS ARROW;RIGHTWARDS ARROW;DOWNWARDS ARROW",
    "BLACK SQUARE;WHITE CIRCLE"]),
  (0xfff9, "INTERLINEAR ANNOTATION ", ["ANCHOR;SEPARATOR;TERMINATOR"]),
  (0xfffc, "", ["OBJECT REPLACEMENT CHARACTER;REPLACEMENT CHARACTER"])]

end HttpContract.Text.Names
