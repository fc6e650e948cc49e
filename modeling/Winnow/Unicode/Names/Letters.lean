/-!
# Names of letters

Each row gives the names of characters with consecutive code points, the first one being the number
of the row.
-/

namespace Winnow.Unicode

/-- The names from code point 0020 to 0212. -/
def letterNamesFrom0020 : List (Nat × String) := [
  (0x20, "SPACE;EXCLAMATION MARK;QUOTATION MARK;NUMBER SIGN;DOLLAR SIGN;PERCENT SIGN;AMPERSAND"),
  (0x27, "APOSTROPHE;LEFT PARENTHESIS;RIGHT PARENTHESIS;ASTERISK;PLUS SIGN;COMMA;HYPHEN-MINUS"),
  (0x2E, "FULL STOP;SOLIDUS;DIGIT ZERO;DIGIT ONE;DIGIT TWO;DIGIT THREE;DIGIT FOUR;DIGIT FIVE"),
  (0x36, "DIGIT SIX;DIGIT SEVEN;DIGIT EIGHT;DIGIT NINE;COLON;SEMICOLON;LESS-THAN SIGN;EQUALS SIGN"),
  (0x3E, "GREATER-THAN SIGN;QUESTION MARK;COMMERCIAL AT;LATIN CAPITAL LETTER A"),
  (0x42, "LATIN CAPITAL LETTER B;LATIN CAPITAL LETTER C;LATIN CAPITAL LETTER D"),
  (0x45, "LATIN CAPITAL LETTER E;LATIN CAPITAL LETTER F;LATIN CAPITAL LETTER G"),
  (0x48, "LATIN CAPITAL LETTER H;LATIN CAPITAL LETTER I;LATIN CAPITAL LETTER J"),
  (0x4B, "LATIN CAPITAL LETTER K;LATIN CAPITAL LETTER L;LATIN CAPITAL LETTER M"),
  (0x4E, "LATIN CAPITAL LETTER N;LATIN CAPITAL LETTER O;LATIN CAPITAL LETTER P"),
  (0x51, "LATIN CAPITAL LETTER Q;LATIN CAPITAL LETTER R;LATIN CAPITAL LETTER S"),
  (0x54, "LATIN CAPITAL LETTER T;LATIN CAPITAL LETTER U;LATIN CAPITAL LETTER V"),
  (0x57, "LATIN CAPITAL LETTER W;LATIN CAPITAL LETTER X;LATIN CAPITAL LETTER Y"),
  (0x5A, "LATIN CAPITAL LETTER Z;LEFT SQUARE BRACKET;REVERSE SOLIDUS;RIGHT SQUARE BRACKET"),
  (0x5E, "CIRCUMFLEX ACCENT;LOW LINE;GRAVE ACCENT;LATIN SMALL LETTER A;LATIN SMALL LETTER B"),
  (0x63, "LATIN SMALL LETTER C;LATIN SMALL LETTER D;LATIN SMALL LETTER E;LATIN SMALL LETTER F"),
  (0x67, "LATIN SMALL LETTER G;LATIN SMALL LETTER H;LATIN SMALL LETTER I;LATIN SMALL LETTER J"),
  (0x6B, "LATIN SMALL LETTER K;LATIN SMALL LETTER L;LATIN SMALL LETTER M;LATIN SMALL LETTER N"),
  (0x6F, "LATIN SMALL LETTER O;LATIN SMALL LETTER P;LATIN SMALL LETTER Q;LATIN SMALL LETTER R"),
  (0x73, "LATIN SMALL LETTER S;LATIN SMALL LETTER T;LATIN SMALL LETTER U;LATIN SMALL LETTER V"),
  (0x77, "LATIN SMALL LETTER W;LATIN SMALL LETTER X;LATIN SMALL LETTER Y;LATIN SMALL LETTER Z"),
  (0x7B, "LEFT CURLY BRACKET;VERTICAL LINE;RIGHT CURLY BRACKET;TILDE;NO-BREAK SPACE"),
  (0xA1, "INVERTED EXCLAMATION MARK;CENT SIGN;POUND SIGN;CURRENCY SIGN;YEN SIGN;BROKEN BAR"),
  (0xA7, "SECTION SIGN;DIAERESIS;COPYRIGHT SIGN;FEMININE ORDINAL INDICATOR"),
  (0xAB, "LEFT-POINTING DOUBLE ANGLE QUOTATION MARK;NOT SIGN;SOFT HYPHEN;REGISTERED SIGN;MACRON"),
  (0xB0, "DEGREE SIGN;PLUS-MINUS SIGN;SUPERSCRIPT TWO;SUPERSCRIPT THREE;ACUTE ACCENT;MICRO SIGN"),
  (0xB6, "PILCROW SIGN;MIDDLE DOT;CEDILLA;SUPERSCRIPT ONE;MASCULINE ORDINAL INDICATOR"),
  (0xBB, "RIGHT-POINTING DOUBLE ANGLE QUOTATION MARK;VULGAR FRACTION ONE QUARTER"),
  (0xBD, "VULGAR FRACTION ONE HALF;VULGAR FRACTION THREE QUARTERS;INVERTED QUESTION MARK"),
  (0xC0, "LATIN CAPITAL LETTER A WITH GRAVE;LATIN CAPITAL LETTER A WITH ACUTE"),
  (0xC2, "LATIN CAPITAL LETTER A WITH CIRCUMFLEX;LATIN CAPITAL LETTER A WITH TILDE"),
  (0xC4, "LATIN CAPITAL LETTER A WITH DIAERESIS;LATIN CAPITAL LETTER A WITH RING ABOVE"),
  (0xC6, "LATIN CAPITAL LETTER AE;LATIN CAPITAL LETTER C WITH CEDILLA"),
  (0xC8, "LATIN CAPITAL LETTER E WITH GRAVE;LATIN CAPITAL LETTER E WITH ACUTE"),
  (0xCA, "LATIN CAPITAL LETTER E WITH CIRCUMFLEX;LATIN CAPITAL LETTER E WITH DIAERESIS"),
  (0xCC, "LATIN CAPITAL LETTER I WITH GRAVE;LATIN CAPITAL LETTER I WITH ACUTE"),
  (0xCE, "LATIN CAPITAL LETTER I WITH CIRCUMFLEX;LATIN CAPITAL LETTER I WITH DIAERESIS"),
  (0xD0, "LATIN CAPITAL LETTER ETH;LATIN CAPITAL LETTER N WITH TILDE"),
  (0xD2, "LATIN CAPITAL LETTER O WITH GRAVE;LATIN CAPITAL LETTER O WITH ACUTE"),
  (0xD4, "LATIN CAPITAL LETTER O WITH CIRCUMFLEX;LATIN CAPITAL LETTER O WITH TILDE"),
  (0xD6, "LATIN CAPITAL LETTER O WITH DIAERESIS;MULTIPLICATION SIGN"),
  (0xD8, "LATIN CAPITAL LETTER O WITH STROKE;LATIN CAPITAL LETTER U WITH GRAVE"),
  (0xDA, "LATIN CAPITAL LETTER U WITH ACUTE;LATIN CAPITAL LETTER U WITH CIRCUMFLEX"),
  (0xDC, "LATIN CAPITAL LETTER U WITH DIAERESIS;LATIN CAPITAL LETTER Y WITH ACUTE"),
  (0xDE, "LATIN CAPITAL LETTER THORN;LATIN SMALL LETTER SHARP S;LATIN SMALL LETTER A WITH GRAVE"),
  (0xE1, "LATIN SMALL LETTER A WITH ACUTE;LATIN SMALL LETTER A WITH CIRCUMFLEX"),
  (0xE3, "LATIN SMALL LETTER A WITH TILDE;LATIN SMALL LETTER A WITH DIAERESIS"),
  (0xE5, "LATIN SMALL LETTER A WITH RING ABOVE;LATIN SMALL LETTER AE"),
  (0xE7, "LATIN SMALL LETTER C WITH CEDILLA;LATIN SMALL LETTER E WITH GRAVE"),
  (0xE9, "LATIN SMALL LETTER E WITH ACUTE;LATIN SMALL LETTER E WITH CIRCUMFLEX"),
  (0xEB, "LATIN SMALL LETTER E WITH DIAERESIS;LATIN SMALL LETTER I WITH GRAVE"),
  (0xED, "LATIN SMALL LETTER I WITH ACUTE;LATIN SMALL LETTER I WITH CIRCUMFLEX"),
  (0xEF, "LATIN SMALL LETTER I WITH DIAERESIS;LATIN SMALL LETTER ETH"),
  (0xF1, "LATIN SMALL LETTER N WITH TILDE;LATIN SMALL LETTER O WITH GRAVE"),
  (0xF3, "LATIN SMALL LETTER O WITH ACUTE;LATIN SMALL LETTER O WITH CIRCUMFLEX"),
  (0xF5, "LATIN SMALL LETTER O WITH TILDE;LATIN SMALL LETTER O WITH DIAERESIS;DIVISION SIGN"),
  (0xF8, "LATIN SMALL LETTER O WITH STROKE;LATIN SMALL LETTER U WITH GRAVE"),
  (0xFA, "LATIN SMALL LETTER U WITH ACUTE;LATIN SMALL LETTER U WITH CIRCUMFLEX"),
  (0xFC, "LATIN SMALL LETTER U WITH DIAERESIS;LATIN SMALL LETTER Y WITH ACUTE"),
  (0xFE, "LATIN SMALL LETTER THORN;LATIN SMALL LETTER Y WITH DIAERESIS"),
  (0x100, "LATIN CAPITAL LETTER A WITH MACRON;LATIN SMALL LETTER A WITH MACRON"),
  (0x102, "LATIN CAPITAL LETTER A WITH BREVE;LATIN SMALL LETTER A WITH BREVE"),
  (0x104, "LATIN CAPITAL LETTER A WITH OGONEK;LATIN SMALL LETTER A WITH OGONEK"),
  (0x106, "LATIN CAPITAL LETTER C WITH ACUTE;LATIN SMALL LETTER C WITH ACUTE"),
  (0x108, "LATIN CAPITAL LETTER C WITH CIRCUMFLEX;LATIN SMALL LETTER C WITH CIRCUMFLEX"),
  (0x10A, "LATIN CAPITAL LETTER C WITH DOT ABOVE;LATIN SMALL LETTER C WITH DOT ABOVE"),
  (0x10C, "LATIN CAPITAL LETTER C WITH CARON;LATIN SMALL LETTER C WITH CARON"),
  (0x10E, "LATIN CAPITAL LETTER D WITH CARON;LATIN SMALL LETTER D WITH CARON"),
  (0x110, "LATIN CAPITAL LETTER D WITH STROKE;LATIN SMALL LETTER D WITH STROKE"),
  (0x112, "LATIN CAPITAL LETTER E WITH MACRON;LATIN SMALL LETTER E WITH MACRON"),
  (0x114, "LATIN CAPITAL LETTER E WITH BREVE;LATIN SMALL LETTER E WITH BREVE"),
  (0x116, "LATIN CAPITAL LETTER E WITH DOT ABOVE;LATIN SMALL LETTER E WITH DOT ABOVE"),
  (0x118, "LATIN CAPITAL LETTER E WITH OGONEK;LATIN SMALL LETTER E WITH OGONEK"),
  (0x11A, "LATIN CAPITAL LETTER E WITH CARON;LATIN SMALL LETTER E WITH CARON"),
  (0x11C, "LATIN CAPITAL LETTER G WITH CIRCUMFLEX;LATIN SMALL LETTER G WITH CIRCUMFLEX"),
  (0x11E, "LATIN CAPITAL LETTER G WITH BREVE;LATIN SMALL LETTER G WITH BREVE"),
  (0x120, "LATIN CAPITAL LETTER G WITH DOT ABOVE;LATIN SMALL LETTER G WITH DOT ABOVE"),
  (0x122, "LATIN CAPITAL LETTER G WITH CEDILLA;LATIN SMALL LETTER G WITH CEDILLA"),
  (0x124, "LATIN CAPITAL LETTER H WITH CIRCUMFLEX;LATIN SMALL LETTER H WITH CIRCUMFLEX"),
  (0x126, "LATIN CAPITAL LETTER H WITH STROKE;LATIN SMALL LETTER H WITH STROKE"),
  (0x128, "LATIN CAPITAL LETTER I WITH TILDE;LATIN SMALL LETTER I WITH TILDE"),
  (0x12A, "LATIN CAPITAL LETTER I WITH MACRON;LATIN SMALL LETTER I WITH MACRON"),
  (0x12C, "LATIN CAPITAL LETTER I WITH BREVE;LATIN SMALL LETTER I WITH BREVE"),
  (0x12E, "LATIN CAPITAL LETTER I WITH OGONEK;LATIN SMALL LETTER I WITH OGONEK"),
  (0x130, "LATIN CAPITAL LETTER I WITH DOT ABOVE;LATIN SMALL LETTER DOTLESS I"),
  (0x132, "LATIN CAPITAL LIGATURE IJ;LATIN SMALL LIGATURE IJ"),
  (0x134, "LATIN CAPITAL LETTER J WITH CIRCUMFLEX;LATIN SMALL LETTER J WITH CIRCUMFLEX"),
  (0x136, "LATIN CAPITAL LETTER K WITH CEDILLA;LATIN SMALL LETTER K WITH CEDILLA"),
  (0x138, "LATIN SMALL LETTER KRA;LATIN CAPITAL LETTER L WITH ACUTE"),
  (0x13A, "LATIN SMALL LETTER L WITH ACUTE;LATIN CAPITAL LETTER L WITH CEDILLA"),
  (0x13C, "LATIN SMALL LETTER L WITH CEDILLA;LATIN CAPITAL LETTER L WITH CARON"),
  (0x13E, "LATIN SMALL LETTER L WITH CARON;LATIN CAPITAL LETTER L WITH MIDDLE DOT"),
  (0x140, "LATIN SMALL LETTER L WITH MIDDLE DOT;LATIN CAPITAL LETTER L WITH STROKE"),
  (0x142, "LATIN SMALL LETTER L WITH STROKE;LATIN CAPITAL LETTER N WITH ACUTE"),
  (0x144, "LATIN SMALL LETTER N WITH ACUTE;LATIN CAPITAL LETTER N WITH CEDILLA"),
  (0x146, "LATIN SMALL LETTER N WITH CEDILLA;LATIN CAPITAL LETTER N WITH CARON"),
  (0x148, "LATIN SMALL LETTER N WITH CARON;LATIN SMALL LETTER N PRECEDED BY APOSTROPHE"),
  (0x14A, "LATIN CAPITAL LETTER ENG;LATIN SMALL LETTER ENG;LATIN CAPITAL LETTER O WITH MACRON"),
  (0x14D, "LATIN SMALL LETTER O WITH MACRON;LATIN CAPITAL LETTER O WITH BREVE"),
  (0x14F, "LATIN SMALL LETTER O WITH BREVE;LATIN CAPITAL LETTER O WITH DOUBLE ACUTE"),
  (0x151, "LATIN SMALL LETTER O WITH DOUBLE ACUTE;LATIN CAPITAL LIGATURE OE"),
  (0x153, "LATIN SMALL LIGATURE OE;LATIN CAPITAL LETTER R WITH ACUTE"),
  (0x155, "LATIN SMALL LETTER R WITH ACUTE;LATIN CAPITAL LETTER R WITH CEDILLA"),
  (0x157, "LATIN SMALL LETTER R WITH CEDILLA;LATIN CAPITAL LETTER R WITH CARON"),
  (0x159, "LATIN SMALL LETTER R WITH CARON;LATIN CAPITAL LETTER S WITH ACUTE"),
  (0x15B, "LATIN SMALL LETTER S WITH ACUTE;LATIN CAPITAL LETTER S WITH CIRCUMFLEX"),
  (0x15D, "LATIN SMALL LETTER S WITH CIRCUMFLEX;LATIN CAPITAL LETTER S WITH CEDILLA"),
  (0x15F, "LATIN SMALL LETTER S WITH CEDILLA;LATIN CAPITAL LETTER S WITH CARON"),
  (0x161, "LATIN SMALL LETTER S WITH CARON;LATIN CAPITAL LETTER T WITH CEDILLA"),
  (0x163, "LATIN SMALL LETTER T WITH CEDILLA;LATIN CAPITAL LETTER T WITH CARON"),
  (0x165, "LATIN SMALL LETTER T WITH CARON;LATIN CAPITAL LETTER T WITH STROKE"),
  (0x167, "LATIN SMALL LETTER T WITH STROKE;LATIN CAPITAL LETTER U WITH TILDE"),
  (0x169, "LATIN SMALL LETTER U WITH TILDE;LATIN CAPITAL LETTER U WITH MACRON"),
  (0x16B, "LATIN SMALL LETTER U WITH MACRON;LATIN CAPITAL LETTER U WITH BREVE"),
  (0x16D, "LATIN SMALL LETTER U WITH BREVE;LATIN CAPITAL LETTER U WITH RING ABOVE"),
  (0x16F, "LATIN SMALL LETTER U WITH RING ABOVE;LATIN CAPITAL LETTER U WITH DOUBLE ACUTE"),
  (0x171, "LATIN SMALL LETTER U WITH DOUBLE ACUTE;LATIN CAPITAL LETTER U WITH OGONEK"),
  (0x173, "LATIN SMALL LETTER U WITH OGONEK;LATIN CAPITAL LETTER W WITH CIRCUMFLEX"),
  (0x175, "LATIN SMALL LETTER W WITH CIRCUMFLEX;LATIN CAPITAL LETTER Y WITH CIRCUMFLEX"),
  (0x177, "LATIN SMALL LETTER Y WITH CIRCUMFLEX;LATIN CAPITAL LETTER Y WITH DIAERESIS"),
  (0x179, "LATIN CAPITAL LETTER Z WITH ACUTE;LATIN SMALL LETTER Z WITH ACUTE"),
  (0x17B, "LATIN CAPITAL LETTER Z WITH DOT ABOVE;LATIN SMALL LETTER Z WITH DOT ABOVE"),
  (0x17D, "LATIN CAPITAL LETTER Z WITH CARON;LATIN SMALL LETTER Z WITH CARON"),
  (0x17F, "LATIN SMALL LETTER LONG S;LATIN SMALL LETTER B WITH STROKE"),
  (0x181, "LATIN CAPITAL LETTER B WITH HOOK;LATIN CAPITAL LETTER B WITH TOPBAR"),
  (0x183, "LATIN SMALL LETTER B WITH TOPBAR;LATIN CAPITAL LETTER TONE SIX"),
  (0x185, "LATIN SMALL LETTER TONE SIX;LATIN CAPITAL LETTER OPEN O"),
  (0x187, "LATIN CAPITAL LETTER C WITH HOOK;LATIN SMALL LETTER C WITH HOOK"),
  (0x189, "LATIN CAPITAL LETTER AFRICAN D;LATIN CAPITAL LETTER D WITH HOOK"),
  (0x18B, "LATIN CAPITAL LETTER D WITH TOPBAR;LATIN SMALL LETTER D WITH TOPBAR"),
  (0x18D, "LATIN SMALL LETTER TURNED DELTA;LATIN CAPITAL LETTER REVERSED E"),
  (0x18F, "LATIN CAPITAL LETTER SCHWA;LATIN CAPITAL LETTER OPEN E"),
  (0x191, "LATIN CAPITAL LETTER F WITH HOOK;LATIN SMALL LETTER F WITH HOOK"),
  (0x193, "LATIN CAPITAL LETTER G WITH HOOK;LATIN CAPITAL LETTER GAMMA;LATIN SMALL LETTER HV"),
  (0x196, "LATIN CAPITAL LETTER IOTA;LATIN CAPITAL LETTER I WITH STROKE"),
  (0x198, "LATIN CAPITAL LETTER K WITH HOOK;LATIN SMALL LETTER K WITH HOOK"),
  (0x19A, "LATIN SMALL LETTER L WITH BAR;LATIN SMALL LETTER LAMBDA WITH STROKE"),
  (0x19C, "LATIN CAPITAL LETTER TURNED M;LATIN CAPITAL LETTER N WITH LEFT HOOK"),
  (0x19E, "LATIN SMALL LETTER N WITH LONG RIGHT LEG;LATIN CAPITAL LETTER O WITH MIDDLE TILDE"),
  (0x1A0, "LATIN CAPITAL LETTER O WITH HORN;LATIN SMALL LETTER O WITH HORN"),
  (0x1A2, "LATIN CAPITAL LETTER OI;LATIN SMALL LETTER OI;LATIN CAPITAL LETTER P WITH HOOK"),
  (0x1A5, "LATIN SMALL LETTER P WITH HOOK;LATIN LETTER YR;LATIN CAPITAL LETTER TONE TWO"),
  (0x1A8, "LATIN SMALL LETTER TONE TWO;LATIN CAPITAL LETTER ESH;LATIN LETTER REVERSED ESH LOOP"),
  (0x1AB, "LATIN SMALL LETTER T WITH PALATAL HOOK;LATIN CAPITAL LETTER T WITH HOOK"),
  (0x1AD, "LATIN SMALL LETTER T WITH HOOK;LATIN CAPITAL LETTER T WITH RETROFLEX HOOK"),
  (0x1AF, "LATIN CAPITAL LETTER U WITH HORN;LATIN SMALL LETTER U WITH HORN"),
  (0x1B1, "LATIN CAPITAL LETTER UPSILON;LATIN CAPITAL LETTER V WITH HOOK"),
  (0x1B3, "LATIN CAPITAL LETTER Y WITH HOOK;LATIN SMALL LETTER Y WITH HOOK"),
  (0x1B5, "LATIN CAPITAL LETTER Z WITH STROKE;LATIN SMALL LETTER Z WITH STROKE"),
  (0x1B7, "LATIN CAPITAL LETTER EZH;LATIN CAPITAL LETTER EZH REVERSED"),
  (0x1B9, "LATIN SMALL LETTER EZH REVERSED;LATIN SMALL LETTER EZH WITH TAIL"),
  (0x1BB, "LATIN LETTER TWO WITH STROKE;LATIN CAPITAL LETTER TONE FIVE"),
  (0x1BD, "LATIN SMALL LETTER TONE FIVE;LATIN LETTER INVERTED GLOTTAL STOP WITH STROKE"),
  (0x1BF, "LATIN LETTER WYNN;LATIN LETTER DENTAL CLICK;LATIN LETTER LATERAL CLICK"),
  (0x1C2, "LATIN LETTER ALVEOLAR CLICK;LATIN LETTER RETROFLEX CLICK"),
  (0x1C4, "LATIN CAPITAL LETTER DZ WITH CARON"),
  (0x1C5, "LATIN CAPITAL LETTER D WITH SMALL LETTER Z WITH CARON;LATIN SMALL LETTER DZ WITH CARON"),
  (0x1C7, "LATIN CAPITAL LETTER LJ;LATIN CAPITAL LETTER L WITH SMALL LETTER J"),
  (0x1C9, "LATIN SMALL LETTER LJ;LATIN CAPITAL LETTER NJ"),
  (0x1CB, "LATIN CAPITAL LETTER N WITH SMALL LETTER J;LATIN SMALL LETTER NJ"),
  (0x1CD, "LATIN CAPITAL LETTER A WITH CARON;LATIN SMALL LETTER A WITH CARON"),
  (0x1CF, "LATIN CAPITAL LETTER I WITH CARON;LATIN SMALL LETTER I WITH CARON"),
  (0x1D1, "LATIN CAPITAL LETTER O WITH CARON;LATIN SMALL LETTER O WITH CARON"),
  (0x1D3, "LATIN CAPITAL LETTER U WITH CARON;LATIN SMALL LETTER U WITH CARON"),
  (0x1D5, "LATIN CAPITAL LETTER U WITH DIAERESIS AND MACRON"),
  (0x1D6, "LATIN SMALL LETTER U WITH DIAERESIS AND MACRON"),
  (0x1D7, "LATIN CAPITAL LETTER U WITH DIAERESIS AND ACUTE"),
  (0x1D8, "LATIN SMALL LETTER U WITH DIAERESIS AND ACUTE"),
  (0x1D9, "LATIN CAPITAL LETTER U WITH DIAERESIS AND CARON"),
  (0x1DA, "LATIN SMALL LETTER U WITH DIAERESIS AND CARON"),
  (0x1DB, "LATIN CAPITAL LETTER U WITH DIAERESIS AND GRAVE"),
  (0x1DC, "LATIN SMALL LETTER U WITH DIAERESIS AND GRAVE;LATIN SMALL LETTER TURNED E"),
  (0x1DE, "LATIN CAPITAL LETTER A WITH DIAERESIS AND MACRON"),
  (0x1DF, "LATIN SMALL LETTER A WITH DIAERESIS AND MACRON"),
  (0x1E0, "LATIN CAPITAL LETTER A WITH DOT ABOVE AND MACRON"),
  (0x1E1, "LATIN SMALL LETTER A WITH DOT ABOVE AND MACRON;LATIN CAPITAL LETTER AE WITH MACRON"),
  (0x1E3, "LATIN SMALL LETTER AE WITH MACRON;LATIN CAPITAL LETTER G WITH STROKE"),
  (0x1E5, "LATIN SMALL LETTER G WITH STROKE;LATIN CAPITAL LETTER G WITH CARON"),
  (0x1E7, "LATIN SMALL LETTER G WITH CARON;LATIN CAPITAL LETTER K WITH CARON"),
  (0x1E9, "LATIN SMALL LETTER K WITH CARON;LATIN CAPITAL LETTER O WITH OGONEK"),
  (0x1EB, "LATIN SMALL LETTER O WITH OGONEK;LATIN CAPITAL LETTER O WITH OGONEK AND MACRON"),
  (0x1ED, "LATIN SMALL LETTER O WITH OGONEK AND MACRON;LATIN CAPITAL LETTER EZH WITH CARON"),
  (0x1EF, "LATIN SMALL LETTER EZH WITH CARON;LATIN SMALL LETTER J WITH CARON"),
  (0x1F1, "LATIN CAPITAL LETTER DZ;LATIN CAPITAL LETTER D WITH SMALL LETTER Z"),
  (0x1F3, "LATIN SMALL LETTER DZ;LATIN CAPITAL LETTER G WITH ACUTE"),
  (0x1F5, "LATIN SMALL LETTER G WITH ACUTE;LATIN CAPITAL LETTER HWAIR;LATIN CAPITAL LETTER WYNN"),
  (0x1F8, "LATIN CAPITAL LETTER N WITH GRAVE;LATIN SMALL LETTER N WITH GRAVE"),
  (0x1FA, "LATIN CAPITAL LETTER A WITH RING ABOVE AND ACUTE"),
  (0x1FB, "LATIN SMALL LETTER A WITH RING ABOVE AND ACUTE;LATIN CAPITAL LETTER AE WITH ACUTE"),
  (0x1FD, "LATIN SMALL LETTER AE WITH ACUTE;LATIN CAPITAL LETTER O WITH STROKE AND ACUTE"),
  (0x1FF, "LATIN SMALL LETTER O WITH STROKE AND ACUTE;LATIN CAPITAL LETTER A WITH DOUBLE GRAVE"),
  (0x201, "LATIN SMALL LETTER A WITH DOUBLE GRAVE;LATIN CAPITAL LETTER A WITH INVERTED BREVE"),
  (0x203, "LATIN SMALL LETTER A WITH INVERTED BREVE;LATIN CAPITAL LETTER E WITH DOUBLE GRAVE"),
  (0x205, "LATIN SMALL LETTER E WITH DOUBLE GRAVE;LATIN CAPITAL LETTER E WITH INVERTED BREVE"),
  (0x207, "LATIN SMALL LETTER E WITH INVERTED BREVE;LATIN CAPITAL LETTER I WITH DOUBLE GRAVE"),
  (0x209, "LATIN SMALL LETTER I WITH DOUBLE GRAVE;LATIN CAPITAL LETTER I WITH INVERTED BREVE"),
  (0x20B, "LATIN SMALL LETTER I WITH INVERTED BREVE;LATIN CAPITAL LETTER O WITH DOUBLE GRAVE"),
  (0x20D, "LATIN SMALL LETTER O WITH DOUBLE GRAVE;LATIN CAPITAL LETTER O WITH INVERTED BREVE"),
  (0x20F, "LATIN SMALL LETTER O WITH INVERTED BREVE;LATIN CAPITAL LETTER R WITH DOUBLE GRAVE"),
  (0x211, "LATIN SMALL LETTER R WITH DOUBLE GRAVE;LATIN CAPITAL LETTER R WITH INVERTED BREVE")]

/-- The names from code point 0213 to 03F2. -/
def letterNamesFrom0213 : List (Nat × String) := [
  (0x213, "LATIN SMALL LETTER R WITH INVERTED BREVE;LATIN CAPITAL LETTER U WITH DOUBLE GRAVE"),
  (0x215, "LATIN SMALL LETTER U WITH DOUBLE GRAVE;LATIN CAPITAL LETTER U WITH INVERTED BREVE"),
  (0x217, "LATIN SMALL LETTER U WITH INVERTED BREVE;LATIN CAPITAL LETTER S WITH COMMA BELOW"),
  (0x219, "LATIN SMALL LETTER S WITH COMMA BELOW;LATIN CAPITAL LETTER T WITH COMMA BELOW"),
  (0x21B, "LATIN SMALL LETTER T WITH COMMA BELOW;LATIN CAPITAL LETTER YOGH"),
  (0x21D, "LATIN SMALL LETTER YOGH;LATIN CAPITAL LETTER H WITH CARON"),
  (0x21F, "LATIN SMALL LETTER H WITH CARON;LATIN CAPITAL LETTER N WITH LONG RIGHT LEG"),
  (0x221, "LATIN SMALL LETTER D WITH CURL;LATIN CAPITAL LETTER OU;LATIN SMALL LETTER OU"),
  (0x224, "LATIN CAPITAL LETTER Z WITH HOOK;LATIN SMALL LETTER Z WITH HOOK"),
  (0x226, "LATIN CAPITAL LETTER A WITH DOT ABOVE;LATIN SMALL LETTER A WITH DOT ABOVE"),
  (0x228, "LATIN CAPITAL LETTER E WITH CEDILLA;LATIN SMALL LETTER E WITH CEDILLA"),
  (0x22A, "LATIN CAPITAL LETTER O WITH DIAERESIS AND MACRON"),
  (0x22B, "LATIN SMALL LETTER O WITH DIAERESIS AND MACRON"),
  (0x22C, "LATIN CAPITAL LETTER O WITH TILDE AND MACRON"),
  (0x22D, "LATIN SMALL LETTER O WITH TILDE AND MACRON;LATIN CAPITAL LETTER O WITH DOT ABOVE"),
  (0x22F, "LATIN SMALL LETTER O WITH DOT ABOVE;LATIN CAPITAL LETTER O WITH DOT ABOVE AND MACRON"),
  (0x231, "LATIN SMALL LETTER O WITH DOT ABOVE AND MACRON;LATIN CAPITAL LETTER Y WITH MACRON"),
  (0x233, "LATIN SMALL LETTER Y WITH MACRON;LATIN SMALL LETTER L WITH CURL"),
  (0x235, "LATIN SMALL LETTER N WITH CURL;LATIN SMALL LETTER T WITH CURL"),
  (0x237, "LATIN SMALL LETTER DOTLESS J;LATIN SMALL LETTER DB DIGRAPH"),
  (0x239, "LATIN SMALL LETTER QP DIGRAPH;LATIN CAPITAL LETTER A WITH STROKE"),
  (0x23B, "LATIN CAPITAL LETTER C WITH STROKE;LATIN SMALL LETTER C WITH STROKE"),
  (0x23D, "LATIN CAPITAL LETTER L WITH BAR;LATIN CAPITAL LETTER T WITH DIAGONAL STROKE"),
  (0x23F, "LATIN SMALL LETTER S WITH SWASH TAIL;LATIN SMALL LETTER Z WITH SWASH TAIL"),
  (0x241, "LATIN CAPITAL LETTER GLOTTAL STOP;LATIN SMALL LETTER GLOTTAL STOP"),
  (0x243, "LATIN CAPITAL LETTER B WITH STROKE;LATIN CAPITAL LETTER U BAR"),
  (0x245, "LATIN CAPITAL LETTER TURNED V;LATIN CAPITAL LETTER E WITH STROKE"),
  (0x247, "LATIN SMALL LETTER E WITH STROKE;LATIN CAPITAL LETTER J WITH STROKE"),
  (0x249, "LATIN SMALL LETTER J WITH STROKE;LATIN CAPITAL LETTER SMALL Q WITH HOOK TAIL"),
  (0x24B, "LATIN SMALL LETTER Q WITH HOOK TAIL;LATIN CAPITAL LETTER R WITH STROKE"),
  (0x24D, "LATIN SMALL LETTER R WITH STROKE;LATIN CAPITAL LETTER Y WITH STROKE"),
  (0x24F, "LATIN SMALL LETTER Y WITH STROKE;LATIN SMALL LETTER TURNED A;LATIN SMALL LETTER ALPHA"),
  (0x252, "LATIN SMALL LETTER TURNED ALPHA;LATIN SMALL LETTER B WITH HOOK"),
  (0x254, "LATIN SMALL LETTER OPEN O;LATIN SMALL LETTER C WITH CURL"),
  (0x256, "LATIN SMALL LETTER D WITH TAIL;LATIN SMALL LETTER D WITH HOOK"),
  (0x258, "LATIN SMALL LETTER REVERSED E;LATIN SMALL LETTER SCHWA"),
  (0x25A, "LATIN SMALL LETTER SCHWA WITH HOOK;LATIN SMALL LETTER OPEN E"),
  (0x25C, "LATIN SMALL LETTER REVERSED OPEN E;LATIN SMALL LETTER REVERSED OPEN E WITH HOOK"),
  (0x25E, "LATIN SMALL LETTER CLOSED REVERSED OPEN E;LATIN SMALL LETTER DOTLESS J WITH STROKE"),
  (0x260, "LATIN SMALL LETTER G WITH HOOK;LATIN SMALL LETTER SCRIPT G"),
  (0x262, "LATIN LETTER SMALL CAPITAL G;LATIN SMALL LETTER GAMMA;LATIN SMALL LETTER RAMS HORN"),
  (0x265, "LATIN SMALL LETTER TURNED H;LATIN SMALL LETTER H WITH HOOK"),
  (0x267, "LATIN SMALL LETTER HENG WITH HOOK;LATIN SMALL LETTER I WITH STROKE"),
  (0x269, "LATIN SMALL LETTER IOTA;LATIN LETTER SMALL CAPITAL I"),
  (0x26B, "LATIN SMALL LETTER L WITH MIDDLE TILDE;LATIN SMALL LETTER L WITH BELT"),
  (0x26D, "LATIN SMALL LETTER L WITH RETROFLEX HOOK;LATIN SMALL LETTER LEZH"),
  (0x26F, "LATIN SMALL LETTER TURNED M;LATIN SMALL LETTER TURNED M WITH LONG LEG"),
  (0x271, "LATIN SMALL LETTER M WITH HOOK;LATIN SMALL LETTER N WITH LEFT HOOK"),
  (0x273, "LATIN SMALL LETTER N WITH RETROFLEX HOOK;LATIN LETTER SMALL CAPITAL N"),
  (0x275, "LATIN SMALL LETTER BARRED O;LATIN LETTER SMALL CAPITAL OE"),
  (0x277, "LATIN SMALL LETTER CLOSED OMEGA;LATIN SMALL LETTER PHI;LATIN SMALL LETTER TURNED R"),
  (0x27A, "LATIN SMALL LETTER TURNED R WITH LONG LEG;LATIN SMALL LETTER TURNED R WITH HOOK"),
  (0x27C, "LATIN SMALL LETTER R WITH LONG LEG;LATIN SMALL LETTER R WITH TAIL"),
  (0x27E, "LATIN SMALL LETTER R WITH FISHHOOK;LATIN SMALL LETTER REVERSED R WITH FISHHOOK"),
  (0x280, "LATIN LETTER SMALL CAPITAL R;LATIN LETTER SMALL CAPITAL INVERTED R"),
  (0x282, "LATIN SMALL LETTER S WITH HOOK;LATIN SMALL LETTER ESH"),
  (0x284, "LATIN SMALL LETTER DOTLESS J WITH STROKE AND HOOK"),
  (0x285, "LATIN SMALL LETTER SQUAT REVERSED ESH;LATIN SMALL LETTER ESH WITH CURL"),
  (0x287, "LATIN SMALL LETTER TURNED T;LATIN SMALL LETTER T WITH RETROFLEX HOOK"),
  (0x289, "LATIN SMALL LETTER U BAR;LATIN SMALL LETTER UPSILON;LATIN SMALL LETTER V WITH HOOK"),
  (0x28C, "LATIN SMALL LETTER TURNED V;LATIN SMALL LETTER TURNED W;LATIN SMALL LETTER TURNED Y"),
  (0x28F, "LATIN LETTER SMALL CAPITAL Y;LATIN SMALL LETTER Z WITH RETROFLEX HOOK"),
  (0x291, "LATIN SMALL LETTER Z WITH CURL;LATIN SMALL LETTER EZH;LATIN SMALL LETTER EZH WITH CURL"),
  (0x294, "LATIN LETTER GLOTTAL STOP;LATIN LETTER PHARYNGEAL VOICED FRICATIVE"),
  (0x296, "LATIN LETTER INVERTED GLOTTAL STOP;LATIN LETTER STRETCHED C"),
  (0x298, "LATIN LETTER BILABIAL CLICK;LATIN LETTER SMALL CAPITAL B"),
  (0x29A, "LATIN SMALL LETTER CLOSED OPEN E;LATIN LETTER SMALL CAPITAL G WITH HOOK"),
  (0x29C, "LATIN LETTER SMALL CAPITAL H;LATIN SMALL LETTER J WITH CROSSED-TAIL"),
  (0x29E, "LATIN SMALL LETTER TURNED K;LATIN LETTER SMALL CAPITAL L"),
  (0x2A0, "LATIN SMALL LETTER Q WITH HOOK;LATIN LETTER GLOTTAL STOP WITH STROKE"),
  (0x2A2, "LATIN LETTER REVERSED GLOTTAL STOP WITH STROKE;LATIN SMALL LETTER DZ DIGRAPH"),
  (0x2A4, "LATIN SMALL LETTER DEZH DIGRAPH;LATIN SMALL LETTER DZ DIGRAPH WITH CURL"),
  (0x2A6, "LATIN SMALL LETTER TS DIGRAPH;LATIN SMALL LETTER TESH DIGRAPH"),
  (0x2A8, "LATIN SMALL LETTER TC DIGRAPH WITH CURL;LATIN SMALL LETTER FENG DIGRAPH"),
  (0x2AA, "LATIN SMALL LETTER LS DIGRAPH;LATIN SMALL LETTER LZ DIGRAPH"),
  (0x2AC, "LATIN LETTER BILABIAL PERCUSSIVE;LATIN LETTER BIDENTAL PERCUSSIVE"),
  (0x2AE, "LATIN SMALL LETTER TURNED H WITH FISHHOOK"),
  (0x2AF, "LATIN SMALL LETTER TURNED H WITH FISHHOOK AND TAIL;MODIFIER LETTER SMALL H"),
  (0x2B1, "MODIFIER LETTER SMALL H WITH HOOK;MODIFIER LETTER SMALL J;MODIFIER LETTER SMALL R"),
  (0x2B4, "MODIFIER LETTER SMALL TURNED R;MODIFIER LETTER SMALL TURNED R WITH HOOK"),
  (0x2B6, "MODIFIER LETTER SMALL CAPITAL INVERTED R;MODIFIER LETTER SMALL W"),
  (0x2B8, "MODIFIER LETTER SMALL Y;MODIFIER LETTER PRIME;MODIFIER LETTER DOUBLE PRIME"),
  (0x2BB, "MODIFIER LETTER TURNED COMMA;MODIFIER LETTER APOSTROPHE;MODIFIER LETTER REVERSED COMMA"),
  (0x2BE, "MODIFIER LETTER RIGHT HALF RING;MODIFIER LETTER LEFT HALF RING"),
  (0x2C0, "MODIFIER LETTER GLOTTAL STOP;MODIFIER LETTER REVERSED GLOTTAL STOP"),
  (0x2C2, "MODIFIER LETTER LEFT ARROWHEAD;MODIFIER LETTER RIGHT ARROWHEAD"),
  (0x2C4, "MODIFIER LETTER UP ARROWHEAD;MODIFIER LETTER DOWN ARROWHEAD"),
  (0x2C6, "MODIFIER LETTER CIRCUMFLEX ACCENT;CARON;MODIFIER LETTER VERTICAL LINE"),
  (0x2C9, "MODIFIER LETTER MACRON;MODIFIER LETTER ACUTE ACCENT;MODIFIER LETTER GRAVE ACCENT"),
  (0x2CC, "MODIFIER LETTER LOW VERTICAL LINE;MODIFIER LETTER LOW MACRON"),
  (0x2CE, "MODIFIER LETTER LOW GRAVE ACCENT;MODIFIER LETTER LOW ACUTE ACCENT"),
  (0x2D0, "MODIFIER LETTER TRIANGULAR COLON;MODIFIER LETTER HALF TRIANGULAR COLON"),
  (0x2D2, "MODIFIER LETTER CENTRED RIGHT HALF RING;MODIFIER LETTER CENTRED LEFT HALF RING"),
  (0x2D4, "MODIFIER LETTER UP TACK;MODIFIER LETTER DOWN TACK;MODIFIER LETTER PLUS SIGN"),
  (0x2D7, "MODIFIER LETTER MINUS SIGN;BREVE;DOT ABOVE;RING ABOVE;OGONEK;SMALL TILDE"),
  (0x2DD, "DOUBLE ACUTE ACCENT;MODIFIER LETTER RHOTIC HOOK;MODIFIER LETTER CROSS ACCENT"),
  (0x2E0, "MODIFIER LETTER SMALL GAMMA;MODIFIER LETTER SMALL L;MODIFIER LETTER SMALL S"),
  (0x2E3, "MODIFIER LETTER SMALL X;MODIFIER LETTER SMALL REVERSED GLOTTAL STOP"),
  (0x2E5, "MODIFIER LETTER EXTRA-HIGH TONE BAR;MODIFIER LETTER HIGH TONE BAR"),
  (0x2E7, "MODIFIER LETTER MID TONE BAR;MODIFIER LETTER LOW TONE BAR"),
  (0x2E9, "MODIFIER LETTER EXTRA-LOW TONE BAR;MODIFIER LETTER YIN DEPARTING TONE MARK"),
  (0x2EB, "MODIFIER LETTER YANG DEPARTING TONE MARK;MODIFIER LETTER VOICING"),
  (0x2ED, "MODIFIER LETTER UNASPIRATED;MODIFIER LETTER DOUBLE APOSTROPHE"),
  (0x2EF, "MODIFIER LETTER LOW DOWN ARROWHEAD;MODIFIER LETTER LOW UP ARROWHEAD"),
  (0x2F1, "MODIFIER LETTER LOW LEFT ARROWHEAD;MODIFIER LETTER LOW RIGHT ARROWHEAD"),
  (0x2F3, "MODIFIER LETTER LOW RING;MODIFIER LETTER MIDDLE GRAVE ACCENT"),
  (0x2F5, "MODIFIER LETTER MIDDLE DOUBLE GRAVE ACCENT;MODIFIER LETTER MIDDLE DOUBLE ACUTE ACCENT"),
  (0x2F7, "MODIFIER LETTER LOW TILDE;MODIFIER LETTER RAISED COLON;MODIFIER LETTER BEGIN HIGH TONE"),
  (0x2FA, "MODIFIER LETTER END HIGH TONE;MODIFIER LETTER BEGIN LOW TONE"),
  (0x2FC, "MODIFIER LETTER END LOW TONE;MODIFIER LETTER SHELF;MODIFIER LETTER OPEN SHELF"),
  (0x2FF, "MODIFIER LETTER LOW LEFT ARROW;COMBINING GRAVE ACCENT;COMBINING ACUTE ACCENT"),
  (0x302, "COMBINING CIRCUMFLEX ACCENT;COMBINING TILDE;COMBINING MACRON;COMBINING OVERLINE"),
  (0x306, "COMBINING BREVE;COMBINING DOT ABOVE;COMBINING DIAERESIS;COMBINING HOOK ABOVE"),
  (0x30A, "COMBINING RING ABOVE;COMBINING DOUBLE ACUTE ACCENT;COMBINING CARON"),
  (0x30D, "COMBINING VERTICAL LINE ABOVE;COMBINING DOUBLE VERTICAL LINE ABOVE"),
  (0x30F, "COMBINING DOUBLE GRAVE ACCENT;COMBINING CANDRABINDU;COMBINING INVERTED BREVE"),
  (0x312, "COMBINING TURNED COMMA ABOVE;COMBINING COMMA ABOVE;COMBINING REVERSED COMMA ABOVE"),
  (0x315, "COMBINING COMMA ABOVE RIGHT;COMBINING GRAVE ACCENT BELOW;COMBINING ACUTE ACCENT BELOW"),
  (0x318, "COMBINING LEFT TACK BELOW;COMBINING RIGHT TACK BELOW;COMBINING LEFT ANGLE ABOVE"),
  (0x31B, "COMBINING HORN;COMBINING LEFT HALF RING BELOW;COMBINING UP TACK BELOW"),
  (0x31E, "COMBINING DOWN TACK BELOW;COMBINING PLUS SIGN BELOW;COMBINING MINUS SIGN BELOW"),
  (0x321, "COMBINING PALATALIZED HOOK BELOW;COMBINING RETROFLEX HOOK BELOW;COMBINING DOT BELOW"),
  (0x324, "COMBINING DIAERESIS BELOW;COMBINING RING BELOW;COMBINING COMMA BELOW;COMBINING CEDILLA"),
  (0x328, "COMBINING OGONEK;COMBINING VERTICAL LINE BELOW;COMBINING BRIDGE BELOW"),
  (0x32B, "COMBINING INVERTED DOUBLE ARCH BELOW;COMBINING CARON BELOW"),
  (0x32D, "COMBINING CIRCUMFLEX ACCENT BELOW;COMBINING BREVE BELOW;COMBINING INVERTED BREVE BELOW"),
  (0x330, "COMBINING TILDE BELOW;COMBINING MACRON BELOW;COMBINING LOW LINE"),
  (0x333, "COMBINING DOUBLE LOW LINE;COMBINING TILDE OVERLAY;COMBINING SHORT STROKE OVERLAY"),
  (0x336, "COMBINING LONG STROKE OVERLAY;COMBINING SHORT SOLIDUS OVERLAY"),
  (0x338, "COMBINING LONG SOLIDUS OVERLAY;COMBINING RIGHT HALF RING BELOW"),
  (0x33A, "COMBINING INVERTED BRIDGE BELOW;COMBINING SQUARE BELOW;COMBINING SEAGULL BELOW"),
  (0x33D, "COMBINING X ABOVE;COMBINING VERTICAL TILDE;COMBINING DOUBLE OVERLINE"),
  (0x340, "COMBINING GRAVE TONE MARK;COMBINING ACUTE TONE MARK;COMBINING GREEK PERISPOMENI"),
  (0x343, "COMBINING GREEK KORONIS;COMBINING GREEK DIALYTIKA TONOS;COMBINING GREEK YPOGEGRAMMENI"),
  (0x346, "COMBINING BRIDGE ABOVE;COMBINING EQUALS SIGN BELOW"),
  (0x348, "COMBINING DOUBLE VERTICAL LINE BELOW;COMBINING LEFT ANGLE BELOW"),
  (0x34A, "COMBINING NOT TILDE ABOVE;COMBINING HOMOTHETIC ABOVE;COMBINING ALMOST EQUAL TO ABOVE"),
  (0x34D, "COMBINING LEFT RIGHT ARROW BELOW;COMBINING UPWARDS ARROW BELOW"),
  (0x34F, "COMBINING GRAPHEME JOINER;COMBINING RIGHT ARROWHEAD ABOVE"),
  (0x351, "COMBINING LEFT HALF RING ABOVE;COMBINING FERMATA;COMBINING X BELOW"),
  (0x354, "COMBINING LEFT ARROWHEAD BELOW;COMBINING RIGHT ARROWHEAD BELOW"),
  (0x356, "COMBINING RIGHT ARROWHEAD AND UP ARROWHEAD BELOW;COMBINING RIGHT HALF RING ABOVE"),
  (0x358, "COMBINING DOT ABOVE RIGHT;COMBINING ASTERISK BELOW;COMBINING DOUBLE RING BELOW"),
  (0x35B, "COMBINING ZIGZAG ABOVE;COMBINING DOUBLE BREVE BELOW;COMBINING DOUBLE BREVE"),
  (0x35E, "COMBINING DOUBLE MACRON;COMBINING DOUBLE MACRON BELOW;COMBINING DOUBLE TILDE"),
  (0x361, "COMBINING DOUBLE INVERTED BREVE;COMBINING DOUBLE RIGHTWARDS ARROW BELOW"),
  (0x363, "COMBINING LATIN SMALL LETTER A;COMBINING LATIN SMALL LETTER E"),
  (0x365, "COMBINING LATIN SMALL LETTER I;COMBINING LATIN SMALL LETTER O"),
  (0x367, "COMBINING LATIN SMALL LETTER U;COMBINING LATIN SMALL LETTER C"),
  (0x369, "COMBINING LATIN SMALL LETTER D;COMBINING LATIN SMALL LETTER H"),
  (0x36B, "COMBINING LATIN SMALL LETTER M;COMBINING LATIN SMALL LETTER R"),
  (0x36D, "COMBINING LATIN SMALL LETTER T;COMBINING LATIN SMALL LETTER V"),
  (0x36F, "COMBINING LATIN SMALL LETTER X;GREEK CAPITAL LETTER HETA;GREEK SMALL LETTER HETA"),
  (0x372, "GREEK CAPITAL LETTER ARCHAIC SAMPI;GREEK SMALL LETTER ARCHAIC SAMPI;GREEK NUMERAL SIGN"),
  (0x375, "GREEK LOWER NUMERAL SIGN;GREEK CAPITAL LETTER PAMPHYLIAN DIGAMMA"),
  (0x377, "GREEK SMALL LETTER PAMPHYLIAN DIGAMMA"),
  (0x37A, "GREEK YPOGEGRAMMENI;GREEK SMALL REVERSED LUNATE SIGMA SYMBOL"),
  (0x37C, "GREEK SMALL DOTTED LUNATE SIGMA SYMBOL;GREEK SMALL REVERSED DOTTED LUNATE SIGMA SYMBOL"),
  (0x37E, "GREEK QUESTION MARK;GREEK CAPITAL LETTER YOT"),
  (0x384, "GREEK TONOS;GREEK DIALYTIKA TONOS;GREEK CAPITAL LETTER ALPHA WITH TONOS"),
  (0x387, "GREEK ANO TELEIA;GREEK CAPITAL LETTER EPSILON WITH TONOS"),
  (0x389, "GREEK CAPITAL LETTER ETA WITH TONOS;GREEK CAPITAL LETTER IOTA WITH TONOS"),
  (0x38C, "GREEK CAPITAL LETTER OMICRON WITH TONOS"),
  (0x38E, "GREEK CAPITAL LETTER UPSILON WITH TONOS;GREEK CAPITAL LETTER OMEGA WITH TONOS"),
  (0x390, "GREEK SMALL LETTER IOTA WITH DIALYTIKA AND TONOS;GREEK CAPITAL LETTER ALPHA"),
  (0x392, "GREEK CAPITAL LETTER BETA;GREEK CAPITAL LETTER GAMMA;GREEK CAPITAL LETTER DELTA"),
  (0x395, "GREEK CAPITAL LETTER EPSILON;GREEK CAPITAL LETTER ZETA;GREEK CAPITAL LETTER ETA"),
  (0x398, "GREEK CAPITAL LETTER THETA;GREEK CAPITAL LETTER IOTA;GREEK CAPITAL LETTER KAPPA"),
  (0x39B, "GREEK CAPITAL LETTER LAMDA;GREEK CAPITAL LETTER MU;GREEK CAPITAL LETTER NU"),
  (0x39E, "GREEK CAPITAL LETTER XI;GREEK CAPITAL LETTER OMICRON;GREEK CAPITAL LETTER PI"),
  (0x3A1, "GREEK CAPITAL LETTER RHO"),
  (0x3A3, "GREEK CAPITAL LETTER SIGMA;GREEK CAPITAL LETTER TAU;GREEK CAPITAL LETTER UPSILON"),
  (0x3A6, "GREEK CAPITAL LETTER PHI;GREEK CAPITAL LETTER CHI;GREEK CAPITAL LETTER PSI"),
  (0x3A9, "GREEK CAPITAL LETTER OMEGA;GREEK CAPITAL LETTER IOTA WITH DIALYTIKA"),
  (0x3AB, "GREEK CAPITAL LETTER UPSILON WITH DIALYTIKA;GREEK SMALL LETTER ALPHA WITH TONOS"),
  (0x3AD, "GREEK SMALL LETTER EPSILON WITH TONOS;GREEK SMALL LETTER ETA WITH TONOS"),
  (0x3AF, "GREEK SMALL LETTER IOTA WITH TONOS;GREEK SMALL LETTER UPSILON WITH DIALYTIKA AND TONOS"),
  (0x3B1, "GREEK SMALL LETTER ALPHA;GREEK SMALL LETTER BETA;GREEK SMALL LETTER GAMMA"),
  (0x3B4, "GREEK SMALL LETTER DELTA;GREEK SMALL LETTER EPSILON;GREEK SMALL LETTER ZETA"),
  (0x3B7, "GREEK SMALL LETTER ETA;GREEK SMALL LETTER THETA;GREEK SMALL LETTER IOTA"),
  (0x3BA, "GREEK SMALL LETTER KAPPA;GREEK SMALL LETTER LAMDA;GREEK SMALL LETTER MU"),
  (0x3BD, "GREEK SMALL LETTER NU;GREEK SMALL LETTER XI;GREEK SMALL LETTER OMICRON"),
  (0x3C0, "GREEK SMALL LETTER PI;GREEK SMALL LETTER RHO;GREEK SMALL LETTER FINAL SIGMA"),
  (0x3C3, "GREEK SMALL LETTER SIGMA;GREEK SMALL LETTER TAU;GREEK SMALL LETTER UPSILON"),
  (0x3C6, "GREEK SMALL LETTER PHI;GREEK SMALL LETTER CHI;GREEK SMALL LETTER PSI"),
  (0x3C9, "GREEK SMALL LETTER OMEGA;GREEK SMALL LETTER IOTA WITH DIALYTIKA"),
  (0x3CB, "GREEK SMALL LETTER UPSILON WITH DIALYTIKA;GREEK SMALL LETTER OMICRON WITH TONOS"),
  (0x3CD, "GREEK SMALL LETTER UPSILON WITH TONOS;GREEK SMALL LETTER OMEGA WITH TONOS"),
  (0x3CF, "GREEK CAPITAL KAI SYMBOL;GREEK BETA SYMBOL;GREEK THETA SYMBOL"),
  (0x3D2, "GREEK UPSILON WITH HOOK SYMBOL;GREEK UPSILON WITH ACUTE AND HOOK SYMBOL"),
  (0x3D4, "GREEK UPSILON WITH DIAERESIS AND HOOK SYMBOL;GREEK PHI SYMBOL;GREEK PI SYMBOL"),
  (0x3D7, "GREEK KAI SYMBOL;GREEK LETTER ARCHAIC KOPPA;GREEK SMALL LETTER ARCHAIC KOPPA"),
  (0x3DA, "GREEK LETTER STIGMA;GREEK SMALL LETTER STIGMA;GREEK LETTER DIGAMMA"),
  (0x3DD, "GREEK SMALL LETTER DIGAMMA;GREEK LETTER KOPPA;GREEK SMALL LETTER KOPPA"),
  (0x3E0, "GREEK LETTER SAMPI;GREEK SMALL LETTER SAMPI;COPTIC CAPITAL LETTER SHEI"),
  (0x3E3, "COPTIC SMALL LETTER SHEI;COPTIC CAPITAL LETTER FEI;COPTIC SMALL LETTER FEI"),
  (0x3E6, "COPTIC CAPITAL LETTER KHEI;COPTIC SMALL LETTER KHEI;COPTIC CAPITAL LETTER HORI"),
  (0x3E9, "COPTIC SMALL LETTER HORI;COPTIC CAPITAL LETTER GANGIA;COPTIC SMALL LETTER GANGIA"),
  (0x3EC, "COPTIC CAPITAL LETTER SHIMA;COPTIC SMALL LETTER SHIMA;COPTIC CAPITAL LETTER DEI"),
  (0x3EF, "COPTIC SMALL LETTER DEI;GREEK KAPPA SYMBOL;GREEK RHO SYMBOL;GREEK LUNATE SIGMA SYMBOL")]

/-- The names from code point 03F3 to 05DF. -/
def letterNamesFrom03F3 : List (Nat × String) := [
  (0x3F3, "GREEK LETTER YOT;GREEK CAPITAL THETA SYMBOL;GREEK LUNATE EPSILON SYMBOL"),
  (0x3F6, "GREEK REVERSED LUNATE EPSILON SYMBOL;GREEK CAPITAL LETTER SHO;GREEK SMALL LETTER SHO"),
  (0x3F9, "GREEK CAPITAL LUNATE SIGMA SYMBOL;GREEK CAPITAL LETTER SAN;GREEK SMALL LETTER SAN"),
  (0x3FC, "GREEK RHO WITH STROKE SYMBOL;GREEK CAPITAL REVERSED LUNATE SIGMA SYMBOL"),
  (0x3FE, "GREEK CAPITAL DOTTED LUNATE SIGMA SYMBOL"),
  (0x3FF, "GREEK CAPITAL REVERSED DOTTED LUNATE SIGMA SYMBOL"),
  (0x400, "CYRILLIC CAPITAL LETTER IE WITH GRAVE;CYRILLIC CAPITAL LETTER IO"),
  (0x402, "CYRILLIC CAPITAL LETTER DJE;CYRILLIC CAPITAL LETTER GJE"),
  (0x404, "CYRILLIC CAPITAL LETTER UKRAINIAN IE;CYRILLIC CAPITAL LETTER DZE"),
  (0x406, "CYRILLIC CAPITAL LETTER BYELORUSSIAN-UKRAINIAN I;CYRILLIC CAPITAL LETTER YI"),
  (0x408, "CYRILLIC CAPITAL LETTER JE;CYRILLIC CAPITAL LETTER LJE;CYRILLIC CAPITAL LETTER NJE"),
  (0x40B, "CYRILLIC CAPITAL LETTER TSHE;CYRILLIC CAPITAL LETTER KJE"),
  (0x40D, "CYRILLIC CAPITAL LETTER I WITH GRAVE;CYRILLIC CAPITAL LETTER SHORT U"),
  (0x40F, "CYRILLIC CAPITAL LETTER DZHE;CYRILLIC CAPITAL LETTER A;CYRILLIC CAPITAL LETTER BE"),
  (0x412, "CYRILLIC CAPITAL LETTER VE;CYRILLIC CAPITAL LETTER GHE;CYRILLIC CAPITAL LETTER DE"),
  (0x415, "CYRILLIC CAPITAL LETTER IE;CYRILLIC CAPITAL LETTER ZHE;CYRILLIC CAPITAL LETTER ZE"),
  (0x418, "CYRILLIC CAPITAL LETTER I;CYRILLIC CAPITAL LETTER SHORT I;CYRILLIC CAPITAL LETTER KA"),
  (0x41B, "CYRILLIC CAPITAL LETTER EL;CYRILLIC CAPITAL LETTER EM;CYRILLIC CAPITAL LETTER EN"),
  (0x41E, "CYRILLIC CAPITAL LETTER O;CYRILLIC CAPITAL LETTER PE;CYRILLIC CAPITAL LETTER ER"),
  (0x421, "CYRILLIC CAPITAL LETTER ES;CYRILLIC CAPITAL LETTER TE;CYRILLIC CAPITAL LETTER U"),
  (0x424, "CYRILLIC CAPITAL LETTER EF;CYRILLIC CAPITAL LETTER HA;CYRILLIC CAPITAL LETTER TSE"),
  (0x427, "CYRILLIC CAPITAL LETTER CHE;CYRILLIC CAPITAL LETTER SHA;CYRILLIC CAPITAL LETTER SHCHA"),
  (0x42A, "CYRILLIC CAPITAL LETTER HARD SIGN;CYRILLIC CAPITAL LETTER YERU"),
  (0x42C, "CYRILLIC CAPITAL LETTER SOFT SIGN;CYRILLIC CAPITAL LETTER E;CYRILLIC CAPITAL LETTER YU"),
  (0x42F, "CYRILLIC CAPITAL LETTER YA;CYRILLIC SMALL LETTER A;CYRILLIC SMALL LETTER BE"),
  (0x432, "CYRILLIC SMALL LETTER VE;CYRILLIC SMALL LETTER GHE;CYRILLIC SMALL LETTER DE"),
  (0x435, "CYRILLIC SMALL LETTER IE;CYRILLIC SMALL LETTER ZHE;CYRILLIC SMALL LETTER ZE"),
  (0x438, "CYRILLIC SMALL LETTER I;CYRILLIC SMALL LETTER SHORT I;CYRILLIC SMALL LETTER KA"),
  (0x43B, "CYRILLIC SMALL LETTER EL;CYRILLIC SMALL LETTER EM;CYRILLIC SMALL LETTER EN"),
  (0x43E, "CYRILLIC SMALL LETTER O;CYRILLIC SMALL LETTER PE;CYRILLIC SMALL LETTER ER"),
  (0x441, "CYRILLIC SMALL LETTER ES;CYRILLIC SMALL LETTER TE;CYRILLIC SMALL LETTER U"),
  (0x444, "CYRILLIC SMALL LETTER EF;CYRILLIC SMALL LETTER HA;CYRILLIC SMALL LETTER TSE"),
  (0x447, "CYRILLIC SMALL LETTER CHE;CYRILLIC SMALL LETTER SHA;CYRILLIC SMALL LETTER SHCHA"),
  (0x44A, "CYRILLIC SMALL LETTER HARD SIGN;CYRILLIC SMALL LETTER YERU"),
  (0x44C, "CYRILLIC SMALL LETTER SOFT SIGN;CYRILLIC SMALL LETTER E;CYRILLIC SMALL LETTER YU"),
  (0x44F, "CYRILLIC SMALL LETTER YA;CYRILLIC SMALL LETTER IE WITH GRAVE;CYRILLIC SMALL LETTER IO"),
  (0x452, "CYRILLIC SMALL LETTER DJE;CYRILLIC SMALL LETTER GJE;CYRILLIC SMALL LETTER UKRAINIAN IE"),
  (0x455, "CYRILLIC SMALL LETTER DZE;CYRILLIC SMALL LETTER BYELORUSSIAN-UKRAINIAN I"),
  (0x457, "CYRILLIC SMALL LETTER YI;CYRILLIC SMALL LETTER JE;CYRILLIC SMALL LETTER LJE"),
  (0x45A, "CYRILLIC SMALL LETTER NJE;CYRILLIC SMALL LETTER TSHE;CYRILLIC SMALL LETTER KJE"),
  (0x45D, "CYRILLIC SMALL LETTER I WITH GRAVE;CYRILLIC SMALL LETTER SHORT U"),
  (0x45F, "CYRILLIC SMALL LETTER DZHE;CYRILLIC CAPITAL LETTER OMEGA;CYRILLIC SMALL LETTER OMEGA"),
  (0x462, "CYRILLIC CAPITAL LETTER YAT;CYRILLIC SMALL LETTER YAT"),
  (0x464, "CYRILLIC CAPITAL LETTER IOTIFIED E;CYRILLIC SMALL LETTER IOTIFIED E"),
  (0x466, "CYRILLIC CAPITAL LETTER LITTLE YUS;CYRILLIC SMALL LETTER LITTLE YUS"),
  (0x468, "CYRILLIC CAPITAL LETTER IOTIFIED LITTLE YUS;CYRILLIC SMALL LETTER IOTIFIED LITTLE YUS"),
  (0x46A, "CYRILLIC CAPITAL LETTER BIG YUS;CYRILLIC SMALL LETTER BIG YUS"),
  (0x46C, "CYRILLIC CAPITAL LETTER IOTIFIED BIG YUS;CYRILLIC SMALL LETTER IOTIFIED BIG YUS"),
  (0x46E, "CYRILLIC CAPITAL LETTER KSI;CYRILLIC SMALL LETTER KSI;CYRILLIC CAPITAL LETTER PSI"),
  (0x471, "CYRILLIC SMALL LETTER PSI;CYRILLIC CAPITAL LETTER FITA;CYRILLIC SMALL LETTER FITA"),
  (0x474, "CYRILLIC CAPITAL LETTER IZHITSA;CYRILLIC SMALL LETTER IZHITSA"),
  (0x476, "CYRILLIC CAPITAL LETTER IZHITSA WITH DOUBLE GRAVE ACCENT"),
  (0x477, "CYRILLIC SMALL LETTER IZHITSA WITH DOUBLE GRAVE ACCENT;CYRILLIC CAPITAL LETTER UK"),
  (0x479, "CYRILLIC SMALL LETTER UK;CYRILLIC CAPITAL LETTER ROUND OMEGA"),
  (0x47B, "CYRILLIC SMALL LETTER ROUND OMEGA;CYRILLIC CAPITAL LETTER OMEGA WITH TITLO"),
  (0x47D, "CYRILLIC SMALL LETTER OMEGA WITH TITLO;CYRILLIC CAPITAL LETTER OT"),
  (0x47F, "CYRILLIC SMALL LETTER OT;CYRILLIC CAPITAL LETTER KOPPA;CYRILLIC SMALL LETTER KOPPA"),
  (0x482, "CYRILLIC THOUSANDS SIGN;COMBINING CYRILLIC TITLO;COMBINING CYRILLIC PALATALIZATION"),
  (0x485, "COMBINING CYRILLIC DASIA PNEUMATA;COMBINING CYRILLIC PSILI PNEUMATA"),
  (0x487, "COMBINING CYRILLIC POKRYTIE;COMBINING CYRILLIC HUNDRED THOUSANDS SIGN"),
  (0x489, "COMBINING CYRILLIC MILLIONS SIGN;CYRILLIC CAPITAL LETTER SHORT I WITH TAIL"),
  (0x48B, "CYRILLIC SMALL LETTER SHORT I WITH TAIL;CYRILLIC CAPITAL LETTER SEMISOFT SIGN"),
  (0x48D, "CYRILLIC SMALL LETTER SEMISOFT SIGN;CYRILLIC CAPITAL LETTER ER WITH TICK"),
  (0x48F, "CYRILLIC SMALL LETTER ER WITH TICK;CYRILLIC CAPITAL LETTER GHE WITH UPTURN"),
  (0x491, "CYRILLIC SMALL LETTER GHE WITH UPTURN;CYRILLIC CAPITAL LETTER GHE WITH STROKE"),
  (0x493, "CYRILLIC SMALL LETTER GHE WITH STROKE;CYRILLIC CAPITAL LETTER GHE WITH MIDDLE HOOK"),
  (0x495, "CYRILLIC SMALL LETTER GHE WITH MIDDLE HOOK;CYRILLIC CAPITAL LETTER ZHE WITH DESCENDER"),
  (0x497, "CYRILLIC SMALL LETTER ZHE WITH DESCENDER;CYRILLIC CAPITAL LETTER ZE WITH DESCENDER"),
  (0x499, "CYRILLIC SMALL LETTER ZE WITH DESCENDER;CYRILLIC CAPITAL LETTER KA WITH DESCENDER"),
  (0x49B, "CYRILLIC SMALL LETTER KA WITH DESCENDER"),
  (0x49C, "CYRILLIC CAPITAL LETTER KA WITH VERTICAL STROKE"),
  (0x49D, "CYRILLIC SMALL LETTER KA WITH VERTICAL STROKE;CYRILLIC CAPITAL LETTER KA WITH STROKE"),
  (0x49F, "CYRILLIC SMALL LETTER KA WITH STROKE;CYRILLIC CAPITAL LETTER BASHKIR KA"),
  (0x4A1, "CYRILLIC SMALL LETTER BASHKIR KA;CYRILLIC CAPITAL LETTER EN WITH DESCENDER"),
  (0x4A3, "CYRILLIC SMALL LETTER EN WITH DESCENDER;CYRILLIC CAPITAL LIGATURE EN GHE"),
  (0x4A5, "CYRILLIC SMALL LIGATURE EN GHE;CYRILLIC CAPITAL LETTER PE WITH MIDDLE HOOK"),
  (0x4A7, "CYRILLIC SMALL LETTER PE WITH MIDDLE HOOK;CYRILLIC CAPITAL LETTER ABKHASIAN HA"),
  (0x4A9, "CYRILLIC SMALL LETTER ABKHASIAN HA;CYRILLIC CAPITAL LETTER ES WITH DESCENDER"),
  (0x4AB, "CYRILLIC SMALL LETTER ES WITH DESCENDER;CYRILLIC CAPITAL LETTER TE WITH DESCENDER"),
  (0x4AD, "CYRILLIC SMALL LETTER TE WITH DESCENDER;CYRILLIC CAPITAL LETTER STRAIGHT U"),
  (0x4AF, "CYRILLIC SMALL LETTER STRAIGHT U;CYRILLIC CAPITAL LETTER STRAIGHT U WITH STROKE"),
  (0x4B1, "CYRILLIC SMALL LETTER STRAIGHT U WITH STROKE;CYRILLIC CAPITAL LETTER HA WITH DESCENDER"),
  (0x4B3, "CYRILLIC SMALL LETTER HA WITH DESCENDER;CYRILLIC CAPITAL LIGATURE TE TSE"),
  (0x4B5, "CYRILLIC SMALL LIGATURE TE TSE;CYRILLIC CAPITAL LETTER CHE WITH DESCENDER"),
  (0x4B7, "CYRILLIC SMALL LETTER CHE WITH DESCENDER"),
  (0x4B8, "CYRILLIC CAPITAL LETTER CHE WITH VERTICAL STROKE"),
  (0x4B9, "CYRILLIC SMALL LETTER CHE WITH VERTICAL STROKE;CYRILLIC CAPITAL LETTER SHHA"),
  (0x4BB, "CYRILLIC SMALL LETTER SHHA;CYRILLIC CAPITAL LETTER ABKHASIAN CHE"),
  (0x4BD, "CYRILLIC SMALL LETTER ABKHASIAN CHE"),
  (0x4BE, "CYRILLIC CAPITAL LETTER ABKHASIAN CHE WITH DESCENDER"),
  (0x4BF, "CYRILLIC SMALL LETTER ABKHASIAN CHE WITH DESCENDER;CYRILLIC LETTER PALOCHKA"),
  (0x4C1, "CYRILLIC CAPITAL LETTER ZHE WITH BREVE;CYRILLIC SMALL LETTER ZHE WITH BREVE"),
  (0x4C3, "CYRILLIC CAPITAL LETTER KA WITH HOOK;CYRILLIC SMALL LETTER KA WITH HOOK"),
  (0x4C5, "CYRILLIC CAPITAL LETTER EL WITH TAIL;CYRILLIC SMALL LETTER EL WITH TAIL"),
  (0x4C7, "CYRILLIC CAPITAL LETTER EN WITH HOOK;CYRILLIC SMALL LETTER EN WITH HOOK"),
  (0x4C9, "CYRILLIC CAPITAL LETTER EN WITH TAIL;CYRILLIC SMALL LETTER EN WITH TAIL"),
  (0x4CB, "CYRILLIC CAPITAL LETTER KHAKASSIAN CHE;CYRILLIC SMALL LETTER KHAKASSIAN CHE"),
  (0x4CD, "CYRILLIC CAPITAL LETTER EM WITH TAIL;CYRILLIC SMALL LETTER EM WITH TAIL"),
  (0x4CF, "CYRILLIC SMALL LETTER PALOCHKA;CYRILLIC CAPITAL LETTER A WITH BREVE"),
  (0x4D1, "CYRILLIC SMALL LETTER A WITH BREVE;CYRILLIC CAPITAL LETTER A WITH DIAERESIS"),
  (0x4D3, "CYRILLIC SMALL LETTER A WITH DIAERESIS;CYRILLIC CAPITAL LIGATURE A IE"),
  (0x4D5, "CYRILLIC SMALL LIGATURE A IE;CYRILLIC CAPITAL LETTER IE WITH BREVE"),
  (0x4D7, "CYRILLIC SMALL LETTER IE WITH BREVE;CYRILLIC CAPITAL LETTER SCHWA"),
  (0x4D9, "CYRILLIC SMALL LETTER SCHWA;CYRILLIC CAPITAL LETTER SCHWA WITH DIAERESIS"),
  (0x4DB, "CYRILLIC SMALL LETTER SCHWA WITH DIAERESIS;CYRILLIC CAPITAL LETTER ZHE WITH DIAERESIS"),
  (0x4DD, "CYRILLIC SMALL LETTER ZHE WITH DIAERESIS;CYRILLIC CAPITAL LETTER ZE WITH DIAERESIS"),
  (0x4DF, "CYRILLIC SMALL LETTER ZE WITH DIAERESIS;CYRILLIC CAPITAL LETTER ABKHASIAN DZE"),
  (0x4E1, "CYRILLIC SMALL LETTER ABKHASIAN DZE;CYRILLIC CAPITAL LETTER I WITH MACRON"),
  (0x4E3, "CYRILLIC SMALL LETTER I WITH MACRON;CYRILLIC CAPITAL LETTER I WITH DIAERESIS"),
  (0x4E5, "CYRILLIC SMALL LETTER I WITH DIAERESIS;CYRILLIC CAPITAL LETTER O WITH DIAERESIS"),
  (0x4E7, "CYRILLIC SMALL LETTER O WITH DIAERESIS;CYRILLIC CAPITAL LETTER BARRED O"),
  (0x4E9, "CYRILLIC SMALL LETTER BARRED O;CYRILLIC CAPITAL LETTER BARRED O WITH DIAERESIS"),
  (0x4EB, "CYRILLIC SMALL LETTER BARRED O WITH DIAERESIS;CYRILLIC CAPITAL LETTER E WITH DIAERESIS"),
  (0x4ED, "CYRILLIC SMALL LETTER E WITH DIAERESIS;CYRILLIC CAPITAL LETTER U WITH MACRON"),
  (0x4EF, "CYRILLIC SMALL LETTER U WITH MACRON;CYRILLIC CAPITAL LETTER U WITH DIAERESIS"),
  (0x4F1, "CYRILLIC SMALL LETTER U WITH DIAERESIS;CYRILLIC CAPITAL LETTER U WITH DOUBLE ACUTE"),
  (0x4F3, "CYRILLIC SMALL LETTER U WITH DOUBLE ACUTE;CYRILLIC CAPITAL LETTER CHE WITH DIAERESIS"),
  (0x4F5, "CYRILLIC SMALL LETTER CHE WITH DIAERESIS;CYRILLIC CAPITAL LETTER GHE WITH DESCENDER"),
  (0x4F7, "CYRILLIC SMALL LETTER GHE WITH DESCENDER;CYRILLIC CAPITAL LETTER YERU WITH DIAERESIS"),
  (0x4F9, "CYRILLIC SMALL LETTER YERU WITH DIAERESIS"),
  (0x4FA, "CYRILLIC CAPITAL LETTER GHE WITH STROKE AND HOOK"),
  (0x4FB, "CYRILLIC SMALL LETTER GHE WITH STROKE AND HOOK;CYRILLIC CAPITAL LETTER HA WITH HOOK"),
  (0x4FD, "CYRILLIC SMALL LETTER HA WITH HOOK;CYRILLIC CAPITAL LETTER HA WITH STROKE"),
  (0x4FF, "CYRILLIC SMALL LETTER HA WITH STROKE;CYRILLIC CAPITAL LETTER KOMI DE"),
  (0x501, "CYRILLIC SMALL LETTER KOMI DE;CYRILLIC CAPITAL LETTER KOMI DJE"),
  (0x503, "CYRILLIC SMALL LETTER KOMI DJE;CYRILLIC CAPITAL LETTER KOMI ZJE"),
  (0x505, "CYRILLIC SMALL LETTER KOMI ZJE;CYRILLIC CAPITAL LETTER KOMI DZJE"),
  (0x507, "CYRILLIC SMALL LETTER KOMI DZJE;CYRILLIC CAPITAL LETTER KOMI LJE"),
  (0x509, "CYRILLIC SMALL LETTER KOMI LJE;CYRILLIC CAPITAL LETTER KOMI NJE"),
  (0x50B, "CYRILLIC SMALL LETTER KOMI NJE;CYRILLIC CAPITAL LETTER KOMI SJE"),
  (0x50D, "CYRILLIC SMALL LETTER KOMI SJE;CYRILLIC CAPITAL LETTER KOMI TJE"),
  (0x50F, "CYRILLIC SMALL LETTER KOMI TJE;CYRILLIC CAPITAL LETTER REVERSED ZE"),
  (0x511, "CYRILLIC SMALL LETTER REVERSED ZE;CYRILLIC CAPITAL LETTER EL WITH HOOK"),
  (0x513, "CYRILLIC SMALL LETTER EL WITH HOOK;CYRILLIC CAPITAL LETTER LHA"),
  (0x515, "CYRILLIC SMALL LETTER LHA;CYRILLIC CAPITAL LETTER RHA;CYRILLIC SMALL LETTER RHA"),
  (0x518, "CYRILLIC CAPITAL LETTER YAE;CYRILLIC SMALL LETTER YAE;CYRILLIC CAPITAL LETTER QA"),
  (0x51B, "CYRILLIC SMALL LETTER QA;CYRILLIC CAPITAL LETTER WE;CYRILLIC SMALL LETTER WE"),
  (0x51E, "CYRILLIC CAPITAL LETTER ALEUT KA;CYRILLIC SMALL LETTER ALEUT KA"),
  (0x520, "CYRILLIC CAPITAL LETTER EL WITH MIDDLE HOOK;CYRILLIC SMALL LETTER EL WITH MIDDLE HOOK"),
  (0x522, "CYRILLIC CAPITAL LETTER EN WITH MIDDLE HOOK;CYRILLIC SMALL LETTER EN WITH MIDDLE HOOK"),
  (0x524, "CYRILLIC CAPITAL LETTER PE WITH DESCENDER;CYRILLIC SMALL LETTER PE WITH DESCENDER"),
  (0x526, "CYRILLIC CAPITAL LETTER SHHA WITH DESCENDER;CYRILLIC SMALL LETTER SHHA WITH DESCENDER"),
  (0x528, "CYRILLIC CAPITAL LETTER EN WITH LEFT HOOK;CYRILLIC SMALL LETTER EN WITH LEFT HOOK"),
  (0x52A, "CYRILLIC CAPITAL LETTER DZZHE;CYRILLIC SMALL LETTER DZZHE;CYRILLIC CAPITAL LETTER DCHE"),
  (0x52D, "CYRILLIC SMALL LETTER DCHE;CYRILLIC CAPITAL LETTER EL WITH DESCENDER"),
  (0x52F, "CYRILLIC SMALL LETTER EL WITH DESCENDER"),
  (0x531, "ARMENIAN CAPITAL LETTER AYB;ARMENIAN CAPITAL LETTER BEN;ARMENIAN CAPITAL LETTER GIM"),
  (0x534, "ARMENIAN CAPITAL LETTER DA;ARMENIAN CAPITAL LETTER ECH;ARMENIAN CAPITAL LETTER ZA"),
  (0x537, "ARMENIAN CAPITAL LETTER EH;ARMENIAN CAPITAL LETTER ET;ARMENIAN CAPITAL LETTER TO"),
  (0x53A, "ARMENIAN CAPITAL LETTER ZHE;ARMENIAN CAPITAL LETTER INI;ARMENIAN CAPITAL LETTER LIWN"),
  (0x53D, "ARMENIAN CAPITAL LETTER XEH;ARMENIAN CAPITAL LETTER CA;ARMENIAN CAPITAL LETTER KEN"),
  (0x540, "ARMENIAN CAPITAL LETTER HO;ARMENIAN CAPITAL LETTER JA;ARMENIAN CAPITAL LETTER GHAD"),
  (0x543, "ARMENIAN CAPITAL LETTER CHEH;ARMENIAN CAPITAL LETTER MEN;ARMENIAN CAPITAL LETTER YI"),
  (0x546, "ARMENIAN CAPITAL LETTER NOW;ARMENIAN CAPITAL LETTER SHA;ARMENIAN CAPITAL LETTER VO"),
  (0x549, "ARMENIAN CAPITAL LETTER CHA;ARMENIAN CAPITAL LETTER PEH;ARMENIAN CAPITAL LETTER JHEH"),
  (0x54C, "ARMENIAN CAPITAL LETTER RA;ARMENIAN CAPITAL LETTER SEH;ARMENIAN CAPITAL LETTER VEW"),
  (0x54F, "ARMENIAN CAPITAL LETTER TIWN;ARMENIAN CAPITAL LETTER REH;ARMENIAN CAPITAL LETTER CO"),
  (0x552, "ARMENIAN CAPITAL LETTER YIWN;ARMENIAN CAPITAL LETTER PIWR;ARMENIAN CAPITAL LETTER KEH"),
  (0x555, "ARMENIAN CAPITAL LETTER OH;ARMENIAN CAPITAL LETTER FEH"),
  (0x559, "ARMENIAN MODIFIER LETTER LEFT HALF RING;ARMENIAN APOSTROPHE;ARMENIAN EMPHASIS MARK"),
  (0x55C, "ARMENIAN EXCLAMATION MARK;ARMENIAN COMMA;ARMENIAN QUESTION MARK"),
  (0x55F, "ARMENIAN ABBREVIATION MARK;ARMENIAN SMALL LETTER TURNED AYB;ARMENIAN SMALL LETTER AYB"),
  (0x562, "ARMENIAN SMALL LETTER BEN;ARMENIAN SMALL LETTER GIM;ARMENIAN SMALL LETTER DA"),
  (0x565, "ARMENIAN SMALL LETTER ECH;ARMENIAN SMALL LETTER ZA;ARMENIAN SMALL LETTER EH"),
  (0x568, "ARMENIAN SMALL LETTER ET;ARMENIAN SMALL LETTER TO;ARMENIAN SMALL LETTER ZHE"),
  (0x56B, "ARMENIAN SMALL LETTER INI;ARMENIAN SMALL LETTER LIWN;ARMENIAN SMALL LETTER XEH"),
  (0x56E, "ARMENIAN SMALL LETTER CA;ARMENIAN SMALL LETTER KEN;ARMENIAN SMALL LETTER HO"),
  (0x571, "ARMENIAN SMALL LETTER JA;ARMENIAN SMALL LETTER GHAD;ARMENIAN SMALL LETTER CHEH"),
  (0x574, "ARMENIAN SMALL LETTER MEN;ARMENIAN SMALL LETTER YI;ARMENIAN SMALL LETTER NOW"),
  (0x577, "ARMENIAN SMALL LETTER SHA;ARMENIAN SMALL LETTER VO;ARMENIAN SMALL LETTER CHA"),
  (0x57A, "ARMENIAN SMALL LETTER PEH;ARMENIAN SMALL LETTER JHEH;ARMENIAN SMALL LETTER RA"),
  (0x57D, "ARMENIAN SMALL LETTER SEH;ARMENIAN SMALL LETTER VEW;ARMENIAN SMALL LETTER TIWN"),
  (0x580, "ARMENIAN SMALL LETTER REH;ARMENIAN SMALL LETTER CO;ARMENIAN SMALL LETTER YIWN"),
  (0x583, "ARMENIAN SMALL LETTER PIWR;ARMENIAN SMALL LETTER KEH;ARMENIAN SMALL LETTER OH"),
  (0x586, "ARMENIAN SMALL LETTER FEH;ARMENIAN SMALL LIGATURE ECH YIWN"),
  (0x588, "ARMENIAN SMALL LETTER YI WITH STROKE;ARMENIAN FULL STOP;ARMENIAN HYPHEN"),
  (0x58D, "RIGHT-FACING ARMENIAN ETERNITY SIGN;LEFT-FACING ARMENIAN ETERNITY SIGN"),
  (0x58F, "ARMENIAN DRAM SIGN"),
  (0x591, "HEBREW ACCENT ETNAHTA;HEBREW ACCENT SEGOL;HEBREW ACCENT SHALSHELET"),
  (0x594, "HEBREW ACCENT ZAQEF QATAN;HEBREW ACCENT ZAQEF GADOL;HEBREW ACCENT TIPEHA"),
  (0x597, "HEBREW ACCENT REVIA;HEBREW ACCENT ZARQA;HEBREW ACCENT PASHTA;HEBREW ACCENT YETIV"),
  (0x59B, "HEBREW ACCENT TEVIR;HEBREW ACCENT GERESH;HEBREW ACCENT GERESH MUQDAM"),
  (0x59E, "HEBREW ACCENT GERSHAYIM;HEBREW ACCENT QARNEY PARA;HEBREW ACCENT TELISHA GEDOLA"),
  (0x5A1, "HEBREW ACCENT PAZER;HEBREW ACCENT ATNAH HAFUKH;HEBREW ACCENT MUNAH"),
  (0x5A4, "HEBREW ACCENT MAHAPAKH;HEBREW ACCENT MERKHA;HEBREW ACCENT MERKHA KEFULA"),
  (0x5A7, "HEBREW ACCENT DARGA;HEBREW ACCENT QADMA;HEBREW ACCENT TELISHA QETANA"),
  (0x5AA, "HEBREW ACCENT YERAH BEN YOMO;HEBREW ACCENT OLE;HEBREW ACCENT ILUY;HEBREW ACCENT DEHI"),
  (0x5AE, "HEBREW ACCENT ZINOR;HEBREW MARK MASORA CIRCLE;HEBREW POINT SHEVA"),
  (0x5B1, "HEBREW POINT HATAF SEGOL;HEBREW POINT HATAF PATAH;HEBREW POINT HATAF QAMATS"),
  (0x5B4, "HEBREW POINT HIRIQ;HEBREW POINT TSERE;HEBREW POINT SEGOL;HEBREW POINT PATAH"),
  (0x5B8, "HEBREW POINT QAMATS;HEBREW POINT HOLAM;HEBREW POINT HOLAM HASER FOR VAV"),
  (0x5BB, "HEBREW POINT QUBUTS;HEBREW POINT DAGESH OR MAPIQ;HEBREW POINT METEG"),
  (0x5BE, "HEBREW PUNCTUATION MAQAF;HEBREW POINT RAFE;HEBREW PUNCTUATION PASEQ"),
  (0x5C1, "HEBREW POINT SHIN DOT;HEBREW POINT SIN DOT;HEBREW PUNCTUATION SOF PASUQ"),
  (0x5C4, "HEBREW MARK UPPER DOT;HEBREW MARK LOWER DOT;HEBREW PUNCTUATION NUN HAFUKHA"),
  (0x5C7, "HEBREW POINT QAMATS QATAN"),
  (0x5D0, "HEBREW LETTER ALEF;HEBREW LETTER BET;HEBREW LETTER GIMEL;HEBREW LETTER DALET"),
  (0x5D4, "HEBREW LETTER HE;HEBREW LETTER VAV;HEBREW LETTER ZAYIN;HEBREW LETTER HET"),
  (0x5D8, "HEBREW LETTER TET;HEBREW LETTER YOD;HEBREW LETTER FINAL KAF;HEBREW LETTER KAF"),
  (0x5DC, "HEBREW LETTER LAMED;HEBREW LETTER FINAL MEM;HEBREW LETTER MEM;HEBREW LETTER FINAL NUN")]

/-- The names from code point 05E0 to 1EA4. -/
def letterNamesFrom05E0 : List (Nat × String) := [
  (0x5E0, "HEBREW LETTER NUN;HEBREW LETTER SAMEKH;HEBREW LETTER AYIN;HEBREW LETTER FINAL PE"),
  (0x5E4, "HEBREW LETTER PE;HEBREW LETTER FINAL TSADI;HEBREW LETTER TSADI;HEBREW LETTER QOF"),
  (0x5E8, "HEBREW LETTER RESH;HEBREW LETTER SHIN;HEBREW LETTER TAV"),
  (0x5EF, "HEBREW YOD TRIANGLE;HEBREW LIGATURE YIDDISH DOUBLE VAV;HEBREW LIGATURE YIDDISH VAV YOD"),
  (0x5F2, "HEBREW LIGATURE YIDDISH DOUBLE YOD;HEBREW PUNCTUATION GERESH"),
  (0x5F4, "HEBREW PUNCTUATION GERSHAYIM"),
  (0x600, "ARABIC NUMBER SIGN;ARABIC SIGN SANAH;ARABIC FOOTNOTE MARKER;ARABIC SIGN SAFHA"),
  (0x604, "ARABIC SIGN SAMVAT;ARABIC NUMBER MARK ABOVE;ARABIC-INDIC CUBE ROOT"),
  (0x607, "ARABIC-INDIC FOURTH ROOT;ARABIC RAY;ARABIC-INDIC PER MILLE SIGN"),
  (0x60A, "ARABIC-INDIC PER TEN THOUSAND SIGN;AFGHANI SIGN;ARABIC COMMA;ARABIC DATE SEPARATOR"),
  (0x60E, "ARABIC POETIC VERSE SIGN;ARABIC SIGN MISRA;ARABIC SIGN SALLALLAHOU ALAYHE WASSALLAM"),
  (0x611, "ARABIC SIGN ALAYHE ASSALLAM;ARABIC SIGN RAHMATULLAH ALAYHE"),
  (0x613, "ARABIC SIGN RADI ALLAHOU ANHU;ARABIC SIGN TAKHALLUS;ARABIC SMALL HIGH TAH"),
  (0x616, "ARABIC SMALL HIGH LIGATURE ALEF WITH LAM WITH YEH;ARABIC SMALL HIGH ZAIN"),
  (0x618, "ARABIC SMALL FATHA;ARABIC SMALL DAMMA;ARABIC SMALL KASRA;ARABIC SEMICOLON"),
  (0x61C, "ARABIC LETTER MARK;ARABIC END OF TEXT MARK;ARABIC TRIPLE DOT PUNCTUATION MARK"),
  (0x61F, "ARABIC QUESTION MARK;ARABIC LETTER KASHMIRI YEH;ARABIC LETTER HAMZA"),
  (0x622, "ARABIC LETTER ALEF WITH MADDA ABOVE;ARABIC LETTER ALEF WITH HAMZA ABOVE"),
  (0x624, "ARABIC LETTER WAW WITH HAMZA ABOVE;ARABIC LETTER ALEF WITH HAMZA BELOW"),
  (0x626, "ARABIC LETTER YEH WITH HAMZA ABOVE;ARABIC LETTER ALEF;ARABIC LETTER BEH"),
  (0x629, "ARABIC LETTER TEH MARBUTA;ARABIC LETTER TEH;ARABIC LETTER THEH;ARABIC LETTER JEEM"),
  (0x62D, "ARABIC LETTER HAH;ARABIC LETTER KHAH;ARABIC LETTER DAL;ARABIC LETTER THAL"),
  (0x631, "ARABIC LETTER REH;ARABIC LETTER ZAIN;ARABIC LETTER SEEN;ARABIC LETTER SHEEN"),
  (0x635, "ARABIC LETTER SAD;ARABIC LETTER DAD;ARABIC LETTER TAH;ARABIC LETTER ZAH"),
  (0x639, "ARABIC LETTER AIN;ARABIC LETTER GHAIN;ARABIC LETTER KEHEH WITH TWO DOTS ABOVE"),
  (0x63C, "ARABIC LETTER KEHEH WITH THREE DOTS BELOW;ARABIC LETTER FARSI YEH WITH INVERTED V"),
  (0x63E, "ARABIC LETTER FARSI YEH WITH TWO DOTS ABOVE"),
  (0x63F, "ARABIC LETTER FARSI YEH WITH THREE DOTS ABOVE;ARABIC TATWEEL;ARABIC LETTER FEH"),
  (0x642, "ARABIC LETTER QAF;ARABIC LETTER KAF;ARABIC LETTER LAM;ARABIC LETTER MEEM"),
  (0x646, "ARABIC LETTER NOON;ARABIC LETTER HEH;ARABIC LETTER WAW;ARABIC LETTER ALEF MAKSURA"),
  (0x64A, "ARABIC LETTER YEH;ARABIC FATHATAN;ARABIC DAMMATAN;ARABIC KASRATAN;ARABIC FATHA"),
  (0x64F, "ARABIC DAMMA;ARABIC KASRA;ARABIC SHADDA;ARABIC SUKUN;ARABIC MADDAH ABOVE"),
  (0x654, "ARABIC HAMZA ABOVE;ARABIC HAMZA BELOW;ARABIC SUBSCRIPT ALEF;ARABIC INVERTED DAMMA"),
  (0x658, "ARABIC MARK NOON GHUNNA;ARABIC ZWARAKAY;ARABIC VOWEL SIGN SMALL V ABOVE"),
  (0x65B, "ARABIC VOWEL SIGN INVERTED SMALL V ABOVE;ARABIC VOWEL SIGN DOT BELOW"),
  (0x65D, "ARABIC REVERSED DAMMA;ARABIC FATHA WITH TWO DOTS;ARABIC WAVY HAMZA BELOW"),
  (0x660, "ARABIC-INDIC DIGIT ZERO;ARABIC-INDIC DIGIT ONE;ARABIC-INDIC DIGIT TWO"),
  (0x663, "ARABIC-INDIC DIGIT THREE;ARABIC-INDIC DIGIT FOUR;ARABIC-INDIC DIGIT FIVE"),
  (0x666, "ARABIC-INDIC DIGIT SIX;ARABIC-INDIC DIGIT SEVEN;ARABIC-INDIC DIGIT EIGHT"),
  (0x669, "ARABIC-INDIC DIGIT NINE;ARABIC PERCENT SIGN;ARABIC DECIMAL SEPARATOR"),
  (0x66C, "ARABIC THOUSANDS SEPARATOR;ARABIC FIVE POINTED STAR;ARABIC LETTER DOTLESS BEH"),
  (0x66F, "ARABIC LETTER DOTLESS QAF;ARABIC LETTER SUPERSCRIPT ALEF;ARABIC LETTER ALEF WASLA"),
  (0x672, "ARABIC LETTER ALEF WITH WAVY HAMZA ABOVE;ARABIC LETTER ALEF WITH WAVY HAMZA BELOW"),
  (0x674, "ARABIC LETTER HIGH HAMZA;ARABIC LETTER HIGH HAMZA ALEF;ARABIC LETTER HIGH HAMZA WAW"),
  (0x677, "ARABIC LETTER U WITH HAMZA ABOVE;ARABIC LETTER HIGH HAMZA YEH;ARABIC LETTER TTEH"),
  (0x67A, "ARABIC LETTER TTEHEH;ARABIC LETTER BEEH;ARABIC LETTER TEH WITH RING"),
  (0x67D, "ARABIC LETTER TEH WITH THREE DOTS ABOVE DOWNWARDS;ARABIC LETTER PEH"),
  (0x67F, "ARABIC LETTER TEHEH;ARABIC LETTER BEHEH;ARABIC LETTER HAH WITH HAMZA ABOVE"),
  (0x682, "ARABIC LETTER HAH WITH TWO DOTS VERTICAL ABOVE;ARABIC LETTER NYEH;ARABIC LETTER DYEH"),
  (0x685, "ARABIC LETTER HAH WITH THREE DOTS ABOVE;ARABIC LETTER TCHEH;ARABIC LETTER TCHEHEH"),
  (0x688, "ARABIC LETTER DDAL;ARABIC LETTER DAL WITH RING;ARABIC LETTER DAL WITH DOT BELOW"),
  (0x68B, "ARABIC LETTER DAL WITH DOT BELOW AND SMALL TAH;ARABIC LETTER DAHAL"),
  (0x68D, "ARABIC LETTER DDAHAL;ARABIC LETTER DUL"),
  (0x68F, "ARABIC LETTER DAL WITH THREE DOTS ABOVE DOWNWARDS"),
  (0x690, "ARABIC LETTER DAL WITH FOUR DOTS ABOVE;ARABIC LETTER RREH"),
  (0x692, "ARABIC LETTER REH WITH SMALL V;ARABIC LETTER REH WITH RING"),
  (0x694, "ARABIC LETTER REH WITH DOT BELOW;ARABIC LETTER REH WITH SMALL V BELOW"),
  (0x696, "ARABIC LETTER REH WITH DOT BELOW AND DOT ABOVE;ARABIC LETTER REH WITH TWO DOTS ABOVE"),
  (0x698, "ARABIC LETTER JEH;ARABIC LETTER REH WITH FOUR DOTS ABOVE"),
  (0x69A, "ARABIC LETTER SEEN WITH DOT BELOW AND DOT ABOVE"),
  (0x69B, "ARABIC LETTER SEEN WITH THREE DOTS BELOW"),
  (0x69C, "ARABIC LETTER SEEN WITH THREE DOTS BELOW AND THREE DOTS ABOVE"),
  (0x69D, "ARABIC LETTER SAD WITH TWO DOTS BELOW;ARABIC LETTER SAD WITH THREE DOTS ABOVE"),
  (0x69F, "ARABIC LETTER TAH WITH THREE DOTS ABOVE;ARABIC LETTER AIN WITH THREE DOTS ABOVE"),
  (0x6A1, "ARABIC LETTER DOTLESS FEH;ARABIC LETTER FEH WITH DOT MOVED BELOW"),
  (0x6A3, "ARABIC LETTER FEH WITH DOT BELOW;ARABIC LETTER VEH"),
  (0x6A5, "ARABIC LETTER FEH WITH THREE DOTS BELOW;ARABIC LETTER PEHEH"),
  (0x6A7, "ARABIC LETTER QAF WITH DOT ABOVE;ARABIC LETTER QAF WITH THREE DOTS ABOVE"),
  (0x6A9, "ARABIC LETTER KEHEH;ARABIC LETTER SWASH KAF;ARABIC LETTER KAF WITH RING"),
  (0x6AC, "ARABIC LETTER KAF WITH DOT ABOVE;ARABIC LETTER NG"),
  (0x6AE, "ARABIC LETTER KAF WITH THREE DOTS BELOW;ARABIC LETTER GAF;ARABIC LETTER GAF WITH RING"),
  (0x6B1, "ARABIC LETTER NGOEH;ARABIC LETTER GAF WITH TWO DOTS BELOW;ARABIC LETTER GUEH"),
  (0x6B4, "ARABIC LETTER GAF WITH THREE DOTS ABOVE;ARABIC LETTER LAM WITH SMALL V"),
  (0x6B6, "ARABIC LETTER LAM WITH DOT ABOVE;ARABIC LETTER LAM WITH THREE DOTS ABOVE"),
  (0x6B8, "ARABIC LETTER LAM WITH THREE DOTS BELOW;ARABIC LETTER NOON WITH DOT BELOW"),
  (0x6BA, "ARABIC LETTER NOON GHUNNA;ARABIC LETTER RNOON;ARABIC LETTER NOON WITH RING"),
  (0x6BD, "ARABIC LETTER NOON WITH THREE DOTS ABOVE;ARABIC LETTER HEH DOACHASHMEE"),
  (0x6BF, "ARABIC LETTER TCHEH WITH DOT ABOVE;ARABIC LETTER HEH WITH YEH ABOVE"),
  (0x6C1, "ARABIC LETTER HEH GOAL;ARABIC LETTER HEH GOAL WITH HAMZA ABOVE"),
  (0x6C3, "ARABIC LETTER TEH MARBUTA GOAL;ARABIC LETTER WAW WITH RING;ARABIC LETTER KIRGHIZ OE"),
  (0x6C6, "ARABIC LETTER OE;ARABIC LETTER U;ARABIC LETTER YU;ARABIC LETTER KIRGHIZ YU"),
  (0x6CA, "ARABIC LETTER WAW WITH TWO DOTS ABOVE;ARABIC LETTER VE;ARABIC LETTER FARSI YEH"),
  (0x6CD, "ARABIC LETTER YEH WITH TAIL;ARABIC LETTER YEH WITH SMALL V"),
  (0x6CF, "ARABIC LETTER WAW WITH DOT ABOVE;ARABIC LETTER E"),
  (0x6D1, "ARABIC LETTER YEH WITH THREE DOTS BELOW;ARABIC LETTER YEH BARREE"),
  (0x6D3, "ARABIC LETTER YEH BARREE WITH HAMZA ABOVE;ARABIC FULL STOP;ARABIC LETTER AE"),
  (0x6D6, "ARABIC SMALL HIGH LIGATURE SAD WITH LAM WITH ALEF MAKSURA"),
  (0x6D7, "ARABIC SMALL HIGH LIGATURE QAF WITH LAM WITH ALEF MAKSURA"),
  (0x6D8, "ARABIC SMALL HIGH MEEM INITIAL FORM;ARABIC SMALL HIGH LAM ALEF;ARABIC SMALL HIGH JEEM"),
  (0x6DB, "ARABIC SMALL HIGH THREE DOTS;ARABIC SMALL HIGH SEEN;ARABIC END OF AYAH"),
  (0x6DE, "ARABIC START OF RUB EL HIZB;ARABIC SMALL HIGH ROUNDED ZERO"),
  (0x6E0, "ARABIC SMALL HIGH UPRIGHT RECTANGULAR ZERO;ARABIC SMALL HIGH DOTLESS HEAD OF KHAH"),
  (0x6E2, "ARABIC SMALL HIGH MEEM ISOLATED FORM;ARABIC SMALL LOW SEEN;ARABIC SMALL HIGH MADDA"),
  (0x6E5, "ARABIC SMALL WAW;ARABIC SMALL YEH;ARABIC SMALL HIGH YEH;ARABIC SMALL HIGH NOON"),
  (0x6E9, "ARABIC PLACE OF SAJDAH;ARABIC EMPTY CENTRE LOW STOP;ARABIC EMPTY CENTRE HIGH STOP"),
  (0x6EC, "ARABIC ROUNDED HIGH STOP WITH FILLED CENTRE;ARABIC SMALL LOW MEEM"),
  (0x6EE, "ARABIC LETTER DAL WITH INVERTED V;ARABIC LETTER REH WITH INVERTED V"),
  (0x6F0, "EXTENDED ARABIC-INDIC DIGIT ZERO;EXTENDED ARABIC-INDIC DIGIT ONE"),
  (0x6F2, "EXTENDED ARABIC-INDIC DIGIT TWO;EXTENDED ARABIC-INDIC DIGIT THREE"),
  (0x6F4, "EXTENDED ARABIC-INDIC DIGIT FOUR;EXTENDED ARABIC-INDIC DIGIT FIVE"),
  (0x6F6, "EXTENDED ARABIC-INDIC DIGIT SIX;EXTENDED ARABIC-INDIC DIGIT SEVEN"),
  (0x6F8, "EXTENDED ARABIC-INDIC DIGIT EIGHT;EXTENDED ARABIC-INDIC DIGIT NINE"),
  (0x6FA, "ARABIC LETTER SHEEN WITH DOT BELOW;ARABIC LETTER DAD WITH DOT BELOW"),
  (0x6FC, "ARABIC LETTER GHAIN WITH DOT BELOW;ARABIC SIGN SINDHI AMPERSAND"),
  (0x6FE, "ARABIC SIGN SINDHI POSTPOSITION MEN;ARABIC LETTER HEH WITH INVERTED V"),
  (0x1E00, "LATIN CAPITAL LETTER A WITH RING BELOW;LATIN SMALL LETTER A WITH RING BELOW"),
  (0x1E02, "LATIN CAPITAL LETTER B WITH DOT ABOVE;LATIN SMALL LETTER B WITH DOT ABOVE"),
  (0x1E04, "LATIN CAPITAL LETTER B WITH DOT BELOW;LATIN SMALL LETTER B WITH DOT BELOW"),
  (0x1E06, "LATIN CAPITAL LETTER B WITH LINE BELOW;LATIN SMALL LETTER B WITH LINE BELOW"),
  (0x1E08, "LATIN CAPITAL LETTER C WITH CEDILLA AND ACUTE"),
  (0x1E09, "LATIN SMALL LETTER C WITH CEDILLA AND ACUTE;LATIN CAPITAL LETTER D WITH DOT ABOVE"),
  (0x1E0B, "LATIN SMALL LETTER D WITH DOT ABOVE;LATIN CAPITAL LETTER D WITH DOT BELOW"),
  (0x1E0D, "LATIN SMALL LETTER D WITH DOT BELOW;LATIN CAPITAL LETTER D WITH LINE BELOW"),
  (0x1E0F, "LATIN SMALL LETTER D WITH LINE BELOW;LATIN CAPITAL LETTER D WITH CEDILLA"),
  (0x1E11, "LATIN SMALL LETTER D WITH CEDILLA;LATIN CAPITAL LETTER D WITH CIRCUMFLEX BELOW"),
  (0x1E13, "LATIN SMALL LETTER D WITH CIRCUMFLEX BELOW"),
  (0x1E14, "LATIN CAPITAL LETTER E WITH MACRON AND GRAVE"),
  (0x1E15, "LATIN SMALL LETTER E WITH MACRON AND GRAVE"),
  (0x1E16, "LATIN CAPITAL LETTER E WITH MACRON AND ACUTE"),
  (0x1E17, "LATIN SMALL LETTER E WITH MACRON AND ACUTE"),
  (0x1E18, "LATIN CAPITAL LETTER E WITH CIRCUMFLEX BELOW"),
  (0x1E19, "LATIN SMALL LETTER E WITH CIRCUMFLEX BELOW;LATIN CAPITAL LETTER E WITH TILDE BELOW"),
  (0x1E1B, "LATIN SMALL LETTER E WITH TILDE BELOW;LATIN CAPITAL LETTER E WITH CEDILLA AND BREVE"),
  (0x1E1D, "LATIN SMALL LETTER E WITH CEDILLA AND BREVE;LATIN CAPITAL LETTER F WITH DOT ABOVE"),
  (0x1E1F, "LATIN SMALL LETTER F WITH DOT ABOVE;LATIN CAPITAL LETTER G WITH MACRON"),
  (0x1E21, "LATIN SMALL LETTER G WITH MACRON;LATIN CAPITAL LETTER H WITH DOT ABOVE"),
  (0x1E23, "LATIN SMALL LETTER H WITH DOT ABOVE;LATIN CAPITAL LETTER H WITH DOT BELOW"),
  (0x1E25, "LATIN SMALL LETTER H WITH DOT BELOW;LATIN CAPITAL LETTER H WITH DIAERESIS"),
  (0x1E27, "LATIN SMALL LETTER H WITH DIAERESIS;LATIN CAPITAL LETTER H WITH CEDILLA"),
  (0x1E29, "LATIN SMALL LETTER H WITH CEDILLA;LATIN CAPITAL LETTER H WITH BREVE BELOW"),
  (0x1E2B, "LATIN SMALL LETTER H WITH BREVE BELOW;LATIN CAPITAL LETTER I WITH TILDE BELOW"),
  (0x1E2D, "LATIN SMALL LETTER I WITH TILDE BELOW;LATIN CAPITAL LETTER I WITH DIAERESIS AND ACUTE"),
  (0x1E2F, "LATIN SMALL LETTER I WITH DIAERESIS AND ACUTE;LATIN CAPITAL LETTER K WITH ACUTE"),
  (0x1E31, "LATIN SMALL LETTER K WITH ACUTE;LATIN CAPITAL LETTER K WITH DOT BELOW"),
  (0x1E33, "LATIN SMALL LETTER K WITH DOT BELOW;LATIN CAPITAL LETTER K WITH LINE BELOW"),
  (0x1E35, "LATIN SMALL LETTER K WITH LINE BELOW;LATIN CAPITAL LETTER L WITH DOT BELOW"),
  (0x1E37, "LATIN SMALL LETTER L WITH DOT BELOW;LATIN CAPITAL LETTER L WITH DOT BELOW AND MACRON"),
  (0x1E39, "LATIN SMALL LETTER L WITH DOT BELOW AND MACRON;LATIN CAPITAL LETTER L WITH LINE BELOW"),
  (0x1E3B, "LATIN SMALL LETTER L WITH LINE BELOW;LATIN CAPITAL LETTER L WITH CIRCUMFLEX BELOW"),
  (0x1E3D, "LATIN SMALL LETTER L WITH CIRCUMFLEX BELOW;LATIN CAPITAL LETTER M WITH ACUTE"),
  (0x1E3F, "LATIN SMALL LETTER M WITH ACUTE;LATIN CAPITAL LETTER M WITH DOT ABOVE"),
  (0x1E41, "LATIN SMALL LETTER M WITH DOT ABOVE;LATIN CAPITAL LETTER M WITH DOT BELOW"),
  (0x1E43, "LATIN SMALL LETTER M WITH DOT BELOW;LATIN CAPITAL LETTER N WITH DOT ABOVE"),
  (0x1E45, "LATIN SMALL LETTER N WITH DOT ABOVE;LATIN CAPITAL LETTER N WITH DOT BELOW"),
  (0x1E47, "LATIN SMALL LETTER N WITH DOT BELOW;LATIN CAPITAL LETTER N WITH LINE BELOW"),
  (0x1E49, "LATIN SMALL LETTER N WITH LINE BELOW;LATIN CAPITAL LETTER N WITH CIRCUMFLEX BELOW"),
  (0x1E4B, "LATIN SMALL LETTER N WITH CIRCUMFLEX BELOW"),
  (0x1E4C, "LATIN CAPITAL LETTER O WITH TILDE AND ACUTE;LATIN SMALL LETTER O WITH TILDE AND ACUTE"),
  (0x1E4E, "LATIN CAPITAL LETTER O WITH TILDE AND DIAERESIS"),
  (0x1E4F, "LATIN SMALL LETTER O WITH TILDE AND DIAERESIS"),
  (0x1E50, "LATIN CAPITAL LETTER O WITH MACRON AND GRAVE"),
  (0x1E51, "LATIN SMALL LETTER O WITH MACRON AND GRAVE"),
  (0x1E52, "LATIN CAPITAL LETTER O WITH MACRON AND ACUTE"),
  (0x1E53, "LATIN SMALL LETTER O WITH MACRON AND ACUTE;LATIN CAPITAL LETTER P WITH ACUTE"),
  (0x1E55, "LATIN SMALL LETTER P WITH ACUTE;LATIN CAPITAL LETTER P WITH DOT ABOVE"),
  (0x1E57, "LATIN SMALL LETTER P WITH DOT ABOVE;LATIN CAPITAL LETTER R WITH DOT ABOVE"),
  (0x1E59, "LATIN SMALL LETTER R WITH DOT ABOVE;LATIN CAPITAL LETTER R WITH DOT BELOW"),
  (0x1E5B, "LATIN SMALL LETTER R WITH DOT BELOW;LATIN CAPITAL LETTER R WITH DOT BELOW AND MACRON"),
  (0x1E5D, "LATIN SMALL LETTER R WITH DOT BELOW AND MACRON;LATIN CAPITAL LETTER R WITH LINE BELOW"),
  (0x1E5F, "LATIN SMALL LETTER R WITH LINE BELOW;LATIN CAPITAL LETTER S WITH DOT ABOVE"),
  (0x1E61, "LATIN SMALL LETTER S WITH DOT ABOVE;LATIN CAPITAL LETTER S WITH DOT BELOW"),
  (0x1E63, "LATIN SMALL LETTER S WITH DOT BELOW;LATIN CAPITAL LETTER S WITH ACUTE AND DOT ABOVE"),
  (0x1E65, "LATIN SMALL LETTER S WITH ACUTE AND DOT ABOVE"),
  (0x1E66, "LATIN CAPITAL LETTER S WITH CARON AND DOT ABOVE"),
  (0x1E67, "LATIN SMALL LETTER S WITH CARON AND DOT ABOVE"),
  (0x1E68, "LATIN CAPITAL LETTER S WITH DOT BELOW AND DOT ABOVE"),
  (0x1E69, "LATIN SMALL LETTER S WITH DOT BELOW AND DOT ABOVE"),
  (0x1E6A, "LATIN CAPITAL LETTER T WITH DOT ABOVE;LATIN SMALL LETTER T WITH DOT ABOVE"),
  (0x1E6C, "LATIN CAPITAL LETTER T WITH DOT BELOW;LATIN SMALL LETTER T WITH DOT BELOW"),
  (0x1E6E, "LATIN CAPITAL LETTER T WITH LINE BELOW;LATIN SMALL LETTER T WITH LINE BELOW"),
  (0x1E70, "LATIN CAPITAL LETTER T WITH CIRCUMFLEX BELOW"),
  (0x1E71, "LATIN SMALL LETTER T WITH CIRCUMFLEX BELOW"),
  (0x1E72, "LATIN CAPITAL LETTER U WITH DIAERESIS BELOW;LATIN SMALL LETTER U WITH DIAERESIS BELOW"),
  (0x1E74, "LATIN CAPITAL LETTER U WITH TILDE BELOW;LATIN SMALL LETTER U WITH TILDE BELOW"),
  (0x1E76, "LATIN CAPITAL LETTER U WITH CIRCUMFLEX BELOW"),
  (0x1E77, "LATIN SMALL LETTER U WITH CIRCUMFLEX BELOW"),
  (0x1E78, "LATIN CAPITAL LETTER U WITH TILDE AND ACUTE;LATIN SMALL LETTER U WITH TILDE AND ACUTE"),
  (0x1E7A, "LATIN CAPITAL LETTER U WITH MACRON AND DIAERESIS"),
  (0x1E7B, "LATIN SMALL LETTER U WITH MACRON AND DIAERESIS;LATIN CAPITAL LETTER V WITH TILDE"),
  (0x1E7D, "LATIN SMALL LETTER V WITH TILDE;LATIN CAPITAL LETTER V WITH DOT BELOW"),
  (0x1E7F, "LATIN SMALL LETTER V WITH DOT BELOW;LATIN CAPITAL LETTER W WITH GRAVE"),
  (0x1E81, "LATIN SMALL LETTER W WITH GRAVE;LATIN CAPITAL LETTER W WITH ACUTE"),
  (0x1E83, "LATIN SMALL LETTER W WITH ACUTE;LATIN CAPITAL LETTER W WITH DIAERESIS"),
  (0x1E85, "LATIN SMALL LETTER W WITH DIAERESIS;LATIN CAPITAL LETTER W WITH DOT ABOVE"),
  (0x1E87, "LATIN SMALL LETTER W WITH DOT ABOVE;LATIN CAPITAL LETTER W WITH DOT BELOW"),
  (0x1E89, "LATIN SMALL LETTER W WITH DOT BELOW;LATIN CAPITAL LETTER X WITH DOT ABOVE"),
  (0x1E8B, "LATIN SMALL LETTER X WITH DOT ABOVE;LATIN CAPITAL LETTER X WITH DIAERESIS"),
  (0x1E8D, "LATIN SMALL LETTER X WITH DIAERESIS;LATIN CAPITAL LETTER Y WITH DOT ABOVE"),
  (0x1E8F, "LATIN SMALL LETTER Y WITH DOT ABOVE;LATIN CAPITAL LETTER Z WITH CIRCUMFLEX"),
  (0x1E91, "LATIN SMALL LETTER Z WITH CIRCUMFLEX;LATIN CAPITAL LETTER Z WITH DOT BELOW"),
  (0x1E93, "LATIN SMALL LETTER Z WITH DOT BELOW;LATIN CAPITAL LETTER Z WITH LINE BELOW"),
  (0x1E95, "LATIN SMALL LETTER Z WITH LINE BELOW;LATIN SMALL LETTER H WITH LINE BELOW"),
  (0x1E97, "LATIN SMALL LETTER T WITH DIAERESIS;LATIN SMALL LETTER W WITH RING ABOVE"),
  (0x1E99, "LATIN SMALL LETTER Y WITH RING ABOVE;LATIN SMALL LETTER A WITH RIGHT HALF RING"),
  (0x1E9B, "LATIN SMALL LETTER LONG S WITH DOT ABOVE"),
  (0x1E9C, "LATIN SMALL LETTER LONG S WITH DIAGONAL STROKE"),
  (0x1E9D, "LATIN SMALL LETTER LONG S WITH HIGH STROKE;LATIN CAPITAL LETTER SHARP S"),
  (0x1E9F, "LATIN SMALL LETTER DELTA;LATIN CAPITAL LETTER A WITH DOT BELOW"),
  (0x1EA1, "LATIN SMALL LETTER A WITH DOT BELOW;LATIN CAPITAL LETTER A WITH HOOK ABOVE"),
  (0x1EA3, "LATIN SMALL LETTER A WITH HOOK ABOVE;LATIN CAPITAL LETTER A WITH CIRCUMFLEX AND ACUTE")]

/-- The names from code point 1EA5 to 1FAB. -/
def letterNamesFrom1EA5 : List (Nat × String) := [
  (0x1EA5, "LATIN SMALL LETTER A WITH CIRCUMFLEX AND ACUTE"),
  (0x1EA6, "LATIN CAPITAL LETTER A WITH CIRCUMFLEX AND GRAVE"),
  (0x1EA7, "LATIN SMALL LETTER A WITH CIRCUMFLEX AND GRAVE"),
  (0x1EA8, "LATIN CAPITAL LETTER A WITH CIRCUMFLEX AND HOOK ABOVE"),
  (0x1EA9, "LATIN SMALL LETTER A WITH CIRCUMFLEX AND HOOK ABOVE"),
  (0x1EAA, "LATIN CAPITAL LETTER A WITH CIRCUMFLEX AND TILDE"),
  (0x1EAB, "LATIN SMALL LETTER A WITH CIRCUMFLEX AND TILDE"),
  (0x1EAC, "LATIN CAPITAL LETTER A WITH CIRCUMFLEX AND DOT BELOW"),
  (0x1EAD, "LATIN SMALL LETTER A WITH CIRCUMFLEX AND DOT BELOW"),
  (0x1EAE, "LATIN CAPITAL LETTER A WITH BREVE AND ACUTE;LATIN SMALL LETTER A WITH BREVE AND ACUTE"),
  (0x1EB0, "LATIN CAPITAL LETTER A WITH BREVE AND GRAVE;LATIN SMALL LETTER A WITH BREVE AND GRAVE"),
  (0x1EB2, "LATIN CAPITAL LETTER A WITH BREVE AND HOOK ABOVE"),
  (0x1EB3, "LATIN SMALL LETTER A WITH BREVE AND HOOK ABOVE"),
  (0x1EB4, "LATIN CAPITAL LETTER A WITH BREVE AND TILDE;LATIN SMALL LETTER A WITH BREVE AND TILDE"),
  (0x1EB6, "LATIN CAPITAL LETTER A WITH BREVE AND DOT BELOW"),
  (0x1EB7, "LATIN SMALL LETTER A WITH BREVE AND DOT BELOW;LATIN CAPITAL LETTER E WITH DOT BELOW"),
  (0x1EB9, "LATIN SMALL LETTER E WITH DOT BELOW;LATIN CAPITAL LETTER E WITH HOOK ABOVE"),
  (0x1EBB, "LATIN SMALL LETTER E WITH HOOK ABOVE;LATIN CAPITAL LETTER E WITH TILDE"),
  (0x1EBD, "LATIN SMALL LETTER E WITH TILDE;LATIN CAPITAL LETTER E WITH CIRCUMFLEX AND ACUTE"),
  (0x1EBF, "LATIN SMALL LETTER E WITH CIRCUMFLEX AND ACUTE"),
  (0x1EC0, "LATIN CAPITAL LETTER E WITH CIRCUMFLEX AND GRAVE"),
  (0x1EC1, "LATIN SMALL LETTER E WITH CIRCUMFLEX AND GRAVE"),
  (0x1EC2, "LATIN CAPITAL LETTER E WITH CIRCUMFLEX AND HOOK ABOVE"),
  (0x1EC3, "LATIN SMALL LETTER E WITH CIRCUMFLEX AND HOOK ABOVE"),
  (0x1EC4, "LATIN CAPITAL LETTER E WITH CIRCUMFLEX AND TILDE"),
  (0x1EC5, "LATIN SMALL LETTER E WITH CIRCUMFLEX AND TILDE"),
  (0x1EC6, "LATIN CAPITAL LETTER E WITH CIRCUMFLEX AND DOT BELOW"),
  (0x1EC7, "LATIN SMALL LETTER E WITH CIRCUMFLEX AND DOT BELOW"),
  (0x1EC8, "LATIN CAPITAL LETTER I WITH HOOK ABOVE;LATIN SMALL LETTER I WITH HOOK ABOVE"),
  (0x1ECA, "LATIN CAPITAL LETTER I WITH DOT BELOW;LATIN SMALL LETTER I WITH DOT BELOW"),
  (0x1ECC, "LATIN CAPITAL LETTER O WITH DOT BELOW;LATIN SMALL LETTER O WITH DOT BELOW"),
  (0x1ECE, "LATIN CAPITAL LETTER O WITH HOOK ABOVE;LATIN SMALL LETTER O WITH HOOK ABOVE"),
  (0x1ED0, "LATIN CAPITAL LETTER O WITH CIRCUMFLEX AND ACUTE"),
  (0x1ED1, "LATIN SMALL LETTER O WITH CIRCUMFLEX AND ACUTE"),
  (0x1ED2, "LATIN CAPITAL LETTER O WITH CIRCUMFLEX AND GRAVE"),
  (0x1ED3, "LATIN SMALL LETTER O WITH CIRCUMFLEX AND GRAVE"),
  (0x1ED4, "LATIN CAPITAL LETTER O WITH CIRCUMFLEX AND HOOK ABOVE"),
  (0x1ED5, "LATIN SMALL LETTER O WITH CIRCUMFLEX AND HOOK ABOVE"),
  (0x1ED6, "LATIN CAPITAL LETTER O WITH CIRCUMFLEX AND TILDE"),
  (0x1ED7, "LATIN SMALL LETTER O WITH CIRCUMFLEX AND TILDE"),
  (0x1ED8, "LATIN CAPITAL LETTER O WITH CIRCUMFLEX AND DOT BELOW"),
  (0x1ED9, "LATIN SMALL LETTER O WITH CIRCUMFLEX AND DOT BELOW"),
  (0x1EDA, "LATIN CAPITAL LETTER O WITH HORN AND ACUTE;LATIN SMALL LETTER O WITH HORN AND ACUTE"),
  (0x1EDC, "LATIN CAPITAL LETTER O WITH HORN AND GRAVE;LATIN SMALL LETTER O WITH HORN AND GRAVE"),
  (0x1EDE, "LATIN CAPITAL LETTER O WITH HORN AND HOOK ABOVE"),
  (0x1EDF, "LATIN SMALL LETTER O WITH HORN AND HOOK ABOVE"),
  (0x1EE0, "LATIN CAPITAL LETTER O WITH HORN AND TILDE;LATIN SMALL LETTER O WITH HORN AND TILDE"),
  (0x1EE2, "LATIN CAPITAL LETTER O WITH HORN AND DOT BELOW"),
  (0x1EE3, "LATIN SMALL LETTER O WITH HORN AND DOT BELOW;LATIN CAPITAL LETTER U WITH DOT BELOW"),
  (0x1EE5, "LATIN SMALL LETTER U WITH DOT BELOW;LATIN CAPITAL LETTER U WITH HOOK ABOVE"),
  (0x1EE7, "LATIN SMALL LETTER U WITH HOOK ABOVE;LATIN CAPITAL LETTER U WITH HORN AND ACUTE"),
  (0x1EE9, "LATIN SMALL LETTER U WITH HORN AND ACUTE;LATIN CAPITAL LETTER U WITH HORN AND GRAVE"),
  (0x1EEB, "LATIN SMALL LETTER U WITH HORN AND GRAVE"),
  (0x1EEC, "LATIN CAPITAL LETTER U WITH HORN AND HOOK ABOVE"),
  (0x1EED, "LATIN SMALL LETTER U WITH HORN AND HOOK ABOVE"),
  (0x1EEE, "LATIN CAPITAL LETTER U WITH HORN AND TILDE;LATIN SMALL LETTER U WITH HORN AND TILDE"),
  (0x1EF0, "LATIN CAPITAL LETTER U WITH HORN AND DOT BELOW"),
  (0x1EF1, "LATIN SMALL LETTER U WITH HORN AND DOT BELOW;LATIN CAPITAL LETTER Y WITH GRAVE"),
  (0x1EF3, "LATIN SMALL LETTER Y WITH GRAVE;LATIN CAPITAL LETTER Y WITH DOT BELOW"),
  (0x1EF5, "LATIN SMALL LETTER Y WITH DOT BELOW;LATIN CAPITAL LETTER Y WITH HOOK ABOVE"),
  (0x1EF7, "LATIN SMALL LETTER Y WITH HOOK ABOVE;LATIN CAPITAL LETTER Y WITH TILDE"),
  (0x1EF9, "LATIN SMALL LETTER Y WITH TILDE;LATIN CAPITAL LETTER MIDDLE-WELSH LL"),
  (0x1EFB, "LATIN SMALL LETTER MIDDLE-WELSH LL;LATIN CAPITAL LETTER MIDDLE-WELSH V"),
  (0x1EFD, "LATIN SMALL LETTER MIDDLE-WELSH V;LATIN CAPITAL LETTER Y WITH LOOP"),
  (0x1EFF, "LATIN SMALL LETTER Y WITH LOOP;GREEK SMALL LETTER ALPHA WITH PSILI"),
  (0x1F01, "GREEK SMALL LETTER ALPHA WITH DASIA;GREEK SMALL LETTER ALPHA WITH PSILI AND VARIA"),
  (0x1F03, "GREEK SMALL LETTER ALPHA WITH DASIA AND VARIA"),
  (0x1F04, "GREEK SMALL LETTER ALPHA WITH PSILI AND OXIA"),
  (0x1F05, "GREEK SMALL LETTER ALPHA WITH DASIA AND OXIA"),
  (0x1F06, "GREEK SMALL LETTER ALPHA WITH PSILI AND PERISPOMENI"),
  (0x1F07, "GREEK SMALL LETTER ALPHA WITH DASIA AND PERISPOMENI"),
  (0x1F08, "GREEK CAPITAL LETTER ALPHA WITH PSILI;GREEK CAPITAL LETTER ALPHA WITH DASIA"),
  (0x1F0A, "GREEK CAPITAL LETTER ALPHA WITH PSILI AND VARIA"),
  (0x1F0B, "GREEK CAPITAL LETTER ALPHA WITH DASIA AND VARIA"),
  (0x1F0C, "GREEK CAPITAL LETTER ALPHA WITH PSILI AND OXIA"),
  (0x1F0D, "GREEK CAPITAL LETTER ALPHA WITH DASIA AND OXIA"),
  (0x1F0E, "GREEK CAPITAL LETTER ALPHA WITH PSILI AND PERISPOMENI"),
  (0x1F0F, "GREEK CAPITAL LETTER ALPHA WITH DASIA AND PERISPOMENI"),
  (0x1F10, "GREEK SMALL LETTER EPSILON WITH PSILI;GREEK SMALL LETTER EPSILON WITH DASIA"),
  (0x1F12, "GREEK SMALL LETTER EPSILON WITH PSILI AND VARIA"),
  (0x1F13, "GREEK SMALL LETTER EPSILON WITH DASIA AND VARIA"),
  (0x1F14, "GREEK SMALL LETTER EPSILON WITH PSILI AND OXIA"),
  (0x1F15, "GREEK SMALL LETTER EPSILON WITH DASIA AND OXIA"),
  (0x1F18, "GREEK CAPITAL LETTER EPSILON WITH PSILI;GREEK CAPITAL LETTER EPSILON WITH DASIA"),
  (0x1F1A, "GREEK CAPITAL LETTER EPSILON WITH PSILI AND VARIA"),
  (0x1F1B, "GREEK CAPITAL LETTER EPSILON WITH DASIA AND VARIA"),
  (0x1F1C, "GREEK CAPITAL LETTER EPSILON WITH PSILI AND OXIA"),
  (0x1F1D, "GREEK CAPITAL LETTER EPSILON WITH DASIA AND OXIA"),
  (0x1F20, "GREEK SMALL LETTER ETA WITH PSILI;GREEK SMALL LETTER ETA WITH DASIA"),
  (0x1F22, "GREEK SMALL LETTER ETA WITH PSILI AND VARIA"),
  (0x1F23, "GREEK SMALL LETTER ETA WITH DASIA AND VARIA"),
  (0x1F24, "GREEK SMALL LETTER ETA WITH PSILI AND OXIA;GREEK SMALL LETTER ETA WITH DASIA AND OXIA"),
  (0x1F26, "GREEK SMALL LETTER ETA WITH PSILI AND PERISPOMENI"),
  (0x1F27, "GREEK SMALL LETTER ETA WITH DASIA AND PERISPOMENI;GREEK CAPITAL LETTER ETA WITH PSILI"),
  (0x1F29, "GREEK CAPITAL LETTER ETA WITH DASIA;GREEK CAPITAL LETTER ETA WITH PSILI AND VARIA"),
  (0x1F2B, "GREEK CAPITAL LETTER ETA WITH DASIA AND VARIA"),
  (0x1F2C, "GREEK CAPITAL LETTER ETA WITH PSILI AND OXIA"),
  (0x1F2D, "GREEK CAPITAL LETTER ETA WITH DASIA AND OXIA"),
  (0x1F2E, "GREEK CAPITAL LETTER ETA WITH PSILI AND PERISPOMENI"),
  (0x1F2F, "GREEK CAPITAL LETTER ETA WITH DASIA AND PERISPOMENI"),
  (0x1F30, "GREEK SMALL LETTER IOTA WITH PSILI;GREEK SMALL LETTER IOTA WITH DASIA"),
  (0x1F32, "GREEK SMALL LETTER IOTA WITH PSILI AND VARIA"),
  (0x1F33, "GREEK SMALL LETTER IOTA WITH DASIA AND VARIA"),
  (0x1F34, "GREEK SMALL LETTER IOTA WITH PSILI AND OXIA"),
  (0x1F35, "GREEK SMALL LETTER IOTA WITH DASIA AND OXIA"),
  (0x1F36, "GREEK SMALL LETTER IOTA WITH PSILI AND PERISPOMENI"),
  (0x1F37, "GREEK SMALL LETTER IOTA WITH DASIA AND PERISPOMENI"),
  (0x1F38, "GREEK CAPITAL LETTER IOTA WITH PSILI;GREEK CAPITAL LETTER IOTA WITH DASIA"),
  (0x1F3A, "GREEK CAPITAL LETTER IOTA WITH PSILI AND VARIA"),
  (0x1F3B, "GREEK CAPITAL LETTER IOTA WITH DASIA AND VARIA"),
  (0x1F3C, "GREEK CAPITAL LETTER IOTA WITH PSILI AND OXIA"),
  (0x1F3D, "GREEK CAPITAL LETTER IOTA WITH DASIA AND OXIA"),
  (0x1F3E, "GREEK CAPITAL LETTER IOTA WITH PSILI AND PERISPOMENI"),
  (0x1F3F, "GREEK CAPITAL LETTER IOTA WITH DASIA AND PERISPOMENI"),
  (0x1F40, "GREEK SMALL LETTER OMICRON WITH PSILI;GREEK SMALL LETTER OMICRON WITH DASIA"),
  (0x1F42, "GREEK SMALL LETTER OMICRON WITH PSILI AND VARIA"),
  (0x1F43, "GREEK SMALL LETTER OMICRON WITH DASIA AND VARIA"),
  (0x1F44, "GREEK SMALL LETTER OMICRON WITH PSILI AND OXIA"),
  (0x1F45, "GREEK SMALL LETTER OMICRON WITH DASIA AND OXIA"),
  (0x1F48, "GREEK CAPITAL LETTER OMICRON WITH PSILI;GREEK CAPITAL LETTER OMICRON WITH DASIA"),
  (0x1F4A, "GREEK CAPITAL LETTER OMICRON WITH PSILI AND VARIA"),
  (0x1F4B, "GREEK CAPITAL LETTER OMICRON WITH DASIA AND VARIA"),
  (0x1F4C, "GREEK CAPITAL LETTER OMICRON WITH PSILI AND OXIA"),
  (0x1F4D, "GREEK CAPITAL LETTER OMICRON WITH DASIA AND OXIA"),
  (0x1F50, "GREEK SMALL LETTER UPSILON WITH PSILI;GREEK SMALL LETTER UPSILON WITH DASIA"),
  (0x1F52, "GREEK SMALL LETTER UPSILON WITH PSILI AND VARIA"),
  (0x1F53, "GREEK SMALL LETTER UPSILON WITH DASIA AND VARIA"),
  (0x1F54, "GREEK SMALL LETTER UPSILON WITH PSILI AND OXIA"),
  (0x1F55, "GREEK SMALL LETTER UPSILON WITH DASIA AND OXIA"),
  (0x1F56, "GREEK SMALL LETTER UPSILON WITH PSILI AND PERISPOMENI"),
  (0x1F57, "GREEK SMALL LETTER UPSILON WITH DASIA AND PERISPOMENI"),
  (0x1F59, "GREEK CAPITAL LETTER UPSILON WITH DASIA"),
  (0x1F5B, "GREEK CAPITAL LETTER UPSILON WITH DASIA AND VARIA"),
  (0x1F5D, "GREEK CAPITAL LETTER UPSILON WITH DASIA AND OXIA"),
  (0x1F5F, "GREEK CAPITAL LETTER UPSILON WITH DASIA AND PERISPOMENI"),
  (0x1F60, "GREEK SMALL LETTER OMEGA WITH PSILI;GREEK SMALL LETTER OMEGA WITH DASIA"),
  (0x1F62, "GREEK SMALL LETTER OMEGA WITH PSILI AND VARIA"),
  (0x1F63, "GREEK SMALL LETTER OMEGA WITH DASIA AND VARIA"),
  (0x1F64, "GREEK SMALL LETTER OMEGA WITH PSILI AND OXIA"),
  (0x1F65, "GREEK SMALL LETTER OMEGA WITH DASIA AND OXIA"),
  (0x1F66, "GREEK SMALL LETTER OMEGA WITH PSILI AND PERISPOMENI"),
  (0x1F67, "GREEK SMALL LETTER OMEGA WITH DASIA AND PERISPOMENI"),
  (0x1F68, "GREEK CAPITAL LETTER OMEGA WITH PSILI;GREEK CAPITAL LETTER OMEGA WITH DASIA"),
  (0x1F6A, "GREEK CAPITAL LETTER OMEGA WITH PSILI AND VARIA"),
  (0x1F6B, "GREEK CAPITAL LETTER OMEGA WITH DASIA AND VARIA"),
  (0x1F6C, "GREEK CAPITAL LETTER OMEGA WITH PSILI AND OXIA"),
  (0x1F6D, "GREEK CAPITAL LETTER OMEGA WITH DASIA AND OXIA"),
  (0x1F6E, "GREEK CAPITAL LETTER OMEGA WITH PSILI AND PERISPOMENI"),
  (0x1F6F, "GREEK CAPITAL LETTER OMEGA WITH DASIA AND PERISPOMENI"),
  (0x1F70, "GREEK SMALL LETTER ALPHA WITH VARIA;GREEK SMALL LETTER ALPHA WITH OXIA"),
  (0x1F72, "GREEK SMALL LETTER EPSILON WITH VARIA;GREEK SMALL LETTER EPSILON WITH OXIA"),
  (0x1F74, "GREEK SMALL LETTER ETA WITH VARIA;GREEK SMALL LETTER ETA WITH OXIA"),
  (0x1F76, "GREEK SMALL LETTER IOTA WITH VARIA;GREEK SMALL LETTER IOTA WITH OXIA"),
  (0x1F78, "GREEK SMALL LETTER OMICRON WITH VARIA;GREEK SMALL LETTER OMICRON WITH OXIA"),
  (0x1F7A, "GREEK SMALL LETTER UPSILON WITH VARIA;GREEK SMALL LETTER UPSILON WITH OXIA"),
  (0x1F7C, "GREEK SMALL LETTER OMEGA WITH VARIA;GREEK SMALL LETTER OMEGA WITH OXIA"),
  (0x1F80, "GREEK SMALL LETTER ALPHA WITH PSILI AND YPOGEGRAMMENI"),
  (0x1F81, "GREEK SMALL LETTER ALPHA WITH DASIA AND YPOGEGRAMMENI"),
  (0x1F82, "GREEK SMALL LETTER ALPHA WITH PSILI AND VARIA AND YPOGEGRAMMENI"),
  (0x1F83, "GREEK SMALL LETTER ALPHA WITH DASIA AND VARIA AND YPOGEGRAMMENI"),
  (0x1F84, "GREEK SMALL LETTER ALPHA WITH PSILI AND OXIA AND YPOGEGRAMMENI"),
  (0x1F85, "GREEK SMALL LETTER ALPHA WITH DASIA AND OXIA AND YPOGEGRAMMENI"),
  (0x1F86, "GREEK SMALL LETTER ALPHA WITH PSILI AND PERISPOMENI AND YPOGEGRAMMENI"),
  (0x1F87, "GREEK SMALL LETTER ALPHA WITH DASIA AND PERISPOMENI AND YPOGEGRAMMENI"),
  (0x1F88, "GREEK CAPITAL LETTER ALPHA WITH PSILI AND PROSGEGRAMMENI"),
  (0x1F89, "GREEK CAPITAL LETTER ALPHA WITH DASIA AND PROSGEGRAMMENI"),
  (0x1F8A, "GREEK CAPITAL LETTER ALPHA WITH PSILI AND VARIA AND PROSGEGRAMMENI"),
  (0x1F8B, "GREEK CAPITAL LETTER ALPHA WITH DASIA AND VARIA AND PROSGEGRAMMENI"),
  (0x1F8C, "GREEK CAPITAL LETTER ALPHA WITH PSILI AND OXIA AND PROSGEGRAMMENI"),
  (0x1F8D, "GREEK CAPITAL LETTER ALPHA WITH DASIA AND OXIA AND PROSGEGRAMMENI"),
  (0x1F8E, "GREEK CAPITAL LETTER ALPHA WITH PSILI AND PERISPOMENI AND PROSGEGRAMMENI"),
  (0x1F8F, "GREEK CAPITAL LETTER ALPHA WITH DASIA AND PERISPOMENI AND PROSGEGRAMMENI"),
  (0x1F90, "GREEK SMALL LETTER ETA WITH PSILI AND YPOGEGRAMMENI"),
  (0x1F91, "GREEK SMALL LETTER ETA WITH DASIA AND YPOGEGRAMMENI"),
  (0x1F92, "GREEK SMALL LETTER ETA WITH PSILI AND VARIA AND YPOGEGRAMMENI"),
  (0x1F93, "GREEK SMALL LETTER ETA WITH DASIA AND VARIA AND YPOGEGRAMMENI"),
  (0x1F94, "GREEK SMALL LETTER ETA WITH PSILI AND OXIA AND YPOGEGRAMMENI"),
  (0x1F95, "GREEK SMALL LETTER ETA WITH DASIA AND OXIA AND YPOGEGRAMMENI"),
  (0x1F96, "GREEK SMALL LETTER ETA WITH PSILI AND PERISPOMENI AND YPOGEGRAMMENI"),
  (0x1F97, "GREEK SMALL LETTER ETA WITH DASIA AND PERISPOMENI AND YPOGEGRAMMENI"),
  (0x1F98, "GREEK CAPITAL LETTER ETA WITH PSILI AND PROSGEGRAMMENI"),
  (0x1F99, "GREEK CAPITAL LETTER ETA WITH DASIA AND PROSGEGRAMMENI"),
  (0x1F9A, "GREEK CAPITAL LETTER ETA WITH PSILI AND VARIA AND PROSGEGRAMMENI"),
  (0x1F9B, "GREEK CAPITAL LETTER ETA WITH DASIA AND VARIA AND PROSGEGRAMMENI"),
  (0x1F9C, "GREEK CAPITAL LETTER ETA WITH PSILI AND OXIA AND PROSGEGRAMMENI"),
  (0x1F9D, "GREEK CAPITAL LETTER ETA WITH DASIA AND OXIA AND PROSGEGRAMMENI"),
  (0x1F9E, "GREEK CAPITAL LETTER ETA WITH PSILI AND PERISPOMENI AND PROSGEGRAMMENI"),
  (0x1F9F, "GREEK CAPITAL LETTER ETA WITH DASIA AND PERISPOMENI AND PROSGEGRAMMENI"),
  (0x1FA0, "GREEK SMALL LETTER OMEGA WITH PSILI AND YPOGEGRAMMENI"),
  (0x1FA1, "GREEK SMALL LETTER OMEGA WITH DASIA AND YPOGEGRAMMENI"),
  (0x1FA2, "GREEK SMALL LETTER OMEGA WITH PSILI AND VARIA AND YPOGEGRAMMENI"),
  (0x1FA3, "GREEK SMALL LETTER OMEGA WITH DASIA AND VARIA AND YPOGEGRAMMENI"),
  (0x1FA4, "GREEK SMALL LETTER OMEGA WITH PSILI AND OXIA AND YPOGEGRAMMENI"),
  (0x1FA5, "GREEK SMALL LETTER OMEGA WITH DASIA AND OXIA AND YPOGEGRAMMENI"),
  (0x1FA6, "GREEK SMALL LETTER OMEGA WITH PSILI AND PERISPOMENI AND YPOGEGRAMMENI"),
  (0x1FA7, "GREEK SMALL LETTER OMEGA WITH DASIA AND PERISPOMENI AND YPOGEGRAMMENI"),
  (0x1FA8, "GREEK CAPITAL LETTER OMEGA WITH PSILI AND PROSGEGRAMMENI"),
  (0x1FA9, "GREEK CAPITAL LETTER OMEGA WITH DASIA AND PROSGEGRAMMENI"),
  (0x1FAA, "GREEK CAPITAL LETTER OMEGA WITH PSILI AND VARIA AND PROSGEGRAMMENI"),
  (0x1FAB, "GREEK CAPITAL LETTER OMEGA WITH DASIA AND VARIA AND PROSGEGRAMMENI")]

/-- The names from code point 1FAC to 1FFE. -/
def letterNamesFrom1FAC : List (Nat × String) := [
  (0x1FAC, "GREEK CAPITAL LETTER OMEGA WITH PSILI AND OXIA AND PROSGEGRAMMENI"),
  (0x1FAD, "GREEK CAPITAL LETTER OMEGA WITH DASIA AND OXIA AND PROSGEGRAMMENI"),
  (0x1FAE, "GREEK CAPITAL LETTER OMEGA WITH PSILI AND PERISPOMENI AND PROSGEGRAMMENI"),
  (0x1FAF, "GREEK CAPITAL LETTER OMEGA WITH DASIA AND PERISPOMENI AND PROSGEGRAMMENI"),
  (0x1FB0, "GREEK SMALL LETTER ALPHA WITH VRACHY;GREEK SMALL LETTER ALPHA WITH MACRON"),
  (0x1FB2, "GREEK SMALL LETTER ALPHA WITH VARIA AND YPOGEGRAMMENI"),
  (0x1FB3, "GREEK SMALL LETTER ALPHA WITH YPOGEGRAMMENI"),
  (0x1FB4, "GREEK SMALL LETTER ALPHA WITH OXIA AND YPOGEGRAMMENI"),
  (0x1FB6, "GREEK SMALL LETTER ALPHA WITH PERISPOMENI"),
  (0x1FB7, "GREEK SMALL LETTER ALPHA WITH PERISPOMENI AND YPOGEGRAMMENI"),
  (0x1FB8, "GREEK CAPITAL LETTER ALPHA WITH VRACHY;GREEK CAPITAL LETTER ALPHA WITH MACRON"),
  (0x1FBA, "GREEK CAPITAL LETTER ALPHA WITH VARIA;GREEK CAPITAL LETTER ALPHA WITH OXIA"),
  (0x1FBC, "GREEK CAPITAL LETTER ALPHA WITH PROSGEGRAMMENI;GREEK KORONIS;GREEK PROSGEGRAMMENI"),
  (0x1FBF, "GREEK PSILI;GREEK PERISPOMENI;GREEK DIALYTIKA AND PERISPOMENI"),
  (0x1FC2, "GREEK SMALL LETTER ETA WITH VARIA AND YPOGEGRAMMENI"),
  (0x1FC3, "GREEK SMALL LETTER ETA WITH YPOGEGRAMMENI"),
  (0x1FC4, "GREEK SMALL LETTER ETA WITH OXIA AND YPOGEGRAMMENI"),
  (0x1FC6, "GREEK SMALL LETTER ETA WITH PERISPOMENI"),
  (0x1FC7, "GREEK SMALL LETTER ETA WITH PERISPOMENI AND YPOGEGRAMMENI"),
  (0x1FC8, "GREEK CAPITAL LETTER EPSILON WITH VARIA;GREEK CAPITAL LETTER EPSILON WITH OXIA"),
  (0x1FCA, "GREEK CAPITAL LETTER ETA WITH VARIA;GREEK CAPITAL LETTER ETA WITH OXIA"),
  (0x1FCC, "GREEK CAPITAL LETTER ETA WITH PROSGEGRAMMENI;GREEK PSILI AND VARIA"),
  (0x1FCE, "GREEK PSILI AND OXIA;GREEK PSILI AND PERISPOMENI;GREEK SMALL LETTER IOTA WITH VRACHY"),
  (0x1FD1, "GREEK SMALL LETTER IOTA WITH MACRON;GREEK SMALL LETTER IOTA WITH DIALYTIKA AND VARIA"),
  (0x1FD3, "GREEK SMALL LETTER IOTA WITH DIALYTIKA AND OXIA"),
  (0x1FD6, "GREEK SMALL LETTER IOTA WITH PERISPOMENI"),
  (0x1FD7, "GREEK SMALL LETTER IOTA WITH DIALYTIKA AND PERISPOMENI"),
  (0x1FD8, "GREEK CAPITAL LETTER IOTA WITH VRACHY;GREEK CAPITAL LETTER IOTA WITH MACRON"),
  (0x1FDA, "GREEK CAPITAL LETTER IOTA WITH VARIA;GREEK CAPITAL LETTER IOTA WITH OXIA"),
  (0x1FDD, "GREEK DASIA AND VARIA;GREEK DASIA AND OXIA;GREEK DASIA AND PERISPOMENI"),
  (0x1FE0, "GREEK SMALL LETTER UPSILON WITH VRACHY;GREEK SMALL LETTER UPSILON WITH MACRON"),
  (0x1FE2, "GREEK SMALL LETTER UPSILON WITH DIALYTIKA AND VARIA"),
  (0x1FE3, "GREEK SMALL LETTER UPSILON WITH DIALYTIKA AND OXIA;GREEK SMALL LETTER RHO WITH PSILI"),
  (0x1FE5, "GREEK SMALL LETTER RHO WITH DASIA;GREEK SMALL LETTER UPSILON WITH PERISPOMENI"),
  (0x1FE7, "GREEK SMALL LETTER UPSILON WITH DIALYTIKA AND PERISPOMENI"),
  (0x1FE8, "GREEK CAPITAL LETTER UPSILON WITH VRACHY;GREEK CAPITAL LETTER UPSILON WITH MACRON"),
  (0x1FEA, "GREEK CAPITAL LETTER UPSILON WITH VARIA;GREEK CAPITAL LETTER UPSILON WITH OXIA"),
  (0x1FEC, "GREEK CAPITAL LETTER RHO WITH DASIA;GREEK DIALYTIKA AND VARIA"),
  (0x1FEE, "GREEK DIALYTIKA AND OXIA;GREEK VARIA"),
  (0x1FF2, "GREEK SMALL LETTER OMEGA WITH VARIA AND YPOGEGRAMMENI"),
  (0x1FF3, "GREEK SMALL LETTER OMEGA WITH YPOGEGRAMMENI"),
  (0x1FF4, "GREEK SMALL LETTER OMEGA WITH OXIA AND YPOGEGRAMMENI"),
  (0x1FF6, "GREEK SMALL LETTER OMEGA WITH PERISPOMENI"),
  (0x1FF7, "GREEK SMALL LETTER OMEGA WITH PERISPOMENI AND YPOGEGRAMMENI"),
  (0x1FF8, "GREEK CAPITAL LETTER OMICRON WITH VARIA;GREEK CAPITAL LETTER OMICRON WITH OXIA"),
  (0x1FFA, "GREEK CAPITAL LETTER OMEGA WITH VARIA;GREEK CAPITAL LETTER OMEGA WITH OXIA"),
  (0x1FFC, "GREEK CAPITAL LETTER OMEGA WITH PROSGEGRAMMENI;GREEK OXIA;GREEK DASIA")]

end Winnow.Unicode
