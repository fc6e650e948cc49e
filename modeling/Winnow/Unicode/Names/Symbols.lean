/-!
# Names of signs and symbols

Each row gives the names of characters with consecutive code points, the first one being the number
of the row.
-/

namespace Winnow.Unicode

/-- The names from code point 2000 to 22CB. -/
def symbolNamesFrom2000 : List (Nat × String) := [
  (0x2000, "EN QUAD;EM QUAD;EN SPACE;EM SPACE;THREE-PER-EM SPACE;FOUR-PER-EM SPACE"),
  (0x2006, "SIX-PER-EM SPACE;FIGURE SPACE;PUNCTUATION SPACE;THIN SPACE;HAIR SPACE"),
  (0x200B, "ZERO WIDTH SPACE;ZERO WIDTH NON-JOINER;ZERO WIDTH JOINER;LEFT-TO-RIGHT MARK"),
  (0x200F, "RIGHT-TO-LEFT MARK;HYPHEN;NON-BREAKING HYPHEN;FIGURE DASH;EN DASH;EM DASH"),
  (0x2015, "HORIZONTAL BAR;DOUBLE VERTICAL LINE;DOUBLE LOW LINE;LEFT SINGLE QUOTATION MARK"),
  (0x2019, "RIGHT SINGLE QUOTATION MARK;SINGLE LOW-9 QUOTATION MARK"),
  (0x201B, "SINGLE HIGH-REVERSED-9 QUOTATION MARK;LEFT DOUBLE QUOTATION MARK"),
  (0x201D, "RIGHT DOUBLE QUOTATION MARK;DOUBLE LOW-9 QUOTATION MARK"),
  (0x201F, "DOUBLE HIGH-REVERSED-9 QUOTATION MARK;DAGGER;DOUBLE DAGGER;BULLET;TRIANGULAR BULLET"),
  (0x2024, "ONE DOT LEADER;TWO DOT LEADER;HORIZONTAL ELLIPSIS;HYPHENATION POINT;LINE SEPARATOR"),
  (0x2029, "PARAGRAPH SEPARATOR;LEFT-TO-RIGHT EMBEDDING;RIGHT-TO-LEFT EMBEDDING"),
  (0x202C, "POP DIRECTIONAL FORMATTING;LEFT-TO-RIGHT OVERRIDE;RIGHT-TO-LEFT OVERRIDE"),
  (0x202F, "NARROW NO-BREAK SPACE;PER MILLE SIGN;PER TEN THOUSAND SIGN;PRIME;DOUBLE PRIME"),
  (0x2034, "TRIPLE PRIME;REVERSED PRIME;REVERSED DOUBLE PRIME;REVERSED TRIPLE PRIME;CARET"),
  (0x2039, "SINGLE LEFT-POINTING ANGLE QUOTATION MARK;SINGLE RIGHT-POINTING ANGLE QUOTATION MARK"),
  (0x203B, "REFERENCE MARK;DOUBLE EXCLAMATION MARK;INTERROBANG;OVERLINE;UNDERTIE;CHARACTER TIE"),
  (0x2041, "CARET INSERTION POINT;ASTERISM;HYPHEN BULLET;FRACTION SLASH"),
  (0x2045, "LEFT SQUARE BRACKET WITH QUILL;RIGHT SQUARE BRACKET WITH QUILL;DOUBLE QUESTION MARK"),
  (0x2048, "QUESTION EXCLAMATION MARK;EXCLAMATION QUESTION MARK;TIRONIAN SIGN ET"),
  (0x204B, "REVERSED PILCROW SIGN;BLACK LEFTWARDS BULLET;BLACK RIGHTWARDS BULLET;LOW ASTERISK"),
  (0x204F, "REVERSED SEMICOLON;CLOSE UP;TWO ASTERISKS ALIGNED VERTICALLY;COMMERCIAL MINUS SIGN"),
  (0x2053, "SWUNG DASH;INVERTED UNDERTIE;FLOWER PUNCTUATION MARK;THREE DOT PUNCTUATION"),
  (0x2057, "QUADRUPLE PRIME;FOUR DOT PUNCTUATION;FIVE DOT PUNCTUATION;TWO DOT PUNCTUATION"),
  (0x205B, "FOUR DOT MARK;DOTTED CROSS;TRICOLON;VERTICAL FOUR DOTS;MEDIUM MATHEMATICAL SPACE"),
  (0x2060, "WORD JOINER;FUNCTION APPLICATION;INVISIBLE TIMES;INVISIBLE SEPARATOR;INVISIBLE PLUS"),
  (0x2066, "LEFT-TO-RIGHT ISOLATE;RIGHT-TO-LEFT ISOLATE;FIRST STRONG ISOLATE"),
  (0x2069, "POP DIRECTIONAL ISOLATE;INHIBIT SYMMETRIC SWAPPING;ACTIVATE SYMMETRIC SWAPPING"),
  (0x206C, "INHIBIT ARABIC FORM SHAPING;ACTIVATE ARABIC FORM SHAPING;NATIONAL DIGIT SHAPES"),
  (0x206F, "NOMINAL DIGIT SHAPES;SUPERSCRIPT ZERO;SUPERSCRIPT LATIN SMALL LETTER I"),
  (0x2074, "SUPERSCRIPT FOUR;SUPERSCRIPT FIVE;SUPERSCRIPT SIX;SUPERSCRIPT SEVEN;SUPERSCRIPT EIGHT"),
  (0x2079, "SUPERSCRIPT NINE;SUPERSCRIPT PLUS SIGN;SUPERSCRIPT MINUS;SUPERSCRIPT EQUALS SIGN"),
  (0x207D, "SUPERSCRIPT LEFT PARENTHESIS;SUPERSCRIPT RIGHT PARENTHESIS"),
  (0x207F, "SUPERSCRIPT LATIN SMALL LETTER N;SUBSCRIPT ZERO;SUBSCRIPT ONE;SUBSCRIPT TWO"),
  (0x2083, "SUBSCRIPT THREE;SUBSCRIPT FOUR;SUBSCRIPT FIVE;SUBSCRIPT SIX;SUBSCRIPT SEVEN"),
  (0x2088, "SUBSCRIPT EIGHT;SUBSCRIPT NINE;SUBSCRIPT PLUS SIGN;SUBSCRIPT MINUS"),
  (0x208C, "SUBSCRIPT EQUALS SIGN;SUBSCRIPT LEFT PARENTHESIS;SUBSCRIPT RIGHT PARENTHESIS"),
  (0x2090, "LATIN SUBSCRIPT SMALL LETTER A;LATIN SUBSCRIPT SMALL LETTER E"),
  (0x2092, "LATIN SUBSCRIPT SMALL LETTER O;LATIN SUBSCRIPT SMALL LETTER X"),
  (0x2094, "LATIN SUBSCRIPT SMALL LETTER SCHWA;LATIN SUBSCRIPT SMALL LETTER H"),
  (0x2096, "LATIN SUBSCRIPT SMALL LETTER K;LATIN SUBSCRIPT SMALL LETTER L"),
  (0x2098, "LATIN SUBSCRIPT SMALL LETTER M;LATIN SUBSCRIPT SMALL LETTER N"),
  (0x209A, "LATIN SUBSCRIPT SMALL LETTER P;LATIN SUBSCRIPT SMALL LETTER S"),
  (0x209C, "LATIN SUBSCRIPT SMALL LETTER T"),
  (0x20A0, "EURO-CURRENCY SIGN;COLON SIGN;CRUZEIRO SIGN;FRENCH FRANC SIGN;LIRA SIGN;MILL SIGN"),
  (0x20A6, "NAIRA SIGN;PESETA SIGN;RUPEE SIGN;WON SIGN;NEW SHEQEL SIGN;DONG SIGN;EURO SIGN"),
  (0x20AD, "KIP SIGN;TUGRIK SIGN;DRACHMA SIGN;GERMAN PENNY SIGN;PESO SIGN;GUARANI SIGN"),
  (0x20B3, "AUSTRAL SIGN;HRYVNIA SIGN;CEDI SIGN;LIVRE TOURNOIS SIGN;SPESMILO SIGN;TENGE SIGN"),
  (0x20B9, "INDIAN RUPEE SIGN;TURKISH LIRA SIGN;NORDIC MARK SIGN;MANAT SIGN;RUBLE SIGN;LARI SIGN"),
  (0x20BF, "BITCOIN SIGN;SOM SIGN"),
  (0x20D0, "COMBINING LEFT HARPOON ABOVE;COMBINING RIGHT HARPOON ABOVE"),
  (0x20D2, "COMBINING LONG VERTICAL LINE OVERLAY;COMBINING SHORT VERTICAL LINE OVERLAY"),
  (0x20D4, "COMBINING ANTICLOCKWISE ARROW ABOVE;COMBINING CLOCKWISE ARROW ABOVE"),
  (0x20D6, "COMBINING LEFT ARROW ABOVE;COMBINING RIGHT ARROW ABOVE;COMBINING RING OVERLAY"),
  (0x20D9, "COMBINING CLOCKWISE RING OVERLAY;COMBINING ANTICLOCKWISE RING OVERLAY"),
  (0x20DB, "COMBINING THREE DOTS ABOVE;COMBINING FOUR DOTS ABOVE;COMBINING ENCLOSING CIRCLE"),
  (0x20DE, "COMBINING ENCLOSING SQUARE;COMBINING ENCLOSING DIAMOND"),
  (0x20E0, "COMBINING ENCLOSING CIRCLE BACKSLASH;COMBINING LEFT RIGHT ARROW ABOVE"),
  (0x20E2, "COMBINING ENCLOSING SCREEN;COMBINING ENCLOSING KEYCAP"),
  (0x20E4, "COMBINING ENCLOSING UPWARD POINTING TRIANGLE;COMBINING REVERSE SOLIDUS OVERLAY"),
  (0x20E6, "COMBINING DOUBLE VERTICAL STROKE OVERLAY;COMBINING ANNUITY SYMBOL"),
  (0x20E8, "COMBINING TRIPLE UNDERDOT;COMBINING WIDE BRIDGE ABOVE"),
  (0x20EA, "COMBINING LEFTWARDS ARROW OVERLAY;COMBINING LONG DOUBLE SOLIDUS OVERLAY"),
  (0x20EC, "COMBINING RIGHTWARDS HARPOON WITH BARB DOWNWARDS"),
  (0x20ED, "COMBINING LEFTWARDS HARPOON WITH BARB DOWNWARDS;COMBINING LEFT ARROW BELOW"),
  (0x20EF, "COMBINING RIGHT ARROW BELOW;COMBINING ASTERISK ABOVE"),
  (0x2100, "ACCOUNT OF;ADDRESSED TO THE SUBJECT;DOUBLE-STRUCK CAPITAL C;DEGREE CELSIUS"),
  (0x2104, "CENTRE LINE SYMBOL;CARE OF;CADA UNA;EULER CONSTANT;SCRUPLE;DEGREE FAHRENHEIT"),
  (0x210A, "SCRIPT SMALL G;SCRIPT CAPITAL H;BLACK-LETTER CAPITAL H;DOUBLE-STRUCK CAPITAL H"),
  (0x210E, "PLANCK CONSTANT;PLANCK CONSTANT OVER TWO PI;SCRIPT CAPITAL I;BLACK-LETTER CAPITAL I"),
  (0x2112, "SCRIPT CAPITAL L;SCRIPT SMALL L;L B BAR SYMBOL;DOUBLE-STRUCK CAPITAL N;NUMERO SIGN"),
  (0x2117, "SOUND RECORDING COPYRIGHT;SCRIPT CAPITAL P;DOUBLE-STRUCK CAPITAL P"),
  (0x211A, "DOUBLE-STRUCK CAPITAL Q;SCRIPT CAPITAL R;BLACK-LETTER CAPITAL R"),
  (0x211D, "DOUBLE-STRUCK CAPITAL R;PRESCRIPTION TAKE;RESPONSE;SERVICE MARK;TELEPHONE SIGN"),
  (0x2122, "TRADE MARK SIGN;VERSICLE;DOUBLE-STRUCK CAPITAL Z;OUNCE SIGN;OHM SIGN"),
  (0x2127, "INVERTED OHM SIGN;BLACK-LETTER CAPITAL Z;TURNED GREEK SMALL LETTER IOTA;KELVIN SIGN"),
  (0x212B, "ANGSTROM SIGN;SCRIPT CAPITAL B;BLACK-LETTER CAPITAL C;ESTIMATED SYMBOL;SCRIPT SMALL E"),
  (0x2130, "SCRIPT CAPITAL E;SCRIPT CAPITAL F;TURNED CAPITAL F;SCRIPT CAPITAL M;SCRIPT SMALL O"),
  (0x2135, "ALEF SYMBOL;BET SYMBOL;GIMEL SYMBOL;DALET SYMBOL;INFORMATION SOURCE;ROTATED CAPITAL Q"),
  (0x213B, "FACSIMILE SIGN;DOUBLE-STRUCK SMALL PI;DOUBLE-STRUCK SMALL GAMMA"),
  (0x213E, "DOUBLE-STRUCK CAPITAL GAMMA;DOUBLE-STRUCK CAPITAL PI;DOUBLE-STRUCK N-ARY SUMMATION"),
  (0x2141, "TURNED SANS-SERIF CAPITAL G;TURNED SANS-SERIF CAPITAL L;REVERSED SANS-SERIF CAPITAL L"),
  (0x2144, "TURNED SANS-SERIF CAPITAL Y;DOUBLE-STRUCK ITALIC CAPITAL D"),
  (0x2146, "DOUBLE-STRUCK ITALIC SMALL D;DOUBLE-STRUCK ITALIC SMALL E"),
  (0x2148, "DOUBLE-STRUCK ITALIC SMALL I;DOUBLE-STRUCK ITALIC SMALL J;PROPERTY LINE"),
  (0x214B, "TURNED AMPERSAND;PER SIGN;AKTIESELSKAB;TURNED SMALL F;SYMBOL FOR SAMARITAN SOURCE"),
  (0x2150, "VULGAR FRACTION ONE SEVENTH;VULGAR FRACTION ONE NINTH;VULGAR FRACTION ONE TENTH"),
  (0x2153, "VULGAR FRACTION ONE THIRD;VULGAR FRACTION TWO THIRDS;VULGAR FRACTION ONE FIFTH"),
  (0x2156, "VULGAR FRACTION TWO FIFTHS;VULGAR FRACTION THREE FIFTHS;VULGAR FRACTION FOUR FIFTHS"),
  (0x2159, "VULGAR FRACTION ONE SIXTH;VULGAR FRACTION FIVE SIXTHS;VULGAR FRACTION ONE EIGHTH"),
  (0x215C, "VULGAR FRACTION THREE EIGHTHS;VULGAR FRACTION FIVE EIGHTHS"),
  (0x215E, "VULGAR FRACTION SEVEN EIGHTHS;FRACTION NUMERATOR ONE;ROMAN NUMERAL ONE"),
  (0x2161, "ROMAN NUMERAL TWO;ROMAN NUMERAL THREE;ROMAN NUMERAL FOUR;ROMAN NUMERAL FIVE"),
  (0x2165, "ROMAN NUMERAL SIX;ROMAN NUMERAL SEVEN;ROMAN NUMERAL EIGHT;ROMAN NUMERAL NINE"),
  (0x2169, "ROMAN NUMERAL TEN;ROMAN NUMERAL ELEVEN;ROMAN NUMERAL TWELVE;ROMAN NUMERAL FIFTY"),
  (0x216D, "ROMAN NUMERAL ONE HUNDRED;ROMAN NUMERAL FIVE HUNDRED;ROMAN NUMERAL ONE THOUSAND"),
  (0x2170, "SMALL ROMAN NUMERAL ONE;SMALL ROMAN NUMERAL TWO;SMALL ROMAN NUMERAL THREE"),
  (0x2173, "SMALL ROMAN NUMERAL FOUR;SMALL ROMAN NUMERAL FIVE;SMALL ROMAN NUMERAL SIX"),
  (0x2176, "SMALL ROMAN NUMERAL SEVEN;SMALL ROMAN NUMERAL EIGHT;SMALL ROMAN NUMERAL NINE"),
  (0x2179, "SMALL ROMAN NUMERAL TEN;SMALL ROMAN NUMERAL ELEVEN;SMALL ROMAN NUMERAL TWELVE"),
  (0x217C, "SMALL ROMAN NUMERAL FIFTY;SMALL ROMAN NUMERAL ONE HUNDRED"),
  (0x217E, "SMALL ROMAN NUMERAL FIVE HUNDRED;SMALL ROMAN NUMERAL ONE THOUSAND"),
  (0x2180, "ROMAN NUMERAL ONE THOUSAND C D;ROMAN NUMERAL FIVE THOUSAND;ROMAN NUMERAL TEN THOUSAND"),
  (0x2183, "ROMAN NUMERAL REVERSED ONE HUNDRED;LATIN SMALL LETTER REVERSED C"),
  (0x2185, "ROMAN NUMERAL SIX LATE FORM;ROMAN NUMERAL FIFTY EARLY FORM"),
  (0x2187, "ROMAN NUMERAL FIFTY THOUSAND;ROMAN NUMERAL ONE HUNDRED THOUSAND"),
  (0x2189, "VULGAR FRACTION ZERO THIRDS;TURNED DIGIT TWO;TURNED DIGIT THREE"),
  (0x2190, "LEFTWARDS ARROW;UPWARDS ARROW;RIGHTWARDS ARROW;DOWNWARDS ARROW;LEFT RIGHT ARROW"),
  (0x2195, "UP DOWN ARROW;NORTH WEST ARROW;NORTH EAST ARROW;SOUTH EAST ARROW;SOUTH WEST ARROW"),
  (0x219A, "LEFTWARDS ARROW WITH STROKE;RIGHTWARDS ARROW WITH STROKE;LEFTWARDS WAVE ARROW"),
  (0x219D, "RIGHTWARDS WAVE ARROW;LEFTWARDS TWO HEADED ARROW;UPWARDS TWO HEADED ARROW"),
  (0x21A0, "RIGHTWARDS TWO HEADED ARROW;DOWNWARDS TWO HEADED ARROW;LEFTWARDS ARROW WITH TAIL"),
  (0x21A3, "RIGHTWARDS ARROW WITH TAIL;LEFTWARDS ARROW FROM BAR;UPWARDS ARROW FROM BAR"),
  (0x21A6, "RIGHTWARDS ARROW FROM BAR;DOWNWARDS ARROW FROM BAR;UP DOWN ARROW WITH BASE"),
  (0x21A9, "LEFTWARDS ARROW WITH HOOK;RIGHTWARDS ARROW WITH HOOK;LEFTWARDS ARROW WITH LOOP"),
  (0x21AC, "RIGHTWARDS ARROW WITH LOOP;LEFT RIGHT WAVE ARROW;LEFT RIGHT ARROW WITH STROKE"),
  (0x21AF, "DOWNWARDS ZIGZAG ARROW;UPWARDS ARROW WITH TIP LEFTWARDS"),
  (0x21B1, "UPWARDS ARROW WITH TIP RIGHTWARDS;DOWNWARDS ARROW WITH TIP LEFTWARDS"),
  (0x21B3, "DOWNWARDS ARROW WITH TIP RIGHTWARDS;RIGHTWARDS ARROW WITH CORNER DOWNWARDS"),
  (0x21B5, "DOWNWARDS ARROW WITH CORNER LEFTWARDS;ANTICLOCKWISE TOP SEMICIRCLE ARROW"),
  (0x21B7, "CLOCKWISE TOP SEMICIRCLE ARROW;NORTH WEST ARROW TO LONG BAR"),
  (0x21B9, "LEFTWARDS ARROW TO BAR OVER RIGHTWARDS ARROW TO BAR;ANTICLOCKWISE OPEN CIRCLE ARROW"),
  (0x21BB, "CLOCKWISE OPEN CIRCLE ARROW;LEFTWARDS HARPOON WITH BARB UPWARDS"),
  (0x21BD, "LEFTWARDS HARPOON WITH BARB DOWNWARDS;UPWARDS HARPOON WITH BARB RIGHTWARDS"),
  (0x21BF, "UPWARDS HARPOON WITH BARB LEFTWARDS;RIGHTWARDS HARPOON WITH BARB UPWARDS"),
  (0x21C1, "RIGHTWARDS HARPOON WITH BARB DOWNWARDS;DOWNWARDS HARPOON WITH BARB RIGHTWARDS"),
  (0x21C3, "DOWNWARDS HARPOON WITH BARB LEFTWARDS;RIGHTWARDS ARROW OVER LEFTWARDS ARROW"),
  (0x21C5, "UPWARDS ARROW LEFTWARDS OF DOWNWARDS ARROW;LEFTWARDS ARROW OVER RIGHTWARDS ARROW"),
  (0x21C7, "LEFTWARDS PAIRED ARROWS;UPWARDS PAIRED ARROWS;RIGHTWARDS PAIRED ARROWS"),
  (0x21CA, "DOWNWARDS PAIRED ARROWS;LEFTWARDS HARPOON OVER RIGHTWARDS HARPOON"),
  (0x21CC, "RIGHTWARDS HARPOON OVER LEFTWARDS HARPOON;LEFTWARDS DOUBLE ARROW WITH STROKE"),
  (0x21CE, "LEFT RIGHT DOUBLE ARROW WITH STROKE;RIGHTWARDS DOUBLE ARROW WITH STROKE"),
  (0x21D0, "LEFTWARDS DOUBLE ARROW;UPWARDS DOUBLE ARROW;RIGHTWARDS DOUBLE ARROW"),
  (0x21D3, "DOWNWARDS DOUBLE ARROW;LEFT RIGHT DOUBLE ARROW;UP DOWN DOUBLE ARROW"),
  (0x21D6, "NORTH WEST DOUBLE ARROW;NORTH EAST DOUBLE ARROW;SOUTH EAST DOUBLE ARROW"),
  (0x21D9, "SOUTH WEST DOUBLE ARROW;LEFTWARDS TRIPLE ARROW;RIGHTWARDS TRIPLE ARROW"),
  (0x21DC, "LEFTWARDS SQUIGGLE ARROW;RIGHTWARDS SQUIGGLE ARROW;UPWARDS ARROW WITH DOUBLE STROKE"),
  (0x21DF, "DOWNWARDS ARROW WITH DOUBLE STROKE;LEFTWARDS DASHED ARROW;UPWARDS DASHED ARROW"),
  (0x21E2, "RIGHTWARDS DASHED ARROW;DOWNWARDS DASHED ARROW;LEFTWARDS ARROW TO BAR"),
  (0x21E5, "RIGHTWARDS ARROW TO BAR;LEFTWARDS WHITE ARROW;UPWARDS WHITE ARROW"),
  (0x21E8, "RIGHTWARDS WHITE ARROW;DOWNWARDS WHITE ARROW;UPWARDS WHITE ARROW FROM BAR"),
  (0x21EB, "UPWARDS WHITE ARROW ON PEDESTAL;UPWARDS WHITE ARROW ON PEDESTAL WITH HORIZONTAL BAR"),
  (0x21ED, "UPWARDS WHITE ARROW ON PEDESTAL WITH VERTICAL BAR;UPWARDS WHITE DOUBLE ARROW"),
  (0x21EF, "UPWARDS WHITE DOUBLE ARROW ON PEDESTAL;RIGHTWARDS WHITE ARROW FROM WALL"),
  (0x21F1, "NORTH WEST ARROW TO CORNER;SOUTH EAST ARROW TO CORNER;UP DOWN WHITE ARROW"),
  (0x21F4, "RIGHT ARROW WITH SMALL CIRCLE;DOWNWARDS ARROW LEFTWARDS OF UPWARDS ARROW"),
  (0x21F6, "THREE RIGHTWARDS ARROWS;LEFTWARDS ARROW WITH VERTICAL STROKE"),
  (0x21F8, "RIGHTWARDS ARROW WITH VERTICAL STROKE;LEFT RIGHT ARROW WITH VERTICAL STROKE"),
  (0x21FA, "LEFTWARDS ARROW WITH DOUBLE VERTICAL STROKE"),
  (0x21FB, "RIGHTWARDS ARROW WITH DOUBLE VERTICAL STROKE"),
  (0x21FC, "LEFT RIGHT ARROW WITH DOUBLE VERTICAL STROKE;LEFTWARDS OPEN-HEADED ARROW"),
  (0x21FE, "RIGHTWARDS OPEN-HEADED ARROW;LEFT RIGHT OPEN-HEADED ARROW;FOR ALL;COMPLEMENT"),
  (0x2202, "PARTIAL DIFFERENTIAL;THERE EXISTS;THERE DOES NOT EXIST;EMPTY SET;INCREMENT;NABLA"),
  (0x2208, "ELEMENT OF;NOT AN ELEMENT OF;SMALL ELEMENT OF;CONTAINS AS MEMBER"),
  (0x220C, "DOES NOT CONTAIN AS MEMBER;SMALL CONTAINS AS MEMBER;END OF PROOF;N-ARY PRODUCT"),
  (0x2210, "N-ARY COPRODUCT;N-ARY SUMMATION;MINUS SIGN;MINUS-OR-PLUS SIGN;DOT PLUS;DIVISION SLASH"),
  (0x2216, "SET MINUS;ASTERISK OPERATOR;RING OPERATOR;BULLET OPERATOR;SQUARE ROOT;CUBE ROOT"),
  (0x221C, "FOURTH ROOT;PROPORTIONAL TO;INFINITY;RIGHT ANGLE;ANGLE;MEASURED ANGLE;SPHERICAL ANGLE"),
  (0x2223, "DIVIDES;DOES NOT DIVIDE;PARALLEL TO;NOT PARALLEL TO;LOGICAL AND;LOGICAL OR"),
  (0x2229, "INTERSECTION;UNION;INTEGRAL;DOUBLE INTEGRAL;TRIPLE INTEGRAL;CONTOUR INTEGRAL"),
  (0x222F, "SURFACE INTEGRAL;VOLUME INTEGRAL;CLOCKWISE INTEGRAL;CLOCKWISE CONTOUR INTEGRAL"),
  (0x2233, "ANTICLOCKWISE CONTOUR INTEGRAL;THEREFORE;BECAUSE;RATIO;PROPORTION;DOT MINUS;EXCESS"),
  (0x223A, "GEOMETRIC PROPORTION;HOMOTHETIC;TILDE OPERATOR;REVERSED TILDE;INVERTED LAZY S"),
  (0x223F, "SINE WAVE;WREATH PRODUCT;NOT TILDE;MINUS TILDE;ASYMPTOTICALLY EQUAL TO"),
  (0x2244, "NOT ASYMPTOTICALLY EQUAL TO;APPROXIMATELY EQUAL TO"),
  (0x2246, "APPROXIMATELY BUT NOT ACTUALLY EQUAL TO;NEITHER APPROXIMATELY NOR ACTUALLY EQUAL TO"),
  (0x2248, "ALMOST EQUAL TO;NOT ALMOST EQUAL TO;ALMOST EQUAL OR EQUAL TO;TRIPLE TILDE"),
  (0x224C, "ALL EQUAL TO;EQUIVALENT TO;GEOMETRICALLY EQUIVALENT TO;DIFFERENCE BETWEEN"),
  (0x2250, "APPROACHES THE LIMIT;GEOMETRICALLY EQUAL TO;APPROXIMATELY EQUAL TO OR THE IMAGE OF"),
  (0x2253, "IMAGE OF OR APPROXIMATELY EQUAL TO;COLON EQUALS;EQUALS COLON;RING IN EQUAL TO"),
  (0x2257, "RING EQUAL TO;CORRESPONDS TO;ESTIMATES;EQUIANGULAR TO;STAR EQUALS;DELTA EQUAL TO"),
  (0x225D, "EQUAL TO BY DEFINITION;MEASURED BY;QUESTIONED EQUAL TO;NOT EQUAL TO;IDENTICAL TO"),
  (0x2262, "NOT IDENTICAL TO;STRICTLY EQUIVALENT TO;LESS-THAN OR EQUAL TO"),
  (0x2265, "GREATER-THAN OR EQUAL TO;LESS-THAN OVER EQUAL TO;GREATER-THAN OVER EQUAL TO"),
  (0x2268, "LESS-THAN BUT NOT EQUAL TO;GREATER-THAN BUT NOT EQUAL TO;MUCH LESS-THAN"),
  (0x226B, "MUCH GREATER-THAN;BETWEEN;NOT EQUIVALENT TO;NOT LESS-THAN;NOT GREATER-THAN"),
  (0x2270, "NEITHER LESS-THAN NOR EQUAL TO;NEITHER GREATER-THAN NOR EQUAL TO"),
  (0x2272, "LESS-THAN OR EQUIVALENT TO;GREATER-THAN OR EQUIVALENT TO"),
  (0x2274, "NEITHER LESS-THAN NOR EQUIVALENT TO;NEITHER GREATER-THAN NOR EQUIVALENT TO"),
  (0x2276, "LESS-THAN OR GREATER-THAN;GREATER-THAN OR LESS-THAN"),
  (0x2278, "NEITHER LESS-THAN NOR GREATER-THAN;NEITHER GREATER-THAN NOR LESS-THAN;PRECEDES"),
  (0x227B, "SUCCEEDS;PRECEDES OR EQUAL TO;SUCCEEDS OR EQUAL TO;PRECEDES OR EQUIVALENT TO"),
  (0x227F, "SUCCEEDS OR EQUIVALENT TO;DOES NOT PRECEDE;DOES NOT SUCCEED;SUBSET OF;SUPERSET OF"),
  (0x2284, "NOT A SUBSET OF;NOT A SUPERSET OF;SUBSET OF OR EQUAL TO;SUPERSET OF OR EQUAL TO"),
  (0x2288, "NEITHER A SUBSET OF NOR EQUAL TO;NEITHER A SUPERSET OF NOR EQUAL TO"),
  (0x228A, "SUBSET OF WITH NOT EQUAL TO;SUPERSET OF WITH NOT EQUAL TO;MULTISET"),
  (0x228D, "MULTISET MULTIPLICATION;MULTISET UNION;SQUARE IMAGE OF;SQUARE ORIGINAL OF"),
  (0x2291, "SQUARE IMAGE OF OR EQUAL TO;SQUARE ORIGINAL OF OR EQUAL TO;SQUARE CAP;SQUARE CUP"),
  (0x2295, "CIRCLED PLUS;CIRCLED MINUS;CIRCLED TIMES;CIRCLED DIVISION SLASH;CIRCLED DOT OPERATOR"),
  (0x229A, "CIRCLED RING OPERATOR;CIRCLED ASTERISK OPERATOR;CIRCLED EQUALS;CIRCLED DASH"),
  (0x229E, "SQUARED PLUS;SQUARED MINUS;SQUARED TIMES;SQUARED DOT OPERATOR;RIGHT TACK;LEFT TACK"),
  (0x22A4, "DOWN TACK;UP TACK;ASSERTION;MODELS;TRUE;FORCES;TRIPLE VERTICAL BAR RIGHT TURNSTILE"),
  (0x22AB, "DOUBLE VERTICAL BAR DOUBLE RIGHT TURNSTILE;DOES NOT PROVE;NOT TRUE;DOES NOT FORCE"),
  (0x22AF, "NEGATED DOUBLE VERTICAL BAR DOUBLE RIGHT TURNSTILE;PRECEDES UNDER RELATION"),
  (0x22B1, "SUCCEEDS UNDER RELATION;NORMAL SUBGROUP OF;CONTAINS AS NORMAL SUBGROUP"),
  (0x22B4, "NORMAL SUBGROUP OF OR EQUAL TO;CONTAINS AS NORMAL SUBGROUP OR EQUAL TO;ORIGINAL OF"),
  (0x22B7, "IMAGE OF;MULTIMAP;HERMITIAN CONJUGATE MATRIX;INTERCALATE;XOR;NAND;NOR"),
  (0x22BE, "RIGHT ANGLE WITH ARC;RIGHT TRIANGLE;N-ARY LOGICAL AND;N-ARY LOGICAL OR"),
  (0x22C2, "N-ARY INTERSECTION;N-ARY UNION;DIAMOND OPERATOR;DOT OPERATOR;STAR OPERATOR"),
  (0x22C7, "DIVISION TIMES;BOWTIE;LEFT NORMAL FACTOR SEMIDIRECT PRODUCT"),
  (0x22CA, "RIGHT NORMAL FACTOR SEMIDIRECT PRODUCT;LEFT SEMIDIRECT PRODUCT")]

/-- The names from code point 22CC to 24EF. -/
def symbolNamesFrom22CC : List (Nat × String) := [
  (0x22CC, "RIGHT SEMIDIRECT PRODUCT;REVERSED TILDE EQUALS;CURLY LOGICAL OR;CURLY LOGICAL AND"),
  (0x22D0, "DOUBLE SUBSET;DOUBLE SUPERSET;DOUBLE INTERSECTION;DOUBLE UNION;PITCHFORK"),
  (0x22D5, "EQUAL AND PARALLEL TO;LESS-THAN WITH DOT;GREATER-THAN WITH DOT;VERY MUCH LESS-THAN"),
  (0x22D9, "VERY MUCH GREATER-THAN;LESS-THAN EQUAL TO OR GREATER-THAN"),
  (0x22DB, "GREATER-THAN EQUAL TO OR LESS-THAN;EQUAL TO OR LESS-THAN;EQUAL TO OR GREATER-THAN"),
  (0x22DE, "EQUAL TO OR PRECEDES;EQUAL TO OR SUCCEEDS;DOES NOT PRECEDE OR EQUAL"),
  (0x22E1, "DOES NOT SUCCEED OR EQUAL;NOT SQUARE IMAGE OF OR EQUAL TO"),
  (0x22E3, "NOT SQUARE ORIGINAL OF OR EQUAL TO;SQUARE IMAGE OF OR NOT EQUAL TO"),
  (0x22E5, "SQUARE ORIGINAL OF OR NOT EQUAL TO;LESS-THAN BUT NOT EQUIVALENT TO"),
  (0x22E7, "GREATER-THAN BUT NOT EQUIVALENT TO;PRECEDES BUT NOT EQUIVALENT TO"),
  (0x22E9, "SUCCEEDS BUT NOT EQUIVALENT TO;NOT NORMAL SUBGROUP OF"),
  (0x22EB, "DOES NOT CONTAIN AS NORMAL SUBGROUP;NOT NORMAL SUBGROUP OF OR EQUAL TO"),
  (0x22ED, "DOES NOT CONTAIN AS NORMAL SUBGROUP OR EQUAL;VERTICAL ELLIPSIS"),
  (0x22EF, "MIDLINE HORIZONTAL ELLIPSIS;UP RIGHT DIAGONAL ELLIPSIS;DOWN RIGHT DIAGONAL ELLIPSIS"),
  (0x22F2, "ELEMENT OF WITH LONG HORIZONTAL STROKE"),
  (0x22F3, "ELEMENT OF WITH VERTICAL BAR AT END OF HORIZONTAL STROKE"),
  (0x22F4, "SMALL ELEMENT OF WITH VERTICAL BAR AT END OF HORIZONTAL STROKE"),
  (0x22F5, "ELEMENT OF WITH DOT ABOVE;ELEMENT OF WITH OVERBAR;SMALL ELEMENT OF WITH OVERBAR"),
  (0x22F8, "ELEMENT OF WITH UNDERBAR;ELEMENT OF WITH TWO HORIZONTAL STROKES"),
  (0x22FA, "CONTAINS WITH LONG HORIZONTAL STROKE"),
  (0x22FB, "CONTAINS WITH VERTICAL BAR AT END OF HORIZONTAL STROKE"),
  (0x22FC, "SMALL CONTAINS WITH VERTICAL BAR AT END OF HORIZONTAL STROKE;CONTAINS WITH OVERBAR"),
  (0x22FE, "SMALL CONTAINS WITH OVERBAR;Z NOTATION BAG MEMBERSHIP;DIAMETER SIGN;ELECTRIC ARROW"),
  (0x2302, "HOUSE;UP ARROWHEAD;DOWN ARROWHEAD;PROJECTIVE;PERSPECTIVE;WAVY LINE;LEFT CEILING"),
  (0x2309, "RIGHT CEILING;LEFT FLOOR;RIGHT FLOOR;BOTTOM RIGHT CROP;BOTTOM LEFT CROP"),
  (0x230E, "TOP RIGHT CROP;TOP LEFT CROP;REVERSED NOT SIGN;SQUARE LOZENGE;ARC;SEGMENT;SECTOR"),
  (0x2315, "TELEPHONE RECORDER;POSITION INDICATOR;VIEWDATA SQUARE;PLACE OF INTEREST SIGN"),
  (0x2319, "TURNED NOT SIGN;WATCH;HOURGLASS;TOP LEFT CORNER;TOP RIGHT CORNER;BOTTOM LEFT CORNER"),
  (0x231F, "BOTTOM RIGHT CORNER;TOP HALF INTEGRAL;BOTTOM HALF INTEGRAL;FROWN;SMILE"),
  (0x2324, "UP ARROWHEAD BETWEEN TWO HORIZONTAL BARS;OPTION KEY;ERASE TO THE RIGHT"),
  (0x2327, "X IN A RECTANGLE BOX;KEYBOARD;LEFT-POINTING ANGLE BRACKET"),
  (0x232A, "RIGHT-POINTING ANGLE BRACKET;ERASE TO THE LEFT;BENZENE RING;CYLINDRICITY"),
  (0x232E, "ALL AROUND-PROFILE;SYMMETRY;TOTAL RUNOUT;DIMENSION ORIGIN;CONICAL TAPER;SLOPE"),
  (0x2334, "COUNTERBORE;COUNTERSINK;APL FUNCTIONAL SYMBOL I-BEAM"),
  (0x2337, "APL FUNCTIONAL SYMBOL SQUISH QUAD;APL FUNCTIONAL SYMBOL QUAD EQUAL"),
  (0x2339, "APL FUNCTIONAL SYMBOL QUAD DIVIDE;APL FUNCTIONAL SYMBOL QUAD DIAMOND"),
  (0x233B, "APL FUNCTIONAL SYMBOL QUAD JOT;APL FUNCTIONAL SYMBOL QUAD CIRCLE"),
  (0x233D, "APL FUNCTIONAL SYMBOL CIRCLE STILE;APL FUNCTIONAL SYMBOL CIRCLE JOT"),
  (0x233F, "APL FUNCTIONAL SYMBOL SLASH BAR;APL FUNCTIONAL SYMBOL BACKSLASH BAR"),
  (0x2341, "APL FUNCTIONAL SYMBOL QUAD SLASH;APL FUNCTIONAL SYMBOL QUAD BACKSLASH"),
  (0x2343, "APL FUNCTIONAL SYMBOL QUAD LESS-THAN;APL FUNCTIONAL SYMBOL QUAD GREATER-THAN"),
  (0x2345, "APL FUNCTIONAL SYMBOL LEFTWARDS VANE;APL FUNCTIONAL SYMBOL RIGHTWARDS VANE"),
  (0x2347, "APL FUNCTIONAL SYMBOL QUAD LEFTWARDS ARROW"),
  (0x2348, "APL FUNCTIONAL SYMBOL QUAD RIGHTWARDS ARROW;APL FUNCTIONAL SYMBOL CIRCLE BACKSLASH"),
  (0x234A, "APL FUNCTIONAL SYMBOL DOWN TACK UNDERBAR;APL FUNCTIONAL SYMBOL DELTA STILE"),
  (0x234C, "APL FUNCTIONAL SYMBOL QUAD DOWN CARET;APL FUNCTIONAL SYMBOL QUAD DELTA"),
  (0x234E, "APL FUNCTIONAL SYMBOL DOWN TACK JOT;APL FUNCTIONAL SYMBOL UPWARDS VANE"),
  (0x2350, "APL FUNCTIONAL SYMBOL QUAD UPWARDS ARROW;APL FUNCTIONAL SYMBOL UP TACK OVERBAR"),
  (0x2352, "APL FUNCTIONAL SYMBOL DEL STILE;APL FUNCTIONAL SYMBOL QUAD UP CARET"),
  (0x2354, "APL FUNCTIONAL SYMBOL QUAD DEL;APL FUNCTIONAL SYMBOL UP TACK JOT"),
  (0x2356, "APL FUNCTIONAL SYMBOL DOWNWARDS VANE;APL FUNCTIONAL SYMBOL QUAD DOWNWARDS ARROW"),
  (0x2358, "APL FUNCTIONAL SYMBOL QUOTE UNDERBAR;APL FUNCTIONAL SYMBOL DELTA UNDERBAR"),
  (0x235A, "APL FUNCTIONAL SYMBOL DIAMOND UNDERBAR;APL FUNCTIONAL SYMBOL JOT UNDERBAR"),
  (0x235C, "APL FUNCTIONAL SYMBOL CIRCLE UNDERBAR;APL FUNCTIONAL SYMBOL UP SHOE JOT"),
  (0x235E, "APL FUNCTIONAL SYMBOL QUOTE QUAD;APL FUNCTIONAL SYMBOL CIRCLE STAR"),
  (0x2360, "APL FUNCTIONAL SYMBOL QUAD COLON;APL FUNCTIONAL SYMBOL UP TACK DIAERESIS"),
  (0x2362, "APL FUNCTIONAL SYMBOL DEL DIAERESIS;APL FUNCTIONAL SYMBOL STAR DIAERESIS"),
  (0x2364, "APL FUNCTIONAL SYMBOL JOT DIAERESIS;APL FUNCTIONAL SYMBOL CIRCLE DIAERESIS"),
  (0x2366, "APL FUNCTIONAL SYMBOL DOWN SHOE STILE;APL FUNCTIONAL SYMBOL LEFT SHOE STILE"),
  (0x2368, "APL FUNCTIONAL SYMBOL TILDE DIAERESIS;APL FUNCTIONAL SYMBOL GREATER-THAN DIAERESIS"),
  (0x236A, "APL FUNCTIONAL SYMBOL COMMA BAR;APL FUNCTIONAL SYMBOL DEL TILDE"),
  (0x236C, "APL FUNCTIONAL SYMBOL ZILDE;APL FUNCTIONAL SYMBOL STILE TILDE"),
  (0x236E, "APL FUNCTIONAL SYMBOL SEMICOLON UNDERBAR;APL FUNCTIONAL SYMBOL QUAD NOT EQUAL"),
  (0x2370, "APL FUNCTIONAL SYMBOL QUAD QUESTION;APL FUNCTIONAL SYMBOL DOWN CARET TILDE"),
  (0x2372, "APL FUNCTIONAL SYMBOL UP CARET TILDE;APL FUNCTIONAL SYMBOL IOTA"),
  (0x2374, "APL FUNCTIONAL SYMBOL RHO;APL FUNCTIONAL SYMBOL OMEGA"),
  (0x2376, "APL FUNCTIONAL SYMBOL ALPHA UNDERBAR;APL FUNCTIONAL SYMBOL EPSILON UNDERBAR"),
  (0x2378, "APL FUNCTIONAL SYMBOL IOTA UNDERBAR;APL FUNCTIONAL SYMBOL OMEGA UNDERBAR"),
  (0x237A, "APL FUNCTIONAL SYMBOL ALPHA;NOT CHECK MARK;RIGHT ANGLE WITH DOWNWARDS ZIGZAG ARROW"),
  (0x237D, "SHOULDERED OPEN BOX;BELL SYMBOL;VERTICAL LINE WITH MIDDLE DOT;INSERTION SYMBOL"),
  (0x2381, "CONTINUOUS UNDERLINE SYMBOL;DISCONTINUOUS UNDERLINE SYMBOL;EMPHASIS SYMBOL"),
  (0x2384, "COMPOSITION SYMBOL;WHITE SQUARE WITH CENTRE VERTICAL LINE;ENTER SYMBOL"),
  (0x2387, "ALTERNATIVE KEY SYMBOL;HELM SYMBOL;CIRCLED HORIZONTAL BAR WITH NOTCH"),
  (0x238A, "CIRCLED TRIANGLE DOWN;BROKEN CIRCLE WITH NORTHWEST ARROW;UNDO SYMBOL"),
  (0x238D, "MONOSTABLE SYMBOL;HYSTERESIS SYMBOL;OPEN-CIRCUIT-OUTPUT H-TYPE SYMBOL"),
  (0x2390, "OPEN-CIRCUIT-OUTPUT L-TYPE SYMBOL;PASSIVE-PULL-DOWN-OUTPUT SYMBOL"),
  (0x2392, "PASSIVE-PULL-UP-OUTPUT SYMBOL;DIRECT CURRENT SYMBOL FORM TWO;SOFTWARE-FUNCTION SYMBOL"),
  (0x2395, "APL FUNCTIONAL SYMBOL QUAD;DECIMAL SEPARATOR KEY SYMBOL;PREVIOUS PAGE;NEXT PAGE"),
  (0x2399, "PRINT SCREEN SYMBOL;CLEAR SCREEN SYMBOL;LEFT PARENTHESIS UPPER HOOK"),
  (0x239C, "LEFT PARENTHESIS EXTENSION;LEFT PARENTHESIS LOWER HOOK;RIGHT PARENTHESIS UPPER HOOK"),
  (0x239F, "RIGHT PARENTHESIS EXTENSION;RIGHT PARENTHESIS LOWER HOOK"),
  (0x23A1, "LEFT SQUARE BRACKET UPPER CORNER;LEFT SQUARE BRACKET EXTENSION"),
  (0x23A3, "LEFT SQUARE BRACKET LOWER CORNER;RIGHT SQUARE BRACKET UPPER CORNER"),
  (0x23A5, "RIGHT SQUARE BRACKET EXTENSION;RIGHT SQUARE BRACKET LOWER CORNER"),
  (0x23A7, "LEFT CURLY BRACKET UPPER HOOK;LEFT CURLY BRACKET MIDDLE PIECE"),
  (0x23A9, "LEFT CURLY BRACKET LOWER HOOK;CURLY BRACKET EXTENSION;RIGHT CURLY BRACKET UPPER HOOK"),
  (0x23AC, "RIGHT CURLY BRACKET MIDDLE PIECE;RIGHT CURLY BRACKET LOWER HOOK;INTEGRAL EXTENSION"),
  (0x23AF, "HORIZONTAL LINE EXTENSION;UPPER LEFT OR LOWER RIGHT CURLY BRACKET SECTION"),
  (0x23B1, "UPPER RIGHT OR LOWER LEFT CURLY BRACKET SECTION;SUMMATION TOP;SUMMATION BOTTOM"),
  (0x23B4, "TOP SQUARE BRACKET;BOTTOM SQUARE BRACKET"),
  (0x23B6, "BOTTOM SQUARE BRACKET OVER TOP SQUARE BRACKET;RADICAL SYMBOL BOTTOM"),
  (0x23B8, "LEFT VERTICAL BOX LINE;RIGHT VERTICAL BOX LINE;HORIZONTAL SCAN LINE-1"),
  (0x23BB, "HORIZONTAL SCAN LINE-3;HORIZONTAL SCAN LINE-7;HORIZONTAL SCAN LINE-9"),
  (0x23BE, "DENTISTRY SYMBOL LIGHT VERTICAL AND TOP RIGHT"),
  (0x23BF, "DENTISTRY SYMBOL LIGHT VERTICAL AND BOTTOM RIGHT"),
  (0x23C0, "DENTISTRY SYMBOL LIGHT VERTICAL WITH CIRCLE"),
  (0x23C1, "DENTISTRY SYMBOL LIGHT DOWN AND HORIZONTAL WITH CIRCLE"),
  (0x23C2, "DENTISTRY SYMBOL LIGHT UP AND HORIZONTAL WITH CIRCLE"),
  (0x23C3, "DENTISTRY SYMBOL LIGHT VERTICAL WITH TRIANGLE"),
  (0x23C4, "DENTISTRY SYMBOL LIGHT DOWN AND HORIZONTAL WITH TRIANGLE"),
  (0x23C5, "DENTISTRY SYMBOL LIGHT UP AND HORIZONTAL WITH TRIANGLE"),
  (0x23C6, "DENTISTRY SYMBOL LIGHT VERTICAL AND WAVE"),
  (0x23C7, "DENTISTRY SYMBOL LIGHT DOWN AND HORIZONTAL WITH WAVE"),
  (0x23C8, "DENTISTRY SYMBOL LIGHT UP AND HORIZONTAL WITH WAVE"),
  (0x23C9, "DENTISTRY SYMBOL LIGHT DOWN AND HORIZONTAL;DENTISTRY SYMBOL LIGHT UP AND HORIZONTAL"),
  (0x23CB, "DENTISTRY SYMBOL LIGHT VERTICAL AND TOP LEFT"),
  (0x23CC, "DENTISTRY SYMBOL LIGHT VERTICAL AND BOTTOM LEFT;SQUARE FOOT;RETURN SYMBOL"),
  (0x23CF, "EJECT SYMBOL;VERTICAL LINE EXTENSION;METRICAL BREVE;METRICAL LONG OVER SHORT"),
  (0x23D3, "METRICAL SHORT OVER LONG;METRICAL LONG OVER TWO SHORTS;METRICAL TWO SHORTS OVER LONG"),
  (0x23D6, "METRICAL TWO SHORTS JOINED;METRICAL TRISEME;METRICAL TETRASEME;METRICAL PENTASEME"),
  (0x23DA, "EARTH GROUND;FUSE;TOP PARENTHESIS;BOTTOM PARENTHESIS;TOP CURLY BRACKET"),
  (0x23DF, "BOTTOM CURLY BRACKET;TOP TORTOISE SHELL BRACKET;BOTTOM TORTOISE SHELL BRACKET"),
  (0x23E2, "WHITE TRAPEZIUM;BENZENE RING WITH CIRCLE;STRAIGHTNESS;FLATNESS;AC CURRENT"),
  (0x23E7, "ELECTRICAL INTERSECTION;DECIMAL EXPONENT SYMBOL;BLACK RIGHT-POINTING DOUBLE TRIANGLE"),
  (0x23EA, "BLACK LEFT-POINTING DOUBLE TRIANGLE;BLACK UP-POINTING DOUBLE TRIANGLE"),
  (0x23EC, "BLACK DOWN-POINTING DOUBLE TRIANGLE"),
  (0x23ED, "BLACK RIGHT-POINTING DOUBLE TRIANGLE WITH VERTICAL BAR"),
  (0x23EE, "BLACK LEFT-POINTING DOUBLE TRIANGLE WITH VERTICAL BAR"),
  (0x23EF, "BLACK RIGHT-POINTING TRIANGLE WITH DOUBLE VERTICAL BAR;ALARM CLOCK;STOPWATCH"),
  (0x23F2, "TIMER CLOCK;HOURGLASS WITH FLOWING SAND;BLACK MEDIUM LEFT-POINTING TRIANGLE"),
  (0x23F5, "BLACK MEDIUM RIGHT-POINTING TRIANGLE;BLACK MEDIUM UP-POINTING TRIANGLE"),
  (0x23F7, "BLACK MEDIUM DOWN-POINTING TRIANGLE;DOUBLE VERTICAL BAR;BLACK SQUARE FOR STOP"),
  (0x23FA, "BLACK CIRCLE FOR RECORD;POWER SYMBOL;POWER ON-OFF SYMBOL;POWER ON SYMBOL"),
  (0x23FE, "POWER SLEEP SYMBOL;OBSERVER EYE SYMBOL;SYMBOL FOR NULL;SYMBOL FOR START OF HEADING"),
  (0x2402, "SYMBOL FOR START OF TEXT;SYMBOL FOR END OF TEXT;SYMBOL FOR END OF TRANSMISSION"),
  (0x2405, "SYMBOL FOR ENQUIRY;SYMBOL FOR ACKNOWLEDGE;SYMBOL FOR BELL;SYMBOL FOR BACKSPACE"),
  (0x2409, "SYMBOL FOR HORIZONTAL TABULATION;SYMBOL FOR LINE FEED;SYMBOL FOR VERTICAL TABULATION"),
  (0x240C, "SYMBOL FOR FORM FEED;SYMBOL FOR CARRIAGE RETURN;SYMBOL FOR SHIFT OUT"),
  (0x240F, "SYMBOL FOR SHIFT IN;SYMBOL FOR DATA LINK ESCAPE;SYMBOL FOR DEVICE CONTROL ONE"),
  (0x2412, "SYMBOL FOR DEVICE CONTROL TWO;SYMBOL FOR DEVICE CONTROL THREE"),
  (0x2414, "SYMBOL FOR DEVICE CONTROL FOUR;SYMBOL FOR NEGATIVE ACKNOWLEDGE"),
  (0x2416, "SYMBOL FOR SYNCHRONOUS IDLE;SYMBOL FOR END OF TRANSMISSION BLOCK;SYMBOL FOR CANCEL"),
  (0x2419, "SYMBOL FOR END OF MEDIUM;SYMBOL FOR SUBSTITUTE;SYMBOL FOR ESCAPE"),
  (0x241C, "SYMBOL FOR FILE SEPARATOR;SYMBOL FOR GROUP SEPARATOR;SYMBOL FOR RECORD SEPARATOR"),
  (0x241F, "SYMBOL FOR UNIT SEPARATOR;SYMBOL FOR SPACE;SYMBOL FOR DELETE;BLANK SYMBOL;OPEN BOX"),
  (0x2424, "SYMBOL FOR NEWLINE;SYMBOL FOR DELETE FORM TWO;SYMBOL FOR SUBSTITUTE FORM TWO"),
  (0x2440, "OCR HOOK;OCR CHAIR;OCR FORK;OCR INVERTED FORK;OCR BELT BUCKLE;OCR BOW TIE"),
  (0x2446, "OCR BRANCH BANK IDENTIFICATION;OCR AMOUNT OF CHECK;OCR DASH"),
  (0x2449, "OCR CUSTOMER ACCOUNT NUMBER;OCR DOUBLE BACKSLASH"),
  (0x2460, "CIRCLED DIGIT ONE;CIRCLED DIGIT TWO;CIRCLED DIGIT THREE;CIRCLED DIGIT FOUR"),
  (0x2464, "CIRCLED DIGIT FIVE;CIRCLED DIGIT SIX;CIRCLED DIGIT SEVEN;CIRCLED DIGIT EIGHT"),
  (0x2468, "CIRCLED DIGIT NINE;CIRCLED NUMBER TEN;CIRCLED NUMBER ELEVEN;CIRCLED NUMBER TWELVE"),
  (0x246C, "CIRCLED NUMBER THIRTEEN;CIRCLED NUMBER FOURTEEN;CIRCLED NUMBER FIFTEEN"),
  (0x246F, "CIRCLED NUMBER SIXTEEN;CIRCLED NUMBER SEVENTEEN;CIRCLED NUMBER EIGHTEEN"),
  (0x2472, "CIRCLED NUMBER NINETEEN;CIRCLED NUMBER TWENTY;PARENTHESIZED DIGIT ONE"),
  (0x2475, "PARENTHESIZED DIGIT TWO;PARENTHESIZED DIGIT THREE;PARENTHESIZED DIGIT FOUR"),
  (0x2478, "PARENTHESIZED DIGIT FIVE;PARENTHESIZED DIGIT SIX;PARENTHESIZED DIGIT SEVEN"),
  (0x247B, "PARENTHESIZED DIGIT EIGHT;PARENTHESIZED DIGIT NINE;PARENTHESIZED NUMBER TEN"),
  (0x247E, "PARENTHESIZED NUMBER ELEVEN;PARENTHESIZED NUMBER TWELVE;PARENTHESIZED NUMBER THIRTEEN"),
  (0x2481, "PARENTHESIZED NUMBER FOURTEEN;PARENTHESIZED NUMBER FIFTEEN"),
  (0x2483, "PARENTHESIZED NUMBER SIXTEEN;PARENTHESIZED NUMBER SEVENTEEN"),
  (0x2485, "PARENTHESIZED NUMBER EIGHTEEN;PARENTHESIZED NUMBER NINETEEN"),
  (0x2487, "PARENTHESIZED NUMBER TWENTY;DIGIT ONE FULL STOP;DIGIT TWO FULL STOP"),
  (0x248A, "DIGIT THREE FULL STOP;DIGIT FOUR FULL STOP;DIGIT FIVE FULL STOP;DIGIT SIX FULL STOP"),
  (0x248E, "DIGIT SEVEN FULL STOP;DIGIT EIGHT FULL STOP;DIGIT NINE FULL STOP;NUMBER TEN FULL STOP"),
  (0x2492, "NUMBER ELEVEN FULL STOP;NUMBER TWELVE FULL STOP;NUMBER THIRTEEN FULL STOP"),
  (0x2495, "NUMBER FOURTEEN FULL STOP;NUMBER FIFTEEN FULL STOP;NUMBER SIXTEEN FULL STOP"),
  (0x2498, "NUMBER SEVENTEEN FULL STOP;NUMBER EIGHTEEN FULL STOP;NUMBER NINETEEN FULL STOP"),
  (0x249B, "NUMBER TWENTY FULL STOP;PARENTHESIZED LATIN SMALL LETTER A"),
  (0x249D, "PARENTHESIZED LATIN SMALL LETTER B;PARENTHESIZED LATIN SMALL LETTER C"),
  (0x249F, "PARENTHESIZED LATIN SMALL LETTER D;PARENTHESIZED LATIN SMALL LETTER E"),
  (0x24A1, "PARENTHESIZED LATIN SMALL LETTER F;PARENTHESIZED LATIN SMALL LETTER G"),
  (0x24A3, "PARENTHESIZED LATIN SMALL LETTER H;PARENTHESIZED LATIN SMALL LETTER I"),
  (0x24A5, "PARENTHESIZED LATIN SMALL LETTER J;PARENTHESIZED LATIN SMALL LETTER K"),
  (0x24A7, "PARENTHESIZED LATIN SMALL LETTER L;PARENTHESIZED LATIN SMALL LETTER M"),
  (0x24A9, "PARENTHESIZED LATIN SMALL LETTER N;PARENTHESIZED LATIN SMALL LETTER O"),
  (0x24AB, "PARENTHESIZED LATIN SMALL LETTER P;PARENTHESIZED LATIN SMALL LETTER Q"),
  (0x24AD, "PARENTHESIZED LATIN SMALL LETTER R;PARENTHESIZED LATIN SMALL LETTER S"),
  (0x24AF, "PARENTHESIZED LATIN SMALL LETTER T;PARENTHESIZED LATIN SMALL LETTER U"),
  (0x24B1, "PARENTHESIZED LATIN SMALL LETTER V;PARENTHESIZED LATIN SMALL LETTER W"),
  (0x24B3, "PARENTHESIZED LATIN SMALL LETTER X;PARENTHESIZED LATIN SMALL LETTER Y"),
  (0x24B5, "PARENTHESIZED LATIN SMALL LETTER Z;CIRCLED LATIN CAPITAL LETTER A"),
  (0x24B7, "CIRCLED LATIN CAPITAL LETTER B;CIRCLED LATIN CAPITAL LETTER C"),
  (0x24B9, "CIRCLED LATIN CAPITAL LETTER D;CIRCLED LATIN CAPITAL LETTER E"),
  (0x24BB, "CIRCLED LATIN CAPITAL LETTER F;CIRCLED LATIN CAPITAL LETTER G"),
  (0x24BD, "CIRCLED LATIN CAPITAL LETTER H;CIRCLED LATIN CAPITAL LETTER I"),
  (0x24BF, "CIRCLED LATIN CAPITAL LETTER J;CIRCLED LATIN CAPITAL LETTER K"),
  (0x24C1, "CIRCLED LATIN CAPITAL LETTER L;CIRCLED LATIN CAPITAL LETTER M"),
  (0x24C3, "CIRCLED LATIN CAPITAL LETTER N;CIRCLED LATIN CAPITAL LETTER O"),
  (0x24C5, "CIRCLED LATIN CAPITAL LETTER P;CIRCLED LATIN CAPITAL LETTER Q"),
  (0x24C7, "CIRCLED LATIN CAPITAL LETTER R;CIRCLED LATIN CAPITAL LETTER S"),
  (0x24C9, "CIRCLED LATIN CAPITAL LETTER T;CIRCLED LATIN CAPITAL LETTER U"),
  (0x24CB, "CIRCLED LATIN CAPITAL LETTER V;CIRCLED LATIN CAPITAL LETTER W"),
  (0x24CD, "CIRCLED LATIN CAPITAL LETTER X;CIRCLED LATIN CAPITAL LETTER Y"),
  (0x24CF, "CIRCLED LATIN CAPITAL LETTER Z;CIRCLED LATIN SMALL LETTER A"),
  (0x24D1, "CIRCLED LATIN SMALL LETTER B;CIRCLED LATIN SMALL LETTER C"),
  (0x24D3, "CIRCLED LATIN SMALL LETTER D;CIRCLED LATIN SMALL LETTER E"),
  (0x24D5, "CIRCLED LATIN SMALL LETTER F;CIRCLED LATIN SMALL LETTER G"),
  (0x24D7, "CIRCLED LATIN SMALL LETTER H;CIRCLED LATIN SMALL LETTER I"),
  (0x24D9, "CIRCLED LATIN SMALL LETTER J;CIRCLED LATIN SMALL LETTER K"),
  (0x24DB, "CIRCLED LATIN SMALL LETTER L;CIRCLED LATIN SMALL LETTER M"),
  (0x24DD, "CIRCLED LATIN SMALL LETTER N;CIRCLED LATIN SMALL LETTER O"),
  (0x24DF, "CIRCLED LATIN SMALL LETTER P;CIRCLED LATIN SMALL LETTER Q"),
  (0x24E1, "CIRCLED LATIN SMALL LETTER R;CIRCLED LATIN SMALL LETTER S"),
  (0x24E3, "CIRCLED LATIN SMALL LETTER T;CIRCLED LATIN SMALL LETTER U"),
  (0x24E5, "CIRCLED LATIN SMALL LETTER V;CIRCLED LATIN SMALL LETTER W"),
  (0x24E7, "CIRCLED LATIN SMALL LETTER X;CIRCLED LATIN SMALL LETTER Y"),
  (0x24E9, "CIRCLED LATIN SMALL LETTER Z;CIRCLED DIGIT ZERO;NEGATIVE CIRCLED NUMBER ELEVEN"),
  (0x24EC, "NEGATIVE CIRCLED NUMBER TWELVE;NEGATIVE CIRCLED NUMBER THIRTEEN"),
  (0x24EE, "NEGATIVE CIRCLED NUMBER FOURTEEN;NEGATIVE CIRCLED NUMBER FIFTEEN")]

/-- The names from code point 24F0 to 271A. -/
def symbolNamesFrom24F0 : List (Nat × String) := [
  (0x24F0, "NEGATIVE CIRCLED NUMBER SIXTEEN;NEGATIVE CIRCLED NUMBER SEVENTEEN"),
  (0x24F2, "NEGATIVE CIRCLED NUMBER EIGHTEEN;NEGATIVE CIRCLED NUMBER NINETEEN"),
  (0x24F4, "NEGATIVE CIRCLED NUMBER TWENTY;DOUBLE CIRCLED DIGIT ONE;DOUBLE CIRCLED DIGIT TWO"),
  (0x24F7, "DOUBLE CIRCLED DIGIT THREE;DOUBLE CIRCLED DIGIT FOUR;DOUBLE CIRCLED DIGIT FIVE"),
  (0x24FA, "DOUBLE CIRCLED DIGIT SIX;DOUBLE CIRCLED DIGIT SEVEN;DOUBLE CIRCLED DIGIT EIGHT"),
  (0x24FD, "DOUBLE CIRCLED DIGIT NINE;DOUBLE CIRCLED NUMBER TEN;NEGATIVE CIRCLED DIGIT ZERO"),
  (0x2500, "BOX DRAWINGS LIGHT HORIZONTAL;BOX DRAWINGS HEAVY HORIZONTAL"),
  (0x2502, "BOX DRAWINGS LIGHT VERTICAL;BOX DRAWINGS HEAVY VERTICAL"),
  (0x2504, "BOX DRAWINGS LIGHT TRIPLE DASH HORIZONTAL;BOX DRAWINGS HEAVY TRIPLE DASH HORIZONTAL"),
  (0x2506, "BOX DRAWINGS LIGHT TRIPLE DASH VERTICAL;BOX DRAWINGS HEAVY TRIPLE DASH VERTICAL"),
  (0x2508, "BOX DRAWINGS LIGHT QUADRUPLE DASH HORIZONTAL"),
  (0x2509, "BOX DRAWINGS HEAVY QUADRUPLE DASH HORIZONTAL"),
  (0x250A, "BOX DRAWINGS LIGHT QUADRUPLE DASH VERTICAL;BOX DRAWINGS HEAVY QUADRUPLE DASH VERTICAL"),
  (0x250C, "BOX DRAWINGS LIGHT DOWN AND RIGHT;BOX DRAWINGS DOWN LIGHT AND RIGHT HEAVY"),
  (0x250E, "BOX DRAWINGS DOWN HEAVY AND RIGHT LIGHT;BOX DRAWINGS HEAVY DOWN AND RIGHT"),
  (0x2510, "BOX DRAWINGS LIGHT DOWN AND LEFT;BOX DRAWINGS DOWN LIGHT AND LEFT HEAVY"),
  (0x2512, "BOX DRAWINGS DOWN HEAVY AND LEFT LIGHT;BOX DRAWINGS HEAVY DOWN AND LEFT"),
  (0x2514, "BOX DRAWINGS LIGHT UP AND RIGHT;BOX DRAWINGS UP LIGHT AND RIGHT HEAVY"),
  (0x2516, "BOX DRAWINGS UP HEAVY AND RIGHT LIGHT;BOX DRAWINGS HEAVY UP AND RIGHT"),
  (0x2518, "BOX DRAWINGS LIGHT UP AND LEFT;BOX DRAWINGS UP LIGHT AND LEFT HEAVY"),
  (0x251A, "BOX DRAWINGS UP HEAVY AND LEFT LIGHT;BOX DRAWINGS HEAVY UP AND LEFT"),
  (0x251C, "BOX DRAWINGS LIGHT VERTICAL AND RIGHT;BOX DRAWINGS VERTICAL LIGHT AND RIGHT HEAVY"),
  (0x251E, "BOX DRAWINGS UP HEAVY AND RIGHT DOWN LIGHT;BOX DRAWINGS DOWN HEAVY AND RIGHT UP LIGHT"),
  (0x2520, "BOX DRAWINGS VERTICAL HEAVY AND RIGHT LIGHT"),
  (0x2521, "BOX DRAWINGS DOWN LIGHT AND RIGHT UP HEAVY;BOX DRAWINGS UP LIGHT AND RIGHT DOWN HEAVY"),
  (0x2523, "BOX DRAWINGS HEAVY VERTICAL AND RIGHT;BOX DRAWINGS LIGHT VERTICAL AND LEFT"),
  (0x2525, "BOX DRAWINGS VERTICAL LIGHT AND LEFT HEAVY;BOX DRAWINGS UP HEAVY AND LEFT DOWN LIGHT"),
  (0x2527, "BOX DRAWINGS DOWN HEAVY AND LEFT UP LIGHT;BOX DRAWINGS VERTICAL HEAVY AND LEFT LIGHT"),
  (0x2529, "BOX DRAWINGS DOWN LIGHT AND LEFT UP HEAVY;BOX DRAWINGS UP LIGHT AND LEFT DOWN HEAVY"),
  (0x252B, "BOX DRAWINGS HEAVY VERTICAL AND LEFT;BOX DRAWINGS LIGHT DOWN AND HORIZONTAL"),
  (0x252D, "BOX DRAWINGS LEFT HEAVY AND RIGHT DOWN LIGHT"),
  (0x252E, "BOX DRAWINGS RIGHT HEAVY AND LEFT DOWN LIGHT"),
  (0x252F, "BOX DRAWINGS DOWN LIGHT AND HORIZONTAL HEAVY"),
  (0x2530, "BOX DRAWINGS DOWN HEAVY AND HORIZONTAL LIGHT"),
  (0x2531, "BOX DRAWINGS RIGHT LIGHT AND LEFT DOWN HEAVY"),
  (0x2532, "BOX DRAWINGS LEFT LIGHT AND RIGHT DOWN HEAVY;BOX DRAWINGS HEAVY DOWN AND HORIZONTAL"),
  (0x2534, "BOX DRAWINGS LIGHT UP AND HORIZONTAL;BOX DRAWINGS LEFT HEAVY AND RIGHT UP LIGHT"),
  (0x2536, "BOX DRAWINGS RIGHT HEAVY AND LEFT UP LIGHT;BOX DRAWINGS UP LIGHT AND HORIZONTAL HEAVY"),
  (0x2538, "BOX DRAWINGS UP HEAVY AND HORIZONTAL LIGHT;BOX DRAWINGS RIGHT LIGHT AND LEFT UP HEAVY"),
  (0x253A, "BOX DRAWINGS LEFT LIGHT AND RIGHT UP HEAVY;BOX DRAWINGS HEAVY UP AND HORIZONTAL"),
  (0x253C, "BOX DRAWINGS LIGHT VERTICAL AND HORIZONTAL"),
  (0x253D, "BOX DRAWINGS LEFT HEAVY AND RIGHT VERTICAL LIGHT"),
  (0x253E, "BOX DRAWINGS RIGHT HEAVY AND LEFT VERTICAL LIGHT"),
  (0x253F, "BOX DRAWINGS VERTICAL LIGHT AND HORIZONTAL HEAVY"),
  (0x2540, "BOX DRAWINGS UP HEAVY AND DOWN HORIZONTAL LIGHT"),
  (0x2541, "BOX DRAWINGS DOWN HEAVY AND UP HORIZONTAL LIGHT"),
  (0x2542, "BOX DRAWINGS VERTICAL HEAVY AND HORIZONTAL LIGHT"),
  (0x2543, "BOX DRAWINGS LEFT UP HEAVY AND RIGHT DOWN LIGHT"),
  (0x2544, "BOX DRAWINGS RIGHT UP HEAVY AND LEFT DOWN LIGHT"),
  (0x2545, "BOX DRAWINGS LEFT DOWN HEAVY AND RIGHT UP LIGHT"),
  (0x2546, "BOX DRAWINGS RIGHT DOWN HEAVY AND LEFT UP LIGHT"),
  (0x2547, "BOX DRAWINGS DOWN LIGHT AND UP HORIZONTAL HEAVY"),
  (0x2548, "BOX DRAWINGS UP LIGHT AND DOWN HORIZONTAL HEAVY"),
  (0x2549, "BOX DRAWINGS RIGHT LIGHT AND LEFT VERTICAL HEAVY"),
  (0x254A, "BOX DRAWINGS LEFT LIGHT AND RIGHT VERTICAL HEAVY"),
  (0x254B, "BOX DRAWINGS HEAVY VERTICAL AND HORIZONTAL;BOX DRAWINGS LIGHT DOUBLE DASH HORIZONTAL"),
  (0x254D, "BOX DRAWINGS HEAVY DOUBLE DASH HORIZONTAL;BOX DRAWINGS LIGHT DOUBLE DASH VERTICAL"),
  (0x254F, "BOX DRAWINGS HEAVY DOUBLE DASH VERTICAL;BOX DRAWINGS DOUBLE HORIZONTAL"),
  (0x2551, "BOX DRAWINGS DOUBLE VERTICAL;BOX DRAWINGS DOWN SINGLE AND RIGHT DOUBLE"),
  (0x2553, "BOX DRAWINGS DOWN DOUBLE AND RIGHT SINGLE;BOX DRAWINGS DOUBLE DOWN AND RIGHT"),
  (0x2555, "BOX DRAWINGS DOWN SINGLE AND LEFT DOUBLE;BOX DRAWINGS DOWN DOUBLE AND LEFT SINGLE"),
  (0x2557, "BOX DRAWINGS DOUBLE DOWN AND LEFT;BOX DRAWINGS UP SINGLE AND RIGHT DOUBLE"),
  (0x2559, "BOX DRAWINGS UP DOUBLE AND RIGHT SINGLE;BOX DRAWINGS DOUBLE UP AND RIGHT"),
  (0x255B, "BOX DRAWINGS UP SINGLE AND LEFT DOUBLE;BOX DRAWINGS UP DOUBLE AND LEFT SINGLE"),
  (0x255D, "BOX DRAWINGS DOUBLE UP AND LEFT;BOX DRAWINGS VERTICAL SINGLE AND RIGHT DOUBLE"),
  (0x255F, "BOX DRAWINGS VERTICAL DOUBLE AND RIGHT SINGLE;BOX DRAWINGS DOUBLE VERTICAL AND RIGHT"),
  (0x2561, "BOX DRAWINGS VERTICAL SINGLE AND LEFT DOUBLE"),
  (0x2562, "BOX DRAWINGS VERTICAL DOUBLE AND LEFT SINGLE;BOX DRAWINGS DOUBLE VERTICAL AND LEFT"),
  (0x2564, "BOX DRAWINGS DOWN SINGLE AND HORIZONTAL DOUBLE"),
  (0x2565, "BOX DRAWINGS DOWN DOUBLE AND HORIZONTAL SINGLE"),
  (0x2566, "BOX DRAWINGS DOUBLE DOWN AND HORIZONTAL;BOX DRAWINGS UP SINGLE AND HORIZONTAL DOUBLE"),
  (0x2568, "BOX DRAWINGS UP DOUBLE AND HORIZONTAL SINGLE;BOX DRAWINGS DOUBLE UP AND HORIZONTAL"),
  (0x256A, "BOX DRAWINGS VERTICAL SINGLE AND HORIZONTAL DOUBLE"),
  (0x256B, "BOX DRAWINGS VERTICAL DOUBLE AND HORIZONTAL SINGLE"),
  (0x256C, "BOX DRAWINGS DOUBLE VERTICAL AND HORIZONTAL;BOX DRAWINGS LIGHT ARC DOWN AND RIGHT"),
  (0x256E, "BOX DRAWINGS LIGHT ARC DOWN AND LEFT;BOX DRAWINGS LIGHT ARC UP AND LEFT"),
  (0x2570, "BOX DRAWINGS LIGHT ARC UP AND RIGHT"),
  (0x2571, "BOX DRAWINGS LIGHT DIAGONAL UPPER RIGHT TO LOWER LEFT"),
  (0x2572, "BOX DRAWINGS LIGHT DIAGONAL UPPER LEFT TO LOWER RIGHT"),
  (0x2573, "BOX DRAWINGS LIGHT DIAGONAL CROSS;BOX DRAWINGS LIGHT LEFT;BOX DRAWINGS LIGHT UP"),
  (0x2576, "BOX DRAWINGS LIGHT RIGHT;BOX DRAWINGS LIGHT DOWN;BOX DRAWINGS HEAVY LEFT"),
  (0x2579, "BOX DRAWINGS HEAVY UP;BOX DRAWINGS HEAVY RIGHT;BOX DRAWINGS HEAVY DOWN"),
  (0x257C, "BOX DRAWINGS LIGHT LEFT AND HEAVY RIGHT;BOX DRAWINGS LIGHT UP AND HEAVY DOWN"),
  (0x257E, "BOX DRAWINGS HEAVY LEFT AND LIGHT RIGHT;BOX DRAWINGS HEAVY UP AND LIGHT DOWN"),
  (0x2580, "UPPER HALF BLOCK;LOWER ONE EIGHTH BLOCK;LOWER ONE QUARTER BLOCK"),
  (0x2583, "LOWER THREE EIGHTHS BLOCK;LOWER HALF BLOCK;LOWER FIVE EIGHTHS BLOCK"),
  (0x2586, "LOWER THREE QUARTERS BLOCK;LOWER SEVEN EIGHTHS BLOCK;FULL BLOCK"),
  (0x2589, "LEFT SEVEN EIGHTHS BLOCK;LEFT THREE QUARTERS BLOCK;LEFT FIVE EIGHTHS BLOCK"),
  (0x258C, "LEFT HALF BLOCK;LEFT THREE EIGHTHS BLOCK;LEFT ONE QUARTER BLOCK;LEFT ONE EIGHTH BLOCK"),
  (0x2590, "RIGHT HALF BLOCK;LIGHT SHADE;MEDIUM SHADE;DARK SHADE;UPPER ONE EIGHTH BLOCK"),
  (0x2595, "RIGHT ONE EIGHTH BLOCK;QUADRANT LOWER LEFT;QUADRANT LOWER RIGHT;QUADRANT UPPER LEFT"),
  (0x2599, "QUADRANT UPPER LEFT AND LOWER LEFT AND LOWER RIGHT"),
  (0x259A, "QUADRANT UPPER LEFT AND LOWER RIGHT"),
  (0x259B, "QUADRANT UPPER LEFT AND UPPER RIGHT AND LOWER LEFT"),
  (0x259C, "QUADRANT UPPER LEFT AND UPPER RIGHT AND LOWER RIGHT;QUADRANT UPPER RIGHT"),
  (0x259E, "QUADRANT UPPER RIGHT AND LOWER LEFT"),
  (0x259F, "QUADRANT UPPER RIGHT AND LOWER LEFT AND LOWER RIGHT;BLACK SQUARE;WHITE SQUARE"),
  (0x25A2, "WHITE SQUARE WITH ROUNDED CORNERS;WHITE SQUARE CONTAINING BLACK SMALL SQUARE"),
  (0x25A4, "SQUARE WITH HORIZONTAL FILL;SQUARE WITH VERTICAL FILL"),
  (0x25A6, "SQUARE WITH ORTHOGONAL CROSSHATCH FILL;SQUARE WITH UPPER LEFT TO LOWER RIGHT FILL"),
  (0x25A8, "SQUARE WITH UPPER RIGHT TO LOWER LEFT FILL;SQUARE WITH DIAGONAL CROSSHATCH FILL"),
  (0x25AA, "BLACK SMALL SQUARE;WHITE SMALL SQUARE;BLACK RECTANGLE;WHITE RECTANGLE"),
  (0x25AE, "BLACK VERTICAL RECTANGLE;WHITE VERTICAL RECTANGLE;BLACK PARALLELOGRAM"),
  (0x25B1, "WHITE PARALLELOGRAM;BLACK UP-POINTING TRIANGLE;WHITE UP-POINTING TRIANGLE"),
  (0x25B4, "BLACK UP-POINTING SMALL TRIANGLE;WHITE UP-POINTING SMALL TRIANGLE"),
  (0x25B6, "BLACK RIGHT-POINTING TRIANGLE;WHITE RIGHT-POINTING TRIANGLE"),
  (0x25B8, "BLACK RIGHT-POINTING SMALL TRIANGLE;WHITE RIGHT-POINTING SMALL TRIANGLE"),
  (0x25BA, "BLACK RIGHT-POINTING POINTER;WHITE RIGHT-POINTING POINTER"),
  (0x25BC, "BLACK DOWN-POINTING TRIANGLE;WHITE DOWN-POINTING TRIANGLE"),
  (0x25BE, "BLACK DOWN-POINTING SMALL TRIANGLE;WHITE DOWN-POINTING SMALL TRIANGLE"),
  (0x25C0, "BLACK LEFT-POINTING TRIANGLE;WHITE LEFT-POINTING TRIANGLE"),
  (0x25C2, "BLACK LEFT-POINTING SMALL TRIANGLE;WHITE LEFT-POINTING SMALL TRIANGLE"),
  (0x25C4, "BLACK LEFT-POINTING POINTER;WHITE LEFT-POINTING POINTER;BLACK DIAMOND;WHITE DIAMOND"),
  (0x25C8, "WHITE DIAMOND CONTAINING BLACK SMALL DIAMOND;FISHEYE;LOZENGE;WHITE CIRCLE"),
  (0x25CC, "DOTTED CIRCLE;CIRCLE WITH VERTICAL FILL;BULLSEYE;BLACK CIRCLE"),
  (0x25D0, "CIRCLE WITH LEFT HALF BLACK;CIRCLE WITH RIGHT HALF BLACK;CIRCLE WITH LOWER HALF BLACK"),
  (0x25D3, "CIRCLE WITH UPPER HALF BLACK;CIRCLE WITH UPPER RIGHT QUADRANT BLACK"),
  (0x25D5, "CIRCLE WITH ALL BUT UPPER LEFT QUADRANT BLACK;LEFT HALF BLACK CIRCLE"),
  (0x25D7, "RIGHT HALF BLACK CIRCLE;INVERSE BULLET;INVERSE WHITE CIRCLE"),
  (0x25DA, "UPPER HALF INVERSE WHITE CIRCLE;LOWER HALF INVERSE WHITE CIRCLE"),
  (0x25DC, "UPPER LEFT QUADRANT CIRCULAR ARC;UPPER RIGHT QUADRANT CIRCULAR ARC"),
  (0x25DE, "LOWER RIGHT QUADRANT CIRCULAR ARC;LOWER LEFT QUADRANT CIRCULAR ARC;UPPER HALF CIRCLE"),
  (0x25E1, "LOWER HALF CIRCLE;BLACK LOWER RIGHT TRIANGLE;BLACK LOWER LEFT TRIANGLE"),
  (0x25E4, "BLACK UPPER LEFT TRIANGLE;BLACK UPPER RIGHT TRIANGLE;WHITE BULLET"),
  (0x25E7, "SQUARE WITH LEFT HALF BLACK;SQUARE WITH RIGHT HALF BLACK"),
  (0x25E9, "SQUARE WITH UPPER LEFT DIAGONAL HALF BLACK"),
  (0x25EA, "SQUARE WITH LOWER RIGHT DIAGONAL HALF BLACK;WHITE SQUARE WITH VERTICAL BISECTING LINE"),
  (0x25EC, "WHITE UP-POINTING TRIANGLE WITH DOT;UP-POINTING TRIANGLE WITH LEFT HALF BLACK"),
  (0x25EE, "UP-POINTING TRIANGLE WITH RIGHT HALF BLACK;LARGE CIRCLE"),
  (0x25F0, "WHITE SQUARE WITH UPPER LEFT QUADRANT;WHITE SQUARE WITH LOWER LEFT QUADRANT"),
  (0x25F2, "WHITE SQUARE WITH LOWER RIGHT QUADRANT;WHITE SQUARE WITH UPPER RIGHT QUADRANT"),
  (0x25F4, "WHITE CIRCLE WITH UPPER LEFT QUADRANT;WHITE CIRCLE WITH LOWER LEFT QUADRANT"),
  (0x25F6, "WHITE CIRCLE WITH LOWER RIGHT QUADRANT;WHITE CIRCLE WITH UPPER RIGHT QUADRANT"),
  (0x25F8, "UPPER LEFT TRIANGLE;UPPER RIGHT TRIANGLE;LOWER LEFT TRIANGLE;WHITE MEDIUM SQUARE"),
  (0x25FC, "BLACK MEDIUM SQUARE;WHITE MEDIUM SMALL SQUARE;BLACK MEDIUM SMALL SQUARE"),
  (0x25FF, "LOWER RIGHT TRIANGLE;BLACK SUN WITH RAYS;CLOUD;UMBRELLA;SNOWMAN;COMET;BLACK STAR"),
  (0x2606, "WHITE STAR;LIGHTNING;THUNDERSTORM;SUN;ASCENDING NODE;DESCENDING NODE;CONJUNCTION"),
  (0x260D, "OPPOSITION;BLACK TELEPHONE;WHITE TELEPHONE;BALLOT BOX;BALLOT BOX WITH CHECK"),
  (0x2612, "BALLOT BOX WITH X;SALTIRE;UMBRELLA WITH RAIN DROPS;HOT BEVERAGE;WHITE SHOGI PIECE"),
  (0x2617, "BLACK SHOGI PIECE;SHAMROCK;REVERSED ROTATED FLORAL HEART BULLET"),
  (0x261A, "BLACK LEFT POINTING INDEX;BLACK RIGHT POINTING INDEX;WHITE LEFT POINTING INDEX"),
  (0x261D, "WHITE UP POINTING INDEX;WHITE RIGHT POINTING INDEX;WHITE DOWN POINTING INDEX"),
  (0x2620, "SKULL AND CROSSBONES;CAUTION SIGN;RADIOACTIVE SIGN;BIOHAZARD SIGN;CADUCEUS;ANKH"),
  (0x2626, "ORTHODOX CROSS;CHI RHO;CROSS OF LORRAINE;CROSS OF JERUSALEM;STAR AND CRESCENT"),
  (0x262B, "FARSI SYMBOL;ADI SHAKTI;HAMMER AND SICKLE;PEACE SYMBOL;YIN YANG;TRIGRAM FOR HEAVEN"),
  (0x2631, "TRIGRAM FOR LAKE;TRIGRAM FOR FIRE;TRIGRAM FOR THUNDER;TRIGRAM FOR WIND"),
  (0x2635, "TRIGRAM FOR WATER;TRIGRAM FOR MOUNTAIN;TRIGRAM FOR EARTH;WHEEL OF DHARMA"),
  (0x2639, "WHITE FROWNING FACE;WHITE SMILING FACE;BLACK SMILING FACE;WHITE SUN WITH RAYS"),
  (0x263D, "FIRST QUARTER MOON;LAST QUARTER MOON;MERCURY;FEMALE SIGN;EARTH;MALE SIGN;JUPITER"),
  (0x2644, "SATURN;URANUS;NEPTUNE;PLUTO;ARIES;TAURUS;GEMINI;CANCER;LEO;VIRGO;LIBRA;SCORPIUS"),
  (0x2650, "SAGITTARIUS;CAPRICORN;AQUARIUS;PISCES;WHITE CHESS KING;WHITE CHESS QUEEN"),
  (0x2656, "WHITE CHESS ROOK;WHITE CHESS BISHOP;WHITE CHESS KNIGHT;WHITE CHESS PAWN"),
  (0x265A, "BLACK CHESS KING;BLACK CHESS QUEEN;BLACK CHESS ROOK;BLACK CHESS BISHOP"),
  (0x265E, "BLACK CHESS KNIGHT;BLACK CHESS PAWN;BLACK SPADE SUIT;WHITE HEART SUIT"),
  (0x2662, "WHITE DIAMOND SUIT;BLACK CLUB SUIT;WHITE SPADE SUIT;BLACK HEART SUIT"),
  (0x2666, "BLACK DIAMOND SUIT;WHITE CLUB SUIT;HOT SPRINGS;QUARTER NOTE;EIGHTH NOTE"),
  (0x266B, "BEAMED EIGHTH NOTES;BEAMED SIXTEENTH NOTES;MUSIC FLAT SIGN;MUSIC NATURAL SIGN"),
  (0x266F, "MUSIC SHARP SIGN;WEST SYRIAC CROSS;EAST SYRIAC CROSS;UNIVERSAL RECYCLING SYMBOL"),
  (0x2673, "RECYCLING SYMBOL FOR TYPE-1 PLASTICS;RECYCLING SYMBOL FOR TYPE-2 PLASTICS"),
  (0x2675, "RECYCLING SYMBOL FOR TYPE-3 PLASTICS;RECYCLING SYMBOL FOR TYPE-4 PLASTICS"),
  (0x2677, "RECYCLING SYMBOL FOR TYPE-5 PLASTICS;RECYCLING SYMBOL FOR TYPE-6 PLASTICS"),
  (0x2679, "RECYCLING SYMBOL FOR TYPE-7 PLASTICS;RECYCLING SYMBOL FOR GENERIC MATERIALS"),
  (0x267B, "BLACK UNIVERSAL RECYCLING SYMBOL;RECYCLED PAPER SYMBOL"),
  (0x267D, "PARTIALLY-RECYCLED PAPER SYMBOL;PERMANENT PAPER SIGN;WHEELCHAIR SYMBOL;DIE FACE-1"),
  (0x2681, "DIE FACE-2;DIE FACE-3;DIE FACE-4;DIE FACE-5;DIE FACE-6;WHITE CIRCLE WITH DOT RIGHT"),
  (0x2687, "WHITE CIRCLE WITH TWO DOTS;BLACK CIRCLE WITH WHITE DOT RIGHT"),
  (0x2689, "BLACK CIRCLE WITH TWO WHITE DOTS;MONOGRAM FOR YANG;MONOGRAM FOR YIN"),
  (0x268C, "DIGRAM FOR GREATER YANG;DIGRAM FOR LESSER YIN;DIGRAM FOR LESSER YANG"),
  (0x268F, "DIGRAM FOR GREATER YIN;WHITE FLAG;BLACK FLAG;HAMMER AND PICK;ANCHOR;CROSSED SWORDS"),
  (0x2695, "STAFF OF AESCULAPIUS;SCALES;ALEMBIC;FLOWER;GEAR;STAFF OF HERMES;ATOM SYMBOL"),
  (0x269C, "FLEUR-DE-LIS;OUTLINED WHITE STAR;THREE LINES CONVERGING RIGHT"),
  (0x269F, "THREE LINES CONVERGING LEFT;WARNING SIGN;HIGH VOLTAGE SIGN;DOUBLED FEMALE SIGN"),
  (0x26A3, "DOUBLED MALE SIGN;INTERLOCKED FEMALE AND MALE SIGN;MALE AND FEMALE SIGN"),
  (0x26A6, "MALE WITH STROKE SIGN;MALE WITH STROKE AND MALE AND FEMALE SIGN"),
  (0x26A8, "VERTICAL MALE WITH STROKE SIGN;HORIZONTAL MALE WITH STROKE SIGN;MEDIUM WHITE CIRCLE"),
  (0x26AB, "MEDIUM BLACK CIRCLE;MEDIUM SMALL WHITE CIRCLE;MARRIAGE SYMBOL;DIVORCE SYMBOL"),
  (0x26AF, "UNMARRIED PARTNERSHIP SYMBOL;COFFIN;FUNERAL URN;NEUTER;CERES;PALLAS;JUNO;VESTA;CHIRON"),
  (0x26B8, "BLACK MOON LILITH;SEXTILE;SEMISEXTILE;QUINCUNX;SESQUIQUADRATE;SOCCER BALL;BASEBALL"),
  (0x26BF, "SQUARED KEY;WHITE DRAUGHTS MAN;WHITE DRAUGHTS KING;BLACK DRAUGHTS MAN"),
  (0x26C3, "BLACK DRAUGHTS KING;SNOWMAN WITHOUT SNOW;SUN BEHIND CLOUD;RAIN;BLACK SNOWMAN"),
  (0x26C8, "THUNDER CLOUD AND RAIN;TURNED WHITE SHOGI PIECE;TURNED BLACK SHOGI PIECE"),
  (0x26CB, "WHITE DIAMOND IN SQUARE;CROSSING LANES;DISABLED CAR;OPHIUCHUS;PICK;CAR SLIDING"),
  (0x26D1, "HELMET WITH WHITE CROSS;CIRCLED CROSSING LANES;CHAINS;NO ENTRY"),
  (0x26D5, "ALTERNATE ONE-WAY LEFT WAY TRAFFIC;BLACK TWO-WAY LEFT WAY TRAFFIC"),
  (0x26D7, "WHITE TWO-WAY LEFT WAY TRAFFIC;BLACK LEFT LANE MERGE;WHITE LEFT LANE MERGE"),
  (0x26DA, "DRIVE SLOW SIGN;HEAVY WHITE DOWN-POINTING TRIANGLE;LEFT CLOSED ENTRY;SQUARED SALTIRE"),
  (0x26DE, "FALLING DIAGONAL IN WHITE CIRCLE IN BLACK SQUARE;BLACK TRUCK;RESTRICTED LEFT ENTRY-1"),
  (0x26E1, "RESTRICTED LEFT ENTRY-2;ASTRONOMICAL SYMBOL FOR URANUS"),
  (0x26E3, "HEAVY CIRCLE WITH STROKE AND TWO DOTS ABOVE;PENTAGRAM"),
  (0x26E5, "RIGHT-HANDED INTERLACED PENTAGRAM;LEFT-HANDED INTERLACED PENTAGRAM;INVERTED PENTAGRAM"),
  (0x26E8, "BLACK CROSS ON SHIELD;SHINTO SHRINE;CHURCH;CASTLE;HISTORIC SITE;GEAR WITHOUT HUB"),
  (0x26EE, "GEAR WITH HANDLES;MAP SYMBOL FOR LIGHTHOUSE;MOUNTAIN;UMBRELLA ON GROUND;FOUNTAIN"),
  (0x26F3, "FLAG IN HOLE;FERRY;SAILBOAT;SQUARE FOUR CORNERS;SKIER;ICE SKATE;PERSON WITH BALL;TENT"),
  (0x26FB, "JAPANESE BANK SYMBOL;HEADSTONE GRAVEYARD SYMBOL;FUEL PUMP;CUP ON BLACK SQUARE"),
  (0x26FF, "WHITE FLAG WITH HORIZONTAL MIDDLE BLACK STRIPE;BLACK SAFETY SCISSORS"),
  (0x2701, "UPPER BLADE SCISSORS;BLACK SCISSORS;LOWER BLADE SCISSORS;WHITE SCISSORS"),
  (0x2705, "WHITE HEAVY CHECK MARK;TELEPHONE LOCATION SIGN;TAPE DRIVE;AIRPLANE;ENVELOPE"),
  (0x270A, "RAISED FIST;RAISED HAND;VICTORY HAND;WRITING HAND;LOWER RIGHT PENCIL;PENCIL"),
  (0x2710, "UPPER RIGHT PENCIL;WHITE NIB;BLACK NIB;CHECK MARK;HEAVY CHECK MARK;MULTIPLICATION X"),
  (0x2716, "HEAVY MULTIPLICATION X;BALLOT X;HEAVY BALLOT X;OUTLINED GREEK CROSS;HEAVY GREEK CROSS")]

/-- The names from code point 271B to 29A6. -/
def symbolNamesFrom271B : List (Nat × String) := [
  (0x271B, "OPEN CENTRE CROSS;HEAVY OPEN CENTRE CROSS;LATIN CROSS;SHADOWED WHITE LATIN CROSS"),
  (0x271F, "OUTLINED LATIN CROSS;MALTESE CROSS;STAR OF DAVID;FOUR TEARDROP-SPOKED ASTERISK"),
  (0x2723, "FOUR BALLOON-SPOKED ASTERISK;HEAVY FOUR BALLOON-SPOKED ASTERISK"),
  (0x2725, "FOUR CLUB-SPOKED ASTERISK;BLACK FOUR POINTED STAR;WHITE FOUR POINTED STAR;SPARKLES"),
  (0x2729, "STRESS OUTLINED WHITE STAR;CIRCLED WHITE STAR;OPEN CENTRE BLACK STAR"),
  (0x272C, "BLACK CENTRE WHITE STAR;OUTLINED BLACK STAR;HEAVY OUTLINED BLACK STAR;PINWHEEL STAR"),
  (0x2730, "SHADOWED WHITE STAR;HEAVY ASTERISK;OPEN CENTRE ASTERISK;EIGHT SPOKED ASTERISK"),
  (0x2734, "EIGHT POINTED BLACK STAR;EIGHT POINTED PINWHEEL STAR;SIX POINTED BLACK STAR"),
  (0x2737, "EIGHT POINTED RECTILINEAR BLACK STAR;HEAVY EIGHT POINTED RECTILINEAR BLACK STAR"),
  (0x2739, "TWELVE POINTED BLACK STAR;SIXTEEN POINTED ASTERISK;TEARDROP-SPOKED ASTERISK"),
  (0x273C, "OPEN CENTRE TEARDROP-SPOKED ASTERISK;HEAVY TEARDROP-SPOKED ASTERISK"),
  (0x273E, "SIX PETALLED BLACK AND WHITE FLORETTE;BLACK FLORETTE;WHITE FLORETTE"),
  (0x2741, "EIGHT PETALLED OUTLINED BLACK FLORETTE;CIRCLED OPEN CENTRE EIGHT POINTED STAR"),
  (0x2743, "HEAVY TEARDROP-SPOKED PINWHEEL ASTERISK;SNOWFLAKE;TIGHT TRIFOLIATE SNOWFLAKE"),
  (0x2746, "HEAVY CHEVRON SNOWFLAKE;SPARKLE;HEAVY SPARKLE;BALLOON-SPOKED ASTERISK"),
  (0x274A, "EIGHT TEARDROP-SPOKED PROPELLER ASTERISK"),
  (0x274B, "HEAVY EIGHT TEARDROP-SPOKED PROPELLER ASTERISK;CROSS MARK;SHADOWED WHITE CIRCLE"),
  (0x274E, "NEGATIVE SQUARED CROSS MARK;LOWER RIGHT DROP-SHADOWED WHITE SQUARE"),
  (0x2750, "UPPER RIGHT DROP-SHADOWED WHITE SQUARE;LOWER RIGHT SHADOWED WHITE SQUARE"),
  (0x2752, "UPPER RIGHT SHADOWED WHITE SQUARE;BLACK QUESTION MARK ORNAMENT"),
  (0x2754, "WHITE QUESTION MARK ORNAMENT;WHITE EXCLAMATION MARK ORNAMENT"),
  (0x2756, "BLACK DIAMOND MINUS WHITE X;HEAVY EXCLAMATION MARK SYMBOL;LIGHT VERTICAL BAR"),
  (0x2759, "MEDIUM VERTICAL BAR;HEAVY VERTICAL BAR"),
  (0x275B, "HEAVY SINGLE TURNED COMMA QUOTATION MARK ORNAMENT"),
  (0x275C, "HEAVY SINGLE COMMA QUOTATION MARK ORNAMENT"),
  (0x275D, "HEAVY DOUBLE TURNED COMMA QUOTATION MARK ORNAMENT"),
  (0x275E, "HEAVY DOUBLE COMMA QUOTATION MARK ORNAMENT"),
  (0x275F, "HEAVY LOW SINGLE COMMA QUOTATION MARK ORNAMENT"),
  (0x2760, "HEAVY LOW DOUBLE COMMA QUOTATION MARK ORNAMENT;CURVED STEM PARAGRAPH SIGN ORNAMENT"),
  (0x2762, "HEAVY EXCLAMATION MARK ORNAMENT;HEAVY HEART EXCLAMATION MARK ORNAMENT"),
  (0x2764, "HEAVY BLACK HEART;ROTATED HEAVY BLACK HEART BULLET;FLORAL HEART"),
  (0x2767, "ROTATED FLORAL HEART BULLET;MEDIUM LEFT PARENTHESIS ORNAMENT"),
  (0x2769, "MEDIUM RIGHT PARENTHESIS ORNAMENT;MEDIUM FLATTENED LEFT PARENTHESIS ORNAMENT"),
  (0x276B, "MEDIUM FLATTENED RIGHT PARENTHESIS ORNAMENT"),
  (0x276C, "MEDIUM LEFT-POINTING ANGLE BRACKET ORNAMENT"),
  (0x276D, "MEDIUM RIGHT-POINTING ANGLE BRACKET ORNAMENT"),
  (0x276E, "HEAVY LEFT-POINTING ANGLE QUOTATION MARK ORNAMENT"),
  (0x276F, "HEAVY RIGHT-POINTING ANGLE QUOTATION MARK ORNAMENT"),
  (0x2770, "HEAVY LEFT-POINTING ANGLE BRACKET ORNAMENT"),
  (0x2771, "HEAVY RIGHT-POINTING ANGLE BRACKET ORNAMENT"),
  (0x2772, "LIGHT LEFT TORTOISE SHELL BRACKET ORNAMENT"),
  (0x2773, "LIGHT RIGHT TORTOISE SHELL BRACKET ORNAMENT;MEDIUM LEFT CURLY BRACKET ORNAMENT"),
  (0x2775, "MEDIUM RIGHT CURLY BRACKET ORNAMENT;DINGBAT NEGATIVE CIRCLED DIGIT ONE"),
  (0x2777, "DINGBAT NEGATIVE CIRCLED DIGIT TWO;DINGBAT NEGATIVE CIRCLED DIGIT THREE"),
  (0x2779, "DINGBAT NEGATIVE CIRCLED DIGIT FOUR;DINGBAT NEGATIVE CIRCLED DIGIT FIVE"),
  (0x277B, "DINGBAT NEGATIVE CIRCLED DIGIT SIX;DINGBAT NEGATIVE CIRCLED DIGIT SEVEN"),
  (0x277D, "DINGBAT NEGATIVE CIRCLED DIGIT EIGHT;DINGBAT NEGATIVE CIRCLED DIGIT NINE"),
  (0x277F, "DINGBAT NEGATIVE CIRCLED NUMBER TEN;DINGBAT CIRCLED SANS-SERIF DIGIT ONE"),
  (0x2781, "DINGBAT CIRCLED SANS-SERIF DIGIT TWO;DINGBAT CIRCLED SANS-SERIF DIGIT THREE"),
  (0x2783, "DINGBAT CIRCLED SANS-SERIF DIGIT FOUR;DINGBAT CIRCLED SANS-SERIF DIGIT FIVE"),
  (0x2785, "DINGBAT CIRCLED SANS-SERIF DIGIT SIX;DINGBAT CIRCLED SANS-SERIF DIGIT SEVEN"),
  (0x2787, "DINGBAT CIRCLED SANS-SERIF DIGIT EIGHT;DINGBAT CIRCLED SANS-SERIF DIGIT NINE"),
  (0x2789, "DINGBAT CIRCLED SANS-SERIF NUMBER TEN;DINGBAT NEGATIVE CIRCLED SANS-SERIF DIGIT ONE"),
  (0x278B, "DINGBAT NEGATIVE CIRCLED SANS-SERIF DIGIT TWO"),
  (0x278C, "DINGBAT NEGATIVE CIRCLED SANS-SERIF DIGIT THREE"),
  (0x278D, "DINGBAT NEGATIVE CIRCLED SANS-SERIF DIGIT FOUR"),
  (0x278E, "DINGBAT NEGATIVE CIRCLED SANS-SERIF DIGIT FIVE"),
  (0x278F, "DINGBAT NEGATIVE CIRCLED SANS-SERIF DIGIT SIX"),
  (0x2790, "DINGBAT NEGATIVE CIRCLED SANS-SERIF DIGIT SEVEN"),
  (0x2791, "DINGBAT NEGATIVE CIRCLED SANS-SERIF DIGIT EIGHT"),
  (0x2792, "DINGBAT NEGATIVE CIRCLED SANS-SERIF DIGIT NINE"),
  (0x2793, "DINGBAT NEGATIVE CIRCLED SANS-SERIF NUMBER TEN;HEAVY WIDE-HEADED RIGHTWARDS ARROW"),
  (0x2795, "HEAVY PLUS SIGN;HEAVY MINUS SIGN;HEAVY DIVISION SIGN;HEAVY SOUTH EAST ARROW"),
  (0x2799, "HEAVY RIGHTWARDS ARROW;HEAVY NORTH EAST ARROW;DRAFTING POINT RIGHTWARDS ARROW"),
  (0x279C, "HEAVY ROUND-TIPPED RIGHTWARDS ARROW;TRIANGLE-HEADED RIGHTWARDS ARROW"),
  (0x279E, "HEAVY TRIANGLE-HEADED RIGHTWARDS ARROW;DASHED TRIANGLE-HEADED RIGHTWARDS ARROW"),
  (0x27A0, "HEAVY DASHED TRIANGLE-HEADED RIGHTWARDS ARROW;BLACK RIGHTWARDS ARROW"),
  (0x27A2, "THREE-D TOP-LIGHTED RIGHTWARDS ARROWHEAD;THREE-D BOTTOM-LIGHTED RIGHTWARDS ARROWHEAD"),
  (0x27A4, "BLACK RIGHTWARDS ARROWHEAD;HEAVY BLACK CURVED DOWNWARDS AND RIGHTWARDS ARROW"),
  (0x27A6, "HEAVY BLACK CURVED UPWARDS AND RIGHTWARDS ARROW;SQUAT BLACK RIGHTWARDS ARROW"),
  (0x27A8, "HEAVY CONCAVE-POINTED BLACK RIGHTWARDS ARROW;RIGHT-SHADED WHITE RIGHTWARDS ARROW"),
  (0x27AA, "LEFT-SHADED WHITE RIGHTWARDS ARROW;BACK-TILTED SHADOWED WHITE RIGHTWARDS ARROW"),
  (0x27AC, "FRONT-TILTED SHADOWED WHITE RIGHTWARDS ARROW"),
  (0x27AD, "HEAVY LOWER RIGHT-SHADOWED WHITE RIGHTWARDS ARROW"),
  (0x27AE, "HEAVY UPPER RIGHT-SHADOWED WHITE RIGHTWARDS ARROW"),
  (0x27AF, "NOTCHED LOWER RIGHT-SHADOWED WHITE RIGHTWARDS ARROW;CURLY LOOP"),
  (0x27B1, "NOTCHED UPPER RIGHT-SHADOWED WHITE RIGHTWARDS ARROW"),
  (0x27B2, "CIRCLED HEAVY WHITE RIGHTWARDS ARROW;WHITE-FEATHERED RIGHTWARDS ARROW"),
  (0x27B4, "BLACK-FEATHERED SOUTH EAST ARROW;BLACK-FEATHERED RIGHTWARDS ARROW"),
  (0x27B6, "BLACK-FEATHERED NORTH EAST ARROW;HEAVY BLACK-FEATHERED SOUTH EAST ARROW"),
  (0x27B8, "HEAVY BLACK-FEATHERED RIGHTWARDS ARROW;HEAVY BLACK-FEATHERED NORTH EAST ARROW"),
  (0x27BA, "TEARDROP-BARBED RIGHTWARDS ARROW;HEAVY TEARDROP-SHANKED RIGHTWARDS ARROW"),
  (0x27BC, "WEDGE-TAILED RIGHTWARDS ARROW;HEAVY WEDGE-TAILED RIGHTWARDS ARROW"),
  (0x27BE, "OPEN-OUTLINED RIGHTWARDS ARROW;DOUBLE CURLY LOOP;THREE DIMENSIONAL ANGLE"),
  (0x27C1, "WHITE TRIANGLE CONTAINING SMALL WHITE TRIANGLE;PERPENDICULAR;OPEN SUBSET"),
  (0x27C4, "OPEN SUPERSET;LEFT S-SHAPED BAG DELIMITER;RIGHT S-SHAPED BAG DELIMITER"),
  (0x27C7, "OR WITH DOT INSIDE;REVERSE SOLIDUS PRECEDING SUBSET;SUPERSET PRECEDING SOLIDUS"),
  (0x27CA, "VERTICAL BAR WITH HORIZONTAL STROKE;MATHEMATICAL RISING DIAGONAL;LONG DIVISION"),
  (0x27CD, "MATHEMATICAL FALLING DIAGONAL;SQUARED LOGICAL AND;SQUARED LOGICAL OR"),
  (0x27D0, "WHITE DIAMOND WITH CENTRED DOT;AND WITH DOT;ELEMENT OF OPENING UPWARDS"),
  (0x27D3, "LOWER RIGHT CORNER WITH DOT;UPPER LEFT CORNER WITH DOT;LEFT OUTER JOIN"),
  (0x27D6, "RIGHT OUTER JOIN;FULL OUTER JOIN;LARGE UP TACK;LARGE DOWN TACK"),
  (0x27DA, "LEFT AND RIGHT DOUBLE TURNSTILE;LEFT AND RIGHT TACK;LEFT MULTIMAP;LONG RIGHT TACK"),
  (0x27DE, "LONG LEFT TACK;UP TACK WITH CIRCLE ABOVE;LOZENGE DIVIDED BY HORIZONTAL RULE"),
  (0x27E1, "WHITE CONCAVE-SIDED DIAMOND;WHITE CONCAVE-SIDED DIAMOND WITH LEFTWARDS TICK"),
  (0x27E3, "WHITE CONCAVE-SIDED DIAMOND WITH RIGHTWARDS TICK;WHITE SQUARE WITH LEFTWARDS TICK"),
  (0x27E5, "WHITE SQUARE WITH RIGHTWARDS TICK;MATHEMATICAL LEFT WHITE SQUARE BRACKET"),
  (0x27E7, "MATHEMATICAL RIGHT WHITE SQUARE BRACKET;MATHEMATICAL LEFT ANGLE BRACKET"),
  (0x27E9, "MATHEMATICAL RIGHT ANGLE BRACKET;MATHEMATICAL LEFT DOUBLE ANGLE BRACKET"),
  (0x27EB, "MATHEMATICAL RIGHT DOUBLE ANGLE BRACKET"),
  (0x27EC, "MATHEMATICAL LEFT WHITE TORTOISE SHELL BRACKET"),
  (0x27ED, "MATHEMATICAL RIGHT WHITE TORTOISE SHELL BRACKET"),
  (0x27EE, "MATHEMATICAL LEFT FLATTENED PARENTHESIS;MATHEMATICAL RIGHT FLATTENED PARENTHESIS"),
  (0x27F0, "UPWARDS QUADRUPLE ARROW;DOWNWARDS QUADRUPLE ARROW;ANTICLOCKWISE GAPPED CIRCLE ARROW"),
  (0x27F3, "CLOCKWISE GAPPED CIRCLE ARROW;RIGHT ARROW WITH CIRCLED PLUS;LONG LEFTWARDS ARROW"),
  (0x27F6, "LONG RIGHTWARDS ARROW;LONG LEFT RIGHT ARROW;LONG LEFTWARDS DOUBLE ARROW"),
  (0x27F9, "LONG RIGHTWARDS DOUBLE ARROW;LONG LEFT RIGHT DOUBLE ARROW"),
  (0x27FB, "LONG LEFTWARDS ARROW FROM BAR;LONG RIGHTWARDS ARROW FROM BAR"),
  (0x27FD, "LONG LEFTWARDS DOUBLE ARROW FROM BAR;LONG RIGHTWARDS DOUBLE ARROW FROM BAR"),
  (0x27FF, "LONG RIGHTWARDS SQUIGGLE ARROW;RIGHTWARDS TWO-HEADED ARROW WITH VERTICAL STROKE"),
  (0x2901, "RIGHTWARDS TWO-HEADED ARROW WITH DOUBLE VERTICAL STROKE"),
  (0x2902, "LEFTWARDS DOUBLE ARROW WITH VERTICAL STROKE"),
  (0x2903, "RIGHTWARDS DOUBLE ARROW WITH VERTICAL STROKE"),
  (0x2904, "LEFT RIGHT DOUBLE ARROW WITH VERTICAL STROKE;RIGHTWARDS TWO-HEADED ARROW FROM BAR"),
  (0x2906, "LEFTWARDS DOUBLE ARROW FROM BAR;RIGHTWARDS DOUBLE ARROW FROM BAR"),
  (0x2908, "DOWNWARDS ARROW WITH HORIZONTAL STROKE;UPWARDS ARROW WITH HORIZONTAL STROKE"),
  (0x290A, "UPWARDS TRIPLE ARROW;DOWNWARDS TRIPLE ARROW;LEFTWARDS DOUBLE DASH ARROW"),
  (0x290D, "RIGHTWARDS DOUBLE DASH ARROW;LEFTWARDS TRIPLE DASH ARROW;RIGHTWARDS TRIPLE DASH ARROW"),
  (0x2910, "RIGHTWARDS TWO-HEADED TRIPLE DASH ARROW;RIGHTWARDS ARROW WITH DOTTED STEM"),
  (0x2912, "UPWARDS ARROW TO BAR;DOWNWARDS ARROW TO BAR"),
  (0x2914, "RIGHTWARDS ARROW WITH TAIL WITH VERTICAL STROKE"),
  (0x2915, "RIGHTWARDS ARROW WITH TAIL WITH DOUBLE VERTICAL STROKE"),
  (0x2916, "RIGHTWARDS TWO-HEADED ARROW WITH TAIL"),
  (0x2917, "RIGHTWARDS TWO-HEADED ARROW WITH TAIL WITH VERTICAL STROKE"),
  (0x2918, "RIGHTWARDS TWO-HEADED ARROW WITH TAIL WITH DOUBLE VERTICAL STROKE"),
  (0x2919, "LEFTWARDS ARROW-TAIL;RIGHTWARDS ARROW-TAIL;LEFTWARDS DOUBLE ARROW-TAIL"),
  (0x291C, "RIGHTWARDS DOUBLE ARROW-TAIL;LEFTWARDS ARROW TO BLACK DIAMOND"),
  (0x291E, "RIGHTWARDS ARROW TO BLACK DIAMOND;LEFTWARDS ARROW FROM BAR TO BLACK DIAMOND"),
  (0x2920, "RIGHTWARDS ARROW FROM BAR TO BLACK DIAMOND;NORTH WEST AND SOUTH EAST ARROW"),
  (0x2922, "NORTH EAST AND SOUTH WEST ARROW;NORTH WEST ARROW WITH HOOK;NORTH EAST ARROW WITH HOOK"),
  (0x2925, "SOUTH EAST ARROW WITH HOOK;SOUTH WEST ARROW WITH HOOK"),
  (0x2927, "NORTH WEST ARROW AND NORTH EAST ARROW;NORTH EAST ARROW AND SOUTH EAST ARROW"),
  (0x2929, "SOUTH EAST ARROW AND SOUTH WEST ARROW;SOUTH WEST ARROW AND NORTH WEST ARROW"),
  (0x292B, "RISING DIAGONAL CROSSING FALLING DIAGONAL;FALLING DIAGONAL CROSSING RISING DIAGONAL"),
  (0x292D, "SOUTH EAST ARROW CROSSING NORTH EAST ARROW;NORTH EAST ARROW CROSSING SOUTH EAST ARROW"),
  (0x292F, "FALLING DIAGONAL CROSSING NORTH EAST ARROW;RISING DIAGONAL CROSSING SOUTH EAST ARROW"),
  (0x2931, "NORTH EAST ARROW CROSSING NORTH WEST ARROW;NORTH WEST ARROW CROSSING NORTH EAST ARROW"),
  (0x2933, "WAVE ARROW POINTING DIRECTLY RIGHT;ARROW POINTING RIGHTWARDS THEN CURVING UPWARDS"),
  (0x2935, "ARROW POINTING RIGHTWARDS THEN CURVING DOWNWARDS"),
  (0x2936, "ARROW POINTING DOWNWARDS THEN CURVING LEFTWARDS"),
  (0x2937, "ARROW POINTING DOWNWARDS THEN CURVING RIGHTWARDS;RIGHT-SIDE ARC CLOCKWISE ARROW"),
  (0x2939, "LEFT-SIDE ARC ANTICLOCKWISE ARROW;TOP ARC ANTICLOCKWISE ARROW"),
  (0x293B, "BOTTOM ARC ANTICLOCKWISE ARROW;TOP ARC CLOCKWISE ARROW WITH MINUS"),
  (0x293D, "TOP ARC ANTICLOCKWISE ARROW WITH PLUS;LOWER RIGHT SEMICIRCULAR CLOCKWISE ARROW"),
  (0x293F, "LOWER LEFT SEMICIRCULAR ANTICLOCKWISE ARROW;ANTICLOCKWISE CLOSED CIRCLE ARROW"),
  (0x2941, "CLOCKWISE CLOSED CIRCLE ARROW;RIGHTWARDS ARROW ABOVE SHORT LEFTWARDS ARROW"),
  (0x2943, "LEFTWARDS ARROW ABOVE SHORT RIGHTWARDS ARROW"),
  (0x2944, "SHORT RIGHTWARDS ARROW ABOVE LEFTWARDS ARROW;RIGHTWARDS ARROW WITH PLUS BELOW"),
  (0x2946, "LEFTWARDS ARROW WITH PLUS BELOW;RIGHTWARDS ARROW THROUGH X"),
  (0x2948, "LEFT RIGHT ARROW THROUGH SMALL CIRCLE;UPWARDS TWO-HEADED ARROW FROM SMALL CIRCLE"),
  (0x294A, "LEFT BARB UP RIGHT BARB DOWN HARPOON;LEFT BARB DOWN RIGHT BARB UP HARPOON"),
  (0x294C, "UP BARB RIGHT DOWN BARB LEFT HARPOON;UP BARB LEFT DOWN BARB RIGHT HARPOON"),
  (0x294E, "LEFT BARB UP RIGHT BARB UP HARPOON;UP BARB RIGHT DOWN BARB RIGHT HARPOON"),
  (0x2950, "LEFT BARB DOWN RIGHT BARB DOWN HARPOON;UP BARB LEFT DOWN BARB LEFT HARPOON"),
  (0x2952, "LEFTWARDS HARPOON WITH BARB UP TO BAR;RIGHTWARDS HARPOON WITH BARB UP TO BAR"),
  (0x2954, "UPWARDS HARPOON WITH BARB RIGHT TO BAR;DOWNWARDS HARPOON WITH BARB RIGHT TO BAR"),
  (0x2956, "LEFTWARDS HARPOON WITH BARB DOWN TO BAR;RIGHTWARDS HARPOON WITH BARB DOWN TO BAR"),
  (0x2958, "UPWARDS HARPOON WITH BARB LEFT TO BAR;DOWNWARDS HARPOON WITH BARB LEFT TO BAR"),
  (0x295A, "LEFTWARDS HARPOON WITH BARB UP FROM BAR;RIGHTWARDS HARPOON WITH BARB UP FROM BAR"),
  (0x295C, "UPWARDS HARPOON WITH BARB RIGHT FROM BAR;DOWNWARDS HARPOON WITH BARB RIGHT FROM BAR"),
  (0x295E, "LEFTWARDS HARPOON WITH BARB DOWN FROM BAR;RIGHTWARDS HARPOON WITH BARB DOWN FROM BAR"),
  (0x2960, "UPWARDS HARPOON WITH BARB LEFT FROM BAR;DOWNWARDS HARPOON WITH BARB LEFT FROM BAR"),
  (0x2962, "LEFTWARDS HARPOON WITH BARB UP ABOVE LEFTWARDS HARPOON WITH BARB DOWN"),
  (0x2963, "UPWARDS HARPOON WITH BARB LEFT BESIDE UPWARDS HARPOON WITH BARB RIGHT"),
  (0x2964, "RIGHTWARDS HARPOON WITH BARB UP ABOVE RIGHTWARDS HARPOON WITH BARB DOWN"),
  (0x2965, "DOWNWARDS HARPOON WITH BARB LEFT BESIDE DOWNWARDS HARPOON WITH BARB RIGHT"),
  (0x2966, "LEFTWARDS HARPOON WITH BARB UP ABOVE RIGHTWARDS HARPOON WITH BARB UP"),
  (0x2967, "LEFTWARDS HARPOON WITH BARB DOWN ABOVE RIGHTWARDS HARPOON WITH BARB DOWN"),
  (0x2968, "RIGHTWARDS HARPOON WITH BARB UP ABOVE LEFTWARDS HARPOON WITH BARB UP"),
  (0x2969, "RIGHTWARDS HARPOON WITH BARB DOWN ABOVE LEFTWARDS HARPOON WITH BARB DOWN"),
  (0x296A, "LEFTWARDS HARPOON WITH BARB UP ABOVE LONG DASH"),
  (0x296B, "LEFTWARDS HARPOON WITH BARB DOWN BELOW LONG DASH"),
  (0x296C, "RIGHTWARDS HARPOON WITH BARB UP ABOVE LONG DASH"),
  (0x296D, "RIGHTWARDS HARPOON WITH BARB DOWN BELOW LONG DASH"),
  (0x296E, "UPWARDS HARPOON WITH BARB LEFT BESIDE DOWNWARDS HARPOON WITH BARB RIGHT"),
  (0x296F, "DOWNWARDS HARPOON WITH BARB LEFT BESIDE UPWARDS HARPOON WITH BARB RIGHT"),
  (0x2970, "RIGHT DOUBLE ARROW WITH ROUNDED HEAD;EQUALS SIGN ABOVE RIGHTWARDS ARROW"),
  (0x2972, "TILDE OPERATOR ABOVE RIGHTWARDS ARROW;LEFTWARDS ARROW ABOVE TILDE OPERATOR"),
  (0x2974, "RIGHTWARDS ARROW ABOVE TILDE OPERATOR;RIGHTWARDS ARROW ABOVE ALMOST EQUAL TO"),
  (0x2976, "LESS-THAN ABOVE LEFTWARDS ARROW;LEFTWARDS ARROW THROUGH LESS-THAN"),
  (0x2978, "GREATER-THAN ABOVE RIGHTWARDS ARROW;SUBSET ABOVE RIGHTWARDS ARROW"),
  (0x297A, "LEFTWARDS ARROW THROUGH SUBSET;SUPERSET ABOVE LEFTWARDS ARROW;LEFT FISH TAIL"),
  (0x297D, "RIGHT FISH TAIL;UP FISH TAIL;DOWN FISH TAIL;TRIPLE VERTICAL BAR DELIMITER"),
  (0x2981, "Z NOTATION SPOT;Z NOTATION TYPE COLON;LEFT WHITE CURLY BRACKET"),
  (0x2984, "RIGHT WHITE CURLY BRACKET;LEFT WHITE PARENTHESIS;RIGHT WHITE PARENTHESIS"),
  (0x2987, "Z NOTATION LEFT IMAGE BRACKET;Z NOTATION RIGHT IMAGE BRACKET"),
  (0x2989, "Z NOTATION LEFT BINDING BRACKET;Z NOTATION RIGHT BINDING BRACKET"),
  (0x298B, "LEFT SQUARE BRACKET WITH UNDERBAR;RIGHT SQUARE BRACKET WITH UNDERBAR"),
  (0x298D, "LEFT SQUARE BRACKET WITH TICK IN TOP CORNER"),
  (0x298E, "RIGHT SQUARE BRACKET WITH TICK IN BOTTOM CORNER"),
  (0x298F, "LEFT SQUARE BRACKET WITH TICK IN BOTTOM CORNER"),
  (0x2990, "RIGHT SQUARE BRACKET WITH TICK IN TOP CORNER;LEFT ANGLE BRACKET WITH DOT"),
  (0x2992, "RIGHT ANGLE BRACKET WITH DOT;LEFT ARC LESS-THAN BRACKET"),
  (0x2994, "RIGHT ARC GREATER-THAN BRACKET;DOUBLE LEFT ARC GREATER-THAN BRACKET"),
  (0x2996, "DOUBLE RIGHT ARC LESS-THAN BRACKET;LEFT BLACK TORTOISE SHELL BRACKET"),
  (0x2998, "RIGHT BLACK TORTOISE SHELL BRACKET;DOTTED FENCE;VERTICAL ZIGZAG LINE"),
  (0x299B, "MEASURED ANGLE OPENING LEFT;RIGHT ANGLE VARIANT WITH SQUARE"),
  (0x299D, "MEASURED RIGHT ANGLE WITH DOT;ANGLE WITH S INSIDE;ACUTE ANGLE"),
  (0x29A0, "SPHERICAL ANGLE OPENING LEFT;SPHERICAL ANGLE OPENING UP;TURNED ANGLE;REVERSED ANGLE"),
  (0x29A4, "ANGLE WITH UNDERBAR;REVERSED ANGLE WITH UNDERBAR;OBLIQUE ANGLE OPENING UP")]

/-- The names from code point 29A7 to 2B66. -/
def symbolNamesFrom29A7 : List (Nat × String) := [
  (0x29A7, "OBLIQUE ANGLE OPENING DOWN"),
  (0x29A8, "MEASURED ANGLE WITH OPEN ARM ENDING IN ARROW POINTING UP AND RIGHT"),
  (0x29A9, "MEASURED ANGLE WITH OPEN ARM ENDING IN ARROW POINTING UP AND LEFT"),
  (0x29AA, "MEASURED ANGLE WITH OPEN ARM ENDING IN ARROW POINTING DOWN AND RIGHT"),
  (0x29AB, "MEASURED ANGLE WITH OPEN ARM ENDING IN ARROW POINTING DOWN AND LEFT"),
  (0x29AC, "MEASURED ANGLE WITH OPEN ARM ENDING IN ARROW POINTING RIGHT AND UP"),
  (0x29AD, "MEASURED ANGLE WITH OPEN ARM ENDING IN ARROW POINTING LEFT AND UP"),
  (0x29AE, "MEASURED ANGLE WITH OPEN ARM ENDING IN ARROW POINTING RIGHT AND DOWN"),
  (0x29AF, "MEASURED ANGLE WITH OPEN ARM ENDING IN ARROW POINTING LEFT AND DOWN"),
  (0x29B0, "REVERSED EMPTY SET;EMPTY SET WITH OVERBAR;EMPTY SET WITH SMALL CIRCLE ABOVE"),
  (0x29B3, "EMPTY SET WITH RIGHT ARROW ABOVE;EMPTY SET WITH LEFT ARROW ABOVE"),
  (0x29B5, "CIRCLE WITH HORIZONTAL BAR;CIRCLED VERTICAL BAR;CIRCLED PARALLEL"),
  (0x29B8, "CIRCLED REVERSE SOLIDUS;CIRCLED PERPENDICULAR"),
  (0x29BA, "CIRCLE DIVIDED BY HORIZONTAL BAR AND TOP HALF DIVIDED BY VERTICAL BAR"),
  (0x29BB, "CIRCLE WITH SUPERIMPOSED X;CIRCLED ANTICLOCKWISE-ROTATED DIVISION SIGN"),
  (0x29BD, "UP ARROW THROUGH CIRCLE;CIRCLED WHITE BULLET;CIRCLED BULLET;CIRCLED LESS-THAN"),
  (0x29C1, "CIRCLED GREATER-THAN;CIRCLE WITH SMALL CIRCLE TO THE RIGHT"),
  (0x29C3, "CIRCLE WITH TWO HORIZONTAL STROKES TO THE RIGHT;SQUARED RISING DIAGONAL SLASH"),
  (0x29C5, "SQUARED FALLING DIAGONAL SLASH;SQUARED ASTERISK;SQUARED SMALL CIRCLE;SQUARED SQUARE"),
  (0x29C9, "TWO JOINED SQUARES;TRIANGLE WITH DOT ABOVE;TRIANGLE WITH UNDERBAR;S IN TRIANGLE"),
  (0x29CD, "TRIANGLE WITH SERIFS AT BOTTOM;RIGHT TRIANGLE ABOVE LEFT TRIANGLE"),
  (0x29CF, "LEFT TRIANGLE BESIDE VERTICAL BAR;VERTICAL BAR BESIDE RIGHT TRIANGLE"),
  (0x29D1, "BOWTIE WITH LEFT HALF BLACK;BOWTIE WITH RIGHT HALF BLACK;BLACK BOWTIE"),
  (0x29D4, "TIMES WITH LEFT HALF BLACK;TIMES WITH RIGHT HALF BLACK;WHITE HOURGLASS"),
  (0x29D7, "BLACK HOURGLASS;LEFT WIGGLY FENCE;RIGHT WIGGLY FENCE;LEFT DOUBLE WIGGLY FENCE"),
  (0x29DB, "RIGHT DOUBLE WIGGLY FENCE;INCOMPLETE INFINITY;TIE OVER INFINITY"),
  (0x29DE, "INFINITY NEGATED WITH VERTICAL BAR;DOUBLE-ENDED MULTIMAP"),
  (0x29E0, "SQUARE WITH CONTOURED OUTLINE;INCREASES AS;SHUFFLE PRODUCT"),
  (0x29E3, "EQUALS SIGN AND SLANTED PARALLEL;EQUALS SIGN AND SLANTED PARALLEL WITH TILDE ABOVE"),
  (0x29E5, "IDENTICAL TO AND SLANTED PARALLEL;GLEICH STARK;THERMODYNAMIC"),
  (0x29E8, "DOWN-POINTING TRIANGLE WITH LEFT HALF BLACK"),
  (0x29E9, "DOWN-POINTING TRIANGLE WITH RIGHT HALF BLACK;BLACK DIAMOND WITH DOWN ARROW"),
  (0x29EB, "BLACK LOZENGE;WHITE CIRCLE WITH DOWN ARROW;BLACK CIRCLE WITH DOWN ARROW"),
  (0x29EE, "ERROR-BARRED WHITE SQUARE;ERROR-BARRED BLACK SQUARE;ERROR-BARRED WHITE DIAMOND"),
  (0x29F1, "ERROR-BARRED BLACK DIAMOND;ERROR-BARRED WHITE CIRCLE;ERROR-BARRED BLACK CIRCLE"),
  (0x29F4, "RULE-DELAYED;REVERSE SOLIDUS OPERATOR;SOLIDUS WITH OVERBAR"),
  (0x29F7, "REVERSE SOLIDUS WITH HORIZONTAL STROKE;BIG SOLIDUS;BIG REVERSE SOLIDUS;DOUBLE PLUS"),
  (0x29FB, "TRIPLE PLUS;LEFT-POINTING CURVED ANGLE BRACKET;RIGHT-POINTING CURVED ANGLE BRACKET"),
  (0x29FE, "TINY;MINY;N-ARY CIRCLED DOT OPERATOR;N-ARY CIRCLED PLUS OPERATOR"),
  (0x2A02, "N-ARY CIRCLED TIMES OPERATOR;N-ARY UNION OPERATOR WITH DOT"),
  (0x2A04, "N-ARY UNION OPERATOR WITH PLUS;N-ARY SQUARE INTERSECTION OPERATOR"),
  (0x2A06, "N-ARY SQUARE UNION OPERATOR;TWO LOGICAL AND OPERATOR;TWO LOGICAL OR OPERATOR"),
  (0x2A09, "N-ARY TIMES OPERATOR;MODULO TWO SUM;SUMMATION WITH INTEGRAL"),
  (0x2A0C, "QUADRUPLE INTEGRAL OPERATOR;FINITE PART INTEGRAL;INTEGRAL WITH DOUBLE STROKE"),
  (0x2A0F, "INTEGRAL AVERAGE WITH SLASH;CIRCULATION FUNCTION;ANTICLOCKWISE INTEGRATION"),
  (0x2A12, "LINE INTEGRATION WITH RECTANGULAR PATH AROUND POLE"),
  (0x2A13, "LINE INTEGRATION WITH SEMICIRCULAR PATH AROUND POLE"),
  (0x2A14, "LINE INTEGRATION NOT INCLUDING THE POLE;INTEGRAL AROUND A POINT OPERATOR"),
  (0x2A16, "QUATERNION INTEGRAL OPERATOR;INTEGRAL WITH LEFTWARDS ARROW WITH HOOK"),
  (0x2A18, "INTEGRAL WITH TIMES SIGN;INTEGRAL WITH INTERSECTION;INTEGRAL WITH UNION"),
  (0x2A1B, "INTEGRAL WITH OVERBAR;INTEGRAL WITH UNDERBAR;JOIN;LARGE LEFT TRIANGLE OPERATOR"),
  (0x2A1F, "Z NOTATION SCHEMA COMPOSITION;Z NOTATION SCHEMA PIPING;Z NOTATION SCHEMA PROJECTION"),
  (0x2A22, "PLUS SIGN WITH SMALL CIRCLE ABOVE;PLUS SIGN WITH CIRCUMFLEX ACCENT ABOVE"),
  (0x2A24, "PLUS SIGN WITH TILDE ABOVE;PLUS SIGN WITH DOT BELOW;PLUS SIGN WITH TILDE BELOW"),
  (0x2A27, "PLUS SIGN WITH SUBSCRIPT TWO;PLUS SIGN WITH BLACK TRIANGLE"),
  (0x2A29, "MINUS SIGN WITH COMMA ABOVE;MINUS SIGN WITH DOT BELOW;MINUS SIGN WITH FALLING DOTS"),
  (0x2A2C, "MINUS SIGN WITH RISING DOTS;PLUS SIGN IN LEFT HALF CIRCLE"),
  (0x2A2E, "PLUS SIGN IN RIGHT HALF CIRCLE;VECTOR OR CROSS PRODUCT"),
  (0x2A30, "MULTIPLICATION SIGN WITH DOT ABOVE;MULTIPLICATION SIGN WITH UNDERBAR"),
  (0x2A32, "SEMIDIRECT PRODUCT WITH BOTTOM CLOSED;SMASH PRODUCT"),
  (0x2A34, "MULTIPLICATION SIGN IN LEFT HALF CIRCLE;MULTIPLICATION SIGN IN RIGHT HALF CIRCLE"),
  (0x2A36, "CIRCLED MULTIPLICATION SIGN WITH CIRCUMFLEX ACCENT"),
  (0x2A37, "MULTIPLICATION SIGN IN DOUBLE CIRCLE;CIRCLED DIVISION SIGN;PLUS SIGN IN TRIANGLE"),
  (0x2A3A, "MINUS SIGN IN TRIANGLE;MULTIPLICATION SIGN IN TRIANGLE;INTERIOR PRODUCT"),
  (0x2A3D, "RIGHTHAND INTERIOR PRODUCT;Z NOTATION RELATIONAL COMPOSITION"),
  (0x2A3F, "AMALGAMATION OR COPRODUCT;INTERSECTION WITH DOT;UNION WITH MINUS SIGN"),
  (0x2A42, "UNION WITH OVERBAR;INTERSECTION WITH OVERBAR;INTERSECTION WITH LOGICAL AND"),
  (0x2A45, "UNION WITH LOGICAL OR;UNION ABOVE INTERSECTION;INTERSECTION ABOVE UNION"),
  (0x2A48, "UNION ABOVE BAR ABOVE INTERSECTION;INTERSECTION ABOVE BAR ABOVE UNION"),
  (0x2A4A, "UNION BESIDE AND JOINED WITH UNION;INTERSECTION BESIDE AND JOINED WITH INTERSECTION"),
  (0x2A4C, "CLOSED UNION WITH SERIFS;CLOSED INTERSECTION WITH SERIFS;DOUBLE SQUARE INTERSECTION"),
  (0x2A4F, "DOUBLE SQUARE UNION;CLOSED UNION WITH SERIFS AND SMASH PRODUCT"),
  (0x2A51, "LOGICAL AND WITH DOT ABOVE;LOGICAL OR WITH DOT ABOVE;DOUBLE LOGICAL AND"),
  (0x2A54, "DOUBLE LOGICAL OR;TWO INTERSECTING LOGICAL AND;TWO INTERSECTING LOGICAL OR"),
  (0x2A57, "SLOPING LARGE OR;SLOPING LARGE AND;LOGICAL OR OVERLAPPING LOGICAL AND"),
  (0x2A5A, "LOGICAL AND WITH MIDDLE STEM;LOGICAL OR WITH MIDDLE STEM"),
  (0x2A5C, "LOGICAL AND WITH HORIZONTAL DASH;LOGICAL OR WITH HORIZONTAL DASH"),
  (0x2A5E, "LOGICAL AND WITH DOUBLE OVERBAR;LOGICAL AND WITH UNDERBAR"),
  (0x2A60, "LOGICAL AND WITH DOUBLE UNDERBAR;SMALL VEE WITH UNDERBAR"),
  (0x2A62, "LOGICAL OR WITH DOUBLE OVERBAR;LOGICAL OR WITH DOUBLE UNDERBAR"),
  (0x2A64, "Z NOTATION DOMAIN ANTIRESTRICTION;Z NOTATION RANGE ANTIRESTRICTION"),
  (0x2A66, "EQUALS SIGN WITH DOT BELOW;IDENTICAL WITH DOT ABOVE"),
  (0x2A68, "TRIPLE HORIZONTAL BAR WITH DOUBLE VERTICAL STROKE"),
  (0x2A69, "TRIPLE HORIZONTAL BAR WITH TRIPLE VERTICAL STROKE;TILDE OPERATOR WITH DOT ABOVE"),
  (0x2A6B, "TILDE OPERATOR WITH RISING DOTS;SIMILAR MINUS SIMILAR;CONGRUENT WITH DOT ABOVE"),
  (0x2A6E, "EQUALS WITH ASTERISK;ALMOST EQUAL TO WITH CIRCUMFLEX ACCENT"),
  (0x2A70, "APPROXIMATELY EQUAL OR EQUAL TO;EQUALS SIGN ABOVE PLUS SIGN"),
  (0x2A72, "PLUS SIGN ABOVE EQUALS SIGN;EQUALS SIGN ABOVE TILDE OPERATOR;DOUBLE COLON EQUAL"),
  (0x2A75, "TWO CONSECUTIVE EQUALS SIGNS;THREE CONSECUTIVE EQUALS SIGNS"),
  (0x2A77, "EQUALS SIGN WITH TWO DOTS ABOVE AND TWO DOTS BELOW;EQUIVALENT WITH FOUR DOTS ABOVE"),
  (0x2A79, "LESS-THAN WITH CIRCLE INSIDE;GREATER-THAN WITH CIRCLE INSIDE"),
  (0x2A7B, "LESS-THAN WITH QUESTION MARK ABOVE;GREATER-THAN WITH QUESTION MARK ABOVE"),
  (0x2A7D, "LESS-THAN OR SLANTED EQUAL TO;GREATER-THAN OR SLANTED EQUAL TO"),
  (0x2A7F, "LESS-THAN OR SLANTED EQUAL TO WITH DOT INSIDE"),
  (0x2A80, "GREATER-THAN OR SLANTED EQUAL TO WITH DOT INSIDE"),
  (0x2A81, "LESS-THAN OR SLANTED EQUAL TO WITH DOT ABOVE"),
  (0x2A82, "GREATER-THAN OR SLANTED EQUAL TO WITH DOT ABOVE"),
  (0x2A83, "LESS-THAN OR SLANTED EQUAL TO WITH DOT ABOVE RIGHT"),
  (0x2A84, "GREATER-THAN OR SLANTED EQUAL TO WITH DOT ABOVE LEFT;LESS-THAN OR APPROXIMATE"),
  (0x2A86, "GREATER-THAN OR APPROXIMATE;LESS-THAN AND SINGLE-LINE NOT EQUAL TO"),
  (0x2A88, "GREATER-THAN AND SINGLE-LINE NOT EQUAL TO;LESS-THAN AND NOT APPROXIMATE"),
  (0x2A8A, "GREATER-THAN AND NOT APPROXIMATE;LESS-THAN ABOVE DOUBLE-LINE EQUAL ABOVE GREATER-THAN"),
  (0x2A8C, "GREATER-THAN ABOVE DOUBLE-LINE EQUAL ABOVE LESS-THAN;LESS-THAN ABOVE SIMILAR OR EQUAL"),
  (0x2A8E, "GREATER-THAN ABOVE SIMILAR OR EQUAL;LESS-THAN ABOVE SIMILAR ABOVE GREATER-THAN"),
  (0x2A90, "GREATER-THAN ABOVE SIMILAR ABOVE LESS-THAN"),
  (0x2A91, "LESS-THAN ABOVE GREATER-THAN ABOVE DOUBLE-LINE EQUAL"),
  (0x2A92, "GREATER-THAN ABOVE LESS-THAN ABOVE DOUBLE-LINE EQUAL"),
  (0x2A93, "LESS-THAN ABOVE SLANTED EQUAL ABOVE GREATER-THAN ABOVE SLANTED EQUAL"),
  (0x2A94, "GREATER-THAN ABOVE SLANTED EQUAL ABOVE LESS-THAN ABOVE SLANTED EQUAL"),
  (0x2A95, "SLANTED EQUAL TO OR LESS-THAN;SLANTED EQUAL TO OR GREATER-THAN"),
  (0x2A97, "SLANTED EQUAL TO OR LESS-THAN WITH DOT INSIDE"),
  (0x2A98, "SLANTED EQUAL TO OR GREATER-THAN WITH DOT INSIDE;DOUBLE-LINE EQUAL TO OR LESS-THAN"),
  (0x2A9A, "DOUBLE-LINE EQUAL TO OR GREATER-THAN;DOUBLE-LINE SLANTED EQUAL TO OR LESS-THAN"),
  (0x2A9C, "DOUBLE-LINE SLANTED EQUAL TO OR GREATER-THAN;SIMILAR OR LESS-THAN"),
  (0x2A9E, "SIMILAR OR GREATER-THAN;SIMILAR ABOVE LESS-THAN ABOVE EQUALS SIGN"),
  (0x2AA0, "SIMILAR ABOVE GREATER-THAN ABOVE EQUALS SIGN;DOUBLE NESTED LESS-THAN"),
  (0x2AA2, "DOUBLE NESTED GREATER-THAN;DOUBLE NESTED LESS-THAN WITH UNDERBAR"),
  (0x2AA4, "GREATER-THAN OVERLAPPING LESS-THAN;GREATER-THAN BESIDE LESS-THAN"),
  (0x2AA6, "LESS-THAN CLOSED BY CURVE;GREATER-THAN CLOSED BY CURVE"),
  (0x2AA8, "LESS-THAN CLOSED BY CURVE ABOVE SLANTED EQUAL"),
  (0x2AA9, "GREATER-THAN CLOSED BY CURVE ABOVE SLANTED EQUAL;SMALLER THAN;LARGER THAN"),
  (0x2AAC, "SMALLER THAN OR EQUAL TO;LARGER THAN OR EQUAL TO;EQUALS SIGN WITH BUMPY ABOVE"),
  (0x2AAF, "PRECEDES ABOVE SINGLE-LINE EQUALS SIGN;SUCCEEDS ABOVE SINGLE-LINE EQUALS SIGN"),
  (0x2AB1, "PRECEDES ABOVE SINGLE-LINE NOT EQUAL TO;SUCCEEDS ABOVE SINGLE-LINE NOT EQUAL TO"),
  (0x2AB3, "PRECEDES ABOVE EQUALS SIGN;SUCCEEDS ABOVE EQUALS SIGN;PRECEDES ABOVE NOT EQUAL TO"),
  (0x2AB6, "SUCCEEDS ABOVE NOT EQUAL TO;PRECEDES ABOVE ALMOST EQUAL TO"),
  (0x2AB8, "SUCCEEDS ABOVE ALMOST EQUAL TO;PRECEDES ABOVE NOT ALMOST EQUAL TO"),
  (0x2ABA, "SUCCEEDS ABOVE NOT ALMOST EQUAL TO;DOUBLE PRECEDES;DOUBLE SUCCEEDS;SUBSET WITH DOT"),
  (0x2ABE, "SUPERSET WITH DOT;SUBSET WITH PLUS SIGN BELOW;SUPERSET WITH PLUS SIGN BELOW"),
  (0x2AC1, "SUBSET WITH MULTIPLICATION SIGN BELOW;SUPERSET WITH MULTIPLICATION SIGN BELOW"),
  (0x2AC3, "SUBSET OF OR EQUAL TO WITH DOT ABOVE;SUPERSET OF OR EQUAL TO WITH DOT ABOVE"),
  (0x2AC5, "SUBSET OF ABOVE EQUALS SIGN;SUPERSET OF ABOVE EQUALS SIGN"),
  (0x2AC7, "SUBSET OF ABOVE TILDE OPERATOR;SUPERSET OF ABOVE TILDE OPERATOR"),
  (0x2AC9, "SUBSET OF ABOVE ALMOST EQUAL TO;SUPERSET OF ABOVE ALMOST EQUAL TO"),
  (0x2ACB, "SUBSET OF ABOVE NOT EQUAL TO;SUPERSET OF ABOVE NOT EQUAL TO"),
  (0x2ACD, "SQUARE LEFT OPEN BOX OPERATOR;SQUARE RIGHT OPEN BOX OPERATOR;CLOSED SUBSET"),
  (0x2AD0, "CLOSED SUPERSET;CLOSED SUBSET OR EQUAL TO;CLOSED SUPERSET OR EQUAL TO"),
  (0x2AD3, "SUBSET ABOVE SUPERSET;SUPERSET ABOVE SUBSET;SUBSET ABOVE SUBSET"),
  (0x2AD6, "SUPERSET ABOVE SUPERSET;SUPERSET BESIDE SUBSET"),
  (0x2AD8, "SUPERSET BESIDE AND JOINED BY DASH WITH SUBSET;ELEMENT OF OPENING DOWNWARDS"),
  (0x2ADA, "PITCHFORK WITH TEE TOP;TRANSVERSAL INTERSECTION;FORKING;NONFORKING;SHORT LEFT TACK"),
  (0x2ADF, "SHORT DOWN TACK;SHORT UP TACK;PERPENDICULAR WITH S"),
  (0x2AE2, "VERTICAL BAR TRIPLE RIGHT TURNSTILE;DOUBLE VERTICAL BAR LEFT TURNSTILE"),
  (0x2AE4, "VERTICAL BAR DOUBLE LEFT TURNSTILE;DOUBLE VERTICAL BAR DOUBLE LEFT TURNSTILE"),
  (0x2AE6, "LONG DASH FROM LEFT MEMBER OF DOUBLE VERTICAL;SHORT DOWN TACK WITH OVERBAR"),
  (0x2AE8, "SHORT UP TACK WITH UNDERBAR;SHORT UP TACK ABOVE SHORT DOWN TACK;DOUBLE DOWN TACK"),
  (0x2AEB, "DOUBLE UP TACK;DOUBLE STROKE NOT SIGN;REVERSED DOUBLE STROKE NOT SIGN"),
  (0x2AEE, "DOES NOT DIVIDE WITH REVERSED NEGATION SLASH;VERTICAL LINE WITH CIRCLE ABOVE"),
  (0x2AF0, "VERTICAL LINE WITH CIRCLE BELOW;DOWN TACK WITH CIRCLE BELOW"),
  (0x2AF2, "PARALLEL WITH HORIZONTAL STROKE;PARALLEL WITH TILDE OPERATOR"),
  (0x2AF4, "TRIPLE VERTICAL BAR BINARY RELATION;TRIPLE VERTICAL BAR WITH HORIZONTAL STROKE"),
  (0x2AF6, "TRIPLE COLON OPERATOR;TRIPLE NESTED LESS-THAN;TRIPLE NESTED GREATER-THAN"),
  (0x2AF9, "DOUBLE-LINE SLANTED LESS-THAN OR EQUAL TO"),
  (0x2AFA, "DOUBLE-LINE SLANTED GREATER-THAN OR EQUAL TO;TRIPLE SOLIDUS BINARY RELATION"),
  (0x2AFC, "LARGE TRIPLE VERTICAL BAR OPERATOR;DOUBLE SOLIDUS OPERATOR;WHITE VERTICAL BAR"),
  (0x2AFF, "N-ARY WHITE VERTICAL BAR;NORTH EAST WHITE ARROW;NORTH WEST WHITE ARROW"),
  (0x2B02, "SOUTH EAST WHITE ARROW;SOUTH WEST WHITE ARROW;LEFT RIGHT WHITE ARROW"),
  (0x2B05, "LEFTWARDS BLACK ARROW;UPWARDS BLACK ARROW;DOWNWARDS BLACK ARROW"),
  (0x2B08, "NORTH EAST BLACK ARROW;NORTH WEST BLACK ARROW;SOUTH EAST BLACK ARROW"),
  (0x2B0B, "SOUTH WEST BLACK ARROW;LEFT RIGHT BLACK ARROW;UP DOWN BLACK ARROW"),
  (0x2B0E, "RIGHTWARDS ARROW WITH TIP DOWNWARDS;RIGHTWARDS ARROW WITH TIP UPWARDS"),
  (0x2B10, "LEFTWARDS ARROW WITH TIP DOWNWARDS;LEFTWARDS ARROW WITH TIP UPWARDS"),
  (0x2B12, "SQUARE WITH TOP HALF BLACK;SQUARE WITH BOTTOM HALF BLACK"),
  (0x2B14, "SQUARE WITH UPPER RIGHT DIAGONAL HALF BLACK"),
  (0x2B15, "SQUARE WITH LOWER LEFT DIAGONAL HALF BLACK;DIAMOND WITH LEFT HALF BLACK"),
  (0x2B17, "DIAMOND WITH RIGHT HALF BLACK;DIAMOND WITH TOP HALF BLACK"),
  (0x2B19, "DIAMOND WITH BOTTOM HALF BLACK;DOTTED SQUARE;BLACK LARGE SQUARE;WHITE LARGE SQUARE"),
  (0x2B1D, "BLACK VERY SMALL SQUARE;WHITE VERY SMALL SQUARE;BLACK PENTAGON;WHITE PENTAGON"),
  (0x2B21, "WHITE HEXAGON;BLACK HEXAGON;HORIZONTAL BLACK HEXAGON;BLACK LARGE CIRCLE"),
  (0x2B25, "BLACK MEDIUM DIAMOND;WHITE MEDIUM DIAMOND;BLACK MEDIUM LOZENGE;WHITE MEDIUM LOZENGE"),
  (0x2B29, "BLACK SMALL DIAMOND;BLACK SMALL LOZENGE;WHITE SMALL LOZENGE;BLACK HORIZONTAL ELLIPSE"),
  (0x2B2D, "WHITE HORIZONTAL ELLIPSE;BLACK VERTICAL ELLIPSE;WHITE VERTICAL ELLIPSE"),
  (0x2B30, "LEFT ARROW WITH SMALL CIRCLE;THREE LEFTWARDS ARROWS;LEFT ARROW WITH CIRCLED PLUS"),
  (0x2B33, "LONG LEFTWARDS SQUIGGLE ARROW;LEFTWARDS TWO-HEADED ARROW WITH VERTICAL STROKE"),
  (0x2B35, "LEFTWARDS TWO-HEADED ARROW WITH DOUBLE VERTICAL STROKE"),
  (0x2B36, "LEFTWARDS TWO-HEADED ARROW FROM BAR;LEFTWARDS TWO-HEADED TRIPLE DASH ARROW"),
  (0x2B38, "LEFTWARDS ARROW WITH DOTTED STEM;LEFTWARDS ARROW WITH TAIL WITH VERTICAL STROKE"),
  (0x2B3A, "LEFTWARDS ARROW WITH TAIL WITH DOUBLE VERTICAL STROKE"),
  (0x2B3B, "LEFTWARDS TWO-HEADED ARROW WITH TAIL"),
  (0x2B3C, "LEFTWARDS TWO-HEADED ARROW WITH TAIL WITH VERTICAL STROKE"),
  (0x2B3D, "LEFTWARDS TWO-HEADED ARROW WITH TAIL WITH DOUBLE VERTICAL STROKE"),
  (0x2B3E, "LEFTWARDS ARROW THROUGH X;WAVE ARROW POINTING DIRECTLY LEFT"),
  (0x2B40, "EQUALS SIGN ABOVE LEFTWARDS ARROW;REVERSE TILDE OPERATOR ABOVE LEFTWARDS ARROW"),
  (0x2B42, "LEFTWARDS ARROW ABOVE REVERSE ALMOST EQUAL TO;RIGHTWARDS ARROW THROUGH GREATER-THAN"),
  (0x2B44, "RIGHTWARDS ARROW THROUGH SUPERSET;LEFTWARDS QUADRUPLE ARROW"),
  (0x2B46, "RIGHTWARDS QUADRUPLE ARROW;REVERSE TILDE OPERATOR ABOVE RIGHTWARDS ARROW"),
  (0x2B48, "RIGHTWARDS ARROW ABOVE REVERSE ALMOST EQUAL TO;TILDE OPERATOR ABOVE LEFTWARDS ARROW"),
  (0x2B4A, "LEFTWARDS ARROW ABOVE ALMOST EQUAL TO;LEFTWARDS ARROW ABOVE REVERSE TILDE OPERATOR"),
  (0x2B4C, "RIGHTWARDS ARROW ABOVE REVERSE TILDE OPERATOR;DOWNWARDS TRIANGLE-HEADED ZIGZAG ARROW"),
  (0x2B4E, "SHORT SLANTED NORTH ARROW;SHORT BACKSLANTED SOUTH ARROW;WHITE MEDIUM STAR"),
  (0x2B51, "BLACK SMALL STAR;WHITE SMALL STAR;BLACK RIGHT-POINTING PENTAGON"),
  (0x2B54, "WHITE RIGHT-POINTING PENTAGON;HEAVY LARGE CIRCLE;HEAVY OVAL WITH OVAL INSIDE"),
  (0x2B57, "HEAVY CIRCLE WITH CIRCLE INSIDE;HEAVY CIRCLE;HEAVY CIRCLED SALTIRE"),
  (0x2B5A, "SLANTED NORTH ARROW WITH HOOKED HEAD;BACKSLANTED SOUTH ARROW WITH HOOKED TAIL"),
  (0x2B5C, "SLANTED NORTH ARROW WITH HORIZONTAL TAIL;BACKSLANTED SOUTH ARROW WITH HORIZONTAL TAIL"),
  (0x2B5E, "BENT ARROW POINTING DOWNWARDS THEN NORTH EAST"),
  (0x2B5F, "SHORT BENT ARROW POINTING DOWNWARDS THEN NORTH EAST;LEFTWARDS TRIANGLE-HEADED ARROW"),
  (0x2B61, "UPWARDS TRIANGLE-HEADED ARROW;RIGHTWARDS TRIANGLE-HEADED ARROW"),
  (0x2B63, "DOWNWARDS TRIANGLE-HEADED ARROW;LEFT RIGHT TRIANGLE-HEADED ARROW"),
  (0x2B65, "UP DOWN TRIANGLE-HEADED ARROW;NORTH WEST TRIANGLE-HEADED ARROW")]

/-- The names from code point 2B67 to FE65. -/
def symbolNamesFrom2B67 : List (Nat × String) := [
  (0x2B67, "NORTH EAST TRIANGLE-HEADED ARROW;SOUTH EAST TRIANGLE-HEADED ARROW"),
  (0x2B69, "SOUTH WEST TRIANGLE-HEADED ARROW;LEFTWARDS TRIANGLE-HEADED DASHED ARROW"),
  (0x2B6B, "UPWARDS TRIANGLE-HEADED DASHED ARROW;RIGHTWARDS TRIANGLE-HEADED DASHED ARROW"),
  (0x2B6D, "DOWNWARDS TRIANGLE-HEADED DASHED ARROW;CLOCKWISE TRIANGLE-HEADED OPEN CIRCLE ARROW"),
  (0x2B6F, "ANTICLOCKWISE TRIANGLE-HEADED OPEN CIRCLE ARROW"),
  (0x2B70, "LEFTWARDS TRIANGLE-HEADED ARROW TO BAR;UPWARDS TRIANGLE-HEADED ARROW TO BAR"),
  (0x2B72, "RIGHTWARDS TRIANGLE-HEADED ARROW TO BAR;DOWNWARDS TRIANGLE-HEADED ARROW TO BAR"),
  (0x2B76, "NORTH WEST TRIANGLE-HEADED ARROW TO BAR;NORTH EAST TRIANGLE-HEADED ARROW TO BAR"),
  (0x2B78, "SOUTH EAST TRIANGLE-HEADED ARROW TO BAR;SOUTH WEST TRIANGLE-HEADED ARROW TO BAR"),
  (0x2B7A, "LEFTWARDS TRIANGLE-HEADED ARROW WITH DOUBLE HORIZONTAL STROKE"),
  (0x2B7B, "UPWARDS TRIANGLE-HEADED ARROW WITH DOUBLE HORIZONTAL STROKE"),
  (0x2B7C, "RIGHTWARDS TRIANGLE-HEADED ARROW WITH DOUBLE HORIZONTAL STROKE"),
  (0x2B7D, "DOWNWARDS TRIANGLE-HEADED ARROW WITH DOUBLE HORIZONTAL STROKE;HORIZONTAL TAB KEY"),
  (0x2B7F, "VERTICAL TAB KEY"),
  (0x2B80, "LEFTWARDS TRIANGLE-HEADED ARROW OVER RIGHTWARDS TRIANGLE-HEADED ARROW"),
  (0x2B81, "UPWARDS TRIANGLE-HEADED ARROW LEFTWARDS OF DOWNWARDS TRIANGLE-HEADED ARROW"),
  (0x2B82, "RIGHTWARDS TRIANGLE-HEADED ARROW OVER LEFTWARDS TRIANGLE-HEADED ARROW"),
  (0x2B83, "DOWNWARDS TRIANGLE-HEADED ARROW LEFTWARDS OF UPWARDS TRIANGLE-HEADED ARROW"),
  (0x2B84, "LEFTWARDS TRIANGLE-HEADED PAIRED ARROWS;UPWARDS TRIANGLE-HEADED PAIRED ARROWS"),
  (0x2B86, "RIGHTWARDS TRIANGLE-HEADED PAIRED ARROWS;DOWNWARDS TRIANGLE-HEADED PAIRED ARROWS"),
  (0x2B88, "LEFTWARDS BLACK CIRCLED WHITE ARROW;UPWARDS BLACK CIRCLED WHITE ARROW"),
  (0x2B8A, "RIGHTWARDS BLACK CIRCLED WHITE ARROW;DOWNWARDS BLACK CIRCLED WHITE ARROW"),
  (0x2B8C, "ANTICLOCKWISE TRIANGLE-HEADED RIGHT U-SHAPED ARROW"),
  (0x2B8D, "ANTICLOCKWISE TRIANGLE-HEADED BOTTOM U-SHAPED ARROW"),
  (0x2B8E, "ANTICLOCKWISE TRIANGLE-HEADED LEFT U-SHAPED ARROW"),
  (0x2B8F, "ANTICLOCKWISE TRIANGLE-HEADED TOP U-SHAPED ARROW;RETURN LEFT;RETURN RIGHT"),
  (0x2B92, "NEWLINE LEFT;NEWLINE RIGHT;FOUR CORNER ARROWS CIRCLING ANTICLOCKWISE"),
  (0x2B95, "RIGHTWARDS BLACK ARROW"),
  (0x2B97, "SYMBOL FOR TYPE A ELECTRONICS;THREE-D TOP-LIGHTED LEFTWARDS EQUILATERAL ARROWHEAD"),
  (0x2B99, "THREE-D RIGHT-LIGHTED UPWARDS EQUILATERAL ARROWHEAD"),
  (0x2B9A, "THREE-D TOP-LIGHTED RIGHTWARDS EQUILATERAL ARROWHEAD"),
  (0x2B9B, "THREE-D LEFT-LIGHTED DOWNWARDS EQUILATERAL ARROWHEAD"),
  (0x2B9C, "BLACK LEFTWARDS EQUILATERAL ARROWHEAD;BLACK UPWARDS EQUILATERAL ARROWHEAD"),
  (0x2B9E, "BLACK RIGHTWARDS EQUILATERAL ARROWHEAD;BLACK DOWNWARDS EQUILATERAL ARROWHEAD"),
  (0x2BA0, "DOWNWARDS TRIANGLE-HEADED ARROW WITH LONG TIP LEFTWARDS"),
  (0x2BA1, "DOWNWARDS TRIANGLE-HEADED ARROW WITH LONG TIP RIGHTWARDS"),
  (0x2BA2, "UPWARDS TRIANGLE-HEADED ARROW WITH LONG TIP LEFTWARDS"),
  (0x2BA3, "UPWARDS TRIANGLE-HEADED ARROW WITH LONG TIP RIGHTWARDS"),
  (0x2BA4, "LEFTWARDS TRIANGLE-HEADED ARROW WITH LONG TIP UPWARDS"),
  (0x2BA5, "RIGHTWARDS TRIANGLE-HEADED ARROW WITH LONG TIP UPWARDS"),
  (0x2BA6, "LEFTWARDS TRIANGLE-HEADED ARROW WITH LONG TIP DOWNWARDS"),
  (0x2BA7, "RIGHTWARDS TRIANGLE-HEADED ARROW WITH LONG TIP DOWNWARDS"),
  (0x2BA8, "BLACK CURVED DOWNWARDS AND LEFTWARDS ARROW"),
  (0x2BA9, "BLACK CURVED DOWNWARDS AND RIGHTWARDS ARROW;BLACK CURVED UPWARDS AND LEFTWARDS ARROW"),
  (0x2BAB, "BLACK CURVED UPWARDS AND RIGHTWARDS ARROW;BLACK CURVED LEFTWARDS AND UPWARDS ARROW"),
  (0x2BAD, "BLACK CURVED RIGHTWARDS AND UPWARDS ARROW;BLACK CURVED LEFTWARDS AND DOWNWARDS ARROW"),
  (0x2BAF, "BLACK CURVED RIGHTWARDS AND DOWNWARDS ARROW;RIBBON ARROW DOWN LEFT"),
  (0x2BB1, "RIBBON ARROW DOWN RIGHT;RIBBON ARROW UP LEFT;RIBBON ARROW UP RIGHT"),
  (0x2BB4, "RIBBON ARROW LEFT UP;RIBBON ARROW RIGHT UP;RIBBON ARROW LEFT DOWN"),
  (0x2BB7, "RIBBON ARROW RIGHT DOWN;UPWARDS WHITE ARROW FROM BAR WITH HORIZONTAL BAR"),
  (0x2BB9, "UP ARROWHEAD IN A RECTANGLE BOX;OVERLAPPING WHITE SQUARES"),
  (0x2BBB, "OVERLAPPING WHITE AND BLACK SQUARES;OVERLAPPING BLACK SQUARES;BALLOT BOX WITH LIGHT X"),
  (0x2BBE, "CIRCLED X;CIRCLED BOLD X;BLACK SQUARE CENTRED;BLACK DIAMOND CENTRED"),
  (0x2BC2, "TURNED BLACK PENTAGON;HORIZONTAL BLACK OCTAGON;BLACK OCTAGON"),
  (0x2BC5, "BLACK MEDIUM UP-POINTING TRIANGLE CENTRED;BLACK MEDIUM DOWN-POINTING TRIANGLE CENTRED"),
  (0x2BC7, "BLACK MEDIUM LEFT-POINTING TRIANGLE CENTRED"),
  (0x2BC8, "BLACK MEDIUM RIGHT-POINTING TRIANGLE CENTRED;NEPTUNE FORM TWO;TOP HALF BLACK CIRCLE"),
  (0x2BCB, "BOTTOM HALF BLACK CIRCLE;LIGHT FOUR POINTED BLACK CUSP"),
  (0x2BCD, "ROTATED LIGHT FOUR POINTED BLACK CUSP;WHITE FOUR POINTED CUSP"),
  (0x2BCF, "ROTATED WHITE FOUR POINTED CUSP;SQUARE POSITION INDICATOR;UNCERTAINTY SIGN;GROUP MARK"),
  (0x2BD3, "PLUTO FORM TWO;PLUTO FORM THREE;PLUTO FORM FOUR;PLUTO FORM FIVE;TRANSPLUTO;PROSERPINA"),
  (0x2BD9, "ASTRAEA;HYGIEA;PHOLUS;NESSUS;WHITE MOON SELENA;BLACK DIAMOND ON CROSS"),
  (0x2BDF, "TRUE LIGHT MOON ARTA;CUPIDO;HADES;ZEUS;KRONOS;APOLLON;ADMETOS;VULCANUS;POSEIDON"),
  (0x2BE8, "LEFT HALF BLACK STAR;RIGHT HALF BLACK STAR;STAR WITH LEFT HALF BLACK"),
  (0x2BEB, "STAR WITH RIGHT HALF BLACK;LEFTWARDS TWO-HEADED ARROW WITH TRIANGLE ARROWHEADS"),
  (0x2BED, "UPWARDS TWO-HEADED ARROW WITH TRIANGLE ARROWHEADS"),
  (0x2BEE, "RIGHTWARDS TWO-HEADED ARROW WITH TRIANGLE ARROWHEADS"),
  (0x2BEF, "DOWNWARDS TWO-HEADED ARROW WITH TRIANGLE ARROWHEADS;ERIS FORM ONE;ERIS FORM TWO;SEDNA"),
  (0x2BF3, "RUSSIAN ASTROLOGICAL SYMBOL VIGINTILE;RUSSIAN ASTROLOGICAL SYMBOL NOVILE"),
  (0x2BF5, "RUSSIAN ASTROLOGICAL SYMBOL QUINTILE;RUSSIAN ASTROLOGICAL SYMBOL BINOVILE"),
  (0x2BF7, "RUSSIAN ASTROLOGICAL SYMBOL SENTAGON;RUSSIAN ASTROLOGICAL SYMBOL TREDECILE"),
  (0x2BF9, "EQUALS SIGN WITH INFINITY BELOW;UNITED SYMBOL;SEPARATED SYMBOL;DOUBLED SYMBOL"),
  (0x2BFD, "PASSED SYMBOL;REVERSED RIGHT ANGLE;HELLSCHREIBER PAUSE SYMBOL;IDEOGRAPHIC SPACE"),
  (0x3001, "IDEOGRAPHIC COMMA;IDEOGRAPHIC FULL STOP;DITTO MARK"),
  (0x3004, "JAPANESE INDUSTRIAL STANDARD SYMBOL;IDEOGRAPHIC ITERATION MARK"),
  (0x3006, "IDEOGRAPHIC CLOSING MARK;IDEOGRAPHIC NUMBER ZERO;LEFT ANGLE BRACKET"),
  (0x3009, "RIGHT ANGLE BRACKET;LEFT DOUBLE ANGLE BRACKET;RIGHT DOUBLE ANGLE BRACKET"),
  (0x300C, "LEFT CORNER BRACKET;RIGHT CORNER BRACKET;LEFT WHITE CORNER BRACKET"),
  (0x300F, "RIGHT WHITE CORNER BRACKET;LEFT BLACK LENTICULAR BRACKET"),
  (0x3011, "RIGHT BLACK LENTICULAR BRACKET;POSTAL MARK;GETA MARK;LEFT TORTOISE SHELL BRACKET"),
  (0x3015, "RIGHT TORTOISE SHELL BRACKET;LEFT WHITE LENTICULAR BRACKET"),
  (0x3017, "RIGHT WHITE LENTICULAR BRACKET;LEFT WHITE TORTOISE SHELL BRACKET"),
  (0x3019, "RIGHT WHITE TORTOISE SHELL BRACKET;LEFT WHITE SQUARE BRACKET"),
  (0x301B, "RIGHT WHITE SQUARE BRACKET;WAVE DASH;REVERSED DOUBLE PRIME QUOTATION MARK"),
  (0x301E, "DOUBLE PRIME QUOTATION MARK;LOW DOUBLE PRIME QUOTATION MARK;POSTAL MARK FACE"),
  (0x3021, "HANGZHOU NUMERAL ONE;HANGZHOU NUMERAL TWO;HANGZHOU NUMERAL THREE"),
  (0x3024, "HANGZHOU NUMERAL FOUR;HANGZHOU NUMERAL FIVE;HANGZHOU NUMERAL SIX"),
  (0x3027, "HANGZHOU NUMERAL SEVEN;HANGZHOU NUMERAL EIGHT;HANGZHOU NUMERAL NINE"),
  (0x302A, "IDEOGRAPHIC LEVEL TONE MARK;IDEOGRAPHIC RISING TONE MARK"),
  (0x302C, "IDEOGRAPHIC DEPARTING TONE MARK;IDEOGRAPHIC ENTERING TONE MARK"),
  (0x302E, "HANGUL SINGLE DOT TONE MARK;HANGUL DOUBLE DOT TONE MARK;WAVY DASH"),
  (0x3031, "VERTICAL KANA REPEAT MARK;VERTICAL KANA REPEAT WITH VOICED SOUND MARK"),
  (0x3033, "VERTICAL KANA REPEAT MARK UPPER HALF"),
  (0x3034, "VERTICAL KANA REPEAT WITH VOICED SOUND MARK UPPER HALF"),
  (0x3035, "VERTICAL KANA REPEAT MARK LOWER HALF;CIRCLED POSTAL MARK"),
  (0x3037, "IDEOGRAPHIC TELEGRAPH LINE FEED SEPARATOR SYMBOL;HANGZHOU NUMERAL TEN"),
  (0x3039, "HANGZHOU NUMERAL TWENTY;HANGZHOU NUMERAL THIRTY;VERTICAL IDEOGRAPHIC ITERATION MARK"),
  (0x303C, "MASU MARK;PART ALTERNATION MARK;IDEOGRAPHIC VARIATION INDICATOR"),
  (0x303F, "IDEOGRAPHIC HALF FILL SPACE"),
  (0x3041, "HIRAGANA LETTER SMALL A;HIRAGANA LETTER A;HIRAGANA LETTER SMALL I;HIRAGANA LETTER I"),
  (0x3045, "HIRAGANA LETTER SMALL U;HIRAGANA LETTER U;HIRAGANA LETTER SMALL E;HIRAGANA LETTER E"),
  (0x3049, "HIRAGANA LETTER SMALL O;HIRAGANA LETTER O;HIRAGANA LETTER KA;HIRAGANA LETTER GA"),
  (0x304D, "HIRAGANA LETTER KI;HIRAGANA LETTER GI;HIRAGANA LETTER KU;HIRAGANA LETTER GU"),
  (0x3051, "HIRAGANA LETTER KE;HIRAGANA LETTER GE;HIRAGANA LETTER KO;HIRAGANA LETTER GO"),
  (0x3055, "HIRAGANA LETTER SA;HIRAGANA LETTER ZA;HIRAGANA LETTER SI;HIRAGANA LETTER ZI"),
  (0x3059, "HIRAGANA LETTER SU;HIRAGANA LETTER ZU;HIRAGANA LETTER SE;HIRAGANA LETTER ZE"),
  (0x305D, "HIRAGANA LETTER SO;HIRAGANA LETTER ZO;HIRAGANA LETTER TA;HIRAGANA LETTER DA"),
  (0x3061, "HIRAGANA LETTER TI;HIRAGANA LETTER DI;HIRAGANA LETTER SMALL TU;HIRAGANA LETTER TU"),
  (0x3065, "HIRAGANA LETTER DU;HIRAGANA LETTER TE;HIRAGANA LETTER DE;HIRAGANA LETTER TO"),
  (0x3069, "HIRAGANA LETTER DO;HIRAGANA LETTER NA;HIRAGANA LETTER NI;HIRAGANA LETTER NU"),
  (0x306D, "HIRAGANA LETTER NE;HIRAGANA LETTER NO;HIRAGANA LETTER HA;HIRAGANA LETTER BA"),
  (0x3071, "HIRAGANA LETTER PA;HIRAGANA LETTER HI;HIRAGANA LETTER BI;HIRAGANA LETTER PI"),
  (0x3075, "HIRAGANA LETTER HU;HIRAGANA LETTER BU;HIRAGANA LETTER PU;HIRAGANA LETTER HE"),
  (0x3079, "HIRAGANA LETTER BE;HIRAGANA LETTER PE;HIRAGANA LETTER HO;HIRAGANA LETTER BO"),
  (0x307D, "HIRAGANA LETTER PO;HIRAGANA LETTER MA;HIRAGANA LETTER MI;HIRAGANA LETTER MU"),
  (0x3081, "HIRAGANA LETTER ME;HIRAGANA LETTER MO;HIRAGANA LETTER SMALL YA;HIRAGANA LETTER YA"),
  (0x3085, "HIRAGANA LETTER SMALL YU;HIRAGANA LETTER YU;HIRAGANA LETTER SMALL YO"),
  (0x3088, "HIRAGANA LETTER YO;HIRAGANA LETTER RA;HIRAGANA LETTER RI;HIRAGANA LETTER RU"),
  (0x308C, "HIRAGANA LETTER RE;HIRAGANA LETTER RO;HIRAGANA LETTER SMALL WA;HIRAGANA LETTER WA"),
  (0x3090, "HIRAGANA LETTER WI;HIRAGANA LETTER WE;HIRAGANA LETTER WO;HIRAGANA LETTER N"),
  (0x3094, "HIRAGANA LETTER VU;HIRAGANA LETTER SMALL KA;HIRAGANA LETTER SMALL KE"),
  (0x3099, "COMBINING KATAKANA-HIRAGANA VOICED SOUND MARK"),
  (0x309A, "COMBINING KATAKANA-HIRAGANA SEMI-VOICED SOUND MARK"),
  (0x309B, "KATAKANA-HIRAGANA VOICED SOUND MARK;KATAKANA-HIRAGANA SEMI-VOICED SOUND MARK"),
  (0x309D, "HIRAGANA ITERATION MARK;HIRAGANA VOICED ITERATION MARK;HIRAGANA DIGRAPH YORI"),
  (0x30A0, "KATAKANA-HIRAGANA DOUBLE HYPHEN;KATAKANA LETTER SMALL A;KATAKANA LETTER A"),
  (0x30A3, "KATAKANA LETTER SMALL I;KATAKANA LETTER I;KATAKANA LETTER SMALL U;KATAKANA LETTER U"),
  (0x30A7, "KATAKANA LETTER SMALL E;KATAKANA LETTER E;KATAKANA LETTER SMALL O;KATAKANA LETTER O"),
  (0x30AB, "KATAKANA LETTER KA;KATAKANA LETTER GA;KATAKANA LETTER KI;KATAKANA LETTER GI"),
  (0x30AF, "KATAKANA LETTER KU;KATAKANA LETTER GU;KATAKANA LETTER KE;KATAKANA LETTER GE"),
  (0x30B3, "KATAKANA LETTER KO;KATAKANA LETTER GO;KATAKANA LETTER SA;KATAKANA LETTER ZA"),
  (0x30B7, "KATAKANA LETTER SI;KATAKANA LETTER ZI;KATAKANA LETTER SU;KATAKANA LETTER ZU"),
  (0x30BB, "KATAKANA LETTER SE;KATAKANA LETTER ZE;KATAKANA LETTER SO;KATAKANA LETTER ZO"),
  (0x30BF, "KATAKANA LETTER TA;KATAKANA LETTER DA;KATAKANA LETTER TI;KATAKANA LETTER DI"),
  (0x30C3, "KATAKANA LETTER SMALL TU;KATAKANA LETTER TU;KATAKANA LETTER DU;KATAKANA LETTER TE"),
  (0x30C7, "KATAKANA LETTER DE;KATAKANA LETTER TO;KATAKANA LETTER DO;KATAKANA LETTER NA"),
  (0x30CB, "KATAKANA LETTER NI;KATAKANA LETTER NU;KATAKANA LETTER NE;KATAKANA LETTER NO"),
  (0x30CF, "KATAKANA LETTER HA;KATAKANA LETTER BA;KATAKANA LETTER PA;KATAKANA LETTER HI"),
  (0x30D3, "KATAKANA LETTER BI;KATAKANA LETTER PI;KATAKANA LETTER HU;KATAKANA LETTER BU"),
  (0x30D7, "KATAKANA LETTER PU;KATAKANA LETTER HE;KATAKANA LETTER BE;KATAKANA LETTER PE"),
  (0x30DB, "KATAKANA LETTER HO;KATAKANA LETTER BO;KATAKANA LETTER PO;KATAKANA LETTER MA"),
  (0x30DF, "KATAKANA LETTER MI;KATAKANA LETTER MU;KATAKANA LETTER ME;KATAKANA LETTER MO"),
  (0x30E3, "KATAKANA LETTER SMALL YA;KATAKANA LETTER YA;KATAKANA LETTER SMALL YU"),
  (0x30E6, "KATAKANA LETTER YU;KATAKANA LETTER SMALL YO;KATAKANA LETTER YO;KATAKANA LETTER RA"),
  (0x30EA, "KATAKANA LETTER RI;KATAKANA LETTER RU;KATAKANA LETTER RE;KATAKANA LETTER RO"),
  (0x30EE, "KATAKANA LETTER SMALL WA;KATAKANA LETTER WA;KATAKANA LETTER WI;KATAKANA LETTER WE"),
  (0x30F2, "KATAKANA LETTER WO;KATAKANA LETTER N;KATAKANA LETTER VU;KATAKANA LETTER SMALL KA"),
  (0x30F6, "KATAKANA LETTER SMALL KE;KATAKANA LETTER VA;KATAKANA LETTER VI;KATAKANA LETTER VE"),
  (0x30FA, "KATAKANA LETTER VO;KATAKANA MIDDLE DOT;KATAKANA-HIRAGANA PROLONGED SOUND MARK"),
  (0x30FD, "KATAKANA ITERATION MARK;KATAKANA VOICED ITERATION MARK;KATAKANA DIGRAPH KOTO"),
  (0xFB00, "LATIN SMALL LIGATURE FF;LATIN SMALL LIGATURE FI;LATIN SMALL LIGATURE FL"),
  (0xFB03, "LATIN SMALL LIGATURE FFI;LATIN SMALL LIGATURE FFL;LATIN SMALL LIGATURE LONG S T"),
  (0xFB06, "LATIN SMALL LIGATURE ST;VARIATION SELECTOR-1;VARIATION SELECTOR-2"),
  (0xFE02, "VARIATION SELECTOR-3;VARIATION SELECTOR-4;VARIATION SELECTOR-5;VARIATION SELECTOR-6"),
  (0xFE06, "VARIATION SELECTOR-7;VARIATION SELECTOR-8;VARIATION SELECTOR-9;VARIATION SELECTOR-10"),
  (0xFE0A, "VARIATION SELECTOR-11;VARIATION SELECTOR-12;VARIATION SELECTOR-13"),
  (0xFE0D, "VARIATION SELECTOR-14;VARIATION SELECTOR-15;VARIATION SELECTOR-16"),
  (0xFE10, "PRESENTATION FORM FOR VERTICAL COMMA;PRESENTATION FORM FOR VERTICAL IDEOGRAPHIC COMMA"),
  (0xFE12, "PRESENTATION FORM FOR VERTICAL IDEOGRAPHIC FULL STOP"),
  (0xFE13, "PRESENTATION FORM FOR VERTICAL COLON;PRESENTATION FORM FOR VERTICAL SEMICOLON"),
  (0xFE15, "PRESENTATION FORM FOR VERTICAL EXCLAMATION MARK"),
  (0xFE16, "PRESENTATION FORM FOR VERTICAL QUESTION MARK"),
  (0xFE17, "PRESENTATION FORM FOR VERTICAL LEFT WHITE LENTICULAR BRACKET"),
  (0xFE18, "PRESENTATION FORM FOR VERTICAL RIGHT WHITE LENTICULAR BRAKCET"),
  (0xFE19, "PRESENTATION FORM FOR VERTICAL HORIZONTAL ELLIPSIS"),
  (0xFE20, "COMBINING LIGATURE LEFT HALF;COMBINING LIGATURE RIGHT HALF"),
  (0xFE22, "COMBINING DOUBLE TILDE LEFT HALF;COMBINING DOUBLE TILDE RIGHT HALF"),
  (0xFE24, "COMBINING MACRON LEFT HALF;COMBINING MACRON RIGHT HALF;COMBINING CONJOINING MACRON"),
  (0xFE27, "COMBINING LIGATURE LEFT HALF BELOW;COMBINING LIGATURE RIGHT HALF BELOW"),
  (0xFE29, "COMBINING TILDE LEFT HALF BELOW;COMBINING TILDE RIGHT HALF BELOW"),
  (0xFE2B, "COMBINING MACRON LEFT HALF BELOW;COMBINING MACRON RIGHT HALF BELOW"),
  (0xFE2D, "COMBINING CONJOINING MACRON BELOW;COMBINING CYRILLIC TITLO LEFT HALF"),
  (0xFE2F, "COMBINING CYRILLIC TITLO RIGHT HALF;PRESENTATION FORM FOR VERTICAL TWO DOT LEADER"),
  (0xFE31, "PRESENTATION FORM FOR VERTICAL EM DASH;PRESENTATION FORM FOR VERTICAL EN DASH"),
  (0xFE33, "PRESENTATION FORM FOR VERTICAL LOW LINE;PRESENTATION FORM FOR VERTICAL WAVY LOW LINE"),
  (0xFE35, "PRESENTATION FORM FOR VERTICAL LEFT PARENTHESIS"),
  (0xFE36, "PRESENTATION FORM FOR VERTICAL RIGHT PARENTHESIS"),
  (0xFE37, "PRESENTATION FORM FOR VERTICAL LEFT CURLY BRACKET"),
  (0xFE38, "PRESENTATION FORM FOR VERTICAL RIGHT CURLY BRACKET"),
  (0xFE39, "PRESENTATION FORM FOR VERTICAL LEFT TORTOISE SHELL BRACKET"),
  (0xFE3A, "PRESENTATION FORM FOR VERTICAL RIGHT TORTOISE SHELL BRACKET"),
  (0xFE3B, "PRESENTATION FORM FOR VERTICAL LEFT BLACK LENTICULAR BRACKET"),
  (0xFE3C, "PRESENTATION FORM FOR VERTICAL RIGHT BLACK LENTICULAR BRACKET"),
  (0xFE3D, "PRESENTATION FORM FOR VERTICAL LEFT DOUBLE ANGLE BRACKET"),
  (0xFE3E, "PRESENTATION FORM FOR VERTICAL RIGHT DOUBLE ANGLE BRACKET"),
  (0xFE3F, "PRESENTATION FORM FOR VERTICAL LEFT ANGLE BRACKET"),
  (0xFE40, "PRESENTATION FORM FOR VERTICAL RIGHT ANGLE BRACKET"),
  (0xFE41, "PRESENTATION FORM FOR VERTICAL LEFT CORNER BRACKET"),
  (0xFE42, "PRESENTATION FORM FOR VERTICAL RIGHT CORNER BRACKET"),
  (0xFE43, "PRESENTATION FORM FOR VERTICAL LEFT WHITE CORNER BRACKET"),
  (0xFE44, "PRESENTATION FORM FOR VERTICAL RIGHT WHITE CORNER BRACKET;SESAME DOT;WHITE SESAME DOT"),
  (0xFE47, "PRESENTATION FORM FOR VERTICAL LEFT SQUARE BRACKET"),
  (0xFE48, "PRESENTATION FORM FOR VERTICAL RIGHT SQUARE BRACKET;DASHED OVERLINE"),
  (0xFE4A, "CENTRELINE OVERLINE;WAVY OVERLINE;DOUBLE WAVY OVERLINE;DASHED LOW LINE"),
  (0xFE4E, "CENTRELINE LOW LINE;WAVY LOW LINE;SMALL COMMA;SMALL IDEOGRAPHIC COMMA;SMALL FULL STOP"),
  (0xFE54, "SMALL SEMICOLON;SMALL COLON;SMALL QUESTION MARK;SMALL EXCLAMATION MARK;SMALL EM DASH"),
  (0xFE59, "SMALL LEFT PARENTHESIS;SMALL RIGHT PARENTHESIS;SMALL LEFT CURLY BRACKET"),
  (0xFE5C, "SMALL RIGHT CURLY BRACKET;SMALL LEFT TORTOISE SHELL BRACKET"),
  (0xFE5E, "SMALL RIGHT TORTOISE SHELL BRACKET;SMALL NUMBER SIGN;SMALL AMPERSAND;SMALL ASTERISK"),
  (0xFE62, "SMALL PLUS SIGN;SMALL HYPHEN-MINUS;SMALL LESS-THAN SIGN;SMALL GREATER-THAN SIGN")]

/-- The names from code point FE66 to FFFD. -/
def symbolNamesFromFE66 : List (Nat × String) := [
  (0xFE66, "SMALL EQUALS SIGN"),
  (0xFE68, "SMALL REVERSE SOLIDUS;SMALL DOLLAR SIGN;SMALL PERCENT SIGN;SMALL COMMERCIAL AT"),
  (0xFF01, "FULLWIDTH EXCLAMATION MARK;FULLWIDTH QUOTATION MARK;FULLWIDTH NUMBER SIGN"),
  (0xFF04, "FULLWIDTH DOLLAR SIGN;FULLWIDTH PERCENT SIGN;FULLWIDTH AMPERSAND;FULLWIDTH APOSTROPHE"),
  (0xFF08, "FULLWIDTH LEFT PARENTHESIS;FULLWIDTH RIGHT PARENTHESIS;FULLWIDTH ASTERISK"),
  (0xFF0B, "FULLWIDTH PLUS SIGN;FULLWIDTH COMMA;FULLWIDTH HYPHEN-MINUS;FULLWIDTH FULL STOP"),
  (0xFF0F, "FULLWIDTH SOLIDUS;FULLWIDTH DIGIT ZERO;FULLWIDTH DIGIT ONE;FULLWIDTH DIGIT TWO"),
  (0xFF13, "FULLWIDTH DIGIT THREE;FULLWIDTH DIGIT FOUR;FULLWIDTH DIGIT FIVE;FULLWIDTH DIGIT SIX"),
  (0xFF17, "FULLWIDTH DIGIT SEVEN;FULLWIDTH DIGIT EIGHT;FULLWIDTH DIGIT NINE;FULLWIDTH COLON"),
  (0xFF1B, "FULLWIDTH SEMICOLON;FULLWIDTH LESS-THAN SIGN;FULLWIDTH EQUALS SIGN"),
  (0xFF1E, "FULLWIDTH GREATER-THAN SIGN;FULLWIDTH QUESTION MARK;FULLWIDTH COMMERCIAL AT"),
  (0xFF21, "FULLWIDTH LATIN CAPITAL LETTER A;FULLWIDTH LATIN CAPITAL LETTER B"),
  (0xFF23, "FULLWIDTH LATIN CAPITAL LETTER C;FULLWIDTH LATIN CAPITAL LETTER D"),
  (0xFF25, "FULLWIDTH LATIN CAPITAL LETTER E;FULLWIDTH LATIN CAPITAL LETTER F"),
  (0xFF27, "FULLWIDTH LATIN CAPITAL LETTER G;FULLWIDTH LATIN CAPITAL LETTER H"),
  (0xFF29, "FULLWIDTH LATIN CAPITAL LETTER I;FULLWIDTH LATIN CAPITAL LETTER J"),
  (0xFF2B, "FULLWIDTH LATIN CAPITAL LETTER K;FULLWIDTH LATIN CAPITAL LETTER L"),
  (0xFF2D, "FULLWIDTH LATIN CAPITAL LETTER M;FULLWIDTH LATIN CAPITAL LETTER N"),
  (0xFF2F, "FULLWIDTH LATIN CAPITAL LETTER O;FULLWIDTH LATIN CAPITAL LETTER P"),
  (0xFF31, "FULLWIDTH LATIN CAPITAL LETTER Q;FULLWIDTH LATIN CAPITAL LETTER R"),
  (0xFF33, "FULLWIDTH LATIN CAPITAL LETTER S;FULLWIDTH LATIN CAPITAL LETTER T"),
  (0xFF35, "FULLWIDTH LATIN CAPITAL LETTER U;FULLWIDTH LATIN CAPITAL LETTER V"),
  (0xFF37, "FULLWIDTH LATIN CAPITAL LETTER W;FULLWIDTH LATIN CAPITAL LETTER X"),
  (0xFF39, "FULLWIDTH LATIN CAPITAL LETTER Y;FULLWIDTH LATIN CAPITAL LETTER Z"),
  (0xFF3B, "FULLWIDTH LEFT SQUARE BRACKET;FULLWIDTH REVERSE SOLIDUS"),
  (0xFF3D, "FULLWIDTH RIGHT SQUARE BRACKET;FULLWIDTH CIRCUMFLEX ACCENT;FULLWIDTH LOW LINE"),
  (0xFF40, "FULLWIDTH GRAVE ACCENT;FULLWIDTH LATIN SMALL LETTER A;FULLWIDTH LATIN SMALL LETTER B"),
  (0xFF43, "FULLWIDTH LATIN SMALL LETTER C;FULLWIDTH LATIN SMALL LETTER D"),
  (0xFF45, "FULLWIDTH LATIN SMALL LETTER E;FULLWIDTH LATIN SMALL LETTER F"),
  (0xFF47, "FULLWIDTH LATIN SMALL LETTER G;FULLWIDTH LATIN SMALL LETTER H"),
  (0xFF49, "FULLWIDTH LATIN SMALL LETTER I;FULLWIDTH LATIN SMALL LETTER J"),
  (0xFF4B, "FULLWIDTH LATIN SMALL LETTER K;FULLWIDTH LATIN SMALL LETTER L"),
  (0xFF4D, "FULLWIDTH LATIN SMALL LETTER M;FULLWIDTH LATIN SMALL LETTER N"),
  (0xFF4F, "FULLWIDTH LATIN SMALL LETTER O;FULLWIDTH LATIN SMALL LETTER P"),
  (0xFF51, "FULLWIDTH LATIN SMALL LETTER Q;FULLWIDTH LATIN SMALL LETTER R"),
  (0xFF53, "FULLWIDTH LATIN SMALL LETTER S;FULLWIDTH LATIN SMALL LETTER T"),
  (0xFF55, "FULLWIDTH LATIN SMALL LETTER U;FULLWIDTH LATIN SMALL LETTER V"),
  (0xFF57, "FULLWIDTH LATIN SMALL LETTER W;FULLWIDTH LATIN SMALL LETTER X"),
  (0xFF59, "FULLWIDTH LATIN SMALL LETTER Y;FULLWIDTH LATIN SMALL LETTER Z"),
  (0xFF5B, "FULLWIDTH LEFT CURLY BRACKET;FULLWIDTH VERTICAL LINE;FULLWIDTH RIGHT CURLY BRACKET"),
  (0xFF5E, "FULLWIDTH TILDE;FULLWIDTH LEFT WHITE PARENTHESIS;FULLWIDTH RIGHT WHITE PARENTHESIS"),
  (0xFF61, "HALFWIDTH IDEOGRAPHIC FULL STOP;HALFWIDTH LEFT CORNER BRACKET"),
  (0xFF63, "HALFWIDTH RIGHT CORNER BRACKET;HALFWIDTH IDEOGRAPHIC COMMA"),
  (0xFF65, "HALFWIDTH KATAKANA MIDDLE DOT;HALFWIDTH KATAKANA LETTER WO"),
  (0xFF67, "HALFWIDTH KATAKANA LETTER SMALL A;HALFWIDTH KATAKANA LETTER SMALL I"),
  (0xFF69, "HALFWIDTH KATAKANA LETTER SMALL U;HALFWIDTH KATAKANA LETTER SMALL E"),
  (0xFF6B, "HALFWIDTH KATAKANA LETTER SMALL O;HALFWIDTH KATAKANA LETTER SMALL YA"),
  (0xFF6D, "HALFWIDTH KATAKANA LETTER SMALL YU;HALFWIDTH KATAKANA LETTER SMALL YO"),
  (0xFF6F, "HALFWIDTH KATAKANA LETTER SMALL TU;HALFWIDTH KATAKANA-HIRAGANA PROLONGED SOUND MARK"),
  (0xFF71, "HALFWIDTH KATAKANA LETTER A;HALFWIDTH KATAKANA LETTER I;HALFWIDTH KATAKANA LETTER U"),
  (0xFF74, "HALFWIDTH KATAKANA LETTER E;HALFWIDTH KATAKANA LETTER O;HALFWIDTH KATAKANA LETTER KA"),
  (0xFF77, "HALFWIDTH KATAKANA LETTER KI;HALFWIDTH KATAKANA LETTER KU"),
  (0xFF79, "HALFWIDTH KATAKANA LETTER KE;HALFWIDTH KATAKANA LETTER KO"),
  (0xFF7B, "HALFWIDTH KATAKANA LETTER SA;HALFWIDTH KATAKANA LETTER SI"),
  (0xFF7D, "HALFWIDTH KATAKANA LETTER SU;HALFWIDTH KATAKANA LETTER SE"),
  (0xFF7F, "HALFWIDTH KATAKANA LETTER SO;HALFWIDTH KATAKANA LETTER TA"),
  (0xFF81, "HALFWIDTH KATAKANA LETTER TI;HALFWIDTH KATAKANA LETTER TU"),
  (0xFF83, "HALFWIDTH KATAKANA LETTER TE;HALFWIDTH KATAKANA LETTER TO"),
  (0xFF85, "HALFWIDTH KATAKANA LETTER NA;HALFWIDTH KATAKANA LETTER NI"),
  (0xFF87, "HALFWIDTH KATAKANA LETTER NU;HALFWIDTH KATAKANA LETTER NE"),
  (0xFF89, "HALFWIDTH KATAKANA LETTER NO;HALFWIDTH KATAKANA LETTER HA"),
  (0xFF8B, "HALFWIDTH KATAKANA LETTER HI;HALFWIDTH KATAKANA LETTER HU"),
  (0xFF8D, "HALFWIDTH KATAKANA LETTER HE;HALFWIDTH KATAKANA LETTER HO"),
  (0xFF8F, "HALFWIDTH KATAKANA LETTER MA;HALFWIDTH KATAKANA LETTER MI"),
  (0xFF91, "HALFWIDTH KATAKANA LETTER MU;HALFWIDTH KATAKANA LETTER ME"),
  (0xFF93, "HALFWIDTH KATAKANA LETTER MO;HALFWIDTH KATAKANA LETTER YA"),
  (0xFF95, "HALFWIDTH KATAKANA LETTER YU;HALFWIDTH KATAKANA LETTER YO"),
  (0xFF97, "HALFWIDTH KATAKANA LETTER RA;HALFWIDTH KATAKANA LETTER RI"),
  (0xFF99, "HALFWIDTH KATAKANA LETTER RU;HALFWIDTH KATAKANA LETTER RE"),
  (0xFF9B, "HALFWIDTH KATAKANA LETTER RO;HALFWIDTH KATAKANA LETTER WA;HALFWIDTH KATAKANA LETTER N"),
  (0xFF9E, "HALFWIDTH KATAKANA VOICED SOUND MARK;HALFWIDTH KATAKANA SEMI-VOICED SOUND MARK"),
  (0xFFA0, "HALFWIDTH HANGUL FILLER;HALFWIDTH HANGUL LETTER KIYEOK"),
  (0xFFA2, "HALFWIDTH HANGUL LETTER SSANGKIYEOK;HALFWIDTH HANGUL LETTER KIYEOK-SIOS"),
  (0xFFA4, "HALFWIDTH HANGUL LETTER NIEUN;HALFWIDTH HANGUL LETTER NIEUN-CIEUC"),
  (0xFFA6, "HALFWIDTH HANGUL LETTER NIEUN-HIEUH;HALFWIDTH HANGUL LETTER TIKEUT"),
  (0xFFA8, "HALFWIDTH HANGUL LETTER SSANGTIKEUT;HALFWIDTH HANGUL LETTER RIEUL"),
  (0xFFAA, "HALFWIDTH HANGUL LETTER RIEUL-KIYEOK;HALFWIDTH HANGUL LETTER RIEUL-MIEUM"),
  (0xFFAC, "HALFWIDTH HANGUL LETTER RIEUL-PIEUP;HALFWIDTH HANGUL LETTER RIEUL-SIOS"),
  (0xFFAE, "HALFWIDTH HANGUL LETTER RIEUL-THIEUTH;HALFWIDTH HANGUL LETTER RIEUL-PHIEUPH"),
  (0xFFB0, "HALFWIDTH HANGUL LETTER RIEUL-HIEUH;HALFWIDTH HANGUL LETTER MIEUM"),
  (0xFFB2, "HALFWIDTH HANGUL LETTER PIEUP;HALFWIDTH HANGUL LETTER SSANGPIEUP"),
  (0xFFB4, "HALFWIDTH HANGUL LETTER PIEUP-SIOS;HALFWIDTH HANGUL LETTER SIOS"),
  (0xFFB6, "HALFWIDTH HANGUL LETTER SSANGSIOS;HALFWIDTH HANGUL LETTER IEUNG"),
  (0xFFB8, "HALFWIDTH HANGUL LETTER CIEUC;HALFWIDTH HANGUL LETTER SSANGCIEUC"),
  (0xFFBA, "HALFWIDTH HANGUL LETTER CHIEUCH;HALFWIDTH HANGUL LETTER KHIEUKH"),
  (0xFFBC, "HALFWIDTH HANGUL LETTER THIEUTH;HALFWIDTH HANGUL LETTER PHIEUPH"),
  (0xFFBE, "HALFWIDTH HANGUL LETTER HIEUH"),
  (0xFFC2, "HALFWIDTH HANGUL LETTER A;HALFWIDTH HANGUL LETTER AE;HALFWIDTH HANGUL LETTER YA"),
  (0xFFC5, "HALFWIDTH HANGUL LETTER YAE;HALFWIDTH HANGUL LETTER EO;HALFWIDTH HANGUL LETTER E"),
  (0xFFCA, "HALFWIDTH HANGUL LETTER YEO;HALFWIDTH HANGUL LETTER YE;HALFWIDTH HANGUL LETTER O"),
  (0xFFCD, "HALFWIDTH HANGUL LETTER WA;HALFWIDTH HANGUL LETTER WAE;HALFWIDTH HANGUL LETTER OE"),
  (0xFFD2, "HALFWIDTH HANGUL LETTER YO;HALFWIDTH HANGUL LETTER U;HALFWIDTH HANGUL LETTER WEO"),
  (0xFFD5, "HALFWIDTH HANGUL LETTER WE;HALFWIDTH HANGUL LETTER WI;HALFWIDTH HANGUL LETTER YU"),
  (0xFFDA, "HALFWIDTH HANGUL LETTER EU;HALFWIDTH HANGUL LETTER YI;HALFWIDTH HANGUL LETTER I"),
  (0xFFE0, "FULLWIDTH CENT SIGN;FULLWIDTH POUND SIGN;FULLWIDTH NOT SIGN;FULLWIDTH MACRON"),
  (0xFFE4, "FULLWIDTH BROKEN BAR;FULLWIDTH YEN SIGN;FULLWIDTH WON SIGN"),
  (0xFFE8, "HALFWIDTH FORMS LIGHT VERTICAL;HALFWIDTH LEFTWARDS ARROW;HALFWIDTH UPWARDS ARROW"),
  (0xFFEB, "HALFWIDTH RIGHTWARDS ARROW;HALFWIDTH DOWNWARDS ARROW;HALFWIDTH BLACK SQUARE"),
  (0xFFEE, "HALFWIDTH WHITE CIRCLE"),
  (0xFFF9, "INTERLINEAR ANNOTATION ANCHOR;INTERLINEAR ANNOTATION SEPARATOR"),
  (0xFFFB, "INTERLINEAR ANNOTATION TERMINATOR;OBJECT REPLACEMENT CHARACTER;REPLACEMENT CHARACTER")]

end Winnow.Unicode
