/-! Characters by their names. -/
namespace Overloads.Text

/-- Names of characters that follow one another, from a code point on. -/
abbrev NameRow := Nat × List String

/-- Signs and letters that no rule names. -/
def nameRows : List NameRow := [
  (32, [
    "SPACE", "EXCLAMATION MARK", "QUOTATION MARK", "NUMBER SIGN", "DOLLAR SIGN", "PERCENT SIGN",
    "AMPERSAND", "APOSTROPHE", "LEFT PARENTHESIS", "RIGHT PARENTHESIS", "ASTERISK", "PLUS SIGN",
    "COMMA", "HYPHEN-MINUS", "FULL STOP", "SOLIDUS", "DIGIT ZERO", "DIGIT ONE", "DIGIT TWO",
    "DIGIT THREE", "DIGIT FOUR", "DIGIT FIVE", "DIGIT SIX", "DIGIT SEVEN", "DIGIT EIGHT",
    "DIGIT NINE", "COLON", "SEMICOLON", "LESS-THAN SIGN", "EQUALS SIGN", "GREATER-THAN SIGN",
    "QUESTION MARK", "COMMERCIAL AT"]),
  (91, [
    "LEFT SQUARE BRACKET", "REVERSE SOLIDUS", "RIGHT SQUARE BRACKET", "CIRCUMFLEX ACCENT",
    "LOW LINE", "GRAVE ACCENT"]),
  (123, ["LEFT CURLY BRACKET", "VERTICAL LINE", "RIGHT CURLY BRACKET", "TILDE"]),
  (160, [
    "NO-BREAK SPACE", "INVERTED EXCLAMATION MARK", "CENT SIGN", "POUND SIGN", "CURRENCY SIGN",
    "YEN SIGN", "BROKEN BAR", "SECTION SIGN", "DIAERESIS", "COPYRIGHT SIGN",
    "FEMININE ORDINAL INDICATOR", "LEFT-POINTING DOUBLE ANGLE QUOTATION MARK", "NOT SIGN",
    "SOFT HYPHEN", "REGISTERED SIGN", "MACRON", "DEGREE SIGN", "PLUS-MINUS SIGN", "SUPERSCRIPT TWO",
    "SUPERSCRIPT THREE", "ACUTE ACCENT", "MICRO SIGN", "PILCROW SIGN", "MIDDLE DOT", "CEDILLA",
    "SUPERSCRIPT ONE", "MASCULINE ORDINAL INDICATOR", "RIGHT-POINTING DOUBLE ANGLE QUOTATION MARK",
    "VULGAR FRACTION ONE QUARTER", "VULGAR FRACTION ONE HALF", "VULGAR FRACTION THREE QUARTERS",
    "INVERTED QUESTION MARK", "LATIN CAPITAL LETTER A WITH GRAVE",
    "LATIN CAPITAL LETTER A WITH ACUTE", "LATIN CAPITAL LETTER A WITH CIRCUMFLEX",
    "LATIN CAPITAL LETTER A WITH TILDE", "LATIN CAPITAL LETTER A WITH DIAERESIS",
    "LATIN CAPITAL LETTER A WITH RING ABOVE", "LATIN CAPITAL LETTER AE",
    "LATIN CAPITAL LETTER C WITH CEDILLA", "LATIN CAPITAL LETTER E WITH GRAVE",
    "LATIN CAPITAL LETTER E WITH ACUTE", "LATIN CAPITAL LETTER E WITH CIRCUMFLEX",
    "LATIN CAPITAL LETTER E WITH DIAERESIS", "LATIN CAPITAL LETTER I WITH GRAVE",
    "LATIN CAPITAL LETTER I WITH ACUTE", "LATIN CAPITAL LETTER I WITH CIRCUMFLEX",
    "LATIN CAPITAL LETTER I WITH DIAERESIS", "LATIN CAPITAL LETTER ETH",
    "LATIN CAPITAL LETTER N WITH TILDE", "LATIN CAPITAL LETTER O WITH GRAVE",
    "LATIN CAPITAL LETTER O WITH ACUTE", "LATIN CAPITAL LETTER O WITH CIRCUMFLEX",
    "LATIN CAPITAL LETTER O WITH TILDE", "LATIN CAPITAL LETTER O WITH DIAERESIS",
    "MULTIPLICATION SIGN", "LATIN CAPITAL LETTER O WITH STROKE",
    "LATIN CAPITAL LETTER U WITH GRAVE", "LATIN CAPITAL LETTER U WITH ACUTE",
    "LATIN CAPITAL LETTER U WITH CIRCUMFLEX", "LATIN CAPITAL LETTER U WITH DIAERESIS",
    "LATIN CAPITAL LETTER Y WITH ACUTE", "LATIN CAPITAL LETTER THORN", "LATIN SMALL LETTER SHARP S",
    "LATIN SMALL LETTER A WITH GRAVE", "LATIN SMALL LETTER A WITH ACUTE",
    "LATIN SMALL LETTER A WITH CIRCUMFLEX", "LATIN SMALL LETTER A WITH TILDE",
    "LATIN SMALL LETTER A WITH DIAERESIS", "LATIN SMALL LETTER A WITH RING ABOVE",
    "LATIN SMALL LETTER AE", "LATIN SMALL LETTER C WITH CEDILLA", "LATIN SMALL LETTER E WITH GRAVE",
    "LATIN SMALL LETTER E WITH ACUTE", "LATIN SMALL LETTER E WITH CIRCUMFLEX",
    "LATIN SMALL LETTER E WITH DIAERESIS", "LATIN SMALL LETTER I WITH GRAVE",
    "LATIN SMALL LETTER I WITH ACUTE", "LATIN SMALL LETTER I WITH CIRCUMFLEX",
    "LATIN SMALL LETTER I WITH DIAERESIS", "LATIN SMALL LETTER ETH",
    "LATIN SMALL LETTER N WITH TILDE", "LATIN SMALL LETTER O WITH GRAVE",
    "LATIN SMALL LETTER O WITH ACUTE", "LATIN SMALL LETTER O WITH CIRCUMFLEX",
    "LATIN SMALL LETTER O WITH TILDE", "LATIN SMALL LETTER O WITH DIAERESIS", "DIVISION SIGN",
    "LATIN SMALL LETTER O WITH STROKE", "LATIN SMALL LETTER U WITH GRAVE",
    "LATIN SMALL LETTER U WITH ACUTE", "LATIN SMALL LETTER U WITH CIRCUMFLEX",
    "LATIN SMALL LETTER U WITH DIAERESIS", "LATIN SMALL LETTER Y WITH ACUTE",
    "LATIN SMALL LETTER THORN", "LATIN SMALL LETTER Y WITH DIAERESIS"]),
  (304, ["LATIN CAPITAL LETTER I WITH DOT ABOVE", "LATIN SMALL LETTER DOTLESS I"]),
  (338, ["LATIN CAPITAL LIGATURE OE", "LATIN SMALL LIGATURE OE"]),
  (352, ["LATIN CAPITAL LETTER S WITH CARON", "LATIN SMALL LETTER S WITH CARON"]),
  (376, ["LATIN CAPITAL LETTER Y WITH DIAERESIS"]),
  (381, [
    "LATIN CAPITAL LETTER Z WITH CARON", "LATIN SMALL LETTER Z WITH CARON",
    "LATIN SMALL LETTER LONG S"]),
  (768, [
    "COMBINING GRAVE ACCENT", "COMBINING ACUTE ACCENT", "COMBINING CIRCUMFLEX ACCENT",
    "COMBINING TILDE"]),
  (776, ["COMBINING DIAERESIS"]), (807, ["COMBINING CEDILLA"]),
  (962, ["GREEK SMALL LETTER FINAL SIGMA"]), (1488, ["HEBREW LETTER ALEF"]),
  (1632, ["ARABIC-INDIC DIGIT ZERO"]), (1776, ["EXTENDED ARABIC-INDIC DIGIT ZERO"]),
  (7838, ["LATIN CAPITAL LETTER SHARP S"]), (8194, ["EN SPACE", "EM SPACE"]),
  (8199, ["FIGURE SPACE"]),
  (8201, [
    "THIN SPACE", "HAIR SPACE", "ZERO WIDTH SPACE", "ZERO WIDTH NON-JOINER", "ZERO WIDTH JOINER",
    "LEFT-TO-RIGHT MARK", "RIGHT-TO-LEFT MARK", "HYPHEN", "NON-BREAKING HYPHEN", "FIGURE DASH",
    "EN DASH", "EM DASH", "HORIZONTAL BAR", "DOUBLE VERTICAL LINE", "DOUBLE LOW LINE",
    "LEFT SINGLE QUOTATION MARK", "RIGHT SINGLE QUOTATION MARK", "SINGLE LOW-9 QUOTATION MARK",
    "SINGLE HIGH-REVERSED-9 QUOTATION MARK", "LEFT DOUBLE QUOTATION MARK",
    "RIGHT DOUBLE QUOTATION MARK", "DOUBLE LOW-9 QUOTATION MARK",
    "DOUBLE HIGH-REVERSED-9 QUOTATION MARK", "DAGGER", "DOUBLE DAGGER", "BULLET",
    "TRIANGULAR BULLET", "ONE DOT LEADER", "TWO DOT LEADER", "HORIZONTAL ELLIPSIS",
    "HYPHENATION POINT", "LINE SEPARATOR", "PARAGRAPH SEPARATOR"]),
  (8239, [
    "NARROW NO-BREAK SPACE", "PER MILLE SIGN", "PER TEN THOUSAND SIGN", "PRIME", "DOUBLE PRIME",
    "TRIPLE PRIME", "REVERSED PRIME", "REVERSED DOUBLE PRIME", "REVERSED TRIPLE PRIME", "CARET",
    "SINGLE LEFT-POINTING ANGLE QUOTATION MARK", "SINGLE RIGHT-POINTING ANGLE QUOTATION MARK",
    "REFERENCE MARK", "DOUBLE EXCLAMATION MARK", "INTERROBANG", "OVERLINE", "UNDERTIE",
    "CHARACTER TIE", "CARET INSERTION POINT", "ASTERISM", "HYPHEN BULLET", "FRACTION SLASH"]),
  (8288, ["WORD JOINER"]),
  (8352, [
    "EURO-CURRENCY SIGN", "COLON SIGN", "CRUZEIRO SIGN", "FRENCH FRANC SIGN", "LIRA SIGN",
    "MILL SIGN", "NAIRA SIGN", "PESETA SIGN", "RUPEE SIGN", "WON SIGN", "NEW SHEQEL SIGN",
    "DONG SIGN", "EURO SIGN", "KIP SIGN", "TUGRIK SIGN", "DRACHMA SIGN", "GERMAN PENNY SIGN",
    "PESO SIGN", "GUARANI SIGN", "AUSTRAL SIGN", "HRYVNIA SIGN", "CEDI SIGN", "LIVRE TOURNOIS SIGN",
    "SPESMILO SIGN", "TENGE SIGN", "INDIAN RUPEE SIGN", "TURKISH LIRA SIGN", "NORDIC MARK SIGN",
    "MANAT SIGN", "RUBLE SIGN", "LARI SIGN", "BITCOIN SIGN"]),
  (8470, ["NUMERO SIGN"]), (8482, ["TRADE MARK SIGN"]), (8486, ["OHM SIGN"]),
  (8490, ["KELVIN SIGN", "ANGSTROM SIGN"]),
  (8592, [
    "LEFTWARDS ARROW", "UPWARDS ARROW", "RIGHTWARDS ARROW", "DOWNWARDS ARROW", "LEFT RIGHT ARROW",
    "UP DOWN ARROW", "NORTH WEST ARROW", "NORTH EAST ARROW", "SOUTH EAST ARROW", "SOUTH WEST ARROW",
    "LEFTWARDS ARROW WITH STROKE", "RIGHTWARDS ARROW WITH STROKE", "LEFTWARDS WAVE ARROW",
    "RIGHTWARDS WAVE ARROW", "LEFTWARDS TWO HEADED ARROW", "UPWARDS TWO HEADED ARROW"]),
  (8704, [
    "FOR ALL", "COMPLEMENT", "PARTIAL DIFFERENTIAL", "THERE EXISTS", "THERE DOES NOT EXIST",
    "EMPTY SET", "INCREMENT", "NABLA", "ELEMENT OF", "NOT AN ELEMENT OF", "SMALL ELEMENT OF",
    "CONTAINS AS MEMBER", "DOES NOT CONTAIN AS MEMBER", "SMALL CONTAINS AS MEMBER", "END OF PROOF",
    "N-ARY PRODUCT", "N-ARY COPRODUCT", "N-ARY SUMMATION", "MINUS SIGN", "MINUS-OR-PLUS SIGN",
    "DOT PLUS", "DIVISION SLASH", "SET MINUS", "ASTERISK OPERATOR", "RING OPERATOR",
    "BULLET OPERATOR", "SQUARE ROOT", "CUBE ROOT", "FOURTH ROOT", "PROPORTIONAL TO", "INFINITY",
    "RIGHT ANGLE", "ANGLE", "MEASURED ANGLE", "SPHERICAL ANGLE", "DIVIDES", "DOES NOT DIVIDE",
    "PARALLEL TO", "NOT PARALLEL TO", "LOGICAL AND", "LOGICAL OR", "INTERSECTION", "UNION",
    "INTEGRAL", "DOUBLE INTEGRAL", "TRIPLE INTEGRAL", "CONTOUR INTEGRAL", "SURFACE INTEGRAL",
    "VOLUME INTEGRAL", "CLOCKWISE INTEGRAL", "CLOCKWISE CONTOUR INTEGRAL",
    "ANTICLOCKWISE CONTOUR INTEGRAL", "THEREFORE", "BECAUSE", "RATIO", "PROPORTION", "DOT MINUS",
    "EXCESS", "GEOMETRIC PROPORTION", "HOMOTHETIC", "TILDE OPERATOR", "REVERSED TILDE",
    "INVERTED LAZY S", "SINE WAVE", "WREATH PRODUCT", "NOT TILDE", "MINUS TILDE",
    "ASYMPTOTICALLY EQUAL TO", "NOT ASYMPTOTICALLY EQUAL TO", "APPROXIMATELY EQUAL TO",
    "APPROXIMATELY BUT NOT ACTUALLY EQUAL TO", "NEITHER APPROXIMATELY NOR ACTUALLY EQUAL TO",
    "ALMOST EQUAL TO", "NOT ALMOST EQUAL TO", "ALMOST EQUAL OR EQUAL TO", "TRIPLE TILDE",
    "ALL EQUAL TO", "EQUIVALENT TO", "GEOMETRICALLY EQUIVALENT TO", "DIFFERENCE BETWEEN",
    "APPROACHES THE LIMIT", "GEOMETRICALLY EQUAL TO", "APPROXIMATELY EQUAL TO OR THE IMAGE OF",
    "IMAGE OF OR APPROXIMATELY EQUAL TO", "COLON EQUALS", "EQUALS COLON", "RING IN EQUAL TO",
    "RING EQUAL TO", "CORRESPONDS TO", "ESTIMATES", "EQUIANGULAR TO", "STAR EQUALS",
    "DELTA EQUAL TO", "EQUAL TO BY DEFINITION", "MEASURED BY", "QUESTIONED EQUAL TO",
    "NOT EQUAL TO", "IDENTICAL TO", "NOT IDENTICAL TO", "STRICTLY EQUIVALENT TO",
    "LESS-THAN OR EQUAL TO", "GREATER-THAN OR EQUAL TO", "LESS-THAN OVER EQUAL TO",
    "GREATER-THAN OVER EQUAL TO", "LESS-THAN BUT NOT EQUAL TO", "GREATER-THAN BUT NOT EQUAL TO",
    "MUCH LESS-THAN", "MUCH GREATER-THAN", "BETWEEN", "NOT EQUIVALENT TO", "NOT LESS-THAN",
    "NOT GREATER-THAN"]),
  (8986, ["WATCH"]), (9632, ["BLACK SQUARE", "WHITE SQUARE"]),
  (9650, ["BLACK UP-POINTING TRIANGLE"]), (9675, ["WHITE CIRCLE"]), (9679, ["BLACK CIRCLE"]),
  (9731, ["SNOWMAN"]), (9733, ["BLACK STAR", "WHITE STAR"]),
  (9785, ["WHITE FROWNING FACE", "WHITE SMILING FACE"]), (9824, ["BLACK SPADE SUIT"]),
  (9827, ["BLACK CLUB SUIT"]), (9829, ["BLACK HEART SUIT", "BLACK DIAMOND SUIT"]),
  (10003, ["CHECK MARK", "HEAVY CHECK MARK"]), (10007, ["BALLOT X"]),
  (10084, ["HEAVY BLACK HEART"]),
  (12288, ["IDEOGRAPHIC SPACE", "IDEOGRAPHIC COMMA", "IDEOGRAPHIC FULL STOP"]),
  (65279, ["ZERO WIDTH NO-BREAK SPACE"]), (65533, ["REPLACEMENT CHARACTER"]),
  (66560, ["DESERET CAPITAL LETTER LONG I"]), (66600, ["DESERET SMALL LETTER LONG I"]),
  (128013, ["SNAKE"]), (128077, ["THUMBS UP SIGN"]), (128169, ["PILE OF POO"]), (128276, ["BELL"]),
  (128293, ["FIRE"]), (128512, ["GRINNING FACE"]), (128514, ["FACE WITH TEARS OF JOY"]),
  (128640, ["ROCKET"])]

/-- Other names of characters, each row for one code point. -/
def secondNames : List NameRow := [
  (0, ["NULL", "NUL"]), (1, ["START OF HEADING", "SOH"]), (2, ["START OF TEXT", "STX"]),
  (3, ["END OF TEXT", "ETX"]), (4, ["END OF TRANSMISSION", "EOT"]), (5, ["ENQUIRY", "ENQ"]),
  (6, ["ACKNOWLEDGE", "ACK"]), (7, ["ALERT", "BEL"]), (8, ["BACKSPACE", "BS"]),
  (9, ["CHARACTER TABULATION", "HORIZONTAL TABULATION", "HT", "TAB"]),
  (10, ["LINE FEED", "NEW LINE", "END OF LINE", "LF", "NL", "EOL"]),
  (11, ["LINE TABULATION", "VERTICAL TABULATION", "VT"]), (12, ["FORM FEED", "FF"]),
  (13, ["CARRIAGE RETURN", "CR"]), (14, ["SHIFT OUT", "LOCKING-SHIFT ONE", "SO"]),
  (15, ["SHIFT IN", "LOCKING-SHIFT ZERO", "SI"]), (16, ["DATA LINK ESCAPE", "DLE"]),
  (17, ["DEVICE CONTROL ONE", "DC1"]), (18, ["DEVICE CONTROL TWO", "DC2"]),
  (19, ["DEVICE CONTROL THREE", "DC3"]), (20, ["DEVICE CONTROL FOUR", "DC4"]),
  (21, ["NEGATIVE ACKNOWLEDGE", "NAK"]), (22, ["SYNCHRONOUS IDLE", "SYN"]),
  (23, ["END OF TRANSMISSION BLOCK", "ETB"]), (24, ["CANCEL", "CAN"]),
  (25, ["END OF MEDIUM", "EOM"]), (26, ["SUBSTITUTE", "SUB"]), (27, ["ESCAPE", "ESC"]),
  (28, ["INFORMATION SEPARATOR FOUR", "FILE SEPARATOR", "FS"]),
  (29, ["INFORMATION SEPARATOR THREE", "GROUP SEPARATOR", "GS"]),
  (30, ["INFORMATION SEPARATOR TWO", "RECORD SEPARATOR", "RS"]),
  (31, ["INFORMATION SEPARATOR ONE", "UNIT SEPARATOR", "US"]), (32, ["SP"]),
  (127, ["DELETE", "DEL"]), (133, ["NEXT LINE", "NEL"]), (160, ["NBSP"]), (173, ["SHY"]),
  (8203, ["ZWSP"]), (8204, ["ZWNJ"]), (8205, ["ZWJ"]), (8288, ["WJ"]),
  (65279, ["BYTE ORDER MARK", "BOM", "ZWNBSP"])]

/-- Greek letters from alpha on. -/
def greekLetters : List String := [
  "ALPHA", "BETA", "GAMMA", "DELTA", "EPSILON", "ZETA", "ETA", "THETA", "IOTA", "KAPPA", "LAMDA",
  "MU", "NU", "XI", "OMICRON", "PI", "RHO", "FINAL SIGMA", "SIGMA", "TAU", "UPSILON", "PHI", "CHI",
  "PSI", "OMEGA"]

/-- Cyrillic letters from a on. -/
def cyrillicLetters : List String := [
  "A", "BE", "VE", "GHE", "DE", "IE", "ZHE", "ZE", "I", "SHORT I", "KA", "EL", "EM", "EN", "O",
  "PE", "ER", "ES", "TE", "U", "EF", "HA", "TSE", "CHE", "SHA", "SHCHA", "HARD SIGN", "YERU",
  "SOFT SIGN", "E", "YU", "YA"]

/-- The one Greek letter without a capital form. -/
def finalForm : String := "FINAL SIGMA"

/-- The names of the letters of a script, from a code point on. -/
def letterRow (start : Nat) (script : String) (letters : List String) : NameRow :=
  (start, letters.map fun l => script ++ " LETTER " ++ l)

/-- Letters that a rule names. -/
def letterRows : List NameRow :=
  let latin := (List.range 26).map fun i => String.singleton (Char.ofNat (65 + i))
  let greek := greekLetters.map fun l => if l = finalForm then "" else l
  [letterRow 65 "LATIN CAPITAL" latin, letterRow 97 "LATIN SMALL" latin,
    letterRow 913 "GREEK CAPITAL" greek, letterRow 945 "GREEK SMALL" greekLetters,
    letterRow 1040 "CYRILLIC CAPITAL" cyrillicLetters,
    letterRow 1072 "CYRILLIC SMALL" cyrillicLetters]

/-- The code point that a name has in a row. -/
def NameRow.code? (r : NameRow) (name : String) : Option Nat :=
  (r.2.findIdx? (· = name)).map (r.1 + ·)

/-- The name that a code point has in a row. -/
def NameRow.name? (r : NameRow) (code : Nat) : Option String :=
  if r.1 ≤ code then (r.2[code - r.1]?).filter (!·.isEmpty) else none

/-- The name of a character that has one here. -/
def nameOfCode? (code : Nat) : Option String :=
  (nameRows ++ letterRows).findSome? (·.name? code)

/-- The code point in the name of an ideograph. -/
def ideograph? (name : String) : Option Nat :=
  let digits := (name.toList.drop "CJK UNIFIED IDEOGRAPH-".length)
  let value (c : Char) : Nat := if c.isDigit then c.toNat - 48 else c.toNat - 55
  let code := digits.foldl (fun n c => 16 * n + value c) 0
  let isDigit (c : Char) : Bool := c.isDigit || ('A' ≤ c && c ≤ 'F')
  if name.startsWith "CJK UNIFIED IDEOGRAPH-" && digits.length = 4 && digits.all isDigit &&
      ((0x3400 ≤ code && code ≤ 0x4DBF) || (0x4E00 ≤ code && code ≤ 0x9FFF)) then
    some code
  else none

/-- The code point of a character by one of its names, written in capital or small letters. -/
def codeOfName? (name : String) : Option Nat :=
  let name := name.toUpper
  let rows := nameRows ++ letterRows
  match rows.findSome? (·.code? name), secondNames.find? (·.2.contains name) with
  | some code, _ => some code
  | none, some row => some row.1
  | none, none => ideograph? name

end Overloads.Text
