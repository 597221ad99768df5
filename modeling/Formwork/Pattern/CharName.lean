/-!
Characters by their names. Each row names the characters from a first code point on; `-` stands for
a code point without a name.
-/
namespace Formwork.Pattern

/-- Rows of names, separated by semicolons, with the code point of the first. -/
def nameRows : List (Nat × String) :=
  [(32, "SPACE;EXCLAMATION MARK;QUOTATION MARK;NUMBER SIGN;DOLLAR SIGN;PERCENT SIGN"),
   (38, "AMPERSAND;APOSTROPHE;LEFT PARENTHESIS;RIGHT PARENTHESIS;ASTERISK;PLUS SIGN"),
   (44, "COMMA;HYPHEN-MINUS;FULL STOP;SOLIDUS;DIGIT ZERO;DIGIT ONE;DIGIT TWO"),
   (51, "DIGIT THREE;DIGIT FOUR;DIGIT FIVE;DIGIT SIX;DIGIT SEVEN;DIGIT EIGHT;DIGIT NINE"),
   (58, "COLON;SEMICOLON;LESS-THAN SIGN;EQUALS SIGN;GREATER-THAN SIGN;QUESTION MARK"),
   (64, "COMMERCIAL AT;LATIN CAPITAL LETTER A;LATIN CAPITAL LETTER B"),
   (67, "LATIN CAPITAL LETTER C;LATIN CAPITAL LETTER D;LATIN CAPITAL LETTER E"),
   (70, "LATIN CAPITAL LETTER F;LATIN CAPITAL LETTER G;LATIN CAPITAL LETTER H"),
   (73, "LATIN CAPITAL LETTER I;LATIN CAPITAL LETTER J;LATIN CAPITAL LETTER K"),
   (76, "LATIN CAPITAL LETTER L;LATIN CAPITAL LETTER M;LATIN CAPITAL LETTER N"),
   (79, "LATIN CAPITAL LETTER O;LATIN CAPITAL LETTER P;LATIN CAPITAL LETTER Q"),
   (82, "LATIN CAPITAL LETTER R;LATIN CAPITAL LETTER S;LATIN CAPITAL LETTER T"),
   (85, "LATIN CAPITAL LETTER U;LATIN CAPITAL LETTER V;LATIN CAPITAL LETTER W"),
   (88, "LATIN CAPITAL LETTER X;LATIN CAPITAL LETTER Y;LATIN CAPITAL LETTER Z"),
   (91, "LEFT SQUARE BRACKET;REVERSE SOLIDUS;RIGHT SQUARE BRACKET;CIRCUMFLEX ACCENT"),
   (95, "LOW LINE;GRAVE ACCENT;LATIN SMALL LETTER A;LATIN SMALL LETTER B"),
   (99, "LATIN SMALL LETTER C;LATIN SMALL LETTER D;LATIN SMALL LETTER E"),
   (102, "LATIN SMALL LETTER F;LATIN SMALL LETTER G;LATIN SMALL LETTER H"),
   (105, "LATIN SMALL LETTER I;LATIN SMALL LETTER J;LATIN SMALL LETTER K"),
   (108, "LATIN SMALL LETTER L;LATIN SMALL LETTER M;LATIN SMALL LETTER N"),
   (111, "LATIN SMALL LETTER O;LATIN SMALL LETTER P;LATIN SMALL LETTER Q"),
   (114, "LATIN SMALL LETTER R;LATIN SMALL LETTER S;LATIN SMALL LETTER T"),
   (117, "LATIN SMALL LETTER U;LATIN SMALL LETTER V;LATIN SMALL LETTER W"),
   (120, "LATIN SMALL LETTER X;LATIN SMALL LETTER Y;LATIN SMALL LETTER Z"),
   (123, "LEFT CURLY BRACKET;VERTICAL LINE;RIGHT CURLY BRACKET;TILDE;-;-;-;-;-;-;-;-;-;-"),
   (137, "-;-;-;-;-;-;-;-;-;-;-;-;-;-;-;-;-;-;-;-;-;-;-;NO-BREAK SPACE"),
   (161, "INVERTED EXCLAMATION MARK;CENT SIGN;POUND SIGN;CURRENCY SIGN;YEN SIGN"),
   (166, "BROKEN BAR;SECTION SIGN;DIAERESIS;COPYRIGHT SIGN;FEMININE ORDINAL INDICATOR"),
   (171, "LEFT-POINTING DOUBLE ANGLE QUOTATION MARK;NOT SIGN;SOFT HYPHEN;REGISTERED SIGN"),
   (175, "MACRON;DEGREE SIGN;PLUS-MINUS SIGN;SUPERSCRIPT TWO;SUPERSCRIPT THREE"),
   (180, "ACUTE ACCENT;MICRO SIGN;PILCROW SIGN;MIDDLE DOT;CEDILLA;SUPERSCRIPT ONE"),
   (186, "MASCULINE ORDINAL INDICATOR;RIGHT-POINTING DOUBLE ANGLE QUOTATION MARK"),
   (188, "VULGAR FRACTION ONE QUARTER;VULGAR FRACTION ONE HALF"),
   (190, "VULGAR FRACTION THREE QUARTERS;INVERTED QUESTION MARK"),
   (192, "LATIN CAPITAL LETTER A WITH GRAVE;LATIN CAPITAL LETTER A WITH ACUTE"),
   (194, "LATIN CAPITAL LETTER A WITH CIRCUMFLEX;LATIN CAPITAL LETTER A WITH TILDE"),
   (196, "LATIN CAPITAL LETTER A WITH DIAERESIS;LATIN CAPITAL LETTER A WITH RING ABOVE"),
   (198, "LATIN CAPITAL LETTER AE;LATIN CAPITAL LETTER C WITH CEDILLA"),
   (200, "LATIN CAPITAL LETTER E WITH GRAVE;LATIN CAPITAL LETTER E WITH ACUTE"),
   (202, "LATIN CAPITAL LETTER E WITH CIRCUMFLEX;LATIN CAPITAL LETTER E WITH DIAERESIS"),
   (204, "LATIN CAPITAL LETTER I WITH GRAVE;LATIN CAPITAL LETTER I WITH ACUTE"),
   (206, "LATIN CAPITAL LETTER I WITH CIRCUMFLEX;LATIN CAPITAL LETTER I WITH DIAERESIS"),
   (208, "LATIN CAPITAL LETTER ETH;LATIN CAPITAL LETTER N WITH TILDE"),
   (210, "LATIN CAPITAL LETTER O WITH GRAVE;LATIN CAPITAL LETTER O WITH ACUTE"),
   (212, "LATIN CAPITAL LETTER O WITH CIRCUMFLEX;LATIN CAPITAL LETTER O WITH TILDE"),
   (214, "LATIN CAPITAL LETTER O WITH DIAERESIS;MULTIPLICATION SIGN"),
   (216, "LATIN CAPITAL LETTER O WITH STROKE;LATIN CAPITAL LETTER U WITH GRAVE"),
   (218, "LATIN CAPITAL LETTER U WITH ACUTE;LATIN CAPITAL LETTER U WITH CIRCUMFLEX"),
   (220, "LATIN CAPITAL LETTER U WITH DIAERESIS;LATIN CAPITAL LETTER Y WITH ACUTE"),
   (222, "LATIN CAPITAL LETTER THORN;LATIN SMALL LETTER SHARP S"),
   (224, "LATIN SMALL LETTER A WITH GRAVE;LATIN SMALL LETTER A WITH ACUTE"),
   (226, "LATIN SMALL LETTER A WITH CIRCUMFLEX;LATIN SMALL LETTER A WITH TILDE"),
   (228, "LATIN SMALL LETTER A WITH DIAERESIS;LATIN SMALL LETTER A WITH RING ABOVE"),
   (230, "LATIN SMALL LETTER AE;LATIN SMALL LETTER C WITH CEDILLA"),
   (232, "LATIN SMALL LETTER E WITH GRAVE;LATIN SMALL LETTER E WITH ACUTE"),
   (234, "LATIN SMALL LETTER E WITH CIRCUMFLEX;LATIN SMALL LETTER E WITH DIAERESIS"),
   (236, "LATIN SMALL LETTER I WITH GRAVE;LATIN SMALL LETTER I WITH ACUTE"),
   (238, "LATIN SMALL LETTER I WITH CIRCUMFLEX;LATIN SMALL LETTER I WITH DIAERESIS"),
   (240, "LATIN SMALL LETTER ETH;LATIN SMALL LETTER N WITH TILDE"),
   (242, "LATIN SMALL LETTER O WITH GRAVE;LATIN SMALL LETTER O WITH ACUTE"),
   (244, "LATIN SMALL LETTER O WITH CIRCUMFLEX;LATIN SMALL LETTER O WITH TILDE"),
   (246, "LATIN SMALL LETTER O WITH DIAERESIS;DIVISION SIGN"),
   (248, "LATIN SMALL LETTER O WITH STROKE;LATIN SMALL LETTER U WITH GRAVE"),
   (250, "LATIN SMALL LETTER U WITH ACUTE;LATIN SMALL LETTER U WITH CIRCUMFLEX"),
   (252, "LATIN SMALL LETTER U WITH DIAERESIS;LATIN SMALL LETTER Y WITH ACUTE"),
   (254, "LATIN SMALL LETTER THORN;LATIN SMALL LETTER Y WITH DIAERESIS"),
   (256, "LATIN CAPITAL LETTER A WITH MACRON;LATIN SMALL LETTER A WITH MACRON"),
   (258, "LATIN CAPITAL LETTER A WITH BREVE;LATIN SMALL LETTER A WITH BREVE"),
   (260, "LATIN CAPITAL LETTER A WITH OGONEK;LATIN SMALL LETTER A WITH OGONEK"),
   (262, "LATIN CAPITAL LETTER C WITH ACUTE;LATIN SMALL LETTER C WITH ACUTE"),
   (264, "LATIN CAPITAL LETTER C WITH CIRCUMFLEX;LATIN SMALL LETTER C WITH CIRCUMFLEX"),
   (266, "LATIN CAPITAL LETTER C WITH DOT ABOVE;LATIN SMALL LETTER C WITH DOT ABOVE"),
   (268, "LATIN CAPITAL LETTER C WITH CARON;LATIN SMALL LETTER C WITH CARON"),
   (270, "LATIN CAPITAL LETTER D WITH CARON;LATIN SMALL LETTER D WITH CARON"),
   (272, "LATIN CAPITAL LETTER D WITH STROKE;LATIN SMALL LETTER D WITH STROKE"),
   (274, "LATIN CAPITAL LETTER E WITH MACRON;LATIN SMALL LETTER E WITH MACRON"),
   (276, "LATIN CAPITAL LETTER E WITH BREVE;LATIN SMALL LETTER E WITH BREVE"),
   (278, "LATIN CAPITAL LETTER E WITH DOT ABOVE;LATIN SMALL LETTER E WITH DOT ABOVE"),
   (280, "LATIN CAPITAL LETTER E WITH OGONEK;LATIN SMALL LETTER E WITH OGONEK"),
   (282, "LATIN CAPITAL LETTER E WITH CARON;LATIN SMALL LETTER E WITH CARON"),
   (284, "LATIN CAPITAL LETTER G WITH CIRCUMFLEX;LATIN SMALL LETTER G WITH CIRCUMFLEX"),
   (286, "LATIN CAPITAL LETTER G WITH BREVE;LATIN SMALL LETTER G WITH BREVE"),
   (288, "LATIN CAPITAL LETTER G WITH DOT ABOVE;LATIN SMALL LETTER G WITH DOT ABOVE"),
   (290, "LATIN CAPITAL LETTER G WITH CEDILLA;LATIN SMALL LETTER G WITH CEDILLA"),
   (292, "LATIN CAPITAL LETTER H WITH CIRCUMFLEX;LATIN SMALL LETTER H WITH CIRCUMFLEX"),
   (294, "LATIN CAPITAL LETTER H WITH STROKE;LATIN SMALL LETTER H WITH STROKE"),
   (296, "LATIN CAPITAL LETTER I WITH TILDE;LATIN SMALL LETTER I WITH TILDE"),
   (298, "LATIN CAPITAL LETTER I WITH MACRON;LATIN SMALL LETTER I WITH MACRON"),
   (300, "LATIN CAPITAL LETTER I WITH BREVE;LATIN SMALL LETTER I WITH BREVE"),
   (302, "LATIN CAPITAL LETTER I WITH OGONEK;LATIN SMALL LETTER I WITH OGONEK"),
   (304, "LATIN CAPITAL LETTER I WITH DOT ABOVE;LATIN SMALL LETTER DOTLESS I"),
   (306, "LATIN CAPITAL LIGATURE IJ;LATIN SMALL LIGATURE IJ"),
   (308, "LATIN CAPITAL LETTER J WITH CIRCUMFLEX;LATIN SMALL LETTER J WITH CIRCUMFLEX"),
   (310, "LATIN CAPITAL LETTER K WITH CEDILLA;LATIN SMALL LETTER K WITH CEDILLA"),
   (312, "LATIN SMALL LETTER KRA;LATIN CAPITAL LETTER L WITH ACUTE"),
   (314, "LATIN SMALL LETTER L WITH ACUTE;LATIN CAPITAL LETTER L WITH CEDILLA"),
   (316, "LATIN SMALL LETTER L WITH CEDILLA;LATIN CAPITAL LETTER L WITH CARON"),
   (318, "LATIN SMALL LETTER L WITH CARON;LATIN CAPITAL LETTER L WITH MIDDLE DOT"),
   (320, "LATIN SMALL LETTER L WITH MIDDLE DOT;LATIN CAPITAL LETTER L WITH STROKE"),
   (322, "LATIN SMALL LETTER L WITH STROKE;LATIN CAPITAL LETTER N WITH ACUTE"),
   (324, "LATIN SMALL LETTER N WITH ACUTE;LATIN CAPITAL LETTER N WITH CEDILLA"),
   (326, "LATIN SMALL LETTER N WITH CEDILLA;LATIN CAPITAL LETTER N WITH CARON"),
   (328, "LATIN SMALL LETTER N WITH CARON;LATIN SMALL LETTER N PRECEDED BY APOSTROPHE"),
   (330, "LATIN CAPITAL LETTER ENG;LATIN SMALL LETTER ENG"),
   (332, "LATIN CAPITAL LETTER O WITH MACRON;LATIN SMALL LETTER O WITH MACRON"),
   (334, "LATIN CAPITAL LETTER O WITH BREVE;LATIN SMALL LETTER O WITH BREVE"),
   (336, "LATIN CAPITAL LETTER O WITH DOUBLE ACUTE"),
   (337, "LATIN SMALL LETTER O WITH DOUBLE ACUTE;LATIN CAPITAL LIGATURE OE"),
   (339, "LATIN SMALL LIGATURE OE;LATIN CAPITAL LETTER R WITH ACUTE"),
   (341, "LATIN SMALL LETTER R WITH ACUTE;LATIN CAPITAL LETTER R WITH CEDILLA"),
   (343, "LATIN SMALL LETTER R WITH CEDILLA;LATIN CAPITAL LETTER R WITH CARON"),
   (345, "LATIN SMALL LETTER R WITH CARON;LATIN CAPITAL LETTER S WITH ACUTE"),
   (347, "LATIN SMALL LETTER S WITH ACUTE;LATIN CAPITAL LETTER S WITH CIRCUMFLEX"),
   (349, "LATIN SMALL LETTER S WITH CIRCUMFLEX;LATIN CAPITAL LETTER S WITH CEDILLA"),
   (351, "LATIN SMALL LETTER S WITH CEDILLA;LATIN CAPITAL LETTER S WITH CARON"),
   (353, "LATIN SMALL LETTER S WITH CARON;LATIN CAPITAL LETTER T WITH CEDILLA"),
   (355, "LATIN SMALL LETTER T WITH CEDILLA;LATIN CAPITAL LETTER T WITH CARON"),
   (357, "LATIN SMALL LETTER T WITH CARON;LATIN CAPITAL LETTER T WITH STROKE"),
   (359, "LATIN SMALL LETTER T WITH STROKE;LATIN CAPITAL LETTER U WITH TILDE"),
   (361, "LATIN SMALL LETTER U WITH TILDE;LATIN CAPITAL LETTER U WITH MACRON"),
   (363, "LATIN SMALL LETTER U WITH MACRON;LATIN CAPITAL LETTER U WITH BREVE"),
   (365, "LATIN SMALL LETTER U WITH BREVE;LATIN CAPITAL LETTER U WITH RING ABOVE"),
   (367, "LATIN SMALL LETTER U WITH RING ABOVE;LATIN CAPITAL LETTER U WITH DOUBLE ACUTE"),
   (369, "LATIN SMALL LETTER U WITH DOUBLE ACUTE;LATIN CAPITAL LETTER U WITH OGONEK"),
   (371, "LATIN SMALL LETTER U WITH OGONEK;LATIN CAPITAL LETTER W WITH CIRCUMFLEX"),
   (373, "LATIN SMALL LETTER W WITH CIRCUMFLEX;LATIN CAPITAL LETTER Y WITH CIRCUMFLEX"),
   (375, "LATIN SMALL LETTER Y WITH CIRCUMFLEX;LATIN CAPITAL LETTER Y WITH DIAERESIS"),
   (377, "LATIN CAPITAL LETTER Z WITH ACUTE;LATIN SMALL LETTER Z WITH ACUTE"),
   (379, "LATIN CAPITAL LETTER Z WITH DOT ABOVE;LATIN SMALL LETTER Z WITH DOT ABOVE"),
   (381, "LATIN CAPITAL LETTER Z WITH CARON;LATIN SMALL LETTER Z WITH CARON"),
   (383, "LATIN SMALL LETTER LONG S;LATIN SMALL LETTER B WITH STROKE"),
   (385, "LATIN CAPITAL LETTER B WITH HOOK;LATIN CAPITAL LETTER B WITH TOPBAR"),
   (387, "LATIN SMALL LETTER B WITH TOPBAR;LATIN CAPITAL LETTER TONE SIX"),
   (389, "LATIN SMALL LETTER TONE SIX;LATIN CAPITAL LETTER OPEN O"),
   (391, "LATIN CAPITAL LETTER C WITH HOOK;LATIN SMALL LETTER C WITH HOOK"),
   (393, "LATIN CAPITAL LETTER AFRICAN D;LATIN CAPITAL LETTER D WITH HOOK"),
   (395, "LATIN CAPITAL LETTER D WITH TOPBAR;LATIN SMALL LETTER D WITH TOPBAR"),
   (397, "LATIN SMALL LETTER TURNED DELTA;LATIN CAPITAL LETTER REVERSED E"),
   (399, "LATIN CAPITAL LETTER SCHWA;LATIN CAPITAL LETTER OPEN E"),
   (401, "LATIN CAPITAL LETTER F WITH HOOK;LATIN SMALL LETTER F WITH HOOK"),
   (403, "LATIN CAPITAL LETTER G WITH HOOK;LATIN CAPITAL LETTER GAMMA"),
   (405, "LATIN SMALL LETTER HV;LATIN CAPITAL LETTER IOTA"),
   (407, "LATIN CAPITAL LETTER I WITH STROKE;LATIN CAPITAL LETTER K WITH HOOK"),
   (409, "LATIN SMALL LETTER K WITH HOOK;LATIN SMALL LETTER L WITH BAR"),
   (411, "LATIN SMALL LETTER LAMBDA WITH STROKE;LATIN CAPITAL LETTER TURNED M"),
   (413, "LATIN CAPITAL LETTER N WITH LEFT HOOK;LATIN SMALL LETTER N WITH LONG RIGHT LEG"),
   (415, "LATIN CAPITAL LETTER O WITH MIDDLE TILDE;LATIN CAPITAL LETTER O WITH HORN"),
   (417, "LATIN SMALL LETTER O WITH HORN;LATIN CAPITAL LETTER OI;LATIN SMALL LETTER OI"),
   (420, "LATIN CAPITAL LETTER P WITH HOOK;LATIN SMALL LETTER P WITH HOOK"),
   (422, "LATIN LETTER YR;LATIN CAPITAL LETTER TONE TWO;LATIN SMALL LETTER TONE TWO"),
   (425, "LATIN CAPITAL LETTER ESH;LATIN LETTER REVERSED ESH LOOP"),
   (427, "LATIN SMALL LETTER T WITH PALATAL HOOK;LATIN CAPITAL LETTER T WITH HOOK"),
   (429, "LATIN SMALL LETTER T WITH HOOK;LATIN CAPITAL LETTER T WITH RETROFLEX HOOK"),
   (431, "LATIN CAPITAL LETTER U WITH HORN;LATIN SMALL LETTER U WITH HORN"),
   (433, "LATIN CAPITAL LETTER UPSILON;LATIN CAPITAL LETTER V WITH HOOK"),
   (435, "LATIN CAPITAL LETTER Y WITH HOOK;LATIN SMALL LETTER Y WITH HOOK"),
   (437, "LATIN CAPITAL LETTER Z WITH STROKE;LATIN SMALL LETTER Z WITH STROKE"),
   (439, "LATIN CAPITAL LETTER EZH;LATIN CAPITAL LETTER EZH REVERSED"),
   (441, "LATIN SMALL LETTER EZH REVERSED;LATIN SMALL LETTER EZH WITH TAIL"),
   (443, "LATIN LETTER TWO WITH STROKE;LATIN CAPITAL LETTER TONE FIVE"),
   (445, "LATIN SMALL LETTER TONE FIVE;LATIN LETTER INVERTED GLOTTAL STOP WITH STROKE"),
   (447, "LATIN LETTER WYNN;LATIN LETTER DENTAL CLICK;LATIN LETTER LATERAL CLICK"),
   (450, "LATIN LETTER ALVEOLAR CLICK;LATIN LETTER RETROFLEX CLICK"),
   (452, "LATIN CAPITAL LETTER DZ WITH CARON"),
   (453, "LATIN CAPITAL LETTER D WITH SMALL LETTER Z WITH CARON"),
   (454, "LATIN SMALL LETTER DZ WITH CARON;LATIN CAPITAL LETTER LJ"),
   (456, "LATIN CAPITAL LETTER L WITH SMALL LETTER J;LATIN SMALL LETTER LJ"),
   (458, "LATIN CAPITAL LETTER NJ;LATIN CAPITAL LETTER N WITH SMALL LETTER J"),
   (460, "LATIN SMALL LETTER NJ;LATIN CAPITAL LETTER A WITH CARON"),
   (462, "LATIN SMALL LETTER A WITH CARON;LATIN CAPITAL LETTER I WITH CARON"),
   (464, "LATIN SMALL LETTER I WITH CARON;LATIN CAPITAL LETTER O WITH CARON"),
   (466, "LATIN SMALL LETTER O WITH CARON;LATIN CAPITAL LETTER U WITH CARON"),
   (468, "LATIN SMALL LETTER U WITH CARON"),
   (469, "LATIN CAPITAL LETTER U WITH DIAERESIS AND MACRON"),
   (470, "LATIN SMALL LETTER U WITH DIAERESIS AND MACRON"),
   (471, "LATIN CAPITAL LETTER U WITH DIAERESIS AND ACUTE"),
   (472, "LATIN SMALL LETTER U WITH DIAERESIS AND ACUTE"),
   (473, "LATIN CAPITAL LETTER U WITH DIAERESIS AND CARON"),
   (474, "LATIN SMALL LETTER U WITH DIAERESIS AND CARON"),
   (475, "LATIN CAPITAL LETTER U WITH DIAERESIS AND GRAVE"),
   (476, "LATIN SMALL LETTER U WITH DIAERESIS AND GRAVE;LATIN SMALL LETTER TURNED E"),
   (478, "LATIN CAPITAL LETTER A WITH DIAERESIS AND MACRON"),
   (479, "LATIN SMALL LETTER A WITH DIAERESIS AND MACRON"),
   (480, "LATIN CAPITAL LETTER A WITH DOT ABOVE AND MACRON"),
   (481, "LATIN SMALL LETTER A WITH DOT ABOVE AND MACRON"),
   (482, "LATIN CAPITAL LETTER AE WITH MACRON;LATIN SMALL LETTER AE WITH MACRON"),
   (484, "LATIN CAPITAL LETTER G WITH STROKE;LATIN SMALL LETTER G WITH STROKE"),
   (486, "LATIN CAPITAL LETTER G WITH CARON;LATIN SMALL LETTER G WITH CARON"),
   (488, "LATIN CAPITAL LETTER K WITH CARON;LATIN SMALL LETTER K WITH CARON"),
   (490, "LATIN CAPITAL LETTER O WITH OGONEK;LATIN SMALL LETTER O WITH OGONEK"),
   (492, "LATIN CAPITAL LETTER O WITH OGONEK AND MACRON"),
   (493, "LATIN SMALL LETTER O WITH OGONEK AND MACRON"),
   (494, "LATIN CAPITAL LETTER EZH WITH CARON;LATIN SMALL LETTER EZH WITH CARON"),
   (496, "LATIN SMALL LETTER J WITH CARON;LATIN CAPITAL LETTER DZ"),
   (498, "LATIN CAPITAL LETTER D WITH SMALL LETTER Z;LATIN SMALL LETTER DZ"),
   (500, "LATIN CAPITAL LETTER G WITH ACUTE;LATIN SMALL LETTER G WITH ACUTE"),
   (502, "LATIN CAPITAL LETTER HWAIR;LATIN CAPITAL LETTER WYNN"),
   (504, "LATIN CAPITAL LETTER N WITH GRAVE;LATIN SMALL LETTER N WITH GRAVE"),
   (506, "LATIN CAPITAL LETTER A WITH RING ABOVE AND ACUTE"),
   (507, "LATIN SMALL LETTER A WITH RING ABOVE AND ACUTE"),
   (508, "LATIN CAPITAL LETTER AE WITH ACUTE;LATIN SMALL LETTER AE WITH ACUTE"),
   (510, "LATIN CAPITAL LETTER O WITH STROKE AND ACUTE"),
   (511, "LATIN SMALL LETTER O WITH STROKE AND ACUTE"),
   (512, "LATIN CAPITAL LETTER A WITH DOUBLE GRAVE"),
   (513, "LATIN SMALL LETTER A WITH DOUBLE GRAVE"),
   (514, "LATIN CAPITAL LETTER A WITH INVERTED BREVE"),
   (515, "LATIN SMALL LETTER A WITH INVERTED BREVE"),
   (516, "LATIN CAPITAL LETTER E WITH DOUBLE GRAVE"),
   (517, "LATIN SMALL LETTER E WITH DOUBLE GRAVE"),
   (518, "LATIN CAPITAL LETTER E WITH INVERTED BREVE"),
   (519, "LATIN SMALL LETTER E WITH INVERTED BREVE"),
   (520, "LATIN CAPITAL LETTER I WITH DOUBLE GRAVE"),
   (521, "LATIN SMALL LETTER I WITH DOUBLE GRAVE"),
   (522, "LATIN CAPITAL LETTER I WITH INVERTED BREVE"),
   (523, "LATIN SMALL LETTER I WITH INVERTED BREVE"),
   (524, "LATIN CAPITAL LETTER O WITH DOUBLE GRAVE"),
   (525, "LATIN SMALL LETTER O WITH DOUBLE GRAVE"),
   (526, "LATIN CAPITAL LETTER O WITH INVERTED BREVE"),
   (527, "LATIN SMALL LETTER O WITH INVERTED BREVE"),
   (528, "LATIN CAPITAL LETTER R WITH DOUBLE GRAVE"),
   (529, "LATIN SMALL LETTER R WITH DOUBLE GRAVE"),
   (530, "LATIN CAPITAL LETTER R WITH INVERTED BREVE"),
   (531, "LATIN SMALL LETTER R WITH INVERTED BREVE"),
   (532, "LATIN CAPITAL LETTER U WITH DOUBLE GRAVE"),
   (533, "LATIN SMALL LETTER U WITH DOUBLE GRAVE"),
   (534, "LATIN CAPITAL LETTER U WITH INVERTED BREVE"),
   (535, "LATIN SMALL LETTER U WITH INVERTED BREVE"),
   (536, "LATIN CAPITAL LETTER S WITH COMMA BELOW;LATIN SMALL LETTER S WITH COMMA BELOW"),
   (538, "LATIN CAPITAL LETTER T WITH COMMA BELOW;LATIN SMALL LETTER T WITH COMMA BELOW"),
   (540, "LATIN CAPITAL LETTER YOGH;LATIN SMALL LETTER YOGH"),
   (542, "LATIN CAPITAL LETTER H WITH CARON;LATIN SMALL LETTER H WITH CARON"),
   (544, "LATIN CAPITAL LETTER N WITH LONG RIGHT LEG;LATIN SMALL LETTER D WITH CURL"),
   (546, "LATIN CAPITAL LETTER OU;LATIN SMALL LETTER OU;LATIN CAPITAL LETTER Z WITH HOOK"),
   (549, "LATIN SMALL LETTER Z WITH HOOK;LATIN CAPITAL LETTER A WITH DOT ABOVE"),
   (551, "LATIN SMALL LETTER A WITH DOT ABOVE;LATIN CAPITAL LETTER E WITH CEDILLA"),
   (553, "LATIN SMALL LETTER E WITH CEDILLA"),
   (554, "LATIN CAPITAL LETTER O WITH DIAERESIS AND MACRON"),
   (555, "LATIN SMALL LETTER O WITH DIAERESIS AND MACRON"),
   (556, "LATIN CAPITAL LETTER O WITH TILDE AND MACRON"),
   (557, "LATIN SMALL LETTER O WITH TILDE AND MACRON"),
   (558, "LATIN CAPITAL LETTER O WITH DOT ABOVE;LATIN SMALL LETTER O WITH DOT ABOVE"),
   (560, "LATIN CAPITAL LETTER O WITH DOT ABOVE AND MACRON"),
   (561, "LATIN SMALL LETTER O WITH DOT ABOVE AND MACRON"),
   (562, "LATIN CAPITAL LETTER Y WITH MACRON;LATIN SMALL LETTER Y WITH MACRON"),
   (564, "LATIN SMALL LETTER L WITH CURL;LATIN SMALL LETTER N WITH CURL"),
   (566, "LATIN SMALL LETTER T WITH CURL;LATIN SMALL LETTER DOTLESS J"),
   (568, "LATIN SMALL LETTER DB DIGRAPH;LATIN SMALL LETTER QP DIGRAPH"),
   (570, "LATIN CAPITAL LETTER A WITH STROKE;LATIN CAPITAL LETTER C WITH STROKE"),
   (572, "LATIN SMALL LETTER C WITH STROKE;LATIN CAPITAL LETTER L WITH BAR"),
   (574, "LATIN CAPITAL LETTER T WITH DIAGONAL STROKE"),
   (575, "LATIN SMALL LETTER S WITH SWASH TAIL;LATIN SMALL LETTER Z WITH SWASH TAIL"),
   (577, "LATIN CAPITAL LETTER GLOTTAL STOP;LATIN SMALL LETTER GLOTTAL STOP"),
   (579, "LATIN CAPITAL LETTER B WITH STROKE;LATIN CAPITAL LETTER U BAR"),
   (581, "LATIN CAPITAL LETTER TURNED V;LATIN CAPITAL LETTER E WITH STROKE"),
   (583, "LATIN SMALL LETTER E WITH STROKE;LATIN CAPITAL LETTER J WITH STROKE"),
   (585, "LATIN SMALL LETTER J WITH STROKE;LATIN CAPITAL LETTER SMALL Q WITH HOOK TAIL"),
   (587, "LATIN SMALL LETTER Q WITH HOOK TAIL;LATIN CAPITAL LETTER R WITH STROKE"),
   (589, "LATIN SMALL LETTER R WITH STROKE;LATIN CAPITAL LETTER Y WITH STROKE"),
   (591, "LATIN SMALL LETTER Y WITH STROKE"),
   (880, "GREEK CAPITAL LETTER HETA;GREEK SMALL LETTER HETA"),
   (882, "GREEK CAPITAL LETTER ARCHAIC SAMPI;GREEK SMALL LETTER ARCHAIC SAMPI"),
   (884, "GREEK NUMERAL SIGN;GREEK LOWER NUMERAL SIGN"),
   (886, "GREEK CAPITAL LETTER PAMPHYLIAN DIGAMMA;GREEK SMALL LETTER PAMPHYLIAN DIGAMMA"),
   (888, "-;-;GREEK YPOGEGRAMMENI;GREEK SMALL REVERSED LUNATE SIGMA SYMBOL"),
   (892, "GREEK SMALL DOTTED LUNATE SIGMA SYMBOL"),
   (893, "GREEK SMALL REVERSED DOTTED LUNATE SIGMA SYMBOL;GREEK QUESTION MARK"),
   (895, "GREEK CAPITAL LETTER YOT;-;-;-;-;GREEK TONOS;GREEK DIALYTIKA TONOS"),
   (902, "GREEK CAPITAL LETTER ALPHA WITH TONOS;GREEK ANO TELEIA"),
   (904, "GREEK CAPITAL LETTER EPSILON WITH TONOS;GREEK CAPITAL LETTER ETA WITH TONOS"),
   (906, "GREEK CAPITAL LETTER IOTA WITH TONOS;-;GREEK CAPITAL LETTER OMICRON WITH TONOS"),
   (909, "-;GREEK CAPITAL LETTER UPSILON WITH TONOS"),
   (911, "GREEK CAPITAL LETTER OMEGA WITH TONOS"),
   (912, "GREEK SMALL LETTER IOTA WITH DIALYTIKA AND TONOS;GREEK CAPITAL LETTER ALPHA"),
   (914, "GREEK CAPITAL LETTER BETA;GREEK CAPITAL LETTER GAMMA"),
   (916, "GREEK CAPITAL LETTER DELTA;GREEK CAPITAL LETTER EPSILON"),
   (918, "GREEK CAPITAL LETTER ZETA;GREEK CAPITAL LETTER ETA;GREEK CAPITAL LETTER THETA"),
   (921, "GREEK CAPITAL LETTER IOTA;GREEK CAPITAL LETTER KAPPA"),
   (923, "GREEK CAPITAL LETTER LAMDA;GREEK CAPITAL LETTER MU;GREEK CAPITAL LETTER NU"),
   (926, "GREEK CAPITAL LETTER XI;GREEK CAPITAL LETTER OMICRON;GREEK CAPITAL LETTER PI"),
   (929, "GREEK CAPITAL LETTER RHO;-;GREEK CAPITAL LETTER SIGMA;GREEK CAPITAL LETTER TAU"),
   (933, "GREEK CAPITAL LETTER UPSILON;GREEK CAPITAL LETTER PHI;GREEK CAPITAL LETTER CHI"),
   (936, "GREEK CAPITAL LETTER PSI;GREEK CAPITAL LETTER OMEGA"),
   (938, "GREEK CAPITAL LETTER IOTA WITH DIALYTIKA"),
   (939, "GREEK CAPITAL LETTER UPSILON WITH DIALYTIKA"),
   (940, "GREEK SMALL LETTER ALPHA WITH TONOS;GREEK SMALL LETTER EPSILON WITH TONOS"),
   (942, "GREEK SMALL LETTER ETA WITH TONOS;GREEK SMALL LETTER IOTA WITH TONOS"),
   (944, "GREEK SMALL LETTER UPSILON WITH DIALYTIKA AND TONOS;GREEK SMALL LETTER ALPHA"),
   (946, "GREEK SMALL LETTER BETA;GREEK SMALL LETTER GAMMA;GREEK SMALL LETTER DELTA"),
   (949, "GREEK SMALL LETTER EPSILON;GREEK SMALL LETTER ZETA;GREEK SMALL LETTER ETA"),
   (952, "GREEK SMALL LETTER THETA;GREEK SMALL LETTER IOTA;GREEK SMALL LETTER KAPPA"),
   (955, "GREEK SMALL LETTER LAMDA;GREEK SMALL LETTER MU;GREEK SMALL LETTER NU"),
   (958, "GREEK SMALL LETTER XI;GREEK SMALL LETTER OMICRON;GREEK SMALL LETTER PI"),
   (961, "GREEK SMALL LETTER RHO;GREEK SMALL LETTER FINAL SIGMA;GREEK SMALL LETTER SIGMA"),
   (964, "GREEK SMALL LETTER TAU;GREEK SMALL LETTER UPSILON;GREEK SMALL LETTER PHI"),
   (967, "GREEK SMALL LETTER CHI;GREEK SMALL LETTER PSI;GREEK SMALL LETTER OMEGA"),
   (970, "GREEK SMALL LETTER IOTA WITH DIALYTIKA"),
   (971, "GREEK SMALL LETTER UPSILON WITH DIALYTIKA"),
   (972, "GREEK SMALL LETTER OMICRON WITH TONOS;GREEK SMALL LETTER UPSILON WITH TONOS"),
   (974, "GREEK SMALL LETTER OMEGA WITH TONOS;GREEK CAPITAL KAI SYMBOL;GREEK BETA SYMBOL"),
   (977, "GREEK THETA SYMBOL;GREEK UPSILON WITH HOOK SYMBOL"),
   (979, "GREEK UPSILON WITH ACUTE AND HOOK SYMBOL"),
   (980, "GREEK UPSILON WITH DIAERESIS AND HOOK SYMBOL;GREEK PHI SYMBOL;GREEK PI SYMBOL"),
   (983, "GREEK KAI SYMBOL;GREEK LETTER ARCHAIC KOPPA;GREEK SMALL LETTER ARCHAIC KOPPA"),
   (986, "GREEK LETTER STIGMA;GREEK SMALL LETTER STIGMA;GREEK LETTER DIGAMMA"),
   (989, "GREEK SMALL LETTER DIGAMMA;GREEK LETTER KOPPA;GREEK SMALL LETTER KOPPA"),
   (992, "GREEK LETTER SAMPI;GREEK SMALL LETTER SAMPI;COPTIC CAPITAL LETTER SHEI"),
   (995, "COPTIC SMALL LETTER SHEI;COPTIC CAPITAL LETTER FEI;COPTIC SMALL LETTER FEI"),
   (998, "COPTIC CAPITAL LETTER KHEI;COPTIC SMALL LETTER KHEI;COPTIC CAPITAL LETTER HORI"),
   (1001, "COPTIC SMALL LETTER HORI;COPTIC CAPITAL LETTER GANGIA"),
   (1003, "COPTIC SMALL LETTER GANGIA;COPTIC CAPITAL LETTER SHIMA"),
   (1005, "COPTIC SMALL LETTER SHIMA;COPTIC CAPITAL LETTER DEI;COPTIC SMALL LETTER DEI"),
   (1008, "GREEK KAPPA SYMBOL;GREEK RHO SYMBOL;GREEK LUNATE SIGMA SYMBOL;GREEK LETTER YOT"),
   (1012, "GREEK CAPITAL THETA SYMBOL;GREEK LUNATE EPSILON SYMBOL"),
   (1014, "GREEK REVERSED LUNATE EPSILON SYMBOL;GREEK CAPITAL LETTER SHO"),
   (1016, "GREEK SMALL LETTER SHO;GREEK CAPITAL LUNATE SIGMA SYMBOL"),
   (1018, "GREEK CAPITAL LETTER SAN;GREEK SMALL LETTER SAN;GREEK RHO WITH STROKE SYMBOL"),
   (1021, "GREEK CAPITAL REVERSED LUNATE SIGMA SYMBOL"),
   (1022, "GREEK CAPITAL DOTTED LUNATE SIGMA SYMBOL"),
   (1023, "GREEK CAPITAL REVERSED DOTTED LUNATE SIGMA SYMBOL"),
   (1024, "CYRILLIC CAPITAL LETTER IE WITH GRAVE;CYRILLIC CAPITAL LETTER IO"),
   (1026, "CYRILLIC CAPITAL LETTER DJE;CYRILLIC CAPITAL LETTER GJE"),
   (1028, "CYRILLIC CAPITAL LETTER UKRAINIAN IE;CYRILLIC CAPITAL LETTER DZE"),
   (1030, "CYRILLIC CAPITAL LETTER BYELORUSSIAN-UKRAINIAN I;CYRILLIC CAPITAL LETTER YI"),
   (1032, "CYRILLIC CAPITAL LETTER JE;CYRILLIC CAPITAL LETTER LJE"),
   (1034, "CYRILLIC CAPITAL LETTER NJE;CYRILLIC CAPITAL LETTER TSHE"),
   (1036, "CYRILLIC CAPITAL LETTER KJE;CYRILLIC CAPITAL LETTER I WITH GRAVE"),
   (1038, "CYRILLIC CAPITAL LETTER SHORT U;CYRILLIC CAPITAL LETTER DZHE"),
   (1040, "CYRILLIC CAPITAL LETTER A;CYRILLIC CAPITAL LETTER BE"),
   (1042, "CYRILLIC CAPITAL LETTER VE;CYRILLIC CAPITAL LETTER GHE"),
   (1044, "CYRILLIC CAPITAL LETTER DE;CYRILLIC CAPITAL LETTER IE"),
   (1046, "CYRILLIC CAPITAL LETTER ZHE;CYRILLIC CAPITAL LETTER ZE"),
   (1048, "CYRILLIC CAPITAL LETTER I;CYRILLIC CAPITAL LETTER SHORT I"),
   (1050, "CYRILLIC CAPITAL LETTER KA;CYRILLIC CAPITAL LETTER EL"),
   (1052, "CYRILLIC CAPITAL LETTER EM;CYRILLIC CAPITAL LETTER EN"),
   (1054, "CYRILLIC CAPITAL LETTER O;CYRILLIC CAPITAL LETTER PE"),
   (1056, "CYRILLIC CAPITAL LETTER ER;CYRILLIC CAPITAL LETTER ES"),
   (1058, "CYRILLIC CAPITAL LETTER TE;CYRILLIC CAPITAL LETTER U"),
   (1060, "CYRILLIC CAPITAL LETTER EF;CYRILLIC CAPITAL LETTER HA"),
   (1062, "CYRILLIC CAPITAL LETTER TSE;CYRILLIC CAPITAL LETTER CHE"),
   (1064, "CYRILLIC CAPITAL LETTER SHA;CYRILLIC CAPITAL LETTER SHCHA"),
   (1066, "CYRILLIC CAPITAL LETTER HARD SIGN;CYRILLIC CAPITAL LETTER YERU"),
   (1068, "CYRILLIC CAPITAL LETTER SOFT SIGN;CYRILLIC CAPITAL LETTER E"),
   (1070, "CYRILLIC CAPITAL LETTER YU;CYRILLIC CAPITAL LETTER YA;CYRILLIC SMALL LETTER A"),
   (1073, "CYRILLIC SMALL LETTER BE;CYRILLIC SMALL LETTER VE;CYRILLIC SMALL LETTER GHE"),
   (1076, "CYRILLIC SMALL LETTER DE;CYRILLIC SMALL LETTER IE;CYRILLIC SMALL LETTER ZHE"),
   (1079, "CYRILLIC SMALL LETTER ZE;CYRILLIC SMALL LETTER I;CYRILLIC SMALL LETTER SHORT I"),
   (1082, "CYRILLIC SMALL LETTER KA;CYRILLIC SMALL LETTER EL;CYRILLIC SMALL LETTER EM"),
   (1085, "CYRILLIC SMALL LETTER EN;CYRILLIC SMALL LETTER O;CYRILLIC SMALL LETTER PE"),
   (1088, "CYRILLIC SMALL LETTER ER;CYRILLIC SMALL LETTER ES;CYRILLIC SMALL LETTER TE"),
   (1091, "CYRILLIC SMALL LETTER U;CYRILLIC SMALL LETTER EF;CYRILLIC SMALL LETTER HA"),
   (1094, "CYRILLIC SMALL LETTER TSE;CYRILLIC SMALL LETTER CHE;CYRILLIC SMALL LETTER SHA"),
   (1097, "CYRILLIC SMALL LETTER SHCHA;CYRILLIC SMALL LETTER HARD SIGN"),
   (1099, "CYRILLIC SMALL LETTER YERU;CYRILLIC SMALL LETTER SOFT SIGN"),
   (1101, "CYRILLIC SMALL LETTER E;CYRILLIC SMALL LETTER YU;CYRILLIC SMALL LETTER YA"),
   (1104, "CYRILLIC SMALL LETTER IE WITH GRAVE;CYRILLIC SMALL LETTER IO"),
   (1106, "CYRILLIC SMALL LETTER DJE;CYRILLIC SMALL LETTER GJE"),
   (1108, "CYRILLIC SMALL LETTER UKRAINIAN IE;CYRILLIC SMALL LETTER DZE"),
   (1110, "CYRILLIC SMALL LETTER BYELORUSSIAN-UKRAINIAN I;CYRILLIC SMALL LETTER YI"),
   (1112, "CYRILLIC SMALL LETTER JE;CYRILLIC SMALL LETTER LJE;CYRILLIC SMALL LETTER NJE"),
   (1115, "CYRILLIC SMALL LETTER TSHE;CYRILLIC SMALL LETTER KJE"),
   (1117, "CYRILLIC SMALL LETTER I WITH GRAVE;CYRILLIC SMALL LETTER SHORT U"),
   (1119, "CYRILLIC SMALL LETTER DZHE;CYRILLIC CAPITAL LETTER OMEGA"),
   (1121, "CYRILLIC SMALL LETTER OMEGA;CYRILLIC CAPITAL LETTER YAT"),
   (1123, "CYRILLIC SMALL LETTER YAT;CYRILLIC CAPITAL LETTER IOTIFIED E"),
   (1125, "CYRILLIC SMALL LETTER IOTIFIED E;CYRILLIC CAPITAL LETTER LITTLE YUS"),
   (1127, "CYRILLIC SMALL LETTER LITTLE YUS;CYRILLIC CAPITAL LETTER IOTIFIED LITTLE YUS"),
   (1129, "CYRILLIC SMALL LETTER IOTIFIED LITTLE YUS;CYRILLIC CAPITAL LETTER BIG YUS"),
   (1131, "CYRILLIC SMALL LETTER BIG YUS;CYRILLIC CAPITAL LETTER IOTIFIED BIG YUS"),
   (1133, "CYRILLIC SMALL LETTER IOTIFIED BIG YUS;CYRILLIC CAPITAL LETTER KSI"),
   (1135, "CYRILLIC SMALL LETTER KSI;CYRILLIC CAPITAL LETTER PSI"),
   (1137, "CYRILLIC SMALL LETTER PSI;CYRILLIC CAPITAL LETTER FITA"),
   (1139, "CYRILLIC SMALL LETTER FITA;CYRILLIC CAPITAL LETTER IZHITSA"),
   (1141, "CYRILLIC SMALL LETTER IZHITSA"),
   (1142, "CYRILLIC CAPITAL LETTER IZHITSA WITH DOUBLE GRAVE ACCENT"),
   (1143, "CYRILLIC SMALL LETTER IZHITSA WITH DOUBLE GRAVE ACCENT"),
   (1144, "CYRILLIC CAPITAL LETTER UK;CYRILLIC SMALL LETTER UK"),
   (1146, "CYRILLIC CAPITAL LETTER ROUND OMEGA;CYRILLIC SMALL LETTER ROUND OMEGA"),
   (1148, "CYRILLIC CAPITAL LETTER OMEGA WITH TITLO"),
   (1149, "CYRILLIC SMALL LETTER OMEGA WITH TITLO;CYRILLIC CAPITAL LETTER OT"),
   (1151, "CYRILLIC SMALL LETTER OT;CYRILLIC CAPITAL LETTER KOPPA"),
   (1153, "CYRILLIC SMALL LETTER KOPPA;CYRILLIC THOUSANDS SIGN;COMBINING CYRILLIC TITLO"),
   (1156, "COMBINING CYRILLIC PALATALIZATION;COMBINING CYRILLIC DASIA PNEUMATA"),
   (1158, "COMBINING CYRILLIC PSILI PNEUMATA;COMBINING CYRILLIC POKRYTIE"),
   (1160, "COMBINING CYRILLIC HUNDRED THOUSANDS SIGN;COMBINING CYRILLIC MILLIONS SIGN"),
   (1162, "CYRILLIC CAPITAL LETTER SHORT I WITH TAIL"),
   (1163, "CYRILLIC SMALL LETTER SHORT I WITH TAIL;CYRILLIC CAPITAL LETTER SEMISOFT SIGN"),
   (1165, "CYRILLIC SMALL LETTER SEMISOFT SIGN;CYRILLIC CAPITAL LETTER ER WITH TICK"),
   (1167, "CYRILLIC SMALL LETTER ER WITH TICK;CYRILLIC CAPITAL LETTER GHE WITH UPTURN"),
   (1169, "CYRILLIC SMALL LETTER GHE WITH UPTURN;CYRILLIC CAPITAL LETTER GHE WITH STROKE"),
   (1171, "CYRILLIC SMALL LETTER GHE WITH STROKE"),
   (1172, "CYRILLIC CAPITAL LETTER GHE WITH MIDDLE HOOK"),
   (1173, "CYRILLIC SMALL LETTER GHE WITH MIDDLE HOOK"),
   (1174, "CYRILLIC CAPITAL LETTER ZHE WITH DESCENDER"),
   (1175, "CYRILLIC SMALL LETTER ZHE WITH DESCENDER"),
   (1176, "CYRILLIC CAPITAL LETTER ZE WITH DESCENDER"),
   (1177, "CYRILLIC SMALL LETTER ZE WITH DESCENDER"),
   (1178, "CYRILLIC CAPITAL LETTER KA WITH DESCENDER"),
   (1179, "CYRILLIC SMALL LETTER KA WITH DESCENDER"),
   (1180, "CYRILLIC CAPITAL LETTER KA WITH VERTICAL STROKE"),
   (1181, "CYRILLIC SMALL LETTER KA WITH VERTICAL STROKE"),
   (1182, "CYRILLIC CAPITAL LETTER KA WITH STROKE;CYRILLIC SMALL LETTER KA WITH STROKE"),
   (1184, "CYRILLIC CAPITAL LETTER BASHKIR KA;CYRILLIC SMALL LETTER BASHKIR KA"),
   (1186, "CYRILLIC CAPITAL LETTER EN WITH DESCENDER"),
   (1187, "CYRILLIC SMALL LETTER EN WITH DESCENDER;CYRILLIC CAPITAL LIGATURE EN GHE"),
   (1189, "CYRILLIC SMALL LIGATURE EN GHE;CYRILLIC CAPITAL LETTER PE WITH MIDDLE HOOK"),
   (1191, "CYRILLIC SMALL LETTER PE WITH MIDDLE HOOK;CYRILLIC CAPITAL LETTER ABKHASIAN HA"),
   (1193, "CYRILLIC SMALL LETTER ABKHASIAN HA;CYRILLIC CAPITAL LETTER ES WITH DESCENDER"),
   (1195, "CYRILLIC SMALL LETTER ES WITH DESCENDER"),
   (1196, "CYRILLIC CAPITAL LETTER TE WITH DESCENDER"),
   (1197, "CYRILLIC SMALL LETTER TE WITH DESCENDER;CYRILLIC CAPITAL LETTER STRAIGHT U"),
   (1199, "CYRILLIC SMALL LETTER STRAIGHT U"),
   (1200, "CYRILLIC CAPITAL LETTER STRAIGHT U WITH STROKE"),
   (1201, "CYRILLIC SMALL LETTER STRAIGHT U WITH STROKE"),
   (1202, "CYRILLIC CAPITAL LETTER HA WITH DESCENDER"),
   (1203, "CYRILLIC SMALL LETTER HA WITH DESCENDER;CYRILLIC CAPITAL LIGATURE TE TSE"),
   (1205, "CYRILLIC SMALL LIGATURE TE TSE;CYRILLIC CAPITAL LETTER CHE WITH DESCENDER"),
   (1207, "CYRILLIC SMALL LETTER CHE WITH DESCENDER"),
   (1208, "CYRILLIC CAPITAL LETTER CHE WITH VERTICAL STROKE"),
   (1209, "CYRILLIC SMALL LETTER CHE WITH VERTICAL STROKE;CYRILLIC CAPITAL LETTER SHHA"),
   (1211, "CYRILLIC SMALL LETTER SHHA;CYRILLIC CAPITAL LETTER ABKHASIAN CHE"),
   (1213, "CYRILLIC SMALL LETTER ABKHASIAN CHE"),
   (1214, "CYRILLIC CAPITAL LETTER ABKHASIAN CHE WITH DESCENDER"),
   (1215, "CYRILLIC SMALL LETTER ABKHASIAN CHE WITH DESCENDER;CYRILLIC LETTER PALOCHKA"),
   (1217, "CYRILLIC CAPITAL LETTER ZHE WITH BREVE;CYRILLIC SMALL LETTER ZHE WITH BREVE"),
   (1219, "CYRILLIC CAPITAL LETTER KA WITH HOOK;CYRILLIC SMALL LETTER KA WITH HOOK"),
   (1221, "CYRILLIC CAPITAL LETTER EL WITH TAIL;CYRILLIC SMALL LETTER EL WITH TAIL"),
   (1223, "CYRILLIC CAPITAL LETTER EN WITH HOOK;CYRILLIC SMALL LETTER EN WITH HOOK"),
   (1225, "CYRILLIC CAPITAL LETTER EN WITH TAIL;CYRILLIC SMALL LETTER EN WITH TAIL"),
   (1227, "CYRILLIC CAPITAL LETTER KHAKASSIAN CHE;CYRILLIC SMALL LETTER KHAKASSIAN CHE"),
   (1229, "CYRILLIC CAPITAL LETTER EM WITH TAIL;CYRILLIC SMALL LETTER EM WITH TAIL"),
   (1231, "CYRILLIC SMALL LETTER PALOCHKA;CYRILLIC CAPITAL LETTER A WITH BREVE"),
   (1233, "CYRILLIC SMALL LETTER A WITH BREVE;CYRILLIC CAPITAL LETTER A WITH DIAERESIS"),
   (1235, "CYRILLIC SMALL LETTER A WITH DIAERESIS;CYRILLIC CAPITAL LIGATURE A IE"),
   (1237, "CYRILLIC SMALL LIGATURE A IE;CYRILLIC CAPITAL LETTER IE WITH BREVE"),
   (1239, "CYRILLIC SMALL LETTER IE WITH BREVE;CYRILLIC CAPITAL LETTER SCHWA"),
   (1241, "CYRILLIC SMALL LETTER SCHWA;CYRILLIC CAPITAL LETTER SCHWA WITH DIAERESIS"),
   (1243, "CYRILLIC SMALL LETTER SCHWA WITH DIAERESIS"),
   (1244, "CYRILLIC CAPITAL LETTER ZHE WITH DIAERESIS"),
   (1245, "CYRILLIC SMALL LETTER ZHE WITH DIAERESIS"),
   (1246, "CYRILLIC CAPITAL LETTER ZE WITH DIAERESIS"),
   (1247, "CYRILLIC SMALL LETTER ZE WITH DIAERESIS;CYRILLIC CAPITAL LETTER ABKHASIAN DZE"),
   (1249, "CYRILLIC SMALL LETTER ABKHASIAN DZE;CYRILLIC CAPITAL LETTER I WITH MACRON"),
   (1251, "CYRILLIC SMALL LETTER I WITH MACRON;CYRILLIC CAPITAL LETTER I WITH DIAERESIS"),
   (1253, "CYRILLIC SMALL LETTER I WITH DIAERESIS"),
   (1254, "CYRILLIC CAPITAL LETTER O WITH DIAERESIS"),
   (1255, "CYRILLIC SMALL LETTER O WITH DIAERESIS;CYRILLIC CAPITAL LETTER BARRED O"),
   (1257, "CYRILLIC SMALL LETTER BARRED O;CYRILLIC CAPITAL LETTER BARRED O WITH DIAERESIS"),
   (1259, "CYRILLIC SMALL LETTER BARRED O WITH DIAERESIS"),
   (1260, "CYRILLIC CAPITAL LETTER E WITH DIAERESIS"),
   (1261, "CYRILLIC SMALL LETTER E WITH DIAERESIS;CYRILLIC CAPITAL LETTER U WITH MACRON"),
   (1263, "CYRILLIC SMALL LETTER U WITH MACRON;CYRILLIC CAPITAL LETTER U WITH DIAERESIS"),
   (1265, "CYRILLIC SMALL LETTER U WITH DIAERESIS"),
   (1266, "CYRILLIC CAPITAL LETTER U WITH DOUBLE ACUTE"),
   (1267, "CYRILLIC SMALL LETTER U WITH DOUBLE ACUTE"),
   (1268, "CYRILLIC CAPITAL LETTER CHE WITH DIAERESIS"),
   (1269, "CYRILLIC SMALL LETTER CHE WITH DIAERESIS"),
   (1270, "CYRILLIC CAPITAL LETTER GHE WITH DESCENDER"),
   (1271, "CYRILLIC SMALL LETTER GHE WITH DESCENDER"),
   (1272, "CYRILLIC CAPITAL LETTER YERU WITH DIAERESIS"),
   (1273, "CYRILLIC SMALL LETTER YERU WITH DIAERESIS"),
   (1274, "CYRILLIC CAPITAL LETTER GHE WITH STROKE AND HOOK"),
   (1275, "CYRILLIC SMALL LETTER GHE WITH STROKE AND HOOK"),
   (1276, "CYRILLIC CAPITAL LETTER HA WITH HOOK;CYRILLIC SMALL LETTER HA WITH HOOK"),
   (1278, "CYRILLIC CAPITAL LETTER HA WITH STROKE;CYRILLIC SMALL LETTER HA WITH STROKE"),
   (8192, "EN QUAD;EM QUAD;EN SPACE;EM SPACE;THREE-PER-EM SPACE;FOUR-PER-EM SPACE"),
   (8198, "SIX-PER-EM SPACE;FIGURE SPACE;PUNCTUATION SPACE;THIN SPACE;HAIR SPACE"),
   (8203, "ZERO WIDTH SPACE;ZERO WIDTH NON-JOINER;ZERO WIDTH JOINER;LEFT-TO-RIGHT MARK"),
   (8207, "RIGHT-TO-LEFT MARK;HYPHEN;NON-BREAKING HYPHEN;FIGURE DASH;EN DASH;EM DASH"),
   (8213, "HORIZONTAL BAR;DOUBLE VERTICAL LINE;DOUBLE LOW LINE;LEFT SINGLE QUOTATION MARK"),
   (8217, "RIGHT SINGLE QUOTATION MARK;SINGLE LOW-9 QUOTATION MARK"),
   (8219, "SINGLE HIGH-REVERSED-9 QUOTATION MARK;LEFT DOUBLE QUOTATION MARK"),
   (8221, "RIGHT DOUBLE QUOTATION MARK;DOUBLE LOW-9 QUOTATION MARK"),
   (8223, "DOUBLE HIGH-REVERSED-9 QUOTATION MARK;DAGGER;DOUBLE DAGGER;BULLET"),
   (8227, "TRIANGULAR BULLET;ONE DOT LEADER;TWO DOT LEADER;HORIZONTAL ELLIPSIS"),
   (8231, "HYPHENATION POINT;LINE SEPARATOR;PARAGRAPH SEPARATOR;LEFT-TO-RIGHT EMBEDDING"),
   (8235, "RIGHT-TO-LEFT EMBEDDING;POP DIRECTIONAL FORMATTING;LEFT-TO-RIGHT OVERRIDE"),
   (8238, "RIGHT-TO-LEFT OVERRIDE;NARROW NO-BREAK SPACE;PER MILLE SIGN"),
   (8241, "PER TEN THOUSAND SIGN;PRIME;DOUBLE PRIME;TRIPLE PRIME;REVERSED PRIME"),
   (8246, "REVERSED DOUBLE PRIME;REVERSED TRIPLE PRIME;CARET"),
   (8249, "SINGLE LEFT-POINTING ANGLE QUOTATION MARK"),
   (8250, "SINGLE RIGHT-POINTING ANGLE QUOTATION MARK;REFERENCE MARK"),
   (8252, "DOUBLE EXCLAMATION MARK;INTERROBANG;OVERLINE;UNDERTIE;CHARACTER TIE"),
   (8257, "CARET INSERTION POINT;ASTERISM;HYPHEN BULLET;FRACTION SLASH"),
   (8261, "LEFT SQUARE BRACKET WITH QUILL;RIGHT SQUARE BRACKET WITH QUILL"),
   (8263, "DOUBLE QUESTION MARK;QUESTION EXCLAMATION MARK;EXCLAMATION QUESTION MARK"),
   (8266, "TIRONIAN SIGN ET;REVERSED PILCROW SIGN;BLACK LEFTWARDS BULLET"),
   (8269, "BLACK RIGHTWARDS BULLET;LOW ASTERISK;REVERSED SEMICOLON;CLOSE UP"),
   (8273, "TWO ASTERISKS ALIGNED VERTICALLY;COMMERCIAL MINUS SIGN;SWUNG DASH"),
   (8276, "INVERTED UNDERTIE;FLOWER PUNCTUATION MARK;THREE DOT PUNCTUATION"),
   (8279, "QUADRUPLE PRIME;FOUR DOT PUNCTUATION;FIVE DOT PUNCTUATION;TWO DOT PUNCTUATION"),
   (8283, "FOUR DOT MARK;DOTTED CROSS;TRICOLON;VERTICAL FOUR DOTS"),
   (8287, "MEDIUM MATHEMATICAL SPACE;WORD JOINER;FUNCTION APPLICATION;INVISIBLE TIMES"),
   (8291, "INVISIBLE SEPARATOR;INVISIBLE PLUS;-;LEFT-TO-RIGHT ISOLATE"),
   (8295, "RIGHT-TO-LEFT ISOLATE;FIRST STRONG ISOLATE;POP DIRECTIONAL ISOLATE"),
   (8298, "INHIBIT SYMMETRIC SWAPPING;ACTIVATE SYMMETRIC SWAPPING"),
   (8300, "INHIBIT ARABIC FORM SHAPING;ACTIVATE ARABIC FORM SHAPING;NATIONAL DIGIT SHAPES"),
   (8303, "NOMINAL DIGIT SHAPES"),
   (8352, "EURO-CURRENCY SIGN;COLON SIGN;CRUZEIRO SIGN;FRENCH FRANC SIGN;LIRA SIGN"),
   (8357, "MILL SIGN;NAIRA SIGN;PESETA SIGN;RUPEE SIGN;WON SIGN;NEW SHEQEL SIGN;DONG SIGN"),
   (8364, "EURO SIGN;KIP SIGN;TUGRIK SIGN;DRACHMA SIGN;GERMAN PENNY SIGN;PESO SIGN"),
   (8370, "GUARANI SIGN;AUSTRAL SIGN;HRYVNIA SIGN;CEDI SIGN;LIVRE TOURNOIS SIGN"),
   (8375, "SPESMILO SIGN;TENGE SIGN;INDIAN RUPEE SIGN;TURKISH LIRA SIGN;NORDIC MARK SIGN"),
   (8380, "MANAT SIGN;RUBLE SIGN;LARI SIGN;BITCOIN SIGN"),
   (8448, "ACCOUNT OF;ADDRESSED TO THE SUBJECT;DOUBLE-STRUCK CAPITAL C;DEGREE CELSIUS"),
   (8452, "CENTRE LINE SYMBOL;CARE OF;CADA UNA;EULER CONSTANT;SCRUPLE;DEGREE FAHRENHEIT"),
   (8458, "SCRIPT SMALL G;SCRIPT CAPITAL H;BLACK-LETTER CAPITAL H;DOUBLE-STRUCK CAPITAL H"),
   (8462, "PLANCK CONSTANT;PLANCK CONSTANT OVER TWO PI;SCRIPT CAPITAL I"),
   (8465, "BLACK-LETTER CAPITAL I;SCRIPT CAPITAL L;SCRIPT SMALL L;L B BAR SYMBOL"),
   (8469, "DOUBLE-STRUCK CAPITAL N;NUMERO SIGN;SOUND RECORDING COPYRIGHT;SCRIPT CAPITAL P"),
   (8473, "DOUBLE-STRUCK CAPITAL P;DOUBLE-STRUCK CAPITAL Q;SCRIPT CAPITAL R"),
   (8476, "BLACK-LETTER CAPITAL R;DOUBLE-STRUCK CAPITAL R;PRESCRIPTION TAKE;RESPONSE"),
   (8480, "SERVICE MARK;TELEPHONE SIGN;TRADE MARK SIGN;VERSICLE;DOUBLE-STRUCK CAPITAL Z"),
   (8485, "OUNCE SIGN;OHM SIGN;INVERTED OHM SIGN;BLACK-LETTER CAPITAL Z"),
   (8489, "TURNED GREEK SMALL LETTER IOTA;KELVIN SIGN;ANGSTROM SIGN;SCRIPT CAPITAL B"),
   (8493, "BLACK-LETTER CAPITAL C;ESTIMATED SYMBOL;SCRIPT SMALL E;SCRIPT CAPITAL E"),
   (8497, "SCRIPT CAPITAL F;TURNED CAPITAL F;SCRIPT CAPITAL M;SCRIPT SMALL O;ALEF SYMBOL"),
   (8502, "BET SYMBOL;GIMEL SYMBOL;DALET SYMBOL;INFORMATION SOURCE;ROTATED CAPITAL Q"),
   (8507, "FACSIMILE SIGN;DOUBLE-STRUCK SMALL PI;DOUBLE-STRUCK SMALL GAMMA"),
   (8510, "DOUBLE-STRUCK CAPITAL GAMMA;DOUBLE-STRUCK CAPITAL PI"),
   (8512, "DOUBLE-STRUCK N-ARY SUMMATION;TURNED SANS-SERIF CAPITAL G"),
   (8514, "TURNED SANS-SERIF CAPITAL L;REVERSED SANS-SERIF CAPITAL L"),
   (8516, "TURNED SANS-SERIF CAPITAL Y;DOUBLE-STRUCK ITALIC CAPITAL D"),
   (8518, "DOUBLE-STRUCK ITALIC SMALL D;DOUBLE-STRUCK ITALIC SMALL E"),
   (8520, "DOUBLE-STRUCK ITALIC SMALL I;DOUBLE-STRUCK ITALIC SMALL J;PROPERTY LINE"),
   (8523, "TURNED AMPERSAND;PER SIGN;AKTIESELSKAB;TURNED SMALL F"),
   (8527, "SYMBOL FOR SAMARITAN SOURCE"),
   (8592, "LEFTWARDS ARROW;UPWARDS ARROW;RIGHTWARDS ARROW;DOWNWARDS ARROW"),
   (8596, "LEFT RIGHT ARROW;UP DOWN ARROW;NORTH WEST ARROW;NORTH EAST ARROW"),
   (8600, "SOUTH EAST ARROW;SOUTH WEST ARROW;LEFTWARDS ARROW WITH STROKE"),
   (8603, "RIGHTWARDS ARROW WITH STROKE;LEFTWARDS WAVE ARROW;RIGHTWARDS WAVE ARROW"),
   (8606, "LEFTWARDS TWO HEADED ARROW;UPWARDS TWO HEADED ARROW"),
   (8608, "RIGHTWARDS TWO HEADED ARROW;DOWNWARDS TWO HEADED ARROW"),
   (8610, "LEFTWARDS ARROW WITH TAIL;RIGHTWARDS ARROW WITH TAIL;LEFTWARDS ARROW FROM BAR"),
   (8613, "UPWARDS ARROW FROM BAR;RIGHTWARDS ARROW FROM BAR;DOWNWARDS ARROW FROM BAR"),
   (8616, "UP DOWN ARROW WITH BASE;LEFTWARDS ARROW WITH HOOK;RIGHTWARDS ARROW WITH HOOK"),
   (8619, "LEFTWARDS ARROW WITH LOOP;RIGHTWARDS ARROW WITH LOOP;LEFT RIGHT WAVE ARROW"),
   (8622, "LEFT RIGHT ARROW WITH STROKE;DOWNWARDS ZIGZAG ARROW"),
   (8624, "UPWARDS ARROW WITH TIP LEFTWARDS;UPWARDS ARROW WITH TIP RIGHTWARDS"),
   (8626, "DOWNWARDS ARROW WITH TIP LEFTWARDS;DOWNWARDS ARROW WITH TIP RIGHTWARDS"),
   (8628, "RIGHTWARDS ARROW WITH CORNER DOWNWARDS;DOWNWARDS ARROW WITH CORNER LEFTWARDS"),
   (8630, "ANTICLOCKWISE TOP SEMICIRCLE ARROW;CLOCKWISE TOP SEMICIRCLE ARROW"),
   (8632, "NORTH WEST ARROW TO LONG BAR"),
   (8633, "LEFTWARDS ARROW TO BAR OVER RIGHTWARDS ARROW TO BAR"),
   (8634, "ANTICLOCKWISE OPEN CIRCLE ARROW;CLOCKWISE OPEN CIRCLE ARROW"),
   (8636, "LEFTWARDS HARPOON WITH BARB UPWARDS;LEFTWARDS HARPOON WITH BARB DOWNWARDS"),
   (8638, "UPWARDS HARPOON WITH BARB RIGHTWARDS;UPWARDS HARPOON WITH BARB LEFTWARDS"),
   (8640, "RIGHTWARDS HARPOON WITH BARB UPWARDS;RIGHTWARDS HARPOON WITH BARB DOWNWARDS"),
   (8642, "DOWNWARDS HARPOON WITH BARB RIGHTWARDS;DOWNWARDS HARPOON WITH BARB LEFTWARDS"),
   (8644, "RIGHTWARDS ARROW OVER LEFTWARDS ARROW"),
   (8645, "UPWARDS ARROW LEFTWARDS OF DOWNWARDS ARROW"),
   (8646, "LEFTWARDS ARROW OVER RIGHTWARDS ARROW;LEFTWARDS PAIRED ARROWS"),
   (8648, "UPWARDS PAIRED ARROWS;RIGHTWARDS PAIRED ARROWS;DOWNWARDS PAIRED ARROWS"),
   (8651, "LEFTWARDS HARPOON OVER RIGHTWARDS HARPOON"),
   (8652, "RIGHTWARDS HARPOON OVER LEFTWARDS HARPOON;LEFTWARDS DOUBLE ARROW WITH STROKE"),
   (8654, "LEFT RIGHT DOUBLE ARROW WITH STROKE;RIGHTWARDS DOUBLE ARROW WITH STROKE"),
   (8656, "LEFTWARDS DOUBLE ARROW;UPWARDS DOUBLE ARROW;RIGHTWARDS DOUBLE ARROW"),
   (8659, "DOWNWARDS DOUBLE ARROW;LEFT RIGHT DOUBLE ARROW;UP DOWN DOUBLE ARROW"),
   (8662, "NORTH WEST DOUBLE ARROW;NORTH EAST DOUBLE ARROW;SOUTH EAST DOUBLE ARROW"),
   (8665, "SOUTH WEST DOUBLE ARROW;LEFTWARDS TRIPLE ARROW;RIGHTWARDS TRIPLE ARROW"),
   (8668, "LEFTWARDS SQUIGGLE ARROW;RIGHTWARDS SQUIGGLE ARROW"),
   (8670, "UPWARDS ARROW WITH DOUBLE STROKE;DOWNWARDS ARROW WITH DOUBLE STROKE"),
   (8672, "LEFTWARDS DASHED ARROW;UPWARDS DASHED ARROW;RIGHTWARDS DASHED ARROW"),
   (8675, "DOWNWARDS DASHED ARROW;LEFTWARDS ARROW TO BAR;RIGHTWARDS ARROW TO BAR"),
   (8678, "LEFTWARDS WHITE ARROW;UPWARDS WHITE ARROW;RIGHTWARDS WHITE ARROW"),
   (8681, "DOWNWARDS WHITE ARROW;UPWARDS WHITE ARROW FROM BAR"),
   (8683, "UPWARDS WHITE ARROW ON PEDESTAL"),
   (8684, "UPWARDS WHITE ARROW ON PEDESTAL WITH HORIZONTAL BAR"),
   (8685, "UPWARDS WHITE ARROW ON PEDESTAL WITH VERTICAL BAR;UPWARDS WHITE DOUBLE ARROW"),
   (8687, "UPWARDS WHITE DOUBLE ARROW ON PEDESTAL;RIGHTWARDS WHITE ARROW FROM WALL"),
   (8689, "NORTH WEST ARROW TO CORNER;SOUTH EAST ARROW TO CORNER;UP DOWN WHITE ARROW"),
   (8692, "RIGHT ARROW WITH SMALL CIRCLE;DOWNWARDS ARROW LEFTWARDS OF UPWARDS ARROW"),
   (8694, "THREE RIGHTWARDS ARROWS;LEFTWARDS ARROW WITH VERTICAL STROKE"),
   (8696, "RIGHTWARDS ARROW WITH VERTICAL STROKE;LEFT RIGHT ARROW WITH VERTICAL STROKE"),
   (8698, "LEFTWARDS ARROW WITH DOUBLE VERTICAL STROKE"),
   (8699, "RIGHTWARDS ARROW WITH DOUBLE VERTICAL STROKE"),
   (8700, "LEFT RIGHT ARROW WITH DOUBLE VERTICAL STROKE;LEFTWARDS OPEN-HEADED ARROW"),
   (8702, "RIGHTWARDS OPEN-HEADED ARROW;LEFT RIGHT OPEN-HEADED ARROW;FOR ALL;COMPLEMENT"),
   (8706, "PARTIAL DIFFERENTIAL;THERE EXISTS;THERE DOES NOT EXIST;EMPTY SET;INCREMENT"),
   (8711, "NABLA;ELEMENT OF;NOT AN ELEMENT OF;SMALL ELEMENT OF;CONTAINS AS MEMBER"),
   (8716, "DOES NOT CONTAIN AS MEMBER;SMALL CONTAINS AS MEMBER;END OF PROOF;N-ARY PRODUCT"),
   (8720, "N-ARY COPRODUCT;N-ARY SUMMATION;MINUS SIGN;MINUS-OR-PLUS SIGN;DOT PLUS"),
   (8725, "DIVISION SLASH;SET MINUS;ASTERISK OPERATOR;RING OPERATOR;BULLET OPERATOR"),
   (8730, "SQUARE ROOT;CUBE ROOT;FOURTH ROOT;PROPORTIONAL TO;INFINITY;RIGHT ANGLE;ANGLE"),
   (8737, "MEASURED ANGLE;SPHERICAL ANGLE;DIVIDES;DOES NOT DIVIDE;PARALLEL TO"),
   (8742, "NOT PARALLEL TO;LOGICAL AND;LOGICAL OR;INTERSECTION;UNION;INTEGRAL"),
   (8748, "DOUBLE INTEGRAL;TRIPLE INTEGRAL;CONTOUR INTEGRAL;SURFACE INTEGRAL"),
   (8752, "VOLUME INTEGRAL;CLOCKWISE INTEGRAL;CLOCKWISE CONTOUR INTEGRAL"),
   (8755, "ANTICLOCKWISE CONTOUR INTEGRAL;THEREFORE;BECAUSE;RATIO;PROPORTION;DOT MINUS"),
   (8761, "EXCESS;GEOMETRIC PROPORTION;HOMOTHETIC;TILDE OPERATOR;REVERSED TILDE"),
   (8766, "INVERTED LAZY S;SINE WAVE;WREATH PRODUCT;NOT TILDE;MINUS TILDE"),
   (8771, "ASYMPTOTICALLY EQUAL TO;NOT ASYMPTOTICALLY EQUAL TO;APPROXIMATELY EQUAL TO"),
   (8774, "APPROXIMATELY BUT NOT ACTUALLY EQUAL TO"),
   (8775, "NEITHER APPROXIMATELY NOR ACTUALLY EQUAL TO;ALMOST EQUAL TO"),
   (8777, "NOT ALMOST EQUAL TO;ALMOST EQUAL OR EQUAL TO;TRIPLE TILDE;ALL EQUAL TO"),
   (8781, "EQUIVALENT TO;GEOMETRICALLY EQUIVALENT TO;DIFFERENCE BETWEEN"),
   (8784, "APPROACHES THE LIMIT;GEOMETRICALLY EQUAL TO"),
   (8786, "APPROXIMATELY EQUAL TO OR THE IMAGE OF;IMAGE OF OR APPROXIMATELY EQUAL TO"),
   (8788, "COLON EQUALS;EQUALS COLON;RING IN EQUAL TO;RING EQUAL TO;CORRESPONDS TO"),
   (8793, "ESTIMATES;EQUIANGULAR TO;STAR EQUALS;DELTA EQUAL TO;EQUAL TO BY DEFINITION"),
   (8798, "MEASURED BY;QUESTIONED EQUAL TO;NOT EQUAL TO;IDENTICAL TO;NOT IDENTICAL TO"),
   (8803, "STRICTLY EQUIVALENT TO;LESS-THAN OR EQUAL TO;GREATER-THAN OR EQUAL TO"),
   (8806, "LESS-THAN OVER EQUAL TO;GREATER-THAN OVER EQUAL TO;LESS-THAN BUT NOT EQUAL TO"),
   (8809, "GREATER-THAN BUT NOT EQUAL TO;MUCH LESS-THAN;MUCH GREATER-THAN;BETWEEN"),
   (8813, "NOT EQUIVALENT TO;NOT LESS-THAN;NOT GREATER-THAN"),
   (8816, "NEITHER LESS-THAN NOR EQUAL TO;NEITHER GREATER-THAN NOR EQUAL TO"),
   (8818, "LESS-THAN OR EQUIVALENT TO;GREATER-THAN OR EQUIVALENT TO"),
   (8820, "NEITHER LESS-THAN NOR EQUIVALENT TO;NEITHER GREATER-THAN NOR EQUIVALENT TO"),
   (8822, "LESS-THAN OR GREATER-THAN;GREATER-THAN OR LESS-THAN"),
   (8824, "NEITHER LESS-THAN NOR GREATER-THAN;NEITHER GREATER-THAN NOR LESS-THAN;PRECEDES"),
   (8827, "SUCCEEDS;PRECEDES OR EQUAL TO;SUCCEEDS OR EQUAL TO;PRECEDES OR EQUIVALENT TO"),
   (8831, "SUCCEEDS OR EQUIVALENT TO;DOES NOT PRECEDE;DOES NOT SUCCEED;SUBSET OF"),
   (8835, "SUPERSET OF;NOT A SUBSET OF;NOT A SUPERSET OF;SUBSET OF OR EQUAL TO"),
   (8839, "SUPERSET OF OR EQUAL TO;NEITHER A SUBSET OF NOR EQUAL TO"),
   (8841, "NEITHER A SUPERSET OF NOR EQUAL TO;SUBSET OF WITH NOT EQUAL TO"),
   (8843, "SUPERSET OF WITH NOT EQUAL TO;MULTISET;MULTISET MULTIPLICATION;MULTISET UNION"),
   (8847, "SQUARE IMAGE OF;SQUARE ORIGINAL OF;SQUARE IMAGE OF OR EQUAL TO"),
   (8850, "SQUARE ORIGINAL OF OR EQUAL TO;SQUARE CAP;SQUARE CUP;CIRCLED PLUS"),
   (8854, "CIRCLED MINUS;CIRCLED TIMES;CIRCLED DIVISION SLASH;CIRCLED DOT OPERATOR"),
   (8858, "CIRCLED RING OPERATOR;CIRCLED ASTERISK OPERATOR;CIRCLED EQUALS;CIRCLED DASH"),
   (8862, "SQUARED PLUS;SQUARED MINUS;SQUARED TIMES;SQUARED DOT OPERATOR;RIGHT TACK"),
   (8867, "LEFT TACK;DOWN TACK;UP TACK;ASSERTION;MODELS;TRUE;FORCES"),
   (8874, "TRIPLE VERTICAL BAR RIGHT TURNSTILE;DOUBLE VERTICAL BAR DOUBLE RIGHT TURNSTILE"),
   (8876, "DOES NOT PROVE;NOT TRUE;DOES NOT FORCE"),
   (8879, "NEGATED DOUBLE VERTICAL BAR DOUBLE RIGHT TURNSTILE;PRECEDES UNDER RELATION"),
   (8881, "SUCCEEDS UNDER RELATION;NORMAL SUBGROUP OF;CONTAINS AS NORMAL SUBGROUP"),
   (8884, "NORMAL SUBGROUP OF OR EQUAL TO;CONTAINS AS NORMAL SUBGROUP OR EQUAL TO"),
   (8886, "ORIGINAL OF;IMAGE OF;MULTIMAP;HERMITIAN CONJUGATE MATRIX;INTERCALATE;XOR;NAND"),
   (8893, "NOR;RIGHT ANGLE WITH ARC;RIGHT TRIANGLE;N-ARY LOGICAL AND;N-ARY LOGICAL OR"),
   (8898, "N-ARY INTERSECTION;N-ARY UNION;DIAMOND OPERATOR;DOT OPERATOR;STAR OPERATOR"),
   (8903, "DIVISION TIMES;BOWTIE;LEFT NORMAL FACTOR SEMIDIRECT PRODUCT"),
   (8906, "RIGHT NORMAL FACTOR SEMIDIRECT PRODUCT;LEFT SEMIDIRECT PRODUCT"),
   (8908, "RIGHT SEMIDIRECT PRODUCT;REVERSED TILDE EQUALS;CURLY LOGICAL OR"),
   (8911, "CURLY LOGICAL AND;DOUBLE SUBSET;DOUBLE SUPERSET;DOUBLE INTERSECTION"),
   (8915, "DOUBLE UNION;PITCHFORK;EQUAL AND PARALLEL TO;LESS-THAN WITH DOT"),
   (8919, "GREATER-THAN WITH DOT;VERY MUCH LESS-THAN;VERY MUCH GREATER-THAN"),
   (8922, "LESS-THAN EQUAL TO OR GREATER-THAN;GREATER-THAN EQUAL TO OR LESS-THAN"),
   (8924, "EQUAL TO OR LESS-THAN;EQUAL TO OR GREATER-THAN;EQUAL TO OR PRECEDES"),
   (8927, "EQUAL TO OR SUCCEEDS;DOES NOT PRECEDE OR EQUAL;DOES NOT SUCCEED OR EQUAL"),
   (8930, "NOT SQUARE IMAGE OF OR EQUAL TO;NOT SQUARE ORIGINAL OF OR EQUAL TO"),
   (8932, "SQUARE IMAGE OF OR NOT EQUAL TO;SQUARE ORIGINAL OF OR NOT EQUAL TO"),
   (8934, "LESS-THAN BUT NOT EQUIVALENT TO;GREATER-THAN BUT NOT EQUIVALENT TO"),
   (8936, "PRECEDES BUT NOT EQUIVALENT TO;SUCCEEDS BUT NOT EQUIVALENT TO"),
   (8938, "NOT NORMAL SUBGROUP OF;DOES NOT CONTAIN AS NORMAL SUBGROUP"),
   (8940, "NOT NORMAL SUBGROUP OF OR EQUAL TO"),
   (8941, "DOES NOT CONTAIN AS NORMAL SUBGROUP OR EQUAL;VERTICAL ELLIPSIS"),
   (8943, "MIDLINE HORIZONTAL ELLIPSIS;UP RIGHT DIAGONAL ELLIPSIS"),
   (8945, "DOWN RIGHT DIAGONAL ELLIPSIS;ELEMENT OF WITH LONG HORIZONTAL STROKE"),
   (8947, "ELEMENT OF WITH VERTICAL BAR AT END OF HORIZONTAL STROKE"),
   (8948, "SMALL ELEMENT OF WITH VERTICAL BAR AT END OF HORIZONTAL STROKE"),
   (8949, "ELEMENT OF WITH DOT ABOVE;ELEMENT OF WITH OVERBAR"),
   (8951, "SMALL ELEMENT OF WITH OVERBAR;ELEMENT OF WITH UNDERBAR"),
   (8953, "ELEMENT OF WITH TWO HORIZONTAL STROKES;CONTAINS WITH LONG HORIZONTAL STROKE"),
   (8955, "CONTAINS WITH VERTICAL BAR AT END OF HORIZONTAL STROKE"),
   (8956, "SMALL CONTAINS WITH VERTICAL BAR AT END OF HORIZONTAL STROKE"),
   (8957, "CONTAINS WITH OVERBAR;SMALL CONTAINS WITH OVERBAR;Z NOTATION BAG MEMBERSHIP"),
   (9472, "BOX DRAWINGS LIGHT HORIZONTAL;BOX DRAWINGS HEAVY HORIZONTAL"),
   (9474, "BOX DRAWINGS LIGHT VERTICAL;BOX DRAWINGS HEAVY VERTICAL"),
   (9476, "BOX DRAWINGS LIGHT TRIPLE DASH HORIZONTAL"),
   (9477, "BOX DRAWINGS HEAVY TRIPLE DASH HORIZONTAL"),
   (9478, "BOX DRAWINGS LIGHT TRIPLE DASH VERTICAL"),
   (9479, "BOX DRAWINGS HEAVY TRIPLE DASH VERTICAL"),
   (9480, "BOX DRAWINGS LIGHT QUADRUPLE DASH HORIZONTAL"),
   (9481, "BOX DRAWINGS HEAVY QUADRUPLE DASH HORIZONTAL"),
   (9482, "BOX DRAWINGS LIGHT QUADRUPLE DASH VERTICAL"),
   (9483, "BOX DRAWINGS HEAVY QUADRUPLE DASH VERTICAL;BOX DRAWINGS LIGHT DOWN AND RIGHT"),
   (9485, "BOX DRAWINGS DOWN LIGHT AND RIGHT HEAVY"),
   (9486, "BOX DRAWINGS DOWN HEAVY AND RIGHT LIGHT;BOX DRAWINGS HEAVY DOWN AND RIGHT"),
   (9488, "BOX DRAWINGS LIGHT DOWN AND LEFT;BOX DRAWINGS DOWN LIGHT AND LEFT HEAVY"),
   (9490, "BOX DRAWINGS DOWN HEAVY AND LEFT LIGHT;BOX DRAWINGS HEAVY DOWN AND LEFT"),
   (9492, "BOX DRAWINGS LIGHT UP AND RIGHT;BOX DRAWINGS UP LIGHT AND RIGHT HEAVY"),
   (9494, "BOX DRAWINGS UP HEAVY AND RIGHT LIGHT;BOX DRAWINGS HEAVY UP AND RIGHT"),
   (9496, "BOX DRAWINGS LIGHT UP AND LEFT;BOX DRAWINGS UP LIGHT AND LEFT HEAVY"),
   (9498, "BOX DRAWINGS UP HEAVY AND LEFT LIGHT;BOX DRAWINGS HEAVY UP AND LEFT"),
   (9500, "BOX DRAWINGS LIGHT VERTICAL AND RIGHT"),
   (9501, "BOX DRAWINGS VERTICAL LIGHT AND RIGHT HEAVY"),
   (9502, "BOX DRAWINGS UP HEAVY AND RIGHT DOWN LIGHT"),
   (9503, "BOX DRAWINGS DOWN HEAVY AND RIGHT UP LIGHT"),
   (9504, "BOX DRAWINGS VERTICAL HEAVY AND RIGHT LIGHT"),
   (9505, "BOX DRAWINGS DOWN LIGHT AND RIGHT UP HEAVY"),
   (9506, "BOX DRAWINGS UP LIGHT AND RIGHT DOWN HEAVY"),
   (9507, "BOX DRAWINGS HEAVY VERTICAL AND RIGHT;BOX DRAWINGS LIGHT VERTICAL AND LEFT"),
   (9509, "BOX DRAWINGS VERTICAL LIGHT AND LEFT HEAVY"),
   (9510, "BOX DRAWINGS UP HEAVY AND LEFT DOWN LIGHT"),
   (9511, "BOX DRAWINGS DOWN HEAVY AND LEFT UP LIGHT"),
   (9512, "BOX DRAWINGS VERTICAL HEAVY AND LEFT LIGHT"),
   (9513, "BOX DRAWINGS DOWN LIGHT AND LEFT UP HEAVY"),
   (9514, "BOX DRAWINGS UP LIGHT AND LEFT DOWN HEAVY;BOX DRAWINGS HEAVY VERTICAL AND LEFT"),
   (9516, "BOX DRAWINGS LIGHT DOWN AND HORIZONTAL"),
   (9517, "BOX DRAWINGS LEFT HEAVY AND RIGHT DOWN LIGHT"),
   (9518, "BOX DRAWINGS RIGHT HEAVY AND LEFT DOWN LIGHT"),
   (9519, "BOX DRAWINGS DOWN LIGHT AND HORIZONTAL HEAVY"),
   (9520, "BOX DRAWINGS DOWN HEAVY AND HORIZONTAL LIGHT"),
   (9521, "BOX DRAWINGS RIGHT LIGHT AND LEFT DOWN HEAVY"),
   (9522, "BOX DRAWINGS LEFT LIGHT AND RIGHT DOWN HEAVY"),
   (9523, "BOX DRAWINGS HEAVY DOWN AND HORIZONTAL;BOX DRAWINGS LIGHT UP AND HORIZONTAL"),
   (9525, "BOX DRAWINGS LEFT HEAVY AND RIGHT UP LIGHT"),
   (9526, "BOX DRAWINGS RIGHT HEAVY AND LEFT UP LIGHT"),
   (9527, "BOX DRAWINGS UP LIGHT AND HORIZONTAL HEAVY"),
   (9528, "BOX DRAWINGS UP HEAVY AND HORIZONTAL LIGHT"),
   (9529, "BOX DRAWINGS RIGHT LIGHT AND LEFT UP HEAVY"),
   (9530, "BOX DRAWINGS LEFT LIGHT AND RIGHT UP HEAVY"),
   (9531, "BOX DRAWINGS HEAVY UP AND HORIZONTAL"),
   (9532, "BOX DRAWINGS LIGHT VERTICAL AND HORIZONTAL"),
   (9533, "BOX DRAWINGS LEFT HEAVY AND RIGHT VERTICAL LIGHT"),
   (9534, "BOX DRAWINGS RIGHT HEAVY AND LEFT VERTICAL LIGHT"),
   (9535, "BOX DRAWINGS VERTICAL LIGHT AND HORIZONTAL HEAVY"),
   (9536, "BOX DRAWINGS UP HEAVY AND DOWN HORIZONTAL LIGHT"),
   (9537, "BOX DRAWINGS DOWN HEAVY AND UP HORIZONTAL LIGHT"),
   (9538, "BOX DRAWINGS VERTICAL HEAVY AND HORIZONTAL LIGHT"),
   (9539, "BOX DRAWINGS LEFT UP HEAVY AND RIGHT DOWN LIGHT"),
   (9540, "BOX DRAWINGS RIGHT UP HEAVY AND LEFT DOWN LIGHT"),
   (9541, "BOX DRAWINGS LEFT DOWN HEAVY AND RIGHT UP LIGHT"),
   (9542, "BOX DRAWINGS RIGHT DOWN HEAVY AND LEFT UP LIGHT"),
   (9543, "BOX DRAWINGS DOWN LIGHT AND UP HORIZONTAL HEAVY"),
   (9544, "BOX DRAWINGS UP LIGHT AND DOWN HORIZONTAL HEAVY"),
   (9545, "BOX DRAWINGS RIGHT LIGHT AND LEFT VERTICAL HEAVY"),
   (9546, "BOX DRAWINGS LEFT LIGHT AND RIGHT VERTICAL HEAVY"),
   (9547, "BOX DRAWINGS HEAVY VERTICAL AND HORIZONTAL"),
   (9548, "BOX DRAWINGS LIGHT DOUBLE DASH HORIZONTAL"),
   (9549, "BOX DRAWINGS HEAVY DOUBLE DASH HORIZONTAL"),
   (9550, "BOX DRAWINGS LIGHT DOUBLE DASH VERTICAL"),
   (9551, "BOX DRAWINGS HEAVY DOUBLE DASH VERTICAL;BOX DRAWINGS DOUBLE HORIZONTAL"),
   (9553, "BOX DRAWINGS DOUBLE VERTICAL;BOX DRAWINGS DOWN SINGLE AND RIGHT DOUBLE"),
   (9555, "BOX DRAWINGS DOWN DOUBLE AND RIGHT SINGLE;BOX DRAWINGS DOUBLE DOWN AND RIGHT"),
   (9557, "BOX DRAWINGS DOWN SINGLE AND LEFT DOUBLE"),
   (9558, "BOX DRAWINGS DOWN DOUBLE AND LEFT SINGLE;BOX DRAWINGS DOUBLE DOWN AND LEFT"),
   (9560, "BOX DRAWINGS UP SINGLE AND RIGHT DOUBLE"),
   (9561, "BOX DRAWINGS UP DOUBLE AND RIGHT SINGLE;BOX DRAWINGS DOUBLE UP AND RIGHT"),
   (9563, "BOX DRAWINGS UP SINGLE AND LEFT DOUBLE;BOX DRAWINGS UP DOUBLE AND LEFT SINGLE"),
   (9565, "BOX DRAWINGS DOUBLE UP AND LEFT;BOX DRAWINGS VERTICAL SINGLE AND RIGHT DOUBLE"),
   (9567, "BOX DRAWINGS VERTICAL DOUBLE AND RIGHT SINGLE"),
   (9568, "BOX DRAWINGS DOUBLE VERTICAL AND RIGHT"),
   (9569, "BOX DRAWINGS VERTICAL SINGLE AND LEFT DOUBLE"),
   (9570, "BOX DRAWINGS VERTICAL DOUBLE AND LEFT SINGLE"),
   (9571, "BOX DRAWINGS DOUBLE VERTICAL AND LEFT"),
   (9572, "BOX DRAWINGS DOWN SINGLE AND HORIZONTAL DOUBLE"),
   (9573, "BOX DRAWINGS DOWN DOUBLE AND HORIZONTAL SINGLE"),
   (9574, "BOX DRAWINGS DOUBLE DOWN AND HORIZONTAL"),
   (9575, "BOX DRAWINGS UP SINGLE AND HORIZONTAL DOUBLE"),
   (9576, "BOX DRAWINGS UP DOUBLE AND HORIZONTAL SINGLE"),
   (9577, "BOX DRAWINGS DOUBLE UP AND HORIZONTAL"),
   (9578, "BOX DRAWINGS VERTICAL SINGLE AND HORIZONTAL DOUBLE"),
   (9579, "BOX DRAWINGS VERTICAL DOUBLE AND HORIZONTAL SINGLE"),
   (9580, "BOX DRAWINGS DOUBLE VERTICAL AND HORIZONTAL"),
   (9581, "BOX DRAWINGS LIGHT ARC DOWN AND RIGHT;BOX DRAWINGS LIGHT ARC DOWN AND LEFT"),
   (9583, "BOX DRAWINGS LIGHT ARC UP AND LEFT;BOX DRAWINGS LIGHT ARC UP AND RIGHT"),
   (9585, "BOX DRAWINGS LIGHT DIAGONAL UPPER RIGHT TO LOWER LEFT"),
   (9586, "BOX DRAWINGS LIGHT DIAGONAL UPPER LEFT TO LOWER RIGHT"),
   (9587, "BOX DRAWINGS LIGHT DIAGONAL CROSS;BOX DRAWINGS LIGHT LEFT"),
   (9589, "BOX DRAWINGS LIGHT UP;BOX DRAWINGS LIGHT RIGHT;BOX DRAWINGS LIGHT DOWN"),
   (9592, "BOX DRAWINGS HEAVY LEFT;BOX DRAWINGS HEAVY UP;BOX DRAWINGS HEAVY RIGHT"),
   (9595, "BOX DRAWINGS HEAVY DOWN;BOX DRAWINGS LIGHT LEFT AND HEAVY RIGHT"),
   (9597, "BOX DRAWINGS LIGHT UP AND HEAVY DOWN;BOX DRAWINGS HEAVY LEFT AND LIGHT RIGHT"),
   (9599, "BOX DRAWINGS HEAVY UP AND LIGHT DOWN;UPPER HALF BLOCK;LOWER ONE EIGHTH BLOCK"),
   (9602, "LOWER ONE QUARTER BLOCK;LOWER THREE EIGHTHS BLOCK;LOWER HALF BLOCK"),
   (9605, "LOWER FIVE EIGHTHS BLOCK;LOWER THREE QUARTERS BLOCK;LOWER SEVEN EIGHTHS BLOCK"),
   (9608, "FULL BLOCK;LEFT SEVEN EIGHTHS BLOCK;LEFT THREE QUARTERS BLOCK"),
   (9611, "LEFT FIVE EIGHTHS BLOCK;LEFT HALF BLOCK;LEFT THREE EIGHTHS BLOCK"),
   (9614, "LEFT ONE QUARTER BLOCK;LEFT ONE EIGHTH BLOCK;RIGHT HALF BLOCK;LIGHT SHADE"),
   (9618, "MEDIUM SHADE;DARK SHADE;UPPER ONE EIGHTH BLOCK;RIGHT ONE EIGHTH BLOCK"),
   (9622, "QUADRANT LOWER LEFT;QUADRANT LOWER RIGHT;QUADRANT UPPER LEFT"),
   (9625, "QUADRANT UPPER LEFT AND LOWER LEFT AND LOWER RIGHT"),
   (9626, "QUADRANT UPPER LEFT AND LOWER RIGHT"),
   (9627, "QUADRANT UPPER LEFT AND UPPER RIGHT AND LOWER LEFT"),
   (9628, "QUADRANT UPPER LEFT AND UPPER RIGHT AND LOWER RIGHT;QUADRANT UPPER RIGHT"),
   (9630, "QUADRANT UPPER RIGHT AND LOWER LEFT"),
   (9631, "QUADRANT UPPER RIGHT AND LOWER LEFT AND LOWER RIGHT;BLACK SQUARE;WHITE SQUARE"),
   (9634, "WHITE SQUARE WITH ROUNDED CORNERS;WHITE SQUARE CONTAINING BLACK SMALL SQUARE"),
   (9636, "SQUARE WITH HORIZONTAL FILL;SQUARE WITH VERTICAL FILL"),
   (9638, "SQUARE WITH ORTHOGONAL CROSSHATCH FILL"),
   (9639, "SQUARE WITH UPPER LEFT TO LOWER RIGHT FILL"),
   (9640, "SQUARE WITH UPPER RIGHT TO LOWER LEFT FILL"),
   (9641, "SQUARE WITH DIAGONAL CROSSHATCH FILL;BLACK SMALL SQUARE;WHITE SMALL SQUARE"),
   (9644, "BLACK RECTANGLE;WHITE RECTANGLE;BLACK VERTICAL RECTANGLE"),
   (9647, "WHITE VERTICAL RECTANGLE;BLACK PARALLELOGRAM;WHITE PARALLELOGRAM"),
   (9650, "BLACK UP-POINTING TRIANGLE;WHITE UP-POINTING TRIANGLE"),
   (9652, "BLACK UP-POINTING SMALL TRIANGLE;WHITE UP-POINTING SMALL TRIANGLE"),
   (9654, "BLACK RIGHT-POINTING TRIANGLE;WHITE RIGHT-POINTING TRIANGLE"),
   (9656, "BLACK RIGHT-POINTING SMALL TRIANGLE;WHITE RIGHT-POINTING SMALL TRIANGLE"),
   (9658, "BLACK RIGHT-POINTING POINTER;WHITE RIGHT-POINTING POINTER"),
   (9660, "BLACK DOWN-POINTING TRIANGLE;WHITE DOWN-POINTING TRIANGLE"),
   (9662, "BLACK DOWN-POINTING SMALL TRIANGLE;WHITE DOWN-POINTING SMALL TRIANGLE"),
   (9664, "BLACK LEFT-POINTING TRIANGLE;WHITE LEFT-POINTING TRIANGLE"),
   (9666, "BLACK LEFT-POINTING SMALL TRIANGLE;WHITE LEFT-POINTING SMALL TRIANGLE"),
   (9668, "BLACK LEFT-POINTING POINTER;WHITE LEFT-POINTING POINTER;BLACK DIAMOND"),
   (9671, "WHITE DIAMOND;WHITE DIAMOND CONTAINING BLACK SMALL DIAMOND;FISHEYE;LOZENGE"),
   (9675, "WHITE CIRCLE;DOTTED CIRCLE;CIRCLE WITH VERTICAL FILL;BULLSEYE;BLACK CIRCLE"),
   (9680, "CIRCLE WITH LEFT HALF BLACK;CIRCLE WITH RIGHT HALF BLACK"),
   (9682, "CIRCLE WITH LOWER HALF BLACK;CIRCLE WITH UPPER HALF BLACK"),
   (9684, "CIRCLE WITH UPPER RIGHT QUADRANT BLACK"),
   (9685, "CIRCLE WITH ALL BUT UPPER LEFT QUADRANT BLACK;LEFT HALF BLACK CIRCLE"),
   (9687, "RIGHT HALF BLACK CIRCLE;INVERSE BULLET;INVERSE WHITE CIRCLE"),
   (9690, "UPPER HALF INVERSE WHITE CIRCLE;LOWER HALF INVERSE WHITE CIRCLE"),
   (9692, "UPPER LEFT QUADRANT CIRCULAR ARC;UPPER RIGHT QUADRANT CIRCULAR ARC"),
   (9694, "LOWER RIGHT QUADRANT CIRCULAR ARC;LOWER LEFT QUADRANT CIRCULAR ARC"),
   (9696, "UPPER HALF CIRCLE;LOWER HALF CIRCLE;BLACK LOWER RIGHT TRIANGLE"),
   (9699, "BLACK LOWER LEFT TRIANGLE;BLACK UPPER LEFT TRIANGLE;BLACK UPPER RIGHT TRIANGLE"),
   (9702, "WHITE BULLET;SQUARE WITH LEFT HALF BLACK;SQUARE WITH RIGHT HALF BLACK"),
   (9705, "SQUARE WITH UPPER LEFT DIAGONAL HALF BLACK"),
   (9706, "SQUARE WITH LOWER RIGHT DIAGONAL HALF BLACK"),
   (9707, "WHITE SQUARE WITH VERTICAL BISECTING LINE;WHITE UP-POINTING TRIANGLE WITH DOT"),
   (9709, "UP-POINTING TRIANGLE WITH LEFT HALF BLACK"),
   (9710, "UP-POINTING TRIANGLE WITH RIGHT HALF BLACK;LARGE CIRCLE"),
   (9712, "WHITE SQUARE WITH UPPER LEFT QUADRANT;WHITE SQUARE WITH LOWER LEFT QUADRANT"),
   (9714, "WHITE SQUARE WITH LOWER RIGHT QUADRANT;WHITE SQUARE WITH UPPER RIGHT QUADRANT"),
   (9716, "WHITE CIRCLE WITH UPPER LEFT QUADRANT;WHITE CIRCLE WITH LOWER LEFT QUADRANT"),
   (9718, "WHITE CIRCLE WITH LOWER RIGHT QUADRANT;WHITE CIRCLE WITH UPPER RIGHT QUADRANT"),
   (9720, "UPPER LEFT TRIANGLE;UPPER RIGHT TRIANGLE;LOWER LEFT TRIANGLE"),
   (9723, "WHITE MEDIUM SQUARE;BLACK MEDIUM SQUARE;WHITE MEDIUM SMALL SQUARE"),
   (9726, "BLACK MEDIUM SMALL SQUARE;LOWER RIGHT TRIANGLE"),
   (9728, "BLACK SUN WITH RAYS;CLOUD;UMBRELLA;SNOWMAN;COMET;BLACK STAR;WHITE STAR"),
   (9735, "LIGHTNING;THUNDERSTORM;SUN;ASCENDING NODE;DESCENDING NODE;CONJUNCTION"),
   (9741, "OPPOSITION;BLACK TELEPHONE;WHITE TELEPHONE;BALLOT BOX;BALLOT BOX WITH CHECK"),
   (9746, "BALLOT BOX WITH X;SALTIRE;UMBRELLA WITH RAIN DROPS;HOT BEVERAGE"),
   (9750, "WHITE SHOGI PIECE;BLACK SHOGI PIECE;SHAMROCK"),
   (9753, "REVERSED ROTATED FLORAL HEART BULLET;BLACK LEFT POINTING INDEX"),
   (9755, "BLACK RIGHT POINTING INDEX;WHITE LEFT POINTING INDEX;WHITE UP POINTING INDEX"),
   (9758, "WHITE RIGHT POINTING INDEX;WHITE DOWN POINTING INDEX;SKULL AND CROSSBONES"),
   (9761, "CAUTION SIGN;RADIOACTIVE SIGN;BIOHAZARD SIGN;CADUCEUS;ANKH;ORTHODOX CROSS"),
   (9767, "CHI RHO;CROSS OF LORRAINE;CROSS OF JERUSALEM;STAR AND CRESCENT;FARSI SYMBOL"),
   (9772, "ADI SHAKTI;HAMMER AND SICKLE;PEACE SYMBOL;YIN YANG;TRIGRAM FOR HEAVEN"),
   (9777, "TRIGRAM FOR LAKE;TRIGRAM FOR FIRE;TRIGRAM FOR THUNDER;TRIGRAM FOR WIND"),
   (9781, "TRIGRAM FOR WATER;TRIGRAM FOR MOUNTAIN;TRIGRAM FOR EARTH;WHEEL OF DHARMA"),
   (9785, "WHITE FROWNING FACE;WHITE SMILING FACE;BLACK SMILING FACE;WHITE SUN WITH RAYS"),
   (9789, "FIRST QUARTER MOON;LAST QUARTER MOON;MERCURY;FEMALE SIGN;EARTH;MALE SIGN"),
   (9795, "JUPITER;SATURN;URANUS;NEPTUNE;PLUTO;ARIES;TAURUS;GEMINI;CANCER;LEO;VIRGO;LIBRA"),
   (9807, "SCORPIUS;SAGITTARIUS;CAPRICORN;AQUARIUS;PISCES;WHITE CHESS KING"),
   (9813, "WHITE CHESS QUEEN;WHITE CHESS ROOK;WHITE CHESS BISHOP;WHITE CHESS KNIGHT"),
   (9817, "WHITE CHESS PAWN;BLACK CHESS KING;BLACK CHESS QUEEN;BLACK CHESS ROOK"),
   (9821, "BLACK CHESS BISHOP;BLACK CHESS KNIGHT;BLACK CHESS PAWN;BLACK SPADE SUIT"),
   (9825, "WHITE HEART SUIT;WHITE DIAMOND SUIT;BLACK CLUB SUIT;WHITE SPADE SUIT"),
   (9829, "BLACK HEART SUIT;BLACK DIAMOND SUIT;WHITE CLUB SUIT;HOT SPRINGS;QUARTER NOTE"),
   (9834, "EIGHTH NOTE;BEAMED EIGHTH NOTES;BEAMED SIXTEENTH NOTES;MUSIC FLAT SIGN"),
   (9838, "MUSIC NATURAL SIGN;MUSIC SHARP SIGN;WEST SYRIAC CROSS;EAST SYRIAC CROSS"),
   (9842, "UNIVERSAL RECYCLING SYMBOL;RECYCLING SYMBOL FOR TYPE-1 PLASTICS"),
   (9844, "RECYCLING SYMBOL FOR TYPE-2 PLASTICS;RECYCLING SYMBOL FOR TYPE-3 PLASTICS"),
   (9846, "RECYCLING SYMBOL FOR TYPE-4 PLASTICS;RECYCLING SYMBOL FOR TYPE-5 PLASTICS"),
   (9848, "RECYCLING SYMBOL FOR TYPE-6 PLASTICS;RECYCLING SYMBOL FOR TYPE-7 PLASTICS"),
   (9850, "RECYCLING SYMBOL FOR GENERIC MATERIALS;BLACK UNIVERSAL RECYCLING SYMBOL"),
   (9852, "RECYCLED PAPER SYMBOL;PARTIALLY-RECYCLED PAPER SYMBOL;PERMANENT PAPER SIGN"),
   (9855, "WHEELCHAIR SYMBOL;DIE FACE-1;DIE FACE-2;DIE FACE-3;DIE FACE-4;DIE FACE-5"),
   (9861, "DIE FACE-6;WHITE CIRCLE WITH DOT RIGHT;WHITE CIRCLE WITH TWO DOTS"),
   (9864, "BLACK CIRCLE WITH WHITE DOT RIGHT;BLACK CIRCLE WITH TWO WHITE DOTS"),
   (9866, "MONOGRAM FOR YANG;MONOGRAM FOR YIN;DIGRAM FOR GREATER YANG"),
   (9869, "DIGRAM FOR LESSER YIN;DIGRAM FOR LESSER YANG;DIGRAM FOR GREATER YIN;WHITE FLAG"),
   (9873, "BLACK FLAG;HAMMER AND PICK;ANCHOR;CROSSED SWORDS;STAFF OF AESCULAPIUS;SCALES"),
   (9879, "ALEMBIC;FLOWER;GEAR;STAFF OF HERMES;ATOM SYMBOL;FLEUR-DE-LIS"),
   (9885, "OUTLINED WHITE STAR;THREE LINES CONVERGING RIGHT;THREE LINES CONVERGING LEFT"),
   (9888, "WARNING SIGN;HIGH VOLTAGE SIGN;DOUBLED FEMALE SIGN;DOUBLED MALE SIGN"),
   (9892, "INTERLOCKED FEMALE AND MALE SIGN;MALE AND FEMALE SIGN;MALE WITH STROKE SIGN"),
   (9895, "MALE WITH STROKE AND MALE AND FEMALE SIGN;VERTICAL MALE WITH STROKE SIGN"),
   (9897, "HORIZONTAL MALE WITH STROKE SIGN;MEDIUM WHITE CIRCLE;MEDIUM BLACK CIRCLE"),
   (9900, "MEDIUM SMALL WHITE CIRCLE;MARRIAGE SYMBOL;DIVORCE SYMBOL"),
   (9903, "UNMARRIED PARTNERSHIP SYMBOL;COFFIN;FUNERAL URN;NEUTER;CERES;PALLAS;JUNO;VESTA"),
   (9911, "CHIRON;BLACK MOON LILITH;SEXTILE;SEMISEXTILE;QUINCUNX;SESQUIQUADRATE"),
   (9917, "SOCCER BALL;BASEBALL;SQUARED KEY;WHITE DRAUGHTS MAN;WHITE DRAUGHTS KING"),
   (9922, "BLACK DRAUGHTS MAN;BLACK DRAUGHTS KING;SNOWMAN WITHOUT SNOW;SUN BEHIND CLOUD"),
   (9926, "RAIN;BLACK SNOWMAN;THUNDER CLOUD AND RAIN;TURNED WHITE SHOGI PIECE"),
   (9930, "TURNED BLACK SHOGI PIECE;WHITE DIAMOND IN SQUARE;CROSSING LANES;DISABLED CAR"),
   (9934, "OPHIUCHUS;PICK;CAR SLIDING;HELMET WITH WHITE CROSS;CIRCLED CROSSING LANES"),
   (9939, "CHAINS;NO ENTRY;ALTERNATE ONE-WAY LEFT WAY TRAFFIC"),
   (9942, "BLACK TWO-WAY LEFT WAY TRAFFIC;WHITE TWO-WAY LEFT WAY TRAFFIC"),
   (9944, "BLACK LEFT LANE MERGE;WHITE LEFT LANE MERGE;DRIVE SLOW SIGN"),
   (9947, "HEAVY WHITE DOWN-POINTING TRIANGLE;LEFT CLOSED ENTRY;SQUARED SALTIRE"),
   (9950, "FALLING DIAGONAL IN WHITE CIRCLE IN BLACK SQUARE;BLACK TRUCK"),
   (9952, "RESTRICTED LEFT ENTRY-1;RESTRICTED LEFT ENTRY-2;ASTRONOMICAL SYMBOL FOR URANUS"),
   (9955, "HEAVY CIRCLE WITH STROKE AND TWO DOTS ABOVE;PENTAGRAM"),
   (9957, "RIGHT-HANDED INTERLACED PENTAGRAM;LEFT-HANDED INTERLACED PENTAGRAM"),
   (9959, "INVERTED PENTAGRAM;BLACK CROSS ON SHIELD;SHINTO SHRINE;CHURCH;CASTLE"),
   (9964, "HISTORIC SITE;GEAR WITHOUT HUB;GEAR WITH HANDLES;MAP SYMBOL FOR LIGHTHOUSE"),
   (9968, "MOUNTAIN;UMBRELLA ON GROUND;FOUNTAIN;FLAG IN HOLE;FERRY;SAILBOAT"),
   (9974, "SQUARE FOUR CORNERS;SKIER;ICE SKATE;PERSON WITH BALL;TENT;JAPANESE BANK SYMBOL"),
   (9980, "HEADSTONE GRAVEYARD SYMBOL;FUEL PUMP;CUP ON BLACK SQUARE"),
   (9983, "WHITE FLAG WITH HORIZONTAL MIDDLE BLACK STRIPE"),
   (12288, "IDEOGRAPHIC SPACE;IDEOGRAPHIC COMMA;IDEOGRAPHIC FULL STOP;DITTO MARK"),
   (12292, "JAPANESE INDUSTRIAL STANDARD SYMBOL;IDEOGRAPHIC ITERATION MARK"),
   (12294, "IDEOGRAPHIC CLOSING MARK;IDEOGRAPHIC NUMBER ZERO;LEFT ANGLE BRACKET"),
   (12297, "RIGHT ANGLE BRACKET;LEFT DOUBLE ANGLE BRACKET;RIGHT DOUBLE ANGLE BRACKET"),
   (12300, "LEFT CORNER BRACKET;RIGHT CORNER BRACKET;LEFT WHITE CORNER BRACKET"),
   (12303, "RIGHT WHITE CORNER BRACKET;LEFT BLACK LENTICULAR BRACKET"),
   (12305, "RIGHT BLACK LENTICULAR BRACKET;POSTAL MARK;GETA MARK"),
   (12308, "LEFT TORTOISE SHELL BRACKET;RIGHT TORTOISE SHELL BRACKET"),
   (12310, "LEFT WHITE LENTICULAR BRACKET;RIGHT WHITE LENTICULAR BRACKET"),
   (12312, "LEFT WHITE TORTOISE SHELL BRACKET;RIGHT WHITE TORTOISE SHELL BRACKET"),
   (12314, "LEFT WHITE SQUARE BRACKET;RIGHT WHITE SQUARE BRACKET;WAVE DASH"),
   (12317, "REVERSED DOUBLE PRIME QUOTATION MARK;DOUBLE PRIME QUOTATION MARK"),
   (12319, "LOW DOUBLE PRIME QUOTATION MARK;POSTAL MARK FACE;HANGZHOU NUMERAL ONE"),
   (12322, "HANGZHOU NUMERAL TWO;HANGZHOU NUMERAL THREE;HANGZHOU NUMERAL FOUR"),
   (12325, "HANGZHOU NUMERAL FIVE;HANGZHOU NUMERAL SIX;HANGZHOU NUMERAL SEVEN"),
   (12328, "HANGZHOU NUMERAL EIGHT;HANGZHOU NUMERAL NINE")]

/-- The code point of the name, among `names` that begin at `code`. -/
def findName (name : String) (code : Nat) : List String → Option Nat
  | [] => none
  | n :: ns => if n = name then some code else findName name (code + 1) ns

/-- The code point of a named character; the case of the name does not matter. -/
def namedChar? (name : String) : Option Nat :=
  let wanted := name.toUpper
  if wanted = "-" then none
  else nameRows.findSome? fun (code, row) => findName wanted code (row.splitOn ";")

end Formwork.Pattern
