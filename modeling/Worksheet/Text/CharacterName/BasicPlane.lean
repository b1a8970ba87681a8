-- Runs of character names, and the names of the characters below U+10000.
namespace Worksheet.Text.CharacterName

/-- The names of neighbouring characters: the code point of the first one, what all names begin
with, and how each one goes on, with bars between them. -/
structure Run where
  first : Nat
  start : String
  ends : String

/-- The names below U+10000, but for those that are made from the code point. -/
def basicPlane : List Run := [
  ⟨0x0020, "", "SPACE|EXCLAMATION MARK|QUOTATION MARK|NUMBER SIGN|DOLLAR SIGN|PERCENT SIGN|AMPERSAND|APOSTROPHE|LEFT PARENTHESIS|RIGHT PARENTHESIS|ASTERISK|PLUS SIGN|COMMA|HYPHEN-MINUS|FULL STOP|SOLIDUS"⟩,
  ⟨0x0030, "DIGIT ", "ZERO|ONE|TWO|THREE|FOUR|FIVE|SIX|SEVEN|EIGHT|NINE"⟩,
  ⟨0x003A, "", "COLON|SEMICOLON|LESS-THAN SIGN|EQUALS SIGN|GREATER-THAN SIGN|QUESTION MARK|COMMERCIAL AT"⟩,
  ⟨0x0041, "LATIN CAPITAL LETTER ", "A|B|C|D|E|F|G|H|I|J|K|L|M|N|O|P|Q|R|S|T|U|V|W|X|Y|Z"⟩,
  ⟨0x005B, "", "LEFT SQUARE BRACKET|REVERSE SOLIDUS|RIGHT SQUARE BRACKET|CIRCUMFLEX ACCENT|LOW LINE|GRAVE ACCENT"⟩,
  ⟨0x0061, "LATIN SMALL LETTER ", "A|B|C|D|E|F|G|H|I|J|K|L|M|N|O|P|Q|R|S|T|U|V|W|X|Y|Z"⟩,
  ⟨0x007B, "", "LEFT CURLY BRACKET|VERTICAL LINE|RIGHT CURLY BRACKET|TILDE"⟩,
  ⟨0x00A0, "", "NO-BREAK SPACE|INVERTED EXCLAMATION MARK|CENT SIGN|POUND SIGN|CURRENCY SIGN|YEN SIGN|BROKEN BAR|SECTION SIGN|DIAERESIS|COPYRIGHT SIGN|FEMININE ORDINAL INDICATOR|LEFT-POINTING DOUBLE ANGLE QUOTATION MARK|NOT SIGN|SOFT HYPHEN|REGISTERED SIGN|MACRON|DEGREE SIGN|PLUS-MINUS SIGN|SUPERSCRIPT TWO|SUPERSCRIPT THREE|ACUTE ACCENT|MICRO SIGN|PILCROW SIGN|MIDDLE DOT|CEDILLA|SUPERSCRIPT ONE|MASCULINE ORDINAL INDICATOR|RIGHT-POINTING DOUBLE ANGLE QUOTATION MARK|VULGAR FRACTION ONE QUARTER|VULGAR FRACTION ONE HALF|VULGAR FRACTION THREE QUARTERS|INVERTED QUESTION MARK"⟩,
  ⟨0x00C0, "LATIN CAPITAL LETTER ", "A WITH GRAVE|A WITH ACUTE|A WITH CIRCUMFLEX|A WITH TILDE|A WITH DIAERESIS|A WITH RING ABOVE|AE|C WITH CEDILLA|E WITH GRAVE|E WITH ACUTE|E WITH CIRCUMFLEX|E WITH DIAERESIS|I WITH GRAVE|I WITH ACUTE|I WITH CIRCUMFLEX|I WITH DIAERESIS|ETH|N WITH TILDE|O WITH GRAVE|O WITH ACUTE|O WITH CIRCUMFLEX|O WITH TILDE|O WITH DIAERESIS"⟩,
  ⟨0x00D7, "MULTIPLICATION SIGN", ""⟩,
  ⟨0x00D8, "LATIN CAPITAL LETTER ", "O WITH STROKE|U WITH GRAVE|U WITH ACUTE|U WITH CIRCUMFLEX|U WITH DIAERESIS|Y WITH ACUTE|THORN"⟩,
  ⟨0x00DF, "LATIN SMALL LETTER ", "SHARP S|A WITH GRAVE|A WITH ACUTE|A WITH CIRCUMFLEX|A WITH TILDE|A WITH DIAERESIS|A WITH RING ABOVE|AE|C WITH CEDILLA|E WITH GRAVE|E WITH ACUTE|E WITH CIRCUMFLEX|E WITH DIAERESIS|I WITH GRAVE|I WITH ACUTE|I WITH CIRCUMFLEX|I WITH DIAERESIS|ETH|N WITH TILDE|O WITH GRAVE|O WITH ACUTE|O WITH CIRCUMFLEX|O WITH TILDE|O WITH DIAERESIS"⟩,
  ⟨0x00F7, "DIVISION SIGN", ""⟩,
  ⟨0x00F8, "LATIN SMALL LETTER ", "O WITH STROKE|U WITH GRAVE|U WITH ACUTE|U WITH CIRCUMFLEX|U WITH DIAERESIS|Y WITH ACUTE|THORN|Y WITH DIAERESIS"⟩,
  ⟨0x0100, "LATIN ", "CAPITAL LETTER A WITH MACRON|SMALL LETTER A WITH MACRON|CAPITAL LETTER A WITH BREVE|SMALL LETTER A WITH BREVE|CAPITAL LETTER A WITH OGONEK|SMALL LETTER A WITH OGONEK|CAPITAL LETTER C WITH ACUTE|SMALL LETTER C WITH ACUTE|CAPITAL LETTER C WITH CIRCUMFLEX|SMALL LETTER C WITH CIRCUMFLEX|CAPITAL LETTER C WITH DOT ABOVE|SMALL LETTER C WITH DOT ABOVE|CAPITAL LETTER C WITH CARON|SMALL LETTER C WITH CARON|CAPITAL LETTER D WITH CARON|SMALL LETTER D WITH CARON|CAPITAL LETTER D WITH STROKE|SMALL LETTER D WITH STROKE|CAPITAL LETTER E WITH MACRON|SMALL LETTER E WITH MACRON|CAPITAL LETTER E WITH BREVE|SMALL LETTER E WITH BREVE|CAPITAL LETTER E WITH DOT ABOVE|SMALL LETTER E WITH DOT ABOVE|CAPITAL LETTER E WITH OGONEK|SMALL LETTER E WITH OGONEK|CAPITAL LETTER E WITH CARON|SMALL LETTER E WITH CARON|CAPITAL LETTER G WITH CIRCUMFLEX|SMALL LETTER G WITH CIRCUMFLEX|CAPITAL LETTER G WITH BREVE|SMALL LETTER G WITH BREVE|CAPITAL LETTER G WITH DOT ABOVE|SMALL LETTER G WITH DOT ABOVE|CAPITAL LETTER G WITH CEDILLA|SMALL LETTER G WITH CEDILLA|CAPITAL LETTER H WITH CIRCUMFLEX|SMALL LETTER H WITH CIRCUMFLEX|CAPITAL LETTER H WITH STROKE|SMALL LETTER H WITH STROKE|CAPITAL LETTER I WITH TILDE|SMALL LETTER I WITH TILDE|CAPITAL LETTER I WITH MACRON|SMALL LETTER I WITH MACRON|CAPITAL LETTER I WITH BREVE|SMALL LETTER I WITH BREVE|CAPITAL LETTER I WITH OGONEK|SMALL LETTER I WITH OGONEK|CAPITAL LETTER I WITH DOT ABOVE|SMALL LETTER DOTLESS I|CAPITAL LIGATURE IJ|SMALL LIGATURE IJ|CAPITAL LETTER J WITH CIRCUMFLEX"⟩,
  ⟨0x0135, "LATIN ", "SMALL LETTER J WITH CIRCUMFLEX|CAPITAL LETTER K WITH CEDILLA|SMALL LETTER K WITH CEDILLA|SMALL LETTER KRA|CAPITAL LETTER L WITH ACUTE|SMALL LETTER L WITH ACUTE|CAPITAL LETTER L WITH CEDILLA|SMALL LETTER L WITH CEDILLA|CAPITAL LETTER L WITH CARON|SMALL LETTER L WITH CARON|CAPITAL LETTER L WITH MIDDLE DOT|SMALL LETTER L WITH MIDDLE DOT|CAPITAL LETTER L WITH STROKE|SMALL LETTER L WITH STROKE|CAPITAL LETTER N WITH ACUTE|SMALL LETTER N WITH ACUTE|CAPITAL LETTER N WITH CEDILLA|SMALL LETTER N WITH CEDILLA|CAPITAL LETTER N WITH CARON|SMALL LETTER N WITH CARON|SMALL LETTER N PRECEDED BY APOSTROPHE|CAPITAL LETTER ENG|SMALL LETTER ENG|CAPITAL LETTER O WITH MACRON|SMALL LETTER O WITH MACRON|CAPITAL LETTER O WITH BREVE|SMALL LETTER O WITH BREVE|CAPITAL LETTER O WITH DOUBLE ACUTE|SMALL LETTER O WITH DOUBLE ACUTE|CAPITAL LIGATURE OE|SMALL LIGATURE OE|CAPITAL LETTER R WITH ACUTE|SMALL LETTER R WITH ACUTE|CAPITAL LETTER R WITH CEDILLA|SMALL LETTER R WITH CEDILLA|CAPITAL LETTER R WITH CARON|SMALL LETTER R WITH CARON|CAPITAL LETTER S WITH ACUTE|SMALL LETTER S WITH ACUTE|CAPITAL LETTER S WITH CIRCUMFLEX|SMALL LETTER S WITH CIRCUMFLEX|CAPITAL LETTER S WITH CEDILLA|SMALL LETTER S WITH CEDILLA|CAPITAL LETTER S WITH CARON|SMALL LETTER S WITH CARON|CAPITAL LETTER T WITH CEDILLA|SMALL LETTER T WITH CEDILLA|CAPITAL LETTER T WITH CARON|SMALL LETTER T WITH CARON|CAPITAL LETTER T WITH STROKE|SMALL LETTER T WITH STROKE|CAPITAL LETTER U WITH TILDE|SMALL LETTER U WITH TILDE|CAPITAL LETTER U WITH MACRON"⟩,
  ⟨0x016B, "LATIN ", "SMALL LETTER U WITH MACRON|CAPITAL LETTER U WITH BREVE|SMALL LETTER U WITH BREVE|CAPITAL LETTER U WITH RING ABOVE|SMALL LETTER U WITH RING ABOVE|CAPITAL LETTER U WITH DOUBLE ACUTE|SMALL LETTER U WITH DOUBLE ACUTE|CAPITAL LETTER U WITH OGONEK|SMALL LETTER U WITH OGONEK|CAPITAL LETTER W WITH CIRCUMFLEX|SMALL LETTER W WITH CIRCUMFLEX|CAPITAL LETTER Y WITH CIRCUMFLEX|SMALL LETTER Y WITH CIRCUMFLEX|CAPITAL LETTER Y WITH DIAERESIS|CAPITAL LETTER Z WITH ACUTE|SMALL LETTER Z WITH ACUTE|CAPITAL LETTER Z WITH DOT ABOVE|SMALL LETTER Z WITH DOT ABOVE|CAPITAL LETTER Z WITH CARON|SMALL LETTER Z WITH CARON|SMALL LETTER LONG S|SMALL LETTER B WITH STROKE|CAPITAL LETTER B WITH HOOK|CAPITAL LETTER B WITH TOPBAR|SMALL LETTER B WITH TOPBAR|CAPITAL LETTER TONE SIX|SMALL LETTER TONE SIX|CAPITAL LETTER OPEN O|CAPITAL LETTER C WITH HOOK|SMALL LETTER C WITH HOOK|CAPITAL LETTER AFRICAN D|CAPITAL LETTER D WITH HOOK|CAPITAL LETTER D WITH TOPBAR|SMALL LETTER D WITH TOPBAR|SMALL LETTER TURNED DELTA|CAPITAL LETTER REVERSED E|CAPITAL LETTER SCHWA|CAPITAL LETTER OPEN E|CAPITAL LETTER F WITH HOOK|SMALL LETTER F WITH HOOK|CAPITAL LETTER G WITH HOOK|CAPITAL LETTER GAMMA|SMALL LETTER HV|CAPITAL LETTER IOTA|CAPITAL LETTER I WITH STROKE|CAPITAL LETTER K WITH HOOK|SMALL LETTER K WITH HOOK|SMALL LETTER L WITH BAR|SMALL LETTER LAMBDA WITH STROKE|CAPITAL LETTER TURNED M|CAPITAL LETTER N WITH LEFT HOOK|SMALL LETTER N WITH LONG RIGHT LEG|CAPITAL LETTER O WITH MIDDLE TILDE|CAPITAL LETTER O WITH HORN"⟩,
  ⟨0x01A1, "LATIN ", "SMALL LETTER O WITH HORN|CAPITAL LETTER OI|SMALL LETTER OI|CAPITAL LETTER P WITH HOOK|SMALL LETTER P WITH HOOK|LETTER YR|CAPITAL LETTER TONE TWO|SMALL LETTER TONE TWO|CAPITAL LETTER ESH|LETTER REVERSED ESH LOOP|SMALL LETTER T WITH PALATAL HOOK|CAPITAL LETTER T WITH HOOK|SMALL LETTER T WITH HOOK|CAPITAL LETTER T WITH RETROFLEX HOOK|CAPITAL LETTER U WITH HORN|SMALL LETTER U WITH HORN|CAPITAL LETTER UPSILON|CAPITAL LETTER V WITH HOOK|CAPITAL LETTER Y WITH HOOK|SMALL LETTER Y WITH HOOK|CAPITAL LETTER Z WITH STROKE|SMALL LETTER Z WITH STROKE|CAPITAL LETTER EZH|CAPITAL LETTER EZH REVERSED|SMALL LETTER EZH REVERSED|SMALL LETTER EZH WITH TAIL|LETTER TWO WITH STROKE|CAPITAL LETTER TONE FIVE|SMALL LETTER TONE FIVE|LETTER INVERTED GLOTTAL STOP WITH STROKE|LETTER WYNN|LETTER DENTAL CLICK|LETTER LATERAL CLICK|LETTER ALVEOLAR CLICK|LETTER RETROFLEX CLICK|CAPITAL LETTER DZ WITH CARON|CAPITAL LETTER D WITH SMALL LETTER Z WITH CARON|SMALL LETTER DZ WITH CARON|CAPITAL LETTER LJ|CAPITAL LETTER L WITH SMALL LETTER J|SMALL LETTER LJ|CAPITAL LETTER NJ|CAPITAL LETTER N WITH SMALL LETTER J|SMALL LETTER NJ|CAPITAL LETTER A WITH CARON|SMALL LETTER A WITH CARON|CAPITAL LETTER I WITH CARON|SMALL LETTER I WITH CARON|CAPITAL LETTER O WITH CARON|SMALL LETTER O WITH CARON|CAPITAL LETTER U WITH CARON|SMALL LETTER U WITH CARON|CAPITAL LETTER U WITH DIAERESIS AND MACRON|SMALL LETTER U WITH DIAERESIS AND MACRON|CAPITAL LETTER U WITH DIAERESIS AND ACUTE|SMALL LETTER U WITH DIAERESIS AND ACUTE"⟩,
  ⟨0x01D9, "LATIN ", "CAPITAL LETTER U WITH DIAERESIS AND CARON|SMALL LETTER U WITH DIAERESIS AND CARON|CAPITAL LETTER U WITH DIAERESIS AND GRAVE|SMALL LETTER U WITH DIAERESIS AND GRAVE|SMALL LETTER TURNED E|CAPITAL LETTER A WITH DIAERESIS AND MACRON|SMALL LETTER A WITH DIAERESIS AND MACRON|CAPITAL LETTER A WITH DOT ABOVE AND MACRON|SMALL LETTER A WITH DOT ABOVE AND MACRON|CAPITAL LETTER AE WITH MACRON|SMALL LETTER AE WITH MACRON|CAPITAL LETTER G WITH STROKE|SMALL LETTER G WITH STROKE|CAPITAL LETTER G WITH CARON|SMALL LETTER G WITH CARON|CAPITAL LETTER K WITH CARON|SMALL LETTER K WITH CARON|CAPITAL LETTER O WITH OGONEK|SMALL LETTER O WITH OGONEK|CAPITAL LETTER O WITH OGONEK AND MACRON|SMALL LETTER O WITH OGONEK AND MACRON|CAPITAL LETTER EZH WITH CARON|SMALL LETTER EZH WITH CARON|SMALL LETTER J WITH CARON|CAPITAL LETTER DZ|CAPITAL LETTER D WITH SMALL LETTER Z|SMALL LETTER DZ|CAPITAL LETTER G WITH ACUTE|SMALL LETTER G WITH ACUTE|CAPITAL LETTER HWAIR|CAPITAL LETTER WYNN|CAPITAL LETTER N WITH GRAVE|SMALL LETTER N WITH GRAVE|CAPITAL LETTER A WITH RING ABOVE AND ACUTE|SMALL LETTER A WITH RING ABOVE AND ACUTE|CAPITAL LETTER AE WITH ACUTE|SMALL LETTER AE WITH ACUTE|CAPITAL LETTER O WITH STROKE AND ACUTE|SMALL LETTER O WITH STROKE AND ACUTE|CAPITAL LETTER A WITH DOUBLE GRAVE|SMALL LETTER A WITH DOUBLE GRAVE|CAPITAL LETTER A WITH INVERTED BREVE|SMALL LETTER A WITH INVERTED BREVE|CAPITAL LETTER E WITH DOUBLE GRAVE|SMALL LETTER E WITH DOUBLE GRAVE|CAPITAL LETTER E WITH INVERTED BREVE"⟩,
  ⟨0x0207, "LATIN ", "SMALL LETTER E WITH INVERTED BREVE|CAPITAL LETTER I WITH DOUBLE GRAVE|SMALL LETTER I WITH DOUBLE GRAVE|CAPITAL LETTER I WITH INVERTED BREVE|SMALL LETTER I WITH INVERTED BREVE|CAPITAL LETTER O WITH DOUBLE GRAVE|SMALL LETTER O WITH DOUBLE GRAVE|CAPITAL LETTER O WITH INVERTED BREVE|SMALL LETTER O WITH INVERTED BREVE|CAPITAL LETTER R WITH DOUBLE GRAVE|SMALL LETTER R WITH DOUBLE GRAVE|CAPITAL LETTER R WITH INVERTED BREVE|SMALL LETTER R WITH INVERTED BREVE|CAPITAL LETTER U WITH DOUBLE GRAVE|SMALL LETTER U WITH DOUBLE GRAVE|CAPITAL LETTER U WITH INVERTED BREVE|SMALL LETTER U WITH INVERTED BREVE|CAPITAL LETTER S WITH COMMA BELOW|SMALL LETTER S WITH COMMA BELOW|CAPITAL LETTER T WITH COMMA BELOW|SMALL LETTER T WITH COMMA BELOW|CAPITAL LETTER YOGH|SMALL LETTER YOGH|CAPITAL LETTER H WITH CARON|SMALL LETTER H WITH CARON|CAPITAL LETTER N WITH LONG RIGHT LEG|SMALL LETTER D WITH CURL|CAPITAL LETTER OU|SMALL LETTER OU|CAPITAL LETTER Z WITH HOOK|SMALL LETTER Z WITH HOOK|CAPITAL LETTER A WITH DOT ABOVE|SMALL LETTER A WITH DOT ABOVE|CAPITAL LETTER E WITH CEDILLA|SMALL LETTER E WITH CEDILLA|CAPITAL LETTER O WITH DIAERESIS AND MACRON|SMALL LETTER O WITH DIAERESIS AND MACRON|CAPITAL LETTER O WITH TILDE AND MACRON|SMALL LETTER O WITH TILDE AND MACRON|CAPITAL LETTER O WITH DOT ABOVE|SMALL LETTER O WITH DOT ABOVE|CAPITAL LETTER O WITH DOT ABOVE AND MACRON|SMALL LETTER O WITH DOT ABOVE AND MACRON|CAPITAL LETTER Y WITH MACRON"⟩,
  ⟨0x0233, "LATIN SMALL LETTER ", "Y WITH MACRON|L WITH CURL|N WITH CURL|T WITH CURL|DOTLESS J|DB DIGRAPH|QP DIGRAPH"⟩,
  ⟨0x023A, "LATIN ", "CAPITAL LETTER A WITH STROKE|CAPITAL LETTER C WITH STROKE|SMALL LETTER C WITH STROKE|CAPITAL LETTER L WITH BAR|CAPITAL LETTER T WITH DIAGONAL STROKE|SMALL LETTER S WITH SWASH TAIL|SMALL LETTER Z WITH SWASH TAIL|CAPITAL LETTER GLOTTAL STOP|SMALL LETTER GLOTTAL STOP|CAPITAL LETTER B WITH STROKE|CAPITAL LETTER U BAR|CAPITAL LETTER TURNED V|CAPITAL LETTER E WITH STROKE|SMALL LETTER E WITH STROKE|CAPITAL LETTER J WITH STROKE|SMALL LETTER J WITH STROKE|CAPITAL LETTER SMALL Q WITH HOOK TAIL|SMALL LETTER Q WITH HOOK TAIL|CAPITAL LETTER R WITH STROKE|SMALL LETTER R WITH STROKE|CAPITAL LETTER Y WITH STROKE"⟩,
  ⟨0x024F, "LATIN SMALL LETTER ", "Y WITH STROKE|TURNED A|ALPHA|TURNED ALPHA|B WITH HOOK|OPEN O|C WITH CURL|D WITH TAIL|D WITH HOOK|REVERSED E|SCHWA|SCHWA WITH HOOK|OPEN E|REVERSED OPEN E|REVERSED OPEN E WITH HOOK|CLOSED REVERSED OPEN E|DOTLESS J WITH STROKE|G WITH HOOK|SCRIPT G"⟩,
  ⟨0x0262, "LATIN LETTER SMALL CAPITAL G", ""⟩,
  ⟨0x0263, "LATIN SMALL LETTER ", "GAMMA|RAMS HORN|TURNED H|H WITH HOOK|HENG WITH HOOK|I WITH STROKE|IOTA"⟩,
  ⟨0x026A, "LATIN LETTER SMALL CAPITAL I", ""⟩,
  ⟨0x026B, "LATIN SMALL LETTER ", "L WITH MIDDLE TILDE|L WITH BELT|L WITH RETROFLEX HOOK|LEZH|TURNED M|TURNED M WITH LONG LEG|M WITH HOOK|N WITH LEFT HOOK|N WITH RETROFLEX HOOK"⟩,
  ⟨0x0274, "LATIN ", "LETTER SMALL CAPITAL N|SMALL LETTER BARRED O|LETTER SMALL CAPITAL OE"⟩,
  ⟨0x0277, "LATIN SMALL LETTER ", "CLOSED OMEGA|PHI|TURNED R|TURNED R WITH LONG LEG|TURNED R WITH HOOK|R WITH LONG LEG|R WITH TAIL|R WITH FISHHOOK|REVERSED R WITH FISHHOOK"⟩,
  ⟨0x0280, "LATIN LETTER SMALL CAPITAL ", "R|INVERTED R"⟩,
  ⟨0x0282, "LATIN SMALL LETTER ", "S WITH HOOK|ESH|DOTLESS J WITH STROKE AND HOOK|SQUAT REVERSED ESH|ESH WITH CURL|TURNED T|T WITH RETROFLEX HOOK|U BAR|UPSILON|V WITH HOOK|TURNED V|TURNED W|TURNED Y"⟩,
  ⟨0x028F, "LATIN ", "LETTER SMALL CAPITAL Y|SMALL LETTER Z WITH RETROFLEX HOOK|SMALL LETTER Z WITH CURL|SMALL LETTER EZH|SMALL LETTER EZH WITH CURL|LETTER GLOTTAL STOP|LETTER PHARYNGEAL VOICED FRICATIVE|LETTER INVERTED GLOTTAL STOP|LETTER STRETCHED C|LETTER BILABIAL CLICK|LETTER SMALL CAPITAL B|SMALL LETTER CLOSED OPEN E|LETTER SMALL CAPITAL G WITH HOOK|LETTER SMALL CAPITAL H|SMALL LETTER J WITH CROSSED-TAIL|SMALL LETTER TURNED K|LETTER SMALL CAPITAL L|SMALL LETTER Q WITH HOOK|LETTER GLOTTAL STOP WITH STROKE|LETTER REVERSED GLOTTAL STOP WITH STROKE"⟩,
  ⟨0x02A3, "LATIN SMALL LETTER ", "DZ DIGRAPH|DEZH DIGRAPH|DZ DIGRAPH WITH CURL|TS DIGRAPH|TESH DIGRAPH|TC DIGRAPH WITH CURL|FENG DIGRAPH|LS DIGRAPH|LZ DIGRAPH"⟩,
  ⟨0x02AC, "LATIN LETTER BI", "LABIAL PERCUSSIVE|DENTAL PERCUSSIVE"⟩,
  ⟨0x02AE, "LATIN SMALL LETTER TURNED H WITH FISHHOOK", "| AND TAIL"⟩,
  ⟨0x02B0, "MODIFIER LETTER SMALL ", "H|H WITH HOOK|J|R|TURNED R|TURNED R WITH HOOK|CAPITAL INVERTED R|W|Y"⟩,
  ⟨0x02B9, "MODIFIER LETTER ", "PRIME|DOUBLE PRIME|TURNED COMMA|APOSTROPHE|REVERSED COMMA|RIGHT HALF RING|LEFT HALF RING|GLOTTAL STOP|REVERSED GLOTTAL STOP|LEFT ARROWHEAD|RIGHT ARROWHEAD|UP ARROWHEAD|DOWN ARROWHEAD|CIRCUMFLEX ACCENT"⟩,
  ⟨0x02C7, "CARON", ""⟩,
  ⟨0x02C8, "MODIFIER LETTER ", "VERTICAL LINE|MACRON|ACUTE ACCENT|GRAVE ACCENT|LOW VERTICAL LINE|LOW MACRON|LOW GRAVE ACCENT|LOW ACUTE ACCENT|TRIANGULAR COLON|HALF TRIANGULAR COLON|CENTRED RIGHT HALF RING|CENTRED LEFT HALF RING|UP TACK|DOWN TACK|PLUS SIGN|MINUS SIGN"⟩,
  ⟨0x02D8, "", "BREVE|DOT ABOVE|RING ABOVE|OGONEK|SMALL TILDE|DOUBLE ACUTE ACCENT"⟩,
  ⟨0x02DE, "MODIFIER LETTER ", "RHOTIC HOOK|CROSS ACCENT|SMALL GAMMA|SMALL L|SMALL S|SMALL X|SMALL REVERSED GLOTTAL STOP|EXTRA-HIGH TONE BAR|HIGH TONE BAR|MID TONE BAR|LOW TONE BAR|EXTRA-LOW TONE BAR|YIN DEPARTING TONE MARK|YANG DEPARTING TONE MARK|VOICING|UNASPIRATED|DOUBLE APOSTROPHE|LOW DOWN ARROWHEAD|LOW UP ARROWHEAD|LOW LEFT ARROWHEAD|LOW RIGHT ARROWHEAD|LOW RING|MIDDLE GRAVE ACCENT|MIDDLE DOUBLE GRAVE ACCENT|MIDDLE DOUBLE ACUTE ACCENT|LOW TILDE|RAISED COLON|BEGIN HIGH TONE|END HIGH TONE|BEGIN LOW TONE|END LOW TONE|SHELF|OPEN SHELF|LOW LEFT ARROW"⟩,
  ⟨0x0300, "COMBINING ", "GRAVE ACCENT|ACUTE ACCENT|CIRCUMFLEX ACCENT|TILDE|MACRON|OVERLINE|BREVE|DOT ABOVE|DIAERESIS|HOOK ABOVE|RING ABOVE|DOUBLE ACUTE ACCENT|CARON|VERTICAL LINE ABOVE|DOUBLE VERTICAL LINE ABOVE|DOUBLE GRAVE ACCENT|CANDRABINDU|INVERTED BREVE|TURNED COMMA ABOVE|COMMA ABOVE|REVERSED COMMA ABOVE|COMMA ABOVE RIGHT|GRAVE ACCENT BELOW|ACUTE ACCENT BELOW|LEFT TACK BELOW|RIGHT TACK BELOW|LEFT ANGLE ABOVE|HORN|LEFT HALF RING BELOW|UP TACK BELOW|DOWN TACK BELOW|PLUS SIGN BELOW|MINUS SIGN BELOW|PALATALIZED HOOK BELOW|RETROFLEX HOOK BELOW|DOT BELOW|DIAERESIS BELOW|RING BELOW|COMMA BELOW|CEDILLA|OGONEK|VERTICAL LINE BELOW|BRIDGE BELOW|INVERTED DOUBLE ARCH BELOW|CARON BELOW|CIRCUMFLEX ACCENT BELOW|BREVE BELOW|INVERTED BREVE BELOW|TILDE BELOW|MACRON BELOW|LOW LINE|DOUBLE LOW LINE|TILDE OVERLAY|SHORT STROKE OVERLAY|LONG STROKE OVERLAY|SHORT SOLIDUS OVERLAY|LONG SOLIDUS OVERLAY|RIGHT HALF RING BELOW|INVERTED BRIDGE BELOW|SQUARE BELOW|SEAGULL BELOW|X ABOVE|VERTICAL TILDE|DOUBLE OVERLINE|GRAVE TONE MARK|ACUTE TONE MARK|GREEK PERISPOMENI|GREEK KORONIS|GREEK DIALYTIKA TONOS|GREEK YPOGEGRAMMENI|BRIDGE ABOVE|EQUALS SIGN BELOW|DOUBLE VERTICAL LINE BELOW|LEFT ANGLE BELOW|NOT TILDE ABOVE|HOMOTHETIC ABOVE|ALMOST EQUAL TO ABOVE|LEFT RIGHT ARROW BELOW|UPWARDS ARROW BELOW|GRAPHEME JOINER|RIGHT ARROWHEAD ABOVE|LEFT HALF RING ABOVE|FERMATA|X BELOW|LEFT ARROWHEAD BELOW|RIGHT ARROWHEAD BELOW|RIGHT ARROWHEAD AND UP ARROWHEAD BELOW|RIGHT HALF RING ABOVE|DOT ABOVE RIGHT|ASTERISK BELOW|DOUBLE RING BELOW|ZIGZAG ABOVE"⟩,
  ⟨0x035C, "COMBINING DOUBLE ", "BREVE BELOW|BREVE|MACRON|MACRON BELOW|TILDE|INVERTED BREVE|RIGHTWARDS ARROW BELOW"⟩,
  ⟨0x0363, "COMBINING LATIN SMALL LETTER ", "A|E|I|O|U|C|D|H|M|R|T|V|X"⟩,
  ⟨0x0370, "GREEK ", "CAPITAL LETTER HETA|SMALL LETTER HETA|CAPITAL LETTER ARCHAIC SAMPI|SMALL LETTER ARCHAIC SAMPI|NUMERAL SIGN|LOWER NUMERAL SIGN|CAPITAL LETTER PAMPHYLIAN DIGAMMA|SMALL LETTER PAMPHYLIAN DIGAMMA"⟩,
  ⟨0x037A, "GREEK ", "YPOGEGRAMMENI|SMALL REVERSED LUNATE SIGMA SYMBOL|SMALL DOTTED LUNATE SIGMA SYMBOL|SMALL REVERSED DOTTED LUNATE SIGMA SYMBOL|QUESTION MARK|CAPITAL LETTER YOT"⟩,
  ⟨0x0384, "GREEK ", "TONOS|DIALYTIKA TONOS|CAPITAL LETTER ALPHA WITH TONOS|ANO TELEIA"⟩,
  ⟨0x0388, "GREEK CAPITAL LETTER ", "EPSILON WITH TONOS|ETA WITH TONOS|IOTA WITH TONOS"⟩,
  ⟨0x038C, "GREEK CAPITAL LETTER OMICRON WITH TONOS", ""⟩,
  ⟨0x038E, "GREEK ", "CAPITAL LETTER UPSILON WITH TONOS|CAPITAL LETTER OMEGA WITH TONOS|SMALL LETTER IOTA WITH DIALYTIKA AND TONOS"⟩,
  ⟨0x0391, "GREEK CAPITAL LETTER ", "ALPHA|BETA|GAMMA|DELTA|EPSILON|ZETA|ETA|THETA|IOTA|KAPPA|LAMDA|MU|NU|XI|OMICRON|PI|RHO"⟩,
  ⟨0x03A3, "GREEK CAPITAL LETTER ", "SIGMA|TAU|UPSILON|PHI|CHI|PSI|OMEGA|IOTA WITH DIALYTIKA|UPSILON WITH DIALYTIKA"⟩,
  ⟨0x03AC, "GREEK SMALL LETTER ", "ALPHA WITH TONOS|EPSILON WITH TONOS|ETA WITH TONOS|IOTA WITH TONOS|UPSILON WITH DIALYTIKA AND TONOS|ALPHA|BETA|GAMMA|DELTA|EPSILON|ZETA|ETA|THETA|IOTA|KAPPA|LAMDA|MU|NU|XI|OMICRON|PI|RHO|FINAL SIGMA|SIGMA|TAU|UPSILON|PHI|CHI|PSI|OMEGA|IOTA WITH DIALYTIKA|UPSILON WITH DIALYTIKA|OMICRON WITH TONOS|UPSILON WITH TONOS|OMEGA WITH TONOS"⟩,
  ⟨0x03CF, "GREEK ", "CAPITAL KAI SYMBOL|BETA SYMBOL|THETA SYMBOL|UPSILON WITH HOOK SYMBOL|UPSILON WITH ACUTE AND HOOK SYMBOL|UPSILON WITH DIAERESIS AND HOOK SYMBOL|PHI SYMBOL|PI SYMBOL|KAI SYMBOL|LETTER ARCHAIC KOPPA|SMALL LETTER ARCHAIC KOPPA|LETTER STIGMA|SMALL LETTER STIGMA|LETTER DIGAMMA|SMALL LETTER DIGAMMA|LETTER KOPPA|SMALL LETTER KOPPA|LETTER SAMPI|SMALL LETTER SAMPI"⟩,
  ⟨0x03E2, "COPTIC ", "CAPITAL LETTER SHEI|SMALL LETTER SHEI|CAPITAL LETTER FEI|SMALL LETTER FEI|CAPITAL LETTER KHEI|SMALL LETTER KHEI|CAPITAL LETTER HORI|SMALL LETTER HORI|CAPITAL LETTER GANGIA|SMALL LETTER GANGIA|CAPITAL LETTER SHIMA|SMALL LETTER SHIMA|CAPITAL LETTER DEI|SMALL LETTER DEI"⟩,
  ⟨0x03F0, "GREEK ", "KAPPA SYMBOL|RHO SYMBOL|LUNATE SIGMA SYMBOL|LETTER YOT|CAPITAL THETA SYMBOL|LUNATE EPSILON SYMBOL|REVERSED LUNATE EPSILON SYMBOL|CAPITAL LETTER SHO|SMALL LETTER SHO|CAPITAL LUNATE SIGMA SYMBOL|CAPITAL LETTER SAN|SMALL LETTER SAN|RHO WITH STROKE SYMBOL|CAPITAL REVERSED LUNATE SIGMA SYMBOL|CAPITAL DOTTED LUNATE SIGMA SYMBOL|CAPITAL REVERSED DOTTED LUNATE SIGMA SYMBOL"⟩,
  ⟨0x0400, "CYRILLIC CAPITAL LETTER ", "IE WITH GRAVE|IO|DJE|GJE|UKRAINIAN IE|DZE|BYELORUSSIAN-UKRAINIAN I|YI|JE|LJE|NJE|TSHE|KJE|I WITH GRAVE|SHORT U|DZHE|A|BE|VE|GHE|DE|IE|ZHE|ZE|I|SHORT I|KA|EL|EM|EN|O|PE|ER|ES|TE|U|EF|HA|TSE|CHE|SHA|SHCHA|HARD SIGN|YERU|SOFT SIGN|E|YU|YA"⟩,
  ⟨0x0430, "CYRILLIC SMALL LETTER ", "A|BE|VE|GHE|DE|IE|ZHE|ZE|I|SHORT I|KA|EL|EM|EN|O|PE|ER|ES|TE|U|EF|HA|TSE|CHE|SHA|SHCHA|HARD SIGN|YERU|SOFT SIGN|E|YU|YA|IE WITH GRAVE|IO|DJE|GJE|UKRAINIAN IE|DZE|BYELORUSSIAN-UKRAINIAN I|YI|JE|LJE|NJE|TSHE|KJE|I WITH GRAVE|SHORT U|DZHE"⟩,
  ⟨0x0460, "CYRILLIC ", "CAPITAL LETTER OMEGA|SMALL LETTER OMEGA|CAPITAL LETTER YAT|SMALL LETTER YAT|CAPITAL LETTER IOTIFIED E|SMALL LETTER IOTIFIED E|CAPITAL LETTER LITTLE YUS|SMALL LETTER LITTLE YUS|CAPITAL LETTER IOTIFIED LITTLE YUS|SMALL LETTER IOTIFIED LITTLE YUS|CAPITAL LETTER BIG YUS|SMALL LETTER BIG YUS|CAPITAL LETTER IOTIFIED BIG YUS|SMALL LETTER IOTIFIED BIG YUS|CAPITAL LETTER KSI|SMALL LETTER KSI|CAPITAL LETTER PSI|SMALL LETTER PSI|CAPITAL LETTER FITA|SMALL LETTER FITA|CAPITAL LETTER IZHITSA|SMALL LETTER IZHITSA|CAPITAL LETTER IZHITSA WITH DOUBLE GRAVE ACCENT|SMALL LETTER IZHITSA WITH DOUBLE GRAVE ACCENT|CAPITAL LETTER UK|SMALL LETTER UK|CAPITAL LETTER ROUND OMEGA|SMALL LETTER ROUND OMEGA|CAPITAL LETTER OMEGA WITH TITLO|SMALL LETTER OMEGA WITH TITLO|CAPITAL LETTER OT|SMALL LETTER OT|CAPITAL LETTER KOPPA|SMALL LETTER KOPPA|THOUSANDS SIGN"⟩,
  ⟨0x0483, "COMBINING CYRILLIC ", "TITLO|PALATALIZATION|DASIA PNEUMATA|PSILI PNEUMATA|POKRYTIE|HUNDRED THOUSANDS SIGN|MILLIONS SIGN"⟩,
  ⟨0x048A, "CYRILLIC ", "CAPITAL LETTER SHORT I WITH TAIL|SMALL LETTER SHORT I WITH TAIL|CAPITAL LETTER SEMISOFT SIGN|SMALL LETTER SEMISOFT SIGN|CAPITAL LETTER ER WITH TICK|SMALL LETTER ER WITH TICK|CAPITAL LETTER GHE WITH UPTURN|SMALL LETTER GHE WITH UPTURN|CAPITAL LETTER GHE WITH STROKE|SMALL LETTER GHE WITH STROKE|CAPITAL LETTER GHE WITH MIDDLE HOOK|SMALL LETTER GHE WITH MIDDLE HOOK|CAPITAL LETTER ZHE WITH DESCENDER|SMALL LETTER ZHE WITH DESCENDER|CAPITAL LETTER ZE WITH DESCENDER|SMALL LETTER ZE WITH DESCENDER|CAPITAL LETTER KA WITH DESCENDER|SMALL LETTER KA WITH DESCENDER|CAPITAL LETTER KA WITH VERTICAL STROKE|SMALL LETTER KA WITH VERTICAL STROKE|CAPITAL LETTER KA WITH STROKE|SMALL LETTER KA WITH STROKE|CAPITAL LETTER BASHKIR KA|SMALL LETTER BASHKIR KA|CAPITAL LETTER EN WITH DESCENDER|SMALL LETTER EN WITH DESCENDER|CAPITAL LIGATURE EN GHE|SMALL LIGATURE EN GHE|CAPITAL LETTER PE WITH MIDDLE HOOK|SMALL LETTER PE WITH MIDDLE HOOK|CAPITAL LETTER ABKHASIAN HA|SMALL LETTER ABKHASIAN HA|CAPITAL LETTER ES WITH DESCENDER|SMALL LETTER ES WITH DESCENDER|CAPITAL LETTER TE WITH DESCENDER|SMALL LETTER TE WITH DESCENDER|CAPITAL LETTER STRAIGHT U|SMALL LETTER STRAIGHT U|CAPITAL LETTER STRAIGHT U WITH STROKE|SMALL LETTER STRAIGHT U WITH STROKE|CAPITAL LETTER HA WITH DESCENDER|SMALL LETTER HA WITH DESCENDER|CAPITAL LIGATURE TE TSE|SMALL LIGATURE TE TSE|CAPITAL LETTER CHE WITH DESCENDER|SMALL LETTER CHE WITH DESCENDER|CAPITAL LETTER CHE WITH VERTICAL STROKE|SMALL LETTER CHE WITH VERTICAL STROKE|CAPITAL LETTER SHHA"⟩,
  ⟨0x04BB, "CYRILLIC ", "SMALL LETTER SHHA|CAPITAL LETTER ABKHASIAN CHE|SMALL LETTER ABKHASIAN CHE|CAPITAL LETTER ABKHASIAN CHE WITH DESCENDER|SMALL LETTER ABKHASIAN CHE WITH DESCENDER|LETTER PALOCHKA|CAPITAL LETTER ZHE WITH BREVE|SMALL LETTER ZHE WITH BREVE|CAPITAL LETTER KA WITH HOOK|SMALL LETTER KA WITH HOOK|CAPITAL LETTER EL WITH TAIL|SMALL LETTER EL WITH TAIL|CAPITAL LETTER EN WITH HOOK|SMALL LETTER EN WITH HOOK|CAPITAL LETTER EN WITH TAIL|SMALL LETTER EN WITH TAIL|CAPITAL LETTER KHAKASSIAN CHE|SMALL LETTER KHAKASSIAN CHE|CAPITAL LETTER EM WITH TAIL|SMALL LETTER EM WITH TAIL|SMALL LETTER PALOCHKA|CAPITAL LETTER A WITH BREVE|SMALL LETTER A WITH BREVE|CAPITAL LETTER A WITH DIAERESIS|SMALL LETTER A WITH DIAERESIS|CAPITAL LIGATURE A IE|SMALL LIGATURE A IE|CAPITAL LETTER IE WITH BREVE|SMALL LETTER IE WITH BREVE|CAPITAL LETTER SCHWA|SMALL LETTER SCHWA|CAPITAL LETTER SCHWA WITH DIAERESIS|SMALL LETTER SCHWA WITH DIAERESIS|CAPITAL LETTER ZHE WITH DIAERESIS|SMALL LETTER ZHE WITH DIAERESIS|CAPITAL LETTER ZE WITH DIAERESIS|SMALL LETTER ZE WITH DIAERESIS|CAPITAL LETTER ABKHASIAN DZE|SMALL LETTER ABKHASIAN DZE|CAPITAL LETTER I WITH MACRON|SMALL LETTER I WITH MACRON|CAPITAL LETTER I WITH DIAERESIS|SMALL LETTER I WITH DIAERESIS|CAPITAL LETTER O WITH DIAERESIS|SMALL LETTER O WITH DIAERESIS|CAPITAL LETTER BARRED O|SMALL LETTER BARRED O|CAPITAL LETTER BARRED O WITH DIAERESIS|SMALL LETTER BARRED O WITH DIAERESIS|CAPITAL LETTER E WITH DIAERESIS|SMALL LETTER E WITH DIAERESIS|CAPITAL LETTER U WITH MACRON"⟩,
  ⟨0x04EF, "CYRILLIC ", "SMALL LETTER U WITH MACRON|CAPITAL LETTER U WITH DIAERESIS|SMALL LETTER U WITH DIAERESIS|CAPITAL LETTER U WITH DOUBLE ACUTE|SMALL LETTER U WITH DOUBLE ACUTE|CAPITAL LETTER CHE WITH DIAERESIS|SMALL LETTER CHE WITH DIAERESIS|CAPITAL LETTER GHE WITH DESCENDER|SMALL LETTER GHE WITH DESCENDER|CAPITAL LETTER YERU WITH DIAERESIS|SMALL LETTER YERU WITH DIAERESIS|CAPITAL LETTER GHE WITH STROKE AND HOOK|SMALL LETTER GHE WITH STROKE AND HOOK|CAPITAL LETTER HA WITH HOOK|SMALL LETTER HA WITH HOOK|CAPITAL LETTER HA WITH STROKE|SMALL LETTER HA WITH STROKE|CAPITAL LETTER KOMI DE|SMALL LETTER KOMI DE|CAPITAL LETTER KOMI DJE|SMALL LETTER KOMI DJE|CAPITAL LETTER KOMI ZJE|SMALL LETTER KOMI ZJE|CAPITAL LETTER KOMI DZJE|SMALL LETTER KOMI DZJE|CAPITAL LETTER KOMI LJE|SMALL LETTER KOMI LJE|CAPITAL LETTER KOMI NJE|SMALL LETTER KOMI NJE|CAPITAL LETTER KOMI SJE|SMALL LETTER KOMI SJE|CAPITAL LETTER KOMI TJE|SMALL LETTER KOMI TJE|CAPITAL LETTER REVERSED ZE|SMALL LETTER REVERSED ZE|CAPITAL LETTER EL WITH HOOK|SMALL LETTER EL WITH HOOK|CAPITAL LETTER LHA|SMALL LETTER LHA|CAPITAL LETTER RHA|SMALL LETTER RHA|CAPITAL LETTER YAE|SMALL LETTER YAE|CAPITAL LETTER QA|SMALL LETTER QA|CAPITAL LETTER WE|SMALL LETTER WE|CAPITAL LETTER ALEUT KA|SMALL LETTER ALEUT KA|CAPITAL LETTER EL WITH MIDDLE HOOK|SMALL LETTER EL WITH MIDDLE HOOK|CAPITAL LETTER EN WITH MIDDLE HOOK|SMALL LETTER EN WITH MIDDLE HOOK|CAPITAL LETTER PE WITH DESCENDER|SMALL LETTER PE WITH DESCENDER|CAPITAL LETTER SHHA WITH DESCENDER"⟩,
  ⟨0x0527, "CYRILLIC ", "SMALL LETTER SHHA WITH DESCENDER|CAPITAL LETTER EN WITH LEFT HOOK|SMALL LETTER EN WITH LEFT HOOK|CAPITAL LETTER DZZHE|SMALL LETTER DZZHE|CAPITAL LETTER DCHE|SMALL LETTER DCHE|CAPITAL LETTER EL WITH DESCENDER|SMALL LETTER EL WITH DESCENDER"⟩,
  ⟨0x0531, "ARMENIAN CAPITAL LETTER ", "AYB|BEN|GIM|DA|ECH|ZA|EH|ET|TO|ZHE|INI|LIWN|XEH|CA|KEN|HO|JA|GHAD|CHEH|MEN|YI|NOW|SHA|VO|CHA|PEH|JHEH|RA|SEH|VEW|TIWN|REH|CO|YIWN|PIWR|KEH|OH|FEH"⟩,
  ⟨0x0559, "ARMENIAN ", "MODIFIER LETTER LEFT HALF RING|APOSTROPHE|EMPHASIS MARK|EXCLAMATION MARK|COMMA|QUESTION MARK|ABBREVIATION MARK"⟩,
  ⟨0x0560, "ARMENIAN SMALL LETTER ", "TURNED AYB|AYB|BEN|GIM|DA|ECH|ZA|EH|ET|TO|ZHE|INI|LIWN|XEH|CA|KEN|HO|JA|GHAD|CHEH|MEN|YI|NOW|SHA|VO|CHA|PEH|JHEH|RA|SEH|VEW|TIWN|REH|CO|YIWN|PIWR|KEH|OH|FEH"⟩,
  ⟨0x0587, "ARMENIAN ", "SMALL LIGATURE ECH YIWN|SMALL LETTER YI WITH STROKE|FULL STOP|HYPHEN"⟩,
  ⟨0x058D, "", "RIGHT-FACING ARMENIAN ETERNITY SIGN|LEFT-FACING ARMENIAN ETERNITY SIGN|ARMENIAN DRAM SIGN"⟩,
  ⟨0x0591, "HEBREW ACCENT ", "ETNAHTA|SEGOL|SHALSHELET|ZAQEF QATAN|ZAQEF GADOL|TIPEHA|REVIA|ZARQA|PASHTA|YETIV|TEVIR|GERESH|GERESH MUQDAM|GERSHAYIM|QARNEY PARA|TELISHA GEDOLA|PAZER|ATNAH HAFUKH|MUNAH|MAHAPAKH|MERKHA|MERKHA KEFULA|DARGA|QADMA|TELISHA QETANA|YERAH BEN YOMO|OLE|ILUY|DEHI|ZINOR"⟩,
  ⟨0x05AF, "HEBREW MARK MASORA CIRCLE", ""⟩,
  ⟨0x05B0, "HEBREW POINT ", "SHEVA|HATAF SEGOL|HATAF PATAH|HATAF QAMATS|HIRIQ|TSERE|SEGOL|PATAH|QAMATS|HOLAM|HOLAM HASER FOR VAV|QUBUTS|DAGESH OR MAPIQ|METEG"⟩,
  ⟨0x05BE, "HEBREW ", "PUNCTUATION MAQAF|POINT RAFE|PUNCTUATION PASEQ|POINT SHIN DOT|POINT SIN DOT|PUNCTUATION SOF PASUQ|MARK UPPER DOT|MARK LOWER DOT|PUNCTUATION NUN HAFUKHA|POINT QAMATS QATAN"⟩,
  ⟨0x05D0, "HEBREW LETTER ", "ALEF|BET|GIMEL|DALET|HE|VAV|ZAYIN|HET|TET|YOD|FINAL KAF|KAF|LAMED|FINAL MEM|MEM|FINAL NUN|NUN|SAMEKH|AYIN|FINAL PE|PE|FINAL TSADI|TSADI|QOF|RESH|SHIN|TAV"⟩,
  ⟨0x05EF, "HEBREW ", "YOD TRIANGLE|LIGATURE YIDDISH DOUBLE VAV|LIGATURE YIDDISH VAV YOD|LIGATURE YIDDISH DOUBLE YOD|PUNCTUATION GERESH|PUNCTUATION GERSHAYIM"⟩,
  ⟨0x0600, "ARABIC", " NUMBER SIGN| SIGN SANAH| FOOTNOTE MARKER| SIGN SAFHA| SIGN SAMVAT| NUMBER MARK ABOVE|-INDIC CUBE ROOT|-INDIC FOURTH ROOT| RAY|-INDIC PER MILLE SIGN|-INDIC PER TEN THOUSAND SIGN"⟩,
  ⟨0x060B, "AFGHANI SIGN", ""⟩,
  ⟨0x060C, "ARABIC ", "COMMA|DATE SEPARATOR|POETIC VERSE SIGN|SIGN MISRA|SIGN SALLALLAHOU ALAYHE WASSALLAM|SIGN ALAYHE ASSALLAM|SIGN RAHMATULLAH ALAYHE|SIGN RADI ALLAHOU ANHU|SIGN TAKHALLUS|SMALL HIGH TAH|SMALL HIGH LIGATURE ALEF WITH LAM WITH YEH|SMALL HIGH ZAIN|SMALL FATHA|SMALL DAMMA|SMALL KASRA|SEMICOLON|LETTER MARK|END OF TEXT MARK|TRIPLE DOT PUNCTUATION MARK|QUESTION MARK"⟩,
  ⟨0x0620, "ARABIC LETTER ", "KASHMIRI YEH|HAMZA|ALEF WITH MADDA ABOVE|ALEF WITH HAMZA ABOVE|WAW WITH HAMZA ABOVE|ALEF WITH HAMZA BELOW|YEH WITH HAMZA ABOVE|ALEF|BEH|TEH MARBUTA|TEH|THEH|JEEM|HAH|KHAH|DAL|THAL|REH|ZAIN|SEEN|SHEEN|SAD|DAD|TAH|ZAH|AIN|GHAIN|KEHEH WITH TWO DOTS ABOVE|KEHEH WITH THREE DOTS BELOW|FARSI YEH WITH INVERTED V|FARSI YEH WITH TWO DOTS ABOVE|FARSI YEH WITH THREE DOTS ABOVE"⟩,
  ⟨0x0640, "ARABIC TATWEEL", ""⟩,
  ⟨0x0641, "ARABIC LETTER ", "FEH|QAF|KAF|LAM|MEEM|NOON|HEH|WAW|ALEF MAKSURA|YEH"⟩,
  ⟨0x064B, "ARABIC ", "FATHATAN|DAMMATAN|KASRATAN|FATHA|DAMMA|KASRA|SHADDA|SUKUN|MADDAH ABOVE|HAMZA ABOVE|HAMZA BELOW|SUBSCRIPT ALEF|INVERTED DAMMA|MARK NOON GHUNNA|ZWARAKAY|VOWEL SIGN SMALL V ABOVE|VOWEL SIGN INVERTED SMALL V ABOVE|VOWEL SIGN DOT BELOW|REVERSED DAMMA|FATHA WITH TWO DOTS|WAVY HAMZA BELOW"⟩,
  ⟨0x0660, "ARABIC-INDIC DIGIT ", "ZERO|ONE|TWO|THREE|FOUR|FIVE|SIX|SEVEN|EIGHT|NINE"⟩,
  ⟨0x066A, "ARABIC ", "PERCENT SIGN|DECIMAL SEPARATOR|THOUSANDS SEPARATOR|FIVE POINTED STAR"⟩,
  ⟨0x066E, "ARABIC LETTER ", "DOTLESS BEH|DOTLESS QAF|SUPERSCRIPT ALEF|ALEF WASLA|ALEF WITH WAVY HAMZA ABOVE|ALEF WITH WAVY HAMZA BELOW|HIGH HAMZA|HIGH HAMZA ALEF|HIGH HAMZA WAW|U WITH HAMZA ABOVE|HIGH HAMZA YEH|TTEH|TTEHEH|BEEH|TEH WITH RING|TEH WITH THREE DOTS ABOVE DOWNWARDS|PEH|TEHEH|BEHEH|HAH WITH HAMZA ABOVE|HAH WITH TWO DOTS VERTICAL ABOVE|NYEH|DYEH|HAH WITH THREE DOTS ABOVE|TCHEH|TCHEHEH|DDAL|DAL WITH RING|DAL WITH DOT BELOW|DAL WITH DOT BELOW AND SMALL TAH|DAHAL|DDAHAL|DUL|DAL WITH THREE DOTS ABOVE DOWNWARDS|DAL WITH FOUR DOTS ABOVE|RREH|REH WITH SMALL V|REH WITH RING|REH WITH DOT BELOW|REH WITH SMALL V BELOW|REH WITH DOT BELOW AND DOT ABOVE|REH WITH TWO DOTS ABOVE|JEH|REH WITH FOUR DOTS ABOVE|SEEN WITH DOT BELOW AND DOT ABOVE|SEEN WITH THREE DOTS BELOW|SEEN WITH THREE DOTS BELOW AND THREE DOTS ABOVE|SAD WITH TWO DOTS BELOW|SAD WITH THREE DOTS ABOVE|TAH WITH THREE DOTS ABOVE|AIN WITH THREE DOTS ABOVE|DOTLESS FEH|FEH WITH DOT MOVED BELOW|FEH WITH DOT BELOW|VEH|FEH WITH THREE DOTS BELOW|PEHEH|QAF WITH DOT ABOVE|QAF WITH THREE DOTS ABOVE|KEHEH|SWASH KAF|KAF WITH RING|KAF WITH DOT ABOVE|NG|KAF WITH THREE DOTS BELOW|GAF|GAF WITH RING|NGOEH|GAF WITH TWO DOTS BELOW|GUEH|GAF WITH THREE DOTS ABOVE|LAM WITH SMALL V|LAM WITH DOT ABOVE|LAM WITH THREE DOTS ABOVE|LAM WITH THREE DOTS BELOW|NOON WITH DOT BELOW|NOON GHUNNA|RNOON|NOON WITH RING|NOON WITH THREE DOTS ABOVE|HEH DOACHASHMEE|TCHEH WITH DOT ABOVE|HEH WITH YEH ABOVE|HEH GOAL|HEH GOAL WITH HAMZA ABOVE|TEH MARBUTA GOAL|WAW WITH RING|KIRGHIZ OE|OE|U|YU"⟩,
  ⟨0x06C9, "ARABIC LETTER ", "KIRGHIZ YU|WAW WITH TWO DOTS ABOVE|VE|FARSI YEH|YEH WITH TAIL|YEH WITH SMALL V|WAW WITH DOT ABOVE|E|YEH WITH THREE DOTS BELOW|YEH BARREE|YEH BARREE WITH HAMZA ABOVE"⟩,
  ⟨0x06D4, "ARABIC ", "FULL STOP|LETTER AE"⟩,
  ⟨0x06D6, "ARABIC SMALL HIGH ", "LIGATURE SAD WITH LAM WITH ALEF MAKSURA|LIGATURE QAF WITH LAM WITH ALEF MAKSURA|MEEM INITIAL FORM|LAM ALEF|JEEM|THREE DOTS|SEEN"⟩,
  ⟨0x06DD, "ARABIC ", "END OF AYAH|START OF RUB EL HIZB|SMALL HIGH ROUNDED ZERO|SMALL HIGH UPRIGHT RECTANGULAR ZERO|SMALL HIGH DOTLESS HEAD OF KHAH|SMALL HIGH MEEM ISOLATED FORM|SMALL LOW SEEN|SMALL HIGH MADDA|SMALL WAW|SMALL YEH|SMALL HIGH YEH|SMALL HIGH NOON|PLACE OF SAJDAH|EMPTY CENTRE LOW STOP|EMPTY CENTRE HIGH STOP|ROUNDED HIGH STOP WITH FILLED CENTRE|SMALL LOW MEEM|LETTER DAL WITH INVERTED V|LETTER REH WITH INVERTED V"⟩,
  ⟨0x06F0, "EXTENDED ARABIC-INDIC DIGIT ", "ZERO|ONE|TWO|THREE|FOUR|FIVE|SIX|SEVEN|EIGHT|NINE"⟩,
  ⟨0x06FA, "ARABIC ", "LETTER SHEEN WITH DOT BELOW|LETTER DAD WITH DOT BELOW|LETTER GHAIN WITH DOT BELOW|SIGN SINDHI AMPERSAND|SIGN SINDHI POSTPOSITION MEN|LETTER HEH WITH INVERTED V"⟩,
  ⟨0x0700, "SYRIAC ", "END OF PARAGRAPH|SUPRALINEAR FULL STOP|SUBLINEAR FULL STOP|SUPRALINEAR COLON|SUBLINEAR COLON|HORIZONTAL COLON|COLON SKEWED LEFT|COLON SKEWED RIGHT|SUPRALINEAR COLON SKEWED LEFT|SUBLINEAR COLON SKEWED RIGHT|CONTRACTION|HARKLEAN OBELUS|HARKLEAN METOBELUS|HARKLEAN ASTERISCUS"⟩,
  ⟨0x070F, "SYRIAC ABBREVIATION MARK", ""⟩,
  ⟨0x0710, "SYRIAC LETTER ", "ALAPH|SUPERSCRIPT ALAPH|BETH|GAMAL|GAMAL GARSHUNI|DALATH|DOTLESS DALATH RISH|HE|WAW|ZAIN|HETH|TETH|TETH GARSHUNI|YUDH|YUDH HE|KAPH|LAMADH|MIM|NUN|SEMKATH|FINAL SEMKATH|E|PE|REVERSED PE|SADHE|QAPH|RISH|SHIN|TAW|PERSIAN BHETH|PERSIAN GHAMAL|PERSIAN DHALATH"⟩,
  ⟨0x0730, "SYRIAC ", "PTHAHA ABOVE|PTHAHA BELOW|PTHAHA DOTTED|ZQAPHA ABOVE|ZQAPHA BELOW|ZQAPHA DOTTED|RBASA ABOVE|RBASA BELOW|DOTTED ZLAMA HORIZONTAL|DOTTED ZLAMA ANGULAR|HBASA ABOVE|HBASA BELOW|HBASA-ESASA DOTTED|ESASA ABOVE|ESASA BELOW|RWAHA|FEMININE DOT|QUSHSHAYA|RUKKAKHA|TWO VERTICAL DOTS ABOVE|TWO VERTICAL DOTS BELOW|THREE DOTS ABOVE|THREE DOTS BELOW|OBLIQUE LINE ABOVE|OBLIQUE LINE BELOW|MUSIC|BARREKH"⟩,
  ⟨0x074D, "SYRIAC LETTER SOGDIAN ", "ZHAIN|KHAPH|FE"⟩,
  ⟨0x0750, "ARABIC LETTER BEH WITH ", "THREE DOTS HORIZONTALLY BELOW|DOT BELOW AND THREE DOTS ABOVE|THREE DOTS POINTING UPWARDS BELOW|THREE DOTS POINTING UPWARDS BELOW AND TWO DOTS ABOVE|TWO DOTS BELOW AND DOT ABOVE|INVERTED SMALL V BELOW|SMALL V"⟩,
  ⟨0x0757, "ARABIC LETTER ", "HAH WITH TWO DOTS ABOVE|HAH WITH THREE DOTS POINTING UPWARDS BELOW|DAL WITH TWO DOTS VERTICALLY BELOW AND SMALL TAH|DAL WITH INVERTED SMALL V BELOW|REH WITH STROKE|SEEN WITH FOUR DOTS ABOVE|AIN WITH TWO DOTS ABOVE|AIN WITH THREE DOTS POINTING DOWNWARDS ABOVE|AIN WITH TWO DOTS VERTICALLY ABOVE|FEH WITH TWO DOTS BELOW|FEH WITH THREE DOTS POINTING UPWARDS BELOW|KEHEH WITH DOT ABOVE|KEHEH WITH THREE DOTS ABOVE|KEHEH WITH THREE DOTS POINTING UPWARDS BELOW|MEEM WITH DOT ABOVE|MEEM WITH DOT BELOW|NOON WITH TWO DOTS BELOW|NOON WITH SMALL TAH|NOON WITH SMALL V|LAM WITH BAR|REH WITH TWO DOTS VERTICALLY ABOVE|REH WITH HAMZA ABOVE|SEEN WITH TWO DOTS VERTICALLY ABOVE|HAH WITH SMALL ARABIC LETTER TAH BELOW|HAH WITH SMALL ARABIC LETTER TAH AND TWO DOTS|SEEN WITH SMALL ARABIC LETTER TAH AND TWO DOTS|REH WITH SMALL ARABIC LETTER TAH AND TWO DOTS|HAH WITH SMALL ARABIC LETTER TAH ABOVE"⟩,
  ⟨0x0773, "ARABIC LETTER ALEF WITH EXTENDED ARABIC-INDIC DIGIT T", "WO ABOVE|HREE ABOVE"⟩,
  ⟨0x0775, "ARABIC LETTER FARSI YEH WITH EXTENDED ARABIC-INDIC DIGIT ", "TWO ABOVE|THREE ABOVE|FOUR BELOW"⟩,
  ⟨0x0778, "ARABIC LETTER WAW WITH EXTENDED ARABIC-INDIC DIGIT T", "WO ABOVE|HREE ABOVE"⟩,
  ⟨0x077A, "ARABIC LETTER YEH BARREE WITH EXTENDED ARABIC-INDIC DIGIT T", "WO ABOVE|HREE ABOVE"⟩,
  ⟨0x077C, "ARABIC LETTER ", "HAH WITH EXTENDED ARABIC-INDIC DIGIT FOUR BELOW|SEEN WITH EXTENDED ARABIC-INDIC DIGIT FOUR ABOVE|SEEN WITH INVERTED V|KAF WITH TWO DOTS ABOVE"⟩,
  ⟨0x0780, "THAANA LETTER ", "HAA|SHAVIYANI|NOONU|RAA|BAA|LHAVIYANI|KAAFU|ALIFU|VAAVU|MEEMU|FAAFU|DHAALU|THAA|LAAMU|GAAFU|GNAVIYANI|SEENU|DAVIYANI|ZAVIYANI|TAVIYANI|YAA|PAVIYANI|JAVIYANI|CHAVIYANI|TTAA|HHAA|KHAA|THAALU|ZAA|SHEENU|SAADHU|DAADHU|TO|ZO|AINU|GHAINU|QAAFU|WAAVU"⟩,
  ⟨0x07A6, "THAANA ", "ABAFILI|AABAAFILI|IBIFILI|EEBEEFILI|UBUFILI|OOBOOFILI|EBEFILI|EYBEYFILI|OBOFILI|OABOAFILI|SUKUN|LETTER NAA"⟩,
  ⟨0x07C0, "NKO DIGIT ", "ZERO|ONE|TWO|THREE|FOUR|FIVE|SIX|SEVEN|EIGHT|NINE"⟩,
  ⟨0x07CA, "NKO LETTER ", "A|EE|I|E|U|OO|O|DAGBASINNA|N|BA|PA|TA|JA|CHA|DA|RA|RRA|SA|GBA|FA|KA|LA|NA WOLOSO|MA|NYA|NA|HA|WA|YA|NYA WOLOSO|JONA JA|JONA CHA|JONA RA"⟩,
  ⟨0x07EB, "NKO COMBINING ", "SHORT HIGH TONE|SHORT LOW TONE|SHORT RISING TONE|LONG DESCENDING TONE|LONG HIGH TONE|LONG LOW TONE|LONG RISING TONE|NASALIZATION MARK|DOUBLE DOT ABOVE"⟩,
  ⟨0x07F4, "NKO ", "HIGH TONE APOSTROPHE|LOW TONE APOSTROPHE|SYMBOL OO DENNEN|SYMBOL GBAKURUNEN|COMMA|EXCLAMATION MARK|LAJANYALAN"⟩,
  ⟨0x07FD, "NKO ", "DANTAYALAN|DOROME SIGN|TAMAN SIGN"⟩,
  ⟨0x0800, "SAMARITAN LETTER ", "ALAF|BIT|GAMAN|DALAT|IY|BAA|ZEN|IT|TIT|YUT|KAAF|LABAT|MIM|NUN|SINGAAT|IN|FI|TSAADIY|QUF|RISH|SHAN|TAAF"⟩,
  ⟨0x0816, "SAMARITAN M", "ARK IN|ARK IN-ALAF|ARK OCCLUSION|ARK DAGESH|ODIFIER LETTER EPENTHETIC YUT|ARK EPENTHETIC YUT"⟩,
  ⟨0x081C, "SAMARITAN VOWEL SIGN ", "LONG E|E|OVERLONG AA|LONG AA|AA|OVERLONG A|LONG A|A"⟩,
  ⟨0x0824, "SAMARITAN ", "MODIFIER LETTER SHORT A|VOWEL SIGN SHORT A|VOWEL SIGN LONG U|VOWEL SIGN U|MODIFIER LETTER I|VOWEL SIGN LONG I|VOWEL SIGN I|VOWEL SIGN O|VOWEL SIGN SUKUN|MARK NEQUDAA"⟩,
  ⟨0x0830, "SAMARITAN PUNCTUATION ", "NEQUDAA|AFSAAQ|ANGED|BAU|ATMAAU|SHIYYAALAA"⟩,
  ⟨0x0836, "SAMARITAN ABBREVIATION MARK", ""⟩,
  ⟨0x0837, "SAMARITAN PUNCTUATION ", "MELODIC QITSA|ZIQAA|QITSA|ZAEF|TURU|ARKAANU|SOF MASHFAAT|ANNAAU"⟩,
  ⟨0x0840, "MANDAIC LETTER ", "HALQA|AB|AG|AD|AH|USHENNA|AZ|IT|ATT|AKSA|AK|AL|AM|AN|AS|IN|AP|ASZ|AQ|AR|ASH|AT|DUSHENNA|KAD|AIN"⟩,
  ⟨0x0859, "MANDAIC ", "AFFRICATION MARK|VOCALIZATION MARK|GEMINATION MARK"⟩,
  ⟨0x085E, "MANDAIC PUNCTUATION", ""⟩,
  ⟨0x0860, "SYRIAC LETTER MALAYALAM ", "NGA|JA|NYA|TTA|NNA|NNNA|BHA|RA|LLA|LLLA|SSA"⟩,
  ⟨0x0870, "ARABIC LETTER ALEF WITH ", "ATTACHED FATHA|ATTACHED TOP RIGHT FATHA|RIGHT MIDDLE STROKE|LEFT MIDDLE STROKE|ATTACHED KASRA|ATTACHED BOTTOM RIGHT KASRA|ATTACHED ROUND DOT ABOVE|ATTACHED RIGHT ROUND DOT|ATTACHED LEFT ROUND DOT|ATTACHED ROUND DOT BELOW|DOT ABOVE|ATTACHED TOP RIGHT FATHA AND DOT ABOVE|RIGHT MIDDLE STROKE AND DOT ABOVE|ATTACHED BOTTOM RIGHT KASRA AND DOT ABOVE|ATTACHED TOP RIGHT FATHA AND LEFT RING|RIGHT MIDDLE STROKE AND LEFT RING|ATTACHED BOTTOM RIGHT KASRA AND LEFT RING|ATTACHED RIGHT HAMZA|ATTACHED LEFT HAMZA"⟩,
  ⟨0x0883, "ARABIC ", "TATWEEL WITH OVERSTRUCK HAMZA|TATWEEL WITH OVERSTRUCK WAW|TATWEEL WITH TWO DOTS BELOW|LETTER THIN YEH|BASELINE ROUND DOT|RAISED ROUND DOT|LETTER NOON WITH INVERTED SMALL V|LETTER HAH WITH INVERTED SMALL V BELOW|LETTER TAH WITH DOT BELOW|LETTER TAH WITH THREE DOTS BELOW|LETTER KEHEH WITH TWO DOTS VERTICALLY BELOW|VERTICAL TAIL"⟩,
  ⟨0x0890, "ARABIC P", "OUND MARK ABOVE|IASTRE MARK ABOVE"⟩,
  ⟨0x0898, "ARABIC ", "SMALL HIGH WORD AL-JUZ|SMALL LOW WORD ISHMAAM|SMALL LOW WORD IMAALA|SMALL LOW WORD TASHEEL|MADDA WAAJIB|SUPERSCRIPT ALEF MOKHASSAS|DOUBLED MADDA|HALF MADDA OVER MADDA"⟩,
  ⟨0x08A0, "ARABIC LETTER ", "BEH WITH SMALL V BELOW|BEH WITH HAMZA ABOVE|JEEM WITH TWO DOTS ABOVE|TAH WITH TWO DOTS ABOVE|FEH WITH DOT BELOW AND THREE DOTS ABOVE|QAF WITH DOT BELOW|LAM WITH DOUBLE BAR|MEEM WITH THREE DOTS ABOVE|YEH WITH TWO DOTS BELOW AND HAMZA ABOVE|YEH WITH TWO DOTS BELOW AND DOT ABOVE|REH WITH LOOP|WAW WITH DOT WITHIN|ROHINGYA YEH|LOW ALEF|DAL WITH THREE DOTS BELOW|SAD WITH THREE DOTS BELOW|GAF WITH INVERTED STROKE|STRAIGHT WAW|ZAIN WITH INVERTED V ABOVE|AIN WITH THREE DOTS BELOW|KAF WITH DOT BELOW|QAF WITH DOT BELOW AND NO DOTS ABOVE|BEH WITH SMALL MEEM ABOVE|PEH WITH SMALL MEEM ABOVE|TEH WITH SMALL TEH ABOVE|REH WITH SMALL NOON ABOVE|YEH WITH TWO DOTS BELOW AND SMALL NOON ABOVE|AFRICAN FEH|AFRICAN QAF|AFRICAN NOON|PEH WITH SMALL V|TEH WITH SMALL V|TTEH WITH SMALL V|TCHEH WITH SMALL V|KEHEH WITH SMALL V|GHAIN WITH THREE DOTS ABOVE|AFRICAN QAF WITH THREE DOTS ABOVE|JEEM WITH THREE DOTS ABOVE|JEEM WITH THREE DOTS BELOW|LAM WITH SMALL ARABIC LETTER TAH ABOVE|GRAF"⟩,
  ⟨0x08C9, "ARABIC ", "SMALL FARSI YEH|SMALL HIGH FARSI YEH|SMALL HIGH YEH BARREE WITH TWO DOTS BELOW|SMALL HIGH WORD SAH|SMALL HIGH ZAH|LARGE ROUND DOT ABOVE|LARGE ROUND DOT BELOW|SUKUN BELOW|LARGE CIRCLE BELOW|LARGE ROUND DOT INSIDE CIRCLE BELOW"⟩,
  ⟨0x08D3, "ARABIC SMALL ", "LOW WAW|HIGH WORD AR-RUB|HIGH SAD|HIGH AIN|HIGH QAF|HIGH NOON WITH KASRA|LOW NOON WITH KASRA"⟩,
  ⟨0x08DA, "ARABIC SMALL HIGH WORD ", "ATH-THALATHA|AS-SAJDA|AN-NISF|SAKTA|QIF|WAQFA"⟩,
  ⟨0x08E0, "ARABIC ", "SMALL HIGH FOOTNOTE MARKER|SMALL HIGH SIGN SAFHA|DISPUTED END OF AYAH|TURNED DAMMA BELOW|CURLY FATHA|CURLY DAMMA|CURLY KASRA|CURLY FATHATAN|CURLY DAMMATAN|CURLY KASRATAN|TONE ONE DOT ABOVE|TONE TWO DOTS ABOVE|TONE LOOP ABOVE|TONE ONE DOT BELOW|TONE TWO DOTS BELOW|TONE LOOP BELOW|OPEN FATHATAN|OPEN DAMMATAN|OPEN KASRATAN|SMALL HIGH WAW|FATHA WITH RING|FATHA WITH DOT ABOVE|KASRA WITH DOT BELOW|LEFT ARROWHEAD ABOVE|RIGHT ARROWHEAD ABOVE|LEFT ARROWHEAD BELOW|RIGHT ARROWHEAD BELOW|DOUBLE RIGHT ARROWHEAD ABOVE|DOUBLE RIGHT ARROWHEAD ABOVE WITH DOT|RIGHT ARROWHEAD ABOVE WITH DOT|DAMMA WITH DOT|MARK SIDEWAYS NOON GHUNNA"⟩,
  ⟨0x0900, "DEVANAGARI SIGN ", "INVERTED CANDRABINDU|CANDRABINDU|ANUSVARA|VISARGA"⟩,
  ⟨0x0904, "DEVANAGARI LETTER ", "SHORT A|A|AA|I|II|U|UU|VOCALIC R|VOCALIC L|CANDRA E|SHORT E|E|AI|CANDRA O|SHORT O|O|AU|KA|KHA|GA|GHA|NGA|CA|CHA|JA|JHA|NYA|TTA|TTHA|DDA|DDHA|NNA|TA|THA|DA|DHA|NA|NNNA|PA|PHA|BA|BHA|MA|YA|RA|RRA|LA|LLA|LLLA|VA|SHA|SSA|SA|HA"⟩,
  ⟨0x093A, "DEVANAGARI ", "VOWEL SIGN OE|VOWEL SIGN OOE|SIGN NUKTA|SIGN AVAGRAHA"⟩,
  ⟨0x093E, "DEVANAGARI VOWEL SIGN ", "AA|I|II|U|UU|VOCALIC R|VOCALIC RR|CANDRA E|SHORT E|E|AI|CANDRA O|SHORT O|O|AU"⟩,
  ⟨0x094D, "DEVANAGARI ", "SIGN VIRAMA|VOWEL SIGN PRISHTHAMATRA E|VOWEL SIGN AW|OM|STRESS SIGN UDATTA|STRESS SIGN ANUDATTA|GRAVE ACCENT|ACUTE ACCENT|VOWEL SIGN CANDRA LONG E|VOWEL SIGN UE|VOWEL SIGN UUE|LETTER QA|LETTER KHHA|LETTER GHHA|LETTER ZA|LETTER DDDHA|LETTER RHA|LETTER FA|LETTER YYA|LETTER VOCALIC RR|LETTER VOCALIC LL|VOWEL SIGN VOCALIC L|VOWEL SIGN VOCALIC LL|DANDA|DOUBLE DANDA|DIGIT ZERO|DIGIT ONE|DIGIT TWO|DIGIT THREE|DIGIT FOUR|DIGIT FIVE|DIGIT SIX|DIGIT SEVEN|DIGIT EIGHT|DIGIT NINE|ABBREVIATION SIGN|SIGN HIGH SPACING DOT"⟩,
  ⟨0x0972, "DEVANAGARI LETTER ", "CANDRA A|OE|OOE|AW|UE|UUE|MARWARI DDA|ZHA|HEAVY YA|GGA|JJA|GLOTTAL STOP|DDDA|BBA"⟩,
  ⟨0x0980, "BENGALI ", "ANJI|SIGN CANDRABINDU|SIGN ANUSVARA|SIGN VISARGA"⟩,
  ⟨0x0985, "BENGALI LETTER ", "A|AA|I|II|U|UU|VOCALIC R|VOCALIC L"⟩,
  ⟨0x098F, "BENGALI LETTER ", "E|AI"⟩,
  ⟨0x0993, "BENGALI LETTER ", "O|AU|KA|KHA|GA|GHA|NGA|CA|CHA|JA|JHA|NYA|TTA|TTHA|DDA|DDHA|NNA|TA|THA|DA|DHA|NA"⟩,
  ⟨0x09AA, "BENGALI LETTER ", "PA|PHA|BA|BHA|MA|YA|RA"⟩,
  ⟨0x09B2, "BENGALI LETTER LA", ""⟩,
  ⟨0x09B6, "BENGALI LETTER ", "SHA|SSA|SA|HA"⟩,
  ⟨0x09BC, "BENGALI SIGN ", "NUKTA|AVAGRAHA"⟩,
  ⟨0x09BE, "BENGALI VOWEL SIGN ", "AA|I|II|U|UU|VOCALIC R|VOCALIC RR"⟩,
  ⟨0x09C7, "BENGALI VOWEL SIGN ", "E|AI"⟩,
  ⟨0x09CB, "BENGALI ", "VOWEL SIGN O|VOWEL SIGN AU|SIGN VIRAMA|LETTER KHANDA TA"⟩,
  ⟨0x09D7, "BENGALI AU LENGTH MARK", ""⟩,
  ⟨0x09DC, "BENGALI LETTER R", "RA|HA"⟩,
  ⟨0x09DF, "BENGALI LETTER ", "YYA|VOCALIC RR|VOCALIC LL"⟩,
  ⟨0x09E2, "BENGALI VOWEL SIGN VOCALIC L", "|L"⟩,
  ⟨0x09E6, "BENGALI DIGIT ", "ZERO|ONE|TWO|THREE|FOUR|FIVE|SIX|SEVEN|EIGHT|NINE"⟩,
  ⟨0x09F0, "BENGALI ", "LETTER RA WITH MIDDLE DIAGONAL|LETTER RA WITH LOWER DIAGONAL|RUPEE MARK|RUPEE SIGN"⟩,
  ⟨0x09F4, "BENGALI CURRENCY NUMERATOR ", "ONE|TWO|THREE|FOUR|ONE LESS THAN THE DENOMINATOR"⟩,
  ⟨0x09F9, "BENGALI ", "CURRENCY DENOMINATOR SIXTEEN|ISSHAR|GANDA MARK|LETTER VEDIC ANUSVARA|ABBREVIATION SIGN|SANDHI MARK"⟩,
  ⟨0x0A01, "GURMUKHI SIGN ", "ADAK BINDI|BINDI|VISARGA"⟩,
  ⟨0x0A05, "GURMUKHI LETTER ", "A|AA|I|II|U|UU"⟩,
  ⟨0x0A0F, "GURMUKHI LETTER ", "EE|AI"⟩,
  ⟨0x0A13, "GURMUKHI LETTER ", "OO|AU|KA|KHA|GA|GHA|NGA|CA|CHA|JA|JHA|NYA|TTA|TTHA|DDA|DDHA|NNA|TA|THA|DA|DHA|NA"⟩,
  ⟨0x0A2A, "GURMUKHI LETTER ", "PA|PHA|BA|BHA|MA|YA|RA"⟩,
  ⟨0x0A32, "GURMUKHI LETTER L", "A|LA"⟩,
  ⟨0x0A35, "GURMUKHI LETTER ", "VA|SHA"⟩,
  ⟨0x0A38, "GURMUKHI LETTER ", "SA|HA"⟩,
  ⟨0x0A3C, "GURMUKHI SIGN NUKTA", ""⟩,
  ⟨0x0A3E, "GURMUKHI VOWEL SIGN ", "AA|I|II|U|UU"⟩,
  ⟨0x0A47, "GURMUKHI VOWEL SIGN ", "EE|AI"⟩,
  ⟨0x0A4B, "GURMUKHI ", "VOWEL SIGN OO|VOWEL SIGN AU|SIGN VIRAMA"⟩,
  ⟨0x0A51, "GURMUKHI SIGN UDAAT", ""⟩,
  ⟨0x0A59, "GURMUKHI LETTER ", "KHHA|GHHA|ZA|RRA"⟩,
  ⟨0x0A5E, "GURMUKHI LETTER FA", ""⟩,
  ⟨0x0A66, "GURMUKHI DIGIT ", "ZERO|ONE|TWO|THREE|FOUR|FIVE|SIX|SEVEN|EIGHT|NINE"⟩,
  ⟨0x0A70, "GURMUKHI ", "TIPPI|ADDAK|IRI|URA|EK ONKAR|SIGN YAKASH|ABBREVIATION SIGN"⟩,
  ⟨0x0A81, "GUJARATI SIGN ", "CANDRABINDU|ANUSVARA|VISARGA"⟩,
  ⟨0x0A85, "GUJARATI LETTER ", "A|AA|I|II|U|UU|VOCALIC R|VOCALIC L"⟩,
  ⟨0x0A8D, "GUJARATI VOWEL CANDRA E", ""⟩,
  ⟨0x0A8F, "GUJARATI ", "LETTER E|LETTER AI|VOWEL CANDRA O"⟩,
  ⟨0x0A93, "GUJARATI LETTER ", "O|AU|KA|KHA|GA|GHA|NGA|CA|CHA|JA|JHA|NYA|TTA|TTHA|DDA|DDHA|NNA|TA|THA|DA|DHA|NA"⟩,
  ⟨0x0AAA, "GUJARATI LETTER ", "PA|PHA|BA|BHA|MA|YA|RA"⟩,
  ⟨0x0AB2, "GUJARATI LETTER L", "A|LA"⟩,
  ⟨0x0AB5, "GUJARATI LETTER ", "VA|SHA|SSA|SA|HA"⟩,
  ⟨0x0ABC, "GUJARATI SIGN ", "NUKTA|AVAGRAHA"⟩,
  ⟨0x0ABE, "GUJARATI VOWEL SIGN ", "AA|I|II|U|UU|VOCALIC R|VOCALIC RR|CANDRA E"⟩,
  ⟨0x0AC7, "GUJARATI VOWEL SIGN ", "E|AI|CANDRA O"⟩,
  ⟨0x0ACB, "GUJARATI ", "VOWEL SIGN O|VOWEL SIGN AU|SIGN VIRAMA"⟩,
  ⟨0x0AD0, "GUJARATI OM", ""⟩,
  ⟨0x0AE0, "GUJARATI LETTER VOCALIC ", "RR|LL"⟩,
  ⟨0x0AE2, "GUJARATI VOWEL SIGN VOCALIC L", "|L"⟩,
  ⟨0x0AE6, "GUJARATI DIGIT ", "ZERO|ONE|TWO|THREE|FOUR|FIVE|SIX|SEVEN|EIGHT|NINE"⟩,
  ⟨0x0AF0, "GUJARATI ", "ABBREVIATION SIGN|RUPEE SIGN"⟩,
  ⟨0x0AF9, "GUJARATI ", "LETTER ZHA|SIGN SUKUN|SIGN SHADDA|SIGN MADDAH|SIGN THREE-DOT NUKTA ABOVE|SIGN CIRCLE NUKTA ABOVE|SIGN TWO-CIRCLE NUKTA ABOVE"⟩,
  ⟨0x0B01, "ORIYA SIGN ", "CANDRABINDU|ANUSVARA|VISARGA"⟩,
  ⟨0x0B05, "ORIYA LETTER ", "A|AA|I|II|U|UU|VOCALIC R|VOCALIC L"⟩,
  ⟨0x0B0F, "ORIYA LETTER ", "E|AI"⟩,
  ⟨0x0B13, "ORIYA LETTER ", "O|AU|KA|KHA|GA|GHA|NGA|CA|CHA|JA|JHA|NYA|TTA|TTHA|DDA|DDHA|NNA|TA|THA|DA|DHA|NA"⟩,
  ⟨0x0B2A, "ORIYA LETTER ", "PA|PHA|BA|BHA|MA|YA|RA"⟩,
  ⟨0x0B32, "ORIYA LETTER L", "A|LA"⟩,
  ⟨0x0B35, "ORIYA LETTER ", "VA|SHA|SSA|SA|HA"⟩,
  ⟨0x0B3C, "ORIYA SIGN ", "NUKTA|AVAGRAHA"⟩,
  ⟨0x0B3E, "ORIYA VOWEL SIGN ", "AA|I|II|U|UU|VOCALIC R|VOCALIC RR"⟩,
  ⟨0x0B47, "ORIYA VOWEL SIGN ", "E|AI"⟩,
  ⟨0x0B4B, "ORIYA ", "VOWEL SIGN O|VOWEL SIGN AU|SIGN VIRAMA"⟩,
  ⟨0x0B55, "ORIYA ", "SIGN OVERLINE|AI LENGTH MARK|AU LENGTH MARK"⟩,
  ⟨0x0B5C, "ORIYA LETTER R", "RA|HA"⟩,
  ⟨0x0B5F, "ORIYA LETTER ", "YYA|VOCALIC RR|VOCALIC LL"⟩,
  ⟨0x0B62, "ORIYA VOWEL SIGN VOCALIC L", "|L"⟩,
  ⟨0x0B66, "ORIYA DIGIT ", "ZERO|ONE|TWO|THREE|FOUR|FIVE|SIX|SEVEN|EIGHT|NINE"⟩,
  ⟨0x0B70, "ORIYA ", "ISSHAR|LETTER WA"⟩,
  ⟨0x0B72, "ORIYA FRACTION ", "ONE QUARTER|ONE HALF|THREE QUARTERS|ONE SIXTEENTH|ONE EIGHTH|THREE SIXTEENTHS"⟩,
  ⟨0x0B82, "TAMIL SIGN ", "ANUSVARA|VISARGA"⟩,
  ⟨0x0B85, "TAMIL LETTER ", "A|AA|I|II|U|UU"⟩,
  ⟨0x0B8E, "TAMIL LETTER ", "E|EE|AI"⟩,
  ⟨0x0B92, "TAMIL LETTER ", "O|OO|AU|KA"⟩,
  ⟨0x0B99, "TAMIL LETTER ", "NGA|CA"⟩,
  ⟨0x0B9C, "TAMIL LETTER JA", ""⟩,
  ⟨0x0B9E, "TAMIL LETTER ", "NYA|TTA"⟩,
  ⟨0x0BA3, "TAMIL LETTER ", "NNA|TA"⟩,
  ⟨0x0BA8, "TAMIL LETTER ", "NA|NNNA|PA"⟩,
  ⟨0x0BAE, "TAMIL LETTER ", "MA|YA|RA|RRA|LA|LLA|LLLA|VA|SHA|SSA|SA|HA"⟩,
  ⟨0x0BBE, "TAMIL VOWEL SIGN ", "AA|I|II|U|UU"⟩,
  ⟨0x0BC6, "TAMIL VOWEL SIGN ", "E|EE|AI"⟩,
  ⟨0x0BCA, "TAMIL ", "VOWEL SIGN O|VOWEL SIGN OO|VOWEL SIGN AU|SIGN VIRAMA"⟩,
  ⟨0x0BD0, "TAMIL OM", ""⟩,
  ⟨0x0BD7, "TAMIL AU LENGTH MARK", ""⟩,
  ⟨0x0BE6, "TAMIL DIGIT ", "ZERO|ONE|TWO|THREE|FOUR|FIVE|SIX|SEVEN|EIGHT|NINE"⟩,
  ⟨0x0BF0, "TAMIL ", "NUMBER TEN|NUMBER ONE HUNDRED|NUMBER ONE THOUSAND|DAY SIGN|MONTH SIGN|YEAR SIGN|DEBIT SIGN|CREDIT SIGN|AS ABOVE SIGN|RUPEE SIGN|NUMBER SIGN"⟩,
  ⟨0x0C00, "TELUGU SIGN ", "COMBINING CANDRABINDU ABOVE|CANDRABINDU|ANUSVARA|VISARGA|COMBINING ANUSVARA ABOVE"⟩,
  ⟨0x0C05, "TELUGU LETTER ", "A|AA|I|II|U|UU|VOCALIC R|VOCALIC L"⟩,
  ⟨0x0C0E, "TELUGU LETTER ", "E|EE|AI"⟩,
  ⟨0x0C12, "TELUGU LETTER ", "O|OO|AU|KA|KHA|GA|GHA|NGA|CA|CHA|JA|JHA|NYA|TTA|TTHA|DDA|DDHA|NNA|TA|THA|DA|DHA|NA"⟩,
  ⟨0x0C2A, "TELUGU LETTER ", "PA|PHA|BA|BHA|MA|YA|RA|RRA|LA|LLA|LLLA|VA|SHA|SSA|SA|HA"⟩,
  ⟨0x0C3C, "TELUGU SIGN ", "NUKTA|AVAGRAHA"⟩,
  ⟨0x0C3E, "TELUGU VOWEL SIGN ", "AA|I|II|U|UU|VOCALIC R|VOCALIC RR"⟩,
  ⟨0x0C46, "TELUGU VOWEL SIGN ", "E|EE|AI"⟩,
  ⟨0x0C4A, "TELUGU ", "VOWEL SIGN O|VOWEL SIGN OO|VOWEL SIGN AU|SIGN VIRAMA"⟩,
  ⟨0x0C55, "TELUGU ", "LENGTH MARK|AI LENGTH MARK"⟩,
  ⟨0x0C58, "TELUGU LETTER ", "TSA|DZA|RRRA"⟩,
  ⟨0x0C5D, "TELUGU LETTER NAKAARA POLLU", ""⟩,
  ⟨0x0C60, "TELUGU LETTER VOCALIC ", "RR|LL"⟩,
  ⟨0x0C62, "TELUGU VOWEL SIGN VOCALIC L", "|L"⟩,
  ⟨0x0C66, "TELUGU DIGIT ", "ZERO|ONE|TWO|THREE|FOUR|FIVE|SIX|SEVEN|EIGHT|NINE"⟩,
  ⟨0x0C77, "TELUGU SIGN SIDDHAM", ""⟩,
  ⟨0x0C78, "TELUGU FRACTION DIGIT ", "ZERO FOR ODD POWERS OF FOUR|ONE FOR ODD POWERS OF FOUR|TWO FOR ODD POWERS OF FOUR|THREE FOR ODD POWERS OF FOUR|ONE FOR EVEN POWERS OF FOUR|TWO FOR EVEN POWERS OF FOUR|THREE FOR EVEN POWERS OF FOUR"⟩,
  ⟨0x0C7F, "TELUGU SIGN TUUMU", ""⟩,
  ⟨0x0C80, "KANNADA SIGN ", "SPACING CANDRABINDU|CANDRABINDU|ANUSVARA|VISARGA|SIDDHAM"⟩,
  ⟨0x0C85, "KANNADA LETTER ", "A|AA|I|II|U|UU|VOCALIC R|VOCALIC L"⟩,
  ⟨0x0C8E, "KANNADA LETTER ", "E|EE|AI"⟩,
  ⟨0x0C92, "KANNADA LETTER ", "O|OO|AU|KA|KHA|GA|GHA|NGA|CA|CHA|JA|JHA|NYA|TTA|TTHA|DDA|DDHA|NNA|TA|THA|DA|DHA|NA"⟩,
  ⟨0x0CAA, "KANNADA LETTER ", "PA|PHA|BA|BHA|MA|YA|RA|RRA|LA|LLA"⟩,
  ⟨0x0CB5, "KANNADA LETTER ", "VA|SHA|SSA|SA|HA"⟩,
  ⟨0x0CBC, "KANNADA SIGN ", "NUKTA|AVAGRAHA"⟩,
  ⟨0x0CBE, "KANNADA VOWEL SIGN ", "AA|I|II|U|UU|VOCALIC R|VOCALIC RR"⟩,
  ⟨0x0CC6, "KANNADA VOWEL SIGN ", "E|EE|AI"⟩,
  ⟨0x0CCA, "KANNADA ", "VOWEL SIGN O|VOWEL SIGN OO|VOWEL SIGN AU|SIGN VIRAMA"⟩,
  ⟨0x0CD5, "KANNADA ", "LENGTH MARK|AI LENGTH MARK"⟩,
  ⟨0x0CDD, "KANNADA LETTER ", "NAKAARA POLLU|FA"⟩,
  ⟨0x0CE0, "KANNADA LETTER VOCALIC ", "RR|LL"⟩,
  ⟨0x0CE2, "KANNADA VOWEL SIGN VOCALIC L", "|L"⟩,
  ⟨0x0CE6, "KANNADA DIGIT ", "ZERO|ONE|TWO|THREE|FOUR|FIVE|SIX|SEVEN|EIGHT|NINE"⟩,
  ⟨0x0CF1, "KANNADA SIGN ", "JIHVAMULIYA|UPADHMANIYA"⟩,
  ⟨0x0D00, "MALAYALAM SIGN ", "COMBINING ANUSVARA ABOVE|CANDRABINDU|ANUSVARA|VISARGA"⟩,
  ⟨0x0D04, "MALAYALAM LETTER ", "VEDIC ANUSVARA|A|AA|I|II|U|UU|VOCALIC R|VOCALIC L"⟩,
  ⟨0x0D0E, "MALAYALAM LETTER ", "E|EE|AI"⟩,
  ⟨0x0D12, "MALAYALAM LETTER ", "O|OO|AU|KA|KHA|GA|GHA|NGA|CA|CHA|JA|JHA|NYA|TTA|TTHA|DDA|DDHA|NNA|TA|THA|DA|DHA|NA|NNNA|PA|PHA|BA|BHA|MA|YA|RA|RRA|LA|LLA|LLLA|VA|SHA|SSA|SA|HA|TTTA"⟩,
  ⟨0x0D3B, "MALAYALAM SIGN ", "VERTICAL BAR VIRAMA|CIRCULAR VIRAMA|AVAGRAHA"⟩,
  ⟨0x0D3E, "MALAYALAM VOWEL SIGN ", "AA|I|II|U|UU|VOCALIC R|VOCALIC RR"⟩,
  ⟨0x0D46, "MALAYALAM VOWEL SIGN ", "E|EE|AI"⟩,
  ⟨0x0D4A, "MALAYALAM ", "VOWEL SIGN O|VOWEL SIGN OO|VOWEL SIGN AU|SIGN VIRAMA|LETTER DOT REPH|SIGN PARA"⟩,
  ⟨0x0D54, "MALAYALAM ", "LETTER CHILLU M|LETTER CHILLU Y|LETTER CHILLU LLL|AU LENGTH MARK|FRACTION ONE ONE-HUNDRED-AND-SIXTIETH|FRACTION ONE FORTIETH|FRACTION THREE EIGHTIETHS|FRACTION ONE TWENTIETH|FRACTION ONE TENTH|FRACTION THREE TWENTIETHS|FRACTION ONE FIFTH|LETTER ARCHAIC II|LETTER VOCALIC RR|LETTER VOCALIC LL|VOWEL SIGN VOCALIC L|VOWEL SIGN VOCALIC LL"⟩,
  ⟨0x0D66, "MALAYALAM DIGIT ", "ZERO|ONE|TWO|THREE|FOUR|FIVE|SIX|SEVEN|EIGHT|NINE"⟩,
  ⟨0x0D70, "MALAYALAM ", "NUMBER TEN|NUMBER ONE HUNDRED|NUMBER ONE THOUSAND|FRACTION ONE QUARTER|FRACTION ONE HALF|FRACTION THREE QUARTERS|FRACTION ONE SIXTEENTH|FRACTION ONE EIGHTH|FRACTION THREE SIXTEENTHS|DATE MARK"⟩,
  ⟨0x0D7A, "MALAYALAM LETTER CHILLU ", "NN|N|RR|L|LL|K"⟩,
  ⟨0x0D81, "SINHALA SIGN ", "CANDRABINDU|ANUSVARAYA|VISARGAYA"⟩,
  ⟨0x0D85, "SINHALA LETTER ", "AYANNA|AAYANNA|AEYANNA|AEEYANNA|IYANNA|IIYANNA|UYANNA|UUYANNA|IRUYANNA|IRUUYANNA|ILUYANNA|ILUUYANNA|EYANNA|EEYANNA|AIYANNA|OYANNA|OOYANNA|AUYANNA"⟩,
  ⟨0x0D9A, "SINHALA LETTER ", "ALPAPRAANA KAYANNA|MAHAAPRAANA KAYANNA|ALPAPRAANA GAYANNA|MAHAAPRAANA GAYANNA|KANTAJA NAASIKYAYA|SANYAKA GAYANNA|ALPAPRAANA CAYANNA|MAHAAPRAANA CAYANNA|ALPAPRAANA JAYANNA|MAHAAPRAANA JAYANNA|TAALUJA NAASIKYAYA|TAALUJA SANYOOGA NAAKSIKYAYA|SANYAKA JAYANNA|ALPAPRAANA TTAYANNA|MAHAAPRAANA TTAYANNA|ALPAPRAANA DDAYANNA|MAHAAPRAANA DDAYANNA|MUURDHAJA NAYANNA|SANYAKA DDAYANNA|ALPAPRAANA TAYANNA|MAHAAPRAANA TAYANNA|ALPAPRAANA DAYANNA|MAHAAPRAANA DAYANNA|DANTAJA NAYANNA"⟩,
  ⟨0x0DB3, "SINHALA LETTER ", "SANYAKA DAYANNA|ALPAPRAANA PAYANNA|MAHAAPRAANA PAYANNA|ALPAPRAANA BAYANNA|MAHAAPRAANA BAYANNA|MAYANNA|AMBA BAYANNA|YAYANNA|RAYANNA"⟩,
  ⟨0x0DBD, "SINHALA LETTER DANTAJA LAYANNA", ""⟩,
  ⟨0x0DC0, "SINHALA LETTER ", "VAYANNA|TAALUJA SAYANNA|MUURDHAJA SAYANNA|DANTAJA SAYANNA|HAYANNA|MUURDHAJA LAYANNA|FAYANNA"⟩,
  ⟨0x0DCA, "SINHALA SIGN AL-LAKUNA", ""⟩,
  ⟨0x0DCF, "SINHALA VOWEL SIGN ", "AELA-PILLA|KETTI AEDA-PILLA|DIGA AEDA-PILLA|KETTI IS-PILLA|DIGA IS-PILLA|KETTI PAA-PILLA"⟩,
  ⟨0x0DD6, "SINHALA VOWEL SIGN DIGA PAA-PILLA", ""⟩,
  ⟨0x0DD8, "SINHALA VOWEL SIGN ", "GAETTA-PILLA|KOMBUVA|DIGA KOMBUVA|KOMBU DEKA|KOMBUVA HAA AELA-PILLA|KOMBUVA HAA DIGA AELA-PILLA|KOMBUVA HAA GAYANUKITTA|GAYANUKITTA"⟩,
  ⟨0x0DE6, "SINHALA LITH DIGIT ", "ZERO|ONE|TWO|THREE|FOUR|FIVE|SIX|SEVEN|EIGHT|NINE"⟩,
  ⟨0x0DF2, "SINHALA ", "VOWEL SIGN DIGA GAETTA-PILLA|VOWEL SIGN DIGA GAYANUKITTA|PUNCTUATION KUNDDALIYA"⟩,
  ⟨0x0E01, "THAI CHARACTER ", "KO KAI|KHO KHAI|KHO KHUAT|KHO KHWAI|KHO KHON|KHO RAKHANG|NGO NGU|CHO CHAN|CHO CHING|CHO CHANG|SO SO|CHO CHOE|YO YING|DO CHADA|TO PATAK|THO THAN|THO NANGMONTHO|THO PHUTHAO|NO NEN|DO DEK|TO TAO|THO THUNG|THO THAHAN|THO THONG|NO NU|BO BAIMAI|PO PLA|PHO PHUNG|FO FA|PHO PHAN|FO FAN|PHO SAMPHAO|MO MA|YO YAK|RO RUA|RU|LO LING|LU|WO WAEN|SO SALA|SO RUSI|SO SUA|HO HIP|LO CHULA|O ANG|HO NOKHUK|PAIYANNOI|SARA A|MAI HAN-AKAT|SARA AA|SARA AM|SARA I|SARA II|SARA UE|SARA UEE|SARA U|SARA UU|PHINTHU"⟩,
  ⟨0x0E3F, "THAI CURRENCY SYMBOL BAHT", ""⟩,
  ⟨0x0E40, "THAI CHARACTER ", "SARA E|SARA AE|SARA O|SARA AI MAIMUAN|SARA AI MAIMALAI|LAKKHANGYAO|MAIYAMOK|MAITAIKHU|MAI EK|MAI THO|MAI TRI|MAI CHATTAWA|THANTHAKHAT|NIKHAHIT|YAMAKKAN|FONGMAN"⟩,
  ⟨0x0E50, "THAI DIGIT ", "ZERO|ONE|TWO|THREE|FOUR|FIVE|SIX|SEVEN|EIGHT|NINE"⟩,
  ⟨0x0E5A, "THAI CHARACTER ", "ANGKHANKHU|KHOMUT"⟩,
  ⟨0x0E81, "LAO LETTER K", "O|HO SUNG"⟩,
  ⟨0x0E84, "LAO LETTER KHO TAM", ""⟩,
  ⟨0x0E86, "LAO LETTER ", "PALI GHA|NGO|CO|PALI CHA|SO TAM"⟩,
  ⟨0x0E8C, "LAO LETTER ", "PALI JHA|NYO|PALI NYA|PALI TTA|PALI TTHA|PALI DDA|PALI DDHA|PALI NNA|DO|TO|THO SUNG|THO TAM|PALI DHA|NO|BO|PO|PHO SUNG|FO TAM|PHO TAM|FO SUNG|PALI BHA|MO|YO|LO LING"⟩,
  ⟨0x0EA5, "LAO LETTER LO LOOT", ""⟩,
  ⟨0x0EA7, "LAO LETTER ", "WO|SANSKRIT SHA|SANSKRIT SSA|SO SUNG|HO SUNG|PALI LLA|O|HO TAM"⟩,
  ⟨0x0EAF, "LAO ELLIPSIS", ""⟩,
  ⟨0x0EB0, "LAO VOWEL SIGN ", "A|MAI KAN|AA|AM|I|II|Y|YY|U|UU"⟩,
  ⟨0x0EBA, "LAO ", "SIGN PALI VIRAMA|VOWEL SIGN MAI KON|SEMIVOWEL SIGN LO|SEMIVOWEL SIGN NYO"⟩,
  ⟨0x0EC0, "LAO VOWEL SIGN ", "E|EI|O|AY|AI"⟩,
  ⟨0x0EC6, "LAO KO LA", ""⟩,
  ⟨0x0EC8, "LAO TONE MAI ", "EK|THO|TI|CATAWA"⟩,
  ⟨0x0ECC, "LAO ", "CANCELLATION MARK|NIGGAHITA"⟩,
  ⟨0x0ED0, "LAO DIGIT ", "ZERO|ONE|TWO|THREE|FOUR|FIVE|SIX|SEVEN|EIGHT|NINE"⟩,
  ⟨0x0EDC, "LAO ", "HO NO|HO MO|LETTER KHMU GO|LETTER KHMU NYO"⟩,
  ⟨0x0F00, "TIBETAN SYLLABLE OM", ""⟩,
  ⟨0x0F01, "TIBETAN MARK ", "GTER YIG MGO TRUNCATED A|GTER YIG MGO -UM RNAM BCAD MA|GTER YIG MGO -UM GTER TSHEG MA|INITIAL YIG MGO MDUN MA|CLOSING YIG MGO SGAB MA|CARET YIG MGO PHUR SHAD MA|YIG MGO TSHEG SHAD MA|SBRUL SHAD|BSKUR YIG MGO|BKA- SHOG YIG MGO|INTERSYLLABIC TSHEG|DELIMITER TSHEG BSTAR|SHAD|NYIS SHAD|TSHEG SHAD|NYIS TSHEG SHAD|RIN CHEN SPUNGS SHAD|RGYA GRAM SHAD|CARET -DZUD RTAGS ME LONG CAN|GTER TSHEG"⟩,
  ⟨0x0F15, "TIBETAN LOGOTYPE SIGN ", "CHAD RTAGS|LHAG RTAGS"⟩,
  ⟨0x0F17, "TIBETAN ASTROLOGICAL SIGN ", "SGRA GCAN -CHAR RTAGS|-KHYUD PA|SDONG TSHUGS"⟩,
  ⟨0x0F1A, "TIBETAN SIGN RDEL ", "DKAR GCIG|DKAR GNYIS|DKAR GSUM|NAG GCIG|NAG GNYIS|DKAR RDEL NAG"⟩,
  ⟨0x0F20, "TIBETAN DIGIT ", "ZERO|ONE|TWO|THREE|FOUR|FIVE|SIX|SEVEN|EIGHT|NINE"⟩,
  ⟨0x0F2A, "TIBETAN DIGIT HALF ", "ONE|TWO|THREE|FOUR|FIVE|SIX|SEVEN|EIGHT|NINE|ZERO"⟩,
  ⟨0x0F34, "TIBETAN MARK ", "BSDUS RTAGS|NGAS BZUNG NYI ZLA|CARET -DZUD RTAGS BZHI MIG CAN|NGAS BZUNG SGOR RTAGS|CHE MGO|TSA -PHRU|GUG RTAGS GYON|GUG RTAGS GYAS|ANG KHANG GYON|ANG KHANG GYAS"⟩,
  ⟨0x0F3E, "TIBETAN SIGN ", "YAR TSHES|MAR TSHES"⟩,
  ⟨0x0F40, "TIBETAN LETTER ", "KA|KHA|GA|GHA|NGA|CA|CHA|JA"⟩,
  ⟨0x0F49, "TIBETAN LETTER ", "NYA|TTA|TTHA|DDA|DDHA|NNA|TA|THA|DA|DHA|NA|PA|PHA|BA|BHA|MA|TSA|TSHA|DZA|DZHA|WA|ZHA|ZA|-A|YA|RA|LA|SHA|SSA|SA|HA|A|KSSA|FIXED-FORM RA|KKA|RRA"⟩,
  ⟨0x0F71, "TIBETAN VOWEL SIGN ", "AA|I|II|U|UU|VOCALIC R|VOCALIC RR|VOCALIC L|VOCALIC LL|E|EE|O|OO"⟩,
  ⟨0x0F7E, "TIBETAN ", "SIGN RJES SU NGA RO|SIGN RNAM BCAD|VOWEL SIGN REVERSED I|VOWEL SIGN REVERSED II|SIGN NYI ZLA NAA DA|SIGN SNA LDAN|MARK HALANTA|MARK PALUTA|SIGN LCI RTAGS|SIGN YANG RTAGS|SIGN LCE TSA CAN|SIGN MCHU CAN|SIGN GRU CAN RGYINGS|SIGN GRU MED RGYINGS|SIGN INVERTED MCHU CAN|SUBJOINED SIGN LCE TSA CAN|SUBJOINED SIGN MCHU CAN|SUBJOINED SIGN INVERTED MCHU CAN"⟩,
  ⟨0x0F90, "TIBETAN SUBJOINED LETTER ", "KA|KHA|GA|GHA|NGA|CA|CHA|JA"⟩,
  ⟨0x0F99, "TIBETAN SUBJOINED LETTER ", "NYA|TTA|TTHA|DDA|DDHA|NNA|TA|THA|DA|DHA|NA|PA|PHA|BA|BHA|MA|TSA|TSHA|DZA|DZHA|WA|ZHA|ZA|-A|YA|RA|LA|SHA|SSA|SA|HA|A|KSSA|FIXED-FORM WA|FIXED-FORM YA|FIXED-FORM RA"⟩,
  ⟨0x0FBE, "TIBETAN KU RU KHA", "| BZHI MIG CAN"⟩,
  ⟨0x0FC0, "TIBETAN CANTILLATION SIGN ", "HEAVY BEAT|LIGHT BEAT|CANG TE-U|SBUB -CHAL"⟩,
  ⟨0x0FC4, "TIBETAN SYMBOL ", "DRIL BU|RDO RJE|PADMA GDAN|RDO RJE RGYA GRAM|PHUR PA|NOR BU|NOR BU NYIS -KHYIL|NOR BU GSUM -KHYIL|NOR BU BZHI -KHYIL"⟩,
  ⟨0x0FCE, "TIBETAN SIGN RDEL NAG ", "RDEL DKAR|GSUM"⟩,
  ⟨0x0FD0, "TIBETAN MARK ", "BSKA- SHOG GI MGO RGYAN|MNYAM YIG GI MGO RGYAN|NYIS TSHEG|INITIAL BRDA RNYING YIG MGO MDUN MA|CLOSING BRDA RNYING YIG MGO SGAB MA"⟩,
  ⟨0x0FD5, "", "RIGHT-FACING SVASTI SIGN|LEFT-FACING SVASTI SIGN|RIGHT-FACING SVASTI SIGN WITH DOTS|LEFT-FACING SVASTI SIGN WITH DOTS|TIBETAN MARK LEADING MCHAN RTAGS|TIBETAN MARK TRAILING MCHAN RTAGS"⟩,
  ⟨0x1000, "MYANMAR LETTER ", "KA|KHA|GA|GHA|NGA|CA|CHA|JA|JHA|NYA|NNYA|TTA|TTHA|DDA|DDHA|NNA|TA|THA|DA|DHA|NA|PA|PHA|BA|BHA|MA|YA|RA|LA|WA|SA|HA|LLA|A|SHAN A|I|II|U|UU|E|MON E|O|AU"⟩,
  ⟨0x102B, "MYANMAR VOWEL SIGN ", "TALL AA|AA|I|II|U|UU|E|AI|MON II|MON O|E ABOVE"⟩,
  ⟨0x1036, "MYANMAR SIGN ", "ANUSVARA|DOT BELOW|VISARGA|VIRAMA|ASAT"⟩,
  ⟨0x103B, "MYANMAR CONSONANT SIGN MEDIAL ", "YA|RA|WA|HA"⟩,
  ⟨0x103F, "MYANMAR ", "LETTER GREAT SA|DIGIT ZERO|DIGIT ONE|DIGIT TWO|DIGIT THREE|DIGIT FOUR|DIGIT FIVE|DIGIT SIX|DIGIT SEVEN|DIGIT EIGHT|DIGIT NINE|SIGN LITTLE SECTION|SIGN SECTION|SYMBOL LOCATIVE|SYMBOL COMPLETED|SYMBOL AFOREMENTIONED|SYMBOL GENITIVE|LETTER SHA|LETTER SSA"⟩,
  ⟨0x1052, "MYANMAR LETTER VOCALIC ", "R|RR|L|LL"⟩,
  ⟨0x1056, "MYANMAR VOWEL SIGN VOCALIC ", "R|RR|L|LL"⟩,
  ⟨0x105A, "MYANMAR LETTER MON ", "NGA|JHA|BBA|BBE"⟩,
  ⟨0x105E, "MYANMAR CONSONANT SIGN MON MEDIAL ", "NA|MA|LA"⟩,
  ⟨0x1061, "MYANMAR ", "LETTER SGAW KAREN SHA|VOWEL SIGN SGAW KAREN EU|TONE MARK SGAW KAREN HATHI|TONE MARK SGAW KAREN KE PHO|LETTER WESTERN PWO KAREN THA|LETTER WESTERN PWO KAREN PWA|VOWEL SIGN WESTERN PWO KAREN EU|VOWEL SIGN WESTERN PWO KAREN UE"⟩,
  ⟨0x1069, "MYANMAR SIGN WESTERN PWO KAREN TONE-", "1|2|3|4|5"⟩,
  ⟨0x106E, "MYANMAR LETTER EASTERN PWO KAREN ", "NNA|YWA|GHWA"⟩,
  ⟨0x1071, "MYANMAR VOWEL SIGN ", "GEBA KAREN I|KAYAH OE|KAYAH U|KAYAH EE"⟩,
  ⟨0x1075, "MYANMAR LETTER SHAN ", "KA|KHA|GA|CA|ZA|NYA|DA|NA|PHA|FA|BA|THA|HA"⟩,
  ⟨0x1082, "MYANMAR CONSONANT SIGN SHAN MEDIAL WA", ""⟩,
  ⟨0x1083, "MYANMAR VOWEL SIGN SHAN ", "AA|E|E ABOVE|FINAL Y"⟩,
  ⟨0x1087, "MYANMAR SIGN SHAN ", "TONE-2|TONE-3|TONE-5|TONE-6|COUNCIL TONE-2|COUNCIL TONE-3|COUNCIL EMPHATIC TONE"⟩,
  ⟨0x108E, "MYANMAR ", "LETTER RUMAI PALAUNG FA|SIGN RUMAI PALAUNG TONE-5"⟩,
  ⟨0x1090, "MYANMAR SHAN DIGIT ", "ZERO|ONE|TWO|THREE|FOUR|FIVE|SIX|SEVEN|EIGHT|NINE"⟩,
  ⟨0x109A, "MYANMAR ", "SIGN KHAMTI TONE-1|SIGN KHAMTI TONE-3|VOWEL SIGN AITON A|VOWEL SIGN AITON AI|SYMBOL SHAN ONE|SYMBOL SHAN EXCLAMATION"⟩,
  ⟨0x10A0, "GEORGIAN CAPITAL LETTER ", "AN|BAN|GAN|DON|EN|VIN|ZEN|TAN|IN|KAN|LAS|MAN|NAR|ON|PAR|ZHAR|RAE|SAN|TAR|UN|PHAR|KHAR|GHAN|QAR|SHIN|CHIN|CAN|JIL|CIL|CHAR|XAN|JHAN|HAE|HE|HIE|WE|HAR|HOE"⟩,
  ⟨0x10C7, "GEORGIAN CAPITAL LETTER YN", ""⟩,
  ⟨0x10CD, "GEORGIAN CAPITAL LETTER AEN", ""⟩,
  ⟨0x10D0, "GEORGIAN LETTER ", "AN|BAN|GAN|DON|EN|VIN|ZEN|TAN|IN|KAN|LAS|MAN|NAR|ON|PAR|ZHAR|RAE|SAN|TAR|UN|PHAR|KHAR|GHAN|QAR|SHIN|CHIN|CAN|JIL|CIL|CHAR|XAN|JHAN|HAE|HE|HIE|WE|HAR|HOE|FI|YN|ELIFI|TURNED GAN|AIN"⟩,
  ⟨0x10FB, "", "GEORGIAN PARAGRAPH SEPARATOR|MODIFIER LETTER GEORGIAN NAR"⟩,
  ⟨0x10FD, "GEORGIAN LETTER ", "AEN|HARD SIGN|LABIAL SIGN"⟩,
  ⟨0x1100, "HANGUL CHOSEONG ", "KIYEOK|SSANGKIYEOK|NIEUN|TIKEUT|SSANGTIKEUT|RIEUL|MIEUM|PIEUP|SSANGPIEUP|SIOS|SSANGSIOS|IEUNG|CIEUC|SSANGCIEUC|CHIEUCH|KHIEUKH|THIEUTH|PHIEUPH|HIEUH|NIEUN-KIYEOK|SSANGNIEUN|NIEUN-TIKEUT|NIEUN-PIEUP|TIKEUT-KIYEOK|RIEUL-NIEUN|SSANGRIEUL|RIEUL-HIEUH|KAPYEOUNRIEUL|MIEUM-PIEUP|KAPYEOUNMIEUM|PIEUP-KIYEOK|PIEUP-NIEUN|PIEUP-TIKEUT|PIEUP-SIOS|PIEUP-SIOS-KIYEOK|PIEUP-SIOS-TIKEUT|PIEUP-SIOS-PIEUP|PIEUP-SSANGSIOS|PIEUP-SIOS-CIEUC|PIEUP-CIEUC|PIEUP-CHIEUCH|PIEUP-THIEUTH|PIEUP-PHIEUPH|KAPYEOUNPIEUP|KAPYEOUNSSANGPIEUP|SIOS-KIYEOK|SIOS-NIEUN|SIOS-TIKEUT|SIOS-RIEUL|SIOS-MIEUM|SIOS-PIEUP|SIOS-PIEUP-KIYEOK|SIOS-SSANGSIOS|SIOS-IEUNG|SIOS-CIEUC|SIOS-CHIEUCH|SIOS-KHIEUKH|SIOS-THIEUTH|SIOS-PHIEUPH|SIOS-HIEUH|CHITUEUMSIOS|CHITUEUMSSANGSIOS|CEONGCHIEUMSIOS|CEONGCHIEUMSSANGSIOS|PANSIOS|IEUNG-KIYEOK|IEUNG-TIKEUT|IEUNG-MIEUM|IEUNG-PIEUP|IEUNG-SIOS|IEUNG-PANSIOS|SSANGIEUNG|IEUNG-CIEUC|IEUNG-CHIEUCH|IEUNG-THIEUTH|IEUNG-PHIEUPH|YESIEUNG|CIEUC-IEUNG|CHITUEUMCIEUC|CHITUEUMSSANGCIEUC|CEONGCHIEUMCIEUC|CEONGCHIEUMSSANGCIEUC|CHIEUCH-KHIEUKH|CHIEUCH-HIEUH|CHITUEUMCHIEUCH|CEONGCHIEUMCHIEUCH|PHIEUPH-PIEUP|KAPYEOUNPHIEUPH|SSANGHIEUH|YEORINHIEUH|KIYEOK-TIKEUT|NIEUN-SIOS|NIEUN-CIEUC|NIEUN-HIEUH|TIKEUT-RIEUL|FILLER"⟩,
  ⟨0x1160, "HANGUL JUNGSEONG ", "FILLER|A|AE|YA|YAE|EO|E|YEO|YE|O|WA|WAE|OE|YO|U|WEO|WE|WI|YU|EU|YI|I|A-O|A-U|YA-O|YA-YO|EO-O|EO-U|EO-EU|YEO-O|YEO-U|O-EO|O-E|O-YE|O-O|O-U|YO-YA|YO-YAE|YO-YEO|YO-O|YO-I|U-A|U-AE|U-EO-EU|U-YE|U-U|YU-A|YU-EO|YU-E|YU-YEO|YU-YE|YU-U|YU-I|EU-U|EU-EU|YI-U|I-A|I-YA|I-O|I-U|I-EU|I-ARAEA|ARAEA|ARAEA-EO|ARAEA-U|ARAEA-I|SSANGARAEA|A-EU|YA-U|YEO-YA|O-YA|O-YAE"⟩,
  ⟨0x11A8, "HANGUL JONGSEONG ", "KIYEOK|SSANGKIYEOK|KIYEOK-SIOS|NIEUN|NIEUN-CIEUC|NIEUN-HIEUH|TIKEUT|RIEUL|RIEUL-KIYEOK|RIEUL-MIEUM|RIEUL-PIEUP|RIEUL-SIOS|RIEUL-THIEUTH|RIEUL-PHIEUPH|RIEUL-HIEUH|MIEUM|PIEUP|PIEUP-SIOS|SIOS|SSANGSIOS|IEUNG|CIEUC|CHIEUCH|KHIEUKH|THIEUTH|PHIEUPH|HIEUH|KIYEOK-RIEUL|KIYEOK-SIOS-KIYEOK|NIEUN-KIYEOK|NIEUN-TIKEUT|NIEUN-SIOS|NIEUN-PANSIOS|NIEUN-THIEUTH|TIKEUT-KIYEOK|TIKEUT-RIEUL|RIEUL-KIYEOK-SIOS|RIEUL-NIEUN|RIEUL-TIKEUT|RIEUL-TIKEUT-HIEUH|SSANGRIEUL|RIEUL-MIEUM-KIYEOK|RIEUL-MIEUM-SIOS|RIEUL-PIEUP-SIOS|RIEUL-PIEUP-HIEUH|RIEUL-KAPYEOUNPIEUP|RIEUL-SSANGSIOS|RIEUL-PANSIOS|RIEUL-KHIEUKH|RIEUL-YEORINHIEUH|MIEUM-KIYEOK|MIEUM-RIEUL|MIEUM-PIEUP|MIEUM-SIOS|MIEUM-SSANGSIOS|MIEUM-PANSIOS|MIEUM-CHIEUCH|MIEUM-HIEUH|KAPYEOUNMIEUM|PIEUP-RIEUL|PIEUP-PHIEUPH|PIEUP-HIEUH|KAPYEOUNPIEUP|SIOS-KIYEOK|SIOS-TIKEUT|SIOS-RIEUL|SIOS-PIEUP|PANSIOS|IEUNG-KIYEOK|IEUNG-SSANGKIYEOK|SSANGIEUNG|IEUNG-KHIEUKH|YESIEUNG|YESIEUNG-SIOS|YESIEUNG-PANSIOS|PHIEUPH-PIEUP|KAPYEOUNPHIEUPH|HIEUH-NIEUN|HIEUH-RIEUL|HIEUH-MIEUM|HIEUH-PIEUP|YEORINHIEUH|KIYEOK-NIEUN|KIYEOK-PIEUP|KIYEOK-CHIEUCH|KIYEOK-KHIEUKH|KIYEOK-HIEUH|SSANGNIEUN"⟩,
  ⟨0x1200, "ETHIOPIC SYLLABLE ", "HA|HU|HI|HAA|HEE|HE|HO|HOA|LA|LU|LI|LAA|LEE|LE|LO|LWA|HHA|HHU|HHI|HHAA|HHEE|HHE|HHO|HHWA|MA|MU|MI|MAA|MEE|ME|MO|MWA|SZA|SZU|SZI|SZAA|SZEE|SZE|SZO|SZWA|RA|RU|RI|RAA|REE|RE|RO|RWA|SA|SU|SI|SAA|SEE|SE|SO|SWA|SHA|SHU|SHI|SHAA|SHEE|SHE|SHO|SHWA|QA|QU|QI|QAA|QEE|QE|QO|QOA|QWA"⟩,
  ⟨0x124A, "ETHIOPIC SYLLABLE QW", "I|AA|EE|E"⟩,
  ⟨0x1250, "ETHIOPIC SYLLABLE QH", "A|U|I|AA|EE|E|O"⟩,
  ⟨0x1258, "ETHIOPIC SYLLABLE QHWA", ""⟩,
  ⟨0x125A, "ETHIOPIC SYLLABLE QHW", "I|AA|EE|E"⟩,
  ⟨0x1260, "ETHIOPIC SYLLABLE ", "BA|BU|BI|BAA|BEE|BE|BO|BWA|VA|VU|VI|VAA|VEE|VE|VO|VWA|TA|TU|TI|TAA|TEE|TE|TO|TWA|CA|CU|CI|CAA|CEE|CE|CO|CWA|XA|XU|XI|XAA|XEE|XE|XO|XOA|XWA"⟩,
  ⟨0x128A, "ETHIOPIC SYLLABLE XW", "I|AA|EE|E"⟩,
  ⟨0x1290, "ETHIOPIC SYLLABLE ", "NA|NU|NI|NAA|NEE|NE|NO|NWA|NYA|NYU|NYI|NYAA|NYEE|NYE|NYO|NYWA|GLOTTAL A|GLOTTAL U|GLOTTAL I|GLOTTAL AA|GLOTTAL EE|GLOTTAL E|GLOTTAL O|GLOTTAL WA|KA|KU|KI|KAA|KEE|KE|KO|KOA|KWA"⟩,
  ⟨0x12B2, "ETHIOPIC SYLLABLE KW", "I|AA|EE|E"⟩,
  ⟨0x12B8, "ETHIOPIC SYLLABLE KX", "A|U|I|AA|EE|E|O"⟩,
  ⟨0x12C0, "ETHIOPIC SYLLABLE KXWA", ""⟩,
  ⟨0x12C2, "ETHIOPIC SYLLABLE KXW", "I|AA|EE|E"⟩,
  ⟨0x12C8, "ETHIOPIC SYLLABLE W", "A|U|I|AA|EE|E|O|OA"⟩,
  ⟨0x12D0, "ETHIOPIC SYLLABLE PHARYNGEAL ", "A|U|I|AA|EE|E|O"⟩,
  ⟨0x12D8, "ETHIOPIC SYLLABLE ", "ZA|ZU|ZI|ZAA|ZEE|ZE|ZO|ZWA|ZHA|ZHU|ZHI|ZHAA|ZHEE|ZHE|ZHO|ZHWA|YA|YU|YI|YAA|YEE|YE|YO|YOA|DA|DU|DI|DAA|DEE|DE|DO|DWA|DDA|DDU|DDI|DDAA|DDEE|DDE|DDO|DDWA|JA|JU|JI|JAA|JEE|JE|JO|JWA|GA|GU|GI|GAA|GEE|GE|GO|GOA|GWA"⟩,
  ⟨0x1312, "ETHIOPIC SYLLABLE GW", "I|AA|EE|E"⟩,
  ⟨0x1318, "ETHIOPIC SYLLABLE ", "GGA|GGU|GGI|GGAA|GGEE|GGE|GGO|GGWAA|THA|THU|THI|THAA|THEE|THE|THO|THWA|CHA|CHU|CHI|CHAA|CHEE|CHE|CHO|CHWA|PHA|PHU|PHI|PHAA|PHEE|PHE|PHO|PHWA|TSA|TSU|TSI|TSAA|TSEE|TSE|TSO|TSWA|TZA|TZU|TZI|TZAA|TZEE|TZE|TZO|TZOA|FA|FU|FI|FAA|FEE|FE|FO|FWA|PA|PU|PI|PAA|PEE|PE|PO|PWA|RYA|MYA|FYA"⟩,
  ⟨0x135D, "ETHIOPIC ", "COMBINING GEMINATION AND VOWEL LENGTH MARK|COMBINING VOWEL LENGTH MARK|COMBINING GEMINATION MARK|SECTION MARK|WORDSPACE|FULL STOP|COMMA|SEMICOLON|COLON|PREFACE COLON|QUESTION MARK|PARAGRAPH SEPARATOR"⟩,
  ⟨0x1369, "ETHIOPIC DIGIT ", "ONE|TWO|THREE|FOUR|FIVE|SIX|SEVEN|EIGHT|NINE"⟩,
  ⟨0x1372, "ETHIOPIC NUMBER ", "TEN|TWENTY|THIRTY|FORTY|FIFTY|SIXTY|SEVENTY|EIGHTY|NINETY|HUNDRED|TEN THOUSAND"⟩,
  ⟨0x1380, "ETHIOPIC SYLLABLE ", "SEBATBEIT MWA|MWI|MWEE|MWE|SEBATBEIT BWA|BWI|BWEE|BWE|SEBATBEIT FWA|FWI|FWEE|FWE|SEBATBEIT PWA|PWI|PWEE|PWE"⟩,
  ⟨0x1390, "ETHIOPIC TONAL MARK ", "YIZET|DERET|RIKRIK|SHORT RIKRIK|DIFAT|KENAT|CHIRET|HIDET|DERET-HIDET|KURT"⟩,
  ⟨0x13A0, "CHEROKEE LETTER ", "A|E|I|O|U|V|GA|KA|GE|GI|GO|GU|GV|HA|HE|HI|HO|HU|HV|LA|LE|LI|LO|LU|LV|MA|ME|MI|MO|MU|NA|HNA|NAH|NE|NI|NO|NU|NV|QUA|QUE|QUI|QUO|QUU|QUV|SA|S|SE|SI|SO|SU|SV|DA|TA|DE|TE|DI|TI|DO|DU|DV|DLA|TLA|TLE|TLI|TLO|TLU|TLV|TSA|TSE|TSI|TSO|TSU|TSV|WA|WE|WI|WO|WU|WV|YA|YE|YI|YO|YU|YV|MV"⟩,
  ⟨0x13F8, "CHEROKEE SMALL LETTER ", "YE|YI|YO|YU|YV|MV"⟩,
  ⟨0x1400, "CANADIAN SYLLABICS ", "HYPHEN|E|AAI|I|II|O|OO|Y-CREE OO|CARRIER EE|CARRIER I|A|AA|WE|WEST-CREE WE|WI|WEST-CREE WI|WII|WEST-CREE WII|WO|WEST-CREE WO|WOO|WEST-CREE WOO|NASKAPI WOO|WA|WEST-CREE WA|WAA|WEST-CREE WAA|NASKAPI WAA|AI|Y-CREE W|GLOTTAL STOP|FINAL ACUTE|FINAL GRAVE|FINAL BOTTOM HALF RING|FINAL TOP HALF RING|FINAL RIGHT HALF RING|FINAL RING|FINAL DOUBLE ACUTE|FINAL DOUBLE SHORT VERTICAL STROKES|FINAL MIDDLE DOT|FINAL SHORT HORIZONTAL STROKE|FINAL PLUS|FINAL DOWN TACK|EN|IN|ON|AN|PE|PAAI|PI|PII|PO|POO|Y-CREE POO|CARRIER HEE|CARRIER HI|PA|PAA|PWE|WEST-CREE PWE|PWI|WEST-CREE PWI|PWII|WEST-CREE PWII|PWO|WEST-CREE PWO|PWOO|WEST-CREE PWOO|PWA|WEST-CREE PWA|PWAA|WEST-CREE PWAA|Y-CREE PWAA|P|WEST-CREE P|CARRIER H|TE|TAAI|TI|TII|TO|TOO|Y-CREE TOO|CARRIER DEE|CARRIER DI|TA|TAA|TWE|WEST-CREE TWE|TWI|WEST-CREE TWI|TWII|WEST-CREE TWII|TWO|WEST-CREE TWO|TWOO|WEST-CREE TWOO|TWA|WEST-CREE TWA|TWAA|WEST-CREE TWAA|NASKAPI TWAA|T|TTE|TTI|TTO|TTA|KE|KAAI|KI|KII|KO|KOO|Y-CREE KOO|KA|KAA|KWE|WEST-CREE KWE|KWI|WEST-CREE KWI|KWII|WEST-CREE KWII|KWO|WEST-CREE KWO|KWOO|WEST-CREE KWOO|KWA|WEST-CREE KWA|KWAA|WEST-CREE KWAA|NASKAPI KWAA|K|KW|SOUTH-SLAVEY KEH|SOUTH-SLAVEY KIH|SOUTH-SLAVEY KOH|SOUTH-SLAVEY KAH|CE|CAAI|CI|CII|CO|COO|Y-CREE COO|CA|CAA|CWE|WEST-CREE CWE|CWI|WEST-CREE CWI|CWII|WEST-CREE CWII|CWO|WEST-CREE CWO|CWOO|WEST-CREE CWOO|CWA|WEST-CREE CWA|CWAA|WEST-CREE CWAA|NASKAPI CWAA|C|SAYISI TH|ME|MAAI|MI|MII|MO|MOO|Y-CREE MOO|MA|MAA|MWE|WEST-CREE MWE|MWI|WEST-CREE MWI|MWII|WEST-CREE MWII|MWO|WEST-CREE MWO|MWOO"⟩,
  ⟨0x14B5, "CANADIAN SYLLABICS ", "WEST-CREE MWOO|MWA|WEST-CREE MWA|MWAA|WEST-CREE MWAA|NASKAPI MWAA|M|WEST-CREE M|MH|ATHAPASCAN M|SAYISI M|NE|NAAI|NI|NII|NO|NOO|Y-CREE NOO|NA|NAA|NWE|WEST-CREE NWE|NWA|WEST-CREE NWA|NWAA|WEST-CREE NWAA|NASKAPI NWAA|N|CARRIER NG|NH|LE|LAAI|LI|LII|LO|LOO|Y-CREE LOO|LA|LAA|LWE|WEST-CREE LWE|LWI|WEST-CREE LWI|LWII|WEST-CREE LWII|LWO|WEST-CREE LWO|LWOO|WEST-CREE LWOO|LWA|WEST-CREE LWA|LWAA|WEST-CREE LWAA|L|WEST-CREE L|MEDIAL L|SE|SAAI|SI|SII|SO|SOO|Y-CREE SOO|SA|SAA|SWE|WEST-CREE SWE|SWI|WEST-CREE SWI|SWII|WEST-CREE SWII|SWO|WEST-CREE SWO|SWOO|WEST-CREE SWOO|SWA|WEST-CREE SWA|SWAA|WEST-CREE SWAA|NASKAPI SWAA|S|ATHAPASCAN S|SW|BLACKFOOT S|MOOSE-CREE SK|NASKAPI SKW|NASKAPI S-W|NASKAPI SPWA|NASKAPI STWA|NASKAPI SKWA|NASKAPI SCWA|SHE|SHI|SHII|SHO|SHOO|SHA|SHAA|SHWE|WEST-CREE SHWE|SHWI|WEST-CREE SHWI|SHWII|WEST-CREE SHWII|SHWO|WEST-CREE SHWO|SHWOO|WEST-CREE SHWOO|SHWA|WEST-CREE SHWA|SHWAA|WEST-CREE SHWAA|SH|YE|YAAI|YI|YII|YO|YOO|Y-CREE YOO|YA|YAA|YWE|WEST-CREE YWE|YWI|WEST-CREE YWI|YWII|WEST-CREE YWII|YWO|WEST-CREE YWO|YWOO|WEST-CREE YWOO|YWA|WEST-CREE YWA|YWAA|WEST-CREE YWAA|NASKAPI YWAA|Y|BIBLE-CREE Y|WEST-CREE Y|SAYISI YI|RE|R-CREE RE|WEST-CREE LE|RAAI|RI|RII|RO|ROO|WEST-CREE LO|RA|RAA|WEST-CREE LA|RWAA|WEST-CREE RWAA|R|WEST-CREE R|MEDIAL R|FE|FAAI|FI|FII|FO|FOO|FA|FAA|FWAA|WEST-CREE FWAA|F|THE|N-CREE THE|THI|N-CREE THI|THII|N-CREE THII|THO|THOO|THA|THAA|THWAA|WEST-CREE THWAA|TH|TTHE|TTHI|TTHO|TTHA|TTH|TYE|TYI|TYO|TYA|NUNAVIK HE|NUNAVIK HI|NUNAVIK HII|NUNAVIK HO|NUNAVIK HOO"⟩,
  ⟨0x1579, "CANADIAN SYLLABICS ", "NUNAVIK HA|NUNAVIK HAA|NUNAVIK H|NUNAVUT H|HK|QAAI|QI|QII|QO|QOO|QA|QAA|Q|TLHE|TLHI|TLHO|TLHA|WEST-CREE RE|WEST-CREE RI|WEST-CREE RO|WEST-CREE RA|NGAAI|NGI|NGII|NGO|NGOO|NGA|NGAA|NG|NNG|SAYISI SHE|SAYISI SHI|SAYISI SHO|SAYISI SHA|WOODS-CREE THE|WOODS-CREE THI|WOODS-CREE THO|WOODS-CREE THA|WOODS-CREE TH|LHI|LHII|LHO|LHOO|LHA|LHAA|LH|TH-CREE THE|TH-CREE THI|TH-CREE THII|TH-CREE THO|TH-CREE THOO|TH-CREE THA|TH-CREE THAA|TH-CREE TH|AIVILIK B"⟩,
  ⟨0x15B0, "CANADIAN SYLLABICS BLACKFOOT ", "E|I|O|A|WE|WI|WO|WA|NE|NI|NO|NA|KE|KI|KO|KA"⟩,
  ⟨0x15C0, "CANADIAN SYLLABICS SAYISI H", "E|I|O|A"⟩,
  ⟨0x15C4, "CANADIAN SYLLABICS CARRIER ", "GHU|GHO|GHE|GHEE|GHI|GHA|RU|RO|RE|REE|RI|RA|WU|WO|WE|WEE|WI|WA|HWU|HWO|HWE|HWEE|HWI|HWA|THU|THO|THE|THEE|THI|THA|TTU|TTO|TTE|TTEE|TTI|TTA|PU|PO|PE|PEE|PI|PA|P|GU|GO|GE|GEE|GI|GA|KHU|KHO|KHE|KHEE|KHI|KHA|KKU|KKO|KKE|KKEE|KKI|KKA|KK|NU|NO|NE|NEE|NI|NA|MU|MO|ME|MEE|MI|MA|YU|YO|YE|YEE|YI|YA|JU"⟩,
  ⟨0x1615, "CANADIAN SYLLABICS ", "SAYISI JU|CARRIER JO|CARRIER JE|CARRIER JEE|CARRIER JI|SAYISI JI"⟩,
  ⟨0x161B, "CANADIAN SYLLABICS CARRIER ", "JA|JJU|JJO|JJE|JJEE|JJI|JJA|LU|LO|LE|LEE|LI|LA|DLU|DLO|DLE|DLEE|DLI|DLA|LHU|LHO|LHE|LHEE|LHI|LHA|TLHU|TLHO|TLHE|TLHEE|TLHI|TLHA|TLU|TLO|TLE|TLEE|TLI|TLA|ZU|ZO|ZE|ZEE|ZI|ZA|Z|INITIAL Z|DZU|DZO|DZE|DZEE|DZI|DZA|SU|SO|SE|SEE|SI|SA|SHU|SHO|SHE|SHEE|SHI|SHA|SH|TSU|TSO|TSE|TSEE|TSI|TSA|CHU|CHO|CHE|CHEE|CHI|CHA|TTSU|TTSO|TTSE|TTSEE|TTSI|TTSA"⟩,
  ⟨0x166D, "CANADIAN SYLLABICS ", "CHI SIGN|FULL STOP|QAI|NGAI|NNGI|NNGII|NNGO|NNGOO|NNGA|NNGAA"⟩,
  ⟨0x1677, "CANADIAN SYLLABICS WOODS-CREE ", "THWEE|THWI|THWII|THWO|THWOO|THWA|THWAA|FINAL TH"⟩,
  ⟨0x167F, "", "CANADIAN SYLLABICS BLACKFOOT W|OGHAM SPACE MARK"⟩,
  ⟨0x1681, "OGHAM LETTER ", "BEITH|LUIS|FEARN|SAIL|NION|UATH|DAIR|TINNE|COLL|CEIRT|MUIN|GORT|NGEADAL|STRAIF|RUIS|AILM|ONN|UR|EADHADH|IODHADH|EABHADH|OR|UILLEANN|IFIN|EAMHANCHOLL|PEITH"⟩,
  ⟨0x169B, "OGHAM ", "FEATHER MARK|REVERSED FEATHER MARK"⟩,
  ⟨0x16A0, "RUNIC LETTER ", "FEHU FEOH FE F|V|URUZ UR U|YR|Y|W|THURISAZ THURS THORN|ETH|ANSUZ A|OS O|AC A|AESC|LONG-BRANCH-OSS O|SHORT-TWIG-OSS O|O|OE|ON|RAIDO RAD REID R|KAUNA|CEN|KAUN K|G|ENG|GEBO GYFU G|GAR|WUNJO WYNN W|HAGLAZ H|HAEGL H|LONG-BRANCH-HAGALL H|SHORT-TWIG-HAGALL H|NAUDIZ NYD NAUD N|SHORT-TWIG-NAUD N|DOTTED-N|ISAZ IS ISS I|E|JERAN J|GER|LONG-BRANCH-AR AE|SHORT-TWIG-AR A|IWAZ EOH|PERTHO PEORTH P|ALGIZ EOLHX|SOWILO S|SIGEL LONG-BRANCH-SOL S|SHORT-TWIG-SOL S|C|Z|TIWAZ TIR TYR T|SHORT-TWIG-TYR T|D|BERKANAN BEORC BJARKAN B|SHORT-TWIG-BJARKAN B|DOTTED-P|OPEN-P|EHWAZ EH E|MANNAZ MAN M|LONG-BRANCH-MADR M|SHORT-TWIG-MADR M|LAUKAZ LAGU LOGR L|DOTTED-L|INGWAZ|ING|DAGAZ DAEG D|OTHALAN ETHEL O|EAR|IOR|CWEORTH|CALC|CEALC|STAN|LONG-BRANCH-YR|SHORT-TWIG-YR|ICELANDIC-YR|Q|X"⟩,
  ⟨0x16EB, "RUNIC ", "SINGLE PUNCTUATION|MULTIPLE PUNCTUATION|CROSS PUNCTUATION|ARLAUG SYMBOL|TVIMADUR SYMBOL|BELGTHOR SYMBOL|LETTER K|LETTER SH|LETTER OO"⟩,
  ⟨0x16F4, "RUNIC LETTER FRANKS CASKET ", "OS|IS|EH|AC|AESC"⟩,
  ⟨0x1700, "TAGALOG LETTER ", "A|I|U|KA|GA|NGA|TA|DA|NA|PA|BA|MA|YA|RA|LA|WA|SA|HA"⟩,
  ⟨0x1712, "TAGALOG ", "VOWEL SIGN I|VOWEL SIGN U|SIGN VIRAMA|SIGN PAMUDPOD"⟩,
  ⟨0x171F, "TAGALOG LETTER ARCHAIC RA", ""⟩,
  ⟨0x1720, "HANUNOO LETTER ", "A|I|U|KA|GA|NGA|TA|DA|NA|PA|BA|MA|YA|RA|LA|WA|SA|HA"⟩,
  ⟨0x1732, "HANUNOO ", "VOWEL SIGN I|VOWEL SIGN U|SIGN PAMUDPOD"⟩,
  ⟨0x1735, "PHILIPPINE ", "SINGLE PUNCTUATION|DOUBLE PUNCTUATION"⟩,
  ⟨0x1740, "BUHID LETTER ", "A|I|U|KA|GA|NGA|TA|DA|NA|PA|BA|MA|YA|RA|LA|WA|SA|HA"⟩,
  ⟨0x1752, "BUHID VOWEL SIGN ", "I|U"⟩,
  ⟨0x1760, "TAGBANWA LETTER ", "A|I|U|KA|GA|NGA|TA|DA|NA|PA|BA|MA|YA"⟩,
  ⟨0x176E, "TAGBANWA LETTER ", "LA|WA|SA"⟩,
  ⟨0x1772, "TAGBANWA VOWEL SIGN ", "I|U"⟩,
  ⟨0x1780, "KHMER LETTER ", "KA|KHA|KO|KHO|NGO|CA|CHA|CO|CHO|NYO|DA|TTHA|DO|TTHO|NNO|TA|THA|TO|THO|NO|BA|PHA|PO|PHO|MO|YO|RO|LO|VO|SHA|SSO|SA|HA|LA|QA"⟩,
  ⟨0x17A3, "KHMER INDEPENDENT VOWEL ", "QAQ|QAA|QI|QII|QU|QUK|QUU|QUUV|RY|RYY|LY|LYY|QE|QAI|QOO TYPE ONE|QOO TYPE TWO|QAU"⟩,
  ⟨0x17B4, "KHMER VOWEL INHERENT A", "Q|A"⟩,
  ⟨0x17B6, "KHMER VOWEL SIGN ", "AA|I|II|Y|YY|U|UU|UA|OE|YA|IE|E|AE|AI|OO|AU"⟩,
  ⟨0x17C6, "KHMER SIGN ", "NIKAHIT|REAHMUK|YUUKALEAPINTU|MUUSIKATOAN|TRIISAP|BANTOC|ROBAT|TOANDAKHIAT|KAKABAT|AHSDA|SAMYOK SANNYA|VIRIAM|COENG|BATHAMASAT|KHAN|BARIYOOSAN|CAMNUC PII KUUH|LEK TOO|BEYYAL|PHNAEK MUAN|KOOMUUT"⟩,
  ⟨0x17DB, "KHMER ", "CURRENCY SYMBOL RIEL|SIGN AVAKRAHASANYA|SIGN ATTHACAN"⟩,
  ⟨0x17E0, "KHMER DIGIT ", "ZERO|ONE|TWO|THREE|FOUR|FIVE|SIX|SEVEN|EIGHT|NINE"⟩,
  ⟨0x17F0, "KHMER SYMBOL LEK ATTAK ", "SON|MUOY|PII|BEI|BUON|PRAM|PRAM-MUOY|PRAM-PII|PRAM-BEI|PRAM-BUON"⟩,
  ⟨0x1800, "MONGOLIAN ", "BIRGA|ELLIPSIS|COMMA|FULL STOP|COLON|FOUR DOTS|TODO SOFT HYPHEN|SIBE SYLLABLE BOUNDARY MARKER|MANCHU COMMA|MANCHU FULL STOP|NIRUGU|FREE VARIATION SELECTOR ONE|FREE VARIATION SELECTOR TWO|FREE VARIATION SELECTOR THREE|VOWEL SEPARATOR|FREE VARIATION SELECTOR FOUR"⟩,
  ⟨0x1810, "MONGOLIAN DIGIT ", "ZERO|ONE|TWO|THREE|FOUR|FIVE|SIX|SEVEN|EIGHT|NINE"⟩,
  ⟨0x1820, "MONGOLIAN LETTER ", "A|E|I|O|U|OE|UE|EE|NA|ANG|BA|PA|QA|GA|MA|LA|SA|SHA|TA|DA|CHA|JA|YA|RA|WA|FA|KA|KHA|TSA|ZA|HAA|ZRA|LHA|ZHI|CHI"⟩,
  ⟨0x1843, "MONGOLIAN LETTER TODO ", "LONG VOWEL SIGN|E|I|O|U|OE|UE|ANG|BA|PA|QA|GA|MA|TA|DA|CHA|JA|TSA|YA|WA|KA|GAA|HAA|JIA|NIA|DZA"⟩,
  ⟨0x185D, "MONGOLIAN LETTER SIBE ", "E|I|IY|UE|U|ANG|KA|GA|HA|PA|SHA|TA|DA|JA|FA|GAA|HAA|TSA|ZA|RAA|CHA|ZHA"⟩,
  ⟨0x1873, "MONGOLIAN LETTER ", "MANCHU I|MANCHU KA|MANCHU RA|MANCHU FA|MANCHU ZHA|CHA WITH TWO DOTS"⟩,
  ⟨0x1880, "MONGOLIAN LETTER ALI GALI ", "ANUSVARA ONE|VISARGA ONE|DAMARU|UBADAMA|INVERTED UBADAMA|BALUDA|THREE BALUDA|A|I|KA|NGA|CA|TTA|TTHA|DDA|NNA|TA|DA|PA|PHA|SSA|ZHA|ZA|AH"⟩,
  ⟨0x1898, "MONGOLIAN LETTER TODO ALI GALI ", "TA|ZHA"⟩,
  ⟨0x189A, "MONGOLIAN LETTER MANCHU ALI GALI ", "GHA|NGA|CA|JHA|TTA|DDHA|TA|DHA|SSA|CYA|ZHA|ZA"⟩,
  ⟨0x18A6, "MONGOLIAN LETTER ", "ALI GALI HALF U|ALI GALI HALF YA|MANCHU ALI GALI BHA|ALI GALI DAGALGA|MANCHU ALI GALI LHA"⟩,
  ⟨0x18B0, "CANADIAN SYLLABICS ", "OY|AY|AAY|WAY|POY|PAY|PWOY|TAY|KAY|KWAY|MAY|NOY|NAY|LAY|SOY|SAY|SHOY|SHAY|SHWOY|YOY|YAY|RAY|NWI|OJIBWAY NWI|NWII|OJIBWAY NWII|NWO|OJIBWAY NWO|NWOO|OJIBWAY NWOO|RWEE|RWI|RWII|RWO|RWOO|RWA|OJIBWAY P|OJIBWAY T|OJIBWAY K|OJIBWAY C|OJIBWAY M|OJIBWAY N|OJIBWAY S|OJIBWAY SH|EASTERN W|WESTERN W|FINAL SMALL RING|FINAL RAISED DOT|R-CREE RWE|WEST-CREE LOO|WEST-CREE LAA|THWE|THWA|TTHWE|TTHOO|TTHAA|TLHWE|TLHOO|SAYISI SHWE|SAYISI SHOO|SAYISI HOO|CARRIER GWU|CARRIER DENE GEE|CARRIER GAA|CARRIER GWA|SAYISI JUU|CARRIER JWA|BEAVER DENE L|BEAVER DENE R|CARRIER DENTAL S"⟩,
  ⟨0x1900, "LIMBU VOWEL-CARRIER LETTER", ""⟩,
  ⟨0x1901, "LIMBU LETTER ", "KA|KHA|GA|GHA|NGA|CA|CHA|JA|JHA|YAN|TA|THA|DA|DHA|NA|PA|PHA|BA|BHA|MA|YA|RA|LA|WA|SHA|SSA|SA|HA|GYAN|TRA"⟩,
  ⟨0x1920, "LIMBU VOWEL SIGN ", "A|I|U|EE|AI|OO|AU|E|O"⟩,
  ⟨0x1929, "LIMBU SUBJOINED LETTER ", "YA|RA|WA"⟩,
  ⟨0x1930, "LIMBU SMALL LETTER ", "KA|NGA|ANUSVARA|TA|NA|PA|MA|RA|LA"⟩,
  ⟨0x1939, "LIMBU SIGN ", "MUKPHRENG|KEMPHRENG|SA-I"⟩,
  ⟨0x1940, "LIMBU SIGN LOO", ""⟩,
  ⟨0x1944, "LIMBU ", "EXCLAMATION MARK|QUESTION MARK"⟩,
  ⟨0x1946, "LIMBU DIGIT ", "ZERO|ONE|TWO|THREE|FOUR|FIVE|SIX|SEVEN|EIGHT|NINE"⟩,
  ⟨0x1950, "TAI LE LETTER ", "KA|XA|NGA|TSA|SA|YA|TA|THA|LA|PA|PHA|MA|FA|VA|HA|QA|KHA|TSHA|NA|A|I|EE|EH|U|OO|O|UE|E|AUE|AI"⟩,
  ⟨0x1970, "TAI LE LETTER TONE-", "2|3|4|5|6"⟩,
  ⟨0x1980, "NEW TAI LUE LETTER ", "HIGH QA|LOW QA|HIGH KA|HIGH XA|HIGH NGA|LOW KA|LOW XA|LOW NGA|HIGH TSA|HIGH SA|HIGH YA|LOW TSA|LOW SA|LOW YA|HIGH TA|HIGH THA|HIGH NA|LOW TA|LOW THA|LOW NA|HIGH PA|HIGH PHA|HIGH MA|LOW PA|LOW PHA|LOW MA|HIGH FA|HIGH VA|HIGH LA|LOW FA|LOW VA|LOW LA|HIGH HA|HIGH DA|HIGH BA|LOW HA|LOW DA|LOW BA|HIGH KVA|HIGH XVA|LOW KVA|LOW XVA|HIGH SUA|LOW SUA"⟩,
  ⟨0x19B0, "NEW TAI LUE VOWEL SIGN ", "VOWEL SHORTENER|AA|II|U|UU|E|AE|O|OA|UE|AY|AAY|UY|OY|OAY|UEY|IY"⟩,
  ⟨0x19C1, "NEW TAI LUE LETTER FINAL ", "V|NG|N|M|K|D|B"⟩,
  ⟨0x19C8, "NEW TAI LUE TONE MARK-", "1|2"⟩,
  ⟨0x19D0, "NEW TAI LUE DIGIT ", "ZERO|ONE|TWO|THREE|FOUR|FIVE|SIX|SEVEN|EIGHT|NINE"⟩,
  ⟨0x19DA, "NEW TAI LUE THAM DIGIT ONE", ""⟩,
  ⟨0x19DE, "NEW TAI LUE SIGN LAE", "|V"⟩,
  ⟨0x19E0, "KHMER SYMBOL ", "PATHAMASAT|MUOY KOET|PII KOET|BEI KOET|BUON KOET|PRAM KOET|PRAM-MUOY KOET|PRAM-PII KOET|PRAM-BEI KOET|PRAM-BUON KOET|DAP KOET|DAP-MUOY KOET|DAP-PII KOET|DAP-BEI KOET|DAP-BUON KOET|DAP-PRAM KOET|TUTEYASAT|MUOY ROC|PII ROC|BEI ROC|BUON ROC|PRAM ROC|PRAM-MUOY ROC|PRAM-PII ROC|PRAM-BEI ROC|PRAM-BUON ROC|DAP ROC|DAP-MUOY ROC|DAP-PII ROC|DAP-BEI ROC|DAP-BUON ROC|DAP-PRAM ROC"⟩,
  ⟨0x1A00, "BUGINESE LETTER ", "KA|GA|NGA|NGKA|PA|BA|MA|MPA|TA|DA|NA|NRA|CA|JA|NYA|NYCA|YA|RA|LA|VA|SA|A|HA"⟩,
  ⟨0x1A17, "BUGINESE VOWEL SIGN ", "I|U|E|O|AE"⟩,
  ⟨0x1A1E, "BUGINESE ", "PALLAWA|END OF SECTION"⟩,
  ⟨0x1A20, "TAI THAM LETTER ", "HIGH KA|HIGH KHA|HIGH KXA|LOW KA|LOW KXA|LOW KHA|NGA|HIGH CA|HIGH CHA|LOW CA|LOW SA|LOW CHA|NYA|RATA|HIGH RATHA|DA|LOW RATHA|RANA|HIGH TA|HIGH THA|LOW TA|LOW THA|NA|BA|HIGH PA|HIGH PHA|HIGH FA|LOW PA|LOW FA|LOW PHA|MA|LOW YA|HIGH YA|RA|RUE|LA|LUE|WA|HIGH SHA|HIGH SSA|HIGH SA|HIGH HA|LLA|A|LOW HA|I|II|U|UU|EE|OO|LAE|GREAT SA"⟩,
  ⟨0x1A55, "TAI THAM ", "CONSONANT SIGN MEDIAL RA|CONSONANT SIGN MEDIAL LA|CONSONANT SIGN LA TANG LAI|SIGN MAI KANG LAI"⟩,
  ⟨0x1A59, "TAI THAM CONSONANT SIGN ", "FINAL NGA|LOW PA|HIGH RATHA OR LOW PA|MA|BA|SA"⟩,
  ⟨0x1A60, "TAI THAM SIGN SAKOT", ""⟩,
  ⟨0x1A61, "TAI THAM VOWEL SIGN ", "A|MAI SAT|AA|TALL AA|I|II|UE|UUE|U|UU|O|OA BELOW|OY|E|AE|OO|AI|THAM AI|OA ABOVE"⟩,
  ⟨0x1A74, "TAI THAM SIGN ", "MAI KANG|TONE-1|TONE-2|KHUEN TONE-3|KHUEN TONE-4|KHUEN TONE-5|RA HAAM|MAI SAM|KHUEN-LUE KARAN"⟩,
  ⟨0x1A7F, "TAI THAM COMBINING CRYPTOGRAMMIC DOT", ""⟩,
  ⟨0x1A80, "TAI THAM HORA DIGIT ", "ZERO|ONE|TWO|THREE|FOUR|FIVE|SIX|SEVEN|EIGHT|NINE"⟩,
  ⟨0x1A90, "TAI THAM THAM DIGIT ", "ZERO|ONE|TWO|THREE|FOUR|FIVE|SIX|SEVEN|EIGHT|NINE"⟩,
  ⟨0x1AA0, "TAI THAM SIGN ", "WIANG|WIANGWAAK|SAWAN|KEOW|HOY|DOKMAI|REVERSED ROTATED RANA|MAI YAMOK|KAAN|KAANKUU|SATKAAN|SATKAANKUU|HANG|CAANG"⟩,
  ⟨0x1AB0, "COMBINING ", "DOUBLED CIRCUMFLEX ACCENT|DIAERESIS-RING|INFINITY|DOWNWARDS ARROW|TRIPLE DOT|X-X BELOW|WIGGLY LINE BELOW|OPEN MARK BELOW|DOUBLE OPEN MARK BELOW|LIGHT CENTRALIZATION STROKE BELOW|STRONG CENTRALIZATION STROKE BELOW|PARENTHESES ABOVE|DOUBLE PARENTHESES ABOVE|PARENTHESES BELOW|PARENTHESES OVERLAY|LATIN SMALL LETTER W BELOW|LATIN SMALL LETTER TURNED W BELOW|LEFT PARENTHESIS ABOVE LEFT|RIGHT PARENTHESIS ABOVE RIGHT|LEFT PARENTHESIS BELOW LEFT|RIGHT PARENTHESIS BELOW RIGHT|SQUARE BRACKETS ABOVE|NUMBER SIGN ABOVE|INVERTED DOUBLE ARCH ABOVE|PLUS SIGN ABOVE|DOUBLE PLUS SIGN ABOVE|DOUBLE PLUS SIGN BELOW|TRIPLE ACUTE ACCENT"⟩,
  ⟨0x1ACC, "COMBINING LATIN SMALL LETTER INSULAR ", "G|R|T"⟩,
  ⟨0x1B00, "BALINESE SIGN ", "ULU RICEM|ULU CANDRA|CECEK|SURANG|BISAH"⟩,
  ⟨0x1B05, "BALINESE LETTER ", "AKARA|AKARA TEDUNG|IKARA|IKARA TEDUNG|UKARA|UKARA TEDUNG|RA REPA|RA REPA TEDUNG|LA LENGA|LA LENGA TEDUNG|EKARA|AIKARA|OKARA|OKARA TEDUNG|KA|KA MAHAPRANA|GA|GA GORA|NGA|CA|CA LACA|JA|JA JERA|NYA|TA LATIK|TA MURDA MAHAPRANA|DA MURDA ALPAPRANA|DA MURDA MAHAPRANA|NA RAMBAT|TA|TA TAWA|DA|DA MADU|NA|PA|PA KAPAL|BA|BA KEMBANG|MA|YA|RA|LA|WA|SA SAGA|SA SAPA|SA|HA"⟩,
  ⟨0x1B34, "BALINESE SIGN REREKAN", ""⟩,
  ⟨0x1B35, "BALINESE VOWEL SIGN ", "TEDUNG|ULU|ULU SARI|SUKU|SUKU ILUT|RA REPA|RA REPA TEDUNG|LA LENGA|LA LENGA TEDUNG|TALING|TALING REPA|TALING TEDUNG|TALING REPA TEDUNG|PEPET|PEPET TEDUNG"⟩,
  ⟨0x1B44, "BALINESE ADEG ADEG", ""⟩,
  ⟨0x1B45, "BALINESE LETTER ", "KAF SASAK|KHOT SASAK|TZIR SASAK|EF SASAK|VE SASAK|ZAL SASAK|ASYURA SASAK|ARCHAIC JNYA"⟩,
  ⟨0x1B50, "BALINESE DIGIT ", "ZERO|ONE|TWO|THREE|FOUR|FIVE|SIX|SEVEN|EIGHT|NINE"⟩,
  ⟨0x1B5A, "BALINESE ", "PANTI|PAMADA|WINDU|CARIK PAMUNGKAH|CARIK SIKI|CARIK PAREREN|PAMENENG"⟩,
  ⟨0x1B61, "BALINESE MUSICAL SYMBOL D", "ONG|ENG|UNG|ANG|ANG SURANG|ING|AENG|EUNG|AING|ANG GEDE"⟩,
  ⟨0x1B6B, "BALINESE MUSICAL SYMBOL COMBINING ", "TEGEH|ENDEP|KEMPUL|KEMPLI|JEGOGAN|KEMPUL WITH JEGOGAN|KEMPLI WITH JEGOGAN|BENDE|GONG"⟩,
  ⟨0x1B74, "BALINESE MUSICAL SYMBOL RIGHT-HAND ", "OPEN DUG|OPEN DAG|CLOSED TUK|CLOSED TAK"⟩,
  ⟨0x1B78, "BALINESE MUSICAL SYMBOL LEFT-HAND ", "OPEN PANG|OPEN PUNG|CLOSED PLAK|CLOSED PLUK|OPEN PING"⟩,
  ⟨0x1B7D, "BALINESE PA", "NTI LANTANG|MADA LANTANG"⟩,
  ⟨0x1B80, "SUNDANESE SIGN PAN", "YECEK|GLAYAR|GWISAD"⟩,
  ⟨0x1B83, "SUNDANESE LETTER ", "A|I|U|AE|O|E|EU|KA|QA|GA|NGA|CA|JA|ZA|NYA|TA|DA|NA|PA|FA|VA|BA|MA|YA|RA|LA|WA|SA|XA|HA"⟩,
  ⟨0x1BA1, "SUNDANESE CONSONANT SIGN PA", "MINGKAL|NYAKRA|NYIKU"⟩,
  ⟨0x1BA4, "SUNDANESE VOWEL SIGN PA", "NGHULU|NYUKU|NAELAENG|NOLONG|MEPET|NEULEUNG"⟩,
  ⟨0x1BAA, "SUNDANESE ", "SIGN PAMAAEH|SIGN VIRAMA|CONSONANT SIGN PASANGAN MA|CONSONANT SIGN PASANGAN WA|LETTER KHA|LETTER SYA|DIGIT ZERO|DIGIT ONE|DIGIT TWO|DIGIT THREE|DIGIT FOUR|DIGIT FIVE|DIGIT SIX|DIGIT SEVEN|DIGIT EIGHT|DIGIT NINE|AVAGRAHA|LETTER REU|LETTER LEU|LETTER BHA|LETTER FINAL K|LETTER FINAL M"⟩,
  ⟨0x1BC0, "BATAK LETTER ", "A|SIMALUNGUN A|HA|SIMALUNGUN HA|MANDAILING HA|BA|KARO BA|PA|SIMALUNGUN PA|NA|MANDAILING NA|WA|SIMALUNGUN WA|PAKPAK WA|GA|SIMALUNGUN GA|JA|DA|RA|SIMALUNGUN RA|MA|SIMALUNGUN MA|SOUTHERN TA|NORTHERN TA|SA|SIMALUNGUN SA|MANDAILING SA|YA|SIMALUNGUN YA|NGA|LA|SIMALUNGUN LA|NYA|CA|NDA|MBA|I|U"⟩,
  ⟨0x1BE6, "BATAK SIGN TOMPI", ""⟩,
  ⟨0x1BE7, "BATAK VOWEL SIGN ", "E|PAKPAK E|EE|I|KARO I|O|KARO O|U|U FOR SIMALUNGUN SA"⟩,
  ⟨0x1BF0, "BATAK ", "CONSONANT SIGN NG|CONSONANT SIGN H|PANGOLAT|PANONGONAN"⟩,
  ⟨0x1BFC, "BATAK SYMBOL BINDU ", "NA METEK|PINARBORAS|JUDUL|PANGOLAT"⟩,
  ⟨0x1C00, "LEPCHA LETTER ", "KA|KLA|KHA|GA|GLA|NGA|CA|CHA|JA|NYA|TA|THA|DA|NA|PA|PLA|PHA|FA|FLA|BA|BLA|MA|MLA|TSA|TSHA|DZA|YA|RA|LA|HA|HLA|VA|SA|SHA|WA|A"⟩,
  ⟨0x1C24, "LEPCHA SUBJOINED LETTER ", "YA|RA"⟩,
  ⟨0x1C26, "LEPCHA VOWEL SIGN ", "AA|I|O|OO|U|UU|E"⟩,
  ⟨0x1C2D, "LEPCHA CONSONANT SIGN ", "K|M|L|N|P|R|T|NYIN-DO|KANG"⟩,
  ⟨0x1C36, "LEPCHA SIGN ", "RAN|NUKTA"⟩,
  ⟨0x1C3B, "LEPCHA PUNCTUATION ", "TA-ROL|NYET THYOOM TA-ROL|CER-WA|TSHOOK CER-WA|TSHOOK"⟩,
  ⟨0x1C40, "LEPCHA DIGIT ", "ZERO|ONE|TWO|THREE|FOUR|FIVE|SIX|SEVEN|EIGHT|NINE"⟩,
  ⟨0x1C4D, "LEPCHA LETTER ", "TTA|TTHA|DDA"⟩,
  ⟨0x1C50, "OL CHIKI DIGIT ", "ZERO|ONE|TWO|THREE|FOUR|FIVE|SIX|SEVEN|EIGHT|NINE"⟩,
  ⟨0x1C5A, "OL CHIKI LETTER ", "LA|AT|AG|ANG|AL|LAA|AAK|AAJ|AAM|AAW|LI|IS|IH|INY|IR|LU|UC|UD|UNN|UY|LE|EP|EDD|EN|ERR|LO|OTT|OB|OV|OH"⟩,
  ⟨0x1C78, "OL CHIKI ", "MU TTUDDAG|GAAHLAA TTUDDAAG|MU-GAAHLAA TTUDDAAG|RELAA|PHAARKAA|AHAD|PUNCTUATION MUCAAD|PUNCTUATION DOUBLE MUCAAD"⟩,
  ⟨0x1C80, "CYRILLIC SMALL LETTER ", "ROUNDED VE|LONG-LEGGED DE|NARROW O|WIDE ES|TALL TE|THREE-LEGGED TE|TALL HARD SIGN|TALL YAT|UNBLENDED UK"⟩,
  ⟨0x1C90, "GEORGIAN MTAVRULI CAPITAL LETTER ", "AN|BAN|GAN|DON|EN|VIN|ZEN|TAN|IN|KAN|LAS|MAN|NAR|ON|PAR|ZHAR|RAE|SAN|TAR|UN|PHAR|KHAR|GHAN|QAR|SHIN|CHIN|CAN|JIL|CIL|CHAR|XAN|JHAN|HAE|HE|HIE|WE|HAR|HOE|FI|YN|ELIFI|TURNED GAN|AIN"⟩,
  ⟨0x1CBD, "GEORGIAN MTAVRULI CAPITAL LETTER ", "AEN|HARD SIGN|LABIAL SIGN"⟩,
  ⟨0x1CC0, "SUNDANESE PUNCTUATION BINDU ", "SURYA|PANGLONG|PURNAMA|CAKRA|LEU SATANGA|KA SATANGA|DA SATANGA|BA SATANGA"⟩,
  ⟨0x1CD0, "VEDIC ", "TONE KARSHANA|TONE SHARA|TONE PRENKHA|SIGN NIHSHVASA|SIGN YAJURVEDIC MIDLINE SVARITA"⟩,
  ⟨0x1CD5, "VEDIC TONE ", "YAJURVEDIC AGGRAVATED INDEPENDENT SVARITA|YAJURVEDIC INDEPENDENT SVARITA|YAJURVEDIC KATHAKA INDEPENDENT SVARITA|CANDRA BELOW|YAJURVEDIC KATHAKA INDEPENDENT SVARITA SCHROEDER|DOUBLE SVARITA|TRIPLE SVARITA|KATHAKA ANUDATTA|DOT BELOW|TWO DOTS BELOW|THREE DOTS BELOW|RIGVEDIC KASHMIRI INDEPENDENT SVARITA|ATHARVAVEDIC INDEPENDENT SVARITA"⟩,
  ⟨0x1CE2, "VEDIC SIGN ", "VISARGA SVARITA|VISARGA UDATTA|REVERSED VISARGA UDATTA|VISARGA ANUDATTA|REVERSED VISARGA ANUDATTA|VISARGA UDATTA WITH TAIL|VISARGA ANUDATTA WITH TAIL|ANUSVARA ANTARGOMUKHA|ANUSVARA BAHIRGOMUKHA|ANUSVARA VAMAGOMUKHA|ANUSVARA VAMAGOMUKHA WITH TAIL|TIRYAK|HEXIFORM LONG ANUSVARA|LONG ANUSVARA|RTHANG LONG ANUSVARA|ANUSVARA UBHAYATO MUKHA|ARDHAVISARGA|ROTATED ARDHAVISARGA"⟩,
  ⟨0x1CF4, "VEDIC ", "TONE CANDRA ABOVE|SIGN JIHVAMULIYA|SIGN UPADHMANIYA|SIGN ATIKRAMA|TONE RING ABOVE|TONE DOUBLE RING ABOVE|SIGN DOUBLE ANUSVARA ANTARGOMUKHA"⟩,
  ⟨0x1D00, "LATIN ", "LETTER SMALL CAPITAL A|LETTER SMALL CAPITAL AE|SMALL LETTER TURNED AE"⟩,
  ⟨0x1D03, "LATIN LETTER SMALL CAPITAL ", "BARRED B|C|D|ETH|E"⟩,
  ⟨0x1D08, "LATIN SMALL LETTER TURNED ", "OPEN E|I"⟩,
  ⟨0x1D0A, "LATIN LETTER SMALL CAPITAL ", "J|K|L WITH STROKE|M|REVERSED N|O|OPEN O"⟩,
  ⟨0x1D11, "LATIN SMALL LETTER SIDEWAYS O", "|PEN O| WITH STROKE"⟩,
  ⟨0x1D14, "LATIN ", "SMALL LETTER TURNED OE|LETTER SMALL CAPITAL OU|SMALL LETTER TOP HALF O|SMALL LETTER BOTTOM HALF O"⟩,
  ⟨0x1D18, "LATIN LETTER SMALL CAPITAL ", "P|REVERSED R|TURNED R|T|U"⟩,
  ⟨0x1D1D, "LATIN SMALL LETTER SIDEWAYS ", "U|DIAERESIZED U|TURNED M"⟩,
  ⟨0x1D20, "LATIN LETTER SMALL CAPITAL ", "V|W|Z|EZH"⟩,
  ⟨0x1D24, "LATIN LETTER ", "VOICED LARYNGEAL SPIRANT|AIN"⟩,
  ⟨0x1D26, "GREEK LETTER SMALL CAPITAL ", "GAMMA|LAMDA|PI|RHO|PSI"⟩,
  ⟨0x1D2B, "CYRILLIC LETTER SMALL CAPITAL EL", ""⟩,
  ⟨0x1D2C, "MODIFIER LETTER CAPITAL ", "A|AE|B|BARRED B|D|E|REVERSED E|G|H|I|J|K|L|M|N|REVERSED N|O|OU|P|R|T|U|W"⟩,
  ⟨0x1D43, "MODIFIER LETTER SMALL ", "A|TURNED A|ALPHA|TURNED AE|B|D|E|SCHWA|OPEN E|TURNED OPEN E|G|TURNED I|K|M|ENG|O|OPEN O|TOP HALF O|BOTTOM HALF O|P|T|U|SIDEWAYS U|TURNED M|V|AIN|BETA|GREEK GAMMA|DELTA|GREEK PHI|CHI"⟩,
  ⟨0x1D62, "LATIN SUBSCRIPT SMALL LETTER ", "I|R|U|V"⟩,
  ⟨0x1D66, "GREEK SUBSCRIPT SMALL LETTER ", "BETA|GAMMA|RHO|PHI|CHI"⟩,
  ⟨0x1D6B, "LATIN SMALL LETTER ", "UE|B WITH MIDDLE TILDE|D WITH MIDDLE TILDE|F WITH MIDDLE TILDE|M WITH MIDDLE TILDE|N WITH MIDDLE TILDE|P WITH MIDDLE TILDE|R WITH MIDDLE TILDE|R WITH FISHHOOK AND MIDDLE TILDE|S WITH MIDDLE TILDE|T WITH MIDDLE TILDE|Z WITH MIDDLE TILDE|TURNED G"⟩,
  ⟨0x1D78, "MODIFIER LETTER CYRILLIC EN", ""⟩,
  ⟨0x1D79, "LATIN SMALL ", "LETTER INSULAR G|LETTER TH WITH STRIKETHROUGH|CAPITAL LETTER I WITH STROKE|LETTER IOTA WITH STROKE|LETTER P WITH STROKE|CAPITAL LETTER U WITH STROKE"⟩,
  ⟨0x1D7F, "LATIN SMALL LETTER ", "UPSILON WITH STROKE|B WITH PALATAL HOOK|D WITH PALATAL HOOK|F WITH PALATAL HOOK|G WITH PALATAL HOOK|K WITH PALATAL HOOK|L WITH PALATAL HOOK|M WITH PALATAL HOOK|N WITH PALATAL HOOK|P WITH PALATAL HOOK|R WITH PALATAL HOOK|S WITH PALATAL HOOK|ESH WITH PALATAL HOOK|V WITH PALATAL HOOK|X WITH PALATAL HOOK|Z WITH PALATAL HOOK|A WITH RETROFLEX HOOK|ALPHA WITH RETROFLEX HOOK|D WITH HOOK AND TAIL|E WITH RETROFLEX HOOK|OPEN E WITH RETROFLEX HOOK|REVERSED OPEN E WITH RETROFLEX HOOK|SCHWA WITH RETROFLEX HOOK|I WITH RETROFLEX HOOK|OPEN O WITH RETROFLEX HOOK|ESH WITH RETROFLEX HOOK|U WITH RETROFLEX HOOK|EZH WITH RETROFLEX HOOK"⟩,
  ⟨0x1D9B, "MODIFIER LETTER SMALL ", "TURNED ALPHA|C|C WITH CURL|ETH|REVERSED OPEN E|F|DOTLESS J WITH STROKE|SCRIPT G|TURNED H|I WITH STROKE|IOTA|CAPITAL I|CAPITAL I WITH STROKE|J WITH CROSSED-TAIL|L WITH RETROFLEX HOOK|L WITH PALATAL HOOK|CAPITAL L|M WITH HOOK|TURNED M WITH LONG LEG|N WITH LEFT HOOK|N WITH RETROFLEX HOOK|CAPITAL N|BARRED O|PHI|S WITH HOOK|ESH|T WITH PALATAL HOOK|U BAR|UPSILON|CAPITAL U|V WITH HOOK|TURNED V|Z|Z WITH RETROFLEX HOOK|Z WITH CURL|EZH|THETA"⟩,
  ⟨0x1DC0, "COMBINING ", "DOTTED GRAVE ACCENT|DOTTED ACUTE ACCENT|SNAKE BELOW|SUSPENSION MARK|MACRON-ACUTE|GRAVE-MACRON|MACRON-GRAVE|ACUTE-MACRON|GRAVE-ACUTE-GRAVE|ACUTE-GRAVE-ACUTE|LATIN SMALL LETTER R BELOW|BREVE-MACRON|MACRON-BREVE|DOUBLE CIRCUMFLEX ABOVE|OGONEK ABOVE|ZIGZAG BELOW|IS BELOW|UR ABOVE|US ABOVE"⟩,
  ⟨0x1DD3, "COMBINING LATIN SMALL LETTER ", "FLATTENED OPEN A ABOVE|AE|AO|AV|C CEDILLA|INSULAR D|ETH|G"⟩,
  ⟨0x1DDB, "COMBINING LATIN ", "LETTER SMALL CAPITAL G|SMALL LETTER K|SMALL LETTER L|LETTER SMALL CAPITAL L|LETTER SMALL CAPITAL M|SMALL LETTER N|LETTER SMALL CAPITAL N|LETTER SMALL CAPITAL R"⟩,
  ⟨0x1DE3, "COMBINING LATIN SMALL LETTER ", "R ROTUNDA|S|LONG S|Z|ALPHA|B|BETA|SCHWA|F|L WITH DOUBLE MIDDLE TILDE|O WITH LIGHT CENTRALIZATION STROKE|P|ESH|U WITH LIGHT CENTRALIZATION STROKE|W|A WITH DIAERESIS|O WITH DIAERESIS|U WITH DIAERESIS"⟩,
  ⟨0x1DF5, "COMBINING ", "UP TACK ABOVE|KAVYKA ABOVE RIGHT|KAVYKA ABOVE LEFT|DOT ABOVE LEFT|WIDE INVERTED BRIDGE BELOW|DOT BELOW LEFT|DELETION MARK|DOUBLE INVERTED BREVE BELOW|ALMOST EQUAL TO BELOW|LEFT ARROWHEAD ABOVE|RIGHT ARROWHEAD AND DOWN ARROWHEAD BELOW"⟩,
  ⟨0x1E00, "LATIN ", "CAPITAL LETTER A WITH RING BELOW|SMALL LETTER A WITH RING BELOW|CAPITAL LETTER B WITH DOT ABOVE|SMALL LETTER B WITH DOT ABOVE|CAPITAL LETTER B WITH DOT BELOW|SMALL LETTER B WITH DOT BELOW|CAPITAL LETTER B WITH LINE BELOW|SMALL LETTER B WITH LINE BELOW|CAPITAL LETTER C WITH CEDILLA AND ACUTE|SMALL LETTER C WITH CEDILLA AND ACUTE|CAPITAL LETTER D WITH DOT ABOVE|SMALL LETTER D WITH DOT ABOVE|CAPITAL LETTER D WITH DOT BELOW|SMALL LETTER D WITH DOT BELOW|CAPITAL LETTER D WITH LINE BELOW|SMALL LETTER D WITH LINE BELOW|CAPITAL LETTER D WITH CEDILLA|SMALL LETTER D WITH CEDILLA|CAPITAL LETTER D WITH CIRCUMFLEX BELOW|SMALL LETTER D WITH CIRCUMFLEX BELOW|CAPITAL LETTER E WITH MACRON AND GRAVE|SMALL LETTER E WITH MACRON AND GRAVE|CAPITAL LETTER E WITH MACRON AND ACUTE|SMALL LETTER E WITH MACRON AND ACUTE|CAPITAL LETTER E WITH CIRCUMFLEX BELOW|SMALL LETTER E WITH CIRCUMFLEX BELOW|CAPITAL LETTER E WITH TILDE BELOW|SMALL LETTER E WITH TILDE BELOW|CAPITAL LETTER E WITH CEDILLA AND BREVE|SMALL LETTER E WITH CEDILLA AND BREVE|CAPITAL LETTER F WITH DOT ABOVE|SMALL LETTER F WITH DOT ABOVE|CAPITAL LETTER G WITH MACRON|SMALL LETTER G WITH MACRON|CAPITAL LETTER H WITH DOT ABOVE|SMALL LETTER H WITH DOT ABOVE|CAPITAL LETTER H WITH DOT BELOW|SMALL LETTER H WITH DOT BELOW|CAPITAL LETTER H WITH DIAERESIS|SMALL LETTER H WITH DIAERESIS|CAPITAL LETTER H WITH CEDILLA|SMALL LETTER H WITH CEDILLA|CAPITAL LETTER H WITH BREVE BELOW|SMALL LETTER H WITH BREVE BELOW|CAPITAL LETTER I WITH TILDE BELOW"⟩,
  ⟨0x1E2D, "LATIN ", "SMALL LETTER I WITH TILDE BELOW|CAPITAL LETTER I WITH DIAERESIS AND ACUTE|SMALL LETTER I WITH DIAERESIS AND ACUTE|CAPITAL LETTER K WITH ACUTE|SMALL LETTER K WITH ACUTE|CAPITAL LETTER K WITH DOT BELOW|SMALL LETTER K WITH DOT BELOW|CAPITAL LETTER K WITH LINE BELOW|SMALL LETTER K WITH LINE BELOW|CAPITAL LETTER L WITH DOT BELOW|SMALL LETTER L WITH DOT BELOW|CAPITAL LETTER L WITH DOT BELOW AND MACRON|SMALL LETTER L WITH DOT BELOW AND MACRON|CAPITAL LETTER L WITH LINE BELOW|SMALL LETTER L WITH LINE BELOW|CAPITAL LETTER L WITH CIRCUMFLEX BELOW|SMALL LETTER L WITH CIRCUMFLEX BELOW|CAPITAL LETTER M WITH ACUTE|SMALL LETTER M WITH ACUTE|CAPITAL LETTER M WITH DOT ABOVE|SMALL LETTER M WITH DOT ABOVE|CAPITAL LETTER M WITH DOT BELOW|SMALL LETTER M WITH DOT BELOW|CAPITAL LETTER N WITH DOT ABOVE|SMALL LETTER N WITH DOT ABOVE|CAPITAL LETTER N WITH DOT BELOW|SMALL LETTER N WITH DOT BELOW|CAPITAL LETTER N WITH LINE BELOW|SMALL LETTER N WITH LINE BELOW|CAPITAL LETTER N WITH CIRCUMFLEX BELOW|SMALL LETTER N WITH CIRCUMFLEX BELOW|CAPITAL LETTER O WITH TILDE AND ACUTE|SMALL LETTER O WITH TILDE AND ACUTE|CAPITAL LETTER O WITH TILDE AND DIAERESIS|SMALL LETTER O WITH TILDE AND DIAERESIS|CAPITAL LETTER O WITH MACRON AND GRAVE|SMALL LETTER O WITH MACRON AND GRAVE|CAPITAL LETTER O WITH MACRON AND ACUTE|SMALL LETTER O WITH MACRON AND ACUTE|CAPITAL LETTER P WITH ACUTE|SMALL LETTER P WITH ACUTE|CAPITAL LETTER P WITH DOT ABOVE|SMALL LETTER P WITH DOT ABOVE|CAPITAL LETTER R WITH DOT ABOVE"⟩,
  ⟨0x1E59, "LATIN ", "SMALL LETTER R WITH DOT ABOVE|CAPITAL LETTER R WITH DOT BELOW|SMALL LETTER R WITH DOT BELOW|CAPITAL LETTER R WITH DOT BELOW AND MACRON|SMALL LETTER R WITH DOT BELOW AND MACRON|CAPITAL LETTER R WITH LINE BELOW|SMALL LETTER R WITH LINE BELOW|CAPITAL LETTER S WITH DOT ABOVE|SMALL LETTER S WITH DOT ABOVE|CAPITAL LETTER S WITH DOT BELOW|SMALL LETTER S WITH DOT BELOW|CAPITAL LETTER S WITH ACUTE AND DOT ABOVE|SMALL LETTER S WITH ACUTE AND DOT ABOVE|CAPITAL LETTER S WITH CARON AND DOT ABOVE|SMALL LETTER S WITH CARON AND DOT ABOVE|CAPITAL LETTER S WITH DOT BELOW AND DOT ABOVE|SMALL LETTER S WITH DOT BELOW AND DOT ABOVE|CAPITAL LETTER T WITH DOT ABOVE|SMALL LETTER T WITH DOT ABOVE|CAPITAL LETTER T WITH DOT BELOW|SMALL LETTER T WITH DOT BELOW|CAPITAL LETTER T WITH LINE BELOW|SMALL LETTER T WITH LINE BELOW|CAPITAL LETTER T WITH CIRCUMFLEX BELOW|SMALL LETTER T WITH CIRCUMFLEX BELOW|CAPITAL LETTER U WITH DIAERESIS BELOW|SMALL LETTER U WITH DIAERESIS BELOW|CAPITAL LETTER U WITH TILDE BELOW|SMALL LETTER U WITH TILDE BELOW|CAPITAL LETTER U WITH CIRCUMFLEX BELOW|SMALL LETTER U WITH CIRCUMFLEX BELOW|CAPITAL LETTER U WITH TILDE AND ACUTE|SMALL LETTER U WITH TILDE AND ACUTE|CAPITAL LETTER U WITH MACRON AND DIAERESIS|SMALL LETTER U WITH MACRON AND DIAERESIS|CAPITAL LETTER V WITH TILDE|SMALL LETTER V WITH TILDE|CAPITAL LETTER V WITH DOT BELOW|SMALL LETTER V WITH DOT BELOW|CAPITAL LETTER W WITH GRAVE|SMALL LETTER W WITH GRAVE|CAPITAL LETTER W WITH ACUTE|SMALL LETTER W WITH ACUTE"⟩,
  ⟨0x1E84, "LATIN ", "CAPITAL LETTER W WITH DIAERESIS|SMALL LETTER W WITH DIAERESIS|CAPITAL LETTER W WITH DOT ABOVE|SMALL LETTER W WITH DOT ABOVE|CAPITAL LETTER W WITH DOT BELOW|SMALL LETTER W WITH DOT BELOW|CAPITAL LETTER X WITH DOT ABOVE|SMALL LETTER X WITH DOT ABOVE|CAPITAL LETTER X WITH DIAERESIS|SMALL LETTER X WITH DIAERESIS|CAPITAL LETTER Y WITH DOT ABOVE|SMALL LETTER Y WITH DOT ABOVE|CAPITAL LETTER Z WITH CIRCUMFLEX|SMALL LETTER Z WITH CIRCUMFLEX|CAPITAL LETTER Z WITH DOT BELOW|SMALL LETTER Z WITH DOT BELOW|CAPITAL LETTER Z WITH LINE BELOW"⟩,
  ⟨0x1E95, "LATIN SMALL LETTER ", "Z WITH LINE BELOW|H WITH LINE BELOW|T WITH DIAERESIS|W WITH RING ABOVE|Y WITH RING ABOVE|A WITH RIGHT HALF RING|LONG S WITH DOT ABOVE|LONG S WITH DIAGONAL STROKE|LONG S WITH HIGH STROKE"⟩,
  ⟨0x1E9E, "LATIN ", "CAPITAL LETTER SHARP S|SMALL LETTER DELTA|CAPITAL LETTER A WITH DOT BELOW|SMALL LETTER A WITH DOT BELOW|CAPITAL LETTER A WITH HOOK ABOVE|SMALL LETTER A WITH HOOK ABOVE|CAPITAL LETTER A WITH CIRCUMFLEX AND ACUTE|SMALL LETTER A WITH CIRCUMFLEX AND ACUTE|CAPITAL LETTER A WITH CIRCUMFLEX AND GRAVE|SMALL LETTER A WITH CIRCUMFLEX AND GRAVE|CAPITAL LETTER A WITH CIRCUMFLEX AND HOOK ABOVE|SMALL LETTER A WITH CIRCUMFLEX AND HOOK ABOVE|CAPITAL LETTER A WITH CIRCUMFLEX AND TILDE|SMALL LETTER A WITH CIRCUMFLEX AND TILDE|CAPITAL LETTER A WITH CIRCUMFLEX AND DOT BELOW|SMALL LETTER A WITH CIRCUMFLEX AND DOT BELOW|CAPITAL LETTER A WITH BREVE AND ACUTE|SMALL LETTER A WITH BREVE AND ACUTE|CAPITAL LETTER A WITH BREVE AND GRAVE|SMALL LETTER A WITH BREVE AND GRAVE|CAPITAL LETTER A WITH BREVE AND HOOK ABOVE|SMALL LETTER A WITH BREVE AND HOOK ABOVE|CAPITAL LETTER A WITH BREVE AND TILDE|SMALL LETTER A WITH BREVE AND TILDE|CAPITAL LETTER A WITH BREVE AND DOT BELOW|SMALL LETTER A WITH BREVE AND DOT BELOW|CAPITAL LETTER E WITH DOT BELOW|SMALL LETTER E WITH DOT BELOW|CAPITAL LETTER E WITH HOOK ABOVE|SMALL LETTER E WITH HOOK ABOVE|CAPITAL LETTER E WITH TILDE|SMALL LETTER E WITH TILDE|CAPITAL LETTER E WITH CIRCUMFLEX AND ACUTE|SMALL LETTER E WITH CIRCUMFLEX AND ACUTE|CAPITAL LETTER E WITH CIRCUMFLEX AND GRAVE|SMALL LETTER E WITH CIRCUMFLEX AND GRAVE|CAPITAL LETTER E WITH CIRCUMFLEX AND HOOK ABOVE|SMALL LETTER E WITH CIRCUMFLEX AND HOOK ABOVE|CAPITAL LETTER E WITH CIRCUMFLEX AND TILDE"⟩,
  ⟨0x1EC5, "LATIN ", "SMALL LETTER E WITH CIRCUMFLEX AND TILDE|CAPITAL LETTER E WITH CIRCUMFLEX AND DOT BELOW|SMALL LETTER E WITH CIRCUMFLEX AND DOT BELOW|CAPITAL LETTER I WITH HOOK ABOVE|SMALL LETTER I WITH HOOK ABOVE|CAPITAL LETTER I WITH DOT BELOW|SMALL LETTER I WITH DOT BELOW|CAPITAL LETTER O WITH DOT BELOW|SMALL LETTER O WITH DOT BELOW|CAPITAL LETTER O WITH HOOK ABOVE|SMALL LETTER O WITH HOOK ABOVE|CAPITAL LETTER O WITH CIRCUMFLEX AND ACUTE|SMALL LETTER O WITH CIRCUMFLEX AND ACUTE|CAPITAL LETTER O WITH CIRCUMFLEX AND GRAVE|SMALL LETTER O WITH CIRCUMFLEX AND GRAVE|CAPITAL LETTER O WITH CIRCUMFLEX AND HOOK ABOVE|SMALL LETTER O WITH CIRCUMFLEX AND HOOK ABOVE|CAPITAL LETTER O WITH CIRCUMFLEX AND TILDE|SMALL LETTER O WITH CIRCUMFLEX AND TILDE|CAPITAL LETTER O WITH CIRCUMFLEX AND DOT BELOW|SMALL LETTER O WITH CIRCUMFLEX AND DOT BELOW|CAPITAL LETTER O WITH HORN AND ACUTE|SMALL LETTER O WITH HORN AND ACUTE|CAPITAL LETTER O WITH HORN AND GRAVE|SMALL LETTER O WITH HORN AND GRAVE|CAPITAL LETTER O WITH HORN AND HOOK ABOVE|SMALL LETTER O WITH HORN AND HOOK ABOVE|CAPITAL LETTER O WITH HORN AND TILDE|SMALL LETTER O WITH HORN AND TILDE|CAPITAL LETTER O WITH HORN AND DOT BELOW|SMALL LETTER O WITH HORN AND DOT BELOW|CAPITAL LETTER U WITH DOT BELOW|SMALL LETTER U WITH DOT BELOW|CAPITAL LETTER U WITH HOOK ABOVE|SMALL LETTER U WITH HOOK ABOVE|CAPITAL LETTER U WITH HORN AND ACUTE|SMALL LETTER U WITH HORN AND ACUTE|CAPITAL LETTER U WITH HORN AND GRAVE|SMALL LETTER U WITH HORN AND GRAVE"⟩,
  ⟨0x1EEC, "LATIN ", "CAPITAL LETTER U WITH HORN AND HOOK ABOVE|SMALL LETTER U WITH HORN AND HOOK ABOVE|CAPITAL LETTER U WITH HORN AND TILDE|SMALL LETTER U WITH HORN AND TILDE|CAPITAL LETTER U WITH HORN AND DOT BELOW|SMALL LETTER U WITH HORN AND DOT BELOW|CAPITAL LETTER Y WITH GRAVE|SMALL LETTER Y WITH GRAVE|CAPITAL LETTER Y WITH DOT BELOW|SMALL LETTER Y WITH DOT BELOW|CAPITAL LETTER Y WITH HOOK ABOVE|SMALL LETTER Y WITH HOOK ABOVE|CAPITAL LETTER Y WITH TILDE|SMALL LETTER Y WITH TILDE|CAPITAL LETTER MIDDLE-WELSH LL|SMALL LETTER MIDDLE-WELSH LL|CAPITAL LETTER MIDDLE-WELSH V|SMALL LETTER MIDDLE-WELSH V|CAPITAL LETTER Y WITH LOOP|SMALL LETTER Y WITH LOOP"⟩,
  ⟨0x1F00, "GREEK SMALL LETTER ALPHA WITH ", "PSILI|DASIA|PSILI AND VARIA|DASIA AND VARIA|PSILI AND OXIA|DASIA AND OXIA|PSILI AND PERISPOMENI|DASIA AND PERISPOMENI"⟩,
  ⟨0x1F08, "GREEK CAPITAL LETTER ALPHA WITH ", "PSILI|DASIA|PSILI AND VARIA|DASIA AND VARIA|PSILI AND OXIA|DASIA AND OXIA|PSILI AND PERISPOMENI|DASIA AND PERISPOMENI"⟩,
  ⟨0x1F10, "GREEK SMALL LETTER EPSILON WITH ", "PSILI|DASIA|PSILI AND VARIA|DASIA AND VARIA|PSILI AND OXIA|DASIA AND OXIA"⟩,
  ⟨0x1F18, "GREEK CAPITAL LETTER EPSILON WITH ", "PSILI|DASIA|PSILI AND VARIA|DASIA AND VARIA|PSILI AND OXIA|DASIA AND OXIA"⟩,
  ⟨0x1F20, "GREEK SMALL LETTER ETA WITH ", "PSILI|DASIA|PSILI AND VARIA|DASIA AND VARIA|PSILI AND OXIA|DASIA AND OXIA|PSILI AND PERISPOMENI|DASIA AND PERISPOMENI"⟩,
  ⟨0x1F28, "GREEK CAPITAL LETTER ETA WITH ", "PSILI|DASIA|PSILI AND VARIA|DASIA AND VARIA|PSILI AND OXIA|DASIA AND OXIA|PSILI AND PERISPOMENI|DASIA AND PERISPOMENI"⟩,
  ⟨0x1F30, "GREEK SMALL LETTER IOTA WITH ", "PSILI|DASIA|PSILI AND VARIA|DASIA AND VARIA|PSILI AND OXIA|DASIA AND OXIA|PSILI AND PERISPOMENI|DASIA AND PERISPOMENI"⟩,
  ⟨0x1F38, "GREEK CAPITAL LETTER IOTA WITH ", "PSILI|DASIA|PSILI AND VARIA|DASIA AND VARIA|PSILI AND OXIA|DASIA AND OXIA|PSILI AND PERISPOMENI|DASIA AND PERISPOMENI"⟩,
  ⟨0x1F40, "GREEK SMALL LETTER OMICRON WITH ", "PSILI|DASIA|PSILI AND VARIA|DASIA AND VARIA|PSILI AND OXIA|DASIA AND OXIA"⟩,
  ⟨0x1F48, "GREEK CAPITAL LETTER OMICRON WITH ", "PSILI|DASIA|PSILI AND VARIA|DASIA AND VARIA|PSILI AND OXIA|DASIA AND OXIA"⟩,
  ⟨0x1F50, "GREEK SMALL LETTER UPSILON WITH ", "PSILI|DASIA|PSILI AND VARIA|DASIA AND VARIA|PSILI AND OXIA|DASIA AND OXIA|PSILI AND PERISPOMENI|DASIA AND PERISPOMENI"⟩,
  ⟨0x1F59, "GREEK CAPITAL LETTER UPSILON WITH DASIA", ""⟩,
  ⟨0x1F5B, "GREEK CAPITAL LETTER UPSILON WITH DASIA AND VARIA", ""⟩,
  ⟨0x1F5D, "GREEK CAPITAL LETTER UPSILON WITH DASIA AND OXIA", ""⟩,
  ⟨0x1F5F, "GREEK CAPITAL LETTER UPSILON WITH DASIA AND PERISPOMENI", ""⟩,
  ⟨0x1F60, "GREEK SMALL LETTER OMEGA WITH ", "PSILI|DASIA|PSILI AND VARIA|DASIA AND VARIA|PSILI AND OXIA|DASIA AND OXIA|PSILI AND PERISPOMENI|DASIA AND PERISPOMENI"⟩,
  ⟨0x1F68, "GREEK CAPITAL LETTER OMEGA WITH ", "PSILI|DASIA|PSILI AND VARIA|DASIA AND VARIA|PSILI AND OXIA|DASIA AND OXIA|PSILI AND PERISPOMENI|DASIA AND PERISPOMENI"⟩,
  ⟨0x1F70, "GREEK SMALL LETTER ", "ALPHA WITH VARIA|ALPHA WITH OXIA|EPSILON WITH VARIA|EPSILON WITH OXIA|ETA WITH VARIA|ETA WITH OXIA|IOTA WITH VARIA|IOTA WITH OXIA|OMICRON WITH VARIA|OMICRON WITH OXIA|UPSILON WITH VARIA|UPSILON WITH OXIA|OMEGA WITH VARIA|OMEGA WITH OXIA"⟩,
  ⟨0x1F80, "GREEK SMALL LETTER ALPHA WITH ", "PSILI AND YPOGEGRAMMENI|DASIA AND YPOGEGRAMMENI|PSILI AND VARIA AND YPOGEGRAMMENI|DASIA AND VARIA AND YPOGEGRAMMENI|PSILI AND OXIA AND YPOGEGRAMMENI|DASIA AND OXIA AND YPOGEGRAMMENI|PSILI AND PERISPOMENI AND YPOGEGRAMMENI|DASIA AND PERISPOMENI AND YPOGEGRAMMENI"⟩,
  ⟨0x1F88, "GREEK CAPITAL LETTER ALPHA WITH ", "PSILI AND PROSGEGRAMMENI|DASIA AND PROSGEGRAMMENI|PSILI AND VARIA AND PROSGEGRAMMENI|DASIA AND VARIA AND PROSGEGRAMMENI|PSILI AND OXIA AND PROSGEGRAMMENI|DASIA AND OXIA AND PROSGEGRAMMENI|PSILI AND PERISPOMENI AND PROSGEGRAMMENI|DASIA AND PERISPOMENI AND PROSGEGRAMMENI"⟩,
  ⟨0x1F90, "GREEK SMALL LETTER ETA WITH ", "PSILI AND YPOGEGRAMMENI|DASIA AND YPOGEGRAMMENI|PSILI AND VARIA AND YPOGEGRAMMENI|DASIA AND VARIA AND YPOGEGRAMMENI|PSILI AND OXIA AND YPOGEGRAMMENI|DASIA AND OXIA AND YPOGEGRAMMENI|PSILI AND PERISPOMENI AND YPOGEGRAMMENI|DASIA AND PERISPOMENI AND YPOGEGRAMMENI"⟩,
  ⟨0x1F98, "GREEK CAPITAL LETTER ETA WITH ", "PSILI AND PROSGEGRAMMENI|DASIA AND PROSGEGRAMMENI|PSILI AND VARIA AND PROSGEGRAMMENI|DASIA AND VARIA AND PROSGEGRAMMENI|PSILI AND OXIA AND PROSGEGRAMMENI|DASIA AND OXIA AND PROSGEGRAMMENI|PSILI AND PERISPOMENI AND PROSGEGRAMMENI|DASIA AND PERISPOMENI AND PROSGEGRAMMENI"⟩,
  ⟨0x1FA0, "GREEK SMALL LETTER OMEGA WITH ", "PSILI AND YPOGEGRAMMENI|DASIA AND YPOGEGRAMMENI|PSILI AND VARIA AND YPOGEGRAMMENI|DASIA AND VARIA AND YPOGEGRAMMENI|PSILI AND OXIA AND YPOGEGRAMMENI|DASIA AND OXIA AND YPOGEGRAMMENI|PSILI AND PERISPOMENI AND YPOGEGRAMMENI|DASIA AND PERISPOMENI AND YPOGEGRAMMENI"⟩,
  ⟨0x1FA8, "GREEK CAPITAL LETTER OMEGA WITH ", "PSILI AND PROSGEGRAMMENI|DASIA AND PROSGEGRAMMENI|PSILI AND VARIA AND PROSGEGRAMMENI|DASIA AND VARIA AND PROSGEGRAMMENI|PSILI AND OXIA AND PROSGEGRAMMENI|DASIA AND OXIA AND PROSGEGRAMMENI|PSILI AND PERISPOMENI AND PROSGEGRAMMENI|DASIA AND PERISPOMENI AND PROSGEGRAMMENI"⟩,
  ⟨0x1FB0, "GREEK SMALL LETTER ALPHA WITH ", "VRACHY|MACRON|VARIA AND YPOGEGRAMMENI|YPOGEGRAMMENI|OXIA AND YPOGEGRAMMENI"⟩,
  ⟨0x1FB6, "GREEK SMALL LETTER ALPHA WITH PERISPOMENI", "| AND YPOGEGRAMMENI"⟩,
  ⟨0x1FB8, "GREEK CAPITAL LETTER ALPHA WITH ", "VRACHY|MACRON|VARIA|OXIA|PROSGEGRAMMENI"⟩,
  ⟨0x1FBD, "GREEK ", "KORONIS|PROSGEGRAMMENI|PSILI|PERISPOMENI|DIALYTIKA AND PERISPOMENI"⟩,
  ⟨0x1FC2, "GREEK SMALL LETTER ETA WITH ", "VARIA AND YPOGEGRAMMENI|YPOGEGRAMMENI|OXIA AND YPOGEGRAMMENI"⟩,
  ⟨0x1FC6, "GREEK SMALL LETTER ETA WITH PERISPOMENI", "| AND YPOGEGRAMMENI"⟩,
  ⟨0x1FC8, "GREEK CAPITAL LETTER E", "PSILON WITH VARIA|PSILON WITH OXIA|TA WITH VARIA|TA WITH OXIA|TA WITH PROSGEGRAMMENI"⟩,
  ⟨0x1FCD, "GREEK PSILI AND ", "VARIA|OXIA|PERISPOMENI"⟩,
  ⟨0x1FD0, "GREEK SMALL LETTER IOTA WITH ", "VRACHY|MACRON|DIALYTIKA AND VARIA|DIALYTIKA AND OXIA"⟩,
  ⟨0x1FD6, "GREEK SMALL LETTER IOTA WITH ", "PERISPOMENI|DIALYTIKA AND PERISPOMENI"⟩,
  ⟨0x1FD8, "GREEK CAPITAL LETTER IOTA WITH ", "VRACHY|MACRON|VARIA|OXIA"⟩,
  ⟨0x1FDD, "GREEK DASIA AND ", "VARIA|OXIA|PERISPOMENI"⟩,
  ⟨0x1FE0, "GREEK SMALL LETTER ", "UPSILON WITH VRACHY|UPSILON WITH MACRON|UPSILON WITH DIALYTIKA AND VARIA|UPSILON WITH DIALYTIKA AND OXIA|RHO WITH PSILI|RHO WITH DASIA|UPSILON WITH PERISPOMENI|UPSILON WITH DIALYTIKA AND PERISPOMENI"⟩,
  ⟨0x1FE8, "GREEK CAPITAL LETTER UPSILON WITH ", "VRACHY|MACRON|VARIA|OXIA"⟩,
  ⟨0x1FEC, "GREEK ", "CAPITAL LETTER RHO WITH DASIA|DIALYTIKA AND VARIA|DIALYTIKA AND OXIA|VARIA"⟩,
  ⟨0x1FF2, "GREEK SMALL LETTER OMEGA WITH ", "VARIA AND YPOGEGRAMMENI|YPOGEGRAMMENI|OXIA AND YPOGEGRAMMENI"⟩,
  ⟨0x1FF6, "GREEK SMALL LETTER OMEGA WITH PERISPOMENI", "| AND YPOGEGRAMMENI"⟩,
  ⟨0x1FF8, "GREEK CAPITAL LETTER OM", "ICRON WITH VARIA|ICRON WITH OXIA|EGA WITH VARIA|EGA WITH OXIA|EGA WITH PROSGEGRAMMENI"⟩,
  ⟨0x1FFD, "GREEK ", "OXIA|DASIA"⟩,
  ⟨0x2000, "", "EN QUAD|EM QUAD|EN SPACE|EM SPACE|THREE-PER-EM SPACE|FOUR-PER-EM SPACE|SIX-PER-EM SPACE|FIGURE SPACE|PUNCTUATION SPACE|THIN SPACE|HAIR SPACE|ZERO WIDTH SPACE|ZERO WIDTH NON-JOINER|ZERO WIDTH JOINER|LEFT-TO-RIGHT MARK|RIGHT-TO-LEFT MARK|HYPHEN|NON-BREAKING HYPHEN|FIGURE DASH|EN DASH|EM DASH|HORIZONTAL BAR|DOUBLE VERTICAL LINE|DOUBLE LOW LINE|LEFT SINGLE QUOTATION MARK|RIGHT SINGLE QUOTATION MARK|SINGLE LOW-9 QUOTATION MARK|SINGLE HIGH-REVERSED-9 QUOTATION MARK|LEFT DOUBLE QUOTATION MARK|RIGHT DOUBLE QUOTATION MARK|DOUBLE LOW-9 QUOTATION MARK|DOUBLE HIGH-REVERSED-9 QUOTATION MARK|DAGGER|DOUBLE DAGGER|BULLET|TRIANGULAR BULLET|ONE DOT LEADER|TWO DOT LEADER|HORIZONTAL ELLIPSIS|HYPHENATION POINT|LINE SEPARATOR|PARAGRAPH SEPARATOR|LEFT-TO-RIGHT EMBEDDING|RIGHT-TO-LEFT EMBEDDING|POP DIRECTIONAL FORMATTING|LEFT-TO-RIGHT OVERRIDE|RIGHT-TO-LEFT OVERRIDE|NARROW NO-BREAK SPACE|PER MILLE SIGN|PER TEN THOUSAND SIGN|PRIME|DOUBLE PRIME|TRIPLE PRIME|REVERSED PRIME|REVERSED DOUBLE PRIME|REVERSED TRIPLE PRIME|CARET|SINGLE LEFT-POINTING ANGLE QUOTATION MARK|SINGLE RIGHT-POINTING ANGLE QUOTATION MARK|REFERENCE MARK|DOUBLE EXCLAMATION MARK|INTERROBANG|OVERLINE|UNDERTIE|CHARACTER TIE|CARET INSERTION POINT|ASTERISM|HYPHEN BULLET|FRACTION SLASH|LEFT SQUARE BRACKET WITH QUILL|RIGHT SQUARE BRACKET WITH QUILL|DOUBLE QUESTION MARK|QUESTION EXCLAMATION MARK|EXCLAMATION QUESTION MARK|TIRONIAN SIGN ET|REVERSED PILCROW SIGN|BLACK LEFTWARDS BULLET|BLACK RIGHTWARDS BULLET|LOW ASTERISK|REVERSED SEMICOLON"⟩,
  ⟨0x2050, "", "CLOSE UP|TWO ASTERISKS ALIGNED VERTICALLY|COMMERCIAL MINUS SIGN|SWUNG DASH|INVERTED UNDERTIE|FLOWER PUNCTUATION MARK|THREE DOT PUNCTUATION|QUADRUPLE PRIME|FOUR DOT PUNCTUATION|FIVE DOT PUNCTUATION|TWO DOT PUNCTUATION|FOUR DOT MARK|DOTTED CROSS|TRICOLON|VERTICAL FOUR DOTS|MEDIUM MATHEMATICAL SPACE|WORD JOINER|FUNCTION APPLICATION|INVISIBLE TIMES|INVISIBLE SEPARATOR|INVISIBLE PLUS"⟩,
  ⟨0x2066, "", "LEFT-TO-RIGHT ISOLATE|RIGHT-TO-LEFT ISOLATE|FIRST STRONG ISOLATE|POP DIRECTIONAL ISOLATE|INHIBIT SYMMETRIC SWAPPING|ACTIVATE SYMMETRIC SWAPPING|INHIBIT ARABIC FORM SHAPING|ACTIVATE ARABIC FORM SHAPING|NATIONAL DIGIT SHAPES|NOMINAL DIGIT SHAPES|SUPERSCRIPT ZERO|SUPERSCRIPT LATIN SMALL LETTER I"⟩,
  ⟨0x2074, "SUPERSCRIPT ", "FOUR|FIVE|SIX|SEVEN|EIGHT|NINE|PLUS SIGN|MINUS|EQUALS SIGN|LEFT PARENTHESIS|RIGHT PARENTHESIS|LATIN SMALL LETTER N"⟩,
  ⟨0x2080, "SUBSCRIPT ", "ZERO|ONE|TWO|THREE|FOUR|FIVE|SIX|SEVEN|EIGHT|NINE|PLUS SIGN|MINUS|EQUALS SIGN|LEFT PARENTHESIS|RIGHT PARENTHESIS"⟩,
  ⟨0x2090, "LATIN SUBSCRIPT SMALL LETTER ", "A|E|O|X|SCHWA|H|K|L|M|N|P|S|T"⟩,
  ⟨0x20A0, "", "EURO-CURRENCY SIGN|COLON SIGN|CRUZEIRO SIGN|FRENCH FRANC SIGN|LIRA SIGN|MILL SIGN|NAIRA SIGN|PESETA SIGN|RUPEE SIGN|WON SIGN|NEW SHEQEL SIGN|DONG SIGN|EURO SIGN|KIP SIGN|TUGRIK SIGN|DRACHMA SIGN|GERMAN PENNY SIGN|PESO SIGN|GUARANI SIGN|AUSTRAL SIGN|HRYVNIA SIGN|CEDI SIGN|LIVRE TOURNOIS SIGN|SPESMILO SIGN|TENGE SIGN|INDIAN RUPEE SIGN|TURKISH LIRA SIGN|NORDIC MARK SIGN|MANAT SIGN|RUBLE SIGN|LARI SIGN|BITCOIN SIGN|SOM SIGN"⟩,
  ⟨0x20D0, "COMBINING ", "LEFT HARPOON ABOVE|RIGHT HARPOON ABOVE|LONG VERTICAL LINE OVERLAY|SHORT VERTICAL LINE OVERLAY|ANTICLOCKWISE ARROW ABOVE|CLOCKWISE ARROW ABOVE|LEFT ARROW ABOVE|RIGHT ARROW ABOVE|RING OVERLAY|CLOCKWISE RING OVERLAY|ANTICLOCKWISE RING OVERLAY|THREE DOTS ABOVE|FOUR DOTS ABOVE|ENCLOSING CIRCLE|ENCLOSING SQUARE|ENCLOSING DIAMOND|ENCLOSING CIRCLE BACKSLASH|LEFT RIGHT ARROW ABOVE|ENCLOSING SCREEN|ENCLOSING KEYCAP|ENCLOSING UPWARD POINTING TRIANGLE|REVERSE SOLIDUS OVERLAY|DOUBLE VERTICAL STROKE OVERLAY|ANNUITY SYMBOL|TRIPLE UNDERDOT|WIDE BRIDGE ABOVE|LEFTWARDS ARROW OVERLAY|LONG DOUBLE SOLIDUS OVERLAY|RIGHTWARDS HARPOON WITH BARB DOWNWARDS|LEFTWARDS HARPOON WITH BARB DOWNWARDS|LEFT ARROW BELOW|RIGHT ARROW BELOW|ASTERISK ABOVE"⟩,
  ⟨0x2100, "", "ACCOUNT OF|ADDRESSED TO THE SUBJECT|DOUBLE-STRUCK CAPITAL C|DEGREE CELSIUS|CENTRE LINE SYMBOL|CARE OF|CADA UNA|EULER CONSTANT|SCRUPLE|DEGREE FAHRENHEIT|SCRIPT SMALL G|SCRIPT CAPITAL H|BLACK-LETTER CAPITAL H|DOUBLE-STRUCK CAPITAL H|PLANCK CONSTANT|PLANCK CONSTANT OVER TWO PI|SCRIPT CAPITAL I|BLACK-LETTER CAPITAL I|SCRIPT CAPITAL L|SCRIPT SMALL L|L B BAR SYMBOL|DOUBLE-STRUCK CAPITAL N|NUMERO SIGN|SOUND RECORDING COPYRIGHT|SCRIPT CAPITAL P|DOUBLE-STRUCK CAPITAL P|DOUBLE-STRUCK CAPITAL Q|SCRIPT CAPITAL R|BLACK-LETTER CAPITAL R|DOUBLE-STRUCK CAPITAL R|PRESCRIPTION TAKE|RESPONSE|SERVICE MARK|TELEPHONE SIGN|TRADE MARK SIGN|VERSICLE|DOUBLE-STRUCK CAPITAL Z|OUNCE SIGN|OHM SIGN|INVERTED OHM SIGN|BLACK-LETTER CAPITAL Z|TURNED GREEK SMALL LETTER IOTA|KELVIN SIGN|ANGSTROM SIGN|SCRIPT CAPITAL B|BLACK-LETTER CAPITAL C|ESTIMATED SYMBOL|SCRIPT SMALL E|SCRIPT CAPITAL E|SCRIPT CAPITAL F|TURNED CAPITAL F|SCRIPT CAPITAL M|SCRIPT SMALL O|ALEF SYMBOL|BET SYMBOL|GIMEL SYMBOL|DALET SYMBOL|INFORMATION SOURCE|ROTATED CAPITAL Q|FACSIMILE SIGN"⟩,
  ⟨0x213C, "DOUBLE-STRUCK ", "SMALL PI|SMALL GAMMA|CAPITAL GAMMA|CAPITAL PI|N-ARY SUMMATION"⟩,
  ⟨0x2141, "TURNED SANS-SERIF CAPITAL ", "G|L"⟩,
  ⟨0x2143, "", "REVERSED SANS-SERIF CAPITAL L|TURNED SANS-SERIF CAPITAL Y"⟩,
  ⟨0x2145, "DOUBLE-STRUCK ITALIC ", "CAPITAL D|SMALL D|SMALL E|SMALL I|SMALL J"⟩,
  ⟨0x214A, "", "PROPERTY LINE|TURNED AMPERSAND|PER SIGN|AKTIESELSKAB|TURNED SMALL F|SYMBOL FOR SAMARITAN SOURCE"⟩,
  ⟨0x2150, "VULGAR FRACTION ", "ONE SEVENTH|ONE NINTH|ONE TENTH|ONE THIRD|TWO THIRDS|ONE FIFTH|TWO FIFTHS|THREE FIFTHS|FOUR FIFTHS|ONE SIXTH|FIVE SIXTHS|ONE EIGHTH|THREE EIGHTHS|FIVE EIGHTHS|SEVEN EIGHTHS"⟩,
  ⟨0x215F, "FRACTION NUMERATOR ONE", ""⟩,
  ⟨0x2160, "ROMAN NUMERAL ", "ONE|TWO|THREE|FOUR|FIVE|SIX|SEVEN|EIGHT|NINE|TEN|ELEVEN|TWELVE|FIFTY|ONE HUNDRED|FIVE HUNDRED|ONE THOUSAND"⟩,
  ⟨0x2170, "SMALL ROMAN NUMERAL ", "ONE|TWO|THREE|FOUR|FIVE|SIX|SEVEN|EIGHT|NINE|TEN|ELEVEN|TWELVE|FIFTY|ONE HUNDRED|FIVE HUNDRED|ONE THOUSAND"⟩,
  ⟨0x2180, "ROMAN NUMERAL ", "ONE THOUSAND C D|FIVE THOUSAND|TEN THOUSAND|REVERSED ONE HUNDRED"⟩,
  ⟨0x2184, "", "LATIN SMALL LETTER REVERSED C|ROMAN NUMERAL SIX LATE FORM|ROMAN NUMERAL FIFTY EARLY FORM|ROMAN NUMERAL FIFTY THOUSAND|ROMAN NUMERAL ONE HUNDRED THOUSAND|VULGAR FRACTION ZERO THIRDS|TURNED DIGIT TWO|TURNED DIGIT THREE"⟩,
  ⟨0x2190, "", "LEFTWARDS ARROW|UPWARDS ARROW|RIGHTWARDS ARROW|DOWNWARDS ARROW|LEFT RIGHT ARROW|UP DOWN ARROW|NORTH WEST ARROW|NORTH EAST ARROW|SOUTH EAST ARROW|SOUTH WEST ARROW|LEFTWARDS ARROW WITH STROKE|RIGHTWARDS ARROW WITH STROKE|LEFTWARDS WAVE ARROW|RIGHTWARDS WAVE ARROW|LEFTWARDS TWO HEADED ARROW|UPWARDS TWO HEADED ARROW|RIGHTWARDS TWO HEADED ARROW|DOWNWARDS TWO HEADED ARROW|LEFTWARDS ARROW WITH TAIL|RIGHTWARDS ARROW WITH TAIL|LEFTWARDS ARROW FROM BAR|UPWARDS ARROW FROM BAR|RIGHTWARDS ARROW FROM BAR|DOWNWARDS ARROW FROM BAR|UP DOWN ARROW WITH BASE|LEFTWARDS ARROW WITH HOOK|RIGHTWARDS ARROW WITH HOOK|LEFTWARDS ARROW WITH LOOP|RIGHTWARDS ARROW WITH LOOP|LEFT RIGHT WAVE ARROW|LEFT RIGHT ARROW WITH STROKE|DOWNWARDS ZIGZAG ARROW|UPWARDS ARROW WITH TIP LEFTWARDS|UPWARDS ARROW WITH TIP RIGHTWARDS|DOWNWARDS ARROW WITH TIP LEFTWARDS|DOWNWARDS ARROW WITH TIP RIGHTWARDS|RIGHTWARDS ARROW WITH CORNER DOWNWARDS|DOWNWARDS ARROW WITH CORNER LEFTWARDS|ANTICLOCKWISE TOP SEMICIRCLE ARROW|CLOCKWISE TOP SEMICIRCLE ARROW|NORTH WEST ARROW TO LONG BAR|LEFTWARDS ARROW TO BAR OVER RIGHTWARDS ARROW TO BAR|ANTICLOCKWISE OPEN CIRCLE ARROW|CLOCKWISE OPEN CIRCLE ARROW"⟩,
  ⟨0x21BC, "LEFTWARDS HARPOON WITH BARB ", "UPWARDS|DOWNWARDS"⟩,
  ⟨0x21BE, "UPWARDS HARPOON WITH BARB ", "RIGHTWARDS|LEFTWARDS"⟩,
  ⟨0x21C0, "RIGHTWARDS HARPOON WITH BARB ", "UPWARDS|DOWNWARDS"⟩,
  ⟨0x21C2, "DOWNWARDS HARPOON WITH BARB ", "RIGHTWARDS|LEFTWARDS"⟩,
  ⟨0x21C4, "", "RIGHTWARDS ARROW OVER LEFTWARDS ARROW|UPWARDS ARROW LEFTWARDS OF DOWNWARDS ARROW|LEFTWARDS ARROW OVER RIGHTWARDS ARROW|LEFTWARDS PAIRED ARROWS|UPWARDS PAIRED ARROWS|RIGHTWARDS PAIRED ARROWS|DOWNWARDS PAIRED ARROWS|LEFTWARDS HARPOON OVER RIGHTWARDS HARPOON|RIGHTWARDS HARPOON OVER LEFTWARDS HARPOON|LEFTWARDS DOUBLE ARROW WITH STROKE|LEFT RIGHT DOUBLE ARROW WITH STROKE|RIGHTWARDS DOUBLE ARROW WITH STROKE|LEFTWARDS DOUBLE ARROW|UPWARDS DOUBLE ARROW|RIGHTWARDS DOUBLE ARROW|DOWNWARDS DOUBLE ARROW|LEFT RIGHT DOUBLE ARROW|UP DOWN DOUBLE ARROW|NORTH WEST DOUBLE ARROW|NORTH EAST DOUBLE ARROW|SOUTH EAST DOUBLE ARROW|SOUTH WEST DOUBLE ARROW|LEFTWARDS TRIPLE ARROW|RIGHTWARDS TRIPLE ARROW|LEFTWARDS SQUIGGLE ARROW|RIGHTWARDS SQUIGGLE ARROW|UPWARDS ARROW WITH DOUBLE STROKE|DOWNWARDS ARROW WITH DOUBLE STROKE|LEFTWARDS DASHED ARROW|UPWARDS DASHED ARROW|RIGHTWARDS DASHED ARROW|DOWNWARDS DASHED ARROW|LEFTWARDS ARROW TO BAR|RIGHTWARDS ARROW TO BAR|LEFTWARDS WHITE ARROW|UPWARDS WHITE ARROW|RIGHTWARDS WHITE ARROW|DOWNWARDS WHITE ARROW"⟩,
  ⟨0x21EA, "UPWARDS WHITE ", "ARROW FROM BAR|ARROW ON PEDESTAL|ARROW ON PEDESTAL WITH HORIZONTAL BAR|ARROW ON PEDESTAL WITH VERTICAL BAR|DOUBLE ARROW|DOUBLE ARROW ON PEDESTAL"⟩,
  ⟨0x21F0, "", "RIGHTWARDS WHITE ARROW FROM WALL|NORTH WEST ARROW TO CORNER|SOUTH EAST ARROW TO CORNER|UP DOWN WHITE ARROW|RIGHT ARROW WITH SMALL CIRCLE|DOWNWARDS ARROW LEFTWARDS OF UPWARDS ARROW|THREE RIGHTWARDS ARROWS|LEFTWARDS ARROW WITH VERTICAL STROKE|RIGHTWARDS ARROW WITH VERTICAL STROKE|LEFT RIGHT ARROW WITH VERTICAL STROKE|LEFTWARDS ARROW WITH DOUBLE VERTICAL STROKE|RIGHTWARDS ARROW WITH DOUBLE VERTICAL STROKE|LEFT RIGHT ARROW WITH DOUBLE VERTICAL STROKE|LEFTWARDS OPEN-HEADED ARROW|RIGHTWARDS OPEN-HEADED ARROW|LEFT RIGHT OPEN-HEADED ARROW|FOR ALL|COMPLEMENT|PARTIAL DIFFERENTIAL|THERE EXISTS|THERE DOES NOT EXIST|EMPTY SET|INCREMENT|NABLA|ELEMENT OF|NOT AN ELEMENT OF|SMALL ELEMENT OF|CONTAINS AS MEMBER|DOES NOT CONTAIN AS MEMBER|SMALL CONTAINS AS MEMBER|END OF PROOF|N-ARY PRODUCT|N-ARY COPRODUCT|N-ARY SUMMATION|MINUS SIGN|MINUS-OR-PLUS SIGN|DOT PLUS|DIVISION SLASH|SET MINUS|ASTERISK OPERATOR|RING OPERATOR|BULLET OPERATOR|SQUARE ROOT|CUBE ROOT|FOURTH ROOT|PROPORTIONAL TO|INFINITY|RIGHT ANGLE|ANGLE|MEASURED ANGLE|SPHERICAL ANGLE|DIVIDES|DOES NOT DIVIDE|PARALLEL TO|NOT PARALLEL TO|LOGICAL AND|LOGICAL OR|INTERSECTION|UNION|INTEGRAL|DOUBLE INTEGRAL|TRIPLE INTEGRAL|CONTOUR INTEGRAL|SURFACE INTEGRAL|VOLUME INTEGRAL|CLOCKWISE INTEGRAL|CLOCKWISE CONTOUR INTEGRAL|ANTICLOCKWISE CONTOUR INTEGRAL|THEREFORE|BECAUSE|RATIO|PROPORTION|DOT MINUS|EXCESS|GEOMETRIC PROPORTION|HOMOTHETIC|TILDE OPERATOR|REVERSED TILDE|INVERTED LAZY S|SINE WAVE|WREATH PRODUCT|NOT TILDE|MINUS TILDE|ASYMPTOTICALLY EQUAL TO"⟩,
  ⟨0x2244, "", "NOT ASYMPTOTICALLY EQUAL TO|APPROXIMATELY EQUAL TO|APPROXIMATELY BUT NOT ACTUALLY EQUAL TO|NEITHER APPROXIMATELY NOR ACTUALLY EQUAL TO|ALMOST EQUAL TO|NOT ALMOST EQUAL TO|ALMOST EQUAL OR EQUAL TO|TRIPLE TILDE|ALL EQUAL TO|EQUIVALENT TO|GEOMETRICALLY EQUIVALENT TO|DIFFERENCE BETWEEN|APPROACHES THE LIMIT|GEOMETRICALLY EQUAL TO|APPROXIMATELY EQUAL TO OR THE IMAGE OF|IMAGE OF OR APPROXIMATELY EQUAL TO|COLON EQUALS|EQUALS COLON|RING IN EQUAL TO|RING EQUAL TO|CORRESPONDS TO|ESTIMATES|EQUIANGULAR TO|STAR EQUALS|DELTA EQUAL TO|EQUAL TO BY DEFINITION|MEASURED BY|QUESTIONED EQUAL TO|NOT EQUAL TO|IDENTICAL TO|NOT IDENTICAL TO|STRICTLY EQUIVALENT TO|LESS-THAN OR EQUAL TO|GREATER-THAN OR EQUAL TO|LESS-THAN OVER EQUAL TO|GREATER-THAN OVER EQUAL TO|LESS-THAN BUT NOT EQUAL TO|GREATER-THAN BUT NOT EQUAL TO|MUCH LESS-THAN|MUCH GREATER-THAN|BETWEEN|NOT EQUIVALENT TO|NOT LESS-THAN|NOT GREATER-THAN|NEITHER LESS-THAN NOR EQUAL TO|NEITHER GREATER-THAN NOR EQUAL TO|LESS-THAN OR EQUIVALENT TO|GREATER-THAN OR EQUIVALENT TO|NEITHER LESS-THAN NOR EQUIVALENT TO|NEITHER GREATER-THAN NOR EQUIVALENT TO|LESS-THAN OR GREATER-THAN|GREATER-THAN OR LESS-THAN|NEITHER LESS-THAN NOR GREATER-THAN|NEITHER GREATER-THAN NOR LESS-THAN|PRECEDES|SUCCEEDS|PRECEDES OR EQUAL TO|SUCCEEDS OR EQUAL TO|PRECEDES OR EQUIVALENT TO|SUCCEEDS OR EQUIVALENT TO|DOES NOT PRECEDE|DOES NOT SUCCEED|SUBSET OF|SUPERSET OF|NOT A SUBSET OF|NOT A SUPERSET OF|SUBSET OF OR EQUAL TO|SUPERSET OF OR EQUAL TO|NEITHER A SUBSET OF NOR EQUAL TO"⟩,
  ⟨0x2289, "", "NEITHER A SUPERSET OF NOR EQUAL TO|SUBSET OF WITH NOT EQUAL TO|SUPERSET OF WITH NOT EQUAL TO|MULTISET|MULTISET MULTIPLICATION|MULTISET UNION"⟩,
  ⟨0x228F, "SQUARE ", "IMAGE OF|ORIGINAL OF|IMAGE OF OR EQUAL TO|ORIGINAL OF OR EQUAL TO|CAP|CUP"⟩,
  ⟨0x2295, "CIRCLED ", "PLUS|MINUS|TIMES|DIVISION SLASH|DOT OPERATOR|RING OPERATOR|ASTERISK OPERATOR|EQUALS|DASH"⟩,
  ⟨0x229E, "SQUARED ", "PLUS|MINUS|TIMES|DOT OPERATOR"⟩,
  ⟨0x22A2, "", "RIGHT TACK|LEFT TACK|DOWN TACK|UP TACK|ASSERTION|MODELS|TRUE|FORCES|TRIPLE VERTICAL BAR RIGHT TURNSTILE|DOUBLE VERTICAL BAR DOUBLE RIGHT TURNSTILE|DOES NOT PROVE|NOT TRUE|DOES NOT FORCE|NEGATED DOUBLE VERTICAL BAR DOUBLE RIGHT TURNSTILE|PRECEDES UNDER RELATION|SUCCEEDS UNDER RELATION|NORMAL SUBGROUP OF|CONTAINS AS NORMAL SUBGROUP|NORMAL SUBGROUP OF OR EQUAL TO|CONTAINS AS NORMAL SUBGROUP OR EQUAL TO|ORIGINAL OF|IMAGE OF|MULTIMAP|HERMITIAN CONJUGATE MATRIX|INTERCALATE|XOR|NAND|NOR|RIGHT ANGLE WITH ARC|RIGHT TRIANGLE|N-ARY LOGICAL AND|N-ARY LOGICAL OR|N-ARY INTERSECTION|N-ARY UNION|DIAMOND OPERATOR|DOT OPERATOR|STAR OPERATOR|DIVISION TIMES|BOWTIE|LEFT NORMAL FACTOR SEMIDIRECT PRODUCT|RIGHT NORMAL FACTOR SEMIDIRECT PRODUCT|LEFT SEMIDIRECT PRODUCT|RIGHT SEMIDIRECT PRODUCT|REVERSED TILDE EQUALS|CURLY LOGICAL OR|CURLY LOGICAL AND|DOUBLE SUBSET|DOUBLE SUPERSET|DOUBLE INTERSECTION|DOUBLE UNION|PITCHFORK|EQUAL AND PARALLEL TO|LESS-THAN WITH DOT|GREATER-THAN WITH DOT|VERY MUCH LESS-THAN|VERY MUCH GREATER-THAN|LESS-THAN EQUAL TO OR GREATER-THAN|GREATER-THAN EQUAL TO OR LESS-THAN|EQUAL TO OR LESS-THAN|EQUAL TO OR GREATER-THAN|EQUAL TO OR PRECEDES|EQUAL TO OR SUCCEEDS|DOES NOT PRECEDE OR EQUAL|DOES NOT SUCCEED OR EQUAL|NOT SQUARE IMAGE OF OR EQUAL TO|NOT SQUARE ORIGINAL OF OR EQUAL TO|SQUARE IMAGE OF OR NOT EQUAL TO|SQUARE ORIGINAL OF OR NOT EQUAL TO|LESS-THAN BUT NOT EQUIVALENT TO|GREATER-THAN BUT NOT EQUIVALENT TO|PRECEDES BUT NOT EQUIVALENT TO|SUCCEEDS BUT NOT EQUIVALENT TO"⟩,
  ⟨0x22EA, "", "NOT NORMAL SUBGROUP OF|DOES NOT CONTAIN AS NORMAL SUBGROUP|NOT NORMAL SUBGROUP OF OR EQUAL TO|DOES NOT CONTAIN AS NORMAL SUBGROUP OR EQUAL|VERTICAL ELLIPSIS|MIDLINE HORIZONTAL ELLIPSIS|UP RIGHT DIAGONAL ELLIPSIS|DOWN RIGHT DIAGONAL ELLIPSIS|ELEMENT OF WITH LONG HORIZONTAL STROKE|ELEMENT OF WITH VERTICAL BAR AT END OF HORIZONTAL STROKE|SMALL ELEMENT OF WITH VERTICAL BAR AT END OF HORIZONTAL STROKE|ELEMENT OF WITH DOT ABOVE|ELEMENT OF WITH OVERBAR|SMALL ELEMENT OF WITH OVERBAR|ELEMENT OF WITH UNDERBAR|ELEMENT OF WITH TWO HORIZONTAL STROKES|CONTAINS WITH LONG HORIZONTAL STROKE|CONTAINS WITH VERTICAL BAR AT END OF HORIZONTAL STROKE|SMALL CONTAINS WITH VERTICAL BAR AT END OF HORIZONTAL STROKE|CONTAINS WITH OVERBAR|SMALL CONTAINS WITH OVERBAR|Z NOTATION BAG MEMBERSHIP|DIAMETER SIGN|ELECTRIC ARROW|HOUSE|UP ARROWHEAD|DOWN ARROWHEAD|PROJECTIVE|PERSPECTIVE|WAVY LINE|LEFT CEILING|RIGHT CEILING|LEFT FLOOR|RIGHT FLOOR|BOTTOM RIGHT CROP|BOTTOM LEFT CROP|TOP RIGHT CROP|TOP LEFT CROP|REVERSED NOT SIGN|SQUARE LOZENGE|ARC|SEGMENT|SECTOR|TELEPHONE RECORDER|POSITION INDICATOR|VIEWDATA SQUARE|PLACE OF INTEREST SIGN|TURNED NOT SIGN|WATCH|HOURGLASS|TOP LEFT CORNER|TOP RIGHT CORNER|BOTTOM LEFT CORNER|BOTTOM RIGHT CORNER|TOP HALF INTEGRAL|BOTTOM HALF INTEGRAL|FROWN|SMILE|UP ARROWHEAD BETWEEN TWO HORIZONTAL BARS|OPTION KEY|ERASE TO THE RIGHT|X IN A RECTANGLE BOX|KEYBOARD|LEFT-POINTING ANGLE BRACKET|RIGHT-POINTING ANGLE BRACKET|ERASE TO THE LEFT|BENZENE RING|CYLINDRICITY|ALL AROUND-PROFILE|SYMMETRY"⟩,
  ⟨0x2330, "", "TOTAL RUNOUT|DIMENSION ORIGIN|CONICAL TAPER|SLOPE|COUNTERBORE|COUNTERSINK"⟩,
  ⟨0x2336, "APL FUNCTIONAL SYMBOL ", "I-BEAM|SQUISH QUAD|QUAD EQUAL|QUAD DIVIDE|QUAD DIAMOND|QUAD JOT|QUAD CIRCLE|CIRCLE STILE|CIRCLE JOT|SLASH BAR|BACKSLASH BAR|QUAD SLASH|QUAD BACKSLASH|QUAD LESS-THAN|QUAD GREATER-THAN|LEFTWARDS VANE|RIGHTWARDS VANE|QUAD LEFTWARDS ARROW|QUAD RIGHTWARDS ARROW|CIRCLE BACKSLASH|DOWN TACK UNDERBAR|DELTA STILE|QUAD DOWN CARET|QUAD DELTA|DOWN TACK JOT|UPWARDS VANE|QUAD UPWARDS ARROW|UP TACK OVERBAR|DEL STILE|QUAD UP CARET|QUAD DEL|UP TACK JOT|DOWNWARDS VANE|QUAD DOWNWARDS ARROW|QUOTE UNDERBAR|DELTA UNDERBAR|DIAMOND UNDERBAR|JOT UNDERBAR|CIRCLE UNDERBAR|UP SHOE JOT|QUOTE QUAD|CIRCLE STAR|QUAD COLON|UP TACK DIAERESIS|DEL DIAERESIS|STAR DIAERESIS|JOT DIAERESIS|CIRCLE DIAERESIS|DOWN SHOE STILE|LEFT SHOE STILE|TILDE DIAERESIS|GREATER-THAN DIAERESIS|COMMA BAR|DEL TILDE|ZILDE|STILE TILDE|SEMICOLON UNDERBAR|QUAD NOT EQUAL|QUAD QUESTION|DOWN CARET TILDE|UP CARET TILDE|IOTA|RHO|OMEGA|ALPHA UNDERBAR|EPSILON UNDERBAR|IOTA UNDERBAR|OMEGA UNDERBAR|ALPHA"⟩,
  ⟨0x237B, "", "NOT CHECK MARK|RIGHT ANGLE WITH DOWNWARDS ZIGZAG ARROW|SHOULDERED OPEN BOX|BELL SYMBOL|VERTICAL LINE WITH MIDDLE DOT|INSERTION SYMBOL|CONTINUOUS UNDERLINE SYMBOL|DISCONTINUOUS UNDERLINE SYMBOL|EMPHASIS SYMBOL|COMPOSITION SYMBOL|WHITE SQUARE WITH CENTRE VERTICAL LINE|ENTER SYMBOL|ALTERNATIVE KEY SYMBOL|HELM SYMBOL|CIRCLED HORIZONTAL BAR WITH NOTCH|CIRCLED TRIANGLE DOWN|BROKEN CIRCLE WITH NORTHWEST ARROW|UNDO SYMBOL|MONOSTABLE SYMBOL|HYSTERESIS SYMBOL|OPEN-CIRCUIT-OUTPUT H-TYPE SYMBOL|OPEN-CIRCUIT-OUTPUT L-TYPE SYMBOL|PASSIVE-PULL-DOWN-OUTPUT SYMBOL|PASSIVE-PULL-UP-OUTPUT SYMBOL|DIRECT CURRENT SYMBOL FORM TWO|SOFTWARE-FUNCTION SYMBOL|APL FUNCTIONAL SYMBOL QUAD|DECIMAL SEPARATOR KEY SYMBOL|PREVIOUS PAGE|NEXT PAGE|PRINT SCREEN SYMBOL|CLEAR SCREEN SYMBOL"⟩,
  ⟨0x239B, "LEFT PARENTHESIS ", "UPPER HOOK|EXTENSION|LOWER HOOK"⟩,
  ⟨0x239E, "RIGHT PARENTHESIS ", "UPPER HOOK|EXTENSION|LOWER HOOK"⟩,
  ⟨0x23A1, "LEFT SQUARE BRACKET ", "UPPER CORNER|EXTENSION|LOWER CORNER"⟩,
  ⟨0x23A4, "RIGHT SQUARE BRACKET ", "UPPER CORNER|EXTENSION|LOWER CORNER"⟩,
  ⟨0x23A7, "LEFT CURLY BRACKET ", "UPPER HOOK|MIDDLE PIECE|LOWER HOOK"⟩,
  ⟨0x23AA, "", "CURLY BRACKET EXTENSION|RIGHT CURLY BRACKET UPPER HOOK|RIGHT CURLY BRACKET MIDDLE PIECE|RIGHT CURLY BRACKET LOWER HOOK|INTEGRAL EXTENSION|HORIZONTAL LINE EXTENSION|UPPER LEFT OR LOWER RIGHT CURLY BRACKET SECTION|UPPER RIGHT OR LOWER LEFT CURLY BRACKET SECTION|SUMMATION TOP|SUMMATION BOTTOM|TOP SQUARE BRACKET|BOTTOM SQUARE BRACKET|BOTTOM SQUARE BRACKET OVER TOP SQUARE BRACKET|RADICAL SYMBOL BOTTOM|LEFT VERTICAL BOX LINE|RIGHT VERTICAL BOX LINE"⟩,
  ⟨0x23BA, "HORIZONTAL SCAN LINE-", "1|3|7|9"⟩,
  ⟨0x23BE, "DENTISTRY SYMBOL LIGHT ", "VERTICAL AND TOP RIGHT|VERTICAL AND BOTTOM RIGHT|VERTICAL WITH CIRCLE|DOWN AND HORIZONTAL WITH CIRCLE|UP AND HORIZONTAL WITH CIRCLE|VERTICAL WITH TRIANGLE|DOWN AND HORIZONTAL WITH TRIANGLE|UP AND HORIZONTAL WITH TRIANGLE|VERTICAL AND WAVE|DOWN AND HORIZONTAL WITH WAVE|UP AND HORIZONTAL WITH WAVE|DOWN AND HORIZONTAL|UP AND HORIZONTAL|VERTICAL AND TOP LEFT|VERTICAL AND BOTTOM LEFT"⟩,
  ⟨0x23CD, "", "SQUARE FOOT|RETURN SYMBOL|EJECT SYMBOL|VERTICAL LINE EXTENSION"⟩,
  ⟨0x23D1, "METRICAL ", "BREVE|LONG OVER SHORT|SHORT OVER LONG|LONG OVER TWO SHORTS|TWO SHORTS OVER LONG|TWO SHORTS JOINED|TRISEME|TETRASEME|PENTASEME"⟩,
  ⟨0x23DA, "", "EARTH GROUND|FUSE|TOP PARENTHESIS|BOTTOM PARENTHESIS|TOP CURLY BRACKET|BOTTOM CURLY BRACKET|TOP TORTOISE SHELL BRACKET|BOTTOM TORTOISE SHELL BRACKET|WHITE TRAPEZIUM|BENZENE RING WITH CIRCLE|STRAIGHTNESS|FLATNESS|AC CURRENT|ELECTRICAL INTERSECTION|DECIMAL EXPONENT SYMBOL|BLACK RIGHT-POINTING DOUBLE TRIANGLE|BLACK LEFT-POINTING DOUBLE TRIANGLE|BLACK UP-POINTING DOUBLE TRIANGLE|BLACK DOWN-POINTING DOUBLE TRIANGLE|BLACK RIGHT-POINTING DOUBLE TRIANGLE WITH VERTICAL BAR|BLACK LEFT-POINTING DOUBLE TRIANGLE WITH VERTICAL BAR|BLACK RIGHT-POINTING TRIANGLE WITH DOUBLE VERTICAL BAR|ALARM CLOCK|STOPWATCH|TIMER CLOCK|HOURGLASS WITH FLOWING SAND|BLACK MEDIUM LEFT-POINTING TRIANGLE|BLACK MEDIUM RIGHT-POINTING TRIANGLE|BLACK MEDIUM UP-POINTING TRIANGLE|BLACK MEDIUM DOWN-POINTING TRIANGLE|DOUBLE VERTICAL BAR|BLACK SQUARE FOR STOP|BLACK CIRCLE FOR RECORD|POWER SYMBOL|POWER ON-OFF SYMBOL|POWER ON SYMBOL|POWER SLEEP SYMBOL|OBSERVER EYE SYMBOL"⟩,
  ⟨0x2400, "SYMBOL FOR ", "NULL|START OF HEADING|START OF TEXT|END OF TEXT|END OF TRANSMISSION|ENQUIRY|ACKNOWLEDGE|BELL|BACKSPACE|HORIZONTAL TABULATION|LINE FEED|VERTICAL TABULATION|FORM FEED|CARRIAGE RETURN|SHIFT OUT|SHIFT IN|DATA LINK ESCAPE|DEVICE CONTROL ONE|DEVICE CONTROL TWO|DEVICE CONTROL THREE|DEVICE CONTROL FOUR|NEGATIVE ACKNOWLEDGE|SYNCHRONOUS IDLE|END OF TRANSMISSION BLOCK|CANCEL|END OF MEDIUM|SUBSTITUTE|ESCAPE|FILE SEPARATOR|GROUP SEPARATOR|RECORD SEPARATOR|UNIT SEPARATOR|SPACE|DELETE"⟩,
  ⟨0x2422, "", "BLANK SYMBOL|OPEN BOX|SYMBOL FOR NEWLINE|SYMBOL FOR DELETE FORM TWO|SYMBOL FOR SUBSTITUTE FORM TWO"⟩,
  ⟨0x2440, "OCR ", "HOOK|CHAIR|FORK|INVERTED FORK|BELT BUCKLE|BOW TIE|BRANCH BANK IDENTIFICATION|AMOUNT OF CHECK|DASH|CUSTOMER ACCOUNT NUMBER|DOUBLE BACKSLASH"⟩,
  ⟨0x2460, "CIRCLED DIGIT ", "ONE|TWO|THREE|FOUR|FIVE|SIX|SEVEN|EIGHT|NINE"⟩,
  ⟨0x2469, "CIRCLED NUMBER ", "TEN|ELEVEN|TWELVE|THIRTEEN|FOURTEEN|FIFTEEN|SIXTEEN|SEVENTEEN|EIGHTEEN|NINETEEN|TWENTY"⟩,
  ⟨0x2474, "PARENTHESIZED DIGIT ", "ONE|TWO|THREE|FOUR|FIVE|SIX|SEVEN|EIGHT|NINE"⟩,
  ⟨0x247D, "PARENTHESIZED NUMBER ", "TEN|ELEVEN|TWELVE|THIRTEEN|FOURTEEN|FIFTEEN|SIXTEEN|SEVENTEEN|EIGHTEEN|NINETEEN|TWENTY"⟩,
  ⟨0x2488, "DIGIT ", "ONE FULL STOP|TWO FULL STOP|THREE FULL STOP|FOUR FULL STOP|FIVE FULL STOP|SIX FULL STOP|SEVEN FULL STOP|EIGHT FULL STOP|NINE FULL STOP"⟩,
  ⟨0x2491, "NUMBER ", "TEN FULL STOP|ELEVEN FULL STOP|TWELVE FULL STOP|THIRTEEN FULL STOP|FOURTEEN FULL STOP|FIFTEEN FULL STOP|SIXTEEN FULL STOP|SEVENTEEN FULL STOP|EIGHTEEN FULL STOP|NINETEEN FULL STOP|TWENTY FULL STOP"⟩,
  ⟨0x249C, "PARENTHESIZED LATIN SMALL LETTER ", "A|B|C|D|E|F|G|H|I|J|K|L|M|N|O|P|Q|R|S|T|U|V|W|X|Y|Z"⟩,
  ⟨0x24B6, "CIRCLED LATIN CAPITAL LETTER ", "A|B|C|D|E|F|G|H|I|J|K|L|M|N|O|P|Q|R|S|T|U|V|W|X|Y|Z"⟩,
  ⟨0x24D0, "CIRCLED LATIN SMALL LETTER ", "A|B|C|D|E|F|G|H|I|J|K|L|M|N|O|P|Q|R|S|T|U|V|W|X|Y|Z"⟩,
  ⟨0x24EA, "CIRCLED DIGIT ZERO", ""⟩,
  ⟨0x24EB, "NEGATIVE CIRCLED NUMBER ", "ELEVEN|TWELVE|THIRTEEN|FOURTEEN|FIFTEEN|SIXTEEN|SEVENTEEN|EIGHTEEN|NINETEEN|TWENTY"⟩,
  ⟨0x24F5, "DOUBLE CIRCLED DIGIT ", "ONE|TWO|THREE|FOUR|FIVE|SIX|SEVEN|EIGHT|NINE"⟩,
  ⟨0x24FE, "", "DOUBLE CIRCLED NUMBER TEN|NEGATIVE CIRCLED DIGIT ZERO"⟩,
  ⟨0x2500, "BOX DRAWINGS ", "LIGHT HORIZONTAL|HEAVY HORIZONTAL|LIGHT VERTICAL|HEAVY VERTICAL|LIGHT TRIPLE DASH HORIZONTAL|HEAVY TRIPLE DASH HORIZONTAL|LIGHT TRIPLE DASH VERTICAL|HEAVY TRIPLE DASH VERTICAL|LIGHT QUADRUPLE DASH HORIZONTAL|HEAVY QUADRUPLE DASH HORIZONTAL|LIGHT QUADRUPLE DASH VERTICAL|HEAVY QUADRUPLE DASH VERTICAL|LIGHT DOWN AND RIGHT|DOWN LIGHT AND RIGHT HEAVY|DOWN HEAVY AND RIGHT LIGHT|HEAVY DOWN AND RIGHT|LIGHT DOWN AND LEFT|DOWN LIGHT AND LEFT HEAVY|DOWN HEAVY AND LEFT LIGHT|HEAVY DOWN AND LEFT|LIGHT UP AND RIGHT|UP LIGHT AND RIGHT HEAVY|UP HEAVY AND RIGHT LIGHT|HEAVY UP AND RIGHT|LIGHT UP AND LEFT|UP LIGHT AND LEFT HEAVY|UP HEAVY AND LEFT LIGHT|HEAVY UP AND LEFT|LIGHT VERTICAL AND RIGHT|VERTICAL LIGHT AND RIGHT HEAVY|UP HEAVY AND RIGHT DOWN LIGHT|DOWN HEAVY AND RIGHT UP LIGHT|VERTICAL HEAVY AND RIGHT LIGHT|DOWN LIGHT AND RIGHT UP HEAVY|UP LIGHT AND RIGHT DOWN HEAVY|HEAVY VERTICAL AND RIGHT|LIGHT VERTICAL AND LEFT|VERTICAL LIGHT AND LEFT HEAVY|UP HEAVY AND LEFT DOWN LIGHT|DOWN HEAVY AND LEFT UP LIGHT|VERTICAL HEAVY AND LEFT LIGHT|DOWN LIGHT AND LEFT UP HEAVY|UP LIGHT AND LEFT DOWN HEAVY|HEAVY VERTICAL AND LEFT|LIGHT DOWN AND HORIZONTAL|LEFT HEAVY AND RIGHT DOWN LIGHT|RIGHT HEAVY AND LEFT DOWN LIGHT|DOWN LIGHT AND HORIZONTAL HEAVY|DOWN HEAVY AND HORIZONTAL LIGHT|RIGHT LIGHT AND LEFT DOWN HEAVY|LEFT LIGHT AND RIGHT DOWN HEAVY|HEAVY DOWN AND HORIZONTAL|LIGHT UP AND HORIZONTAL|LEFT HEAVY AND RIGHT UP LIGHT|RIGHT HEAVY AND LEFT UP LIGHT|UP LIGHT AND HORIZONTAL HEAVY"⟩,
  ⟨0x2538, "BOX DRAWINGS ", "UP HEAVY AND HORIZONTAL LIGHT|RIGHT LIGHT AND LEFT UP HEAVY|LEFT LIGHT AND RIGHT UP HEAVY|HEAVY UP AND HORIZONTAL|LIGHT VERTICAL AND HORIZONTAL|LEFT HEAVY AND RIGHT VERTICAL LIGHT|RIGHT HEAVY AND LEFT VERTICAL LIGHT|VERTICAL LIGHT AND HORIZONTAL HEAVY|UP HEAVY AND DOWN HORIZONTAL LIGHT|DOWN HEAVY AND UP HORIZONTAL LIGHT|VERTICAL HEAVY AND HORIZONTAL LIGHT|LEFT UP HEAVY AND RIGHT DOWN LIGHT|RIGHT UP HEAVY AND LEFT DOWN LIGHT|LEFT DOWN HEAVY AND RIGHT UP LIGHT|RIGHT DOWN HEAVY AND LEFT UP LIGHT|DOWN LIGHT AND UP HORIZONTAL HEAVY|UP LIGHT AND DOWN HORIZONTAL HEAVY|RIGHT LIGHT AND LEFT VERTICAL HEAVY|LEFT LIGHT AND RIGHT VERTICAL HEAVY|HEAVY VERTICAL AND HORIZONTAL|LIGHT DOUBLE DASH HORIZONTAL|HEAVY DOUBLE DASH HORIZONTAL|LIGHT DOUBLE DASH VERTICAL|HEAVY DOUBLE DASH VERTICAL|DOUBLE HORIZONTAL|DOUBLE VERTICAL|DOWN SINGLE AND RIGHT DOUBLE|DOWN DOUBLE AND RIGHT SINGLE|DOUBLE DOWN AND RIGHT|DOWN SINGLE AND LEFT DOUBLE|DOWN DOUBLE AND LEFT SINGLE|DOUBLE DOWN AND LEFT|UP SINGLE AND RIGHT DOUBLE|UP DOUBLE AND RIGHT SINGLE|DOUBLE UP AND RIGHT|UP SINGLE AND LEFT DOUBLE|UP DOUBLE AND LEFT SINGLE|DOUBLE UP AND LEFT|VERTICAL SINGLE AND RIGHT DOUBLE|VERTICAL DOUBLE AND RIGHT SINGLE|DOUBLE VERTICAL AND RIGHT|VERTICAL SINGLE AND LEFT DOUBLE|VERTICAL DOUBLE AND LEFT SINGLE|DOUBLE VERTICAL AND LEFT|DOWN SINGLE AND HORIZONTAL DOUBLE|DOWN DOUBLE AND HORIZONTAL SINGLE|DOUBLE DOWN AND HORIZONTAL|UP SINGLE AND HORIZONTAL DOUBLE|UP DOUBLE AND HORIZONTAL SINGLE|DOUBLE UP AND HORIZONTAL"⟩,
  ⟨0x256A, "BOX DRAWINGS ", "VERTICAL SINGLE AND HORIZONTAL DOUBLE|VERTICAL DOUBLE AND HORIZONTAL SINGLE|DOUBLE VERTICAL AND HORIZONTAL|LIGHT ARC DOWN AND RIGHT|LIGHT ARC DOWN AND LEFT|LIGHT ARC UP AND LEFT|LIGHT ARC UP AND RIGHT|LIGHT DIAGONAL UPPER RIGHT TO LOWER LEFT|LIGHT DIAGONAL UPPER LEFT TO LOWER RIGHT|LIGHT DIAGONAL CROSS|LIGHT LEFT|LIGHT UP|LIGHT RIGHT|LIGHT DOWN|HEAVY LEFT|HEAVY UP|HEAVY RIGHT|HEAVY DOWN|LIGHT LEFT AND HEAVY RIGHT|LIGHT UP AND HEAVY DOWN|HEAVY LEFT AND LIGHT RIGHT|HEAVY UP AND LIGHT DOWN"⟩,
  ⟨0x2580, "", "UPPER HALF BLOCK|LOWER ONE EIGHTH BLOCK|LOWER ONE QUARTER BLOCK|LOWER THREE EIGHTHS BLOCK|LOWER HALF BLOCK|LOWER FIVE EIGHTHS BLOCK|LOWER THREE QUARTERS BLOCK|LOWER SEVEN EIGHTHS BLOCK|FULL BLOCK|LEFT SEVEN EIGHTHS BLOCK|LEFT THREE QUARTERS BLOCK|LEFT FIVE EIGHTHS BLOCK|LEFT HALF BLOCK|LEFT THREE EIGHTHS BLOCK|LEFT ONE QUARTER BLOCK|LEFT ONE EIGHTH BLOCK|RIGHT HALF BLOCK|LIGHT SHADE|MEDIUM SHADE|DARK SHADE|UPPER ONE EIGHTH BLOCK|RIGHT ONE EIGHTH BLOCK|QUADRANT LOWER LEFT|QUADRANT LOWER RIGHT"⟩,
  ⟨0x2598, "QUADRANT UPPER ", "LEFT|LEFT AND LOWER LEFT AND LOWER RIGHT|LEFT AND LOWER RIGHT|LEFT AND UPPER RIGHT AND LOWER LEFT|LEFT AND UPPER RIGHT AND LOWER RIGHT|RIGHT|RIGHT AND LOWER LEFT|RIGHT AND LOWER LEFT AND LOWER RIGHT"⟩,
  ⟨0x25A0, "BLACK SQUARE", ""⟩,
  ⟨0x25A1, "WHITE SQUARE", "| WITH ROUNDED CORNERS| CONTAINING BLACK SMALL SQUARE"⟩,
  ⟨0x25A4, "SQUARE WITH ", "HORIZONTAL FILL|VERTICAL FILL|ORTHOGONAL CROSSHATCH FILL|UPPER LEFT TO LOWER RIGHT FILL|UPPER RIGHT TO LOWER LEFT FILL|DIAGONAL CROSSHATCH FILL"⟩,
  ⟨0x25AA, "", "BLACK SMALL SQUARE|WHITE SMALL SQUARE|BLACK RECTANGLE|WHITE RECTANGLE|BLACK VERTICAL RECTANGLE|WHITE VERTICAL RECTANGLE|BLACK PARALLELOGRAM|WHITE PARALLELOGRAM|BLACK UP-POINTING TRIANGLE|WHITE UP-POINTING TRIANGLE|BLACK UP-POINTING SMALL TRIANGLE|WHITE UP-POINTING SMALL TRIANGLE|BLACK RIGHT-POINTING TRIANGLE|WHITE RIGHT-POINTING TRIANGLE|BLACK RIGHT-POINTING SMALL TRIANGLE|WHITE RIGHT-POINTING SMALL TRIANGLE|BLACK RIGHT-POINTING POINTER|WHITE RIGHT-POINTING POINTER|BLACK DOWN-POINTING TRIANGLE|WHITE DOWN-POINTING TRIANGLE|BLACK DOWN-POINTING SMALL TRIANGLE|WHITE DOWN-POINTING SMALL TRIANGLE|BLACK LEFT-POINTING TRIANGLE|WHITE LEFT-POINTING TRIANGLE|BLACK LEFT-POINTING SMALL TRIANGLE|WHITE LEFT-POINTING SMALL TRIANGLE|BLACK LEFT-POINTING POINTER|WHITE LEFT-POINTING POINTER|BLACK DIAMOND|WHITE DIAMOND|WHITE DIAMOND CONTAINING BLACK SMALL DIAMOND|FISHEYE|LOZENGE|WHITE CIRCLE|DOTTED CIRCLE|CIRCLE WITH VERTICAL FILL|BULLSEYE|BLACK CIRCLE"⟩,
  ⟨0x25D0, "CIRCLE WITH ", "LEFT HALF BLACK|RIGHT HALF BLACK|LOWER HALF BLACK|UPPER HALF BLACK|UPPER RIGHT QUADRANT BLACK|ALL BUT UPPER LEFT QUADRANT BLACK"⟩,
  ⟨0x25D6, "", "LEFT HALF BLACK CIRCLE|RIGHT HALF BLACK CIRCLE|INVERSE BULLET|INVERSE WHITE CIRCLE|UPPER HALF INVERSE WHITE CIRCLE|LOWER HALF INVERSE WHITE CIRCLE|UPPER LEFT QUADRANT CIRCULAR ARC|UPPER RIGHT QUADRANT CIRCULAR ARC|LOWER RIGHT QUADRANT CIRCULAR ARC|LOWER LEFT QUADRANT CIRCULAR ARC|UPPER HALF CIRCLE|LOWER HALF CIRCLE|BLACK LOWER RIGHT TRIANGLE|BLACK LOWER LEFT TRIANGLE|BLACK UPPER LEFT TRIANGLE|BLACK UPPER RIGHT TRIANGLE|WHITE BULLET|SQUARE WITH LEFT HALF BLACK|SQUARE WITH RIGHT HALF BLACK|SQUARE WITH UPPER LEFT DIAGONAL HALF BLACK|SQUARE WITH LOWER RIGHT DIAGONAL HALF BLACK|WHITE SQUARE WITH VERTICAL BISECTING LINE|WHITE UP-POINTING TRIANGLE WITH DOT|UP-POINTING TRIANGLE WITH LEFT HALF BLACK|UP-POINTING TRIANGLE WITH RIGHT HALF BLACK|LARGE CIRCLE"⟩,
  ⟨0x25F0, "WHITE SQUARE WITH ", "UPPER LEFT QUADRANT|LOWER LEFT QUADRANT|LOWER RIGHT QUADRANT|UPPER RIGHT QUADRANT"⟩,
  ⟨0x25F4, "WHITE CIRCLE WITH ", "UPPER LEFT QUADRANT|LOWER LEFT QUADRANT|LOWER RIGHT QUADRANT|UPPER RIGHT QUADRANT"⟩,
  ⟨0x25F8, "", "UPPER LEFT TRIANGLE|UPPER RIGHT TRIANGLE|LOWER LEFT TRIANGLE|WHITE MEDIUM SQUARE|BLACK MEDIUM SQUARE|WHITE MEDIUM SMALL SQUARE|BLACK MEDIUM SMALL SQUARE|LOWER RIGHT TRIANGLE|BLACK SUN WITH RAYS|CLOUD|UMBRELLA|SNOWMAN|COMET|BLACK STAR|WHITE STAR|LIGHTNING|THUNDERSTORM|SUN|ASCENDING NODE|DESCENDING NODE|CONJUNCTION|OPPOSITION|BLACK TELEPHONE|WHITE TELEPHONE|BALLOT BOX|BALLOT BOX WITH CHECK|BALLOT BOX WITH X|SALTIRE|UMBRELLA WITH RAIN DROPS|HOT BEVERAGE|WHITE SHOGI PIECE|BLACK SHOGI PIECE|SHAMROCK|REVERSED ROTATED FLORAL HEART BULLET|BLACK LEFT POINTING INDEX|BLACK RIGHT POINTING INDEX|WHITE LEFT POINTING INDEX|WHITE UP POINTING INDEX|WHITE RIGHT POINTING INDEX|WHITE DOWN POINTING INDEX|SKULL AND CROSSBONES|CAUTION SIGN|RADIOACTIVE SIGN|BIOHAZARD SIGN|CADUCEUS|ANKH|ORTHODOX CROSS|CHI RHO|CROSS OF LORRAINE|CROSS OF JERUSALEM|STAR AND CRESCENT|FARSI SYMBOL|ADI SHAKTI|HAMMER AND SICKLE|PEACE SYMBOL|YIN YANG"⟩,
  ⟨0x2630, "TRIGRAM FOR ", "HEAVEN|LAKE|FIRE|THUNDER|WIND|WATER|MOUNTAIN|EARTH"⟩,
  ⟨0x2638, "", "WHEEL OF DHARMA|WHITE FROWNING FACE|WHITE SMILING FACE|BLACK SMILING FACE|WHITE SUN WITH RAYS|FIRST QUARTER MOON|LAST QUARTER MOON|MERCURY|FEMALE SIGN|EARTH|MALE SIGN|JUPITER|SATURN|URANUS|NEPTUNE|PLUTO|ARIES|TAURUS|GEMINI|CANCER|LEO|VIRGO|LIBRA|SCORPIUS|SAGITTARIUS|CAPRICORN|AQUARIUS|PISCES"⟩,
  ⟨0x2654, "WHITE CHESS ", "KING|QUEEN|ROOK|BISHOP|KNIGHT|PAWN"⟩,
  ⟨0x265A, "BLACK CHESS ", "KING|QUEEN|ROOK|BISHOP|KNIGHT|PAWN"⟩,
  ⟨0x2660, "", "BLACK SPADE SUIT|WHITE HEART SUIT|WHITE DIAMOND SUIT|BLACK CLUB SUIT|WHITE SPADE SUIT|BLACK HEART SUIT|BLACK DIAMOND SUIT|WHITE CLUB SUIT|HOT SPRINGS|QUARTER NOTE|EIGHTH NOTE|BEAMED EIGHTH NOTES|BEAMED SIXTEENTH NOTES|MUSIC FLAT SIGN|MUSIC NATURAL SIGN|MUSIC SHARP SIGN|WEST SYRIAC CROSS|EAST SYRIAC CROSS|UNIVERSAL RECYCLING SYMBOL"⟩,
  ⟨0x2673, "RECYCLING SYMBOL FOR TYPE-", "1 PLASTICS|2 PLASTICS|3 PLASTICS|4 PLASTICS|5 PLASTICS|6 PLASTICS|7 PLASTICS"⟩,
  ⟨0x267A, "", "RECYCLING SYMBOL FOR GENERIC MATERIALS|BLACK UNIVERSAL RECYCLING SYMBOL|RECYCLED PAPER SYMBOL|PARTIALLY-RECYCLED PAPER SYMBOL|PERMANENT PAPER SIGN|WHEELCHAIR SYMBOL"⟩,
  ⟨0x2680, "DIE FACE-", "1|2|3|4|5|6"⟩,
  ⟨0x2686, "", "WHITE CIRCLE WITH DOT RIGHT|WHITE CIRCLE WITH TWO DOTS|BLACK CIRCLE WITH WHITE DOT RIGHT|BLACK CIRCLE WITH TWO WHITE DOTS|MONOGRAM FOR YANG|MONOGRAM FOR YIN|DIGRAM FOR GREATER YANG|DIGRAM FOR LESSER YIN|DIGRAM FOR LESSER YANG|DIGRAM FOR GREATER YIN|WHITE FLAG|BLACK FLAG|HAMMER AND PICK|ANCHOR|CROSSED SWORDS|STAFF OF AESCULAPIUS|SCALES|ALEMBIC|FLOWER|GEAR|STAFF OF HERMES|ATOM SYMBOL|FLEUR-DE-LIS|OUTLINED WHITE STAR|THREE LINES CONVERGING RIGHT|THREE LINES CONVERGING LEFT|WARNING SIGN|HIGH VOLTAGE SIGN|DOUBLED FEMALE SIGN|DOUBLED MALE SIGN|INTERLOCKED FEMALE AND MALE SIGN|MALE AND FEMALE SIGN|MALE WITH STROKE SIGN|MALE WITH STROKE AND MALE AND FEMALE SIGN|VERTICAL MALE WITH STROKE SIGN|HORIZONTAL MALE WITH STROKE SIGN|MEDIUM WHITE CIRCLE|MEDIUM BLACK CIRCLE|MEDIUM SMALL WHITE CIRCLE|MARRIAGE SYMBOL|DIVORCE SYMBOL|UNMARRIED PARTNERSHIP SYMBOL|COFFIN|FUNERAL URN|NEUTER|CERES|PALLAS|JUNO|VESTA|CHIRON|BLACK MOON LILITH|SEXTILE|SEMISEXTILE|QUINCUNX|SESQUIQUADRATE|SOCCER BALL|BASEBALL|SQUARED KEY|WHITE DRAUGHTS MAN|WHITE DRAUGHTS KING|BLACK DRAUGHTS MAN|BLACK DRAUGHTS KING|SNOWMAN WITHOUT SNOW|SUN BEHIND CLOUD|RAIN|BLACK SNOWMAN|THUNDER CLOUD AND RAIN|TURNED WHITE SHOGI PIECE|TURNED BLACK SHOGI PIECE|WHITE DIAMOND IN SQUARE|CROSSING LANES|DISABLED CAR|OPHIUCHUS|PICK|CAR SLIDING|HELMET WITH WHITE CROSS|CIRCLED CROSSING LANES|CHAINS|NO ENTRY|ALTERNATE ONE-WAY LEFT WAY TRAFFIC|BLACK TWO-WAY LEFT WAY TRAFFIC|WHITE TWO-WAY LEFT WAY TRAFFIC|BLACK LEFT LANE MERGE|WHITE LEFT LANE MERGE"⟩,
  ⟨0x26DA, "", "DRIVE SLOW SIGN|HEAVY WHITE DOWN-POINTING TRIANGLE|LEFT CLOSED ENTRY|SQUARED SALTIRE|FALLING DIAGONAL IN WHITE CIRCLE IN BLACK SQUARE|BLACK TRUCK|RESTRICTED LEFT ENTRY-1|RESTRICTED LEFT ENTRY-2|ASTRONOMICAL SYMBOL FOR URANUS|HEAVY CIRCLE WITH STROKE AND TWO DOTS ABOVE|PENTAGRAM|RIGHT-HANDED INTERLACED PENTAGRAM|LEFT-HANDED INTERLACED PENTAGRAM|INVERTED PENTAGRAM|BLACK CROSS ON SHIELD|SHINTO SHRINE|CHURCH|CASTLE|HISTORIC SITE|GEAR WITHOUT HUB|GEAR WITH HANDLES|MAP SYMBOL FOR LIGHTHOUSE|MOUNTAIN|UMBRELLA ON GROUND|FOUNTAIN|FLAG IN HOLE|FERRY|SAILBOAT|SQUARE FOUR CORNERS|SKIER|ICE SKATE|PERSON WITH BALL|TENT|JAPANESE BANK SYMBOL|HEADSTONE GRAVEYARD SYMBOL|FUEL PUMP|CUP ON BLACK SQUARE|WHITE FLAG WITH HORIZONTAL MIDDLE BLACK STRIPE|BLACK SAFETY SCISSORS|UPPER BLADE SCISSORS|BLACK SCISSORS|LOWER BLADE SCISSORS|WHITE SCISSORS|WHITE HEAVY CHECK MARK|TELEPHONE LOCATION SIGN|TAPE DRIVE|AIRPLANE|ENVELOPE|RAISED FIST|RAISED HAND|VICTORY HAND|WRITING HAND|LOWER RIGHT PENCIL|PENCIL|UPPER RIGHT PENCIL|WHITE NIB|BLACK NIB|CHECK MARK|HEAVY CHECK MARK|MULTIPLICATION X|HEAVY MULTIPLICATION X|BALLOT X|HEAVY BALLOT X|OUTLINED GREEK CROSS|HEAVY GREEK CROSS|OPEN CENTRE CROSS|HEAVY OPEN CENTRE CROSS|LATIN CROSS|SHADOWED WHITE LATIN CROSS|OUTLINED LATIN CROSS|MALTESE CROSS|STAR OF DAVID|FOUR TEARDROP-SPOKED ASTERISK|FOUR BALLOON-SPOKED ASTERISK|HEAVY FOUR BALLOON-SPOKED ASTERISK|FOUR CLUB-SPOKED ASTERISK|BLACK FOUR POINTED STAR|WHITE FOUR POINTED STAR|SPARKLES|STRESS OUTLINED WHITE STAR"⟩,
  ⟨0x272A, "", "CIRCLED WHITE STAR|OPEN CENTRE BLACK STAR|BLACK CENTRE WHITE STAR|OUTLINED BLACK STAR|HEAVY OUTLINED BLACK STAR|PINWHEEL STAR|SHADOWED WHITE STAR|HEAVY ASTERISK|OPEN CENTRE ASTERISK|EIGHT SPOKED ASTERISK|EIGHT POINTED BLACK STAR|EIGHT POINTED PINWHEEL STAR|SIX POINTED BLACK STAR|EIGHT POINTED RECTILINEAR BLACK STAR|HEAVY EIGHT POINTED RECTILINEAR BLACK STAR|TWELVE POINTED BLACK STAR|SIXTEEN POINTED ASTERISK|TEARDROP-SPOKED ASTERISK|OPEN CENTRE TEARDROP-SPOKED ASTERISK|HEAVY TEARDROP-SPOKED ASTERISK|SIX PETALLED BLACK AND WHITE FLORETTE|BLACK FLORETTE|WHITE FLORETTE|EIGHT PETALLED OUTLINED BLACK FLORETTE|CIRCLED OPEN CENTRE EIGHT POINTED STAR|HEAVY TEARDROP-SPOKED PINWHEEL ASTERISK|SNOWFLAKE|TIGHT TRIFOLIATE SNOWFLAKE|HEAVY CHEVRON SNOWFLAKE|SPARKLE|HEAVY SPARKLE|BALLOON-SPOKED ASTERISK|EIGHT TEARDROP-SPOKED PROPELLER ASTERISK|HEAVY EIGHT TEARDROP-SPOKED PROPELLER ASTERISK|CROSS MARK|SHADOWED WHITE CIRCLE|NEGATIVE SQUARED CROSS MARK|LOWER RIGHT DROP-SHADOWED WHITE SQUARE|UPPER RIGHT DROP-SHADOWED WHITE SQUARE|LOWER RIGHT SHADOWED WHITE SQUARE|UPPER RIGHT SHADOWED WHITE SQUARE|BLACK QUESTION MARK ORNAMENT|WHITE QUESTION MARK ORNAMENT|WHITE EXCLAMATION MARK ORNAMENT|BLACK DIAMOND MINUS WHITE X|HEAVY EXCLAMATION MARK SYMBOL|LIGHT VERTICAL BAR|MEDIUM VERTICAL BAR|HEAVY VERTICAL BAR|HEAVY SINGLE TURNED COMMA QUOTATION MARK ORNAMENT|HEAVY SINGLE COMMA QUOTATION MARK ORNAMENT|HEAVY DOUBLE TURNED COMMA QUOTATION MARK ORNAMENT|HEAVY DOUBLE COMMA QUOTATION MARK ORNAMENT"⟩,
  ⟨0x275F, "", "HEAVY LOW SINGLE COMMA QUOTATION MARK ORNAMENT|HEAVY LOW DOUBLE COMMA QUOTATION MARK ORNAMENT|CURVED STEM PARAGRAPH SIGN ORNAMENT|HEAVY EXCLAMATION MARK ORNAMENT|HEAVY HEART EXCLAMATION MARK ORNAMENT|HEAVY BLACK HEART|ROTATED HEAVY BLACK HEART BULLET|FLORAL HEART|ROTATED FLORAL HEART BULLET|MEDIUM LEFT PARENTHESIS ORNAMENT|MEDIUM RIGHT PARENTHESIS ORNAMENT|MEDIUM FLATTENED LEFT PARENTHESIS ORNAMENT|MEDIUM FLATTENED RIGHT PARENTHESIS ORNAMENT|MEDIUM LEFT-POINTING ANGLE BRACKET ORNAMENT|MEDIUM RIGHT-POINTING ANGLE BRACKET ORNAMENT|HEAVY LEFT-POINTING ANGLE QUOTATION MARK ORNAMENT|HEAVY RIGHT-POINTING ANGLE QUOTATION MARK ORNAMENT|HEAVY LEFT-POINTING ANGLE BRACKET ORNAMENT|HEAVY RIGHT-POINTING ANGLE BRACKET ORNAMENT|LIGHT LEFT TORTOISE SHELL BRACKET ORNAMENT|LIGHT RIGHT TORTOISE SHELL BRACKET ORNAMENT|MEDIUM LEFT CURLY BRACKET ORNAMENT|MEDIUM RIGHT CURLY BRACKET ORNAMENT"⟩,
  ⟨0x2776, "DINGBAT NEGATIVE CIRCLED DIGIT ", "ONE|TWO|THREE|FOUR|FIVE|SIX|SEVEN|EIGHT|NINE"⟩,
  ⟨0x277F, "DINGBAT NEGATIVE CIRCLED NUMBER TEN", ""⟩,
  ⟨0x2780, "DINGBAT CIRCLED SANS-SERIF ", "DIGIT ONE|DIGIT TWO|DIGIT THREE|DIGIT FOUR|DIGIT FIVE|DIGIT SIX|DIGIT SEVEN|DIGIT EIGHT|DIGIT NINE|NUMBER TEN"⟩,
  ⟨0x278A, "DINGBAT NEGATIVE CIRCLED SANS-SERIF ", "DIGIT ONE|DIGIT TWO|DIGIT THREE|DIGIT FOUR|DIGIT FIVE|DIGIT SIX|DIGIT SEVEN|DIGIT EIGHT|DIGIT NINE|NUMBER TEN"⟩,
  ⟨0x2794, "HEAVY ", "WIDE-HEADED RIGHTWARDS ARROW|PLUS SIGN|MINUS SIGN|DIVISION SIGN|SOUTH EAST ARROW|RIGHTWARDS ARROW|NORTH EAST ARROW"⟩,
  ⟨0x279B, "", "DRAFTING POINT RIGHTWARDS ARROW|HEAVY ROUND-TIPPED RIGHTWARDS ARROW|TRIANGLE-HEADED RIGHTWARDS ARROW|HEAVY TRIANGLE-HEADED RIGHTWARDS ARROW|DASHED TRIANGLE-HEADED RIGHTWARDS ARROW|HEAVY DASHED TRIANGLE-HEADED RIGHTWARDS ARROW|BLACK RIGHTWARDS ARROW|THREE-D TOP-LIGHTED RIGHTWARDS ARROWHEAD|THREE-D BOTTOM-LIGHTED RIGHTWARDS ARROWHEAD|BLACK RIGHTWARDS ARROWHEAD|HEAVY BLACK CURVED DOWNWARDS AND RIGHTWARDS ARROW|HEAVY BLACK CURVED UPWARDS AND RIGHTWARDS ARROW|SQUAT BLACK RIGHTWARDS ARROW|HEAVY CONCAVE-POINTED BLACK RIGHTWARDS ARROW|RIGHT-SHADED WHITE RIGHTWARDS ARROW|LEFT-SHADED WHITE RIGHTWARDS ARROW|BACK-TILTED SHADOWED WHITE RIGHTWARDS ARROW|FRONT-TILTED SHADOWED WHITE RIGHTWARDS ARROW|HEAVY LOWER RIGHT-SHADOWED WHITE RIGHTWARDS ARROW|HEAVY UPPER RIGHT-SHADOWED WHITE RIGHTWARDS ARROW|NOTCHED LOWER RIGHT-SHADOWED WHITE RIGHTWARDS ARROW|CURLY LOOP|NOTCHED UPPER RIGHT-SHADOWED WHITE RIGHTWARDS ARROW|CIRCLED HEAVY WHITE RIGHTWARDS ARROW|WHITE-FEATHERED RIGHTWARDS ARROW"⟩,
  ⟨0x27B4, "BLACK-FEATHERED ", "SOUTH EAST ARROW|RIGHTWARDS ARROW|NORTH EAST ARROW"⟩,
  ⟨0x27B7, "HEAVY BLACK-FEATHERED ", "SOUTH EAST ARROW|RIGHTWARDS ARROW|NORTH EAST ARROW"⟩,
  ⟨0x27BA, "", "TEARDROP-BARBED RIGHTWARDS ARROW|HEAVY TEARDROP-SHANKED RIGHTWARDS ARROW|WEDGE-TAILED RIGHTWARDS ARROW|HEAVY WEDGE-TAILED RIGHTWARDS ARROW|OPEN-OUTLINED RIGHTWARDS ARROW|DOUBLE CURLY LOOP|THREE DIMENSIONAL ANGLE|WHITE TRIANGLE CONTAINING SMALL WHITE TRIANGLE|PERPENDICULAR|OPEN SUBSET|OPEN SUPERSET|LEFT S-SHAPED BAG DELIMITER|RIGHT S-SHAPED BAG DELIMITER|OR WITH DOT INSIDE|REVERSE SOLIDUS PRECEDING SUBSET|SUPERSET PRECEDING SOLIDUS|VERTICAL BAR WITH HORIZONTAL STROKE|MATHEMATICAL RISING DIAGONAL|LONG DIVISION|MATHEMATICAL FALLING DIAGONAL|SQUARED LOGICAL AND|SQUARED LOGICAL OR|WHITE DIAMOND WITH CENTRED DOT|AND WITH DOT|ELEMENT OF OPENING UPWARDS|LOWER RIGHT CORNER WITH DOT|UPPER LEFT CORNER WITH DOT|LEFT OUTER JOIN|RIGHT OUTER JOIN|FULL OUTER JOIN|LARGE UP TACK|LARGE DOWN TACK|LEFT AND RIGHT DOUBLE TURNSTILE|LEFT AND RIGHT TACK|LEFT MULTIMAP|LONG RIGHT TACK|LONG LEFT TACK|UP TACK WITH CIRCLE ABOVE|LOZENGE DIVIDED BY HORIZONTAL RULE"⟩,
  ⟨0x27E1, "WHITE CONCAVE-SIDED DIAMOND", "| WITH LEFTWARDS TICK| WITH RIGHTWARDS TICK"⟩,
  ⟨0x27E4, "WHITE SQUARE WITH ", "LEFTWARDS TICK|RIGHTWARDS TICK"⟩,
  ⟨0x27E6, "MATHEMATICAL ", "LEFT WHITE SQUARE BRACKET|RIGHT WHITE SQUARE BRACKET|LEFT ANGLE BRACKET|RIGHT ANGLE BRACKET|LEFT DOUBLE ANGLE BRACKET|RIGHT DOUBLE ANGLE BRACKET|LEFT WHITE TORTOISE SHELL BRACKET|RIGHT WHITE TORTOISE SHELL BRACKET|LEFT FLATTENED PARENTHESIS|RIGHT FLATTENED PARENTHESIS"⟩,
  ⟨0x27F0, "", "UPWARDS QUADRUPLE ARROW|DOWNWARDS QUADRUPLE ARROW|ANTICLOCKWISE GAPPED CIRCLE ARROW|CLOCKWISE GAPPED CIRCLE ARROW|RIGHT ARROW WITH CIRCLED PLUS"⟩,
  ⟨0x27F5, "LONG ", "LEFTWARDS ARROW|RIGHTWARDS ARROW|LEFT RIGHT ARROW|LEFTWARDS DOUBLE ARROW|RIGHTWARDS DOUBLE ARROW|LEFT RIGHT DOUBLE ARROW|LEFTWARDS ARROW FROM BAR|RIGHTWARDS ARROW FROM BAR|LEFTWARDS DOUBLE ARROW FROM BAR|RIGHTWARDS DOUBLE ARROW FROM BAR|RIGHTWARDS SQUIGGLE ARROW"⟩,
  ⟨0x2800, "BRAILLE PATTERN BLANK", ""⟩,
  ⟨0x2801, "BRAILLE PATTERN DOTS-", "1|2|12|3|13|23|123|4|14|24|124|34|134|234|1234|5|15|25|125|35|135|235|1235|45|145|245|1245|345|1345|2345|12345|6|16|26|126|36|136|236|1236|46|146|246|1246|346|1346|2346|12346|56|156|256|1256|356|1356|2356|12356|456|1456|2456|12456|3456|13456|23456|123456|7|17|27|127|37|137|237|1237|47|147|247|1247|347|1347|2347|12347|57|157|257|1257|357|1357|2357|12357|457|1457|2457|12457|3457|13457|23457|123457|67|167|267|1267|367|1367|2367|12367|467|1467|2467|12467|3467|13467|23467|123467|567|1567|2567|12567|3567|13567|23567|123567|4567|14567|24567|124567|34567|134567|234567|1234567|8|18|28|128|38|138|238|1238|48|148|248|1248|348|1348|2348|12348|58|158|258|1258|358|1358|2358|12358|458|1458|2458|12458|3458|13458|23458|123458|68|168|268|1268|368|1368|2368|12368|468|1468|2468|12468|3468|13468|23468|123468|568|1568|2568|12568|3568|13568|23568|123568|4568|14568|24568|124568|34568|134568|234568|1234568|78|178|278|1278|378|1378|2378|12378|478|1478|2478|12478|3478|13478|23478|123478|578|1578|2578|12578|3578|13578|23578|123578|4578|14578|24578|124578|34578|134578|234578|1234578|678|1678|2678|12678|3678|13678|23678|123678|4678|14678|24678|124678|34678|134678|234678|1234678|5678|15678|25678|125678|35678|135678|235678|1235678|45678|145678|245678|1245678|345678|1345678|2345678|12345678"⟩,
  ⟨0x2900, "RIGHTWARDS TWO-HEADED ARROW WITH ", "VERTICAL STROKE|DOUBLE VERTICAL STROKE"⟩,
  ⟨0x2902, "", "LEFTWARDS DOUBLE ARROW WITH VERTICAL STROKE|RIGHTWARDS DOUBLE ARROW WITH VERTICAL STROKE|LEFT RIGHT DOUBLE ARROW WITH VERTICAL STROKE|RIGHTWARDS TWO-HEADED ARROW FROM BAR|LEFTWARDS DOUBLE ARROW FROM BAR|RIGHTWARDS DOUBLE ARROW FROM BAR|DOWNWARDS ARROW WITH HORIZONTAL STROKE|UPWARDS ARROW WITH HORIZONTAL STROKE|UPWARDS TRIPLE ARROW|DOWNWARDS TRIPLE ARROW|LEFTWARDS DOUBLE DASH ARROW|RIGHTWARDS DOUBLE DASH ARROW|LEFTWARDS TRIPLE DASH ARROW|RIGHTWARDS TRIPLE DASH ARROW|RIGHTWARDS TWO-HEADED TRIPLE DASH ARROW|RIGHTWARDS ARROW WITH DOTTED STEM|UPWARDS ARROW TO BAR|DOWNWARDS ARROW TO BAR"⟩,
  ⟨0x2914, "RIGHTWARDS ARROW WITH TAIL WITH ", "VERTICAL STROKE|DOUBLE VERTICAL STROKE"⟩,
  ⟨0x2916, "RIGHTWARDS TWO-HEADED ARROW WITH TAIL", "| WITH VERTICAL STROKE| WITH DOUBLE VERTICAL STROKE"⟩,
  ⟨0x2919, "", "LEFTWARDS ARROW-TAIL|RIGHTWARDS ARROW-TAIL|LEFTWARDS DOUBLE ARROW-TAIL|RIGHTWARDS DOUBLE ARROW-TAIL|LEFTWARDS ARROW TO BLACK DIAMOND|RIGHTWARDS ARROW TO BLACK DIAMOND|LEFTWARDS ARROW FROM BAR TO BLACK DIAMOND|RIGHTWARDS ARROW FROM BAR TO BLACK DIAMOND|NORTH WEST AND SOUTH EAST ARROW|NORTH EAST AND SOUTH WEST ARROW|NORTH WEST ARROW WITH HOOK|NORTH EAST ARROW WITH HOOK|SOUTH EAST ARROW WITH HOOK|SOUTH WEST ARROW WITH HOOK|NORTH WEST ARROW AND NORTH EAST ARROW|NORTH EAST ARROW AND SOUTH EAST ARROW|SOUTH EAST ARROW AND SOUTH WEST ARROW|SOUTH WEST ARROW AND NORTH WEST ARROW|RISING DIAGONAL CROSSING FALLING DIAGONAL|FALLING DIAGONAL CROSSING RISING DIAGONAL|SOUTH EAST ARROW CROSSING NORTH EAST ARROW|NORTH EAST ARROW CROSSING SOUTH EAST ARROW|FALLING DIAGONAL CROSSING NORTH EAST ARROW|RISING DIAGONAL CROSSING SOUTH EAST ARROW|NORTH EAST ARROW CROSSING NORTH WEST ARROW|NORTH WEST ARROW CROSSING NORTH EAST ARROW|WAVE ARROW POINTING DIRECTLY RIGHT"⟩,
  ⟨0x2934, "ARROW POINTING RIGHTWARDS THEN CURVING ", "UPWARDS|DOWNWARDS"⟩,
  ⟨0x2936, "ARROW POINTING DOWNWARDS THEN CURVING ", "LEFTWARDS|RIGHTWARDS"⟩,
  ⟨0x2938, "", "RIGHT-SIDE ARC CLOCKWISE ARROW|LEFT-SIDE ARC ANTICLOCKWISE ARROW|TOP ARC ANTICLOCKWISE ARROW|BOTTOM ARC ANTICLOCKWISE ARROW|TOP ARC CLOCKWISE ARROW WITH MINUS|TOP ARC ANTICLOCKWISE ARROW WITH PLUS|LOWER RIGHT SEMICIRCULAR CLOCKWISE ARROW|LOWER LEFT SEMICIRCULAR ANTICLOCKWISE ARROW|ANTICLOCKWISE CLOSED CIRCLE ARROW|CLOCKWISE CLOSED CIRCLE ARROW|RIGHTWARDS ARROW ABOVE SHORT LEFTWARDS ARROW|LEFTWARDS ARROW ABOVE SHORT RIGHTWARDS ARROW|SHORT RIGHTWARDS ARROW ABOVE LEFTWARDS ARROW|RIGHTWARDS ARROW WITH PLUS BELOW|LEFTWARDS ARROW WITH PLUS BELOW|RIGHTWARDS ARROW THROUGH X|LEFT RIGHT ARROW THROUGH SMALL CIRCLE|UPWARDS TWO-HEADED ARROW FROM SMALL CIRCLE|LEFT BARB UP RIGHT BARB DOWN HARPOON|LEFT BARB DOWN RIGHT BARB UP HARPOON|UP BARB RIGHT DOWN BARB LEFT HARPOON|UP BARB LEFT DOWN BARB RIGHT HARPOON|LEFT BARB UP RIGHT BARB UP HARPOON|UP BARB RIGHT DOWN BARB RIGHT HARPOON|LEFT BARB DOWN RIGHT BARB DOWN HARPOON|UP BARB LEFT DOWN BARB LEFT HARPOON|LEFTWARDS HARPOON WITH BARB UP TO BAR|RIGHTWARDS HARPOON WITH BARB UP TO BAR|UPWARDS HARPOON WITH BARB RIGHT TO BAR|DOWNWARDS HARPOON WITH BARB RIGHT TO BAR|LEFTWARDS HARPOON WITH BARB DOWN TO BAR|RIGHTWARDS HARPOON WITH BARB DOWN TO BAR|UPWARDS HARPOON WITH BARB LEFT TO BAR|DOWNWARDS HARPOON WITH BARB LEFT TO BAR|LEFTWARDS HARPOON WITH BARB UP FROM BAR|RIGHTWARDS HARPOON WITH BARB UP FROM BAR|UPWARDS HARPOON WITH BARB RIGHT FROM BAR|DOWNWARDS HARPOON WITH BARB RIGHT FROM BAR|LEFTWARDS HARPOON WITH BARB DOWN FROM BAR"⟩,
  ⟨0x295F, "", "RIGHTWARDS HARPOON WITH BARB DOWN FROM BAR|UPWARDS HARPOON WITH BARB LEFT FROM BAR|DOWNWARDS HARPOON WITH BARB LEFT FROM BAR|LEFTWARDS HARPOON WITH BARB UP ABOVE LEFTWARDS HARPOON WITH BARB DOWN|UPWARDS HARPOON WITH BARB LEFT BESIDE UPWARDS HARPOON WITH BARB RIGHT|RIGHTWARDS HARPOON WITH BARB UP ABOVE RIGHTWARDS HARPOON WITH BARB DOWN|DOWNWARDS HARPOON WITH BARB LEFT BESIDE DOWNWARDS HARPOON WITH BARB RIGHT"⟩,
  ⟨0x2966, "LEFTWARDS HARPOON WITH BARB ", "UP ABOVE RIGHTWARDS HARPOON WITH BARB UP|DOWN ABOVE RIGHTWARDS HARPOON WITH BARB DOWN"⟩,
  ⟨0x2968, "RIGHTWARDS HARPOON WITH BARB ", "UP ABOVE LEFTWARDS HARPOON WITH BARB UP|DOWN ABOVE LEFTWARDS HARPOON WITH BARB DOWN"⟩,
  ⟨0x296A, "LEFTWARDS HARPOON WITH BARB ", "UP ABOVE LONG DASH|DOWN BELOW LONG DASH"⟩,
  ⟨0x296C, "RIGHTWARDS HARPOON WITH BARB ", "UP ABOVE LONG DASH|DOWN BELOW LONG DASH"⟩,
  ⟨0x296E, "", "UPWARDS HARPOON WITH BARB LEFT BESIDE DOWNWARDS HARPOON WITH BARB RIGHT|DOWNWARDS HARPOON WITH BARB LEFT BESIDE UPWARDS HARPOON WITH BARB RIGHT|RIGHT DOUBLE ARROW WITH ROUNDED HEAD|EQUALS SIGN ABOVE RIGHTWARDS ARROW|TILDE OPERATOR ABOVE RIGHTWARDS ARROW|LEFTWARDS ARROW ABOVE TILDE OPERATOR|RIGHTWARDS ARROW ABOVE TILDE OPERATOR|RIGHTWARDS ARROW ABOVE ALMOST EQUAL TO|LESS-THAN ABOVE LEFTWARDS ARROW|LEFTWARDS ARROW THROUGH LESS-THAN|GREATER-THAN ABOVE RIGHTWARDS ARROW|SUBSET ABOVE RIGHTWARDS ARROW|LEFTWARDS ARROW THROUGH SUBSET|SUPERSET ABOVE LEFTWARDS ARROW|LEFT FISH TAIL|RIGHT FISH TAIL|UP FISH TAIL|DOWN FISH TAIL|TRIPLE VERTICAL BAR DELIMITER|Z NOTATION SPOT|Z NOTATION TYPE COLON|LEFT WHITE CURLY BRACKET|RIGHT WHITE CURLY BRACKET|LEFT WHITE PARENTHESIS|RIGHT WHITE PARENTHESIS|Z NOTATION LEFT IMAGE BRACKET|Z NOTATION RIGHT IMAGE BRACKET|Z NOTATION LEFT BINDING BRACKET|Z NOTATION RIGHT BINDING BRACKET|LEFT SQUARE BRACKET WITH UNDERBAR|RIGHT SQUARE BRACKET WITH UNDERBAR|LEFT SQUARE BRACKET WITH TICK IN TOP CORNER|RIGHT SQUARE BRACKET WITH TICK IN BOTTOM CORNER|LEFT SQUARE BRACKET WITH TICK IN BOTTOM CORNER|RIGHT SQUARE BRACKET WITH TICK IN TOP CORNER|LEFT ANGLE BRACKET WITH DOT|RIGHT ANGLE BRACKET WITH DOT|LEFT ARC LESS-THAN BRACKET|RIGHT ARC GREATER-THAN BRACKET|DOUBLE LEFT ARC GREATER-THAN BRACKET|DOUBLE RIGHT ARC LESS-THAN BRACKET|LEFT BLACK TORTOISE SHELL BRACKET|RIGHT BLACK TORTOISE SHELL BRACKET|DOTTED FENCE|VERTICAL ZIGZAG LINE|MEASURED ANGLE OPENING LEFT"⟩,
  ⟨0x299C, "", "RIGHT ANGLE VARIANT WITH SQUARE|MEASURED RIGHT ANGLE WITH DOT|ANGLE WITH S INSIDE|ACUTE ANGLE|SPHERICAL ANGLE OPENING LEFT|SPHERICAL ANGLE OPENING UP|TURNED ANGLE|REVERSED ANGLE|ANGLE WITH UNDERBAR|REVERSED ANGLE WITH UNDERBAR|OBLIQUE ANGLE OPENING UP|OBLIQUE ANGLE OPENING DOWN"⟩,
  ⟨0x29A8, "MEASURED ANGLE WITH OPEN ARM ENDING IN ARROW POINTING ", "UP AND RIGHT|UP AND LEFT|DOWN AND RIGHT|DOWN AND LEFT|RIGHT AND UP|LEFT AND UP|RIGHT AND DOWN|LEFT AND DOWN"⟩,
  ⟨0x29B0, "REVERSED EMPTY SET", ""⟩,
  ⟨0x29B1, "EMPTY SET WITH ", "OVERBAR|SMALL CIRCLE ABOVE|RIGHT ARROW ABOVE|LEFT ARROW ABOVE"⟩,
  ⟨0x29B5, "CIRCLE", " WITH HORIZONTAL BAR|D VERTICAL BAR|D PARALLEL|D REVERSE SOLIDUS|D PERPENDICULAR| DIVIDED BY HORIZONTAL BAR AND TOP HALF DIVIDED BY VERTICAL BAR| WITH SUPERIMPOSED X|D ANTICLOCKWISE-ROTATED DIVISION SIGN"⟩,
  ⟨0x29BD, "", "UP ARROW THROUGH CIRCLE|CIRCLED WHITE BULLET|CIRCLED BULLET|CIRCLED LESS-THAN|CIRCLED GREATER-THAN|CIRCLE WITH SMALL CIRCLE TO THE RIGHT|CIRCLE WITH TWO HORIZONTAL STROKES TO THE RIGHT|SQUARED RISING DIAGONAL SLASH|SQUARED FALLING DIAGONAL SLASH|SQUARED ASTERISK|SQUARED SMALL CIRCLE|SQUARED SQUARE|TWO JOINED SQUARES|TRIANGLE WITH DOT ABOVE|TRIANGLE WITH UNDERBAR|S IN TRIANGLE|TRIANGLE WITH SERIFS AT BOTTOM|RIGHT TRIANGLE ABOVE LEFT TRIANGLE|LEFT TRIANGLE BESIDE VERTICAL BAR|VERTICAL BAR BESIDE RIGHT TRIANGLE|BOWTIE WITH LEFT HALF BLACK|BOWTIE WITH RIGHT HALF BLACK|BLACK BOWTIE|TIMES WITH LEFT HALF BLACK|TIMES WITH RIGHT HALF BLACK|WHITE HOURGLASS|BLACK HOURGLASS|LEFT WIGGLY FENCE|RIGHT WIGGLY FENCE|LEFT DOUBLE WIGGLY FENCE|RIGHT DOUBLE WIGGLY FENCE|INCOMPLETE INFINITY|TIE OVER INFINITY|INFINITY NEGATED WITH VERTICAL BAR|DOUBLE-ENDED MULTIMAP|SQUARE WITH CONTOURED OUTLINE|INCREASES AS|SHUFFLE PRODUCT|EQUALS SIGN AND SLANTED PARALLEL|EQUALS SIGN AND SLANTED PARALLEL WITH TILDE ABOVE|IDENTICAL TO AND SLANTED PARALLEL|GLEICH STARK|THERMODYNAMIC|DOWN-POINTING TRIANGLE WITH LEFT HALF BLACK|DOWN-POINTING TRIANGLE WITH RIGHT HALF BLACK|BLACK DIAMOND WITH DOWN ARROW|BLACK LOZENGE|WHITE CIRCLE WITH DOWN ARROW|BLACK CIRCLE WITH DOWN ARROW"⟩,
  ⟨0x29EE, "ERROR-BARRED ", "WHITE SQUARE|BLACK SQUARE|WHITE DIAMOND|BLACK DIAMOND|WHITE CIRCLE|BLACK CIRCLE"⟩,
  ⟨0x29F4, "", "RULE-DELAYED|REVERSE SOLIDUS OPERATOR|SOLIDUS WITH OVERBAR|REVERSE SOLIDUS WITH HORIZONTAL STROKE|BIG SOLIDUS|BIG REVERSE SOLIDUS|DOUBLE PLUS|TRIPLE PLUS|LEFT-POINTING CURVED ANGLE BRACKET|RIGHT-POINTING CURVED ANGLE BRACKET|TINY|MINY|N-ARY CIRCLED DOT OPERATOR|N-ARY CIRCLED PLUS OPERATOR|N-ARY CIRCLED TIMES OPERATOR|N-ARY UNION OPERATOR WITH DOT|N-ARY UNION OPERATOR WITH PLUS|N-ARY SQUARE INTERSECTION OPERATOR|N-ARY SQUARE UNION OPERATOR|TWO LOGICAL AND OPERATOR|TWO LOGICAL OR OPERATOR|N-ARY TIMES OPERATOR|MODULO TWO SUM|SUMMATION WITH INTEGRAL|QUADRUPLE INTEGRAL OPERATOR|FINITE PART INTEGRAL|INTEGRAL WITH DOUBLE STROKE|INTEGRAL AVERAGE WITH SLASH|CIRCULATION FUNCTION|ANTICLOCKWISE INTEGRATION|LINE INTEGRATION WITH RECTANGULAR PATH AROUND POLE|LINE INTEGRATION WITH SEMICIRCULAR PATH AROUND POLE|LINE INTEGRATION NOT INCLUDING THE POLE|INTEGRAL AROUND A POINT OPERATOR|QUATERNION INTEGRAL OPERATOR"⟩,
  ⟨0x2A17, "INTEGRAL WITH ", "LEFTWARDS ARROW WITH HOOK|TIMES SIGN|INTERSECTION|UNION|OVERBAR|UNDERBAR"⟩,
  ⟨0x2A1D, "", "JOIN|LARGE LEFT TRIANGLE OPERATOR"⟩,
  ⟨0x2A1F, "Z NOTATION SCHEMA ", "COMPOSITION|PIPING|PROJECTION"⟩,
  ⟨0x2A22, "PLUS SIGN WITH ", "SMALL CIRCLE ABOVE|CIRCUMFLEX ACCENT ABOVE|TILDE ABOVE|DOT BELOW|TILDE BELOW|SUBSCRIPT TWO|BLACK TRIANGLE"⟩,
  ⟨0x2A29, "MINUS SIGN WITH ", "COMMA ABOVE|DOT BELOW|FALLING DOTS|RISING DOTS"⟩,
  ⟨0x2A2D, "", "PLUS SIGN IN LEFT HALF CIRCLE|PLUS SIGN IN RIGHT HALF CIRCLE|VECTOR OR CROSS PRODUCT|MULTIPLICATION SIGN WITH DOT ABOVE|MULTIPLICATION SIGN WITH UNDERBAR|SEMIDIRECT PRODUCT WITH BOTTOM CLOSED|SMASH PRODUCT|MULTIPLICATION SIGN IN LEFT HALF CIRCLE|MULTIPLICATION SIGN IN RIGHT HALF CIRCLE|CIRCLED MULTIPLICATION SIGN WITH CIRCUMFLEX ACCENT|MULTIPLICATION SIGN IN DOUBLE CIRCLE|CIRCLED DIVISION SIGN|PLUS SIGN IN TRIANGLE|MINUS SIGN IN TRIANGLE|MULTIPLICATION SIGN IN TRIANGLE|INTERIOR PRODUCT|RIGHTHAND INTERIOR PRODUCT|Z NOTATION RELATIONAL COMPOSITION|AMALGAMATION OR COPRODUCT|INTERSECTION WITH DOT|UNION WITH MINUS SIGN|UNION WITH OVERBAR|INTERSECTION WITH OVERBAR|INTERSECTION WITH LOGICAL AND|UNION WITH LOGICAL OR|UNION ABOVE INTERSECTION|INTERSECTION ABOVE UNION|UNION ABOVE BAR ABOVE INTERSECTION|INTERSECTION ABOVE BAR ABOVE UNION|UNION BESIDE AND JOINED WITH UNION|INTERSECTION BESIDE AND JOINED WITH INTERSECTION|CLOSED UNION WITH SERIFS|CLOSED INTERSECTION WITH SERIFS|DOUBLE SQUARE INTERSECTION|DOUBLE SQUARE UNION|CLOSED UNION WITH SERIFS AND SMASH PRODUCT|LOGICAL AND WITH DOT ABOVE|LOGICAL OR WITH DOT ABOVE|DOUBLE LOGICAL AND|DOUBLE LOGICAL OR|TWO INTERSECTING LOGICAL AND|TWO INTERSECTING LOGICAL OR|SLOPING LARGE OR|SLOPING LARGE AND"⟩,
  ⟨0x2A59, "LOGICAL ", "OR OVERLAPPING LOGICAL AND|AND WITH MIDDLE STEM|OR WITH MIDDLE STEM|AND WITH HORIZONTAL DASH|OR WITH HORIZONTAL DASH|AND WITH DOUBLE OVERBAR|AND WITH UNDERBAR|AND WITH DOUBLE UNDERBAR"⟩,
  ⟨0x2A61, "", "SMALL VEE WITH UNDERBAR|LOGICAL OR WITH DOUBLE OVERBAR|LOGICAL OR WITH DOUBLE UNDERBAR|Z NOTATION DOMAIN ANTIRESTRICTION|Z NOTATION RANGE ANTIRESTRICTION|EQUALS SIGN WITH DOT BELOW|IDENTICAL WITH DOT ABOVE|TRIPLE HORIZONTAL BAR WITH DOUBLE VERTICAL STROKE|TRIPLE HORIZONTAL BAR WITH TRIPLE VERTICAL STROKE|TILDE OPERATOR WITH DOT ABOVE|TILDE OPERATOR WITH RISING DOTS|SIMILAR MINUS SIMILAR|CONGRUENT WITH DOT ABOVE|EQUALS WITH ASTERISK|ALMOST EQUAL TO WITH CIRCUMFLEX ACCENT|APPROXIMATELY EQUAL OR EQUAL TO|EQUALS SIGN ABOVE PLUS SIGN|PLUS SIGN ABOVE EQUALS SIGN|EQUALS SIGN ABOVE TILDE OPERATOR|DOUBLE COLON EQUAL|TWO CONSECUTIVE EQUALS SIGNS|THREE CONSECUTIVE EQUALS SIGNS|EQUALS SIGN WITH TWO DOTS ABOVE AND TWO DOTS BELOW|EQUIVALENT WITH FOUR DOTS ABOVE|LESS-THAN WITH CIRCLE INSIDE|GREATER-THAN WITH CIRCLE INSIDE|LESS-THAN WITH QUESTION MARK ABOVE|GREATER-THAN WITH QUESTION MARK ABOVE|LESS-THAN OR SLANTED EQUAL TO|GREATER-THAN OR SLANTED EQUAL TO|LESS-THAN OR SLANTED EQUAL TO WITH DOT INSIDE|GREATER-THAN OR SLANTED EQUAL TO WITH DOT INSIDE|LESS-THAN OR SLANTED EQUAL TO WITH DOT ABOVE|GREATER-THAN OR SLANTED EQUAL TO WITH DOT ABOVE|LESS-THAN OR SLANTED EQUAL TO WITH DOT ABOVE RIGHT|GREATER-THAN OR SLANTED EQUAL TO WITH DOT ABOVE LEFT|LESS-THAN OR APPROXIMATE|GREATER-THAN OR APPROXIMATE|LESS-THAN AND SINGLE-LINE NOT EQUAL TO|GREATER-THAN AND SINGLE-LINE NOT EQUAL TO|LESS-THAN AND NOT APPROXIMATE|GREATER-THAN AND NOT APPROXIMATE|LESS-THAN ABOVE DOUBLE-LINE EQUAL ABOVE GREATER-THAN"⟩,
  ⟨0x2A8C, "", "GREATER-THAN ABOVE DOUBLE-LINE EQUAL ABOVE LESS-THAN|LESS-THAN ABOVE SIMILAR OR EQUAL|GREATER-THAN ABOVE SIMILAR OR EQUAL|LESS-THAN ABOVE SIMILAR ABOVE GREATER-THAN|GREATER-THAN ABOVE SIMILAR ABOVE LESS-THAN|LESS-THAN ABOVE GREATER-THAN ABOVE DOUBLE-LINE EQUAL|GREATER-THAN ABOVE LESS-THAN ABOVE DOUBLE-LINE EQUAL|LESS-THAN ABOVE SLANTED EQUAL ABOVE GREATER-THAN ABOVE SLANTED EQUAL|GREATER-THAN ABOVE SLANTED EQUAL ABOVE LESS-THAN ABOVE SLANTED EQUAL"⟩,
  ⟨0x2A95, "SLANTED EQUAL TO OR ", "LESS-THAN|GREATER-THAN|LESS-THAN WITH DOT INSIDE|GREATER-THAN WITH DOT INSIDE"⟩,
  ⟨0x2A99, "DOUBLE-LINE ", "EQUAL TO OR LESS-THAN|EQUAL TO OR GREATER-THAN|SLANTED EQUAL TO OR LESS-THAN|SLANTED EQUAL TO OR GREATER-THAN"⟩,
  ⟨0x2A9D, "SIMILAR ", "OR LESS-THAN|OR GREATER-THAN|ABOVE LESS-THAN ABOVE EQUALS SIGN|ABOVE GREATER-THAN ABOVE EQUALS SIGN"⟩,
  ⟨0x2AA1, "DOUBLE NESTED ", "LESS-THAN|GREATER-THAN|LESS-THAN WITH UNDERBAR"⟩,
  ⟨0x2AA4, "", "GREATER-THAN OVERLAPPING LESS-THAN|GREATER-THAN BESIDE LESS-THAN|LESS-THAN CLOSED BY CURVE|GREATER-THAN CLOSED BY CURVE|LESS-THAN CLOSED BY CURVE ABOVE SLANTED EQUAL|GREATER-THAN CLOSED BY CURVE ABOVE SLANTED EQUAL|SMALLER THAN|LARGER THAN|SMALLER THAN OR EQUAL TO|LARGER THAN OR EQUAL TO|EQUALS SIGN WITH BUMPY ABOVE|PRECEDES ABOVE SINGLE-LINE EQUALS SIGN|SUCCEEDS ABOVE SINGLE-LINE EQUALS SIGN|PRECEDES ABOVE SINGLE-LINE NOT EQUAL TO|SUCCEEDS ABOVE SINGLE-LINE NOT EQUAL TO|PRECEDES ABOVE EQUALS SIGN|SUCCEEDS ABOVE EQUALS SIGN|PRECEDES ABOVE NOT EQUAL TO|SUCCEEDS ABOVE NOT EQUAL TO|PRECEDES ABOVE ALMOST EQUAL TO|SUCCEEDS ABOVE ALMOST EQUAL TO|PRECEDES ABOVE NOT ALMOST EQUAL TO|SUCCEEDS ABOVE NOT ALMOST EQUAL TO|DOUBLE PRECEDES|DOUBLE SUCCEEDS|SUBSET WITH DOT|SUPERSET WITH DOT|SUBSET WITH PLUS SIGN BELOW|SUPERSET WITH PLUS SIGN BELOW|SUBSET WITH MULTIPLICATION SIGN BELOW|SUPERSET WITH MULTIPLICATION SIGN BELOW|SUBSET OF OR EQUAL TO WITH DOT ABOVE|SUPERSET OF OR EQUAL TO WITH DOT ABOVE|SUBSET OF ABOVE EQUALS SIGN|SUPERSET OF ABOVE EQUALS SIGN|SUBSET OF ABOVE TILDE OPERATOR|SUPERSET OF ABOVE TILDE OPERATOR|SUBSET OF ABOVE ALMOST EQUAL TO|SUPERSET OF ABOVE ALMOST EQUAL TO|SUBSET OF ABOVE NOT EQUAL TO|SUPERSET OF ABOVE NOT EQUAL TO|SQUARE LEFT OPEN BOX OPERATOR|SQUARE RIGHT OPEN BOX OPERATOR|CLOSED SUBSET|CLOSED SUPERSET|CLOSED SUBSET OR EQUAL TO|CLOSED SUPERSET OR EQUAL TO|SUBSET ABOVE SUPERSET|SUPERSET ABOVE SUBSET|SUBSET ABOVE SUBSET|SUPERSET ABOVE SUPERSET|SUPERSET BESIDE SUBSET"⟩,
  ⟨0x2AD8, "", "SUPERSET BESIDE AND JOINED BY DASH WITH SUBSET|ELEMENT OF OPENING DOWNWARDS|PITCHFORK WITH TEE TOP|TRANSVERSAL INTERSECTION|FORKING|NONFORKING|SHORT LEFT TACK|SHORT DOWN TACK|SHORT UP TACK|PERPENDICULAR WITH S|VERTICAL BAR TRIPLE RIGHT TURNSTILE|DOUBLE VERTICAL BAR LEFT TURNSTILE|VERTICAL BAR DOUBLE LEFT TURNSTILE|DOUBLE VERTICAL BAR DOUBLE LEFT TURNSTILE|LONG DASH FROM LEFT MEMBER OF DOUBLE VERTICAL|SHORT DOWN TACK WITH OVERBAR|SHORT UP TACK WITH UNDERBAR|SHORT UP TACK ABOVE SHORT DOWN TACK|DOUBLE DOWN TACK|DOUBLE UP TACK|DOUBLE STROKE NOT SIGN|REVERSED DOUBLE STROKE NOT SIGN|DOES NOT DIVIDE WITH REVERSED NEGATION SLASH|VERTICAL LINE WITH CIRCLE ABOVE|VERTICAL LINE WITH CIRCLE BELOW|DOWN TACK WITH CIRCLE BELOW|PARALLEL WITH HORIZONTAL STROKE|PARALLEL WITH TILDE OPERATOR|TRIPLE VERTICAL BAR BINARY RELATION|TRIPLE VERTICAL BAR WITH HORIZONTAL STROKE|TRIPLE COLON OPERATOR|TRIPLE NESTED LESS-THAN|TRIPLE NESTED GREATER-THAN|DOUBLE-LINE SLANTED LESS-THAN OR EQUAL TO|DOUBLE-LINE SLANTED GREATER-THAN OR EQUAL TO|TRIPLE SOLIDUS BINARY RELATION|LARGE TRIPLE VERTICAL BAR OPERATOR|DOUBLE SOLIDUS OPERATOR|WHITE VERTICAL BAR|N-ARY WHITE VERTICAL BAR|NORTH EAST WHITE ARROW|NORTH WEST WHITE ARROW|SOUTH EAST WHITE ARROW|SOUTH WEST WHITE ARROW|LEFT RIGHT WHITE ARROW|LEFTWARDS BLACK ARROW|UPWARDS BLACK ARROW|DOWNWARDS BLACK ARROW|NORTH EAST BLACK ARROW|NORTH WEST BLACK ARROW|SOUTH EAST BLACK ARROW|SOUTH WEST BLACK ARROW|LEFT RIGHT BLACK ARROW|UP DOWN BLACK ARROW"⟩,
  ⟨0x2B0E, "RIGHTWARDS ARROW WITH TIP ", "DOWNWARDS|UPWARDS"⟩,
  ⟨0x2B10, "LEFTWARDS ARROW WITH TIP ", "DOWNWARDS|UPWARDS"⟩,
  ⟨0x2B12, "SQUARE WITH ", "TOP HALF BLACK|BOTTOM HALF BLACK|UPPER RIGHT DIAGONAL HALF BLACK|LOWER LEFT DIAGONAL HALF BLACK"⟩,
  ⟨0x2B16, "DIAMOND WITH ", "LEFT HALF BLACK|RIGHT HALF BLACK|TOP HALF BLACK|BOTTOM HALF BLACK"⟩,
  ⟨0x2B1A, "", "DOTTED SQUARE|BLACK LARGE SQUARE|WHITE LARGE SQUARE|BLACK VERY SMALL SQUARE|WHITE VERY SMALL SQUARE|BLACK PENTAGON|WHITE PENTAGON|WHITE HEXAGON|BLACK HEXAGON|HORIZONTAL BLACK HEXAGON|BLACK LARGE CIRCLE|BLACK MEDIUM DIAMOND|WHITE MEDIUM DIAMOND|BLACK MEDIUM LOZENGE|WHITE MEDIUM LOZENGE|BLACK SMALL DIAMOND|BLACK SMALL LOZENGE|WHITE SMALL LOZENGE|BLACK HORIZONTAL ELLIPSE|WHITE HORIZONTAL ELLIPSE|BLACK VERTICAL ELLIPSE|WHITE VERTICAL ELLIPSE|LEFT ARROW WITH SMALL CIRCLE|THREE LEFTWARDS ARROWS|LEFT ARROW WITH CIRCLED PLUS|LONG LEFTWARDS SQUIGGLE ARROW"⟩,
  ⟨0x2B34, "LEFTWARDS TWO-HEADED ", "ARROW WITH VERTICAL STROKE|ARROW WITH DOUBLE VERTICAL STROKE|ARROW FROM BAR|TRIPLE DASH ARROW"⟩,
  ⟨0x2B38, "LEFTWARDS ARROW WITH ", "DOTTED STEM|TAIL WITH VERTICAL STROKE|TAIL WITH DOUBLE VERTICAL STROKE"⟩,
  ⟨0x2B3B, "LEFTWARDS TWO-HEADED ARROW WITH TAIL", "| WITH VERTICAL STROKE| WITH DOUBLE VERTICAL STROKE"⟩,
  ⟨0x2B3E, "", "LEFTWARDS ARROW THROUGH X|WAVE ARROW POINTING DIRECTLY LEFT|EQUALS SIGN ABOVE LEFTWARDS ARROW|REVERSE TILDE OPERATOR ABOVE LEFTWARDS ARROW|LEFTWARDS ARROW ABOVE REVERSE ALMOST EQUAL TO|RIGHTWARDS ARROW THROUGH GREATER-THAN|RIGHTWARDS ARROW THROUGH SUPERSET|LEFTWARDS QUADRUPLE ARROW|RIGHTWARDS QUADRUPLE ARROW|REVERSE TILDE OPERATOR ABOVE RIGHTWARDS ARROW|RIGHTWARDS ARROW ABOVE REVERSE ALMOST EQUAL TO|TILDE OPERATOR ABOVE LEFTWARDS ARROW|LEFTWARDS ARROW ABOVE ALMOST EQUAL TO|LEFTWARDS ARROW ABOVE REVERSE TILDE OPERATOR|RIGHTWARDS ARROW ABOVE REVERSE TILDE OPERATOR|DOWNWARDS TRIANGLE-HEADED ZIGZAG ARROW|SHORT SLANTED NORTH ARROW|SHORT BACKSLANTED SOUTH ARROW|WHITE MEDIUM STAR|BLACK SMALL STAR|WHITE SMALL STAR|BLACK RIGHT-POINTING PENTAGON|WHITE RIGHT-POINTING PENTAGON|HEAVY LARGE CIRCLE|HEAVY OVAL WITH OVAL INSIDE|HEAVY CIRCLE WITH CIRCLE INSIDE|HEAVY CIRCLE|HEAVY CIRCLED SALTIRE|SLANTED NORTH ARROW WITH HOOKED HEAD|BACKSLANTED SOUTH ARROW WITH HOOKED TAIL|SLANTED NORTH ARROW WITH HORIZONTAL TAIL|BACKSLANTED SOUTH ARROW WITH HORIZONTAL TAIL|BENT ARROW POINTING DOWNWARDS THEN NORTH EAST|SHORT BENT ARROW POINTING DOWNWARDS THEN NORTH EAST|LEFTWARDS TRIANGLE-HEADED ARROW|UPWARDS TRIANGLE-HEADED ARROW|RIGHTWARDS TRIANGLE-HEADED ARROW|DOWNWARDS TRIANGLE-HEADED ARROW|LEFT RIGHT TRIANGLE-HEADED ARROW|UP DOWN TRIANGLE-HEADED ARROW|NORTH WEST TRIANGLE-HEADED ARROW|NORTH EAST TRIANGLE-HEADED ARROW|SOUTH EAST TRIANGLE-HEADED ARROW|SOUTH WEST TRIANGLE-HEADED ARROW"⟩,
  ⟨0x2B6A, "", "LEFTWARDS TRIANGLE-HEADED DASHED ARROW|UPWARDS TRIANGLE-HEADED DASHED ARROW|RIGHTWARDS TRIANGLE-HEADED DASHED ARROW|DOWNWARDS TRIANGLE-HEADED DASHED ARROW|CLOCKWISE TRIANGLE-HEADED OPEN CIRCLE ARROW|ANTICLOCKWISE TRIANGLE-HEADED OPEN CIRCLE ARROW|LEFTWARDS TRIANGLE-HEADED ARROW TO BAR|UPWARDS TRIANGLE-HEADED ARROW TO BAR|RIGHTWARDS TRIANGLE-HEADED ARROW TO BAR|DOWNWARDS TRIANGLE-HEADED ARROW TO BAR"⟩,
  ⟨0x2B76, "", "NORTH WEST TRIANGLE-HEADED ARROW TO BAR|NORTH EAST TRIANGLE-HEADED ARROW TO BAR|SOUTH EAST TRIANGLE-HEADED ARROW TO BAR|SOUTH WEST TRIANGLE-HEADED ARROW TO BAR|LEFTWARDS TRIANGLE-HEADED ARROW WITH DOUBLE HORIZONTAL STROKE|UPWARDS TRIANGLE-HEADED ARROW WITH DOUBLE HORIZONTAL STROKE|RIGHTWARDS TRIANGLE-HEADED ARROW WITH DOUBLE HORIZONTAL STROKE|DOWNWARDS TRIANGLE-HEADED ARROW WITH DOUBLE HORIZONTAL STROKE|HORIZONTAL TAB KEY|VERTICAL TAB KEY|LEFTWARDS TRIANGLE-HEADED ARROW OVER RIGHTWARDS TRIANGLE-HEADED ARROW|UPWARDS TRIANGLE-HEADED ARROW LEFTWARDS OF DOWNWARDS TRIANGLE-HEADED ARROW|RIGHTWARDS TRIANGLE-HEADED ARROW OVER LEFTWARDS TRIANGLE-HEADED ARROW|DOWNWARDS TRIANGLE-HEADED ARROW LEFTWARDS OF UPWARDS TRIANGLE-HEADED ARROW|LEFTWARDS TRIANGLE-HEADED PAIRED ARROWS|UPWARDS TRIANGLE-HEADED PAIRED ARROWS|RIGHTWARDS TRIANGLE-HEADED PAIRED ARROWS|DOWNWARDS TRIANGLE-HEADED PAIRED ARROWS|LEFTWARDS BLACK CIRCLED WHITE ARROW|UPWARDS BLACK CIRCLED WHITE ARROW|RIGHTWARDS BLACK CIRCLED WHITE ARROW|DOWNWARDS BLACK CIRCLED WHITE ARROW"⟩,
  ⟨0x2B8C, "ANTICLOCKWISE TRIANGLE-HEADED ", "RIGHT U-SHAPED ARROW|BOTTOM U-SHAPED ARROW|LEFT U-SHAPED ARROW|TOP U-SHAPED ARROW"⟩,
  ⟨0x2B90, "", "RETURN LEFT|RETURN RIGHT|NEWLINE LEFT|NEWLINE RIGHT|FOUR CORNER ARROWS CIRCLING ANTICLOCKWISE|RIGHTWARDS BLACK ARROW"⟩,
  ⟨0x2B97, "", "SYMBOL FOR TYPE A ELECTRONICS|THREE-D TOP-LIGHTED LEFTWARDS EQUILATERAL ARROWHEAD|THREE-D RIGHT-LIGHTED UPWARDS EQUILATERAL ARROWHEAD|THREE-D TOP-LIGHTED RIGHTWARDS EQUILATERAL ARROWHEAD|THREE-D LEFT-LIGHTED DOWNWARDS EQUILATERAL ARROWHEAD|BLACK LEFTWARDS EQUILATERAL ARROWHEAD|BLACK UPWARDS EQUILATERAL ARROWHEAD|BLACK RIGHTWARDS EQUILATERAL ARROWHEAD|BLACK DOWNWARDS EQUILATERAL ARROWHEAD"⟩,
  ⟨0x2BA0, "DOWNWARDS TRIANGLE-HEADED ARROW WITH LONG TIP ", "LEFTWARDS|RIGHTWARDS"⟩,
  ⟨0x2BA2, "UPWARDS TRIANGLE-HEADED ARROW WITH LONG TIP ", "LEFTWARDS|RIGHTWARDS"⟩,
  ⟨0x2BA4, "", "LEFTWARDS TRIANGLE-HEADED ARROW WITH LONG TIP UPWARDS|RIGHTWARDS TRIANGLE-HEADED ARROW WITH LONG TIP UPWARDS|LEFTWARDS TRIANGLE-HEADED ARROW WITH LONG TIP DOWNWARDS|RIGHTWARDS TRIANGLE-HEADED ARROW WITH LONG TIP DOWNWARDS"⟩,
  ⟨0x2BA8, "BLACK CURVED ", "DOWNWARDS AND LEFTWARDS ARROW|DOWNWARDS AND RIGHTWARDS ARROW|UPWARDS AND LEFTWARDS ARROW|UPWARDS AND RIGHTWARDS ARROW|LEFTWARDS AND UPWARDS ARROW|RIGHTWARDS AND UPWARDS ARROW|LEFTWARDS AND DOWNWARDS ARROW|RIGHTWARDS AND DOWNWARDS ARROW"⟩,
  ⟨0x2BB0, "RIBBON ARROW ", "DOWN LEFT|DOWN RIGHT|UP LEFT|UP RIGHT|LEFT UP|RIGHT UP|LEFT DOWN|RIGHT DOWN"⟩,
  ⟨0x2BB8, "", "UPWARDS WHITE ARROW FROM BAR WITH HORIZONTAL BAR|UP ARROWHEAD IN A RECTANGLE BOX|OVERLAPPING WHITE SQUARES|OVERLAPPING WHITE AND BLACK SQUARES|OVERLAPPING BLACK SQUARES|BALLOT BOX WITH LIGHT X|CIRCLED X|CIRCLED BOLD X|BLACK SQUARE CENTRED|BLACK DIAMOND CENTRED|TURNED BLACK PENTAGON|HORIZONTAL BLACK OCTAGON|BLACK OCTAGON|BLACK MEDIUM UP-POINTING TRIANGLE CENTRED|BLACK MEDIUM DOWN-POINTING TRIANGLE CENTRED|BLACK MEDIUM LEFT-POINTING TRIANGLE CENTRED|BLACK MEDIUM RIGHT-POINTING TRIANGLE CENTRED|NEPTUNE FORM TWO|TOP HALF BLACK CIRCLE|BOTTOM HALF BLACK CIRCLE|LIGHT FOUR POINTED BLACK CUSP|ROTATED LIGHT FOUR POINTED BLACK CUSP|WHITE FOUR POINTED CUSP|ROTATED WHITE FOUR POINTED CUSP|SQUARE POSITION INDICATOR|UNCERTAINTY SIGN|GROUP MARK|PLUTO FORM TWO|PLUTO FORM THREE|PLUTO FORM FOUR|PLUTO FORM FIVE|TRANSPLUTO|PROSERPINA|ASTRAEA|HYGIEA|PHOLUS|NESSUS|WHITE MOON SELENA|BLACK DIAMOND ON CROSS|TRUE LIGHT MOON ARTA|CUPIDO|HADES|ZEUS|KRONOS|APOLLON|ADMETOS|VULCANUS|POSEIDON|LEFT HALF BLACK STAR|RIGHT HALF BLACK STAR|STAR WITH LEFT HALF BLACK|STAR WITH RIGHT HALF BLACK|LEFTWARDS TWO-HEADED ARROW WITH TRIANGLE ARROWHEADS|UPWARDS TWO-HEADED ARROW WITH TRIANGLE ARROWHEADS|RIGHTWARDS TWO-HEADED ARROW WITH TRIANGLE ARROWHEADS|DOWNWARDS TWO-HEADED ARROW WITH TRIANGLE ARROWHEADS|ERIS FORM ONE|ERIS FORM TWO|SEDNA"⟩,
  ⟨0x2BF3, "RUSSIAN ASTROLOGICAL SYMBOL ", "VIGINTILE|NOVILE|QUINTILE|BINOVILE|SENTAGON|TREDECILE"⟩,
  ⟨0x2BF9, "", "EQUALS SIGN WITH INFINITY BELOW|UNITED SYMBOL|SEPARATED SYMBOL|DOUBLED SYMBOL|PASSED SYMBOL|REVERSED RIGHT ANGLE|HELLSCHREIBER PAUSE SYMBOL"⟩,
  ⟨0x2C00, "GLAGOLITIC CAPITAL LETTER ", "AZU|BUKY|VEDE|GLAGOLI|DOBRO|YESTU|ZHIVETE|DZELO|ZEMLJA|IZHE|INITIAL IZHE|I|DJERVI|KAKO|LJUDIJE|MYSLITE|NASHI|ONU|POKOJI|RITSI|SLOVO|TVRIDO|UKU|FRITU|HERU|OTU|PE|SHTA|TSI|CHRIVI|SHA|YERU|YERI|YATI|SPIDERY HA|YU|SMALL YUS|SMALL YUS WITH TAIL|YO|IOTATED SMALL YUS|BIG YUS|IOTATED BIG YUS|FITA|IZHITSA|SHTAPIC|TROKUTASTI A|LATINATE MYSLITE|CAUDATE CHRIVI"⟩,
  ⟨0x2C30, "GLAGOLITIC SMALL LETTER ", "AZU|BUKY|VEDE|GLAGOLI|DOBRO|YESTU|ZHIVETE|DZELO|ZEMLJA|IZHE|INITIAL IZHE|I|DJERVI|KAKO|LJUDIJE|MYSLITE|NASHI|ONU|POKOJI|RITSI|SLOVO|TVRIDO|UKU|FRITU|HERU|OTU|PE|SHTA|TSI|CHRIVI|SHA|YERU|YERI|YATI|SPIDERY HA|YU|SMALL YUS|SMALL YUS WITH TAIL|YO|IOTATED SMALL YUS|BIG YUS|IOTATED BIG YUS|FITA|IZHITSA|SHTAPIC|TROKUTASTI A|LATINATE MYSLITE|CAUDATE CHRIVI"⟩,
  ⟨0x2C60, "LATIN ", "CAPITAL LETTER L WITH DOUBLE BAR|SMALL LETTER L WITH DOUBLE BAR|CAPITAL LETTER L WITH MIDDLE TILDE|CAPITAL LETTER P WITH STROKE|CAPITAL LETTER R WITH TAIL|SMALL LETTER A WITH STROKE|SMALL LETTER T WITH DIAGONAL STROKE|CAPITAL LETTER H WITH DESCENDER|SMALL LETTER H WITH DESCENDER|CAPITAL LETTER K WITH DESCENDER|SMALL LETTER K WITH DESCENDER|CAPITAL LETTER Z WITH DESCENDER|SMALL LETTER Z WITH DESCENDER|CAPITAL LETTER ALPHA|CAPITAL LETTER M WITH HOOK|CAPITAL LETTER TURNED A|CAPITAL LETTER TURNED ALPHA|SMALL LETTER V WITH RIGHT HOOK|CAPITAL LETTER W WITH HOOK|SMALL LETTER W WITH HOOK|SMALL LETTER V WITH CURL|CAPITAL LETTER HALF H"⟩,
  ⟨0x2C76, "LATIN SMALL LETTER ", "HALF H|TAILLESS PHI|E WITH NOTCH|TURNED R WITH TAIL|O WITH LOW RING INSIDE"⟩,
  ⟨0x2C7B, "", "LATIN LETTER SMALL CAPITAL TURNED E|LATIN SUBSCRIPT SMALL LETTER J|MODIFIER LETTER CAPITAL V|LATIN CAPITAL LETTER S WITH SWASH TAIL|LATIN CAPITAL LETTER Z WITH SWASH TAIL"⟩,
  ⟨0x2C80, "COPTIC ", "CAPITAL LETTER ALFA|SMALL LETTER ALFA|CAPITAL LETTER VIDA|SMALL LETTER VIDA|CAPITAL LETTER GAMMA|SMALL LETTER GAMMA|CAPITAL LETTER DALDA|SMALL LETTER DALDA|CAPITAL LETTER EIE|SMALL LETTER EIE|CAPITAL LETTER SOU|SMALL LETTER SOU|CAPITAL LETTER ZATA|SMALL LETTER ZATA|CAPITAL LETTER HATE|SMALL LETTER HATE|CAPITAL LETTER THETHE|SMALL LETTER THETHE|CAPITAL LETTER IAUDA|SMALL LETTER IAUDA|CAPITAL LETTER KAPA|SMALL LETTER KAPA|CAPITAL LETTER LAULA|SMALL LETTER LAULA|CAPITAL LETTER MI|SMALL LETTER MI|CAPITAL LETTER NI|SMALL LETTER NI|CAPITAL LETTER KSI|SMALL LETTER KSI|CAPITAL LETTER O|SMALL LETTER O|CAPITAL LETTER PI|SMALL LETTER PI|CAPITAL LETTER RO|SMALL LETTER RO|CAPITAL LETTER SIMA|SMALL LETTER SIMA|CAPITAL LETTER TAU|SMALL LETTER TAU|CAPITAL LETTER UA|SMALL LETTER UA|CAPITAL LETTER FI|SMALL LETTER FI|CAPITAL LETTER KHI|SMALL LETTER KHI|CAPITAL LETTER PSI|SMALL LETTER PSI|CAPITAL LETTER OOU|SMALL LETTER OOU|CAPITAL LETTER DIALECT-P ALEF|SMALL LETTER DIALECT-P ALEF|CAPITAL LETTER OLD COPTIC AIN|SMALL LETTER OLD COPTIC AIN|CAPITAL LETTER CRYPTOGRAMMIC EIE|SMALL LETTER CRYPTOGRAMMIC EIE|CAPITAL LETTER DIALECT-P KAPA|SMALL LETTER DIALECT-P KAPA|CAPITAL LETTER DIALECT-P NI|SMALL LETTER DIALECT-P NI|CAPITAL LETTER CRYPTOGRAMMIC NI|SMALL LETTER CRYPTOGRAMMIC NI|CAPITAL LETTER OLD COPTIC OOU|SMALL LETTER OLD COPTIC OOU|CAPITAL LETTER SAMPI|SMALL LETTER SAMPI|CAPITAL LETTER CROSSED SHEI|SMALL LETTER CROSSED SHEI|CAPITAL LETTER OLD COPTIC SHEI|SMALL LETTER OLD COPTIC SHEI"⟩,
  ⟨0x2CC6, "COPTIC ", "CAPITAL LETTER OLD COPTIC ESH|SMALL LETTER OLD COPTIC ESH|CAPITAL LETTER AKHMIMIC KHEI|SMALL LETTER AKHMIMIC KHEI|CAPITAL LETTER DIALECT-P HORI|SMALL LETTER DIALECT-P HORI|CAPITAL LETTER OLD COPTIC HORI|SMALL LETTER OLD COPTIC HORI|CAPITAL LETTER OLD COPTIC HA|SMALL LETTER OLD COPTIC HA|CAPITAL LETTER L-SHAPED HA|SMALL LETTER L-SHAPED HA|CAPITAL LETTER OLD COPTIC HEI|SMALL LETTER OLD COPTIC HEI|CAPITAL LETTER OLD COPTIC HAT|SMALL LETTER OLD COPTIC HAT|CAPITAL LETTER OLD COPTIC GANGIA|SMALL LETTER OLD COPTIC GANGIA|CAPITAL LETTER OLD COPTIC DJA|SMALL LETTER OLD COPTIC DJA|CAPITAL LETTER OLD COPTIC SHIMA|SMALL LETTER OLD COPTIC SHIMA|CAPITAL LETTER OLD NUBIAN SHIMA|SMALL LETTER OLD NUBIAN SHIMA|CAPITAL LETTER OLD NUBIAN NGI|SMALL LETTER OLD NUBIAN NGI|CAPITAL LETTER OLD NUBIAN NYI|SMALL LETTER OLD NUBIAN NYI|CAPITAL LETTER OLD NUBIAN WAU|SMALL LETTER OLD NUBIAN WAU|SYMBOL KAI|SYMBOL MI RO|SYMBOL PI RO|SYMBOL STAUROS|SYMBOL TAU RO|SYMBOL KHI RO|SYMBOL SHIMA SIMA|CAPITAL LETTER CRYPTOGRAMMIC SHEI|SMALL LETTER CRYPTOGRAMMIC SHEI|CAPITAL LETTER CRYPTOGRAMMIC GANGIA|SMALL LETTER CRYPTOGRAMMIC GANGIA|COMBINING NI ABOVE|COMBINING SPIRITUS ASPER|COMBINING SPIRITUS LENIS|CAPITAL LETTER BOHAIRIC KHEI|SMALL LETTER BOHAIRIC KHEI"⟩,
  ⟨0x2CF9, "COPTIC OLD NUBIAN ", "FULL STOP|DIRECT QUESTION MARK|INDIRECT QUESTION MARK|VERSE DIVIDER"⟩,
  ⟨0x2CFD, "COPTIC ", "FRACTION ONE HALF|FULL STOP|MORPHOLOGICAL DIVIDER"⟩,
  ⟨0x2D00, "GEORGIAN SMALL LETTER ", "AN|BAN|GAN|DON|EN|VIN|ZEN|TAN|IN|KAN|LAS|MAN|NAR|ON|PAR|ZHAR|RAE|SAN|TAR|UN|PHAR|KHAR|GHAN|QAR|SHIN|CHIN|CAN|JIL|CIL|CHAR|XAN|JHAN|HAE|HE|HIE|WE|HAR|HOE"⟩,
  ⟨0x2D27, "GEORGIAN SMALL LETTER YN", ""⟩,
  ⟨0x2D2D, "GEORGIAN SMALL LETTER AEN", ""⟩,
  ⟨0x2D30, "TIFINAGH LETTER ", "YA|YAB|YABH|YAG|YAGHH|BERBER ACADEMY YAJ|YAJ|YAD|YADH|YADD|YADDH|YEY|YAF|YAK|TUAREG YAK|YAKHH|YAH|BERBER ACADEMY YAH|TUAREG YAH|YAHH|YAA|YAKH|TUAREG YAKH|YAQ|TUAREG YAQ|YI|YAZH|AHAGGAR YAZH|TUAREG YAZH|YAL|YAM|YAN|TUAREG YAGN|TUAREG YANG|YAP|YU|YAR|YARR|YAGH|TUAREG YAGH|AYER YAGH|YAS|YASS|YASH|YAT|YATH|YACH|YATT|YAV|YAW|YAY|YAZ|TAWELLEMET YAZ|YAZZ|YE|YO"⟩,
  ⟨0x2D6F, "TIFINAGH ", "MODIFIER LETTER LABIALIZATION MARK|SEPARATOR MARK"⟩,
  ⟨0x2D7F, "TIFINAGH CONSONANT JOINER", ""⟩,
  ⟨0x2D80, "ETHIOPIC SYLLABLE ", "LOA|MOA|ROA|SOA|SHOA|BOA|TOA|COA|NOA|NYOA|GLOTTAL OA|ZOA|DOA|DDOA|JOA|THOA|CHOA|PHOA|POA|GGWA|GGWI|GGWEE|GGWE"⟩,
  ⟨0x2DA0, "ETHIOPIC SYLLABLE SS", "A|U|I|AA|EE|E|O"⟩,
  ⟨0x2DA8, "ETHIOPIC SYLLABLE CC", "A|U|I|AA|EE|E|O"⟩,
  ⟨0x2DB0, "ETHIOPIC SYLLABLE ZZ", "A|U|I|AA|EE|E|O"⟩,
  ⟨0x2DB8, "ETHIOPIC SYLLABLE CCH", "A|U|I|AA|EE|E|O"⟩,
  ⟨0x2DC0, "ETHIOPIC SYLLABLE QY", "A|U|I|AA|EE|E|O"⟩,
  ⟨0x2DC8, "ETHIOPIC SYLLABLE KY", "A|U|I|AA|EE|E|O"⟩,
  ⟨0x2DD0, "ETHIOPIC SYLLABLE XY", "A|U|I|AA|EE|E|O"⟩,
  ⟨0x2DD8, "ETHIOPIC SYLLABLE GY", "A|U|I|AA|EE|E|O"⟩,
  ⟨0x2DE0, "COMBINING CYRILLIC LETTER ", "BE|VE|GHE|DE|ZHE|ZE|KA|EL|EM|EN|O|PE|ER|ES|TE|HA|TSE|CHE|SHA|SHCHA|FITA|ES-TE|A|IE|DJERV|MONOGRAPH UK|YAT|YU|IOTIFIED A|LITTLE YUS|BIG YUS|IOTIFIED BIG YUS"⟩,
  ⟨0x2E00, "", "RIGHT ANGLE SUBSTITUTION MARKER|RIGHT ANGLE DOTTED SUBSTITUTION MARKER|LEFT SUBSTITUTION BRACKET|RIGHT SUBSTITUTION BRACKET|LEFT DOTTED SUBSTITUTION BRACKET|RIGHT DOTTED SUBSTITUTION BRACKET|RAISED INTERPOLATION MARKER|RAISED DOTTED INTERPOLATION MARKER|DOTTED TRANSPOSITION MARKER|LEFT TRANSPOSITION BRACKET|RIGHT TRANSPOSITION BRACKET|RAISED SQUARE|LEFT RAISED OMISSION BRACKET|RIGHT RAISED OMISSION BRACKET|EDITORIAL CORONIS|PARAGRAPHOS|FORKED PARAGRAPHOS|REVERSED FORKED PARAGRAPHOS|HYPODIASTOLE|DOTTED OBELOS|DOWNWARDS ANCORA|UPWARDS ANCORA|DOTTED RIGHT-POINTING ANGLE|DOUBLE OBLIQUE HYPHEN|INVERTED INTERROBANG|PALM BRANCH|HYPHEN WITH DIAERESIS|TILDE WITH RING ABOVE|LEFT LOW PARAPHRASE BRACKET|RIGHT LOW PARAPHRASE BRACKET|TILDE WITH DOT ABOVE|TILDE WITH DOT BELOW|LEFT VERTICAL BAR WITH QUILL|RIGHT VERTICAL BAR WITH QUILL|TOP LEFT HALF BRACKET|TOP RIGHT HALF BRACKET|BOTTOM LEFT HALF BRACKET|BOTTOM RIGHT HALF BRACKET|LEFT SIDEWAYS U BRACKET|RIGHT SIDEWAYS U BRACKET|LEFT DOUBLE PARENTHESIS|RIGHT DOUBLE PARENTHESIS|TWO DOTS OVER ONE DOT PUNCTUATION|ONE DOT OVER TWO DOTS PUNCTUATION|SQUARED FOUR DOT PUNCTUATION|FIVE DOT MARK|REVERSED QUESTION MARK|VERTICAL TILDE|RING POINT|WORD SEPARATOR MIDDLE DOT|TURNED COMMA|RAISED DOT|RAISED COMMA|TURNED SEMICOLON|DAGGER WITH LEFT GUARD|DAGGER WITH RIGHT GUARD|TURNED DAGGER|TOP HALF SECTION SIGN|TWO-EM DASH|THREE-EM DASH|STENOGRAPHIC FULL STOP|VERTICAL SIX DOTS|WIGGLY VERTICAL LINE|CAPITULUM|DOUBLE HYPHEN|REVERSED COMMA"⟩,
  ⟨0x2E42, "", "DOUBLE LOW-REVERSED-9 QUOTATION MARK|DASH WITH LEFT UPTURN|DOUBLE SUSPENSION MARK|INVERTED LOW KAVYKA|INVERTED LOW KAVYKA WITH KAVYKA ABOVE|LOW KAVYKA|LOW KAVYKA WITH DOT|DOUBLE STACKED COMMA|DOTTED SOLIDUS|TRIPLE DAGGER|MEDIEVAL COMMA|PARAGRAPHUS MARK|PUNCTUS ELEVATUS MARK|CORNISH VERSE DIVIDER|CROSS PATTY WITH RIGHT CROSSBAR|CROSS PATTY WITH LEFT CROSSBAR|TIRONIAN SIGN CAPITAL ET|MEDIEVAL EXCLAMATION MARK|MEDIEVAL QUESTION MARK|LEFT SQUARE BRACKET WITH STROKE|RIGHT SQUARE BRACKET WITH STROKE|LEFT SQUARE BRACKET WITH DOUBLE STROKE|RIGHT SQUARE BRACKET WITH DOUBLE STROKE|TOP HALF LEFT PARENTHESIS|TOP HALF RIGHT PARENTHESIS|BOTTOM HALF LEFT PARENTHESIS|BOTTOM HALF RIGHT PARENTHESIS|OBLIQUE HYPHEN"⟩,
  ⟨0x2E80, "CJK RADICAL ", "REPEAT|CLIFF|SECOND ONE|SECOND TWO|SECOND THREE|PERSON|BOX|TABLE|KNIFE ONE|KNIFE TWO|DIVINATION|SEAL|SMALL ONE|SMALL TWO|LAME ONE|LAME TWO|LAME THREE|LAME FOUR|SNAKE|THREAD|SNOUT ONE|SNOUT TWO|HEART ONE|HEART TWO|HAND|RAP"⟩,
  ⟨0x2E9B, "CJK RADICAL ", "CHOKE|SUN|MOON|DEATH|MOTHER|CIVILIAN|WATER ONE|WATER TWO|FIRE|PAW ONE|PAW TWO|SIMPLIFIED HALF TREE TRUNK|COW|DOG|JADE|BOLT OF CLOTH|EYE|SPIRIT ONE|SPIRIT TWO|BAMBOO|SILK|C-SIMPLIFIED SILK|NET ONE|NET TWO|NET THREE|NET FOUR|MESH|SHEEP|RAM|EWE|OLD|BRUSH ONE|BRUSH TWO|MEAT|MORTAR|GRASS ONE|GRASS TWO|GRASS THREE|TIGER|CLOTHES|WEST ONE|WEST TWO|C-SIMPLIFIED SEE|SIMPLIFIED HORN|HORN|C-SIMPLIFIED SPEECH|C-SIMPLIFIED SHELL|FOOT|C-SIMPLIFIED CART|SIMPLIFIED WALK|WALK ONE|WALK TWO|CITY|C-SIMPLIFIED GOLD|LONG ONE|LONG TWO|C-SIMPLIFIED LONG|C-SIMPLIFIED GATE|MOUND ONE|MOUND TWO|RAIN|BLUE|C-SIMPLIFIED TANNED LEATHER|C-SIMPLIFIED LEAF|C-SIMPLIFIED WIND|C-SIMPLIFIED FLY|EAT ONE|EAT TWO|EAT THREE|C-SIMPLIFIED EAT|HEAD|C-SIMPLIFIED HORSE|BONE|GHOST|C-SIMPLIFIED FISH|C-SIMPLIFIED BIRD|C-SIMPLIFIED SALT|SIMPLIFIED WHEAT|SIMPLIFIED YELLOW|C-SIMPLIFIED FROG|J-SIMPLIFIED EVEN|C-SIMPLIFIED EVEN|J-SIMPLIFIED TOOTH|C-SIMPLIFIED TOOTH|J-SIMPLIFIED DRAGON|C-SIMPLIFIED DRAGON|TURTLE|J-SIMPLIFIED TURTLE|C-SIMPLIFIED TURTLE"⟩,
  ⟨0x2F00, "KANGXI RADICAL ", "ONE|LINE|DOT|SLASH|SECOND|HOOK|TWO|LID|MAN|LEGS|ENTER|EIGHT|DOWN BOX|COVER|ICE|TABLE|OPEN BOX|KNIFE|POWER|WRAP|SPOON|RIGHT OPEN BOX|HIDING ENCLOSURE|TEN|DIVINATION|SEAL|CLIFF|PRIVATE|AGAIN|MOUTH|ENCLOSURE|EARTH|SCHOLAR|GO|GO SLOWLY|EVENING|BIG|WOMAN|CHILD|ROOF|INCH|SMALL|LAME|CORPSE|SPROUT|MOUNTAIN|RIVER|WORK|ONESELF|TURBAN|DRY|SHORT THREAD|DOTTED CLIFF|LONG STRIDE|TWO HANDS|SHOOT|BOW|SNOUT|BRISTLE|STEP|HEART|HALBERD|DOOR|HAND|BRANCH|RAP|SCRIPT|DIPPER|AXE|SQUARE|NOT|SUN|SAY|MOON|TREE|LACK|STOP|DEATH|WEAPON|DO NOT|COMPARE|FUR|CLAN|STEAM|WATER|FIRE|CLAW|FATHER|DOUBLE X|HALF TREE TRUNK|SLICE|FANG|COW|DOG|PROFOUND|JADE|MELON|TILE|SWEET|LIFE|USE|FIELD|BOLT OF CLOTH|SICKNESS|DOTTED TENT|WHITE|SKIN|DISH|EYE|SPEAR|ARROW|STONE|SPIRIT|TRACK|GRAIN|CAVE|STAND|BAMBOO|RICE|SILK|JAR|NET|SHEEP|FEATHER|OLD|AND|PLOW|EAR|BRUSH|MEAT|MINISTER|SELF|ARRIVE|MORTAR|TONGUE|OPPOSE|BOAT|STOPPING|COLOR|GRASS|TIGER|INSECT|BLOOD|WALK ENCLOSURE|CLOTHES|WEST|SEE|HORN|SPEECH|VALLEY|BEAN|PIG|BADGER|SHELL|RED|RUN|FOOT|BODY|CART|BITTER|MORNING|WALK|CITY|WINE|DISTINGUISH|VILLAGE|GOLD|LONG|GATE|MOUND|SLAVE|SHORT TAILED BIRD|RAIN|BLUE|WRONG|FACE|LEATHER|TANNED LEATHER|LEEK|SOUND|LEAF|WIND|FLY|EAT|HEAD|FRAGRANT|HORSE|BONE|TALL|HAIR|FIGHT|SACRIFICIAL WINE|CAULDRON|GHOST|FISH|BIRD|SALT|DEER|WHEAT|HEMP|YELLOW|MILLET|BLACK|EMBROIDERY|FROG|TRIPOD|DRUM|RAT|NOSE|EVEN|TOOTH|DRAGON|TURTLE|FLUTE"⟩,
  ⟨0x2FF0, "IDEOGRAPHIC DESCRIPTION CHARACTER ", "LEFT TO RIGHT|ABOVE TO BELOW|LEFT TO MIDDLE AND RIGHT|ABOVE TO MIDDLE AND BELOW|FULL SURROUND|SURROUND FROM ABOVE|SURROUND FROM BELOW|SURROUND FROM LEFT|SURROUND FROM UPPER LEFT|SURROUND FROM UPPER RIGHT|SURROUND FROM LOWER LEFT|OVERLAID"⟩,
  ⟨0x3000, "IDEOGRAPHIC ", "SPACE|COMMA|FULL STOP"⟩,
  ⟨0x3003, "", "DITTO MARK|JAPANESE INDUSTRIAL STANDARD SYMBOL|IDEOGRAPHIC ITERATION MARK|IDEOGRAPHIC CLOSING MARK|IDEOGRAPHIC NUMBER ZERO|LEFT ANGLE BRACKET|RIGHT ANGLE BRACKET|LEFT DOUBLE ANGLE BRACKET|RIGHT DOUBLE ANGLE BRACKET|LEFT CORNER BRACKET|RIGHT CORNER BRACKET|LEFT WHITE CORNER BRACKET|RIGHT WHITE CORNER BRACKET|LEFT BLACK LENTICULAR BRACKET|RIGHT BLACK LENTICULAR BRACKET|POSTAL MARK|GETA MARK|LEFT TORTOISE SHELL BRACKET|RIGHT TORTOISE SHELL BRACKET|LEFT WHITE LENTICULAR BRACKET|RIGHT WHITE LENTICULAR BRACKET|LEFT WHITE TORTOISE SHELL BRACKET|RIGHT WHITE TORTOISE SHELL BRACKET|LEFT WHITE SQUARE BRACKET|RIGHT WHITE SQUARE BRACKET|WAVE DASH|REVERSED DOUBLE PRIME QUOTATION MARK|DOUBLE PRIME QUOTATION MARK|LOW DOUBLE PRIME QUOTATION MARK|POSTAL MARK FACE"⟩,
  ⟨0x3021, "HANGZHOU NUMERAL ", "ONE|TWO|THREE|FOUR|FIVE|SIX|SEVEN|EIGHT|NINE"⟩,
  ⟨0x302A, "IDEOGRAPHIC ", "LEVEL TONE MARK|RISING TONE MARK|DEPARTING TONE MARK|ENTERING TONE MARK"⟩,
  ⟨0x302E, "", "HANGUL SINGLE DOT TONE MARK|HANGUL DOUBLE DOT TONE MARK|WAVY DASH"⟩,
  ⟨0x3031, "VERTICAL KANA REPEAT ", "MARK|WITH VOICED SOUND MARK|MARK UPPER HALF|WITH VOICED SOUND MARK UPPER HALF|MARK LOWER HALF"⟩,
  ⟨0x3036, "", "CIRCLED POSTAL MARK|IDEOGRAPHIC TELEGRAPH LINE FEED SEPARATOR SYMBOL|HANGZHOU NUMERAL TEN|HANGZHOU NUMERAL TWENTY|HANGZHOU NUMERAL THIRTY|VERTICAL IDEOGRAPHIC ITERATION MARK|MASU MARK|PART ALTERNATION MARK|IDEOGRAPHIC VARIATION INDICATOR|IDEOGRAPHIC HALF FILL SPACE"⟩,
  ⟨0x3041, "HIRAGANA LETTER ", "SMALL A|A|SMALL I|I|SMALL U|U|SMALL E|E|SMALL O|O|KA|GA|KI|GI|KU|GU|KE|GE|KO|GO|SA|ZA|SI|ZI|SU|ZU|SE|ZE|SO|ZO|TA|DA|TI|DI|SMALL TU|TU|DU|TE|DE|TO|DO|NA|NI|NU|NE|NO|HA|BA|PA|HI|BI|PI|HU|BU|PU|HE|BE|PE|HO|BO|PO|MA|MI|MU|ME|MO|SMALL YA|YA|SMALL YU|YU|SMALL YO|YO|RA|RI|RU|RE|RO|SMALL WA|WA|WI|WE|WO|N|VU|SMALL KA|SMALL KE"⟩,
  ⟨0x3099, "COMBINING KATAKANA-HIRAGANA ", "VOICED SOUND MARK|SEMI-VOICED SOUND MARK"⟩,
  ⟨0x309B, "", "KATAKANA-HIRAGANA VOICED SOUND MARK|KATAKANA-HIRAGANA SEMI-VOICED SOUND MARK|HIRAGANA ITERATION MARK|HIRAGANA VOICED ITERATION MARK|HIRAGANA DIGRAPH YORI|KATAKANA-HIRAGANA DOUBLE HYPHEN"⟩,
  ⟨0x30A1, "KATAKANA LETTER ", "SMALL A|A|SMALL I|I|SMALL U|U|SMALL E|E|SMALL O|O|KA|GA|KI|GI|KU|GU|KE|GE|KO|GO|SA|ZA|SI|ZI|SU|ZU|SE|ZE|SO|ZO|TA|DA|TI|DI|SMALL TU|TU|DU|TE|DE|TO|DO|NA|NI|NU|NE|NO|HA|BA|PA|HI|BI|PI|HU|BU|PU|HE|BE|PE|HO|BO|PO|MA|MI|MU|ME|MO|SMALL YA|YA|SMALL YU|YU|SMALL YO|YO|RA|RI|RU|RE|RO|SMALL WA|WA|WI|WE|WO|N|VU|SMALL KA|SMALL KE|VA|VI|VE|VO"⟩,
  ⟨0x30FB, "KATAKANA", " MIDDLE DOT|-HIRAGANA PROLONGED SOUND MARK| ITERATION MARK| VOICED ITERATION MARK| DIGRAPH KOTO"⟩,
  ⟨0x3105, "BOPOMOFO LETTER ", "B|P|M|F|D|T|N|L|G|K|H|J|Q|X|ZH|CH|SH|R|Z|C|S|A|O|E|EH|AI|EI|AU|OU|AN|EN|ANG|ENG|ER|I|U|IU|V|NG|GN|IH|O WITH DOT ABOVE|NN"⟩,
  ⟨0x3131, "HANGUL LETTER ", "KIYEOK|SSANGKIYEOK|KIYEOK-SIOS|NIEUN|NIEUN-CIEUC|NIEUN-HIEUH|TIKEUT|SSANGTIKEUT|RIEUL|RIEUL-KIYEOK|RIEUL-MIEUM|RIEUL-PIEUP|RIEUL-SIOS|RIEUL-THIEUTH|RIEUL-PHIEUPH|RIEUL-HIEUH|MIEUM|PIEUP|SSANGPIEUP|PIEUP-SIOS|SIOS|SSANGSIOS|IEUNG|CIEUC|SSANGCIEUC|CHIEUCH|KHIEUKH|THIEUTH|PHIEUPH|HIEUH|A|AE|YA|YAE|EO|E|YEO|YE|O|WA|WAE|OE|YO|U|WEO|WE|WI|YU|EU|YI|I"⟩,
  ⟨0x3164, "HANGUL FILLER", ""⟩,
  ⟨0x3165, "HANGUL LETTER ", "SSANGNIEUN|NIEUN-TIKEUT|NIEUN-SIOS|NIEUN-PANSIOS|RIEUL-KIYEOK-SIOS|RIEUL-TIKEUT|RIEUL-PIEUP-SIOS|RIEUL-PANSIOS|RIEUL-YEORINHIEUH|MIEUM-PIEUP|MIEUM-SIOS|MIEUM-PANSIOS|KAPYEOUNMIEUM|PIEUP-KIYEOK|PIEUP-TIKEUT|PIEUP-SIOS-KIYEOK|PIEUP-SIOS-TIKEUT|PIEUP-CIEUC|PIEUP-THIEUTH|KAPYEOUNPIEUP|KAPYEOUNSSANGPIEUP|SIOS-KIYEOK|SIOS-NIEUN|SIOS-TIKEUT|SIOS-PIEUP|SIOS-CIEUC|PANSIOS|SSANGIEUNG|YESIEUNG|YESIEUNG-SIOS|YESIEUNG-PANSIOS|KAPYEOUNPHIEUPH|SSANGHIEUH|YEORINHIEUH|YO-YA|YO-YAE|YO-I|YU-YEO|YU-YE|YU-I|ARAEA|ARAEAE"⟩,
  ⟨0x3190, "IDEOGRAPHIC ANNOTATION ", "LINKING MARK|REVERSE MARK|ONE MARK|TWO MARK|THREE MARK|FOUR MARK|TOP MARK|MIDDLE MARK|BOTTOM MARK|FIRST MARK|SECOND MARK|THIRD MARK|FOURTH MARK|HEAVEN MARK|EARTH MARK|MAN MARK"⟩,
  ⟨0x31A0, "BOPOMOFO LETTER ", "BU|ZI|JI|GU|EE|ENN|OO|ONN|IR|ANN|INN|UNN|IM|NGG|AINN|AUNN|AM|OM|ONG|INNN"⟩,
  ⟨0x31B4, "BOPOMOFO FINAL LETTER ", "P|T|K|H"⟩,
  ⟨0x31B8, "BOPOMOFO ", "LETTER GH|LETTER LH|LETTER ZY|FINAL LETTER G|LETTER GW|LETTER KW|LETTER OE|LETTER AH"⟩,
  ⟨0x31C0, "CJK STROKE ", "T|WG|XG|BXG|SW|HZZ|HZG|HP|HZWG|SZWG|HZT|HZZP|HPWG|HZW|HZZZ|N|H|S|P|SP|D|HZ|HG|SZ|SWZ|ST|SG|PD|PZ|TN|SZZ|SWG|HXWG|HZZZG|PG|Q"⟩,
  ⟨0x31F0, "KATAKANA LETTER SMALL ", "KU|SI|SU|TO|NU|HA|HI|HU|HE|HO|MU|RA|RI|RU|RE|RO"⟩,
  ⟨0x3200, "PARENTHESIZED HANGUL ", "KIYEOK|NIEUN|TIKEUT|RIEUL|MIEUM|PIEUP|SIOS|IEUNG|CIEUC|CHIEUCH|KHIEUKH|THIEUTH|PHIEUPH|HIEUH|KIYEOK A|NIEUN A|TIKEUT A|RIEUL A|MIEUM A|PIEUP A|SIOS A|IEUNG A|CIEUC A|CHIEUCH A|KHIEUKH A|THIEUTH A|PHIEUPH A|HIEUH A|CIEUC U"⟩,
  ⟨0x321D, "PARENTHESIZED KOREAN CHARACTER O", "JEON| HU"⟩,
  ⟨0x3220, "PARENTHESIZED IDEOGRAPH ", "ONE|TWO|THREE|FOUR|FIVE|SIX|SEVEN|EIGHT|NINE|TEN|MOON|FIRE|WATER|WOOD|METAL|EARTH|SUN|STOCK|HAVE|SOCIETY|NAME|SPECIAL|FINANCIAL|CONGRATULATION|LABOR|REPRESENT|CALL|STUDY|SUPERVISE|ENTERPRISE|RESOURCE|ALLIANCE|FESTIVAL|REST|SELF|REACH"⟩,
  ⟨0x3244, "CIRCLED IDEOGRAPH ", "QUESTION|KINDERGARTEN|SCHOOL|KOTO"⟩,
  ⟨0x3248, "CIRCLED NUMBER ", "TEN ON BLACK SQUARE|TWENTY ON BLACK SQUARE|THIRTY ON BLACK SQUARE|FORTY ON BLACK SQUARE|FIFTY ON BLACK SQUARE|SIXTY ON BLACK SQUARE|SEVENTY ON BLACK SQUARE|EIGHTY ON BLACK SQUARE"⟩,
  ⟨0x3250, "PARTNERSHIP SIGN", ""⟩,
  ⟨0x3251, "CIRCLED NUMBER TWENTY ", "ONE|TWO|THREE|FOUR|FIVE|SIX|SEVEN|EIGHT|NINE"⟩,
  ⟨0x325A, "CIRCLED NUMBER THIRTY", "| ONE| TWO| THREE| FOUR| FIVE"⟩,
  ⟨0x3260, "CIRCLED HANGUL ", "KIYEOK|NIEUN|TIKEUT|RIEUL|MIEUM|PIEUP|SIOS|IEUNG|CIEUC|CHIEUCH|KHIEUKH|THIEUTH|PHIEUPH|HIEUH|KIYEOK A|NIEUN A|TIKEUT A|RIEUL A|MIEUM A|PIEUP A|SIOS A|IEUNG A|CIEUC A|CHIEUCH A|KHIEUKH A|THIEUTH A|PHIEUPH A|HIEUH A"⟩,
  ⟨0x327C, "CIRCLED KOREAN CHARACTER ", "CHAMKO|JUEUI"⟩,
  ⟨0x327E, "", "CIRCLED HANGUL IEUNG U|KOREAN STANDARD SYMBOL"⟩,
  ⟨0x3280, "CIRCLED IDEOGRAPH ", "ONE|TWO|THREE|FOUR|FIVE|SIX|SEVEN|EIGHT|NINE|TEN|MOON|FIRE|WATER|WOOD|METAL|EARTH|SUN|STOCK|HAVE|SOCIETY|NAME|SPECIAL|FINANCIAL|CONGRATULATION|LABOR|SECRET|MALE|FEMALE|SUITABLE|EXCELLENT|PRINT|ATTENTION|ITEM|REST|COPY|CORRECT|HIGH|CENTRE|LOW|LEFT|RIGHT|MEDICINE|RELIGION|STUDY|SUPERVISE|ENTERPRISE|RESOURCE|ALLIANCE|NIGHT"⟩,
  ⟨0x32B1, "CIRCLED NUMBER ", "THIRTY SIX|THIRTY SEVEN|THIRTY EIGHT|THIRTY NINE|FORTY|FORTY ONE|FORTY TWO|FORTY THREE|FORTY FOUR|FORTY FIVE|FORTY SIX|FORTY SEVEN|FORTY EIGHT|FORTY NINE|FIFTY"⟩,
  ⟨0x32C0, "IDEOGRAPHIC TELEGRAPH SYMBOL FOR ", "JANUARY|FEBRUARY|MARCH|APRIL|MAY|JUNE|JULY|AUGUST|SEPTEMBER|OCTOBER|NOVEMBER|DECEMBER"⟩,
  ⟨0x32CC, "", "SQUARE HG|SQUARE ERG|SQUARE EV|LIMITED LIABILITY SIGN"⟩,
  ⟨0x32D0, "CIRCLED KATAKANA ", "A|I|U|E|O|KA|KI|KU|KE|KO|SA|SI|SU|SE|SO|TA|TI|TU|TE|TO|NA|NI|NU|NE|NO|HA|HI|HU|HE|HO|MA|MI|MU|ME|MO|YA|YU|YO|RA|RI|RU|RE|RO|WA|WI|WE|WO"⟩,
  ⟨0x32FF, "SQUARE ", "ERA NAME REIWA|APAATO|ARUHUA|ANPEA|AARU|ININGU|INTI|UON|ESUKUUDO|EEKAA|ONSU|OOMU|KAIRI|KARATTO|KARORII|GARON|GANMA|GIGA|GINII|KYURII|GIRUDAA|KIRO|KIROGURAMU|KIROMEETORU|KIROWATTO|GURAMU|GURAMUTON|KURUZEIRO|KUROONE|KEESU|KORUNA|KOOPO|SAIKURU|SANTIIMU|SIRINGU|SENTI|SENTO|DAASU|DESI|DORU|TON|NANO|NOTTO|HAITU|PAASENTO|PAATU|BAARERU|PIASUTORU|PIKURU|PIKO|BIRU|HUARADDO|HUIITO|BUSSYERU|HURAN|HEKUTAARU|PESO|PENIHI|HERUTU|PENSU|PEEZI|BEETA|POINTO|BORUTO|HON|PONDO|HOORU|HOON|MAIKURO|MAIRU|MAHHA|MARUKU|MANSYON|MIKURON|MIRI|MIRIBAARU|MEGA|MEGATON|MEETORU|YAADO|YAARU|YUAN|RITTORU|RIRA|RUPII|RUUBURU|REMU|RENTOGEN|WATTO"⟩,
  ⟨0x3358, "IDEOGRAPHIC TELEGRAPH SYMBOL FOR HOUR ", "ZERO|ONE|TWO|THREE|FOUR|FIVE|SIX|SEVEN|EIGHT|NINE|TEN|ELEVEN|TWELVE|THIRTEEN|FOURTEEN|FIFTEEN|SIXTEEN|SEVENTEEN|EIGHTEEN|NINETEEN|TWENTY|TWENTY-ONE|TWENTY-TWO|TWENTY-THREE|TWENTY-FOUR"⟩,
  ⟨0x3371, "SQUARE ", "HPA|DA|AU|BAR|OV|PC|DM|DM SQUARED|DM CUBED|IU|ERA NAME HEISEI|ERA NAME SYOUWA|ERA NAME TAISYOU|ERA NAME MEIZI|CORPORATION|PA AMPS|NA|MU A|MA|KA|KB|MB|GB|CAL|KCAL|PF|NF|MU F|MU G|MG|KG|HZ|KHZ|MHZ|GHZ|THZ|MU L|ML|DL|KL|FM|NM|MU M|MM|CM|KM|MM SQUARED|CM SQUARED|M SQUARED|KM SQUARED|MM CUBED|CM CUBED|M CUBED|KM CUBED|M OVER S|M OVER S SQUARED|PA|KPA|MPA|GPA|RAD|RAD OVER S|RAD OVER S SQUARED|PS|NS|MU S|MS|PV|NV|MU V|MV|KV|MV MEGA|PW|NW|MU W|MW|KW|MW MEGA|K OHM|M OHM|AM|BQ|CC|CD|C OVER KG|CO|DB|GY|HA|HP|IN|KK|KM CAPITAL|KT|LM|LN|LOG|LX|MB SMALL|MIL|MOL|PH|PM|PPM|PR|SR|SV|WB|V OVER M|A OVER M"⟩,
  ⟨0x33E0, "IDEOGRAPHIC TELEGRAPH SYMBOL FOR DAY ", "ONE|TWO|THREE|FOUR|FIVE|SIX|SEVEN|EIGHT|NINE|TEN|ELEVEN|TWELVE|THIRTEEN|FOURTEEN|FIFTEEN|SIXTEEN|SEVENTEEN|EIGHTEEN|NINETEEN|TWENTY|TWENTY-ONE|TWENTY-TWO|TWENTY-THREE|TWENTY-FOUR|TWENTY-FIVE|TWENTY-SIX|TWENTY-SEVEN|TWENTY-EIGHT|TWENTY-NINE|THIRTY|THIRTY-ONE"⟩,
  ⟨0x33FF, "SQUARE GAL", ""⟩,
  ⟨0x4DC0, "HEXAGRAM FOR ", "THE CREATIVE HEAVEN|THE RECEPTIVE EARTH|DIFFICULTY AT THE BEGINNING|YOUTHFUL FOLLY|WAITING|CONFLICT|THE ARMY|HOLDING TOGETHER|SMALL TAMING|TREADING|PEACE|STANDSTILL|FELLOWSHIP|GREAT POSSESSION|MODESTY|ENTHUSIASM|FOLLOWING|WORK ON THE DECAYED|APPROACH|CONTEMPLATION|BITING THROUGH|GRACE|SPLITTING APART|RETURN|INNOCENCE|GREAT TAMING|MOUTH CORNERS|GREAT PREPONDERANCE|THE ABYSMAL WATER|THE CLINGING FIRE|INFLUENCE|DURATION|RETREAT|GREAT POWER|PROGRESS|DARKENING OF THE LIGHT|THE FAMILY|OPPOSITION|OBSTRUCTION|DELIVERANCE|DECREASE|INCREASE|BREAKTHROUGH|COMING TO MEET|GATHERING TOGETHER|PUSHING UPWARD|OPPRESSION|THE WELL|REVOLUTION|THE CAULDRON|THE AROUSING THUNDER|THE KEEPING STILL MOUNTAIN|DEVELOPMENT|THE MARRYING MAIDEN|ABUNDANCE|THE WANDERER|THE GENTLE WIND|THE JOYOUS LAKE|DISPERSION|LIMITATION|INNER TRUTH|SMALL PREPONDERANCE|AFTER COMPLETION|BEFORE COMPLETION"⟩,
  ⟨0xA000, "YI SYLLABLE ", "IT|IX|I|IP|IET|IEX|IE|IEP|AT|AX|A|AP|UOX|UO|UOP|OT|OX|O|OP|EX|E|WU|BIT|BIX|BI|BIP|BIET|BIEX|BIE|BIEP|BAT|BAX|BA|BAP|BUOX|BUO|BUOP|BOT|BOX|BO|BOP|BEX|BE|BEP|BUT|BUX|BU|BUP|BURX|BUR|BYT|BYX|BY|BYP|BYRX|BYR|PIT|PIX|PI|PIP|PIEX|PIE|PIEP|PAT|PAX|PA|PAP|PUOX|PUO|PUOP|POT|POX|PO|POP|PUT|PUX|PU|PUP|PURX|PUR|PYT|PYX|PY|PYP|PYRX|PYR"⟩,
  ⟨0xA056, "YI SYLLABLE BB", "IT|IX|I|IP|IET|IEX|IE|IEP|AT|AX|A|AP|UOX|UO|UOP|OT|OX|O|OP|EX|E|EP|UT|UX|U|UP|URX|UR|YT|YX|Y|YP"⟩,
  ⟨0xA076, "YI SYLLABLE NB", "IT|IX|I|IP|IEX|IE|IEP|AT|AX|A|AP|OT|OX|O|OP|UT|UX|U|UP|URX|UR|YT|YX|Y|YP|YRX|YR"⟩,
  ⟨0xA091, "YI SYLLABLE HM", "IT|IX|I|IP|IEX|IE|IEP|AT|AX|A|AP|UOX|UO|UOP|OT|OX|O|OP|UT|UX|U|UP|URX|UR|YX|Y|YP|YRX|YR"⟩,
  ⟨0xA0AE, "YI SYLLABLE ", "MIT|MIX|MI|MIP|MIEX|MIE|MIEP|MAT|MAX|MA|MAP|MUOT|MUOX|MUO|MUOP|MOT|MOX|MO|MOP|MEX|ME|MUT|MUX|MU|MUP|MURX|MUR|MYT|MYX|MY|MYP|FIT|FIX|FI|FIP|FAT|FAX|FA|FAP|FOX|FO|FOP|FUT|FUX|FU|FUP|FURX|FUR|FYT|FYX|FY|FYP|VIT|VIX|VI|VIP|VIET|VIEX|VIE|VIEP|VAT|VAX|VA|VAP|VOT|VOX|VO|VOP|VEX|VEP|VUT|VUX|VU|VUP|VURX|VUR|VYT|VYX|VY|VYP|VYRX|VYR|DIT|DIX|DI|DIP|DIEX|DIE|DIEP|DAT|DAX|DA|DAP|DUOX|DUO|DOT|DOX|DO|DOP|DEX|DE|DEP|DUT|DUX|DU|DUP|DURX|DUR|TIT|TIX|TI|TIP|TIEX|TIE|TIEP|TAT|TAX|TA|TAP|TUOT|TUOX|TUO|TUOP|TOT|TOX|TO|TOP|TEX|TE|TEP|TUT|TUX|TU|TUP|TURX|TUR"⟩,
  ⟨0xA136, "YI SYLLABLE DD", "IT|IX|I|IP|IEX|IE|IEP|AT|AX|A|AP|UOX|UO|UOP|OT|OX|O|OP|EX|E|EP|UT|UX|U|UP|URX|UR"⟩,
  ⟨0xA151, "YI SYLLABLE ND", "IT|IX|I|IP|IEX|IE|AT|AX|A|AP|OT|OX|O|OP|EX|E|EP|UT|UX|U|UP|URX|UR"⟩,
  ⟨0xA168, "YI SYLLABLE HN", "IT|IX|I|IP|IET|IEX|IE|IEP|AT|AX|A|AP|UOX|UO|OT|OX|OP|EX|E|EP|UT"⟩,
  ⟨0xA17D, "YI SYLLABLE N", "IT|IX|I|IP|IEX|IE|IEP|AX|A|AP|UOX|UO|UOP|OT|OX|O|OP|EX|E|EP|UT|UX|U|UP|URX|UR"⟩,
  ⟨0xA197, "YI SYLLABLE HL", "IT|IX|I|IP|IEX|IE|IEP|AT|AX|A|AP|UOX|UO|UOP|OX|O|OP|EX|E|EP|UT|UX|U|UP|URX|UR|YT|YX|Y|YP|YRX|YR"⟩,
  ⟨0xA1B7, "YI SYLLABLE L", "IT|IX|I|IP|IET|IEX|IE|IEP|AT|AX|A|AP|UOT|UOX|UO|UOP|OT|OX|O|OP|EX|E|EP|UT|UX|U|UP|URX|UR|YT|YX|Y|YP|YRX|YR"⟩,
  ⟨0xA1DA, "YI SYLLABLE G", "IT|IX|I|IP|IET|IEX|IE|IEP|AT|AX|A|AP|UOT|UOX|UO|UOP|OT|OX|O|OP|ET|EX|E|EP|UT|UX|U|UP|URX|UR"⟩,
  ⟨0xA1F8, "YI SYLLABLE K", "IT|IX|I|IP|IEX|IE|IEP|AT|AX|A|AP|UOX|UO|UOP|OT|OX|O|OP|ET|EX|E|EP|UT|UX|U|UP|URX|UR"⟩,
  ⟨0xA214, "YI SYLLABLE GG", "IT|IX|I|IEX|IE|IEP|AT|AX|A|AP|UOT|UOX|UO|UOP|OT|OX|O|OP|ET|EX|E|EP|UT|UX|U|UP|URX|UR"⟩,
  ⟨0xA230, "YI SYLLABLE MG", "IEX|IE|AT|AX|A|AP|UOX|UO|UOP|OT|OX|O|OP|EX|E|EP|UT|UX|U|UP|URX|UR"⟩,
  ⟨0xA246, "YI SYLLABLE HX", "IT|IX|I|IP|IET|IEX|IE|IEP|AT|AX|A|AP|UOT|UOX|UO|UOP|OT|OX|O|OP|EX|E|EP"⟩,
  ⟨0xA25D, "YI SYLLABLE ", "NGIEX|NGIE|NGIEP|NGAT|NGAX|NGA|NGAP|NGUOT|NGUOX|NGUO|NGOT|NGOX|NGO|NGOP|NGEX|NGE|NGEP|HIT|HIEX|HIE|HAT|HAX|HA|HAP|HUOT|HUOX|HUO|HUOP|HOT|HOX|HO|HOP|HEX|HE|HEP|WAT|WAX|WA|WAP|WUOX|WUO|WUOP|WOX|WO|WOP|WEX|WE|WEP|ZIT|ZIX|ZI|ZIP|ZIEX|ZIE|ZIEP|ZAT|ZAX|ZA|ZAP|ZUOX|ZUO|ZUOP|ZOT|ZOX|ZO|ZOP|ZEX|ZE|ZEP|ZUT|ZUX|ZU|ZUP|ZURX|ZUR|ZYT|ZYX|ZY|ZYP|ZYRX|ZYR|CIT|CIX|CI|CIP|CIET|CIEX|CIE|CIEP|CAT|CAX|CA|CAP|CUOX|CUO|CUOP|COT|COX|CO|COP|CEX|CE|CEP|CUT|CUX|CU|CUP|CURX|CUR|CYT|CYX|CY|CYP|CYRX|CYR"⟩,
  ⟨0xA2D0, "YI SYLLABLE ZZ", "IT|IX|I|IP|IET|IEX|IE|IEP|AT|AX|A|AP|OX|O|OP|EX|E|EP|UX|U|UP|URX|UR|YT|YX|Y|YP|YRX|YR"⟩,
  ⟨0xA2ED, "YI SYLLABLE NZ", "IT|IX|I|IP|IEX|IE|IEP|AT|AX|A|AP|UOX|UO|OX|OP|EX|E|UX|U|UP|URX|UR|YT|YX|Y|YP|YRX|YR"⟩,
  ⟨0xA309, "YI SYLLABLE S", "IT|IX|I|IP|IEX|IE|IEP|AT|AX|A|AP|UOX|UO|UOP|OT|OX|O|OP|EX|E|EP|UT|UX|U|UP|URX|UR|YT|YX|Y|YP|YRX|YR|SIT|SIX|SI|SIP|SIEX|SIE|SIEP|SAT|SAX|SA|SAP|SOT|SOX|SO|SOP|SEX|SE|SEP|SUT|SUX|SU|SUP|SYT|SYX|SY|SYP|SYRX|SYR"⟩,
  ⟨0xA346, "YI SYLLABLE ZH", "AT|AX|A|AP|UOX|UO|UOP|OT|OX|O|OP|ET|EX|E|EP|UT|UX|U|UP|URX|UR|YT|YX|Y|YP|YRX|YR"⟩,
  ⟨0xA361, "YI SYLLABLE CH", "AT|AX|A|AP|UOT|UOX|UO|UOP|OT|OX|O|OP|ET|EX|E|EP|UX|U|UP|URX|UR|YT|YX|Y|YP|YRX|YR"⟩,
  ⟨0xA37C, "YI SYLLABLE RR", "AX|A|UOX|UO|OT|OX|O|OP|ET|EX|E|EP|UT|UX|U|UP|URX|UR|YT|YX|Y|YP|YRX|YR"⟩,
  ⟨0xA394, "YI SYLLABLE NR", "AT|AX|A|AP|OX|O|OP|ET|EX|E|EP|UT|UX|U|UP|URX|UR|YT|YX|Y|YP|YRX|YR"⟩,
  ⟨0xA3AB, "YI SYLLABLE SH", "AT|AX|A|AP|UOX|UO|UOP|OT|OX|O|OP|ET|EX|E|EP|UT|UX|U|UP|URX|UR|YT|YX|Y|YP|YRX|YR"⟩,
  ⟨0xA3C6, "YI SYLLABLE R", "AT|AX|A|AP|UOX|UO|UOP|OT|OX|O|OP|EX|E|EP|UT|UX|U|UP|URX|UR|YT|YX|Y|YP|YRX|YR"⟩,
  ⟨0xA3E0, "YI SYLLABLE J", "IT|IX|I|IP|IET|IEX|IE|IEP|UOT|UOX|UO|UOP|OT|OX|O|OP|UT|UX|U|UP|URX|UR|YT|YX|Y|YP|YRX|YR"⟩,
  ⟨0xA3FC, "YI SYLLABLE Q", "IT|IX|I|IP|IET|IEX|IE|IEP|UOT|UOX|UO|UOP|OT|OX|O|OP|UT|UX|U|UP|URX|UR|YT|YX|Y|YP|YRX|YR"⟩,
  ⟨0xA418, "YI SYLLABLE JJ", "IT|IX|I|IP|IET|IEX|IE|IEP|UOX|UO|UOP|OT|OX|O|OP|UT|UX|U|UP|URX|UR|YT|YX|Y|YP"⟩,
  ⟨0xA431, "YI SYLLABLE NJ", "IT|IX|I|IP|IET|IEX|IE|IEP|UOX|UO|OT|OX|O|OP|UX|U|UP|URX|UR|YT|YX|Y|YP|YRX|YR"⟩,
  ⟨0xA44A, "YI SYLLABLE NY", "IT|IX|I|IP|IET|IEX|IE|IEP|UOX|UO|UOP|OT|OX|O|OP|UT|UX|U|UP"⟩,
  ⟨0xA45D, "YI SYLLABLE X", "IT|IX|I|IP|IET|IEX|IE|IEP|UOX|UO|OT|OX|O|OP|YT|YX|Y|YP|YRX|YR"⟩,
  ⟨0xA471, "YI SYLLABLE Y", "IT|IX|I|IP|IET|IEX|IE|IEP|UOT|UOX|UO|UOP|OT|OX|O|OP|UT|UX|U|UP|URX|UR|YT|YX|Y|YP|YRX|YR"⟩,
  ⟨0xA490, "YI RADICAL ", "QOT|LI|KIT|NYIP|CYP|SSI|GGOP|GEP|MI|HXIT|LYR|BBUT|MOP|YO|PUT|HXUO|TAT|GA|ZUP|CYT|DDUR|BUR|GGUO|NYOP|TU|OP|JJUT|ZOT|PYT|HMO|YIT|VUR|SHY|VEP|ZA|JO|NZUP|JJY|GOT|JJIE|WO|DU|SHUR|LIE|CY|CUOP|CIP|HXOP|SHAT|ZUR|SHOP|CHE|ZZIET|NBIE|KE"⟩,
  ⟨0xA4D0, "LISU LETTER ", "BA|PA|PHA|DA|TA|THA|GA|KA|KHA|JA|CA|CHA|DZA|TSA|TSHA|MA|NA|LA|SA|ZHA|ZA|NGA|HA|XA|HHA|FA|WA|SHA|YA|GHA|A|AE|E|EU|I|O|U|UE|UH|OE|TONE MYA TI|TONE NA PO|TONE MYA CYA|TONE MYA BO|TONE MYA NA|TONE MYA JEU"⟩,
  ⟨0xA4FE, "LISU PUNCTUATION ", "COMMA|FULL STOP"⟩,
  ⟨0xA500, "VAI SYLLABLE ", "EE|EEN|HEE|WEE|WEEN|PEE|BHEE|BEE|MBEE|KPEE|MGBEE|GBEE|FEE|VEE|TEE|THEE|DHEE|DHHEE|LEE|REE|DEE|NDEE|SEE|SHEE|ZEE|ZHEE|CEE|JEE|NJEE|YEE|KEE|NGGEE|GEE|MEE|NEE|NYEE|I|IN|HI|HIN|WI|WIN|PI|BHI|BI|MBI|KPI|MGBI|GBI|FI|VI|TI|THI|DHI|DHHI|LI|RI|DI|NDI|SI|SHI|ZI|ZHI|CI|JI|NJI|YI|KI|NGGI|GI|MI|NI|NYI|A|AN|NGAN|HA|HAN|WA|WAN|PA|BHA|BA|MBA|KPA|KPAN|MGBA|GBA|FA|VA|TA|THA|DHA|DHHA|LA|RA|DA|NDA|SA|SHA|ZA|ZHA|CA|JA|NJA|YA|KA|KAN|NGGA|GA|MA|NA|NYA|OO|OON|HOO|WOO|WOON|POO|BHOO|BOO|MBOO|KPOO|MGBOO|GBOO|FOO|VOO|TOO|THOO|DHOO|DHHOO|LOO|ROO|DOO|NDOO|SOO|SHOO|ZOO|ZHOO|COO|JOO|NJOO|YOO|KOO|NGGOO|GOO|MOO|NOO|NYOO|U|UN|HU|HUN|WU|WUN|PU|BHU|BU|MBU|KPU|MGBU|GBU|FU|VU|TU|THU|DHU|DHHU|LU|RU|DU|NDU|SU|SHU|ZU|ZHU|CU|JU|NJU|YU|KU|NGGU|GU|MU|NU|NYU|O|ON|NGON|HO|HON|WO|WON|PO|BHO|BO|MBO|KPO|MGBO|GBO|GBON|FO|VO|TO|THO|DHO|DHHO|LO|RO|DO|NDO|SO|SHO|ZO|ZHO|CO|JO|NJO|YO|KO|NGGO|GO|MO|NO|NYO|E|EN|NGEN|HE|HEN|WE|WEN|PE|BHE|BE|MBE|KPE|KPEN|MGBE|GBE|GBEN|FE|VE|TE|THE|DHE|DHHE|LE|RE|DE|NDE|SE|SHE|ZE|ZHE|CE|JE|NJE|YE|KE|NGGE|NGGEN|GE|GEN|ME|NE|NYE|NG|LENGTHENER"⟩,
  ⟨0xA60D, "VAI ", "COMMA|FULL STOP|QUESTION MARK"⟩,
  ⟨0xA610, "VAI SYLLABLE NDOLE ", "FA|KA|SOO"⟩,
  ⟨0xA613, "VAI SYMBOL ", "FEENG|KEENG|TING|NII|BANG|FAA|TAA|DANG|DOONG|KUNG|TONG|DO-O|JONG"⟩,
  ⟨0xA620, "VAI DIGIT ", "ZERO|ONE|TWO|THREE|FOUR|FIVE|SIX|SEVEN|EIGHT|NINE"⟩,
  ⟨0xA62A, "VAI SYLLABLE NDOLE ", "MA|DO"⟩,
  ⟨0xA640, "CYRILLIC ", "CAPITAL LETTER ZEMLYA|SMALL LETTER ZEMLYA|CAPITAL LETTER DZELO|SMALL LETTER DZELO|CAPITAL LETTER REVERSED DZE|SMALL LETTER REVERSED DZE|CAPITAL LETTER IOTA|SMALL LETTER IOTA|CAPITAL LETTER DJERV|SMALL LETTER DJERV|CAPITAL LETTER MONOGRAPH UK|SMALL LETTER MONOGRAPH UK|CAPITAL LETTER BROAD OMEGA|SMALL LETTER BROAD OMEGA|CAPITAL LETTER NEUTRAL YER|SMALL LETTER NEUTRAL YER|CAPITAL LETTER YERU WITH BACK YER|SMALL LETTER YERU WITH BACK YER|CAPITAL LETTER IOTIFIED YAT|SMALL LETTER IOTIFIED YAT|CAPITAL LETTER REVERSED YU|SMALL LETTER REVERSED YU|CAPITAL LETTER IOTIFIED A|SMALL LETTER IOTIFIED A|CAPITAL LETTER CLOSED LITTLE YUS|SMALL LETTER CLOSED LITTLE YUS|CAPITAL LETTER BLENDED YUS|SMALL LETTER BLENDED YUS|CAPITAL LETTER IOTIFIED CLOSED LITTLE YUS|SMALL LETTER IOTIFIED CLOSED LITTLE YUS|CAPITAL LETTER YN|SMALL LETTER YN|CAPITAL LETTER REVERSED TSE|SMALL LETTER REVERSED TSE|CAPITAL LETTER SOFT DE|SMALL LETTER SOFT DE|CAPITAL LETTER SOFT EL|SMALL LETTER SOFT EL|CAPITAL LETTER SOFT EM|SMALL LETTER SOFT EM|CAPITAL LETTER MONOCULAR O|SMALL LETTER MONOCULAR O|CAPITAL LETTER BINOCULAR O|SMALL LETTER BINOCULAR O|CAPITAL LETTER DOUBLE MONOCULAR O|SMALL LETTER DOUBLE MONOCULAR O|LETTER MULTIOCULAR O"⟩,
  ⟨0xA66F, "COMBINING CYRILLIC ", "VZMET|TEN MILLIONS SIGN|HUNDRED MILLIONS SIGN|THOUSAND MILLIONS SIGN"⟩,
  ⟨0xA673, "SLAVONIC ASTERISK", ""⟩,
  ⟨0xA674, "COMBINING CYRILLIC LETTER ", "UKRAINIAN IE|I|YI|U|HARD SIGN|YERU|SOFT SIGN|OMEGA"⟩,
  ⟨0xA67C, "COMBINING CYRILLIC ", "KAVYKA|PAYEROK"⟩,
  ⟨0xA67E, "CYRILLIC ", "KAVYKA|PAYEROK|CAPITAL LETTER DWE|SMALL LETTER DWE|CAPITAL LETTER DZWE|SMALL LETTER DZWE|CAPITAL LETTER ZHWE|SMALL LETTER ZHWE|CAPITAL LETTER CCHE|SMALL LETTER CCHE|CAPITAL LETTER DZZE|SMALL LETTER DZZE|CAPITAL LETTER TE WITH MIDDLE HOOK|SMALL LETTER TE WITH MIDDLE HOOK|CAPITAL LETTER TWE|SMALL LETTER TWE|CAPITAL LETTER TSWE|SMALL LETTER TSWE|CAPITAL LETTER TSSE|SMALL LETTER TSSE|CAPITAL LETTER TCHE|SMALL LETTER TCHE|CAPITAL LETTER HWE|SMALL LETTER HWE|CAPITAL LETTER SHWE|SMALL LETTER SHWE|CAPITAL LETTER DOUBLE O|SMALL LETTER DOUBLE O|CAPITAL LETTER CROSSED O|SMALL LETTER CROSSED O"⟩,
  ⟨0xA69C, "MODIFIER LETTER CYRILLIC ", "HARD SIGN|SOFT SIGN"⟩,
  ⟨0xA69E, "COMBINING CYRILLIC LETTER ", "EF|IOTIFIED E"⟩,
  ⟨0xA6A0, "BAMUM LETTER ", "A|KA|U|KU|EE|REE|TAE|O|NYI|I|LA|PA|RII|RIEE|LEEEE|MEEEE|TAA|NDAA|NJAEM|M|SUU|MU|SHII|SI|SHEUX|SEUX|KYEE|KET|NUAE|NU|NJUAE|YOQ|SHU|YUQ|YA|NSHA|KEUX|PEUX|NJEE|NTEE|PUE|WUE|PEE|FEE|RU|LU|MI|NI|REUX|RAE|KEN|NGKWAEN|NGGA|NGA|SHO|PUAE|FU|FOM|WA|NA|LI|PI|LOQ|KO|MBEN|REN|MEN|MA|TI|KI|MO|MBAA|TET|KPA|TEN|NTUU|SAMBA|FAAMAE|KOVUU|KOGHOM"⟩,
  ⟨0xA6F0, "BAMUM ", "COMBINING MARK KOQNDON|COMBINING MARK TUKWENTIS|NJAEMLI|FULL STOP|COLON|COMMA|SEMICOLON|QUESTION MARK"⟩,
  ⟨0xA700, "MODIFIER LETTER CHINESE TONE Y", "IN PING|ANG PING|IN SHANG|ANG SHANG|IN QU|ANG QU|IN RU|ANG RU"⟩,
  ⟨0xA708, "MODIFIER LETTER ", "EXTRA-HIGH DOTTED TONE BAR|HIGH DOTTED TONE BAR|MID DOTTED TONE BAR|LOW DOTTED TONE BAR|EXTRA-LOW DOTTED TONE BAR|EXTRA-HIGH DOTTED LEFT-STEM TONE BAR|HIGH DOTTED LEFT-STEM TONE BAR|MID DOTTED LEFT-STEM TONE BAR|LOW DOTTED LEFT-STEM TONE BAR|EXTRA-LOW DOTTED LEFT-STEM TONE BAR|EXTRA-HIGH LEFT-STEM TONE BAR|HIGH LEFT-STEM TONE BAR|MID LEFT-STEM TONE BAR|LOW LEFT-STEM TONE BAR|EXTRA-LOW LEFT-STEM TONE BAR|DOT VERTICAL BAR|DOT SLASH|DOT HORIZONTAL BAR|LOWER RIGHT CORNER ANGLE|RAISED UP ARROW|RAISED DOWN ARROW|RAISED EXCLAMATION MARK|RAISED INVERTED EXCLAMATION MARK|LOW INVERTED EXCLAMATION MARK|STRESS AND HIGH TONE|STRESS AND LOW TONE"⟩,
  ⟨0xA722, "LATIN ", "CAPITAL LETTER EGYPTOLOGICAL ALEF|SMALL LETTER EGYPTOLOGICAL ALEF|CAPITAL LETTER EGYPTOLOGICAL AIN|SMALL LETTER EGYPTOLOGICAL AIN|CAPITAL LETTER HENG|SMALL LETTER HENG|CAPITAL LETTER TZ|SMALL LETTER TZ|CAPITAL LETTER TRESILLO|SMALL LETTER TRESILLO|CAPITAL LETTER CUATRILLO|SMALL LETTER CUATRILLO|CAPITAL LETTER CUATRILLO WITH COMMA|SMALL LETTER CUATRILLO WITH COMMA|LETTER SMALL CAPITAL F|LETTER SMALL CAPITAL S|CAPITAL LETTER AA|SMALL LETTER AA|CAPITAL LETTER AO|SMALL LETTER AO|CAPITAL LETTER AU|SMALL LETTER AU|CAPITAL LETTER AV|SMALL LETTER AV|CAPITAL LETTER AV WITH HORIZONTAL BAR|SMALL LETTER AV WITH HORIZONTAL BAR|CAPITAL LETTER AY|SMALL LETTER AY|CAPITAL LETTER REVERSED C WITH DOT|SMALL LETTER REVERSED C WITH DOT|CAPITAL LETTER K WITH STROKE|SMALL LETTER K WITH STROKE|CAPITAL LETTER K WITH DIAGONAL STROKE|SMALL LETTER K WITH DIAGONAL STROKE|CAPITAL LETTER K WITH STROKE AND DIAGONAL STROKE|SMALL LETTER K WITH STROKE AND DIAGONAL STROKE|CAPITAL LETTER BROKEN L|SMALL LETTER BROKEN L|CAPITAL LETTER L WITH HIGH STROKE|SMALL LETTER L WITH HIGH STROKE|CAPITAL LETTER O WITH LONG STROKE OVERLAY|SMALL LETTER O WITH LONG STROKE OVERLAY|CAPITAL LETTER O WITH LOOP|SMALL LETTER O WITH LOOP|CAPITAL LETTER OO|SMALL LETTER OO|CAPITAL LETTER P WITH STROKE THROUGH DESCENDER|SMALL LETTER P WITH STROKE THROUGH DESCENDER|CAPITAL LETTER P WITH FLOURISH|SMALL LETTER P WITH FLOURISH|CAPITAL LETTER P WITH SQUIRREL TAIL|SMALL LETTER P WITH SQUIRREL TAIL|CAPITAL LETTER Q WITH STROKE THROUGH DESCENDER"⟩,
  ⟨0xA757, "LATIN ", "SMALL LETTER Q WITH STROKE THROUGH DESCENDER|CAPITAL LETTER Q WITH DIAGONAL STROKE|SMALL LETTER Q WITH DIAGONAL STROKE|CAPITAL LETTER R ROTUNDA|SMALL LETTER R ROTUNDA|CAPITAL LETTER RUM ROTUNDA|SMALL LETTER RUM ROTUNDA|CAPITAL LETTER V WITH DIAGONAL STROKE|SMALL LETTER V WITH DIAGONAL STROKE|CAPITAL LETTER VY|SMALL LETTER VY|CAPITAL LETTER VISIGOTHIC Z|SMALL LETTER VISIGOTHIC Z|CAPITAL LETTER THORN WITH STROKE|SMALL LETTER THORN WITH STROKE|CAPITAL LETTER THORN WITH STROKE THROUGH DESCENDER|SMALL LETTER THORN WITH STROKE THROUGH DESCENDER|CAPITAL LETTER VEND|SMALL LETTER VEND|CAPITAL LETTER ET|SMALL LETTER ET|CAPITAL LETTER IS|SMALL LETTER IS|CAPITAL LETTER CON|SMALL LETTER CON"⟩,
  ⟨0xA770, "MODIFIER LETTER US", ""⟩,
  ⟨0xA771, "LATIN SMALL LETTER ", "DUM|LUM|MUM|NUM|RUM"⟩,
  ⟨0xA776, "LATIN ", "LETTER SMALL CAPITAL RUM|SMALL LETTER TUM|SMALL LETTER UM|CAPITAL LETTER INSULAR D|SMALL LETTER INSULAR D|CAPITAL LETTER INSULAR F|SMALL LETTER INSULAR F|CAPITAL LETTER INSULAR G|CAPITAL LETTER TURNED INSULAR G|SMALL LETTER TURNED INSULAR G|CAPITAL LETTER TURNED L|SMALL LETTER TURNED L|CAPITAL LETTER INSULAR R|SMALL LETTER INSULAR R|CAPITAL LETTER INSULAR S|SMALL LETTER INSULAR S|CAPITAL LETTER INSULAR T|SMALL LETTER INSULAR T"⟩,
  ⟨0xA788, "MODIFIER LETTER ", "LOW CIRCUMFLEX ACCENT|COLON|SHORT EQUALS SIGN"⟩,
  ⟨0xA78B, "LATIN ", "CAPITAL LETTER SALTILLO|SMALL LETTER SALTILLO|CAPITAL LETTER TURNED H|SMALL LETTER L WITH RETROFLEX HOOK AND BELT|LETTER SINOLOGICAL DOT|CAPITAL LETTER N WITH DESCENDER|SMALL LETTER N WITH DESCENDER|CAPITAL LETTER C WITH BAR|SMALL LETTER C WITH BAR|SMALL LETTER C WITH PALATAL HOOK|SMALL LETTER H WITH PALATAL HOOK|CAPITAL LETTER B WITH FLOURISH|SMALL LETTER B WITH FLOURISH|CAPITAL LETTER F WITH STROKE|SMALL LETTER F WITH STROKE|CAPITAL LETTER VOLAPUK AE|SMALL LETTER VOLAPUK AE|CAPITAL LETTER VOLAPUK OE|SMALL LETTER VOLAPUK OE|CAPITAL LETTER VOLAPUK UE|SMALL LETTER VOLAPUK UE|CAPITAL LETTER G WITH OBLIQUE STROKE|SMALL LETTER G WITH OBLIQUE STROKE|CAPITAL LETTER K WITH OBLIQUE STROKE|SMALL LETTER K WITH OBLIQUE STROKE|CAPITAL LETTER N WITH OBLIQUE STROKE|SMALL LETTER N WITH OBLIQUE STROKE|CAPITAL LETTER R WITH OBLIQUE STROKE|SMALL LETTER R WITH OBLIQUE STROKE|CAPITAL LETTER S WITH OBLIQUE STROKE|SMALL LETTER S WITH OBLIQUE STROKE"⟩,
  ⟨0xA7AA, "LATIN CAPITAL LETTER ", "H WITH HOOK|REVERSED OPEN E|SCRIPT G|L WITH BELT|SMALL CAPITAL I"⟩,
  ⟨0xA7AF, "LATIN LETTER SMALL CAPITAL Q", ""⟩,
  ⟨0xA7B0, "LATIN CAPITAL LETTER ", "TURNED K|TURNED T|J WITH CROSSED-TAIL|CHI|BETA"⟩,
  ⟨0xA7B5, "LATIN ", "SMALL LETTER BETA|CAPITAL LETTER OMEGA|SMALL LETTER OMEGA|CAPITAL LETTER U WITH STROKE|SMALL LETTER U WITH STROKE|CAPITAL LETTER GLOTTAL A|SMALL LETTER GLOTTAL A|CAPITAL LETTER GLOTTAL I|SMALL LETTER GLOTTAL I|CAPITAL LETTER GLOTTAL U|SMALL LETTER GLOTTAL U|CAPITAL LETTER OLD POLISH O|SMALL LETTER OLD POLISH O|CAPITAL LETTER ANGLICANA W|SMALL LETTER ANGLICANA W|CAPITAL LETTER C WITH PALATAL HOOK|CAPITAL LETTER S WITH HOOK|CAPITAL LETTER Z WITH PALATAL HOOK|CAPITAL LETTER D WITH SHORT STROKE OVERLAY|SMALL LETTER D WITH SHORT STROKE OVERLAY|CAPITAL LETTER S WITH SHORT STROKE OVERLAY|SMALL LETTER S WITH SHORT STROKE OVERLAY"⟩,
  ⟨0xA7D0, "LATIN ", "CAPITAL LETTER CLOSED INSULAR G|SMALL LETTER CLOSED INSULAR G"⟩,
  ⟨0xA7D3, "LATIN SMALL LETTER DOUBLE THORN", ""⟩,
  ⟨0xA7D5, "LATIN ", "SMALL LETTER DOUBLE WYNN|CAPITAL LETTER MIDDLE SCOTS S|SMALL LETTER MIDDLE SCOTS S|CAPITAL LETTER SIGMOID S|SMALL LETTER SIGMOID S"⟩,
  ⟨0xA7F2, "MODIFIER LETTER CAPITAL ", "C|F|Q"⟩,
  ⟨0xA7F5, "", "LATIN CAPITAL LETTER REVERSED HALF H|LATIN SMALL LETTER REVERSED HALF H|LATIN EPIGRAPHIC LETTER SIDEWAYS I|MODIFIER LETTER CAPITAL H WITH STROKE|MODIFIER LETTER SMALL LIGATURE OE|LATIN LETTER SMALL CAPITAL TURNED M"⟩,
  ⟨0xA7FB, "LATIN EPIGRAPHIC LETTER ", "REVERSED F|REVERSED P|INVERTED M|I LONGA|ARCHAIC M"⟩,
  ⟨0xA800, "SYLOTI NAGRI ", "LETTER A|LETTER I|SIGN DVISVARA|LETTER U|LETTER E|LETTER O|SIGN HASANTA|LETTER KO|LETTER KHO|LETTER GO|LETTER GHO|SIGN ANUSVARA"⟩,
  ⟨0xA80C, "SYLOTI NAGRI LETTER ", "CO|CHO|JO|JHO|TTO|TTHO|DDO|DDHO|TO|THO|DO|DHO|NO|PO|PHO|BO|BHO|MO|RO|LO|RRO|SO|HO"⟩,
  ⟨0xA823, "SYLOTI NAGRI VOWEL SIGN ", "A|I|U|E|OO"⟩,
  ⟨0xA828, "SYLOTI NAGRI POETRY MARK-", "1|2|3|4"⟩,
  ⟨0xA82C, "SYLOTI NAGRI SIGN ALTERNATE HASANTA", ""⟩,
  ⟨0xA830, "NORTH INDIC FRACTION ", "ONE QUARTER|ONE HALF|THREE QUARTERS|ONE SIXTEENTH|ONE EIGHTH|THREE SIXTEENTHS"⟩,
  ⟨0xA836, "NORTH INDIC ", "QUARTER MARK|PLACEHOLDER MARK|RUPEE MARK|QUANTITY MARK"⟩,
  ⟨0xA840, "PHAGS-PA LETTER ", "KA|KHA|GA|NGA|CA|CHA|JA|NYA|TA|THA|DA|NA|PA|PHA|BA|MA|TSA|TSHA|DZA|WA|ZHA|ZA|SMALL A|YA|RA|LA|SHA|SA|HA|A|I|U|E|O|QA|XA|FA|GGA|EE"⟩,
  ⟨0xA867, "PHAGS-PA SUBJOINED LETTER ", "WA|YA"⟩,
  ⟨0xA869, "PHAGS-PA LETTER ", "TTA|TTHA|DDA|NNA|ALTERNATE YA|VOICELESS SHA|VOICED HA|ASPIRATED FA"⟩,
  ⟨0xA871, "PHAGS-PA ", "SUBJOINED LETTER RA|SUPERFIXED LETTER RA|LETTER CANDRABINDU|SINGLE HEAD MARK|DOUBLE HEAD MARK|MARK SHAD|MARK DOUBLE SHAD"⟩,
  ⟨0xA880, "SAURASHTRA SIGN ", "ANUSVARA|VISARGA"⟩,
  ⟨0xA882, "SAURASHTRA LETTER ", "A|AA|I|II|U|UU|VOCALIC R|VOCALIC RR|VOCALIC L|VOCALIC LL|E|EE|AI|O|OO|AU|KA|KHA|GA|GHA|NGA|CA|CHA|JA|JHA|NYA|TTA|TTHA|DDA|DDHA|NNA|TA|THA|DA|DHA|NA|PA|PHA|BA|BHA|MA|YA|RA|LA|VA|SHA|SSA|SA|HA|LLA"⟩,
  ⟨0xA8B4, "SAURASHTRA CONSONANT SIGN HAARU", ""⟩,
  ⟨0xA8B5, "SAURASHTRA VOWEL SIGN ", "AA|I|II|U|UU|VOCALIC R|VOCALIC RR|VOCALIC L|VOCALIC LL|E|EE|AI|O|OO|AU"⟩,
  ⟨0xA8C4, "SAURASHTRA SIGN ", "VIRAMA|CANDRABINDU"⟩,
  ⟨0xA8CE, "SAURASHTRA D", "ANDA|OUBLE DANDA"⟩,
  ⟨0xA8D0, "SAURASHTRA DIGIT ", "ZERO|ONE|TWO|THREE|FOUR|FIVE|SIX|SEVEN|EIGHT|NINE"⟩,
  ⟨0xA8E0, "COMBINING DEVANAGARI DIGIT ", "ZERO|ONE|TWO|THREE|FOUR|FIVE|SIX|SEVEN|EIGHT|NINE"⟩,
  ⟨0xA8EA, "COMBINING DEVANAGARI ", "LETTER A|LETTER U|LETTER KA|LETTER NA|LETTER PA|LETTER RA|LETTER VI|SIGN AVAGRAHA"⟩,
  ⟨0xA8F2, "DEVANAGARI ", "SIGN SPACING CANDRABINDU|SIGN CANDRABINDU VIRAMA|SIGN DOUBLE CANDRABINDU VIRAMA|SIGN CANDRABINDU TWO|SIGN CANDRABINDU THREE|SIGN CANDRABINDU AVAGRAHA|SIGN PUSHPIKA|GAP FILLER|CARET|HEADSTROKE|SIGN SIDDHAM|JAIN OM|LETTER AY|VOWEL SIGN AY"⟩,
  ⟨0xA900, "KAYAH LI DIGIT ", "ZERO|ONE|TWO|THREE|FOUR|FIVE|SIX|SEVEN|EIGHT|NINE"⟩,
  ⟨0xA90A, "KAYAH LI LETTER ", "KA|KHA|GA|NGA|SA|SHA|ZA|NYA|TA|HTA|NA|PA|PHA|MA|DA|BA|RA|YA|LA|WA|THA|HA|VA|CA|A|OE|I|OO"⟩,
  ⟨0xA926, "KAYAH LI ", "VOWEL UE|VOWEL E|VOWEL U|VOWEL EE|VOWEL O|TONE PLOPHU|TONE CALYA|TONE CALYA PLOPHU|SIGN CWI|SIGN SHYA"⟩,
  ⟨0xA930, "REJANG LETTER ", "KA|GA|NGA|TA|DA|NA|PA|BA|MA|CA|JA|NYA|SA|RA|LA|YA|WA|HA|MBA|NGGA|NDA|NYJA|A"⟩,
  ⟨0xA947, "REJANG VOWEL SIGN ", "I|U|E|AI|O|AU|EU|EA"⟩,
  ⟨0xA94F, "REJANG CONSONANT SIGN ", "NG|N|R|H"⟩,
  ⟨0xA953, "REJANG VIRAMA", ""⟩,
  ⟨0xA95F, "REJANG SECTION MARK", ""⟩,
  ⟨0xA960, "HANGUL CHOSEONG TIKEUT-", "MIEUM|PIEUP|SIOS|CIEUC"⟩,
  ⟨0xA964, "HANGUL CHOSEONG RIEUL-", "KIYEOK|SSANGKIYEOK|TIKEUT|SSANGTIKEUT|MIEUM|PIEUP|SSANGPIEUP|KAPYEOUNPIEUP|SIOS|CIEUC|KHIEUKH"⟩,
  ⟨0xA96F, "HANGUL CHOSEONG ", "MIEUM-KIYEOK|MIEUM-TIKEUT|MIEUM-SIOS|PIEUP-SIOS-THIEUTH|PIEUP-KHIEUKH|PIEUP-HIEUH|SSANGSIOS-PIEUP|IEUNG-RIEUL|IEUNG-HIEUH|SSANGCIEUC-HIEUH|SSANGTHIEUTH|PHIEUPH-HIEUH|HIEUH-SIOS|SSANGYEORINHIEUH"⟩,
  ⟨0xA980, "JAVANESE SIGN ", "PANYANGGA|CECAK|LAYAR|WIGNYAN"⟩,
  ⟨0xA984, "JAVANESE LETTER ", "A|I KAWI|I|II|U|PA CEREK|NGA LELET|NGA LELET RASWADI|E|AI|O|KA|KA SASAK|KA MURDA|GA|GA MURDA|NGA|CA|CA MURDA|JA|NYA MURDA|JA MAHAPRANA|NYA|TTA|TTA MAHAPRANA|DDA|DDA MAHAPRANA|NA MURDA|TA|TA MURDA|DA|DA MAHAPRANA|NA|PA|PA MURDA|BA|BA MURDA|MA|YA|RA|RA AGUNG|LA|WA|SA MURDA|SA MAHAPRANA|SA|HA"⟩,
  ⟨0xA9B3, "JAVANESE SIGN CECAK TELU", ""⟩,
  ⟨0xA9B4, "JAVANESE VOWEL SIGN ", "TARUNG|TOLONG|WULU|WULU MELIK|SUKU|SUKU MENDUT|TALING|DIRGA MURE|PEPET"⟩,
  ⟨0xA9BD, "JAVANESE ", "CONSONANT SIGN KERET|CONSONANT SIGN PENGKAL|CONSONANT SIGN CAKRA|PANGKON|LEFT RERENGGAN|RIGHT RERENGGAN|PADA ANDAP|PADA MADYA|PADA LUHUR|PADA WINDU|PADA PANGKAT|PADA LINGSA|PADA LUNGSI|PADA ADEG|PADA ADEG ADEG|PADA PISELEH|TURNED PADA PISELEH"⟩,
  ⟨0xA9CF, "JAVANESE PANGRANGKEP", ""⟩,
  ⟨0xA9D0, "JAVANESE DIGIT ", "ZERO|ONE|TWO|THREE|FOUR|FIVE|SIX|SEVEN|EIGHT|NINE"⟩,
  ⟨0xA9DE, "JAVANESE PADA ", "TIRTA TUMETES|ISEN-ISEN"⟩,
  ⟨0xA9E0, "MYANMAR LETTER SHAN ", "GHA|CHA|JHA|NNA|BHA"⟩,
  ⟨0xA9E5, "MYANMAR ", "SIGN SHAN SAW|MODIFIER LETTER SHAN REDUPLICATION"⟩,
  ⟨0xA9E7, "MYANMAR LETTER TAI LAING ", "NYA|FA|GA|GHA|JA|JHA|DDA|DDHA|NNA"⟩,
  ⟨0xA9F0, "MYANMAR TAI LAING DIGIT ", "ZERO|ONE|TWO|THREE|FOUR|FIVE|SIX|SEVEN|EIGHT|NINE"⟩,
  ⟨0xA9FA, "MYANMAR LETTER TAI LAING ", "LLA|DA|DHA|BA|BHA"⟩,
  ⟨0xAA00, "CHAM LETTER ", "A|I|U|E|AI|O|KA|KHA|GA|GHA|NGUE|NGA|CHA|CHHA|JA|JHA|NHUE|NHA|NHJA|TA|THA|DA|DHA|NUE|NA|DDA|PA|PPA|PHA|BA|BHA|MUE|MA|BBA|YA|RA|LA|VA|SSA|SA|HA"⟩,
  ⟨0xAA29, "CHAM VOWEL SIGN ", "AA|I|II|EI|U|OE|O|AI|AU|UE"⟩,
  ⟨0xAA33, "CHAM CONSONANT SIGN ", "YA|RA|LA|WA"⟩,
  ⟨0xAA40, "CHAM ", "LETTER FINAL K|LETTER FINAL G|LETTER FINAL NG|CONSONANT SIGN FINAL NG"⟩,
  ⟨0xAA44, "CHAM LETTER FINAL ", "CH|T|N|P|Y|R|L|SS"⟩,
  ⟨0xAA4C, "CHAM CONSONANT SIGN FINAL ", "M|H"⟩,
  ⟨0xAA50, "CHAM DIGIT ", "ZERO|ONE|TWO|THREE|FOUR|FIVE|SIX|SEVEN|EIGHT|NINE"⟩,
  ⟨0xAA5C, "CHAM PUNCTUATION ", "SPIRAL|DANDA|DOUBLE DANDA|TRIPLE DANDA"⟩,
  ⟨0xAA60, "MYANMAR LETTER KHAMTI ", "GA|CA|CHA|JA|JHA|NYA|TTA|TTHA|DDA|DDHA|DHA|NA|SA|HA|HHA|FA"⟩,
  ⟨0xAA70, "MYANMAR ", "MODIFIER LETTER KHAMTI REDUPLICATION|LETTER KHAMTI XA|LETTER KHAMTI ZA|LETTER KHAMTI RA|LOGOGRAM KHAMTI OAY|LOGOGRAM KHAMTI QN|LOGOGRAM KHAMTI HM|SYMBOL AITON EXCLAMATION|SYMBOL AITON ONE|SYMBOL AITON TWO|LETTER AITON RA|SIGN PAO KAREN TONE|SIGN TAI LAING TONE-2|SIGN TAI LAING TONE-5|LETTER SHWE PALAUNG CHA|LETTER SHWE PALAUNG SHA"⟩,
  ⟨0xAA80, "TAI VIET LETTER ", "LOW KO|HIGH KO|LOW KHO|HIGH KHO|LOW KHHO|HIGH KHHO|LOW GO|HIGH GO|LOW NGO|HIGH NGO|LOW CO|HIGH CO|LOW CHO|HIGH CHO|LOW SO|HIGH SO|LOW NYO|HIGH NYO|LOW DO|HIGH DO|LOW TO|HIGH TO|LOW THO|HIGH THO|LOW NO|HIGH NO|LOW BO|HIGH BO|LOW PO|HIGH PO|LOW PHO|HIGH PHO|LOW FO|HIGH FO|LOW MO|HIGH MO|LOW YO|HIGH YO|LOW RO|HIGH RO|LOW LO|HIGH LO|LOW VO|HIGH VO|LOW HO|HIGH HO|LOW O|HIGH O"⟩,
  ⟨0xAAB0, "TAI VIET ", "MAI KANG|VOWEL AA|VOWEL I|VOWEL UE|VOWEL U|VOWEL E|VOWEL O|MAI KHIT"⟩,
  ⟨0xAAB8, "TAI VIET VOWEL ", "IA|UEA|UA|AUE|AY|AN|AM"⟩,
  ⟨0xAABF, "TAI VIET TONE MAI ", "EK|NUENG|THO|SONG"⟩,
  ⟨0xAADB, "TAI VIET SYMBOL ", "KON|NUENG|SAM|HO HOI|KOI KOI"⟩,
  ⟨0xAAE0, "MEETEI MAYEK LETTER ", "E|O|CHA|NYA|TTA|TTHA|DDA|DDHA|NNA|SHA|SSA"⟩,
  ⟨0xAAEB, "MEETEI MAYEK VOWEL SIGN ", "II|UU|AAI|AU|AAU"⟩,
  ⟨0xAAF0, "MEETEI MAYEK ", "CHEIKHAN|AHANG KHUDAM|ANJI|SYLLABLE REPETITION MARK|WORD REPETITION MARK|VOWEL SIGN VISARGA|VIRAMA"⟩,
  ⟨0xAB01, "ETHIOPIC SYLLABLE TTH", "U|I|AA|EE|E|O"⟩,
  ⟨0xAB09, "ETHIOPIC SYLLABLE DDH", "U|I|AA|EE|E|O"⟩,
  ⟨0xAB11, "ETHIOPIC SYLLABLE DZ", "U|I|AA|EE|E|O"⟩,
  ⟨0xAB20, "ETHIOPIC SYLLABLE CCHH", "A|U|I|AA|EE|E|O"⟩,
  ⟨0xAB28, "ETHIOPIC SYLLABLE BB", "A|U|I|AA|EE|E|O"⟩,
  ⟨0xAB30, "LATIN SMALL LETTER ", "BARRED ALPHA|A REVERSED-SCHWA|BLACKLETTER E|BARRED E|E WITH FLOURISH|LENIS F|SCRIPT G WITH CROSSED-TAIL|L WITH INVERTED LAZY S|L WITH DOUBLE MIDDLE TILDE|L WITH MIDDLE RING|M WITH CROSSED-TAIL|N WITH CROSSED-TAIL|ENG WITH CROSSED-TAIL|BLACKLETTER O|BLACKLETTER O WITH STROKE|OPEN O WITH STROKE|INVERTED OE|TURNED OE WITH STROKE|TURNED OE WITH HORIZONTAL STROKE|TURNED O OPEN-O|TURNED O OPEN-O WITH STROKE|STIRRUP R"⟩,
  ⟨0xAB46, "LATIN LETTER SMALL CAPITAL R WITH RIGHT LEG", ""⟩,
  ⟨0xAB47, "LATIN SMALL LETTER ", "R WITHOUT HANDLE|DOUBLE R|R WITH CROSSED-TAIL|DOUBLE R WITH CROSSED-TAIL|SCRIPT R|SCRIPT R WITH RING|BASELINE ESH|U WITH SHORT RIGHT LEG|U BAR WITH SHORT RIGHT LEG|UI|TURNED UI|U WITH LEFT HOOK|CHI|CHI WITH LOW RIGHT RING|CHI WITH LOW LEFT SERIF|X WITH LOW RIGHT RING|X WITH LONG LEFT LEG|X WITH LONG LEFT LEG AND LOW RIGHT RING|X WITH LONG LEFT LEG WITH SERIF|Y WITH SHORT RIGHT LEG"⟩,
  ⟨0xAB5B, "MODIFIER BREVE WITH INVERTED BREVE", ""⟩,
  ⟨0xAB5C, "MODIFIER LETTER SMALL ", "HENG|L WITH INVERTED LAZY S|L WITH MIDDLE TILDE|U WITH LEFT HOOK"⟩,
  ⟨0xAB60, "LATIN SMALL LETTER ", "SAKHA YAT|IOTIFIED E|OPEN OE|UO|INVERTED ALPHA"⟩,
  ⟨0xAB65, "GREEK LETTER SMALL CAPITAL OMEGA", ""⟩,
  ⟨0xAB66, "LATIN SMALL LETTER ", "DZ DIGRAPH WITH RETROFLEX HOOK|TS DIGRAPH WITH RETROFLEX HOOK|TURNED R WITH MIDDLE TILDE"⟩,
  ⟨0xAB69, "MODIFIER LETTER ", "SMALL TURNED W|LEFT TACK|RIGHT TACK"⟩,
  ⟨0xAB70, "CHEROKEE SMALL LETTER ", "A|E|I|O|U|V|GA|KA|GE|GI|GO|GU|GV|HA|HE|HI|HO|HU|HV|LA|LE|LI|LO|LU|LV|MA|ME|MI|MO|MU|NA|HNA|NAH|NE|NI|NO|NU|NV|QUA|QUE|QUI|QUO|QUU|QUV|SA|S|SE|SI|SO|SU|SV|DA|TA|DE|TE|DI|TI|DO|DU|DV|DLA|TLA|TLE|TLI|TLO|TLU|TLV|TSA|TSE|TSI|TSO|TSU|TSV|WA|WE|WI|WO|WU|WV|YA"⟩,
  ⟨0xABC0, "MEETEI MAYEK LETTER ", "KOK|SAM|LAI|MIT|PA|NA|CHIL|TIL|KHOU|NGOU|THOU|WAI|YANG|HUK|UN|I|PHAM|ATIYA|GOK|JHAM|RAI|BA|JIL|DIL|GHOU|DHOU|BHAM|KOK LONSUM|LAI LONSUM|MIT LONSUM|PA LONSUM|NA LONSUM|TIL LONSUM|NGOU LONSUM|I LONSUM"⟩,
  ⟨0xABE3, "MEETEI MAYEK VOWEL SIGN ", "ONAP|INAP|ANAP|YENAP|SOUNAP|UNAP|CHEINAP|NUNG"⟩,
  ⟨0xABEB, "MEETEI MAYEK ", "CHEIKHEI|LUM IYEK|APUN IYEK"⟩,
  ⟨0xABF0, "MEETEI MAYEK DIGIT ", "ZERO|ONE|TWO|THREE|FOUR|FIVE|SIX|SEVEN|EIGHT|NINE"⟩,
  ⟨0xD7B0, "HANGUL JUNGSEONG ", "O-YEO|O-O-I|YO-A|YO-AE|YO-EO|U-YEO|U-I-I|YU-AE|YU-O|EU-A|EU-EO|EU-E|EU-O|I-YA-O|I-YAE|I-YEO|I-YE|I-O-I|I-YO|I-YU|I-I|ARAEA-A|ARAEA-E"⟩,
  ⟨0xD7CB, "HANGUL JONGSEONG ", "NIEUN-RIEUL|NIEUN-CHIEUCH|SSANGTIKEUT|SSANGTIKEUT-PIEUP|TIKEUT-PIEUP|TIKEUT-SIOS|TIKEUT-SIOS-KIYEOK|TIKEUT-CIEUC|TIKEUT-CHIEUCH|TIKEUT-THIEUTH|RIEUL-SSANGKIYEOK|RIEUL-KIYEOK-HIEUH|SSANGRIEUL-KHIEUKH|RIEUL-MIEUM-HIEUH|RIEUL-PIEUP-TIKEUT|RIEUL-PIEUP-PHIEUPH|RIEUL-YESIEUNG|RIEUL-YEORINHIEUH-HIEUH|KAPYEOUNRIEUL|MIEUM-NIEUN|MIEUM-SSANGNIEUN|SSANGMIEUM|MIEUM-PIEUP-SIOS|MIEUM-CIEUC|PIEUP-TIKEUT|PIEUP-RIEUL-PHIEUPH|PIEUP-MIEUM|SSANGPIEUP|PIEUP-SIOS-TIKEUT|PIEUP-CIEUC|PIEUP-CHIEUCH|SIOS-MIEUM|SIOS-KAPYEOUNPIEUP|SSANGSIOS-KIYEOK|SSANGSIOS-TIKEUT|SIOS-PANSIOS|SIOS-CIEUC|SIOS-CHIEUCH|SIOS-THIEUTH|SIOS-HIEUH|PANSIOS-PIEUP|PANSIOS-KAPYEOUNPIEUP|YESIEUNG-MIEUM|YESIEUNG-HIEUH|CIEUC-PIEUP|CIEUC-SSANGPIEUP|SSANGCIEUC|PHIEUPH-SIOS|PHIEUPH-THIEUTH"⟩,
  ⟨0xFB00, "LATIN SMALL LIGATURE ", "FF|FI|FL|FFI|FFL|LONG S T|ST"⟩,
  ⟨0xFB13, "ARMENIAN SMALL LIGATURE ", "MEN NOW|MEN ECH|MEN INI|VEW NOW|MEN XEH"⟩,
  ⟨0xFB1D, "HEBREW ", "LETTER YOD WITH HIRIQ|POINT JUDEO-SPANISH VARIKA|LIGATURE YIDDISH YOD YOD PATAH"⟩,
  ⟨0xFB20, "HEBREW LETTER ", "ALTERNATIVE AYIN|WIDE ALEF|WIDE DALET|WIDE HE|WIDE KAF|WIDE LAMED|WIDE FINAL MEM|WIDE RESH|WIDE TAV|ALTERNATIVE PLUS SIGN|SHIN WITH SHIN DOT|SHIN WITH SIN DOT|SHIN WITH DAGESH AND SHIN DOT|SHIN WITH DAGESH AND SIN DOT|ALEF WITH PATAH|ALEF WITH QAMATS|ALEF WITH MAPIQ|BET WITH DAGESH|GIMEL WITH DAGESH|DALET WITH DAGESH|HE WITH MAPIQ|VAV WITH DAGESH|ZAYIN WITH DAGESH"⟩,
  ⟨0xFB38, "HEBREW LETTER ", "TET WITH DAGESH|YOD WITH DAGESH|FINAL KAF WITH DAGESH|KAF WITH DAGESH|LAMED WITH DAGESH"⟩,
  ⟨0xFB3E, "HEBREW LETTER MEM WITH DAGESH", ""⟩,
  ⟨0xFB40, "HEBREW LETTER ", "NUN WITH DAGESH|SAMEKH WITH DAGESH"⟩,
  ⟨0xFB43, "HEBREW LETTER ", "FINAL PE WITH DAGESH|PE WITH DAGESH"⟩,
  ⟨0xFB46, "HEBREW LETTER ", "TSADI WITH DAGESH|QOF WITH DAGESH|RESH WITH DAGESH|SHIN WITH DAGESH|TAV WITH DAGESH|VAV WITH HOLAM|BET WITH RAFE|KAF WITH RAFE|PE WITH RAFE"⟩,
  ⟨0xFB4F, "HEBREW LIGATURE ALEF LAMED", ""⟩,
  ⟨0xFB50, "ARABIC LETTER ", "ALEF WASLA ISOLATED FORM|ALEF WASLA FINAL FORM|BEEH ISOLATED FORM|BEEH FINAL FORM|BEEH INITIAL FORM|BEEH MEDIAL FORM|PEH ISOLATED FORM|PEH FINAL FORM|PEH INITIAL FORM|PEH MEDIAL FORM|BEHEH ISOLATED FORM|BEHEH FINAL FORM|BEHEH INITIAL FORM|BEHEH MEDIAL FORM|TTEHEH ISOLATED FORM|TTEHEH FINAL FORM|TTEHEH INITIAL FORM|TTEHEH MEDIAL FORM|TEHEH ISOLATED FORM|TEHEH FINAL FORM|TEHEH INITIAL FORM|TEHEH MEDIAL FORM|TTEH ISOLATED FORM|TTEH FINAL FORM|TTEH INITIAL FORM|TTEH MEDIAL FORM|VEH ISOLATED FORM|VEH FINAL FORM|VEH INITIAL FORM|VEH MEDIAL FORM|PEHEH ISOLATED FORM|PEHEH FINAL FORM|PEHEH INITIAL FORM|PEHEH MEDIAL FORM|DYEH ISOLATED FORM|DYEH FINAL FORM|DYEH INITIAL FORM|DYEH MEDIAL FORM|NYEH ISOLATED FORM|NYEH FINAL FORM|NYEH INITIAL FORM|NYEH MEDIAL FORM|TCHEH ISOLATED FORM|TCHEH FINAL FORM|TCHEH INITIAL FORM|TCHEH MEDIAL FORM|TCHEHEH ISOLATED FORM|TCHEHEH FINAL FORM|TCHEHEH INITIAL FORM|TCHEHEH MEDIAL FORM|DDAHAL ISOLATED FORM|DDAHAL FINAL FORM|DAHAL ISOLATED FORM|DAHAL FINAL FORM|DUL ISOLATED FORM|DUL FINAL FORM|DDAL ISOLATED FORM|DDAL FINAL FORM|JEH ISOLATED FORM|JEH FINAL FORM|RREH ISOLATED FORM|RREH FINAL FORM|KEHEH ISOLATED FORM|KEHEH FINAL FORM|KEHEH INITIAL FORM|KEHEH MEDIAL FORM|GAF ISOLATED FORM|GAF FINAL FORM|GAF INITIAL FORM|GAF MEDIAL FORM|GUEH ISOLATED FORM|GUEH FINAL FORM|GUEH INITIAL FORM|GUEH MEDIAL FORM|NGOEH ISOLATED FORM|NGOEH FINAL FORM|NGOEH INITIAL FORM|NGOEH MEDIAL FORM|NOON GHUNNA ISOLATED FORM|NOON GHUNNA FINAL FORM|RNOON ISOLATED FORM|RNOON FINAL FORM"⟩,
  ⟨0xFBA2, "ARABIC LETTER ", "RNOON INITIAL FORM|RNOON MEDIAL FORM|HEH WITH YEH ABOVE ISOLATED FORM|HEH WITH YEH ABOVE FINAL FORM|HEH GOAL ISOLATED FORM|HEH GOAL FINAL FORM|HEH GOAL INITIAL FORM|HEH GOAL MEDIAL FORM"⟩,
  ⟨0xFBAA, "ARABIC LETTER HEH DOACHASHMEE ", "ISOLATED FORM|FINAL FORM|INITIAL FORM|MEDIAL FORM"⟩,
  ⟨0xFBAE, "ARABIC LETTER YEH BARREE ", "ISOLATED FORM|FINAL FORM|WITH HAMZA ABOVE ISOLATED FORM|WITH HAMZA ABOVE FINAL FORM"⟩,
  ⟨0xFBB2, "ARABIC SYMBOL ", "DOT ABOVE|DOT BELOW|TWO DOTS ABOVE|TWO DOTS BELOW|THREE DOTS ABOVE|THREE DOTS BELOW|THREE DOTS POINTING DOWNWARDS ABOVE|THREE DOTS POINTING DOWNWARDS BELOW|FOUR DOTS ABOVE|FOUR DOTS BELOW|DOUBLE VERTICAL BAR BELOW|TWO DOTS VERTICALLY ABOVE|TWO DOTS VERTICALLY BELOW|RING|SMALL TAH ABOVE|SMALL TAH BELOW|WASLA ABOVE"⟩,
  ⟨0xFBD3, "ARABIC LETTER ", "NG ISOLATED FORM|NG FINAL FORM|NG INITIAL FORM|NG MEDIAL FORM|U ISOLATED FORM|U FINAL FORM|OE ISOLATED FORM|OE FINAL FORM|YU ISOLATED FORM|YU FINAL FORM|U WITH HAMZA ABOVE ISOLATED FORM|VE ISOLATED FORM|VE FINAL FORM|KIRGHIZ OE ISOLATED FORM|KIRGHIZ OE FINAL FORM|KIRGHIZ YU ISOLATED FORM|KIRGHIZ YU FINAL FORM|E ISOLATED FORM|E FINAL FORM|E INITIAL FORM|E MEDIAL FORM|UIGHUR KAZAKH KIRGHIZ ALEF MAKSURA INITIAL FORM|UIGHUR KAZAKH KIRGHIZ ALEF MAKSURA MEDIAL FORM"⟩,
  ⟨0xFBEA, "ARABIC LIGATURE YEH WITH HAMZA ABOVE WITH ", "ALEF ISOLATED FORM|ALEF FINAL FORM|AE ISOLATED FORM|AE FINAL FORM|WAW ISOLATED FORM|WAW FINAL FORM|U ISOLATED FORM|U FINAL FORM|OE ISOLATED FORM|OE FINAL FORM|YU ISOLATED FORM|YU FINAL FORM|E ISOLATED FORM|E FINAL FORM|E INITIAL FORM"⟩,
  ⟨0xFBF9, "ARABIC LIGATURE UIGHUR KIRGHIZ YEH WITH HAMZA ABOVE WITH ALEF MAKSURA ", "ISOLATED FORM|FINAL FORM|INITIAL FORM"⟩,
  ⟨0xFBFC, "ARABIC LETTER FARSI YEH ", "ISOLATED FORM|FINAL FORM|INITIAL FORM|MEDIAL FORM"⟩,
  ⟨0xFC00, "ARABIC LIGATURE YEH WITH HAMZA ABOVE WITH ", "JEEM ISOLATED FORM|HAH ISOLATED FORM|MEEM ISOLATED FORM|ALEF MAKSURA ISOLATED FORM|YEH ISOLATED FORM"⟩,
  ⟨0xFC05, "ARABIC LIGATURE BEH WITH ", "JEEM ISOLATED FORM|HAH ISOLATED FORM|KHAH ISOLATED FORM|MEEM ISOLATED FORM|ALEF MAKSURA ISOLATED FORM|YEH ISOLATED FORM"⟩,
  ⟨0xFC0B, "ARABIC LIGATURE TEH WITH ", "JEEM ISOLATED FORM|HAH ISOLATED FORM|KHAH ISOLATED FORM|MEEM ISOLATED FORM|ALEF MAKSURA ISOLATED FORM|YEH ISOLATED FORM"⟩,
  ⟨0xFC11, "ARABIC LIGATURE ", "THEH WITH JEEM ISOLATED FORM|THEH WITH MEEM ISOLATED FORM|THEH WITH ALEF MAKSURA ISOLATED FORM|THEH WITH YEH ISOLATED FORM|JEEM WITH HAH ISOLATED FORM|JEEM WITH MEEM ISOLATED FORM|HAH WITH JEEM ISOLATED FORM|HAH WITH MEEM ISOLATED FORM|KHAH WITH JEEM ISOLATED FORM|KHAH WITH HAH ISOLATED FORM|KHAH WITH MEEM ISOLATED FORM|SEEN WITH JEEM ISOLATED FORM|SEEN WITH HAH ISOLATED FORM|SEEN WITH KHAH ISOLATED FORM|SEEN WITH MEEM ISOLATED FORM|SAD WITH HAH ISOLATED FORM|SAD WITH MEEM ISOLATED FORM|DAD WITH JEEM ISOLATED FORM|DAD WITH HAH ISOLATED FORM|DAD WITH KHAH ISOLATED FORM|DAD WITH MEEM ISOLATED FORM|TAH WITH HAH ISOLATED FORM|TAH WITH MEEM ISOLATED FORM|ZAH WITH MEEM ISOLATED FORM|AIN WITH JEEM ISOLATED FORM|AIN WITH MEEM ISOLATED FORM|GHAIN WITH JEEM ISOLATED FORM|GHAIN WITH MEEM ISOLATED FORM|FEH WITH JEEM ISOLATED FORM|FEH WITH HAH ISOLATED FORM|FEH WITH KHAH ISOLATED FORM|FEH WITH MEEM ISOLATED FORM|FEH WITH ALEF MAKSURA ISOLATED FORM|FEH WITH YEH ISOLATED FORM|QAF WITH HAH ISOLATED FORM|QAF WITH MEEM ISOLATED FORM|QAF WITH ALEF MAKSURA ISOLATED FORM|QAF WITH YEH ISOLATED FORM"⟩,
  ⟨0xFC37, "ARABIC LIGATURE KAF WITH ", "ALEF ISOLATED FORM|JEEM ISOLATED FORM|HAH ISOLATED FORM|KHAH ISOLATED FORM|LAM ISOLATED FORM|MEEM ISOLATED FORM|ALEF MAKSURA ISOLATED FORM|YEH ISOLATED FORM"⟩,
  ⟨0xFC3F, "ARABIC LIGATURE LAM WITH ", "JEEM ISOLATED FORM|HAH ISOLATED FORM|KHAH ISOLATED FORM|MEEM ISOLATED FORM|ALEF MAKSURA ISOLATED FORM|YEH ISOLATED FORM"⟩,
  ⟨0xFC45, "ARABIC LIGATURE MEEM WITH ", "JEEM ISOLATED FORM|HAH ISOLATED FORM|KHAH ISOLATED FORM|MEEM ISOLATED FORM|ALEF MAKSURA ISOLATED FORM|YEH ISOLATED FORM"⟩,
  ⟨0xFC4B, "ARABIC LIGATURE NOON WITH ", "JEEM ISOLATED FORM|HAH ISOLATED FORM|KHAH ISOLATED FORM|MEEM ISOLATED FORM|ALEF MAKSURA ISOLATED FORM|YEH ISOLATED FORM"⟩,
  ⟨0xFC51, "ARABIC LIGATURE ", "HEH WITH JEEM ISOLATED FORM|HEH WITH MEEM ISOLATED FORM|HEH WITH ALEF MAKSURA ISOLATED FORM|HEH WITH YEH ISOLATED FORM|YEH WITH JEEM ISOLATED FORM|YEH WITH HAH ISOLATED FORM|YEH WITH KHAH ISOLATED FORM|YEH WITH MEEM ISOLATED FORM|YEH WITH ALEF MAKSURA ISOLATED FORM|YEH WITH YEH ISOLATED FORM|THAL WITH SUPERSCRIPT ALEF ISOLATED FORM|REH WITH SUPERSCRIPT ALEF ISOLATED FORM|ALEF MAKSURA WITH SUPERSCRIPT ALEF ISOLATED FORM"⟩,
  ⟨0xFC5E, "ARABIC LIGATURE SHADDA WITH ", "DAMMATAN ISOLATED FORM|KASRATAN ISOLATED FORM|FATHA ISOLATED FORM|DAMMA ISOLATED FORM|KASRA ISOLATED FORM|SUPERSCRIPT ALEF ISOLATED FORM"⟩,
  ⟨0xFC64, "ARABIC LIGATURE YEH WITH HAMZA ABOVE WITH ", "REH FINAL FORM|ZAIN FINAL FORM|MEEM FINAL FORM|NOON FINAL FORM|ALEF MAKSURA FINAL FORM|YEH FINAL FORM"⟩,
  ⟨0xFC6A, "ARABIC LIGATURE BEH WITH ", "REH FINAL FORM|ZAIN FINAL FORM|MEEM FINAL FORM|NOON FINAL FORM|ALEF MAKSURA FINAL FORM|YEH FINAL FORM"⟩,
  ⟨0xFC70, "ARABIC LIGATURE TEH WITH ", "REH FINAL FORM|ZAIN FINAL FORM|MEEM FINAL FORM|NOON FINAL FORM|ALEF MAKSURA FINAL FORM|YEH FINAL FORM"⟩,
  ⟨0xFC76, "ARABIC LIGATURE THEH WITH ", "REH FINAL FORM|ZAIN FINAL FORM|MEEM FINAL FORM|NOON FINAL FORM|ALEF MAKSURA FINAL FORM|YEH FINAL FORM"⟩,
  ⟨0xFC7C, "ARABIC LIGATURE ", "FEH WITH ALEF MAKSURA FINAL FORM|FEH WITH YEH FINAL FORM|QAF WITH ALEF MAKSURA FINAL FORM|QAF WITH YEH FINAL FORM|KAF WITH ALEF FINAL FORM|KAF WITH LAM FINAL FORM|KAF WITH MEEM FINAL FORM|KAF WITH ALEF MAKSURA FINAL FORM|KAF WITH YEH FINAL FORM|LAM WITH MEEM FINAL FORM|LAM WITH ALEF MAKSURA FINAL FORM|LAM WITH YEH FINAL FORM|MEEM WITH ALEF FINAL FORM|MEEM WITH MEEM FINAL FORM|NOON WITH REH FINAL FORM|NOON WITH ZAIN FINAL FORM|NOON WITH MEEM FINAL FORM|NOON WITH NOON FINAL FORM|NOON WITH ALEF MAKSURA FINAL FORM|NOON WITH YEH FINAL FORM|ALEF MAKSURA WITH SUPERSCRIPT ALEF FINAL FORM"⟩,
  ⟨0xFC91, "ARABIC LIGATURE YEH WITH ", "REH FINAL FORM|ZAIN FINAL FORM|MEEM FINAL FORM|NOON FINAL FORM|ALEF MAKSURA FINAL FORM|YEH FINAL FORM"⟩,
  ⟨0xFC97, "ARABIC LIGATURE YEH WITH HAMZA ABOVE WITH ", "JEEM INITIAL FORM|HAH INITIAL FORM|KHAH INITIAL FORM|MEEM INITIAL FORM|HEH INITIAL FORM"⟩,
  ⟨0xFC9C, "ARABIC LIGATURE ", "BEH WITH JEEM INITIAL FORM|BEH WITH HAH INITIAL FORM|BEH WITH KHAH INITIAL FORM|BEH WITH MEEM INITIAL FORM|BEH WITH HEH INITIAL FORM|TEH WITH JEEM INITIAL FORM|TEH WITH HAH INITIAL FORM|TEH WITH KHAH INITIAL FORM|TEH WITH MEEM INITIAL FORM|TEH WITH HEH INITIAL FORM|THEH WITH MEEM INITIAL FORM|JEEM WITH HAH INITIAL FORM|JEEM WITH MEEM INITIAL FORM|HAH WITH JEEM INITIAL FORM|HAH WITH MEEM INITIAL FORM|KHAH WITH JEEM INITIAL FORM|KHAH WITH MEEM INITIAL FORM|SEEN WITH JEEM INITIAL FORM|SEEN WITH HAH INITIAL FORM|SEEN WITH KHAH INITIAL FORM|SEEN WITH MEEM INITIAL FORM|SAD WITH HAH INITIAL FORM|SAD WITH KHAH INITIAL FORM|SAD WITH MEEM INITIAL FORM|DAD WITH JEEM INITIAL FORM|DAD WITH HAH INITIAL FORM|DAD WITH KHAH INITIAL FORM|DAD WITH MEEM INITIAL FORM|TAH WITH HAH INITIAL FORM|ZAH WITH MEEM INITIAL FORM|AIN WITH JEEM INITIAL FORM|AIN WITH MEEM INITIAL FORM|GHAIN WITH JEEM INITIAL FORM|GHAIN WITH MEEM INITIAL FORM|FEH WITH JEEM INITIAL FORM|FEH WITH HAH INITIAL FORM|FEH WITH KHAH INITIAL FORM|FEH WITH MEEM INITIAL FORM|QAF WITH HAH INITIAL FORM|QAF WITH MEEM INITIAL FORM|KAF WITH JEEM INITIAL FORM|KAF WITH HAH INITIAL FORM|KAF WITH KHAH INITIAL FORM|KAF WITH LAM INITIAL FORM|KAF WITH MEEM INITIAL FORM|LAM WITH JEEM INITIAL FORM|LAM WITH HAH INITIAL FORM|LAM WITH KHAH INITIAL FORM|LAM WITH MEEM INITIAL FORM|LAM WITH HEH INITIAL FORM|MEEM WITH JEEM INITIAL FORM|MEEM WITH HAH INITIAL FORM|MEEM WITH KHAH INITIAL FORM|MEEM WITH MEEM INITIAL FORM|NOON WITH JEEM INITIAL FORM"⟩,
  ⟨0xFCD3, "ARABIC LIGATURE ", "NOON WITH HAH INITIAL FORM|NOON WITH KHAH INITIAL FORM|NOON WITH MEEM INITIAL FORM|NOON WITH HEH INITIAL FORM|HEH WITH JEEM INITIAL FORM|HEH WITH MEEM INITIAL FORM|HEH WITH SUPERSCRIPT ALEF INITIAL FORM|YEH WITH JEEM INITIAL FORM|YEH WITH HAH INITIAL FORM|YEH WITH KHAH INITIAL FORM|YEH WITH MEEM INITIAL FORM|YEH WITH HEH INITIAL FORM|YEH WITH HAMZA ABOVE WITH MEEM MEDIAL FORM|YEH WITH HAMZA ABOVE WITH HEH MEDIAL FORM|BEH WITH MEEM MEDIAL FORM|BEH WITH HEH MEDIAL FORM|TEH WITH MEEM MEDIAL FORM|TEH WITH HEH MEDIAL FORM|THEH WITH MEEM MEDIAL FORM|THEH WITH HEH MEDIAL FORM|SEEN WITH MEEM MEDIAL FORM|SEEN WITH HEH MEDIAL FORM|SHEEN WITH MEEM MEDIAL FORM|SHEEN WITH HEH MEDIAL FORM|KAF WITH LAM MEDIAL FORM|KAF WITH MEEM MEDIAL FORM|LAM WITH MEEM MEDIAL FORM|NOON WITH MEEM MEDIAL FORM|NOON WITH HEH MEDIAL FORM|YEH WITH MEEM MEDIAL FORM|YEH WITH HEH MEDIAL FORM|SHADDA WITH FATHA MEDIAL FORM|SHADDA WITH DAMMA MEDIAL FORM|SHADDA WITH KASRA MEDIAL FORM|TAH WITH ALEF MAKSURA ISOLATED FORM|TAH WITH YEH ISOLATED FORM|AIN WITH ALEF MAKSURA ISOLATED FORM|AIN WITH YEH ISOLATED FORM|GHAIN WITH ALEF MAKSURA ISOLATED FORM|GHAIN WITH YEH ISOLATED FORM|SEEN WITH ALEF MAKSURA ISOLATED FORM|SEEN WITH YEH ISOLATED FORM|SHEEN WITH ALEF MAKSURA ISOLATED FORM|SHEEN WITH YEH ISOLATED FORM|HAH WITH ALEF MAKSURA ISOLATED FORM|HAH WITH YEH ISOLATED FORM|JEEM WITH ALEF MAKSURA ISOLATED FORM|JEEM WITH YEH ISOLATED FORM|KHAH WITH ALEF MAKSURA ISOLATED FORM|KHAH WITH YEH ISOLATED FORM"⟩,
  ⟨0xFD05, "ARABIC LIGATURE ", "SAD WITH ALEF MAKSURA ISOLATED FORM|SAD WITH YEH ISOLATED FORM|DAD WITH ALEF MAKSURA ISOLATED FORM|DAD WITH YEH ISOLATED FORM|SHEEN WITH JEEM ISOLATED FORM|SHEEN WITH HAH ISOLATED FORM|SHEEN WITH KHAH ISOLATED FORM|SHEEN WITH MEEM ISOLATED FORM|SHEEN WITH REH ISOLATED FORM|SEEN WITH REH ISOLATED FORM|SAD WITH REH ISOLATED FORM|DAD WITH REH ISOLATED FORM|TAH WITH ALEF MAKSURA FINAL FORM|TAH WITH YEH FINAL FORM|AIN WITH ALEF MAKSURA FINAL FORM|AIN WITH YEH FINAL FORM|GHAIN WITH ALEF MAKSURA FINAL FORM|GHAIN WITH YEH FINAL FORM|SEEN WITH ALEF MAKSURA FINAL FORM|SEEN WITH YEH FINAL FORM|SHEEN WITH ALEF MAKSURA FINAL FORM|SHEEN WITH YEH FINAL FORM|HAH WITH ALEF MAKSURA FINAL FORM|HAH WITH YEH FINAL FORM|JEEM WITH ALEF MAKSURA FINAL FORM|JEEM WITH YEH FINAL FORM|KHAH WITH ALEF MAKSURA FINAL FORM|KHAH WITH YEH FINAL FORM|SAD WITH ALEF MAKSURA FINAL FORM|SAD WITH YEH FINAL FORM|DAD WITH ALEF MAKSURA FINAL FORM|DAD WITH YEH FINAL FORM|SHEEN WITH JEEM FINAL FORM|SHEEN WITH HAH FINAL FORM|SHEEN WITH KHAH FINAL FORM|SHEEN WITH MEEM FINAL FORM|SHEEN WITH REH FINAL FORM|SEEN WITH REH FINAL FORM|SAD WITH REH FINAL FORM|DAD WITH REH FINAL FORM|SHEEN WITH JEEM INITIAL FORM|SHEEN WITH HAH INITIAL FORM|SHEEN WITH KHAH INITIAL FORM|SHEEN WITH MEEM INITIAL FORM|SEEN WITH HEH INITIAL FORM|SHEEN WITH HEH INITIAL FORM|TAH WITH MEEM INITIAL FORM|SEEN WITH JEEM MEDIAL FORM|SEEN WITH HAH MEDIAL FORM|SEEN WITH KHAH MEDIAL FORM|SHEEN WITH JEEM MEDIAL FORM|SHEEN WITH HAH MEDIAL FORM"⟩,
  ⟨0xFD39, "ARABIC LIGATURE ", "SHEEN WITH KHAH MEDIAL FORM|TAH WITH MEEM MEDIAL FORM|ZAH WITH MEEM MEDIAL FORM|ALEF WITH FATHATAN FINAL FORM|ALEF WITH FATHATAN ISOLATED FORM"⟩,
  ⟨0xFD3E, "", "ORNATE LEFT PARENTHESIS|ORNATE RIGHT PARENTHESIS|ARABIC LIGATURE RAHIMAHU ALLAAH"⟩,
  ⟨0xFD41, "ARABIC LIGATURE RADI ALLAAHU ANH", "|AA|UM|UMAA|UNNA"⟩,
  ⟨0xFD46, "ARABIC LIGATURE ", "SALLALLAAHU ALAYHI WA-AALIH|ALAYHI AS-SALAAM|ALAYHIM AS-SALAAM|ALAYHIMAA AS-SALAAM|ALAYHI AS-SALAATU WAS-SALAAM|QUDDISA SIRRAH|SALLALLAHU ALAYHI WAAALIHEE WA-SALLAM|ALAYHAA AS-SALAAM|TABAARAKA WA-TAAALAA|RAHIMAHUM ALLAAH|TEH WITH JEEM WITH MEEM INITIAL FORM|TEH WITH HAH WITH JEEM FINAL FORM|TEH WITH HAH WITH JEEM INITIAL FORM|TEH WITH HAH WITH MEEM INITIAL FORM|TEH WITH KHAH WITH MEEM INITIAL FORM|TEH WITH MEEM WITH JEEM INITIAL FORM|TEH WITH MEEM WITH HAH INITIAL FORM|TEH WITH MEEM WITH KHAH INITIAL FORM|JEEM WITH MEEM WITH HAH FINAL FORM|JEEM WITH MEEM WITH HAH INITIAL FORM|HAH WITH MEEM WITH YEH FINAL FORM|HAH WITH MEEM WITH ALEF MAKSURA FINAL FORM|SEEN WITH HAH WITH JEEM INITIAL FORM|SEEN WITH JEEM WITH HAH INITIAL FORM|SEEN WITH JEEM WITH ALEF MAKSURA FINAL FORM"⟩,
  ⟨0xFD5F, "ARABIC LIGATURE SEEN WITH MEEM WITH ", "HAH FINAL FORM|HAH INITIAL FORM|JEEM INITIAL FORM|MEEM FINAL FORM|MEEM INITIAL FORM"⟩,
  ⟨0xFD64, "ARABIC LIGATURE SAD WITH ", "HAH WITH HAH FINAL FORM|HAH WITH HAH INITIAL FORM|MEEM WITH MEEM FINAL FORM"⟩,
  ⟨0xFD67, "ARABIC LIGATURE SHEEN WITH ", "HAH WITH MEEM FINAL FORM|HAH WITH MEEM INITIAL FORM|JEEM WITH YEH FINAL FORM|MEEM WITH KHAH FINAL FORM|MEEM WITH KHAH INITIAL FORM|MEEM WITH MEEM FINAL FORM|MEEM WITH MEEM INITIAL FORM"⟩,
  ⟨0xFD6E, "ARABIC LIGATURE ", "DAD WITH HAH WITH ALEF MAKSURA FINAL FORM|DAD WITH KHAH WITH MEEM FINAL FORM|DAD WITH KHAH WITH MEEM INITIAL FORM|TAH WITH MEEM WITH HAH FINAL FORM|TAH WITH MEEM WITH HAH INITIAL FORM|TAH WITH MEEM WITH MEEM INITIAL FORM|TAH WITH MEEM WITH YEH FINAL FORM|AIN WITH JEEM WITH MEEM FINAL FORM|AIN WITH MEEM WITH MEEM FINAL FORM|AIN WITH MEEM WITH MEEM INITIAL FORM|AIN WITH MEEM WITH ALEF MAKSURA FINAL FORM|GHAIN WITH MEEM WITH MEEM FINAL FORM|GHAIN WITH MEEM WITH YEH FINAL FORM|GHAIN WITH MEEM WITH ALEF MAKSURA FINAL FORM|FEH WITH KHAH WITH MEEM FINAL FORM|FEH WITH KHAH WITH MEEM INITIAL FORM|QAF WITH MEEM WITH HAH FINAL FORM|QAF WITH MEEM WITH MEEM FINAL FORM"⟩,
  ⟨0xFD80, "ARABIC LIGATURE LAM WITH ", "HAH WITH MEEM FINAL FORM|HAH WITH YEH FINAL FORM|HAH WITH ALEF MAKSURA FINAL FORM|JEEM WITH JEEM INITIAL FORM|JEEM WITH JEEM FINAL FORM|KHAH WITH MEEM FINAL FORM|KHAH WITH MEEM INITIAL FORM|MEEM WITH HAH FINAL FORM|MEEM WITH HAH INITIAL FORM"⟩,
  ⟨0xFD89, "ARABIC LIGATURE MEEM WITH ", "HAH WITH JEEM INITIAL FORM|HAH WITH MEEM INITIAL FORM|HAH WITH YEH FINAL FORM|JEEM WITH HAH INITIAL FORM|JEEM WITH MEEM INITIAL FORM|KHAH WITH JEEM INITIAL FORM|KHAH WITH MEEM INITIAL FORM"⟩,
  ⟨0xFD92, "ARABIC LIGATURE ", "MEEM WITH JEEM WITH KHAH INITIAL FORM|HEH WITH MEEM WITH JEEM INITIAL FORM|HEH WITH MEEM WITH MEEM INITIAL FORM|NOON WITH HAH WITH MEEM INITIAL FORM|NOON WITH HAH WITH ALEF MAKSURA FINAL FORM|NOON WITH JEEM WITH MEEM FINAL FORM|NOON WITH JEEM WITH MEEM INITIAL FORM|NOON WITH JEEM WITH ALEF MAKSURA FINAL FORM|NOON WITH MEEM WITH YEH FINAL FORM|NOON WITH MEEM WITH ALEF MAKSURA FINAL FORM|YEH WITH MEEM WITH MEEM FINAL FORM|YEH WITH MEEM WITH MEEM INITIAL FORM|BEH WITH KHAH WITH YEH FINAL FORM|TEH WITH JEEM WITH YEH FINAL FORM|TEH WITH JEEM WITH ALEF MAKSURA FINAL FORM|TEH WITH KHAH WITH YEH FINAL FORM|TEH WITH KHAH WITH ALEF MAKSURA FINAL FORM|TEH WITH MEEM WITH YEH FINAL FORM|TEH WITH MEEM WITH ALEF MAKSURA FINAL FORM|JEEM WITH MEEM WITH YEH FINAL FORM|JEEM WITH HAH WITH ALEF MAKSURA FINAL FORM|JEEM WITH MEEM WITH ALEF MAKSURA FINAL FORM|SEEN WITH KHAH WITH ALEF MAKSURA FINAL FORM|SAD WITH HAH WITH YEH FINAL FORM|SHEEN WITH HAH WITH YEH FINAL FORM|DAD WITH HAH WITH YEH FINAL FORM|LAM WITH JEEM WITH YEH FINAL FORM|LAM WITH MEEM WITH YEH FINAL FORM|YEH WITH HAH WITH YEH FINAL FORM|YEH WITH JEEM WITH YEH FINAL FORM|YEH WITH MEEM WITH YEH FINAL FORM|MEEM WITH MEEM WITH YEH FINAL FORM|QAF WITH MEEM WITH YEH FINAL FORM|NOON WITH HAH WITH YEH FINAL FORM|QAF WITH MEEM WITH HAH INITIAL FORM|LAM WITH HAH WITH MEEM INITIAL FORM|AIN WITH MEEM WITH YEH FINAL FORM|KAF WITH MEEM WITH YEH FINAL FORM|NOON WITH JEEM WITH HAH INITIAL FORM|MEEM WITH KHAH WITH YEH FINAL FORM"⟩,
  ⟨0xFDBA, "ARABIC LIGATURE ", "LAM WITH JEEM WITH MEEM INITIAL FORM|KAF WITH MEEM WITH MEEM FINAL FORM|LAM WITH JEEM WITH MEEM FINAL FORM|NOON WITH JEEM WITH HAH FINAL FORM|JEEM WITH HAH WITH YEH FINAL FORM|HAH WITH JEEM WITH YEH FINAL FORM|MEEM WITH JEEM WITH YEH FINAL FORM|FEH WITH MEEM WITH YEH FINAL FORM|BEH WITH HAH WITH YEH FINAL FORM|KAF WITH MEEM WITH MEEM INITIAL FORM|AIN WITH JEEM WITH MEEM INITIAL FORM|SAD WITH MEEM WITH MEEM INITIAL FORM|SEEN WITH KHAH WITH YEH FINAL FORM|NOON WITH JEEM WITH YEH FINAL FORM"⟩,
  ⟨0xFDCF, "ARABIC LIGATURE SALAAMUHU ALAYNAA", ""⟩,
  ⟨0xFDF0, "ARABIC LIGATURE ", "SALLA USED AS KORANIC STOP SIGN ISOLATED FORM|QALA USED AS KORANIC STOP SIGN ISOLATED FORM|ALLAH ISOLATED FORM|AKBAR ISOLATED FORM|MOHAMMAD ISOLATED FORM|SALAM ISOLATED FORM|RASOUL ISOLATED FORM|ALAYHE ISOLATED FORM|WASALLAM ISOLATED FORM|SALLA ISOLATED FORM|SALLALLAHOU ALAYHE WASALLAM|JALLAJALALOUHOU"⟩,
  ⟨0xFDFC, "RIAL SIGN", ""⟩,
  ⟨0xFDFD, "ARABIC LIGATURE ", "BISMILLAH AR-RAHMAN AR-RAHEEM|SUBHAANAHU WA TAAALAA|AZZA WA JALL"⟩,
  ⟨0xFE00, "VARIATION SELECTOR-", "1|2|3|4|5|6|7|8|9|10|11|12|13|14|15|16"⟩,
  ⟨0xFE10, "PRESENTATION FORM FOR VERTICAL ", "COMMA|IDEOGRAPHIC COMMA|IDEOGRAPHIC FULL STOP|COLON|SEMICOLON|EXCLAMATION MARK|QUESTION MARK|LEFT WHITE LENTICULAR BRACKET|RIGHT WHITE LENTICULAR BRAKCET|HORIZONTAL ELLIPSIS"⟩,
  ⟨0xFE20, "COMBINING ", "LIGATURE LEFT HALF|LIGATURE RIGHT HALF|DOUBLE TILDE LEFT HALF|DOUBLE TILDE RIGHT HALF|MACRON LEFT HALF|MACRON RIGHT HALF|CONJOINING MACRON|LIGATURE LEFT HALF BELOW|LIGATURE RIGHT HALF BELOW|TILDE LEFT HALF BELOW|TILDE RIGHT HALF BELOW|MACRON LEFT HALF BELOW|MACRON RIGHT HALF BELOW|CONJOINING MACRON BELOW|CYRILLIC TITLO LEFT HALF|CYRILLIC TITLO RIGHT HALF"⟩,
  ⟨0xFE30, "PRESENTATION FORM FOR VERTICAL ", "TWO DOT LEADER|EM DASH|EN DASH|LOW LINE|WAVY LOW LINE|LEFT PARENTHESIS|RIGHT PARENTHESIS|LEFT CURLY BRACKET|RIGHT CURLY BRACKET|LEFT TORTOISE SHELL BRACKET|RIGHT TORTOISE SHELL BRACKET|LEFT BLACK LENTICULAR BRACKET|RIGHT BLACK LENTICULAR BRACKET|LEFT DOUBLE ANGLE BRACKET|RIGHT DOUBLE ANGLE BRACKET|LEFT ANGLE BRACKET|RIGHT ANGLE BRACKET|LEFT CORNER BRACKET|RIGHT CORNER BRACKET|LEFT WHITE CORNER BRACKET|RIGHT WHITE CORNER BRACKET"⟩,
  ⟨0xFE45, "", "SESAME DOT|WHITE SESAME DOT|PRESENTATION FORM FOR VERTICAL LEFT SQUARE BRACKET|PRESENTATION FORM FOR VERTICAL RIGHT SQUARE BRACKET|DASHED OVERLINE|CENTRELINE OVERLINE|WAVY OVERLINE|DOUBLE WAVY OVERLINE|DASHED LOW LINE|CENTRELINE LOW LINE|WAVY LOW LINE|SMALL COMMA|SMALL IDEOGRAPHIC COMMA|SMALL FULL STOP"⟩,
  ⟨0xFE54, "SMALL ", "SEMICOLON|COLON|QUESTION MARK|EXCLAMATION MARK|EM DASH|LEFT PARENTHESIS|RIGHT PARENTHESIS|LEFT CURLY BRACKET|RIGHT CURLY BRACKET|LEFT TORTOISE SHELL BRACKET|RIGHT TORTOISE SHELL BRACKET|NUMBER SIGN|AMPERSAND|ASTERISK|PLUS SIGN|HYPHEN-MINUS|LESS-THAN SIGN|GREATER-THAN SIGN|EQUALS SIGN"⟩,
  ⟨0xFE68, "SMALL ", "REVERSE SOLIDUS|DOLLAR SIGN|PERCENT SIGN|COMMERCIAL AT"⟩,
  ⟨0xFE70, "ARABIC ", "FATHATAN ISOLATED FORM|TATWEEL WITH FATHATAN ABOVE|DAMMATAN ISOLATED FORM|TAIL FRAGMENT|KASRATAN ISOLATED FORM"⟩,
  ⟨0xFE76, "ARABIC ", "FATHA ISOLATED FORM|FATHA MEDIAL FORM|DAMMA ISOLATED FORM|DAMMA MEDIAL FORM|KASRA ISOLATED FORM|KASRA MEDIAL FORM|SHADDA ISOLATED FORM|SHADDA MEDIAL FORM|SUKUN ISOLATED FORM|SUKUN MEDIAL FORM"⟩,
  ⟨0xFE80, "ARABIC LETTER ", "HAMZA ISOLATED FORM|ALEF WITH MADDA ABOVE ISOLATED FORM|ALEF WITH MADDA ABOVE FINAL FORM|ALEF WITH HAMZA ABOVE ISOLATED FORM|ALEF WITH HAMZA ABOVE FINAL FORM|WAW WITH HAMZA ABOVE ISOLATED FORM|WAW WITH HAMZA ABOVE FINAL FORM|ALEF WITH HAMZA BELOW ISOLATED FORM|ALEF WITH HAMZA BELOW FINAL FORM|YEH WITH HAMZA ABOVE ISOLATED FORM|YEH WITH HAMZA ABOVE FINAL FORM|YEH WITH HAMZA ABOVE INITIAL FORM|YEH WITH HAMZA ABOVE MEDIAL FORM|ALEF ISOLATED FORM|ALEF FINAL FORM|BEH ISOLATED FORM|BEH FINAL FORM|BEH INITIAL FORM|BEH MEDIAL FORM|TEH MARBUTA ISOLATED FORM|TEH MARBUTA FINAL FORM|TEH ISOLATED FORM|TEH FINAL FORM|TEH INITIAL FORM|TEH MEDIAL FORM|THEH ISOLATED FORM|THEH FINAL FORM|THEH INITIAL FORM|THEH MEDIAL FORM|JEEM ISOLATED FORM|JEEM FINAL FORM|JEEM INITIAL FORM|JEEM MEDIAL FORM|HAH ISOLATED FORM|HAH FINAL FORM|HAH INITIAL FORM|HAH MEDIAL FORM|KHAH ISOLATED FORM|KHAH FINAL FORM|KHAH INITIAL FORM|KHAH MEDIAL FORM|DAL ISOLATED FORM|DAL FINAL FORM|THAL ISOLATED FORM|THAL FINAL FORM|REH ISOLATED FORM|REH FINAL FORM|ZAIN ISOLATED FORM|ZAIN FINAL FORM|SEEN ISOLATED FORM|SEEN FINAL FORM|SEEN INITIAL FORM|SEEN MEDIAL FORM|SHEEN ISOLATED FORM|SHEEN FINAL FORM|SHEEN INITIAL FORM|SHEEN MEDIAL FORM|SAD ISOLATED FORM|SAD FINAL FORM|SAD INITIAL FORM|SAD MEDIAL FORM|DAD ISOLATED FORM|DAD FINAL FORM|DAD INITIAL FORM|DAD MEDIAL FORM|TAH ISOLATED FORM|TAH FINAL FORM|TAH INITIAL FORM|TAH MEDIAL FORM|ZAH ISOLATED FORM|ZAH FINAL FORM|ZAH INITIAL FORM|ZAH MEDIAL FORM|AIN ISOLATED FORM|AIN FINAL FORM"⟩,
  ⟨0xFECB, "ARABIC LETTER ", "AIN INITIAL FORM|AIN MEDIAL FORM|GHAIN ISOLATED FORM|GHAIN FINAL FORM|GHAIN INITIAL FORM|GHAIN MEDIAL FORM|FEH ISOLATED FORM|FEH FINAL FORM|FEH INITIAL FORM|FEH MEDIAL FORM|QAF ISOLATED FORM|QAF FINAL FORM|QAF INITIAL FORM|QAF MEDIAL FORM|KAF ISOLATED FORM|KAF FINAL FORM|KAF INITIAL FORM|KAF MEDIAL FORM|LAM ISOLATED FORM|LAM FINAL FORM|LAM INITIAL FORM|LAM MEDIAL FORM|MEEM ISOLATED FORM|MEEM FINAL FORM|MEEM INITIAL FORM|MEEM MEDIAL FORM|NOON ISOLATED FORM|NOON FINAL FORM|NOON INITIAL FORM|NOON MEDIAL FORM|HEH ISOLATED FORM|HEH FINAL FORM|HEH INITIAL FORM|HEH MEDIAL FORM|WAW ISOLATED FORM|WAW FINAL FORM|ALEF MAKSURA ISOLATED FORM|ALEF MAKSURA FINAL FORM|YEH ISOLATED FORM|YEH FINAL FORM|YEH INITIAL FORM|YEH MEDIAL FORM"⟩,
  ⟨0xFEF5, "ARABIC LIGATURE LAM WITH ALEF ", "WITH MADDA ABOVE ISOLATED FORM|WITH MADDA ABOVE FINAL FORM|WITH HAMZA ABOVE ISOLATED FORM|WITH HAMZA ABOVE FINAL FORM|WITH HAMZA BELOW ISOLATED FORM|WITH HAMZA BELOW FINAL FORM|ISOLATED FORM|FINAL FORM"⟩,
  ⟨0xFEFF, "ZERO WIDTH NO-BREAK SPACE", ""⟩,
  ⟨0xFF01, "FULLWIDTH ", "EXCLAMATION MARK|QUOTATION MARK|NUMBER SIGN|DOLLAR SIGN|PERCENT SIGN|AMPERSAND|APOSTROPHE|LEFT PARENTHESIS|RIGHT PARENTHESIS|ASTERISK|PLUS SIGN|COMMA|HYPHEN-MINUS|FULL STOP|SOLIDUS|DIGIT ZERO|DIGIT ONE|DIGIT TWO|DIGIT THREE|DIGIT FOUR|DIGIT FIVE|DIGIT SIX|DIGIT SEVEN|DIGIT EIGHT|DIGIT NINE|COLON|SEMICOLON|LESS-THAN SIGN|EQUALS SIGN|GREATER-THAN SIGN|QUESTION MARK|COMMERCIAL AT"⟩,
  ⟨0xFF21, "FULLWIDTH LATIN CAPITAL LETTER ", "A|B|C|D|E|F|G|H|I|J|K|L|M|N|O|P|Q|R|S|T|U|V|W|X|Y|Z"⟩,
  ⟨0xFF3B, "FULLWIDTH ", "LEFT SQUARE BRACKET|REVERSE SOLIDUS|RIGHT SQUARE BRACKET|CIRCUMFLEX ACCENT|LOW LINE|GRAVE ACCENT"⟩,
  ⟨0xFF41, "FULLWIDTH LATIN SMALL LETTER ", "A|B|C|D|E|F|G|H|I|J|K|L|M|N|O|P|Q|R|S|T|U|V|W|X|Y|Z"⟩,
  ⟨0xFF5B, "FULLWIDTH ", "LEFT CURLY BRACKET|VERTICAL LINE|RIGHT CURLY BRACKET|TILDE|LEFT WHITE PARENTHESIS|RIGHT WHITE PARENTHESIS"⟩,
  ⟨0xFF61, "HALFWIDTH ", "IDEOGRAPHIC FULL STOP|LEFT CORNER BRACKET|RIGHT CORNER BRACKET|IDEOGRAPHIC COMMA|KATAKANA MIDDLE DOT|KATAKANA LETTER WO"⟩,
  ⟨0xFF67, "HALFWIDTH KATAKANA LETTER SMALL ", "A|I|U|E|O|YA|YU|YO|TU"⟩,
  ⟨0xFF70, "HALFWIDTH KATAKANA-HIRAGANA PROLONGED SOUND MARK", ""⟩,
  ⟨0xFF71, "HALFWIDTH KATAKANA LETTER ", "A|I|U|E|O|KA|KI|KU|KE|KO|SA|SI|SU|SE|SO|TA|TI|TU|TE|TO|NA|NI|NU|NE|NO|HA|HI|HU|HE|HO|MA|MI|MU|ME|MO|YA|YU|YO|RA|RI|RU|RE|RO|WA|N"⟩,
  ⟨0xFF9E, "HALFWIDTH ", "KATAKANA VOICED SOUND MARK|KATAKANA SEMI-VOICED SOUND MARK|HANGUL FILLER"⟩,
  ⟨0xFFA1, "HALFWIDTH HANGUL LETTER ", "KIYEOK|SSANGKIYEOK|KIYEOK-SIOS|NIEUN|NIEUN-CIEUC|NIEUN-HIEUH|TIKEUT|SSANGTIKEUT|RIEUL|RIEUL-KIYEOK|RIEUL-MIEUM|RIEUL-PIEUP|RIEUL-SIOS|RIEUL-THIEUTH|RIEUL-PHIEUPH|RIEUL-HIEUH|MIEUM|PIEUP|SSANGPIEUP|PIEUP-SIOS|SIOS|SSANGSIOS|IEUNG|CIEUC|SSANGCIEUC|CHIEUCH|KHIEUKH|THIEUTH|PHIEUPH|HIEUH"⟩,
  ⟨0xFFC2, "HALFWIDTH HANGUL LETTER ", "A|AE|YA|YAE|EO|E"⟩,
  ⟨0xFFCA, "HALFWIDTH HANGUL LETTER ", "YEO|YE|O|WA|WAE|OE"⟩,
  ⟨0xFFD2, "HALFWIDTH HANGUL LETTER ", "YO|U|WEO|WE|WI|YU"⟩,
  ⟨0xFFDA, "HALFWIDTH HANGUL LETTER ", "EU|YI|I"⟩,
  ⟨0xFFE0, "FULLWIDTH ", "CENT SIGN|POUND SIGN|NOT SIGN|MACRON|BROKEN BAR|YEN SIGN|WON SIGN"⟩,
  ⟨0xFFE8, "HALFWIDTH ", "FORMS LIGHT VERTICAL|LEFTWARDS ARROW|UPWARDS ARROW|RIGHTWARDS ARROW|DOWNWARDS ARROW|BLACK SQUARE|WHITE CIRCLE"⟩,
  ⟨0xFFF9, "INTERLINEAR ANNOTATION ", "ANCHOR|SEPARATOR|TERMINATOR"⟩,
  ⟨0xFFFC, "", "OBJECT REPLACEMENT CHARACTER|REPLACEMENT CHARACTER"⟩]

end Worksheet.Text.CharacterName
