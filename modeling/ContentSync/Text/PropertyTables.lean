/-!
# Unicode property tables

The names and code points of the Unicode properties that a `\p{…}` class of a pattern may
name, from version 16.0 of the Unicode Character Database.

Names are given in loose form (`looseName` in `ContentSync.Regex.Property`): lower case,
without spaces, `_` and `-`, and without a leading `is`. Each table of names maps every alias
of a property or value in loose form to its canonical name; each table of ranges maps a
canonical name to its code points, as compact text read by `CodeRanges.decode`.

The general categories include the groups (`Letter` is `Lu`, `Ll`, `Lt`, `Lm` and `Lo`), and
the table of versions lists the code points each version assigned, oldest first, so that an
age is the union of the versions up to it.
-/

namespace ContentSync.Text

/-- Property names in loose form, with the property they name. -/
def propertyNames : List (String × String) := [
  ("age", "Age"),
  ("ahex", "ASCII_Hex_Digit"),
  ("alpha", "Alphabetic"),
  ("alphabetic", "Alphabetic"),
  ("asciihexdigit", "ASCII_Hex_Digit"),
  ("bc", "Bidi_Class"),
  ("bidic", "Bidi_Control"),
  ("bidiclass", "Bidi_Class"),
  ("bidicontrol", "Bidi_Control"),
  ("bidim", "Bidi_Mirrored"),
  ("bidimirrored", "Bidi_Mirrored"),
  ("bidimirroringglyph", "Bidi_Mirroring_Glyph"),
  ("bidipairedbracket", "Bidi_Paired_Bracket"),
  ("bidipairedbrackettype", "Bidi_Paired_Bracket_Type"),
  ("blk", "Block"),
  ("block", "Block"),
  ("bmg", "Bidi_Mirroring_Glyph"),
  ("bpb", "Bidi_Paired_Bracket"),
  ("bpt", "Bidi_Paired_Bracket_Type"),
  ("canonicalcombiningclass", "Canonical_Combining_Class"),
  ("cased", "Cased"),
  ("casefolding", "Case_Folding"),
  ("caseignorable", "Case_Ignorable"),
  ("ccc", "Canonical_Combining_Class"),
  ("ce", "Composition_Exclusion"),
  ("cf", "Case_Folding"),
  ("changeswhencasefolded", "Changes_When_Casefolded"),
  ("changeswhencasemapped", "Changes_When_Casemapped"),
  ("changeswhenlowercased", "Changes_When_Lowercased"),
  ("changeswhennfkccasefolded", "Changes_When_NFKC_Casefolded"),
  ("changeswhentitlecased", "Changes_When_Titlecased"),
  ("changeswhenuppercased", "Changes_When_Uppercased"),
  ("ci", "Case_Ignorable"),
  ("cjkaccountingnumeric", "kAccountingNumeric"),
  ("cjkcompatibilityvariant", "kCompatibilityVariant"),
  ("cjkiicore", "kIICore"),
  ("cjkirggsource", "kIRG_GSource"),
  ("cjkirghsource", "kIRG_HSource"),
  ("cjkirgjsource", "kIRG_JSource"),
  ("cjkirgkpsource", "kIRG_KPSource"),
  ("cjkirgksource", "kIRG_KSource"),
  ("cjkirgmsource", "kIRG_MSource"),
  ("cjkirgssource", "kIRG_SSource"),
  ("cjkirgtsource", "kIRG_TSource"),
  ("cjkirguksource", "kIRG_UKSource"),
  ("cjkirgusource", "kIRG_USource"),
  ("cjkirgvsource", "kIRG_VSource"),
  ("cjkothernumeric", "kOtherNumeric"),
  ("cjkprimarynumeric", "kPrimaryNumeric"),
  ("cjkrsunicode", "kRSUnicode"),
  ("cjkunihancore2020", "kUnihanCore2020"),
  ("compex", "Full_Composition_Exclusion"),
  ("compositionexclusion", "Composition_Exclusion"),
  ("cwcf", "Changes_When_Casefolded"),
  ("cwcm", "Changes_When_Casemapped"),
  ("cwkcf", "Changes_When_NFKC_Casefolded"),
  ("cwl", "Changes_When_Lowercased"),
  ("cwt", "Changes_When_Titlecased"),
  ("cwu", "Changes_When_Uppercased"),
  ("dash", "Dash"),
  ("decompositionmapping", "Decomposition_Mapping"),
  ("decompositiontype", "Decomposition_Type"),
  ("defaultignorablecodepoint", "Default_Ignorable_Code_Point"),
  ("dep", "Deprecated"),
  ("deprecated", "Deprecated"),
  ("di", "Default_Ignorable_Code_Point"),
  ("dia", "Diacritic"),
  ("diacritic", "Diacritic"),
  ("dm", "Decomposition_Mapping"),
  ("dt", "Decomposition_Type"),
  ("ea", "East_Asian_Width"),
  ("eastasianwidth", "East_Asian_Width"),
  ("ebase", "Emoji_Modifier_Base"),
  ("ecomp", "Emoji_Component"),
  ("emod", "Emoji_Modifier"),
  ("emoji", "Emoji"),
  ("emojicomponent", "Emoji_Component"),
  ("emojimodifier", "Emoji_Modifier"),
  ("emojimodifierbase", "Emoji_Modifier_Base"),
  ("emojipresentation", "Emoji_Presentation"),
  ("epres", "Emoji_Presentation"),
  ("equideo", "Equivalent_Unified_Ideograph"),
  ("equivalentunifiedideograph", "Equivalent_Unified_Ideograph"),
  ("expandsonnfc", "Expands_On_NFC"),
  ("expandsonnfd", "Expands_On_NFD"),
  ("expandsonnfkc", "Expands_On_NFKC"),
  ("expandsonnfkd", "Expands_On_NFKD"),
  ("ext", "Extender"),
  ("extendedpictographic", "Extended_Pictographic"),
  ("extender", "Extender"),
  ("extpict", "Extended_Pictographic"),
  ("fcnfkc", "FC_NFKC_Closure"),
  ("fcnfkcclosure", "FC_NFKC_Closure"),
  ("fullcompositionexclusion", "Full_Composition_Exclusion"),
  ("gc", "General_Category"),
  ("gcb", "Grapheme_Cluster_Break"),
  ("generalcategory", "General_Category"),
  ("graphemebase", "Grapheme_Base"),
  ("graphemeclusterbreak", "Grapheme_Cluster_Break"),
  ("graphemeextend", "Grapheme_Extend"),
  ("graphemelink", "Grapheme_Link"),
  ("grbase", "Grapheme_Base"),
  ("grext", "Grapheme_Extend"),
  ("grlink", "Grapheme_Link"),
  ("hangulsyllabletype", "Hangul_Syllable_Type"),
  ("hex", "Hex_Digit"),
  ("hexdigit", "Hex_Digit"),
  ("hst", "Hangul_Syllable_Type"),
  ("hyphen", "Hyphen"),
  ("idc", "ID_Continue"),
  ("idcontinue", "ID_Continue"),
  ("ideo", "Ideographic"),
  ("ideographic", "Ideographic"),
  ("ids", "ID_Start"),
  ("idsb", "IDS_Binary_Operator"),
  ("idsbinaryoperator", "IDS_Binary_Operator"),
  ("idst", "IDS_Trinary_Operator"),
  ("idstart", "ID_Start"),
  ("idstrinaryoperator", "IDS_Trinary_Operator"),
  ("indicpositionalcategory", "Indic_Positional_Category"),
  ("indicsyllabiccategory", "Indic_Syllabic_Category"),
  ("inpc", "Indic_Positional_Category"),
  ("insc", "Indic_Syllabic_Category"),
  ("isc", "ISO_Comment"),
  ("jamoshortname", "Jamo_Short_Name"),
  ("jg", "Joining_Group"),
  ("joinc", "Join_Control"),
  ("joincontrol", "Join_Control"),
  ("joininggroup", "Joining_Group"),
  ("joiningtype", "Joining_Type"),
  ("jsn", "Jamo_Short_Name"),
  ("jt", "Joining_Type"),
  ("kaccountingnumeric", "kAccountingNumeric"),
  ("kcompatibilityvariant", "kCompatibilityVariant"),
  ("kiicore", "kIICore"),
  ("kirggsource", "kIRG_GSource"),
  ("kirghsource", "kIRG_HSource"),
  ("kirgjsource", "kIRG_JSource"),
  ("kirgkpsource", "kIRG_KPSource"),
  ("kirgksource", "kIRG_KSource"),
  ("kirgmsource", "kIRG_MSource"),
  ("kirgssource", "kIRG_SSource"),
  ("kirgtsource", "kIRG_TSource"),
  ("kirguksource", "kIRG_UKSource"),
  ("kirgusource", "kIRG_USource"),
  ("kirgvsource", "kIRG_VSource"),
  ("kothernumeric", "kOtherNumeric"),
  ("kprimarynumeric", "kPrimaryNumeric"),
  ("krsunicode", "kRSUnicode"),
  ("kunihancore2020", "kUnihanCore2020"),
  ("lb", "Line_Break"),
  ("lc", "Lowercase_Mapping"),
  ("linebreak", "Line_Break"),
  ("loe", "Logical_Order_Exception"),
  ("logicalorderexception", "Logical_Order_Exception"),
  ("lower", "Lowercase"),
  ("lowercase", "Lowercase"),
  ("lowercasemapping", "Lowercase_Mapping"),
  ("math", "Math"),
  ("na", "Name"),
  ("na1", "Unicode_1_Name"),
  ("name", "Name"),
  ("namealias", "Name_Alias"),
  ("nchar", "Noncharacter_Code_Point"),
  ("nfcqc", "NFC_Quick_Check"),
  ("nfcquickcheck", "NFC_Quick_Check"),
  ("nfdqc", "NFD_Quick_Check"),
  ("nfdquickcheck", "NFD_Quick_Check"),
  ("nfkccasefold", "NFKC_Casefold"),
  ("nfkccf", "NFKC_Casefold"),
  ("nfkcqc", "NFKC_Quick_Check"),
  ("nfkcquickcheck", "NFKC_Quick_Check"),
  ("nfkdqc", "NFKD_Quick_Check"),
  ("nfkdquickcheck", "NFKD_Quick_Check"),
  ("noncharactercodepoint", "Noncharacter_Code_Point"),
  ("nt", "Numeric_Type"),
  ("numerictype", "Numeric_Type"),
  ("numericvalue", "Numeric_Value"),
  ("nv", "Numeric_Value"),
  ("oalpha", "Other_Alphabetic"),
  ("ocomment", "ISO_Comment"),
  ("odi", "Other_Default_Ignorable_Code_Point"),
  ("ogrext", "Other_Grapheme_Extend"),
  ("oidc", "Other_ID_Continue"),
  ("oids", "Other_ID_Start"),
  ("olower", "Other_Lowercase"),
  ("omath", "Other_Math"),
  ("otheralphabetic", "Other_Alphabetic"),
  ("otherdefaultignorablecodepoint", "Other_Default_Ignorable_Code_Point"),
  ("othergraphemeextend", "Other_Grapheme_Extend"),
  ("otheridcontinue", "Other_ID_Continue"),
  ("otheridstart", "Other_ID_Start"),
  ("otherlowercase", "Other_Lowercase"),
  ("othermath", "Other_Math"),
  ("otheruppercase", "Other_Uppercase"),
  ("oupper", "Other_Uppercase"),
  ("patsyn", "Pattern_Syntax"),
  ("patternsyntax", "Pattern_Syntax"),
  ("patternwhitespace", "Pattern_White_Space"),
  ("patws", "Pattern_White_Space"),
  ("pcm", "Prepended_Concatenation_Mark"),
  ("prependedconcatenationmark", "Prepended_Concatenation_Mark"),
  ("qmark", "Quotation_Mark"),
  ("quotationmark", "Quotation_Mark"),
  ("radical", "Radical"),
  ("regionalindicator", "Regional_Indicator"),
  ("ri", "Regional_Indicator"),
  ("sb", "Sentence_Break"),
  ("sc", "Script"),
  ("scf", "Simple_Case_Folding"),
  ("script", "Script"),
  ("scriptextensions", "Script_Extensions"),
  ("scx", "Script_Extensions"),
  ("sd", "Soft_Dotted"),
  ("sentencebreak", "Sentence_Break"),
  ("sentenceterminal", "Sentence_Terminal"),
  ("sfc", "Simple_Case_Folding"),
  ("simplecasefolding", "Simple_Case_Folding"),
  ("simplelowercasemapping", "Simple_Lowercase_Mapping"),
  ("simpletitlecasemapping", "Simple_Titlecase_Mapping"),
  ("simpleuppercasemapping", "Simple_Uppercase_Mapping"),
  ("slc", "Simple_Lowercase_Mapping"),
  ("softdotted", "Soft_Dotted"),
  ("space", "White_Space"),
  ("stc", "Simple_Titlecase_Mapping"),
  ("sterm", "Sentence_Terminal"),
  ("suc", "Simple_Uppercase_Mapping"),
  ("tc", "Titlecase_Mapping"),
  ("term", "Terminal_Punctuation"),
  ("terminalpunctuation", "Terminal_Punctuation"),
  ("titlecasemapping", "Titlecase_Mapping"),
  ("uc", "Uppercase_Mapping"),
  ("uideo", "Unified_Ideograph"),
  ("unicode1name", "Unicode_1_Name"),
  ("unicoderadicalstroke", "kRSUnicode"),
  ("unifiedideograph", "Unified_Ideograph"),
  ("upper", "Uppercase"),
  ("uppercase", "Uppercase"),
  ("uppercasemapping", "Uppercase_Mapping"),
  ("urs", "kRSUnicode"),
  ("variationselector", "Variation_Selector"),
  ("verticalorientation", "Vertical_Orientation"),
  ("vo", "Vertical_Orientation"),
  ("vs", "Variation_Selector"),
  ("wb", "Word_Break"),
  ("whitespace", "White_Space"),
  ("wordbreak", "Word_Break"),
  ("wspace", "White_Space"),
  ("xidc", "XID_Continue"),
  ("xidcontinue", "XID_Continue"),
  ("xids", "XID_Start"),
  ("xidstart", "XID_Start"),
  ("xonfc", "Expands_On_NFC"),
  ("xonfd", "Expands_On_NFD"),
  ("xonfkc", "Expands_On_NFKC"),
  ("xonfkd", "Expands_On_NFKD")]

/-- General category names in loose form, with the category they name. -/
def generalCategoryNames : List (String × String) := [
  ("c", "Other"),
  ("casedletter", "Cased_Letter"),
  ("cc", "Control"),
  ("cf", "Format"),
  ("closepunctuation", "Close_Punctuation"),
  ("cn", "Unassigned"),
  ("cntrl", "Control"),
  ("co", "Private_Use"),
  ("combiningmark", "Mark"),
  ("connectorpunctuation", "Connector_Punctuation"),
  ("control", "Control"),
  ("cs", "Surrogate"),
  ("currencysymbol", "Currency_Symbol"),
  ("dashpunctuation", "Dash_Punctuation"),
  ("decimalnumber", "Decimal_Number"),
  ("digit", "Decimal_Number"),
  ("enclosingmark", "Enclosing_Mark"),
  ("finalpunctuation", "Final_Punctuation"),
  ("format", "Format"),
  ("initialpunctuation", "Initial_Punctuation"),
  ("l", "Letter"),
  ("lc", "Cased_Letter"),
  ("letter", "Letter"),
  ("letternumber", "Letter_Number"),
  ("lineseparator", "Line_Separator"),
  ("ll", "Lowercase_Letter"),
  ("lm", "Modifier_Letter"),
  ("lo", "Other_Letter"),
  ("lowercaseletter", "Lowercase_Letter"),
  ("lt", "Titlecase_Letter"),
  ("lu", "Uppercase_Letter"),
  ("m", "Mark"),
  ("mark", "Mark"),
  ("mathsymbol", "Math_Symbol"),
  ("mc", "Spacing_Mark"),
  ("me", "Enclosing_Mark"),
  ("mn", "Nonspacing_Mark"),
  ("modifierletter", "Modifier_Letter"),
  ("modifiersymbol", "Modifier_Symbol"),
  ("n", "Number"),
  ("nd", "Decimal_Number"),
  ("nl", "Letter_Number"),
  ("no", "Other_Number"),
  ("nonspacingmark", "Nonspacing_Mark"),
  ("number", "Number"),
  ("openpunctuation", "Open_Punctuation"),
  ("other", "Other"),
  ("otherletter", "Other_Letter"),
  ("othernumber", "Other_Number"),
  ("otherpunctuation", "Other_Punctuation"),
  ("othersymbol", "Other_Symbol"),
  ("p", "Punctuation"),
  ("paragraphseparator", "Paragraph_Separator"),
  ("pc", "Connector_Punctuation"),
  ("pd", "Dash_Punctuation"),
  ("pe", "Close_Punctuation"),
  ("pf", "Final_Punctuation"),
  ("pi", "Initial_Punctuation"),
  ("po", "Other_Punctuation"),
  ("privateuse", "Private_Use"),
  ("ps", "Open_Punctuation"),
  ("punct", "Punctuation"),
  ("punctuation", "Punctuation"),
  ("s", "Symbol"),
  ("sc", "Currency_Symbol"),
  ("separator", "Separator"),
  ("sk", "Modifier_Symbol"),
  ("sm", "Math_Symbol"),
  ("so", "Other_Symbol"),
  ("spaceseparator", "Space_Separator"),
  ("spacingmark", "Spacing_Mark"),
  ("surrogate", "Surrogate"),
  ("symbol", "Symbol"),
  ("titlecaseletter", "Titlecase_Letter"),
  ("unassigned", "Unassigned"),
  ("uppercaseletter", "Uppercase_Letter"),
  ("z", "Separator"),
  ("zl", "Line_Separator"),
  ("zp", "Paragraph_Separator"),
  ("zs", "Space_Separator")]

/-- Script names in loose form, with the script they name. -/
def scriptNames : List (String × String) := [
  ("adlam", "Adlam"),
  ("adlm", "Adlam"),
  ("aghb", "Caucasian_Albanian"),
  ("ahom", "Ahom"),
  ("anatolianhieroglyphs", "Anatolian_Hieroglyphs"),
  ("arab", "Arabic"),
  ("arabic", "Arabic"),
  ("armenian", "Armenian"),
  ("armi", "Imperial_Aramaic"),
  ("armn", "Armenian"),
  ("avestan", "Avestan"),
  ("avst", "Avestan"),
  ("bali", "Balinese"),
  ("balinese", "Balinese"),
  ("bamu", "Bamum"),
  ("bamum", "Bamum"),
  ("bass", "Bassa_Vah"),
  ("bassavah", "Bassa_Vah"),
  ("batak", "Batak"),
  ("batk", "Batak"),
  ("beng", "Bengali"),
  ("bengali", "Bengali"),
  ("bhaiksuki", "Bhaiksuki"),
  ("bhks", "Bhaiksuki"),
  ("bopo", "Bopomofo"),
  ("bopomofo", "Bopomofo"),
  ("brah", "Brahmi"),
  ("brahmi", "Brahmi"),
  ("brai", "Braille"),
  ("braille", "Braille"),
  ("bugi", "Buginese"),
  ("buginese", "Buginese"),
  ("buhd", "Buhid"),
  ("buhid", "Buhid"),
  ("cakm", "Chakma"),
  ("canadianaboriginal", "Canadian_Aboriginal"),
  ("cans", "Canadian_Aboriginal"),
  ("cari", "Carian"),
  ("carian", "Carian"),
  ("caucasianalbanian", "Caucasian_Albanian"),
  ("chakma", "Chakma"),
  ("cham", "Cham"),
  ("cher", "Cherokee"),
  ("cherokee", "Cherokee"),
  ("chorasmian", "Chorasmian"),
  ("chrs", "Chorasmian"),
  ("common", "Common"),
  ("copt", "Coptic"),
  ("coptic", "Coptic"),
  ("cpmn", "Cypro_Minoan"),
  ("cprt", "Cypriot"),
  ("cuneiform", "Cuneiform"),
  ("cypriot", "Cypriot"),
  ("cyprominoan", "Cypro_Minoan"),
  ("cyrillic", "Cyrillic"),
  ("cyrl", "Cyrillic"),
  ("deseret", "Deseret"),
  ("deva", "Devanagari"),
  ("devanagari", "Devanagari"),
  ("diak", "Dives_Akuru"),
  ("divesakuru", "Dives_Akuru"),
  ("dogr", "Dogra"),
  ("dogra", "Dogra"),
  ("dsrt", "Deseret"),
  ("dupl", "Duployan"),
  ("duployan", "Duployan"),
  ("egyp", "Egyptian_Hieroglyphs"),
  ("egyptianhieroglyphs", "Egyptian_Hieroglyphs"),
  ("elba", "Elbasan"),
  ("elbasan", "Elbasan"),
  ("elym", "Elymaic"),
  ("elymaic", "Elymaic"),
  ("ethi", "Ethiopic"),
  ("ethiopic", "Ethiopic"),
  ("gara", "Garay"),
  ("garay", "Garay"),
  ("geor", "Georgian"),
  ("georgian", "Georgian"),
  ("glag", "Glagolitic"),
  ("glagolitic", "Glagolitic"),
  ("gong", "Gunjala_Gondi"),
  ("gonm", "Masaram_Gondi"),
  ("goth", "Gothic"),
  ("gothic", "Gothic"),
  ("gran", "Grantha"),
  ("grantha", "Grantha"),
  ("greek", "Greek"),
  ("grek", "Greek"),
  ("gujarati", "Gujarati"),
  ("gujr", "Gujarati"),
  ("gukh", "Gurung_Khema"),
  ("gunjalagondi", "Gunjala_Gondi"),
  ("gurmukhi", "Gurmukhi"),
  ("guru", "Gurmukhi"),
  ("gurungkhema", "Gurung_Khema"),
  ("han", "Han"),
  ("hang", "Hangul"),
  ("hangul", "Hangul"),
  ("hani", "Han"),
  ("hanifirohingya", "Hanifi_Rohingya"),
  ("hano", "Hanunoo"),
  ("hanunoo", "Hanunoo"),
  ("hatr", "Hatran"),
  ("hatran", "Hatran"),
  ("hebr", "Hebrew"),
  ("hebrew", "Hebrew"),
  ("hira", "Hiragana"),
  ("hiragana", "Hiragana"),
  ("hluw", "Anatolian_Hieroglyphs"),
  ("hmng", "Pahawh_Hmong"),
  ("hmnp", "Nyiakeng_Puachue_Hmong"),
  ("hrkt", "Katakana_Or_Hiragana"),
  ("hung", "Old_Hungarian"),
  ("imperialaramaic", "Imperial_Aramaic"),
  ("inherited", "Inherited"),
  ("inscriptionalpahlavi", "Inscriptional_Pahlavi"),
  ("inscriptionalparthian", "Inscriptional_Parthian"),
  ("ital", "Old_Italic"),
  ("java", "Javanese"),
  ("javanese", "Javanese"),
  ("kaithi", "Kaithi"),
  ("kali", "Kayah_Li"),
  ("kana", "Katakana"),
  ("kannada", "Kannada"),
  ("katakana", "Katakana"),
  ("katakanaorhiragana", "Katakana_Or_Hiragana"),
  ("kawi", "Kawi"),
  ("kayahli", "Kayah_Li"),
  ("khar", "Kharoshthi"),
  ("kharoshthi", "Kharoshthi"),
  ("khitansmallscript", "Khitan_Small_Script"),
  ("khmer", "Khmer"),
  ("khmr", "Khmer"),
  ("khoj", "Khojki"),
  ("khojki", "Khojki"),
  ("khudawadi", "Khudawadi"),
  ("kiratrai", "Kirat_Rai"),
  ("kits", "Khitan_Small_Script"),
  ("knda", "Kannada"),
  ("krai", "Kirat_Rai"),
  ("kthi", "Kaithi"),
  ("lana", "Tai_Tham"),
  ("lao", "Lao"),
  ("laoo", "Lao"),
  ("latin", "Latin"),
  ("latn", "Latin"),
  ("lepc", "Lepcha"),
  ("lepcha", "Lepcha"),
  ("limb", "Limbu"),
  ("limbu", "Limbu"),
  ("lina", "Linear_A"),
  ("linb", "Linear_B"),
  ("lineara", "Linear_A"),
  ("linearb", "Linear_B"),
  ("lisu", "Lisu"),
  ("lyci", "Lycian"),
  ("lycian", "Lycian"),
  ("lydi", "Lydian"),
  ("lydian", "Lydian"),
  ("mahajani", "Mahajani"),
  ("mahj", "Mahajani"),
  ("maka", "Makasar"),
  ("makasar", "Makasar"),
  ("malayalam", "Malayalam"),
  ("mand", "Mandaic"),
  ("mandaic", "Mandaic"),
  ("mani", "Manichaean"),
  ("manichaean", "Manichaean"),
  ("marc", "Marchen"),
  ("marchen", "Marchen"),
  ("masaramgondi", "Masaram_Gondi"),
  ("medefaidrin", "Medefaidrin"),
  ("medf", "Medefaidrin"),
  ("meeteimayek", "Meetei_Mayek"),
  ("mend", "Mende_Kikakui"),
  ("mendekikakui", "Mende_Kikakui"),
  ("merc", "Meroitic_Cursive"),
  ("mero", "Meroitic_Hieroglyphs"),
  ("meroiticcursive", "Meroitic_Cursive"),
  ("meroitichieroglyphs", "Meroitic_Hieroglyphs"),
  ("miao", "Miao"),
  ("mlym", "Malayalam"),
  ("modi", "Modi"),
  ("mong", "Mongolian"),
  ("mongolian", "Mongolian"),
  ("mro", "Mro"),
  ("mroo", "Mro"),
  ("mtei", "Meetei_Mayek"),
  ("mult", "Multani"),
  ("multani", "Multani"),
  ("myanmar", "Myanmar"),
  ("mymr", "Myanmar"),
  ("nabataean", "Nabataean"),
  ("nagm", "Nag_Mundari"),
  ("nagmundari", "Nag_Mundari"),
  ("nand", "Nandinagari"),
  ("nandinagari", "Nandinagari"),
  ("narb", "Old_North_Arabian"),
  ("nbat", "Nabataean"),
  ("newa", "Newa"),
  ("newtailue", "New_Tai_Lue"),
  ("nko", "Nko"),
  ("nkoo", "Nko"),
  ("nshu", "Nushu"),
  ("nushu", "Nushu"),
  ("nyiakengpuachuehmong", "Nyiakeng_Puachue_Hmong"),
  ("ogam", "Ogham"),
  ("ogham", "Ogham"),
  ("olchiki", "Ol_Chiki"),
  ("olck", "Ol_Chiki"),
  ("oldhungarian", "Old_Hungarian"),
  ("olditalic", "Old_Italic"),
  ("oldnortharabian", "Old_North_Arabian"),
  ("oldpermic", "Old_Permic"),
  ("oldpersian", "Old_Persian"),
  ("oldsogdian", "Old_Sogdian"),
  ("oldsoutharabian", "Old_South_Arabian"),
  ("oldturkic", "Old_Turkic"),
  ("olduyghur", "Old_Uyghur"),
  ("olonal", "Ol_Onal"),
  ("onao", "Ol_Onal"),
  ("oriya", "Oriya"),
  ("orkh", "Old_Turkic"),
  ("orya", "Oriya"),
  ("osage", "Osage"),
  ("osge", "Osage"),
  ("osma", "Osmanya"),
  ("osmanya", "Osmanya"),
  ("ougr", "Old_Uyghur"),
  ("pahawhhmong", "Pahawh_Hmong"),
  ("palm", "Palmyrene"),
  ("palmyrene", "Palmyrene"),
  ("pauc", "Pau_Cin_Hau"),
  ("paucinhau", "Pau_Cin_Hau"),
  ("perm", "Old_Permic"),
  ("phag", "Phags_Pa"),
  ("phagspa", "Phags_Pa"),
  ("phli", "Inscriptional_Pahlavi"),
  ("phlp", "Psalter_Pahlavi"),
  ("phnx", "Phoenician"),
  ("phoenician", "Phoenician"),
  ("plrd", "Miao"),
  ("prti", "Inscriptional_Parthian"),
  ("psalterpahlavi", "Psalter_Pahlavi"),
  ("qaac", "Coptic"),
  ("qaai", "Inherited"),
  ("rejang", "Rejang"),
  ("rjng", "Rejang"),
  ("rohg", "Hanifi_Rohingya"),
  ("runic", "Runic"),
  ("runr", "Runic"),
  ("samaritan", "Samaritan"),
  ("samr", "Samaritan"),
  ("sarb", "Old_South_Arabian"),
  ("saur", "Saurashtra"),
  ("saurashtra", "Saurashtra"),
  ("sgnw", "SignWriting"),
  ("sharada", "Sharada"),
  ("shavian", "Shavian"),
  ("shaw", "Shavian"),
  ("shrd", "Sharada"),
  ("sidd", "Siddham"),
  ("siddham", "Siddham"),
  ("signwriting", "SignWriting"),
  ("sind", "Khudawadi"),
  ("sinh", "Sinhala"),
  ("sinhala", "Sinhala"),
  ("sogd", "Sogdian"),
  ("sogdian", "Sogdian"),
  ("sogo", "Old_Sogdian"),
  ("sora", "Sora_Sompeng"),
  ("sorasompeng", "Sora_Sompeng"),
  ("soyo", "Soyombo"),
  ("soyombo", "Soyombo"),
  ("sund", "Sundanese"),
  ("sundanese", "Sundanese"),
  ("sunu", "Sunuwar"),
  ("sunuwar", "Sunuwar"),
  ("sylo", "Syloti_Nagri"),
  ("sylotinagri", "Syloti_Nagri"),
  ("syrc", "Syriac"),
  ("syriac", "Syriac"),
  ("tagalog", "Tagalog"),
  ("tagb", "Tagbanwa"),
  ("tagbanwa", "Tagbanwa"),
  ("taile", "Tai_Le"),
  ("taitham", "Tai_Tham"),
  ("taiviet", "Tai_Viet"),
  ("takr", "Takri"),
  ("takri", "Takri"),
  ("tale", "Tai_Le"),
  ("talu", "New_Tai_Lue"),
  ("tamil", "Tamil"),
  ("taml", "Tamil"),
  ("tang", "Tangut"),
  ("tangsa", "Tangsa"),
  ("tangut", "Tangut"),
  ("tavt", "Tai_Viet"),
  ("telu", "Telugu"),
  ("telugu", "Telugu"),
  ("tfng", "Tifinagh"),
  ("tglg", "Tagalog"),
  ("thaa", "Thaana"),
  ("thaana", "Thaana"),
  ("thai", "Thai"),
  ("tibetan", "Tibetan"),
  ("tibt", "Tibetan"),
  ("tifinagh", "Tifinagh"),
  ("tirh", "Tirhuta"),
  ("tirhuta", "Tirhuta"),
  ("tnsa", "Tangsa"),
  ("todhri", "Todhri"),
  ("todr", "Todhri"),
  ("toto", "Toto"),
  ("tulutigalari", "Tulu_Tigalari"),
  ("tutg", "Tulu_Tigalari"),
  ("ugar", "Ugaritic"),
  ("ugaritic", "Ugaritic"),
  ("unknown", "Unknown"),
  ("vai", "Vai"),
  ("vaii", "Vai"),
  ("vith", "Vithkuqi"),
  ("vithkuqi", "Vithkuqi"),
  ("wancho", "Wancho"),
  ("wara", "Warang_Citi"),
  ("warangciti", "Warang_Citi"),
  ("wcho", "Wancho"),
  ("xpeo", "Old_Persian"),
  ("xsux", "Cuneiform"),
  ("yezi", "Yezidi"),
  ("yezidi", "Yezidi"),
  ("yi", "Yi"),
  ("yiii", "Yi"),
  ("zanabazarsquare", "Zanabazar_Square"),
  ("zanb", "Zanabazar_Square"),
  ("zinh", "Inherited"),
  ("zyyy", "Common"),
  ("zzzz", "Unknown")]

/-- Version names in loose form, with the version they name. -/
def ageNames : List (String × String) := [
  ("1.1", "V1_1"),
  ("10.0", "V10_0"),
  ("11.0", "V11_0"),
  ("12.0", "V12_0"),
  ("12.1", "V12_1"),
  ("13.0", "V13_0"),
  ("14.0", "V14_0"),
  ("15.0", "V15_0"),
  ("15.1", "V15_1"),
  ("16.0", "V16_0"),
  ("2.0", "V2_0"),
  ("2.1", "V2_1"),
  ("3.0", "V3_0"),
  ("3.1", "V3_1"),
  ("3.2", "V3_2"),
  ("4.0", "V4_0"),
  ("4.1", "V4_1"),
  ("5.0", "V5_0"),
  ("5.1", "V5_1"),
  ("5.2", "V5_2"),
  ("6.0", "V6_0"),
  ("6.1", "V6_1"),
  ("6.2", "V6_2"),
  ("6.3", "V6_3"),
  ("7.0", "V7_0"),
  ("8.0", "V8_0"),
  ("9.0", "V9_0"),
  ("v100", "V10_0"),
  ("v11", "V1_1"),
  ("v110", "V11_0"),
  ("v120", "V12_0"),
  ("v121", "V12_1"),
  ("v130", "V13_0"),
  ("v140", "V14_0"),
  ("v150", "V15_0"),
  ("v151", "V15_1"),
  ("v160", "V16_0"),
  ("v20", "V2_0"),
  ("v21", "V2_1"),
  ("v30", "V3_0"),
  ("v31", "V3_1"),
  ("v32", "V3_2"),
  ("v40", "V4_0"),
  ("v41", "V4_1"),
  ("v50", "V5_0"),
  ("v51", "V5_1"),
  ("v52", "V5_2"),
  ("v60", "V6_0"),
  ("v61", "V6_1"),
  ("v62", "V6_2"),
  ("v63", "V6_3"),
  ("v70", "V7_0"),
  ("v80", "V8_0"),
  ("v90", "V9_0")]

/-- Grapheme cluster break names in loose form. -/
def graphemeBreakNames : List (String × String) := [
  ("cn", "Control"),
  ("control", "Control"),
  ("cr", "CR"),
  ("eb", "E_Base"),
  ("ebase", "E_Base"),
  ("ebasegaz", "E_Base_GAZ"),
  ("ebg", "E_Base_GAZ"),
  ("em", "E_Modifier"),
  ("emodifier", "E_Modifier"),
  ("ex", "Extend"),
  ("extend", "Extend"),
  ("gaz", "Glue_After_Zwj"),
  ("glueafterzwj", "Glue_After_Zwj"),
  ("l", "L"),
  ("lf", "LF"),
  ("lv", "LV"),
  ("lvt", "LVT"),
  ("other", "Other"),
  ("pp", "Prepend"),
  ("prepend", "Prepend"),
  ("regionalindicator", "Regional_Indicator"),
  ("ri", "Regional_Indicator"),
  ("sm", "SpacingMark"),
  ("spacingmark", "SpacingMark"),
  ("t", "T"),
  ("v", "V"),
  ("xx", "Other"),
  ("zwj", "ZWJ")]

/-- Word break names in loose form. -/
def wordBreakNames : List (String × String) := [
  ("aletter", "ALetter"),
  ("cr", "CR"),
  ("doublequote", "Double_Quote"),
  ("dq", "Double_Quote"),
  ("eb", "E_Base"),
  ("ebase", "E_Base"),
  ("ebasegaz", "E_Base_GAZ"),
  ("ebg", "E_Base_GAZ"),
  ("em", "E_Modifier"),
  ("emodifier", "E_Modifier"),
  ("ex", "ExtendNumLet"),
  ("extend", "Extend"),
  ("extendnumlet", "ExtendNumLet"),
  ("fo", "Format"),
  ("format", "Format"),
  ("gaz", "Glue_After_Zwj"),
  ("glueafterzwj", "Glue_After_Zwj"),
  ("hebrewletter", "Hebrew_Letter"),
  ("hl", "Hebrew_Letter"),
  ("ka", "Katakana"),
  ("katakana", "Katakana"),
  ("le", "ALetter"),
  ("lf", "LF"),
  ("mb", "MidNumLet"),
  ("midletter", "MidLetter"),
  ("midnum", "MidNum"),
  ("midnumlet", "MidNumLet"),
  ("ml", "MidLetter"),
  ("mn", "MidNum"),
  ("newline", "Newline"),
  ("nl", "Newline"),
  ("nu", "Numeric"),
  ("numeric", "Numeric"),
  ("other", "Other"),
  ("regionalindicator", "Regional_Indicator"),
  ("ri", "Regional_Indicator"),
  ("singlequote", "Single_Quote"),
  ("sq", "Single_Quote"),
  ("wsegspace", "WSegSpace"),
  ("xx", "Other"),
  ("zwj", "ZWJ")]

/-- Sentence break names in loose form. -/
def sentenceBreakNames : List (String × String) := [
  ("at", "ATerm"),
  ("aterm", "ATerm"),
  ("cl", "Close"),
  ("close", "Close"),
  ("cr", "CR"),
  ("ex", "Extend"),
  ("extend", "Extend"),
  ("fo", "Format"),
  ("format", "Format"),
  ("le", "OLetter"),
  ("lf", "LF"),
  ("lo", "Lower"),
  ("lower", "Lower"),
  ("nu", "Numeric"),
  ("numeric", "Numeric"),
  ("oletter", "OLetter"),
  ("other", "Other"),
  ("sc", "SContinue"),
  ("scontinue", "SContinue"),
  ("se", "Sep"),
  ("sep", "Sep"),
  ("sp", "Sp"),
  ("st", "STerm"),
  ("sterm", "STerm"),
  ("up", "Upper"),
  ("upper", "Upper"),
  ("xx", "Other")]

/-- The code points of each general category. -/
def generalCategoryRanges : List (String × String) := [
  ("Cased_Letter", "x3p6pwr0am1u1B8134Bl1qB632132106012101j1xk1ze8Aa1w69w9xYiw610502wb22Qlxn25xD8a5wb22x2wcx1c1w2y8Dt252w625271010101u2wl1610321633254c5216Dd040291034601010131540235440wl1xThyu2y96331cw61050wwCpweirzaxf1m331wu211017o130Vfwb587xhQye6c4wxap6pwCbxhy3w44w4yna1e16111a1e1611wTqwjdwjy0lalxYlx1RS1x1Ww6xm1x8112021231b10161x21327161r131410361Ft2o1o1u1o1u1o1u1o1u1o17wXf91j65xO6x5"),
  ("Close_Punctuation", "wa0wk0w00yXm010wYq0xMo0wo0f0Pe010u0wz10101010101010xi0w1010101010I1010101010101010101010x2010w20wy70101010wd0101010Ip0101010103010101021wSOr0C00t01010101010101030h01010Af0wk0w002020"),
  ("Connector_Punctuation", "y20DK61j0wXy61o2Cm0"),
  ("Control", "0w0y2w1"),
  ("Currency_Symbol", "w50z13wEh0yu0L21L2170Cs0Df0Nn0xMa0xFcw1wAxl0RV70yf0zu0C2131DKt3wPZ90xN00"),
  ("Dash_Punctuation", "we0wI80wk0yTm0wx60xzb5yRk020w0140s0Jc0j0yi0wSSh1w60a0Ae0yUm0F80"),
  ("Decimal_Number", "wh9wOo9za9Bc9I99yp9yp9yp9yp9yp9yp9yp9yp9yp9y39yp9x89Du9x89wY29w79El9z49Ab969Ar9xo9za969wAQn9Qr9w79Bc9m9xo9I39Rz49wJj9xDc969Ul9z49wt9zk9Du9G19yp9H29y996jxe9Ij9y99Qb9xo9Ct9x89Ij9MLl9xIh9xo9za9M79UIa9xWdwixJc9Ij9L69Cu9Wg9zYf9"),
  ("Enclosing_Mark", "wBd1AXb0wOg312wzMp2"),
  ("Final_Punctuation", "B10DG0030s0yPp0104020f030"),
  ("Format", "Ai0wHt5m0B60wi0Hc1xi0zw80xyt4q4wi419wXDs0D12zJb0f0EI6fwAF63ALq7VTRu0uy2"),
  ("Initial_Punctuation", "Ag0DGf02120p0yPp0104020f030"),
  ("Letter", "x3p6pwg0a0405m1u1Jn4be47010z541123106012101j1xk1ze8Aa1w6206w9x9q43wewbw411y510f171a220g01ttxqb0ow191405l409030no7a5n15hwawrwm30i079ff47212l16103330g0d112e1a085412l16111111w0310j2g8121l16111430i0f1n0b7212l16111430u112f0h015321331101131323bm0wl7121m1f30q22021u047121m191430w0111f1h8121w920g05282o55h3n181026wrwg11c6wr110141n101911902410l3w10x171w4r4ymwbk0g5433031724cc0hw610502wb1Fm132610132w9132w1132610132e1wp132x4w6fgxn253Ou2g1p5xc677hdiehec12fwkw4040x5xq742w2105x7auwit24bwc4pwnm9wlxk0y0wfh7wntd1awcqw4wa2aw42a5wb22wa31511305B5x2Dt252w625271010101u2wl1610321633254c5216yn0d0gcy8040291034601010131a235440wl1xThCb6331cw610502wo70gm9616161616161616xi0K41wb4514xn621xr135wb1y0hw0whfLgBVjx2Swmx5we2Dk3fa1kwfgu2x7wi82y92x4211017lf12131mtwkewix053011bramps7wfs0g419a41w9n217km303wi1031242010o22a72c5252596161wb1d6yltGObcm4whDTkGo2ycw76c450191c141011111yew2Glix12wmw9byn41zaw5p6pbxq35252522w4b1p1i111e2dw3ytHhs3whwgw0dj176w6at2w447whA2iw44w44w88wkca1e16111a1e16113wkcF09la7o51wa18x75201wc11302mam9ux3i11alapx8wo61x20f3121swbs3sw471rrwmalaidhyhxawowjdwjdw4w7r9mD2wa61g2wssa08lwbhwfkrmcwlwq120dwdw1oqw4t0208w330cwge3l010w4h1oj1x1610131e197wfw77212l16111430i0c4u910201w610p010wdwli3k2uwgk110Atwfwa3w5wgk0wswbd0x9qw66Auwcynx1w072027111nf010y172w7g010s0aw870l0bwej0ixaBdw1w081w5h0wityj6111w6l0p5111w0e0Fhif01c1w2z00xhYmCdB9xS1y3fwyhh5pzzq5NoCyltwUqNa7uhxghtiwgg3w0k5iItwdBpx1z4xc50x4cx2110sBGs8wDswa9EE7316111Ebf0t220e38HnxHeyd5c3879BC7xm1x8112021231b10161x21327161r131410361Ft2o1o1u1o1u1o1u1o1u1o17wXfu65Ddwuzmwda6g0FbtiwcKjrCbt20Ku613111e1Bawsx570wCq31q1110201913101060401010121110201010101011102316131310191g52141gzNiwIJ1w1zEu6C42AZqeCT1fP1xMhMewMiAz95zG6"),
  ("Letter_Number", "Byb2xT5w323yVl0p8e2wvNu9TwpwlJq080za4DMjyh"),
  ("Line_Separator", "DMh0"),
  ("Lowercase_Letter", "y4pwr0wan1710101010101010101010101010101010101010101010101010101011101010101010101110101010101010101010101010101010101010101010102010122010203140203220201010201110203010212260202010101010101010111010101010101010112010301010101010101010101010101010101010101010101010101010101016202110401010101x61qB70103032i0rw31132101010101010101010101014102021wkwg101010101010101010101010101010101090101010101010101010101010101010101010101010101010101020101010101011101010101010101010101010101010101010101010101010101010101010101010101010101010101010101010101010whw9yv4wb22Tg5xD8810yowcx1c1w2y9010101010101010101010101010101010101010101010101010101010101010101010101010101010101010101010101010101010101010101010101010101010101010101010101010181010101010101010101010101010101010101010101010101010101010101010101010101010101010101010101010101885a78785a7878d2787878411603211832187a211Dq03130r04040218340wm0xV3wg10311010104011155010101010101010101010101010101010101010101010101010101010101010101010101010101010101010101010101011701040cw61050wwCq010101010101010101010101010101010101010101010j010101010101010101010101010zb01010101010121010101010101010101010101010101010101010101010101010101010101017101020101010104010201210101010101010101010505010101010101010401020301010101010q030Vfwb587xhQye6c4wybpwDkw8zcw4A0a1e1611wVswjz1lxZmw0RT2w0Wx1pq61hqpq310161aqpqpqpqpqpqpqpqpqrso15qo15qo15qo15qo1510wXf91j65xP9w2"),
  ("Mark", "ToyiDr6Dfwd10111110xaawhkg0y86252113w40uqxtawr890o3181214wc2ws8wbn1w1wn21h16a1t2wp016212290a1q022wp014412230u130b2wp0171212k1m512wp016212272a1u0ws4321390w94wo016121371b1t2wp016121371b1f0c3wo116121390a1t2x80451017i1wu026c7y5028b6xb1r0101041wij115a1w490y7jn342122633db10a3Rl2Zg3s2t1u1x2w090we210yo1w30ypb4bC24wq91s20whuwi4wggw78c2ucwpdwhjzs21k406022Bcx1S7w1yB12zh0y3w0Mr5yc1wvH1319w11xi1Do03040n440xl1wjhqhd0w77pcwd3wgdw50x5dc081we2wj012215110wa451Cj711Qxt0Sofgfwvc0C90zp4wRr21153w9240Aa1Nf3x34F71xh3x8awi3yt2wmewa021a3wea70wu2w5dg1wd0c2whd8311xub6020A2bl3wo116212290a12634x581020131410e1xkhn0xjjCi628r1xkgydcy8eD8eCs511231011zh62630s9w9613809awffI2717xkl1dyt530111610x441114G639110wh634n0AMh06eGXphxNg4ws6wxp01wn73xj0b1PI41zWowe2mMf4358726u3zo2xwqwn4wi80e0m41ewHr61g261114y70A56H30wu3Lc3D61Sn6yg6VNPhCm"),
  ("Math_Symbol", "wc0g2wu010we040w60w00Tm0M02BZj0d0w82d2zf0w8460x645140202070w012010w0Djw11xs0uow95K4090wn7yi0Fq42uafD8z6mx04w02D9whk25wTGg0Vi012A90g2wu010z7063yOh1wRNe0p0w00p0w00p0w00p0w00p0BAb1"),
  ("Modifier_Letter", "R6h4be47010z9050Kd0Cd0A91Dl140w009030A50Ac0wDr0z30N70wUi0ye0Om0Ju5Ajx0d0w3w5R70d0gcyA11Co0B50K40wc450y41y02YNb0wEa5Dm0yl0s1ys8xi0n0yc231K40m0zd0yf0l1ya390RGr0we1xy151wa18wK10w10TZm3Lc2w91Mncx2110Mws31611HUuwuBf6Zb0wA30"),
  ("Modifier_Symbol", "y1010x90604030Lp3cd56101gyo0e1wFb0BAj012b2d2d2d1zI51wvLkm91ya1wvf0e1QGsgXn010A70xyvm4"),
  ("Nonspacing_Mark", "ToyiDr4Dhwd10111110xaawhkg0y86252113w40uqxtawr890o3181214wc2ws8wbn1w0wo010474036a1t0wr04380k1q021wq041412230u130b1wq0441140k1m510wr020138071b1u0wu0c0wj030wo012521371b1t0wr0206051k1s1wq14380k1t0xa07210xs026c7y5028b6xb1r01010wod14115a1w490y93151121p142g3d02160f0Rl2Zg2t1u1u1x2116802a90we210yo1w30yp2419062C2120wr0161010276920whd1fwi3wh0141050w98c1w132112wp0113012wr721zs21c16406031Bcx1S7c403byB12zh0y3w0Mr3ye1wvH1049w11xi1Do03040p150zr1qhd0w77pawf2wh02321w80x552121c080wg0wk012215110wb180Cl02040Qxt0Sofgfwvc0C90zp4wRr21153w9240Aa1Nf3x34F71xh3x8awi3yu0wnewa021a2wi32170wu2w5417x00c1wl8a320y2220116020A2037l1wq130w6634x85d01010e1xn72210n0xm5104111Cl36111r1xn72011yd0102510y822314Db811D811040zk32140w19w9523809522wfc11I361510xkl261111yt530111610xa13010G61b1wl45010n0AMh06eGXpb32xNg4ws6wxp0x13xj0PIh1zWowe2mMh2h726u3zo2xwqwn4wi80e0m41ewHr61g261114y70A56H30wu3Lc3D61Sn6yg6VNPhCm"),
  ("Number", "wh9yr15022wKf9za9Bc9I99yp945yf9yp9yp925yhcym986ya9yb67iyg9y39yp9x8jDk9x89S6jXd2Cm969m9El9z4aAa969Ar9xo9za969wxn03569Bcwj24SdwsxglPatwIl0U20p8e2G23ze9u71ew19w8eZRo9B29Fa5zu9w79Bc9m9xo9I39Rz49Kswdcwph1G0qw53t080za4Bg9Zc7p6w88xd4m5A512f2wex28wl1u2xd4yb7o7wa6Fk5wh969DuuA39wb3yj6zatz49wt9zk97jD39G19yp9H29y996jxebIhiy09Qb9xosCa9x89Ij9y9kwydyhLAm9xIh9xo9za916Lu9DemUz49wLljcjyfowzowixJc9Ij9L69Cu9S38z49Ugwr1213xewd1ewv1cxWs9"),
  ("Open_Punctuation", "w90wj0w00yXn010wYq0xLc030w70wo0f0Pe010u0wz10101010101010xi0w1010101010I1010101010101010101010x2010w20wy70101010p0i0101010Ip0101010103010101020wSOu0Bt0t01010101010101030h01010Af0wj0w003020"),
  ("Other", "0w0y2w1d0S11637010k0Hp0w71wj130wo7r36gm0B60wh1ws1y8dws1wi1f0s110b4w07xd0A608121m0701241912147132051p1306321m07020202110532132164016h9309030m0702051a030311e41c670308121m0702051912136332051i9206230422010222232c3523041151dl4d030n0g190304620311141a6m030n0a051903046252041a03bd030wk03063g1q030i2o090117213601085a13bwr3tw5201050o010n1501070a14w0xa0w53w80w50f0dw5Bc01411H5041701041wa041w2041701041f0wq041x51w12q5xo161Qi2xr6m8o8kbd0302by11a5a5e0b5xr6wc4x89w00c3c312wb15awd3q5b2x01x30t1b5a5e1w0whxf0Ab7wt2f2x04wc1b7wc4M7161w716180101010w01wm0f0e160j13090b4q4wif21r0d2w2ew2ezg3QflbkwWe1w10G84we01411wp62do87070707070707070z2w2q0xrbBspxi0xo1ya4wc0y10xo8wh0ZJt2wo8G7jAt7Bk120108kws2a5wp7x87c5ynau2xg0b3w20wo8e1a1yans96161687070wt3z21a5GOcbn3wiDTjGp1ydw67b54q050102020z1fJb1wn61w0wb5wk0j04350zb3B4261616132707c21c0q0j020f1ew2yu433we2xq0d21wfwfz5t2wies3w58u4wc4u0w63ewaA31a5w53w53w97wlac0f07020b0f07022wlbF18m98n60wb09x66110wd02211n0xa79wgj024w22r41x1wp3k1wj0248030t133a696x2w0w83c8wn2t1r4q64b7xhxbwnwkcwk6wf7a5w72t72Blw00wb0312f3wnwd7wblqw6sjn8xg3w58x005cp6a5wm0i7w88y30kai0wgwu701040f0b5ws4a5408121m0702050a12131151471725aa01110w70a0111040a0272sxu05txa7aAawn1w7w2x7aa5diwr5a5krr1f3nAtwty6xlb81118020u021c8ax781wf1bqxa7xlcxb6aAqw3da590we0e9t2w11m0exa7020wd2102097a56020w602066aEup6h0wa2txm1ewjcYoy8yi05aBaxS0y6cwyifm9zzr4NpCykwrwTsNb6w00a3xj0a5u169x89a070l4jIswrBbxty7xd3wq6hx15a2dBGt7wDtw9aEE6407020Ece1s311d47HoxHdye4d296a14zxtD25J2xdwf1n8ynwsCt9w81xc7yjkx8yskbkbxp8pzaxn0x9021112140c01070x30418070s040501270Fu1Ed1Rke50fwziw056Bq70h1702054x0w11yiwe2e1a32F9w0gwr41JtwbBrwc31Ke704020f0Bb1gw9xe3a32U9x6xdwuB740r0201110a040101513101010302011101010101020114070404010a0h43050hwk2Dlwd3y7bf1f0f0w69Ajwotcwd3962d6ztwvn3h2d2yq3y25c31ec3wp7a5w97u1c32wuFube1d2a4wp6f1b596zn0y9wx6wIJ2w0zF05C51AZrdCT2eP2xMgMfwMhAza4zG7SWX7CnBNx5"),
  ("Other_Letter", "Af0f0D8043Bm0Vlq43wew019w411y510o1a220g01ttxqb0ow1llwbo7a5n15hw9wswm30i079ge47212l16103330g0d112e1a085412l16111111w0310j2g8121l16111430i0f1n0b7212l16111430u112f0h015321331101131323bm0wl7121m1f30q22021u047121m191430w0111f1h8121w920g05282o55h3n181026wrwg11c5ws110141n1019119024n3w10x171w4r4ymwbk0g5433031724cc0ykFi132610132w9132w1132610132e1wp132x4w6fykOu2g1p5xc677hdiehec12fwkw90x5w31wl742w2105x7auwit24bwc4pwnm9wlAlwfh7wntd1awcqw4wa2atyk3151130wys3yApwoom9616161616161616Mo0wm04xn801xr405wb1y0hw0whfLgBVjx2QVp1wAqx5w88Dj4fa1x40wix7Ae0ya03612131mtwkewix053011bramps7wfwe428a41w9n217kf15303wi1031242010o13a70e525259616zlw3tGObcm4whDTkGo2ycx50191c141011111yew2Glix12wmw9byn41zayc91wd2u35252522w4b1p1i111e2dw3ytHhs3whwgw0dj176w6at2w447z4xfy5w88wkxuwkcF09la7zs5201wc11302mam9ux3i11alapx8wo61x20f3121swbs3sw471rrwmalaidhyhxaAsw4w7310Epwa61g2wssa08lwbhwfkrmcwlwq120dwdw1oqw4t0208w330cwge3l010w4h1oj1x1610131e197wfw77212l16111430i0c4u910201w610p010wdwli3k2uwgk110Atwfwa3w5wgk0wswbd0x9qw66AuwcBp72027111nf010y172w7g010s0aw870l0bwej0ixaBdw1w081w5h0wityj6111w6l0p5111w0e0Fhif01c1w2z00xhYmCdB9xS1y3fwyhh5pzzq5NoCyltwUqNa7uhxghtiwgwkk5iJ1w8I2xc50AkBGs8wDswa9EEnEbf0t220e38HnxHeyd5c3879EAc0L5wdw20FbtiwcKjqCct20Ku613111e1BawH631q1110201913101060401010121110201010101011102316131310191g52141gzNiwIJ1w1zEu6C42AZqeCT1fP1xMhMewMiAz95zG6"),
  ("Other_Number", "An15022xJ15H45yr2z96C06h8Iu9wynjwAn9Kf0wSb03569Bcfwa0SdwsxglPatwIl0wBp3ze9u71ew19w8ewvDp5SPewdx33h1G0qw53wGu7p6w88xd4m5A512f2wex28wl1u2xd4yb7o7wa6Fk5GbuA39wb3yj6zajH7jwHg1Ir8X3iWekPyl6UnmVQ4jcjyfoAPt8Yuwr1213xewd1ewv1c"),
  ("Other_Punctuation", "w2212201011a131r0x6050e170Rk080K15wa0wn02020wd1k111d012xc3y90wcdCg2wnew00Dd1a0zg0yr0ys0Hi0c0Gq0xs0a1Ade10yj0xc441yi5Ag0On8Tt0z02x91A2212w6513F31Bu1z4615A51a6s2z03ws4x01x27b0Vs1878823223a1019yG2311yj0zj1422028111021a41923101c22Ip2wq0B30ZX01Dl2y60a0ym5H83xo1w9210wi1wg0y4cg1z03z21g1D10QWa620m0k1233213726011zp212201011a131r0w5021I72Qh0wh0Ib0Su0Bd0w00Do8w70yj6x46xr3Zm4wd3B36yg113z23wh1xh340d012xq5ye0Ej111yl4a110yb0D2myc2scxe0z62D40Dg2A00xu7xl214y09Bt0y24wb1Pp1xccAk0wAk4ywq1KMt1z90x3480Mp2Eg3Fh0PIl0CYt4ywh0Wp1"),
  ("Other_Symbol", "Ab0204010wvg0Di1z31Bk0a0j1Cu0Lj0H10z6510z80Bl0wa0Hj2f01225k01010z97151153Bb1T89Sa0S90A2w2Gc998wJg11311a0116510101040b1e01110wr194231111161u21101uDk74j262xi1tpw86x9maxjxfmAr181wm8yh1Cuwdwcx2D7Lgwgl16w72w01ybCc5Gg1wfp1xqcBrqf40d1c0l161Fq149w1w690gubt80fw0aw7fF9BVkx1SwqwnWs3a110Nf2Rwhfz30we2Kj03041d1F38wqg221c30wgwdwRf1O20yEs0xDr74gPwn350QPl0zy2CmgJ1A1ymwtCsaw72ws52m17t4wtlx330B0xowCfLfwo3wj71d11wU00yvp0z50S8wc4y6ce2e1e1w5nA5wpsdwc4871e5zuD25Se4g3c3yp4y16b40fb4wo896w88t2b41x0Ftcd2c395wo7e2a687zm1xt"),
  ("Paragraph_Separator", "DMi0"),
  ("Private_Use", "wXPpBPdZVNmxBAu2xBAu"),
  ("Punctuation", "w221513a131q210r010w405030a13030Rk080K15wa1wk0102020wd1k111d012xc3y90wcdCg2wnew00Dd1a0zg0yr0ys0Hi0c0Gq0xs0a1Ade10w63x90xc441yi5Ag0On8zr0P10wd1xg2x91A2212w6aF31Bu1z4615A51a6s2z03ws4x01x27b0Vmn8j1c1bu1e1Pd3t1wz0dxh1w09I0lx13w11Tj311yj0zjwf1w02bIg2492bg0c0y50xs0ZX01Dl2y60a0ym5H83xo1w9210wi1wg0y4cg1z03z21g1D10QPh1Bm9mw31d104011zp21513a131q210r01016I72Qh0wh0Ib0Su0Bd0w00Do8w70yj6x46xr3K00F80Ac4wd3B36yg113z23wh1xh340d012xq5ye0Ej111yl4a110yb0D2myc2scxe0z62D40Dg2A00xu7xl214y09Bt0y24wb1Pp1xccAk0wAk4ywq1KMt1z90x3480Mp2Eg3Fh0PIl0CYt4ywh0Wp1"),
  ("Separator", "w10z30AUj0xLdat150wg0zA10"),
  ("Space_Separator", "w10z30AUj0xLdaw50wg0zA10"),
  ("Spacing_Mark", "xHd0wo0228311wj1wr26121a0wc0wr2x40wr28011wm1wr0106121a0y91113212a0wa2wu3wu1wr014211191s0e1wr25212a0wb1xd267i1Fk1x10Ag1406021p1a226l12520a2wRd0u0z507711G53224115C71wr010901185zl0wh0501411wu0u04120wt0221031wh781Ag0l0Ayk1wvYh120xq1wjfzi1wg0wh14122yh121o0we010yg02150Ck1111110VPd010z30we241ym0o1ws0wh291d0y023110Af2w01wr113212290a1xm27020131110y828130yd2601320Ck26320yk28110yg01160yc140Dd290Cu511402010zi28340xm0t1x00I40e0yd07020Br44110G91c0wh18110MM82ySownyb1UYn165"),
  ("Surrogate", "wVLnxz1"),
  ("Symbol", "w5060g2w0010r010w441120132030u0w00Jo3cd56101gyo0e1yj0zf0Di2yp22021Bk0a0j1Cu071zc0Gk161Cs0z20z67z80Bl0wa0Bb0B72f01225k01010z97151153Bb1T89Sa0Go0Gf0A2w2Gc998wz3012b2d2d2d1x70d0w82d2jw1x111311a0125510101040b1445310wr14H34s2D6maxjxfmOqwdwh2uaHumx04w02H12w01ybCc5Gg1wfp1xqcBrqf40d1c0l161xt1Cq149w1w690gubt80fw0aw7fF9BVkx1SwqwnNbm91ya1A23a3Nf2C80e1QCf0zcgH9fz30wd3y501220zu060g2w0010r010z5616d1F38wqg221c30wgwdwRf1O20Rr1xMu0xDrsPwn350QPl0zy2CmgJ1A1ymwtCsaw72ws52m17t4wtlx330B0xoX60p0w00p0w00p0w00p0w00p0wtLfwo3wj71d11wU00Is0xMr030z10Jf1Dmwc4y6ce2e1e1w5nA5wpsdwc4871e5zuwvm4g3c3yp4y16b40fb4wo896w88t2b41x0Ftcd2c395wo7e2a687zm1xt"),
  ("Titlecase_Letter", "Jj02020w70CW978787c0f0wg0"),
  ("Unassigned", "Xk1637010k0Hp0w71wj130wo7r36aDm0wt1y8dws1wi1f0s110b4w0024Ck08121m0701241912147132051p1306321m07020202110532132164016h9309030m0702051a030311e41c670308121m0702051912136332051i9206230422010222232c3523041151dl4d030n0g190304620311141a6m030n0a051903046252041a03bd030wk03063g1q030i2o090117213601085a13bwr3tw5201050o010n1501070a14w0xa0w53w80w50f0dw5Bc01411H5041701041wa041w2041701041f0wq041x51w12q5xo161Qi2xr6m8o8kbd0302by11a5a5q5xr6wc4x89w00c3c312wb15awd3q5b2x01x30t1b5a5e1w0whxf0Ab7wt2f2x04wc1b7wc4M7161w716180101010w01wm0f0e160j13090y80c1r0d2w2ew2ezg3QflbkwWe1w10G84we01411wp62do87070707070707070z2w2q0xrbBspxi0xo1ya4wc0y10xo8wh0ZJt2wo8G7jAt7Bk120108kws2a5wp7x87c5ynau2xg0b3w20wo8e1a1yans96161687070wt3z21a5GOcbn3wi3EAa1ydw67b54q050102020z1fJb1wn61w0wb5wk0j04350zb110B4261616132707951c0q0j020f1ew2yu433we2xq0d21wfwfz5t2wies3w58u4wc4u0w63ewaA31a5w53w53w97wlac0f07020b0f07022wlbF18m98n60wb09x66110wd02211n0xa79wgj024w22r41x1wp3k1wj0248030t133a696x2w0w83c8wn2t1r4q64b7xhxbwnwkcwk6wf7a5w72t72Blw00wb0312f3wnwd7wblqw6sjn8xg3w58x6911p6a5wm0i7w88y30kai0wgwu701040f0b5ws4a5408121m0702050a12131151471725aa01110w70a0111040a0272sxu05txa7aAawn1w7w2x7aa5diwr5a5krr1f3nAtwty6xlb81118020u021c8ax781wf1bqxa7xlcxb6aAqw3da590we0e9t2w11m0exa7020wd2102097a56020w602066aEup6h0wa2txm1ewjcYoy8yi05aBaxS0y6cwzp9zzr4NpCykwrwTsNb6w00a3xj0a5u169x89a070l4jIswrBbxty7xd3wq6hx15a2dBGt7wDtw9aEE6407020Ece1s311d47HoxHdye4d296a18zxpD25J2xdwf1n8ynwsCt9w81B8kx8yskbkbxp8pzaxn0x9021112140c01070x30418070s040501270Fu1Ed1Rke50fwziw056Bq70h1702054x0w11yiwe2e1a32F9w0gwr41JtwbBrwc31Ke704020f0Bb1gw9xe3a32U9x6xdwuB740r0201110a040101513101010302011101010101020114070404010a0h43050hwk2Dlwd3y7bf1f0f0w69Ajwotcwd3962d6ztwvn3h2d2yq3y25c31ec3wp7a5w97u1c32wuFube1d2a4wp6f1b596zn0y9wx6wIJ2w0zF05C51AZrdCT2eP2xMgMfwMhAza4zG7SWP01ty3z3CnxAQ1xBB01xBB01"),
  ("Uppercase_Letter", "x3py8m16w201010101010101010101010101010101010101010101010101010102010101010101010201010101010101010101010101010101010101010101011101031101112231112311110101110201112101130702020201010101010101020101010101010101020201210101010101010101010101010101010101010101010101010101010107111201310101010Ea0103080601210111g18w40223010101010101010101010105020112wjwh010101010101010101010101010101010901010101010101010101010101010101010101010101010101010111010101010102010101010101010101010101010101010101010101010101010101010101010101010101010101010101010101010102w6yv6w61050S9xnxDp06wb22Fa01010101010101010101010101010101010101010101010101010101010101010101010101010101010101010101010101010101010101010101010101010101010101010101010101010901010101010101010101010101010101010101010101010101010101010101010101010101010101010101010101010109785a78785b010101087xa3c3c3c4b3De040322220346010101323a150wu0xTiwgwh0122010101310208210101010101010101010101010101010101010101010101010101010101010101010101010101010101010101010101010801040wwEm010101010101010101010101010101010101010101010j010101010101010101010101010zb010101010101030101010101010101010101010101010101010101010101010101010101010a010111010101040102010301010101010101010101414101010101010101310113050101010o0SBqpwDcw8zcw4A1a1e1611wV3wjA2lxZmw0RT2w0Wx7pqpqpq01120212317qpq1132716r113141036rpqpqpqpqpqpuow2ow2ow2ow2ow20zN3w2")]

/-- The code points of each script. -/
def scriptRanges : List (String × String) := [
  ("Adlam", "zBD6xd4941"),
  ("Ahom", "xHF0q2e4m"),
  ("Anatolian_Hieroglyphs", "xTEjNo"),
  ("Arabic", "wNh4151d121w019bp1ye1w2xiwgCnu115xc1sxxM1ylgGl2xh2wm70w1fyj41zazy2ux52wo3wXHh31q1110201913101060401010121110201010101011102316131310191g52141gwl1"),
  ("Armenian", "wGrw62wi22xyHe4"),
  ("Avestan", "xEyswm36"),
  ("Balinese", "CAuxe1wi"),
  ("Bamum", "wIH0xpwPI2Na"),
  ("Bassa_Vah", "yyP4t25"),
  ("Batak", "CH5wk83"),
  ("Bengali", "xLe317212l1610332821238041142o"),
  ("Bhaiksuki", "xIP981wd1das"),
  ("Bopomofo", "T21HDlwbyjw0"),
  ("Brahmi", "xFJ6xf4w490"),
  ("Braille", "FPaD7"),
  ("Buginese", "BXmr21"),
  ("Buhid", "BB0j"),
  ("Canadian_Aboriginal", "AF5PjN2x7xBPaf"),
  ("Carian", "xBWnwh"),
  ("Caucasian_Albanian", "xCMswkb0"),
  ("Chakma", "xFRewl1h"),
  ("Cham", "wJDrwn9d2923"),
  ("Cherokee", "AC2xn25wEFkxh"),
  ("Chorasmian", "xFGjr"),
  ("Common", "0x2q5qwf1e14n0w00Jfw7542jyn0906010Ph060e030w10A10Lk0z51wE10I23Eb0wN02x91Bh110wDk0d073151220Ttb2xo1a3a1ehw1x1w612251q1gwa24QemalYsD8P72w01ybLgy0Huk101of743xt130xs1znfw1w690whx1w0xiwg0xqAcBVkx1SQuw2y92Aa9Cr0A50Hn0e1QTl1Bm9mw31i13zn01w0q5qaa0we1x2616a4Da24wd38xicwkwdCbqwNJ13zxqD16J1A1ymwtCsaw72wu3g817t4wtBrjcjcxo9ozbxm1x8112021231b10161x21327161r131410361Ft2Ec2wiAIpx5xewtRowc4y6ce2e1e1w5aAiwpp11dwc4871e5zuwvm4g3c3yp4y16b40fb4wo896w88t2b41x0Ftcd2c395wo7e2a687zm1y8VII10uy2"),
  ("Coptic", "ww2dFTuym56"),
  ("Cuneiform", "xJRaYmy9yh14bB9"),
  ("Cypriot", "xDF45201wc113020"),
  ("Cypro_Minoan", "xNVqy5"),
  ("Cyrillic", "wx1z82AdBBgaA50xe0zGew0www1y2SF11wYBawuw20"),
  ("Deseret", "xCD3xh"),
  ("Devanagari", "xHaxi4e2pwGJ4w0ZGd9"),
  ("Dives_Akuru", "xHVg62027111t112b99"),
  ("Dogra", "xHN8ws"),
  ("Duployan", "yUDiyd5c387923"),
  ("Egyptian_Hieroglyphs", "xNZewzoazzq"),
  ("Elbasan", "xCLbw8"),
  ("Elymaic", "xFI5m"),
  ("Ethiopic", "zTkxa132610132w9132w1132610132e1wp132x42w03pBWrm9616161616161616wxFb525259616xRG8613111e"),
  ("Garay", "xERfw63s81"),
  ("Georgian", "zI9w610502wb13yxfwb22zF6w61050"),
  ("Glagolitic", "GRby2ySwd61g261114"),
  ("Gothic", "xCwcq"),
  ("Grantha", "xGCu317212l1611142821222060562634"),
  ("Greek", "Xc3122310401012101j1x0efBQl4wj444xm0Fal252w625271010101u2wl1e1d251i2218Eg0wAUj0RVuxgh0wTKnx7"),
  ("Gujarati", "xTn218121l16111429121220f32b76"),
  ("Gunjala_Gondi", "xJvk5111w5111579"),
  ("Gurmukhi", "xPj215412l16111111201441223073107g"),
  ("Gurung_Khema", "yww3wq"),
  ("Han", "HH0p1xqcBrwg010p8e3wv3BVjx2QV4SQuGo2ycwvAe1c1wCGjwIJ1w1zEu6C42AZqeCT1fP1xMhMewMiAz95zG6"),
  ("Hangul", "zLcD7Dw71D9y0ykux3uwvPmsPnGObcm4whFMbu35252522"),
  ("Hanifi_Rohingya", "xEPdw889"),
  ("Hanunoo", "Bzuk"),
  ("Hatran", "xDMbi1154"),
  ("Hebrew", "wJuwn8q45xyEgp1410111119"),
  ("Hiragana", "HVfxn62yEyuE7i0t2MC30"),
  ("Imperial_Aramaic", "xDH6l18"),
  ("Inherited", "ToyiDt1Jiaq0Sn3zOauLh21c16406031Bcx1Ls1B8w1zwm3ye1wSR5fgdwve0C90zG10wOviwe2mMh2h726u3VTYhCm"),
  ("Inscriptional_Pahlavi", "xEC0i57"),
  ("Inscriptional_Parthian", "xEAul27"),
  ("Javanese", "wJznxf2941"),
  ("Kaithi", "xFNax4a0"),
  ("Kannada", "yF7c121m19142812137161132912"),
  ("Katakana", "HYixr22CnfBmwf1xpwSG391wdwKZ23161110E82wj0e3"),
  ("Kawi", "xJJ2g1w93s"),
  ("Kayah_Li", "wJvjwe10"),
  ("Kharoshthi", "xDVk31157121s224978"),
  ("Khitan_Small_Script", "yAv20CBqK4wa0"),
  ("Khmer", "BD2y02969Klw0"),
  ("Khojki", "xFZmh1wf"),
  ("Khudawadi", "xGAcwr59"),
  ("Kirat_Rai", "yzE8wq"),
  ("Lao", "yVo110141n101m2410161923"),
  ("Latin", "x3p6pwg0f05m1u1Jew84BYiw66wh535c1x7x3D7Gs0d0gczh160r0hw9xWgw0wwPmy83x4211017ldVawb1813QB76wxrp6pxA851wa18wVFmu65"),
  ("Lepcha", "CJ7wo3e32"),
  ("Limbu", "BPeu1b4b403b"),
  ("Linear_A", "xCTjF09la7"),
  ("Linear_B", "xBB2b1p1i111e2dw3yt"),
  ("Lisu", "wHX1wgwwQ50"),
  ("Lycian", "xBVms"),
  ("Lydian", "xDOdp50"),
  ("Mahajani", "xFU1w7"),
  ("Makasar", "xJI1o"),
  ("Malayalam", "yJbc121wj12154f2p"),
  ("Mandaic", "xB4r20"),
  ("Manichaean", "xEwqw74b"),
  ("Marchen", "xISsw02l1d"),
  ("Masaram_Gondi", "xIXh6111wc30111889"),
  ("Medefaidrin", "yzMgxs"),
  ("Meetei_Mayek", "wJL3mBfwe29"),
  ("Mende_Kikakui", "zAZtBa2f"),
  ("Meroitic_Cursive", "xDShn4j2we"),
  ("Meroitic_Hieroglyphs", "xDRgw0"),
  ("Miao", "yzSmxc4wp7g"),
  ("Modi", "xHwnx6b9"),
  ("Mongolian", "BH61201j6xq7wbxAN4c"),
  ("Mro", "yyKfu1941"),
  ("Multani", "xGyq610131e1a"),
  ("Myanmar", "zD4A4wEUhuy4w0XVej"),
  ("Nabataean", "xDJ8u88"),
  ("Nag_Mundari", "zAzjwa"),
  ("Nandinagari", "xIvl72we2a"),
  ("New_Tai_Lue", "BTiwc4p6a31"),
  ("Newa", "xGL7xt14"),
  ("Nko", "xx0wr22"),
  ("Nushu", "yzZu0MJbHn"),
  ("Nyiakeng_Puachue_Hmong", "zzz4wd3d2941"),
  ("Ogham", "AZps"),
  ("Ol_Chiki", "CLpwg"),
  ("Ol_Onal", "zAHrwb40"),
  ("Old_Hungarian", "xEL9wjdwj75"),
  ("Old_Italic", "xBZqw492"),
  ("Old_North_Arabian", "xDZow0"),
  ("Old_Permic", "xCxdwb"),
  ("Old_Persian", "xCA0w44d"),
  ("Old_Sogdian", "xFAtw8"),
  ("Old_South_Arabian", "xDYnw0"),
  ("Old_Turkic", "xEH5xa"),
  ("Old_Uyghur", "xFEhp"),
  ("Oriya", "xXr217212l1611142821227241142h"),
  ("Osage", "xCIow44w4"),
  ("Osmanya", "xCH7t29"),
  ("Pahawh_Hmong", "yyQlx7a9161k5i"),
  ("Palmyrene", "xDI7w0"),
  ("Pau_Cin_Hau", "xIEuwp"),
  ("Phags_Pa", "wIUdwo"),
  ("Phoenician", "xDNcr30"),
  ("Psalter_Pahlavi", "xED1h73c6"),
  ("Rejang", "wJx5w4b0"),
  ("Runic", "Bvqxc3a"),
  ("Samaritan", "xz2we2e"),
  ("Saurashtra", "wIWfx78b"),
  ("Sharada", "xFViy2"),
  ("Shavian", "xCFlwg"),
  ("Siddham", "xGXjwm2w6"),
  ("SignWriting", "zwRpQ0f41e"),
  ("Sinhala", "yNg21h3n181026304510176922xCCej"),
  ("Sogdian", "xFCfwa"),
  ("Sora_Sompeng", "xFPso79"),
  ("Soyombo", "xIBbxk"),
  ("Sundanese", "CF3x1D87"),
  ("Sunuwar", "xIN7w2e9"),
  ("Syloti_Nagri", "wISbwd"),
  ("Syriac", "wVpd1ws22Doa"),
  ("Tagalog", "Bytl90"),
  ("Tagbanwa", "BC1c1211"),
  ("Tai_Le", "BS1t24"),
  ("Tai_Tham", "BYnx01s2a696d"),
  ("Tai_Viet", "wJI0x4o4"),
  ("Takri", "xHArwq69"),
  ("Tamil", "yx1115321331101131323b4432132060ekxGJawid0"),
  ("Tangsa", "yyM1xg19"),
  ("Tangut", "yzZt0w0BGs8TnLg8"),
  ("Telugu", "yB3c121m1f281213711220232978"),
  ("Thaana", "wZtwi"),
  ("Thai", "yRkwq5r"),
  ("Tibetan", "yZrx91w44w71w41e1641"),
  ("Tifinagh", "Hw5wo71e0"),
  ("Tirhuta", "xGPbx989"),
  ("Todhri", "xCRhwk"),
  ("Toto", "zzM1u"),
  ("Tulu_Tigalari", "xGH3910201w619102013191181"),
  ("Ugaritic", "xCyut10"),
  ("Vai", "wHYiEk"),
  ("Vithkuqi", "xCOua1e16111a1e1611"),
  ("Wancho", "zzNiwq50"),
  ("Warang_Citi", "xHSdxkc0"),
  ("Yezidi", "xFwpwa1221"),
  ("Yi", "wGO9wBh3wn"),
  ("Zanabazar_Square", "xIyox9")]

/-- The code points whose script extensions hold each script. -/
def scriptExtensionRanges : List (String × String) := [
  ("Adlam", "wOh0w10zzNhxd4941"),
  ("Ahom", "xHF0q2e4m"),
  ("Anatolian_Hieroglyphs", "xTEjNo"),
  ("Arabic", "wNh41Bs1w2xiwgCnu115xc1sxxM1ylgJa2wm70w1fyj41zaww3ryw2ux52wo3wXHh31q1110201913101060401010121110201010101011102316131310191g52141gwl1"),
  ("Armenian", "wGrw62wi22xyHe4"),
  ("Avestan", "xEyswm36"),
  ("Balinese", "CAuxe1wi"),
  ("Bamum", "wIH0xpwPI2Na"),
  ("Bassa_Vah", "yyP4t25"),
  ("Batak", "CH5wk83"),
  ("Bengali", "xJt1h1q317212l1610332821238041142oAvc01021108080204022wBDs0"),
  ("Bhaiksuki", "xIP981wd1das"),
  ("Bopomofo", "T21Hv92491ca32060B909wbyjw0wSJt1E34"),
  ("Brahmi", "xFJ6xf4w490"),
  ("Braille", "FPaD7"),
  ("Buginese", "BXmr21wCDh0"),
  ("Buhid", "BAk19j"),
  ("Canadian_Aboriginal", "AF5PjN2x7xBPaf"),
  ("Carian", "xBWnwh"),
  ("Caucasian_Albanian", "xCMswkb0"),
  ("Chakma", "xOn9wQ49xBGtwl1h"),
  ("Cham", "wJDrwn9d2923"),
  ("Cherokee", "AC2xn25wEFkxh"),
  ("Chorasmian", "xFGjr"),
  ("Common", "0x2q5qwf1e14n0w00Jfw7542jyn0906010Ph0Bt0Lk0wI80I23wWc2xHsb2w11wl1a3a1ehw1x1w612251q1gwa24QemalYsD8P72w01ybLgx41pHub4030d0d0l0M2nw00wiec3A695y2w00BVkx1SR7py92wvf0e1Rve9mk2b1i13zn01w0q5q5z3616a4HucwkwdwRU7D16J1A1ymwtCsaw72wu3g817t4wtBrjcjcxor6zbxm1x8112021231b10161x21327161r131410361Ft2Ec2wiAIpx5xewtRowc4y6ce2e1e1w5aAiwpp11dwc48n5zuwvm4g3c3yp4y16b40fb4wo896w88t2b41x0Ftcd2c395wo7e2a687zm1y8VII10uy2"),
  ("Coptic", "ww2dFTuym56wUZ6r"),
  ("Cuneiform", "xJRaYmy9yh14bB9"),
  ("Cypriot", "xBJa24wd38wTn5201wc113020"),
  ("Cypro_Minoan", "xBJa1HHey5"),
  ("Cyrillic", "wx1EoBBgaA50xe0z30zCaw0x50wvYqy2SF11wYBawuw20"),
  ("Deseret", "xCD3xh"),
  ("Devanagari", "xHaxk2wbAzfw711wwm0wAvr9Abw0ZGd9"),
  ("Dives_Akuru", "xHVg62027111t112b99"),
  ("Dogra", "xKhbwGDu9YT1ws"),
  ("Duployan", "yUDiyd5c387927"),
  ("Egyptian_Hieroglyphs", "xNZewzoazzq"),
  ("Elbasan", "xCLbw8"),
  ("Elymaic", "xFI5m"),
  ("Ethiopic", "zTkxa132610132w9132w1132610132e1wp132x42w03pBWrm9616161616161616wxFb525259616xRG8613111e"),
  ("Garay", "wNt0e030xDxsw63s81"),
  ("Georgian", "zI9w610502wgyxfwb22zF6w61050"),
  ("Glagolitic", "wB9020FKty2Ki0wwvb0xQLd61g261114"),
  ("Gothic", "xCwcq"),
  ("Grantha", "xJt1h1PkdzK7011u231wwm0xxJt317212l1611141921222060562634yE1110"),
  ("Greek", "Vs020wb3122310401012101j1x0efBQl4wj444xm2F8l252w625271010101u2wl1e1d251i2218Eg0wAUj0RVuxgh0wTKnx7"),
  ("Gujarati", "xJt1h1E4218121l16111429121220f32b76wFW29"),
  ("Gunjala_Gondi", "xKh1xGL15111w5111579"),
  ("Gurmukhi", "xJt1h1A0215412l16111111201441223073107gwGvf9"),
  ("Gurung_Khema", "xKi0xYLfwq"),
  ("Han", "HH0p1xqcBrw73121c1c1c2068B10zofw1w690whw8wpwhfbwk0xqoa4y3u1BVjx2QV4wVp7QUsGo2ycX71E34YYs1c1VK3hDBs1yOuwIJ1w1zEu6C42AZqeCT1fP1xMhMewMiAz95zG6"),
  ("Hangul", "zLcD7CZo2491ce260B90wmy0ykux3uwvPmsPnGObcm4whFB51E34wru35252522"),
  ("Hanifi_Rohingya", "wNt0e030w10zn0xCV0w889"),
  ("Hanunoo", "Bzum"),
  ("Hatran", "xDMbi1154"),
  ("Hebrew", "wJuwn8q45xyEgp1410111119"),
  ("Hiragana", "HTd2491cg510413xn27xs1wSQ71E34a0we1wKZhE7i0t2MC30"),
  ("Imperial_Aramaic", "xDH6l18"),
  ("Inherited", "Tox3111swN11zOauTbwm1014Ls1B8w0wWWhfgdwve0wSNuwe2mMh2h726u3VTYhCm"),
  ("Inscriptional_Pahlavi", "xEC0i57"),
  ("Inscriptional_Parthian", "xEAul27"),
  ("Javanese", "wJznxf1a41"),
  ("Kaithi", "xKj9wGDu9WT3x4a0"),
  ("Kannada", "xJt1h1Ujc121m19142812137161132912zBu01070n010wBxo5"),
  ("Katakana", "HTd2491cg51041xt33y2CnfBmwf1xpwSwo1E3x0wKZ03161110E82wj0e3"),
  ("Kawi", "xJJ2g1w93s"),
  ("Kayah_Li", "wJvjwg"),
  ("Kharoshthi", "xDVk31157121s224978"),
  ("Khitan_Small_Script", "yAv20CBqK4wa0"),
  ("Khmer", "BD2y02969Klw0"),
  ("Khojki", "xX09wFWi9XAfh1wf"),
  ("Khudawadi", "xKh1wGE99XG5wr59"),
  ("Kirat_Rai", "yzE8wq"),
  ("Lao", "yVo110141n101m2410161923"),
  ("Latin", "x3p6pwg0f05m1u1Jew84z2cDt1wDh1xw70yB7w66wh535c1x7x3D7Eo0x30d0gcxl0wq160r0hw9xWgw0wwOj7qy83x4211017ldEn0Lhwb1813QB76wxrp6pxA851wa18wVFmu65"),
  ("Lepcha", "CJ7wo3e32"),
  ("Limbu", "xKi0zzqu1b4b403b"),
  ("Linear_A", "xBJhwdwDjF09la7"),
  ("Linear_B", "xBB2b1p1i111e2dw3yt524wd38"),
  ("Lisu", "wHX1wgwwQ50"),
  ("Lycian", "xBVms"),
  ("Lydian", "xDOdp50"),
  ("Mahajani", "xKhbwGDu9WZpw7"),
  ("Makasar", "xJI1o"),
  ("Malayalam", "xJt1h1Ync121wj12154f2pzxo0wByj2"),
  ("Mandaic", "wPj0Lfr20"),
  ("Manichaean", "wPj0xCH6w74b"),
  ("Marchen", "xISsw02l1d"),
  ("Masaram_Gondi", "xKh1xGHt6111wc30111889"),
  ("Medefaidrin", "yzMgxs"),
  ("Meetei_Mayek", "wJL3mBfwe29"),
  ("Mende_Kikakui", "zAZtBa2f"),
  ("Meroitic_Cursive", "xDShn4j2we"),
  ("Meroitic_Hieroglyphs", "xDRgw0"),
  ("Miao", "yzSmxc4wp7g"),
  ("Modi", "wITs9YCgx6b9"),
  ("Mongolian", "BH6p6xq7wbxv20xyN1c"),
  ("Mro", "yyKfu1941"),
  ("Multani", "xSr9xDFk610131e1a"),
  ("Myanmar", "zD4A4wEOp0Amuy4w0XVej"),
  ("Nabataean", "xDJ8u88"),
  ("Nag_Mundari", "zAzjwa"),
  ("Nandinagari", "xKh1Xs9zCs08070wBxi5ZBi72we2a"),
  ("New_Tai_Lue", "BTiwc4p6a31"),
  ("Newa", "xGL7xt14"),
  ("Nko", "wNt0e030Idwr22xyF71"),
  ("Nushu", "yzZu0MJbHn"),
  ("Nyiakeng_Puachue_Hmong", "zzz4wd3d2941"),
  ("Ogham", "AZps"),
  ("Ol_Chiki", "CLpwg"),
  ("Ol_Onal", "xKh1zxX8wb40"),
  ("Old_Hungarian", "xEL9wjdwj75"),
  ("Old_Italic", "xBZqw492"),
  ("Old_North_Arabian", "xDZow0"),
  ("Old_Permic", "wB80xAW4wb"),
  ("Old_Persian", "xCA0w44d"),
  ("Old_Sogdian", "xFAtw8"),
  ("Old_South_Arabian", "xDYnw0"),
  ("Old_Turkic", "xEH5xa"),
  ("Old_Uyghur", "wPj0xCIp0wB2p"),
  ("Oriya", "xJt1h1I8217212l1611142821227241142hzOh0n0"),
  ("Osage", "xCIow44w4"),
  ("Osmanya", "xCH7t29"),
  ("Pahawh_Hmong", "yyQlx7a9161k5i"),
  ("Palmyrene", "xDI7w0"),
  ("Pau_Cin_Hau", "xIEuwp"),
  ("Phags_Pa", "BH8110wCI1wo"),
  ("Phoenician", "xDNcr30"),
  ("Psalter_Pahlavi", "wPj0xCNch73c6"),
  ("Rejang", "wJx5w4b0"),
  ("Runic", "Bvqxc3a"),
  ("Samaritan", "xz2we2e"),
  ("Saurashtra", "wIWfx78b"),
  ("Sharada", "xJt0AB60102120xyA3y2"),
  ("Shavian", "xCFlwg"),
  ("Siddham", "xGXjwm2w6"),
  ("SignWriting", "zwRpQ0f41e"),
  ("Sinhala", "xKh1wxs21h3n181026304510176922xCCej"),
  ("Sogdian", "wPj0xDMqwa"),
  ("Sora_Sompeng", "xFPso79"),
  ("Soyombo", "xIBbxk"),
  ("Sundanese", "CF3x1D87"),
  ("Sunuwar", "To1109020s030xHRqw2e9"),
  ("Syloti_Nagri", "xKh1z49wGy9wd"),
  ("Syriac", "wNt0e120w10aaq0zjd1ws22DoaARu010"),
  ("Tagalog", "Bytl90l1"),
  ("Tagbanwa", "BAk1wac1211"),
  ("Tai_Le", "zF69xHgt24"),
  ("Tai_Tham", "BYnx01s2a696d"),
  ("Tai_Viet", "wJI0x4o4"),
  ("Takri", "xKh1wGE99YGkwq69"),
  ("Tamil", "xJt1h1Md115321331101131323b4432132060ekzKa0wBEs0XCo010wo1yFawid0"),
  ("Tangsa", "yyM1xg19"),
  ("Tangut", "HT83Ku0xRQh0w0BGs8TnLg8"),
  ("Telugu", "xJt1h1Qfc121m1f281213711220232978zG10n0"),
  ("Thaana", "wNt0e120x29DuwixyNh0a0"),
  ("Thai", "yRkwq5r"),
  ("Tibetan", "yZrx91w44w71w41e1641"),
  ("Tifinagh", "Hw5wo71e0"),
  ("Tirhuta", "xJt1h1ABd0wBxq9XV4x989"),
  ("Todhri", "Tp020209010xc0xBUmwk"),
  ("Toto", "zzM1u"),
  ("Tulu_Tigalari", "yIg9zD6010wBxo5B10XGt910201w619102013191181"),
  ("Ugaritic", "xCyut10"),
  ("Vai", "wHYiEk"),
  ("Vithkuqi", "xCOua1e16111a1e1611"),
  ("Wancho", "zzNiwq50"),
  ("Warang_Citi", "xHSdxkc0"),
  ("Yezidi", "wNt0e030x29xDFqwa1221"),
  ("Yi", "HTd15927C60YMowBh3wnTz64"),
  ("Zanabazar_Square", "xIyox9")]

/-- The code points of each binary property. -/
def binaryPropertyRanges : List (String × String) := [
  ("ASCII_Hex_Digit", "wh975q5"),
  ("Alphabetic", "x3p6pwg0a0405m1u1Jn4be47010xo0wb41123106012101j1xk1ze8Aa1w6206w9w8d101111108q43ta5wo16ey8174742a220gwgdy7ow191405n2ijo7a5n15808waab366xd1f124edi17212l16103337212110804114c1a04215412l16111111444121407310h5b218121l16111438121130f3l34217212l161114372121914114d0g115321331101131323b4432123060w9c121m1f37121281122023s317121m1914371212816113d2cc121w9271212105374m5121h3n181026851017i1dwq5660wk110141n101i12241060e3w10x171w44i4f1w4x5wn1024gx1a32w610502wb1Fm132610132w9132w1132610132e1wp132x4w6fgxn253Ou2g1p5xc3a7jbkcjcc1211cwk2ie040x5xq7wb5x7au1b48nt24bwc4pwnr4x02jwj0n1b2wiwk1e17wkwa23awc1aewnm2aw42a5wb22wa31511305B5w8dbDt252w625271010101u2wl1610321633254c5216yn0d0gcy8040291034601010131a235440hw9V7wkwWgCb6331cw610502wo70gm96161616161616161w0wg0K42p874244xn621xr135wb1y0hw0whfLgBVjx2Swmx5we2Dk3fa1kwf573yjw882y92x4211017lj1w1owkcx510wd53012aw15w3ds3wj1bf0gfa41wn9dim3x61010o22f23b5252596161wb1d6ytlGObcm4whDTkGo2ycw76c45b1c141011111yew2Glix12wmw9byn41zaw5p6pbxq35252522w4b1p1i111e2dw3ytx7wlDjs3whwgw0dt5wb5t2w44714wbA2iw44w44w88wkca1e16111a1e16113wkcF09la7o51wa18x75201wc11302mam9ux3i11alapx8wo61x231157121swbs3sw471rrwmalaidhyhxawowjdwjdw8w3r305mD2wa1131g2wo03sa08lwbhwfkrm9x7wc4awp90donwjh38w3309x11391a010w4h1w22063x0610131e197wpn317212l161114372121306056s910201w619102013113010wdx31213k2ux32110Atwm26p5w3x01030wswm20x9q2dl6Auwpyax1w072027111t112123y072we251011rwj29hx950ixaBdw1w081wd1610wit2l1dxb6111wc3011121021o5111w5111310Fhm9g1w932yi0xhYmy9yhhB9xS1y3fwyhh5pzzq5NoCylwfwU9Na7uhxghtiwgg3w0k5iItwdBpx1z4xc4wp7gx2110c1eBGs8wDswa9EE7316111Ebf0t220e38HnxHeyd5c387940BC2xm1x8112021231b10161x21327161r131410361Ft2o1o1u1o1u1o1u1o1u1o17wXfu65Br61g2611145wuw20yjwda6g0FbtiwcKjrCbt20Ku613111e1Bawsx53030wCq31q1110201913101060401010121110201010101011102316131310191g52141gP8p6p6pyVdwIJ1w1zEu6C42AZqeCT1fP1xMhMewMiAz95zG6"),
  ("Bidi_Control", "wOe0BX71q4wo3"),
  ("Bidi_Mirrored", "w91i010s010t010we0f0yVl3wYp1xMb1a1wn1e1Am0B633530313313101048501h539110172u2350912i5194214n2f83k171wz0dxc023111253523dI0l251d807530441124401221a521ci13201020135162o1b14311214wb271w850103452403410D80Lj33111e129wc7Io927wSY4551A71i010s010t0101111wVHa0wq0wq0wq0wq0"),
  ("Case_Ignorable", "w8060b0w4010x9040104021L7B541409110D36Bl050wiwd10111110wd0b5aa10w40akg0y871913w2010uqxtawra4020onwc2wd07158wawqwo010474036a1d0f0wr04380k1q021wq041412230u130b1wq0441140k1m510wr020138071b1u0wu0c0wj030wo012521371b1t0wr0206051k1s1wq14380k1t0xa07210xs026b8y50289016xb1r01010wod14115a1w490y93151121p142g3d02160f0y10Oj2Zg2t1u1u1x2116802a3050we4wk0x31w30yp2419062C2120wr0161010276920w808uwi3wh0141050w98c1w132112wp0113012wr721x25xk21c16406031wjx0d0w3y7Jb012b2d2d2d1c481a02024wi41910d0gcwkw1yxa1yk2z10f0y3w0wg0K40w533450y05y02YNb0wEa5Dm0y531910s3xi1ew2xg0n2ya231803040p150zr1qhd0w77pawf2wh02321h0l1x452121c080w40b0wk012215110r0e15110y7492ys02040Qxt0zngNff30cfw3020Ae07060b0w4010wg0we1x50l2Lh0C90zp4wx651wa18No21153w9240Aa1Nf3w70q410F51xh3x8awi3yu0wnewa021a2wi3212040a0wj2w5417x00c1wl8a320y2220116020A2037l1wq130w6634x85d01010e1xn72210n0xm5104111Cl36111r1xn72011yd0102510y822314Db811D811040zk32140w19w9523809522wfc11I361510xkl261111yt530111610xa13010G61b1wl45010n0AM1g6eGXpb32xNg4ws693Lc2w91Kh0x1gx2111Mwr31611yG6113zWjwe2mMh29f26u3zo2xwqwn4wi80e0m41ewHr61g2611145wuw20A5dGr0wu3Lb4D61Sn6yg7xV74VKLs0uy2z4Cm"),
  ("Cased", "x3p6pwg0a0405m1u1B8134Bl1w471u4y30wb32123106012101j1xk1ze8Aa1w69w9xYiw610502wb13Qlxn25xD8a5wb22x2B5x2Dt252w625271010101u2wl1610321633254c5216yn0d0gcy8040291034601010131540235440hw031VbwkwWgCb6331cw61050wwCpweitz8y8331wu211017l412Vfwb1d6xhQye6c4wxap6pwCbxhy3w44w4yna1e16111a1e1611Jh0221wa18wDcwjdwjy0lalxYlx1RS1x1Ww6xm1x8112021231b10161x21327161r131410361Ft2o1o1u1o1u1o1u1o1u1o17wXf91j65DdwuxDox5xydp6p6p"),
  ("Changes_When_Casefolded", "x3pxs0am17w10101010101010101010101010101010101010101010101010101010201010101010101011101010101010101010101010101010101010101010101110101011101112231112311110101110201112101130711111101010101010101020101010101010101021101210101010101010101010101010101010101010101010101010101010107111201310101010Ct0wb0103080601210111g18m0c231101010101010101010101010112110112wjwh010101010101010101010101010101010901010101010101010101010101010101010101010101010101010111010101010102010101010101010101010101010101010101010101010101010101010101010101010101010101010101010101010102w6wh0xYjw61050V45xD896wb22Fa0101010101010101010101010101010101010101010101010101010101010101010101010101010101010101010101010101010101010101010101010101010101010101010101010101051201010101010101010101010101010101010101010101010101010101010101010101010101010101010101010101010109785a78785b010101087gwg22255225b3c45225Ei03160wefj0VcpwXbwgwh0122010101310208210101010101010101010101010101010101010101010101010101010101010101010101010101010101010101010101010801040wwEm010101010101010101010101010101010101010101010j010101010101010101010101010zb010101010101030101010101010101010101010101010101010101010101010101010101010a010111010101040102010301010101010101010101414101010101010101310113050101010o0XmxhQye6c4wxapwDcw8zcw4A1a1e1611wV3wjA2lxZmw0RT2w0wwPkw2"),
  ("Changes_When_Casemapped", "x3p6pwr0am1u1x11xl1c1d2d21104xu1h6q111011311011142011207020113550a1Ab0wb32132106012101j1wf3w1141z88Aa1w6aw7xYjw610502wb22Qlxn25xD8a5wb22Au030g0ykA0201yo252w625271010101u2wl1610321633254c5216Ei03160r0hw031VbwkwWgyj11117y87331cw61050wwCpweirzad2wu9e32241o1t2146o1Wn0sxhQye6c4wxap6pwCbxhy3w44w4yna1e16111a1e1611wTqwjdwjy0lalxYlx1RS1x1wwOjx5"),
  ("Changes_When_Lowercased", "x3py8m16w201010101010101010101010101010101010101010101010101010102010101010101010201010101010101010101010101010101010101010101011101031101112231112311110101110201112101130711111101010101010101020101010101010101021101210101010101010101010101010101010101010101010101010101010107111201310101010Ea0103080601210111g18w408010101010101010101010105020112wjwh010101010101010101010101010101010901010101010101010101010101010101010101010101010101010111010101010102010101010101010101010101010101010101010101010101010101010101010101010101010101010101010101010102w6yv6w61050S9xnxDp06wb22Fa01010101010101010101010101010101010101010101010101010101010101010101010101010101010101010101010101010101010101010101010101010101010101010101010101010901010101010101010101010101010101010101010101010101010101010101010101010101010101010101010101010109785a78785b010101087o7878784b4b3c4b4Ei03160wefj0VcpwXbwgwh0122010101310208210101010101010101010101010101010101010101010101010101010101010101010101010101010101010101010101010801040wwEm010101010101010101010101010101010101010101010j010101010101010101010101010zb010101010101030101010101010101010101010101010101010101010101010101010101010a010111010101040102010301010101010101010101414101010101010101310113050101010o0SBqpwDcw8zcw4A1a1e1611wV3wjA2lxZmw0RT2w0wwPkw2"),
  ("Changes_When_Titlecased", "y4pwr0wan17101010101010101010101010101010101010101010101010101010102010101010101011101010101010101010101010101010101010101010101020101220102030502031302010102040203010203010401111101010101010101011101010101010101012101030101010101010101010101010101010101010103010101010101010108021104010101015111011311011142011207020113550a1Ab0wc0103032i0rw31132101010101010101010101014102020wlwg101010101010101010101010101010101090101010101010101010101010101010101010101010101010101020101010101011101010101010101010101010101010101010101010101010101010101010101010101010101010101010101010101010wiw7yV75xD8810Cl030g0yl0101010101010101010101010101010101010101010101010101010101010101010101010101010101010101010101010101010101010101010101010101010101010101010101010101650101010101010101010101010101010101010101010101010101010101010101010101010101010101010101010101885a78785a7878d2787878411603211832187a211G10w2f40W6pwY2wg10311010106020a010101010101010101010101010101010101010101010101010101010101010101010101010101010101010101010101010801040cw61050wwCq010101010101010101010101010101010101010101010j010101010101010101010101010zb010101010101030101010101010101010101010101010101010101010101010101010101010a010201010101040401120101010101010101010b01010101010101040102030501010q0Wn0sxhQye6c4wybpwDkw8zcw4A0a1e1611wVswjz1lxZmw0RT2w0wwPmw2"),
  ("Changes_When_Uppercased", "y4pwr0wan171010101010101010101010101010101010101010101010101010101020101010101010111010101010101010101010101010101010101010101010201012201020305020313020101020402030102030105111111010101010101011101010101010101011111030101010101010101010101010101010101010103010101010101010108021104010101015111011311011142011207020113550a1Ab0wc0103032i0rw31132101010101010101010101014102020wlwg101010101010101010101010101010101090101010101010101010101010101010101010101010101010101020101010101011101010101010101010101010101010101010101010101010101010101010101010101010101010101010101010101010wiw7yv5wb22Tg5xD8810Cl030g0yl0101010101010101010101010101010101010101010101010101010101010101010101010101010101010101010101010101010101010101010101010101010101010101010101010101650101010101010101010101010101010101010101010101010101010101010101010101010101010101010101010101885a78785a7878d2wl114010321140332187a21140Fr0w2f40W6pwY2wg10311010106020a010101010101010101010101010101010101010101010101010101010101010101010101010101010101010101010101010801040cw61050wwCq010101010101010101010101010101010101010101010j010101010101010101010101010zb010101010101030101010101010101010101010101010101010101010101010101010101010a010201010101040401120101010101010101010b01010101010101040102030501010q0Wn0sxhQye6c4wybpwDkw8zcw4A0a1e1611wVswjz1lxZmw0RT2w0wwPmw2"),
  ("Dash", "we0wI80wk0yTm0wx60xzb5wu0w80f0Hi0yB7020w0140s0Jc0j0yi0wSSh1w60a0Ae0yUm0F80"),
  ("Default_Ignorable_Code_Point", "Ai0Qm0S30xZu1wQ71xn4xys4q4wifzL00wSKkfCm0A50xh8wOCs3ALq7VTRtzD3"),
  ("Deprecated", "Fj0wGj0xHd010xAc1xFd5Rf1ZKGg0"),
  ("Diacritic", "y1010x90604021L7A31755h14091D54Bn0wog1q101110za741za14132x5qxtawraw31z27wa9grwu0g033s0xc0g0yh0g0yh0g0wg2wt0g070yq0yh0g0yh0g0yg1g0z00z0510ye0d4xd1r0101041x4211x00yj011w9144p610a1Rn2Zi1Aoa90G62F3720whe2ayb0f0w78wn1ze1x25xko406022wjx0xrbw6aJb012b2d2d2d1yIq2F70La5yc3y20wvDr0c110s1xk1ew2y92yg1Bg0rhwq3w50y20c0w50zp2x33wk0y7492z41Qxt0TpfDm010wg0we1x50Tk0wC551wa18V41Nd5w70q4Hr2x8awi3B60wa0xa1yr1x00xe092yb1An1xj0g0o634xr211d1y2030yu1D31z20yp1ym0Dl1Da140A10xl0i0xj0Ii0Da011xj0Jg0AMoeGYb0xNg4ws6N61Mjgxi1Mwe31611DD1we2mMh2358726u3yVpwuB86H30wu3Tm1Sn6yg212"),
  ("Emoji", "w406059yi040DHh0c0Bu0m0xs5f1Gq1c0Ab0pa42Bd0Ce1a090wr314902021204020112030318250105bb1201110i021i5101131502141b15120511011k155132040202510201010603060a1f02040104210b1wh290e0e0H01Jt2j1wk040wE20c0Oc010yUP80Bg0A51c1e029xdp11n0k028l1Ajw22yi21122xk221De1x0b51n7127c0232041d120819052c28220104060306xnwhx757224930113029Cab40E4wf191Atyjc395wo7e2a68"),
  ("Emoji_Component", "w406059DJp0Br0wWXd0xxYjpLb4wKu3VJwpy2"),
  ("Emoji_Modifier", "zEAr4"),
  ("Emoji_Modifier_Base", "Fzn0C20g3yYPh0wt22022yo12ali3042127010o0Bf140l041Aj234xl0g290b0Nh02087609922wp0wu11110h21cCc2wb8"),
  ("Emoji_Presentation", "EFr1Bj33020Lp1l1wjbwc0j0d081h1518050l0711040207041s0w40104210wu2o0e0Wm1wk040yWN80Bg0B4029xdp10o0k02412l1Ajw1c81x71lcwb44cg303x8101B02x0d31ni0q1d0xoxmwhx760322243b178Cab40E4wf191Atyjc395wo7e2a68"),
  ("Extended_Pictographic", "Ae040DHh0c0Bu0m0xs5f1Gq1c0y20x80pa42Bd0Ce1a090wr3151b1ykayo2a1010603060a1f02040104210b4we290e0e0H01Jt2j1wk040wE20c0Oc010yUP4D7d2w00wt5c1e029iwprea0k028139Iu5F78Dhwhz3ynbxnwbc3wp7a5w97u3a32wucwf191J6D8wwt"),
  ("Extender", "As0M91Xa0J70Wl0T80z30xJf0wp0Om0Hq0x60ABa0wc4ya1y02YNb0wN70wv10m0zd0yf0l1RKk0xzi1wLq0r040wMt0yn1L22wDm0QK31wC2110ZB01wCn0Wf2"),
  ("Grapheme_Base", "w1y1w2c1O4yj72546101j1C67Aa1w62wi22wf01020209q45h9b01welf1y78061204w0201ttxqb0ewb963n4090307e1o501a5uhwawqwn10138312792s1117212l1610333011612110d1124n5015412l1611111142o310792210c018121l16111433801130f14b708117212l16111430206121f1124hb015321331101131323b5011321230lk6217121m1f3033j2202149791a121m19143111112111h1114912ea121w9201152121142194p211h3n18102691667922cwg11b78cw6110141n1019119024109923w1n2q10101d1w4i05024wi7151cw6wd4060212o233f4c11251e1w810502H4132610132w9132w1132610132e1wp132x45s3p6xn252Qh3xq7h309i229hec12fwk207711b839696a596xq742w2105x7au43224115703wa24bwc4p6a3wp213wo10901185d9696dxowg7014191s9b2w041203wo102210318wg815e3wu5wb2ab0d0731512205B5x2Dt252w625271010101u2wl1e1d251i22181a5n7whg12q1c3w1x1zf4QemalwWd2w01G2315wd10502wo71fm9616161616161616w2y0w3p1xqcBrqwq6f1xn4y75wb1y01xn9wg1ZJs3wn9G6kwf40aw02xh258Bj211017lf12131o24496wo8x5aboc1w68ob1bt6wg11412f1a461o1w96121b21710292w01wj1031242010og27b5252596161ws4yn1113396GObcm4whDTkGo2ycw76c4501n141011111z0gJa2wm70w1fg9mw31i13441za4A12u352525223616d12b1p1i111e2dw3yt524wd3xp1c30wgwdz7s3whgq4w49t5w6at1w54dwbA2296w44w44w88wkbb1e16111a1e16113wkcF09la7o51wa18x75201wc11302m1x988whi115w13q50x2wo4j2wff3121sa8787x1w1w56b9wm3s2q5p73c6xixawowjdwj7wac96w68n81Bmu1wa3021g2wsw88lb8mh43w7rkm901wmf64t1120cwh412113eo799w4509h8w312bwk99411f1jbh1r31102511x1610131e1a6wf12d98117212l161114301013212220c6s910201w61011f011301211w8wo81301k1012uwg11601110202389Abwf1163202qw5wj811023b96cjwb10116011696jsq51409mAuwf9020y7xkc72027111n141140131299x872wa8313r0aw8614790613wed028dxa79Arw2e9681w6e015as3w0p07020xd6111w6l09965111w541101079F0i239e1w481101mxo0fwidYny9yh14bB9xS1y5dwyhh5pzzq5NoCyltc239wTtNa7u194xi196t70awg7ea9161k5iItwqBcxsy8xc5wobcx23c1eBGs8wDswa9EE7316111Ebf0t220e38HnxHeyd5c38792020zxuD16J1A1ymwtCsaw72ws1033l17t4wtlx330ytjcjcxo9ozbxm1x8112021231b10161x21327161r131410361Ft2Ec2N3wo3wj71d16wAou65Ddwuzmwda62941Fatiwc4950Jur49Bst2a40Kf613111e1Ba28whx5704941Uax5xewtB831q1110201913101060401010121110201010101011102316131310191g52141gwl1Dmwc4y6ce2e1e1w5aAiwpsdwc4871e5zuwvm4g3c3yp4y16b40fb4wo896w88t2b41x0Ftcd2c395wo7e2a687zm1y8wx7wIJ1w1zEu6C42AZqeCT1fP1xMhMewMiAz95zG6"),
  ("Grapheme_Extend", "ToyiDr6Dfwd10111110xaawhkg0y86252113w40uqxtawr890o3181214wc2ws8wbn1w0wo010474036a1t0wr010238090a1q021wq041412230u130b1wq0441140k1m510wr011138072a1u0ws010c090w9030wo012521371b1t0wr02020305171b1s1wq110238090a1t0xa040221080xj026c7y5028b6xb1r01010wod14115a1w490y93151121p142g3d02160f0Rl2Zg2t1u1u1x2116802a90we210yo1w30yp2419062C2120wr0161010276920whuwi3wh61050w98c1w132112wp0113012wr721zs21c16406031Bcx1Ls0B9w1yB12zh0y3w0Mr5yc1wvH1319w11xi1Do03040p150zr1qhd0w77pawf2wh02321w80x552121c080wg0wk012215110wb180Cl02040Qxt0SofgfGp1Og0C90zp4wRr21153w9240Aa1Nf3x34F71xh3x8awi3yu0wnewa021a2wi32170wu2w5417x00c1wl8a320y2220116020A2037l1wq11010m0e634x50251020124210e1xn72210n0xj02510201111Ci0236111r1xn72011yd0102510y822314Db811Cs0a11040zk32140w19w9523809522wfc11I361510xkl261111yt530111610xa13010G61b1wl45010n0AMh06eGXpb32xNg4ws6wxp0x13xj0PIh1zWowe2mMf012448726u3zo2xwqwn4wi80e0m41ewHr61g261114y70A56H30wu3Lc3D61Sn6yg6VNIay2z4Cm"),
  ("Hex_Digit", "wh975q5xAV0975q5"),
  ("Hyphen", "we0z30wE40zXj0xzb1yRo0Sq0wSR70Ae0xp0"),
  ("IDS_Binary_Operator", "HSr129L10"),
  ("IDS_Trinary_Operator", "HSt1"),
  ("ID_Continue", "wh97p401pwg0a010205m1u1Jn4be47010hyn11231064101j1xk1ze142Aa1w6206w98wd101111108q43ta5xb4y817291i20gwr2y7ewm40202weir4a5n158xc1z4291i17212l1610332821238041142ba0102215412l16111111201441223073107fb218121l16111429121220f329961217212l1611142821227241142910g115321331101131323b4432132060e9gc121m1f2812137112202329g317121m19142812137161132912cc121wj1214537429a5121h3n181026304510176921dwq5e19w8110141n101m2410161923w10n169b01010491w44j1h1w490wqxb6xf2w610502wb1Fm132610132w9132w1132610132e1wp132x42298efgxn253Ou2g1p5xc3a7l9lbjcc1211cxl304129w221a6xq7wb5x7au1b4baw824bwc4p6aw6r4x01s2a69d08d1fwixe39h8cymcwo893wh2a5wb22g21w75M6252w625271010101u2wl1610321633254c5216x41j0s0d0gcwkc403bh0402910256010101f235440hw9xTdCb68cw610502wo70fn96161616161616161w0Ll2pe14244xn261xr135wb1y0hw0whfLgBVjx2Swmx5we2Dk3rkwg491ylw682y92x4211017lwm40jwkcx7a96n301wh2w4cs3x2ea6u1wn9d296m3xao22f24a5252596161wb1d6yt11296GObcm4whDTkGo2ycw76c45b1c141011111yew2Glix12wmw9b4fgf31o2w141zaj97p401pbxq35252522w4b1p1i111e2dw3ytx7wlzc0z6s3whf0w0w0dt5wb5t2w44714wbA2296w44w44w88wkca1e16111a1e16113wkcF09la7o51wa18x75201wc11302mam9ux3i11alapx8wo61x231157121s2240w1s3sw471tpwmalaidhyhxawowjdwjdw8896w6341mD2wa1131g2wow1a08w1w0lwbkrm9x8w0f9ws70do796wl19438w4209x6431c10w4h1w563x0610131e197wr596317212l1611141921222060562634b910201w61910201317d1txc5943ux71089Abwm28n5w3x230b9w7wp796jsq2e4966Auwry8xbl72027111t1128c9x872we2711rx0808xb30ixaBdw1f9681wd18f9ot2l1dxb6111wc3011188965111w5111579F0m9g1w934daxn0xhYmy9yhhB9xS1y3fwyhglazzq5NoCylwqwTtNa7u196xg196t24bwn93c99k5iItwd39Bcx1z4xc4wp7gx2111b1eBGs8wDswa9EE7316111Ebf0t220e38HnxHeyd5c387931zFn9Lmwe2mMf4358726u3zo2J9xm1x8112021231b10161x21327161r131410361Ft2o1o1u1o1u1o1u1o1u1o172wiLgwn4wi80e0m41ewzju65Br61g2611145wuw20yjwd3d2940FbuhwqK5waBswbKk613111e1Bab6waxd49wCc31q1110201913101060401010121110201010101011102316131310191g52141gyL19wx7wIJ1w1zEu6C42AZqeCT1fP1xMhMewMiAz95zG6SWX8Cm"),
  ("ID_Start", "x3p6pwg0a0405m1u1Jn4be47010z541123106012101j1xk1ze8Aa1w6206w9x9q43wewbw411y510f171a220g01ttxqb0ow191405l409030no7a5n15hwawrwm30i079ff47212l16103330g0d112e1a085412l16111111w0310j2g8121l16111430i0f1n0b7212l16111430u112f0h015321331101131323bm0wl7121m1f30q22021u047121m191430w0111f1h8121w920g05282o55h3n181026wrwg11c6wr110141n101911902410l3w10x171w4r4ymwbk0g5433031724cc0hw610502wb1Fm132610132w9132w1132610132e1wp132x4w6fgxn253Ou2g1p5xc3a7hdiehec12fwkw4040x5xq7w9105x7auwit24bwc4pwnm9wlxk0y0wfh7wntd1awcqw4wa2aw42a5wb22wa31511305B5x2Dt252w625271010101u2wl1610321633254c5216yn0d0gcy80402910256010101f235440hw9xTdCb6331cw610502wo70gm9616161616161616Mn2p874244xn441xr135wb1y0hw0whfLgBVjx2Swmx5we2Dk3fa1kwfgu2xhw882y92x4211017lf12131mtwkewix053011bramps7wfs0g419a41w9n217km303wi1031242010o22a72c5252596161wb1d6yltGObcm4whDTkGo2ycw76c450191c141011111yew2Glix12wmw9byn41zaw5p6pbxq35252522w4b1p1i111e2dw3ytx7wlDjs3whwgw0dt5w6at2w44714wbA2iw44w44w88wkca1e16111a1e16113wkcF09la7o51wa18x75201wc11302mam9ux3i11alapx8wo61x20f3121swbs3sw471rrwmalaidhyhxawowjdwjdw4w7r9mD2wa61g2wssa08lwbhwfkrmcwlwq120dwdw1oqw4t0208w330cwge3l010w4h1oj1x1610131e197wfw77212l16111430i0c4u910201w610p010wdwli3k2uwgk110Atwfwa3w5wgk0wswbd0x9qw66Auwcynx1w072027111nf010y172w7g010s0aw870l0bwej0ixaBdw1w081w5h0wityj6111w6l0p5111w0e0Fhif01c1w2z00xhYmy9yhhB9xS1y3fwyhh5pzzq5NoCyltwUqNa7uhxghtiwgg3w0k5iItwdBpx1z4xc50x4cx2110sBGs8wDswa9EE7316111Ebf0t220e38HnxHeyd5c3879BC7xm1x8112021231b10161x21327161r131410361Ft2o1o1u1o1u1o1u1o1u1o17wXfu65Ddwuzmwda6g0FbtiwcKjrCbt20Ku613111e1Bawsx570wCq31q1110201913101060401010121110201010101011102316131310191g52141gzNiwIJ1w1zEu6C42AZqeCT1fP1xMhMewMiAz95zG6"),
  ("Ideographic", "HTi1p8e2wv4BVjx2QV4SQuGo2ycwvAg0rBGs8wDswa9EQjHnPL0wIJ1w1zEu6C42AZqeCT1fP1xMhMewMiAz95zG6"),
  ("Join_Control", "DLk1"),
  ("Logical_Order_Exception", "yTl4yu4xXa220wCO712011"),
  ("Lowercase", "y4pwg0a040w5n1710101010101010101010101010101010101010101010101010101011101010101010101110101010101010101010101010101010101010101010102010122010203140203220201010201110203010212260202010101010101010111010101010101010112010301010101010101010101010101010101010101010101010101010101016202110401010101x61w471u4y30wc0103023i0rw31132101010101010101010101014102021wkwg101010101010101010101010101010101090101010101010101010101010101010101010101010101010101020101010101011101010101010101010101010101010101010101010101010101010101010101010101010101010101010101010101010whw9yv4wb13Tg5xD8810yoB5x3010101010101010101010101010101010101010101010101010101010101010101010101010101010101010101010101010101010101010101010101010101010101010101010101010181010101010101010101010101010101010101010101010101010101010101010101010101010101010101010101010101885a78785a7878d2787878411603211832187a211ys0d0gcyg03130r04040218340w2f40W6pwY2wg10311010104011173010101010101010101010101010101010101010101010101010101010101010101010101010101010101010101010101011701040cw61050wwCq010101010101010101010101010101010101010101010j010101010101010101010101012z9010101010101210101010101010101010101010101010101010101010101010101010101019101020101010104010201210101010101010101010505010101010101010401020301010101010m21012Vfwb1d6xhQye6c4wybpwDkw8zcw4A0a1e1611Jh0221wa18wFewjz1lxZmw0RT2w0Wx1pq61hqpq310161aqpqpqpqpqpqpqpqpqrso15qo15qo15qo15qo1510wXf91j65DdwuxErw2"),
  ("Math", "wc0g2w00t010we040w60w00Sf220q122M02BY40r2b030d0e3l4b4x3c403144i04029102560312112153d10x6n1511414w01061eDj83k1xs0uq10o0b6Jb1c945412134e01025b751wq010t392Fqx1D8Lfwhk25wTGg0Vh510A70g2t010t010z7063yOh1wQVmxm1x8112021231b10161x21327161r131410361Ft2Ec2wiAVl31q1110201913101060401010121110201010101011102316131310191g52141gwl1"),
  ("Noncharacter_Code_Point", "xAO0w0Lu1xBB01xBB01xBB01xBB01xBB01xBB01xBB01xBB01xBB01xBB01xBB01xBB01xBB01xBB01xBB01xBB01"),
  ("Pattern_Syntax", "w2ea6q310q3w3610111011404030n0w00DDon8e2i19EqS6A5P9uwAfLgz3Hd24of0wSOa1Dd1"),
  ("Pattern_White_Space", "94i0y70DHc1o1"),
  ("Prepended_Concatenation_Mark", "wNh5Bt0wi0Hc1xi0xDDs0f0"),
  ("Quotation_Mark", "w3040z70f0DFu7p1yRq0Jn3d2wSX73B3040xs1"),
  ("Radical", "HH0p1xqcBr"),
  ("Regional_Indicator", "zDOlp"),
  ("Sentence_Terminal", "w20c0g0wHk0zn2Ap0wc2Ct0wu01031Ee1wUs1Uf041Tt0Bc1Bi050F41Gd3A71a121t2B11x31Zq192yQm0d0m1Iq0wvA20Dm1Ca030Ha1xo1y20zs1zn2zk1D10QYe031Ae0c0g0x30xXe1wF64wd3B31yo3z32z5160g1xq111yf0Ej1yo1H115eyc1D12Ll010D31xp1Ih1Ra1xc1Pvl1z90x31b0Mq1Eh0PTa0CYu0"),
  ("Soft_Dotted", "yc1Ba0E20u0wl0k0Fa0y5010BPn0wk0d030z80A20Ii0Bs1xZe0yOVf1wj1wj1wj1wj1wj1wj1wj1wj1wj1wj1wj1wj1xDc0Eq1q0"),
  ("Terminal_Punctuation", "w20a010b130Vo080Lh0wq0xa0e012Ap0wca10Ci1wnew00Dd1wEs1Ah045F11Ue7Tt0z02x91A2230w8321F41Gd3A71a112t2B14x01Zq192yQm0d040a01131Ip1wvA11Dl2Ca4Ha1xo1y20zr2zn2z30g1D10QYc213Ae0a010b130x3020wys0wh0wBb0Bd0F01zs5x65xr3Zm4wd3B36yj3z32z5160g1xq4yf0Ej1yo2c1Gh33eyc1D12Ll010D31xp141Ib2we0Pp1xc1wGl4NOq1z90x32a0Mq1Eg1PTa0CYt3"),
  ("Unified_Ideograph", "IVdBVjx2QV4SZl11011a0101122xCS8wIJ1w1zEu6C42AZqeCT1fP1zQjAz95zG6"),
  ("Uppercase", "x3py8m16w201010101010101010101010101010101010101010101010101010102010101010101010201010101010101010101010101010101010101010101011101031101112231112311110101110201112101130702020201010101010101020101010101010101020201210101010101010101010101010101010101010101010101010101010107111201310101010Ea0103080601210111g18w40223010101010101010101010105020112wjwh010101010101010101010101010101010901010101010101010101010101010101010101010101010101010111010101010102010101010101010101010101010101010101010101010101010101010101010101010101010101010101010101010102w6yv6w61050S9xnxDp06wb22Fa01010101010101010101010101010101010101010101010101010101010101010101010101010101010101010101010101010101010101010101010101010101010101010101010101010901010101010101010101010101010101010101010101010101010101010101010101010101010101010101010101010109785a78785b010101087xa3c3c3c4b3De040322220346010101323a150qfj0VcpwXbwgwh0122010101310208210101010101010101010101010101010101010101010101010101010101010101010101010101010101010101010101010801040wwEm010101010101010101010101010101010101010101010j010101010101010101010101010zb010101010101030101010101010101010101010101010101010101010101010101010101010a010111010101040102010301010101010101010101414101010101010101310113050101010o0SBqpwDcw8zcw4A1a1e1611wV3wjA2lxZmw0RT2w0Wx7pqpqpq01120212317qpq1132716r113141036rpqpqpqpqpqpuow2ow2ow2ow2ow20zN3w2xzgp6p6p"),
  ("Variation_Selector", "BHh210wZCqfXOF3Cm"),
  ("White_Space", "94i0y70q0AUj0xLdat150wg0zA10"),
  ("XID_Continue", "wh97p401pwg0a010205m1u1Jn4be47010hyn11321064101j1xk1ze142Aa1w6206w98wd101111108q43ta5xb4y817291i20gwr2y7ewm40202weir4a5n158xc1z4291i17212l1610332821238041142ba0102215412l16111111201441223073107fb218121l16111429121220f329961217212l1611142821227241142910g115321331101131323b4432132060e9gc121m1f2812137112202329g317121m19142812137161132912cc121wj1214537429a5121h3n181026304510176921dwq5e19w8110141n101m2410161923w10n169b01010491w44j1h1w490wqxb6xf2w610502wb1Fm132610132w9132w1132610132e1wp132x42298efgxn253Ou2g1p5xc3a7l9lbjcc1211cxl304129w221a6xq7wb5x7au1b4baw824bwc4p6aw6r4x01s2a69d08d1fwixe39h8cymcwo893wh2a5wb22g21w75M6252w625271010101u2wl1610321633254c5216x41j0s0d0gcwkc403bh0402910256010101f235440hw9xTdCb68cw610502wo70fn96161616161616161w0Ll2pe14244xn21221xr135wb1y0hw0whfLgBVjx2Swmx5we2Dk3rkwg491ylw682y92x4211017lwm40jwkcx7a96n301wh2w4cs3x2ea6u1wn9d296m3xao22f24a5252596161wb1d6yt11296GObcm4whDTkGo2ycw76c45b1c141011111yew2ze6C0ix12wmw996fgf31o2w2010301010101z1j97p401pbxq35252522w4b1p1i111e2dw3ytx7wlzc0z6s3whf0w0w0dt5wb5t2w44714wbA2296w44w44w88wkca1e16111a1e16113wkcF09la7o51wa18x75201wc11302mam9ux3i11alapx8wo61x231157121s2240w1s3sw471tpwmalaidhyhxawowjdwjdw8896w6341mD2wa1131g2wow1a08w1w0lwbkrm9x8w0f9ws70do796wl19438w4209x6431c10w4h1w563x0610131e197wr596317212l1611141921222060562634b910201w61910201317d1txc5943ux71089Abwm28n5w3x230b9w7wp796jsq2e4966Auwry8xbl72027111t1128c9x872we2711rx0808xb30ixaBdw1f9681wd18f9ot2l1dxb6111wc3011188965111w5111579F0m9g1w934daxn0xhYmy9yhhB9xS1y3fwyhglazzq5NoCylwqwTtNa7u196xg196t24bwn93c99k5iItwd39Bcx1z4xc4wp7gx2111b1eBGs8wDswa9EE7316111Ebf0t220e38HnxHeyd5c387931zFn9Lmwe2mMf4358726u3zo2J9xm1x8112021231b10161x21327161r131410361Ft2o1o1u1o1u1o1u1o1u1o172wiLgwn4wi80e0m41ewzju65Br61g2611145wuw20yjwd3d2940FbuhwqK5waBswbKk613111e1Bab6waxd49wCc31q1110201913101060401010121110201010101011102316131310191g52141gyL19wx7wIJ1w1zEu6C42AZqeCT1fP1xMhMewMiAz95zG6SWX8Cm"),
  ("XID_Start", "x3p6pwg0a0405m1u1Jn4be47010z541132106012101j1xk1ze8Aa1w6206w9x9q43wewbw411y510f171a220g01ttxqb0ow191405l409030no7a5n15hwawrwm30i079ff47212l16103330g0d112e1a085412l16111111w0310j2g8121l16111430i0f1n0b7212l16111430u112f0h015321331101131323bm0wl7121m1f30q22021u047121m191430w0111f1h8121w920g05282o55h3n181026wrwg10d6wr110141n101910a02410l3w10x171w4r4ymwbk0g5433031724cc0hw610502wb1Fm132610132w9132w1132610132e1wp132x4w6fgxn253Ou2g1p5xc3a7hdiehec12fwkw4040x5xq7w9105x7auwit24bwc4pwnm9wlxk0y0wfh7wntd1awcqw4wa2aw42a5wb22wa31511305B5x2Dt252w625271010101u2wl1610321633254c5216yn0d0gcy80402910256010101f235440hw9xTdCb6331cw610502wo70gm9616161616161616Mn2p874244xn621xr135wb1y0hw0whfLgBVjx2Swmx5we2Dk3fa1kwfgu2xhw882y92x4211017lf12131mtwkewix053011bramps7wfs0g419a41w9n217km303wi1031242010o22a72c5252596161wb1d6yltGObcm4whDTkGo2ycw76c450191c141011111yew2ze6C0ix12wmw99yq010301010101z1w5p6pbwo2u35252522w4b1p1i111e2dw3ytx7wlDjs3whwgw0dt5w6at2w44714wbA2iw44w44w88wkca1e16111a1e16113wkcF09la7o51wa18x75201wc11302mam9ux3i11alapx8wo61x20f3121swbs3sw471rrwmalaidhyhxawowjdwjdw4w7r9mD2wa61g2wssa08lwbhwfkrmcwlwq120dwdw1oqw4t0208w330cwge3l010w4h1oj1x1610131e197wfw77212l16111430i0c4u910201w610p010wdwli3k2uwgk110Atwfwa3w5wgk0wswbd0x9qw66Auwcynx1w072027111nf010y172w7g010s0aw870l0bwej0ixaBdw1w081w5h0wityj6111w6l0p5111w0e0Fhif01c1w2z00xhYmy9yhhB9xS1y3fwyhh5pzzq5NoCyltwUqNa7uhxghtiwgg3w0k5iItwdBpx1z4xc50x4cx2110sBGs8wDswa9EE7316111Ebf0t220e38HnxHeyd5c3879BC7xm1x8112021231b10161x21327161r131410361Ft2o1o1u1o1u1o1u1o1u1o17wXfu65Ddwuzmwda6g0FbtiwcKjrCbt20Ku613111e1Bawsx570wCq31q1110201913101060401010121110201010101011102316131310191g52141gzNiwIJ1w1zEu6C42AZqeCT1fP1xMhMewMiAz95zG6")]

/-- The code points assigned in each version, oldest first. -/
def ageRanges : List (String × String) := [
  ("V1_1", "0L54twpxq7wf19mx7q1i1403056101j1wc16301010101hdb1x31b1w99wl21213r2721wow6261w710w7918cq54n0e0301p5idd2x9241e1t29Ln21wl2h243og217212l161033201621229041142k7025412l1611111120144122b3107ec21610121l16111429121220f059h217212l1611232731228141124ah11532133110113132371244321390fbe217121m1914461213719149i117121m191446121371701149i117121m1f452213908149zlwq4sw61102110206316121010211c122410152921Jgw6aw7404xr5x55xjyB9zu5xr6l252w625271010101u2wl1e1d251i22181wf1mw463qhaw6huwpqwgdxslCoe01yrz9w5ralzelzpaxhgj6xnzl3132r1w31013301626eu3n1dxB5wo701xl452y06w84y01fy3s3w4sr3wifb4wf1yp4y52uBXnQS7MzdBZ5Bo6c46o141011111yew2Gngx12wmw9bw53ck491i1342101za201y02y0352525223616e2"),
  ("V2_0", "wJug1ck0xJ7x91w17q45101k3610yYr0M00wByiGObxuxz1xJR81xBB01xBB01xBB01xBB01xBB01xBB01xBB01xBB01xBB01xBB01xBB01xBB01xBB0zHH5"),
  ("V2_1", "DQp0wXK30"),
  ("V3_0", "L63u72hyo4wi0a4xp8j0yn030101010u0c0x40c0wb123xu1A10Be2y5150f0wb41d1t3qwmwhwM111h3n18102630451017i2H10wc0n270121e20whw2141116336pIj61x010132610132w710132u101326101326161m1u1013261w71i6rw4xmcP99s3xizjxu39me196xp8waxv30o5y22wj1xn1xa0ya8Dl0ys01tze1Jn7w20xo1HqD7wJdp1xqcBrqbwt230GcnNqBV9QXhwBh3h2f1b1210RZu0wE32"),
  ("V3_1", "wwk1xzM9w0wFpu13cqAqw62w6wSD4Csaw73AoMjxm1x8112021231b1013111x21327161r131410361Fr4Ea4wiFPawIInQO7MeTCRa0uy2"),
  ("V3_2", "Mh0En0jcyb1s0zn1wq12121wifG91Fb0xJh1wNoc16bm9jcc1211xFr0644074d0x01wj6xkeAdbCpdz00uwkE5jzr9xq7m1xsb29C5dxsr4fD8LfwH62xp181y10CnfxjexjeZFe1g0c030RSbwrYe03fwm1wd0Ci1"),
  ("V4_0", "Mi0i2yq1x1gxi752zr4Lk398x22zp1f0we2t2J20At0x5010zc0xm2d0x50ws0z57B71xYq0i9Des3b4b403wa24yew0ToyeSu1Cd0Q81En0Ds1yn7e1wA2dwW91wi0wc1xg3Ac3y61w00BVkx1wKWa0xb1J5b1p1i111e2dw3yt524wd38Nit10za1w7xh29Wh5201wc113020wSvaxoGl0VTz4Cm"),
  ("V4_1", "N9aDu4A43Ct1Af0w32x50i0wr5CotM00xi0Km0wg0ww91Eg110Di0x10x10w80w00w00w00f0w80n1w0pwMmwa6p6941w1r21W7xpQ6116wi4t3wm0xi0f0PoaNe0y81ia5fDm6W25Cjwf1wfw2ydewdawm90gm9616161616161616w2n41Z0fAj0YxclwY0mCgwcQXbycVg9V0xcM6w44dwOs31157121q424888wRAnx7wA21"),
  ("V5_0", "NkdEk2Fr0wb5g3Ab0LlwrHc111Wt1d1yS1xd4wdNp6wk1T43y01wm0OabS10Ds3W4653F6c73wwPj351E7woUR5p50BxsXazly5d3wKNghwzr1"),
  ("V5_1", "Xc321xp0As0zgfC94b4w14EnhL11C50w40Bk0t1yf0yf0q181k7B3060t1c536Kq1y4032xf050207245qx141xzc0Scwb3bx8wo3e3wjFlrAq3xs5Gf0zf0y10wm3wFt0l933Dg0w03V544w934E121245Gdw0o32iTk0A7jYD37wH7Ekkw02h8rz742ydyh4z4x69bw7xlb0A5wn9d2923REn2X5bwlwez6s3whwQ3p50wRCr0DBkwc4y6"),
  ("V5_2", "wGe1Shwe2eB70xf060w41z40wM93B73B24x64xk5Lg0Pa8N2x7Ap1wf0x7x01s2a696dMjw3Di0Re2zr2wn0Oh0Rb1t2491i104nxp0wwt4Du0d1ye6F90wxjbYzr7wFdwgIdxpF29Abry7s3xf1a41z4r4x4o4C7we29GOum4whEAb2yQ4l18B01Few0z4wm3s2q57z4xaM8uLhx3DF0wygwOE8a5u20b0102030348070p01120a320yi0fw2e8wMzbzEp"),
  ("V6_0", "wGg1D00x00Kfr20C21j061r4La5Iu0g0j0Nf3xb1Xu1xC6wk83Lc0Qd7s0V9aSh0j013t041s0w40104291wl2o0e0e1wKe0e0wyq2wvx81Ek111e9xi0Tu525259616QIrfAH5xf4tSF3NaNN71MBje2d2e1exi01a10111212571619681021194119xdp11wg8l1Ajw1f51x73jcw514lgfx0101Aq133wuinzn41f1210101012152310231b4awhx7wrymwPxrC4"),
  ("V6_1", "wJs0yn0Qg01awoqL10wwd1Km050wg2xV32c5D87wc3xWd010wGe1wk050wp1Bg9ZCp0wSt7w40Cp1m0xf1StmQy51zxewo61wWao796wl1dwtxa79wCcwo89SKex6bwfggwxPj31q1110201913101060401010121110201010101011102316131310191g52141gwl1Pc1wvj3B20g0301010103061401140"),
  ("V6_2", "DR80"),
  ("V6_3", "wOe0Cv23"),
  ("V7_0", "Xr0Il7y01yp0Qg0b5xe0yr070Pj0wk0xe0z30Cb9xHb7Ml1HteNb1CkeRr2Vg6Tt0wzf2ap2w02w23b17Ot6wwwm5Ctbb221x70Knuz13Alwg41Rwc6Wo1j0F9rw40whwbHhw88wkb0zkF09la7D0x088Juw0w1w74bzdh73c6wDm0Bmw7xo0c06jbh1wbylwr597217212l16111428212290562634Djx989Abwm2hwnx6b9Noxkc0JewpxCrwaBgb50NNbu1941y3t25ax7a9161k5iQI8yd5c387927GM2Ba2fxy90w1ll1M5b90x80mbw60535bh6x9010Ar041x1146th1w91xnx81dwgx89gc33zgxmwcb4wo896w88t"),
  ("V8_0", "xEq1wf0M60Gb0Dc0wSb025yH90Bh1xSl3ZVp8wU00Cn0w35Fe1Ol3cxhQYm1xV8i1154B212f2wePkwjdwj75wDg3e4A5610131e1axo0xh0PdjEbp3e4fyDu0CdB9DApNowBAnawO9Q0f41eBL72xg1xh4w57D70xd4Cq1zf0Nh8ya4ws0wOR3AZq"),
  ("V9_0", "xEt7meYq0Bk04216n2zv38Gt0wNg3xRo1wwFj0Du0SP41Uqw44w4yLf0Jfxr1010LicwK181wd1das3w02l1dRzn0w0BGhjTaRPb61g261114xFtxc5941xAuhzi0Vo0wa0El1w22Mj517802b1b4ew7c"),
  ("V10_0", "xC5aHt1D45Lg0wr1zAr0D63Rr0Vp0xxi0P64Sr0YJokVIl2Bxcx98wk2m14Og6111wc30111889QZg0MxhE5xjHnLWf5wAh1w31Lnbj08711p0icw75wpmwUQ6CT1"),
  ("V11_0", "wIc0w80y90Lt2Bp0Ej0yq0Hp0z30yAl0wxowb22yZl2mo4eNt4Sn0YKd4xwu081Fe1UWm1i0Rdw889Jkw88waGu0yp2L40Eb0Rh0CcwsOk0Ro5111w5111579F0oQylxsBS34OYojz26BP6x5wAu0wLo0C23H02s4233013oad971w5oy3d"),
  ("V12_0", "yEt0Lu020201540707120d0yTk0yY80wm0O20wwFk524Ys1VSlmwAc0Ob0Su72we2aA41wH5wid0AGm8KRj540wg8xs1BHk5Gvd2h3HQ1wd3d2941Grwq50wPu0Zjwtwyg0wIk0w50CcbEa2wg0wi090wa531a53722whxls34252d5"),
  ("V12_1", "IN40"),
  ("V13_0", "xF69Q20Ir0z00yLa1zK10Re2X44CIs9QWmcxxa3wb1wm0Vl3RYn0yIdwa1221D6rH70za1Pu051wC462027111t112b99wQa0QG90b1CB0Khwb8VOt2y02wu0wGi1w41J11xs0y8041wb162t0Ad0e3fi7692d6wazm1wnw69wJL06SS2Az9"),
  ("V14_0", "wOf0O5u1167l0iaX50w10z30xR307090Cm0R7dz10wh1Pf0Rr0ywc0wg0L3aZD92xx01e11014o2RF10H9fz30wf1wZda1e16111a1e1611Jh51wa18xwkpCd5xe0wN70za6X5fALry5KN0xg19NI131611E93CYjwe2m9ymMm1yK1uXduwGr613111eyYo2Do0Hk0xk0Aj1wd3a382h26786wJTi1zFr3"),
  ("V15_0", "yIt0K90xBCh2Vp2xF69wwmg1w93rAM109swxD30w30DWtjyDm5Ddwuw20wz3wazSl0zr244xr0Qg2f1w52b210e1a1c0e1wOzi0TLezG6"),
  ("V15_1", "HT83Ku0AZY4P1"),
  ("V16_0", "xDt0zZg1wg0Dh1xvq2yPb1wvHi2c2UvawkwY8w63s81Er2wo0wB8910201w619102013191181T5jwE4w2e9Wr0ANizzqCRkwqyB9wqDH90LT8D16J1Bzqwb40zZc941Jl050wf070l02090C8w5")]

/-- The code points of each grapheme cluster break value. -/
def graphemeBreakRanges : List (String × String) := [
  ("CR", "d0"),
  ("Control", "09111hy2w1d0wIq0zT50xyt021o6wifwXDs0CnbIX3fwAF63ALq7VTRtw0y3z3CnyS3"),
  ("Extend", "ToyiDr6Dfwd10111110xaawhkg0y86252113w40uqxtawr890o3181214wc2ws8wbn1w0wo010474036a1t0wr010238090a1q021wq041412230u130b1wq0441140k1m510wr011138072a1u0ws010c090w9030wo012521371b1t0wr02020305171b1s1wq110238090a1t0xa040221080xj026c7y5028b6xb1r01010wod14115a1w490y93151121p142g3d02160f0Rl2Zg2t1u1u1x2116802a90we210yo1w30yp2419062C2120wr0161010276920whuwi3wh61050w98c1w132112wp0113012wr721zs21c16406031Bcx1Ls0B9w1yB12zh0y3w0Mr5yc1wvH1319w11xi1Do03040p150zr1qhd0w77pawf2wh02321w80x552121c080wg0wk012215110wb180Cl02040Qxt0SofgfGp1Og0C90zp4wRr21153w9240Aa1Nf3x34F71xh3x8awi3yu0wnewa021a2wi32170wu2w5417x00c1wl8a320y2220116020A2037l1wq11010m0e634x50251020124210e1xn72210n0xj02510201111Ci0236111r1xn72011yd0102510y822314Db811Cs0a11040zk32140w19w9523809522wfc11I361510xkl261111yt530111610xa13010G61b1wl45010n0AMh06eGXpb32xNg4ws6wxp0x13xj0PIh1zWowe2mMf012448726u3zo2xwqwn4wi80e0m41ewHr61g261114y70A56H30wu3Lc3D61Sn6yg6xV84VKMsy2z4Cm"),
  ("L", "zLcy2wEK7s"),
  ("LF", "a0"),
  ("LV", "wJUc0r0r0r0r0r0r0r0r0r0r0r0r0r0r0r0r0r0r0r0r0r0r0r0r0r0r0r0r0r0r0r0r0r0r0r0r0r0r0r0r0r0r0r0r0r0r0r0r0r0r0r0r0r0r0r0r0r0r0r0r0r0r0r0r0r0r0r0r0r0r0r0r0r0r0r0r0r0r0r0r0r0r0r0r0r0r0r0r0r0r0r0r0r0r0r0r0r0r0r0r0r0r0r0r0r0r0r0r0r0r0r0r0r0r0r0r0r0r0r0r0r0r0r0r0r0r0r0r0r0r0r0r0r0r0r0r0r0r0r0r0r0r0r0r0r0r0r0r0r0r0r0r0r0r0r0r0r0r0r0r0r0r0r0r0r0r0r0r0r0r0r0r0r0r0r0r0r0r0r0r0r0r0r0r0r0r0r0r0r0r0r0r0r0r0r0r0r0r0r0r0r0r0r0r0r0r0r0r0r0r0r0r0r0r0r0r0r0r0r0r0r0r0r0r0r0r0r0r0r0r0r0r0r0r0r0r0r0r0r0r0r0r0r0r0r0r0r0r0r0r0r0r0r0r0r0r0r0r0r0r0r0r0r0r0r0r0r0r0r0r0r0r0r0r0r0r0r0r0r0r0r0r0r0r0r0r0r0r0r0r0r0r0r0r0r0r0r0r0r0r0r0r0r0r0r0r0r0r0r0r0r0r0r0r0r0r0r0r0r0r0r0r0r0r0r0r0r0r0r0r0r0r0r0r0r0r0r0r0r0r0r0r0r0r0r0r0r0r0r0r0r0r0r0r0r0r0r0r0r0r0r0r0r0r0r0r0r0r0r0r0r0r0r0r0r0r0r0r0r0r0r0r0r0r0r0r0r0r0r0r0r0r0r0r0r0r0r0r0"),
  ("LVT", "wJUdq1q1q1q1q1q1q1q1q1q1q1q1q1q1q1q1q1q1q1q1q1q1q1q1q1q1q1q1q1q1q1q1q1q1q1q1q1q1q1q1q1q1q1q1q1q1q1q1q1q1q1q1q1q1q1q1q1q1q1q1q1q1q1q1q1q1q1q1q1q1q1q1q1q1q1q1q1q1q1q1q1q1q1q1q1q1q1q1q1q1q1q1q1q1q1q1q1q1q1q1q1q1q1q1q1q1q1q1q1q1q1q1q1q1q1q1q1q1q1q1q1q1q1q1q1q1q1q1q1q1q1q1q1q1q1q1q1q1q1q1q1q1q1q1q1q1q1q1q1q1q1q1q1q1q1q1q1q1q1q1q1q1q1q1q1q1q1q1q1q1q1q1q1q1q1q1q1q1q1q1q1q1q1q1q1q1q1q1q1q1q1q1q1q1q1q1q1q1q1q1q1q1q1q1q1q1q1q1q1q1q1q1q1q1q1q1q1q1q1q1q1q1q1q1q1q1q1q1q1q1q1q1q1q1q1q1q1q1q1q1q1q1q1q1q1q1q1q1q1q1q1q1q1q1q1q1q1q1q1q1q1q1q1q1q1q1q1q1q1q1q1q1q1q1q1q1q1q1q1q1q1q1q1q1q1q1q1q1q1q1q1q1q1q1q1q1q1q1q1q1q1q1q1q1q1q1q1q1q1q1q1q1q1q1q1q1q1q1q1q1q1q1q1q1q1q1q1q1q1q1q1q1q1q1q1q1q1q1q1q1q1q1q1q1q1q1q1q1q1q1q1q1q1q1q1q1q1q1q1q1q1q1q1q1q1q1q1q1q1q1q1q1q1q1q1q1q1q1q1q1q1q1q1q1q1q1q1q1q1q1q1q1q1q1q1q1q1q1q"),
  ("Prepend", "wNh5Bt0wi0Hc1xi0wAf0xCyc0f0Cr1Lt0wIp010D00xb5Ri0J90"),
  ("Regional_Indicator", "zDOlp"),
  ("SpacingMark", "xHd0wo0228311wj1ws16121wn0wr2x40wr28011wm1wt06121yl0113212wl2wu3wu1wr011112111w80e1ws15212wm1xe166j1x10z30ze1x10Am091p1wd0wS60u0z507711G53224115C71wr010l5zl0wn01411wu0u04120wt0221031wh781Ag0l0wBx8120xq1wjfzi1wg0wh14122yh121o0A202150Ck1111110VPd010z30we241ym0o1ws0wh291d0y023110Af2w01ws0132122k1xn1f011ya28130ye160111020Cl16320yk28110yg01160yi0Dd290D0411402010zi28340xm0t1x00I40e0yd07020Br44110G91c0wh18110MM82ySownyb1UYo060"),
  ("T", "zQpxpwQQcwh"),
  ("V", "zOfx9wQSbm"),
  ("ZWJ", "DLl0")]

/-- The code points of each word break value. -/
def wordBreakRanges : List (String × String) := [
  ("ALetter", "x3p6pwg0a0405m1u1Ke6w2yj41123106012101j1xk1ze8Aa1w623101w910yb0wdwbw411y510f171a220g01ttxqb0ow191405l409030no7a5n15hwawrwm30i079ff47212l16103330g0d112e1a085412l16111111w0310j2g8121l16111430i0f1n0b7212l16111430u112f0h015321331101131323bm0wl7121m1f30q22021u047121m191430w0111f1h8121w920g05282o55h3n181026F30x171w4r4Drw610502wb1Fm132610132w9132w1132610132e1wp132x4w6fgxn253Ou2g1p5xc3a7hdiehec12Akxq742w2105x7auC8mClwfh7wntd1awcqw4wa2aw42a5wb22wa31511305B5x2Dt252w625271010101u2wl1610321633254c5216yn0d0gcy8040291034601010131a235440hw9V7wkwWgCb6331cw610502wo70gm9616161616161616xi0K40wm1Bewb1y0hw0YGewBhx5we2Dk3fa1kwfgu2xhoBb211017lf12131mtwkewix053011bramps7wfs0whw9n217zoa72c5252596161wq6yltGObcm4whEF56c4wpy4w2Glix12wmw9byn41zaw5p6px7u35252522w4b1p1i111e2dw3ytx7wlDjs3whwgw0dt5w6at2w44714wbA2iw44w44w88wkca1e16111a1e16113wkcF09la7o51wa18x75201wc11302mam9ux3i11alapx8wo61x20f3121swbs3sw471rrwmalaidhyhxawowjdwjdw4w7r9mD2wa61g2wssa08lwbhwfkrmcwlwq120dwdw1oqw4t0208w330cwge3l010w4h1oj1x1610131e197wfw77212l16111430i0c4u910201w610p010wdwli3k2uwgk110Atwfwa3w5wgk0wswbd0Fhwcynx1w072027111nf010y172w7g010s0aw870l0bwej0ixaBdw1w081w5h0wityj6111w6l0p5111w0e0Fhif01c1w2z00xhYmy9yhhB9xS1y3fwyhh5pzzq5NoCyltwUqNa7uhxghtiwgg3w0k5iItwdBpx1z4xc50x4cx2110PDgyd5c3879BC7xm1x8112021231b10161x21327161r131410361Ft2o1o1u1o1u1o1u1o1u1o17wXfu65Ddwuzmwda6g0FbtiwcKjrCbt20Ku613111e1Bawsx570wCq31q1110201913101060401010121110201010101011102316131310191g52141gP8p6p6p"),
  ("CR", "d0"),
  ("Double_Quote", "w30"),
  ("Extend", "ToyiDr6Dfwd10111110xaawhkg0y86252113w40uqxtawr890o3181214wc2ws8wbn1w1wn21h16a1t2wp016212290a1q022wp014412230u130b2wp0171212k1m512wp016212272a1u0ws4321390w94wo016121371b1t2wp016121371b1f0c3wo116121390a1t2x80451017i1wu026c7y5028b6xb1r0101041wij115a1w490y7jn342122633db10a3Rl2Zg3s2t1u1x2w090we210yo1w30ypb4bC24wq91s20whuwi4wggw78c2ucwpdwhjzs21k406022Bcx1Ls0B9w1yB12zh0y3w0Mr5yc1wvH1319w11xi1Do03040n440xl1wjhqhd0w77pcwd3wgdw50x5dc081we2wj012215110wa451Cj711Qxt0SofgfGp1Og0C90zp4wRr21153w9240Aa1Nf3x34F71xh3x8awi3yt2wmewa021a3wea70wu2w5dg1wd0c2whd8311xub6020A2bl3wo116212290a12634x581020131410e1xkhn0xjjCi628r1xkgydcy8eD8eCs511231011zh62630s9w9613809awffI2717xkl1dyt530111610x441114G639110wh634n0AMh06eGXphxNg4ws6wxp01wn73xj0b1PI41zWowe2mMf4358726u3zo2xwqwn4wi80e0m41ewHr61g261114y70A56H30wu3Lc3D61Sn6yg6xV84VKMsy2z4Cm"),
  ("ExtendNumLet", "y20DJl0f1j0wXy61o2Cm0"),
  ("Format", "Ai0wHt5m0B60wi0Hc1xi0zw80xz11q4wi419wXDs0D12zJb0f0EI6fwAF63ALq7VTRu0"),
  ("Hebrew_Letter", "wM0q43xyEi0191c1410111119"),
  ("Katakana", "HUu4y813xs13CnfBmwf1xpwSG3wowKZ23161110E82wj0e3"),
  ("LF", "a0"),
  ("MidLetter", "wr0z00S60K60zo0BZa0wXyj0x30Ba0"),
  ("MidNum", "wd0e0Vs0Lq0z61y10Hn0BJj0wXxi030ws030As0e0"),
  ("MidNumLet", "wf0DKg1a0wXAn0Ap060"),
  ("Newline", "b1yr0DI71"),
  ("Numeric", "wh9wOo910z89Bc9I99yp9yp9yp9yp9yp9yp9yp9yp9yp9y39yp9x89Du9x89wY29w79El9z49Ab969Ar9xo9za969wAQn9Qr9w79Bc9m9xo9I39Rz49wJj9xDc969Ul9z49wt9zk9Du9G19yp9H29y996jxe9Ij9y99Qb9xo9Ct9x89Ij9MLl9xIh9xo9za9M79UIa9xWdwixJc9Ij9L69Cu9Wg9zYf9"),
  ("Regional_Indicator", "zDOlp"),
  ("Single_Quote", "w80"),
  ("WSegSpace", "w10AYn0xLd612xm0zA10"),
  ("ZWJ", "DLl0")]

/-- The code points of each sentence break value. -/
def sentenceBreakRanges : List (String × String) := [
  ("ATerm", "wf0DKs0wXAn0B10"),
  ("CR", "d0"),
  ("Close", "w3042wi010t010we0f0yVl3wYp1xL97p1a1wn1e1Pd3t1wyi57dxh1w09I0lx13w11wx3de129o0i7Io92712wSOr1Bt1sf21g5Ae1wi010t0101111xyUa2"),
  ("Extend", "ToyiDr6Dfwd10111110xaawhkg0y86252113w40uqxtawr890o3181214wc2ws8wbn1w1wn21h16a1t2wp016212290a1q022wp014412230u130b2wp0171212k1m512wp016212272a1u0ws4321390w94wo016121371b1t2wp016121371b1f0c3wo116121390a1t2x80451017i1wu026c7y5028b6xb1r0101041wij115a1w490y7jn342122633db10a3Rl2Zg3s2t1u1x2w090we210yo1w30ypb4bC24wq91s20whuwi4wggw78c2ucwpdwhjzs21k406022Bcx1Ls1B8w1yB12zh0y3w0Mr5yc1wvH1319w11xi1Do03040n440xl1wjhqhd0w77pcwd3wgdw50x5dc081we2wj012215110wa451Cj711Qxt0SofgfGp1Og0C90zp4wRr21153w9240Aa1Nf3x34F71xh3x8awi3yt2wmewa021a3wea70wu2w5dg1wd0c2whd8311xub6020A2bl3wo116212290a12634x581020131410e1xkhn0xjjCi628r1xkgydcy8eD8eCs511231011zh62630s9w9613809awffI2717xkl1dyt530111610x441114G639110wh634n0AMh06eGXphxNg4ws6wxp01wn73xj0b1PI41zWowe2mMf4358726u3zo2xwqwn4wi80e0m41ewHr61g261114y70A56H30wu3Lc3D61Sn6yg6VNIay2z4Cm"),
  ("Format", "Ai0wHt5m0B60wi0Hc1xi0zw80xyt021q4wi419wXDs0D12zJb0f0EI6fwAF63ALq7VTRu0"),
  ("LF", "a0"),
  ("Lower", "y4pwg0a040w5n1710101010101010101010101010101010101010101010101010101011101010101010101110101010101010101010101010101010101010101010102010122010203140203220201010201110203010212260202010101010101010111010101010101010112010301010101010101010101010101010101010101010101010101010101016202110401010101x61w471u4zg0103023i0rw31132101010101010101010101014102021wkwg101010101010101010101010101010101090101010101010101010101010101010101010101010101010101020101010101011101010101010101010101010101010101010101010101010101010101010101010101010101010101010101010101010whw9ywh0Tj5xD8810yoB5x3010101010101010101010101010101010101010101010101010101010101010101010101010101010101010101010101010101010101010101010101010101010101010101010101010181010101010101010101010101010101010101010101010101010101010101010101010101010101010101010101010101885a78785a7878d2787878411603211832187a211ys0d0gcyg03130r04040218340w2f40W6pwY2wg10311010104011173010101010101010101010101010101010101010101010101010101010101010101010101010101010101010101010101011701040cw61050wwCq010101010101010101010101010101010101010101010j010101010101010101010101012z9010101010101210101010101010101010101010101010101010101010101010101010101019101020101010104010201210101010101010101010505010101010101010401020301010101010m21012Vfwb1d6xhQye6c4wybpwDkw8zcw4A0a1e1611Jh0221wa18wFewjz1lxZmw0RT2w0Wx1pq61hqpq310161aqpqpqpqpqpqpqpqpqrso15qo15qo15qo15qo1510wXf91j65DdwuxErw2"),
  ("Numeric", "wh9wOo911z79Bc9I99yp9yp9yp9yp9yp9yp9yp9yp9yp9y39yp9x89Du9x89wY29w79El9z49Ab969Ar9xo9za969wAQn9Qr9w79Bc9m9xo9I39Rz49wJj9xDc969Ul9z49wt9zk9Du9G19yp9H29y996jxe9Ij9y99Qb9xo9Ct9x89Ij9MLl9xIh9xo9za9M79UIa9xWdwixJc9Ij9L69Cu9Wg9zYf9"),
  ("OLetter", "J9043Bm0w566bq010z90Kj0ypq44wdwbw411y510f171a220g01ttxqb0ow191405l409030no7a5n15hwawrwm30i079ff47212l16103330g0d112e1a085412l16111111w0310j2g8121l16111430i0f1n0b7212l16111430u112f0h015321331101131323bm0wl7121m1f30q22021u047121m191430w0111f1h8121w920g05282o55h3n181026wrwg11c6wr110141n101911902410l3w10x171w4r4ymwbk0g5433031724cc0x3wb2Fl132610132w9132w1132610132e1wp132x4w6fykOu2g1p5xc3a7hdiehec12fwkw4040x5xq742w2105x7auwit24bwc4pwnm9wlxk0y0wfh7wntd1awcqw4wa2aw4iwb22wa3151130wys3x9223yy7wo70gm9616161616161616xi0K42p874244xn621xr135wb1y0hw0whfLgBVjx2Swmx5we2Dk3fa1x40g0w1xhw88yb060ya03612131mtwkewix053011bramps7wfs0g419a41w9n217km303wi1031242010o22a72c525259616zlw3tGObcm4whDTkGo2ycx50191c141011111yew2Glix12wmw9byn41zaycwo2u35252522w4b1p1i111e2dw3ytx7wlDjs3whwgw0dt5w6at2w44714ytxfy5w88wkxuwkcF09la7p1z15201wc11302mam9ux3i11alapx8wo61x20f3121swbs3sw471rrwmalaidhyhxaAsw4w75w00Dowa61g2wssa08lwbhwfkrmcwlwq120dwdw1oqw4t0208w330cwge3l010w4h1oj1x1610131e197wfw77212l16111430i0c4u910201w610p010wdwli3k2uwgk110Atwfwa3w5wgk0wswbd0x9qw66AuwcBp72027111nf010y172w7g010s0aw870l0bwej0ixaBdw1w081w5h0wityj6111w6l0p5111w0e0Fhif01c1w2z00xhYmy9yhhB9xS1y3fwyhh5pzzq5NoCyltwUqNa7uhxghtiwgg3w0k5iItwdI0xc50x4cx2110sBGs8wDswa9EE7316111Ebf0t220e38HnxHeyd5c3879EAc0L5wda6g0FbtiwcKjrCbt20Ku613111e1Baza0wCq31q1110201913101060401010121110201010101011102316131310191g52141gzNiwIJ1w1zEu6C42AZqeCT1fP1xMhMewMiAz95zG6"),
  ("SContinue", "wd1c0wGc0Aj1Kp0zDd050xzc1zCf0wSWj110t1t13020a0Ad1c0xb0"),
  ("STerm", "w20t0wHk0zn2Ap0wc2Ct0wu01031Ee1wUs1Uf041Tt0Bc1Bi050F41Gd3A71a121t2B11x31Zq192yQm0d0m1Iq0wvA20Dm1Ca030Ha1xo1y20zs1zn2zk1D10QYi1Ae0t0x30xXe1wF64wd3B31yo3z32z5160g1xq111yf0Ej1yo1H115eyc1D12Ll010D31xp1Ih1Ra1xc1Pvl1z90x31b0Mq1Eh0PTa0CYu0"),
  ("Sep", "z90DI71"),
  ("Sp", "9011j0z30AUj0xLdaw50wg0zA10"),
  ("Upper", "x3py8m16w201010101010101010101010101010101010101010101010101010102010101010101010201010101010101010101010101010101010101010101011101031101112231112311110101110201112101130711111101010101010101020101010101010101021101210101010101010101010101010101010101010101010101010101010107111201310101010Ea0103080601210111g18w40223010101010101010101010105020112wjwh010101010101010101010101010101010901010101010101010101010101010101010101010101010101010111010101010102010101010101010101010101010101010101010101010101010101010101010101010101010101010101010101010102w6yv6w61050S9xnxDp0H201010101010101010101010101010101010101010101010101010101010101010101010101010101010101010101010101010101010101010101010101010101010101010101010101010901010101010101010101010101010101010101010101010101010101010101010101010101010101010101010101010109785a78785b010101087o7878784b4b3c4b4Dd040322220346010101323a150qfj0VcpwXbwgwh0122010101310208210101010101010101010101010101010101010101010101010101010101010101010101010101010101010101010101010801040wwEm010101010101010101010101010101010101010101010j010101010101010101010101010zb010101010101030101010101010101010101010101010101010101010101010101010101010a010111010101040102010301010101010101010101414101010101010101310113050101010o0SBqpwDcw8zcw4A1a1e1611wV3wjA2lxZmw0RT2w0Wx7pqpqpq01120212317qpq1132716r113141036rpqpqpqpqpqpuow2ow2ow2ow2ow20zN3w2xzgp6p6p")]

end ContentSync.Text
