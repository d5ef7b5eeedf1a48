import RecordRules.Unicode.Category
import RecordRules.Unicode.Property
import RecordRules.Unicode.Script

/-!
# Sets of characters by name

A property is asked for by a name alone (`Greek`, `Lu`, `White_Space`) or by a name and a value
(`Script=Greek`). Names are compared loosely (`looseName`): case, blanks, hyphens and underscores
do not count, and neither does a leading `is`.

* a name alone is looked up among the binary properties, then the general categories, then the
  scripts (`named?`);
* with a value the name is one of the general category, the script and the script extensions
  (`valued?`).
-/

namespace RecordRules.Unicode

/-! ## 1. Loose names -/

/-- The characters of a name that count, in lower case. -/
def looseCharacters (name : List Char) : List Char :=
  (name.filter fun c => c.toNat < 128 && c != ' ' && c != '_' && c != '-').map Char.toLower

/-- A name with what does not count left out. The name `isc` keeps its `is`, because it is a name
    of its own and not the category `c`. -/
def looseName (name : String) : List Char :=
  match name.toList with
  | i :: s :: rest =>
    if i.toLower = 'i' ∧ s.toLower = 's' then
      if looseCharacters rest = ['c'] then ['i', 's', 'c'] else looseCharacters rest
    else looseCharacters (i :: s :: rest)
  | short => looseCharacters short

/-- The set listed under a name. -/
def lookup? (table : List (List String × CharSet)) (name : String) : Option CharSet :=
  (table.find? fun entry => entry.1.any fun known => looseName known = looseName name).map (·.2)

/-! ## 2. General categories -/

/-- The general categories under their names. Surrogates have no name here, because no character
    is one. -/
def categories : List (List String × CharSet) := [
  (["Any"], .all), (["Assigned"], assigned), (["ASCII"], .range 0 0x7F),
  (["Lu", "Uppercase_Letter"], uppercaseLetter), (["Ll", "Lowercase_Letter"], lowercaseLetter),
  (["Lt", "Titlecase_Letter"], titlecaseLetter), (["LC", "Cased_Letter"], casedLetter),
  (["Lm", "Modifier_Letter"], modifierLetter), (["Lo", "Other_Letter"], otherLetter),
  (["L", "Letter"], letter), (["Mn", "Nonspacing_Mark"], nonspacingMark),
  (["Mc", "Spacing_Mark"], spacingMark), (["Me", "Enclosing_Mark"], enclosingMark),
  (["M", "Mark", "Combining_Mark"], combiningMark),
  (["Nd", "Decimal_Number", "digit"], decimalNumber), (["Nl", "Letter_Number"], letterNumber),
  (["No", "Other_Number"], otherNumber), (["N", "Number"], number),
  (["Pc", "Connector_Punctuation"], connectorPunctuation),
  (["Pd", "Dash_Punctuation"], dashPunctuation), (["Ps", "Open_Punctuation"], openPunctuation),
  (["Pe", "Close_Punctuation"], closePunctuation),
  (["Pi", "Initial_Punctuation"], initialPunctuation),
  (["Pf", "Final_Punctuation"], finalPunctuation),
  (["Po", "Other_Punctuation"], otherPunctuation), (["P", "Punctuation", "punct"], punctuation),
  (["Sm", "Math_Symbol"], mathSymbol), (["Sc", "Currency_Symbol"], currencySymbol),
  (["Sk", "Modifier_Symbol"], modifierSymbol), (["So", "Other_Symbol"], otherSymbol),
  (["S", "Symbol"], symbol), (["Zs", "Space_Separator"], spaceSeparator),
  (["Zl", "Line_Separator"], lineSeparator), (["Zp", "Paragraph_Separator"], paragraphSeparator),
  (["Z", "Separator"], separator), (["Cc", "Control", "cntrl"], control),
  (["Cf", "Format"], format), (["Co", "Private_Use"], privateUse),
  (["Cn", "Unassigned"], unassigned), (["C", "Other"], other)]

/-! ## 3. Binary properties -/

/-- The binary properties under their names. -/
def properties : List (List String × CharSet) := [
  (["AHex", "ASCII_Hex_Digit"], asciiHexDigit), (["Alpha", "Alphabetic"], alphabetic),
  (["Bidi_C", "Bidi_Control"], bidiControl), (["Bidi_M", "Bidi_Mirrored"], bidiMirrored),
  (["CI", "Case_Ignorable"], caseIgnorable), (["Cased"], cased),
  (["CWCF", "Changes_When_Casefolded"], changesWhenCasefolded),
  (["CWCM", "Changes_When_Casemapped"], changesWhenCasemapped),
  (["CWL", "Changes_When_Lowercased"], changesWhenLowercased),
  (["CWT", "Changes_When_Titlecased"], changesWhenTitlecased),
  (["CWU", "Changes_When_Uppercased"], changesWhenUppercased), (["Dash"], dash),
  (["DI", "Default_Ignorable_Code_Point"], defaultIgnorable), (["Dep", "Deprecated"], deprecated),
  (["Dia", "Diacritic"], diacritic), (["Emoji"], emoji),
  (["EComp", "Emoji_Component"], emojiComponent), (["EMod", "Emoji_Modifier"], emojiModifier),
  (["EBase", "Emoji_Modifier_Base"], emojiModifierBase),
  (["EPres", "Emoji_Presentation"], emojiPresentation),
  (["ExtPict", "Extended_Pictographic"], extendedPictographic), (["Ext", "Extender"], extender),
  (["Gr_Base", "Grapheme_Base"], graphemeBase), (["Gr_Ext", "Grapheme_Extend"], graphemeExtend),
  (["Gr_Link", "Grapheme_Link"], graphemeLink), (["Hex", "Hex_Digit"], hexDigit),
  (["Hyphen"], hyphen), (["IDSB", "IDS_Binary_Operator"], idsBinaryOperator),
  (["IDST", "IDS_Trinary_Operator"], idsTrinaryOperator),
  (["IDSU", "IDS_Unary_Operator"], idsUnaryOperator),
  (["ID_Compat_Math_Continue"], compatMathContinue), (["ID_Compat_Math_Start"], compatMathStart),
  (["IDC", "ID_Continue"], idContinue), (["IDS", "ID_Start"], idStart),
  (["Ideo", "Ideographic"], ideographic), (["Join_C", "Join_Control"], joinControl),
  (["LOE", "Logical_Order_Exception"], logicalOrderException), (["Lower", "Lowercase"], lowercase),
  (["Math"], math), (["MCM", "Modifier_Combining_Mark"], modifierCombiningMark),
  (["NChar", "Noncharacter_Code_Point"], noncharacter),
  (["OAlpha", "Other_Alphabetic"], otherAlphabetic),
  (["ODI", "Other_Default_Ignorable_Code_Point"], otherDefaultIgnorable),
  (["OGr_Ext", "Other_Grapheme_Extend"], otherGraphemeExtend),
  (["OIDC", "Other_ID_Continue"], otherIdContinue), (["OIDS", "Other_ID_Start"], otherIdStart),
  (["OLower", "Other_Lowercase"], otherLowercase), (["OMath", "Other_Math"], otherMath),
  (["OUpper", "Other_Uppercase"], otherUppercase), (["Pat_Syn", "Pattern_Syntax"], patternSyntax),
  (["Pat_WS", "Pattern_White_Space"], patternWhiteSpace),
  (["PCM", "Prepended_Concatenation_Mark"], prependedConcatenationMark),
  (["QMark", "Quotation_Mark"], quotationMark), (["Radical"], radical),
  (["RI", "Regional_Indicator"], regionalIndicator),
  (["STerm", "Sentence_Terminal"], sentenceTerminal), (["SD", "Soft_Dotted"], softDotted),
  (["Term", "Terminal_Punctuation"], terminalPunctuation),
  (["UIdeo", "Unified_Ideograph"], unifiedIdeograph), (["Upper", "Uppercase"], uppercase),
  (["VS", "Variation_Selector"], variationSelector),
  (["WSpace", "White_Space", "space"], whiteSpace), (["XIDC", "XID_Continue"], xidContinue),
  (["XIDS", "XID_Start"], xidStart)]

/-! ## 4. Scripts -/

/-- The scripts under their names. -/
def scriptTable : List (List String × CharSet) := scripts.map fun s => (s.names, s.members)

/-- All characters that are used with more scripts than their own. -/
def sharedByScripts : CharSet := .unions (sharedCharacters.map (·.members))

/-- The characters used with a script: its own and the shared ones. Of the common and the
    inherited characters only those remain that no script claims. -/
def extensionOf (s : Script) : CharSet :=
  if s.names.contains "Common" || s.names.contains "Inherited" then s.members \ sharedByScripts
  else
    match sharedCharacters.find? fun t => s.names.contains (t.names.headD "") with
    | some t => s.members ∪ t.members
    | none => s.members

/-- The characters used with the script of a name. -/
def scriptExtension? (name : String) : Option CharSet :=
  (scripts.find? fun s => s.names.any fun known => looseName known = looseName name).map extensionOf

/-! ## 5. Asking by name -/

/-- The set that a name alone stands for: a binary property, else a general category, else a
    script. -/
def named? (name : String) : Option CharSet :=
  (lookup? properties name).orElse fun _ =>
    (lookup? categories name).orElse fun _ => lookup? scriptTable name

/-- Whether a loose name is one of the given names. -/
def isNamed (name : String) (aliases : List String) : Bool :=
  aliases.any fun known => looseName known = looseName name

/-- The set that a property with a value stands for. -/
def valued? (property value : String) : Option CharSet :=
  if isNamed property ["gc", "General_Category"] then lookup? categories value
  else if isNamed property ["sc", "Script"] then lookup? scriptTable value
  else if isNamed property ["scx", "Script_Extensions"] then scriptExtension? value
  else none

end RecordRules.Unicode
