import Playback.Unicode.Casing
import Playback.Unicode.Grapheme
import Playback.Unicode.Identifier
import Playback.Unicode.Letter
import Playback.Unicode.Symbol

/-!
# Binary properties

The properties that each character has or lacks, and the names under which they are known.
-/

namespace Playback.Unicode

/-- A property that characters have or lack. -/
inductive BinaryProperty where
  /-- The property `ASCII_Hex_Digit`. -/
  | asciiHexDigit
  /-- The property `Alphabetic`. -/
  | alphabetic
  /-- The property `Bidi_Control`. -/
  | bidiControl
  /-- The property `Case_Ignorable`. -/
  | caseIgnorable
  /-- The property `Cased`. -/
  | cased
  /-- The property `Changes_When_Casefolded`. -/
  | changesWhenCasefolded
  /-- The property `Changes_When_Casemapped`. -/
  | changesWhenCasemapped
  /-- The property `Changes_When_Lowercased`. -/
  | changesWhenLowercased
  /-- The property `Changes_When_Titlecased`. -/
  | changesWhenTitlecased
  /-- The property `Changes_When_Uppercased`. -/
  | changesWhenUppercased
  /-- The property `Dash`. -/
  | dash
  /-- The property `Default_Ignorable_Code_Point`. -/
  | defaultIgnorableCodePoint
  /-- The property `Deprecated`. -/
  | deprecated
  /-- The property `Diacritic`. -/
  | diacritic
  /-- The property `Emoji`. -/
  | emoji
  /-- The property `Emoji_Component`. -/
  | emojiComponent
  /-- The property `Emoji_Modifier`. -/
  | emojiModifier
  /-- The property `Emoji_Modifier_Base`. -/
  | emojiModifierBase
  /-- The property `Emoji_Presentation`. -/
  | emojiPresentation
  /-- The property `Extended_Pictographic`. -/
  | extendedPictographic
  /-- The property `Extender`. -/
  | extender
  /-- The property `Grapheme_Base`. -/
  | graphemeBase
  /-- The property `Grapheme_Extend`. -/
  | graphemeExtend
  /-- The property `Grapheme_Link`. -/
  | graphemeLink
  /-- The property `Hex_Digit`. -/
  | hexDigit
  /-- The property `Hyphen`. -/
  | hyphen
  /-- The property `IDS_Binary_Operator`. -/
  | idsBinaryOperator
  /-- The property `IDS_Trinary_Operator`. -/
  | idsTrinaryOperator
  /-- The property `IDS_Unary_Operator`. -/
  | idsUnaryOperator
  /-- The property `ID_Compat_Math_Continue`. -/
  | idCompatMathContinue
  /-- The property `ID_Compat_Math_Start`. -/
  | idCompatMathStart
  /-- The property `ID_Continue`. -/
  | idContinue
  /-- The property `ID_Start`. -/
  | idStart
  /-- The property `Ideographic`. -/
  | ideographic
  /-- The property `Join_Control`. -/
  | joinControl
  /-- The property `Logical_Order_Exception`. -/
  | logicalOrderException
  /-- The property `Lowercase`. -/
  | lowercase
  /-- The property `Math`. -/
  | math
  /-- The property `Modifier_Combining_Mark`. -/
  | modifierCombiningMark
  /-- The property `Noncharacter_Code_Point`. -/
  | noncharacterCodePoint
  /-- The property `Other_Alphabetic`. -/
  | otherAlphabetic
  /-- The property `Other_Default_Ignorable_Code_Point`. -/
  | otherDefaultIgnorableCodePoint
  /-- The property `Other_Grapheme_Extend`. -/
  | otherGraphemeExtend
  /-- The property `Other_ID_Continue`. -/
  | otherIdContinue
  /-- The property `Other_ID_Start`. -/
  | otherIdStart
  /-- The property `Other_Lowercase`. -/
  | otherLowercase
  /-- The property `Other_Math`. -/
  | otherMath
  /-- The property `Other_Uppercase`. -/
  | otherUppercase
  /-- The property `Pattern_Syntax`. -/
  | patternSyntax
  /-- The property `Pattern_White_Space`. -/
  | patternWhiteSpace
  /-- The property `Prepended_Concatenation_Mark`. -/
  | prependedConcatenationMark
  /-- The property `Quotation_Mark`. -/
  | quotationMark
  /-- The property `Radical`. -/
  | radical
  /-- The property `Regional_Indicator`. -/
  | regionalIndicator
  /-- The property `Sentence_Terminal`. -/
  | sentenceTerminal
  /-- The property `Soft_Dotted`. -/
  | softDotted
  /-- The property `Terminal_Punctuation`. -/
  | terminalPunctuation
  /-- The property `Unified_Ideograph`. -/
  | unifiedIdeograph
  /-- The property `Uppercase`. -/
  | uppercase
  /-- The property `Variation_Selector`. -/
  | variationSelector
  /-- The property `White_Space`. -/
  | whiteSpace
  /-- The property `XID_Continue`. -/
  | xidContinue
  /-- The property `XID_Start`. -/
  | xidStart
  deriving DecidableEq, Repr

namespace BinaryProperty

/-- All properties with the forms of their names, in lower case and without separators. -/
def names : List (BinaryProperty × List String) := [
  (.asciiHexDigit, ["asciihexdigit", "ahex"]),
  (.alphabetic, ["alphabetic", "alpha"]),
  (.bidiControl, ["bidicontrol", "bidic"]),
  (.caseIgnorable, ["caseignorable", "ci"]),
  (.cased, ["cased"]),
  (.changesWhenCasefolded, ["changeswhencasefolded", "cwcf"]),
  (.changesWhenCasemapped, ["changeswhencasemapped", "cwcm"]),
  (.changesWhenLowercased, ["changeswhenlowercased", "cwl"]),
  (.changesWhenTitlecased, ["changeswhentitlecased", "cwt"]),
  (.changesWhenUppercased, ["changeswhenuppercased", "cwu"]),
  (.dash, ["dash"]),
  (.defaultIgnorableCodePoint, ["defaultignorablecodepoint", "di"]),
  (.deprecated, ["deprecated", "dep"]),
  (.diacritic, ["diacritic", "dia"]),
  (.emoji, ["emoji"]),
  (.emojiComponent, ["emojicomponent", "ecomp"]),
  (.emojiModifier, ["emojimodifier", "emod"]),
  (.emojiModifierBase, ["emojimodifierbase", "ebase"]),
  (.emojiPresentation, ["emojipresentation", "epres"]),
  (.extendedPictographic, ["extendedpictographic", "extpict"]),
  (.extender, ["extender", "ext"]),
  (.graphemeBase, ["graphemebase", "grbase"]),
  (.graphemeExtend, ["graphemeextend", "grext"]),
  (.graphemeLink, ["graphemelink", "grlink"]),
  (.hexDigit, ["hexdigit", "hex"]),
  (.hyphen, ["hyphen"]),
  (.idsBinaryOperator, ["idsbinaryoperator", "idsb"]),
  (.idsTrinaryOperator, ["idstrinaryoperator", "idst"]),
  (.idsUnaryOperator, ["idsunaryoperator", "idsu"]),
  (.idCompatMathContinue, ["idcompatmathcontinue"]),
  (.idCompatMathStart, ["idcompatmathstart"]),
  (.idContinue, ["idcontinue", "idc"]),
  (.idStart, ["idstart", "ids"]),
  (.ideographic, ["ideographic", "ideo"]),
  (.joinControl, ["joincontrol", "joinc"]),
  (.logicalOrderException, ["logicalorderexception", "loe"]),
  (.lowercase, ["lowercase", "lower"]),
  (.math, ["math"]),
  (.modifierCombiningMark, ["modifiercombiningmark", "mcm"]),
  (.noncharacterCodePoint, ["noncharactercodepoint", "nchar"]),
  (.otherAlphabetic, ["otheralphabetic", "oalpha"]),
  (.otherDefaultIgnorableCodePoint, ["otherdefaultignorablecodepoint", "odi"]),
  (.otherGraphemeExtend, ["othergraphemeextend", "ogrext"]),
  (.otherIdContinue, ["otheridcontinue", "oidc"]),
  (.otherIdStart, ["otheridstart", "oids"]),
  (.otherLowercase, ["otherlowercase", "olower"]),
  (.otherMath, ["othermath", "omath"]),
  (.otherUppercase, ["otheruppercase", "oupper"]),
  (.patternSyntax, ["patternsyntax", "patsyn"]),
  (.patternWhiteSpace, ["patternwhitespace", "patws"]),
  (.prependedConcatenationMark, ["prependedconcatenationmark", "pcm"]),
  (.quotationMark, ["quotationmark", "qmark"]),
  (.radical, ["radical"]),
  (.regionalIndicator, ["regionalindicator", "ri"]),
  (.sentenceTerminal, ["sentenceterminal", "sterm"]),
  (.softDotted, ["softdotted", "sd"]),
  (.terminalPunctuation, ["terminalpunctuation", "term"]),
  (.unifiedIdeograph, ["unifiedideograph", "uideo"]),
  (.uppercase, ["uppercase", "upper"]),
  (.variationSelector, ["variationselector", "vs"]),
  (.whiteSpace, ["whitespace", "wspace", "space"]),
  (.xidContinue, ["xidcontinue", "xidc"]),
  (.xidStart, ["xidstart", "xids"])]

/-- The property that a name in normal form stands for. -/
def named? (name : String) : Option BinaryProperty :=
  (names.find? fun (_, forms) => forms.contains name).map (·.1)

/-- The runs inside and outside a property. -/
def table : BinaryProperty → RunTable
  | .asciiHexDigit => asciiHexDigitTable
  | .alphabetic => alphabeticTable
  | .bidiControl => bidiControlTable
  | .caseIgnorable => caseIgnorableTable
  | .cased => casedTable
  | .changesWhenCasefolded => changesWhenCasefoldedTable
  | .changesWhenCasemapped => changesWhenCasemappedTable
  | .changesWhenLowercased => changesWhenLowercasedTable
  | .changesWhenTitlecased => changesWhenTitlecasedTable
  | .changesWhenUppercased => changesWhenUppercasedTable
  | .dash => dashTable
  | .defaultIgnorableCodePoint => defaultIgnorableCodePointTable
  | .deprecated => deprecatedTable
  | .diacritic => diacriticTable
  | .emoji => emojiTable
  | .emojiComponent => emojiComponentTable
  | .emojiModifier => emojiModifierTable
  | .emojiModifierBase => emojiModifierBaseTable
  | .emojiPresentation => emojiPresentationTable
  | .extendedPictographic => extendedPictographicTable
  | .extender => extenderTable
  | .graphemeBase => graphemeBaseTable
  | .graphemeExtend => graphemeExtendTable
  | .graphemeLink => graphemeLinkTable
  | .hexDigit => hexDigitTable
  | .hyphen => hyphenTable
  | .idsBinaryOperator => idsBinaryOperatorTable
  | .idsTrinaryOperator => idsTrinaryOperatorTable
  | .idsUnaryOperator => idsUnaryOperatorTable
  | .idCompatMathContinue => idCompatMathContinueTable
  | .idCompatMathStart => idCompatMathStartTable
  | .idContinue => idContinueTable
  | .idStart => idStartTable
  | .ideographic => ideographicTable
  | .joinControl => joinControlTable
  | .logicalOrderException => logicalOrderExceptionTable
  | .lowercase => lowercaseTable
  | .math => mathTable
  | .modifierCombiningMark => modifierCombiningMarkTable
  | .noncharacterCodePoint => noncharacterCodePointTable
  | .otherAlphabetic => otherAlphabeticTable
  | .otherDefaultIgnorableCodePoint => otherDefaultIgnorableCodePointTable
  | .otherGraphemeExtend => otherGraphemeExtendTable
  | .otherIdContinue => otherIdContinueTable
  | .otherIdStart => otherIdStartTable
  | .otherLowercase => otherLowercaseTable
  | .otherMath => otherMathTable
  | .otherUppercase => otherUppercaseTable
  | .patternSyntax => patternSyntaxTable
  | .patternWhiteSpace => patternWhiteSpaceTable
  | .prependedConcatenationMark => prependedConcatenationMarkTable
  | .quotationMark => quotationMarkTable
  | .radical => radicalTable
  | .regionalIndicator => regionalIndicatorTable
  | .sentenceTerminal => sentenceTerminalTable
  | .softDotted => softDottedTable
  | .terminalPunctuation => terminalPunctuationTable
  | .unifiedIdeograph => unifiedIdeographTable
  | .uppercase => uppercaseTable
  | .variationSelector => variationSelectorTable
  | .whiteSpace => whiteSpaceTable
  | .xidContinue => xidContinueTable
  | .xidStart => xidStartTable

/-- Whether a character has a property. -/
def holds (p : BinaryProperty) (c : Char) : Bool :=
  p.table.labelOf c == "+"

end BinaryProperty

end Playback.Unicode
