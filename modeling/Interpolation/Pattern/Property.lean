import Interpolation.Pattern.CharClass
import Interpolation.Unicode.Age
import Interpolation.Unicode.Table

/-!
# Properties of characters by name

The classes of characters that a pattern can name. Names are given in lower case without
separators.

* `Property.binary` lists the classes of the properties that a character has or has not;
* `Property.graphemeBreaks`, `Property.wordBreaks` and `Property.sentenceBreaks` list those of the
  parts that characters play where texts are cut, `Property.category?`, `Property.script?` and
  `Property.extendedScript?` find those of categories and scripts;
* `Property.named?` finds a class by one name, and `Property.valued?` by the names of a property and
  of its value.
-/

namespace Interpolation.Pattern.Property

open Unicode (Category Script Age)
open CharClass (diff ofList)

/-- Classes, each with its names. -/
abbrev Listing := List (List String × CharClass)

/-- The class with a name. -/
def Listing.class? (l : Listing) (name : String) : Option CharClass :=
  (l.find? fun entry => entry.1.elem name).map Prod.snd

/-- The characters of some categories. -/
def categories (ks : List Category) : CharClass := .ofList (ks.map .category)

/-- The characters with some code points. -/
def points (words : String) : CharClass := .listed (.ofHex [words])

/-! ## Properties that a character has or has not -/

section

open Unicode.Table

/-- Whitespace and syntax of patterns. -/
def patternCharacter : CharClass := .union (.listed patternSyntax) (.listed patternWhiteSpace)

def idStart : CharClass :=
  diff (ofList [categories Category.letters, .category .letterNumber, .listed otherIdStart])
    patternCharacter

def idContinue : CharClass :=
  diff (ofList [idStart, categories [.nonspacingMark, .spacingMark, .decimalNumber],
    .category .connectorPunctuation, .listed otherIdContinue]) patternCharacter

def cased : CharClass := ofList [.lowercase, .uppercase, .category .titlecaseLetter]

def changesWhenLowercased : CharClass :=
  diff (.union .uppercase (.category .titlecaseLetter)) (.listed keptByLowercasing)

def changesWhenUppercased : CharClass :=
  diff (.union .lowercase (.category .titlecaseLetter)) (.listed keptByUppercasing)

def changesWhenTitlecased : CharClass :=
  diff (.union changesWhenUppercased (.listed changedByTitlecasing)) (.listed keptByTitlecasing)

def changesWhenFolded : CharClass :=
  diff (.union changesWhenLowercased (.listed changedByFolding)) (.listed keptByFolding)

def graphemeExtend : CharClass :=
  .union (categories [.enclosingMark, .nonspacingMark]) (.listed Unicode.otherGraphemeExtend)

def graphemeBase : CharClass :=
  .compl (.union graphemeExtend
    (categories (Category.others ++ [.lineSeparator, .paragraphSeparator])))

def caseIgnorable : CharClass :=
  .union (categories [.nonspacingMark, .enclosingMark, .format, .modifierLetter, .modifierSymbol])
    (.listed Unicode.otherCaseIgnorable)

/-- The properties that a character has or has not. -/
def binary : Listing :=
  [(["alphabetic", "alpha"], .alphabetic),
    (["lowercase", "lower"], .lowercase),
    (["uppercase", "upper"], .uppercase),
    (["whitespace", "space", "wspace"], .blank),
    (["asciihexdigit", "ahex"], ofList [.range '0' '9', .range 'A' 'F', .range 'a' 'f']),
    (["bidicontrol", "bidic"], .listed bidiControl),
    (["caseignorable", "ci"], caseIgnorable),
    (["cased"], cased),
    (["changeswhencasefolded", "cwcf"], changesWhenFolded),
    (["changeswhencasemapped", "cwcm"],
      ofList [changesWhenLowercased, changesWhenUppercased, changesWhenTitlecased]),
    (["changeswhenlowercased", "cwl"], changesWhenLowercased),
    (["changeswhentitlecased", "cwt"], changesWhenTitlecased),
    (["changeswhenuppercased", "cwu"], changesWhenUppercased),
    (["dash"], .listed dash),
    (["defaultignorablecodepoint", "di"], .listed defaultIgnorable),
    (["deprecated", "dep"], .listed deprecated),
    (["diacritic", "dia"], .listed diacritic),
    (["emoji"], .listed emoji),
    (["emojicomponent", "ecomp"], .listed emojiComponent),
    (["emojimodifier", "emod"], .listed emojiModifier),
    (["emojimodifierbase", "ebase"], .listed emojiModifierBase),
    (["emojipresentation", "epres"], .listed emojiPresentation),
    (["extendedpictographic", "extpict"], .listed extendedPictographic),
    (["extender", "ext"], .listed extender),
    (["graphemebase", "grbase"], graphemeBase),
    (["graphemeextend", "grext"], graphemeExtend),
    (["graphemelink", "grlink"], .listed graphemeLink),
    (["hexdigit", "hex"], .listed hexDigit),
    (["hyphen"], .listed hyphen),
    (["idsbinaryoperator", "idsb"], .listed idsBinaryOperator),
    (["idstrinaryoperator", "idst"], .listed idsTrinaryOperator),
    (["idcontinue", "idc"], idContinue),
    (["idstart", "ids"], idStart),
    (["ideographic", "ideo"], .listed ideographic),
    (["joincontrol", "joinc"], .listed joinControl),
    (["logicalorderexception", "loe"], .listed logicalOrderException),
    (["math"], .union (.category .mathSymbol) (.listed otherMath)),
    (["noncharactercodepoint", "nchar"], .listed noncharacter),
    (["otheralphabetic", "oalpha"], .listed Unicode.otherAlphabetic),
    (["otherdefaultignorablecodepoint", "odi"], .listed otherDefaultIgnorable),
    (["othergraphemeextend", "ogrext"], .listed Unicode.otherGraphemeExtend),
    (["otheridcontinue", "oidc"], .listed otherIdContinue),
    (["otheridstart", "oids"], .listed otherIdStart),
    (["otherlowercase", "olower"], .listed Unicode.otherLowercase),
    (["othermath", "omath"], .listed otherMath),
    (["otheruppercase", "oupper"], .listed Unicode.otherUppercase),
    (["patternsyntax", "patsyn"], .listed patternSyntax),
    (["patternwhitespace", "patws"], .listed patternWhiteSpace),
    (["prependedconcatenationmark", "pcm"], .listed prependedConcatenationMark),
    (["quotationmark", "qmark"], .listed quotationMark),
    (["radical"], .listed radical),
    (["regionalindicator", "ri"], .listed regionalIndicator),
    (["sentenceterminal", "sterm"], .listed sentenceTerminal),
    (["softdotted", "sd"], .listed softDotted),
    (["terminalpunctuation", "term"], .listed terminalPunctuation),
    (["unifiedideograph", "uideo"], .listed unifiedIdeograph),
    (["variationselector", "vs"], .listed variationSelector),
    (["xidcontinue", "xidc"], diff idContinue (.listed notXidContinue)),
    (["xidstart", "xids"], diff idStart (.listed notXidStart))]

/-! ## Boundaries -/

/-- The characters that extend the one in front of them where words are cut. -/
def wordExtend : CharClass :=
  ofList [graphemeExtend, .category .spacingMark, .listed emojiModifier]

def katakana : CharClass :=
  .union (ofList ((Script.named? "katakana").toList.map .script))
    (points "3031-3035 309B-309C 30A0 30FC FF70")

def hebrewLetter : CharClass :=
  diff (ofList ((Script.named? "hebrew").toList.map .script)) (points "591-5C7 5F3-5F4 FB1E FB29")

def wordLetter : CharClass :=
  .union (.listed otherWordLetter) (diff .alphabetic (ofList [.listed ideographic, katakana,
    ofList ((Script.named? "hiragana").toList.map .script), wordExtend, hebrewLetter,
    .listed complexContext]))

/-- The parts that characters play where texts are cut into what is seen as one character. -/
def graphemeBreaks : Listing :=
  [(["control", "cn"], .listed graphemeControl),
    (["cr"], .one '\r'),
    (["extend", "ex"], .union graphemeExtend (.listed emojiModifier)),
    (["l"], .listed leadingJamo),
    (["lf"], .one '\n'),
    (["lv"], .listed openSyllable),
    (["lvt"], diff (points "AC00-D7A3") (.listed openSyllable)),
    (["prepend", "pp"], .listed graphemePrepend),
    (["regionalindicator", "ri"], .listed regionalIndicator),
    (["spacingmark", "sm"], diff (.union (.category .spacingMark) (points "E33 EB3"))
      (.union graphemeExtend (.listed notSpacing))),
    (["t"], .listed trailingJamo),
    (["v"], .listed vowelJamo),
    (["zwj"], points "200D")]

/-- The parts that characters play where texts are cut into words. -/
def wordBreaks : Listing :=
  [(["aletter", "le"], wordLetter),
    (["cr"], .one '\r'),
    (["doublequote", "dq"], .one '"'),
    (["extend"], wordExtend),
    (["extendnumlet", "ex"], .listed extendNumLet),
    (["format", "fo"], diff (.category .format) (points "200B-200D E0020-E007F")),
    (["hebrewletter", "hl"], hebrewLetter),
    (["katakana", "ka"], katakana),
    (["lf"], .one '\n'),
    (["midletter", "ml"], .listed midLetter),
    (["midnum", "mn"], .listed midNum),
    (["midnumlet", "mb"], .listed midNumLet),
    (["newline", "nl"], .listed wordNewline),
    (["numeric", "nu"], .union (.category .decimalNumber) (points "66B")),
    (["regionalindicator", "ri"], .listed regionalIndicator),
    (["singlequote", "sq"], .one '\''),
    (["wsegspace"], .listed wordSpace),
    (["zwj"], points "200D")]

/-- The characters that extend the one in front of them where sentences are cut. -/
def sentenceExtend : CharClass :=
  ofList [graphemeExtend, .category .spacingMark, points "200D"]

def sentenceLower : CharClass := diff .lowercase (points "345 10D0-10FA 10FD-10FF")

def sentenceUpper : CharClass :=
  diff (.union .uppercase (.category .titlecaseLetter)) (points "1C90-1CBA 1CBD-1CBF")

/-- The parts that characters play where texts are cut into sentences. -/
def sentenceBreaks : Listing :=
  [(["aterm", "at"], .listed otherTerminal),
    (["close", "cl"], diff (ofList [categories [.openPunctuation, .closePunctuation,
      .initialPunctuation, .finalPunctuation], .listed quotationMark, .listed otherClose])
        (points "FF02 FF07")),
    (["cr"], .one '\r'),
    (["extend", "ex"], sentenceExtend),
    (["format", "fo"], diff (.category .format) (points "200C-200D E0020-E007F")),
    (["lf"], .one '\n'),
    (["lower", "lo"], sentenceLower),
    (["numeric", "nu"], .union (.category .decimalNumber) (points "66B-66C")),
    (["oletter", "le"], .union (points "5F3")
      (diff .alphabetic (ofList [sentenceLower, sentenceUpper, sentenceExtend]))),
    (["scontinue", "sc"], .listed sentenceContinue),
    (["sep", "se"], .listed sentenceSeparator),
    (["sp"], .listed sentenceSpace),
    (["sterm", "st"], diff (.listed sentenceTerminal) (points "2E FE52 FF0E")),
    (["upper", "up"], sentenceUpper)]

end

/-! ## Names -/

/-- The class of a general category. -/
def category? : String → Option CharClass
  | "any" => some .any
  | "ascii" => some (.range (Char.ofNat 0) (Char.ofNat 127))
  | "assigned" => some (.compl (.category .unassigned))
  | name => (Category.named.lookup name).map categories

/-- The characters that belong to a script. -/
def script? (name : String) : Option CharClass :=
  (Script.named? name).map .script

/-- The characters that a script uses: a character that several scripts use is none of the common
and the inherited ones. -/
def extendedScript? (name : String) : Option CharClass :=
  (Script.named? name).map fun s =>
    if s.names.elem "common" || s.names.elem "inherited" then diff (.script s) (.listed Script.lent)
    else .union (.script s) (.listed s.borrowed)

/-- The class of one name: of a property that a character has or has not, of a category or of a
script. -/
def named? (name : String) : Option CharClass :=
  ((binary.class? name).or (category? name)).or (script? name)

/-- The properties with values: their names, and the classes of their values by name. -/
def valued : List (List String × (String → Option CharClass)) :=
  [(["generalcategory", "gc"], category?),
    (["script", "sc"], script?),
    (["scriptextensions", "scx"], extendedScript?),
    (["age"], fun value => (Age.upTo? value).map .listed),
    (["graphemeclusterbreak", "gcb"], graphemeBreaks.class?),
    (["wordbreak", "wb"], wordBreaks.class?),
    (["sentencebreak", "sb"], sentenceBreaks.class?)]

/-- The class of the characters for which a property has a value. -/
def valued? (property value : String) : Option CharClass :=
  (valued.find? fun entry => entry.1.elem property).bind fun entry => entry.2 value

end Interpolation.Pattern.Property
