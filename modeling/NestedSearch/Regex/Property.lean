import NestedSearch.Regex.Pattern
import NestedSearch.Unicode.Age
import NestedSearch.Unicode.Case
import NestedSearch.Unicode.Script
import NestedSearch.Unicode.Segmentation

/-!
# Named classes

The classes that an expression can name: general categories, scripts, ages, properties and classes
for breaks of Unicode, and the classes of ASCII. Names are compared loosely: case, spaces,
underscores, hyphens and a leading `is` make no difference.
-/

namespace NestedSearch.Regex

open Unicode

/-- A name without what makes no difference. What is not ASCII is left out. -/
def normalizeName (name : String) : String :=
  let chars := name.toList
  let (chars, hadIs) := match chars with
    | a :: b :: rest =>
      if (a = 'i' || a = 'I') && (b = 's' || b = 'S') then (rest, true) else (chars, false)
    | _ => (chars, false)
  let kept := chars.filter fun c => c.toNat < 128 && c ≠ ' ' && c ≠ '_' && c ≠ '-'
  let lower := String.ofList (kept.map Char.toLower)
  if hadIs && lower = "c" then "isc" else lower

/-- The members of a class that are ASCII. -/
def asciiOf (contains : Nat → Bool) (c : Nat) : Bool := c < 128 && contains c

/-- The classes of code points that are general categories, alone or together. -/
def categoryClass? : String → Option (Nat → Bool)
  | "any" => some fun _ => true
  | "assigned" => some isAssigned
  | "ascii" => some fun c => c < 128
  | "c" | "other" => some fun c => !isAssigned c || inCategory [.cc, .cf, .co] c
  | "cc" | "control" | "cntrl" => some (inCategory [.cc])
  | "cf" | "format" => some (inCategory [.cf])
  | "cn" | "unassigned" => some fun c => !isAssigned c
  | "co" | "privateuse" => some (inCategory [.co])
  | "l" | "letter" => some isLetter
  | "lc" | "casedletter" => some (inCategory [.lu, .ll, .lt])
  | "ll" | "lowercaseletter" => some (inCategory [.ll])
  | "lm" | "modifierletter" => some (inCategory [.lm])
  | "lo" | "otherletter" => some (inCategory [.lo])
  | "lt" | "titlecaseletter" => some (inCategory [.lt])
  | "lu" | "uppercaseletter" => some (inCategory [.lu])
  | "m" | "mark" | "combiningmark" => some (inCategory [.mn, .mc, .me])
  | "mc" | "spacingmark" => some (inCategory [.mc])
  | "me" | "enclosingmark" => some (inCategory [.me])
  | "mn" | "nonspacingmark" => some (inCategory [.mn])
  | "n" | "number" => some isNumeric
  | "nd" | "decimalnumber" | "digit" => some (inCategory [.nd])
  | "nl" | "letternumber" => some (inCategory [.nl])
  | "no" | "othernumber" => some (inCategory [.no])
  | "p" | "punctuation" | "punct" => some (inCategory [.pc, .pd, .ps, .pe, .pi, .pf, .po])
  | "pc" | "connectorpunctuation" => some (inCategory [.pc])
  | "pd" | "dashpunctuation" => some (inCategory [.pd])
  | "pe" | "closepunctuation" => some (inCategory [.pe])
  | "pf" | "finalpunctuation" => some (inCategory [.pf])
  | "pi" | "initialpunctuation" => some (inCategory [.pi])
  | "po" | "otherpunctuation" => some (inCategory [.po])
  | "ps" | "openpunctuation" => some (inCategory [.ps])
  | "s" | "symbol" => some (inCategory [.sm, .sc, .sk, .so])
  | "sc" | "currencysymbol" => some (inCategory [.sc])
  | "sk" | "modifiersymbol" => some (inCategory [.sk])
  | "sm" | "mathsymbol" => some (inCategory [.sm])
  | "so" | "othersymbol" => some (inCategory [.so])
  | "z" | "separator" => some (inCategory [.zs, .zl, .zp])
  | "zl" | "lineseparator" => some (inCategory [.zl])
  | "zp" | "paragraphseparator" => some (inCategory [.zp])
  | "zs" | "spaceseparator" => some (inCategory [.zs])
  | _ => none

/-- The classes of code points that have a property. -/
def propertyClass? : String → Option (Nat → Bool)
  | "alphabetic" | "alpha" => some isAlphabetic
  | "asciihexdigit" | "ahex" => some (asciiOf hexDigit.contains)
  | "bidicontrol" | "bidic" => some bidiControl.contains
  | "bidimirrored" | "bidim" => some bidiMirrored.contains
  | "caseignorable" | "ci" => some isCaseIgnorable
  | "cased" => some isCased
  | "changeswhencasefolded" | "cwcf" => some changesCasefolded
  | "changeswhencasemapped" | "cwcm" => some changesCasemapped
  | "changeswhenlowercased" | "cwl" => some changesLowercased
  | "changeswhentitlecased" | "cwt" => some changesTitlecased
  | "changeswhenuppercased" | "cwu" => some changesUppercased
  | "dash" => some dash.contains
  | "defaultignorablecodepoint" | "di" => some defaultIgnorable.contains
  | "deprecated" | "dep" => some deprecated.contains
  | "diacritic" | "dia" => some diacritic.contains
  | "emoji" => some emoji.contains
  | "emojicomponent" | "ecomp" => some emojiComponent.contains
  | "emojimodifier" | "emod" => some emojiModifier.contains
  | "emojimodifierbase" | "ebase" => some emojiModifierBase.contains
  | "emojipresentation" | "epres" => some emojiPresentation.contains
  | "extendedpictographic" | "extpict" => some extendedPictographic.contains
  | "extender" | "ext" => some extender.contains
  | "graphemebase" | "grbase" => some isGraphemeBase
  | "graphemeextend" | "grext" => some isGraphemeExtend
  | "graphemelink" | "grlink" => some graphemeLink.contains
  | "hexdigit" | "hex" => some hexDigit.contains
  | "hyphen" => some hyphen.contains
  | "idcompatmathcontinue" => some idCompatMathContinue.contains
  | "idcompatmathstart" => some idCompatMathStart.contains
  | "idcontinue" | "idc" => some isIdContinue
  | "idstart" | "ids" => some isIdStart
  | "ideographic" | "ideo" => some ideographic.contains
  | "idsbinaryoperator" | "idsb" => some idsBinaryOperator.contains
  | "idstrinaryoperator" | "idst" => some idsTrinaryOperator.contains
  | "idsunaryoperator" | "idsu" => some idsUnaryOperator.contains
  | "joincontrol" | "joinc" => some joinControl.contains
  | "logicalorderexception" | "loe" => some logicalOrderException.contains
  | "lowercase" | "lower" => some isLowercase
  | "math" => some isMath
  | "modifiercombiningmark" | "mcm" => some modifierCombiningMark.contains
  | "noncharactercodepoint" | "nchar" => some noncharacter.contains
  | "otheralphabetic" | "oalpha" =>
    some fun c => otherAlphabetic.contains c || casedAlphabetic.contains c
  | "otherdefaultignorablecodepoint" | "odi" => some otherDefaultIgnorable.contains
  | "othergraphemeextend" | "ogrext" => some otherGraphemeExtend.contains
  | "otheridcontinue" | "oidc" => some otherIdContinue.contains
  | "otheridstart" | "oids" => some otherIdStart.contains
  | "otherlowercase" | "olower" => some otherLowercase.contains
  | "othermath" | "omath" => some otherMath.contains
  | "otheruppercase" | "oupper" => some otherUppercase.contains
  | "patternsyntax" | "patsyn" => some patternSyntax.contains
  | "patternwhitespace" | "patws" => some patternWhiteSpace.contains
  | "prependedconcatenationmark" | "pcm" => some prependedConcatenationMark.contains
  | "quotationmark" | "qmark" => some quotationMark.contains
  | "radical" => some radical.contains
  | "regionalindicator" | "ri" => some regionalIndicator.contains
  | "sentenceterminal" | "sterm" => some sentenceTerminal.contains
  | "softdotted" | "sd" => some softDotted.contains
  | "terminalpunctuation" | "term" => some terminalPunctuation.contains
  | "unifiedideograph" | "uideo" => some unifiedIdeograph.contains
  | "uppercase" | "upper" => some isUppercase
  | "variationselector" | "vs" => some variationSelector.contains
  | "whitespace" | "wspace" | "space" => some isSpace
  | "xidcontinue" | "xidc" => some isXidContinue
  | "xidstart" | "xids" => some isXidStart
  | _ => none

/-- The classes that the breaks between the characters that a reader sees depend on. -/
def graphemeBreakClass? : String → Option (Nat → Bool)
  | "control" | "cn" => some isGraphemeControl
  | "cr" => some fun c => c = 0xD
  | "extend" | "ex" => some isGraphemeExtension
  | "l" => some leadingJamo.contains
  | "lf" => some fun c => c = 0xA
  | "lv" => some isOpenSyllable
  | "lvt" => some fun c => isHangulSyllable c && !isOpenSyllable c
  | "prepend" | "pp" => some isPrepend
  | "regionalindicator" | "ri" => some regionalIndicator.contains
  | "spacingmark" | "sm" => some isSpacingMark
  | "t" => some trailingJamo.contains
  | "v" => some vowelJamo.contains
  | "zwj" => some fun c => c = 0x200D
  | _ => none

/-- The classes that the breaks between words depend on. -/
def wordBreakClass? : String → Option (Nat → Bool)
  | "aletter" | "le" => some isWordLetter
  | "cr" => some fun c => c = 0xD
  | "doublequote" | "dq" => some fun c => c = 0x22
  | "extend" => some isWordExtension
  | "extendnumlet" | "ex" => some isWordConnector
  | "format" | "fo" => some isWordFormat
  | "hebrewletter" | "hl" => some hebrewLetter.contains
  | "katakana" | "ka" => some katakana.contains
  | "lf" => some fun c => c = 0xA
  | "midletter" | "ml" => some midLetter.contains
  | "midnum" | "mn" => some midNumber.contains
  | "midnumlet" | "mb" => some midNumberLetter.contains
  | "newline" | "nl" => some newline.contains
  | "numeric" | "nu" => some isWordNumeric
  | "regionalindicator" | "ri" => some regionalIndicator.contains
  | "singlequote" | "sq" => some fun c => c = 0x27
  | "wsegspace" => some isWordSpace
  | "zwj" => some fun c => c = 0x200D
  | _ => none

/-- The classes that the breaks between sentences depend on. -/
def sentenceBreakClass? : String → Option (Nat → Bool)
  | "aterm" | "at" => some fullStop.contains
  | "close" | "cl" => some isSentenceClose
  | "cr" => some fun c => c = 0xD
  | "extend" | "ex" => some isSentenceExtension
  | "format" | "fo" => some isSentenceFormat
  | "lf" => some fun c => c = 0xA
  | "lower" | "lo" => some isSentenceLower
  | "numeric" | "nu" => some isSentenceNumeric
  | "oletter" | "le" => some isSentenceLetter
  | "scontinue" | "sc" => some sentenceContinue.contains
  | "sep" | "se" => some sentenceSeparator.contains
  | "sp" => some isSentenceSpace
  | "sterm" | "st" => some isSentenceTerminal
  | "upper" | "up" => some isSentenceUpper
  | _ => none

/-- The class of a script. -/
def scriptClass? (name : String) : Option (Nat → Bool) := (Script.named? name).map Script.contains

/-- The class that a query asks for. -/
def PropertyQuery.class? : PropertyQuery → Option (Nat → Bool)
  | .named name =>
    let name := normalizeName name
    match propertyClass? name, categoryClass? name with
    | some p, _ => some p
    | none, some p => some p
    | none, none => scriptClass? name
  | .valued property value =>
    let value := normalizeName value
    match normalizeName property with
    | "age" => Version.assigned? value
    | "generalcategory" | "gc" => categoryClass? value
    | "graphemeclusterbreak" | "gcb" => graphemeBreakClass? value
    | "script" | "sc" => scriptClass? value
    | "scriptextensions" | "scx" => (Script.named? value).map Script.uses
    | "sentencebreak" | "sb" => sentenceBreakClass? value
    | "wordbreak" | "wb" => wordBreakClass? value
    | _ => none

/-- Whether the code point is in one of the ranges. -/
def inRanges (ranges : List (Char × Char)) (c : Nat) : Bool :=
  ranges.any fun r => r.1.toNat ≤ c && c ≤ r.2.toNat

namespace AsciiClass

/-- The class of this name. -/
def named? : String → Option AsciiClass
  | "alnum" => some .alnum
  | "alpha" => some .alpha
  | "ascii" => some .ascii
  | "blank" => some .blank
  | "cntrl" => some .cntrl
  | "digit" => some .digit
  | "graph" => some .graph
  | "lower" => some .lower
  | "print" => some .print
  | "punct" => some .punct
  | "space" => some .space
  | "upper" => some .upper
  | "word" => some .word
  | "xdigit" => some .xdigit
  | _ => none

/-- The characters of a class. -/
def ranges : AsciiClass → List (Char × Char)
  | .alnum => [('0', '9'), ('A', 'Z'), ('a', 'z')]
  | .alpha => [('A', 'Z'), ('a', 'z')]
  | .ascii => [('\x00', '\x7f')]
  | .blank => [('\t', '\t'), (' ', ' ')]
  | .cntrl => [('\x00', '\x1f'), ('\x7f', '\x7f')]
  | .digit => [('0', '9')]
  | .graph => [('!', '~')]
  | .lower => [('a', 'z')]
  | .print => [(' ', '~')]
  | .punct => [('!', '/'), (':', '@'), ('[', '\x60'), ('\x7b', '~')]
  | .space => [('\t', '\r'), (' ', ' ')]
  | .upper => [('A', 'Z')]
  | .word => [('0', '9'), ('A', 'Z'), ('_', '_'), ('a', 'z')]
  | .xdigit => [('0', '9'), ('A', 'F'), ('a', 'f')]

/-- Whether the class holds a code point. -/
def contains (k : AsciiClass) : Nat → Bool := inRanges k.ranges

end AsciiClass

namespace ShorthandClass

/-- Whether a class, of all Unicode or of ASCII alone, holds a code point. -/
def contains (unicode : Bool) : ShorthandClass → Nat → Bool
  | .digit => if unicode then decimalNumber.contains else AsciiClass.digit.contains
  | .space => if unicode then isSpace else AsciiClass.space.contains
  | .word => if unicode then isWord else AsciiClass.word.contains

end ShorthandClass

end NestedSearch.Regex
