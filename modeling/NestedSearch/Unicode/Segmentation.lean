import NestedSearch.Unicode.Property

/-!
# Breaks in text

The classes that Unicode gives code points for telling where the characters that a reader sees,
the words and the sentences of a text end. Most follow from other properties, with a few
exceptions, which are what the tables below hold.
-/

namespace NestedSearch.Unicode

/-! ## Characters that a reader sees -/

/-- Consonants that begin a Hangul syllable. -/
def leadingJamo : CodeSet where
  runs :=
    [(0x1100, 0x115F), (0xA960, 0xA97C)]

/-- Vowels of a Hangul syllable. -/
def vowelJamo : CodeSet where
  runs :=
    [(0x1160, 0x11A7), (0xD7B0, 0xD7C6), (0x16D63, 0x16D63), (0x16D67, 0x16D6A)]

/-- Consonants that end a Hangul syllable. -/
def trailingJamo : CodeSet where
  runs :=
    [(0x11A8, 0x11FF), (0xD7CB, 0xD7FB)]

/-- Consonants that stand before the rest of what a reader sees as one character. -/
def otherPrepend : CodeSet where
  runs :=
    [(0xD4E, 0xD4E), (0x111C2, 0x111C3), (0x113D1, 0x113D1), (0x1193F, 0x1193F),
    (0x11941, 0x11941), (0x11A84, 0x11A89), (0x11D46, 0x11D46), (0x11F02, 0x11F02)]

/-- Spacing marks that a reader sees as characters of their own. -/
def separateMark : CodeSet where
  runs :=
    [(0x102B, 0x102C), (0x1038, 0x1038), (0x1062, 0x1064), (0x1067, 0x106D), (0x1083, 0x1083),
    (0x1087, 0x108C), (0x108F, 0x108F), (0x109A, 0x109C), (0x1A61, 0x1A61), (0x1A63, 0x1A64),
    (0xAA7B, 0xAA7B), (0xAA7D, 0xAA7D), (0x11720, 0x11721)]

/-- Vowels that are spacing marks in all but their category. -/
def otherSpacingMark : CodeSet where
  runs :=
    [(0xE33, 0xE33), (0xEB3, 0xEB3)]

/-- Hangul syllables. -/
def isHangulSyllable (c : Nat) : Bool := 0xAC00 ≤ c && c ≤ 0xD7A3

/-- Hangul syllables that no consonant ends. -/
def isOpenSyllable (c : Nat) : Bool := isHangulSyllable c && (c - 0xAC00) % 28 = 0

/-- Characters that extend the one before them, or modify it. -/
def isGraphemeExtension (c : Nat) : Bool := isGraphemeExtend c || emojiModifier.contains c

/-- Characters that belong to the one after them. -/
def isPrepend (c : Nat) : Bool := prependedConcatenationMark.contains c || otherPrepend.contains c

/-- Marks that take room of their own beside the character before them. -/
def isSpacingMark (c : Nat) : Bool :=
  spacingMark.contains c && !isGraphemeExtend c && !separateMark.contains c ||
    otherSpacingMark.contains c

/-- Characters that stand by themselves: control and format characters but for those that have to
    do with their neighbours, and the ends of lines, which have classes of their own. -/
def isGraphemeControl (c : Nat) : Bool :=
  (inCategory [.zl, .zp, .cc, .cf] c || !isAssigned c && defaultIgnorable.contains c) &&
    !isGraphemeExtend c && !prependedConcatenationMark.contains c && !joinControl.contains c &&
    c ≠ 0xA && c ≠ 0xD

/-! ## Words -/

/-- Letters of the Hebrew script. -/
def hebrewLetter : CodeSet where
  runs :=
    [(0x5D0, 0x5EA), (0x5EF, 0x5F2), (0xFB1D, 0xFB1D), (0xFB1F, 0xFB28), (0xFB2A, 0xFB36),
    (0xFB38, 0xFB3C), (0xFB3E, 0xFB3E), (0xFB40, 0xFB41), (0xFB43, 0xFB44), (0xFB46, 0xFB4F)]

/-- Katakana, and what is written among it. -/
def katakana : CodeSet where
  runs :=
    [(0x3031, 0x3035), (0x309B, 0x309C), (0x30A0, 0x30FA), (0x30FC, 0x30FF), (0x31F0, 0x31FF),
    (0x32D0, 0x32FE), (0x3300, 0x3357), (0xFF66, 0xFF9D), (0x1AFF0, 0x1AFF3), (0x1AFF5, 0x1AFFB),
    (0x1AFFD, 0x1AFFE), (0x1B000, 0x1B000), (0x1B120, 0x1B122), (0x1B155, 0x1B155),
    (0x1B164, 0x1B167)]

/-- Hiragana. -/
def hiragana : CodeSet where
  runs :=
    [(0x3041, 0x3096), (0x309D, 0x309F), (0x1B001, 0x1B11F), (0x1B132, 0x1B132),
    (0x1B150, 0x1B152)]

/-- The blocks of the scripts of South East Asia, in which words are written without spaces. -/
def unspaced : CodeSet where
  runs :=
    [(0xE00, 0xEFF), (0x1000, 0x109F), (0x1780, 0x17FF), (0x1950, 0x19DF), (0x1A20, 0x1AAF),
    (0xA9E0, 0xA9FF), (0xAA60, 0xAADF), (0x11700, 0x1174F)]

/-- Characters besides alphabetic ones that words are spelled with. -/
def otherWordLetter : CodeSet where
  runs :=
    [(0xB8, 0xB8), (0x2C2, 0x2C5), (0x2D2, 0x2D7), (0x2DE, 0x2DF), (0x2E5, 0x2EB), (0x2ED, 0x2ED),
    (0x2EF, 0x2FF), (0x55A, 0x55C), (0x55E, 0x55E), (0x58A, 0x58A), (0x5F3, 0x5F3),
    (0x70F, 0x70F), (0xA708, 0xA716), (0xA720, 0xA721), (0xA789, 0xA78A), (0xAB5B, 0xAB5B)]

/-- Characters besides decimal digits that numbers are written with. -/
def otherWordNumeric : CodeSet where
  runs :=
    [(0x600, 0x605), (0x66B, 0x66B), (0x6DD, 0x6DD), (0x890, 0x891), (0x8E2, 0x8E2),
    (0x19DA, 0x19DA), (0x110BD, 0x110BD), (0x110CD, 0x110CD)]

/-- Characters that may stand between letters of a word. -/
def midLetter : CodeSet where
  runs :=
    [(0x3A, 0x3A), (0xB7, 0xB7), (0x387, 0x387), (0x55F, 0x55F), (0x5F4, 0x5F4), (0x2027, 0x2027),
    (0xFE13, 0xFE13), (0xFE55, 0xFE55), (0xFF1A, 0xFF1A)]

/-- Characters that may stand between digits of a number. -/
def midNumber : CodeSet where
  runs :=
    [(0x2C, 0x2C), (0x3B, 0x3B), (0x37E, 0x37E), (0x589, 0x589), (0x60C, 0x60D), (0x66C, 0x66C),
    (0x7F8, 0x7F8), (0x2044, 0x2044), (0xFE50, 0xFE50), (0xFE54, 0xFE54), (0xFF0C, 0xFF0C),
    (0xFF1B, 0xFF1B)]

/-- Characters that may stand between letters or between digits. -/
def midNumberLetter : CodeSet where
  runs :=
    [(0x2E, 0x2E), (0x2018, 0x2019), (0x2024, 0x2024), (0xFE52, 0xFE52), (0xFF07, 0xFF07),
    (0xFF0E, 0xFF0E)]

/-- Ends of lines besides the carriage return and the line feed. -/
def newline : CodeSet where
  runs :=
    [(0xB, 0xC), (0x85, 0x85), (0x2028, 0x2029)]

/-- Spaces at which no line ends. -/
def noBreakSpace : CodeSet where
  runs :=
    [(0xA0, 0xA0), (0x2007, 0x2007), (0x202F, 0x202F)]

/-- Characters that extend the one before them within a word. -/
def isWordExtension (c : Nat) : Bool := isGraphemeExtension c || spacingMark.contains c

/-- Format characters that make no difference to words. -/
def isWordFormat (c : Nat) : Bool :=
  format.contains c && !isGraphemeExtend c && !prependedConcatenationMark.contains c &&
    c ≠ 0x200B && c ≠ 0x200D

/-- Letters of the scripts in which spaces separate words, the Hebrew one excepted. -/
def isWordLetter (c : Nat) : Bool :=
  isAlphabetic c && !ideographic.contains c && !katakana.contains c && !hiragana.contains c &&
    !unspaced.contains c && !hebrewLetter.contains c && !isWordExtension c ||
    otherWordLetter.contains c

/-- Characters that numbers are written with. -/
def isWordNumeric (c : Nat) : Bool := decimalNumber.contains c || otherWordNumeric.contains c

/-- Characters that connect the parts of a word: connectors, and one space. -/
def isWordConnector (c : Nat) : Bool := connectorPunctuation.contains c || c = 0x202F

/-- Spaces between words. -/
def isWordSpace (c : Nat) : Bool := spaceSeparator.contains c && !noBreakSpace.contains c

/-! ## Sentences -/

/-- Ends of lines and of paragraphs. -/
def sentenceSeparator : CodeSet where
  runs :=
    [(0x85, 0x85), (0x2028, 0x2029)]

/-- Full stops, which do not always end a sentence. -/
def fullStop : CodeSet where
  runs :=
    [(0x2E, 0x2E), (0x2024, 0x2024), (0xFE52, 0xFE52), (0xFF0E, 0xFF0E)]

/-- Characters after which a sentence goes on. -/
def sentenceContinue : CodeSet where
  runs :=
    [(0x2C, 0x2D), (0x3A, 0x3B), (0x37E, 0x37E), (0x55D, 0x55D), (0x60C, 0x60D), (0x7F8, 0x7F8),
    (0x1802, 0x1802), (0x1808, 0x1808), (0x2013, 0x2014), (0x3001, 0x3001), (0xFE10, 0xFE11),
    (0xFE13, 0xFE14), (0xFE31, 0xFE32), (0xFE50, 0xFE51), (0xFE54, 0xFE55), (0xFE58, 0xFE58),
    (0xFE63, 0xFE63), (0xFF0C, 0xFF0D), (0xFF1A, 0xFF1B), (0xFF64, 0xFF64)]

/-- Characters besides brackets and quotation marks that enclose. -/
def otherClose : CodeSet where
  runs :=
    [(0x275B, 0x2760), (0x2E00, 0x2E01), (0x2E06, 0x2E08), (0x2E0B, 0x2E0B), (0x1F676, 0x1F678)]

/-- Quotation marks that are not taken for what encloses. -/
def wideQuotationMark : CodeSet where
  runs :=
    [(0xFF02, 0xFF02), (0xFF07, 0xFF07)]

/-- Letters of the Georgian script, in which a sentence does not begin with a capital. -/
def georgian : CodeSet where
  runs :=
    [(0x10D0, 0x10FA), (0x10FD, 0x10FF), (0x1C90, 0x1CBA), (0x1CBD, 0x1CBF)]

/-- Characters that extend the one before them within a sentence. -/
def isSentenceExtension (c : Nat) : Bool :=
  isGraphemeExtend c || spacingMark.contains c || c = 0x200D

/-- Format characters that make no difference to sentences. -/
def isSentenceFormat (c : Nat) : Bool :=
  format.contains c && !isSentenceExtension c &&
    (!prependedConcatenationMark.contains c || c = 0x70F)

/-- White space within and between sentences. -/
def isSentenceSpace (c : Nat) : Bool :=
  isSpace c && !sentenceSeparator.contains c && c ≠ 0xA && c ≠ 0xD

/-- Small letters. -/
def isSentenceLower (c : Nat) : Bool :=
  isLowercase c && !isGraphemeExtend c && !georgian.contains c

/-- Capital letters. -/
def isSentenceUpper (c : Nat) : Bool :=
  (isUppercase c || titlecaseLetter.contains c) && !georgian.contains c

/-- Letters that are neither small nor capital. -/
def isSentenceLetter (c : Nat) : Bool :=
  isAlphabetic c && !isSentenceLower c && !isSentenceUpper c && !isSentenceExtension c || c = 0x5F3

/-- Characters that numbers are written with, the separator of thousands included. -/
def isSentenceNumeric (c : Nat) : Bool := isWordNumeric c || c = 0x66C

/-- Characters that end a sentence, full stops excepted. -/
def isSentenceTerminal (c : Nat) : Bool := sentenceTerminal.contains c && !fullStop.contains c

/-- Brackets and quotation marks. -/
def isSentenceClose (c : Nat) : Bool :=
  (inCategory [.ps, .pe, .pi, .pf] c || quotationMark.contains c) &&
    !wideQuotationMark.contains c || otherClose.contains c

end NestedSearch.Unicode
