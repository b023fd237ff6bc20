import EditorModes.Text.Property.Binary

/-!
# Breaks in text

The classes of characters that decide where a text breaks into what a reader takes for a
character, into words and into sentences, as of edition 16 of the character database.
-/

namespace EditorModes.Property

/-- The syllables that consist of an initial consonant and a vowel. -/
def hangulOpenSyllable : CharSet := .ofText "AC00-D788/1C"

/-- The characters that extend the one before them, emoji modifiers included. -/
def extendOrModifier : CharSet :=
  (graphemeExtend .v16).union emojiModifier

/-- The signs in front of digits or letters that belong to these. -/
def graphemePrepend : CharSet :=
  .ofText
    "600-605 6DD 70F 890-891 8E2 D4E 110BD 110CD 111C2-111C3 113D1 1193F 11941 11A3A 11A84-11A89
    11D46 11F02"

/-- The marks that take up a place of their own and belong to the character before them. -/
def graphemeSpacingMark : CharSet :=
  ((Category.spacingMark.set .v16).difference extendOrModifier).symmetricDifference (.ofText
    "E33 EB3 102B-102C 1038 1062-1064 1067-106D 1083 1087-108C 108F 109A-109C 1A61 1A63-1A64 AA7B
    AA7D 11720-11721")

/-- The control characters, which belong to no other character. -/
def graphemeControl : CharSet :=
  (Category.sets .v16 [.control, .format, .lineSeparator,
    .paragraphSeparator]).symmetricDifference (.ofText
    "A D 600-605 6DD 70F 890-891 8E2 200C-200D 2065 FFF0-FFF8 110BD 110CD E0000 E0002-E00FF
    E01F0-E0FFF")

/-- The classes that decide where characters, as readers take them, begin and end. -/
def graphemeBreaks : List (List String × CharSet) := [
  (["cr"], .ofText "D"),
  (["lf"], .ofText "A"),
  (["cn", "control"], graphemeControl),
  (["ex", "extend"], extendOrModifier),
  (["l"], .ofText "1100-115F A960-A97C"),
  (["lv"], hangulOpenSyllable),
  (["lvt"], (CharSet.ofText "AC00-D7A3").difference hangulOpenSyllable),
  (["pp", "prepend"], graphemePrepend),
  (["ri", "regionalindicator"], regionalIndicator),
  (["sm", "spacingmark"], graphemeSpacingMark),
  (["t"], .ofText "11A8-11FF D7CB-D7FB"),
  (["v"], .ofText "1160-11A7 D7B0-D7C6 16D63 16D67-16D6A"),
  (["zwj"], .ofText "200D")]

/-- The characters that extend a word without counting in it. -/
def wordExtend : CharSet :=
  extendOrModifier.union (Category.spacingMark.set .v16)

/-- The formats that words skip. -/
def wordFormat : CharSet :=
  (Category.format.set .v16).difference (.ofText "200B-200D E0020-E007F")

/-- The katakana, which hold together in a word. -/
def wordKatakana : CharSet :=
  .ofText
    "3031-3035 309B-309C 30A0-30FA 30FC-30FF 31F0-31FF 32D0-32FE 3300-3357 FF66-FF9D 1AFF0-1AFF3
    1AFF5-1AFFB 1AFFD-1AFFE 1B000 1B120-1B122 1B155 1B164-1B167"

/-- The letters that a quotation mark may follow inside a word. -/
def wordHebrewLetter : CharSet :=
  .ofText
    "5D0-5EA 5EF-5F2 FB1D FB1F-FB28 FB2A-FB36 FB38-FB3C FB3E FB40-FB41 FB43-FB44 FB46-FB4F"

/-- The letters that words are made of. -/
def wordLetter : CharSet :=
  ((alphabetic .v16).difference (.unions
    [ideographic, wordExtend, wordKatakana, wordHebrewLetter])).symmetricDifference (.ofText
    "2C2-2C5 2D2-2D7 2DE-2DF 2E5-2EB 2ED 2EF-2FF 55A-55C 55E 58A 5F3 E01-E30 E32-E33 E40-E46
    E81-E82 E84 E86-E8A E8C-EA3 EA5 EA7-EB0 EB2-EB3 EBD EC0-EC4 EC6 EDC-EDF 1000-102A 103F
    1050-1055 105A-105D 1061 1065-1066 106E-1070 1075-1081 108E 1780-17B3 17D7 17DC 1950-196D
    1970-1974 1980-19AB 19B0-19C9 1A20-1A54 1AA7 3041-3096 309D-309F A708-A716 A720-A721
    A789-A78A A9E0-A9E4 A9E6-A9EF A9FA-A9FE AA60-AA76 AA7A AA7E-AAAF AAB1 AAB5-AAB6 AAB9-AABD
    AAC0 AAC2 AADB-AADD AB5B 11700-1171A 11740-11746 1B001-1B11F 1B132 1B150-1B152")

/-- The classes that decide where words begin and end. -/
def wordBreaks : List (List String × CharSet) := [
  (["cr"], .ofText "D"),
  (["lf"], .ofText "A"),
  (["nl", "newline"], .ofText "B-C 85 2028-2029"),
  (["dq", "doublequote"], .ofText "22"),
  (["sq", "singlequote"], .ofText "27"),
  (["extend"], wordExtend),
  (["ex", "extendnumlet"], .ofText "5F 202F 203F-2040 2054 FE33-FE34 FE4D-FE4F FF3F"),
  (["fo", "format"], wordFormat),
  (["hl", "hebrewletter"], wordHebrewLetter),
  (["ka", "katakana"], wordKatakana),
  (["le", "aletter"], wordLetter),
  (["mb", "midnumlet"], .ofText "2E 2018-2019 2024 FE52 FF07 FF0E"),
  (["ml", "midletter"], .ofText "3A B7 387 55F 5F4 2027 FE13 FE55 FF1A"),
  (["mn", "midnum"],
    .ofText "2C 3B 37E 589 60C-60D 66C 7F8 2044 FE10 FE14 FE50 FE54 FF0C FF1B"),
  (["nu", "numeric"], (Category.decimalNumber.set .v16).union (.ofText "66B")),
  (["ri", "regionalindicator"], regionalIndicator),
  (["wsegspace"], .ofText "20 1680 2000-2006 2008-200A 205F 3000"),
  (["zwj"], .ofText "200D")]

/-- The characters that extend a sentence without counting in it. -/
def sentenceExtend : CharSet :=
  .unions [graphemeExtend .v16, Category.spacingMark.set .v16, .ofText "200D"]

/-- The lower-case characters, with which no sentence starts. -/
def sentenceLower : CharSet :=
  (lowercase .v16).difference ((graphemeExtend .v16).union (.ofText "10D0-10FA 10FD-10FF"))

/-- The upper-case characters, with which a sentence may start. -/
def sentenceUpper : CharSet :=
  ((uppercase .v16).union (Category.titlecaseLetter.set .v16)).difference
    (.ofText "1C90-1CBA 1CBD-1CBF")

/-- The letters without case. -/
def sentenceLetter : CharSet :=
  ((alphabetic .v16).difference (.unions
    [sentenceExtend, sentenceLower, sentenceUpper])).union (.ofText "5F3")

/-- The marks that enclose text. -/
def sentenceClose : CharSet :=
  (Category.sets .v16 [.openPunctuation, .closePunctuation, .initialPunctuation,
    .finalPunctuation]).union
      (.ofText "22 27 275B-2760 2E00-2E01 2E06-2E08 2E0B 1F676-1F678")

/-- The full stops, which need not end a sentence. -/
def sentenceStop : CharSet := .ofText "2E 2024 FE52 FF0E"

/-- The classes that decide where sentences begin and end. -/
def sentenceBreaks : List (List String × CharSet) := [
  (["cr"], .ofText "D"),
  (["lf"], .ofText "A"),
  (["at", "aterm"], sentenceStop),
  (["cl", "close"], sentenceClose),
  (["ex", "extend"], sentenceExtend),
  (["fo", "format"],
    (Category.format.set .v16).difference (.ofText "200C-200D E0020-E007F")),
  (["le", "oletter"], sentenceLetter),
  (["lo", "lower"], sentenceLower),
  (["nu", "numeric"], (Category.decimalNumber.set .v16).union (.ofText "66B-66C")),
  (["sc", "scontinue"],
    .ofText
      "2C-2D 3A-3B 37E 55D 60C-60D 7F8 1802 1808 2013-2014 3001 FE10-FE11 FE13-FE14 FE31-FE32
      FE50-FE51 FE54-FE55 FE58 FE63 FF0C-FF0D FF1A-FF1B FF64"),
  (["se", "sep"], .ofText "85 2028-2029"),
  (["sp"], .ofText "9 B-C 20 A0 1680 2000-200A 202F 205F 3000"),
  (["st", "sterm"], sentenceTerminal.difference sentenceStop),
  (["up", "upper"], sentenceUpper)]

end EditorModes.Property
