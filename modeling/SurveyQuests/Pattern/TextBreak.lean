import SurveyQuests.Pattern.CharSet

/-!
# Where texts break

A text can be cut into clusters that are read as one character, into words, and into sentences.
The rules for each cut sort the characters into classes, and a pattern may ask for such a class by
its name.  Most classes follow from categories and properties, so each is written as the set that
its rule describes, and a table is left only for what is listed one by one.

## What is here

* `TextBreak.cluster?`, `TextBreak.word?`, `TextBreak.sentence?` — the class with a name, in lower
  case and without blanks, dashes and low lines, for each of the three cuts.
-/

set_option autoImplicit false

namespace SurveyQuests.TextBreak

/-- The listed code points. -/
def listed (lines : List String) : CharSet := .table (.ofLines lines)

/-- The members of any of the sets. -/
def anyOf (sets : List CodeSet) : CharSet := .table (.unions sets)

/-- The class with a name. -/
def named? (classes : List (List String × CharSet)) (name : String) : Option CharSet :=
  (classes.find? fun c ↦ c.1.contains name).map Prod.snd

/-! ## Classes of more than one cut -/

/-- The first half of a line end of two characters. -/
def carriageReturn : CharSet := listed ["d"]

/-- The character that ends a line. -/
def lineFeed : CharSet := listed ["a"]

/-- The character that joins the two around it. -/
def joiner : CharSet := listed ["200d"]

/-- The letters of flags. -/
def flagLetter : CharSet := .table BinaryProperty.regionalIndicator

/-- Marks that stand before the numeral that they enclose; the one that stands before letters is
not among them. -/
def numeralMark : CharSet := .diff (.table BinaryProperty.prependedMark) (listed ["70f"])

/-- What belongs to the character before it, in words and sentences. -/
def attached : CharSet := anyOf [BinaryProperty.graphemeExtend, GeneralCategory.spacingMark]

/-! ## Clusters -/

/-- What extends the cluster before it. -/
def clusterExtend : CharSet := anyOf [BinaryProperty.graphemeExtend, BinaryProperty.emojiModifier]

/-- What stands before the rest of its cluster. -/
def clusterPrepend : CharSet :=
  .union (.table BinaryProperty.prependedMark)
    (listed ["d4e 111c2-111c3 113d1 1193f 11941 11a3a 11a84-11a89 11d46 11f02"])

/-- Controls, separators and invisible characters, which stand alone. -/
def clusterControl : CharSet :=
  .diff
    (.union
      (anyOf [GeneralCategory.lineSeparator, GeneralCategory.paragraphSeparator,
        GeneralCategory.control, GeneralCategory.format])
      (.inter (.table GeneralCategory.unassigned) (.table BinaryProperty.defaultIgnorable)))
    (.union (listed ["a d 200c-200d"])
      (.union (.table BinaryProperty.prependedMark) clusterExtend))

/-- Marks that take space and belong to the cluster before them. -/
def clusterMark : CharSet :=
  .diff (.union (.table GeneralCategory.spacingMark) (listed ["e33 eb3"]))
    (.union clusterExtend
      (listed ["102b-102c 1038 1062-1064 1067-106d 1083 1087-108c 108f 109a-109c 1a61 1a63-1a64",
        "aa7b aa7d 11720-11721"]))

/-- The syllables of the Korean alphabet. -/
def syllable : CharSet := .range 0xac00 0xd7a3

/-- The syllables without a final consonant: every twenty-eighth. -/
def openSyllable : CharSet :=
  .table (.ofPoints ((List.range 399).map fun k ↦ 0xac00 + 28 * k))

/-- The classes of clusters. -/
def clusterClasses : List (List String × CharSet) :=
  [(["cr"], carriageReturn), (["lf"], lineFeed), (["cn", "control"], clusterControl),
    (["ex", "extend"], clusterExtend), (["zwj"], joiner),
    (["ri", "regionalindicator"], flagLetter), (["pp", "prepend"], clusterPrepend),
    (["sm", "spacingmark"], clusterMark),
    (["l"], listed ["1100-115f a960-a97c"]),
    (["v"], listed ["1160-11a7 d7b0-d7c6 16d63 16d67-16d6a"]),
    (["t"], listed ["11a8-11ff d7cb-d7fb"]),
    (["lv"], openSyllable), (["lvt"], .diff syllable openSyllable)]

/-- The class of clusters with a name. -/
def cluster? : String → Option CharSet := named? clusterClasses

/-! ## Words -/

/-- What extends the word before it. -/
def wordExtend : CharSet := .union attached (.table BinaryProperty.emojiModifier)

/-- Invisible characters inside words. -/
def wordFormat : CharSet :=
  .diff (.table GeneralCategory.format)
    (.union (listed ["200b-200d"]) (.union (.table BinaryProperty.prependedMark) wordExtend))

/-- The characters of the Japanese syllabary for foreign words, and the marks used with them. -/
def katakana : CharSet :=
  listed ["3031-3035 309b-309c 30a0-30fa 30fc-30ff 31f0-31ff 32d0-32fe 3300-3357 ff66-ff9d",
    "1aff0-1aff3 1aff5-1affb 1affd-1affe 1b000 1b120-1b122 1b155 1b164-1b167"]

/-- The characters of the Japanese syllabary for native words. -/
def hiragana : CharSet := listed ["3041-3096 309d-309f 1b001-1b11f 1b132 1b150-1b152 1f200"]

/-- Hebrew letters, which a quotation mark may follow inside a word. -/
def hebrewLetter : CharSet :=
  listed ["5d0-5ea 5ef-5f2 fb1d fb1f-fb28 fb2a-fb36 fb38-fb3c fb3e fb40-fb41 fb43-fb44 fb46-fb4f"]

/-- The characters of scripts that do not part words by spaces, so that a dictionary is needed to
tell them apart. -/
def unspaced : CharSet :=
  listed ["e01-e3a e40-e4e e81-e82 e84 e86-e8a e8c-ea3 ea5 ea7-ebd ec0-ec4 ec6 ec8-ece edc-edf",
    "1000-103f 1050-108f 109a-109f 1780-17d3 17d7 17dc-17dd 1950-196d 1970-1974 1980-19ab",
    "19b0-19c9 19da 19de-19df 1a20-1a5e 1a60-1a7c 1aa0-1aad a9e0-a9ef a9fa-a9fe aa60-aac2",
    "aadb-aadf 11700-1171a 1171d-1172b 1173a-1173b 1173f-11746"]

/-- Signs that words contain like letters. -/
def letterlike : CharSet :=
  listed ["b8 2c2-2c5 2d2-2d7 2de-2df 2e5-2eb 2ed 2ef-2ff 55a-55c 55e 58a 5f3 70f a708-a716",
    "a720-a721 a789-a78a ab5b"]

/-- The letters of words: all letters but those that a dictionary has to sort into words, those of
a class of their own, and what belongs to another character. -/
def wordLetter : CharSet :=
  .diff (.union (.table BinaryProperty.alphabetic) letterlike)
    (.union (.union (.table BinaryProperty.ideographic) (.union katakana hiragana))
      (.union unspaced (.union wordExtend hebrewLetter)))

/-- The digits of numbers in words. -/
def wordNumeral : CharSet :=
  .union (.table GeneralCategory.decimalNumber) (.union (listed ["66b 19da"]) numeralMark)

/-- The classes of words. -/
def wordClasses : List (List String × CharSet) :=
  [(["cr"], carriageReturn), (["lf"], lineFeed), (["nl", "newline"], listed ["b-c 85 2028-2029"]),
    (["extend"], wordExtend), (["zwj"], joiner), (["fo", "format"], wordFormat),
    (["ri", "regionalindicator"], flagLetter), (["ka", "katakana"], katakana),
    (["hl", "hebrewletter"], hebrewLetter), (["le", "aletter"], wordLetter),
    (["sq", "singlequote"], listed ["27"]), (["dq", "doublequote"], listed ["22"]),
    (["mb", "midnumlet"], listed ["2e 2018-2019 2024 fe52 ff07 ff0e"]),
    (["ml", "midletter"], listed ["3a b7 387 55f 5f4 2027 fe13 fe55 ff1a"]),
    (["mn", "midnum"],
      listed ["2c 3b 37e 589 60c-60d 66c 7f8 2044 fe10 fe14 fe50 fe54 ff0c ff1b"]),
    (["nu", "numeric"], wordNumeral),
    (["ex", "extendnumlet"],
      .union (.table GeneralCategory.connectorPunctuation) (listed ["202f"])),
    (["wsegspace"], listed ["20 1680 2000-2006 2008-200a 205f 3000"])]

/-- The class of words with a name. -/
def word? : String → Option CharSet := named? wordClasses

/-! ## Sentences -/

/-- What extends the character before it, in sentences. -/
def sentenceExtend : CharSet := .union attached joiner

/-- Invisible characters inside sentences. -/
def sentenceFormat : CharSet :=
  .diff (.table GeneralCategory.format)
    (.union (listed ["200c-200d"]) (.union numeralMark sentenceExtend))

/-- Separators of paragraphs. -/
def paragraphEnd : CharSet := listed ["85 2028-2029"]

/-- White space inside a paragraph. -/
def sentenceSpace : CharSet :=
  .diff (.table BinaryProperty.whiteSpace) (.union (listed ["a d"]) paragraphEnd)

/-- Lowercase letters, which do not start a sentence.  Georgian letters are none, as their case
does not depend on where a sentence starts. -/
def sentenceLower : CharSet :=
  .diff (.table BinaryProperty.lowercase)
    (.union (.table BinaryProperty.graphemeExtend) (listed ["10d0-10fa 10fd-10ff"]))

/-- Uppercase and titlecase letters, but no Georgian ones. -/
def sentenceUpper : CharSet :=
  .diff (anyOf [BinaryProperty.uppercase, GeneralCategory.titlecaseLetter])
    (listed ["1c90-1cba 1cbd-1cbf"])

/-- Letters without case. -/
def sentenceLetter : CharSet :=
  .diff (.union (.table BinaryProperty.alphabetic) (listed ["5f3"]))
    (.union sentenceExtend (.union sentenceLower sentenceUpper))

/-- The digits of numbers in sentences. -/
def sentenceNumeral : CharSet :=
  .union (.table GeneralCategory.decimalNumber) (.union (listed ["66b-66c 19da"]) numeralMark)

/-- Full stops, which end a sentence or an abbreviation. -/
def fullStop : CharSet := listed ["2e 2024 fe52 ff0e"]

/-- Brackets and quotation marks. -/
def closing : CharSet :=
  .union
    (anyOf [GeneralCategory.openPunctuation, GeneralCategory.closePunctuation,
      GeneralCategory.initialPunctuation, GeneralCategory.finalPunctuation])
    (listed ["22 27 275b-2760 2e00-2e01 2e06-2e08 2e0b 1f676-1f678"])

/-- The classes of sentences. -/
def sentenceClasses : List (List String × CharSet) :=
  [(["cr"], carriageReturn), (["lf"], lineFeed), (["ex", "extend"], sentenceExtend),
    (["se", "sep"], paragraphEnd), (["fo", "format"], sentenceFormat),
    (["sp"], sentenceSpace), (["lo", "lower"], sentenceLower), (["up", "upper"], sentenceUpper),
    (["le", "oletter"], sentenceLetter), (["nu", "numeric"], sentenceNumeral),
    (["at", "aterm"], fullStop),
    (["st", "sterm"], .diff (.table BinaryProperty.sentenceTerminal) fullStop),
    (["cl", "close"], closing),
    (["sc", "scontinue"],
      listed ["2c-2d 3a-3b 37e 55d 60c-60d 7f8 1802 1808 2013-2014 3001 fe10-fe11 fe13-fe14",
        "fe31-fe32 fe50-fe51 fe54-fe55 fe58 fe63 ff0c-ff0d ff1a-ff1b ff64"])]

/-- The class of sentences with a name. -/
def sentence? : String → Option CharSet := named? sentenceClasses

end SurveyQuests.TextBreak
