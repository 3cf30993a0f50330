import DocumentQuery.BuiltinEngine.CharSet
import DocumentQuery.Text.Script

/-!
# Classes of text boundaries

The rules for the boundaries of user-perceived characters, of words and of sentences each put every character
into one class at most. `Break.grapheme`, `Break.word` and `Break.sentence` list the classes by their names, in
small letters and without separators. A class that is made of general categories and properties is defined from
them; the others are listed.
-/

namespace DocumentQuery.BuiltinEngine

open Text (Ranges)

namespace CharSet

/-- Some sets together. -/
def oneOf (sets : List CharSet) : CharSet := sets.foldl union empty

/-- A set without the members of others. -/
def except (s : CharSet) (others : List CharSet) : CharSet := others.foldl minus s

/-- The code points that a text lists. -/
def listed (text : String) : CharSet := table (Ranges.read text)

end CharSet

/-- The classes of a boundary rule, each with its names. -/
abbrev BreakClasses := List (List String × CharSet)

namespace Break

open CharSet Text

def carriageReturn : CharSet := single '\r'

def lineFeed : CharSet := single '\n'

def joiner : CharSet := single '\u200d'

def nonJoiner : CharSet := single '\u200c'

def regionalIndicator : CharSet := listed "1f1e6-1f1ff"

/-- Marks that belong to the character before them. -/
def graphemeMark : CharSet := table Property.graphemeExtend

/-- Marks that belong to the character before them, and the modifiers of skin tone. -/
def graphemeExtension : CharSet := union graphemeMark (table Property.emojiModifier)

def spacingMark : CharSet := table Category.spacingMark

/-- Signs that stand before a number and span it. -/
def numberSign : CharSet := table Property.prependedConcatenationMark

def formatSign : CharSet := table Category.format

/-! ## Characters as a reader perceives them -/

def graphemeControl : CharSet :=
  except
    (oneOf [table Category.lineSeparator, table Category.paragraphSeparator, table Category.control,
      formatSign, inter (table Category.unassigned) (table Property.defaultIgnorableCodePoint)])
    [carriageReturn, lineFeed, nonJoiner, joiner, numberSign, graphemeExtension]

def graphemePrepend : CharSet := listed "
  600-605 6dd 70f 890-891 8e2 d4e 110bd 110cd 111c2-111c3 113d1 1193f 11941 11a3a 11a84-11a89 11d46 11f02"

/-- Spacing marks and two vowel signs; the excepted ones may stand apart from their base. -/
def graphemeSpacingMark : CharSet :=
  except (union spacingMark (listed "e33 eb3"))
    [graphemeExtension, listed "
      102b-102c 1038 1062-1064 1067-106d 1083 1087-108c 108f 109a-109c 1a61 1a63-1a64 aa7b aa7d 11720-11721"]

/-- Hangul syllables without a final consonant; each is followed by those that end in one. -/
def openSyllable : CharSet := table ((List.range 399).map fun k => (0xac00 + 28 * k, 0xac00 + 28 * k))

def closedSyllable : CharSet := minus (listed "ac00-d7a3") openSyllable

def grapheme : BreakClasses := [
  (["cr"], carriageReturn),
  (["lf"], lineFeed),
  (["control", "cn"], graphemeControl),
  (["extend", "ex"], minus graphemeExtension joiner),
  (["zwj"], joiner),
  (["regionalindicator", "ri"], regionalIndicator),
  (["prepend", "pp"], graphemePrepend),
  (["spacingmark", "sm"], graphemeSpacingMark),
  (["l"], listed "1100-115f a960-a97c"),
  (["v"], listed "1160-11a7 d7b0-d7c6 16d63 16d67-16d6a"),
  (["t"], listed "11a8-11ff d7cb-d7fb"),
  (["lv"], openSyllable),
  (["lvt"], closedSyllable)]

/-! ## Words -/

def wordExtend : CharSet := minus (union graphemeExtension spacingMark) joiner

def wordFormat : CharSet := except formatSign [listed "200b-200d", graphemeMark, numberSign]

def numeric : CharSet := oneOf [digit, minus numberSign (listed "70f"), listed "66b 19da"]

def hebrewLetter : CharSet := listed "
  5d0-5ea 5ef-5f2 fb1d fb1f-fb28 fb2a-fb36 fb38-fb3c fb3e fb40-fb41 fb43-fb44 fb46-fb4f"

def katakana : CharSet := listed "
  3031-3035 309b-309c 30a0-30fa 30fc-30ff 31f0-31ff 32d0-32fe 3300-3357 ff66-ff9d 1aff0-1aff3 1aff5-1affb
  1affd-1affe 1b000 1b120-1b122 1b155 1b164-1b167"

def hiragana : CharSet := table ((Script.find? "hira").getD [])

/-- Letters of the scripts that put no blanks between words. -/
def unspacedLetter : CharSet := listed "
  e01-e30 e32-e33 e40-e46 e81-e82 e84 e86-e8a e8c-ea3 ea5 ea7-eb0 eb2-eb3 ebd ec0-ec4 ec6 edc-edf 1000-102a
  103f 1050-1055 105a-105d 1061 1065-1066 106e-1070 1075-1081 108e 1780-17b3 17d7 17dc 1950-196d 1970-1974
  1980-19ab 19b0-19c9 1a20-1a54 1aa7 a9e0-a9e4 a9e6-a9ef a9fa-a9fe aa60-aa76 aa7a aa7e-aaaf aab1 aab5-aab6
  aab9-aabd aac0 aac2 aadb-aadd 11700-1171a 11740-11746"

/-- Letters of the scripts with blanks between words, and some signs used like letters. -/
def wordLetter : CharSet :=
  union
    (except (table Property.alphabetic)
      [table Property.ideographic, katakana, hiragana, wordExtend, hebrewLetter, unspacedLetter])
    (listed "
      2c2-2c5 2d2-2d7 2de-2df 2e5-2eb 2ed 2ef-2ff 55a-55c 55e 58a 5f3 70f a708-a716 a720-a721 a789-a78a ab5b")

def word : BreakClasses := [
  (["cr"], carriageReturn),
  (["lf"], lineFeed),
  (["newline", "nl"], listed "b-c 85 2028-2029"),
  (["extend"], wordExtend),
  (["zwj"], joiner),
  (["regionalindicator", "ri"], regionalIndicator),
  (["format", "fo"], wordFormat),
  (["katakana", "ka"], katakana),
  (["hebrewletter", "hl"], hebrewLetter),
  (["aletter", "le"], wordLetter),
  (["singlequote", "sq"], single '\''),
  (["doublequote", "dq"], single '"'),
  (["midnumlet", "mb"], listed "2e 2018-2019 2024 fe52 ff07 ff0e"),
  (["midletter", "ml"], listed "3a b7 387 55f 5f4 2027 fe13 fe55 ff1a"),
  (["midnum", "mn"], listed "2c 3b 37e 589 60c-60d 66c 7f8 2044 fe50 fe54 ff0c ff1b"),
  (["numeric", "nu"], numeric),
  (["extendnumlet", "ex"], listed "5f 202f 203f-2040 2054 fe33-fe34 fe4d-fe4f ff3f"),
  (["wsegspace"], listed "20 1680 2000-2006 2008-200a 205f 3000")]

/-! ## Sentences -/

def paragraphBreak : CharSet := listed "85 2028-2029"

def sentenceExtend : CharSet := oneOf [graphemeMark, spacingMark, joiner]

def sentenceFormat : CharSet :=
  union (except formatSign [nonJoiner, joiner, graphemeMark, numberSign]) (listed "70f")

/-- Small letters; those of a script whose capitals stand in headings alone count as other letters. -/
def sentenceLower : CharSet :=
  except (table Property.lowercase) [graphemeMark, listed "10d0-10fa 10fd-10ff"]

def sentenceUpper : CharSet :=
  minus (union (table Category.titlecaseLetter) (table Property.uppercase)) (listed "1c90-1cba 1cbd-1cbf")

def sentenceLetter : CharSet :=
  except (union (table Property.alphabetic) (listed "5f3")) [sentenceLower, sentenceUpper, sentenceExtend]

/-- Full stops, which may also end an abbreviation. -/
def fullStop : CharSet := listed "2e 2024 fe52 ff0e"

/-- Brackets and quotation marks. -/
def closing : CharSet :=
  oneOf [table Category.openPunctuation, table Category.closePunctuation, listed "
    22 27 ab bb 2018-2019 201b-201d 201f 2039-203a 275b-2760 2e00-2e0d 2e1c-2e1d 2e20-2e21 1f676-1f678"]

def sentence : BreakClasses := [
  (["cr"], carriageReturn),
  (["lf"], lineFeed),
  (["extend", "ex"], sentenceExtend),
  (["sep", "se"], paragraphBreak),
  (["format", "fo"], sentenceFormat),
  (["sp"], except blank [carriageReturn, lineFeed, paragraphBreak]),
  (["lower", "lo"], sentenceLower),
  (["upper", "up"], sentenceUpper),
  (["oletter", "le"], sentenceLetter),
  (["numeric", "nu"], union numeric (listed "66c")),
  (["aterm", "at"], fullStop),
  (["scontinue", "sc"], listed "
    2c-2d 3a-3b 37e 55d 60c-60d 7f8 1802 1808 2013-2014 3001 fe10-fe11 fe13-fe14 fe31-fe32 fe50-fe51 fe54-fe55
    fe58 fe63 ff0c-ff0d ff1a-ff1b ff64"),
  (["sterm", "st"], minus (table Property.sentenceTerminal) fullStop),
  (["close", "cl"], closing)]

end Break

namespace BreakClasses

/-- The characters of a class. -/
def find? (classes : BreakClasses) (name : String) : Option CharSet :=
  (List.find? (·.1.contains name) classes).map (·.2)

end BreakClasses

end DocumentQuery.BuiltinEngine
