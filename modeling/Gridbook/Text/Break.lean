import Gridbook.Text.Property

/-!
# Break classes

The classes of characters by which text is divided into the units that readers
see as one character, into words and into sentences. Classes are named in lower
case and without separators, by a long and mostly also by a short name.
Characters of no class have no name here.
-/
namespace Gridbook.Text.Break

open Property (categories listed)

/-- The characters of a set that are in none of some others. -/
def except (s : CodeSet) (without : List CodeSet) : CodeSet :=
  s.difference (CodeSet.unionAll without)

/-- Marks and modifiers that belong to what stands before them. -/
def extending : CodeSet :=
  CodeSet.unionAll [Property.graphemeExtend, categories ["Mc"], listed "emojimodifier"]

/-- Format characters that belong to the number or word after them. -/
def heading : CodeSet := listed "prependedconcatenationmark"

def joiners : CodeSet := .range 0x200C 0x200D

/-- The first syllable of every group of 28 Hangul syllables, the one without a final letter. -/
def openSyllables : CodeSet :=
  ⟨(List.range 399).map fun i => (0xAC00 + 28 * i, 0xAC00 + 28 * i)⟩

def control : CodeSet :=
  except
    (CodeSet.unionAll
      [categories ["Zl", "Zp", "Cc", "Cf"], (categories ["Cn"]).inter Property.ignorable])
    [.single 0xA, .single 0xD, joiners, heading, Property.graphemeExtend]

def spacingMarks : CodeSet :=
  (except (categories ["Mc"]) [Property.graphemeExtend, .ofLines [
    "102B-102C 1038 1062-1064 1067-106D 1083 1087-108C 108F 109A-109C 1A61 1A63-1A64 AA7B AA7D",
    "11720-11721"]]).union
    (.ofLines ["E33 EB3"])

def grapheme? : String → Option CodeSet
  | "cr" => some (.single 0xD)
  | "lf" => some (.single 0xA)
  | "control" | "cn" => some control
  | "extend" | "ex" => some (Property.graphemeExtend.union (listed "emojimodifier"))
  | "zwj" => some (.single 0x200D)
  | "regionalindicator" | "ri" => some (listed "regionalindicator")
  | "prepend" | "pp" =>
    some (.ofLines [
      "600-605 6DD 70F 890-891 8E2 D4E 110BD 110CD 111C2-111C3 113D1 1193F 11941 11A3A",
      "11A84-11A89 11D46 11F02"])
  | "spacingmark" | "sm" => some spacingMarks
  | "l" => some (.ofLines ["1100-115F A960-A97C"])
  | "v" => some (.ofLines ["1160-11A7 D7B0-D7C6 16D63 16D67-16D6A"])
  | "t" => some (.ofLines ["11A8-11FF D7CB-D7FB"])
  | "lv" => some openSyllables
  | "lvt" => some ((CodeSet.range 0xAC00 0xD7A3).difference openSyllables)
  | _ => none

def katakana : CodeSet := .ofLines [
    "3031-3035 309B-309C 30A0-30FA 30FC-30FF 31F0-31FF 32D0-32FE 3300-3357 FF66-FF9D",
    "1AFF0-1AFF3 1AFF5-1AFFB 1AFFD-1AFFE 1B000 1B120-1B122 1B155 1B164-1B167"]

def hebrewLetters : CodeSet :=
  .ofLines [
    "5D0-5EA 5EF-5F2 FB1D FB1F-FB28 FB2A-FB36 FB38-FB3C FB3E FB40-FB41 FB43-FB44 FB46-FB4F"]

/-- Letters of scripts that do not mark the ends of words, and Hiragana. -/
def unmarkedLetters : CodeSet := .ofLines [
    "E01-E30 E32-E33 E40-E46 E81-E82 E84 E86-E8A E8C-EA3 EA5 EA7-EB0 EB2-EB3 EBD EC0-EC4 EC6",
    "EDC-EDF 1000-102A 103F 1050-1055 105A-105D 1061 1065-1066 106E-1070 1075-1081 108E",
    "1780-17B3 17D7 17DC 1950-196D 1970-1974 1980-19AB 19B0-19C9 1A20-1A54 1AA7 3041-3096",
    "309D-309F A9E0-A9E4 A9E6-A9EF A9FA-A9FE AA60-AA76 AA7A AA7E-AAAF AAB1 AAB5-AAB6 AAB9-AABD",
    "AAC0 AAC2 AADB-AADD 11700-1171A 11740-11746 1B001-1B11F 1B132 1B150-1B152 1F200"]

/-- Signs that count as letters inside of words. -/
def letterSigns : CodeSet := .ofLines [
    "2C2-2C5 2D2-2D7 2DE-2DF 2E5-2EB 2ED 2EF-2FF 55A-55C 55E 58A 5F3 70F A708-A716 A720-A721",
    "A789-A78A AB5B"]

def wordLetters : CodeSet :=
  (except Property.alphabetic
    [listed "ideographic", katakana, hebrewLetters, unmarkedLetters, extending]).union letterSigns

def numerals : CodeSet :=
  CodeSet.unionAll
    [categories ["Nd"], except heading [.single 0x70F], .single 0x66B, .single 0x19DA]

def word? : String → Option CodeSet
  | "cr" => some (.single 0xD)
  | "lf" => some (.single 0xA)
  | "newline" | "nl" => some (.ofLines ["B-C 85 2028-2029"])
  | "zwj" => some (.single 0x200D)
  | "extend" => some extending
  | "format" | "fo" =>
    some (except (categories ["Cf"]) [joiners, .single 0x200B, heading, Property.graphemeExtend])
  | "katakana" | "ka" => some katakana
  | "hebrewletter" | "hl" => some hebrewLetters
  | "aletter" | "le" => some wordLetters
  | "singlequote" | "sq" => some (.single 0x27)
  | "doublequote" | "dq" => some (.single 0x22)
  | "midnumlet" | "mb" => some (.ofLines ["2E 2018-2019 2024 FE52 FF07 FF0E"])
  | "midletter" | "ml" => some (.ofLines ["3A B7 387 55F 5F4 2027 FE13 FE55 FF1A"])
  | "midnum" | "mn" =>
    some (.ofLines ["2C 3B 37E 589 60C-60D 66C 7F8 2044 FE10 FE14 FE50 FE54 FF0C FF1B"])
  | "numeric" | "nu" => some numerals
  | "extendnumlet" | "ex" => some ((categories ["Pc"]).union (.single 0x202F))
  | "wsegspace" => some (.ofLines ["20 1680 2000-2006 2008-200A 205F 3000"])
  | "regionalindicator" | "ri" => some (listed "regionalindicator")
  | _ => none

/-- Full stops, which end a sentence or stand inside of it. -/
def stops : CodeSet := .ofLines ["2E 2024 FE52 FF0E"]

def sentenceExtending : CodeSet :=
  CodeSet.unionAll [Property.graphemeExtend, categories ["Mc"], .single 0x200D]

/-- Small letters; the Georgian ones, whose capitals are for whole words, are not among them. -/
def smallLetters : CodeSet :=
  except Property.lowercase [Property.graphemeExtend, .ofLines ["10D0-10FA 10FD-10FF"]]

def capitalLetters : CodeSet :=
  except (Property.uppercase.union (categories ["Lt"])) [.ofLines ["1C90-1CBA 1CBD-1CBF"]]

def sentence? : String → Option CodeSet
  | "cr" => some (.single 0xD)
  | "lf" => some (.single 0xA)
  | "sep" | "se" => some (.ofLines ["85 2028-2029"])
  | "extend" | "ex" => some sentenceExtending
  | "format" | "fo" =>
    some ((except (categories ["Cf"]) [joiners, heading, Property.graphemeExtend]).union
      (.single 0x70F))
  | "sp" => some (except .blank [.ofLines ["A D 85 2028-2029"]])
  | "lower" | "lo" => some smallLetters
  | "upper" | "up" => some capitalLetters
  | "oletter" | "le" =>
    some ((except Property.alphabetic [smallLetters, capitalLetters, sentenceExtending]).union
      (.single 0x5F3))
  | "numeric" | "nu" => some (numerals.union (.single 0x66C))
  | "aterm" | "at" => some stops
  | "scontinue" | "sc" =>
    some (.ofLines [
      "2C-2D 3A-3B 37E 55D 60C-60D 7F8 1802 1808 2013-2014 3001 FE10-FE11 FE13-FE14 FE31-FE32",
      "FE50-FE51 FE54-FE55 FE58 FE63 FF0C-FF0D FF1A-FF1B FF64"])
  | "sterm" | "st" => some (except (listed "sentenceterminal") [stops])
  | "close" | "cl" =>
    some (except
      ((categories ["Ps", "Pe", "Pi", "Pf"]).union
        (.ofLines ["22 27 275B-2760 2E00-2E01 2E06-2E08 2E0B 1F676-1F678"]))
      [stops, listed "sentenceterminal"])
  | _ => none

end Gridbook.Text.Break
