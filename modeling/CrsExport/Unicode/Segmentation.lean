import CrsExport.Unicode.Property
/-! Where text may be broken: the properties Grapheme_Cluster_Break, Word_Break and
Sentence_Break. Each of their values is defined by other properties and by characters that
the definition lists. -/

namespace CrsExport.Unicode.Segmentation

open Property

abbrev Value := List String × (Unit → CodePointSet)

def listing (spans : String) : CodePointSet := .ofTable [spans]

def listedValue (names : List String) (spans : String) : Value :=
  (names, fun _ => listing spans)

def extending : CodePointSet := (having "Grapheme_Extend").union (listed "EMod")

def numberSigns : CodePointSet := (listed "PCM").diff (listing "70F")

def digits : CodePointSet := .unions [categories ["Nd"], listing "19DA", numberSigns]

def prepended : CodePointSet :=
  (listed "PCM").union (listing "D4E 111C2-111C3 113D1 1193F 11941 11A3A 11A84-11A89 11D46 11F02")

def openSyllables : CodePointSet :=
  .ofSpans ((List.range 399).map fun i => (0xAC00 + 28 * i, 0xAC00 + 28 * i))

def graphemeValues : List Value :=
  [listedValue ["CR"] "D", listedValue ["LF"] "A", listedValue ["ZWJ"] "200D",
   (["CN", "Control"], fun _ =>
      (CodePointSet.unions [categories ["Zl", "Zp", "Cc", "Cf"],
        (categories ["Cn"]).inter (having "Default_Ignorable_Code_Point")]).diff
          (.unions [listing "A D 200C-200D", prepended, extending])),
   (["EX", "Extend"], fun _ => extending),
   (["RI", "Regional_Indicator"], fun _ => listed "RI"),
   (["PP", "Prepend"], fun _ => prepended),
   (["SM", "SpacingMark"], fun _ =>
      ((categories ["Mc"]).union (listing "E33 EB3")).diff (extending.union
        (.ofTable ["102B-102C 1038 1062-1064 1067-106D 1083 1087-108C 108F 109A-109C",
          "1A61 1A63-1A64 AA7B AA7D 11720-11721"]))),
   listedValue ["L"] "1100-115F A960-A97C",
   listedValue ["V"] "1160-11A7 D7B0-D7C6 16D63 16D67-16D6A",
   listedValue ["T"] "11A8-11FF D7CB-D7FB",
   (["LV"], fun _ => openSyllables),
   (["LVT"], fun _ => (listing "AC00-D7A3").diff openSyllables)]

def marks : CodePointSet := (having "Grapheme_Extend").union (categories ["Mc"])

def formats : CodePointSet :=
  (categories ["Cf"]).diff (.unions [marks, numberSigns, listing "200C-200D"])

def complexContext : CodePointSet :=
  .ofTable ["E01-E3A E40-E4E E81-E82 E84 E86-E8A E8C-EA3 EA5 EA7-EBD EC0-EC4 EC6 EC8-ECE EDC-EDF",
    "1000-103F 1050-108F 109A-109F 1780-17D3 17D7 17DC-17DD 1950-196D 1970-1974 1980-19AB",
    "19B0-19C9 19DA 19DE-19DF 1A20-1A5E 1A60-1A7C 1AA0-1AAD A9E0-A9EF A9FA-A9FE AA60-AAC2",
    "AADB-AADF 11700-1171A 1171D-1172B 1173A-1173B 1173F-11746"]

def katakana : CodePointSet :=
  (((script (text "kana")).join).getD .empty).union
    (listing "3031-3035 309B-309C 30A0 30FC FF70")

def hebrewLetters : CodePointSet :=
  (((script (text "hebr")).join).getD .empty).inter (categories ["Lo"])

def wordSigns : CodePointSet :=
  .ofTable ["2C2-2C5 2D2-2D7 2DE-2DF 2E5-2EB 2ED 2EF-2FF 55A-55C 55E 58A 5F3 70F A708-A716",
    "A720-A721 A789-A78A AB5B"]

def wordValues : List Value :=
  [listedValue ["CR"] "D", listedValue ["LF"] "A", listedValue ["ZWJ"] "200D",
   listedValue ["NL", "Newline"] "B-C 85 2028-2029",
   (["Extend"], fun _ => marks.union (listed "EMod")),
   (["RI", "Regional_Indicator"], fun _ => listed "RI"),
   (["FO", "Format"], fun _ => formats.diff (listing "70F 200B")),
   (["KA", "Katakana"], fun _ => katakana),
   (["HL", "Hebrew_Letter"], fun _ => hebrewLetters),
   (["LE", "ALetter"], fun _ =>
      ((having "Alphabetic").union wordSigns).diff (.unions [listed "Ideo", katakana,
        hebrewLetters, complexContext, ((script (text "hira")).join).getD .empty, marks])),
   listedValue ["SQ", "Single_Quote"] "27",
   listedValue ["DQ", "Double_Quote"] "22",
   listedValue ["MB", "MidNumLet"] "2E 2018-2019 2024 FE52 FF07 FF0E",
   listedValue ["ML", "MidLetter"] "3A B7 387 55F 5F4 2027 FE13 FE55 FF1A",
   listedValue ["MN", "MidNum"]
     "2C 3B 37E 589 60C-60D 66C 7F8 2044 FE50 FE54 FF0C FF1B",
   (["NU", "Numeric"], fun _ => digits.union (listing "66B")),
   (["EX", "ExtendNumLet"], fun _ => (categories ["Pc"]).union (listing "202F")),
   listedValue ["WSegSpace"] "20 1680 2000-2006 2008-200A 205F 3000"]

def georgian : CodePointSet := listing "10D0-10FA 10FD-10FF"

def sentenceLower : CodePointSet := (having "Lowercase").diff (georgian.union marks)

def sentenceUpper : CodePointSet :=
  (categories ["Lt"]).union ((having "Uppercase").diff (listing "1C90-1CBA 1CBD-1CBF"))

def fullStops : CodePointSet := listing "2E 2024 FE52 FF0E"

def quotationMarks : CodePointSet :=
  .ofTable ["22 27 AB BB 2018-2019 201B-201D 201F 2039-203A 275B-2760 2E00-2E0D 2E1C-2E1D",
    "2E20-2E21 1F676-1F678"]

def sentenceValues : List Value :=
  [listedValue ["CR"] "D", listedValue ["LF"] "A",
   (["EX", "Extend"], fun _ => marks.union (listing "200D")),
   listedValue ["SE", "Sep"] "85 2028-2029",
   (["FO", "Format"], fun _ => formats),
   (["SP", "Sp"], fun _ => (listed "WSpace").diff (listing "A D 85 2028-2029")),
   (["LO", "Lower"], fun _ => sentenceLower),
   (["UP", "Upper"], fun _ => sentenceUpper),
   (["LE", "OLetter"], fun _ =>
      (CodePointSet.unions [having "Alphabetic", listing "5F3", georgian]).diff
        (.unions [sentenceLower, sentenceUpper, marks])),
   (["NU", "Numeric"], fun _ => digits.union (listing "66B-66C")),
   (["AT", "ATerm"], fun _ => fullStops),
   (["SC", "SContinue"], fun _ => .ofTable
      ["2C-2D 3A-3B 37E 55D 60C-60D 7F8 1802 1808 2013-2014 3001 FE10-FE11 FE13-FE14",
       "FE31-FE32 FE50-FE51 FE54-FE55 FE58 FE63 FF0C-FF0D FF1A-FF1B FF64"]),
   (["ST", "STerm"], fun _ => (listed "STerm").diff fullStops),
   (["CL", "Close"], fun _ =>
      ((categories ["Ps", "Pe", "Pi", "Pf"]).union quotationMarks).diff
        (fullStops.union (listed "STerm")))]

def find (values : List Value) (name : Text) : Option CodePointSet :=
  (values.find? fun v => oneOf name v.1).map fun v => v.2 ()

end CrsExport.Unicode.Segmentation
