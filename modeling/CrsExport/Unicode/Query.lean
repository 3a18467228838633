import CrsExport.Unicode.Age
import CrsExport.Unicode.Segmentation
/-! What a pattern asks for by the name of a property, and the code points that answer. -/

namespace CrsExport.Unicode

inductive Query where
  | named (name : Text)
  | valued (property value : Text)
  deriving BEq, Repr

namespace Query

open Property

inductive Fault where
  | propertyNotFound
  | valueNotFound
  deriving DecidableEq, Repr

def nonBinary : List String :=
  ["age", "bc", "Bidi_Class", "bmg", "Bidi_Mirroring_Glyph", "bpb", "Bidi_Paired_Bracket",
   "bpt", "Bidi_Paired_Bracket_Type", "blk", "Block", "ccc", "Canonical_Combining_Class",
   "CE", "Composition_Exclusion", "Comp_Ex", "Full_Composition_Exclusion", "CWKCF",
   "Changes_When_NFKC_Casefolded", "cf", "Case_Folding", "dm", "Decomposition_Mapping",
   "dt", "Decomposition_Type", "ea", "East_Asian_Width", "EqUIdeo",
   "Equivalent_Unified_Ideograph", "FC_NFKC", "FC_NFKC_Closure", "gc", "General_Category",
   "GCB", "Grapheme_Cluster_Break", "hst", "Hangul_Syllable_Type", "InCB",
   "Indic_Conjunct_Break", "InPC", "Indic_Positional_Category", "InSC",
   "Indic_Syllabic_Category", "isc", "ISO_Comment", "jg", "Joining_Group", "JSN",
   "Jamo_Short_Name", "jt", "Joining_Type", "lb", "Line_Break", "lc", "Lowercase_Mapping",
   "na", "Name", "na1", "Unicode_1_Name", "Name_Alias", "NFC_QC", "NFC_Quick_Check",
   "NFD_QC", "NFD_Quick_Check", "NFKC_CF", "NFKC_Casefold", "NFKC_QC", "NFKC_Quick_Check",
   "NFKC_SCF", "NFKC_Simple_Casefold", "NFKD_QC", "NFKD_Quick_Check", "nt", "Numeric_Type",
   "nv", "Numeric_Value", "SB", "Sentence_Break", "sc", "Script", "scf",
   "Simple_Case_Folding", "sfc", "scx", "Script_Extensions", "slc",
   "Simple_Lowercase_Mapping", "stc", "Simple_Titlecase_Mapping", "suc",
   "Simple_Uppercase_Mapping", "tc", "Titlecase_Mapping", "uc", "Uppercase_Mapping", "vo",
   "Vertical_Orientation", "WB", "Word_Break", "XO_NFC", "Expands_On_NFC", "XO_NFD",
   "Expands_On_NFD", "XO_NFKC", "Expands_On_NFKC", "XO_NFKD", "Expands_On_NFKD"]

def ideographic : List String :=
  ["kAccountingNumeric", "kCompatibilityVariant", "kIICore", "kIRG_GSource", "kIRG_HSource",
   "kIRG_JSource", "kIRG_KPSource", "kIRG_KSource", "kIRG_MSource", "kIRG_SSource",
   "kIRG_TSource", "kIRG_UKSource", "kIRG_USource", "kIRG_VSource", "kOtherNumeric",
   "kPrimaryNumeric", "kRSUnicode"]

def hieroglyphic : List String :=
  ["kEH_Cat", "kEH_Core", "kEH_Desc", "kEH_Func", "kEH_FVal", "kEH_HG", "kEH_IFAO",
   "kEH_JSesh", "kEH_NoMirror", "kEH_NoRotate", "kEH_UniK", "URS", "Unicode_Radical_Stroke"]

def isNonBinary (name : Text) : Bool :=
  oneOf name nonBinary || oneOf name ideographic || oneOf name hieroglyphic ||
    ideographic.any fun n => loose (text "cjk" ++ (text n).tail) == name

def presentIn (version : Text) : Option CodePointSet :=
  let isVersion (e : String × List String) : Bool :=
    loose (text e.1) == version || Age.number e.1 == version
  (Age.additions.findIdx? isVersion).map fun i =>
    .unions ((Age.additions.take (i + 1)).map fun e => .ofTable e.2)

def resolveNamed (name : Text) : Except Fault CodePointSet :=
  let ambiguous := [text "cf", text "sc", text "lc"].contains name
  match if ambiguous then none else binary name with
  | some s => .ok s
  | none =>
    if !ambiguous && isNonBinary name then .error .propertyNotFound
    else
      match generalCategory name <|> script name with
      | some (some s) => .ok s
      | some none => .error .valueNotFound
      | none => .error .propertyNotFound

def resolveValued (property value : Text) : Except Fault CodePointSet :=
  let found (o : Option CodePointSet) : Except Fault CodePointSet :=
    o.elim (.error .valueNotFound) .ok
  if oneOf property ["gc", "General_Category"] then found (generalCategory value).join
  else if oneOf property ["sc", "Script"] then found (script value).join
  else if oneOf property ["scx", "Script_Extensions"] then
    found (scriptExtensions value).join
  else if oneOf property ["age"] then found (presentIn value)
  else if oneOf property ["GCB", "Grapheme_Cluster_Break"] then
    found (Segmentation.find Segmentation.graphemeValues value)
  else if oneOf property ["WB", "Word_Break"] then
    found (Segmentation.find Segmentation.wordValues value)
  else if oneOf property ["SB", "Sentence_Break"] then
    found (Segmentation.find Segmentation.sentenceValues value)
  else if isNonBinary property || (binary property).isSome then .error .valueNotFound
  else .error .propertyNotFound

def resolve : Query → Except Fault CodePointSet
  | .named name => resolveNamed (loose name)
  | .valued property value => resolveValued (loose property) (loose value)

end Query
end CrsExport.Unicode
