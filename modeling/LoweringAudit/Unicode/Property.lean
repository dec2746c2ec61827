import LoweringAudit.Unicode.Age
import LoweringAudit.Unicode.Binary
import LoweringAudit.Unicode.Script
import LoweringAudit.Unicode.Segment
/-!
Properties by their names. A set of characters is asked for by the name of a category, of a script
or of a property that a character has or has not, or by a property and a value of it. Names are
compared without regard to case, blanks, dashes and underlines.
-/
namespace LoweringAudit.Unicode

/-- The characters of a name that count, in lower case. -/
def kept (name : List Char) : List Char :=
  (name.filter fun c => c.toNat < 0x80 && !" _-".toList.contains c).map Char.toLower

/-- A name in plain form. The prefix `is` does not count, unless all of the name is `isc`. -/
def plainName (name : List Char) : List Char :=
  if (name.take 2).map Char.toLower = ['i', 's'] then
    let rest := kept (name.drop 2)
    if rest = ['c'] then ['i', 's', 'c'] else rest
  else kept name

/-- Of names in lists, the first one of the list that has a name. -/
def named? (lists : List (List String)) (name : List Char) : Option String :=
  (lists.find? fun names => names.any fun n => plainName n.toList = name).bind List.head?

/-- What is asked for. -/
inductive Query where
  | name (n : List Char)
  | value (property value : List Char)
  deriving DecidableEq, Repr

/-- The parts before and after the first place where one of two texts stands. -/
def splitAt? (mark : List Char) : List Char → Option (List Char × List Char)
  | [] => none
  | c :: rest =>
    if mark.isPrefixOf (c :: rest) then some ([], (c :: rest).drop mark.length)
    else (splitAt? mark rest).map fun (before, after) => (c :: before, after)

/-- A question in writing: a property and a value have one of three marks between them. -/
def Query.read (s : List Char) : Query :=
  match ["!=", ":", "="].findSome? fun mark => splitAt? mark.toList s with
  | some (p, v) => .value p v
  | none => .name s

/-- What is not known. -/
inductive Missing where
  | property | value
  deriving DecidableEq, Repr

/-- The properties with words, numbers or texts as values. -/
def valuedProperties : List String :=
  ["Age", "Bidi_Class", "bc", "Bidi_Mirroring_Glyph", "bmg", "Bidi_Paired_Bracket", "bpb",
    "Bidi_Paired_Bracket_Type", "bpt", "Block", "blk", "Canonical_Combining_Class", "ccc",
    "Case_Folding", "cf", "Decomposition_Mapping", "dm", "Decomposition_Type", "dt",
    "East_Asian_Width", "ea", "Equivalent_Unified_Ideograph", "EqUIdeo", "FC_NFKC_Closure",
    "FC_NFKC", "General_Category", "gc", "Grapheme_Cluster_Break", "GCB",
    "Hangul_Syllable_Type", "hst", "Indic_Conjunct_Break", "InCB",
    "Indic_Positional_Category", "InPC", "Indic_Syllabic_Category", "InSC", "ISO_Comment",
    "isc", "Jamo_Short_Name", "JSN", "Joining_Group", "jg", "Joining_Type", "jt",
    "Line_Break", "lb", "Lowercase_Mapping", "lc", "Name", "na", "Name_Alias",
    "NFC_Quick_Check", "NFC_QC", "NFD_Quick_Check", "NFD_QC", "NFKC_Casefold", "NFKC_CF",
    "NFKC_Quick_Check", "NFKC_QC", "NFKC_Simple_Casefold", "NFKC_SCF", "NFKD_Quick_Check",
    "NFKD_QC", "Numeric_Type", "nt", "Numeric_Value", "nv", "Script", "sc",
    "Script_Extensions", "scx", "Sentence_Break", "SB", "Simple_Case_Folding", "scf", "sfc",
    "Simple_Lowercase_Mapping", "slc", "Simple_Titlecase_Mapping", "stc",
    "Simple_Uppercase_Mapping", "suc", "Titlecase_Mapping", "tc", "Unicode_1_Name", "na1",
    "Uppercase_Mapping", "uc", "Vertical_Orientation", "vo", "Word_Break", "WB",
    "kAccountingNumeric", "cjkAccountingNumeric", "kOtherNumeric", "cjkOtherNumeric",
    "kPrimaryNumeric", "cjkPrimaryNumeric", "kCompatibilityVariant",
    "cjkCompatibilityVariant", "kIICore", "cjkIICore", "kIRG_GSource", "cjkIRG_GSource",
    "kIRG_HSource", "cjkIRG_HSource", "kIRG_JSource", "cjkIRG_JSource", "kIRG_KPSource",
    "cjkIRG_KPSource", "kIRG_KSource", "cjkIRG_KSource", "kIRG_MSource", "cjkIRG_MSource",
    "kIRG_SSource", "cjkIRG_SSource", "kIRG_TSource", "cjkIRG_TSource", "kIRG_UKSource",
    "cjkIRG_UKSource", "kIRG_USource", "cjkIRG_USource", "kIRG_VSource", "cjkIRG_VSource",
    "kRSUnicode", "cjkRSUnicode", "Unicode_Radical_Stroke", "URS", "kEH_Cat", "kEH_Desc",
    "kEH_HG", "kEH_IFAO", "kEH_JSesh", "kEH_NoMirror", "kEH_NoRotate"]

/-- The properties that characters have or have not and of which no set is known. -/
def unknownProperties : List String :=
  ["Bidi_Mirrored", "Bidi_M", "Composition_Exclusion", "CE", "Full_Composition_Exclusion",
    "Comp_Ex", "Changes_When_NFKC_Casefolded", "CWKCF", "Expands_On_NFC", "XO_NFC",
    "Expands_On_NFD", "XO_NFD", "Expands_On_NFKC", "XO_NFKC", "Expands_On_NFKD", "XO_NFKD"]

/-- Whether there is a property of a name in plain form. -/
def isProperty (name : List Char) : Bool :=
  binaryProperties.any (fun (names, _) => names.any fun n => plainName n.toList = name) ||
    (valuedProperties ++ unknownProperties).any fun n => plainName n.toList = name

def binaryNamed? (name : List Char) : Option CharSet :=
  (binaryProperties.find? fun (names, _) => names.any fun n => plainName n.toList = name).map (·.2)

def categoryNamed? (name : List Char) : Option CharSet :=
  match String.ofList name with
  | "any" => some .all
  | "assigned" => some (categorySet "Cn").complement
  | "ascii" => some .ascii
  | _ => (named? categoryNames name).map categorySet

def scriptNamed? (name : List Char) : Option CharSet :=
  (named? scriptNames name).map scriptSet

/-- The names of some categories are also those of other properties, and mean the category. -/
def isCategoryFirst (name : List Char) : Bool :=
  ["cf", "sc", "lc"].any fun n => n.toList == name

/-- A value that no character has is not known. -/
def present : Option CharSet → Except Missing CharSet
  | some s => if s.bounds.isEmpty then .error .value else .ok s
  | none => .error .value

/-- The set of a category, a script or a property of which a name in plain form is given. -/
def findNamed (name : List Char) : Except Missing CharSet :=
  match if isCategoryFirst name then none else binaryNamed? name with
  | some s => .ok s
  | none =>
    match (categoryNamed? name).or (scriptNamed? name) with
    | some s => present (some s)
    | none => .error .property

/-- The set of a value of a property, both by their names in plain form. -/
def findValue (property value : List Char) : Except Missing CharSet :=
  let among (names : List (List String)) (set : String → CharSet) : Except Missing CharSet :=
    present ((named? names value).map set)
  match String.ofList property with
  | "gc" | "generalcategory" => present (categoryNamed? value)
  | "sc" | "script" => among scriptNames scriptSet
  | "scx" | "scriptextensions" => among scriptNames extensionSet
  | "age" =>
    let letter := ageNames.find? fun (_, names) => names.any fun n => plainName n.toList = value
    present (letter.map fun (l, _) => ageSet l)
  | "gcb" | "graphemeclusterbreak" =>
    among graphemeBreakNames fun v => graphemeBreaks.set (· == v)
  | "wb" | "wordbreak" => among wordBreakNames fun v => wordBreaks.set (· == v)
  | "sb" | "sentencebreak" => among sentenceBreakNames fun v => sentenceBreaks.set (· == v)
  | _ => .error (if isProperty property then .value else .property)

def find : Query → Except Missing CharSet
  | .name n => findNamed (plainName n)
  | .value p v => findValue (plainName p) (plainName v)

end LoweringAudit.Unicode
