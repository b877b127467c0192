import TrigramSearch.Regex.Ast
import TrigramSearch.Regex.SyntaxError
import TrigramSearch.Regex.Property.Age
import TrigramSearch.Regex.Property.Binary
import TrigramSearch.Regex.Property.Category
import TrigramSearch.Regex.Property.Script
import TrigramSearch.Regex.Property.Segmentation
import TrigramSearch.Regex.Property.Word

/-!
# Properties by name

What `\p` names: a binary property, a general category or a script, or the value of a property.
Names are compared loosely: letter case, blanks, hyphens, underscores and an `is` in front do not
count, and neither do characters outside of ASCII.
-/

namespace TrigramSearch.Regex.Property

/-- Drops what does not count in a name. -/
def looseChars (name : List Char) : List Char :=
  name.filterMap fun c =>
    if c = ' ' || c = '_' || c = '-' || 128 ≤ c.toNat then none else some c.toLower

/-- The form in which names are compared. The abbreviation `isc` keeps its `is`. -/
def looseName (name : List Char) : String :=
  match name with
  | i :: s :: rest =>
    if i.toLower = 'i' && s.toLower = 's' then
      let r := looseChars rest
      if r = ['c'] then "isc" else String.ofList r
    else String.ofList (looseChars name)
  | _ => String.ofList (looseChars name)

def setOfEntry (e : Entry) : CharSet := ⟨e.ranges⟩

/-- A general category, or a group of them. -/
def category? (name : String) : Option CharSet :=
  if name = "any" then some ⟨[(0, CharSet.lastCode)]⟩
  else if name = "ascii" then some ⟨[(0, 0x7f)]⟩
  else if name = "assigned" then (find? categories "cn").map fun e => (setOfEntry e).complement
  else
    match find? categories name with
    | some e => some (setOfEntry e)
    | none =>
      (categoryGroups.find? fun g => g.names.contains name).map fun g =>
        (g.members.filterMap (find? categories)).foldl (fun s e => s.union (setOfEntry e))
          CharSet.empty

/-- Values of the property Script that no character has. -/
def emptyScripts : List String := ["zzzz", "unknown", "hrkt", "katakanaorhiragana"]

def script? (name : String) : Option CharSet := (find? scripts name).map setOfEntry

/-- Characters that belong to some script by extension. -/
def allExtensions : CharSet :=
  scriptExtensions.foldl (fun s e => s.union (setOfEntry e)) CharSet.empty

/-- The characters used with a script. Those that are common to some scripts are used with these
and with no other. -/
def scriptWithExtensions? (name : String) : Option CharSet :=
  (find? scripts name).map fun e =>
    if e.names.contains "common" || e.names.contains "inherited" then
      (setOfEntry e).difference allExtensions
    else
      match e.names.findSome? (find? scriptExtensions) with
      | some x => (setOfEntry e).union (setOfEntry x)
      | none => setOfEntry e

/-- The characters that an edition of the standard has, with those of all editions before it. -/
def ageUpTo? (name : String) : Option CharSet :=
  match editions.dropWhile fun e => !e.names.contains name with
  | [] => none
  | _ :: later =>
    some ((editions.take (editions.length - later.length)).foldl
      (fun s e => s.union (setOfEntry e)) CharSet.empty)

/-- Names of properties of which no value is known here. -/
def otherProperties : List String :=
  ["kaccountingnumeric", "cjkaccountingnumeric", "kothernumeric", "cjkothernumeric",
   "kprimarynumeric", "cjkprimarynumeric", "nv", "numericvalue", "bmg", "bidimirroringglyph",
   "bpb", "bidipairedbracket", "cf", "casefolding", "cjkcompatibilityvariant",
   "kcompatibilityvariant", "dm", "decompositionmapping", "equideo", "equivalentunifiedideograph",
   "fcnfkc", "fcnfkcclosure", "lc", "lowercasemapping", "nfkccf", "nfkccasefold", "nfkcscf",
   "nfkcsimplecasefold", "scf", "simplecasefolding", "sfc", "slc", "simplelowercasemapping",
   "stc", "simpletitlecasemapping", "suc", "simpleuppercasemapping", "tc", "titlecasemapping",
   "uc", "uppercasemapping", "cjkiicore", "kiicore", "cjkirggsource", "kirggsource",
   "cjkirghsource", "kirghsource", "cjkirgjsource", "kirgjsource", "cjkirgkpsource",
   "kirgkpsource", "cjkirgksource", "kirgksource", "cjkirgmsource", "kirgmsource",
   "cjkirgssource", "kirgssource", "cjkirgtsource", "kirgtsource", "cjkirguksource",
   "kirguksource", "cjkirgusource", "kirgusource", "cjkirgvsource", "kirgvsource", "cjkrsunicode",
   "krsunicode", "unicoderadicalstroke", "urs", "ocomment", "isc", "jsn", "jamoshortname",
   "kehcat", "kehcore", "kehdesc", "kehhg", "kehifao", "kehjsesh", "kehnomirror", "kehnorotate",
   "na", "name", "na1", "unicode1name", "namealias", "blk", "block", "bc", "bidiclass", "bpt",
   "bidipairedbrackettype", "ccc", "canonicalcombiningclass", "dt", "decompositiontype", "ea",
   "eastasianwidth", "hst", "hangulsyllabletype", "incb", "indicconjunctbreak", "inpc",
   "indicpositionalcategory", "insc", "indicsyllabiccategory", "jg", "joininggroup", "jt",
   "joiningtype", "lb", "linebreak", "nfcqc", "nfcquickcheck", "nfdqc", "nfdquickcheck", "nfkcqc",
   "nfkcquickcheck", "nfkdqc", "nfkdquickcheck", "nt", "numerictype", "vo", "verticalorientation",
   "bidim", "bidimirrored", "ce", "compositionexclusion", "compex", "fullcompositionexclusion",
   "cwkcf", "changeswhennfkccasefolded", "xonfc", "expandsonnfc", "xonfd", "expandsonnfd",
   "xonfkc", "expandsonnfkc", "xonfkd", "expandsonnfkd"]

/-- Whether a name that stands for another property, too, is left to the categories. -/
def isCategoryFirst (name : String) : Bool := name = "cf" || name = "sc" || name = "lc"

/-- Whether a name stands for a property that is not present or absent, but has many values. -/
def isManyValued (name : String) : Bool :=
  ["gc", "generalcategory", "sc", "script", "scx", "scriptextensions", "age", "gcb",
    "graphemeclusterbreak", "wb", "wordbreak", "sb", "sentencebreak"].contains name ||
    otherProperties.contains name

/-- A property, category or script by its name alone. The name of a property has precedence, even
if it has many values and the name alone names no set. -/
def byName (name : List Char) : Except SyntaxError CharSet :=
  let n := looseName name
  if !isCategoryFirst n && isManyValued n then .error .propertyNotFound
  else
    match if isCategoryFirst n then none else find? binaryProperties n with
    | some e => .ok (setOfEntry e)
    | none =>
      match category? n with
      | some s => .ok s
      | none =>
        match script? n with
        | some s => .ok s
        | none =>
          if emptyScripts.contains n || emptyCategory.contains n then
            .error .propertyValueNotFound
          else .error .propertyNotFound

/-- The characters for which a property has a value. -/
def byValue (property value : List Char) : Except SyntaxError CharSet :=
  let p := looseName property
  let v := looseName value
  let found : Option CharSet → Except SyntaxError CharSet
    | some s => .ok s
    | none => .error .propertyValueNotFound
  if p = "gc" || p = "generalcategory" then found (category? v)
  else if p = "sc" || p = "script" then found (script? v)
  else if p = "scx" || p = "scriptextensions" then found (scriptWithExtensions? v)
  else if p = "age" then found (ageUpTo? v)
  else if p = "gcb" || p = "graphemeclusterbreak" then
    found ((find? graphemeClusterBreaks v).map setOfEntry)
  else if p = "wb" || p = "wordbreak" then found ((find? wordBreaks v).map setOfEntry)
  else if p = "sb" || p = "sentencebreak" then found ((find? sentenceBreaks v).map setOfEntry)
  else if (find? binaryProperties p).isSome || isManyValued p then .error .propertyValueNotFound
  else .error .propertyNotFound

def lookup : PropertyQuery → Except SyntaxError CharSet
  | .name n => byName n
  | .value p v => byValue p v

/-! ## Names of groups -/

/-- Whether a character may start the name of a group, apart from the underscore. -/
def isNameLetter (c : Char) : Bool :=
  if c.toNat < 128 then c.isAlpha
  else ((find? binaryProperties "alphabetic").map setOfEntry).any (·.contains c) ||
    laterLetters.contains c

/-- Whether a character is a letter or a number of any kind, as far as names of groups go. -/
def isNameCharacter (c : Char) : Bool :=
  if c.toNat < 128 then c.isAlphanum
  else isNameLetter c || (category? "n").any (·.contains c) || laterNumbers.contains c

end TrigramSearch.Regex.Property
