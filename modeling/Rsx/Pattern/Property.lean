import Rsx.Pattern.Age
import Rsx.Pattern.Script
import Rsx.Pattern.Segment

set_option autoImplicit false

namespace Rsx.Pattern

open Rsx.Text (Category)

namespace Property

-- Case, blanks, dashes and underscores do not matter, nor does a leading `is`.
def normalized (name : String) : String :=
  let simple (cs : List Char) : List Char :=
    (cs.filter fun c => c.toNat < 128 && !(c == ' ' || c == '_' || c == '-')).map Char.toLower
  match name.toList with
  | i :: s :: rest =>
    if i.toLower == 'i' && s.toLower == 's' then
      match simple rest with
      | ['c'] => "isc"
      | cs => String.ofList cs
    else String.ofList (simple name.toList)
  | cs => String.ofList (simple cs)

def category? : String → Option (Category → Bool)
  | "l" | "letter" => some Category.isLetter
  | "lc" | "casedletter" => some fun k => k == .lu || k == .ll || k == .lt
  | "lu" | "uppercaseletter" => some (· == .lu)
  | "ll" | "lowercaseletter" => some (· == .ll)
  | "lt" | "titlecaseletter" => some (· == .lt)
  | "lm" | "modifierletter" => some (· == .lm)
  | "lo" | "otherletter" => some (· == .lo)
  | "m" | "mark" | "combiningmark" => some Category.isMark
  | "mn" | "nonspacingmark" => some (· == .mn)
  | "mc" | "spacingmark" => some (· == .mc)
  | "me" | "enclosingmark" => some (· == .me)
  | "n" | "number" => some Category.isNumber
  | "nd" | "decimalnumber" | "digit" => some (· == .nd)
  | "nl" | "letternumber" => some (· == .nl)
  | "no" | "othernumber" => some (· == .no)
  | "p" | "punctuation" | "punct" => some Category.isPunctuation
  | "pc" | "connectorpunctuation" => some (· == .pc)
  | "pd" | "dashpunctuation" => some (· == .pd)
  | "ps" | "openpunctuation" => some (· == .ps)
  | "pe" | "closepunctuation" => some (· == .pe)
  | "pi" | "initialpunctuation" => some (· == .pi)
  | "pf" | "finalpunctuation" => some (· == .pf)
  | "po" | "otherpunctuation" => some (· == .po)
  | "s" | "symbol" => some Category.isSymbol
  | "sm" | "mathsymbol" => some (· == .sm)
  | "sc" | "currencysymbol" => some (· == .sc)
  | "sk" | "modifiersymbol" => some (· == .sk)
  | "so" | "othersymbol" => some (· == .so)
  | "z" | "separator" => some Category.isSeparator
  | "zs" | "spaceseparator" => some (· == .zs)
  | "zl" | "lineseparator" => some (· == .zl)
  | "zp" | "paragraphseparator" => some (· == .zp)
  | "c" | "other" => some Category.isOther
  | "cc" | "control" | "cntrl" => some (· == .cc)
  | "cf" | "format" => some (· == .cf)
  | "co" | "privateuse" => some (· == .co)
  | "cn" | "unassigned" => some (· == .cn)
  | "any" => some fun _ => true
  | "assigned" => some (· != .cn)
  | _ => none

def general? (name : String) : Option (Except Issue CharSet) :=
  if name == "ascii" then some (.ok NamedClass.ascii.set)
  else if name == "cs" || name == "surrogate" then some (.error .propertyValueUnknown)
  else (category? name).map fun p => .ok (CharSet.ofCategories p)

def script? (name : String) : Option (Except Issue CharSet) :=
  if Script.bareNames.contains name then some (.error .propertyValueUnknown)
  else (Script.find? name).map fun s => .ok s.set

def names : String :=
    "age ahex alpha alphabetic asciihexdigit bc bidic bidiclass bidicontrol bidim "
    ++ "bidimirrored bidimirroringglyph bidipairedbracket bidipairedbrackettype blk block bmg "
    ++ "bpb bpt canonicalcombiningclass cased casefolding caseignorable ccc ce cf "
    ++ "changeswhencasefolded changeswhencasemapped changeswhenlowercased "
    ++ "changeswhennfkccasefolded changeswhentitlecased changeswhenuppercased ci "
    ++ "cjkaccountingnumeric cjkcompatibilityvariant cjkiicore cjkirggsource cjkirghsource "
    ++ "cjkirgjsource cjkirgkpsource cjkirgksource cjkirgmsource cjkirgssource cjkirgtsource "
    ++ "cjkirguksource cjkirgusource cjkirgvsource cjkothernumeric cjkprimarynumeric "
    ++ "cjkrsunicode compex compositionexclusion cwcf cwcm cwkcf cwl cwt cwu dash "
    ++ "decompositionmapping decompositiontype defaultignorablecodepoint dep deprecated di dia "
    ++ "diacritic dm dt ea eastasianwidth ebase ecomp emod emoji emojicomponent emojimodifier "
    ++ "emojimodifierbase emojipresentation epres equideo equivalentunifiedideograph "
    ++ "expandsonnfc expandsonnfd expandsonnfkc expandsonnfkd ext extendedpictographic extender "
    ++ "extpict fcnfkc fcnfkcclosure fullcompositionexclusion gc gcb generalcategory "
    ++ "graphemebase graphemeclusterbreak graphemeextend graphemelink grbase grext grlink "
    ++ "hangulsyllabletype hex hexdigit hst hyphen idc idcompatmathcontinue idcompatmathstart "
    ++ "idcontinue ideo ideographic ids idsb idsbinaryoperator idst idstart idstrinaryoperator "
    ++ "idsu idsunaryoperator incb indicconjunctbreak indicpositionalcategory "
    ++ "indicsyllabiccategory inpc insc isc isocomment jamoshortname jg joinc joincontrol "
    ++ "joininggroup joiningtype jsn jt kaccountingnumeric kcompatibilityvariant kehcat kehdesc "
    ++ "kehhg kehifao kehjsesh kehnomirror kehnorotate kiicore kirggsource kirghsource "
    ++ "kirgjsource kirgkpsource kirgksource kirgmsource kirgssource kirgtsource kirguksource "
    ++ "kirgusource kirgvsource kothernumeric kprimarynumeric krsunicode lb lc linebreak loe "
    ++ "logicalorderexception lower lowercase lowercasemapping math mcm modifiercombiningmark na "
    ++ "na1 name namealias nchar nfcqc nfcquickcheck nfdqc nfdquickcheck nfkccasefold nfkccf "
    ++ "nfkcqc nfkcquickcheck nfkcscf nfkcsimplecasefold nfkdqc nfkdquickcheck "
    ++ "noncharactercodepoint nt numerictype numericvalue nv oalpha odi ogrext oidc oids olower "
    ++ "omath otheralphabetic otherdefaultignorablecodepoint othergraphemeextend otheridcontinue "
    ++ "otheridstart otherlowercase othermath otheruppercase oupper patsyn patternsyntax "
    ++ "patternwhitespace patws pcm prependedconcatenationmark qmark quotationmark radical "
    ++ "regionalindicator ri sb sc scf script scriptextensions scx sd sentencebreak "
    ++ "sentenceterminal sfc simplecasefolding simplelowercasemapping simpletitlecasemapping "
    ++ "simpleuppercasemapping slc softdotted space stc sterm suc tc term terminalpunctuation "
    ++ "titlecasemapping uc uideo unicode1name unicoderadicalstroke unifiedideograph upper "
    ++ "uppercase uppercasemapping urs variationselector verticalorientation vo vs wb whitespace "
    ++ "wordbreak wspace xidc xidcontinue xids xidstart xonfc xonfd xonfkc xonfkd"

def isName (name : String) : Bool := (names.splitOn " ").contains name

def orUnknown (found : Option (Except Issue CharSet)) (issue : Issue) : Except Issue CharSet :=
  found.getD (.error issue)

-- Some short names stand for a category although they abbreviate a property too.
def isCategoryFirst (name : String) : Bool := name == "cf" || name == "sc" || name == "lc"

def findAlone (name : String) : Except Issue CharSet :=
  if isName name && !isCategoryFirst name then
    match Binary.find? name with
    | some set => .ok set
    | none => .error .propertyUnknown
  else orUnknown ((general? name).or (script? name)) .propertyUnknown

def valueSet? (name value : String) : Option (Except Issue CharSet) :=
  match name with
  | "gc" | "generalcategory" => general? value
  | "sc" | "script" => script? value
  | "scx" | "scriptextensions" => (Script.find? value).map fun s => .ok s.extended
  | "age" => (Age.set? value).map .ok
  | "gcb" | "graphemeclusterbreak" => (Segment.character? value).map .ok
  | "wb" | "wordbreak" => (Segment.word? value).map .ok
  | "sb" | "sentencebreak" => (Segment.sentence? value).map .ok
  | _ => none

def findValue (name value : String) : Except Issue CharSet :=
  if isName name then orUnknown (valueSet? name value) .propertyValueUnknown
  else .error .propertyUnknown

def find (q : PropertyQuery) : Except Issue CharSet :=
  match q.value with
  | none => findAlone (normalized q.name)
  | some value => do
    let set ← findValue (normalized q.name) (normalized value)
    return if q.unequal then Text.Ranges.outside set else set

end Property

end Rsx.Pattern
