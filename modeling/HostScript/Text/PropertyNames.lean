import HostScript.Text.Properties.Cases
import HostScript.Text.Properties.Letters
import HostScript.Text.Properties.Marks
import HostScript.Text.Properties.Signs

/-! # Names of character properties

A property either holds of a character or not, or gives it a value. The
properties of the first kind are collected here with their characters; of the
others this module knows the names. -/

namespace HostScript.Text

/-- The properties that a character has or has not. -/
def propertyTable : Catalogue :=
  letterProperties ++ caseProperties ++ markProperties ++ signProperties

/-- The characters that have a property, by its loose name. -/
def property? (name : String) : Option Ranges := propertyTable.ranges? name

/-- The names of the properties that give a character a value, and of those that hold or do not
hold but have no table, one property in a row. -/
def otherProperties : List String := [
  "age", "bc bidiclass", "blk block", "bmg bidimirroringglyph", "bpb bidipairedbracket",
  "bpt bidipairedbrackettype", "ccc canonicalcombiningclass", "ce compositionexclusion",
  "cf casefolding", "cjkaccountingnumeric kaccountingnumeric",
  "cjkcompatibilityvariant kcompatibilityvariant", "cjkiicore kiicore",
  "cjkirggsource kirggsource", "cjkirghsource kirghsource", "cjkirgjsource kirgjsource",
  "cjkirgkpsource kirgkpsource", "cjkirgksource kirgksource", "cjkirgmsource kirgmsource",
  "cjkirgssource kirgssource", "cjkirgtsource kirgtsource", "cjkirguksource kirguksource",
  "cjkirgusource kirgusource", "cjkirgvsource kirgvsource", "cjkothernumeric kothernumeric",
  "cjkprimarynumeric kprimarynumeric", "cjkrsunicode krsunicode unicoderadicalstroke urs",
  "compex fullcompositionexclusion", "cwkcf changeswhennfkccasefolded",
  "dm decompositionmapping", "dt decompositiontype", "ea eastasianwidth",
  "equideo equivalentunifiedideograph", "fcnfkc fcnfkcclosure", "gc generalcategory",
  "gcb graphemeclusterbreak", "hst hangulsyllabletype", "incb indicconjunctbreak",
  "inpc indicpositionalcategory", "insc indicsyllabiccategory", "isc isocomment",
  "jg joininggroup", "jsn jamoshortname", "jt joiningtype", "kehcat", "kehcore", "kehdesc",
  "kehfunc", "kehfval", "kehhg", "kehifao", "kehjsesh", "kehnomirror", "kehnorotate", "kehunik",
  "lb linebreak", "lc lowercasemapping", "na name", "na1 unicode1name", "namealias",
  "nfcqc nfcquickcheck", "nfdqc nfdquickcheck", "nfkccf nfkccasefold", "nfkcqc nfkcquickcheck",
  "nfkcscf nfkcsimplecasefold", "nfkdqc nfkdquickcheck", "nt numerictype", "nv numericvalue",
  "sb sentencebreak", "sc script", "scf simplecasefolding sfc", "scx scriptextensions",
  "slc simplelowercasemapping", "stc simpletitlecasemapping", "suc simpleuppercasemapping",
  "tc titlecasemapping", "uc uppercasemapping", "vo verticalorientation", "wb wordbreak",
  "xonfc expandsonnfc", "xonfd expandsonnfd", "xonfkc expandsonnfkc", "xonfkd expandsonnfkd"]

/-- The loose name belongs to a property that has no table of characters. -/
def isOtherProperty (name : String) : Bool :=
  otherProperties.any fun names => (namesOf names).contains name

end HostScript.Text
