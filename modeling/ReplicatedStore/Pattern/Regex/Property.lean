import ReplicatedStore.Pattern.Regex.Syntax
import ReplicatedStore.Text.Property.Age
import ReplicatedStore.Text.Property.CaseChanges
import ReplicatedStore.Text.Property.Identifiers
import ReplicatedStore.Text.Property.ScriptExtensions
import ReplicatedStore.Text.Property.SentenceBreaks

/-!
# Properties in regular expressions

A property, a general category or a script stands for the characters that have it, and so does a
property with one of its values.  Each goes by a long and a short name, and it does not matter how
the words of a name are joined, in which case they are written, or whether "is" stands in front.
-/

namespace ReplicatedStore.Regex

open Text (CharSet)
open Text.Property

/-- The name without all that does not matter in it.  The name "isc" is one of its own. -/
def looseName (name : String) : String :=
  let plain (cs : List Char) : List Char :=
    (cs.filter fun c => c.toNat < 0x80 && c != ' ' && c != '_' && c != '-').map Char.toLower
  match name.toList with
  | i :: s :: rest =>
    if i.toLower = 'i' ∧ s.toLower = 's' then
      if plain rest = ['c'] then "isc" else String.ofList (plain rest)
    else String.ofList (plain (i :: s :: rest))
  | cs => String.ofList (plain cs)

/-- The properties that characters have or do not have, with their names. -/
def flatProperties : List (List String × CharSet) := [
  (["asciihexdigit", "ahex"], asciiHexDigits),
  (["alphabetic", "alpha"], alphabetic),
  (["bidicontrol", "bidic"], bidiControls),
  (["bidimirrored", "bidim"], mirrored),
  (["caseignorable", "ci"], caseIgnorable),
  (["cased"], cased),
  (["changeswhencasefolded", "cwcf"], changesWhenCasefolded),
  (["changeswhencasemapped", "cwcm"], changesWhenCasemapped),
  (["changeswhenlowercased", "cwl"], changesWhenLowercased),
  (["changeswhentitlecased", "cwt"], changesWhenTitlecased),
  (["changeswhenuppercased", "cwu"], changesWhenUppercased),
  (["dash"], dashes),
  (["defaultignorablecodepoint", "di"], ignorable),
  (["deprecated", "dep"], deprecated),
  (["diacritic", "dia"], diacritics),
  (["emoji"], emoji),
  (["emojicomponent", "ecomp"], emojiComponents),
  (["emojimodifier", "emod"], emojiModifiers),
  (["emojimodifierbase", "ebase"], emojiModifierBases),
  (["emojipresentation", "epres"], emojiPresentation),
  (["extendedpictographic", "extpict"], pictographs),
  (["extender", "ext"], extenders),
  (["graphemebase", "grbase"], graphemeBase),
  (["graphemeextend", "grext"], graphemeExtend),
  (["graphemelink", "grlink"], graphemeLinks),
  (["hexdigit", "hex"], hexDigits),
  (["hyphen"], hyphens),
  (["idcompatmathcontinue"], mathContinue),
  (["idcompatmathstart"], mathStart),
  (["idcontinue", "idc"], idContinue),
  (["idstart", "ids"], idStart),
  (["ideographic", "ideo"], ideographic),
  (["idsbinaryoperator", "idsb"], describesTwo),
  (["idstrinaryoperator", "idst"], describesThree),
  (["idsunaryoperator", "idsu"], describesOne),
  (["joincontrol", "joinc"], joinControls),
  (["logicalorderexception", "loe"], logicalOrderExceptions),
  (["lowercase", "lower"], lowercase),
  (["math"], math),
  (["modifiercombiningmark", "mcm"], modifierCombiningMarks),
  (["noncharactercodepoint", "nchar"], noncharacters),
  (["otheralphabetic", "oalpha"], otherAlphabetic),
  (["otherdefaultignorablecodepoint", "odi"], otherIgnorable),
  (["othergraphemeextend", "ogrext"], otherGraphemeExtend),
  (["otheridcontinue", "oidc"], otherIdContinue),
  (["otheridstart", "oids"], otherIdStart),
  (["otherlowercase", "olower"], otherLowercase),
  (["othermath", "omath"], otherMath),
  (["otheruppercase", "oupper"], otherUppercase),
  (["patternsyntax", "patsyn"], patternSyntax),
  (["patternwhitespace", "patws"], patternWhiteSpace),
  (["prependedconcatenationmark", "pcm"], prependedMarks),
  (["quotationmark", "qmark"], quotationMarks),
  (["radical"], radicals),
  (["regionalindicator", "ri"], regionalIndicators),
  (["sentenceterminal", "sterm"], sentenceTerminals),
  (["softdotted", "sd"], softDotted),
  (["terminalpunctuation", "term"], terminalPunctuation),
  (["unifiedideograph", "uideo"], unifiedIdeographs),
  (["uppercase", "upper"], uppercase),
  (["variationselector", "vs"], variationSelectors),
  (["whitespace", "wspace", "space"], whiteSpace),
  (["xidcontinue", "xidc"], xidContinue),
  (["xidstart", "xids"], xidStart)]

/-- The parts that characters play in graphemes, with their names. -/
def graphemeBreaks : List (List String × CharSet) := [
  (["control", "cn"], Grapheme.control),
  (["cr"], carriageReturn),
  (["extend", "ex"], Grapheme.extend),
  (["l"], Grapheme.leadingConsonants),
  (["lf"], lineFeed),
  (["lv"], Grapheme.openSyllables),
  (["lvt"], Grapheme.closedSyllables),
  (["prepend", "pp"], Grapheme.prepended),
  (["regionalindicator", "ri"], regionalIndicators),
  (["spacingmark", "sm"], Grapheme.spacingMark),
  (["t"], Grapheme.trailingConsonants),
  (["v"], Grapheme.vowels),
  (["zwj"], zeroWidthJoiner)]

/-- The parts that characters play in words, with their names. -/
def wordBreaks : List (List String × CharSet) := [
  (["aletter", "le"], Word.letter),
  (["cr"], carriageReturn),
  (["doublequote", "dq"], Word.doubleQuote),
  (["extend"], Word.extend),
  (["extendnumlet", "ex"], Word.extendAny),
  (["format", "fo"], Word.format),
  (["hebrewletter", "hl"], Word.hebrewLetter),
  (["katakana", "ka"], Word.katakana),
  (["lf"], lineFeed),
  (["midletter", "ml"], Word.midLetter),
  (["midnum", "mn"], Word.midNumber),
  (["midnumlet", "mb"], Word.midEither),
  (["newline", "nl"], Word.newline),
  (["numeric", "nu"], Word.numeric),
  (["regionalindicator", "ri"], regionalIndicators),
  (["singlequote", "sq"], Word.singleQuote),
  (["wsegspace"], Word.space),
  (["zwj"], zeroWidthJoiner)]

/-- The parts that characters play in sentences, with their names. -/
def sentenceBreaks : List (List String × CharSet) := [
  (["aterm", "at"], Sentence.fullStop),
  (["close", "cl"], Sentence.close),
  (["cr"], carriageReturn),
  (["extend", "ex"], Sentence.extend),
  (["format", "fo"], Sentence.format),
  (["lf"], lineFeed),
  (["lower", "lo"], Sentence.lower),
  (["numeric", "nu"], Sentence.numeric),
  (["oletter", "le"], Sentence.otherLetter),
  (["scontinue", "sc"], Sentence.continuing),
  (["sep", "se"], Sentence.separator),
  (["sp"], Sentence.space),
  (["sterm", "st"], Sentence.terminal),
  (["upper", "up"], Sentence.upper)]

/-- The general categories with their names. -/
def categoryNames : List (List String × Text.Category) := [
  (["lu", "uppercaseletter"], .lu),
  (["ll", "lowercaseletter"], .ll),
  (["lt", "titlecaseletter"], .lt),
  (["lm", "modifierletter"], .lm),
  (["lo", "otherletter"], .lo),
  (["mn", "nonspacingmark"], .mn),
  (["mc", "spacingmark"], .mc),
  (["me", "enclosingmark"], .me),
  (["nd", "decimalnumber", "digit"], .nd),
  (["nl", "letternumber"], .nl),
  (["no", "othernumber"], .no),
  (["pc", "connectorpunctuation"], .pc),
  (["pd", "dashpunctuation"], .pd),
  (["ps", "openpunctuation"], .ps),
  (["pe", "closepunctuation"], .pe),
  (["pi", "initialpunctuation"], .pi),
  (["pf", "finalpunctuation"], .pf),
  (["po", "otherpunctuation"], .po),
  (["sm", "mathsymbol"], .sm),
  (["sc", "currencysymbol"], .sc),
  (["sk", "modifiersymbol"], .sk),
  (["so", "othersymbol"], .so),
  (["zs", "spaceseparator"], .zs),
  (["zl", "lineseparator"], .zl),
  (["zp", "paragraphseparator"], .zp),
  (["cc", "control", "cntrl"], .cc),
  (["cf", "format"], .cf),
  (["co", "privateuse"], .co),
  (["cn", "unassigned"], .cn)]

/-- The large classes of general categories with their names. -/
def categoryClasses : List (List String × (Text.Category → Bool)) := [
  (["l", "letter"], Text.Category.isLetter),
  (["lc", "casedletter"], Text.Category.isCasedLetter),
  (["m", "mark", "combiningmark"], Text.Category.isMark),
  (["n", "number"], Text.Category.isNumber),
  (["p", "punctuation", "punct"], Text.Category.isPunctuation),
  (["s", "symbol"], Text.Category.isSymbol),
  (["z", "separator"], Text.Category.isSeparator),
  (["c", "other"], Text.Category.isOther),
  (["any"], fun _ => true),
  (["assigned"], fun category => category ≠ .cn)]

/-- What a list keeps under a name. -/
def lookUp? {α : Type} (name : String) (entries : List (List String × α)) : Option α :=
  (entries.find? fun entry => entry.1.contains name).map Prod.snd

/-- The characters of a general category, or of a large class of them. -/
def categoryChars? (name : String) : Option CharSet :=
  if name = "ascii" then some (.ofRanges [(0x0, 0x7F)])
  else
    ((lookUp? name categoryNames).map fun category => Text.Category.among [category]) <|>
      (lookUp? name categoryClasses).map Text.Category.chars

/-- The characters of a script. -/
def scriptChars? (name : String) : Option CharSet :=
  (script? name).map Script.chars

/-- The characters that are used in a script. -/
def extendedScriptChars? (name : String) : Option CharSet :=
  (script? name).map Script.extendedChars

/-- The names of a version of the standard, with a point or behind a letter. -/
def versionNames (version : Nat) : List String :=
  let major := toString (version / 10)
  let minor := toString (version % 10)
  [major ++ "." ++ minor, "v" ++ major ++ minor]

/-- The characters up to a version of the standard. -/
def agedChars? (name : String) : Option CharSet :=
  (versions.find? fun version => (versionNames version).contains name).map charsOfAge

/-- The properties that have values, with their names. -/
def valuedProperties : List (List String × (String → Option CharSet)) := [
  (["generalcategory", "gc"], categoryChars?),
  (["script", "sc"], scriptChars?),
  (["scriptextensions", "scx"], extendedScriptChars?),
  (["age"], agedChars?),
  (["graphemeclusterbreak", "gcb"], fun name => lookUp? name graphemeBreaks),
  (["wordbreak", "wb"], fun name => lookUp? name wordBreaks),
  (["sentencebreak", "sb"], fun name => lookUp? name sentenceBreaks)]

/-- The characters that the name of a property stands for, if it is known. -/
def PropertyName.chars? : PropertyName → Option CharSet
  | .plain name =>
    let name := looseName name
    lookUp? name flatProperties <|> categoryChars? name <|> scriptChars? name
  | .valued property value =>
    (lookUp? (looseName property) valuedProperties).bind fun chars? => chars? (looseName value)

end ReplicatedStore.Regex
