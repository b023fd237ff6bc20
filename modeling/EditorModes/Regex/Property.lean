import EditorModes.Text.Property
import EditorModes.Text.Property.Script
import EditorModes.Text.Property.Segmentation

/-!
# Properties that patterns name

A pattern names a property by itself, as in `Greek`, or with a value, as in `Script=Greek`.  A
name is read without regard to case, blanks, hyphens and underscores, and an `is` in front of it
does not count.  Patterns are read with edition 16 of the character database.
-/

namespace EditorModes.Regex

open Property Property.Category

/-- A name in lower case, without separators and a leading `is`; only ASCII characters count. -/
def looseName (name : List Char) : String :=
  let spell (t : List Char) : String :=
    .ofList ((t.filter fun c => isAscii c && c ≠ ' ' && c ≠ '_' && c ≠ '-').map asciiLower)
  match name with
  | i :: s :: rest =>
    if asciiLower i = 'i' && asciiLower s = 's' then
      -- `isc` is a name of its own, not `c` with an `is` in front.
      if spell rest = "c" then "isc" else spell rest
    else spell name
  | name => spell name

/-- The entry of a table whose names include the given one. -/
def named? {α : Type} (name : String) (table : List (List String × α)) : Option α :=
  (table.find? (·.1.contains name)).map (·.2)

/-- The names of the properties that a character has or lacks. -/
def binaryNames : List (List String × CharSet) := [
  (["ahex", "asciihexdigit"], asciiHexDigit),
  (["alpha", "alphabetic"], alphabetic .v16),
  (["bidic", "bidicontrol"], bidiControl),
  (["bidim", "bidimirrored"], bidiMirrored),
  (["ci", "caseignorable"], caseIgnorable),
  (["cased"], cased),
  (["cwcf", "changeswhencasefolded"], changesWhenCasefolded),
  (["cwcm", "changeswhencasemapped"], changesWhenCasemapped),
  (["cwl", "changeswhenlowercased"], changesWhenLowercased),
  (["cwt", "changeswhentitlecased"], changesWhenTitlecased),
  (["cwu", "changeswhenuppercased"], changesWhenUppercased),
  (["dash"], dash),
  (["di", "defaultignorablecodepoint"], defaultIgnorable),
  (["dep", "deprecated"], deprecated),
  (["dia", "diacritic"], diacritic),
  (["emoji"], emoji),
  (["ecomp", "emojicomponent"], emojiComponent),
  (["emod", "emojimodifier"], emojiModifier),
  (["ebase", "emojimodifierbase"], emojiModifierBase),
  (["epres", "emojipresentation"], emojiPresentation),
  (["extpict", "extendedpictographic"], extendedPictographic),
  (["ext", "extender"], extender),
  (["grbase", "graphemebase"], graphemeBase),
  (["grext", "graphemeextend"], graphemeExtend .v16),
  (["grlink", "graphemelink"], graphemeLink),
  (["hex", "hexdigit"], hexDigit),
  (["hyphen"], hyphen),
  (["idsb", "idsbinaryoperator"], idsBinaryOperator),
  (["idst", "idstrinaryoperator"], idsTrinaryOperator),
  (["idsu", "idsunaryoperator"], idsUnaryOperator),
  (["idcompatmathcontinue"], idCompatMathContinue),
  (["idcompatmathstart"], idCompatMathStart),
  (["idc", "idcontinue"], idContinue),
  (["ids", "idstart"], idStart),
  (["ideo", "ideographic"], ideographic),
  (["joinc", "joincontrol"], joinControl),
  (["loe", "logicalorderexception"], logicalOrderException),
  (["lower", "lowercase"], lowercase .v16),
  (["math"], math),
  (["mcm", "modifiercombiningmark"], modifierCombiningMark),
  (["nchar", "noncharactercodepoint"], noncharacter),
  (["oalpha", "otheralphabetic"], otherAlphabetic .v16),
  (["odi", "otherdefaultignorablecodepoint"], otherDefaultIgnorable),
  (["ogrext", "othergraphemeextend"], otherGraphemeExtend .v16),
  (["oidc", "otheridcontinue"], otherIdContinue),
  (["oids", "otheridstart"], otherIdStart),
  (["olower", "otherlowercase"], otherLowercase .v16),
  (["omath", "othermath"], otherMath),
  (["oupper", "otheruppercase"], otherUppercase .v16),
  (["patsyn", "patternsyntax"], patternSyntax),
  (["patws", "patternwhitespace"], patternWhiteSpace),
  (["pcm", "prependedconcatenationmark"], prependedConcatenationMark),
  (["qmark", "quotationmark"], quotationMark),
  (["radical"], radical),
  (["ri", "regionalindicator"], regionalIndicator),
  (["sterm", "sentenceterminal"], sentenceTerminal),
  (["sd", "softdotted"], softDotted),
  (["term", "terminalpunctuation"], terminalPunctuation),
  (["uideo", "unifiedideograph"], unifiedIdeograph),
  (["upper", "uppercase"], uppercase .v16),
  (["vs", "variationselector"], variationSelector),
  (["space", "wspace", "whitespace"], whiteSpace),
  (["xidc", "xidcontinue"], xidContinue),
  (["xids", "xidstart"], xidStart)]

/-- The names of the general categories and of groups of them. -/
def categoryNames : List (List String × List Category) := [
  (["lu", "uppercaseletter"], [.uppercaseLetter]),
  (["ll", "lowercaseletter"], [.lowercaseLetter]),
  (["lt", "titlecaseletter"], [.titlecaseLetter]),
  (["lc", "casedletter"], [.uppercaseLetter, .lowercaseLetter, .titlecaseLetter]),
  (["lm", "modifierletter"], [.modifierLetter]),
  (["lo", "otherletter"], [.otherLetter]),
  (["l", "letter"], letters),
  (["mn", "nonspacingmark"], [.nonspacingMark]),
  (["mc", "spacingmark"], [.spacingMark]),
  (["me", "enclosingmark"], [.enclosingMark]),
  (["m", "mark", "combiningmark"], marks),
  (["nd", "decimalnumber", "digit"], [.decimalNumber]),
  (["nl", "letternumber"], [.letterNumber]),
  (["no", "othernumber"], [.otherNumber]),
  (["n", "number"], numbers),
  (["pc", "connectorpunctuation"], [.connectorPunctuation]),
  (["pd", "dashpunctuation"], [.dashPunctuation]),
  (["ps", "openpunctuation"], [.openPunctuation]),
  (["pe", "closepunctuation"], [.closePunctuation]),
  (["pi", "initialpunctuation"], [.initialPunctuation]),
  (["pf", "finalpunctuation"], [.finalPunctuation]),
  (["po", "otherpunctuation"], [.otherPunctuation]),
  (["p", "punctuation", "punct"], punctuation),
  (["sm", "mathsymbol"], [.mathSymbol]),
  (["sc", "currencysymbol"], [.currencySymbol]),
  (["sk", "modifiersymbol"], [.modifierSymbol]),
  (["so", "othersymbol"], [.otherSymbol]),
  (["s", "symbol"], symbols),
  (["zs", "spaceseparator"], [.spaceSeparator]),
  (["zl", "lineseparator"], [.lineSeparator]),
  (["zp", "paragraphseparator"], [.paragraphSeparator]),
  (["z", "separator"], separators),
  (["cc", "control", "cntrl"], [.control]),
  (["cf", "format"], [.format]),
  (["co", "privateuse"], [.privateUse]),
  (["cn", "unassigned"], [.unassigned]),
  (["c", "other"], others)]

/-- The characters of the general categories that a name stands for. -/
def categoryClass? (name : String) : Option CharSet :=
  match name with
  | "any" => some .all
  | "ascii" => some (.range '\x00' '\x7f')
  | "assigned" => some (Category.unassigned.set .v16).complement
  | name => (named? name categoryNames).map (Category.sets .v16)

/-- The characters that a name by itself stands for: a property, a category or a script. -/
def namedClass? (name : String) : Option CharSet :=
  named? name binaryNames <|> categoryClass? name <|> (Script.ofName? name).map (·.set)

/-- The characters assigned by a version, which is written `6.0` or `V6_0`. -/
def ageClass? (version : String) : Option CharSet :=
  let spelled := Edition.v16.history.find? fun (v, _) =>
    v = version || "v" ++ String.ofList (v.toList.filter (· ≠ '.')) = version
  spelled.bind fun (v, _) => Edition.v16.assignedBy? v

/-- The characters with a value of a property. -/
def valueClass? (property value : String) : Option CharSet :=
  match property with
  | "gc" | "generalcategory" => categoryClass? value
  | "sc" | "script" => (Script.ofName? value).map (·.set)
  | "scx" | "scriptextensions" => (Script.ofName? value).map (·.extended)
  | "age" => ageClass? value
  | "gcb" | "graphemeclusterbreak" => named? value graphemeBreaks
  | "wb" | "wordbreak" => named? value wordBreaks
  | "sb" | "sentencebreak" => named? value sentenceBreaks
  | _ => none

end EditorModes.Regex
