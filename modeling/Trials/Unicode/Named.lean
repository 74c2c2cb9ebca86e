import Trials.Unicode.Property
import Trials.Unicode.Borrowing

/-!
# Properties by name

The sets of characters that a name such as `Lu`, `Greek` or `Emoji` stands for.  Names are compared
without regard to case, blanks, underscores, hyphens and a leading `is`.  Known are the general
categories, the writing systems, and the binary properties of `Trials.Unicode.Property`.

This is not all that the standard names.  Unknown here are the properties with other values: the age
of a character and the break classes of graphemes, words and sentences (`Age`, `gcb`, `wb`, `sb`).
So are all binary properties but those listed in `Unicode.binaryProperties`, among them the ones on
changes of case (`Case_Ignorable`, `Changes_When_…`), on graphemes (`Grapheme_…`), on mirroring
(`Bidi_Mirrored`) and those that only serve to derive others (`Other_…`).  A class that names one of
them has no set of characters here, so a pattern with such a class is refused like one with a
misspelt name.
-/

namespace Trials

namespace Unicode

/-- A name without the differences that do not count. -/
def normalizeName (name : List Char) : List Char :=
  let body := match name with
    | a :: b :: rest =>
      if (a = 'i' ∨ a = 'I') ∧ (b = 's' ∨ b = 'S') then rest else name
    | _ => name
  (body.filter fun c => c.toNat < 128 && c ≠ ' ' && c ≠ '_' && c ≠ '-').map Char.toLower

/-- The general categories, each with its names and its characters. -/
def categories : List (List String × CharSet) := [
  (["lu", "uppercaseletter"], lu),
  (["ll", "lowercaseletter"], ll),
  (["lt", "titlecaseletter"], lt),
  (["lc", "casedletter"], casedLetter),
  (["lm", "modifierletter"], lm),
  (["lo", "otherletter"], lo),
  (["l", "letter"], letter),
  (["mn", "nonspacingmark"], mn),
  (["mc", "spacingmark"], mc),
  (["me", "enclosingmark"], me),
  (["m", "mark", "combiningmark"], mark),
  (["nd", "decimalnumber", "digit"], nd),
  (["nl", "letternumber"], nl),
  (["no", "othernumber"], no),
  (["n", "number"], number),
  (["pc", "connectorpunctuation"], pc),
  (["pd", "dashpunctuation"], pd),
  (["ps", "openpunctuation"], ps),
  (["pe", "closepunctuation"], pe),
  (["pi", "initialpunctuation"], pi),
  (["pf", "finalpunctuation"], pf),
  (["po", "otherpunctuation"], po),
  (["p", "punctuation", "punct"], punctuation),
  (["sm", "mathsymbol"], sm),
  (["sc", "currencysymbol"], sc),
  (["sk", "modifiersymbol"], sk),
  (["so", "othersymbol"], so),
  (["s", "symbol"], symbol),
  (["zs", "spaceseparator"], zs),
  (["zl", "lineseparator"], zl),
  (["zp", "paragraphseparator"], zp),
  (["z", "separator"], separator),
  (["cc", "control", "cntrl"], cc),
  (["cf", "format"], cf),
  (["co", "privateuse"], co),
  (["cn", "unassigned"], unassigned),
  (["c", "other"], other),
  (["any"], .all),
  (["ascii"], .range 0 0x7F),
  (["assigned"], unassigned.complement)]

/-- The binary properties, each with its names and its characters. -/
def binaryProperties : List (List String × CharSet) := [
  (["alphabetic", "alpha"], alphabetic),
  (["uppercase", "upper"], uppercase),
  (["lowercase", "lower"], lowercase),
  (["cased"], cased),
  (["math"], math),
  (["idstart", "ids"], idStart),
  (["idcontinue", "idc"], idContinue),
  (["xidstart", "xids"], xidStart),
  (["xidcontinue", "xidc"], xidContinue),
  (["asciihexdigit", "ahex"], asciiHexDigit),
  (["bidicontrol", "bidic"], bidiControl),
  (["dash"], dash),
  (["defaultignorablecodepoint", "di"], defaultIgnorableCodePoint),
  (["deprecated", "dep"], deprecated),
  (["diacritic", "dia"], diacritic),
  (["emoji"], emoji),
  (["emojicomponent", "ecomp"], emojiComponent),
  (["emojimodifier", "emod"], emojiModifier),
  (["emojimodifierbase", "ebase"], emojiModifierBase),
  (["emojipresentation", "epres"], emojiPresentation),
  (["extendedpictographic", "extpict"], extendedPictographic),
  (["extender", "ext"], extender),
  (["hexdigit", "hex"], hexDigit),
  (["idsbinaryoperator", "idsb"], idsBinaryOperator),
  (["idstrinaryoperator", "idst"], idsTrinaryOperator),
  (["ideographic", "ideo"], ideographic),
  (["joincontrol", "joinc"], joinControl),
  (["logicalorderexception", "loe"], logicalOrderException),
  (["noncharactercodepoint", "nchar"], noncharacterCodePoint),
  (["patternsyntax", "patsyn"], patternSyntax),
  (["patternwhitespace", "patws"], patternWhiteSpace),
  (["quotationmark", "qmark"], quotationMark),
  (["radical"], radical),
  (["regionalindicator", "ri"], regionalIndicator),
  (["sentenceterminal", "sterm"], sentenceTerminal),
  (["softdotted", "sd"], softDotted),
  (["terminalpunctuation", "term"], terminalPunctuation),
  (["unifiedideograph", "uideo"], unifiedIdeograph),
  (["variationselector", "vs"], variationSelector),
  (["whitespace", "wspace", "space"], whiteSpace)]

/-- The set that a table lists under a name. -/
def find? (table : List (List String × CharSet)) (name : List Char) : Option CharSet :=
  (table.find? fun entry => entry.1.any fun n => n.toList == name).map (·.2)

/-- The writing system with the given name or code. -/
def writingSystem? (name : List Char) : Option WritingSystem :=
  writingSystems.find? fun s =>
    normalizeName s.name.toList == name || normalizeName s.code.toList == name
      || (s.code == "Zinh" && name == "qaai".toList)
      || (s.code == "Copt" && name == "qaac".toList)

/-- The characters that a single name stands for: a binary property, a general category or a writing
system.  The names `cf`, `sc` and `lc` are general categories. -/
def named? (name : List Char) : Option CharSet :=
  let name := normalizeName name
  (find? binaryProperties name).orElse fun _ =>
    (find? categories name).orElse fun _ => (writingSystem? name).map (·.characters)

/-- The characters for which a property has a value. -/
def valued? (property value : List Char) : Option CharSet :=
  let property := String.ofList (normalizeName property)
  let value := normalizeName value
  if property = "generalcategory" ∨ property = "gc" then find? categories value
  else if property = "script" ∨ property = "sc" then (writingSystem? value).map (·.characters)
  else if property = "scriptextensions" ∨ property = "scx" then (writingSystem? value).map (·.inUse)
  else none

end Unicode

end Trials
