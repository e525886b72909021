import MarkupOrder.Pattern.CharSet
import MarkupOrder.Unicode.Property
import MarkupOrder.Unicode.Script.Extension

/-!
# Character properties by name

A pattern can ask for general categories, for scripts, with or without the characters that several
scripts share, and for the properties that are true or false and are listed in `properties`. Names
are compared loosely: case, spaces, hyphens and underscores make no difference, nor does a leading
"is".

The properties of the standard that are not listed have no name here, and a pattern that asks for
one is not well-formed. Among them are the age of a character, the classes of breaks between
graphemes, words and sentences, and the properties with which others are defined.

* `Property.looseName`: the form in which names are compared.
* `Property.named?`: the set that a lone name stands for.
* `Property.query?`: the set that the text between the braces stands for, with or without the name
  of the property asked for.
-/

namespace MarkupOrder.Pattern

open Unicode

namespace Property

/-- The text without a leading "is" in any case, if it has one. -/
def stripIs? : Text → Option Text
  | a :: b :: rest => if a.toLower = 'i' ∧ b.toLower = 's' then some rest else none
  | _ => none

/-- The ASCII characters of a name in lower case, without spaces, hyphens and underscores. -/
def squeezed (t : Text) : Text :=
  (t.filter fun c => decide (c.toNat < 128) && !(c == ' ' || c == '_' || c == '-')).map Char.toLower

/-- The form in which names are compared. A leading "is" does not count; but before a lone "c" it
does, since "isc" is the name of another property. -/
def looseName (t : Text) : Text :=
  match stripIs? t with
  | none => squeezed t
  | some rest => if squeezed rest = ['c'] then ['i', 's', 'c'] else squeezed rest

/-- A set by a test on general categories. -/
def categories (test : Category → Bool) : CharSet := fun c => test (category c)

/-- ASCII hexadecimal digits. -/
def asciiHexDigit : CharSet := fun c =>
  c.isDigit || CharSet.range 'a' 'f' c || CharSet.range 'A' 'F' c

/-- Hexadecimal digits, the full-width forms included. -/
def hexDigit : CharSet := fun c =>
  asciiHexDigit c ||
    CodeRanges.has [(0xFF10, 0xFF19), (0xFF21, 0xFF26), (0xFF41, 0xFF46)] c

/-- The properties that are true or false, by their names. -/
def properties : List (List String × CharSet) :=
  [(["alphabetic", "alpha"], isAlphabetic),
   (["asciihexdigit", "ahex"], asciiHexDigit),
   (["bidicontrol", "bidic"],
    CodeRanges.has [(0x61C, 0x61C), (0x200E, 0x200F), (0x202A, 0x202E), (0x2066, 0x2069)]),
   (["caseignorable", "ci"], isCaseIgnorable),
   (["cased"], isCased),
   (["changeswhencasefolded", "cwcf"], changesWhenCasefolded),
   (["changeswhencasemapped", "cwcm"], caseMappedRanges.has),
   (["changeswhenlowercased", "cwl"], changesWhenLowercased),
   (["changeswhentitlecased", "cwt"], changesWhenTitlecased),
   (["changeswhenuppercased", "cwu"], changesWhenUppercased),
   (["dash"], isDash),
   (["defaultignorablecodepoint", "di"], defaultIgnorableRanges.has),
   (["deprecated", "dep"],
    CodeRanges.has
      [(0x149, 0x149), (0x673, 0x673), (0xF77, 0xF77), (0xF79, 0xF79), (0x17A3, 0x17A4),
       (0x206A, 0x206F), (0x2329, 0x232A), (0xE0001, 0xE0001)]),
   (["diacritic", "dia"], diacriticRanges.has),
   (["emoji"], emojiRanges.has),
   (["emojicomponent", "ecomp"], emojiComponentRanges.has),
   (["emojimodifier", "emod"], CodeRanges.has [(0x1F3FB, 0x1F3FF)]),
   (["emojimodifierbase", "ebase"], emojiModifierBaseRanges.has),
   (["emojipresentation", "epres"], emojiPresentationRanges.has),
   (["extendedpictographic", "extpict"], isExtendedPictographic),
   (["extender", "ext"], extenderRanges.has),
   (["graphemebase", "grbase"], isGraphemeBase),
   (["graphemeextend", "grext"], isGraphemeExtend),
   (["hexdigit", "hex"], hexDigit),
   (["hyphen"],
    CodeRanges.has
      [(0x2D, 0x2D), (0xAD, 0xAD), (0x58A, 0x58A), (0x1806, 0x1806), (0x2010, 0x2011),
       (0x2E17, 0x2E17), (0x30FB, 0x30FB), (0xFE63, 0xFE63), (0xFF0D, 0xFF0D), (0xFF65, 0xFF65)]),
   (["idsbinaryoperator", "idsb"],
    CodeRanges.has [(0x2FF0, 0x2FF1), (0x2FF4, 0x2FFD), (0x31EF, 0x31EF)]),
   (["idstrinaryoperator", "idst"], CodeRanges.has [(0x2FF2, 0x2FF3)]),
   (["idsunaryoperator", "idsu"], CodeRanges.has [(0x2FFE, 0x2FFF)]),
   (["idcontinue", "idc"], isIdContinue),
   (["idstart", "ids"], isIdStart),
   (["ideographic", "ideo"], isIdeographic),
   (["joincontrol", "joinc"], CharSet.ofList ['\u200c', '\u200d']),
   (["logicalorderexception", "loe"],
    CodeRanges.has
      [(0xE40, 0xE44), (0xEC0, 0xEC4), (0x19B5, 0x19B7), (0x19BA, 0x19BA), (0xAAB5, 0xAAB6),
       (0xAAB9, 0xAAB9), (0xAABB, 0xAABC)]),
   (["lowercase", "lower"], isLowercase),
   (["math"], isMath),
   (["noncharactercodepoint", "nchar"], isNoncharacter),
   (["patternsyntax", "patsyn"], patternSyntaxRanges.has),
   (["patternwhitespace", "patws"],
    CodeRanges.has
      [(0x9, 0xD), (0x20, 0x20), (0x85, 0x85), (0x200E, 0x200F), (0x2028, 0x2029)]),
   (["prependedconcatenationmark", "pcm"],
    CodeRanges.has
      [(0x600, 0x605), (0x6DD, 0x6DD), (0x70F, 0x70F), (0x890, 0x891), (0x8E2, 0x8E2),
       (0x110BD, 0x110BD), (0x110CD, 0x110CD)]),
   (["quotationmark", "qmark"], quotationRanges.has),
   (["radical"], CodeRanges.has [(0x2E80, 0x2E99), (0x2E9B, 0x2EF3), (0x2F00, 0x2FD5)]),
   (["regionalindicator", "ri"], CodeRanges.has [(0x1F1E6, 0x1F1FF)]),
   (["sentenceterminal", "sterm"], sentenceTerminalRanges.has),
   (["softdotted", "sd"], softDottedRanges.has),
   (["terminalpunctuation", "term"], isTerminalPunctuation),
   (["unifiedideograph", "uideo"], unifiedIdeographRanges.has),
   (["uppercase", "upper"], isUppercase),
   (["variationselector", "vs"],
    CodeRanges.has [(0x180B, 0x180D), (0x180F, 0x180F), (0xFE00, 0xFE0F), (0xE0100, 0xE01EF)]),
   (["whitespace", "wspace", "space"], isWhitespace),
   (["xidcontinue", "xidc"], isXidContinue),
   (["xidstart", "xids"], isXidStart)]

/-- The sets that are unions of general categories, by their names. -/
def categoryGroups : List (List String × CharSet) :=
  [(["any"], CharSet.any),
   (["assigned"], categories (· != .cn)),
   (["ascii"], CharSet.ascii),
   (["l", "letter"], categories Category.isLetter),
   (["lc", "casedletter"], categories Category.isCased),
   (["m", "mark", "combiningmark"], categories Category.isMark),
   (["n", "number"], categories Category.isNumber),
   (["p", "punctuation", "punct"], categories Category.isPunctuation),
   (["s", "symbol"], categories Category.isSymbol),
   (["z", "separator"], categories Category.isSeparator),
   (["c", "other"], categories Category.isOther)]

/-- The entry of a table that has the given name. -/
def lookUp? (table : List (List String × CharSet)) (name : Text) : Option CharSet :=
  (table.find? fun entry => entry.1.any fun n => n.toList == name).map (·.2)

/-- The set of a general category or of a group of them. -/
def categoryNamed? (name : Text) : Option CharSet :=
  (lookUp? categoryGroups name).or <|
    (Category.all.find? fun k => k.names.any fun n => n.toList == name).map
      fun k => categories (· == k)

/-- The script of a name or of a code. -/
def scriptNamed? (name : Text) : Option Script :=
  scripts.find? fun s => (s.name :: s.codes).any fun n => looseName n.toList == name

/-- The set that a lone name stands for. Properties go before categories, categories before
scripts. -/
def named? (name : Text) : Option CharSet :=
  (lookUp? properties name).or <|
    (categoryNamed? name).or ((scriptNamed? name).map fun s => s.ranges.has)

/-- The set of the characters that have a given value of a property. -/
def valued? (property value : Text) : Option CharSet :=
  if property = "generalcategory".toList ∨ property = "gc".toList then categoryNamed? value
  else if property = "script".toList ∨ property = "sc".toList then
    (scriptNamed? value).map fun s => s.ranges.has
  else if property = "scriptextensions".toList ∨ property = "scx".toList then
    (scriptNamed? value).map Script.uses
  else none

/-- The parts of a text before and behind the first place where a mark stands. -/
def cut? (mark : Text) : Text → Option (Text × Text)
  | [] => none
  | c :: rest =>
    if Text.startsWith (c :: rest) mark then some ([], (c :: rest).drop mark.length)
    else (cut? mark rest).map fun (before, behind) => (c :: before, behind)

/-- The set that the text between the braces stands for, and whether its complement is meant: a
lone name, or a property's name and a value with `=` or `:` between them, or with `!=` for the
characters of all other values. -/
def query? (t : Text) : Option (CharSet × Bool) :=
  match cut? ['!', '='] t with
  | some (property, value) => (valued? (looseName property) (looseName value)).map (·, true)
  | none =>
    match (cut? [':'] t).or (cut? ['='] t) with
    | some (property, value) => (valued? (looseName property) (looseName value)).map (·, false)
    | none => (named? (looseName t)).map (·, false)

end Property

end MarkupOrder.Pattern
