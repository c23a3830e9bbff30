import ScriptStyle.Text.Basic
import ScriptStyle.Text.Characters
import ScriptStyle.Text.Tables.Categories
import ScriptStyle.Text.Tables.Foldings
import ScriptStyle.Text.Tables.Properties
import ScriptStyle.Text.Tables.Scripts

/-!
# Character classes that have a name

The tables of general categories, scripts and properties are runs of code points. A class of
characters is looked up in them by one of its names, in which case, blanks, hyphens and underscores
do not count.

Two characters that differ only in case fold to the same character. The characters that fold as a
given one does are its case variants.
-/

namespace ScriptStyle

/-- Labels for the code points from zero on, each with the number of code points that bear it. -/
abbrev Runs := List (Text × Nat)

namespace Runs

/-- The runs that a text spells: a label in letters, a number in digits, and so on. -/
def read (label : Text) (count : Nat) : Text → Runs
  | [] => [(label.reverse, count)]
  | c :: cs =>
    if c.isDigit then read label (10 * count + (c.toNat - 48)) cs
    else if count = 0 then read (c :: label) 0 cs
    else (label.reverse, count) :: read [c] 0 cs

/-- The runs that the rows of a table spell. -/
def ofTable (rows : List String) : Runs := read [] 0 (rows.flatMap String.toList)

/-- The label of a code point. -/
def labelAt? : Runs → Nat → Option Text
  | [], _ => none
  | (label, count) :: rs, n => if n < count then some label else labelAt? rs (n - count)

end Runs

namespace Characters

/-- The general categories of all code points. -/
def categories : Runs := .ofTable categoryRuns

/-- The scripts of all code points. -/
def scripts : Runs := .ofTable scriptRuns

/-- The letters of the general category of a character. -/
def category (c : Char) : Text := (categories.labelAt? c.toNat).getD []

/-- The letters of the script of a character. -/
def script (c : Char) : Text := (scripts.labelAt? c.toNat).getD []

/-- The character has the property that some runs describe. -/
def hasProperty (runs : Runs) (c : Char) : Bool := runs.labelAt? c.toNat = some ['Y']

/-- The runs of a property. -/
def property? (name : String) : Option Runs :=
  (propertyRuns.find? (·.1.contains name)).map (.ofTable ·.2)

/-- The alphabetic characters. -/
def alphabetic : Runs := (property? "alphabetic").getD []

/-- A letter in the wide sense, combining vowel signs included. -/
def isAlphabetic (c : Char) : Bool := hasProperty alphabetic c

/-- The folded form of a character. -/
def fold (c : Char) : Char :=
  let n := c.toNat
  match foldingRuns.find? fun (first, count, step, _) =>
      first ≤ n && (n - first) % step = 0 && (n - first) / step < count with
  | some (_, _, _, shift) => .ofNat (n + shift).toNat
  | none => c

/-- The characters that fold as `c` does, `c` among them. -/
def variants (c : Char) : List Char :=
  let target := fold c
  target :: foldingRuns.filterMap fun (first, count, step, shift) =>
    let n := (target.toNat - shift : Int).toNat
    if first ≤ n && (n - first) % step = 0 && (n - first) / step < count then some (.ofNat n)
    else none

/-- The two cases of an ASCII letter, or the character alone. -/
def asciiVariants (c : Char) : List Char :=
  if c.isLower then [c, .ofNat (c.toNat - 32)]
  else if c.isUpper then [c, .ofNat (c.toNat + 32)]
  else [c]

end Characters

/-- A class of characters that has a name. -/
inductive CharacterClass where
  /-- All characters. -/
  | any
  /-- The characters below 128. -/
  | ascii
  /-- The characters of some general categories. -/
  | categories (labels : List Text)
  /-- The characters outside some general categories. -/
  | outside (labels : List Text)
  /-- The characters of a script. -/
  | script (label : Text)
  /-- The characters with a property. -/
  | property (runs : Runs)
  /-- White space. -/
  | space
  /-- Decimal digits of any script. -/
  | digit
  /-- What words are made of: alphabetic characters, marks, decimal digits, connecting punctuation
  and the signs that join letters. -/
  | word

namespace CharacterClass

/-- The character belongs to the class. -/
def contains : CharacterClass → Char → Bool
  | any, _ => true
  | ascii, c => c.toNat < 128
  | categories labels, c => labels.contains (Characters.category c)
  | outside labels, c => !labels.contains (Characters.category c)
  | script label, c => Characters.script c = label
  | property runs, c => Characters.hasProperty runs c
  | space, c => Characters.isWhiteSpace c
  | digit, c => Characters.category c = ['N', 'd']
  | word, c =>
    if c.toNat < 128 then c.isAlphanum || c = '_'
    else
      Characters.isAlphabetic c || c.toNat = 0x200C || c.toNat = 0x200D ||
        match Characters.category c with
        | ['M', _] | ['N', 'd'] | ['P', 'c'] => true
        | _ => false

/-- The general categories and their unions, by the names that each answers to. -/
def categoryNames : List (List String × List String) := [
  (["c", "other"], ["Cc", "Cf", "Cs", "Co", "Cn"]),
  (["cc", "control", "cntrl"], ["Cc"]),
  (["cf", "format"], ["Cf"]),
  (["cn", "unassigned"], ["Cn"]),
  (["co", "privateuse"], ["Co"]),
  (["l", "letter"], ["Lu", "Ll", "Lt", "Lm", "Lo"]),
  (["lc", "casedletter"], ["Lu", "Ll", "Lt"]),
  (["ll", "lowercaseletter"], ["Ll"]),
  (["lm", "modifierletter"], ["Lm"]),
  (["lo", "otherletter"], ["Lo"]),
  (["lt", "titlecaseletter"], ["Lt"]),
  (["lu", "uppercaseletter"], ["Lu"]),
  (["m", "mark", "combiningmark"], ["Mn", "Mc", "Me"]),
  (["mc", "spacingmark"], ["Mc"]),
  (["me", "enclosingmark"], ["Me"]),
  (["mn", "nonspacingmark"], ["Mn"]),
  (["n", "number"], ["Nd", "Nl", "No"]),
  (["nd", "decimalnumber", "digit"], ["Nd"]),
  (["nl", "letternumber"], ["Nl"]),
  (["no", "othernumber"], ["No"]),
  (["p", "punctuation", "punct"], ["Pc", "Pd", "Ps", "Pe", "Pi", "Pf", "Po"]),
  (["pc", "connectorpunctuation"], ["Pc"]),
  (["pd", "dashpunctuation"], ["Pd"]),
  (["pe", "closepunctuation"], ["Pe"]),
  (["pf", "finalpunctuation"], ["Pf"]),
  (["pi", "initialpunctuation"], ["Pi"]),
  (["po", "otherpunctuation"], ["Po"]),
  (["ps", "openpunctuation"], ["Ps"]),
  (["s", "symbol"], ["Sm", "Sc", "Sk", "So"]),
  (["sc", "currencysymbol"], ["Sc"]),
  (["sk", "modifiersymbol"], ["Sk"]),
  (["sm", "mathsymbol"], ["Sm"]),
  (["so", "othersymbol"], ["So"]),
  (["z", "separator"], ["Zs", "Zl", "Zp"]),
  (["zl", "lineseparator"], ["Zl"]),
  (["zp", "paragraphseparator"], ["Zp"]),
  (["zs", "spaceseparator"], ["Zs"])]

/-- A name in lower case without blanks, hyphens and underscores, and without a leading `is`. Only
the name `isc` is kept, which would otherwise turn into another one. -/
def canonicalName (name : Text) : String :=
  let plain (t : Text) : Text :=
    (t.filter fun c => c.toNat < 128 && c != ' ' && c != '_' && c != '-').map (·.toLower)
  match name with
  | i :: s :: rest =>
    if i.toLower = 'i' && s.toLower = 's' then
      let t := plain rest
      if t = ['c'] then "isc" else .ofList t
    else .ofList (plain name)
  | _ => .ofList (plain name)

/-- The union of general categories with a canonical name. -/
def category? (name : String) : Option CharacterClass :=
  if name = "any" then some any
  else if name = "ascii" then some ascii
  else if name = "assigned" then some (outside [['C', 'n']])
  else (categoryNames.find? (·.1.contains name)).map fun e => categories (e.2.map (·.toList))

/-- The script with a canonical name. -/
def script? (name : String) : Option CharacterClass :=
  (Characters.scriptNames.find? (·.2.contains name)).map fun e => script e.1.toList

/-- The property with a canonical name, names that general categories have first claim to apart. -/
def property? (name : String) : Option CharacterClass :=
  if name = "cf" || name = "sc" || name = "lc" then none
  else (Characters.property? name).map property

/-- The class with a name: a property, a general category or a script. -/
def named? (name : Text) : Option CharacterClass :=
  let n := canonicalName name
  property? n <|> category? n <|> script? n

/-- The class that a property with several values names together with one of them. -/
def valued? (name value : Text) : Option CharacterClass :=
  let n := canonicalName name
  let v := canonicalName value
  if n = "gc" || n = "generalcategory" then category? v
  else if n = "sc" || n = "script" then script? v
  else none

end CharacterClass

end ScriptStyle
