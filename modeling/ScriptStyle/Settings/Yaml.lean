import ScriptStyle.Text.Characters
import ScriptStyle.Yaml.Read
import ScriptStyle.Settings.Schema

/-!
# Settings in YAML

The values of settings are taken generously: a switch may be said in several words, a number may be
written in several bases and in quotes, and an empty value stands for an empty section or list. A
mapping must not have the same key twice. The key of a merge brings in the members of other
mappings that the mapping does not have itself.
-/

namespace ScriptStyle

namespace Yaml

/-- A text without white space around it. -/
def trimmed (t : Text) : Text :=
  ((t.dropWhile Characters.isWhiteSpace).reverse.dropWhile Characters.isWhiteSpace).reverse

/-- A switch. -/
def Node.flag? (n : Node) : Option Bool := do
  let t := (trimmed (← n.text?)).map (·.toLower)
  if ["true", "yes", "y", "on"].any (·.toList = t) then some true
  else if ["false", "no", "n", "off"].any (·.toList = t) then some false
  else none

/-- The base of a number and its digits. -/
def baseOf : Text → Nat × Text
  | '0' :: c :: cs =>
    if c.toLower = 'x' then (16, cs)
    else if c.toLower = 'o' then (8, cs)
    else if c.toLower = 'b' then (2, cs)
    else (10, '0' :: c :: cs)
  | t => (10, t)

/-- A natural number of 64 bits. Underscores between its digits do not count. -/
def Node.natural? (n : Node) : Option Nat := do
  let t := trimmed (← n.text?)
  let t := match t with
    | '+' :: r => r
    | r => r
  let (base, digits) := baseOf t
  let values ← (digits.filter (· != '_')).mapM hexValue?
  guard (!values.isEmpty && values.all (· < base))
  let n := values.foldl (fun n d => base * n + d) 0
  guard (n < UInt64.size)
  some n

/-- A text, which must not be a null or say that it is something else. -/
def Node.someText? : Node → Option Text
  | .scalar style tag value =>
    let other := ["!!int", "!!float", "!!bool", "!!null", "!!seq", "!!map", "!!timestamp"]
    if Node.isNull (.scalar style tag value) || other.any (·.toList = tag) then none else some value
  | _ => none

/-- A text or nothing. -/
def Node.optionalText? (n : Node) : Option (Option Text) :=
  match n with
  | .scalar .block _ [] => some none
  | n => if n.isNull then some none else n.someText?.map some

/-- A list of texts. -/
def Node.texts? : Node → Option (List Text)
  | .sequence items => items.mapM Node.someText?
  | n => if n.isNull then some [] else none

/-- The members of a mapping that a merge brings in. -/
def Node.mergedMembers? : Node → Option (List (Node × Node))
  | .mapping members => some members
  | .sequence items =>
    items.foldlM (fun ms n => match n with
      | .mapping members => some (ms ++ members)
      | _ => none) []
  | _ => none

/-- The key of a merge. -/
def Node.isMergeKey : Node → Bool
  | .scalar .plain _ value => value = ['<', '<']
  | _ => false

/-- The members of a mapping with a text as key, merges carried out. No key may be there twice. -/
def members? (members : List (Node × Node)) : Option (List (Text × Node)) := do
  let own := members.filter (!·.1.isMergeKey)
  let own ← own.mapM fun (k, v) => k.text?.map (·, v)
  guard (own.map (·.1)).Nodup
  let merged ← (members.filter (·.1.isMergeKey)).mapM (·.2.mergedMembers?)
  let merged ← merged.flatten.mapM fun (k, v) => k.text?.map (·, v)
  some (merged.foldl (fun ms m => if ms.any (·.1 = m.1) then ms else ms ++ [m]) own)

end Yaml

namespace Settings

/-- A record: its members in any order, unknown ones passed over. -/
def yamlRecord {σ ρ : Type} (read : ρ → Yaml.Node → Option (σ → σ)) (slots : List (String × ρ))
    (initial : σ) : Yaml.Node → Option σ
  | .mapping members => do
    (← Yaml.members? members).foldlM (fun s (k, v) =>
      match slots.find? (·.1.toList = k) with
      | some (_, slot) => (read slot v).map fun f => f s
      | none => some s) initial
  | n => if n.isNull then some initial else none

/-- The value of a slot. -/
def yamlSlot {σ : Type} (slot : Slot σ) (n : Yaml.Node) : Option (σ → σ) :=
  match slot with
  | .flag set => n.flag?.map set
  | .texts set => n.texts?.map set
  | .text set => n.optionalText?.map set

/-- The value of a part. -/
def yamlPart (part : Part) (n : Yaml.Node) : Option (Settings → Settings) :=
  match part with
  | .checkers => (yamlRecord yamlSlot checkerSlots {} n).map fun v s => { s with checkers := v }
  | .maxCodeLines => n.natural?.map fun v s => { s with maxCodeLines := v }
  | .spacesStyle =>
    (yamlRecord yamlSlot spacesSlots {} n).map fun v s => { s with spacesStyle := v }
  | .namingPatterns =>
    (yamlRecord yamlSlot namingSlots {} n).map fun v s => { s with namingPatterns := v }

/-- The settings that a text holds. -/
def ofYaml? (t : Text) : Option Settings :=
  (Yaml.Node.ofText? t).bind (yamlRecord yamlPart parts Settings.default)

end Settings

end ScriptStyle
