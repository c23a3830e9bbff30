import ScriptStyle.Text.Classes

/-!
# Quoted text in messages

A message shows a text in quotes and makes everything visible that is not: characters that leave no
mark and characters that combine with the one before are written as their code point.
-/

namespace ScriptStyle.Text

/-- The characters that combine with the one before. -/
def extenders : Runs := (Characters.property? "graphemeextend").getD []

/-- The character leaves a mark of its own. -/
def isVisible (c : Char) : Bool :=
  if c.toNat < 127 then 32 ≤ c.toNat
  else
    match Characters.category c with
    | ['C', _] | ['Z', _] => false
    | _ => !Characters.hasProperty extenders c

/-- A character between quotes. -/
def showChar (c : Char) : Text :=
  if c = '"' then ['\\', '"']
  else if c = '\\' then ['\\', '\\']
  else if c = '\n' then ['\\', 'n']
  else if c = '\r' then ['\\', 'r']
  else if c = '\t' then ['\\', 't']
  else if c.toNat = 0 then ['\\', '0']
  else if isVisible c then [c]
  else ['\\', 'u', .ofNat 123] ++ Nat.toDigits 16 c.toNat ++ [.ofNat 125]

/-- A text in quotes. -/
def showQuoted (t : Text) : Text := '"' :: (t.flatMap showChar ++ ['"'])

end ScriptStyle.Text
