import EchoProbe.Text.Unprintable

/-!
# Quoted text

`quoted` writes a text between double quotes so that every character of it can be told apart: the
quote and the backslash get a backslash before them, four controls have a letter of their own, and
a character that is not shown as it is (`isUnprintable`) is spelled by its code in braces.
-/

namespace EchoProbe

/-- A character as it stands in a quoted text. -/
def quotedChar (c : Char) : List Char :=
  if c = '\x00' then ['\\', '0']
  else if c = '\t' then ['\\', 't']
  else if c = '\r' then ['\\', 'r']
  else if c = '\n' then ['\\', 'n']
  else if c = '"' ∨ c = '\\' then ['\\', c]
  else if isUnprintable c then ['\\', 'u', '\x7b'] ++ Nat.toDigits 16 c.toNat ++ ['\x7d']
  else [c]

/-- A text between double quotes. -/
def quoted (s : String) : String :=
  String.ofList ('"' :: s.toList.flatMap quotedChar ++ ['"'])

end EchoProbe
