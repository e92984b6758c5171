import AccessGrants.Text.Invisible

/-!
Quoted text for diagnostics. The text stands between quotes; a quote and a
backslash inside it are escaped, the common controls have an escape of their
own, and every other character that would not be seen is given by its number
in hexadecimal between braces.
-/

namespace AccessGrants.Text

def escapeQuoted (c : Char) : List Char :=
  if c = '"' then ['\\', '"']
  else if c = '\\' then ['\\', '\\']
  else if c = '\t' then ['\\', 't']
  else if c = '\n' then ['\\', 'n']
  else if c = '\r' then ['\\', 'r']
  else if c.toNat = 0 then ['\\', '0']
  else if isInvisible c then ['\\', 'u', '{'] ++ Nat.toDigits 16 c.toNat ++ ['}']
  else [c]

def quoted (text : String) : String :=
  String.ofList ('"' :: text.toList.flatMap escapeQuoted ++ ['"'])

end AccessGrants.Text
