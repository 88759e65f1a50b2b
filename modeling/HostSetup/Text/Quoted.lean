import HostSetup.Text.QuotedTable

/-!
Texts in double quotes, as messages show them: quotes and backslashes are escaped, and what cannot
be seen is shown by its number.
-/
namespace HostSetup.Text
namespace Quoted

def hexDigits (n : Nat) : List Char := Nat.toDigits 16 n

def escape (c : Char) : List Char :=
  if c = '\x00' then ['\\', '0']
  else if c = '\t' then ['\\', 't']
  else if c = '\r' then ['\\', 'r']
  else if c = '\n' then ['\\', 'n']
  else if c = '\\' then ['\\', '\\']
  else if c = '"' then ['\\', '"']
  else if extending.holds c || unprintable.holds c then
    ['\\', 'u', '{'] ++ hexDigits c.toNat ++ ['}']
  else [c]

end Quoted

def quoted (s : String) : String := .ofList ('"' :: s.toList.flatMap Quoted.escape ++ ['"'])

example : quoted "a\t\"q\"\x7f" = "\"a\\t\\\"q\\\"\\u{7f}\"" := by decide +kernel

end HostSetup.Text
