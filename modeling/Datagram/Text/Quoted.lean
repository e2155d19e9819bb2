import Datagram.Text.Unprintable

/-!
# Quoted text

`quoted` writes a text between double quotes. The quote and the backslash get a backslash, NUL,
tab, line feed and carriage return their letter, and every other character that is not printable
its code point in hexadecimal between braces. A single quote stands for itself.
-/

namespace Datagram.Text

def escapeChar (c : Char) : List Char :=
  if c = '"' then ['\\', '"']
  else if c = '\\' then ['\\', '\\']
  else if c = '\n' then ['\\', 'n']
  else if c = '\r' then ['\\', 'r']
  else if c = '\t' then ['\\', 't']
  else if c = '\x00' then ['\\', '0']
  else if isPrintable c then [c]
  else ['\\', 'u', '\x7b'] ++ Nat.toDigits 16 c.toNat ++ ['\x7d']

def quoted (text : String) : String :=
  "\"" ++ String.ofList (text.toList.flatMap escapeChar) ++ "\""

end Datagram.Text
