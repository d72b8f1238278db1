import Mcp.Text.Printable

/-!
Texts in double quotes inside messages: a quote, a backslash and the common controls are written
with a backslash, other characters that cannot be shown by their number in braces.
-/

namespace Mcp.Text

/-- A character by its number: a backslash, a `u`, and lower-case hexadecimal digits in braces. -/
def byNumber (c : Char) : List Char :=
  ['\\', 'u', '\x7b'] ++ Nat.toDigits 16 c.toNat ++ ['\x7d']

/-- A character as it stands between double quotes. -/
def quoteChar (c : Char) : List Char :=
  if c = '\x22' then ['\\', c]
  else if c = '\\' then ['\\', c]
  else if c = '\n' then ['\\', 'n']
  else if c = '\r' then ['\\', 'r']
  else if c = '\t' then ['\\', 't']
  else if c = '\x00' then ['\\', '0']
  else if isPrintable c then [c]
  else byNumber c

def quoted (s : String) : String :=
  String.ofList ('\x22' :: s.toList.flatMap quoteChar ++ ['\x22'])

/-- A list of texts in double quotes, in brackets and separated by commas. -/
def quotedList (items : List String) : String :=
  "[" ++ ", ".intercalate (items.map quoted) ++ "]"

end Mcp.Text
