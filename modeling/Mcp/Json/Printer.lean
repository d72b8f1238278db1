import Mcp.Decimal.Shortest
import Mcp.Json.Basic

/-!
The text of JSON values, compact and indented. Members are written in the order in which they
stand.
-/

namespace Mcp.Json

/-- Numbers are written with the fewest digits that identify them, positionally for decimal
exponents from -5 to 15; a whole number keeps a `.0`, and an exponent has a sign. -/
def numberLayout : Decimal.Layout := ⟨-5, 15, ".0", "e+", "e-"⟩

def Number.write : Number → String
  | .int n => toString n
  | .real x => numberLayout.write x

/-- The hexadecimal digits of a byte, two of them and lower-case. -/
def hexByte (n : Nat) : List Char := [Nat.digitChar (n / 16 % 16), Nat.digitChar (n % 16)]

/-- A character as it stands in a JSON string: quote, backslash and controls are escaped, nothing
else. -/
def escapeChar (c : Char) : List Char :=
  if c = '\x22' then ['\\', c]
  else if c = '\\' then ['\\', c]
  else if c = '\x08' then ['\\', 'b']
  else if c = '\x0c' then ['\\', 'f']
  else if c = '\n' then ['\\', 'n']
  else if c = '\r' then ['\\', 'r']
  else if c = '\t' then ['\\', 't']
  else if c.toNat < 0x20 then ['\\', 'u', '0', '0'] ++ hexByte c.toNat
  else [c]

def writeString (s : String) : List Char := '\x22' :: s.toList.flatMap escapeChar ++ ['\x22']

mutual

/-- The compact text of a value. -/
def write : Json → List Char
  | .null => ['n', 'u', 'l', 'l']
  | .bool true => ['t', 'r', 'u', 'e']
  | .bool false => ['f', 'a', 'l', 's', 'e']
  | .num n => n.write.toList
  | .str s => writeString s
  | .arr [] => ['[', ']']
  | .arr (v :: rest) => '[' :: (v.write ++ writeItems rest)
  | .obj [] => ['\x7b', '\x7d']
  | .obj ((k, v) :: rest) =>
    '\x7b' :: (writeString k ++ ':' :: (v.write ++ writeMembers rest))
termination_by structural v => v

/-- The items after the first one, each behind a comma, and the closing bracket. -/
def writeItems : List Json → List Char
  | [] => [']']
  | v :: rest => ',' :: (v.write ++ writeItems rest)
termination_by structural vs => vs

/-- The members after the first one, each behind a comma, and the closing brace. -/
def writeMembers : List (String × Json) → List Char
  | [] => ['\x7d']
  | (k, v) :: rest => ',' :: (writeString k ++ ':' :: (v.write ++ writeMembers rest))
termination_by structural ms => ms

end

/-- The compact text of a value. -/
def compact (v : Json) : String := String.ofList v.write

/-- A line break and two blanks for each level. -/
def lineAt (level : Nat) : List Char := '\n' :: List.replicate (2 * level) ' '

mutual

/-- The indented text of a value that stands `level` levels deep. -/
def writeIndented (level : Nat) : Json → List Char
  | .null => ['n', 'u', 'l', 'l']
  | .bool true => ['t', 'r', 'u', 'e']
  | .bool false => ['f', 'a', 'l', 's', 'e']
  | .num n => n.write.toList
  | .str s => writeString s
  | .arr [] => ['[', ']']
  | .arr (v :: rest) =>
    '[' :: (lineAt (level + 1) ++ v.writeIndented (level + 1) ++ indentedItems level rest)
  | .obj [] => ['\x7b', '\x7d']
  | .obj ((k, v) :: rest) =>
    '\x7b' :: (lineAt (level + 1) ++ writeString k ++ ':' :: ' ' ::
      (v.writeIndented (level + 1) ++ indentedMembers level rest))
termination_by structural v => v

def indentedItems (level : Nat) : List Json → List Char
  | [] => lineAt level ++ [']']
  | v :: rest =>
    ',' :: (lineAt (level + 1) ++ v.writeIndented (level + 1) ++ indentedItems level rest)
termination_by structural vs => vs

def indentedMembers (level : Nat) : List (String × Json) → List Char
  | [] => lineAt level ++ ['\x7d']
  | (k, v) :: rest =>
    ',' :: (lineAt (level + 1) ++ writeString k ++ ':' :: ' ' ::
      (v.writeIndented (level + 1) ++ indentedMembers level rest))
termination_by structural ms => ms

end

/-- The text of a value with two blanks for each level, one item or member to a line. -/
def pretty (v : Json) : String := String.ofList (v.writeIndented 0)

end Mcp.Json
