import Mcp.Text.Utf8

/-!
Percent-encoding: which characters each part of a URL writes as bytes, and reading such bytes.
-/

namespace Mcp.Url

def hexDigit (n : Nat) : Char := if n < 10 then Char.ofNat (48 + n) else Char.ofNat (55 + n)

/-- A byte as `%` and two upper-case hexadecimal digits. -/
def encodeByte (b : UInt8) : List Char :=
  ['%', hexDigit (b.toNat / 16), hexDigit (b.toNat % 16)]

/-- Controls and everything outside ASCII, which no part of a URL shows as it is. -/
def isControl (c : Char) : Bool := c.toNat < 0x20 || 0x7E < c.toNat

def fragmentSet (c : Char) : Bool :=
  isControl c || [' ', '\x22', '<', '>', '\x60'].contains c

def pathSet (c : Char) : Bool := fragmentSet c || ['#', '?', '\x7b', '\x7d'].contains c

def userinfoSet (c : Char) : Bool :=
  pathSet c || ['/', ':', ';', '=', '@', '[', '\\', ']', '^', '|'].contains c

def querySet (c : Char) : Bool := isControl c || [' ', '\x22', '#', '<', '>'].contains c

def specialQuerySet (c : Char) : Bool := querySet c || c = '\x27'

def percentEncode (set : Char → Bool) (cs : List Char) : List Char :=
  cs.flatMap fun c => if set c then (Text.encode c.toString).flatMap encodeByte else [c]

def hexValue? (c : Char) : Option Nat :=
  if '0' ≤ c ∧ c ≤ '9' then some (c.toNat - 48)
  else if 'a' ≤ c ∧ c ≤ 'f' then some (c.toNat - 87)
  else if 'A' ≤ c ∧ c ≤ 'F' then some (c.toNat - 55)
  else none

/-- The bytes of a text in which `%` and two hexadecimal digits stand for one. -/
def percentDecode : List Char → List UInt8
  | '%' :: a :: b :: rest =>
    match hexValue? a, hexValue? b with
    | some x, some y => UInt8.ofNat (x * 16 + y) :: percentDecode rest
    | _, _ => 0x25 :: percentDecode (a :: b :: rest)
  | c :: rest => Text.encode c.toString ++ percentDecode rest
  | [] => []
  termination_by cs => cs.length

end Mcp.Url
