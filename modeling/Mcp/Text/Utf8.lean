/-!
UTF-8: the bytes of a text, and the text of any bytes, where each maximal piece of bytes that
starts no character, or starts one and does not finish it, reads as one U+FFFD.
-/

namespace Mcp.Text

def replacement : Char := '\uFFFD'

/-- Whether a byte continues a character. -/
def isContinuation (b : UInt8) : Bool := 0x80 ≤ b && b ≤ 0xBF

/-- How many bytes follow a first byte; `none` for a byte that starts no character of several. -/
def following (lead : UInt8) : Option Nat :=
  if 0xC2 ≤ lead && lead ≤ 0xDF then some 1
  else if 0xE0 ≤ lead && lead ≤ 0xEF then some 2
  else if 0xF0 ≤ lead && lead ≤ 0xF4 then some 3
  else none

/-- Whether `b` may come second after `lead`: no overlong form, no surrogate, nothing above
U+10FFFF. -/
def maySecond (lead b : UInt8) : Bool :=
  if lead == 0xE0 then 0xA0 ≤ b && b ≤ 0xBF
  else if lead == 0xED then 0x80 ≤ b && b ≤ 0x9F
  else if lead == 0xF0 then 0x90 ≤ b && b ≤ 0xBF
  else if lead == 0xF4 then 0x80 ≤ b && b ≤ 0x8F
  else isContinuation b

/-- The character whose bits are the payloads of a first byte and of those that follow it. -/
def assemble (lead : UInt8) (rest : List UInt8) : Char :=
  let mask := if rest.length = 1 then 32 else if rest.length = 2 then 16 else 8
  Char.ofNat (rest.foldl (fun n b => n * 64 + b.toNat % 64) (lead.toNat % mask))

/-- What has been read of a character that is not complete. -/
inductive Unfinished where
  /-- Nothing: the next byte starts a character. -/
  | nothing
  /-- A first byte, `missing + 1` bytes to come, and the bytes after the first so far. -/
  | after (lead : UInt8) (missing : Nat) (seen : List UInt8)
  deriving Repr, DecidableEq

/-- Reads a byte that starts a character. -/
def first (b : UInt8) : Unfinished × List Char :=
  if b < 0x80 then (.nothing, [Char.ofNat b.toNat])
  else
    match following b with
    | some (missing + 1) => (.after b missing [], [])
    | _ => (.nothing, [replacement])

/-- Reads one byte: what is unfinished after it, and the characters that it settles. -/
def Unfinished.next : Unfinished → UInt8 → Unfinished × List Char
  | .nothing, b => first b
  | .after lead missing seen, b =>
    if (if seen.isEmpty then maySecond lead b else isContinuation b) then
      match missing with
      | 0 => (.nothing, [assemble lead (seen ++ [b])])
      | missing + 1 => (.after lead missing (seen ++ [b]), [])
    else
      let (state, out) := first b
      (state, replacement :: out)

/-- The characters that the end of the bytes settles. -/
def Unfinished.flush : Unfinished → List Char
  | .nothing => []
  | .after .. => [replacement]

/-- The characters of a byte sequence read after what is unfinished. -/
def decodeFrom : Unfinished → List UInt8 → List Char
  | state, [] => state.flush
  | state, b :: rest => (state.next b).2 ++ decodeFrom (state.next b).1 rest

/-- The characters of a byte sequence, with U+FFFD for what is no text. -/
def decode (bytes : List UInt8) : List Char := decodeFrom .nothing bytes

/-- The text of a byte sequence, with U+FFFD for what is no text. -/
def decodeText (bytes : List UInt8) : String := String.ofList (decode bytes)

def encode (s : String) : List UInt8 := s.toUTF8.toList

/-- Whether a byte sequence is text as it stands: decoding it and encoding the result gives it
back. -/
def isText (bytes : List UInt8) : Bool := encode (decodeText bytes) == bytes

end Mcp.Text
