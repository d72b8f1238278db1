import Mcp.Url.Name.Basic
import Mcp.Url.Percent

/-!
Hosts of URLs: names, IPv4 and IPv6 addresses, and how each is read and written.
-/

namespace Mcp.Url

/-- Why a text is no URL. -/
inductive Error where
  | emptyHost
  | internationalName
  | port
  | ipv4
  | ipv6
  | domainCharacter
  | relativeWithoutBase
  | relativeToOpaqueBase
  deriving DecidableEq, Repr

def Error.message : Error → String
  | .emptyHost => "empty host"
  | .internationalName => "invalid international domain name"
  | .port => "invalid port number"
  | .ipv4 => "invalid IPv4 address"
  | .ipv6 => "invalid IPv6 address"
  | .domainCharacter => "invalid domain character"
  | .relativeWithoutBase => "relative URL without a base"
  | .relativeToOpaqueBase => "relative URL with a cannot-be-a-base base"

inductive Host where
  | name (text : String)
  | ipv4 (address : Nat)
  | ipv6 (pieces : List Nat)
  deriving DecidableEq, Repr

/-! ### IPv4 -/

def digits? (base : Nat) (cs : List Char) : Option Nat :=
  cs.foldlM
    (fun n c => (hexValue? c).bind fun d => if d < base then some (n * base + d) else none) 0

/-- A part of an IPv4 address: decimal, octal behind a zero, hexadecimal behind `0x`. -/
def ipv4Part? : List Char → Option Nat
  | [] => none
  | '0' :: 'x' :: rest => if rest.isEmpty then some 0 else digits? 16 rest
  | '0' :: 'X' :: rest => if rest.isEmpty then some 0 else digits? 16 rest
  | ['0'] => some 0
  | '0' :: rest => digits? 8 rest
  | cs => digits? 10 cs

/-- The pieces of a text between separators. -/
def splitAt (separator : Char) (cs : List Char) : List (List Char) :=
  Text.splitBy (· = separator) cs

/-- Whether the last part of a name is a number, so that the name must be an IPv4 address. -/
def endsInNumber (cs : List Char) : Bool :=
  let parts := (splitAt '.' cs).reverse
  let last :=
    match parts with
    | [] :: part :: _ => some part
    | [[]] => none
    | part :: _ => some part
    | [] => none
  match last with
  | none => false
  | some part => (!part.isEmpty && part.all Char.isDigit) || (ipv4Part? part).isSome

/-- Reads an IPv4 address of at most four parts, the last of which fills what is left. -/
def ipv4? (cs : List Char) : Option Nat := do
  let parts := splitAt '.' cs
  let parts := if parts.getLast? = some [] then parts.dropLast else parts
  if 4 < parts.length then none
  let numbers ← parts.mapM ipv4Part?
  let last ← numbers.getLast?
  let front := numbers.dropLast
  if Nat.pow 2 (8 * (4 - front.length)) ≤ last then none
  if front.any (255 < ·) then none
  let weighted := front.zipIdx.map fun (n, i) => n * Nat.pow 2 (8 * (3 - i))
  some (weighted.foldl (· + ·) last)

def writeIpv4 (address : Nat) : String :=
  ".".intercalate ([24, 16, 8, 0].map fun shift => toString (address / Nat.pow 2 shift % 256))

/-! ### IPv6 -/

/-- Reads an IPv4 address at the end of an IPv6 address: four decimal numbers without zeros in
front. -/
def embeddedIpv4? (cs : List Char) : Option (List Nat) := do
  let parts := splitAt '.' cs
  let numbers ← parts.mapM fun part =>
    match part with
    | [] => none
    | '0' :: _ :: _ => none
    | part => if 3 < part.length then none else digits? 10 part
  match numbers with
  | [a, b, c, d] =>
    if numbers.all (· ≤ 255) then some [a * 256 + b, c * 256 + d] else none
  | _ => none

/-- The 16-bit pieces between colons; the last one may be an IPv4 address. -/
def ipv6Pieces? (cs : List Char) (last : Bool) : Option (List Nat) :=
  if cs.isEmpty then some []
  else
    let parts := splitAt ':' cs
    (parts.zipIdx.mapM fun ((part, i) : List Char × Nat) =>
      if last && i + 1 = parts.length && part.contains '.' then embeddedIpv4? part
      else if part.isEmpty || 4 < part.length then none
      else (digits? 16 part).map fun n => [n]).map List.flatten

/-- The text before and behind the first pair of colons. -/
def splitDouble : List Char → Option (List Char × List Char)
  | ':' :: ':' :: rest => some ([], rest)
  | c :: rest => (splitDouble rest).map fun (a, b) => (c :: a, b)
  | [] => none

/-- Reads an IPv6 address: eight pieces, or fewer around one pair of colons. -/
def ipv6? (cs : List Char) : Option (List Nat) :=
  match splitDouble cs with
  | none => do
    let pieces ← ipv6Pieces? cs true
    if pieces.length = 8 then some pieces else none
  | some (front, back) => do
    let before ← ipv6Pieces? front false
    let after ← ipv6Pieces? back true
    let count := before.length + after.length
    if count ≤ 7 then some (before ++ List.replicate (8 - count) 0 ++ after) else none

/-- The longest run of zero pieces from a place on: its start and length. -/
def longestZeros (pieces : List Nat) : Nat × Nat :=
  let runs := pieces.zipIdx.map fun (_, i) => (i, ((pieces.drop i).takeWhile (· = 0)).length)
  runs.foldl (fun best run => if best.2 < run.2 then run else best) (0, 0)

def writePieces (pieces : List Nat) : String :=
  ":".intercalate (pieces.map fun n => String.ofList (Nat.toDigits 16 n))

/-- Writes an IPv6 address; the first longest run of two or more zero pieces is left out. -/
def writeIpv6 (pieces : List Nat) : String :=
  let (start, length) := longestZeros pieces
  if length < 2 then writePieces pieces
  else writePieces (pieces.take start) ++ "::" ++ writePieces (pieces.drop (start + length))

/-! ### Hosts -/

def isForbiddenInHost (c : Char) : Bool :=
  ['\x00', '\t', '\n', '\r', ' ', '#', '/', ':', '<', '>', '?', '@', '[', '\\', ']', '^',
    '|'].contains c

/-- Reads what stands between brackets. -/
def bracketed (cs : List Char) : Except Error Host :=
  if cs.getLast? = some ']' then
    match ipv6? (cs.drop 1).dropLast with
    | some pieces => .ok (.ipv6 pieces)
    | none => .error .ipv6
  else .error .ipv6

def Host.ofSpecial (cs : List Char) : Except Error Host :=
  if cs.head? = some '[' then bracketed cs
  else
    match asciiName? (Text.decode (percentDecode cs)) with
    | none => .error .internationalName
    | some domain =>
      if domain.isEmpty then .error .emptyHost
      else if endsInNumber domain then
        match ipv4? domain with
        | some address => .ok (.ipv4 address)
        | none => .error .ipv4
      else .ok (.name (String.ofList domain))

def Host.ofOther (cs : List Char) : Except Error Host :=
  if cs.head? = some '[' then bracketed cs
  else if cs.any isForbiddenInHost then .error .domainCharacter
  else .ok (.name (String.ofList (percentEncode isControl cs)))

def Host.write : Host → String
  | .name text => text
  | .ipv4 address => writeIpv4 address
  | .ipv6 pieces => "[" ++ writeIpv6 pieces ++ "]"

end Mcp.Url
