import Mcp.Yaml.Lexer.Basic
import Mcp.Text.Utf8

/-!
What stands before a node or before a document: names, tags and directives. The text of a tag is a
URI, in which bytes may be written as a percent sign and two hexadecimal digits.
-/

namespace Mcp.Yaml.Lexer

/-! ### Names -/

/-- A name behind a mark, with nothing but a blank or an indicator after it. -/
def name (make : String → Token) (l : Lexer) : Option Lexer := do
  let l ← l.saveCandidate
  let l := l.advance
  let name := l.rest.takeWhile isNameChar
  let after := skip name.length { l with keyAllowed := false }
  let ends := blankNext after.rest ||
    after.rest.head?.any fun c => ['?', ':', ',', ']', '\x7d', '%', '@', '\x60'].contains c
  if name.isEmpty || !ends then none else some (after.emit (make (String.ofList name)))

/-! ### URIs -/

/-- The characters of a URI. Only between angle brackets and in directives, `marks` holds and the
comma and square brackets belong to it. -/
def isUriChar (marks : Bool) (c : Char) : Bool :=
  isNameChar c || [';', '/', '?', ':', '@', '&', '=', '+', '$', '.', '!', '~', '*', '\x27', '(',
    ')'].contains c || marks && [',', '[', ']'].contains c

/-- The byte that a percent sign and two digits stand for. -/
def escapedByte? : List Char → Option UInt8
  | '%' :: a :: b :: _ => (hexNumber? [a, b]).map UInt8.ofNat
  | _ => none

/-- How many bytes follow the first one of a character. -/
def continuations? (lead : UInt8) : Option Nat :=
  if lead < 0x80 then some 0
  else if 0xC0 ≤ lead && lead < 0xE0 then some 1
  else if 0xE0 ≤ lead && lead < 0xF0 then some 2
  else if 0xF0 ≤ lead && lead < 0xF8 then some 3
  else none

/-- Bytes that go on with a character, so many of them, behind some others, last first. -/
def escapedRest : Nat → List UInt8 → Lexer → Option (List UInt8 × Lexer)
  | 0, acc, l => some (acc, l)
  | n + 1, acc, l => do
    let b ← escapedByte? l.rest
    if Text.isContinuation b then escapedRest n (b :: acc) (skip 3 l) else none

/-- The bytes of a URI behind some others, last first. A character whose first byte is escaped must
have all its bytes escaped. -/
def uriRun (marks : Bool) : Nat → List UInt8 → Lexer → Option (List UInt8 × Lexer)
  | 0, acc, l => some (acc, l)
  | fuel + 1, acc, l =>
    match l.rest with
    | [] => some (acc, l)
    | c :: _ =>
      if c = '%' then do
        let lead ← escapedByte? l.rest
        let (acc, l) ← escapedRest (← continuations? lead) (lead :: acc) (skip 3 l)
        uriRun marks fuel acc l
      else if isUriChar marks c then uriRun marks fuel (UInt8.ofNat c.toNat :: acc) l.advance
      else some (acc, l)

def uri (marks : Bool) (l : Lexer) : Option (List UInt8 × Lexer) := do
  let (bytes, l) ← uriRun marks l.fuel [] l
  if bytes.isEmpty then none else some (bytes.reverse, l)

/-- The bytes before the first zero, behind which nothing of a tag counts. -/
def beforeZero (bytes : List UInt8) : List UInt8 := bytes.takeWhile (· ≠ 0)

/-! ### Tags -/

/-- The name between two exclamation marks that stands here. -/
def handleName? (cs : List Char) : Option (List Char) :=
  match cs with
  | '!' :: rest =>
    let name := rest.takeWhile isNameChar
    if (rest.drop name.length).head? = some '!' then some name else none
  | _ => none

def handle (name : List Char) : String := "!" ++ String.ofList name ++ "!"

/-- A tag: in angle brackets, behind a handle, or behind an exclamation mark that may stand
alone. -/
def tagToken (l : Lexer) : Option (Token × Lexer) :=
  if l.rest.take 2 = ['!', '<'] then do
    let (bytes, l) ← (skip 2 l).uri true
    if l.rest.head? = some '>' then some (.tag "" (beforeZero bytes), l.advance) else none
  else
    match handleName? l.rest with
    | some name => do
      let (bytes, l) ← (skip (name.length + 2) l).uri false
      some (.tag (handle name) (beforeZero bytes), l)
    | none => do
      let (bytes, l) ← uriRun false l.fuel [] l.advance
      let suffix := beforeZero bytes.reverse
      some (if suffix.isEmpty then .tag "" (Text.encode "!") else .tag "!" suffix, l)

/-- A tag with nothing but a blank after it, or a comma in a flow collection. -/
def tag (l : Lexer) : Option Lexer := do
  let l ← l.saveCandidate
  let (token, l) ← tagToken { l with keyAllowed := false }
  if blankNext l.rest || (l.inFlow && l.rest.head? = some ',') then some (l.emit token) else none

/-! ### Directives -/

/-- A number of at most nine digits. -/
def versionPart (l : Lexer) : Option (Nat × Lexer) :=
  let digits := l.rest.takeWhile Char.isDigit
  if digits.isEmpty || 9 < digits.length then none
  else some (digits.foldl (fun n c => n * 10 + (c.toNat - 48)) 0, skip digits.length l)

def version (l : Lexer) : Option (Token × Lexer) := do
  let (major, l) ← (l.skipWhile isSpaceOrTab).versionPart
  if l.rest.head? = some '.' then
    let (minor, l) ← l.advance.versionPart
    if major = 1 && (minor = 1 || minor = 2) then some (.versionDirective, l) else none
  else none

/-- What a handle stands for, or an exclamation mark alone. -/
def handleMeaning (l : Lexer) : Option (Token × Lexer) := do
  let l := l.skipWhile isSpaceOrTab
  let (handle, l) ←
    match handleName? l.rest, l.rest with
    | some name, _ => some (handle name, skip (name.length + 2) l)
    | none, '!' :: _ => some ("!", l.advance)
    | none, _ => none
  if l.rest.head?.any isSpaceOrTab then
    let (bytes, l) ← (l.skipWhile isSpaceOrTab).uri true
    if blankNext l.rest then some (.tagDirective handle (beforeZero bytes), l) else none
  else none

/-- A directive, which ends its line. -/
def directive (l : Lexer) : Option Lexer := do
  let l ← l.closeAllBlocks.dropCandidate
  let l := { l.advance with keyAllowed := false }
  let name := l.rest.takeWhile isNameChar
  let l := skip name.length l
  if blankNext l.rest then
    let (token, l) ←
      if name = "YAML".toList then l.version
      else if name = "TAG".toList then l.handleMeaning
      else none
    (l.emit token).endLine
  else none

end Mcp.Yaml.Lexer
