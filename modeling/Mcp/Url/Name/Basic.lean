import Mcp.Url.Name.Direction
import Mcp.Url.Name.Joining
import Mcp.Url.Name.Label
import Mcp.Url.Name.Mapping

/-!
Domain names. A name is put into the form in which all its spellings agree, its labels are checked,
and those that hold more than ASCII are encoded.
-/

namespace Mcp.Url

def isForbiddenInDomain (c : Char) : Bool :=
  c.toNat < 0x21 || c = '\x7f' ||
    ['%', '#', '/', ':', '<', '>', '?', '@', '[', '\\', ']', '^', '|'].contains c

def isAscii (cs : List Char) : Bool := cs.all fun c => c.toNat < 0x80

/-- The characters of a name in the form in which all its spellings agree. -/
def settle? (cs : List Char) : Option (List Char) :=
  (cs.mapM standing?).map fun texts =>
    let settled := texts.flatten
    if isAscii settled then settled else Text.composed settled

/-- What an encoded label of so many characters at most can stand for: not for ASCII alone, and only
for what settling leaves as it is. -/
def standsForLabel? (encoded : List Char) : Option (List Char) :=
  if 2000 < encoded.length || encoded.getLast? = some '-' then none
  else
    (decodeLabel? encoded).filter fun cs =>
      !isAscii cs && cs.all isSettled && Text.composed cs = cs

def readLabel? (label : List Char) : Option (List Char) :=
  match label with
  | 'x' :: 'n' :: '-' :: '-' :: encoded => if isAscii label then standsForLabel? encoded else none
  | _ => some label

/-- Whether a label that has been read may stand in a name. -/
def isLabel (label : List Char) : Bool :=
  isAscii label || (label.length ≤ 1000 && !startsWithMark label && joinersFit [] label)

def writeLabel (label : List Char) : List Char :=
  if isAscii label then label else ['x', 'n', '-', '-'] ++ encodeLabel label

/-- A domain name in ASCII, with letters in lower case. -/
def asciiName? (cs : List Char) : Option (List Char) := do
  let settled ← settle? cs
  if settled.any isForbiddenInDomain then none
  else
    let labels ← (Text.splitBy (· = '.') settled).mapM readLabel?
    if labels.all isLabel && (labels.all isAscii || runTheirWays labels) then
      some (List.intercalate ['.'] (labels.map writeLabel))
    else none

end Mcp.Url
