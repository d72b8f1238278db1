import Mcp.Url.Percent
import Mcp.Url.Scheme

/-!
Paths of URLs as they are read: a text to which one segment after another is added. A segment of
two dots takes the last one away, except that the letter of a drive stays where it is.
-/

namespace Mcp.Url

/-- The characters that are dropped wherever they stand in a URL. -/
def isDropped (c : Char) : Bool := c = '\t' || c = '\n' || c = '\r'

def visible (cs : List Char) : List Char := cs.filter fun c => !isDropped c

/-- Whether a character parts segments. -/
def isSlash (special : Bool) (c : Char) : Bool := c = '/' || (special && c = '\\')

/-! ### Segments -/

def isSingleDot (s : List Char) : Bool :=
  [".", "%2e"].contains (String.ofList (s.map Char.toLower))

def isDoubleDot (s : List Char) : Bool :=
  ["..", ".%2e", "%2e.", "%2e%2e"].contains (String.ofList (s.map Char.toLower))

/-- The letter of a drive with its mark. -/
def isDrive : List Char → Bool
  | [a, b] => a.isAlpha && (b = ':' || b = '|')
  | _ => false

/-- The letter of a drive with the mark that it has in a finished path. -/
def isPlainDrive (s : List Char) : Bool := isDrive s && s.getLast? = some ':'

/-- Whether a drive stands at the start of a text, with nothing or the end of a segment after
it. -/
def startsWithDrive (cs : List Char) : Bool :=
  isDrive (cs.take 2) && (cs.drop 2).head?.all fun c => ['/', '\\', '?', '#'].contains c

/-- The segments of a text, each with whether a slash ends it. -/
def cutSegments (special : Bool) : List Char → List (List Char × Bool)
  | [] => [([], false)]
  | c :: rest =>
    if isSlash special c then ([], true) :: cutSegments special rest
    else
      match cutSegments special rest with
      | (segment, ended) :: more => (c :: segment, ended) :: more
      | [] => [([c], false)]

/-- A drive that a dropped character parts from more that stands in its segment, and this. -/
def partedDrive? (segment : List Char) : Option (List Char × List Char) :=
  let letter := segment.dropWhile isDropped
  let mark := (letter.drop 1).dropWhile isDropped
  let rest := visible (mark.drop 1)
  let drive := letter.take 1 ++ mark.take 1
  if isPlainDrive drive && (mark.drop 1).head?.any isDropped && !rest.isEmpty then
    some (drive, rest)
  else none

/-! ### Taking segments away -/

/-- What stands behind the last slash of a path. -/
def lastSegment (path : List Char) : List Char := (path.reverse.takeWhile (· ≠ '/')).reverse

/-- The path without its last segment; a file's path keeps a drive. -/
def dropSegment (file : Bool) (path : List Char) : List Char :=
  let last := lastSegment path
  if file && isPlainDrive last then path else path.take (path.length - last.length)

/-- Whether the slash at the end of a path may go: it is neither the first one nor the one behind a
drive. -/
def endsWithSpareSlash (path : List Char) : Bool :=
  let front := path.dropLast
  path.getLast? = some '/' && front.contains '/' && !startsWithDrive (lastSegment front ++ ['/'])

/-- The path that a segment of two dots makes. -/
def goUp (file ended : Bool) (path : List Char) : List Char :=
  let path := dropSegment file (if endsWithSpareSlash path then path.dropLast else path)
  if ended && path.getLast? ≠ some '/' then path ++ ['/'] else path

/-! ### Adding segments -/

/-- A path that is being read. -/
structure Draft where
  text : List Char
  /-- Whether the path starts with the drive of a file. -/
  hasDrive : Bool

/-- Adds a segment. In a file's path nothing follows a drive but a slash, and a drive at its start
is written with a colon. -/
def Draft.add (file : Bool) (d : Draft) (segment : List Char × Bool) : Draft :=
  let (raw, ended) := segment
  let slash := if ended then ['/'] else []
  let text := visible raw
  let path :=
    if file && !text.isEmpty && isPlainDrive (d.text.drop 1) then d.text ++ ['/'] else d.text
  if isDoubleDot text then { d with text := goUp file ended path }
  else if isSingleDot text then
    { d with text := if path.getLast? = some '/' then path else path ++ ['/'] }
  else if file && path.length = 1 && isDrive text then
    ⟨path ++ text.take 1 ++ [':'] ++ slash, true⟩
  else
    let written :=
      match partedDrive? raw with
      | some (drive, rest) =>
        if file && path.length = 1 then drive ++ ['/'] ++ percentEncode pathSet rest
        else percentEncode pathSet text
      | none => percentEncode pathSet text
    { d with text := path ++ written ++ slash }

/-- The path that a text makes of the path before it, and whether it starts with a drive. Of the
slashes at the start of a file's path one is kept. -/
def readPath (scheme : String) (start cs : List Char) : List Char × Bool :=
  let file := scheme = "file"
  let d := (cutSegments (isSpecial scheme) cs).foldl (Draft.add file) ⟨start, false⟩
  (if file then '/' :: d.text.dropWhile (· = '/') else d.text, d.hasDrive)

end Mcp.Url
