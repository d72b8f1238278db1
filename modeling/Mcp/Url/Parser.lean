import Mcp.Url.Basic
import Mcp.Url.Path

/-!
Reading URLs, alone or relative to a base. White space and controls around the text are dropped;
scheme, authority, path, query and fragment are then read from left to right, and line breaks and
tabs inside them do not count.
-/

namespace Mcp.Url

/-- The text without blanks and controls around it. -/
def trimEdges (cs : List Char) : List Char :=
  let isEdge (c : Char) : Bool := c.toNat ≤ 0x20
  ((cs.dropWhile isEdge).reverse.dropWhile isEdge).reverse

/-- The first character that counts, and what stands behind it. -/
def next? (cs : List Char) : Option (Char × List Char) :=
  match cs.dropWhile isDropped with
  | [] => none
  | c :: rest => some (c, rest)

/-- What stands behind a character that must come first. -/
def behind? (c : Char) (cs : List Char) : Option (List Char) :=
  match next? cs with
  | some (d, rest) => if d = c then some rest else none
  | none => none

def behindSlashes? (cs : List Char) : Option (List Char) := (behind? '/' cs).bind (behind? '/')

/-- How many slashes of either kind a text starts with, and what stands behind them. -/
def cutSlashes (cs : List Char) : Nat × List Char :=
  let isPart (c : Char) : Bool := isSlash true c || isDropped c
  ((visible (cs.takeWhile isPart)).length, cs.dropWhile isPart)

/-- A scheme in lower case and what stands behind its colon. -/
def scheme? (cs : List Char) : Option (String × List Char) :=
  let isPart (c : Char) : Bool := isSchemeChar c || isDropped c
  let name := visible (cs.takeWhile isPart)
  match name, cs.dropWhile isPart with
  | c :: _, ':' :: rest =>
    if c.isAlpha then some (String.ofList (name.map Char.toLower), rest) else none
  | _, _ => none

/-! ### The parts behind the authority -/

/-- The text before a query or fragment, and the rest. -/
def cutPath (cs : List Char) : List Char × List Char :=
  (cs.takeWhile fun c => c ≠ '?' && c ≠ '#', cs.dropWhile fun c => c ≠ '?' && c ≠ '#')

def readFragment (cs : List Char) : String :=
  String.ofList (percentEncode fragmentSet (visible cs))

def readQuery (scheme : String) (cs : List Char) : String :=
  let set := if isSpecial scheme then specialQuerySet else querySet
  String.ofList (percentEncode set (visible cs))

/-- The query and the fragment of what stands behind a path. -/
def readTail (scheme : String) : List Char → Option String × Option String
  | '?' :: rest =>
    let query := readQuery scheme (rest.takeWhile (· ≠ '#'))
    match rest.dropWhile (· ≠ '#') with
    | '#' :: fragment => (some query, some (readFragment fragment))
    | _ => (some query, none)
  | '#' :: rest => (none, some (readFragment rest))
  | _ => (none, none)

/-- The URL with a path that is read from a text, behind `start`, and what stands behind the
path. -/
def withPath (u : Url) (start cs : List Char) : Url :=
  let (pathText, tail) := cutPath cs
  let (query, fragment) := readTail u.scheme tail
  { u with path := String.ofList (readPath u.scheme start pathText).1, query, fragment }

/-- The URL with its query and fragment replaced. -/
def withTail (u : Url) (tail : List Char) : Url :=
  let (query, fragment) := readTail u.scheme tail
  { u with query, fragment }

def withFragment (u : Url) (cs : List Char) : Url := { u with fragment := some (readFragment cs) }

/-! ### Authority -/

/-- The text before and behind the last `@`. -/
def cutUserinfo (cs : List Char) : Option (List Char × List Char) :=
  let back := cs.reverse
  match back.dropWhile (· ≠ '@') with
  | '@' :: front => some (front.reverse, (back.takeWhile (· ≠ '@')).reverse)
  | _ => none

/-- The text of a host, and what stands behind it: a colon outside brackets ends it, or the start
of a path, query or fragment. -/
def cutHost (special : Bool) : Bool → List Char → List Char × List Char
  | _, [] => ([], [])
  | inside, c :: rest =>
    if (c = ':' && !inside) || isSlash special c || c = '?' || c = '#' then ([], c :: rest)
    else
      let (host, rest) := cutHost special (c = '[' || (inside && c ≠ ']')) rest
      (c :: host, rest)

/-- Reads a port and what stands behind it, which must be the start of a path, query or fragment.
The scheme's own port is left out. -/
def readPort (scheme : String) (cs : List Char) : Except Error (Option Nat × List Char) :=
  let isPart (c : Char) : Bool := c.isDigit || isDropped c
  let digits := visible (cs.takeWhile isPart)
  let rest := cs.dropWhile isPart
  let port := digits.foldl (fun n c => n * 10 + (c.toNat - 48)) 0
  if rest.head?.any fun c => !(['/', '\\', '?', '#'].contains c) then .error .port
  else if 65535 < port then .error .port
  else if digits.isEmpty || defaultPort scheme = some port then .ok (none, rest)
  else .ok (some port, rest)

def readUserinfo (cs : List Char) : String × Option String :=
  let name := cs.takeWhile (· ≠ ':')
  let password :=
    match cs.dropWhile (· ≠ ':') with
    | _ :: c :: rest => some (String.ofList (percentEncode userinfoSet (c :: rest)))
    | _ => none
  (String.ofList (percentEncode userinfoSet name), password)

/-- Where the path of a URL with an authority starts, and the text from which it is read. A special
URL has a path even if none is written. -/
def pathStart (special : Bool) (cs : List Char) : List Char × List Char :=
  match next? cs with
  | some (c, rest) =>
    if special then (['/'], if isSlash true c then rest else cs)
    else if c = '\\' then (['/'], cs)
    else ([], cs)
  | none => (if special then ['/'] else [], [])

/-- Reads what stands behind two slashes. -/
def readAuthority (scheme : String) (cs : List Char) : Except Error Url := do
  let special := isSpecial scheme
  let isEnd (c : Char) : Bool := isSlash special c || c = '?' || c = '#'
  let authority := cs.takeWhile fun c => !isEnd c
  let behind := cs.dropWhile fun c => !isEnd c
  let (userinfo, hostport) :=
    match cutUserinfo authority with
    | some (userinfo, hostport) => (some (visible userinfo), hostport)
    | none => (none, authority)
  if userinfo = some [] && (visible hostport).isEmpty && !behind.isEmpty then .error .emptyHost
  let (hostText, rest) := cutHost special false (hostport ++ behind)
  let hostText := visible hostText
  if special && hostText.isEmpty then .error .emptyHost
  let host ← if special then Host.ofSpecial hostText else Host.ofOther hostText
  if hostText.isEmpty && rest.head? = some ':' then .error .emptyHost
  let (port, rest) ←
    match rest with
    | ':' :: rest => readPort scheme rest
    | rest => .ok (none, rest)
  let (username, password) := readUserinfo (userinfo.getD [])
  if hostText.isEmpty && (!username.isEmpty || password.isSome) then .error .emptyHost
  let (start, rest) := pathStart special rest
  .ok (withPath ⟨scheme, username, password, some host, port, "", none, none⟩ start rest)

/-! ### File URLs -/

/-- A file URL with a host, or with none. Where its path starts with a drive, there is no host. -/
def fileUrl (host : Option Host) (start cs : List Char) : Url :=
  let (pathText, tail) := cutPath cs
  let (path, hasDrive) := readPath "file" start pathText
  let host := if hasDrive then none else host
  withTail ⟨"file", "", none, some (host.getD (.name "")), none, String.ofList path, none, none⟩
    tail

/-- Reads what stands behind two slashes of a file URL. What looks like a drive is no host. Only
behind a host does the path start with its first slash, so that elsewhere a drive behind three
slashes keeps its mark. -/
def readFileHost (cs : List Char) : Except Error Url :=
  let isEnd (c : Char) : Bool := isSlash true c || c = '?' || c = '#'
  let hostText := visible (cs.takeWhile fun c => !isEnd c)
  let rest := cs.dropWhile fun c => !isEnd c
  if isDrive hostText then .ok (fileUrl none ['/'] cs)
  else if hostText.isEmpty then .ok (fileUrl none ['/'] rest)
  else do
    let host ← Host.ofSpecial hostText
    if host = .name "localhost" then .ok (fileUrl none ['/'] rest)
    else .ok (fileUrl (some host) ['/'] (pathStart true rest).2)

/-- Reads what stands behind one slash of a file URL: of a base the drive is taken over, or else
the host. -/
def readFileRoot (base : Option Url) (cs : List Char) : Url :=
  match base with
  | some b =>
    let first := (b.path.toList.drop 1).takeWhile (· ≠ '/')
    if startsWithDrive (visible cs) then fileUrl none ['/'] cs
    else if isPlainDrive first then fileUrl none ('/' :: first ++ ['/']) cs
    else { fileUrl none ['/'] cs with host := b.host }
  | none => fileUrl none ['/'] cs

/-- Reads a file URL behind its scheme, or relative to a base with that scheme. -/
def readFile (base : Option Url) (cs : List Char) : Except Error Url :=
  match next? cs with
  | some (a, rest) =>
    if isSlash true a then
      match next? rest with
      | some (b, more) => if isSlash true b then readFileHost more else .ok (readFileRoot base rest)
      | none => .ok (readFileRoot base rest)
    else
      match base with
      | some b =>
        if a = '?' then .ok (b.withTail (a :: rest))
        else if a = '#' then .ok (b.withFragment rest)
        else if startsWithDrive (visible cs) then .ok (fileUrl none ['/'] cs)
        else .ok (b.withPath (dropSegment true b.path.toList) cs)
      | none => .ok (fileUrl none ['/'] cs)
  | none =>
    match base with
    | some b => .ok { b with fragment := none }
    | none => .ok (fileUrl none ['/'] cs)

/-! ### Whole URLs -/

/-- Reads a text without a scheme relative to a base that is neither a file nor opaque. -/
def readRelative (base : Url) (cs : List Char) : Except Error Url :=
  match next? cs with
  | none => .ok { base with fragment := none }
  | some (c, rest) =>
    if c = '?' then .ok (base.withTail (c :: rest))
    else if c = '#' then .ok (base.withFragment rest)
    else if isSlash true c then
      let (slashes, behind) := cutSlashes cs
      if slashes < 2 then .ok (base.withPath ['/'] rest)
      else readAuthority base.scheme ((behindSlashes? cs).getD behind)
    else
      let start := dropSegment false base.path.toList
      .ok (base.withPath (if start.isEmpty then ['/'] else start) cs)

/-- Reads a URL whose scheme is neither special nor followed by two slashes. -/
def readOther (scheme : String) (cs : List Char) : Url :=
  let start : Url := ⟨scheme, "", none, none, none, "", none, none⟩
  match behind? '/' cs with
  | some rest => start.withPath ['/'] rest
  | none =>
    let (pathText, tail) := cutPath cs
    let path := String.ofList (percentEncode isControl (visible pathText))
    { start with path }.withTail tail

def readScheme (base : Option Url) (scheme : String) (cs : List Char) : Except Error Url :=
  if scheme = "file" then readFile (base.filter fun b => b.scheme = "file") cs
  else if isSpecial scheme then
    let (slashes, behind) := cutSlashes cs
    match base with
    | some b =>
      if slashes < 2 && b.scheme = scheme then readRelative b cs else readAuthority scheme behind
    | none => readAuthority scheme behind
  else
    match behindSlashes? cs with
    | some rest => readAuthority scheme rest
    | none => .ok (readOther scheme cs)

def parseWith (base : Option Url) (text : String) : Except Error Url :=
  let cs := trimEdges text.toList
  match scheme? cs with
  | some (scheme, rest) => readScheme base scheme rest
  | none =>
    match base with
    | none => .error .relativeWithoutBase
    | some b =>
      match behind? '#' cs with
      | some rest => .ok (b.withFragment rest)
      | none =>
        if b.isOpaque then .error .relativeToOpaqueBase
        else if b.scheme = "file" then readFile (some b) cs
        else readRelative b cs

/-- Reads a URL that stands alone. -/
def parse (text : String) : Except Error Url := parseWith none text

def join (base : Url) (text : String) : Except Error Url := parseWith (some base) text

end Mcp.Url
