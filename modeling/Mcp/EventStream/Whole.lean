import Mcp.EventStream.Basic

/-!
A whole event stream read at once: its lines, the groups between blank lines, and the event of
each group. The last group is the one that no blank line ends. Each event comes with the place of
the first byte of the line end that its blank line has. A line is split into a field here by its
first colon, whatever the decoder does with it.
-/

namespace Mcp.EventStream

/-- A line and the place where its line end starts. -/
structure Line where
  bytes : List UInt8
  stop : Nat
  deriving DecidableEq, Repr

/-- The lines of a stream: those that end, and the bytes behind the last of them. -/
structure Lines where
  ended : List Line
  rest : List UInt8
  deriving DecidableEq, Repr

namespace Lines

def afterEnd (place : Nat) (lines : Lines) : Lines :=
  { lines with ended := ⟨[], place⟩ :: lines.ended }

def afterByte (b : UInt8) (lines : Lines) : Lines :=
  match lines.ended with
  | [] => { lines with rest := b :: lines.rest }
  | line :: more => { lines with ended := { line with bytes := b :: line.bytes } :: more }

/-- Reads the lines of bytes, the first of which is at a place. A carriage return and a line feed
behind it are one line end. -/
def read (place : Nat) : List UInt8 → Lines
  | [] => ⟨[], []⟩
  | [b] =>
    if b = lineFeed ∨ b = carriageReturn then afterEnd place ⟨[], []⟩ else afterByte b ⟨[], []⟩
  | b :: c :: rest =>
    if b = carriageReturn ∧ c = lineFeed then afterEnd place (read (place + 2) rest)
    else if b = lineFeed ∨ b = carriageReturn then afterEnd place (read (place + 1) (c :: rest))
    else afterByte b (read (place + 1) (c :: rest))

end Lines

/-- A group of lines and the place where the line end of the blank line behind it starts. -/
structure Group where
  lines : List (List UInt8)
  stop : Nat
  deriving DecidableEq, Repr

/-- The groups of a stream: those that a blank line ends, and the lines behind the last blank
line. -/
structure Groups where
  ended : List Group
  rest : List (List UInt8)
  deriving DecidableEq, Repr

def Groups.read : List Line → Groups
  | [] => ⟨[], []⟩
  | line :: more =>
    let groups := read more
    if line.bytes.isEmpty then { groups with ended := ⟨[], line.stop⟩ :: groups.ended }
    else
      match groups.ended with
      | [] => { groups with rest := line.bytes :: groups.rest }
      | group :: ended =>
        { groups with ended := { group with lines := line.bytes :: group.lines } :: ended }

/-- What stands before the first colon of a line and what stands behind it. -/
def splitAtColon : List Char → Option (List Char × List Char)
  | [] => none
  | c :: rest =>
    if c = ':' then some ([], rest)
    else (splitAtColon rest).map fun (name, value) => (c :: name, value)

/-- The field of a line: a line without a colon is a name with an empty value, and the value is
written behind one space or none. -/
def lineField (line : List Char) : String × String :=
  match splitAtColon line with
  | none => (String.ofList line, "")
  | some (name, ' ' :: value) => (String.ofList name, String.ofList value)
  | some (name, value) => (String.ofList name, String.ofList value)

def valuesOf (name : String) (fields : List (String × String)) : List String :=
  (fields.filter fun field => field.1 = name).map Prod.snd

/-- The event of a group of lines: each line is decoded, comments do not count, the values of data
are joined, and the last kind and the last id win. -/
def groupEvent? (lines : List (List UInt8)) : Option Event :=
  let fields := ((lines.map Text.decode).filter fun line => line.head? ≠ some ':').map lineField
  let data := valuesOf "data" fields
  let kinds := valuesOf "event" fields
  let ids := valuesOf "id" fields
  if data.isEmpty && kinds.isEmpty && ids.isEmpty then none
  else some ⟨kinds.getLast?, "\n".intercalate data, ids.getLast?⟩

/-- The events of a stream that a blank line ends, each with its place. -/
def endedEvents (bytes : List UInt8) : List (Nat × Event) :=
  (Groups.read (Lines.read 0 bytes).ended).ended.filterMap fun group =>
    (groupEvent? group.lines).map (group.stop, ·)

/-- The event of the last group of a stream, which only the end of the stream ends. -/
def lastEvent? (bytes : List UInt8) : Option Event :=
  let lines := Lines.read 0 bytes
  groupEvent? ((Groups.read lines.ended).rest ++ if lines.rest.isEmpty then [] else [lines.rest])

end Mcp.EventStream
