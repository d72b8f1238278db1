import Mcp.Text.CodeTable
import Mcp.Text.Utf8

/-!
Event streams: bytes in lines, a block of lines an event, a blank line the end of a block. A line
ends with a line feed, a carriage return, or both in that order. The decoder keeps the bytes of the
block that has not ended, with a line feed for each line end, and looks for blank lines from where
it stopped.
-/

namespace Mcp.EventStream

structure Event where
  kind : Option String
  data : String
  id : Option String
  deriving DecidableEq, Repr, Inhabited

/-- What the lines of a block have given so far. -/
structure Draft where
  kind : Option String
  data : List String
  id : Option String
  deriving DecidableEq, Repr, Inhabited

/-- The name and value of the field that a line gives. A line without a colon is a name with an
empty value; one space behind the colon does not count. -/
def fieldOf (line : List Char) : String × String :=
  let value := (line.dropWhile (· ≠ ':')).drop 1
  (String.ofList (line.takeWhile (· ≠ ':')),
    String.ofList (if value.head? = some ' ' then value.drop 1 else value))

namespace Draft

def empty : Draft := ⟨none, [], none⟩

/-- The draft with one line more. A blank line and a comment, which starts with a colon, give
nothing. -/
def add (d : Draft) (line : List Char) : Draft :=
  if line.isEmpty || line.head? = some ':' then d
  else
    match fieldOf line with
    | ("data", value) => { d with data := d.data ++ [value] }
    | ("event", value) => { d with kind := some value }
    | ("id", value) => { d with id := some value }
    | _ => d

/-- The event of a block, if any line gave a field of one. -/
def event? (d : Draft) : Option Event :=
  if d.kind.isNone && d.data.isEmpty && d.id.isNone then none
  else some ⟨d.kind, "\n".intercalate d.data, d.id⟩

end Draft

def lineFeed : UInt8 := 10

def carriageReturn : UInt8 := 13

def blockEvent? (text : List Char) : Option Event :=
  ((Text.splitBy (· = '\n') text).foldl Draft.add .empty).event?

structure Decoder where
  /-- The bytes of the block that has not ended, with a line feed for each line end. -/
  buffer : Array UInt8
  /-- How many of them hold no blank line. -/
  scanned : Nat
  /-- Whether a carriage return was the last byte. -/
  afterReturn : Bool
  deriving DecidableEq, Repr, Inhabited

namespace Decoder

/-- A decoder that has seen nothing. -/
def fresh : Decoder := ⟨#[], 0, false⟩

/-- Keeps one byte. A line feed behind a carriage return is a part of the same line end. -/
def keep (d : Decoder) (b : UInt8) : Decoder :=
  if d.afterReturn && b = lineFeed then { d with afterReturn := false }
  else if b = carriageReturn then
    { d with afterReturn := true, buffer := d.buffer.push lineFeed }
  else { d with afterReturn := false, buffer := d.buffer.push b }

/-- Looks for blank lines from a position on: the events of the blocks that they end, where the
block that has not ended starts, and where the search stopped. -/
def scan (buffer : Array UInt8) (start pos : Nat) : List Event × Nat × Nat :=
  if h : pos < buffer.size then
    have : pos - 1 < buffer.size := by omega
    if buffer[pos] = lineFeed ∧ buffer[pos - 1] = lineFeed then
      let event := blockEvent? (Text.decode (buffer.extract start (pos - 1)).toList)
      let (events, start, stop) := scan buffer (pos + 1) (pos + 2)
      (event.toList ++ events, start, stop)
    else scan buffer start (pos + 1)
  else ([], start, pos)
termination_by buffer.size - pos

/-- Takes a chunk of bytes: the decoder after them and the events that they complete. -/
def push (d : Decoder) (chunk : List UInt8) : Decoder × List Event :=
  let d := chunk.foldl keep d
  let (events, start, stop) := scan d.buffer 0 (max d.scanned 1)
  ({ d with buffer := d.buffer.extract start d.buffer.size, scanned := stop - start }, events)

/-- Ends the stream: the decoder after that and the event of the block that has not ended. -/
def flush (d : Decoder) : Decoder × Option Event :=
  ({ d with buffer := #[], scanned := 0, afterReturn := false },
    blockEvent? (Text.decode d.buffer.toList))

def finish (d : Decoder) : Option Event := d.flush.2

/-- Takes chunks in order: the decoder after them and the events of each. -/
def pushAll (d : Decoder) : List (List UInt8) → Decoder × List (List Event)
  | [] => (d, [])
  | chunk :: rest =>
    let (d, events) := d.push chunk
    let (d, more) := d.pushAll rest
    (d, events :: more)

end Decoder

end Mcp.EventStream
