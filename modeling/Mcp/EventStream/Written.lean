import Mcp.EventStream.Basic

/-!
How a stream of events is written: a line for each field of an event, a blank line behind them, and
one line end throughout. The data of an event has a line for each piece between its line feeds.
Before each event and behind the last there may be lines that give nothing.
-/

namespace Mcp.EventStream

/-- What stands behind each line of a stream. -/
inductive LineEnd where
  | feed
  | carriage
  | both
  deriving DecidableEq, Repr

def LineEnd.bytes : LineEnd → List UInt8
  | .feed => [lineFeed]
  | .carriage => [carriageReturn]
  | .both => [carriageReturn, lineFeed]

/-- The pieces of a text between its line feeds. -/
def pieces (text : String) : List String :=
  (Text.splitBy (· = '\n') text.toList).map String.ofList

/-- The fields of an event: their names and values. -/
def Event.fields (e : Event) : List (String × String) :=
  (e.kind.map ("event", ·)).toList ++ (e.id.map ("id", ·)).toList ++
    (pieces e.data).map ("data", ·)

/-- The line of a field. -/
def fieldLine (field : String × String) : String := field.1 ++ ": " ++ field.2

def Event.lines (e : Event) : List String := e.fields.map fieldLine

/-- A line between events: it gives nothing. -/
inductive Filler where
  | blank
  /-- A colon and any bytes. -/
  | comment (text : List UInt8)
  deriving DecidableEq, Repr

def Filler.line : Filler → List UInt8
  | .blank => []
  | .comment text => Text.encode ":" ++ text

/-- An event with the lines before it that give nothing. -/
structure Passage where
  fillers : List Filler
  event : Event
  deriving DecidableEq, Repr

def Passage.lines (p : Passage) : List (List UInt8) :=
  p.fillers.map Filler.line ++ (p.event.lines.map Text.encode ++ [[]])

/-- The bytes of lines with a line end behind each. -/
def terminated (ending : LineEnd) (lines : List (List UInt8)) : List UInt8 :=
  lines.flatMap (· ++ ending.bytes)

/-- The bytes of a stream of events, with lines behind the last event that give nothing. -/
def written (ending : LineEnd) (passages : List Passage) (closing : List Filler) : List UInt8 :=
  terminated ending (passages.flatMap Passage.lines ++ closing.map Filler.line)

end Mcp.EventStream
