import Mcp.Message.Parser
import Mcp.Text.Blank
import Mcp.Text.Utf8

/-!
Messages by lines, as processes exchange them. Whoever reads takes the bytes as they come, in pieces
of any size; a line is complete when the byte behind it has come, or when the bytes end. White space
around a message is no part of it, and a line that holds no message is passed over.
-/

namespace Mcp.Transport.Lines

/-- The byte that ends a line. -/
def lineEnd : UInt8 := 10

def message? (line : List UInt8) : Option Message :=
  let text := Text.trimmed (Text.decodeText line)
  if text.isEmpty then none else (Message.parse text).toOption

/-- The bytes of a line whose end has not come, the latest first. -/
structure Buffer where
  bytes : List UInt8
  deriving DecidableEq, Repr

namespace Buffer

def empty : Buffer := ⟨[]⟩

/-- Takes a byte; the line is given if it ends with that. -/
def next (p : Buffer) (b : UInt8) : Buffer × Option (List UInt8) :=
  if b = lineEnd then (empty, some p.bytes.reverse) else (⟨b :: p.bytes⟩, none)

/-- Takes bytes; the lines that end with them are given in order. -/
def push (p : Buffer) : List UInt8 → Buffer × List (List UInt8)
  | [] => (p, [])
  | b :: rest =>
    let (p, line) := p.next b
    let (p, lines) := p.push rest
    (p, line.toList ++ lines)

/-- The line that the end of the bytes completes. -/
def finish (p : Buffer) : Option (List UInt8) :=
  if p.bytes.isEmpty then none else some p.bytes.reverse

end Buffer

inductive Happening where
  | bytes (chunk : List UInt8)
  /-- No more bytes will come. -/
  | finished
  /-- The bytes cannot be read any further. -/
  | failed
  /-- Nobody takes messages any more. -/
  | abandoned
  deriving Repr

structure Reader where
  buffer : Buffer
  /-- Whether somebody takes the messages. -/
  taken : Bool
  /-- Whether it still reads. -/
  reading : Bool
  deriving DecidableEq, Repr

namespace Reader

def start : Reader := ⟨.empty, true, true⟩

/-- Acts on one line: the reader after it and the message that it delivers. It stops at a message
that nobody takes. -/
def act (r : Reader) (line : List UInt8) : Reader × Option Message :=
  if !r.reading then (r, none)
  else
    match message? line with
    | none => (r, none)
    | some m => if r.taken then (r, some m) else ({ r with reading := false }, none)

/-- Acts on lines in order. -/
def actAll (r : Reader) : List (List UInt8) → Reader × List Message
  | [] => (r, [])
  | line :: rest =>
    let (r, message) := r.act line
    let (r, messages) := r.actAll rest
    (r, message.toList ++ messages)

/-- What a happening makes of the reader, and the messages that it delivers. -/
def step (r : Reader) : Happening → Reader × List Message
  | .bytes chunk =>
    let (buffer, lines) := r.buffer.push chunk
    { r with buffer }.actAll lines
  | .finished =>
    let (r, messages) := { r with buffer := .empty }.actAll r.buffer.finish.toList
    ({ r with reading := false }, messages)
  | .failed => ({ r with buffer := .empty, reading := false }, [])
  | .abandoned => ({ r with taken := false }, [])

end Reader

/-- A reader of lines of text. It stops at a line that is no text. -/
structure TextReader where
  buffer : Buffer
  reading : Bool
  deriving DecidableEq, Repr

namespace TextReader

def start : TextReader := ⟨.empty, true⟩

def withoutReturn (line : List UInt8) : List UInt8 :=
  if line.getLast? = some 13 then line.dropLast else line

/-- The texts of lines up to the first that is none, and whether there is no such line. -/
def texts : List (List UInt8) → List String × Bool
  | [] => ([], true)
  | line :: rest =>
    if Text.isText line then
      let (more, reading) := texts rest
      (Text.decodeText line :: more, reading)
    else ([], false)

def act (r : TextReader) (lines : List (List UInt8)) : TextReader × List String :=
  if !r.reading then (r, [])
  else
    let (found, reading) := texts lines
    ({ r with reading }, found)

/-- Takes bytes; the lines that end with them are given. -/
def push (r : TextReader) (bytes : List UInt8) : TextReader × List String :=
  let (buffer, lines) := r.buffer.push bytes
  { r with buffer }.act (lines.map withoutReturn)

/-- The line that the end of the bytes completes. -/
def finish (r : TextReader) : TextReader × List String :=
  let (r, found) := { r with buffer := .empty }.act r.buffer.finish.toList
  ({ r with reading := false }, found)

end TextReader

end Mcp.Transport.Lines
