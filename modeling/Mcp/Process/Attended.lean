import Mcp.Process.Activity
import Mcp.Transport.Lines

/-!
A process whose output is read as messages, line by line, and whose diagnostics are read as lines of
text. What it says is read as soon as it is said and kept until somebody asks for it.
-/

namespace Mcp

/-- A process with the readers of what it writes. -/
structure Attended where
  process : Running
  reader : Transport.Lines.Reader
  textReader : Transport.Lines.TextReader
  /-- The messages that nobody has taken. -/
  messages : List Message
  /-- The lines of diagnostics that nobody has taken. -/
  diagnostics : List String

namespace Attended

def start (activity : Activity) : Attended := ⟨.start activity, .start, .start, [], []⟩

def readMessages (a : Attended) : Attended :=
  let (reader, messages) := a.reader.step (.bytes a.process.output)
  let (reader, more) :=
    if a.process.outputOpen then (reader, []) else reader.step .finished
  { a with
    reader
    messages := a.messages ++ messages ++ more
    process := { a.process with output := [] } }

/-- Reads the diagnostics that the process has written, and their end. -/
def readDiagnostics (a : Attended) : Attended :=
  let (textReader, lines) := a.textReader.push a.process.diagnostics
  let (textReader, more) :=
    if a.process.diagnosticsOpen then (textReader, []) else textReader.finish
  { a with
    textReader
    diagnostics := a.diagnostics ++ lines ++ more
    process := { a.process with diagnostics := [] } }

/-- Lets the process go on until it waits, and reads what it wrote. -/
def settle (now : Nat) (a : Attended) : Attended :=
  { a with process := a.process.settle now }.readMessages.readDiagnostics

/-- Gives the process bytes to read; none if it reads no more. -/
def feed (a : Attended) (bytes : List UInt8) : Option Attended :=
  (a.process.feed bytes).map fun process => { a with process }

/-- No more input will come. -/
def endInput (a : Attended) : Attended := { a with process := { a.process with inputOver := true } }

def terminate (a : Attended) : Attended := { a with process := a.process.terminate }

def kill (a : Attended) : Attended := { a with process := a.process.kill }

/-- Stops both readers, whatever is left to read. -/
def ignore (a : Attended) : Attended :=
  { a with
    reader := { a.reader with reading := false }
    textReader := { a.textReader with reading := false } }

end Attended

end Mcp
