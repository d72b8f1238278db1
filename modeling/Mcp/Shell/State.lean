import Mcp.Process.Activity
import Mcp.Shell.Basic
import Mcp.Shell.Pattern
import Mcp.Text.Utf8

/-!
What a shell knows while it runs: variables, parameters, where its streams lead, and what it does
when it is asked to terminate. Words are made of pieces, and split into fields, by rules that depend
on nothing else.
-/

namespace Mcp.Shell

/-- Where a stream of a command leads. -/
inductive Route where
  | input
  | outlet (o : Outlet)
  /-- Into the value of a word, or to the next command of a pipe. -/
  | captured
  /-- From the command before in a pipe. -/
  | piped
  | nowhere
  deriving DecidableEq, Repr

structure State where
  bindings : List (String × String)
  /-- The names of the variables that other programs see. -/
  exported : List String
  functions : List (String × Command)
  name : String
  parameters : List String
  /-- How the last command ended. -/
  status : Nat
  routes : List (Nat × Route)
  captured : List UInt8
  piped : List UInt8
  /-- What is run when termination is asked for; an empty text passes over that. -/
  onTerm : Option String
  onExit : Option String
  directory : String

namespace State

def initial (name : String) (parameters : List String) (environment : List (String × String))
    (directory : String) : State where
  bindings := environment
  exported := environment.map Prod.fst
  functions := []
  name
  parameters
  status := 0
  routes := [(0, .input), (1, .outlet .standard), (2, .outlet .diagnostic)]
  captured := []
  piped := []
  onTerm := none
  onExit := none
  directory

def ended (s : State) (status : Nat) : State := { s with status }

/-- Sets a variable. -/
def set (s : State) (name value : String) : State :=
  { s with bindings := (name, value) :: s.bindings.filter fun v => v.1 ≠ name }

def unset (s : State) (name : String) : State :=
  { s with bindings := s.bindings.filter fun v => v.1 ≠ name }

/-- The value under a name, which may be a parameter or a sign with a meaning. -/
def value? (s : State) (name : String) : Option String :=
  match name with
  | "?" => some (toString s.status)
  | "#" => some (toString s.parameters.length)
  | "@" => some (" ".intercalate s.parameters)
  | "*" => some (" ".intercalate s.parameters)
  | "0" => some s.name
  | "$" => some "1"
  | "-" => some ""
  | "!" => none
  | "PWD" => some ((s.bindings.lookup "PWD").getD s.directory)
  | name =>
    match name.toNat? with
    | some n => s.parameters[n - 1]?
    | none => s.bindings.lookup name

/-- The characters between fields. -/
def separators (s : State) : List Char :=
  match s.bindings.lookup "IFS" with
  | some text => text.toList
  | none => [' ', '\t', '\n']

/-- The integer that a variable holds. -/
def integer (s : State) (name : String) : Int := (((s.value? name).bind String.toInt?).getD 0)

/-- The variables that other programs see. -/
def environment (s : State) : List (String × String) :=
  s.bindings.filter fun v => s.exported.contains v.1

/-- Whether passing over termination was asked for. -/
def isDeaf (s : State) : Bool := s.onTerm = some ""

/-- Where a number leads. -/
def route? (s : State) (fd : Nat) : Option Route := s.routes.lookup fd

/-- Writes to where a number leads. -/
def write (s : State) (fd : Nat) (bytes : List UInt8) (next : State → Activity) : Activity :=
  match s.route? fd with
  | some (.outlet o) => if bytes.isEmpty then next s else .write o bytes fun _ => next s
  | some .captured => next { s with captured := s.captured ++ bytes }
  | _ => next s

/-- Says what went wrong with a command, which then has a status. -/
def complain (s : State) (text : String) (status : Nat) (next : State → Activity) : Activity :=
  s.write 2 (Text.encode (s.name ++ ": 1: " ++ text ++ "\n")) fun s => next (s.ended status)

/-- A target with its path in full. -/
inductive Place where
  | close
  | copy (fd : Nat)
  | file (path : String) (reading : Bool)

/-- Leads numbers elsewhere, one after another. There are no files to read but one that is empty. -/
def redirect (s : State) : List (Nat × Place) → Except String State
  | [] => .ok s
  | (fd, place) :: rest =>
    let others := s.routes.filter fun r => r.1 ≠ fd
    match place with
    | .close => redirect { s with routes := others } rest
    | .copy source =>
      match s.route? source with
      | some r => redirect { s with routes := (fd, r) :: others } rest
      | none => .error (toString source ++ ": Bad file descriptor")
    | .file path reading =>
      if reading && path ≠ "/dev/null" then .error ("cannot open " ++ path ++ ": No such file")
      else redirect { s with routes := (fd, .nowhere) :: others } rest
termination_by structural rs => rs

/-- The streams of the process that no number leads to any more. -/
def released (before after : State) : List Channel :=
  let leads (s : State) (r : Route) : Bool := s.routes.any fun x => x.2 = r
  let gone (r : Route) : Bool := leads before r && !leads after r
  (if gone .input then [.input] else []) ++
    (if gone (.outlet .standard) then [.outlet .standard] else []) ++
    if gone (.outlet .diagnostic) then [.outlet .diagnostic] else []

/-- The variables and streams of another state, after a command that had its own. -/
def restored (after before : State) (names : List String) : State :=
  let back (s : State) (name : String) : State :=
    match before.bindings.lookup name with
    | some value => s.set name value
    | none => s.unset name
  names.foldl back { after with routes := before.routes }

end State

/-! ### Words -/

/-- What a part of a word comes to. -/
inductive Piece where
  | plain (text : String)
  | quoted (text : String)
  /-- A value that is split into fields. -/
  | split (text : String)
  /-- Values that are fields of their own. -/
  | fields (texts : List String)

namespace Piece

def ofValue (inQuotes : Bool) (text : String) : Piece :=
  if inQuotes then .quoted text else .split text

/-- The same in quotes. -/
def inQuotes : Piece → Piece
  | .plain text => .quoted text
  | .quoted text => .quoted text
  | .split text => .quoted text
  | .fields texts => .fields texts

/-- The characters of a piece that is not split. -/
def glyphs : Piece → List Glyph
  | .plain text => text.toList.map (·, true)
  | .quoted text => text.toList.map (·, false)
  | .split text => text.toList.map (·, true)
  | .fields texts => (" ".intercalate texts).toList.map (·, false)

/-- The text of pieces that are not split. -/
def joined (ps : List Piece) : String :=
  String.ofList ((ps.flatMap glyphs).map Prod.fst)

def pattern (ps : List Piece) : List Item := Pattern.ofWord (ps.flatMap glyphs)

/-- Fields: those that are complete, last first, and the one that has begun. -/
abbrev Fields := List (List Char) × Option (List Char)

def isWhite (c : Char) : Bool := c = ' ' || c = '\t' || c = '\n'

/-- Ends the field that has begun. -/
def endField (f : Fields) : Fields :=
  match f.2 with
  | some field => (field :: f.1, none)
  | none => f

def append (f : Fields) (cs : List Char) : Fields := (f.1, some (f.2.getD [] ++ cs))

def splitChar (separators : List Char) (f : Fields) (c : Char) : Fields :=
  if separators.contains c then
    if isWhite c then endField f else endField (append f [])
  else append f [c]

/-- A value that is a field of its own, behind another one. -/
def nextField (f : Fields) (text : String) : Fields := append (endField f) text.toList

def addTo (separators : List Char) (f : Fields) : Piece → Fields
  | .plain text => append f text.toList
  | .quoted text => append f text.toList
  | .split text => text.toList.foldl (splitChar separators) f
  | .fields [] => f
  | .fields (text :: rest) => rest.foldl nextField (append f text.toList)

def toFields (separators : List Char) (ps : List Piece) : List String :=
  (endField (ps.foldl (addTo separators) ([], none))).1.reverse.map String.ofList

end Piece

/-- A line cut into so many values; the last takes all that is left. -/
def cutLine (separators : List Char) : Nat → List Char → List String
  | 0, _ => []
  | n + 1, cs =>
    let isSpace (c : Char) : Bool := separators.contains c && Piece.isWhite c
    let cs := cs.dropWhile isSpace
    if n = 0 then [String.ofList (cs.reverse.dropWhile isSpace).reverse]
    else
      let field := cs.takeWhile fun c => !separators.contains c
      let rest := (cs.drop field.length).dropWhile isSpace
      let rest :=
        match rest with
        | c :: more => if separators.contains c && !Piece.isWhite c then more else c :: more
        | [] => []
      String.ofList field :: cutLine separators n rest

end Mcp.Shell
