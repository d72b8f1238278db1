import Mcp.Yaml.Lexer.Basic

/-!
Scalars. In plain and quoted ones the blanks around a line break are dropped and the break is read
as a space; in a block each line keeps what is behind its indentation. Texts are gathered with the
last character first.
-/

namespace Mcp.Yaml.Lexer

/-! ### Gaps -/

/-- Blanks and line breaks in the middle of a scalar, last first. -/
inductive Gap where
  | blanks (cs : List Char)
  /-- The first line break, unless a backslash takes it away, and those after it. -/
  | breaks (first : Option Char) (more : List Char)
  deriving DecidableEq, Repr

namespace Gap

def none : Gap := .blanks []

def isBroken : Gap → Bool
  | .blanks _ => false
  | .breaks .. => true

def addBreak (c : Char) : Gap → Gap
  | .blanks _ => .breaks (some c) []
  | .breaks first more => .breaks first (c :: more)

/-- What a gap is read as: one line break as a space, each more as a line feed. Separators stay. -/
def text : Gap → List Char
  | .blanks cs => cs
  | .breaks (some '\n') [] => [' ']
  | .breaks (some '\n') more => more
  | .breaks first more => more ++ first.toList

end Gap

/-- Steps over the blanks and line breaks of a gap. Behind a line break no tab may stand before a
column. -/
def gap (least : Nat) : Nat → Gap → Lexer → Option (Gap × Lexer)
  | 0, g, l => some (g, l)
  | fuel + 1, g, l =>
    match l.rest with
    | [] => some (g, l)
    | c :: _ =>
      if isBreak c then gap least fuel (g.addBreak c) l.advance
      else if isSpaceOrTab c then
        match g with
        | .blanks cs => gap least fuel (.blanks (c :: cs)) l.advance
        | .breaks .. =>
          if c = '\t' && l.column < least then Option.none else gap least fuel g l.advance
      else some (g, l)

/-! ### Plain scalars -/

/-- The characters of a plain scalar up to a blank or its end; none where a colon stands badly. -/
def plainRun (inFlow : Bool) (acc : List Char) : List Char → Option (List Char)
  | [] => some acc
  | c :: rest =>
    if c = ':' && blankNext rest || !isInk c || inFlow && isFlowMark c then some acc
    else if c = ':' && inFlow && rest.head?.any fun c => isFlowMark c || c = '?' then none
    else plainRun inFlow (c :: acc) rest

/-- A plain scalar from here, behind what was read of it and the gap after that. -/
def plainLoop (least : Nat) : Nat → List Char → Gap → Lexer → Option (List Char × Lexer)
  | 0, acc, _, l => some (acc, l)
  | fuel + 1, acc, before, l => do
    let broken (g : Gap) (l : Lexer) := { l with keyAllowed := l.keyAllowed || g.isBroken }
    if l.column = 0 && isDocumentMark l.rest || l.rest.head? = some '#' then
      some (acc, broken before l)
    else
      let run ← plainRun l.inFlow [] l.rest
      if run.isEmpty then some (acc, broken before l)
      else
        let acc := run ++ before.text ++ acc
        let l := skip run.length l
        if !blankNext l.rest then some (acc, l)
        else
          let (after, l) ← gap least l.fuel .none l
          if !l.inFlow && l.column < least then some (acc, broken after l)
          else plainLoop least fuel acc after l

def plain (l : Lexer) : Option Lexer := do
  let l ← l.saveCandidate
  let (text, l) ←
    plainLoop l.least l.fuel [] .none { l with keyAllowed := false }
  some (l.emit (.scalar (String.ofList text.reverse) .plain))

/-! ### Quoted scalars -/

/-- The character that a letter behind a backslash stands for. -/
def escaped? (c : Char) : Option Char :=
  match c with
  | '0' => some '\x00'
  | 'a' => some '\x07'
  | 'b' => some '\x08'
  | 't' => some '\t'
  | '\t' => some '\t'
  | 'n' => some '\n'
  | 'v' => some '\x0b'
  | 'f' => some '\x0c'
  | 'r' => some '\r'
  | 'e' => some '\x1b'
  | ' ' => some ' '
  | '\x22' => some '\x22'
  | '/' => some '/'
  | '\\' => some '\\'
  | 'N' => some '\u0085'
  | '_' => some '\u00a0'
  | 'L' => some '\u2028'
  | 'P' => some '\u2029'
  | _ => none

/-- How many hexadecimal digits follow a letter behind a backslash. -/
def hexLength? (c : Char) : Option Nat :=
  match c with
  | 'x' => some 2
  | 'u' => some 4
  | 'U' => some 8
  | _ => none

/-- The character that the text behind a backslash stands for, and the length of that text. -/
def escape? : List Char → Option (Char × Nat)
  | [] => none
  | c :: rest =>
    match escaped? c with
    | some e => some (e, 1)
    | none => do
      let length ← hexLength? c
      let digits := rest.take length
      if digits.length < length then none
      else
        let n ← hexNumber? digits
        if n.isValidChar then some (Char.ofNat n, length + 1) else none

/-- The characters of a quoted scalar up to a blank or the quote at its end, and whether a line
break behind a backslash ended them. -/
def quotedRun (quote : Char) : Nat → List Char → Lexer → Option (List Char × Bool × Lexer)
  | 0, acc, l => some (acc, false, l)
  | fuel + 1, acc, l =>
    match l.rest with
    | [] => some (acc, false, l)
    | c :: rest =>
      if !isInk c then some (acc, false, l)
      else if c = quote then
        if quote = '\x27' && rest.head? = some quote then
          quotedRun quote fuel (quote :: acc) (skip 2 l)
        else some (acc, false, l)
      else if c = '\\' && quote ≠ '\x27' then
        if rest.head?.any isBreak then some (acc, true, l.advance.advance)
        else do
          let (e, length) ← escape? rest
          quotedRun quote fuel (e :: acc) (skip (length + 1) l)
      else quotedRun quote fuel (c :: acc) l.advance

/-- A quoted scalar from behind its first quote to behind its last. -/
def quotedLoop (quote : Char) : Nat → List Char → Lexer → Option (List Char × Lexer)
  | 0, _, _ => none
  | fuel + 1, acc, l => do
    if l.column = 0 && isDocumentMark l.rest then none
    else
      let (acc, joined, l) ← quotedRun quote l.fuel acc l
      if l.rest.head? = some quote then some (acc, l.advance)
      else if l.rest.isEmpty then none
      else
        let (g, l) ← gap 0 l.fuel (if joined then .breaks none [] else .none) l
        quotedLoop quote fuel (g.text ++ acc) l

def quoted (quote : Char) (l : Lexer) : Option Lexer := do
  let l ← l.saveCandidate
  let (text, l) ← quotedLoop quote l.fuel [] { l.advance with keyAllowed := false }
  some (l.emit (.scalar (String.ofList text.reverse) .other))

/-! ### Block scalars -/

/-- What becomes of the line breaks at the end of a block scalar. -/
inductive Chomping where
  | strip
  | clip
  | keep
  deriving DecidableEq, Repr

/-- What the sign behind the bar of a block scalar asks for. -/
def chomping? (cs : List Char) : Option Chomping :=
  match cs.head? with
  | some '+' => some .keep
  | some '-' => some .strip
  | _ => none

/-- The indentation that a digit asks for, which may not be zero. -/
def blockWidth (l : Lexer) : Option (Option Nat × Lexer) :=
  match l.rest.head? with
  | some '0' => none
  | some c => if c.isDigit then some (some (c.toNat - 48), l.advance) else some (none, l)
  | none => some (none, l)

/-- The marks behind the bar of a block scalar: what is done at its end, and its indentation. They
stand in either order. -/
def blockHeader (l : Lexer) : Option (Chomping × Option Nat × Lexer) :=
  match chomping? l.rest with
  | some chomping => do
    let (width, l) ← l.advance.blockWidth
    some (chomping, width, l)
  | none => do
    let (width, l) ← l.blockWidth
    match width, chomping? l.rest with
    | some _, some chomping => some (chomping, width, l.advance)
    | _, _ => some (.clip, width, l)

/-- Steps over the indentation of lines and over lines that hold nothing else: their line breaks,
last first, and the widest indentation. No tab may stand in the indentation. -/
def blockIndent (indent : Option Nat) :
    Nat → List Char → Nat → Lexer → Option (List Char × Nat × Lexer)
  | 0, breaks, widest, l => some (breaks, widest, l)
  | fuel + 1, breaks, widest, l =>
    let within := indent.all fun n => l.column < n
    let widest := max widest l.column
    match l.rest with
    | [] => some (breaks, widest, l)
    | c :: _ =>
      if c = ' ' && within then blockIndent indent fuel breaks widest l.advance
      else if c = '\t' && within then none
      else if isBreak c then blockIndent indent fuel (c :: breaks) widest l.advance
      else some (breaks, widest, l)

/-- The text of a block scalar and the line breaks behind it. -/
structure Block where
  text : List Char
  /-- The break at the end of the last line. -/
  pending : Option Char
  /-- The breaks of the empty lines after it. -/
  breaks : List Char
  /-- Whether the last line began with a blank. -/
  startsBlank : Bool
  deriving DecidableEq, Repr

/-- What stands between the lines so far and the next one. Where lines are joined, a line feed
between two that do not begin with a blank is read as a space, or not at all before empty lines. -/
def Block.between (literal startsBlank : Bool) (b : Block) : List Char :=
  if !literal && b.pending = some '\n' && !b.startsBlank && !startsBlank then
    if b.breaks.isEmpty then [' '] else b.breaks
  else b.breaks ++ b.pending.toList

/-- The text with what is kept of the line breaks behind it. -/
def Block.chomp (b : Block) : Chomping → List Char
  | .strip => b.text
  | .clip => b.pending.toList ++ b.text
  | .keep => b.breaks ++ b.pending.toList ++ b.text

def blockLines (literal : Bool) (indent : Nat) : Nat → Block → Lexer → Option (Block × Lexer)
  | 0, b, l => some (b, l)
  | fuel + 1, b, l =>
    if l.column = indent && !l.rest.isEmpty then do
      let startsBlank := l.rest.head?.any isSpaceOrTab
      let line := l.rest.takeWhile fun c => !isBreak c
      let l := skip line.length l
      let pending := l.rest.head?
      let (breaks, _, l) ← blockIndent (some indent) l.fuel [] 0 l.advance
      let text := line.reverse ++ b.between literal startsBlank ++ b.text
      blockLines literal indent fuel ⟨text, pending, breaks, startsBlank⟩ l
    else some (b, l)

/-- A block scalar, whose lines are kept if it is literal and else joined. -/
def block (literal : Bool) (l : Lexer) : Option Lexer := do
  let l ← l.dropCandidate
  let (chomping, width, l) ← blockHeader { l.advance with keyAllowed := true }
  let l ← l.endLine
  let given := width.map fun n => l.indents.head?.getD 0 + n
  let (breaks, widest, l) ← blockIndent given l.fuel [] 0 l
  let indent := given.getD (max widest (max l.least 1))
  let (b, l) ← blockLines literal indent l.fuel ⟨[], none, breaks, false⟩ l
  let text := String.ofList (b.chomp chomping).reverse
  some (l.emit (.scalar text (if literal then .literal else .other)))

end Mcp.Yaml.Lexer
