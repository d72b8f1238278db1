import Mcp.Yaml.Token

/-!
Reading the tokens of a text from its start. A key is marked by a token before it, although only
the colon behind it tells that it is one: so every place where a key may have started is kept as a
candidate until the colon comes, or can no longer come.
-/

namespace Mcp.Yaml

/-- A place where a key may have started. -/
structure Candidate where
  /-- How many tokens came before. -/
  place : Nat
  line : Nat
  column : Nat
  /-- How many bytes of the line came before. -/
  offset : Nat
  /-- Whether nothing but a key may stand there. -/
  required : Bool
  deriving DecidableEq, Repr

/-- What is known in the middle of a text. -/
structure Lexer where
  /-- How many characters the whole text has, which bounds every loop over it. -/
  size : Nat
  rest : List Char
  line : Nat
  /-- How many characters of the line came before. -/
  column : Nat
  /-- How many bytes of the line came before. -/
  offset : Nat
  /-- The columns of the blocks that are open, innermost first. -/
  indents : List Nat
  /-- The candidates outside flow collections and in each of those that are open, innermost
  first. -/
  candidates : List (Option Candidate)
  /-- Whether a key may start here. -/
  keyAllowed : Bool
  /-- The tokens so far, last first. -/
  tokens : List Token
  /-- How many tokens there are so far. -/
  count : Nat
  deriving Repr

namespace Lexer

def start (cs : List Char) : Lexer := ⟨cs.length, cs, 0, 0, 0, [], [none], true, [], 0⟩

/-- More steps than there are characters. -/
def fuel (l : Lexer) : Nat := l.size + 2

/-- How many flow collections are open. -/
def flowDepth (l : Lexer) : Nat := l.candidates.length - 1

def inFlow (l : Lexer) : Bool := 0 < l.flowDepth

/-- The least column at which a line goes on with the innermost block. -/
def least (l : Lexer) : Nat := l.indents.head?.elim 0 (· + 1)

/-- Steps over one character. -/
def advance (l : Lexer) : Lexer :=
  match l.rest with
  | [] => l
  | c :: rest =>
    if isBreak c then { l with rest, line := l.line + 1, column := 0, offset := 0 }
    else { l with rest, column := l.column + 1, offset := l.offset + c.utf8Size }

/-- Steps over so many characters. -/
def skip : Nat → Lexer → Lexer
  | 0, l => l
  | n + 1, l => skip n l.advance

/-- Steps over the characters of a kind. -/
def skipWhile (p : Char → Bool) (l : Lexer) : Lexer := skip (l.rest.takeWhile p).length l

/-- Steps over what is left of a line. -/
def skipLine (l : Lexer) : Lexer := l.skipWhile fun c => !isBreak c

/-- Steps over blanks and a comment up to the end of the line, and over that. -/
def endLine (l : Lexer) : Option Lexer :=
  let l := l.skipWhile isSpaceOrTab
  let l := if l.rest.head? = some '#' then l.skipLine else l
  if lineEnds l.rest then some l.advance else none

def emit (l : Lexer) (t : Token) : Lexer :=
  { l with tokens := t :: l.tokens, count := l.count + 1 }

def emitAt (l : Lexer) (place : Nat) (ts : List Token) : Lexer :=
  let later := l.count - place
  { l with
    tokens := l.tokens.take later ++ ts.reverse ++ l.tokens.drop later
    count := l.count + ts.length }

/-! ### Blocks -/

/-- Whether a column is further in than the innermost block. -/
def isDeeper (l : Lexer) (column : Nat) : Bool := l.least ≤ column

/-- The tokens that open a block at a column, if none is open there. -/
def openBlock (l : Lexer) (column : Nat) (t : Token) : Lexer × List Token :=
  if !l.inFlow && l.isDeeper column then ({ l with indents := column :: l.indents }, [t])
  else (l, [])

/-- Closes blocks that are open further in than asked for. -/
def closeWhile (deeper : Nat → Bool) : List Nat → Lexer → Lexer
  | [], l => { l with indents := [] }
  | indent :: outer, l =>
    if deeper indent then closeWhile deeper outer (l.emit .blockEnd)
    else { l with indents := indent :: outer }

def closeBlocks (l : Lexer) (column : Nat) : Lexer :=
  if l.inFlow then l else closeWhile (column < ·) l.indents l

def closeAllBlocks (l : Lexer) : Lexer :=
  if l.inFlow then l else closeWhile (fun _ => true) l.indents l

/-! ### Candidates -/

/-- Whether a key at a candidate can no longer be: it must be on one line and not too long. -/
def isStale (l : Lexer) (c : Candidate) : Bool := c.line < l.line || c.offset + 1024 < l.offset

/-- Forgets stale candidates; one that is required must not be stale. -/
def dropStale (l : Lexer) : Option Lexer :=
  if l.candidates.any fun c => c.any fun c => c.required && l.isStale c then none
  else
    some { l with candidates := l.candidates.map fun c => c.filter fun c => !l.isStale c }

/-- Forgets the innermost candidate. -/
def dropCandidate (l : Lexer) : Option Lexer :=
  match l.candidates with
  | some c :: outer =>
    if c.required then none else some { l with candidates := none :: outer }
  | _ => some l

/-- Keeps this place as a candidate, if a key may start here. -/
def saveCandidate (l : Lexer) : Option Lexer :=
  if l.keyAllowed then do
    let l ← l.dropCandidate
    let required := !l.inFlow && l.indents.head? = some l.column
    let here : Candidate := ⟨l.count, l.line, l.column, l.offset, required⟩
    some { l with candidates := some here :: l.candidates.drop 1 }
  else some l

/-! ### Between tokens -/

/-- Steps over blanks, comments and line breaks, and over a byte order mark at the start of a line.
Behind a line break a key may start; a tab may not stand where a key may. -/
def skipBlanks : Nat → Lexer → Lexer
  | 0, l => l
  | fuel + 1, l =>
    match l.rest with
    | [] => l
    | c :: _ =>
      if c = ' ' || c = '\t' && (l.inFlow || !l.keyAllowed) || c = '\uFEFF' && l.column = 0 then
        skipBlanks fuel l.advance
      else if c = '#' then skipBlanks fuel l.skipLine
      else if isBreak c then
        let l := l.advance
        skipBlanks fuel (if l.inFlow then l else { l with keyAllowed := true })
      else l

end Lexer

end Mcp.Yaml
