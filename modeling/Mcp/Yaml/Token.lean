/-!
The tokens of a YAML text, and the characters that tell them apart. Lines, columns and indentation
are gone from tokens: blocks are marked by tokens where they start and end.
-/

namespace Mcp.Yaml

/-- How a scalar is written. -/
inductive Style where
  /-- Without quotes. -/
  | plain
  /-- As a block whose lines are kept. -/
  | literal
  /-- In quotes, or as a block whose lines are joined. -/
  | other
  deriving DecidableEq, Repr

inductive Token where
  /-- A directive before a document, of which nothing but its presence matters. -/
  | versionDirective
  | tagDirective (handle : String) (expansion : List UInt8)
  | documentStart
  | documentEnd
  | blockSequence
  | blockMapping
  | blockEnd
  | flowSequence
  | flowSequenceEnd
  | flowMapping
  | flowMappingEnd
  /-- The dash before an item. -/
  | item
  /-- The comma between items. -/
  | comma
  | key
  | value
  | anchor (name : String)
  | alias (name : String)
  /-- A tag in bytes; with no handle, the whole of it. -/
  | tag (handle : String) (suffix : List UInt8)
  | scalar (text : String) (style : Style)
  deriving DecidableEq, Repr

/-- The characters that a text may hold. -/
def isPrintable (c : Char) : Bool :=
  let n := c.toNat
  n == 0x09 || n == 0x0A || n == 0x0D || (0x20 ≤ n && n ≤ 0x7E) || n == 0x85 ||
    (0xA0 ≤ n && n ≤ 0xD7FF) || (0xE000 ≤ n && n ≤ 0xFFFD) || 0x10000 ≤ n

def isSpaceOrTab (c : Char) : Bool := c = ' ' || c = '\t'

/-- The text with a line feed for each line break, but for the separators of lines and of
paragraphs: these stay as they are. -/
def joinLineEnds : List Char → List Char
  | [] => []
  | '\r' :: '\n' :: rest => '\n' :: joinLineEnds rest
  | '\r' :: rest => '\n' :: joinLineEnds rest
  | '\u0085' :: rest => '\n' :: joinLineEnds rest
  | c :: rest => c :: joinLineEnds rest

/-- Whether a line ends at a character. -/
def isBreak (c : Char) : Bool := c = '\n' || c = '\u2028' || c = '\u2029'

def isInk (c : Char) : Bool := !isSpaceOrTab c && !isBreak c

/-- Whether a blank, a line break or the end of the text comes. -/
def blankNext (cs : List Char) : Bool := cs.head?.all fun c => !isInk c

/-- Whether a line break or the end of the text comes. -/
def lineEnds (cs : List Char) : Bool := cs.head?.all isBreak

def isNameChar (c : Char) : Bool := c.isAlphanum || c = '_' || c = '-'

def isFlowMark (c : Char) : Bool :=
  c = ',' || c = '[' || c = ']' || c = '\x7b' || c = '\x7d'

/-- Whether three dashes or dots stand here, with a blank behind them. -/
def isDocumentMark (cs : List Char) : Bool :=
  (cs.take 3 = ['-', '-', '-'] || cs.take 3 = ['.', '.', '.']) && blankNext (cs.drop 3)

/-- The value of a hexadecimal digit. -/
def hexDigit? (c : Char) : Option Nat :=
  if c.isDigit then some (c.toNat - 48)
  else if 'a' ≤ c ∧ c ≤ 'f' then some (c.toNat - 87)
  else if 'A' ≤ c ∧ c ≤ 'F' then some (c.toNat - 55)
  else none

def hexNumber? (digits : List Char) : Option Nat := do
  let values ← digits.mapM hexDigit?
  some (values.foldl (fun n d => n * 16 + d) 0)

end Mcp.Yaml
