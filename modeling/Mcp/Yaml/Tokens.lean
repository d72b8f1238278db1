import Mcp.Yaml.Lexer.Property
import Mcp.Yaml.Lexer.Scalar

/-!
All tokens of a text, one after another: the first character of each tells which it is.
-/

namespace Mcp.Yaml

namespace Lexer

def documentMark (l : Lexer) (t : Token) : Option Lexer := do
  let l ← l.closeAllBlocks.dropCandidate
  some ((skip 3 { l with keyAllowed := false }).emit t)

def flowOpen (l : Lexer) (t : Token) : Option Lexer := do
  let l ← l.saveCandidate
  some ({ l.advance with candidates := none :: l.candidates, keyAllowed := true }.emit t)

def flowClose (l : Lexer) (t : Token) : Option Lexer := do
  let l ← l.dropCandidate
  let candidates := if l.inFlow then l.candidates.drop 1 else l.candidates
  some ({ l.advance with candidates, keyAllowed := false }.emit t)

def flowComma (l : Lexer) : Option Lexer := do
  let l ← l.dropCandidate
  some ({ l.advance with keyAllowed := true }.emit .comma)

/-- Opens a block at this column; outside flow collections it must be one where a key may start. -/
def enterBlock (l : Lexer) (t : Token) : Option Lexer :=
  if l.inFlow then some l
  else if !l.keyAllowed then none
  else
    let (l, opened) := l.openBlock l.column t
    some (opened.foldl emit l)

def blockItem (l : Lexer) : Option Lexer := do
  let l ← l.enterBlock .blockSequence
  let l ← l.dropCandidate
  some ({ l.advance with keyAllowed := true }.emit .item)

def explicitKey (l : Lexer) : Option Lexer := do
  let l ← l.enterBlock .blockMapping
  let l ← l.dropCandidate
  some ({ l.advance with keyAllowed := !l.inFlow }.emit .key)

/-- A colon: what the innermost candidate started is a key. -/
def mappingValue (l : Lexer) : Option Lexer :=
  match l.candidates with
  | some c :: outer =>
    let (l, opened) := l.openBlock c.column .blockMapping
    let l := { l with candidates := none :: outer }.emitAt c.place (opened ++ [Token.key])
    some ({ l.advance with keyAllowed := false }.emit .value)
  | _ => do
    let l ← l.enterBlock .blockMapping
    some ({ l.advance with keyAllowed := !l.inFlow }.emit .value)

def startsPlain (l : Lexer) (c : Char) (rest : List Char) : Bool :=
  if c = '-' then !blankNext rest
  else if c = '?' || c = ':' then !l.inFlow && !blankNext rest
  else
    !(isFlowMark c ||
      ['\t', '#', '&', '*', '!', '|', '>', '\x27', '\x22', '%', '@', '\x60'].contains c)

def token (l : Lexer) (c : Char) (rest : List Char) : Option Lexer :=
  if l.column = 0 && c = '%' then l.directive
  else if l.column = 0 && isDocumentMark l.rest then
    l.documentMark (if c = '-' then .documentStart else .documentEnd)
  else if c = '[' then l.flowOpen .flowSequence
  else if c = '\x7b' then l.flowOpen .flowMapping
  else if c = ']' then l.flowClose .flowSequenceEnd
  else if c = '\x7d' then l.flowClose .flowMappingEnd
  else if c = ',' then l.flowComma
  else if c = '-' && blankNext rest then l.blockItem
  else if c = '?' && (l.inFlow || blankNext rest) then l.explicitKey
  else if c = ':' && (l.inFlow || blankNext rest) then l.mappingValue
  else if c = '*' then l.name .alias
  else if c = '&' then l.name .anchor
  else if c = '!' then l.tag
  else if c = '|' && !l.inFlow then l.block true
  else if c = '>' && !l.inFlow then l.block false
  else if c = '\x27' || c = '\x22' then l.quoted c
  else if l.startsPlain c rest then l.plain
  else none

def run : Nat → Lexer → Option Lexer
  | 0, _ => none
  | fuel + 1, l => do
    let l := skipBlanks l.fuel l
    let l ← l.dropStale
    match l.rest with
    | [] =>
      let l := { l with line := l.line + 1 }.closeAllBlocks
      l.dropCandidate
    | c :: rest =>
      let l := l.closeBlocks l.column
      run fuel (← l.token c rest)

end Lexer

def tokens (text : String) : Option (List Token) := do
  let cs := text.toList
  if cs.all isPrintable then
    let l := Lexer.start (joinLineEnds cs)
    let l ← l.run l.fuel
    some l.tokens.reverse
  else none

end Mcp.Yaml
