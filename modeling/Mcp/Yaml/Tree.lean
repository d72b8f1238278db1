import Mcp.Yaml.Tag
import Mcp.Yaml.Tokens

/-!
The document of a YAML text as it is written: a tree in which a node may have a number, and another
place may name that number instead of a node. A text holds at most one document.
-/

namespace Mcp.Yaml

inductive Tree where
  | scalar (text : String) (style : Style) (tag : Option Tag)
  | sequence (items : List Tree) (tag : Option Tag)
  | mapping (members : List (Tree × Tree)) (tag : Option Tag)
  /-- A node with a number. -/
  | anchored (number : Nat) (node : Tree)
  /-- The node with a number. -/
  | alias (number : Nat)
  deriving Repr, Inhabited

namespace Tree

/-- What stands where nothing is written. -/
def blank : Tree := .scalar "" .plain none

/-- The tokens that are left, the numbers that names stand for, and what the handles of tags stand
for. -/
structure Cursor where
  rest : List Token
  numbers : List (String × Nat)
  handles : List (String × List UInt8)

abbrev Reading := StateT Cursor Option

/-! ### Tokens -/

def peek : Reading (Option Token) := do return (← get).rest.head?

/-- Steps over a token. -/
def skip : Reading Unit := modify fun c => { c with rest := c.rest.drop 1 }

/-- Steps over a token if it is the next one. -/
def accept (t : Token) : Reading Bool := do
  if (← peek) = some t then
    skip
    return true
  else return false

def expect (t : Token) : Reading Unit := do
  unless ← accept t do failure

def isNext (ts : List Token) : Reading Bool := do return (← peek).any fun t => ts.contains t

/-! ### Names and tags -/

/-- What stands before a node: a name for it, and a tag. -/
structure Properties where
  anchor : Option String
  tag : Option Tag

def anchor? : Reading (Option String) := do
  match ← peek with
  | some (.anchor name) =>
    skip
    return some name
  | _ => return none

/-- The tag in full: its handle is replaced by what it stands for. -/
def tag? : Reading (Option Tag) := do
  match ← peek with
  | some (.tag handle suffix) =>
    skip
    if handle = "" then return some (.ofBytes suffix)
    else
      match (← get).handles.lookup handle with
      | some expansion => return some (.ofBytes (expansion ++ suffix))
      | none => failure
  | _ => return none

/-- A name and a tag, in either order. -/
def properties : Reading Properties := do
  match ← anchor? with
  | some name => return ⟨some name, ← tag?⟩
  | none =>
    let tag ← tag?
    if tag.isSome then return ⟨← anchor?, tag⟩ else return ⟨none, none⟩

def number (name : String) : Reading Nat := do
  match (← get).numbers.lookup name with
  | some n => return n
  | none => failure

/-- Lets a name stand for the number of names so far. A name that is used again counts once, and so
the next new name takes its number over. -/
def define (name : String) : Reading Nat :=
  modifyGet fun c =>
    let n := c.numbers.length
    (n, { c with numbers := (name, n) :: c.numbers.filter fun m => m.1 ≠ name })

/-! ### Nodes -/

/-- A name or a tag before nothing. -/
def absent (p : Properties) : Reading Tree :=
  if p.anchor.isSome || p.tag.isSome then pure (.scalar "" .plain p.tag) else failure

mutual

/-- A node. Only where `block` holds may it be a block, and only where `indentless` holds may the
items of a sequence stand in the column of what is around it. -/
def node (block indentless : Bool) : Nat → Reading Tree
  | 0 => failure
  | fuel + 1 => do
    match ← peek with
    | some (.alias name) =>
      skip
      return .alias (← number name)
    | _ =>
      let p ← properties
      match p.anchor with
      | some name =>
        let n ← define name
        return .anchored n (← content block indentless p fuel)
      | none => content block indentless p fuel

/-- A node without what stands before it. -/
def content (block indentless : Bool) (p : Properties) : Nat → Reading Tree
  | 0 => failure
  | fuel + 1 => do
    match ← peek with
    | some (.scalar text style) =>
      skip
      return .scalar text style p.tag
    | some .item =>
      if indentless then return .sequence (← looseItems fuel) p.tag else absent p
    | some .flowSequence =>
      skip
      return .sequence (← flowItems true fuel) p.tag
    | some .flowMapping =>
      skip
      return .mapping (← flowMembers true fuel) p.tag
    | some .blockSequence =>
      if block then
        skip
        return .sequence (← blockItems fuel) p.tag
      else absent p
    | some .blockMapping =>
      if block then
        skip
        return .mapping (← blockMembers fuel) p.tag
      else absent p
    | _ => absent p

def blockItems : Nat → Reading (List Tree)
  | 0 => failure
  | fuel + 1 => do
    if ← accept .item then
      let n ← if ← isNext [.item, .blockEnd] then pure blank else node true false fuel
      return n :: (← blockItems fuel)
    else
      expect .blockEnd
      return []

/-- The items of a sequence that is no block of its own. -/
def looseItems : Nat → Reading (List Tree)
  | 0 => failure
  | fuel + 1 => do
    if ← accept .item then
      let n ←
        if ← isNext [.item, .key, .value, .blockEnd] then pure blank else node true false fuel
      return n :: (← looseItems fuel)
    else return []

def blockMembers : Nat → Reading (List (Tree × Tree))
  | 0 => failure
  | fuel + 1 => do
    if ← accept .key then
      let k ← blockPart fuel
      let v ← if ← accept .value then blockPart fuel else pure blank
      return (k, v) :: (← blockMembers fuel)
    else
      expect .blockEnd
      return []

/-- A key or a value in a block. -/
def blockPart : Nat → Reading Tree
  | 0 => failure
  | fuel + 1 => do
    if ← isNext [.key, .value, .blockEnd] then return blank else node true true fuel

/-- The items between brackets up to the closing one. -/
def flowItems (first : Bool) : Nat → Reading (List Tree)
  | 0 => failure
  | fuel + 1 => do
    if ← accept .flowSequenceEnd then return []
    else
      unless first do expect .comma
      if ← accept .flowSequenceEnd then return []
      else
        let n ← if ← accept .key then flowPair fuel else node false false fuel
        return n :: (← flowItems false fuel)

/-- A mapping of one member that is written without braces. -/
def flowPair : Nat → Reading Tree
  | 0 => failure
  | fuel + 1 => do
    let k ←
      if ← isNext [.value, .comma, .flowSequenceEnd] then do
        skip
        pure blank
      else node false false fuel
    let v ← if ← accept .value then flowPart .flowSequenceEnd fuel else pure blank
    return .mapping [(k, v)] none

/-- The members between braces up to the closing one. -/
def flowMembers (first : Bool) : Nat → Reading (List (Tree × Tree))
  | 0 => failure
  | fuel + 1 => do
    if ← accept .flowMappingEnd then return []
    else
      unless first do expect .comma
      if ← accept .flowMappingEnd then return []
      else if ← accept .key then
        let k ← if ← isNext [.value] then pure blank else flowPart .flowMappingEnd fuel
        let v ← if ← accept .value then flowPart .flowMappingEnd fuel else pure blank
        return (k, v) :: (← flowMembers false fuel)
      else
        let k ← node false false fuel
        return (k, blank) :: (← flowMembers false fuel)

/-- A key or a value before a comma or a closing mark. -/
def flowPart (closing : Token) : Nat → Reading Tree
  | 0 => failure
  | fuel + 1 => do
    if ← isNext [.comma, closing] then return blank else node false false fuel

end

/-! ### Documents -/

def handle? : Token → Option (String × List UInt8)
  | .tagDirective handle expansion => some (handle, expansion)
  | _ => none

def isDirective : Token → Bool
  | .versionDirective => true
  | .tagDirective .. => true
  | _ => false

def isBoundary : Token → Bool
  | .documentStart => true
  | .documentEnd => true
  | t => isDirective t

def allDifferent (names : List String) : Bool := decide names.Nodup

/-- The handles that need no directive. -/
def standingHandles : List (String × List UInt8) :=
  [("!", Text.encode "!"), ("!!", Text.encode Tag.core)]

/-- The directives before a document: the version once, each handle once. -/
def directives : Reading (List Token) := do
  let ds := (← get).rest.takeWhile isDirective
  let handles := ds.filterMap handle?
  if 1 < ds.count .versionDirective || !allDifferent (handles.map Prod.fst) then failure
  modify fun c => { c with rest := c.rest.drop ds.length, handles := handles ++ standingHandles }
  return ds

/-- The only document of a text; where there is none, a blank one. -/
def document : Reading Tree := do
  let fuel := 4 * (← get).rest.length + 4
  let ds ← directives
  match ← peek with
  | some .documentStart =>
    skip
    if (← peek).all isBoundary then return blank else node true false fuel
  | some _ => if ds.isEmpty then node true false fuel else failure
  | none => if ds.isEmpty then return blank else failure

def parse? (text : String) : Option Tree := do
  let ts ← tokens text
  let (n, c) ← document.run ⟨ts, [], []⟩
  if c.rest.all (· = .documentEnd) then some n else none

end Tree

end Mcp.Yaml
