/-!
Patterns of the shell: a star stands for any characters, a question mark for one, and brackets for
one of a set.
-/

namespace Mcp.Shell

/-- A character of a word, and whether it may have a meaning of its own. -/
abbrev Glyph := Char × Bool

inductive Item where
  | one (c : Char)
  | any
  /-- Any number of any characters. -/
  | run
  | set (negated : Bool) (ranges : List (Char × Char))
  deriving DecidableEq, Repr

namespace Pattern

/-- The ends of a list, the longest first. -/
def suffixes {α : Type} : List α → List (List α)
  | [] => [[]]
  | a :: rest => (a :: rest) :: suffixes rest

def inSet (ranges : List (Char × Char)) (c : Char) : Bool :=
  ranges.any fun r => r.1 ≤ c && c ≤ r.2

def fits : List Item → List Char → Bool
  | [], cs => cs.isEmpty
  | .run :: rest, cs => (suffixes cs).any (fits rest)
  | .one c :: rest, d :: cs => c = d && fits rest cs
  | .any :: rest, _ :: cs => fits rest cs
  | .set negated ranges :: rest, d :: cs => inSet ranges d != negated && fits rest cs
  | _ :: _, [] => false

/-- The ranges in brackets: characters with dashes between some of them. -/
def ranges : List Char → List (Char × Char)
  | a :: '-' :: b :: rest => (a, b) :: ranges rest
  | a :: rest => (a, a) :: ranges rest
  | [] => []

/-- The set behind an opening bracket, and what follows the closing one. -/
def bracket? (gs : List Glyph) : Option (Item × Nat) :=
  let (negated, body) :=
    match gs with
    | ('!', true) :: rest => (true, rest)
    | ('^', true) :: rest => (true, rest)
    | gs => (false, gs)
  let signs := if negated then 1 else 0
  -- A closing bracket that comes first is in the set.
  let first := body.take 1
  let inside := first ++ (body.drop 1).takeWhile (· ≠ (']', true))
  if body.length ≤ inside.length then none
  else some (.set negated (ranges (inside.map Prod.fst)), signs + inside.length + 1)

def ofGlyphs : Nat → List Glyph → List Item
  | 0, _ => []
  | _, [] => []
  | fuel + 1, (c, active) :: rest =>
    if !active then .one c :: ofGlyphs fuel rest
    else if c = '*' then .run :: ofGlyphs fuel rest
    else if c = '?' then .any :: ofGlyphs fuel rest
    else if c = '[' then
      match bracket? rest with
      | some (item, length) => item :: ofGlyphs fuel (rest.drop length)
      | none => .one c :: ofGlyphs fuel rest
    else .one c :: ofGlyphs fuel rest

def ofWord (gs : List Glyph) : List Item := ofGlyphs gs.length gs

/-- How long a start of a text is that fits, the shortest or the longest. -/
def startLength? (longest : Bool) (p : List Item) (cs : List Char) : Option Nat :=
  let lengths := List.range (cs.length + 1)
  (if longest then lengths.reverse else lengths).find? fun n => fits p (cs.take n)

/-- A text without the start that fits a pattern. -/
def cutStart (longest : Bool) (p : List Item) (cs : List Char) : List Char :=
  match startLength? longest p cs with
  | some n => cs.drop n
  | none => cs

/-- A text without the end that fits a pattern. -/
def cutEnd (longest : Bool) (p : List Item) (cs : List Char) : List Char :=
  let lengths := List.range (cs.length + 1)
  let kept := if longest then lengths else lengths.reverse
  match kept.find? fun n => fits p (cs.drop n) with
  | some n => cs.take n
  | none => cs

end Pattern

end Mcp.Shell
