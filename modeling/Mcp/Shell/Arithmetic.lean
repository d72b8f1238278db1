/-!
Expressions of integers in the shell: names of variables, decimal numbers, the usual operators with
their precedence, and brackets.
-/

namespace Mcp.Shell.Arithmetic

/-- The operators of each precedence, the loosest first; longer ones before their beginnings. -/
def levels : List (List String) :=
  [["||"], ["&&"], ["|"], ["^"], ["&"], ["==", "!="], ["<=", ">=", "<", ">"], ["<<", ">>"],
    ["+", "-"], ["*", "/", "%"]]

def ofBool (b : Bool) : Int := if b then 1 else 0

/-- The value of an operation; none for a division by zero. -/
def apply (operator : String) (a b : Int) : Option Int :=
  match operator with
  | "||" => some (ofBool (a ≠ 0 || b ≠ 0))
  | "&&" => some (ofBool (a ≠ 0 && b ≠ 0))
  | "|" => some (a.toNat ||| b.toNat : Nat)
  | "^" => some (a.toNat ^^^ b.toNat : Nat)
  | "&" => some (a.toNat &&& b.toNat : Nat)
  | "==" => some (ofBool (a = b))
  | "!=" => some (ofBool (a ≠ b))
  | "<=" => some (ofBool (a ≤ b))
  | ">=" => some (ofBool (b ≤ a))
  | "<" => some (ofBool (a < b))
  | ">" => some (ofBool (b < a))
  | "<<" => some (a * Nat.pow 2 b.toNat)
  | ">>" => some (a / Nat.pow 2 b.toNat)
  | "+" => some (a + b)
  | "-" => some (a - b)
  | "*" => some (a * b)
  | "/" => if b = 0 then none else some (a.tdiv b)
  | "%" => if b = 0 then none else some (a.tmod b)
  | _ => none

def skip (cs : List Char) : List Char := cs.dropWhile fun c => c = ' ' || c = '\t' || c = '\n'

/-- Whether a text begins with an operator, and not with a longer one. -/
def startsWith (operator : String) (cs : List Char) : Bool :=
  let n := operator.length
  cs.take n = operator.toList &&
    !(n = 1 &&
      [['|', '|'], ['&', '&'], ['=', '='], ['<', '<'], ['>', '>'], ['<', '='], ['>', '=']].contains
        (cs.take 2))

mutual

/-- The value of operations of some precedence and tighter ones. -/
def level (look : String → Int) : Nat → List (List String) → List Char → Option (Int × List Char)
  | 0, _, _ => none
  | fuel + 1, [], cs => primary look fuel cs
  | fuel + 1, operators :: tighter, cs => do
    let (a, rest) ← level look fuel tighter cs
    chain look fuel operators tighter a rest

/-- More operations of one precedence, from the left. -/
def chain (look : String → Int) : Nat → List String → List (List String) → Int → List Char →
    Option (Int × List Char)
  | 0, _, _, _, _ => none
  | fuel + 1, operators, tighter, a, cs =>
    let cs := skip cs
    match operators.find? fun operator => startsWith operator cs with
    | none => some (a, cs)
    | some operator => do
      let (b, rest) ← level look fuel tighter (cs.drop operator.length)
      chain look fuel operators tighter (← apply operator a b) rest

def primary (look : String → Int) : Nat → List Char → Option (Int × List Char)
  | 0, _ => none
  | fuel + 1, cs =>
    match skip cs with
    | '(' :: rest => do
      let (a, rest) ← level look fuel levels rest
      match skip rest with
      | ')' :: rest => some (a, rest)
      | _ => none
    | '-' :: rest => do
      let (a, rest) ← primary look fuel rest
      some (-a, rest)
    | '+' :: rest => primary look fuel rest
    | '!' :: rest => do
      let (a, rest) ← primary look fuel rest
      some (ofBool (a = 0), rest)
    | c :: rest =>
      if c.isDigit then
        let cs := c :: rest
        (String.ofList (cs.takeWhile Char.isDigit)).toNat?.map fun n =>
          ((n : Int), cs.dropWhile Char.isDigit)
      else if c.isAlpha || c = '_' then
        let isNameChar (c : Char) : Bool := c.isAlphanum || c = '_'
        let cs := c :: rest
        some (look (String.ofList (cs.takeWhile isNameChar)), cs.dropWhile isNameChar)
      else none
    | [] => none

end

/-- The value of an expression; an empty one is zero. -/
def value? (look : String → Int) (text : String) : Option Int :=
  let cs := skip text.toList
  if cs.isEmpty then some 0
  else
    match level look (40 * (cs.length + 2)) levels cs with
    | some (n, rest) => if (skip rest).isEmpty then some n else none
    | none => none

end Mcp.Shell.Arithmetic
