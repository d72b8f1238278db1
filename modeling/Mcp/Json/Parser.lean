import Mcp.Json.Basic

/-!
Reading JSON text. A text fails in one of two ways: it ends inside a value, or it is no JSON at
some earlier place. Arrays and objects may stand inside one another up to a limit; of members with
one key the last counts.
-/

namespace Mcp.Json

/-- Why a text is no JSON value. -/
inductive SyntaxError where
  /-- The text ended inside a value. -/
  | unfinished
  /-- Some character, depth or number is refused. -/
  | malformed
  deriving DecidableEq, Repr

/-- The error of a text that goes on as `rest` where something else is needed. -/
def refuse (rest : List Char) : SyntaxError :=
  if rest.isEmpty then .unfinished else .malformed

def isSpace (c : Char) : Bool := c = ' ' || c = '\n' || c = '\t' || c = '\r'

def skipSpace (cs : List Char) : List Char := cs.dropWhile isSpace

def word (letters : List Char) (value : Json) (cs : List Char) :
    Except SyntaxError (Json × List Char) :=
  match letters, cs with
  | [], rest => .ok (value, rest)
  | _ :: _, [] => .error .unfinished
  | letter :: letters, c :: rest =>
    if c = letter then word letters value rest else .error .malformed

/-! ### Strings -/

def hexValue? (c : Char) : Option Nat :=
  if '0' ≤ c ∧ c ≤ '9' then some (c.toNat - 48)
  else if 'a' ≤ c ∧ c ≤ 'f' then some (c.toNat - 87)
  else if 'A' ≤ c ∧ c ≤ 'F' then some (c.toNat - 55)
  else none

/-- How many bytes a piece of text takes in UTF-8. -/
def byteCount : List Char → Nat
  | [] => 0
  | c :: cs => c.utf8Size + byteCount cs

/-- Reads four hexadecimal digits. A text of less than four more bytes has ended too early. -/
def hexUnit (cs : List Char) : Except SyntaxError (Nat × List Char) :=
  if byteCount (cs.take 4) < 4 then .error .unfinished
  else
    match cs with
    | a :: b :: c :: d :: rest =>
      match hexValue? a, hexValue? b, hexValue? c, hexValue? d with
      | some a, some b, some c, some d => .ok (((a * 16 + b) * 16 + c) * 16 + d, rest)
      | _, _, _, _ => .error .malformed
    | _ => .error .malformed

/-- Reads the second unit of a surrogate pair whose first unit is given. -/
def lowSurrogate (high : Nat) (cs : List Char) : Except SyntaxError (Char × List Char) :=
  match cs with
  | [] => .error .unfinished
  | '\\' :: rest =>
    match rest with
    | [] => .error .unfinished
    | 'u' :: rest => do
      let (low, rest) ← hexUnit rest
      if 0xDC00 ≤ low ∧ low ≤ 0xDFFF then
        .ok (Char.ofNat (0x10000 + (high - 0xD800) * 0x400 + (low - 0xDC00)), rest)
      else .error .malformed
    | _ => .error .malformed
  | _ => .error .malformed

/-- Reads what stands behind a backslash. -/
def escape (cs : List Char) : Except SyntaxError (Char × List Char) :=
  match cs with
  | [] => .error .unfinished
  | 'u' :: rest => do
    let (unit, rest) ← hexUnit rest
    if 0xDC00 ≤ unit ∧ unit ≤ 0xDFFF then .error .malformed
    else if 0xD800 ≤ unit ∧ unit ≤ 0xDBFF then lowSurrogate unit rest
    else .ok (Char.ofNat unit, rest)
  | c :: rest =>
    if c = '\x22' ∨ c = '\\' ∨ c = '/' then .ok (c, rest)
    else if c = 'b' then .ok ('\x08', rest)
    else if c = 'f' then .ok ('\x0c', rest)
    else if c = 'n' then .ok ('\n', rest)
    else if c = 'r' then .ok ('\r', rest)
    else if c = 't' then .ok ('\t', rest)
    else .error .malformed

/-- Reads the characters of a string up to its closing quote. The fuel bounds their number. -/
def stringTail (fuel : Nat) (cs : List Char) : Except SyntaxError (List Char × List Char) :=
  match fuel, cs with
  | 0, _ => .error .unfinished
  | _ + 1, [] => .error .unfinished
  | fuel + 1, c :: rest =>
    if c = '\x22' then .ok ([], rest)
    else if c = '\\' then do
      let (c, rest) ← escape rest
      let (tail, rest) ← stringTail fuel rest
      .ok (c :: tail, rest)
    else if c.toNat < 0x20 then .error .malformed
    else do
      let (tail, rest) ← stringTail fuel rest
      .ok (c :: tail, rest)

/-- Reads a string behind its opening quote. -/
def string (cs : List Char) : Except SyntaxError (String × List Char) := do
  let (chars, rest) ← stringTail (cs.length + 1) cs
  .ok (String.ofList chars, rest)

/-! ### Numbers -/

/-- The integer that a run of digits stands for. -/
def digitsValue (digits : List Char) (start : Nat) : Nat :=
  digits.foldl (fun n c => n * 10 + (c.toNat - 48)) start

/-- The digits that fit: those that keep the integer that they extend below `2 ^ 64`. -/
def takeFitting (value : Nat) : List Char → Nat × List Char
  | [] => (value, [])
  | c :: rest =>
    let next := value * 10 + (c.toNat - 48)
    if next < 0x10000000000000000 then takeFitting next rest else (value, c :: rest)

/-- Divides by `10 ^ 308` as long as the power of ten that is left has no binary64 number. The fuel
bounds the number of divisions. -/
def shrink (fuel : Nat) (x : Decimal.Binary64) (power : Nat) :
    Option (Decimal.Binary64 × Nat) :=
  match fuel with
  | 0 => some (Decimal.Binary64.zero x.negative, 0)
  | fuel + 1 =>
    if power ≤ 308 then some (x, power)
    else if x.isZero then some (x, 0)
    else do
      let step ← Decimal.Binary64.powerOfTen 308
      let y ← x.div step
      shrink fuel y (power - 308)

/-- The number `significand · 10 ^ exponent`: the significand is rounded, and then scaled by the
rounded power of ten. A number that is too large has no value. -/
def realOfDecimal (negative : Bool) (significand : Nat) (exponent : Int) :
    Option Decimal.Binary64 := do
  let x ← Decimal.Binary64.ofRatio negative significand 1
  if 0 ≤ exponent then
    if 308 < exponent then
      if x.isZero then some x else none
    else
      let scale ← Decimal.Binary64.powerOfTen exponent.toNat
      x.mul scale
  else
    let (x, power) ← shrink 8 x (-exponent).toNat
    let scale ← Decimal.Binary64.powerOfTen power
    x.div scale

/-- The real number of a significand and an exponent in front of `rest`. -/
def finishReal (negative : Bool) (significand : Nat) (exponent : Int) (rest : List Char) :
    Except SyntaxError (Number × List Char) :=
  match realOfDecimal negative significand exponent with
  | some x => .ok (.real x, rest)
  | none => .error .malformed

/-- Reads an exponent behind its `e`. An exponent of more than 31 bits stands for zero or for a
number that is too large. -/
def exponentPart (negative : Bool) (significand : Nat) (exponent : Int) (cs : List Char) :
    Except SyntaxError (Number × List Char) :=
  let (down, cs) :=
    match cs with
    | '+' :: rest => (false, rest)
    | '-' :: rest => (true, rest)
    | cs => (false, cs)
  match cs with
  | [] => .error .unfinished
  | c :: _ =>
    if c.isDigit then
      let digits := cs.takeWhile Char.isDigit
      let rest := cs.dropWhile Char.isDigit
      let value := digitsValue digits 0
      if 0x80000000 ≤ value then
        if significand ≠ 0 ∧ !down then .error .malformed
        else .ok (.real (Decimal.Binary64.zero negative), rest)
      else
        finishReal negative significand (if down then exponent - value else exponent + value) rest
    else .error .malformed

def optionalExponent (negative : Bool) (significand : Nat) (exponent : Int) (cs : List Char) :
    Except SyntaxError (Number × List Char) :=
  match cs with
  | 'e' :: rest => exponentPart negative significand exponent rest
  | 'E' :: rest => exponentPart negative significand exponent rest
  | cs => finishReal negative significand exponent cs

/-- Reads the digits behind a point. Digits that the significand cannot take are dropped. -/
def fractionPart (negative : Bool) (significand : Nat) (exponent : Int) (cs : List Char) :
    Except SyntaxError (Number × List Char) :=
  let digits := cs.takeWhile Char.isDigit
  let rest := cs.dropWhile Char.isDigit
  if digits.isEmpty then .error (refuse rest)
  else
    let (value, dropped) := takeFitting significand digits
    let taken := digits.length - dropped.length
    optionalExponent negative value (exponent - taken) rest

/-- The integer with a sign; one below the signed integers of 64 bits, and a negative zero, is a
real number. -/
def integer (negative : Bool) (significand : Nat) (rest : List Char) :
    Except SyntaxError (Number × List Char) :=
  if !negative then .ok (.int significand, rest)
  else if 0 < significand ∧ significand ≤ 0x8000000000000000 then
    .ok (.int (-(significand : Int)), rest)
  else finishReal true significand 0 rest

/-- Reads a number behind its sign. -/
def number (negative : Bool) (cs : List Char) : Except SyntaxError (Number × List Char) :=
  match cs with
  | [] => .error .unfinished
  | c :: after =>
    if c = '0' then
      match after with
      | d :: _ =>
        if d.isDigit then .error .malformed else fractional 0 0 after
      | [] => fractional 0 0 after
    else if c.isDigit then
      let digits := cs.takeWhile Char.isDigit
      let rest := cs.dropWhile Char.isDigit
      let (value, dropped) := takeFitting 0 digits
      if dropped.isEmpty then fractional value 0 rest
      else
        match rest with
        | '.' :: _ => fractional value dropped.length rest
        | _ => optionalExponent negative value dropped.length rest
    else .error .malformed
where
  fractional (value : Nat) (exponent : Nat) (rest : List Char) :
      Except SyntaxError (Number × List Char) :=
    match rest with
    | '.' :: rest => fractionPart negative value exponent rest
    | 'e' :: rest => exponentPart negative value exponent rest
    | 'E' :: rest => exponentPart negative value exponent rest
    | rest => integer negative value rest

/-! ### Values -/

mutual

/-- Reads a value behind white space. `levels` is how many arrays and objects may still open; the
fuel bounds the number of values. -/
def value (fuel levels : Nat) (cs : List Char) : Except SyntaxError (Json × List Char) :=
  match fuel with
  | 0 => .error .unfinished
  | fuel + 1 =>
    match cs with
    | [] => .error .unfinished
    | c :: rest =>
      if c = 'n' then word ['u', 'l', 'l'] .null rest
      else if c = 't' then word ['r', 'u', 'e'] (.bool true) rest
      else if c = 'f' then word ['a', 'l', 's', 'e'] (.bool false) rest
      else if c = '\x22' then do
        let (s, rest) ← string rest
        .ok (.str s, rest)
      else if c = '-' then do
        let (n, rest) ← number true rest
        .ok (.num n, rest)
      else if c.isDigit then do
        let (n, rest) ← number false (c :: rest)
        .ok (.num n, rest)
      else if c = '[' then
        match levels with
        | 0 => .error .malformed
        | levels + 1 =>
          match skipSpace rest with
          | ']' :: rest => .ok (.arr [], rest)
          | [] => .error .unfinished
          | rest => do
            let (items, rest) ← items fuel levels rest
            .ok (.arr items, rest)
      else if c = '\x7b' then
        match levels with
        | 0 => .error .malformed
        | levels + 1 =>
          match skipSpace rest with
          | '\x7d' :: rest => .ok (.obj [], rest)
          | [] => .error .unfinished
          | rest => do
            let (members, rest) ← members fuel levels rest
            .ok (.obj (Members.ofList members), rest)
      else .error .malformed
termination_by structural fuel

/-- Reads one item and those behind it, up to the closing bracket. -/
def items (fuel levels : Nat) (cs : List Char) : Except SyntaxError (List Json × List Char) :=
  match fuel with
  | 0 => .error .unfinished
  | fuel + 1 => do
    let (item, rest) ← value fuel levels cs
    match skipSpace rest with
    | ']' :: rest => .ok ([item], rest)
    | ',' :: rest =>
      match skipSpace rest with
      | ']' :: _ => .error .malformed
      | rest => do
        let (more, rest) ← items fuel levels rest
        .ok (item :: more, rest)
    | rest => .error (refuse rest)
termination_by structural fuel

/-- Reads one member and those behind it, up to the closing brace. -/
def members (fuel levels : Nat) (cs : List Char) :
    Except SyntaxError (List (String × Json) × List Char) :=
  match fuel with
  | 0 => .error .unfinished
  | fuel + 1 =>
    match cs with
    | '\x22' :: rest => do
      let (key, rest) ← string rest
      match skipSpace rest with
      | ':' :: rest => do
        let (item, rest) ← value fuel levels (skipSpace rest)
        match skipSpace rest with
        | '\x7d' :: rest => .ok ([(key, item)], rest)
        | ',' :: rest => do
          let (more, rest) ← members fuel levels (skipSpace rest)
          .ok ((key, item) :: more, rest)
        | rest => .error (refuse rest)
      | rest => .error (refuse rest)
    | rest => .error (refuse rest)
termination_by structural fuel

end

/-- The value that a text stands for, with at most `levels` arrays and objects inside one
another. -/
def parseWithin (levels : Nat) (text : String) : Except SyntaxError Json := do
  let cs := text.toList
  let (v, rest) ← value (2 * cs.length + 2) levels (skipSpace cs)
  if (skipSpace rest).isEmpty then .ok v else .error .malformed

/-- How many arrays and objects may stand inside one another. -/
def levelLimit : Nat := 127

/-- The value that a text stands for. -/
def parse (text : String) : Except SyntaxError Json := parseWithin levelLimit text

end Mcp.Json
