import Mcp.Decimal.Real
import Mcp.Json.Parser

/-!
What a plain scalar stands for, after the core schema of YAML 1.2: null, a boolean, an integer, a
number, or else the text that it is.
-/

namespace Mcp.Yaml

/-- Whether a plain scalar stands for null. An empty one does too. -/
def isNullWord (s : String) : Bool := ["", "~", "null", "Null", "NULL"].contains s

def boolean? (s : String) : Option Bool :=
  if ["true", "True", "TRUE"].contains s then some true
  else if ["false", "False", "FALSE"].contains s then some false
  else none

def digit? (base : Nat) (c : Char) : Option Nat :=
  (Json.hexValue? c).bind fun n => if n < base then some n else none

/-- The number that digits write; there must be some. -/
def digits? (base : Nat) (cs : List Char) : Option Nat :=
  if cs.isEmpty then none
  else cs.foldl (fun n c => n.bind fun n => (digit? base c).map (n * base + ·)) (some 0)

/-- The digits without their sign. -/
def unsigned (cs : List Char) : List Char :=
  match cs with
  | '+' :: rest => rest
  | '-' :: rest => rest
  | cs => cs

/-- Whether zeros stand before other digits, which makes a text of them. -/
def hasLeadingZero (cs : List Char) : Bool :=
  match unsigned cs with
  | '0' :: c :: rest => (c :: rest).all Char.isDigit
  | _ => false

/-- The number that a mark of its base and digits write. -/
def basedNat? : List Char → Option Nat
  | '0' :: 'x' :: rest => digits? 16 rest
  | '0' :: 'o' :: rest => digits? 8 rest
  | '0' :: 'b' :: rest => digits? 2 rest
  | _ => none

/-- The natural number that a text writes. -/
def natural? (cs : List Char) : Option Nat :=
  let body :=
    match cs with
    | '+' :: rest => rest
    | cs => cs
  match basedNat? body with
  | some n => some n
  | none => if hasLeadingZero cs then none else digits? 10 body

/-- The integer that a text writes, however large. -/
def anyInteger? (cs : List Char) : Option Int :=
  match cs with
  | '-' :: rest =>
    match basedNat? rest with
    | some n => some (-n)
    | none => if hasLeadingZero cs then none else (digits? 10 rest).map fun n => -(n : Int)
  | cs => (natural? cs).map Int.ofNat

/-- The integer of at most 128 bits that a text writes. -/
def integer? (cs : List Char) : Option Int :=
  (anyInteger? cs).filter fun n =>
    -(Nat.pow 2 127 : Nat) ≤ n && n < (Nat.pow 2 128 : Nat)

/-- Whether a text writes a finite number, or infinity or no number in the words for them. -/
def isReal (cs : List Char) : Bool :=
  [".inf", ".Inf", ".INF"].contains (String.ofList (unsigned cs)) ||
    [".nan", ".NaN", ".NAN"].contains (String.ofList cs) ||
    match Decimal.Real.ofText? (String.ofList cs) with
    | some (.finite _) => true
    | _ => false

/-- What a plain scalar stands for. -/
inductive Meaning where
  | null
  | bool (b : Bool)
  | int (n : Int)
  /-- Some number that is no integer; which one is of no interest. -/
  | real
  | text
  deriving DecidableEq, Repr

/-- Reads a plain scalar. An integer of more than 128 bits is a number of the other kind if it is
written in decimal digits, and else a text. -/
def meaning (s : String) : Meaning :=
  if isNullWord s then .null
  else
    match boolean? s with
    | some b => .bool b
    | none =>
      match integer? s.toList with
      | some n => .int n
      | none => if !hasLeadingZero s.toList && isReal s.toList then .real else .text

end Mcp.Yaml
