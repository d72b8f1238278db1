import Mcp.Decimal.Shortest

/-!
Real numbers as texts write them: digits with a point and an exponent, or the words for infinity and
for what is no number. They are written without an exponent, however many zeros that takes.
-/

namespace Mcp.Decimal

inductive Real where
  | finite (x : Binary64)
  | infinite (negative : Bool)
  | undefined
  deriving DecidableEq, Repr

namespace Real

def value (digits : List Char) : Nat := digits.foldl (fun n c => n * 10 + (c.toNat - 48)) 0

/-- The number `digits · 10 ^ exponent`. An exponent beyond all numbers is not worked out. -/
def ofDigits (negative : Bool) (digits : List Char) (exponent : Int) : Real :=
  let n := value digits
  if n = 0 then .finite (.zero negative)
  else if 400 < exponent + digits.length then .infinite negative
  else if exponent + digits.length < -400 then .finite (.zero negative)
  else
    match Binary64.ofRatio negative (n * Nat.pow 10 exponent.toNat)
      (Nat.pow 10 (-exponent).toNat) with
    | some x => .finite x
    | none => .infinite negative

/-- The exponent behind a number, and zero where nothing is. -/
def exponent? (cs : List Char) : Option Int :=
  match cs with
  | [] => some 0
  | e :: rest =>
    let (down, digits) :=
      match rest with
      | '-' :: digits => (true, digits)
      | '+' :: digits => (false, digits)
      | digits => (false, digits)
    if (e = 'e' || e = 'E') && !digits.isEmpty && digits.all Char.isDigit then
      some (if down then -(value digits : Int) else value digits)
    else none

/-- A number without its sign. -/
def magnitude? (negative : Bool) (cs : List Char) : Option Real :=
  match String.ofList (cs.map Char.toLower) with
  | "inf" => some (.infinite negative)
  | "infinity" => some (.infinite negative)
  | "nan" => some .undefined
  | _ =>
    let whole := cs.takeWhile Char.isDigit
    let rest := cs.dropWhile Char.isDigit
    let (fraction, rest) :=
      match rest with
      | '.' :: after => (after.takeWhile Char.isDigit, after.dropWhile Char.isDigit)
      | rest => ([], rest)
    if whole.isEmpty && fraction.isEmpty then none
    else (exponent? rest).map fun e => ofDigits negative (whole ++ fraction) (e - fraction.length)

/-- The number that a text writes. -/
def ofText? (text : String) : Option Real :=
  match text.toList with
  | '-' :: cs => magnitude? true cs
  | '+' :: cs => magnitude? false cs
  | cs => magnitude? false cs

/-- The order of numbers by size; both zeros are equal, and what is no number equals itself only. -/
def order : Real → Real → Ordering
  | .finite x, .finite y => x.order y
  | .infinite a, .infinite b => compare b a
  | .infinite negative, _ => if negative then .lt else .gt
  | _, .infinite negative => if negative then .gt else .lt
  | .undefined, .undefined => .eq
  | .undefined, _ => .gt
  | _, .undefined => .lt

/-- All digits are written positionally, and a whole number without a point. -/
def layout : Layout := ⟨-400, 400, "", "e", "e-"⟩

def write : Real → String
  | .finite x => layout.write x
  | .infinite negative => if negative then "-inf" else "inf"
  | .undefined => "NaN"

end Real

end Mcp.Decimal
