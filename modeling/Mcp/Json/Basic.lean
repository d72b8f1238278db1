import Mcp.Decimal.Binary64
import Mcp.Members

/-!
JSON values. A number is an integer of 64 bits, signed or unsigned, or a binary64 number. An
object is a list of members; `Ordered` says that the keys of every object ascend, which is how
free values are kept, while a record that is written out keeps the order of its declaration.
-/

namespace Mcp

inductive Json.Number where
  | int (n : Int)
  | real (x : Decimal.Binary64)
  deriving DecidableEq, Repr, Inhabited

inductive Json where
  | null
  | bool (b : Bool)
  | num (n : Json.Number)
  | str (s : String)
  | arr (items : List Json)
  | obj (members : List (String × Json))
  deriving Repr, BEq, Inhabited

namespace Json

/-- The integers that a number can hold exactly: those of 64 bits, signed or unsigned. -/
def Number.leastInt : Int := -0x8000000000000000

def Number.greatestInt : Int := 0xffffffffffffffff

/-- An integer as a value. -/
def ofInt (n : Int) : Json := .num (.int n)

def ofNat (n : Nat) : Json := .num (.int n)

/-- The value under a key of an object. -/
def get? : Json → String → Option Json
  | .obj members, key => Members.lookup members key
  | _, _ => none

def isNull : Json → Bool
  | .null => true
  | _ => false

/-- The text of a string value. -/
def str? : Json → Option String
  | .str s => some s
  | _ => none

def bool? : Json → Option Bool
  | .bool b => some b
  | _ => none

def arr? : Json → Option (List Json)
  | .arr items => some items
  | _ => none

def obj? : Json → Option (List (String × Json))
  | .obj members => some members
  | _ => none

def int? : Json → Option Int
  | .num (.int n) => some n
  | _ => none

/-- The value of a natural number. -/
def nat? : Json → Option Nat
  | .num (.int (.ofNat n)) => some n
  | _ => none

def ofOption (value : Option Json) : Json := value.getD .null

mutual

/-- The value with the members of every object in ascending order of their keys. -/
def canonical : Json → Json
  | .arr items => .arr (canonicalItems items)
  | .obj members => .obj (Members.ofList (canonicalMembers members))
  | .null => .null
  | .bool b => .bool b
  | .num n => .num n
  | .str s => .str s
termination_by structural v => v

def canonicalItems : List Json → List Json
  | [] => []
  | v :: rest => v.canonical :: canonicalItems rest
termination_by structural vs => vs

def canonicalMembers : List (String × Json) → List (String × Json)
  | [] => []
  | (k, v) :: rest => (k, v.canonical) :: canonicalMembers rest
termination_by structural ms => ms

end

mutual

/-- How many arrays and objects stand inside one another. -/
def depth : Json → Nat
  | .arr items => depthItems items + 1
  | .obj members => depthMembers members + 1
  | .null => 0
  | .bool _ => 0
  | .num _ => 0
  | .str _ => 0
termination_by structural v => v

def depthItems : List Json → Nat
  | [] => 0
  | v :: rest => max v.depth (depthItems rest)
termination_by structural vs => vs

def depthMembers : List (String × Json) → Nat
  | [] => 0
  | (_, v) :: rest => max v.depth (depthMembers rest)
termination_by structural ms => ms

end

end Json

end Mcp
