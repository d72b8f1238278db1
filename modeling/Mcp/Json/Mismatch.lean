import Mcp.Json.Printer
import Mcp.Text.Quoted

/-!
Why a JSON value is not of the type that was asked for, and the wording of each cause.
-/

namespace Mcp.Json

/-- What kind of value was found. -/
inductive Found where
  | null
  | bool (b : Bool)
  | num (n : Number)
  | str (s : String)
  | sequence
  | map
  deriving DecidableEq, Repr

/-- Why a value does not have the type asked for. -/
inductive Mismatch where
  /-- A record lacks a field. -/
  | missingField (name : String)
  /-- A value of another kind stands where something is expected. -/
  | wrongType (found : Found) (expected : String)
  /-- An integer does not fit the integers expected. -/
  | outOfRange (n : Int) (expected : String)
  /-- A name is none of the names of a choice. -/
  | unknownVariant (name : String) (known : List String)
  /-- A value is none of several forms of the type named. -/
  | noVariant (type : String)
  /-- A choice is an object without exactly one member. -/
  | notOneKey
  /-- A record given as an array ends before its fields are filled. -/
  | tooFewItems (count : Nat) (expected : String)
  /-- A record given as an array goes on behind its last field. -/
  | tooManyItems (count : Nat) (expected : String)
  /-- Another error in its own words. -/
  | other (text : String)
  deriving DecidableEq, Repr

/-- The kind of a value. -/
def found : Json → Found
  | .null => .null
  | .bool b => .bool b
  | .num n => .num n
  | .str s => .str s
  | .arr _ => .sequence
  | .obj _ => .map

def Found.describe : Found → String
  | .null => "null"
  | .bool b => "boolean `" ++ (if b then "true" else "false") ++ "`"
  | .num (.int n) => "integer `" ++ toString n ++ "`"
  | .num (.real x) => "floating point `" ++ Number.write (.real x) ++ "`"
  | .str s => "string " ++ Text.quoted s
  | .sequence => "sequence"
  | .map => "map"

def alternatives (names : List String) : String :=
  let quoted := names.map fun name => "`" ++ name ++ "`"
  match quoted with
  | [] => "there are no variants"
  | [a] => "expected " ++ a
  | [a, b] => "expected " ++ a ++ " or " ++ b
  | _ => "expected one of " ++ ", ".intercalate quoted

def Mismatch.message : Mismatch → String
  | .missingField name => "missing field `" ++ name ++ "`"
  | .wrongType found expected => "invalid type: " ++ found.describe ++ ", expected " ++ expected
  | .outOfRange n expected =>
    "invalid value: integer `" ++ toString n ++ "`, expected " ++ expected
  | .unknownVariant name known => "unknown variant `" ++ name ++ "`, " ++ alternatives known
  | .noVariant type => "data did not match any variant of untagged enum " ++ type
  | .notOneKey => "invalid value: map, expected map with a single key"
  | .tooFewItems count expected =>
    "invalid length " ++ toString count ++ ", expected " ++ expected
  | .tooManyItems count expected =>
    "invalid length " ++ toString count ++ ", expected " ++ expected
  | .other text => text

end Mcp.Json
