import Mcp.Record

/-!
Reading typed values from JSON.
-/

namespace Mcp.Json

abbrev Reader (α : Type) := Json → Except Mismatch α

instance : Nullable Json := ⟨fun v => .ok v.isNull⟩

namespace Reader

def refuse {α : Type} (v : Json) (expected : String) : Except Mismatch α :=
  .error (.wrongType v.found expected)

/-- Any value as it is. -/
def any : Reader Json := .ok

def text : Reader String
  | .str s => .ok s
  | v => refuse v "a string"

/-- A text that names a file. -/
def path : Reader String
  | .str s => .ok s
  | v => refuse v "path string"

def boolean : Reader Bool
  | .bool b => .ok b
  | v => refuse v "a boolean"

/-- A signed integer of 64 bits. -/
def signed : Reader Int
  | .num (.int n) =>
    if -0x8000000000000000 ≤ n ∧ n < 0x8000000000000000 then .ok n else .error (.outOfRange n "i64")
  | v => refuse v "i64"

/-- An unsigned integer of 64 bits. -/
def unsigned : Reader Nat
  | .num (.int n) =>
    if 0 ≤ n ∧ n < 0x10000000000000000 then .ok n.toNat else .error (.outOfRange n "u64")
  | v => refuse v "u64"

/-- Reads each item in turn; the first unfit one is reported. -/
def each {α : Type} (read : Reader α) : List Json → Except Mismatch (List α)
  | [] => .ok []
  | v :: rest => do
    let a ← read v
    let more ← each read rest
    .ok (a :: more)

def list {α : Type} (read : Reader α) : Reader (List α)
  | .arr items => each read items
  | v => refuse v "a sequence"

def eachMember {α : Type} (read : Reader α) :
    List (String × Json) → Except Mismatch (List (String × α))
  | [] => .ok []
  | (key, v) :: rest => do
    let a ← read v
    let more ← eachMember read rest
    .ok ((key, a) :: more)

/-- An object with any keys and values of one type. -/
def map {α : Type} (read : Reader α) : Reader (List (String × α))
  | .obj members => eachMember read members
  | v => refuse v "a map"

/-- One of several names, as a text or as the only key of an object with the value null. -/
def choice {α : Type} (names : List (String × α)) : Reader α
  | .str s => named s
  | .obj [(key, v)] => do
    let a ← named key
    if v.isNull then .ok a else refuse v "unit"
  | .obj _ => .error .notOneKey
  | v => refuse v "string or map"
where
  named (s : String) : Except Mismatch α :=
    match names.lookup s with
    | some a => .ok a
    | none => .error (.unknownVariant s (names.map Prod.fst))

def firstOf {α : Type} (type : String) (forms : List (Reader α)) : Reader α := fun v =>
  match forms.findSome? fun read => (read v).toOption with
  | some a => .ok a
  | none => .error (.noVariant type)

end Reader

def record {α : Type} (type : String) (r : Record Json α) : Reader α
  | .obj members => r.ofMembers members
  | .arr items => r.ofItems ("struct " ++ type) "fewer elements in array" items
  | v => Reader.refuse v ("struct " ++ type)

def namedVariant {α : Type} (variants : List (Variant Json α)) : Reader (Variant Json α)
  | .str s =>
    match variants.find? fun v => v.name = s with
    | some v => .ok v
    | none => .error (.unknownVariant s (variants.map Variant.name))
  | v => Reader.refuse v "variant identifier"

/-- Reads a record whose field `tag` names the variant. Given as an array, the tag comes first. -/
def tagged {α : Type} (type tag : String) (variants : List (Variant Json α)) : Reader α
  | .obj members =>
    match Members.lookup members tag with
    | some name => do
      let variant ← namedVariant variants name
      variant.record.ofMembers (members.filter fun m => m.1 ≠ tag)
    | none => .error (.missingField tag)
  | .arr [] => .error (.missingField tag)
  | .arr (name :: items) => do
    let variant ← namedVariant variants name
    variant.record.ofItems ("struct variant " ++ type ++ "::" ++ variant.title)
      (Record.elements variant.record.rules.length ++ " in sequence") items
  | v => Reader.refuse v ("internally tagged enum " ++ type)

/-- Members for the fields that have a value. -/
def present (fields : List (String × Option Json)) : List (String × Json) :=
  fields.filterMap fun (key, value) => value.map (key, ·)

end Mcp.Json
