import Mcp.Source
import Mcp.Yaml.Node
import Mcp.Yaml.Scalar

/-!
Reading typed values from YAML nodes. Texts take any scalar as it is written; numbers and booleans
take plain ones, and literal blocks with their tag; and where a list, a map or a record is wanted,
nothing at all stands for an empty one.
-/

namespace Mcp.Yaml.Node

open Json (Mismatch Found)

def found : Node → Found
  | .scalar text _ _ => .str text
  | .sequence _ _ => .sequence
  | .mapping _ _ => .map

def refuse {α : Type} (n : Node) (expected : String) : Except Mismatch α :=
  .error (.wrongType n.found expected)

/-- Whether nothing is written for a node. -/
def isBlank : Node → Bool
  | .scalar text style _ => text.isEmpty && style = .plain
  | _ => false

def isWrittenNull (word : String) : Bool := isNullWord word && !word.isEmpty

/-- Whether a node stands for null. With the tag for null, a plain scalar must. -/
def isNull (n : Node) : Except Mismatch Bool :=
  match n with
  | .scalar text .plain none => .ok (isNullWord text)
  | .scalar text .plain (some .null) => if isWrittenNull text then .ok true else n.refuse "null"
  | _ => .ok false

instance : Nullable Node := ⟨isNull⟩

def text (n : Node) : Except Mismatch String :=
  match n.text? with
  | some s => .ok s
  | none => n.refuse "a string"

/-- The text of a scalar that may be something else than a text: a plain one, or a literal block
with a tag. -/
def valueText? (tag : Tag) : Node → Option String
  | .scalar text .plain _ => some text
  | .scalar text .literal (some given) => if given = tag then some text else none
  | _ => none

def boolean (n : Node) : Except Mismatch Bool :=
  match (n.valueText? .boolean).bind boolean? with
  | some b => .ok b
  | none => n.refuse "a boolean"

/-- An unsigned integer of 64 bits, which has no minus sign even if it is zero. -/
def unsigned (n : Node) : Except Mismatch Nat :=
  match (n.valueText? .integer).bind fun text => natural? text.toList with
  | some i => if i < 0x10000000000000000 then .ok i else .error (.outOfRange i "u64")
  | none => n.refuse "u64"

def list {α : Type} (read : Node → Except Mismatch α) (n : Node) : Except Mismatch (List α) :=
  match n with
  | .sequence items _ => items.mapM read
  | n => if n.isBlank then .ok [] else n.refuse "a sequence"

/-- Reads a member whose key is a text. -/
def member {α : Type} (read : Node → Except Mismatch α) (m : Node × Node) :
    Except Mismatch (String × α) := do
  let key ← m.1.text
  let value ← read m.2
  .ok (key, value)

def map {α : Type} (read : Node → Except Mismatch α) (n : Node) :
    Except Mismatch (List (String × α)) :=
  match n with
  | .mapping members _ => members.mapM (member read)
  | n => if n.isBlank then .ok [] else n.refuse "a map"

/-- The first of some keys that stands in members more than once. -/
def repeated? {α : Type} (keys : List String) (members : List (String × α)) : Option String :=
  keys.find? fun key => 1 < (members.filter fun m => m.1 = key).length

def distinct {α : Type} (keys : List String) (members : List (String × α)) :
    Except Mismatch Unit :=
  match repeated? keys members with
  | some key => .error (.other ("duplicate field \x60" ++ key ++ "\x60"))
  | none => .ok ()

def record {α : Type} (type : String) (r : Record Node α) (n : Node) : Except Mismatch α :=
  match n with
  | .mapping members _ => do
    let named ← members.mapM (member .ok)
    distinct (r.rules.map Rule.key) named
    r.ofMembers named
  | n => if n.isBlank then r.ofMembers [] else n.refuse ("struct " ++ type)

/-! ### Nodes as JSON values -/

def isOwn (n : Node) : Bool := n.tag.any Tag.isOwn

/-- The value of an integer, if it is one of 64 bits. -/
def integerJson? (i : Int) : Option Json :=
  if -0x8000000000000000 ≤ i && i < 0x10000000000000000 then some (.ofInt i) else none

/-- The value of a plain scalar. Of a number that is no integer, only that it is one is kept. -/
def plainJson? (text : String) : Option Json :=
  match meaning text with
  | .null => some .null
  | .bool b => some (.bool b)
  | .int i => integerJson? i
  | .real => some (.num (.real (.zero false)))
  | .text => some (.str text)

/-- The value of a scalar without a tag. -/
def untaggedJson? (text : String) (style : Style) : Option Json :=
  if style = .plain then plainJson? text else some (.str text)

def scalarJson? (text : String) (style : Style) : Option Tag → Option Json
  | none => untaggedJson? text style
  | some .garbled => untaggedJson? text style
  | some .boolean => (boolean? text).map .bool
  | some .integer => (integer? text.toList).bind integerJson?
  | some .real => if isReal text.toList then some (.num (.real (.zero false))) else none
  | some .null => if isWrittenNull text then some .null else none
  | some .foreign => some (.str text)
  | some (.own _) => none

/-- A mapping as an object; with keys that are no texts, as the list of its members. -/
def objectJson (members : List (Json × Json)) : Json :=
  match members.mapM fun (k, v) => k.str?.map (·, v) with
  | some named => .obj (Members.ofList named)
  | none => .arr (members.map fun (k, v) => .arr [k, v])

/-- The value of a node in which no more than so many collections stand inside one another. -/
def json? : Nat → Node → Option Json
  | _, .scalar text style tag => scalarJson? text style tag
  | depth + 1, .sequence items tag =>
    if tag.any Tag.isOwn then none else (items.mapM (json? depth)).map .arr
  | depth + 1, .mapping members tag =>
    if tag.any Tag.isOwn then none
    else
      (members.mapM fun (k, v) => do some (← json? depth k, ← json? depth v)).map objectJson
  | _, _ => none

def json (n : Node) : Except Mismatch Json :=
  match n.json? maxDepth with
  | some v => .ok v
  | none => n.refuse "a value"

/-- The field that a key names: by its name, or by its place among the fields, which is written
without a minus sign. -/
def fieldName (fields : List String) (k : Node) : Except Mismatch (Option String) := do
  let key ← json k
  match key, k.text?.bind fun text => natural? text.toList with
  | .str s, _ => .ok (some s)
  | .num (.int _), some i => .ok fields[i]?
  | key, _ => .error (.wrongType key.found "field identifier")

def tagged {α : Type} (type tag : String) (variants : List (Variant Json α)) (n : Node) :
    Except Mismatch α :=
  if n.isOwn then n.refuse ("internally tagged enum " ++ type)
  else
    match n with
    | .sequence (name :: items) _ => do
      let name ← name.text
      let items ← items.mapM json
      Json.tagged type tag variants (.arr (.str name :: items))
    | .mapping members _ => do
      let keyed ← members.mapM fun m => do
        let key ← json m.1
        pure (key, m)
      let (tags, others) := keyed.partition fun m => m.1.str? = some tag
      match tags with
      | [(_, _, name)] => do
        let name ← name.text
        let variant ← Json.namedVariant variants (.str name)
        let fields := variant.record.rules.map Rule.key
        let named ← others.mapM fun (_, k, v) => do
          let field ← fieldName fields k
          let value ← json v
          pure (field.map (·, value))
        let named := named.filterMap id
        distinct fields named
        variant.record.ofMembers named
      | [] => .error (.missingField tag)
      | _ => .error (.other ("duplicate field \x60" ++ tag ++ "\x60"))
    | n => n.refuse ("internally tagged enum " ++ type)

instance : Source Node where
  text := text
  path := text
  boolean := boolean
  unsigned := unsigned
  list := list
  map := map
  record := record
  tagged := tagged

end Mcp.Yaml.Node
