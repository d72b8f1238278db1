import Mcp.Text.Utf8

/-!
Tags: what the writer of a text says of the kind of a node. Of the tags of the core schema those
count that a scalar is read by.
-/

namespace Mcp.Yaml

inductive Tag where
  | boolean
  | integer
  | real
  | null
  /-- A tag of the writer's own. -/
  | own (name : String)
  /-- A tag of the writer's own whose bytes are no text, so that it says nothing. -/
  | garbled
  /-- Any other tag. -/
  | foreign
  deriving DecidableEq, Repr

namespace Tag

/-- What tags of the core schema start with. -/
def core : String := "tag:yaml.org,2002:"

def ofBytes (bytes : List UInt8) : Tag :=
  let name := Text.decodeText bytes
  if name = core ++ "bool" then .boolean
  else if name = core ++ "int" then .integer
  else if name = core ++ "float" then .real
  else if name = core ++ "null" then .null
  else if name.startsWith "!" then if Text.isText bytes then .own name else .garbled
  else .foreign

/-- Whether a tag is defined by whoever wrote the text, and not by the core schema. -/
def isOwn : Tag → Bool
  | .own _ => true
  | _ => false

end Tag

end Mcp.Yaml
