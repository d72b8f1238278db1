import Mcp.Schema.Content
import Mcp.Schema.Page

/-!
Tools, calls of them and their answers.
-/

namespace Mcp.Schema

open Json (Reader)

structure Tool where
  name : String
  description : Option String
  /-- What arguments the tool takes; null if the server does not say. -/
  inputSchema : Json
  annotations : Option Json
  deriving Repr, BEq, Inhabited

namespace Tool

def toJson (t : Tool) : Json :=
  .obj (Json.present
    [("name", some (.str t.name)), ("description", t.description.map .str),
      ("inputSchema", some t.inputSchema), ("annotations", t.annotations)])

def record : Record Json Tool :=
  Record.pure Tool.mk
    |>.field (.required "name" Reader.text)
    |>.field (.optional "description" Reader.text)
    |>.field (.withDefault "inputSchema" Reader.any .null)
    |>.field (.optional "annotations" Reader.any)

def reader : Reader Tool := Json.record "McpTool" record

def pageReader : Reader (Page Tool) := Json.record "ListToolsResponse" (Page.record "tools" reader)

def pageToJson : Page Tool → Json := Page.toJson "tools" toJson

end Tool

structure ToolCall where
  name : String
  arguments : Option Json
  deriving Repr, BEq, Inhabited

namespace ToolCall

def toJson (c : ToolCall) : Json :=
  .obj (Json.present [("name", some (.str c.name)), ("arguments", c.arguments)])

def record : Record Json ToolCall :=
  Record.pure ToolCall.mk
    |>.field (.required "name" Reader.text)
    |>.field (.optional "arguments" Reader.any)

def reader : Reader ToolCall := Json.record "CallToolParams" record

end ToolCall

structure ToolResult where
  content : List Content
  /-- Whether the tool itself reports an error. -/
  isError : Option Bool
  deriving Repr, BEq, Inhabited

namespace ToolResult

def toJson (r : ToolResult) : Json :=
  .obj (Json.present
    [("content", some (.arr (r.content.map Content.toJson))), ("isError", r.isError.map .bool)])

def record : Record Json ToolResult :=
  Record.pure ToolResult.mk
    |>.field (.withDefault "content" (Reader.list (Content.reader "ToolResponseContent")) [])
    |>.field (.optional "isError" Reader.boolean)

def reader : Reader ToolResult := Json.record "CallToolResponse" record

/-- The texts of an answer, one to a line. -/
def text (r : ToolResult) : String :=
  "\n".intercalate (r.content.filterMap fun c =>
    match c with
    | .text text => some text
    | _ => none)

/-- Whether the answer is flagged as an error. -/
def failed (r : ToolResult) : Bool := r.isError == some true

end ToolResult

end Mcp.Schema
