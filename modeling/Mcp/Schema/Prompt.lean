import Mcp.Schema.Content
import Mcp.Schema.Page

/-!
Prompts: what a server lists, and the messages that it makes of one.
-/

namespace Mcp.Schema

open Json (Reader)

inductive Role where
  | user
  | assistant
  deriving DecidableEq, Repr, Inhabited

namespace Role

def name : Role → String
  | .user => "user"
  | .assistant => "assistant"

def reader : Reader Role := Reader.choice [("user", .user), ("assistant", .assistant)]

end Role

structure PromptMessage where
  role : Role
  content : Content
  deriving Repr, BEq, Inhabited

namespace PromptMessage

def toJson (m : PromptMessage) : Json :=
  .obj [("role", .str m.role.name), ("content", m.content.toJson)]

def record : Record Json PromptMessage :=
  Record.pure PromptMessage.mk
    |>.field (.required "role" Role.reader)
    |>.field (.required "content" (Content.reader "MessageContent"))

def reader : Reader PromptMessage := Json.record "PromptMessage" record

end PromptMessage

structure PromptArgument where
  name : String
  description : Option String
  required : Option Bool
  deriving Repr, BEq, Inhabited

namespace PromptArgument

def toJson (a : PromptArgument) : Json :=
  .obj (Json.present
    [("name", some (.str a.name)), ("description", a.description.map .str),
      ("required", a.required.map .bool)])

def record : Record Json PromptArgument :=
  Record.pure PromptArgument.mk
    |>.field (.required "name" Reader.text)
    |>.field (.optional "description" Reader.text)
    |>.field (.optional "required" Reader.boolean)

def reader : Reader PromptArgument := Json.record "PromptArgument" record

end PromptArgument

structure Prompt where
  name : String
  description : Option String
  arguments : Option (List PromptArgument)
  deriving Repr, BEq, Inhabited

namespace Prompt

def toJson (p : Prompt) : Json :=
  .obj (Json.present
    [("name", some (.str p.name)), ("description", p.description.map .str),
      ("arguments", p.arguments.map fun items => .arr (items.map PromptArgument.toJson))])

def record : Record Json Prompt :=
  Record.pure Prompt.mk
    |>.field (.required "name" Reader.text)
    |>.field (.optional "description" Reader.text)
    |>.field (.optional "arguments" (Reader.list PromptArgument.reader))

def reader : Reader Prompt := Json.record "Prompt" record

def pageReader : Reader (Page Prompt) :=
  Json.record "ListPromptsResponse" (Page.record "prompts" reader)

def pageToJson : Page Prompt → Json := Page.toJson "prompts" toJson

end Prompt

/-- Which prompt is asked for, with its arguments by their names. -/
structure PromptRequest where
  name : String
  arguments : Option (List (String × String))
  deriving Repr, BEq, Inhabited

namespace PromptRequest

def toJson (r : PromptRequest) : Json :=
  .obj (Json.present
    [("name", some (.str r.name)),
      ("arguments", r.arguments.map fun items =>
        .obj (items.map fun (key, value) => (key, .str value)))])

def record : Record Json PromptRequest :=
  Record.pure PromptRequest.mk
    |>.field (.required "name" Reader.text)
    |>.field (.optional "arguments" (Reader.map Reader.text))

def reader : Reader PromptRequest := Json.record "GetPromptParams" record

end PromptRequest

structure PromptResult where
  description : Option String
  messages : List PromptMessage
  deriving Repr, BEq, Inhabited

namespace PromptResult

def toJson (r : PromptResult) : Json :=
  .obj (Json.present
    [("description", r.description.map .str),
      ("messages", some (.arr (r.messages.map PromptMessage.toJson)))])

def record : Record Json PromptResult :=
  Record.pure PromptResult.mk
    |>.field (.optional "description" Reader.text)
    |>.field (.required "messages" (Reader.list PromptMessage.reader))

def reader : Reader PromptResult := Json.record "GetPromptResponse" record

end PromptResult

end Mcp.Schema
