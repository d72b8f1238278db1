import Mcp.Schema.Content
import Mcp.Schema.Page

/-!
Resources and templates of resources.
-/

namespace Mcp.Schema

open Json (Reader)

structure Resource where
  uri : String
  name : String
  description : Option String
  mimeType : Option String
  deriving Repr, BEq, Inhabited

namespace Resource

def toJson (r : Resource) : Json :=
  .obj (Json.present
    [("uri", some (.str r.uri)), ("name", some (.str r.name)),
      ("description", r.description.map .str), ("mimeType", r.mimeType.map .str)])

def record : Record Json Resource :=
  Record.pure Resource.mk
    |>.field (.required "uri" Reader.text)
    |>.field (.required "name" Reader.text)
    |>.field (.optional "description" Reader.text)
    |>.field (.optional "mimeType" Reader.text)

def reader : Reader Resource := Json.record "Resource" record

def pageReader : Reader (Page Resource) :=
  Json.record "ListResourcesResponse" (Page.record "resources" reader)

def pageToJson : Page Resource → Json := Page.toJson "resources" toJson

end Resource

structure ResourceTemplate where
  uriTemplate : String
  name : String
  description : Option String
  mimeType : Option String
  deriving Repr, BEq, Inhabited

namespace ResourceTemplate

def toJson (r : ResourceTemplate) : Json :=
  .obj (Json.present
    [("uriTemplate", some (.str r.uriTemplate)), ("name", some (.str r.name)),
      ("description", r.description.map .str), ("mimeType", r.mimeType.map .str)])

def record : Record Json ResourceTemplate :=
  Record.pure ResourceTemplate.mk
    |>.field (.required "uriTemplate" Reader.text)
    |>.field (.required "name" Reader.text)
    |>.field (.optional "description" Reader.text)
    |>.field (.optional "mimeType" Reader.text)

def reader : Reader ResourceTemplate := Json.record "ResourceTemplate" record

def pageReader : Reader (Page ResourceTemplate) :=
  Json.record "ListResourceTemplatesResponse" (Page.record "resourceTemplates" reader)

def pageToJson : Page ResourceTemplate → Json := Page.toJson "resourceTemplates" toJson

end ResourceTemplate

structure ReadRequest where
  uri : String
  deriving Repr, BEq, Inhabited

namespace ReadRequest

def toJson (r : ReadRequest) : Json := .obj [("uri", .str r.uri)]

def record : Record Json ReadRequest :=
  Record.pure ReadRequest.mk |>.field (.required "uri" Reader.text)

def reader : Reader ReadRequest := Json.record "ReadResourceParams" record

end ReadRequest

/-- The contents of a resource, in one or more pieces. -/
structure ReadResult where
  contents : List ResourceContents
  deriving Repr, BEq, Inhabited

namespace ReadResult

def toJson (r : ReadResult) : Json :=
  .obj [("contents", .arr (r.contents.map ResourceContents.toJson))]

def record : Record Json ReadResult :=
  Record.pure ReadResult.mk |>.field (.required "contents" (Reader.list ResourceContents.reader))

def reader : Reader ReadResult := Json.record "ReadResourceResponse" record

end ReadResult

end Mcp.Schema
