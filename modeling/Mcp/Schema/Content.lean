import Mcp.Json.Record

/-!
Content: text, images and the contents of resources.
-/

namespace Mcp.Schema

open Json (Reader)

structure TextContents where
  uri : String
  mimeType : Option String
  text : String
  deriving Repr, BEq, Inhabited

namespace TextContents

def toJson (c : TextContents) : Json :=
  .obj (Json.present
    [("uri", some (.str c.uri)), ("mimeType", c.mimeType.map .str), ("text", some (.str c.text))])

def record : Record Json TextContents :=
  Record.pure TextContents.mk
    |>.field (.required "uri" Reader.text)
    |>.field (.optional "mimeType" Reader.text)
    |>.field (.required "text" Reader.text)

def reader : Reader TextContents := Json.record "TextResourceContents" record

end TextContents

/-- A resource's contents as bytes in base 64. -/
structure BlobContents where
  uri : String
  mimeType : Option String
  blob : String
  deriving Repr, BEq, Inhabited

namespace BlobContents

def toJson (c : BlobContents) : Json :=
  .obj (Json.present
    [("uri", some (.str c.uri)), ("mimeType", c.mimeType.map .str), ("blob", some (.str c.blob))])

def record : Record Json BlobContents :=
  Record.pure BlobContents.mk
    |>.field (.required "uri" Reader.text)
    |>.field (.optional "mimeType" Reader.text)
    |>.field (.required "blob" Reader.text)

def reader : Reader BlobContents := Json.record "BlobResourceContents" record

end BlobContents

/-- The contents of a resource: text if they read as text, else bytes. -/
inductive ResourceContents where
  | text (contents : TextContents)
  | blob (contents : BlobContents)
  deriving Repr, BEq, Inhabited

namespace ResourceContents

def toJson : ResourceContents → Json
  | .text contents => contents.toJson
  | .blob contents => contents.toJson

def reader : Reader ResourceContents :=
  Reader.firstOf "ResourceContents"
    [fun v => (TextContents.reader v).map .text, fun v => (BlobContents.reader v).map .blob]

end ResourceContents

/-- An item of a tool's answer or of a prompt, told apart by its `type`. -/
inductive Content where
  | text (body : String)
  | image (data mimeType : String)
  | resource (contents : ResourceContents)
  deriving Repr, BEq, Inhabited

namespace Content

def toJson : Content → Json
  | .text body => .obj [("type", .str "text"), ("text", .str body)]
  | .image data mimeType =>
    .obj [("type", .str "image"), ("data", .str data), ("mimeType", .str mimeType)]
  | .resource contents => .obj [("type", .str "resource"), ("resource", contents.toJson)]

def variants : List (Variant Json Content) :=
  [⟨"text", "Text", Record.pure Content.text |>.field (.required "text" Reader.text)⟩,
    ⟨"image", "Image",
      Record.pure Content.image
        |>.field (.required "data" Reader.text)
        |>.field (.required "mimeType" Reader.text)⟩,
    ⟨"resource", "Resource",
      Record.pure Content.resource |>.field (.required "resource" ResourceContents.reader)⟩]

def reader (type : String) : Reader Content := Json.tagged type "type" variants

end Content

end Mcp.Schema
