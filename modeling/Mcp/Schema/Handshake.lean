import Mcp.Json.Record
import Mcp.Client.Lifecycle

/-!
The handshake: who the two sides are, what each offers, and the protocol versions that are
understood.
-/

namespace Mcp.Schema

open Json (Reader)

/-- The protocol versions understood, oldest first. -/
def supportedVersions : List String := ["2024-11-05", "2025-03-26"]

/-- The version offered to a server. -/
def latestVersion : String := "2025-03-26"

/-- The name and version of a client or server. -/
structure Implementation where
  name : String
  version : String
  deriving Repr, BEq, Inhabited

namespace Implementation

def toJson (i : Implementation) : Json :=
  .obj [("name", .str i.name), ("version", .str i.version)]

def record : Record Json Implementation :=
  Record.pure Implementation.mk
    |>.field (.required "name" Reader.text)
    |>.field (.required "version" Reader.text)

def reader : Reader Implementation := Json.record "Implementation" record

end Implementation

/-- Whether a client announces changes of its roots. -/
structure RootsCapability where
  listChanged : Option Bool
  deriving Repr, BEq, Inhabited

namespace RootsCapability

def toJson (c : RootsCapability) : Json :=
  .obj (Json.present [("listChanged", c.listChanged.map .bool)])

def record : Record Json RootsCapability :=
  Record.pure RootsCapability.mk |>.field (.optional "listChanged" Reader.boolean)

def reader : Reader RootsCapability := Json.record "RootsCapability" record

end RootsCapability

structure ClientCapabilities where
  experimental : Option Json
  roots : Option RootsCapability
  sampling : Option Json
  deriving Repr, BEq, Inhabited

namespace ClientCapabilities

def toJson (c : ClientCapabilities) : Json :=
  .obj (Json.present
    [("experimental", c.experimental), ("roots", c.roots.map RootsCapability.toJson),
      ("sampling", c.sampling)])

def record : Record Json ClientCapabilities :=
  Record.pure ClientCapabilities.mk
    |>.field (.optional "experimental" Reader.any)
    |>.field (.optional "roots" RootsCapability.reader)
    |>.field (.optional "sampling" Reader.any)

def reader : Reader ClientCapabilities := Json.record "ClientCapabilities" record

end ClientCapabilities

/-- What a server offers: a part is offered if it has a value, whatever the value. -/
structure ServerCapabilities where
  experimental : Option Json
  logging : Option Json
  prompts : Option Json
  resources : Option Json
  tools : Option Json
  deriving Repr, BEq, Inhabited

namespace ServerCapabilities

def none : ServerCapabilities := ⟨.none, .none, .none, .none, .none⟩

def toJson (c : ServerCapabilities) : Json :=
  .obj (Json.present
    [("experimental", c.experimental), ("logging", c.logging), ("prompts", c.prompts),
      ("resources", c.resources), ("tools", c.tools)])

def record : Record Json ServerCapabilities :=
  Record.pure ServerCapabilities.mk
    |>.field (.optional "experimental" Reader.any)
    |>.field (.optional "logging" Reader.any)
    |>.field (.optional "prompts" Reader.any)
    |>.field (.optional "resources" Reader.any)
    |>.field (.optional "tools" Reader.any)

def reader : Reader ServerCapabilities := Json.record "ServerCapabilities" record

def offers (c : ServerCapabilities) : Client.Capability → Bool
  | .tools => c.tools.isSome
  | .resources => c.resources.isSome
  | .prompts => c.prompts.isSome
  | .logging => c.logging.isSome
  | .experimental => c.experimental.isSome

end ServerCapabilities

structure Offer where
  protocolVersion : String
  capabilities : ClientCapabilities
  clientInfo : Implementation
  deriving Repr, BEq, Inhabited

namespace Offer

def toJson (o : Offer) : Json :=
  .obj
    [("protocolVersion", .str o.protocolVersion), ("capabilities", o.capabilities.toJson),
      ("clientInfo", o.clientInfo.toJson)]

def record : Record Json Offer :=
  Record.pure Offer.mk
    |>.field (.required "protocolVersion" Reader.text)
    |>.field (.required "capabilities" ClientCapabilities.reader)
    |>.field (.required "clientInfo" Implementation.reader)

def reader : Reader Offer := Json.record "InitializeParams" record

end Offer

structure Agreement where
  protocolVersion : String
  capabilities : ServerCapabilities
  serverInfo : Implementation
  instructions : Option String
  deriving Repr, BEq, Inhabited

namespace Agreement

def toJson (a : Agreement) : Json :=
  .obj (Json.present
    [("protocolVersion", some (.str a.protocolVersion)),
      ("capabilities", some a.capabilities.toJson), ("serverInfo", some a.serverInfo.toJson),
      ("instructions", a.instructions.map .str)])

def record : Record Json Agreement :=
  Record.pure Agreement.mk
    |>.field (.required "protocolVersion" Reader.text)
    |>.field (.withDefault "capabilities" ServerCapabilities.reader ServerCapabilities.none)
    |>.field (.required "serverInfo" Implementation.reader)
    |>.field (.optional "instructions" Reader.text)

def reader : Reader Agreement := Json.record "InitializeResponse" record

/-- Whether the version chosen is one that is understood. -/
def isSupported (a : Agreement) : Bool := supportedVersions.contains a.protocolVersion

end Agreement

end Mcp.Schema
