import Mcp.Schema.Root
import Mcp.Json.Printer

/-!
Settings: who the client is and how long it waits, what is logged, and how each server is reached.
-/

namespace Mcp.Config

open Json (Mismatch Reader)
open Schema (Root)

/-- The client's name, timeouts in seconds, and roots. -/
structure ClientSettings where
  name : String
  version : String
  requestTimeout : Nat
  initializationTimeout : Nat
  closeTimeout : Nat
  roots : List Root
  deriving DecidableEq, Repr, Inhabited

namespace ClientSettings

def default : ClientSettings := ⟨"mcplink", "0.1.0", 30, 30, 5, []⟩

def toJson (c : ClientSettings) : Json :=
  .obj
    [("name", .str c.name), ("version", .str c.version),
      ("request_timeout_seconds", .ofNat c.requestTimeout),
      ("initialization_timeout_seconds", .ofNat c.initializationTimeout),
      ("close_timeout_seconds", .ofNat c.closeTimeout), ("roots", .arr (c.roots.map Root.toJson))]

def record (ν : Type) [Source ν] : Record ν ClientSettings :=
  Record.pure ClientSettings.mk
    |>.field (.withDefault "name" Source.text default.name)
    |>.field (.withDefault "version" Source.text default.version)
    |>.field (.withDefault "request_timeout_seconds" Source.unsigned default.requestTimeout)
    |>.field
      (.withDefault "initialization_timeout_seconds" Source.unsigned default.initializationTimeout)
    |>.field (.withDefault "close_timeout_seconds" Source.unsigned default.closeTimeout)
    |>.field (.withDefault "roots" (Source.list Root.read) default.roots)

def read {ν : Type} [Source ν] : ν → Except Mismatch ClientSettings :=
  Source.record "ClientConfig" (record ν)

end ClientSettings

/-- What is logged, and where. -/
structure LogSettings where
  level : String
  jsonFormat : Bool
  filePath : Option String
  deriving DecidableEq, Repr, Inhabited

namespace LogSettings

def default : LogSettings := ⟨"warn", false, none⟩

def toJson (l : LogSettings) : Json :=
  .obj
    [("level", .str l.level), ("json_format", .bool l.jsonFormat),
      ("file_path", .ofOption (l.filePath.map .str))]

def record (ν : Type) [Source ν] : Record ν LogSettings :=
  Record.pure LogSettings.mk
    |>.field (.withDefault "level" Source.text default.level)
    |>.field (.withDefault "json_format" Source.boolean default.jsonFormat)
    |>.field (.withDefault "file_path" (orNull Source.path) default.filePath)

def read {ν : Type} [Source ν] : ν → Except Mismatch LogSettings :=
  Source.record "LoggingConfig" (record ν)

end LogSettings

/-- A server that is a child process. -/
structure Program where
  command : String
  arguments : List String
  environment : List (String × String)
  directory : Option String
  /-- Whether the child sees the environment of this process. -/
  inherits : Bool
  deriving DecidableEq, Repr, Inhabited

/-- A server that is reached over the network. Its timeout is in seconds. -/
structure Remote where
  url : String
  headers : List (String × String)
  endpointTimeout : Nat
  deriving DecidableEq, Repr, Inhabited

inductive Server where
  | stdio (program : Program)
  | sse (remote : Remote)
  deriving DecidableEq, Repr, Inhabited

namespace Server

def kind : Server → String
  | .stdio _ => "stdio"
  | .sse _ => "sse"

/-- The command line or the URL. -/
def target : Server → String
  | .stdio p => " ".intercalate (p.command :: p.arguments)
  | .sse r => r.url

/-- Texts under keys as an object. -/
def texts (items : List (String × String)) : Json :=
  .obj (items.map fun (key, value) => (key, .str value))

def toJson : Server → Json
  | .stdio p =>
    .obj
      [("transport", .str "stdio"), ("command", .str p.command),
        ("args", .arr (p.arguments.map .str)), ("env", texts p.environment),
        ("working_dir", .ofOption (p.directory.map .str)), ("inherit_env", .bool p.inherits)]
  | .sse r =>
    .obj
      [("transport", .str "sse"), ("url", .str r.url), ("headers", texts r.headers),
        ("endpoint_timeout_seconds", .ofNat r.endpointTimeout)]

def variants : List (Variant Json Server) :=
  [⟨"stdio", "Stdio",
      Record.pure (fun a b c d e => Server.stdio ⟨a, b, c, d, e⟩)
        |>.field (.required "command" Reader.text)
        |>.field (.withDefault "args" (Reader.list Reader.text) [])
        |>.field (.withDefault "env" (Reader.map Reader.text) [])
        |>.field (.withDefault "working_dir" (orNull Reader.path) none)
        |>.field (.withDefault "inherit_env" Reader.boolean true)⟩,
    ⟨"sse", "Sse",
      Record.pure (fun a b c => Server.sse ⟨a, b, c⟩)
        |>.field (.required "url" Reader.text)
        |>.field (.withDefault "headers" (Reader.map Reader.text) [])
        |>.field (.withDefault "endpoint_timeout_seconds" Reader.unsigned 30)⟩]

def read {ν : Type} [Source ν] : ν → Except Mismatch Server :=
  Source.tagged "ServerConfig" "transport" variants

end Server

end Mcp.Config

namespace Mcp

structure Config where
  client : Config.ClientSettings
  logging : Config.LogSettings
  servers : List (String × Config.Server)
  deriving DecidableEq, Repr, Inhabited

namespace Config

def default : Config := ⟨ClientSettings.default, LogSettings.default, []⟩

def toJson (c : Config) : Json :=
  .obj
    [("client", c.client.toJson), ("logging", c.logging.toJson),
      ("servers", .obj (c.servers.map fun (name, server) => (name, server.toJson)))]

def record (ν : Type) [Source ν] : Record ν Config :=
  Record.pure Config.mk
    |>.field (.withDefault "client" ClientSettings.read default.client)
    |>.field (.withDefault "logging" LogSettings.read default.logging)
    |>.field
      (.withDefault "servers" (fun v => (Source.map Server.read v).map Members.ofList)
        default.servers)

def read {ν : Type} [Source ν] : ν → Except Json.Mismatch Config :=
  Source.record "Config" (record ν)

end Config

end Mcp
