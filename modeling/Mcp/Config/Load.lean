import Mcp.Config.Basic
import Mcp.Client.Basic
import Mcp.Error
import Mcp.Text.Utf8
import Mcp.Yaml.Reader

/-!
Where settings come from: a file, then variables of the environment, then the command line, each
taking precedence over what came before it.
-/

namespace Mcp.Config

/-- What stands at the place of a settings file. -/
inductive File where
  | missing
  /-- Something that cannot be read as a file. -/
  | unreadable
  | bytes (content : List UInt8)

/-- What of a settings file is looked at: values under other keys may be anything. -/
def extent : Yaml.Extent :=
  let known (keys : List String) := keys.map fun key => (key, Yaml.Extent.whole)
  .fields
    [("client",
      .fields
        (("roots", .items (.fields (known ["uri", "name"]))) ::
          known
            ["name", "version", "request_timeout_seconds", "initialization_timeout_seconds",
              "close_timeout_seconds"])),
      ("logging", .fields (known ["level", "json_format", "file_path"])),
      ("servers", .members .whole)]

def ofFile : File → Except Error Config
  | .missing => .ok default
  | .unreadable => .error (.config .unreadable)
  | .bytes content =>
    if Text.isText content then
      match (Yaml.Node.parse? extent (Text.decodeText content)).map read with
      | some (.ok c) => .ok c
      | _ => .error (.config .unparsable)
    else .error (.config .unreadable)

/-- The number of 64 bits that a text writes in decimal digits. -/
def seconds? (text : String) : Option Nat :=
  let digits :=
    match text.toList with
    | '+' :: rest => rest
    | cs => cs
  (Yaml.digits? 10 digits).filter (· < 0x10000000000000000)

structure Environment where
  requestTimeout : Option String
  initializationTimeout : Option String
  logLevel : Option String

/-- The variables that settings are taken from. -/
def Environment.names : List String :=
  ["MCPLINK_REQUEST_TIMEOUT_SECONDS", "MCPLINK_INITIALIZATION_TIMEOUT_SECONDS", "MCPLINK_LOG_LEVEL"]

/-- What the variables say, each under its name. -/
def Environment.ofVariables (value : String → Option String) : Environment where
  requestTimeout := value "MCPLINK_REQUEST_TIMEOUT_SECONDS"
  initializationTimeout := value "MCPLINK_INITIALIZATION_TIMEOUT_SECONDS"
  logLevel := value "MCPLINK_LOG_LEVEL"

/-- What the command line says. -/
structure Overrides where
  requestTimeout : Option Nat
  logLevel : Option String
  verbose : Bool

/-- Settings with what the environment says put in. A timeout that is no number is passed over. -/
def withEnvironment (e : Environment) (c : Config) : Config :=
  { c with
    client := { c.client with
      requestTimeout := (e.requestTimeout.bind seconds?).getD c.client.requestTimeout
      initializationTimeout :=
        (e.initializationTimeout.bind seconds?).getD c.client.initializationTimeout }
    logging := { c.logging with level := e.logLevel.getD c.logging.level } }

/-- The level that the command line asks for. -/
def Overrides.level (o : Overrides) (fallback : String) : String :=
  match o.logLevel with
  | some level => level
  | none => if o.verbose then "debug" else fallback

/-- Settings with what the command line says put in. -/
def withOverrides (o : Overrides) (c : Config) : Config :=
  { c with
    client := { c.client with
      requestTimeout := o.requestTimeout.getD c.client.requestTimeout }
    logging := { c.logging with level := o.level c.logging.level } }

def load (f : File) (e : Environment) (o : Overrides) : Except Error Config := do
  let c ← ofFile f
  .ok (withOverrides o (withEnvironment e c))

def ClientSettings.toSettings (c : ClientSettings) : Client.Settings :=
  { Client.Settings.default with
    info := ⟨c.name, c.version⟩
    roots := c.roots
    requestTimeout := c.requestTimeout * 1000
    initializationTimeout := c.initializationTimeout * 1000
    closeTimeout := c.closeTimeout * 1000 }

end Mcp.Config
