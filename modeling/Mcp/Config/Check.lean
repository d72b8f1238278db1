import Mcp.Config.Basic
import Mcp.Error
import Mcp.Url.Parser
import Mcp.Text.Blank

/-!
What is wrong with settings that can be read. Faults are listed in a fixed order: the client's
first, then those of each server in the order of names. `check` reports the first of them.
-/

namespace Mcp.Config

def blankFault (setting value : String) : List ConfigFault :=
  if Text.isBlankText value then [.blank setting] else []

def secondsFault (setting : String) (seconds : Nat) : List ConfigFault :=
  if seconds = 0 then [.notPositive setting] else []

/-- The fault of a URL that an event stream cannot be read from. -/
def schemeFault (server : String) (url : Url) : List ConfigFault :=
  if url.scheme = "http" || url.scheme = "https" then [] else [.badScheme server url.scheme]

def ClientSettings.faults (c : ClientSettings) : List ConfigFault :=
  blankFault "client.name" c.name ++
    secondsFault "client.request_timeout_seconds" c.requestTimeout ++
    secondsFault "client.initialization_timeout_seconds" c.initializationTimeout ++
    secondsFault "client.close_timeout_seconds" c.closeTimeout

def Server.faults (name : String) : Server → List ConfigFault
  | .stdio p => blankFault ("servers." ++ name ++ ".command") p.command
  | .sse r =>
    match Url.parse r.url with
    | .error cause => [.badUrl name cause]
    | .ok url =>
      schemeFault name url ++
        secondsFault ("servers." ++ name ++ ".endpoint_timeout_seconds") r.endpointTimeout

/-- All faults, in the order in which they are looked for. -/
def faults (c : Config) : List ConfigFault :=
  c.client.faults ++ c.servers.flatMap fun (name, server) => server.faults name

def check (c : Config) : Except Error Unit :=
  match c.faults with
  | [] => .ok ()
  | fault :: _ => .error (.config fault)

def server (c : Config) (name : String) : Except Error Server :=
  match Members.lookup c.servers name with
  | some server => .ok server
  | none => .error (.config (.unknownServer name (c.servers.map Prod.fst)))

end Mcp.Config
