import Mcp.Json.Parser
import Mcp.Message.Basic
import Mcp.Transport.Status
import Mcp.Client.Lifecycle
import Mcp.Url.Host

/-!
Errors by their causes, and the one place where each cause is worded.
-/

namespace Mcp

inductive ConfigFault where
  | unreadable
  | unparsable
  /-- A setting that must not be blank. -/
  | blank (setting : String)
  /-- A number of seconds that must be positive. -/
  | notPositive (setting : String)
  | badUrl (server : String) (cause : Url.Error)
  | badScheme (server scheme : String)
  | badLevel (level : String)
  | unknownServer (name : String) (known : List String)
  | argumentsNotObject
  | other (text : String)
  deriving DecidableEq, Repr

def ConfigFault.message : ConfigFault → String
  | .unreadable => "Failed to read config file"
  | .unparsable => "Failed to parse config"
  | .blank setting => setting ++ " cannot be empty"
  | .notPositive setting => setting ++ " must be greater than 0"
  | .badUrl server cause => "servers." ++ server ++ ".url is invalid: " ++ cause.message
  | .badScheme server scheme =>
    "servers." ++ server ++ ".url must use http or https, got " ++ scheme
  | .badLevel level => "Invalid log level `" ++ level ++ "`"
  | .unknownServer name known =>
    "Unknown server: " ++ name ++ ". Configured servers: " ++
      (if known.isEmpty then "(none)" else ", ".intercalate known)
  | .argumentsNotObject => "--args must be a JSON object"
  | .other text => text

/-- Why a transport could not be set up or used. -/
inductive TransportFault where
  /-- Sending was made to fail. -/
  | sendRefused
  /-- Nobody takes what is sent. -/
  | peerGone
  | unhealthy
  /-- A transport of the kind named is not connected. -/
  | notConnected (kind : String) (status : Transport.Status)
  | spawnFailed (command : String)
  | writeFailed
  | noProcess
  | exited (status : String)
  /-- The event stream ended before it named where to send. -/
  | noEndpoint
  /-- The event stream of a connected transport has ended. -/
  | streamOver
  /-- There is no connection to a server over the network. -/
  | unreachable (url : String)
  /-- A server could not be asked for its event stream. -/
  | streamFailed (url cause : String)
  /-- A server answered with another status than success when it was asked for its event stream. -/
  | streamRefused (url status : String)
  | postFailed (place cause : String)
  | postRefused (place status : String)
  | other (text : String)
  deriving DecidableEq, Repr

def TransportFault.message : TransportFault → String
  | .sendRefused => "injected send failure"
  | .peerGone => "FakeTransport outbound channel closed"
  | .unhealthy => "fake transport unhealthy"
  | .notConnected kind status => kind ++ " transport is " ++ status.name
  | .spawnFailed command => "failed to spawn MCP server `" ++ command ++ "`"
  | .writeFailed => "failed to write to MCP server stdin"
  | .noProcess => "no MCP server process"
  | .exited status => "MCP server process exited with " ++ status
  | .noEndpoint => "SSE stream ended before the `endpoint` event"
  | .streamOver => "SSE event stream has ended"
  | .unreachable url =>
    "SSE connection to " ++ url ++ " failed: error sending request for url (" ++ url ++ ")"
  | .streamFailed url cause => "SSE connection to " ++ url ++ " failed: " ++ cause
  | .streamRefused url status => "SSE endpoint " ++ url ++ " returned HTTP " ++ status
  | .postFailed place cause => "POST to " ++ place ++ " failed: " ++ cause
  | .postRefused place status => "POST to " ++ place ++ " returned HTTP " ++ status
  | .other text => text

/-- How a peer broke the protocol. -/
inductive ProtocolFault where
  | notAnObject
  /-- An object of none of the three kinds of message, with what it has of their marks. -/
  | unclassifiable (hasId hasMethod hasResult hasError : Bool)
  | repeatedCursor (cursor : String)
  | tooManyPages (limit : Nat)
  /-- An event stream did not name where to send in time. -/
  | endpointLate (url : String) (milliseconds : Nat)
  | other (text : String)
  deriving DecidableEq, Repr

def yesNo (b : Bool) : String := if b then "true" else "false"

def ProtocolFault.message : ProtocolFault → String
  | .notAnObject => "JSON-RPC message is not an object"
  | .unclassifiable hasId hasMethod hasResult hasError =>
    "unclassifiable JSON-RPC message: has_id=" ++ yesNo hasId ++ " has_method=" ++
      yesNo hasMethod ++ " has_result=" ++ yesNo hasResult ++ " has_error=" ++ yesNo hasError
  | .repeatedCursor cursor => "server repeated pagination cursor `" ++ cursor ++ "`"
  | .tooManyPages limit => "server returned more than " ++ toString limit ++ " pages"
  | .endpointLate url milliseconds =>
    "no `endpoint` event from " ++ url ++ " within " ++ toString milliseconds ++ "ms"
  | .other text => text

/-- Why a state forbids an operation. -/
inductive StateFault where
  | handshakeWhile (state : Client.Lifecycle)
  /-- A transport in memory can be connected once. -/
  | connectedBefore
  | already (kind : String) (status : Transport.Status)
  /-- No handshake has succeeded. -/
  | noAgreement
  | other (text : String)
  deriving DecidableEq, Repr

def StateFault.message : StateFault → String
  | .handshakeWhile state => "initialize called while client is " ++ state.name
  | .connectedBefore => "fake transport already connected"
  | .already kind status => kind ++ " transport is already " ++ status.name
  | .noAgreement => "client is not initialized"
  | .other text => text

/-- Why a tool call failed. -/
inductive ToolFault where
  | unknownTool (key : String)
  | unregisteredServer (name : String)
  | argumentsNotObject (key found : String)
  /-- The tool reported an error in these words. -/
  | reported (text : String)
  deriving DecidableEq, Repr

def ToolFault.message : ToolFault → String
  | .unknownTool key => "unknown tool `" ++ key ++ "`"
  | .unregisteredServer name => "server `" ++ name ++ "` is not registered"
  | .argumentsNotObject key found =>
    "arguments for `" ++ key ++ "` must be a JSON object, got " ++ found
  | .reported text => text

/-- Why a text or a JSON value could not be read as what it should be. -/
inductive ReadFault where
  | text (cause : Json.SyntaxError)
  | type (cause : Json.Mismatch)
  deriving DecidableEq, Repr

def ReadFault.message : ReadFault → String
  | .text .unfinished => "unexpected end of JSON text"
  | .text .malformed => "malformed JSON text"
  | .type cause => cause.message

inductive Error where
  | config (fault : ConfigFault)
  | transport (fault : TransportFault)
  | transportClosed
  | protocol (fault : ProtocolFault)
  /-- The peer answered a request with an error. -/
  | rpc (error : RpcError)
  | timeout (method : String) (milliseconds : Nat)
  /-- The server chose a version that is not supported. -/
  | protocolVersion (supported : List String) (got : String)
  | notInitialized (action : String)
  | capability (name action : String)
  | invalidState (fault : StateFault)
  | toolExecution (fault : ToolFault)
  | serialization (fault : ReadFault)
  | url (cause : Url.Error)
  deriving Repr, BEq

namespace Error

def message : Error → String
  | .config fault => "Configuration error: " ++ fault.message
  | .transport fault => "MCP transport error: " ++ fault.message
  | .transportClosed => "MCP transport closed"
  | .protocol fault => "MCP protocol error: " ++ fault.message
  | .rpc error => error.describe
  | .timeout method milliseconds =>
    "MCP timeout: no response to `" ++ method ++ "` within " ++ toString milliseconds ++ "ms"
  | .protocolVersion supported got =>
    "MCP protocol version mismatch: supported " ++ Text.quotedList supported ++
      ", server chose " ++ got
  | .notInitialized action => "client must be initialized before " ++ action
  | .capability name action => "server does not support `" ++ name ++ "`, required by " ++ action
  | .invalidState fault => "Invalid state: " ++ fault.message
  | .toolExecution fault => "Tool execution error: " ++ fault.message
  | .serialization fault => "Serialization error: " ++ fault.message
  | .url cause => "URL error: " ++ cause.message

def isTimeout : Error → Bool
  | .timeout .. => true
  | _ => false

/-- Whether the transport, and not the peer, is at fault. -/
def isTransport : Error → Bool
  | .transport _ => true
  | .transportClosed => true
  | _ => false

def rpcCode? : Error → Option Int
  | .rpc error => some error.code
  | _ => none

end Error

def unmarshal {α : Type} (read : Json.Reader α) (v : Json) : Except Error α :=
  match read v with
  | .ok a => .ok a
  | .error e => .error (.serialization (.type e))

end Mcp
