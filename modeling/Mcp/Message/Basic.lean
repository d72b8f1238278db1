import Mcp.Json.Record

/-!
JSON-RPC messages: requests, notifications and responses, the JSON that each is written as, and
the records that each is read from. A field without a value is left out when a message is written.
-/

namespace Mcp

/-- The version text that every message carries. -/
def jsonRpcVersion : String := "2.0"

/-- Error codes of JSON-RPC. -/
def methodNotFound : Int := -32601

def internalError : Int := -32603

/-- What ties a response to its request. -/
inductive RequestId where
  | number (n : Int)
  | text (s : String)
  deriving DecidableEq, Repr, Inhabited

namespace RequestId

/-- The text that requests are matched by: equal for a number and its decimal digits. -/
def key : RequestId → String
  | .number n => toString n
  | .text s => s

def toJson : RequestId → Json
  | .number n => .ofInt n
  | .text s => .str s

def reader : Json.Reader RequestId :=
  Json.Reader.firstOf "RequestId"
    [fun v => (Json.Reader.signed v).map .number, fun v => (Json.Reader.text v).map .text]

end RequestId

/-- The error object of a response. -/
structure RpcError where
  code : Int
  message : String
  data : Option Json
  deriving Repr, BEq, Inhabited

namespace RpcError

def toJson (e : RpcError) : Json :=
  .obj (Json.present
    [("code", some (.ofInt e.code)), ("message", some (.str e.message)), ("data", e.data)])

def record : Record Json RpcError :=
  Record.pure RpcError.mk
    |>.field (.required "code" Json.Reader.signed)
    |>.field (.required "message" Json.Reader.text)
    |>.field (.optional "data" Json.Reader.any)

def reader : Json.Reader RpcError := Json.record "JsonRpcError" record

def describe (e : RpcError) : String := "JSON-RPC error " ++ toString e.code ++ ": " ++ e.message

end RpcError

/-- A message that asks for a response. -/
structure Request where
  version : String
  id : RequestId
  method : String
  params : Option Json
  deriving Repr, BEq, Inhabited

namespace Request

def new (id : RequestId) (method : String) (params : Option Json) : Request :=
  ⟨jsonRpcVersion, id, method, params⟩

def toJson (r : Request) : Json :=
  .obj (Json.present
    [("jsonrpc", some (.str r.version)), ("id", some r.id.toJson),
      ("method", some (.str r.method)), ("params", r.params)])

def record : Record Json Request :=
  Record.pure Request.mk
    |>.field (.required "jsonrpc" Json.Reader.text)
    |>.field (.required "id" RequestId.reader)
    |>.field (.required "method" Json.Reader.text)
    |>.field (.optional "params" Json.Reader.any)

def reader : Json.Reader Request := Json.record "JsonRpcRequest" record

end Request

/-- A message that asks for nothing. -/
structure Notification where
  version : String
  method : String
  params : Option Json
  deriving Repr, BEq, Inhabited

namespace Notification

def new (method : String) (params : Option Json) : Notification := ⟨jsonRpcVersion, method, params⟩

def toJson (n : Notification) : Json :=
  .obj (Json.present
    [("jsonrpc", some (.str n.version)), ("method", some (.str n.method)), ("params", n.params)])

def record : Record Json Notification :=
  Record.pure Notification.mk
    |>.field (.required "jsonrpc" Json.Reader.text)
    |>.field (.required "method" Json.Reader.text)
    |>.field (.optional "params" Json.Reader.any)

def reader : Json.Reader Notification := Json.record "JsonRpcNotification" record

end Notification

/-- The answer to a request. Its id is always written, as null where there is none. -/
structure Response where
  version : String
  id : Option RequestId
  result : Option Json
  error : Option RpcError
  deriving Repr, BEq, Inhabited

namespace Response

def success (id : RequestId) (result : Json) : Response :=
  ⟨jsonRpcVersion, some id, some result, none⟩

def failure (id : Option RequestId) (error : RpcError) : Response :=
  ⟨jsonRpcVersion, id, none, some error⟩

def toJson (r : Response) : Json :=
  .obj (Json.present
    [("jsonrpc", some (.str r.version)), ("id", some (Json.ofOption (r.id.map RequestId.toJson))),
      ("result", r.result), ("error", r.error.map RpcError.toJson)])

def record : Record Json Response :=
  Record.pure Response.mk
    |>.field (.required "jsonrpc" Json.Reader.text)
    |>.field (.optional "id" RequestId.reader)
    |>.field (.optional "result" Json.Reader.any)
    |>.field (.optional "error" RpcError.reader)

def reader : Json.Reader Response := Json.record "JsonRpcResponse" record

end Response

inductive Message where
  | request (r : Request)
  | notification (n : Notification)
  | response (r : Response)
  deriving Repr, BEq, Inhabited

namespace Message

def toJson : Message → Json
  | .request r => r.toJson
  | .notification n => n.toJson
  | .response r => r.toJson

def method? : Message → Option String
  | .request r => some r.method
  | .notification n => some n.method
  | .response _ => none

def id? : Message → Option RequestId
  | .request r => some r.id
  | .notification _ => none
  | .response r => r.id

def line (m : Message) : String := String.ofList (m.toJson.write ++ ['\n'])

end Message

end Mcp
