import Mcp.Error

/-!
Reading messages. The marks of an object choose what it is read as: an id and a method make a
request, a method alone a notification, an id member with a result or an error a response. A value
that does not fit the kind chosen is an error and is read as no other kind.
-/

namespace Mcp.Message

def isSet (members : List (String × Json)) (key : String) : Bool :=
  match Members.lookup members key with
  | some v => !v.isNull
  | none => false

def readSet {α : Type} (members : List (String × Json)) (key : String) (read : Json.Reader α) :
    Except Error (Option α) :=
  match Members.lookup members key with
  | some v => if v.isNull then .ok none else (unmarshal read v).map some
  | none => .ok none

/-- Reads a response. An error that is set counts before a result. -/
def readResponse (members : List (String × Json)) : Except Error Response := do
  let id ← readSet members "id" RequestId.reader
  let error ← readSet members "error" RpcError.reader
  let result :=
    if error.isNone then some (Json.ofOption (Members.lookup members "result")) else none
  .ok ⟨jsonRpcVersion, id, result, error⟩

def ofJson (v : Json) : Except Error Message :=
  match v with
  | .obj members =>
    let hasId := isSet members "id"
    let hasMethod := Members.contains members "method"
    let hasResult := Members.contains members "result"
    let hasError := isSet members "error"
    if hasMethod && hasId then (unmarshal Request.reader v).map .request
    else if hasMethod then (unmarshal Notification.reader v).map .notification
    else if Members.contains members "id" && (hasResult || hasError) then
      (readResponse members).map .response
    else .error (.protocol (.unclassifiable hasId hasMethod hasResult hasError))
  | _ => .error (.protocol .notAnObject)

def parse (text : String) : Except Error Message :=
  match Json.parse text with
  | .ok v => ofJson v
  | .error cause => .error (.serialization (.text cause))

/-- Reads a message as a part of a larger value: an error is given in its own words. -/
def reader : Json.Reader Message := fun v =>
  match ofJson v with
  | .ok m => .ok m
  | .error e => .error (.other e.message)

end Mcp.Message
