import Mcp.Error
import Mcp.EventStream.Reader
import Mcp.Json.Printer

/-!
A transport to a server that sends by an event stream and is sent to by posts. Where to post the
stream itself tells, so whoever sends before it has told waits: for the endpoint, for the end of the
stream, or for a time, in this order where they coincide.

Those who connect, send and close, the reader of the stream and the server take their steps in any
order: `step?` gives the state after a step, and nothing where the step cannot be taken. What
somebody does between two waits is one step.
-/

namespace Mcp.Transport

/-- What comes of a request over the network. -/
inductive Remote.Reply where
  | accepted
  /-- The server answers with another status than success. -/
  | refused (status : String)
  | failed (cause : String)
  deriving Repr

inductive Remote.Connect where
  | idle
  /-- It has asked the server for the stream. -/
  | asking
  /-- The stream is read; it waits for the endpoint, until a time. -/
  | waiting (deadline : Nat)
  | ended (result : Except Error Unit)
  deriving Repr

inductive Remote.SendStage where
  /-- It waits for the endpoint, until a time. -/
  | waiting (deadline : Nat)
  | posting (place : Url)
  | ended (result : Except Error Unit)
  deriving Repr

structure Remote.Send where
  message : Message
  stage : Remote.SendStage
  deriving Repr

/-- What was posted, and for which send. -/
structure Remote.Post where
  send : Nat
  place : Url
  body : String
  deriving Repr

inductive Remote.CloseStage where
  /-- It waits for the reader of the stream. -/
  | joining
  | ended
  deriving DecidableEq, Repr

structure Remote.Close where
  graceful : Bool
  stage : Remote.CloseStage
  deriving DecidableEq, Repr

structure Remote where
  url : Url
  /-- How long a wait for the endpoint may last, in milliseconds. -/
  endpointTimeout : Nat
  now : Nat
  status : Status
  connecting : Remote.Connect
  /-- The reader of the stream, once the server has sent it. -/
  reader : Option EventStream.Reader
  /-- Whether the reader has taken a step. -/
  begun : Bool
  /-- Whether a close finds the reader. -/
  held : Bool
  /-- Whether the reader is told to stop. -/
  cancelled : Bool
  /-- The messages that the stream brought. -/
  inbound : List Message
  sends : List Remote.Send
  posts : List Remote.Post
  closes : List Remote.Close
  deriving Repr

namespace Remote

def new (url : Url) (endpointTimeout : Nat) : Remote where
  url
  endpointTimeout
  now := 0
  status := .disconnected
  connecting := .idle
  reader := none
  begun := false
  held := false
  cancelled := false
  inbound := []
  sends := []
  posts := []
  closes := []

/-- What may happen. -/
inductive Action where
  /-- Somebody connects. -/
  | connect
  /-- The request for the stream comes to an end. -/
  | answer (reply : Reply)
  /-- The reader of the stream takes a step. -/
  | stream (happening : EventStream.Happening)
  /-- Whoever connects looks for the endpoint. -/
  | settle
  /-- Somebody sends a message. -/
  | send (message : Message)
  /-- A send looks for the endpoint. -/
  | look (send : Nat)
  /-- A post comes to an end. -/
  | posted (send : Nat) (reply : Reply)
  /-- Somebody closes. -/
  | close (graceful : Bool)
  /-- A close finds that the reader has stopped. -/
  | leave (close : Nat)
  /-- Time passes. -/
  | pass (milliseconds : Nat)
  deriving Repr

/-! ### Waiting for the endpoint -/

/-- Where to post, once the stream has told. -/
def endpoint (t : Remote) : Option Url := t.reader.bind EventStream.Reader.endpoint

/-- Whether the stream is read. -/
def reading (t : Remote) : Bool := t.reader.any EventStream.Reader.reading

/-- Whether the stream was read and is read no more. -/
def streamOver (t : Remote) : Bool := t.reader.any fun r => !r.reading

/-- What somebody finds who waits for the endpoint until a time. -/
def found? (t : Remote) (deadline : Nat) : Option (Except Error Url) :=
  match t.endpoint with
  | some place => some (.ok place)
  | none =>
    if t.streamOver then some (.error (.transport .noEndpoint))
    else if deadline ≤ t.now then
      some (.error (.protocol (.endpointLate t.url.write t.endpointTimeout)))
    else none

/-! ### Connecting -/

/-- Why a connect is refused. -/
def connectFault? (t : Remote) : Option Error :=
  if t.status = .disconnected then none else some (.invalidState (.already "SSE" t.status))

def beginConnect (t : Remote) : Remote :=
  match t.connectFault? with
  | none => { t with status := .connecting, connecting := .asking }
  | some _ => t

/-- Ends a connect that failed. -/
def failConnect (t : Remote) (e : Error) : Remote :=
  { t with status := .closed, connecting := .ended (.error e) }

def answered (t : Remote) : Reply → Remote
  | .accepted =>
    { t with
      reader := some (.start t.url)
      held := true
      connecting := .waiting (t.now + t.endpointTimeout) }
  | .refused status => t.failConnect (.transport (.streamRefused t.url.write status))
  | .failed cause => t.failConnect (.transport (.streamFailed t.url.write cause))

def settled (t : Remote) : Except Error Url → Remote
  | .ok _ => { t with status := .connected, connecting := .ended (.ok ()) }
  | .error e => { t with cancelled := true }.failConnect e

/-! ### The stream -/

/-- Whether something may happen to the reader. It looks whether it is told to stop before it looks
at the stream. -/
def mayHappen (t : Remote) (r : EventStream.Reader) : EventStream.Happening → Bool
  | .cancelled => t.cancelled && r.reading
  | .abandoned => r.taken
  | _ => !t.cancelled && r.reading

def stream? (t : Remote) (happening : EventStream.Happening) : Option Remote :=
  match t.reader with
  | none => none
  | some r =>
    if t.mayHappen r happening then
      let (r, messages) := r.step happening
      some { t with reader := some r, begun := true, inbound := t.inbound ++ messages }
    else none

/-! ### Sending -/

/-- Starts to send: refused at once while the transport closes and after that. -/
def beginSend (t : Remote) (m : Message) : Remote :=
  let stage : SendStage :=
    match t.status with
    | .closing => .ended (.error .transportClosed)
    | .closed => .ended (.error .transportClosed)
    | _ => .waiting (t.now + t.endpointTimeout)
  { t with sends := t.sends ++ [⟨m, stage⟩] }

/-- What a send does with what it found: it posts its message, or ends. -/
def sendOn (t : Remote) (index : Nat) (m : Message) : Except Error Url → Remote
  | .ok place =>
    { t with
      sends := t.sends.set index ⟨m, .posting place⟩
      posts := t.posts ++ [⟨index, place, m.toJson.compact⟩] }
  | .error e => { t with sends := t.sends.set index ⟨m, .ended (.error e)⟩ }

def look? (t : Remote) (index : Nat) : Option Remote :=
  match t.sends[index]? with
  | some ⟨m, .waiting deadline⟩ => (t.found? deadline).map (t.sendOn index m)
  | _ => none

/-- How a post ended. -/
def Reply.outcome (place : Url) : Reply → Except Error Unit
  | .accepted => .ok ()
  | .refused status => .error (.transport (.postRefused place.write status))
  | .failed cause => .error (.transport (.postFailed place.write cause))

def posted? (t : Remote) (index : Nat) (reply : Reply) : Option Remote :=
  match t.sends[index]? with
  | some ⟨m, .posting place⟩ =>
    some { t with sends := t.sends.set index ⟨m, .ended (reply.outcome place)⟩ }
  | _ => none

/-! ### Closing -/

/-- The reader that is left when a close aborts it. One that has not begun goes without a trace, so
that nobody sees the stream end. -/
def abortedReader (t : Remote) : Option EventStream.Reader :=
  if t.held && !t.begun then none else t.reader

/-- Closes at once, without waiting for the reader. -/
def shut (t : Remote) : Remote :=
  let t := { t with closes := t.closes ++ [⟨false, .ended⟩] }
  if t.status = .closed then t
  else
    { t with status := .closed, reader := t.abortedReader, held := false, cancelled := true }

/-- Starts to close gracefully; nothing is to be done where a close came before. -/
def beginClose (t : Remote) : Remote :=
  let returned : Remote := { t with closes := t.closes ++ [⟨true, .ended⟩] }
  match t.status with
  | .closing => returned
  | .closed => returned
  | _ =>
    if t.held then
      { t with
        closes := t.closes ++ [⟨true, .joining⟩]
        status := .closing
        cancelled := true
        held := false }
    else { returned with status := .closed, cancelled := true }

def leave? (t : Remote) (index : Nat) : Option Remote :=
  match t.closes[index]? with
  | some ⟨graceful, .joining⟩ =>
    if t.reading then none
    else some { t with status := .closed, closes := t.closes.set index ⟨graceful, .ended⟩ }
  | _ => none

/-! ### All steps -/

/-- The state after a step, if the step can be taken. -/
def step? (t : Remote) : Action → Option Remote
  | .connect => some t.beginConnect
  | .answer reply =>
    match t.connecting with
    | .asking => some (t.answered reply)
    | _ => none
  | .stream happening => t.stream? happening
  | .settle =>
    match t.connecting with
    | .waiting deadline => (t.found? deadline).map t.settled
    | _ => none
  | .send m => some (t.beginSend m)
  | .look index => t.look? index
  | .posted index reply => t.posted? index reply
  | .close false => some t.shut
  | .close true => some t.beginClose
  | .leave index => t.leave? index
  | .pass milliseconds => some { t with now := t.now + milliseconds }

/-- Takes a step if it can be taken. -/
def tryStep (t : Remote) (action : Action) : Remote := (t.step? action).getD t

/-- Whether a connected transport still reads its stream. -/
def health (t : Remote) : Except Error Unit :=
  if t.status ≠ .connected then .error (.transport (.notConnected "SSE" t.status))
  else if t.streamOver then .error (.transport .streamOver)
  else .ok ()

end Remote

end Mcp.Transport
