import Mcp.EventStream.Basic
import Mcp.Message.Parser
import Mcp.Text.Blank
import Mcp.Url.Parser

/-!
Reading an event stream of messages. An event named `endpoint` tells where to send; an event named
`message`, or without a name, holds a message. What does not read is skipped; reading stops with
the stream, or at the first message that nobody takes.
-/

namespace Mcp.EventStream

inductive Meaning where
  /-- Where messages are to be sent, as the stream words it. -/
  | endpoint (reference : String)
  | message (m : Message)
  | nothing
  deriving Repr

def Event.meaning (e : Event) : Meaning :=
  if e.kind = some "endpoint" then .endpoint (Text.trimmed e.data)
  else if e.kind = none ∨ e.kind = some "message" then
    if Text.isBlankText e.data then .nothing
    else
      match Message.parse e.data with
      | .ok m => .message m
      | .error _ => .nothing
  else .nothing

inductive Happening where
  | bytes (chunk : List UInt8)
  /-- The stream ends. -/
  | finished
  /-- The stream breaks off. -/
  | failed
  /-- The reader is told to stop. -/
  | cancelled
  /-- Nobody takes messages any more. -/
  | abandoned
  deriving Repr

structure Reader where
  base : Url
  decoder : Decoder
  /-- Where to send, once the stream has named it. -/
  endpoint : Option Url
  /-- Whether somebody takes the messages. -/
  taken : Bool
  /-- Whether it still reads. -/
  reading : Bool
  deriving Repr

namespace Reader

def start (base : Url) : Reader := ⟨base, .fresh, none, true, true⟩

/-- Acts on one event: the reader after it and the message that it delivers. The first endpoint
that resolves is kept. -/
def act (r : Reader) (e : Event) : Reader × Option Message :=
  if !r.reading then (r, none)
  else
    match e.meaning with
    | .endpoint reference =>
      if r.endpoint.isSome then (r, none)
      else ({ r with endpoint := (r.base.join reference).toOption }, none)
    | .message m => if r.taken then (r, some m) else ({ r with reading := false }, none)
    | .nothing => (r, none)

/-- Acts on events in order. -/
def actAll (r : Reader) : List Event → Reader × List Message
  | [] => (r, [])
  | e :: rest =>
    let (r, message) := r.act e
    let (r, messages) := r.actAll rest
    (r, message.toList ++ messages)

/-- What a happening makes of the reader, and the messages that it delivers. -/
def step (r : Reader) (h : Happening) : Reader × List Message :=
  if !r.reading then
    match h with
    | .abandoned => ({ r with taken := false }, [])
    | _ => (r, [])
  else
    match h with
    | .bytes chunk =>
      let (decoder, events) := r.decoder.push chunk
      { r with decoder }.actAll events
    | .finished =>
      let (decoder, event) := r.decoder.flush
      let (r, messages) := { r with decoder }.actAll event.toList
      ({ r with reading := false }, messages)
    | .failed => ({ r with reading := false }, [])
    | .cancelled => ({ r with reading := false }, [])
    | .abandoned => ({ r with taken := false }, [])

/-- Whether no message can reach the taker any more. -/
def inboundEnded (r : Reader) : Bool := !r.taken || !r.reading

end Reader

end Mcp.EventStream
