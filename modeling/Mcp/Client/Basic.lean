import Mcp.Session.Basic
import Mcp.Schema.Handshake
import Mcp.Schema.Root

/-!
The client of a server: its handshake, the gate that every operation passes, and its close. The
operations of a client are programs that share its state.
-/

namespace Mcp.Client

open Schema (Agreement ClientCapabilities Implementation Offer Root)

/-- Who a client is, what it offers, and how long it waits in milliseconds. -/
structure Settings where
  info : Implementation
  capabilities : ClientCapabilities
  roots : List Root
  requestTimeout : Nat
  /-- How long an operation waits for a handshake in flight. -/
  initializationTimeout : Nat
  closeTimeout : Nat
  deriving Repr, BEq, Inhabited

def Settings.default : Settings where
  info := ⟨"mcplink", "0.1.0"⟩
  capabilities := ⟨none, some ⟨some false⟩, none⟩
  roots := []
  requestTimeout := Session.Timeouts.default.request
  initializationTimeout := 30000
  closeTimeout := Session.Timeouts.default.close

def Settings.timeouts (s : Settings) : Session.Timeouts := ⟨s.requestTimeout, s.closeTimeout⟩

def Settings.offer (s : Settings) : Offer := ⟨Schema.latestVersion, s.capabilities, s.info⟩

/-- What the operations of one client share. -/
structure State where
  lifecycle : Lifecycle
  /-- What the server agreed to. -/
  agreement : Option Agreement
  deriving Repr, BEq, Inhabited

namespace State

def initial : State := ⟨.uninitialized, none⟩

/-- Whether the server is known to offer a part. -/
def capable (s : State) (c : Capability) : Bool :=
  match s.agreement with
  | some a => a.capabilities.offers c
  | none => false

/-- Starts a handshake, where one may start. -/
def beginHandshake (s : State) : State :=
  match s.lifecycle with
  | .uninitialized => { s with lifecycle := .initializing }
  | .failed => { s with lifecycle := .initializing }
  | _ => s

/-- Ends the handshake in flight, unless the client was closed meanwhile. -/
def endHandshake (next : Lifecycle) (s : State) : State :=
  if s.lifecycle = .initializing then { s with lifecycle := next } else s

/-- Keeps what the server agreed to, unless something is kept already. -/
def agree (a : Agreement) (s : State) : State :=
  if s.agreement.isSome then s else { s with agreement := some a }

def close (s : State) : State := { s with lifecycle := .closed }

end State

abbrev Operation (ε α : Type) := Program.Operation State ε α

variable {ε α : Type}

open Program.Operation in
/-- Performs the handshake. It is refused while another is in flight and after one succeeded; after
a failure it may be tried again. -/
def handshake (settings : Settings) : Operation ε Agreement := do
  let before ← update State.beginHandshake
  match before.lifecycle with
  | .closed => throw .transportClosed
  | .initializing => throw (.invalidState (.handshakeWhile .initializing))
  | .initialized => throw (.invalidState (.handshakeWhile .initialized))
  | _ =>
    let agreement ←
      try call Agreement.reader "initialize" settings.offer.toJson none
      catch e => do
        let _ ← update (State.endHandshake .failed)
        throw e
    if !agreement.isSupported then
      let _ ← update (State.endHandshake .failed)
      throw (.protocolVersion Schema.supportedVersions agreement.protocolVersion)
    let _ ← update (State.agree agreement)
    try notify "notifications/initialized" .null catch _ => pure ()
    let _ ← update (State.endHandshake .initialized)
    pure agreement

open Program.Operation in
/-- Waits out a handshake in flight; then the client must be initialized. -/
def requireInitialized (settings : Settings) (action : String) : Operation ε Unit := do
  let state ← await (fun s => s.lifecycle ≠ .initializing) settings.initializationTimeout
  match state.map State.lifecycle with
  | some .initialized => pure ()
  | some .closed => throw .transportClosed
  | _ => throw (.notInitialized action)

open Program.Operation in
/-- What every operation passes first: the client must be initialized and the server must offer the
part that the operation is about, if it is about one. -/
def gate (settings : Settings) (action : String) (part : Option Capability) : Operation ε Unit := do
  requireInitialized settings action
  match part with
  | none => pure ()
  | some c =>
    let state ← shared
    if state.capable c then pure () else throw (.capability c.name action)

open Program.Operation in
/-- A request behind the gate. -/
def ask (settings : Settings) (action : String) (part : Option Capability) (read : Json.Reader α)
    (method : String) (params : Json) : Operation ε α := do
  gate settings action part
  call read method params none

def ping (settings : Settings) : Operation ε Unit := do
  let _ ← ask settings "pinging" none Json.Reader.any "ping" .null
  pure ()

/-- Checks the transport, then the server. -/
def checkHealth (settings : Settings) : Operation ε Unit := do
  Program.Operation.health
  ping settings

open Program.Operation in
/-- Closes the client for good, then its session. -/
def close (graceful : Bool) : Operation ε Unit := do
  let _ ← update State.close
  Program.Operation.close graceful

end Mcp.Client
