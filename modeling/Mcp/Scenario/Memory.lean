import Mcp.Transport.Memory

/-!
Scenarios of a transport in memory: what its owner and its peer do, and what can be seen after each
step.
-/

namespace Mcp.Scenario.Memories

open Transport (Memory Status)

inductive Step where
  | connect
  | send (message : Message)
  | inject (message : Except Error Message)
  /-- Closes; a graceful close is no different. -/
  | close
  | health
  | failSends (on : Bool)
  | unhealthy (on : Bool)
  /-- The peer goes away. -/
  | dropPeer
  /-- Whoever receives goes away. -/
  | dropReceiver
  deriving Repr

/-- What a step gives. -/
inductive Result where
  | nothing
  | outcome (result : Except Error Unit)
  | injected
  | inboundClosed
  | noPeer
  /-- Whether there was something to drop. -/
  | dropped (there : Bool)

/-- What can be seen after a step. -/
structure Entry where
  result : Result
  status : Status
  sent : List Message
  received : List Message
  inboundEnded : Bool

structure State where
  transport : Memory
  peer : Bool
  /-- How many of the messages sent were seen. -/
  seenSent : Nat

def State.act (s : State) : Step → State × Result
  | .connect =>
    let (result, transport) := s.transport.connect
    ({ s with transport }, .outcome result)
  | .send m =>
    let (result, transport) := s.transport.send m
    ({ s with transport }, .outcome result)
  | .inject (.error e) => (s, .outcome (.error e))
  | .inject (.ok m) =>
    if !s.peer then (s, .noPeer)
    else
      ({ s with transport := s.transport.inject m },
        if s.transport.accepts then .injected else .inboundClosed)
  | .close => ({ s with transport := s.transport.close }, .outcome (.ok ()))
  | .health => (s, .outcome s.transport.health)
  | .failSends on =>
    (if s.peer then { s with transport := { s.transport with failing := on } } else s, .nothing)
  | .unhealthy on =>
    (if s.peer then { s with transport := { s.transport with unhealthy := on } } else s, .nothing)
  | .dropPeer =>
    ({ s with transport := s.transport.deafen.endSource, peer := false }, .dropped s.peer)
  | .dropReceiver =>
    ({ s with transport := s.transport.abandon }, .dropped s.transport.receiving)

/-- One step, and what can be seen after it. -/
def State.step (s : State) (step : Step) : Entry × State :=
  let (s, result) := s.act step
  let transport := s.transport.settle
  ({ result
     status := transport.status
     sent := if s.peer then transport.sent.drop s.seenSent else []
     received := transport.inbox
     inboundEnded := transport.receiving && !transport.forwarding },
    { s with transport := { transport with inbox := [] }, seenSent := transport.sent.length })

def State.play (s : State) : List Step → List Entry
  | [] => []
  | step :: rest =>
    let (entry, s) := s.step step
    entry :: s.play rest

def play (steps : List Step) : List Entry := State.play ⟨.new, true, 0⟩ steps

end Mcp.Scenario.Memories
