import Mcp.Error

/-!
A transport within one process. What its owner sends goes to a peer at once. What the peer puts in
waits in a queue until a forwarder, which runs from the moment of connecting until the transport
closes, hands it on to whoever receives.
-/

namespace Mcp.Transport

structure Memory where
  status : Status
  /-- Whether the queue still waits for somebody to connect. -/
  unclaimed : Bool
  /-- Whether the transport was closed. -/
  cancelled : Bool
  /-- Whether sending is made to fail. -/
  failing : Bool
  /-- Whether a health check is made to fail. -/
  unhealthy : Bool
  /-- Whether the peer takes what is sent. -/
  peerListens : Bool
  /-- Whether anybody can still put something in. -/
  sourceOpen : Bool
  /-- Whether the forwarder runs. -/
  forwarding : Bool
  /-- Whether somebody receives. -/
  receiving : Bool
  /-- What was put in and not handed on. -/
  queue : List Message
  /-- What was handed on and not received. -/
  inbox : List Message
  /-- Everything that was sent, in order. -/
  sent : List Message
  deriving Repr, BEq, Inhabited

namespace Memory

def new : Memory where
  status := .disconnected
  unclaimed := true
  cancelled := false
  failing := false
  unhealthy := false
  peerListens := true
  sourceOpen := true
  forwarding := false
  receiving := false
  queue := []
  inbox := []
  sent := []

/-! ### The owner's side -/

/-- Connects, for the first time, whatever the status. -/
def connect (t : Memory) : Except Error Unit × Memory :=
  if t.unclaimed then
    (.ok (),
      { t with status := .connected, unclaimed := false, forwarding := true, receiving := true })
  else (.error (.invalidState .connectedBefore), t)

def send (t : Memory) (m : Message) : Except Error Unit × Memory :=
  if t.status ≠ .connected then (.error .transportClosed, t)
  else if t.failing then (.error (.transport .sendRefused), t)
  else if t.peerListens then (.ok (), { t with sent := t.sent ++ [m] })
  else (.error (.transport .peerGone), t)

def close (t : Memory) : Memory := { t with status := .closed, cancelled := true }

def health (t : Memory) : Except Error Unit :=
  if t.status ≠ .connected || t.unhealthy then .error (.transport .unhealthy) else .ok ()

def receive (t : Memory) : Option Message × Memory :=
  match t.inbox with
  | [] => (none, t)
  | m :: rest => (some m, { t with inbox := rest })

/-- Whether nothing more will be received. -/
def ended (t : Memory) : Bool := !t.unclaimed && !t.forwarding && t.inbox.isEmpty

/-- Nobody receives any more. -/
def abandon (t : Memory) : Memory := { t with receiving := false, inbox := [] }

/-! ### The peer's side -/

/-- Whether what is put in would be taken. -/
def accepts (t : Memory) : Bool := t.sourceOpen && (t.unclaimed || t.forwarding)

def inject (t : Memory) (m : Message) : Memory :=
  if t.accepts then { t with queue := t.queue ++ [m] } else t

/-- The peer takes nothing more of what is sent. -/
def deafen (t : Memory) : Memory := { t with peerListens := false }

/-- Nothing more can be put in. -/
def endSource (t : Memory) : Memory := { t with sourceOpen := false }

/-! ### The forwarder -/

def canForward (t : Memory) : Bool :=
  t.forwarding && (t.cancelled || !t.queue.isEmpty || !t.sourceOpen)

/-- The forwarder's next step: it stops if the transport was closed, hands one message on, or stops
because nobody receives or nothing more will come. -/
def forward (t : Memory) : Memory :=
  if !t.forwarding then t
  else if t.cancelled then { t with forwarding := false, queue := [] }
  else
    match t.queue with
    | m :: rest =>
      if t.receiving then { t with queue := rest, inbox := t.inbox ++ [m] }
      else { t with forwarding := false, queue := [] }
    | [] => if t.sourceOpen then t else { t with forwarding := false }

/-- The forwarder's steps until it has nothing to do. -/
def settle (t : Memory) : Memory := go (t.queue.length + 1) t
where
  go : Nat → Memory → Memory
    | 0, t => t
    | fuel + 1, t => if t.canForward then go fuel t.forward else t

end Memory

end Mcp.Transport
