import Mcp.Session.Step
import Mcp.Scenario.Server

/-!
A session, the server at its other end, and a clock that stands still until it is moved. Of all runs
that the steps allow this plays one: agents take turns in the order in which they came to have
something to do, each goes on until it has nothing to do, and time moves only when nobody has. Times
that agents wait for come in their order, equal ones in the order in which the waiting began.
-/

namespace Mcp.Scenario

variable {σ ε : Type}

/-- An answer that a server gives later. -/
structure DelayedReply where
  message : Message
  milliseconds : Nat
  /-- When it is given; none before it is first looked at. -/
  deadline : Option Nat
  given : Bool
  deriving Repr

structure Server where
  script : List (String × Rule)
  /-- How many of the messages sent it has seen. -/
  seen : Nat
  /-- How often each method was requested. -/
  turns : List (String × Nat)
  /-- Whether it still answers. -/
  running : Bool
  replies : List DelayedReply
  deriving Repr

namespace Server

def new (script : List (String × Rule)) : Server := ⟨script, 0, [], true, []⟩

/-- What it does about a request, and its state after that. -/
def choose (s : Server) (r : Request) : Reply × Server :=
  let turn := (Members.lookup s.turns r.method).getD 0
  let reply :=
    match s.script.lookup r.method with
    | some rule => rule.reply turn r.params
    | none => .silence
  (reply, { s with turns := Members.insert s.turns r.method (turn + 1) })

/-- Whether some answers are still to come. -/
def owesReplies (s : Server) : Bool := s.replies.any fun r => !r.given

end Server

/-- Whoever takes turns. -/
inductive Actor where
  | session (agent : Session.Agent)
  | server
  | reply (index : Nat)
  deriving DecidableEq, Repr

/-- A session with its server and the turns to come. -/
structure World (σ ε : Type) where
  session : Session σ ε
  /-- The server; none where somebody else plays it. -/
  server : Option Server
  /-- Whose turn is next. -/
  queue : List Actor
  /-- The times that actors wait for, in the order in which they began to. -/
  timers : List (Nat × Actor)

namespace World

def new (session : Session σ ε) (server : Option Server) : World σ ε := ⟨session, server, [], []⟩

def mapLink (w : World σ ε) (f : Transport.Memory → Transport.Memory) : World σ ε :=
  { w with session := { w.session with link := f w.session.link } }

/-! ### The server's turns -/

/-- The inbound side ends when the server is gone and owes no more replies. -/
def endSource (w : World σ ε) : World σ ε :=
  match w.server with
  | some server =>
    if server.running || server.owesReplies then w else w.mapLink Transport.Memory.endSource
  | none => w

def answer (w : World σ ε) (server : Server) (m : Message) : World σ ε :=
  if w.session.link.accepts then { w with server := some server }.mapLink (·.inject m)
  else { w with server := some { server with running := false } }.mapLink (·.deafen)

/-- The server takes the next message that was sent. -/
def serve (w : World σ ε) (server : Server) : World σ ε :=
  match w.session.link.sent[server.seen]? with
  | none => w
  | some m =>
    let server := { server with seen := server.seen + 1 }
    match m with
    | .request r =>
      let (reply, server) := server.choose r
      match reply with
      | .result value => w.answer server (.response (.success r.id value))
      | .error e => w.answer server (.response (.failure (some r.id) e))
      | .delayed milliseconds value =>
        let later : DelayedReply := ⟨.response (.success r.id value), milliseconds, none, false⟩
        { w with server := some { server with replies := server.replies ++ [later] } }
      | .silence => { w with server := some server }
    | _ => { w with server := some server }

/-- A delayed reply starts to wait, or is given. -/
def stepReply (w : World σ ε) (server : Server) (index : Nat) : World σ ε :=
  match server.replies[index]? with
  | none => w
  | some r =>
    match r.deadline with
    | none =>
      let waiting := { r with deadline := some (w.session.now + r.milliseconds) }
      { w with server := some { server with replies := server.replies.set index waiting } }
    | some _ =>
      let server := { server with replies := server.replies.set index { r with given := true } }
      ({ w with server := some server }.mapLink (·.inject r.message)).endSource

/-! ### Turns -/

def enabled (w : World σ ε) : Actor → Bool
  | .session agent => w.session.enabled agent
  | .server =>
    match w.server with
    | some server => server.running && server.seen < w.session.link.sent.length
    | none => false
  | .reply index =>
    match w.server.bind fun server => server.replies[index]? with
    | some r =>
      !r.given &&
        match r.deadline with
        | none => true
        | some deadline => deadline ≤ w.session.now
    | none => false

def step (w : World σ ε) (actor : Actor) : World σ ε :=
  match actor with
  | .session agent => { w with session := w.session.step agent }
  | .server =>
    match w.server with
    | some server => w.serve server
    | none => w
  | .reply index =>
    match w.server with
    | some server => w.stepReply server index
    | none => w

def actors (w : World σ ε) : List Actor :=
  let replies :=
    match w.server with
    | some server => (List.range server.replies.length).map Actor.reply
    | none => []
  w.session.agents.map .session ++ .server :: replies

/-- Puts the actors that have something to do, and are not in the queue yet, at its end. -/
def enqueue (w : World σ ε) : World σ ε :=
  { w with queue := w.queue ++ w.actors.filter fun a => w.enabled a && !w.queue.contains a }

/-- The time that an actor waits for. -/
def deadline? (w : World σ ε) : Actor → Option Nat
  | .session (.task index) => w.session.tasks[index]?.bind Session.Task.deadline?
  | .session _ => none
  | .server => none
  | .reply index =>
    match w.server.bind fun server => server.replies[index]? with
    | some r => if r.given then none else r.deadline
    | none => none

def note (w : World σ ε) (actor : Actor) : World σ ε :=
  match w.deadline? actor with
  | none => { w with timers := w.timers.filter fun t => t.2 ≠ actor }
  | some deadline =>
    if w.timers.contains (deadline, actor) then w
    else { w with timers := w.timers.filter (fun t => t.2 ≠ actor) ++ [(deadline, actor)] }

/-- Gives turns until nobody has anything to do, or for so many steps. -/
def turns : Nat → World σ ε → World σ ε
  | 0, w => w
  | fuel + 1, w =>
    match w.queue with
    | [] => w
    | actor :: rest =>
      if w.enabled actor then turns fuel (w.step actor).enqueue
      else turns fuel ({ w with queue := rest }.note actor)

/-- More steps than any scenario takes. -/
def plenty : Nat := 100000000

/-- Gives turns until nobody has anything to do. -/
def settle (w : World σ ε) : World σ ε := turns plenty w.enqueue

/-! ### Time -/

/-- The earliest time that somebody waits for. -/
def nextTime? (w : World σ ε) : Option Nat := (w.timers.map Prod.fst).min?

/-- Moves the clock to a time that has something due. -/
def fire (w : World σ ε) (time : Nat) : World σ ε :=
  let due := w.timers.filterMap fun t => if t.1 ≤ time then some t.2 else none
  { w with
    session := { w.session with now := max w.session.now time }
    queue := w.queue ++ due }.settle

/-- Moves the clock to a time, past every time in between that somebody waits for. -/
def advanceTo : Nat → Nat → World σ ε → World σ ε
  | 0, _, w => w
  | fuel + 1, time, w =>
    match w.nextTime? with
    | some due =>
      if due ≤ time then advanceTo fuel time (w.fire due)
      else { w with session := { w.session with now := max w.session.now time } }
    | none => { w with session := { w.session with now := max w.session.now time } }

/-- Moves the clock by some milliseconds. -/
def advance (w : World σ ε) (milliseconds : Nat) : World σ ε :=
  advanceTo plenty (w.session.now + milliseconds) w

/-! ### The outside -/

def spawn (w : World σ ε) (program : Program σ ε Unit) : World σ ε :=
  { w with session := w.session.spawn program }

/-- Whether what comes in would be taken. -/
def accepts (w : World σ ε) : Bool := w.session.link.accepts

/-- The server goes away; replies that it owes still come. -/
def disconnect (w : World σ ε) : World σ ε :=
  match w.server with
  | some server =>
    ({ w with server := some { server with running := false } }.mapLink (·.deafen)).endSource
  | none => w.mapLink fun link => link.deafen.endSource

end World

end Mcp.Scenario
