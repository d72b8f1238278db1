import Mcp.Scenario.World
import Mcp.Client.Hooks
import Mcp.Toolbox.Calls

/-!
Scenarios of a box of tools: several servers, each with a client, on one clock. A call runs to its
end, and the clock moves while it waits.
-/

namespace Mcp.Scenario.Toolboxes

open Schema (Tool ToolCall ToolResult)

/-- The end of an operation; the events of a client's hooks are of no interest here. -/
inductive Event where
  | finished (outcome : Except Error Unit)
  | listed (outcome : Except Error (List Tool))
  | called (outcome : Except Error ToolResult)
  | hook

/-- A server with its client. -/
structure Peer where
  id : String
  settings : Client.Settings
  world : World Client.State Event
  /-- How many of its messages were shown. -/
  shown : Nat

/-- All servers, by their ids. -/
abbrev Peers := List Peer

namespace Peer

/-- The operations that have ended. -/
def ends (p : Peer) : List Event :=
  p.world.session.log.filter fun e =>
    match e with
    | .hook => false
    | _ => true

/-- Moves the clock until more operations have ended. -/
def runPast (count : Nat) : Nat → Peer → Peer
  | 0, p => p
  | fuel + 1, p =>
    if count < p.ends.length then p
    else
      match p.world.nextTime? with
      | some time => runPast count fuel { p with world := p.world.fire time }
      | none => p

def run {α : Type} (p : Peer) (operation : Client.Operation Event α)
    (ending : Except Error α → Event) : Option Event × Peer :=
  let program := Program.bind operation.run fun outcome => .emit (ending outcome) (.done ())
  let p := runPast p.ends.length World.plenty { p with world := (p.world.spawn program).settle }
  (p.ends.getLast?, p)

def serving (p : Peer) : Bool :=
  match p.world.server with
  | some server => server.running
  | none => false

def received (p : Peer) : List Message :=
  match p.world.server with
  | some server => if server.running then p.world.session.link.sent.take server.seen else []
  | none => []

/-- Connects a client to a scripted server, and performs the handshake if it is wanted. -/
def start (id : String) (settings : Client.Settings) (script : List (String × Rule))
    (handshake : Bool) : Except Error Peer := do
  let session ← Client.start "sess" settings (Client.Hooks.default fun _ => Event.hook) .new
  let p : Peer := ⟨id, settings, (World.new session (some (.new script))).settle, 0⟩
  let p :=
    if handshake then (p.run (Client.handshake settings) fun r => .finished (r.map fun _ => ())).2
    else p
  .ok { p with shown := p.received.length }

/-- Moves its clock on to a time. -/
def catchUp (p : Peer) (time : Nat) : Peer :=
  { p with world := p.world.advance (time - p.world.session.now) }

end Peer

/-- Changes the peer with an id, and moves the clocks of all to the latest time among them. -/
def change {α : Type} (id : String) (fallback : α) (f : Peer → α × Peer) (peers : Peers) :
    α × Peers :=
  match peers.find? fun p => p.id = id with
  | none => (fallback, peers)
  | some p =>
    let (result, p) := f p
    let time := p.world.session.now
    (result, peers.map fun q => if q.id = id then p else q.catchUp time)

/-- Asks peers by their ids. -/
def access : Toolbox.Access (StateM Peers) String where
  offersTools id := do
    pure ((← get).any fun p => p.id = id && p.world.session.shared.capable .tools)
  listTools id peers :=
    let (event, peers) :=
      change id none (fun p => p.run (Client.Listing.tools.all p.settings) .listed) peers
    match event with
    | some (.listed outcome) => (outcome, peers)
    | _ => (.error .transportClosed, peers)
  callTool id call peers :=
    let (event, peers) :=
      change id none (fun p => p.run (Client.callTool p.settings call) .called) peers
    match event with
    | some (.called outcome) => (outcome, peers)
    | _ => (.error .transportClosed, peers)

inductive Step where
  | add (peer name : String)
  | disconnect (peer : String)
  | close (peer : String)
  | failSends (peer : String) (on : Bool)
  | names
  | list
  | call (key : String) (arguments : Json)
  | execute (key : String) (arguments : Json)

/-- What a step gives. -/
inductive Result where
  | nothing
  | added
  | disconnected
  | noServer
  | names (names : List String)
  | listed (entries : List Toolbox.Entry)
  | outcome (outcome : Except Error Json)

/-- What can be seen after a step. -/
structure Entry where
  result : Result
  /-- New messages by the ids of the servers that received them. -/
  sent : List (String × List Message)

structure State where
  toolbox : Toolbox String
  peers : Peers

namespace State

def act (s : State) : Step → Result × State
  | .add peer name => (.added, { s with toolbox := s.toolbox.add name peer })
  | .disconnect peer =>
    let (result, peers) := change peer .noServer (fun p =>
      (if p.serving then .disconnected else .noServer,
        { p with world := p.world.disconnect.settle })) s.peers
    (result, { s with peers })
  | .close peer =>
    let (event, peers) := change peer none (fun p => p.run (Client.close false) .finished) s.peers
    match event with
    | some (.finished outcome) => (.outcome (outcome.map fun _ => .null), { s with peers })
    | _ => (.noServer, { s with peers })
  | .failSends peer on =>
    let (result, peers) := change peer .nothing (fun p =>
      (.nothing,
        if p.serving then { p with world := p.world.mapLink fun l => { l with failing := on } }
        else p)) s.peers
    (result, { s with peers })
  | .names => (.names s.toolbox.names, s)
  | .list =>
    let ((entries, toolbox), peers) := s.toolbox.list access s.peers
    (.listed entries, { toolbox, peers })
  | .call key arguments =>
    let ((result, toolbox), peers) := s.toolbox.call access key arguments s.peers
    (.outcome (result.map ToolResult.toJson), { toolbox, peers })
  | .execute key arguments =>
    let ((result, toolbox), peers) := s.toolbox.execute access key arguments s.peers
    (.outcome (result.map .str), { toolbox, peers })

/-- One step, and what can be seen after it. -/
def step (s : State) (step : Step) : Entry × State :=
  let (result, s) := s.act step
  let sent := s.peers.filterMap fun p =>
    let messages := p.received.drop p.shown
    if messages.isEmpty then none else some (p.id, messages)
  (⟨result, sent⟩, { s with peers := s.peers.map fun p => { p with shown := p.received.length } })

def play (s : State) : List Step → List Entry
  | [] => []
  | step :: rest =>
    let (entry, s) := s.step step
    entry :: s.play rest

end State

def play (peers : List Peer) (steps : List Step) : List Entry := State.play ⟨.empty, peers⟩ steps

end Mcp.Scenario.Toolboxes
