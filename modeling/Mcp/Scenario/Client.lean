import Mcp.Scenario.World
import Mcp.Client.Hooks

/-!
Scenarios of a client with a scripted server: operations, what the server sends of itself, faults
and the passing of time, and what can be seen after each step.
-/

namespace Mcp.Scenario.Clients

open Client (Capability Hooks Lifecycle LogLine Reaction Settings)
open Schema

/-- What can be seen to happen. -/
inductive Event where
  /-- The call that a step started has ended. -/
  | ended (step : Nat) (outcome : Except Error Json)
  /-- A consumer was given a list. -/
  | consumed (kind : String) (index : Nat) (items : List Json)
  | logged (record : LogRecord)
  | wrote (line : LogLine)

/-- The hooks that a client has: for each consumer and for the log, whether it succeeds. -/
structure HookPlan where
  tools : List Bool
  resources : List Bool
  prompts : List Bool
  /-- None where the log is written as it is by default. -/
  log : Option Bool
  deriving Repr

def reaction (event : Event) (succeeds : Bool) : Reaction Event :=
  ⟨[event], if succeeds then none else some "consumer failed"⟩

/-- Consumers that record what they are given. -/
def consumers {α : Type} (kind : String) (write : α → Json) (plan : List Bool) :
    List (Client.Consumer Event α) :=
  plan.mapIdx fun index succeeds items =>
    reaction (.consumed kind index (items.map write)) succeeds

def HookPlan.hooks (plan : HookPlan) : Hooks Event where
  tools := consumers "tools" Tool.toJson plan.tools
  resources := consumers "resources" Resource.toJson plan.resources
  prompts := consumers "prompts" Prompt.toJson plan.prompts
  log :=
    match plan.log with
    | some succeeds => fun r => reaction (.logged r) succeeds
    | none => (Hooks.default Event.wrote).log

inductive Call where
  | handshake
  | tools (cursor : Option String)
  | allTools
  | callTool (call : ToolCall)
  | resources (cursor : Option String)
  | allResources
  | readResource (uri : String)
  | templates (cursor : Option String)
  | allTemplates
  | prompts (cursor : Option String)
  | allPrompts
  | getPrompt (request : PromptRequest)
  | ping
  | health
  | close (graceful : Bool)

def Call.operation (settings : Settings) : Call → Client.Operation Event Json
  | .handshake => do pure (← Client.handshake settings).toJson
  | .tools cursor => do pure (Tool.pageToJson (← Client.Listing.tools.page settings cursor))
  | .allTools => do pure (.arr ((← Client.Listing.tools.all settings).map Tool.toJson))
  | .callTool call => do pure (← Client.callTool settings call).toJson
  | .resources cursor => do
    pure (Resource.pageToJson (← Client.Listing.resources.page settings cursor))
  | .allResources => do pure (.arr ((← Client.Listing.resources.all settings).map Resource.toJson))
  | .readResource uri => do pure (← Client.readResource settings uri).toJson
  | .templates cursor => do
    pure (ResourceTemplate.pageToJson (← Client.Listing.templates.page settings cursor))
  | .allTemplates => do
    pure (.arr ((← Client.Listing.templates.all settings).map ResourceTemplate.toJson))
  | .prompts cursor => do pure (Prompt.pageToJson (← Client.Listing.prompts.page settings cursor))
  | .allPrompts => do pure (.arr ((← Client.Listing.prompts.all settings).map Prompt.toJson))
  | .getPrompt request => do pure (← Client.getPrompt settings request).toJson
  | .ping => do
    Client.ping settings
    pure .null
  | .health => do
    Client.checkHealth settings
    pure .null
  | .close graceful => do
    Client.close graceful
    pure .null

inductive Step where
  | call (call : Call)
  | capable (part : Capability)
  | serverInfo
  | serverCapabilities
  | agreement
  /-- How many messages with a method the server has received. -/
  | received (method : String)
  /-- Looks every ten milliseconds whether the server has received so many messages of a method. -/
  | waitFor (method : String) (count timeout : Nat)
  /-- A second client on the same transport. -/
  | connectAgain
  | inject (message : Except Error Message)
  | failSends (on : Bool)
  | unhealthy (on : Bool)
  | advance (milliseconds : Nat)
  | disconnect

/-- What a step gives at once. -/
inductive Result where
  | nothing
  | flag (value : Bool)
  | value (value : Option Json)
  | count (value : Nat)
  | injected
  | noServer
  | failed (error : Error)
  | connected

/-- What can be seen after a step. -/
structure Entry where
  lifecycle : Lifecycle
  status : Transport.Status
  pending : Nat
  result : Result
  sent : List Message
  ended : List (Nat × Except Error Json)
  events : List Event

structure State where
  settings : Settings
  world : World Client.State Event
  /-- How many messages and events were seen. -/
  seenSent : Nat
  seenEvents : Nat

namespace State

def serving (s : State) : Bool :=
  match s.world.server with
  | some server => server.running
  | none => false

def received (s : State) : List Message :=
  match s.world.server with
  | some server => if server.running then s.world.session.link.sent.take server.seen else []
  | none => []

def receivedWith (s : State) (method : String) : Nat :=
  s.received.countP fun m => m.method? = some method

/-- Looks every ten milliseconds, until a time, whether the server has received so many messages. -/
def waitFor (method : String) (count deadline : Nat) : Nat → State → State × Bool
  | 0, s => (s, false)
  | fuel + 1, s =>
    if count ≤ s.receivedWith method then (s, true)
    else if deadline ≤ s.world.session.now then (s, false)
    else waitFor method count deadline fuel { s with world := s.world.advance 10 }

def act (s : State) : Step → State × Result
  | .call _ => (s, .nothing)
  | .capable part => (s, .flag (s.world.session.shared.capable part))
  | .serverInfo =>
    (s, .value (s.world.session.shared.agreement.map fun a => a.serverInfo.toJson))
  | .serverCapabilities =>
    (s, .value (s.world.session.shared.agreement.map fun a => a.capabilities.toJson))
  | .agreement => (s, .value (s.world.session.shared.agreement.map Agreement.toJson))
  | .received method => (s, .count (s.receivedWith method))
  | .waitFor method count timeout =>
    let (s, found) := s.waitFor method count (s.world.session.now + timeout) (timeout / 10 + 2)
    (s, .flag found)
  | .connectAgain =>
    match s.world.session.link.connect with
    | (.ok (), _) => (s, .connected)
    | (.error e, _) => (s, .failed e)
  | .inject message =>
    if !s.serving then (s, .noServer)
    else
      match message with
      | .error e => (s, .failed e)
      | .ok m => ({ s with world := s.world.mapLink (·.inject m) }, .injected)
  | .failSends on =>
    (if s.serving then { s with world := s.world.mapLink fun l => { l with failing := on } }
      else s, .nothing)
  | .unhealthy on =>
    (if s.serving then { s with world := s.world.mapLink fun l => { l with unhealthy := on } }
      else s, .nothing)
  | .advance milliseconds => ({ s with world := s.world.advance milliseconds }, .nothing)
  | .disconnect => ({ s with world := s.world.disconnect }, .nothing)

def look (s : State) (result : Result) : Entry × State :=
  let session := s.world.session
  let events := session.log.drop s.seenEvents
  let ended := events.filterMap fun e =>
    match e with
    | .ended step outcome => some (step, outcome)
    | _ => none
  let others := events.filter fun e =>
    match e with
    | .ended .. => false
    | _ => true
  ({ lifecycle := session.shared.lifecycle
     status := session.link.status
     pending := session.pendingCount
     result
     sent := s.received.drop s.seenSent
     ended := ended.mergeSort fun a b => a.1 ≤ b.1
     events := others },
    { s with seenSent := s.received.length, seenEvents := session.log.length })

def step (s : State) (index : Nat) : Step → Entry × State
  | .call call =>
    let program := Program.bind (call.operation s.settings).run fun outcome =>
      .emit (.ended index outcome) (.done ())
    { s with world := (s.world.spawn program).settle }.look .nothing
  | other =>
    let (s, result) := s.act other
    { s with world := s.world.settle }.look result

def play (s : State) (index : Nat) : List Step → List Entry
  | [] => []
  | step :: rest =>
    let (entry, s) := s.step index step
    entry :: s.play (index + 1) rest

end State

def play (settings : Settings) (plan : HookPlan) (script : List (String × Rule))
    (steps : List Step) : Except Error (List Entry) := do
  let session ← Client.start "sess" settings plan.hooks .new
  .ok (State.play ⟨settings, (World.new session (some (.new script))).settle, 0, 0⟩ 0 steps)

end Mcp.Scenario.Clients
