import Mcp.Scenario.World
import Mcp.Schema.Tool
import Mcp.Message.Parser

/-!
Scenarios of a session: calls, what the peer puts in, faults and the passing of time, and what can
be seen after each step.
-/

namespace Mcp.Scenario.Sessions

open Json (Reader)

inductive AnswerType where
  | any
  | text
  | integer
  | boolean
  | integers
  | tools
  | toolResult
  deriving DecidableEq, Repr

def AnswerType.reader : AnswerType → Reader Json
  | .any => Reader.any
  | .text => fun v => (Reader.text v).map .str
  | .integer => fun v => (Reader.signed v).map Json.ofInt
  | .boolean => fun v => (Reader.boolean v).map .bool
  | .integers => fun v => (Reader.list Reader.signed v).map fun ns => .arr (ns.map Json.ofInt)
  | .tools => fun v => (Schema.Tool.pageReader v).map Schema.Tool.pageToJson
  | .toolResult => fun v => (Schema.ToolResult.reader v).map Schema.ToolResult.toJson

inductive Answer where
  | fail (text : String)
  /-- The params of the request. -/
  | echo
  | value (v : Json)
  deriving Repr

/-- A handler of requests: it waits, then answers. -/
structure RequestRule where
  method : String
  delay : Option Nat
  answer : Answer
  deriving Repr

/-- A handler of notifications: it waits, then records its tag. -/
structure NotificationRule where
  method : String
  delay : Option Nat
  tag : Json
  deriving Repr

/-- What can be seen to happen. -/
inductive Event where
  /-- The call that a step started has ended. -/
  | ended (step : Nat) (outcome : Except Error Json)
  | notified (method : String) (params tag : Json)

abbrev Program := Mcp.Program Unit Event

def afterDelay {α : Type} (delay : Option Nat) (program : Program α) : Program α :=
  match delay with
  | some milliseconds => .sleep milliseconds program
  | none => program

def RequestRule.run (rule : RequestRule) (params : Json) : Program (Except String Json) :=
  afterDelay rule.delay (.done
    (match rule.answer with
    | .fail text => .error text
    | .echo => .ok params
    | .value v => .ok v))

def NotificationRule.run (rule : NotificationRule) (params : Json) : Program Unit :=
  afterDelay rule.delay (.emit (.notified rule.method params rule.tag) (.done ()))

def handlers (requests : List RequestRule) (notifications : List NotificationRule) :
    Session.Handlers Unit Event :=
  notifications.foldl (fun h rule => h.onNotification rule.method rule.run)
    (requests.foldl (fun h rule => h.onRequest rule.method rule.run) .none)

inductive Step where
  | request (method : String) (params : Json) (timeout : Option Nat) (type : AnswerType)
  | notify (method : String) (params : Json)
  | close (graceful : Bool)
  | health
  /-- A second session on the same transport. -/
  | connectAgain
  | inject (message : Except Error Message)
  | injectText (text : String)
  | failSends (on : Bool)
  | unhealthy (on : Bool)
  | advance (milliseconds : Nat)
  | disconnect
  | drop

/-- What a step gives at once. -/
inductive Result where
  | nothing
  | injected
  | inboundClosed
  | noPeer
  | noSession
  | taken (accepted : Bool)
  | failed (error : Error)
  | connected

/-- What can be seen after a step. -/
structure Entry where
  status : Transport.Status
  /-- How many requests wait and whether the session is closed, unless it was dropped. -/
  session : Option (Nat × Bool)
  result : Result
  sent : List Message
  ended : List (Nat × Except Error Json)
  notified : List (String × Json × Json)

structure State where
  world : World Unit Event
  /-- How many messages and events were seen. -/
  seenSent : Nat
  seenEvents : Nat
  /-- Whether the peer is there. -/
  peer : Bool
  dropped : Bool
  /-- How many calls were started. -/
  started : Nat

def report (step : Nat) (operation : Program.Operation Unit Event Json) : Program Unit :=
  Program.bind operation.run fun outcome => .emit (.ended step outcome) (.done ())

def Step.call? : Step → Option (Program.Operation Unit Event Json)
  | .request method params timeout type =>
    some (Program.Operation.call type.reader method params timeout)
  | .notify method params => some (do Program.Operation.notify method params; pure .null)
  | .close graceful => some (do Program.Operation.close graceful; pure .null)
  | .health => some (do Program.Operation.health; pure .null)
  | _ => none

/-- The peer puts a message in. -/
def State.inject (s : State) (m : Message) : State × Bool :=
  ({ s with world := s.world.mapLink (·.inject m) }, s.world.accepts)

/-- What a step that starts no call does at once. -/
def State.act (s : State) : Step → State × Result
  | .connectAgain =>
    match s.world.session.link.connect with
    | (.ok (), _) => (s, .connected)
    | (.error e, _) => (s, .failed e)
  | .inject (.error e) => (s, .failed e)
  | .inject (.ok m) =>
    if s.peer then
      let (s, accepted) := s.inject m
      (s, if accepted then .injected else .inboundClosed)
    else (s, .noPeer)
  | .injectText text =>
    match Message.parse text with
    | .error e => (s, .failed e)
    | .ok m =>
      if s.peer then
        let (s, accepted) := s.inject m
        (s, .taken accepted)
      else (s, .noPeer)
  | .failSends on =>
    (if s.peer then { s with world := s.world.mapLink fun l => { l with failing := on } } else s,
      .nothing)
  | .unhealthy on =>
    (if s.peer then { s with world := s.world.mapLink fun l => { l with unhealthy := on } } else s,
      .nothing)
  | .advance milliseconds => ({ s with world := s.world.advance milliseconds }, .nothing)
  | .disconnect => ({ s with world := s.world.disconnect, peer := false }, .nothing)
  | .drop => ({ s with dropped := true }, .nothing)
  | _ => (s, .nothing)

/-- How many calls have ended. -/
def State.endedCount (s : State) : Nat :=
  s.world.session.log.countP fun e =>
    match e with
    | .ended .. => true
    | .notified .. => false

/-- Lets everything happen that can. A dropped session stops when the calls in it have ended. -/
def State.settle (s : State) : State :=
  let world := s.world.settle
  let s := { s with world }
  if s.dropped && s.endedCount = s.started then
    { s with world := { world with session := world.session.drop }.settle }
  else s

def State.look (s : State) (result : Result) : Entry × State :=
  let session := s.world.session
  let events := session.log.drop s.seenEvents
  let ended := events.filterMap fun e =>
    match e with
    | .ended step outcome => some (step, outcome)
    | .notified .. => none
  let notified := events.filterMap fun e =>
    match e with
    | .notified method params tag => some (method, params, tag)
    | .ended .. => none
  ({ status := session.link.status
     session := if s.dropped then none else some (session.pendingCount, session.stopped)
     result
     sent := if s.peer then session.link.sent.drop s.seenSent else []
     ended := ended.mergeSort fun a b => a.1 ≤ b.1
     notified },
    { s with seenSent := session.link.sent.length, seenEvents := session.log.length })

def State.step (s : State) (index : Nat) (step : Step) : Entry × State :=
  match step.call? with
  | some operation =>
    if s.dropped then s.settle.look .noSession
    else
      let world := s.world.spawn (report index operation)
      ({ s with world, started := s.started + 1 }).settle.look .nothing
  | none =>
    let (s, result) := s.act step
    s.settle.look result

def State.play (s : State) (index : Nat) : List Step → List Entry
  | [] => []
  | step :: rest =>
    let (entry, s) := s.step index step
    entry :: s.play (index + 1) rest

def play (timeouts : Session.Timeouts) (requests : List RequestRule)
    (notifications : List NotificationRule) (steps : List Step) : Except Error (List Entry) := do
  let session ← Session.start "sess" timeouts (handlers requests notifications) .new ()
  .ok (State.play ⟨(World.new session none).settle, 0, 0, true, false, 0⟩ 0 steps)

end Mcp.Scenario.Sessions
