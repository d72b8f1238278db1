import Mcp.Command.Perform
import Mcp.Process.Attended
import Mcp.Process.Launch
import Mcp.Scenario.World

/-!
Scenarios of a command with the process that is its server. Client and process take turns: each goes
on until it waits for the other or for a time. The clock moves, when both wait, to the earliest time
that either waits for.
-/

namespace Mcp.Scenario.Commands

open Command (Event Operation Plan)

/-- A client, the process at its other end, and what passed between them. -/
structure Course where
  world : World Client.State Event
  process : Attended
  /-- How many messages of the client the process was given. -/
  given : Nat

namespace Course

def now (c : Course) : Nat := c.world.session.now

/-- The outcome of the operation, once it has ended. -/
def outcome? (c : Course) : Option (Except Error Unit) :=
  c.world.session.log.findSome? fun e =>
    match e with
    | .ended outcome => some outcome
    | _ => none

def waiting (c : Course) : List Message := c.world.session.link.sent.drop c.given

/-- Gives the process the messages that wait for it, as lines; one that reads no more takes none. -/
def give (c : Course) : Course :=
  let bytes := c.waiting.flatMap fun m => Text.encode m.line
  { c with
    process := (c.process.feed bytes).getD c.process
    given := c.world.session.link.sent.length }

/-- The client hears of the end of the process, and that it reads no more. -/
def hear (link : Transport.Memory) (process : Attended) : Transport.Memory :=
  let link := process.messages.foldl Transport.Memory.inject link
  let link := if process.process.reading then link else { link with status := .closed }
  if process.reader.reading then link else link.endSource

/-- The process goes on until it waits, and the client until it waits too. -/
def turn (c : Course) : Course :=
  let process := c.process.settle c.now
  let world := (c.world.mapLink fun link => hear link process).settle
  { c with world, process := { process with messages := [] } }

/-- Moves the clock to the earliest time that either waits for. -/
def pass (c : Course) : Course :=
  match (c.world.nextTime?.toList ++ c.process.process.wake.toList).min? with
  | some time => { c with world := c.world.fire time }
  | none => c

/-- Plays on, at most so many turns, until the operation has ended. -/
def play : Nat → Course → Course
  | 0, c => c
  | fuel + 1, c =>
    if c.outcome?.isSome then c
    else if c.waiting.isEmpty then play fuel c.pass.turn
    else play fuel c.give.turn

/-- More turns than a scenario takes. -/
def plenty : Nat := 1000000

end Course

/-- Runs an operation with a process. -/
def run (settings : Client.Settings) (operation : Operation) (activity : Activity) :
    Except Error Unit × List Event :=
  match Client.start "sess" settings (Client.Hooks.default Event.logged) .new with
  | .error e => (.error e, [])
  | .ok session =>
    let program := Program.bind operation.run fun outcome => .emit (.ended outcome) (.done ())
    let world := ((World.new session none).spawn program).settle
    let c := Course.play Course.plenty ⟨world, .start activity, 0⟩
    (c.outcome?.getD (.error .transportClosed), c.world.session.log)

/-- Carries out a plan. Servers over the network cannot be reached. -/
def carryOut (inherited : List (String × String)) : Plan → Except Error Unit × List Event
  | .write text => (.ok (), [.wrote text])
  | .visit (.stdio p) _ settings operation =>
    match p.launch inherited with
    | some activity => run settings operation activity
    | none => (.error (.transport (.spawnFailed p.command)), [])
  | .visit (.sse r) _ _ _ => (.error (.transport (.unreachable r.url)), [])

def play (inherited : List (String × String)) (config : Config) (json : Bool) (command : Command) :
    Except Error Unit × List Event :=
  match command.plan config json with
  | .error e => (.error e, [])
  | .ok plan => carryOut inherited plan

def output (duration : Nat → String) (events : List Event) : String :=
  String.join (events.map (Event.output duration))

end Mcp.Scenario.Commands
