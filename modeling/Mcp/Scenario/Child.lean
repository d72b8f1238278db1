import Mcp.Process.Attended
import Mcp.Process.Launch
import Mcp.Transport.Child

/-!
Scenarios of a transport to a child process. A call runs to its end, and the clock moves while it
waits: always to the next time at which the process wakes. Of all orders in which the steps of the
transport may be taken, this plays the one in which nobody waits for what need not be waited for.
-/

namespace Mcp.Scenario.Children

open Transport (Child Status)

inductive Step where
  | connect
  | send (message : Except Error Message)
  /-- Receives the next message. -/
  | receive
  /-- Receives to the end. -/
  | receiveAll
  /-- Takes the next line of diagnostics. -/
  | diagnostic
  | close (graceful : Bool)
  | health

/-- What a step gives. -/
inductive Result where
  | outcome (result : Except Error Unit)
  | message (message : Option Message)
  | messages (messages : List Message)
  | line (line : Option String)

/-- What can be seen after a step. -/
structure Entry where
  result : Result
  status : Status

structure State where
  program : Config.Program
  /-- What the program would inherit. -/
  inherited : List (String × String)
  closeTimeout : Nat
  now : Nat
  transport : Child
  /-- The process, once it was started. -/
  attended : Option Attended

namespace State

def step (s : State) (action : Child.Action) : State :=
  { s with transport := s.transport.tryStep action }

def steps (s : State) (actions : List Child.Action) : State := actions.foldl step s

def mapAttended (s : State) (f : Attended → Attended) : State :=
  { s with attended := s.attended.map f }

/-- Lets the process go on until it waits; the transport hears of the ends of its output and of
itself. -/
def settle (s : State) : State :=
  match s.attended with
  | none => s
  | some a =>
    let a := a.settle s.now
    let s := { s with attended := some a }
    let s := if a.reader.reading then s else s.step .outputEnds
    match a.process.activity.ending? with
    | some ending => s.step (.exit ending)
    | none => s

/-- Lets time pass until something is so, until a time, or until nothing will happen any more. -/
def waitUntil (isSo : State → Bool) (deadline : Option Nat) : Nat → State → State
  | 0, s => s
  | fuel + 1, s =>
    if isSo s then s
    else
      let wake := s.attended.bind fun a => a.process.wake
      match wake with
      | some time =>
        match deadline with
        | some last =>
          if time ≤ last then waitUntil isSo deadline fuel ({ s with now := time }.settle)
          else { s with now := last }
        | none => waitUntil isSo deadline fuel ({ s with now := time }.settle)
      | none => { s with now := (deadline.getD s.now) }

/-- More wakings than a scenario waits for. -/
def plenty : Nat := 1000000

/-! ### Sending -/

/-- Gives the process the line that the writer has. -/
def deliver (s : State) : State :=
  match s.transport.writer with
  | .writing _ rest =>
    match s.attended.bind fun a => a.feed rest with
    | some a => { s with attended := some a }.steps [.write rest.length, .acknowledge]
    | none => s.step .refuse
  | _ => s

def send (s : State) (m : Message) : Except Error Unit × State :=
  let index := s.transport.sends.length
  let line := Text.encode m.line
  let s := (s.steps [.send line, .enter index, .enqueue index, .take]).deliver.settle
  match (s.transport.sends[index]?).map Child.Send.stage with
  | some (.ended result) => (result, s)
  | _ => (.error .transportClosed, s)

/-! ### Connecting -/

def connect (s : State) : Except Error Unit × State :=
  match s.transport.connectFault? with
  | some e => (.error e, s)
  | none =>
    let activity := s.program.launch s.inherited
    let s := s.steps [.connect, .spawn activity.isSome, .place, .publish, .complete]
    let s := { s with attended := activity.map Attended.start }.settle
    match s.transport.connecting with
    | .ended result => (result, s)
    | _ => (.ok (), s)

/-! ### Closing -/

/-- The process hears of what a close did to it. -/
def inform (s : State) (before : Child.Process) : State :=
  let s := if s.transport.writer = .over then s.mapAttended Attended.endInput else s
  if s.transport.process = before then s
  else
    match s.transport.process with
    | .running _ => s.mapAttended Attended.terminate
    | _ => s.mapAttended Attended.kill

def stage (s : State) (index : Nat) : Child.CloseStage :=
  ((s.transport.closes[index]?).map Child.Close.stage).getD .ended

/-- A close takes its next step. If it must wait for that, it waits, but not too long. -/
def stepClose (s : State) (index : Nat) : State :=
  let canStep (s : State) := (s.transport.step? (.advance index)).isSome
  let s := s.waitUntil canStep (some (s.now + s.closeTimeout)) plenty
  let next := s.step (if canStep s then .advance index else .lapse index)
  ((next.step .finish).inform s.transport.process).settle

/-- Takes the steps of a close to its end, at most so many. -/
def runClose (index : Nat) : Nat → State → State
  | 0, s => s
  | fuel + 1, s => if s.stage index = .ended then s else runClose index fuel (s.stepClose index)

def closeSteps : Nat := 20

def close (s : State) (graceful : Bool) : State :=
  let index := s.transport.closes.length
  let s := runClose index closeSteps (s.step (.close graceful))
  if s.transport.reader = .over then s.mapAttended Attended.ignore else s

/-! ### Receiving -/

/-- Whether no more messages will come. -/
def isSilent (s : State) : Bool := s.attended.all fun a => !a.reader.reading

def waitForMessage (s : State) : State :=
  s.waitUntil (fun s => s.isSilent || s.attended.any fun a => !a.messages.isEmpty) none plenty

def receive (s : State) : Option Message × State :=
  let s := s.waitForMessage
  match s.attended with
  | some a => (a.messages.head?, s.mapAttended fun a => { a with messages := a.messages.drop 1 })
  | none => (none, s)

def receiveAll (s : State) : List Message × State :=
  let s := s.waitUntil isSilent none plenty
  match s.attended with
  | some a => (a.messages, s.mapAttended fun a => { a with messages := [] })
  | none => ([], s)

def diagnostic (s : State) : Option String × State :=
  let s := s.waitUntil (fun s => s.attended.all fun a =>
    !a.diagnostics.isEmpty || !a.textReader.reading) none plenty
  match s.attended with
  | some a =>
    (a.diagnostics.head?, s.mapAttended fun a => { a with diagnostics := a.diagnostics.drop 1 })
  | none => (none, s)

/-! ### All steps -/

def act (s : State) : Step → Result × State
  | .connect =>
    let (result, s) := s.connect
    (.outcome result, s)
  | .send (.error e) => (.outcome (.error e), s)
  | .send (.ok m) =>
    let (result, s) := s.send m
    (.outcome result, s)
  | .receive =>
    let (message, s) := s.receive
    (.message message, s)
  | .receiveAll =>
    let (messages, s) := s.receiveAll
    (.messages messages, s)
  | .diagnostic =>
    let (line, s) := s.diagnostic
    (.line line, s)
  | .close graceful => (.outcome (.ok ()), s.close graceful)
  | .health => (.outcome s.transport.health, s)

def play (s : State) : List Step → List Entry
  | [] => []
  | step :: rest =>
    let (result, s) := s.act step
    ⟨result, s.transport.status⟩ :: s.play rest

end State

def play (program : Config.Program) (inherited : List (String × String)) (closeTimeout : Nat)
    (steps : List Step) : List Entry :=
  State.play ⟨program, inherited, closeTimeout, 0, .new program.command, none⟩ steps

end Mcp.Scenario.Children
