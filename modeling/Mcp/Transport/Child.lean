import Mcp.Error

/-!
A transport to a server that is a child process. Those who connect, send and close, the writer, the
reader and the process itself take their steps in any order: `step?` gives the state after a step,
and nothing where the step cannot be taken.

A line is written whole before the next one is begun. Only the first close tears down; those after
it return at once.
-/

namespace Mcp.Transport

inductive Child.Connect where
  | idle
  /-- The status says that it has begun. -/
  | begun
  /-- The process runs, and a writer and a reader serve it. -/
  | spawned
  /-- Others find the process. -/
  | placed
  /-- Others find the queue, the writer and the reader. -/
  | published
  | ended (result : Except Error Unit)
  deriving Repr

inductive Child.SendStage where
  /-- It has its line. -/
  | framed
  /-- It has found the queue. -/
  | admitted
  /-- Its line is in the queue or with the writer. -/
  | waiting
  | ended (result : Except Error Unit)
  deriving Repr

structure Child.Send where
  line : List UInt8
  stage : Child.SendStage
  deriving Repr

inductive Child.Writer where
  | absent
  | idle
  /-- It has written the line of a send but for some bytes. -/
  | writing (send : Nat) (rest : List UInt8)
  | over
  deriving DecidableEq, Repr

inductive Child.Reader where
  | absent
  | reading
  | over
  deriving DecidableEq, Repr

inductive Child.Process where
  | unborn
  /-- It runs; somebody may have asked it to terminate. -/
  | running (asked : Bool)
  /-- It ended in the way that the words tell. -/
  | ended (ending : String)
  deriving DecidableEq, Repr

/-- How far a close is. From `stopping` on it knows whether it has the writer and the reader. -/
inductive Child.CloseStage where
  | called
  /-- It is the first, and tears down. -/
  | claimed
  /-- The status says that it has begun. -/
  | marked
  /-- Others find the queue no more; it waits for the writer, or stops it. -/
  | stopping (workers : Bool)
  /-- It is about to take the process. -/
  | taking (workers : Bool)
  /-- It has the process. -/
  | reaping (workers : Bool)
  /-- The process is gone; it waits for the reader. -/
  | joining (workers : Bool)
  /-- It is about to set the status. -/
  | leaving
  | ended
  deriving DecidableEq, Repr

structure Child.Close where
  graceful : Bool
  stage : Child.CloseStage
  deriving DecidableEq, Repr

structure Child where
  command : String
  status : Status
  connecting : Child.Connect
  process : Child.Process
  /-- Whether others find the process. -/
  held : Bool
  /-- Whether others find the queue. -/
  queueOpen : Bool
  /-- Whether others find the writer and the reader. -/
  workersHeld : Bool
  /-- The sends whose lines are to be written, in order. -/
  queue : List Nat
  writer : Child.Writer
  reader : Child.Reader
  /-- All bytes that were written to the process. -/
  written : List UInt8
  sends : List Child.Send
  /-- Whether a close has claimed the teardown. -/
  released : Bool
  closes : List Child.Close
  deriving Repr

namespace Child

def new (command : String) : Child where
  command
  status := .disconnected
  connecting := .idle
  process := .unborn
  held := false
  queueOpen := false
  workersHeld := false
  queue := []
  writer := .absent
  reader := .absent
  written := []
  sends := []
  released := false
  closes := []

/-- What may happen. -/
inductive Action where
  /-- Somebody connects. -/
  | connect
  | spawn (succeeds : Bool)
  | place
  | publish
  | complete
  /-- Somebody sends a line. -/
  | send (line : List UInt8)
  | enter (send : Nat)
  | enqueue (send : Nat)
  /-- The writer takes the next line. -/
  | take
  /-- The process takes so many bytes. -/
  | write (count : Nat)
  /-- The line is written. -/
  | acknowledge
  /-- The process takes nothing more. -/
  | refuse
  /-- The writer stops, as nobody can give it a line any more. -/
  | finish
  /-- The output of the process ends. -/
  | outputEnds
  | exit (ending : String)
  /-- Somebody closes. -/
  | close (graceful : Bool)
  /-- A close takes its next step. -/
  | advance (close : Nat)
  /-- A close has waited long enough. -/
  | lapse (close : Nat)
  deriving Repr

/-! ### Connecting -/

/-- Why a connect is refused. -/
def connectFault? (t : Child) : Option Error :=
  if t.status = .disconnected then none else some (.invalidState (.already "stdio" t.status))

def beginConnect (t : Child) : Child :=
  match t.connectFault? with
  | none => { t with status := .connecting, connecting := .begun }
  | some _ => t

def spawned (t : Child) (succeeds : Bool) : Child :=
  if succeeds then
    { t with
      connecting := .spawned
      process := .running false
      writer := .idle
      reader := .reading }
  else
    { t with
      status := .closed
      connecting := .ended (.error (.transport (.spawnFailed t.command))) }

/-! ### Sending -/

def endSend (t : Child) (index : Nat) (result : Except Error Unit) : Child :=
  { t with sends := t.sends.modify index fun s => { s with stage := .ended result } }

/-- Ends a send whose line will not be written. -/
def Send.giveUp (s : Send) : Send :=
  match s.stage with
  | .waiting => { s with stage := .ended (.error .transportClosed) }
  | _ => s

/-- The writer stops: whatever waits for it is given up. -/
def stopWriter (t : Child) : Child :=
  { t with writer := .over, queue := [], sends := t.sends.map Send.giveUp }

def enter? (t : Child) (index : Nat) : Option Child :=
  match t.sends[index]? with
  | some ⟨line, .framed⟩ =>
    some
      (if t.queueOpen then { t with sends := t.sends.set index ⟨line, .admitted⟩ }
      else t.endSend index (.error .transportClosed))
  | _ => none

def enqueue? (t : Child) (index : Nat) : Option Child :=
  match t.sends[index]? with
  | some ⟨line, .admitted⟩ =>
    some
      (if t.writer = .over then t.endSend index (.error .transportClosed)
      else { t with sends := t.sends.set index ⟨line, .waiting⟩, queue := t.queue ++ [index] })
  | _ => none

/-- Whether somebody can still give the writer a line. -/
def hasSenders (t : Child) : Bool :=
  t.queueOpen ||
    (match t.connecting with
      | .spawned => true
      | .placed => true
      | _ => false) ||
    t.sends.any fun s =>
      match s.stage with
      | .admitted => true
      | _ => false

/-! ### The writer -/

def take? (t : Child) : Option Child :=
  match t.writer, t.queue with
  | .idle, index :: rest =>
    (t.sends[index]?).map fun s => { t with writer := .writing index s.line, queue := rest }
  | _, _ => none

def write? (t : Child) (count : Nat) : Option Child :=
  match t.writer with
  | .writing index rest =>
    if 0 < count && count ≤ rest.length then
      some { t with
        writer := .writing index (rest.drop count)
        written := t.written ++ rest.take count }
    else none
  | _ => none

def acknowledge? (t : Child) : Option Child :=
  match t.writer with
  | .writing index [] => some ({ t with writer := .idle }.endSend index (.ok ()))
  | _ => none

def refuse? (t : Child) : Option Child :=
  match t.writer with
  | .writing index _ =>
    some (t.endSend index (.error (.transport .writeFailed))).stopWriter
  | _ => none

def finish? (t : Child) : Option Child :=
  match t.writer, t.queue with
  | .idle, [] => if t.hasSenders then none else some { t with writer := .over }
  | _, _ => none

/-! ### The process and its reader -/

/-- The reader stops; a connected transport is closed by that. -/
def outputEnded (t : Child) : Child :=
  { t with reader := .over, status := if t.status = .connected then .closed else t.status }

def exit? (t : Child) (ending : String) : Option Child :=
  match t.process with
  | .running _ => some { t with process := .ended ending }
  | _ => none

/-- How a process that was killed has ended. -/
def killed : String := "signal: 9 (SIGKILL)"

def Process.kill : Process → Process
  | .running _ => .ended killed
  | p => p

def Process.ask : Process → Process
  | .running _ => .running true
  | p => p

def Process.isRunning : Process → Bool
  | .running _ => true
  | _ => false

/-! ### Closing -/

/-- The next step of a close, if it need not wait. -/
def advance? (t : Child) (graceful : Bool) : CloseStage → Option (Child × CloseStage)
  | .called =>
    some (if t.released then (t, .ended) else ({ t with released := true }, .claimed))
  | .claimed =>
    some
      (if t.status = .disconnected then ({ t with status := .closed }, .ended)
      else ({ t with status := .closing }, .marked))
  | .marked =>
    some ({ t with queueOpen := false, workersHeld := false }, .stopping t.workersHeld)
  | .stopping workers =>
    if !workers then some (t, .taking workers)
    else if !graceful then some ({ t.stopWriter with reader := .over }, .taking workers)
    else if t.writer = .over then some (t, .taking workers)
    else none
  | .taking workers =>
    some
      (if !t.held then (t, .joining workers)
      else
        ({ t with
          held := false
          process := if graceful then t.process.ask else t.process }, .reaping workers))
  | .reaping workers =>
    if !graceful then some ({ t with process := t.process.kill }, .joining workers)
    else if t.process.isRunning then none
    else some (t, .joining workers)
  | .joining workers =>
    if graceful && workers && t.reader = .reading then none else some (t, .leaving)
  | .leaving => some ({ t with status := .closed }, .ended)
  | .ended => none

/-- What a graceful close does when it has waited long enough. -/
def lapse? (t : Child) : CloseStage → Option (Child × CloseStage)
  | .stopping true => some (t, .taking true)
  | .reaping workers => some ({ t with process := t.process.kill }, .joining workers)
  | .joining true => some ({ t with reader := .over }, .leaving)
  | _ => none

def moveClose (index : Nat) (c : Close) : Child × CloseStage → Child
  | (t, stage) => { t with closes := t.closes.set index { c with stage } }

/-! ### All steps -/

/-- The state after a step, if the step can be taken. -/
def step? (t : Child) : Action → Option Child
  | .connect => some t.beginConnect
  | .spawn succeeds =>
    match t.connecting with
    | .begun => some (t.spawned succeeds)
    | _ => none
  | .place =>
    match t.connecting with
    | .spawned => some { t with connecting := .placed, held := true }
    | _ => none
  | .publish =>
    match t.connecting with
    | .placed => some { t with connecting := .published, queueOpen := true, workersHeld := true }
    | _ => none
  | .complete =>
    match t.connecting with
    | .published => some { t with connecting := .ended (.ok ()), status := .connected }
    | _ => none
  | .send line => some { t with sends := t.sends ++ [⟨line, .framed⟩] }
  | .enter index => t.enter? index
  | .enqueue index => t.enqueue? index
  | .take => t.take?
  | .write count => t.write? count
  | .acknowledge => t.acknowledge?
  | .refuse => t.refuse?
  | .finish => t.finish?
  | .outputEnds => if t.reader = .reading then some t.outputEnded else none
  | .exit ending => t.exit? ending
  | .close graceful => some { t with closes := t.closes ++ [⟨graceful, .called⟩] }
  | .advance index =>
    (t.closes[index]?).bind fun c => (t.advance? c.graceful c.stage).map (moveClose index c)
  | .lapse index =>
    (t.closes[index]?).bind fun c =>
      if c.graceful then (t.lapse? c.stage).map (moveClose index c) else none

/-- Takes a step if it can be taken. -/
def tryStep (t : Child) (action : Action) : Child := (t.step? action).getD t

/-- Whether a connected process is there and runs. -/
def health (t : Child) : Except Error Unit :=
  if t.status ≠ .connected then .error (.transport (.notConnected "stdio" t.status))
  else if !t.held then .error (.transport .noProcess)
  else
    match t.process with
    | .ended ending => .error (.transport (.exited ending))
    | _ => .ok ()

end Child

end Mcp.Transport
