/-!
What a process does, as seen from outside: it reads bytes, writes bytes, sleeps and ends. A process
that was asked to terminate while it reads or sleeps may pass over that, or go on in another way.
-/

namespace Mcp

inductive Outlet where
  | standard
  | diagnostic
  deriving DecidableEq, Repr

inductive Channel where
  | input
  | outlet (o : Outlet)
  deriving DecidableEq, Repr

inductive Activity where
  | exited (code : Nat)
  /-- It was ended by a signal. -/
  | signalled (signal : Nat)
  | step (next : Unit → Activity)
  | write (outlet : Outlet) (bytes : List UInt8) (next : Unit → Activity)
  /-- It closes a stream. -/
  | close (channel : Channel) (next : Unit → Activity)
  /-- It waits for a byte, or for the end of its input. -/
  | read (deaf : Bool) (terminated : Unit → Activity) (next : Option UInt8 → Activity)
  | sleep (milliseconds : Nat) (deaf : Bool) (terminated : Unit → Activity)
      (next : Unit → Activity)

namespace Activity

/-- The numbers of the signals that ask a process to terminate, and that end it. -/
def termination : Nat := 15

def kill : Nat := 9

/-- What becomes of a process that does nothing about a signal. -/
def dies (_ : Unit) : Activity := .signalled termination

def readByte (next : Option UInt8 → Activity) : Activity := .read false dies next

/-- Copies its input to its output. -/
def copy : Nat → Activity
  | 0 => .exited 1
  | fuel + 1 => readByte fun b =>
    match b with
    | some b => .write .standard [b] fun _ => copy fuel
    | none => .exited 0

/-- How a process ended, in words. -/
def ending? : Activity → Option String
  | .exited code => some ("exit status: " ++ toString code)
  | .signalled signal =>
    some ("signal: " ++ toString signal ++
      (if signal = termination then " (SIGTERM)" else if signal = kill then " (SIGKILL)" else ""))
  | _ => none

end Activity

structure Running where
  activity : Activity
  /-- Bytes that it has not read. -/
  input : List UInt8
  /-- Whether no more input will come. -/
  inputOver : Bool
  /-- Whether it has its input open. -/
  reading : Bool
  /-- What it has written and nobody has taken. -/
  output : List UInt8
  outputOpen : Bool
  diagnostics : List UInt8
  diagnosticsOpen : Bool
  /-- When it wakes, while it sleeps. -/
  wake : Option Nat

namespace Running

def start (activity : Activity) : Running :=
  ⟨activity, [], false, true, [], true, [], true, none⟩

/-- Closes all its streams. -/
def ended (r : Running) : Running :=
  { r with reading := false, outputOpen := false, diagnosticsOpen := false, wake := none }

def closed (r : Running) : Channel → Running
  | .input => { r with reading := false }
  | .outlet .standard => { r with outputOpen := false }
  | .outlet .diagnostic => { r with diagnosticsOpen := false }

def wrote (r : Running) (outlet : Outlet) (bytes : List UInt8) : Running :=
  match outlet with
  | .standard => { r with output := r.output ++ bytes }
  | .diagnostic => { r with diagnostics := r.diagnostics ++ bytes }

/-- Goes on, at most so many steps, until it waits for input or for a time, or has ended. -/
def run (now : Nat) : Nat → Running → Running
  | 0, r => r
  | fuel + 1, r =>
    match r.activity with
    | .exited _ => r.ended
    | .signalled _ => r.ended
    | .step next => run now fuel { r with activity := next () }
    | .write outlet bytes next => run now fuel ({ r with activity := next () }.wrote outlet bytes)
    | .close channel next => run now fuel ({ r with activity := next () }.closed channel)
    | .read _ _ next =>
      match r.input with
      | b :: rest =>
        if r.reading then run now fuel { r with activity := next (some b), input := rest }
        else run now fuel { r with activity := next none }
      | [] => if r.inputOver || !r.reading then run now fuel { r with activity := next none } else r
    | .sleep milliseconds _ _ next =>
      let wake := r.wake.getD (now + milliseconds)
      if wake ≤ now then run now fuel { r with activity := next (), wake := none }
      else { r with wake := some wake }

/-- More steps than a process takes before it waits. -/
def plenty : Nat := 10000000

/-- Goes on until it waits or has ended. -/
def settle (now : Nat) (r : Running) : Running := r.run now plenty

def isOver (r : Running) : Bool := r.activity.ending?.isSome

def terminate (r : Running) : Running :=
  match r.activity with
  | .read deaf terminated _ => if deaf then r else { r with activity := terminated () }
  | .sleep _ deaf terminated _ =>
    if deaf then r else { r with activity := terminated (), wake := none }
  | _ => r

/-- Ends it. -/
def kill (r : Running) : Running :=
  if r.isOver then r else { r with activity := .signalled Activity.kill }.ended

/-- Gives it bytes to read. They cannot be given when nobody reads them. -/
def feed (r : Running) (bytes : List UInt8) : Option Running :=
  if r.reading then some { r with input := r.input ++ bytes } else none

end Running

end Mcp
