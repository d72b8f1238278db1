import Mcp.Transport.Remote
import Mcp.Message.Parser

/-!
Scenarios of a transport whose server is never reached. A call runs to its end, and the clock moves
while it waits.
-/

namespace Mcp.Scenario.Remotes

open Transport (Remote Status)

inductive Step where
  | send (message : Except Error Message)
  | connect
  | close (graceful : Bool)
  | health
  | endpoint

/-- What a step gives. -/
inductive Result where
  | outcome (result : Except Error Unit)
  | endpoint (url : Option Url)

/-- What can be seen after a step. -/
structure Entry where
  result : Result
  status : Status
  /-- How long the step took, in milliseconds. -/
  waited : Nat

/-- Lets a send wait to the end of its time, if need be. -/
def waitOut (t : Remote) (index : Nat) : Remote :=
  match t.sends[index]? with
  | some ⟨_, .waiting deadline⟩ =>
    let t := if (t.found? deadline).isSome then t else t.tryStep (.pass (deadline - t.now))
    t.tryStep (.look index)
  | _ => t

def outcomeOf (t : Remote) (index : Nat) : Except Error Unit :=
  match t.sends[index]? with
  | some ⟨_, .ended result⟩ => result
  | _ => .ok ()

def act (t : Remote) : Step → Result × Remote
  | .send (.error e) => (.outcome (.error e), t)
  | .send (.ok m) =>
    let index := t.sends.length
    let t := waitOut (t.tryStep (.send m)) index
    (.outcome (outcomeOf t index), t)
  | .connect =>
    match t.connectFault? with
    | some e => (.outcome (.error e), t)
    | none => (.outcome (.ok ()), t.tryStep .connect)
  | .close graceful => (.outcome (.ok ()), t.tryStep (.close graceful))
  | .health => (.outcome t.health, t)
  | .endpoint => (.endpoint t.endpoint, t)

def play (t : Remote) : List Step → List Entry
  | [] => []
  | step :: rest =>
    let (result, after) := act t step
    ⟨result, after.status, after.now - t.now⟩ :: play after rest

end Mcp.Scenario.Remotes
