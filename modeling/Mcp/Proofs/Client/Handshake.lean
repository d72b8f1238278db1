import Mcp.Client.Basic
import Mcp.Proofs.Program
import Mcp.Proofs.Session.Wire

/-!
The stages of a handshake. A handshake is refused at once or asks the server; what the server
answers makes it fail or succeed, and it succeeds in three more steps: it keeps the agreement, it
announces that the client is initialized, and it ends. `handshake_before` reads these stages off
the handshake, and `Shakes` says which task is at which stage.
-/

namespace Mcp.Client

open Program.Operation
open Schema (Agreement)
open Session (Call CallStage Task)

variable {ε : Type}

/-- Why a handshake is refused in a state, if it is. -/
def refusal : Lifecycle → Option Error
  | .closed => some .transportClosed
  | .initializing => some (.invalidState (.handshakeWhile .initializing))
  | .initialized => some (.invalidState (.handshakeWhile .initialized))
  | .uninitialized | .failed => none

/-- A handshake that is refused changes nothing. -/
theorem beginHandshake_refused {s : State} {e : Error} (h : refusal s.lifecycle = some e) :
    s.beginHandshake = s := by
  obtain ⟨lifecycle, agreement⟩ := s
  cases lifecycle with
  | closed | initializing | initialized => rfl
  | uninitialized | failed => cases h

/-- One that is not refused leads the client into the handshake. -/
theorem beginHandshake_begun {s : State} (h : refusal s.lifecycle = none) :
    s.beginHandshake = { s with lifecycle := .initializing } := by
  obtain ⟨lifecycle, agreement⟩ := s
  cases lifecycle with
  | closed | initializing | initialized => cases h
  | uninitialized | failed => rfl

/-- What the answer to a handshake comes to: an agreement on a version that is understood, or what
is wrong with it. -/
def verdict (answer : Except Error Json) : Except Error Agreement :=
  match answer.bind (unmarshal Agreement.reader) with
  | .error e => .error e
  | .ok a =>
    if a.isSupported then .ok a
    else .error (.protocolVersion Schema.supportedVersions a.protocolVersion)

/-- How far a handshake is that was not refused. -/
inductive Stage where
  /-- It asks the server, and waits for the answer. -/
  | asking
  | failing (e : Error)
  /-- It is about to keep what the server agreed to. -/
  | accepting (a : Agreement)
  /-- It is about to announce that the client is initialized. -/
  | announcing (a : Agreement)
  | ending (a : Agreement)

/-- The announcement that a client is initialized. -/
def announcement : Message := .notification (.new "notifications/initialized" none)

namespace Stage

section Programs

variable (next : Except Error Agreement → Program State ε Unit)

def end_ (a : Agreement) : Program State ε Unit :=
  .update (State.endHandshake .initialized) fun _ => next (.ok a)

def announce (a : Agreement) : Program State ε Unit :=
  .notify "notifications/initialized" .null fun _ => end_ next a

def accept (a : Agreement) : Program State ε Unit :=
  .update (State.agree a) fun _ => announce next a

def fail (e : Error) : Program State ε Unit :=
  .update (State.endHandshake .failed) fun _ => next (.error e)

/-- What a handshake does on the answer. -/
def judge (answer : Except Error Json) : Program State ε Unit :=
  match verdict answer with
  | .ok a => accept next a
  | .error e => fail next e

def ask (settings : Settings) : Program State ε Unit :=
  .request "initialize" settings.offer.toJson none (judge next)

/-- What is left to do of a handshake at a stage, after which it goes on as `next` says. -/
def program (settings : Settings) : Stage → Program State ε Unit
  | .asking => ask next settings
  | .failing e => fail next e
  | .accepting a => accept next a
  | .announcing a => announce next a
  | .ending a => end_ next a

/-- What a handshake does in the state that it finds. -/
def open_ (settings : Settings) (s : State) : Program State ε Unit :=
  match refusal s.lifecycle with
  | some e => next (.error e)
  | none => ask next settings

end Programs

/-- The stage after the answer. -/
def judged (answer : Except Error Json) : Stage :=
  match verdict answer with
  | .ok a => .accepting a
  | .error e => .failing e

theorem judge_eq (settings : Settings) (next : Except Error Agreement → Program State ε Unit)
    (answer : Except Error Json) :
    judge next answer = (judged answer).program next settings := by
  unfold judge judged
  cases verdict answer <;> rfl

end Stage

/-- What a handshake does when its agreement stands. -/
theorem accept_eq (next : Except Error Agreement → Program State ε Unit) (a : Agreement) :
    before (do
      let _ ← update (State.agree a)
      try notify "notifications/initialized" .null catch _ => pure ()
      let _ ← update (State.endHandshake .initialized)
      pure a) next = Stage.accept next a := by
  simp only [before_bind, before_update, onSuccess_ok, before_tryCatch, before_notify]
  unfold Stage.accept Stage.announce
  congr
  funext _
  congr
  funext sent
  cases sent <;> rfl

/-- A handshake is a look at the state and what follows from it. -/
theorem handshake_before (settings : Settings)
    (next : Except Error Agreement → Program State ε Unit) :
    (handshake settings).before next =
      .update State.beginHandshake (Stage.open_ next settings) := by
  simp only [handshake, before_bind, before_update, onSuccess_ok]
  congr 1
  funext s
  unfold Stage.open_
  cases s.lifecycle with
  | closed | initializing | initialized => rfl
  | uninitialized | failed =>
    simp only [refusal, Stage.ask, before_bind, before_tryCatch, before_call]
    congr 1
    funext answer
    unfold Stage.judge verdict
    cases answer.bind (unmarshal Agreement.reader) with
    | error e => rfl
    | ok a =>
      simp only [onFailure_ok, onSuccess_ok]
      cases supported : a.isSupported with
      | false => rfl
      | true => exact accept_eq next a

/-- A task is at a stage of a handshake, after which it goes on as `next` says. -/
inductive Shakes (settings : Settings) (next : Except Error Agreement → Program State ε Unit) :
    Stage → Task State ε → Prop
  | ready {stage : Stage} : Shakes settings next stage (.ready (stage.program next settings))
  | calling {call : Call} {callStage : CallStage} : call.method = "initialize" →
      Shakes settings next .asking (.calling call callStage (Stage.judge next))
  | sending {a : Agreement} :
      Shakes settings next (.announcing a) (.sending announcement fun _ => Stage.end_ next a)

end Mcp.Client
