import Mcp.Session.Basic

/-!
The steps of a session. Each step is one that nothing can come between: a task's next operation, the
forwarding of one message by the transport, the handling of one message by the reader. `enabled`
says which agents have a step to take; any order of enabled steps is a run.
-/

namespace Mcp

/-- The params that are written for a value: none for null. -/
def Json.given (v : Json) : Option Json := if v.isNull then none else some v

namespace Session

variable {σ ε : Type}

inductive Agent where
  | task (index : Nat)
  | forwarder
  | reader
  deriving DecidableEq, Repr

/-! ### The table -/

/-- Wakes a task that waits for the table to become empty. -/
def Task.wake : Task σ ε → Task σ ε
  | .closing (.watching deadline _) next => .closing (.watching deadline true) next
  | .closing (.parked deadline _) next => .closing (.parked deadline true) next
  | task => task

/-- Gives up a request that has no answer. -/
def Task.giveUp : Task σ ε → Task σ ε
  | .calling { id, method, params, timeout, slot := .empty } stage next =>
    .calling ⟨id, method, params, timeout, .dropped⟩ stage next
  | task => task

/-- Hands an answer to a request that has none. -/
def Task.accept (answer : Except RpcError Json) : Task σ ε → Task σ ε
  | .calling { id, method, params, timeout, slot := .empty } stage next =>
    .calling ⟨id, method, params, timeout, .answered answer⟩ stage next
  | task => task

/-- Takes an id out of the table. Whoever waits for the table to become empty is woken if it is. -/
def withdraw (s : Session σ ε) (id : String) : Session σ ε :=
  let pending := s.pending.filter fun entry => entry.1 ≠ id
  { s with pending, tasks := if pending.isEmpty then s.tasks.map Task.wake else s.tasks }

/-- Gives up every request in the table. -/
def clear (s : Session σ ε) : Session σ ε :=
  let dropped := s.tasks.mapIdx fun index task =>
    if s.pending.any fun entry => entry.2 = index then task.giveUp else task
  { s with pending := [], tasks := dropped.map Task.wake }

/-! ### Tasks -/

def setTask (s : Session σ ε) (index : Nat) (task : Task σ ε) : Session σ ε :=
  { s with tasks := s.tasks.set index task }

def begin (s : Session σ ε) (index : Nat) : Program σ ε Unit → Session σ ε
  | .done () => s
  | .request method params timeout next =>
    if s.stopped then s.setTask index (.ready (next (.error .transportClosed)))
    else
      let id := s.label ++ "-" ++ toString s.nextId
      let call : Call := ⟨id, method, params, timeout.getD s.timeouts.request, .empty⟩
      { s with nextId := s.nextId + 1 }.setTask index (.calling call .admitted next)
  | .notify method params next =>
    if s.stopped then s.setTask index (.ready (next (.error .transportClosed)))
    else s.setTask index (.sending (.notification (.new method params.given)) next)
  | .respond response next => s.setTask index (.sending (.response response) next)
  | .sleep milliseconds next => s.setTask index (.sleeping (s.now + milliseconds) next)
  | .now next => s.setTask index (.ready (next s.now))
  | .emit event next => { s with log := s.log ++ [event] }.setTask index (.ready next)
  | .update change next =>
    { s with shared := change s.shared }.setTask index (.ready (next s.shared))
  | .await wanted timeout next => s.setTask index (.awaiting wanted (s.now + timeout) next)
  | .health next => s.setTask index (.ready (next s.link.health))
  | .close graceful next =>
    s.setTask index
      (.closing (if graceful then .draining (s.now + s.timeouts.close) else .stopping) next)

def stepCall (s : Session σ ε) (index : Nat) (call : Call)
    (next : Except Error Json → Program σ ε Unit) : CallStage → Session σ ε
  | .admitted =>
    { s with pending := s.pending ++ [(call.id, index)] }.setTask index
      (.calling call .registered next)
  | .registered =>
    s.setTask index
      (.calling call (if s.stopped then .withdrawing .transportClosed else .confirmed) next)
  | .confirmed =>
    match s.link.send (.request (.new (.text call.id) call.method call.params.given)) with
    | (.ok (), link) =>
      { s with link }.setTask index (.calling call (.waiting (s.now + call.timeout)) next)
    | (.error e, link) => { s with link }.setTask index (.calling call (.withdrawing e) next)
  | .waiting deadline =>
    match call.slot with
    | .answered (.ok value) => s.setTask index (.ready (next (.ok value)))
    | .answered (.error e) => s.setTask index (.ready (next (.error (.rpc e))))
    | .dropped => s.setTask index (.ready (next (.error .transportClosed)))
    | .empty =>
      if deadline ≤ s.now then
        s.setTask index (.calling call (.withdrawing (.timeout call.method call.timeout)) next)
      else s
  | .withdrawing e => (s.withdraw call.id).setTask index (.ready (next (.error e)))

def stepClose (s : Session σ ε) (index : Nat) (next : Except Error Unit → Program σ ε Unit) :
    CloseStage → Session σ ε
  | .draining deadline => s.setTask index (.closing (.watching deadline false) next)
  | .watching deadline woken =>
    s.setTask index
      (.closing (if s.pending.isEmpty then .stopping else .parked deadline woken) next)
  | .parked deadline woken =>
    if woken then s.setTask index (.closing (.draining deadline) next)
    else if deadline ≤ s.now then s.setTask index (.closing .stopping next)
    else s
  | .stopping =>
    { s with stopped := true, joinable := false }.setTask index
      (.closing (if s.joinable then .joining else .clearing) next)
  | .joining => if s.reader = .gone then s.setTask index (.closing .clearing next) else s
  | .clearing => s.clear.setTask index (.closing .releasing next)
  | .releasing => { s with link := s.link.close }.setTask index (.ready (next (.ok ())))

def stepTask (s : Session σ ε) (index : Nat) : Task σ ε → Session σ ε
  | .ready program => s.begin index program
  | .sending message next =>
    let (result, link) := s.link.send message
    { s with link }.setTask index (.ready (next result))
  | .calling call stage next => s.stepCall index call next stage
  | .sleeping deadline next => if deadline ≤ s.now then s.setTask index (.ready next) else s
  | .awaiting wanted deadline next =>
    if wanted s.shared then s.setTask index (.ready (next (some s.shared)))
    else if deadline ≤ s.now then s.setTask index (.ready (next none))
    else s
  | .closing stage next => s.stepClose index next stage

def canStep (s : Session σ ε) : Task σ ε → Bool
  | .ready (.done ()) => false
  | .ready _ => true
  | .sending .. => true
  | .calling call (.waiting deadline) _ =>
    match call.slot with
    | .empty => deadline ≤ s.now
    | _ => true
  | .calling .. => true
  | .sleeping deadline _ => deadline ≤ s.now
  | .awaiting wanted deadline _ => wanted s.shared || deadline ≤ s.now
  | .closing (.parked deadline woken) _ => woken || deadline ≤ s.now
  | .closing .joining _ => s.reader = .gone
  | .closing .. => true

def Task.deadline? : Task σ ε → Option Nat
  | .calling _ (.waiting deadline) _ => some deadline
  | .sleeping deadline _ => some deadline
  | .awaiting _ deadline _ => some deadline
  | .closing (.parked deadline _) _ => some deadline
  | _ => none

/-! ### The reader -/

/-- Hands out one message: an answer to the request that waits for it, a request or a notification
to a task of its own. -/
def dispatch (s : Session σ ε) : Message → Session σ ε
  | .response r =>
    match r.id with
    | none => s
    | some id =>
      let owner := s.pending.lookup id.key
      let s := s.withdraw id.key
      match owner with
      | none => s
      | some index =>
        let answer :=
          match r.error with
          | some e => .error e
          | none => .ok (Json.ofOption r.result)
        { s with tasks := s.tasks.modify index (Task.accept answer) }
  | .request r => s.spawn (s.handlers.answer r)
  | .notification n =>
    match s.handlers.act n with
    | some program => s.spawn program
    | none => s

def read (s : Session σ ε) : Session σ ε :=
  match s.reader with
  | .reading =>
    if s.stopped then { s with reader := .leaving }
    else
      match s.link.receive with
      | (some m, link) => { s with link }.dispatch m
      | (none, _) => if s.link.ended then { s with stopped := true, reader := .leaving } else s
  | .leaving => { s.clear with reader := .gone, link := s.link.abandon }
  | .gone => s

def canRead (s : Session σ ε) : Bool :=
  match s.reader with
  | .reading => s.stopped || !s.link.inbox.isEmpty || s.link.ended
  | .leaving => true
  | .gone => false

/-! ### All agents -/

def enabled (s : Session σ ε) : Agent → Bool
  | .task index =>
    match s.tasks[index]? with
    | some task => s.canStep task
    | none => false
  | .forwarder => s.link.canForward
  | .reader => s.canRead

def step (s : Session σ ε) : Agent → Session σ ε
  | .task index =>
    match s.tasks[index]? with
    | some task => s.stepTask index task
    | none => s
  | .forwarder => { s with link := s.link.forward }
  | .reader => s.read

def Task.isClosing : Task σ ε → Bool
  | .closing .. => true
  | _ => false

/-- All agents that there are. Closes come before other tasks: they hear that the table is empty
before the answer that emptied it is handed on. -/
def agents (s : Session σ ε) : List Agent :=
  let (closes, others) := s.tasks.zipIdx.partition fun entry => entry.1.isClosing
  .forwarder :: .reader :: (closes ++ others).map fun entry => .task entry.2

end Session

end Mcp
