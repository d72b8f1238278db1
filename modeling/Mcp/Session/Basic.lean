import Mcp.Program
import Mcp.Transport.Memory

/-!
A session over a transport in memory: the table of requests that wait for an answer, the reader
that hands out what comes in, and the tasks that run programs. `Session.start` connects a
transport; what happens after that is a sequence of single steps.
-/

namespace Mcp.Session

variable {σ ε : Type}

/-- What has come for a request that was sent. -/
inductive Slot where
  | empty
  | answered (answer : Except RpcError Json)
  /-- The session gave the request up. -/
  | dropped
  deriving Repr

/-- A request on its way. -/
structure Call where
  /-- The text of its id. -/
  id : String
  method : String
  params : Json
  timeout : Nat
  slot : Slot
  deriving Repr

/-- How far a request is. -/
inductive CallStage where
  /-- It has an id. -/
  | admitted
  /-- It is in the table. -/
  | registered
  /-- It is in the table, and the session was seen open after that. -/
  | confirmed
  /-- It was sent, and waits until a time. -/
  | waiting (deadline : Nat)
  /-- It failed, and leaves the table. -/
  | withdrawing (error : Error)
  deriving Repr

inductive CloseStage where
  /-- It is about to watch for the table to become empty. -/
  | draining (deadline : Nat)
  /-- It watches, and is about to look at the table. -/
  | watching (deadline : Nat) (woken : Bool)
  /-- It saw requests in the table, and waits until the table becomes empty or for a time. -/
  | parked (deadline : Nat) (woken : Bool)
  | stopping
  /-- It waits for the reader to stop. -/
  | joining
  | clearing
  | releasing
  deriving Repr

/-- A program in the course of running. -/
inductive Task (σ ε : Type) where
  | ready (program : Program σ ε Unit)
  | sending (message : Message) (next : Except Error Unit → Program σ ε Unit)
  | calling (call : Call) (stage : CallStage) (next : Except Error Json → Program σ ε Unit)
  | sleeping (deadline : Nat) (next : Program σ ε Unit)
  | awaiting (wanted : σ → Bool) (deadline : Nat) (next : Option σ → Program σ ε Unit)
  | closing (stage : CloseStage) (next : Except Error Unit → Program σ ε Unit)

inductive ReaderStage where
  | reading
  /-- It reads no more, and is about to clear the table. -/
  | leaving
  | gone
  deriving DecidableEq, Repr

/-- What answers the peer's requests and acts on its notifications. Of two handlers for one method
the first in the list counts. -/
structure Handlers (σ ε : Type) where
  requests : List (String × (Json → Program σ ε (Except String Json)))
  notifications : List (String × (Json → Program σ ε Unit))

namespace Handlers

def none : Handlers σ ε := ⟨[], []⟩

/-- Registers a handler, which replaces an earlier one for the same method. -/
def onRequest (h : Handlers σ ε) (method : String)
    (run : Json → Program σ ε (Except String Json)) : Handlers σ ε :=
  { h with requests := (method, run) :: h.requests }

/-- Registers a handler, which replaces an earlier one for the same method. -/
def onNotification (h : Handlers σ ε) (method : String) (run : Json → Program σ ε Unit) :
    Handlers σ ε :=
  { h with notifications := (method, run) :: h.notifications }

/-- Answers a request: with the handler's result, with its error, or with the news that there is no
handler. -/
def answer (h : Handlers σ ε) (r : Request) : Program σ ε Unit :=
  match h.requests.lookup r.method with
  | some run =>
    (run (Json.ofOption r.params)).bind fun result =>
      match result with
      | .ok value => .respond (.success r.id value) fun _ => .done ()
      | .error text =>
        .respond (.failure (some r.id) ⟨internalError, text, .none⟩) fun _ => .done ()
  | .none =>
    .respond (.failure (some r.id) ⟨methodNotFound, "Method not found: " ++ r.method, .none⟩)
      fun _ => .done ()

/-- What a notification sets off. -/
def act (h : Handlers σ ε) (n : Notification) : Option (Program σ ε Unit) :=
  (h.notifications.lookup n.method).map fun run => run (Json.ofOption n.params)

end Handlers

/-- How long a session waits, in milliseconds. -/
structure Timeouts where
  request : Nat
  close : Nat
  deriving DecidableEq, Repr

def Timeouts.default : Timeouts := ⟨30000, 5000⟩

end Mcp.Session

namespace Mcp

open Session in
/-- A connected session and everything that runs on it. -/
structure Session (σ ε : Type) where
  /-- What the ids of its requests start with. -/
  label : String
  timeouts : Timeouts
  handlers : Handlers σ ε
  now : Nat
  link : Transport.Memory
  /-- Whether it was told to stop; it then takes no new requests. -/
  stopped : Bool
  /-- The number in the id of the next request. -/
  nextId : Nat
  /-- The requests that wait for an answer: their ids and tasks. -/
  pending : List (String × Nat)
  reader : ReaderStage
  /-- Whether no close has waited for the reader yet. -/
  joinable : Bool
  tasks : List (Task σ ε)
  shared : σ
  /-- The events that programs recorded. -/
  log : List ε

namespace Session

variable {σ ε : Type}

def start (label : String) (timeouts : Timeouts) (handlers : Handlers σ ε) (link : Transport.Memory)
    (shared : σ) : Except Error (Session σ ε) :=
  match link.connect with
  | (.error e, _) => .error e
  | (.ok (), link) =>
    .ok
      { label, timeouts, handlers, link, shared, now := 0, stopped := false, nextId := 1,
        pending := [], reader := .reading, joinable := true, tasks := [], log := [] }

/-- Starts a program as a task of its own. -/
def spawn (s : Session σ ε) (program : Program σ ε Unit) : Session σ ε :=
  { s with tasks := s.tasks ++ [.ready program] }

/-- Drops the session: nothing new can be asked of it. -/
def drop (s : Session σ ε) : Session σ ε := { s with stopped := true }

/-- How many requests wait for an answer. -/
def pendingCount (s : Session σ ε) : Nat := s.pending.length

end Session

end Mcp
