import Mcp.Error

/-!
Programs that use a session: finite trees of operations, each with what follows on its result. A
program shares a state of type `σ` with the other programs of its session and leaves a record of
events of type `ε`.
-/

namespace Mcp

inductive Program (σ ε α : Type) where
  | done (result : α)
  /-- Sends a request and waits for the answer, for the session's own time if no other is given. -/
  | request (method : String) (params : Json) (timeout : Option Nat)
      (next : Except Error Json → Program σ ε α)
  | notify (method : String) (params : Json) (next : Except Error Unit → Program σ ε α)
  /-- Answers a request of the peer. -/
  | respond (response : Response) (next : Except Error Unit → Program σ ε α)
  | sleep (milliseconds : Nat) (next : Program σ ε α)
  /-- Asks for the time, in milliseconds. -/
  | now (next : Nat → Program σ ε α)
  /-- Records an event. -/
  | emit (event : ε) (next : Program σ ε α)
  /-- Changes the shared state and goes on with the state before the change. -/
  | update (change : σ → σ) (next : σ → Program σ ε α)
  /-- Waits until the shared state is as wanted, or for some milliseconds at most. -/
  | await (wanted : σ → Bool) (timeout : Nat) (next : Option σ → Program σ ε α)
  /-- Asks the transport whether it is well. -/
  | health (next : Except Error Unit → Program σ ε α)
  /-- Closes the session, at once or when its requests have been answered. -/
  | close (graceful : Bool) (next : Except Error Unit → Program σ ε α)

namespace Program

variable {σ ε α β : Type}

/-- One program after another. -/
def bind : Program σ ε α → (α → Program σ ε β) → Program σ ε β
  | .done a, f => f a
  | .request method params timeout next, f =>
    .request method params timeout fun r => (next r).bind f
  | .notify method params next, f => .notify method params fun r => (next r).bind f
  | .respond response next, f => .respond response fun r => (next r).bind f
  | .sleep milliseconds next, f => .sleep milliseconds (next.bind f)
  | .now next, f => .now fun time => (next time).bind f
  | .emit event next, f => .emit event (next.bind f)
  | .update change next, f => .update change fun s => (next s).bind f
  | .await wanted timeout next, f => .await wanted timeout fun s => (next s).bind f
  | .health next, f => .health fun r => (next r).bind f
  | .close graceful next, f => .close graceful fun r => (next r).bind f

instance : Monad (Program σ ε) where
  pure := .done
  bind := bind

abbrev Operation (σ ε α : Type) := ExceptT Error (Program σ ε) α

namespace Operation

/-- Fails with an error that was found, or goes on. -/
def ofExcept (result : Except Error α) : Operation σ ε α := ExceptT.mk (.done result)

/-- Sends a request and reads its answer as a value of a type. -/
def call (read : Json.Reader α) (method : String) (params : Json) (timeout : Option Nat) :
    Operation σ ε α :=
  ExceptT.mk (.request method params timeout fun answer => .done (answer.bind (unmarshal read)))

def notify (method : String) (params : Json) : Operation σ ε Unit :=
  ExceptT.mk (.notify method params .done)

def health : Operation σ ε Unit := ExceptT.mk (.health .done)

def close (graceful : Bool) : Operation σ ε Unit := ExceptT.mk (.close graceful .done)

/-- Waits. -/
def sleep (milliseconds : Nat) : Operation σ ε Unit :=
  ExceptT.mk (.sleep milliseconds (.done (.ok ())))

def now : Operation σ ε Nat := ExceptT.mk (.now fun time => .done (.ok time))

def emit (event : ε) : Operation σ ε Unit := ExceptT.mk (.emit event (.done (.ok ())))

/-- Changes the shared state; the result is the state before. -/
def update (change : σ → σ) : Operation σ ε σ :=
  ExceptT.mk (.update change fun s => .done (.ok s))

def shared : Operation σ ε σ := update id

/-- Waits for a state; the result is none if it did not come in time. -/
def await (wanted : σ → Bool) (timeout : Nat) : Operation σ ε (Option σ) :=
  ExceptT.mk (.await wanted timeout fun s => .done (.ok s))

end Operation

end Program

end Mcp
