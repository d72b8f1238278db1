import Mcp.Client.Listing
import Mcp.Schema.Logging
import Mcp.Json.Printer

/-!
What a client does of itself: it answers the server's requests, fetches a list again when the server
says that it changed and hands it to those who asked for it, and passes on what the server logs.
-/

namespace Mcp.Client

open Schema

variable {ε α : Type}

/-- What a hook leaves: the events that it records, and why it failed if it did. -/
structure Reaction (ε : Type) where
  events : List ε
  failure : Option String
  deriving Repr

/-- Takes a list whenever it has changed. -/
abbrev Consumer (ε α : Type) := List α → Reaction ε

/-- How grave a line of a log is. -/
inductive Severity where
  | debug
  | info
  | warn
  | error
  deriving DecidableEq, Repr

def Severity.name : Severity → String
  | .debug => "DEBUG"
  | .info => "INFO"
  | .warn => "WARN"
  | .error => "ERROR"

def Severity.ofLevel : Level → Severity
  | .debug => .debug
  | .info => .info
  | .notice => .info
  | .warning => .warn
  | .error => .error
  | .critical => .error
  | .alert => .error
  | .emergency => .error

/-- A server's record as a line of a log. -/
structure LogLine where
  severity : Severity
  logger : String
  text : String
  deriving DecidableEq, Repr

/-- The line for a record: its data as JSON, under the name of its logger. -/
def LogLine.ofRecord (r : LogRecord) : LogLine :=
  ⟨.ofLevel r.level, r.logger.getD "server", r.data.compact⟩

/-- Who is told of what. -/
structure Hooks (ε : Type) where
  tools : List (Consumer ε Tool)
  resources : List (Consumer ε Resource)
  prompts : List (Consumer ε Prompt)
  log : LogRecord → Reaction ε

/-- Hooks that write the server's log and do nothing else. -/
def Hooks.default (write : LogLine → ε) : Hooks ε :=
  ⟨[], [], [], fun r => ⟨[write (.ofRecord r)], none⟩⟩

/-- Records events in order. -/
def emitAll {σ : Type} : List ε → Program σ ε Unit
  | [] => .done ()
  | e :: rest => .emit e (emitAll rest)

/-- Hands a list to each consumer in turn, whatever becomes of the others. -/
def fanOut {σ : Type} (consumers : List (Consumer ε α)) (items : List α) : Program σ ε Unit :=
  emitAll (consumers.flatMap fun consumer => (consumer items).events)

/-- Fetches a list again for those who want it. Nobody is told if it cannot be fetched whole. -/
def refresh (settings : Settings) (l : Listing α) (consumers : List (Consumer ε α)) :
    Program State ε Unit :=
  if consumers.isEmpty then .done ()
  else
    Program.bind (l.all settings).run fun result =>
      match result with
      | .ok items => fanOut consumers items
      | .error _ => .done ()

/-- Passes on a record of the server's log. -/
def deliverLog (hook : LogRecord → Reaction ε) (params : Json) : Program State ε Unit :=
  match unmarshal LogRecord.reader params with
  | .ok r => emitAll (hook r).events
  | .error _ => .done ()

def handlers (settings : Settings) (hooks : Hooks ε) : Session.Handlers State ε :=
  Session.Handlers.none
    |>.onRequest "roots/list" (fun _ => .done (.ok (RootList.toJson ⟨settings.roots⟩)))
    |>.onRequest "ping" (fun _ => .done (.ok (.obj [])))
    |>.onNotification "notifications/tools/list_changed"
      (fun _ => refresh settings .tools hooks.tools)
    |>.onNotification "notifications/resources/list_changed"
      (fun _ => refresh settings .resources hooks.resources)
    |>.onNotification "notifications/prompts/list_changed"
      (fun _ => refresh settings .prompts hooks.prompts)
    |>.onNotification "notifications/message" (deliverLog hooks.log)

def start (label : String) (settings : Settings) (hooks : Hooks ε) (link : Transport.Memory) :
    Except Error (Session State ε) :=
  Session.start label settings.timeouts (handlers settings hooks) link .initial

end Mcp.Client
