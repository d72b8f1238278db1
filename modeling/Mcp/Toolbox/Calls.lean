import Mcp.Toolbox.Basic
import Mcp.Error
import Mcp.Json.Printer

/-!
A box of tools at work: it lists the tools of its servers, and calls the one that a key leads to.
How a server is asked is given by an `Access`.
-/

namespace Mcp

open Schema (Tool ToolCall ToolResult)

/-- How servers are asked, each by a handle of type `κ`. -/
structure Toolbox.Access (m : Type → Type) (κ : Type) where
  /-- Whether the server is known to offer tools. -/
  offersTools : κ → m Bool
  listTools : κ → m (Except Error (List Tool))
  callTool : κ → ToolCall → m (Except Error ToolResult)

/-- Named servers in the order of their registration, and the table of the last listing. -/
structure Toolbox (κ : Type) where
  servers : List (String × κ)
  table : List (String × Toolbox.Route)

namespace Toolbox

variable {m : Type → Type} [Monad m] {κ : Type}

def empty : Toolbox κ := ⟨[], []⟩

/-- Registers a server, in place of an earlier one of the same name. -/
def add (t : Toolbox κ) (name : String) (server : κ) : Toolbox κ :=
  { t with servers := t.servers.filter (fun entry => entry.1 ≠ name) ++ [(name, server)] }

def names (t : Toolbox κ) : List String := t.servers.map Prod.fst

/-- The tools of each server that offers any and can list them all. -/
def gather (access : Access m κ) : List (String × κ) → m (List (String × Tool))
  | [] => pure []
  | (name, server) :: rest => do
    let found ←
      if ← access.offersTools server then
        match ← access.listTools server with
        | .ok tools => pure (tools.map fun tool => (name, tool))
        | .error _ => pure []
      else pure []
    let more ← gather access rest
    pure (found ++ more)

/-- Lists all tools, and makes their table the table of the box. -/
def list (access : Access m κ) (t : Toolbox κ) : m (List Entry × Toolbox κ) := do
  let found := entries (← gather access t.servers)
  pure (found, { t with table := routes found })

/-- The arguments of a call: none for null, and nothing but an object otherwise. -/
def argumentsOf (key : String) : Json → Except Error (Option Json)
  | .null => .ok none
  | .obj members => .ok (some (.obj members))
  | other => .error (.toolExecution (.argumentsNotObject key other.compact))

def callAt (access : Access m κ) (t : Toolbox κ) (key : String) (arguments : Json) (route : Route) :
    m (Except Error ToolResult) :=
  match t.servers.lookup route.server with
  | none => pure (.error (.toolExecution (.unregisteredServer route.server)))
  | some server =>
    match argumentsOf key arguments with
    | .error e => pure (.error e)
    | .ok arguments => access.callTool server ⟨route.tool, arguments⟩

/-- Calls the tool that a key leads to. If it leads nowhere, the tools are first listed again. -/
def call (access : Access m κ) (t : Toolbox κ) (key : String) (arguments : Json) :
    m (Except Error ToolResult × Toolbox κ) :=
  match resolve t.table t.names key with
  | some route => do pure (← t.callAt access key arguments route, t)
  | none => do
    let (_, t) ← t.list access
    match resolve t.table t.names key with
    | some route => pure (← t.callAt access key arguments route, t)
    | none => pure (.error (.toolExecution (.unknownTool key)), t)

/-- The text of a tool's answer; an answer that is flagged as an error fails with its text. -/
def textOf (result : ToolResult) : Except Error String :=
  if result.failed then .error (.toolExecution (.reported result.text)) else .ok result.text

def execute (access : Access m κ) (t : Toolbox κ) (key : String) (arguments : Json) :
    m (Except Error String × Toolbox κ) := do
  let (result, t) ← t.call access key arguments
  pure (result.bind textOf, t)

end Toolbox

end Mcp
