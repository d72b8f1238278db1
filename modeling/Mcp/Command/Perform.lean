import Mcp.Client.Hooks
import Mcp.Command.Basic
import Mcp.Command.Report
import Mcp.Config.Check
import Mcp.Config.Connector
import Mcp.Config.Load
import Mcp.Json.Parser
import Mcp.Toolbox.Calls

/-!
What is done for a command. Either there is only something to write, or a server is visited: the
client performs its handshake, does one thing, and closes. What comes out is written as text or as
JSON.
-/

namespace Mcp.Command

open Client (Listing Settings)
open Schema

/-- What can be seen to happen. -/
inductive Event where
  /-- A text was written, with a line end behind it. -/
  | wrote (text : String)
  /-- A server answered after some milliseconds. -/
  | answered (server : String) (milliseconds : Nat)
  /-- A line for the log, and not for the output. -/
  | logged (line : Client.LogLine)
  | ended (outcome : Except Error Unit)

/-- What an event adds to the output. `duration` writes a number of milliseconds. -/
def Event.output (duration : Nat → String) : Event → String
  | .wrote text => text ++ "\n"
  | .answered server milliseconds =>
    "ok " ++ server ++ " answered in " ++ duration milliseconds ++ " ms\n"
  | _ => ""

abbrev Operation := Client.Operation Event Unit

open Program.Operation in
def write (json : Bool) (value : Json) (texts : List String) : Operation :=
  if json then emit (.wrote value.pretty) else texts.forM fun text => emit (.wrote text)

/-- The arguments of a tool call as a text gives them: an object, or nothing at all. -/
def readArguments : Option String → Except Error Json
  | none => .ok .null
  | some text =>
    match Json.parse text with
    | .error cause => .error (.serialization (.text cause))
    | .ok (.obj members) => .ok (.obj members)
    | .ok _ => .error (.config .argumentsNotObject)

/-! ### One operation for each command -/

open Program.Operation in
def showAgreement (json : Bool) : Operation := do
  match (← shared).agreement with
  | none => throw (.invalidState .noAgreement)
  | some a => write json a.toJson (Report.agreement a)

def access (settings : Settings) : Toolbox.Access (Program Client.State Event) Unit where
  offersTools _ := Program.update id fun s => Program.done (s.capable .tools)
  listTools _ := (Listing.tools.all settings).run
  callTool _ call := (Client.callTool settings call).run

/-- Calls a tool by its name in the box that holds one server. In text, an answer that is flagged as
an error is one. -/
def callTool (settings : Settings) (json : Bool) (server tool : String) (arguments : Json) :
    Operation := do
  let box := Toolbox.empty.add server ()
  let (result, _) ← ExceptT.lift (box.call (access settings) tool arguments)
  let response ← Program.Operation.ofExcept result
  write json response.toJson (response.content.map Report.toolContent)
  if !json && response.failed then throw (.toolExecution (.reported response.text))

/-- The arguments of a prompt: of two with one name the last counts, and none is no list at all. -/
def promptArguments (items : List (String × String)) : Option (List (String × String)) :=
  if items.isEmpty then none else some (Members.ofList items)

open Program.Operation in
def timePing (settings : Settings) (server : String) : Operation := do
  let started ← now
  Client.ping settings
  emit (.answered server ((← now) - started))

/-- What a command does with a client whose handshake succeeded. `arguments` are those of a tool
call. -/
def operation (settings : Settings) (json : Bool) (arguments : Json) : Command → Operation
  | .servers => pure ()
  | .info _ => showAgreement json
  | .tools _ => do
    let items ← Listing.tools.all settings
    write json (.arr (items.map Tool.toJson)) [Report.tools items]
  | .call server tool _ => callTool settings json server tool arguments
  | .resources _ => do
    let items ← Listing.resources.all settings
    write json (.arr (items.map Resource.toJson)) [Report.resources items]
  | .read _ uri => do
    let result ← Client.readResource settings uri
    write json result.toJson (result.contents.map Report.contents)
  | .templates _ => do
    let items ← Listing.templates.all settings
    write json (.arr (items.map ResourceTemplate.toJson)) [Report.templates items]
  | .prompts _ => do
    let items ← Listing.prompts.all settings
    write json (.arr (items.map Prompt.toJson)) [Report.prompts items]
  | .prompt _ name items => do
    let result ← Client.getPrompt settings ⟨name, promptArguments items⟩
    write json result.toJson (Report.prompt result)
  | .ping server => timePing settings server

/-- Closes, whatever comes of that. -/
def leave (graceful : Bool) : Operation := do
  try Client.close graceful catch _ => pure ()

/-- Performs the handshake, does one thing and closes. -/
def visit (settings : Settings) (inside : Operation) : Operation := do
  try
    let _ ← Client.handshake settings
  catch e => do
    leave false
    throw e
  let outcome ← ExceptT.lift inside.run
  leave true
  Program.Operation.ofExcept outcome

/-! ### Plans -/

/-- What is to be done. -/
inductive Plan where
  | write (text : String)
  /-- A server is to be reached by a transport, for an operation. -/
  | visit (server : Config.Server) (transport : Connector) (settings : Settings)
      (operation : Operation)

def arguments : Command → Except Error Json
  | .call _ _ text => readArguments text
  | _ => .ok .null

/-- What is to be done for a command. What is wrong with it shows before any server is reached. -/
def plan (c : Config) (json : Bool) (command : Command) : Except Error Plan := do
  let arguments ← command.arguments
  match command.server? with
  | none =>
    let listed : Json := .obj (c.servers.map fun (name, server) => (name, server.toJson))
    .ok (.write (if json then listed.pretty else Report.servers c))
  | some name =>
    let server ← c.server name
    let transport ← server.connector
    let settings := c.client.toSettings
    .ok (.visit server transport settings
      (Command.visit settings (command.operation settings json arguments)))

end Mcp.Command
