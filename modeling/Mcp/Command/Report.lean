import Mcp.Client.Lifecycle
import Mcp.Client.Basic
import Mcp.Config.Basic
import Mcp.Schema.Tool
import Mcp.Schema.Resource
import Mcp.Schema.Prompt
import Mcp.Text.Table

/-!
What is written for whoever gave a command: lists as tables, contents as they are, and what is no
text by its kind and its size.
-/

namespace Mcp.Command.Report

open Client (Capability)
open Schema

def orDash (s : Option String) : String := s.getD "-"

def table (heading : List String) (rows : List (List String)) : String :=
  Text.Table.render ⟨heading :: rows⟩

def servers (c : Config) : String :=
  if c.servers.isEmpty then "No servers configured."
  else
    table ["Name", "Transport", "Target"]
      (c.servers.map fun (name, server) => [name, server.kind, server.target])

def tools (items : List Tool) : String :=
  table ["Name", "Description"] (items.map fun t => [t.name, orDash t.description])

def resources (items : List Resource) : String :=
  table ["URI", "Name", "MIME Type"] (items.map fun r => [r.uri, r.name, orDash r.mimeType])

def templates (items : List ResourceTemplate) : String :=
  table ["URI Template", "Name", "Description"]
    (items.map fun t => [t.uriTemplate, t.name, orDash t.description])

/-- The arguments of a prompt; those that must be given are starred. -/
def promptArguments (p : Prompt) : String :=
  ", ".intercalate ((p.arguments.getD []).map fun a =>
    if a.required.getD false then a.name ++ "*" else a.name)

def prompts (items : List Prompt) : String :=
  table ["Name", "Arguments", "Description"]
    (items.map fun p => [p.name, promptArguments p, orDash p.description])

/-- What a server said of itself in the handshake. -/
def agreement (a : Agreement) : List String :=
  let title :=
    a.serverInfo.name ++ " " ++ a.serverInfo.version ++ " (protocol " ++ a.protocolVersion ++ ")"
  let parts := Capability.all.map fun c =>
    [c.name, if a.capabilities.offers c then "yes" else "no"]
  [title, table ["Capability", "Advertised"] parts] ++
    (a.instructions.map fun text => "\n" ++ text).toList

/-- How much of something there is, in bytes of its encoded form. -/
def bytes (encoded : String) : String := toString encoded.utf8ByteSize ++ " bytes base64"

def contents : ResourceContents → String
  | .text c => c.text
  | .blob c =>
    "[blob " ++ c.uri ++ " (" ++ c.mimeType.getD "application/octet-stream" ++ "), " ++
      bytes c.blob ++ "]"

/-- A part of a tool's answer. -/
def toolContent : Content → String
  | .text body => body
  | .image data mimeType => "[image " ++ mimeType ++ ", " ++ bytes data ++ "]"
  | .resource c => contents c

def promptContent : Content → String
  | .text body => body
  | .image _ mimeType => "[image " ++ mimeType ++ "]"
  | .resource c => contents c

def role : Role → String
  | .user => "user"
  | .assistant => "assistant"

def prompt (p : PromptResult) : List String :=
  (p.description.map fun text => text ++ "\n").toList ++
    p.messages.map fun m => role m.role ++ ": " ++ promptContent m.content

end Mcp.Command.Report
