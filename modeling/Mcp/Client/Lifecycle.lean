/-!
The states of a client, from its handshake to its close.
-/

namespace Mcp.Client

inductive Lifecycle where
  /-- No handshake was started. -/
  | uninitialized
  /-- A handshake is in flight. -/
  | initializing
  /-- The handshake succeeded; operations are allowed. -/
  | initialized
  /-- The last handshake failed; another may be tried. -/
  | failed
  | closed
  deriving DecidableEq, Repr, Inhabited

def Lifecycle.name : Lifecycle → String
  | .uninitialized => "uninitialized"
  | .initializing => "initializing"
  | .initialized => "initialized"
  | .failed => "failed"
  | .closed => "closed"

/-- A part of a server that it may or may not offer. -/
inductive Capability where
  | tools
  | resources
  | prompts
  | logging
  | experimental
  deriving DecidableEq, Repr, Inhabited

def Capability.name : Capability → String
  | .tools => "tools"
  | .resources => "resources"
  | .prompts => "prompts"
  | .logging => "logging"
  | .experimental => "experimental"

def Capability.all : List Capability := [.tools, .resources, .prompts, .logging, .experimental]

end Mcp.Client
