/-!
What may be asked for, of the settings or of one server.
-/

namespace Mcp

/-- What is wanted. All but the first are about one server. -/
inductive Command where
  | servers
  | info (server : String)
  | tools (server : String)
  | call (server tool : String) (arguments : Option String)
  | resources (server : String)
  | read (server uri : String)
  | templates (server : String)
  | prompts (server : String)
  | prompt (server name : String) (arguments : List (String × String))
  | ping (server : String)
  deriving DecidableEq, Repr

def Command.server? : Command → Option String
  | .servers => none
  | .info server => some server
  | .tools server => some server
  | .call server _ _ => some server
  | .resources server => some server
  | .read server _ => some server
  | .templates server => some server
  | .prompts server => some server
  | .prompt server _ _ => some server
  | .ping server => some server

end Mcp
