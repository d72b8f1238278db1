import Mcp.Config.Basic
import Mcp.Shell.Run

/-!
Starting the program of a server: what environment it sees and where it runs. There is no process
where there is no such program or no such directory.
-/

namespace Mcp.Config.Program

/-- The variables that a program sees: its own take precedence over those that it inherits. -/
def bindings (inherited : List (String × String)) (p : Program) : List (String × String) :=
  p.environment.foldl (fun vs v => Members.insert vs v.1 v.2) (if p.inherits then inherited else [])

def looksInPlace (bindings : List (String × String)) : Bool :=
  match Members.lookup bindings "PATH" with
  | none => true
  | some path => (path.splitOn ":").any fun place => place = "/bin" || place = "/usr/bin"

/-- The process that a program becomes. A name without a slash is looked for. -/
def launch (inherited : List (String × String)) (p : Program) : Option Activity :=
  let bindings := p.bindings inherited
  if p.command.toList.contains '/' || looksInPlace bindings then
    Shell.launch p.command p.arguments bindings (p.directory.getD "/")
  else none

end Mcp.Config.Program
