import Mcp.Config.Basic
import Mcp.Transport.Child
import Mcp.Transport.Remote

/-!
The transport that a server's settings describe. Nothing is started or reached before it connects.
-/

namespace Mcp

open Transport (Status)

/-- A transport to a server outside this process. -/
inductive Connector where
  | child (transport : Transport.Child)
  | remote (transport : Transport.Remote)
  deriving Repr

def Connector.status : Connector → Status
  | .child t => t.status
  | .remote t => t.status

namespace Config

/-- The transport of a server; its URL must be one. -/
def Server.connector : Server → Except Error Connector
  | .stdio p => .ok (.child (.new p.command))
  | .sse r =>
    match Url.parse r.url with
    | .ok url => .ok (.remote (.new url (r.endpointTimeout * 1000)))
    | .error cause => .error (.url cause)

end Config

end Mcp
