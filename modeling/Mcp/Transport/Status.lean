/-!
The states that a transport passes through, in their order.
-/

namespace Mcp.Transport

inductive Status where
  | disconnected
  | connecting
  | connected
  | closing
  | closed
  deriving DecidableEq, Repr, Inhabited

namespace Status

/-- The place of a state in their order. -/
def rank : Status → Nat
  | .disconnected => 0
  | .connecting => 1
  | .connected => 2
  | .closing => 3
  | .closed => 4

def name : Status → String
  | .disconnected => "disconnected"
  | .connecting => "connecting"
  | .connected => "connected"
  | .closing => "closing"
  | .closed => "closed"

end Status

end Mcp.Transport
