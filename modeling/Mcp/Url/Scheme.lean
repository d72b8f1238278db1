/-!
Schemes of URLs: their form, and those that the rules for hosts, ports and paths single out.
-/

namespace Mcp.Url

def isSchemeChar (c : Char) : Bool := c.isAlphanum || c = '+' || c = '-' || c = '.'

/-- The port that a scheme uses where none is given. -/
def defaultPort (scheme : String) : Option Nat :=
  match scheme with
  | "http" => some 80
  | "ws" => some 80
  | "https" => some 443
  | "wss" => some 443
  | "ftp" => some 21
  | _ => none

/-- Whether the scheme has a host and reads a backslash as a slash. -/
def isSpecial (scheme : String) : Bool :=
  ["http", "https", "ws", "wss", "ftp", "file"].contains scheme

end Mcp.Url
