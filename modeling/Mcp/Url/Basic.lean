import Mcp.Url.Host

/-!
URLs as a record of their parts, and their text.
-/

namespace Mcp

structure Url where
  scheme : String
  username : String
  password : Option String
  host : Option Url.Host
  port : Option Nat
  /-- The path as it is written. It starts with a slash, or is empty, unless it is opaque. -/
  path : String
  query : Option String
  fragment : Option String
  deriving DecidableEq, Repr

namespace Url

/-- Whether the path is one text without segments, on which no relative URL can build. -/
def isOpaque (u : Url) : Bool := u.host.isNone && u.path.toList.head? ≠ some '/'

def writeUserinfo (u : Url) : String :=
  match u.password with
  | some password => u.username ++ ":" ++ password ++ "@"
  | none => if u.username.isEmpty then "" else u.username ++ "@"

def writeAuthority (u : Url) : String :=
  match u.host with
  | none => ""
  | some host =>
    let port :=
      match u.port with
      | some port => ":" ++ toString port
      | none => ""
    "//" ++ u.writeUserinfo ++ host.write ++ port

/-- The path as it stands behind the authority. Where there is no authority, two slashes at its
start would make one, so that a dot is put before them. -/
def writePath (u : Url) : String :=
  if u.host.isNone && u.path.toList.take 2 = ['/', '/'] then "/." ++ u.path else u.path

def writePart (mark : String) : Option String → String
  | some text => mark ++ text
  | none => ""

def write (u : Url) : String :=
  u.scheme ++ ":" ++ u.writeAuthority ++ u.writePath ++ writePart "?" u.query ++
    writePart "#" u.fragment

end Url

end Mcp
