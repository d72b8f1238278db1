import Mcp.Schema.Tool

/-!
The tools of several servers in one box. A tool is known by its name where no other server has a
tool of that name, and by its server and name where one has. A table leads from what tools are known
by to where they are; a key that the table does not have may still name a server and a tool.
-/

namespace Mcp.Toolbox

open Schema (Tool)

/-- A tool as the box offers it. -/
structure Entry where
  /-- What the tool is known by. -/
  key : String
  server : String
  tool : Tool
  deriving Repr, BEq, Inhabited

/-- The tool as a function that may be called. -/
def Entry.definition (e : Entry) : Json :=
  .obj
    [("name", .str e.key), ("description", .str (e.tool.description.getD "")),
      ("parameters", e.tool.inputSchema)]

structure Route where
  server : String
  tool : String
  deriving DecidableEq, Repr, Inhabited

def qualified (server tool : String) : String := server ++ "." ++ tool

def occurrences (collected : List (String × Tool)) (name : String) : Nat :=
  collected.countP fun item => item.2.name = name

/-- What the tools of the servers are known by. -/
def entries (collected : List (String × Tool)) : List Entry :=
  collected.map fun (server, tool) =>
    { key := if 1 < occurrences collected tool.name then qualified server tool.name else tool.name
      server, tool }

/-- The table that leads to some entries; of two with one key the last counts. -/
def routes (entries : List Entry) : List (String × Route) :=
  entries.foldl (fun table e => Members.insert table e.key ⟨e.server, e.tool.name⟩) []

/-- The texts before and behind the first dot. -/
def splitAtDot (key : String) : Option (String × String) :=
  let cs := key.toList
  match cs.dropWhile (· ≠ '.') with
  | [] => none
  | _ :: rest => some (String.ofList (cs.takeWhile (· ≠ '.')), String.ofList rest)

/-- Where a key leads: by the table, or else by the name of a registered server before its first
dot. -/
def resolve (table : List (String × Route)) (servers : List String) (key : String) : Option Route :=
  match Members.lookup table key with
  | some route => some route
  | none =>
    match splitAtDot key with
    | some (server, tool) => if servers.contains server then some ⟨server, tool⟩ else none
    | none => none

end Mcp.Toolbox
