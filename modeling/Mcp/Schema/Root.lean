import Mcp.Source

/-!
Roots: the places in a file system that a client names to a server.
-/

namespace Mcp.Schema

open Json (Reader)

structure Root where
  uri : String
  name : Option String
  deriving DecidableEq, Repr, Inhabited

namespace Root

def toJson (r : Root) : Json :=
  .obj (Json.present [("uri", some (.str r.uri)), ("name", r.name.map .str)])

def record (ν : Type) [Source ν] : Record ν Root :=
  Record.pure Root.mk
    |>.field (.required "uri" Source.text)
    |>.field (.optional "name" Source.text)

def read {ν : Type} [Source ν] : ν → Except Json.Mismatch Root := Source.record "Root" (record ν)

def reader : Reader Root := read

end Root

/-- A client's answer when it is asked for its roots. -/
structure RootList where
  roots : List Root
  deriving Repr, BEq, Inhabited

namespace RootList

def toJson (r : RootList) : Json := .obj [("roots", .arr (r.roots.map Root.toJson))]

def record : Record Json RootList :=
  Record.pure RootList.mk |>.field (.required "roots" (Reader.list Root.reader))

def reader : Reader RootList := Json.record "ListRootsResult" record

end RootList

end Mcp.Schema
