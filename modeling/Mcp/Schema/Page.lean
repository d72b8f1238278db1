import Mcp.Json.Record

/-!
Lists in pages: a request names the page by a cursor, and a page names the next one.
-/

namespace Mcp.Schema

open Json (Reader)

/-- Which page is asked for; none is the first. -/
structure PageRequest where
  cursor : Option String
  deriving Repr, BEq, Inhabited

namespace PageRequest

def toJson (p : PageRequest) : Json := .obj (Json.present [("cursor", p.cursor.map .str)])

def record : Record Json PageRequest :=
  Record.pure PageRequest.mk |>.field (.optional "cursor" Reader.text)

def reader : Reader PageRequest := Json.record "PaginatedParams" record

end PageRequest

structure Page (α : Type) where
  items : List α
  nextCursor : Option String
  deriving Repr, BEq, Inhabited

namespace Page

variable {α : Type}

def toJson (key : String) (item : α → Json) (p : Page α) : Json :=
  .obj (Json.present
    [(key, some (.arr (p.items.map item))), ("nextCursor", p.nextCursor.map .str)])

def record (key : String) (item : Reader α) : Record Json (Page α) :=
  Record.pure Page.mk
    |>.field (.required key (Reader.list item))
    |>.field (.optional "nextCursor" Reader.text)

end Page

end Mcp.Schema
