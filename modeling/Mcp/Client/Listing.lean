import Mcp.Client.Basic
import Mcp.Schema.Tool
import Mcp.Schema.Resource
import Mcp.Schema.Prompt

/-!
The lists that a server keeps, page by page or whole, and the requests about their items.
-/

namespace Mcp.Client

open Schema

variable {ε α : Type}

def maxPages : Nat := 1000

/-- Fetches pages from one on, at most so many, until one names no next page. A cursor that was seen
before is refused. -/
def follow {m : Type → Type} [Monad m] (fetch : Option String → ExceptT Error m (Page α)) :
    Nat → List String → Option String → ExceptT Error m (List α)
  | 0, _, _ => throw (.protocol (.tooManyPages maxPages))
  | limit + 1, seen, cursor => do
    let page ← fetch cursor
    match page.nextCursor with
    | none => pure page.items
    | some next =>
      if next.isEmpty then pure page.items
      else if seen.contains next then throw (.protocol (.repeatedCursor next))
      else do
        let rest ← follow fetch limit (next :: seen) (some next)
        pure (page.items ++ rest)

def collect {m : Type → Type} [Monad m] (fetch : Option String → ExceptT Error m (Page α)) :
    ExceptT Error m (List α) :=
  follow fetch maxPages [] none

/-- A list that a server keeps. -/
structure Listing (α : Type) where
  /-- The method that asks for a page. -/
  method : String
  action : String
  /-- What the server must offer. -/
  part : Option Capability
  read : Json.Reader (Page α)

namespace Listing

def tools : Listing Tool := ⟨"tools/list", "listing tools", some .tools, Tool.pageReader⟩

def resources : Listing Resource :=
  ⟨"resources/list", "listing resources", some .resources, Resource.pageReader⟩

def templates : Listing ResourceTemplate :=
  ⟨"resources/templates/list", "listing resource templates", some .resources,
    ResourceTemplate.pageReader⟩

/-- Prompts may be listed whatever the server offers. -/
def prompts : Listing Prompt := ⟨"prompts/list", "listing prompts", none, Prompt.pageReader⟩

def page (l : Listing α) (settings : Settings) (cursor : Option String) : Operation ε (Page α) :=
  ask settings l.action l.part l.read l.method (PageRequest.toJson ⟨cursor⟩)

/-- Fetches the whole list. -/
def all (l : Listing α) (settings : Settings) : Operation ε (List α) := collect (l.page settings)

end Listing

def callTool (settings : Settings) (c : ToolCall) : Operation ε ToolResult :=
  ask settings "calling tools" (some .tools) ToolResult.reader "tools/call" c.toJson

def readResource (settings : Settings) (uri : String) : Operation ε ReadResult :=
  ask settings "reading resources" (some .resources) ReadResult.reader "resources/read"
    (ReadRequest.toJson ⟨uri⟩)

def getPrompt (settings : Settings) (request : PromptRequest) : Operation ε PromptResult :=
  ask settings "getting prompts" none PromptResult.reader "prompts/get" request.toJson

end Mcp.Client
