import Mcp.Message.Basic
import Mcp.Json.Printer
import Mcp.Schema.Content

/-!
Scripted servers: what a server answers to each request, by its method, by its turn among the
requests of that method, and by its params.
-/

namespace Mcp.Scenario

/-- What a server does about a request. -/
inductive Reply where
  | result (value : Json)
  | error (error : RpcError)
  /-- A result after some milliseconds. -/
  | delayed (milliseconds : Nat) (value : Json)
  | silence
  deriving Repr

/-- How a server's reply is found. -/
inductive Rule where
  /-- The first request of the method takes the first rule, and so on; the last rule stays. -/
  | inTurn (rules : List Rule)
  /-- Chooses by a param that is a text. -/
  | byParam (param : String) (cases : List (String × Rule)) (otherwise : Option Rule)
  /-- A list in so many pages of one item each, under a key. -/
  | pages (count : Nat) (key : String)
  /-- The name and the arguments of a call as a text. -/
  | echo
  | fixed (reply : Reply)
  deriving Repr

/-- A text among params, empty if there is none. -/
def textParam (params : Option Json) (key : String) : String :=
  ((params.bind (Json.get? · key)).bind Json.str?).getD ""

def pageItem (key : String) (place : Nat) : Json :=
  let n := toString place
  match key with
  | "tools" => .obj [("name", .str ("t" ++ n)), ("inputSchema", .obj [])]
  | "resources" => .obj [("uri", .str ("mem://" ++ n)), ("name", .str ("r" ++ n))]
  | "resourceTemplates" =>
    .obj [("uriTemplate", .str ("mem://" ++ n ++ "/\x7bx\x7d")), ("name", .str ("r" ++ n))]
  | _ => .obj [("name", .str ("p" ++ n))]

/-- The page that a cursor names: `c3` names page 3, and no cursor page 0. -/
def pageNumber (cursor : String) : Nat :=
  (cursor.toList.drop 1).foldl (fun n c => n * 10 + (c.toNat - 48)) 0

def pageResult (count : Nat) (key : String) (params : Option Json) : Json :=
  let place := pageNumber (textParam params "cursor")
  .obj (Json.present
    [(key, some (.arr [pageItem key place])),
      ("nextCursor",
        if place + 1 < count then some (.str ("c" ++ toString (place + 1))) else none)])

def echoResult (params : Option Json) : Json :=
  let arguments := Json.ofOption (params.bind (Json.get? · "arguments"))
  .obj
    [("content",
      .arr [(Schema.Content.text (textParam params "name" ++ ":" ++ arguments.compact)).toJson])]

mutual

/-- The reply to a request, of which `turn` came before with the same method. -/
def Rule.reply (turn : Nat) (params : Option Json) : Rule → Reply
  | .inTurn rules => Rule.replyInTurn turn params turn rules
  | .byParam param cases otherwise =>
    Rule.replyByCase turn params (textParam params param)
      (Rule.replyOtherwise turn params otherwise) cases
  | .pages count key => .result (pageResult count key params)
  | .echo => .result (echoResult params)
  | .fixed reply => reply
termination_by structural r => r

def Rule.replyInTurn (turn : Nat) (params : Option Json) (left : Nat) : List Rule → Reply
  | [] => .silence
  | r :: rest =>
    match left with
    | 0 => r.reply turn params
    | left + 1 =>
      if rest.isEmpty then r.reply turn params else Rule.replyInTurn turn params left rest
termination_by structural rs => rs

def Rule.replyOtherwise (turn : Nat) (params : Option Json) : Option Rule → Reply
  | none => .silence
  | some r => r.reply turn params
termination_by structural r => r

def Rule.replyByCase (turn : Nat) (params : Option Json) (value : String) (otherwise : Reply) :
    List (String × Rule) → Reply
  | [] => otherwise
  | (key, r) :: rest =>
    if key = value then r.reply turn params
    else Rule.replyByCase turn params value otherwise rest
termination_by structural rs => rs

end

end Mcp.Scenario
