import Mcp.Proofs.Client.Consumers
import Mcp.Proofs.Toolbox.Calls

/-!
What a call of a key asks of the servers. A box that reaches its servers through clients does what
their operations do, each deed at one of the servers; `Ways` are all the ways in which that can go,
whatever the servers answer. In every way at most one call of a tool is asked for, of all servers
together (`calls_tool_once`).
-/

namespace Mcp

open Schema (Tool ToolCall ToolResult)

/-! ### Ways -/

/-- All the ways of a computation: what is done, in order, and the result. -/
def Ways (χ α : Type) : Type := List χ → α → Prop

namespace Ways

variable {χ α β ω : Type}

instance : Monad (Ways χ) where
  pure a := fun deeds b => deeds = [] ∧ b = a
  bind p f := fun deeds b => ∃ first rest a, deeds = first ++ rest ∧ p first a ∧ f a rest b

instance : LawfulMonad (Ways χ) := LawfulMonad.mk' _
  (fun p => by
    funext deeds b
    refine propext ⟨?_, fun goes => ⟨deeds, [], b, by simp, goes, rfl, rfl⟩⟩
    rintro ⟨first, rest, a, rfl, goes, rfl, rfl⟩
    rwa [List.append_nil])
  (fun a f => by
    funext deeds b
    refine propext ⟨?_, fun goes => ⟨[], deeds, a, rfl, ⟨rfl, rfl⟩, goes⟩⟩
    rintro ⟨first, rest, c, rfl, ⟨rfl, rfl⟩, goes⟩
    exact goes)
  (fun p f g => by
    funext deeds b
    refine propext ⟨?_, ?_⟩
    · rintro ⟨_, rest, c, rfl, ⟨first, second, a, rfl, goes, then_⟩, last⟩
      exact ⟨first, second ++ rest, a, List.append_assoc _ _ _, goes, second, rest, c, rfl, then_,
        last⟩
    · rintro ⟨first, _, a, rfl, goes, second, rest, c, rfl, then_, last⟩
      exact ⟨first ++ second, rest, c, (List.append_assoc _ _ _).symm,
        ⟨first, second, a, rfl, goes, then_⟩, last⟩)

/-- The ways of a program at a place. -/
def through {κ σ ε : Type} (place : κ) (p : Program σ ε α) : Ways (κ × Program.Deed σ ε) α :=
  fun deeds a => ∃ own, deeds = own.map (place, ·) ∧ Program.Goes p own a

/-- In a world that keeps a record of what is done, a computation goes one of the ways. -/
def Taken (record : ω → List χ) (p : StateM ω α) (ways : Ways χ α) : Prop :=
  ∀ w, ∃ deeds, record (p.run w).2 = record w ++ deeds ∧ ways deeds (p.run w).1

theorem taken_pure {record : ω → List χ} (a : α) : Taken record (pure a) (pure a) :=
  fun _ => ⟨[], (List.append_nil _).symm, rfl, rfl⟩

theorem Taken.bind {record : ω → List χ} {p : StateM ω α} {ways : Ways χ α}
    (taken : Taken record p ways) {f : α → StateM ω β} {more : α → Ways χ β}
    (follows : ∀ a, Taken record (f a) (more a)) : Taken record (p >>= f) (ways >>= more) := by
  intro w
  obtain ⟨first, kept, goes⟩ := taken w
  obtain ⟨rest, kept', goes'⟩ := follows (p.run w).1 (p.run w).2
  refine ⟨first ++ rest, ?_, first, rest, _, rfl, goes, goes'⟩
  rw [← List.append_assoc, ← kept]
  exact kept'

end Ways

/-! ### At a client -/

section Client

open Program (Deed Goes)
open Program.Operation
open Client (Settings State)

variable {ε : Type} {settings : Settings}

/-- A request for a call of a tool, with its answer. -/
structure ToolRequest where
  params : Json
  answer : Except Error Json

def toolRequest? : Deed State ε → Option ToolRequest
  | .request method params _ answer =>
    if method = "tools/call" then some ⟨params, answer⟩ else none
  | _ => none

theorem Client.Fetches.no_toolRequest {method : String} (other : method ≠ "tools/call")
    {deed : Deed State ε} (fetches : Client.Fetches method deed) : toolRequest? deed = none := by
  cases fetches with
  | waits | looks => rfl
  | asks => exact if_neg other

/-- A client that lists the tools of its server asks for no call. -/
theorem all_calls_nothing {deeds : List (Deed State ε)} {r : Except Error (List Tool)}
    (goes : Goes (Client.Listing.tools.all settings).run deeds r) :
    deeds.filterMap toolRequest? = [] := by
  rw [List.filterMap_eq_nil_iff]
  intro deed there
  have fetches := Client.all_fetches (Program.passes_of_goes goes) deed there
  exact fetches.no_toolRequest (by decide)

theorem gate_calls_nothing {action : String} {part : Option Client.Capability}
    {deeds : List (Deed State ε)} {r : Except Error Unit}
    (goes : Goes (Client.gate settings action part).run deeds r) :
    deeds.filterMap toolRequest? = [] := by
  have only : Program.Only (fun deed => toolRequest? deed = none)
      ((Client.gate settings action part).before fun _ => .done () : Program State ε Unit) :=
    Client.only_gate (l := Client.Listing.tools) (fun fetches => fetches.no_toolRequest (by decide))
      fun _ => Program.only_done
  rw [List.filterMap_eq_nil_iff]
  exact only (Program.passes_of_goes goes).bind

/-- A client that calls a tool asks for that call once, and the result is what the answer says,
unless it is turned back before it asks. -/
theorem callTool_asks_once {c : ToolCall} {deeds : List (Deed State ε)}
    {r : Except Error ToolResult} (goes : Goes (Client.callTool settings c).run deeds r) :
    (deeds.filterMap toolRequest? = [] ∧ ∃ e, r = .error e) ∨
      ∃ answer, deeds.filterMap toolRequest? = [⟨c.toJson, answer⟩] ∧
        r = answer.bind (unmarshal ToolResult.reader) := by
  rcases Program.Operation.goes_bind_iff.mp goes with
    ⟨e, gate, rfl⟩ | ⟨first, rest, _, rfl, gate, asks⟩
  · exact .inl ⟨gate_calls_nothing gate, e, rfl⟩
  · right
    cases asks with
    | does does done =>
      cases does with
      | request answer =>
        obtain ⟨rfl, rfl⟩ := Program.goes_done_iff.mp done
        refine ⟨answer, ?_, rfl⟩
        rw [List.filterMap_append, gate_calls_nothing gate]
        rfl

end Client

namespace Toolbox

variable {κ ε ω : Type}

/-! ### Any servers -/

section Serves

variable {χ : Type}

/-- Servers of a world whose asking goes as said. -/
structure Serves (record : ω → List χ) (access : Access (StateM ω) κ) (ways : Access (Ways χ) κ) :
    Prop where
  offers (server : κ) : Ways.Taken record (access.offersTools server) (ways.offersTools server)
  lists (server : κ) : Ways.Taken record (access.listTools server) (ways.listTools server)
  calls (server : κ) (c : ToolCall) :
    Ways.Taken record (access.callTool server c) (ways.callTool server c)

variable {record : ω → List χ} {access : Access (StateM ω) κ} {ways : Access (Ways χ) κ}
  (serves : Serves record access ways) {t : Toolbox κ} {key : String} {arguments : Json}
include serves

theorem Serves.offered (server : String × κ) :
    Ways.Taken record (offered access server) (offered ways server) := by
  refine (serves.offers server.2).bind fun offers => ?_
  cases offers with
  | false => exact Ways.taken_pure _
  | true =>
    refine (serves.lists server.2).bind fun listed => ?_
    cases listed <;> exact Ways.taken_pure _

theorem Serves.gather (servers : List (String × κ)) :
    Ways.Taken record (gather access servers) (gather ways servers) := by
  induction servers with
  | nil => exact Ways.taken_pure _
  | cons server rest ih =>
    rw [gather_cons, gather_cons]
    exact (serves.offered server).bind fun _ => ih.bind fun _ => Ways.taken_pure _

theorem Serves.callAt (route : Route) :
    Ways.Taken record (t.callAt access key arguments route)
      (t.callAt ways key arguments route) := by
  unfold Toolbox.callAt
  cases t.servers.lookup route.server with
  | none => exact Ways.taken_pure _
  | some server =>
    dsimp only
    cases argumentsOf key arguments with
    | error e => exact Ways.taken_pure _
    | ok given => exact serves.calls server _

theorem Serves.call :
    Ways.Taken record (t.call access key arguments) (t.call ways key arguments) := by
  unfold Toolbox.call
  cases resolve t.table t.names key with
  | some route => exact (serves.callAt route).bind fun _ => Ways.taken_pure _
  | none =>
    refine ((serves.gather t.servers).bind fun _ => Ways.taken_pure _).bind fun (_, t') => ?_
    dsimp only
    cases resolve t'.table t'.names key with
    | some route => exact (serves.callAt route).bind fun _ => Ways.taken_pure _
    | none => exact Ways.taken_pure _

theorem Serves.execute :
    Ways.Taken record (t.execute access key arguments) (t.execute ways key arguments) :=
  serves.call.bind fun _ => Ways.taken_pure _

end Serves

/-! ### Clients -/

section Clients

open Program (Deed Goes)
open Client (Settings State)

/-- Servers that are reached through clients. What is done at a client is kept with the server. -/
def clients (settings : κ → Settings) : Access (Ways (κ × Deed State ε)) κ where
  offersTools server := .through server (.update id fun s => .done (s.capable .tools))
  listTools server := .through server (Client.Listing.tools.all (settings server)).run
  callTool server c := .through server (Client.callTool (settings server) c).run

/-- The calls of tools that are asked for, each with the server that is asked. -/
def toolRequests (deeds : List (κ × Deed State ε)) : List (κ × ToolRequest) :=
  deeds.filterMap fun deed => (toolRequest? deed.2).map (deed.1, ·)

theorem toolRequests_append (first rest : List (κ × Deed State ε)) :
    toolRequests (first ++ rest) = toolRequests first ++ toolRequests rest :=
  List.filterMap_append

theorem toolRequests_at (server : κ) (own : List (Deed State ε)) :
    toolRequests (own.map (server, ·)) = (own.filterMap toolRequest?).map (server, ·) := by
  rw [toolRequests, List.filterMap_map, List.map_filterMap]
  rfl

variable {settings : κ → Settings} {t t' : Toolbox κ} {key : String} {arguments : Json}
  {deeds : List (κ × Deed State ε)}

theorem offered_calls_nothing {server : String × κ} {found : List (String × Tool)}
    (goes : offered (clients settings) server deeds found) : toolRequests deeds = [] := by
  obtain ⟨first, rest, offers, rfl, ⟨own, rfl, look⟩, goes⟩ := goes
  cases look with
  | does does look =>
    cases does
    obtain ⟨rfl, rfl⟩ := Program.goes_done_iff.mp look
    rw [toolRequests_append, toolRequests_at]
    show [] ++ _ = []
    rw [List.nil_append]
    split at goes
    · obtain ⟨_, _, listed, rfl, ⟨own, rfl, all⟩, goes⟩ := goes
      rw [toolRequests_append, toolRequests_at, all_calls_nothing all]
      cases listed <;> obtain ⟨rfl, -⟩ := goes <;> rfl
    · obtain ⟨rfl, -⟩ := goes
      rfl

theorem gather_calls_nothing {servers : List (String × κ)} {found : List (String × Tool)}
    (goes : gather (clients settings) servers deeds found) : toolRequests deeds = [] := by
  induction servers generalizing deeds found with
  | nil =>
    obtain ⟨rfl, -⟩ := goes
    rfl
  | cons server rest ih =>
    rw [gather_cons] at goes
    obtain ⟨first, _, tools, rfl, here, others, last, more, rfl, there, rfl, -⟩ := goes
    rw [toolRequests_append, toolRequests_append, offered_calls_nothing here, ih there]
    rfl

theorem list_calls_nothing {found : List Entry}
    (goes : t.list (clients settings) deeds (found, t')) :
    toolRequests deeds = [] ∧ t'.servers = t.servers := by
  obtain ⟨first, rest, tools, rfl, gathers, rfl, same⟩ := goes
  obtain ⟨-, rfl⟩ := Prod.mk.inj same
  rw [List.append_nil]
  exact ⟨gather_calls_nothing gathers, rfl⟩

/-! ### A call -/

/-- How a call goes that a route leads. -/
inductive Directed (settings : κ → Settings) (t : Toolbox κ) (key : String) (arguments : Json)
    (route : Route) : List (κ × Deed State ε) → Except Error ToolResult → Prop
  | unregistered : t.servers.lookup route.server = none →
      Directed settings t key arguments route []
        (.error (.toolExecution (.unregisteredServer route.server)))
  | refused {server : κ} {e : Error} : t.servers.lookup route.server = some server →
      argumentsOf key arguments = .error e →
      Directed settings t key arguments route [] (.error e)
  | asks {server : κ} {given : Option Json} {own : List (Deed State ε)}
      {r : Except Error ToolResult} : t.servers.lookup route.server = some server →
      argumentsOf key arguments = .ok given →
      Goes (Client.callTool (settings server) ⟨route.tool, given⟩).run own r →
      Directed settings t key arguments route (own.map (server, ·)) r

/-- How a call goes: the box before and after it, what it comes to at the servers, its result. The
tools are listed again once at most, and only if the key leads nowhere. -/
inductive Course (settings : κ → Settings) (key : String) (arguments : Json) (t : Toolbox κ) :
    Toolbox κ → List (κ × Deed State ε) → Except Error ToolResult → Prop
  | led {route : Route} {deeds : List (κ × Deed State ε)} {r : Except Error ToolResult} :
      resolve t.table t.names key = some route →
      Directed settings t key arguments route deeds r →
      Course settings key arguments t t deeds r
  | listed {t' : Toolbox κ} {found : List Entry} {first rest : List (κ × Deed State ε)}
      {route : Route} {r : Except Error ToolResult} : resolve t.table t.names key = none →
      t.list (clients settings) first (found, t') → resolve t'.table t'.names key = some route →
      Directed settings t' key arguments route rest r →
      Course settings key arguments t t' (first ++ rest) r
  | unknown {t' : Toolbox κ} {found : List Entry} {deeds : List (κ × Deed State ε)} :
      resolve t.table t.names key = none → t.list (clients settings) deeds (found, t') →
      resolve t'.table t'.names key = none →
      Course settings key arguments t t' deeds (.error (.toolExecution (.unknownTool key)))

theorem directed_of_callAt {route : Route} {r : Except Error ToolResult}
    (goes : t.callAt (clients settings) key arguments route deeds r) :
    Directed settings t key arguments route deeds r := by
  unfold callAt at goes
  cases registered : t.servers.lookup route.server with
  | none =>
    rw [registered] at goes
    obtain ⟨rfl, rfl⟩ := goes
    exact .unregistered registered
  | some server =>
    rw [registered] at goes
    dsimp only at goes
    cases proper : argumentsOf key arguments with
    | error e =>
      rw [proper] at goes
      obtain ⟨rfl, rfl⟩ := goes
      exact .refused registered proper
    | ok given =>
      rw [proper] at goes
      obtain ⟨own, rfl, goes⟩ := goes
      exact .asks registered proper goes

theorem course_of_call {r : Except Error ToolResult}
    (goes : t.call (clients settings) key arguments deeds (r, t')) :
    Course settings key arguments t t' deeds r := by
  unfold call at goes
  cases before : resolve t.table t.names key with
  | some route =>
    rw [before] at goes
    obtain ⟨first, rest, _, rfl, directed, rfl, same⟩ := goes
    obtain ⟨rfl, rfl⟩ := Prod.mk.inj same
    rw [List.append_nil]
    exact .led before (directed_of_callAt directed)
  | none =>
    rw [before] at goes
    obtain ⟨first, rest, ⟨found, listed⟩, rfl, lists, goes⟩ := goes
    dsimp only at goes
    cases after : resolve listed.table listed.names key with
    | some route =>
      rw [after] at goes
      obtain ⟨second, _, _, rfl, directed, rfl, same⟩ := goes
      obtain ⟨rfl, rfl⟩ := Prod.mk.inj same
      rw [List.append_nil]
      exact .listed before lists after (directed_of_callAt directed)
    | none =>
      rw [after] at goes
      obtain ⟨rfl, same⟩ := goes
      obtain ⟨rfl, rfl⟩ := Prod.mk.inj same
      rw [List.append_nil]
      exact .unknown before lists after

/-- The arguments that a server is given: none for null, and an object as it is. -/
inductive Given : Json → Option Json → Prop
  | none : Given .null none
  | object {members : List (String × Json)} : Given (.obj members) (some (.obj members))

theorem given_iff {given : Option Json} : Given arguments given ↔
    argumentsOf key arguments = .ok given := by
  constructor
  · intro given
    cases given <;> rfl
  · intro ok
    cases arguments with
    | null => cases ok; exact .none
    | obj => cases ok; exact .object
    | bool | num | str | arr => cases ok

/-- A call of a tool is asked for, once, of the server that the key leads to, and its answer is the
result; or none is asked for, and the result is an error. -/
inductive Asks (key : String) (arguments : Json) (t : Toolbox κ)
    (deeds : List (κ × Deed State ε)) (r : Except Error ToolResult) : Prop
  | once {server : κ} {route : Route} {given : Option Json} {answer : Except Error Json} :
      resolve t.table t.names key = some route → t.servers.lookup route.server = some server →
      Given arguments given →
      toolRequests deeds = [(server, ⟨ToolCall.toJson ⟨route.tool, given⟩, answer⟩)] →
      r = answer.bind (unmarshal ToolResult.reader) → Asks key arguments t deeds r
  | never {e : Error} : toolRequests deeds = [] → r = .error e → Asks key arguments t deeds r

theorem Directed.asks_once {route : Route} {r : Except Error ToolResult}
    (directed : Directed settings t key arguments route deeds r)
    (leads : resolve t.table t.names key = some route) : Asks key arguments t deeds r := by
  cases directed with
  | unregistered | refused => exact .never rfl rfl
  | asks registered proper goes =>
    rcases callTool_asks_once goes with ⟨none_, e, rfl⟩ | ⟨answer, one, rfl⟩
    · exact .never (by rw [toolRequests_at, none_]; rfl) rfl
    · exact .once leads registered (given_iff.mpr proper) (by rw [toolRequests_at, one]; rfl) rfl

theorem Asks.behind {first : List (κ × Deed State ε)} {r : Except Error ToolResult}
    (quiet : toolRequests first = []) (asks : Asks key arguments t deeds r) :
    Asks key arguments t (first ++ deeds) r := by
  have same : toolRequests (first ++ deeds) = toolRequests deeds := by
    rw [toolRequests_append, quiet, List.nil_append]
  cases asks with
  | once leads registered given one answered =>
    exact .once leads registered given (same.trans one) answered
  | never none_ failed => exact .never (same.trans none_) failed

/-- What is promised of a call: of the box before and after it, of what it comes to at the servers
and of its result. -/
structure CallsOnce (settings : κ → Settings) (key : String) (arguments : Json) (t t' : Toolbox κ)
    (deeds : List (κ × Deed State ε)) (r : Except Error ToolResult) : Prop where
  course : Course settings key arguments t t' deeds r
  asks : Asks key arguments t' deeds r
  once : (toolRequests deeds).length ≤ 1
  /-- Arguments that are neither an object nor null are not sent. -/
  improper : (∀ given, ¬ Given arguments given) → toolRequests deeds = []
  /-- A key that leads nowhere, even when the tools have been listed again, is not called. -/
  unknown : resolve t'.table t'.names key = none →
    toolRequests deeds = [] ∧ r = .error (.toolExecution (.unknownTool key))
  /-- A key that leads somewhere is followed without another listing. -/
  unlisted : resolve t.table t.names key ≠ none → t' = t
  servers : t'.servers = t.servers

theorem Course.calls_once {r : Except Error ToolResult}
    (course : Course settings key arguments t t' deeds r) :
    CallsOnce settings key arguments t t' deeds r := by
  have asks : Asks key arguments t' deeds r := by
    cases course with
    | led leads directed => exact directed.asks_once leads
    | listed _ lists leads directed =>
      exact (directed.asks_once leads).behind (list_calls_nothing lists).1
    | unknown _ lists => exact .never (list_calls_nothing lists).1 rfl
  refine ⟨course, asks, ?_, fun improper => ?_, fun nowhere => ?_, fun leads => ?_, ?_⟩
  · cases asks with
    | once _ _ _ one => exact Nat.le_of_eq (congrArg List.length one)
    | never none_ => exact Nat.le_trans (Nat.le_of_eq (congrArg List.length none_)) (Nat.zero_le 1)
  · cases asks with
    | once _ _ given => exact absurd given (improper _)
    | never none_ => exact none_
  · cases course with
    | led leads => cases nowhere.symm.trans leads
    | listed _ _ leads => cases nowhere.symm.trans leads
    | unknown _ lists => exact ⟨(list_calls_nothing lists).1, rfl⟩
  · cases course with
    | led => rfl
    | listed nowhere | unknown nowhere => exact absurd nowhere leads
  · cases course with
    | led => rfl
    | listed _ lists | unknown _ lists => exact (list_calls_nothing lists).2

/-- What becomes of an answer: its text, unless it is flagged as an error. -/
inductive Tells : Except Error ToolResult → Except Error String → Prop
  | text {result : ToolResult} : result.isError ≠ some true → Tells (.ok result) (.ok result.text)
  | flagged {result : ToolResult} : result.isError = some true →
      Tells (.ok result) (.error (.toolExecution (.reported result.text)))
  | failed {e : Error} : Tells (.error e) (.error e)

theorem tells_bind_textOf (answer : Except Error ToolResult) : Tells answer (answer.bind textOf) := by
  cases answer with
  | error e => exact .failed
  | ok result =>
    show Tells (.ok result) (textOf result)
    unfold textOf ToolResult.failed
    by_cases flagged : result.isError = some true
    · rw [if_pos (by simp [flagged])]
      exact .flagged flagged
    · rw [if_neg (by simpa using flagged)]
      exact .text flagged

/-- What is promised of a box that reaches its servers through clients. -/
structure CallsToolOnce (ε : Type) (settings : κ → Settings) (t : Toolbox κ) (key : String)
    (arguments : Json) : Prop where
  call {t' : Toolbox κ} {deeds : List (κ × Deed State ε)} {r : Except Error ToolResult} :
    t.call (clients settings) key arguments deeds (r, t') →
    CallsOnce settings key arguments t t' deeds r
  execute {t' : Toolbox κ} {deeds : List (κ × Deed State ε)} {r : Except Error String} :
    t.execute (clients settings) key arguments deeds (r, t') →
    ∃ answer, CallsOnce settings key arguments t t' deeds answer ∧ Tells answer r
  /-- A box in a world whose servers are reached in this way goes one of these ways. -/
  worlds {ω : Type} {record : ω → List (κ × Deed State ε)} {access : Access (StateM ω) κ} :
    Serves record access (clients settings) →
    Ways.Taken record (t.call access key arguments) (t.call (clients settings) key arguments) ∧
      Ways.Taken record (t.execute access key arguments)
        (t.execute (clients settings) key arguments)

/-- A call asks for one call of a tool at most, whatever the servers answer. -/
theorem calls_tool_once (ε : Type) (settings : κ → Settings) (t : Toolbox κ) (key : String)
    (arguments : Json) : CallsToolOnce ε settings t key arguments where
  call goes := (course_of_call goes).calls_once
  execute goes := by
    obtain ⟨first, rest, ⟨answer, listed⟩, rfl, called, rfl, same⟩ := goes
    obtain ⟨rfl, rfl⟩ := Prod.mk.inj same
    rw [List.append_nil]
    exact ⟨answer, (course_of_call called).calls_once, tells_bind_textOf answer⟩
  worlds serves := ⟨serves.call, serves.execute⟩

/-! ### Two servers -/

/-- A client whose server agreed to offer tools. -/
def offering : State :=
  ⟨.initialized, some ⟨"2025-03-26", ⟨none, none, none, none, some (.obj [])⟩, ⟨"server", "1"⟩,
    none⟩⟩

/-- A client that is through the gate and asks for something. -/
def asking (method : String) (params answer : Json) : List (Deed State Unit) :=
  [.await (fun s => s.lifecycle ≠ .initializing) Settings.default.initializationTimeout
      (some offering),
    .update id offering, .request method params none (.ok answer)]

def listingEcho : List (Deed State Unit) :=
  asking "tools/list" (.obj []) (.obj [("tools", .arr [.obj [("name", .str "echo")]])])

theorem listingEcho_goes : Goes (Client.Listing.tools.all .default).run listingEcho
    (.ok [plainTool "echo"]) :=
  .does (.await _) (.does (.update _) (.does (.request _) (.done _)))

def callingEcho : List (Deed State Unit) :=
  asking "tools/call" (.obj [("name", .str "echo")])
    (.obj [("content", .arr [.obj [("type", .str "text"), ("text", .str "hi")]])])

theorem callingEcho_goes : Goes (Client.callTool .default ⟨"echo", none⟩).run callingEcho
    (.ok ⟨[.text "hi"], none⟩) :=
  .does (.await _) (.does (.update _) (.does (.request _) (.done _)))

/-- The first server offers no tools, the second has one. -/
def lookingAtBoth : List (Nat × Deed State Unit) :=
  (0, .update id .initial) :: (1, .update id offering) :: listingEcho.map (1, ·)

theorem lookingAtBoth_goes : gather (clients fun _ => .default) [("a", 0), ("b", 1)] lookingAtBoth
    [("b", plainTool "echo")] := by
  have first : offered (clients (ε := Unit) fun _ => .default) ("a", 0) [(0, .update id .initial)]
      [] :=
    ⟨_, [], false, rfl, ⟨[.update id .initial], rfl, .does (.update _) (.done _)⟩, rfl, rfl⟩
  have second : offered (clients fun _ => .default) ("b", 1)
      ((1, .update id offering) :: listingEcho.map (1, ·)) [("b", plainTool "echo")] :=
    ⟨[_], _, true, rfl, ⟨[.update id offering], rfl, .does (.update _) (.done _)⟩, _, [], _,
      (List.append_nil _).symm, ⟨_, rfl, listingEcho_goes⟩, rfl, rfl⟩
  rw [gather_cons, gather_cons]
  exact ⟨_, _, [], rfl, first, _, [], _, (List.append_nil _).symm,
    ⟨_, [], _, (List.append_nil _).symm, second, [], [], [], rfl, ⟨rfl, rfl⟩, rfl, rfl⟩, rfl, rfl⟩

/-- A key that is found when the tools have been listed. Its tool is called without arguments. -/
theorem calls_tool_once_listed :
    let t : Toolbox Nat := ⟨[("a", 0), ("b", 1)], []⟩
    let t' : Toolbox Nat := { t with table := [("echo", ⟨"b", "echo"⟩)] }
    let deeds := lookingAtBoth ++ callingEcho.map (1, ·)
    t.call (clients fun _ => .default) "echo" .null deeds (.ok ⟨[.text "hi"], none⟩, t') ∧
      CallsOnce (fun _ => .default) "echo" .null t t' deeds (.ok ⟨[.text "hi"], none⟩) ∧
      (toolRequests deeds).map (fun asked => (asked.1, asked.2.params)) =
        [(1, .obj [("name", .str "echo")])] := by
  intro t t' deeds
  have goes : t.call (clients fun _ => .default) "echo" .null deeds
      (.ok ⟨[.text "hi"], none⟩, t') :=
    ⟨_, _, (_, t'), rfl, ⟨_, [], _, (List.append_nil _).symm, lookingAtBoth_goes, rfl, rfl⟩, _, [],
      _, (List.append_nil _).symm, ⟨_, rfl, callingEcho_goes⟩, rfl, rfl⟩
  exact ⟨goes, (calls_tool_once Unit (fun _ => .default) t "echo" .null).call goes, rfl⟩

end Clients

end Toolbox

end Mcp
