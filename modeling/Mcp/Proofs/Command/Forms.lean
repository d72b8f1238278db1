import Mcp.Command.Perform
import Mcp.Proofs.Program
import Mcp.Proofs.Session.Twins

/-!
The two forms in which what comes out of a command is written. Asked for JSON or for text, a command
says the same to its server, whatever the server does, and ends with the same outcome, but for the
call of a tool whose answer is flagged as an error: as JSON it is written and succeeds, as text it
is written and fails (`Reports`). Main statement: `forms_agree`.
-/

namespace Mcp.Command

open Client (Settings State)
open Program (Twin)
open Program.Operation
open Schema (ToolResult)
open Session (Mirrors)

/-- An operation as the program of a task, which records how it ended. -/
def task (op : Operation) : Program State Event Unit :=
  before op fun outcome => .emit (.ended outcome) (.done ())

/-- How the events that a command records when JSON is wanted are to those when text is. -/
inductive Reports (command : Command) : List Event → List Event → Prop
  | same {events : List Event} (outcome : Except Error Unit) :
      Reports command (events ++ [.ended outcome]) (events ++ [.ended outcome])
  | written {events : List Event} (value : Json) (texts : List String) :
      Reports command (events ++ [.wrote value.pretty, .ended (.ok ())])
        (events ++ texts.map .wrote ++ [.ended (.ok ())])
  | flagged {server tool : String} {arguments : Option String} {events : List Event}
      {answer : ToolResult} : command = .call server tool arguments → answer.failed = true →
      Reports command (events ++ [.wrote answer.toJson.pretty, .ended (.ok ())])
        (events ++ (answer.content.map Report.toolContent).map .wrote ++
          [.ended (.error (.toolExecution (.reported answer.text)))])

/-- Two plans for a command, of which one writes JSON and the other text. Where one is refused, the
other is, for the same reason; where one visits a server, the other visits it in the same way, and
whatever the session, each of the two does there what the other does. -/
inductive PlansAgree (command : Command) : Except Error Plan → Except Error Plan → Prop
  | refused (e : Error) : PlansAgree command (.error e) (.error e)
  | written (json text : String) : PlansAgree command (.ok (.write json)) (.ok (.write text))
  | visits {server : Config.Server} {transport : Connector} {settings : Settings}
      {json text : Operation} :
      (∀ s : Session State Event,
        Mirrors s.tasks.length (Reports command) (s.spawn (task json)) (s.spawn (task text)) ∧
        Mirrors s.tasks.length (flip (Reports command)) (s.spawn (task text))
          (s.spawn (task json))) →
      PlansAgree command (.ok (.visit server transport settings json))
        (.ok (.visit server transport settings text))

/-! ### What follows -/

/-- What a visit does when its operation has ended. -/
def leaving (outcome : Except Error Unit) : Program State Event Unit :=
  task (leave true >>= fun _ => Program.Operation.ofExcept outcome)

section Twins

variable {α : Type} {R : List Event → List Event → Prop} {es es' : List Event}

theorem twin_ended {outcome outcome' : Except Error Unit}
    (related : R (es ++ [.ended outcome]) (es' ++ [.ended outcome'])) :
    Twin (σ := State) R es (.emit (.ended outcome) (.done ())) es'
      (.emit (.ended outcome') (.done ())) :=
  .left (.right (.done related))

theorem leaving_eq (outcome : Except Error Unit) : leaving outcome =
    .update State.close fun _ => .close true fun _ => .emit (.ended outcome) (.done ()) := by
  simp only [leaving, task, leave, Client.close, before_bind, before_tryCatch, before_update,
    before_close, Program.Operation.onSuccess_ok]
  congr
  funext _
  congr
  funext closed
  cases closed <;> rfl

theorem twin_leaving {outcome outcome' : Except Error Unit}
    (related : R (es ++ [.ended outcome]) (es' ++ [.ended outcome'])) :
    Twin R es (leaving outcome) es' (leaving outcome') := by
  rw [leaving_eq, leaving_eq]
  exact .update fun _ => .close fun _ => twin_ended related

/-- What an operation does is the same whatever follows it. -/
theorem twin_before (op : Program.Operation State Event α)
    {next next' : Except Error α → Program State Event Unit}
    (ok : ∀ own a, Twin R (es ++ own) (next (.ok a)) (es' ++ own) (next' (.ok a)))
    (error : ∀ own e, Twin R (es ++ own) (next (.error e)) (es' ++ own) (next' (.error e))) :
    Twin R es (before op next) es' (before op next') := by
  refine Twin.bind fun own r => ?_
  cases r with
  | ok a => exact ok own a
  | error e => exact error own e

theorem twin_texts {next : Except Error Unit → Program State Event Unit}
    {k : Program State Event Unit} (texts : List String)
    (rest : Twin R es k (es' ++ texts.map .wrote) (next (.ok ()))) :
    Twin R es k es' (before (texts.forM fun text => emit (.wrote text)) next) := by
  induction texts generalizing es' with
  | nil =>
    rw [List.map_nil, List.append_nil] at rest
    exact rest
  | cons text texts ih =>
    refine .right (ih ?_)
    rwa [List.append_assoc]

theorem twin_write {value : Json} {texts : List String}
    {next next' : Except Error Unit → Program State Event Unit}
    (rest : Twin R (es ++ [.wrote value.pretty]) (next (.ok ())) (es' ++ texts.map .wrote)
      (next' (.ok ()))) :
    Twin R es (before (write true value texts) next) es' (before (write false value texts) next') :=
  .left (twin_texts texts rest)

end Twins

/-! ### Operations -/

/-- Two operations that do the same on a visit, the one for JSON and the other for text. -/
def Agrees (command : Command) (json text : Operation) : Prop :=
  ∀ events, Twin (Reports command) events (before json leaving) events (before text leaving)

section Operations

variable {α : Type} (command : Command)

theorem agrees_refl (op : Operation) : Agrees command op op := by
  intro events
  exact twin_before op (fun own _ => twin_leaving (.same _)) fun own e => twin_leaving (.same _)

/-- To write what an operation gave. -/
theorem agrees_write (op : Program.Operation State Event α) (value : α → Json)
    (texts : α → List String) : Agrees command (op >>= fun a => write true (value a) (texts a))
      (op >>= fun a => write false (value a) (texts a)) := by
  intro events
  rw [before_bind, before_bind]
  refine twin_before op (fun own a => ?_) fun own e => twin_leaving (.same _)
  refine twin_write (twin_leaving ?_)
  rw [List.append_assoc]
  exact .written (value a) (texts a)

theorem agrees_showAgreement : Agrees command (showAgreement true) (showAgreement false) := by
  intro events
  unfold showAgreement
  rw [before_bind, before_bind]
  refine twin_before shared (fun own state => ?_) fun own e => twin_leaving (.same _)
  simp only [onSuccess_ok]
  cases state.agreement with
  | none => exact twin_leaving (.same _)
  | some a =>
    refine twin_write (twin_leaving ?_)
    rw [List.append_assoc]
    exact .written a.toJson (Report.agreement a)

theorem agrees_callTool (settings : Settings) (server tool : String) (text : Option String)
    (arguments : Json) : Agrees (.call server tool text)
      (callTool settings true server tool arguments)
      (callTool settings false server tool arguments) := by
  intro events
  unfold callTool
  simp only [before_bind]
  refine twin_before _ (fun own called => ?_) fun own e => twin_leaving (.same _)
  simp only [onSuccess_ok, before_bind]
  refine twin_before _ (fun own answer => ?_) fun own e => twin_leaving (.same _)
  simp only [onSuccess_ok, before_bind]
  refine twin_write ?_
  simp only [onSuccess_ok, before_ite, Bool.not_true, Bool.not_false, Bool.false_and,
    Bool.true_and, Bool.false_eq_true, if_false]
  split
  · rename_i failed
    refine twin_leaving ?_
    rw [List.append_assoc]
    exact .flagged rfl failed
  · refine twin_leaving ?_
    rw [List.append_assoc]
    exact .written answer.toJson (answer.content.map Report.toolContent)

theorem agrees_operation (settings : Settings) (arguments : Json) : Agrees command
    (command.operation settings true arguments) (command.operation settings false arguments) := by
  cases command with
  | servers => exact agrees_refl _ _
  | info => exact agrees_showAgreement _
  | tools => exact agrees_write _ _ _ _
  | call server tool text => exact agrees_callTool settings server tool text arguments
  | resources => exact agrees_write _ _ _ _
  | read => exact agrees_write _ _ _ _
  | templates => exact agrees_write _ _ _ _
  | prompts => exact agrees_write _ _ _ _
  | prompt => exact agrees_write _ _ _ _
  | ping => exact agrees_refl _ _

end Operations

/-! ### Visits -/

theorem twin_visit {command : Command} (settings : Settings) {json text : Operation}
    (agrees : Agrees command json text) :
    Twin (Reports command) [] (task (visit settings json)) [] (task (visit settings text)) := by
  unfold task visit
  simp only [before_bind]
  refine twin_before _ (fun own _ => ?_) fun own e => twin_ended (.same _)
  have inside (op : Operation) : before (do
      let outcome ← ExceptT.lift op.run
      leave true
      Program.Operation.ofExcept outcome)
      (fun outcome => .emit (.ended outcome) (.done ())) = before op leaving := by
    rw [before_bind, before_lift]
    rfl
  simp only [onSuccess_ok, inside]
  exact agrees own

/-- What comes of a command, in one form or the other. -/
theorem forms_agree (c : Config) (command : Command) :
    PlansAgree command (command.plan c true) (command.plan c false) := by
  simp only [plan, bind, Except.bind]
  cases command.arguments with
  | error e => exact .refused e
  | ok arguments =>
    cases command.server? with
    | none => exact .written _ _
    | some name =>
      dsimp only
      cases c.server name with
      | error e => exact .refused e
      | ok server =>
        dsimp only
        cases server.connector with
        | error e => exact .refused e
        | ok transport =>
          have twin := twin_visit c.client.toSettings
            (agrees_operation command c.client.toSettings arguments)
          exact .visits fun s => Session.mirrors_spawn twin s

section Flagged

abbrev Acts := List (Session.Act State Event)

def steps (n : Nat) : Acts := List.replicate n (.step (.task 0))

/-- The server's answer to a request, which is taken at once. -/
def answers (id : String) (result : Json) : Acts :=
  [.inject (.response (.success (.text id) result)), .step .forwarder, .step .reader]

/-- A server that offers tools. -/
def agreement : Schema.Agreement :=
  ⟨"2025-03-26", ⟨none, none, none, none, some (.obj [])⟩, ⟨"server", "1"⟩, none⟩

/-- What a tool says when it failed. -/
def flagged : ToolResult := ⟨[.text "bad", .text "news"], some true⟩

/-- A visit on which the tool that is called fails. -/
def called : Acts :=
  steps 5 ++ answers "sess-1" agreement.toJson ++ steps 13 ++
    answers "sess-2" (.obj [("tools", .arr [.obj [("name", .str "t")]])]) ++ steps 8 ++
    answers "sess-3" flagged.toJson ++ steps 8 ++ [.step .reader, .step .reader] ++ steps 4

/-- Settings with one server. -/
def oneServer : Config :=
  ⟨.default, .default, [("s", .stdio ⟨"server", [], [], none, true⟩)]⟩

/-- The call of a tool of that server. -/
def form (json : Bool) : Operation :=
  visit .default (operation .default json .null (.call "s" "t" none))

/-- That the outcome is the same is too much to say: of one call, with one answer of the server, the
one form succeeds and the other fails. -/
theorem flagged_answer_divides :
    (∀ json, plan oneServer json (.call "s" "t" none) =
      .ok (.visit (.stdio ⟨"server", [], [], none, true⟩) (.child (.new "server")) .default
        (form json))) ∧
    ∃ s : Session State Event,
      Client.start "sess" .default (Client.Hooks.default .logged) .new = .ok s ∧
      Session.eventsOf 0 ((s.spawn (task (form true))).records called) =
        [.wrote flagged.toJson.pretty, .ended (.ok ())] ∧
      Session.eventsOf 0 ((s.spawn (task (form false))).records called) =
        [.wrote "bad", .wrote "news",
          .ended (.error (.toolExecution (.reported flagged.text)))] := by
  refine ⟨fun _ => rfl, ?_⟩
  have started : Client.start "sess" .default (Client.Hooks.default Event.logged) .new = .ok _ :=
    rfl
  exact ⟨_, started, rfl, rfl⟩

end Flagged

end Mcp.Command
