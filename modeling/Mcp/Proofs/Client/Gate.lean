import Mcp.Proofs.Client.Conduct

/-!
The gate of a client. An operation waits at the gate until the client is not in a handshake; then it
is let through or refused, and until then its task says nothing (`AtGate.decides`). What an
operation that is let through asks, the agreement permits. Main statement: `speaks_in_turn`.
-/

namespace Mcp.Client

open Program.Operation
open Schema
open Session (Act Task Told Traffic)

variable {ε α : Type} {settings : Settings} {action : String} {part : Option Capability}

/-! ### Operations behind the gate -/

/-- The operations behind the gate, each with its action and the part that it is about. -/
inductive Gated (settings : Settings) :
    {α : Type} → Operation ε α → String → Option Capability → Prop
  | ping : Gated settings (ping settings) "pinging" none
  | page {α : Type} {l : Listing α} {cursor : Option String} : Listed l →
      Gated settings (l.page settings cursor) l.action l.part
  | all {α : Type} {l : Listing α} : Listed l → Gated settings (l.all settings) l.action l.part
  | callTool {call : ToolCall} :
      Gated settings (callTool settings call) "calling tools" (some .tools)
  | readResource {uri : String} :
      Gated settings (readResource settings uri) "reading resources" (some .resources)
  | getPrompt {request : PromptRequest} :
      Gated settings (getPrompt settings request) "getting prompts" none

/-- An operation is the gate and then the rest of it. -/
def GateFirst (settings : Settings) (action : String) (part : Option Capability)
    (op rest : Operation ε α) : Prop :=
  ∀ next : Except Error α → Program State ε Unit,
    op.before next = (gate settings action part).before (onSuccess (fun _ => rest) next)

theorem ask_gateFirst {read : Json.Reader α} {method : String} {params : Json} :
    GateFirst (ε := ε) settings action part (ask settings action part read method params)
      (call read method params none) := fun next => by
  simp only [ask, before_bind]

/-- What starts with an operation behind the gate is behind the gate. -/
theorem GateFirst.bind {β : Type} {op rest : Operation ε α}
    (first : GateFirst settings action part op rest) (f : α → Operation ε β) :
    GateFirst settings action part (op >>= f) (rest >>= f) := fun next => by
  rw [before_bind, first]
  congr 1
  funext r
  cases r with
  | ok => simp only [onSuccess_ok, before_bind]
  | error => rfl

theorem Gated.first {op : Operation ε α} (gated : Gated settings op action part) :
    ∃ rest, GateFirst settings action part op rest := by
  cases gated with
  | ping => exact ⟨_, ask_gateFirst.bind _⟩
  | page | callTool | readResource | getPrompt => exact ⟨_, ask_gateFirst⟩
  | all => exact ⟨_, ask_gateFirst.bind _⟩

/-! ### At the gate -/

section Programs

variable (action : String) (part : Option Capability)
  (next : Except Error Unit → Program State ε Unit)

/-- The gate's look at what the server offers. -/
def checkPart : Program State ε Unit :=
  match part with
  | none => next (.ok ())
  | some c =>
    .update id fun s =>
      next (if s.capable c then .ok () else .error (.capability c.name action))

/-- What the gate does with the state that it waited for, if that came in time. -/
def checkState (seen : Option State) : Program State ε Unit :=
  match seen.map State.lifecycle with
  | some .initialized => checkPart action part next
  | some .closed => next (.error .transportClosed)
  | _ => next (.error (.notInitialized action))

end Programs

theorem gate_before (next : Except Error Unit → Program State ε Unit) :
    (gate settings action part).before next =
      .await (fun s => s.lifecycle ≠ .initializing) settings.initializationTimeout
        (checkState action part next) := by
  simp only [gate, requireInitialized, before_bind, before_await]
  congr 1
  funext seen
  unfold checkState
  simp only [onSuccess_ok]
  generalize seen.map State.lifecycle = lifecycle
  cases lifecycle with
  | none => rfl
  | some lifecycle =>
    cases lifecycle with
    | uninitialized | initializing | failed | closed => rfl
    | initialized =>
      simp only [before_pure, onSuccess_ok, checkPart]
      cases part with
      | none => rfl
      | some c =>
        simp only [before_bind, before_shared, onSuccess_ok, before_ite, before_pure, before_throw]
        congr 1
        funext s
        split <;> rfl

/-- Why the gate refuses an operation in a state. -/
inductive Refuses (action : String) (part : Option Capability) (s : State) : Error → Prop
  | closed : s.lifecycle = .closed → Refuses action part s .transportClosed
  | early : s.lifecycle ≠ .initialized → s.lifecycle ≠ .closed →
      Refuses action part s (.notInitialized action)
  | lacking {c : Capability} : part = some c → s.capable c = false →
      Refuses action part s (.capability c.name action)

/-- A task is at the gate, after which it goes on as `next` says. -/
inductive AtGate (settings : Settings) (action : String) (part : Option Capability)
    (next : Except Error Unit → Program State ε Unit) : Task State ε → Prop
  | arriving : AtGate settings action part next (.ready ((gate settings action part).before next))
  | waiting {deadline : Nat} : AtGate settings action part next
      (.awaiting (fun s => s.lifecycle ≠ .initializing) deadline (checkState action part next))
  | checking {c : Capability} : part = some c →
      AtGate settings action part next (.ready (checkPart action part next))

/-- What the own step of a task at the gate makes of it. -/
inductive AtGate.Turns (settings : Settings) (action : String) (part : Option Capability)
    (next : Except Error Unit → Program State ε Unit) (s : State) (task : Task State ε) : Prop
  | stays : AtGate settings action part next task → Turns settings action part next s task
  | passes : task = .ready (next (.ok ())) → (∀ c, part = some c → s.capable c = true) →
      Turns settings action part next s task
  | refused {e : Error} : task = .ready (next (.error e)) → Refuses action part s e →
      Turns settings action part next s task

section AtGate

variable {next : Except Error Unit → Program State ε Unit} {s : Session State ε}
  {task : Task State ε}

/-- A task at the gate says nothing. -/
theorem AtGate.silent (atGate : AtGate settings action part next task) :
    s.taskTraffic task = none := by
  cases atGate with
  | arriving => rw [gate_before]; rfl
  | waiting => rfl
  | checking about => subst about; rfl

/-- What the gate decides when it has seen a state. -/
theorem checkState_turns (state : State) : AtGate.Turns settings action part next state
    (.ready (checkState action part next (some state))) := by
  obtain ⟨lifecycle, agreement⟩ := state
  cases lifecycle with
  | uninitialized | initializing | failed => exact .refused rfl (.early (by simp) (by simp))
  | closed => exact .refused rfl (.closed rfl)
  | initialized =>
    have goes : checkState action part next (some ⟨.initialized, agreement⟩) =
      checkPart action part next := rfl
    rw [goes]
    cases part with
    | none => exact .passes rfl (by simp)
    | some c => exact .stays (.checking rfl)

theorem AtGate.turns (atGate : AtGate settings action part next task) :
    AtGate.Turns settings action part next s.shared (s.turned task) := by
  cases atGate with
  | arriving =>
    rw [gate_before]
    exact .stays .waiting
  | @checking c about =>
    subst about
    have turned : s.turned (.ready (checkPart action (some c) next)) = .ready
      (next (if s.shared.capable c then .ok () else .error (.capability c.name action))) := rfl
    rw [turned]
    cases capable : s.shared.capable c with
    | true => exact .passes rfl (by rintro _ ⟨⟩; exact capable)
    | false => exact .refused rfl (.lacking rfl capable)
  | @waiting deadline =>
    simp only [Session.turned]
    by_cases busy : s.shared.lifecycle = .initializing
    · rw [if_neg (by simp [busy])]
      split
      · exact .refused rfl (.early (by simp [busy]) (by simp [busy]))
      · exact .stays .waiting
    · rw [if_pos (by simp [busy])]
      exact checkState_turns s.shared

theorem AtGate.told {open_ : Bool} {task' : Task State ε}
    (atGate : AtGate settings action part next task) (told : Told open_ task task') :
    AtGate settings action part next task' := by
  cases told with
  | same => exact atGate
  | news | watching | parked => cases atGate

/-- What a run has made of a task that was at the gate. The task says nothing before the gate lets
it through, and nothing at all if the gate refuses it. -/
inductive GateDecides (settings : Settings) (action : String) (part : Option Capability)
    (next : Except Error Unit → Program State ε Unit) (s : Session State ε) (i : Nat)
    (acts : List (Act State ε)) : Prop
  | waits {task : Task State ε} : (s.run acts).tasks[i]? = some task →
      AtGate settings action part next task → s.taskTranscript i acts = [] →
      GateDecides settings action part next s i acts
  | passes (before after : List (Act State ε)) : acts = before ++ .step (.task i) :: after →
      (∀ c, part = some c → (s.run before).shared.capable c = true) →
      (s.run (before ++ [.step (.task i)])).tasks[i]? = some (.ready (next (.ok ()))) →
      s.taskTranscript i (before ++ [.step (.task i)]) = [] →
      GateDecides settings action part next s i acts
  | refused (before after : List (Act State ε)) {e : Error} :
      acts = before ++ .step (.task i) :: after → Refuses action part (s.run before).shared e →
      (s.run (before ++ [.step (.task i)])).tasks[i]? = some (.ready (next (.error e))) →
      s.taskTranscript i (before ++ [.step (.task i)]) = [] →
      GateDecides settings action part next s i acts

/-- An act with which a task at the gate says nothing may come first. -/
theorem GateDecides.after_act {i : Nat} {a : Act State ε} {acts : List (Act State ε)}
    (silent : (if a.isStepOf i then (s.traffic a).toList else []) = [])
    (decides : GateDecides settings action part next (s.act a) i acts) :
    GateDecides settings action part next s i (a :: acts) := by
  have quiet (later : List (Act State ε)) :
      s.taskTranscript i (a :: later) = (s.act a).taskTranscript i later := by
    rw [Session.taskTranscript, silent, List.nil_append]
  cases decides with
  | waits h atGate said => exact .waits h atGate (by rw [quiet, said])
  | passes before after split capable h said =>
    subst split
    refine .passes (a :: before) after rfl capable h ?_
    rw [List.cons_append, quiet, said]
  | refused before after split why h said =>
    subst split
    refine .refused (a :: before) after rfl why h ?_
    rw [List.cons_append, quiet, said]

theorem AtGate.decides {i : Nat} (atGate : AtGate settings action part next task)
    (h : s.tasks[i]? = some task) (acts : List (Act State ε)) :
    GateDecides settings action part next s i acts := by
  induction acts generalizing s task with
  | nil => exact .waits h atGate rfl
  | cons a acts ih =>
    by_cases own : a.isStepOf i = true
    · obtain rfl := Session.Act.isStepOf_iff.mp own
      have here := Session.act_own h
      have silent : s.traffic (.step (.task i)) = none := by
        rw [Session.traffic_task h, atGate.silent]
      have said : s.taskTranscript i [.step (.task i)] = [] := by
        simp [Session.taskTranscript, silent]
      cases atGate.turns (s := s) with
      | stays atGate' => exact .after_act (by simp [silent]) (ih atGate' here)
      | passes turned capable =>
        rw [turned] at here
        exact .passes [] acts rfl capable here said
      | refused turned why =>
        rw [turned] at here
        exact .refused [] acts rfl why here said
    · obtain ⟨task', h', told⟩ := Session.act_elsewhere h (mt Session.Act.isStepOf_iff.mpr own)
      exact .after_act (if_neg own) (ih (atGate.told told) h')

end AtGate

/-! ### Every run -/

/-- What a client promises about what it says in a run. -/
structure SpeaksInTurn (settings : Settings) (s : Session State ε) (acts : List (Act State ε)) :
    Prop where
  /-- What is on the wire is what the transcript says was taken. -/
  wire : (s.run acts).link.sent =
    s.link.sent ++ (s.transcript acts).filterMap Traffic.sent?
  /-- A request other than a handshake comes after a response to a handshake of the client's own
  that agreed on a version that is understood, and after the announcement; and it is permitted by
  that agreement, which is the one that the client keeps. -/
  requests {before after : List Traffic} {r : Request} {result : Except Error Unit} :
    s.transcript acts = before ++ .offered (.request r) result :: after →
    r.method ≠ "initialize" → ∃ a, (s.run acts).shared.agreement = some a ∧
      (∃ id, Answers before id a) ∧ Announced before ∧ Permits a r.method
  /-- The client tries to announce itself once at most. -/
  once : attempts (s.transcript acts) ≤ 1
  /-- An operation behind the gate says nothing before it is let through; if it is refused, it is
  over and has said nothing. -/
  gate {α : Type} {op : Operation ε α} {action : String} {part : Option Capability} :
    Gated settings op action part → ∃ rest, GateFirst settings action part op rest ∧
      ∀ {before later : List (Act State ε)} {i : Nat}
        {next : Except Error α → Program State ε Unit}, acts = before ++ later →
        (s.run before).tasks[i]? = some (.ready (op.before next)) →
        GateDecides settings action part (onSuccess (fun _ => rest) next) (s.run before) i later

/-- A client says nothing out of turn, in every run. -/
theorem speaks_in_turn {label : String} {hooks : Hooks ε} {link : Transport.Memory}
    {s : Session State ε} (named : label ≠ "") (h : start label settings hooks link = .ok s)
    {acts : List (Act State ε)} (uses : Uses settings acts) : SpeaksInTurn settings s acts where
  wire := s.run_sent acts
  requests := by
    intro before after r result split other
    obtain ⟨earlier, a, later, rfl, rfl, offered⟩ := Session.transcript_split split
    obtain ⟨usesEarlier, usesLater⟩ := uses.of_append
    have inOrder := inOrder_run named h usesEarlier
    cases inOrder.standing.speaks offered with
    | @request agreement _ _ kept answers announced permits =>
      obtain ⟨id, -, answers⟩ := answers
      refine ⟨agreement, ?_, ⟨id, answers⟩, announced, permits⟩
      rw [Session.run_append]
      exact inOrder.agreement_run kept usesLater
    | handshake _ _ method => exact absurd method other
    | announcement attempt => cases attempt
  once := (inOrder_run named h uses).standing.attempts_le
  gate := by
    intro α op action part gated
    obtain ⟨rest, first⟩ := gated.first
    refine ⟨rest, first, ?_⟩
    intro before later i next split h
    rw [first] at h
    exact AtGate.arriving.decides h later

/-- A client that shakes hands and calls a tool says three things. -/
theorem speaks_in_turn_to_tools : ∃ (s : Session State Unit) (acts : List (Act State Unit)),
    start "sess" .default ⟨[], [], [], fun _ => ⟨[], none⟩⟩ .new = .ok s ∧
      Uses .default acts ∧ SpeaksInTurn .default s acts ∧
      (s.run acts).link.sent.map Message.method? =
        [some "initialize", some "notifications/initialized", some "tools/call"] := by
  have started : start (ε := Unit) "sess" .default ⟨[], [], [], fun _ => ⟨[], none⟩⟩ .new =
    .ok _ := rfl
  have uses : Uses (ε := Unit) .default
      [.spawn ((handshake .default).before fun _ =>
          (callTool .default ⟨"add", none⟩).before fun _ => .done ()),
        .step (.task 0), .step (.task 0), .step (.task 0), .step (.task 0), .step (.task 0),
        .inject (.response (.success (.text "sess-1")
          (Agreement.toJson ⟨"2025-03-26", ⟨none, none, none, none, some (.obj [])⟩,
            ⟨"server", "1"⟩, none⟩))),
        .step .forwarder, .step .reader, .step (.task 0), .step (.task 0), .step (.task 0),
        .step (.task 0), .step (.task 0), .step (.task 0), .step (.task 0), .step (.task 0),
        .step (.task 0), .step (.task 0), .step (.task 0), .step (.task 0)] := by
    intro p there
    simp only [List.mem_cons, Act.spawn.injEq, reduceCtorEq, List.not_mem_nil, or_false] at there
    subst there
    exact .operation .handshake fun _ => .operation .callTool fun _ => .done
  exact ⟨_, _, started, uses, speaks_in_turn (by decide) started uses, rfl⟩

end Mcp.Client
