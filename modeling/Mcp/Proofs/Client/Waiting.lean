import Mcp.Proofs.Client.Gate
import Mcp.Proofs.Session.Awaiting

/-!
How an operation waits for a handshake in flight. Its first step sets the time until which it waits;
each later step looks at the client, and the first that finds it in no handshake, or the time over,
ends the wait (`Waits`). What that step found decides what the operation goes on with (`WaitEnds`),
and then what the server offers does (`Checks`). Main statement: `waits_out_handshakes`.
-/

namespace Mcp.Client

open Program.Operation
open Schema
open Session (Act Along Punctual Task)

variable {ε α : Type} {settings : Settings}

/-! ### What operations begin with -/

/-- What an operation behind the gate begins with: the gate, for an action and a part, and then a
request. -/
structure Opening where
  action : String
  part : Option Capability
  method : String
  params : Json

/-- The operations behind the gate, each with what it begins with. -/
inductive Opens (settings : Settings) : {α : Type} → Operation ε α → Opening → Prop
  | ping : Opens settings (ping settings) ⟨"pinging", none, "ping", .null⟩
  | page {α : Type} {l : Listing α} {cursor : Option String} : Listed l →
      Opens settings (l.page settings cursor)
        ⟨l.action, l.part, l.method, PageRequest.toJson ⟨cursor⟩⟩
  | all {α : Type} {l : Listing α} : Listed l → Opens settings (l.all settings)
      ⟨l.action, l.part, l.method, PageRequest.toJson ⟨none⟩⟩
  | callTool {call : ToolCall} : Opens settings (callTool settings call)
      ⟨"calling tools", some .tools, "tools/call", call.toJson⟩
  | readResource {uri : String} : Opens settings (readResource settings uri)
      ⟨"reading resources", some .resources, "resources/read", ReadRequest.toJson ⟨uri⟩⟩
  | getPrompt {request : PromptRequest} : Opens settings (getPrompt settings request)
      ⟨"getting prompts", none, "prompts/get", request.toJson⟩

namespace Opening

variable (o : Opening) (answered : Except Error Json → Program State ε Unit)
  (next : Except Error α → Program State ε Unit)

/-- What an operation goes on with behind the gate: its request, or the error that the gate refused
it with. -/
def onward : Except Error Unit → Program State ε Unit
  | .ok () => .request o.method o.params none answered
  | .error e => next (.error e)

/-- What the gate lets an operation go on with if the server is as it is known in a state. -/
def verdict (s : State) : Except Error Unit :=
  match o.part with
  | none => .ok ()
  | some c => if s.capable c then .ok () else .error (.capability c.name o.action)

end Opening

/-- An operation is the gate and then what it begins with. -/
def BeginsWith (settings : Settings) (op : Operation ε α) (o : Opening) : Prop :=
  ∀ next : Except Error α → Program State ε Unit, ∃ answered,
    op.before next = (gate settings o.action o.part).before (o.onward answered next)

theorem ask_begins {action method : String} {part : Option Capability} {read : Json.Reader α}
    {params : Json} : BeginsWith (ε := ε) settings
    (ask settings action part read method params) ⟨action, part, method, params⟩ := fun next => by
  refine ⟨fun answer => next (answer.bind (unmarshal read)), (ask_gateFirst next).trans ?_⟩
  congr 1
  funext r
  cases r <;> rfl

/-- What starts with an operation begins with what that begins with. -/
theorem BeginsWith.bind {β : Type} {op : Operation ε α} {o : Opening}
    (begins : BeginsWith settings op o)
    (f : α → Operation ε β) : BeginsWith settings (op >>= f) o := fun next => by
  obtain ⟨answered, same⟩ := begins (onSuccess f next)
  refine ⟨answered, ?_⟩
  rw [before_bind, same]
  rfl

theorem Opens.begins {op : Operation ε α} {o : Opening} (opens : Opens settings op o) :
    BeginsWith settings op o := by
  cases opens with
  | ping => exact ask_begins.bind _
  | page | callTool | readResource | getPrompt => exact ask_begins
  | all => exact ask_begins.bind _

/-! ### The wait -/

/-- A wait goes on where a handshake is in flight and the time is not over. -/
structure InFlight (deadline : Nat) (s : Session State ε) : Prop where
  busy : s.shared.lifecycle = .initializing
  early : s.now < deadline

/-- What a wait comes to, by what its last step finds. -/
inductive WaitEnds (action : String) (deadline : Nat) (s : Session State ε) :
    Except Error Unit → Prop
  | initialized : s.shared.lifecycle = .initialized → WaitEnds action deadline s (.ok ())
  | closed : s.shared.lifecycle = .closed → WaitEnds action deadline s (.error .transportClosed)
  | unstarted : s.shared.lifecycle = .uninitialized →
      WaitEnds action deadline s (.error (.notInitialized action))
  | failed : s.shared.lifecycle = .failed →
      WaitEnds action deadline s (.error (.notInitialized action))
  | elapsed : s.shared.lifecycle = .initializing → deadline ≤ s.now →
      WaitEnds action deadline s (.error (.notInitialized action))

/-- A task's wait over part of a run: it began after `before`, and each step of the task in `waited`
found a handshake in flight and the time not over. -/
structure Waiting (settings : Settings) (s : Session State ε) (i : Nat)
    (before waited : List (Act State ε)) (deadline : Nat) : Prop where
  unbegun : .step (.task i) ∉ before
  bounded : deadline = (s.run before).now + settings.initializationTimeout
  looked : Along (fun s a => a = .step (.task i) → InFlight deadline s)
    (s.run (before ++ [.step (.task i)])) waited
  silent : s.taskTranscript i (before ++ .step (.task i) :: waited) = []
  /-- Nothing keeps the task from ending its wait where it can. -/
  wakes : (s.run (before ++ .step (.task i) :: waited)).enabled (.task i) = true ↔
    (s.run (before ++ .step (.task i) :: waited)).shared.lifecycle ≠ .initializing ∨
      deadline ≤ (s.run (before ++ .step (.task i) :: waited)).now
  /-- Where everybody takes the steps that they have, the wait is not longer than its bound. -/
  prompt : Along Punctual (s.run (before ++ [.step (.task i)])) waited →
    (s.run (before ++ .step (.task i) :: waited)).now ≤ deadline

/-- What has become of an operation that found its client initialized, in the acts since: it is
about to check what the server offers, or has checked it and goes on as that says. An operation that
is about no part has nothing to check. -/
inductive Checks (o : Opening) (answered : Except Error Json → Program State ε Unit)
    (next : Except Error α → Program State ε Unit) (s : Session State ε) (i : Nat)
    (acts : List (Act State ε)) : Prop
  | nothing : o.part = none → s.tasks[i]? = some (.ready (o.onward answered next (.ok ()))) →
      Checks o answered next s i acts
  | due {c : Capability} : o.part = some c → .step (.task i) ∉ acts →
      s.taskTranscript i acts = [] → Checks o answered next s i acts
  | made {c : Capability} (before after : List (Act State ε)) : o.part = some c →
      acts = before ++ .step (.task i) :: after → .step (.task i) ∉ before →
      s.taskTranscript i (before ++ [.step (.task i)]) = [] →
      (s.run (before ++ [.step (.task i)])).tasks[i]? =
        some (.ready (o.onward answered next (o.verdict (s.run before).shared))) →
      Checks o answered next s i acts

/-- How far an operation behind the gate is in the acts since it was next: it has not begun, it
waits, or its wait is over. If it found the client initialized, it checks what the server offers; if
not, it has failed. -/
inductive Waits (settings : Settings) (o : Opening)
    (answered : Except Error Json → Program State ε Unit)
    (next : Except Error α → Program State ε Unit) (s : Session State ε) (i : Nat)
    (acts : List (Act State ε)) : Prop
  | unbegun : .step (.task i) ∉ acts → s.taskTranscript i acts = [] →
      Waits settings o answered next s i acts
  | waiting (before waited : List (Act State ε)) (deadline : Nat) :
      acts = before ++ .step (.task i) :: waited → Waiting settings s i before waited deadline →
      Waits settings o answered next s i acts
  | passed (before waited after : List (Act State ε)) (deadline : Nat) :
      acts = before ++ .step (.task i) :: waited ++ .step (.task i) :: after →
      Waiting settings s i before waited deadline →
      WaitEnds o.action deadline (s.run (before ++ .step (.task i) :: waited)) (.ok ()) →
      s.taskTranscript i (before ++ .step (.task i) :: waited ++ [.step (.task i)]) = [] →
      Checks o answered next
        (s.run (before ++ .step (.task i) :: waited ++ [.step (.task i)])) i after →
      Waits settings o answered next s i acts
  | refused (before waited after : List (Act State ε)) (deadline : Nat) {e : Error} :
      acts = before ++ .step (.task i) :: waited ++ .step (.task i) :: after →
      Waiting settings s i before waited deadline →
      WaitEnds o.action deadline (s.run (before ++ .step (.task i) :: waited)) (.error e) →
      s.taskTranscript i (before ++ .step (.task i) :: waited ++ [.step (.task i)]) = [] →
      (s.run (before ++ .step (.task i) :: waited ++ [.step (.task i)])).tasks[i]? =
        some (.ready (next (.error e))) →
      Waits settings o answered next s i acts

section Waits

variable {o : Opening} {answered : Except Error Json → Program State ε Unit}
  {next : Except Error α → Program State ε Unit} {s : Session State ε} {i deadline : Nat}

/-- The check of what the server offers goes on as the offer says. -/
theorem checks (h : s.tasks[i]? =
      some (.ready (checkPart o.action o.part (o.onward answered next))))
    (acts : List (Act State ε)) : Checks o answered next s i acts := by
  cases about : o.part with
  | none =>
    rw [about] at h
    exact .nothing about h
  | some c =>
    have deaf {open_ : Bool} {task' : Task State ε} (told : Session.Told open_
        (.ready (checkPart o.action o.part (o.onward answered next))) task') :
        task' = .ready (checkPart o.action o.part (o.onward answered next)) := by
      cases told
      rfl
    rcases Session.first_step deaf h acts with ⟨still, silent⟩ |
        ⟨before, after, split, still, h', silent⟩
    · exact .due about still silent
    · have quiet : (s.run before).taskTraffic
          (.ready (checkPart o.action o.part (o.onward answered next))) = none := by
        simp only [about, checkPart]
        rfl
      refine .made before after about split still (Session.silent_through h' silent quiet) ?_
      rw [Session.run_append]
      refine (Session.act_own h').trans ?_
      simp only [Session.turned, checkPart, about, Session.started, Opening.verdict]

/-- What the gate goes on with when it has looked, by what it found. -/
theorem checkState_ends {found : Option State} {onward : Except Error Unit → Program State ε Unit}
    (seen : found = some s.shared ∧ s.shared.lifecycle ≠ .initializing ∨
      found = none ∧ s.shared.lifecycle = .initializing ∧ deadline ≤ s.now) :
    (WaitEnds o.action deadline s (.ok ()) ∧
        checkState o.action o.part onward found = checkPart o.action o.part onward) ∨
      ∃ e, WaitEnds o.action deadline s (.error e) ∧
        checkState o.action o.part onward found = onward (.error e) := by
  unfold checkState
  rcases seen with ⟨rfl, other⟩ | ⟨rfl, busy, late⟩
  · rw [Option.map_some]
    cases lifecycle : s.shared.lifecycle with
    | initialized => exact .inl ⟨.initialized lifecycle, rfl⟩
    | closed => exact .inr ⟨_, .closed lifecycle, rfl⟩
    | uninitialized => exact .inr ⟨_, .unstarted lifecycle, rfl⟩
    | failed => exact .inr ⟨_, .failed lifecycle, rfl⟩
    | initializing => exact absurd lifecycle other
  · exact .inr ⟨_, .elapsed busy late, rfl⟩

/-- What a wait's last step finds, and goes on with. -/
theorem looks_end {k : Option State → Program State ε Unit}
    (why : decide (s.shared.lifecycle ≠ .initializing) = true ∨ deadline ≤ s.now) :
    ∃ found, s.turned (.awaiting (fun s => s.lifecycle ≠ .initializing) deadline k) =
        .ready (k found) ∧
      (found = some s.shared ∧ s.shared.lifecycle ≠ .initializing ∨
        found = none ∧ s.shared.lifecycle = .initializing ∧ deadline ≤ s.now) := by
  simp only [Session.turned]
  by_cases busy : s.shared.lifecycle = .initializing
  · have late := why.resolve_left (by simp [busy])
    refine ⟨none, ?_, .inr ⟨rfl, busy, late⟩⟩
    rw [if_neg (by simp [busy]), if_pos late]
  · refine ⟨some s.shared, ?_, .inl ⟨rfl, busy⟩⟩
    rw [if_pos (by simpa using busy)]

/-- A task that looks at the client in vain waits. -/
theorem waiting_of_looks {before waited : List (Act State ε)}
    {k : Option State → Program State ε Unit} (unbegun : .step (.task i) ∉ before)
    (bounded : deadline = (s.run before).now + settings.initializationTimeout)
    (began : (s.run (before ++ [.step (.task i)])).tasks[i]? =
      some (.awaiting (fun s => s.lifecycle ≠ .initializing) deadline k))
    (quiet : s.taskTranscript i (before ++ [.step (.task i)]) = [])
    (along : Along (Session.Looks i (fun s : State => s.lifecycle ≠ .initializing) deadline)
      (s.run (before ++ [.step (.task i)])) waited)
    (still : ((s.run (before ++ [.step (.task i)])).run waited).tasks[i]? =
      some (.awaiting (fun s => s.lifecycle ≠ .initializing) deadline k))
    (silent : (s.run (before ++ [.step (.task i)])).taskTranscript i waited = []) :
    Waiting settings s i before waited deadline := by
  have split : before ++ .step (.task i) :: waited =
    before ++ [.step (.task i)] ++ waited := by simp
  have now : (s.run (before ++ [.step (.task i)])).now = (s.run before).now := by
    rw [Session.run_then, Session.act_now]
    rfl
  refine ⟨unbegun, bounded, along.mono fun s a looks own => ?_, ?_, ?_, fun punctual => ?_⟩
  · obtain ⟨unseen, early⟩ := looks own
    exact ⟨by simpa using unseen, early⟩
  · rw [split, Session.taskTranscript_append, quiet, silent, List.append_nil]
  · rw [split, Session.run_append, Session.enabled_awaiting still]
    simp
  · rw [split, Session.run_append]
    exact Session.awaits_in_time began (by omega) along punctual

/-- An operation waits from its first step on. -/
theorem waits (h : s.tasks[i]? =
      some (.ready ((gate settings o.action o.part).before (o.onward answered next))))
    (acts : List (Act State ε)) : Waits settings o answered next s i acts := by
  have deaf {open_ : Bool} {task' : Task State ε} (told : Session.Told open_
      (.ready ((gate settings o.action o.part).before (o.onward answered next))) task') :
      task' = .ready ((gate settings o.action o.part).before (o.onward answered next)) := by
    cases told
    rfl
  rcases Session.first_step deaf h acts with ⟨still, silent⟩ |
      ⟨before, rest, rfl, still, there, silent⟩
  · exact .unbegun still silent
  · rw [gate_before] at there
    have quiet := Session.silent_through there silent rfl
    have began := Session.act_own there
    rw [← Session.run_then] at began
    cases Session.awaits began rest with
    | still along waits said =>
      exact .waiting before rest _ rfl
        (waiting_of_looks still rfl began quiet along waits said)
    | ends waited after split along waits said why =>
      subst split
      have waiting := waiting_of_looks still rfl began quiet along waits said
      have joined : before ++ .step (.task i) :: waited =
        before ++ [.step (.task i)] ++ waited := by simp
      rw [← Session.run_append, ← joined] at waits why
      have last := Session.silent_through waits waiting.silent rfl
      have turned := Session.act_own waits
      rw [← Session.run_then] at turned
      obtain ⟨found, looked, seen⟩ := looks_end why
      rw [looked] at turned
      rcases checkState_ends seen with ⟨ends, goes⟩ | ⟨e, ends, goes⟩
      · rw [goes] at turned
        exact .passed before waited after _ (by simp) waiting ends last (checks turned after)
      · rw [goes] at turned
        exact .refused before waited after _ (by simp) waiting ends last turned

end Waits

/-! ### Every run -/

/-- A client that is initialized is in no handshake again. -/
theorem InOrder.initialized_run {hooks : Hooks ε} {s : Session State ε}
    {t : List Session.Traffic} (inOrder : InOrder settings hooks s t)
    (initialized : s.shared.lifecycle = .initialized) {acts : List (Act State ε)}
    (uses : Uses settings acts) : (s.run acts).shared.lifecycle ≠ .initializing := by
  have lasts : (s.run acts).shared.lifecycle = .initialized ∨
      (s.run acts).shared.lifecycle = .closed := by
    refine (inOrder.run_keeps (P := fun s _ => s.shared.lifecycle = .initialized ∨
      s.shared.lifecycle = .closed) (fun s _ act inOrder lasts => ?_) (.inl initialized) uses).2
    rcases (inOrder.standing.changes act).leads with same | leads
    · rw [same]
      exact lasts
    · right
      rcases lasts with initialized | closed
      · rw [initialized] at leads
        generalize (s.act act).shared.lifecycle = after at leads
        cases leads
        rfl
      · rw [closed] at leads
        generalize (s.act act).shared.lifecycle = after at leads
        cases leads
        rfl
  intro busy
  rw [busy] at lasts
  simp at lasts

/-- What a client promises about operations behind the gate, in a run. -/
structure WaitsOut (settings : Settings) (s : Session State ε) (acts : List (Act State ε)) :
    Prop where
  /-- An operation behind the gate waits, wherever it comes up in a run. -/
  waits {α : Type} {op : Operation ε α} {o : Opening} : Opens settings op o →
    ∀ {before later : List (Act State ε)} {i : Nat} {next : Except Error α → Program State ε Unit},
      acts = before ++ later → (s.run before).tasks[i]? = some (.ready (op.before next)) →
      ∃ answered, op.before next =
          (gate settings o.action o.part).before (o.onward answered next) ∧
        Waits settings o answered next (s.run before) i later
  /-- While a handshake is in flight the operation has said nothing, unless it failed before, and
  then it had said nothing. -/
  silent {α : Type} {op : Operation ε α} {o : Opening} : Opens settings op o →
    ∀ {before later : List (Act State ε)} {i : Nat} {next : Except Error α → Program State ε Unit},
      acts = before ++ later → (s.run before).tasks[i]? = some (.ready (op.before next)) →
      (s.run acts).shared.lifecycle = .initializing →
      (s.run before).taskTranscript i later = [] ∨
        ∃ upTo after e, later = upTo ++ after ∧ (s.run before).taskTranscript i upTo = [] ∧
          ((s.run before).run upTo).tasks[i]? = some (.ready (next (.error e)))

/-- The operations of a client wait out its handshakes, in every run. -/
theorem waits_out_handshakes {label : String} {hooks : Hooks ε} {link : Transport.Memory}
    {s : Session State ε} (named : label ≠ "") (h : start label settings hooks link = .ok s)
    {acts : List (Act State ε)} (uses : Uses settings acts) : WaitsOut settings s acts where
  waits := by
    intro α op o opens before later i next split there
    obtain ⟨answered, same⟩ := opens.begins next
    rw [same] at there
    exact ⟨answered, same, Client.waits there later⟩
  silent := by
    intro α op o opens before later i next split there busy
    subst split
    obtain ⟨answered, same⟩ := opens.begins next
    rw [same] at there
    obtain ⟨usesBefore, usesLater⟩ := uses.of_append
    have inOrder := inOrder_run named h usesBefore
    cases Client.waits there later with
    | unbegun _ silent => exact .inl silent
    | waiting _ _ _ split waiting =>
      subst split
      exact .inl waiting.silent
    | refused first waited after _ split _ _ silent failed =>
      refine .inr ⟨first ++ .step (.task i) :: waited ++ [.step (.task i)], after, _, ?_, silent,
        failed⟩
      rw [split]
      simp
    | passed first waited after _ split _ ends =>
      -- The client was initialized, so no handshake can be in flight at the end.
      have initialized :
          ((s.run before).run (first ++ .step (.task i) :: waited)).shared.lifecycle =
            .initialized := by
        cases ends
        assumption
      subst split
      rw [← List.append_assoc] at uses busy
      obtain ⟨usesFirst, usesAfter⟩ := uses.of_append
      rw [← Session.run_append] at initialized
      rw [Session.run_append] at busy
      exact absurd busy ((inOrder_run named h usesFirst).initialized_run initialized usesAfter)

/-- Two operations wait while a handshake fails and is tried again. The one that began earlier has
waited long enough before the second handshake succeeds; the other is let through after it. -/
theorem waits_out_handshakes_tried_again :
    ∃ (s : Session State String) (acts : List (Act State String)),
      start "sess" .default ⟨[], [], [], fun _ => ⟨[], none⟩⟩ .new = .ok s ∧
        Uses .default acts ∧ WaitsOut .default s acts ∧
        (s.run acts).log = ["listing tools"] ∧
        (s.run acts).link.sent.map Message.method? =
          [some "initialize", some "initialize", some "notifications/initialized",
            some "ping"] := by
  have started : start (ε := String) "sess" .default ⟨[], [], [], fun _ => ⟨[], none⟩⟩ .new =
    .ok _ := rfl
  have uses : Uses (ε := String) .default
      [.spawn ((handshake .default).before fun _ =>
          (handshake .default).before fun _ => .done ()),
        .spawn ((Listing.tools.all .default).before fun r =>
          .emit (match r with | .error (.notInitialized action) => action | _ => "") (.done ())),
        .spawn ((ping .default).before fun _ => .done ()),
        .step (.task 0), .step (.task 0), .step (.task 0), .step (.task 0), .step (.task 0),
        .step (.task 1), .advance 1, .step (.task 2),
        .inject (.response (.failure (some (.text "sess-1")) ⟨internalError, "not yet", none⟩)),
        .step .forwarder, .step .reader, .step (.task 0), .step (.task 0), .step (.task 0),
        .advance 29999, .step (.task 1), .step (.task 1), .step (.task 2),
        .step (.task 0), .step (.task 0), .step (.task 0), .step (.task 0),
        .inject (.response (.success (.text "sess-2")
          (Agreement.toJson ⟨"2025-03-26", ⟨none, none, none, none, some (.obj [])⟩,
            ⟨"server", "1"⟩, none⟩))),
        .step .forwarder, .step .reader, .step (.task 0), .step (.task 0), .step (.task 0),
        .step (.task 0), .step (.task 0), .step (.task 2), .step (.task 2), .step (.task 2),
        .step (.task 2), .step (.task 2)] := by
    intro p there
    simp only [List.mem_cons, Act.spawn.injEq, reduceCtorEq, List.not_mem_nil, or_false] at there
    rcases there with rfl | rfl | rfl
    · exact .operation .handshake fun _ => .operation .handshake fun _ => .done
    · exact .operation (.all .tools) fun _ => .emit .done
    · exact .operation .ping fun _ => .done
  exact ⟨_, _, started, uses, waits_out_handshakes (by decide) started uses, rfl, rfl⟩

end Mcp.Client
