import Mcp.Client.Hooks
import Mcp.Proofs.Client.Handshake

/-!
The programs that run on a client. `Use` says which there are: programs made of the client's
operations. All of them are guests (`Guest`): they send no request before they have seen the client
initialized, then such requests only as the agreement permits, and they change the state that they
share by handshakes and closes only.
-/

namespace Mcp.Client

open Program.Operation
open Schema
open Session (CallStage CloseStage Call Task Told)

variable {ε α : Type}

/-! ### What an agreement permits -/

/-- What an agreement permits to ask: no other handshake, and what is about tools or resources only
if the server offers them. -/
structure Permits (a : Agreement) (method : String) : Prop where
  other : method ≠ "initialize"
  tools : "tools/".toList <+: method.toList → a.capabilities.offers .tools = true
  resources : "resources/".toList <+: method.toList → a.capabilities.offers .resources = true

/-- A request about a part is permitted by every agreement that offers the part. -/
def About (part : Option Capability) (method : String) : Prop :=
  ∀ a : Agreement, (∀ c, part = some c → a.capabilities.offers c = true) → Permits a method

theorem about_tools {method : String} (other : method ≠ "initialize")
    (resources : ¬ "resources/".toList <+: method.toList) : About (some .tools) method :=
  fun _ offers => ⟨other, fun _ => offers .tools rfl, fun about => absurd about resources⟩

theorem about_resources {method : String} (other : method ≠ "initialize")
    (tools : ¬ "tools/".toList <+: method.toList) : About (some .resources) method :=
  fun _ offers => ⟨other, fun about => absurd about tools, fun _ => offers .resources rfl⟩

theorem about_none {method : String} (other : method ≠ "initialize")
    (tools : ¬ "tools/".toList <+: method.toList)
    (resources : ¬ "resources/".toList <+: method.toList) : About none method :=
  fun _ _ => ⟨other, fun about => absurd about tools, fun about => absurd about resources⟩

/-! ### Guests -/

/-- A program that may run on a client for which an agreement stands, or none. -/
inductive Guest (settings : Settings) : Option Agreement → Program State ε Unit → Prop
  | done {k : Option Agreement} : Guest settings k (.done ())
  | request {a : Agreement} {method : String} {params : Json} {timeout : Option Nat}
      {next : Except Error Json → Program State ε Unit} : Permits a method →
      (∀ r, Guest settings (some a) (next r)) →
      Guest settings (some a) (.request method params timeout next)
  | respond {k : Option Agreement} {response : Response}
      {next : Except Error Unit → Program State ε Unit} : (∀ r, Guest settings k (next r)) →
      Guest settings k (.respond response next)
  | sleep {k : Option Agreement} {milliseconds : Nat} {next : Program State ε Unit} :
      Guest settings k next → Guest settings k (.sleep milliseconds next)
  | now {k : Option Agreement} {next : Nat → Program State ε Unit} :
      (∀ time, Guest settings k (next time)) → Guest settings k (.now next)
  | emit {k : Option Agreement} {event : ε} {next : Program State ε Unit} :
      Guest settings k next → Guest settings k (.emit event next)
  | health {k : Option Agreement} {next : Except Error Unit → Program State ε Unit} :
      (∀ r, Guest settings k (next r)) → Guest settings k (.health next)
  | close {k : Option Agreement} {graceful : Bool}
      {next : Except Error Unit → Program State ε Unit} : (∀ r, Guest settings k (next r)) →
      Guest settings k (.close graceful next)
  /-- It looks at the state, which has the agreement that stands. -/
  | look {k : Option Agreement} {next : State → Program State ε Unit} :
      (∀ s, (∀ a, k = some a → s.agreement = some a) → Guest settings k (next s)) →
      Guest settings k (.update id next)
  | retire {k : Option Agreement} {next : State → Program State ε Unit} :
      (∀ s, Guest settings k (next s)) → Guest settings k (.update State.close next)
  /-- It waits for a state; an initialized client has an agreement. -/
  | await {k : Option Agreement} {wanted : State → Bool} {timeout : Nat}
      {next : Option State → Program State ε Unit} :
      (∀ s a, s.lifecycle = .initialized → s.agreement = some a →
        Guest settings (some a) (next (some s))) →
      (∀ s, s.lifecycle ≠ .initialized → Guest settings k (next (some s))) →
      Guest settings k (next none) → Guest settings k (.await wanted timeout next)
  | handshake {k : Option Agreement} {next : Except Error Agreement → Program State ε Unit} :
      (∀ r, Guest settings k (next r)) →
      Guest settings k (.update State.beginHandshake (Stage.open_ next settings))

/-- What may run where no agreement stands may run where one does. -/
theorem Guest.mono {settings : Settings} {p : Program State ε Unit}
    (guest : Guest settings none p) (k : Option Agreement) : Guest settings k p := by
  generalize nothing : (none : Option Agreement) = before at guest
  induction guest with
  | done => exact .done
  | request => cases nothing
  | respond _ ih => exact .respond fun r => ih r nothing
  | sleep _ ih => exact .sleep (ih nothing)
  | now _ ih => exact .now fun time => ih time nothing
  | emit _ ih => exact .emit (ih nothing)
  | health _ ih => exact .health fun r => ih r nothing
  | close _ ih => exact .close fun r => ih r nothing
  | look _ ih =>
    subst nothing
    exact .look fun s _ => ih s (by simp) rfl
  | retire _ ih => exact .retire fun s => ih s nothing
  | await stands _ _ _ ihOther ihNone =>
    exact .await stands (fun s other => ihOther s other nothing) (ihNone nothing)
  | handshake _ ih => exact .handshake fun r => ih r nothing

/-! ### The operations of a client -/

section Operations

variable {settings : Settings}

/-- The gate lets a program on only if the client is initialized and the server offers the part. -/
theorem Guest.gate {action : String} {part : Option Capability}
    {next : Except Error Unit → Program State ε Unit}
    (passed : ∀ a, (∀ c, part = some c → a.capabilities.offers c = true) →
      Guest settings (some a) (next (.ok ())))
    (refused : ∀ e, Guest settings none (next (.error e))) :
    Guest settings none ((gate settings action part).before next) := by
  simp only [Client.gate, requireInitialized, before_bind, before_await]
  refine .await (fun s a initialized stands => ?_) (fun s other => ?_) (refused _)
  · simp only [onSuccess_ok, Option.map_some, initialized, before_pure]
    cases part with
    | none => exact passed a (by simp)
    | some c =>
      simp only [before_bind, before_shared, onSuccess_ok, before_ite, before_pure, before_throw]
      refine .look fun s stands => ?_
      split
      · rename_i capable
        refine passed a fun c' same => ?_
        cases same
        simpa [State.capable, stands a rfl] using capable
      · exact (refused _).mono _
  · cases lifecycle : s.lifecycle with
    | initialized => exact absurd lifecycle other
    | closed =>
      simp only [onSuccess_ok, Option.map_some, lifecycle, before_throw, onSuccess_error]
      exact refused _
    | uninitialized | initializing | failed =>
      simp only [onSuccess_ok, Option.map_some, lifecycle, before_throw, onSuccess_error]
      exact refused _

theorem Guest.ask {action method : String} {part : Option Capability} {read : Json.Reader α}
    {params : Json} {next : Except Error α → Program State ε Unit} (about : About part method)
    (goes : ∀ r, Guest settings none (next r)) :
    Guest settings none ((ask settings action part read method params).before next) := by
  simp only [Client.ask, before_bind]
  refine .gate (fun a offers => ?_) fun e => goes (.error e)
  simp only [onSuccess_ok, before_call]
  exact .request (about a offers) fun r => (goes _).mono _

/-- The lists that a client fetches. -/
inductive Listed : {α : Type} → Listing α → Prop
  | tools : Listed .tools
  | resources : Listed .resources
  | templates : Listed .templates
  | prompts : Listed .prompts

theorem Listed.about {l : Listing α} (listed : Listed l) : About l.part l.method := by
  cases listed with
  | tools => exact about_tools (by decide) (by decide)
  | resources | templates => exact about_resources (by decide) (by decide)
  | prompts => exact about_none (by decide) (by decide) (by decide)

theorem Guest.page {l : Listing α} (listed : Listed l) {cursor : Option String}
    {next : Except Error (Page α) → Program State ε Unit}
    (goes : ∀ r, Guest settings none (next r)) :
    Guest settings none ((l.page settings cursor).before next) := .ask listed.about goes

/-- Each page of a list is asked for behind the gate. -/
theorem Guest.follow {l : Listing α} (listed : Listed l) (limit : Nat) (seen : List String)
    (cursor : Option String) {next : Except Error (List α) → Program State ε Unit}
    (goes : ∀ r, Guest settings none (next r)) :
    Guest settings none
      (before (Client.follow (m := Program State ε) (l.page settings) limit seen cursor) next) := by
  induction limit generalizing seen cursor next with
  | zero => exact goes _
  | succ limit ih =>
    simp only [Client.follow, before_bind]
    refine .page listed fun r => ?_
    cases r with
    | error e => exact goes _
    | ok page =>
      simp only [onSuccess_ok]
      split
      · exact goes _
      · simp only [before_ite, before_pure, before_throw]
        split
        · exact goes _
        · split
          · exact goes _
          · simp only [before_bind]
            refine ih _ _ fun r => ?_
            cases r <;> exact goes _

theorem Guest.all {l : Listing α} (listed : Listed l)
    {next : Except Error (List α) → Program State ε Unit}
    (goes : ∀ r, Guest settings none (next r)) :
    Guest settings none ((l.all settings).before next) := .follow listed maxPages [] none goes

/-- The operations that a client offers. -/
inductive Offers (settings : Settings) : {α : Type} → Operation ε α → Prop
  | handshake : Offers settings (handshake settings)
  | ping : Offers settings (ping settings)
  | health : Offers settings (checkHealth settings)
  | page {α : Type} {l : Listing α} {cursor : Option String} : Listed l →
      Offers settings (l.page settings cursor)
  | all {α : Type} {l : Listing α} : Listed l → Offers settings (l.all settings)
  | callTool {call : ToolCall} : Offers settings (callTool settings call)
  | readResource {uri : String} : Offers settings (readResource settings uri)
  | getPrompt {request : PromptRequest} : Offers settings (getPrompt settings request)
  | close {graceful : Bool} : Offers settings (close graceful)

theorem Guest.ping {next : Except Error Unit → Program State ε Unit}
    (goes : ∀ r, Guest settings none (next r)) :
    Guest settings none ((ping settings).before next) := by
  simp only [Client.ping, before_bind]
  refine .ask (about_none (by decide) (by decide) (by decide)) fun r => ?_
  cases r <;> exact goes _

/-- Every operation is a guest, if what goes on with its result is one. -/
theorem Offers.guest {op : Operation ε α} (offers : Offers settings op)
    {next : Except Error α → Program State ε Unit} (goes : ∀ r, Guest settings none (next r)) :
    Guest settings none (op.before next) := by
  cases offers with
  | handshake =>
    rw [handshake_before]
    exact .handshake goes
  | ping => exact .ping goes
  | health =>
    simp only [checkHealth, before_bind, before_health]
    refine .health fun r => ?_
    cases r with
    | ok => exact .ping goes
    | error e => exact goes _
  | page listed => exact .page listed goes
  | all listed => exact .all listed goes
  | callTool => exact .ask (about_tools (by decide) (by decide)) goes
  | readResource => exact .ask (about_resources (by decide) (by decide)) goes
  | getPrompt => exact .ask (about_none (by decide) (by decide) (by decide)) goes
  | close =>
    simp only [Client.close, before_bind, before_update, onSuccess_ok, before_close]
    exact .retire fun _ => .close goes

end Operations

/-! ### What runs on a client -/

/-- A use of a client: a program made of its operations, which may also look at what is known of
the server, at the time, and record events. -/
inductive Use (settings : Settings) : Program State ε Unit → Prop
  | done : Use settings (.done ())
  | operation {α : Type} {op : Operation ε α} {next : Except Error α → Program State ε Unit} :
      Offers settings op → (∀ r, Use settings (next r)) → Use settings (op.before next)
  | look {next : State → Program State ε Unit} : (∀ s, Use settings (next s)) →
      Use settings (.update id next)
  | sleep {milliseconds : Nat} {next : Program State ε Unit} : Use settings next →
      Use settings (.sleep milliseconds next)
  | now {next : Nat → Program State ε Unit} : (∀ time, Use settings (next time)) →
      Use settings (.now next)
  | emit {event : ε} {next : Program State ε Unit} : Use settings next →
      Use settings (.emit event next)

theorem Use.guest {settings : Settings} {p : Program State ε Unit} (use : Use settings p) :
    Guest settings none p := by
  induction use with
  | done => exact .done
  | operation offers _ ih => exact offers.guest ih
  | look _ ih => exact .look fun s _ => ih s
  | sleep _ ih => exact .sleep ih
  | now _ ih => exact .now ih
  | emit _ ih => exact .emit ih

theorem emitAll_guest {settings : Settings} (k : Option Agreement) (events : List ε) :
    Guest settings k (emitAll events) := by
  induction events with
  | nil => exact .done
  | cons e events ih => exact .emit ih

/-- What a client does of itself is a guest, too: it answers, fetches lists and records events. -/
theorem refresh_guest {settings : Settings} {l : Listing α} (listed : Listed l)
    (consumers : List (Consumer ε α)) : Guest settings none (refresh settings l consumers) := by
  unfold refresh
  split
  · exact .done
  · refine Guest.all listed fun r => ?_
    cases r with
    | ok items => exact emitAll_guest ..
    | error e => exact .done

theorem act_guest {settings : Settings} {hooks : Hooks ε} {n : Notification}
    {p : Program State ε Unit} (h : (handlers settings hooks).act n = some p) :
    Guest settings none p := by
  obtain ⟨run, found, rfl⟩ := Option.map_eq_some_iff.mp h
  obtain ⟨before, after, all, -⟩ := List.lookup_eq_some_iff.mp found
  have listed : (n.method, run) ∈ (handlers settings hooks).notifications := by
    rw [all]
    simp
  simp only [handlers, Session.Handlers.onNotification, Session.Handlers.onRequest,
    Session.Handlers.none, List.mem_cons, Prod.mk.injEq, List.not_mem_nil, or_false] at listed
  rcases listed with ⟨-, rfl⟩ | ⟨-, rfl⟩ | ⟨-, rfl⟩ | ⟨-, rfl⟩
  · simp only [deliverLog]
    split
    · exact emitAll_guest ..
    · exact .done
  · exact refresh_guest .prompts _
  · exact refresh_guest .resources _
  · exact refresh_guest .tools _

theorem answer_guest {settings : Settings} {hooks : Hooks ε} (r : Request) :
    Guest settings none ((handlers settings hooks).answer r) := by
  have answers (response : Response) :
      Guest settings (ε := ε) none (.respond response fun _ => .done ()) :=
    .respond fun _ => .done
  unfold Session.Handlers.answer
  split
  · rename_i run found
    obtain ⟨before, after, all, -⟩ := List.lookup_eq_some_iff.mp found
    have listed : (r.method, run) ∈ (handlers settings hooks).requests := by
      rw [all]
      simp
    simp only [handlers, Session.Handlers.onNotification, Session.Handlers.onRequest,
      Session.Handlers.none, List.mem_cons, Prod.mk.injEq, List.not_mem_nil, or_false] at listed
    rcases listed with ⟨-, rfl⟩ | ⟨-, rfl⟩
    · exact answers _
    · exact answers _
  · exact answers _

end Mcp.Client
