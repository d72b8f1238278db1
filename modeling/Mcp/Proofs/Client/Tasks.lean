import Mcp.Proofs.Client.Guests
import Mcp.Proofs.Client.Transcript

/-!
The tasks of a client and what their own steps do. A task is in the course of a guest's program
(`Polite`) or at a stage of a handshake (`Shakes`). A polite task stays so and says nothing but what
is harmless, unless it closes the client or begins a handshake (`Proceeds`); a handshake goes from
stage to stage (`Advances`).
-/

namespace Mcp.Client

open Schema (Agreement)
open Session (Act Call CallStage CloseStage Task Told Traffic)

variable {ε : Type} {settings : Settings} {heralded heralded' : Prop} {k : Option Agreement}

/-! ### Polite tasks -/

/-- A task in the course of a guest's program, on a client for which an agreement stands, or none.
A request is on its way only if the agreement permits it and was announced. -/
inductive Polite (settings : Settings) (heralded : Prop) : Option Agreement → Task State ε → Prop
  | ready {k : Option Agreement} {p : Program State ε Unit} : Guest settings k p →
      Polite settings heralded k (.ready p)
  | sending {k : Option Agreement} {r : Response}
      {next : Except Error Unit → Program State ε Unit} :
      (∀ result, Guest settings k (next result)) →
      Polite settings heralded k (.sending (.response r) next)
  | calling {a : Agreement} {call : Call} {stage : CallStage}
      {next : Except Error Json → Program State ε Unit} : Permits a call.method → heralded →
      (∀ r, Guest settings (some a) (next r)) →
      Polite settings heralded (some a) (.calling call stage next)
  | sleeping {k : Option Agreement} {deadline : Nat} {next : Program State ε Unit} :
      Guest settings k next → Polite settings heralded k (.sleeping deadline next)
  | awaiting {k : Option Agreement} {wanted : State → Bool} {deadline : Nat}
      {next : Option State → Program State ε Unit} :
      (∀ s a, s.lifecycle = .initialized → s.agreement = some a →
        Guest settings (some a) (next (some s))) →
      (∀ s, s.lifecycle ≠ .initialized → Guest settings k (next (some s))) →
      Guest settings k (next none) → Polite settings heralded k (.awaiting wanted deadline next)
  | closing {k : Option Agreement} {stage : CloseStage}
      {next : Except Error Unit → Program State ε Unit} : (∀ r, Guest settings k (next r)) →
      Polite settings heralded k (.closing stage next)

/-- A task that is polite where no agreement stands is polite where one does. -/
theorem Polite.mono {task : Task State ε} (polite : Polite settings heralded none task)
    (heralded' : Prop) (k : Option Agreement) : Polite settings heralded' k task := by
  cases polite with
  | ready guest => exact .ready (guest.mono k)
  | sending guest => exact .sending fun r => (guest r).mono k
  | sleeping guest => exact .sleeping (guest.mono k)
  | awaiting stands other timeout =>
    exact .awaiting stands (fun s h => (other s h).mono k) (timeout.mono k)
  | closing guest => exact .closing fun r => (guest r).mono k

theorem Polite.imp {task : Task State ε} (polite : Polite settings heralded k task)
    (h : heralded → heralded') : Polite settings heralded' k task := by
  cases polite with
  | ready guest => exact .ready guest
  | sending guest => exact .sending guest
  | calling permits there guest => exact .calling permits (h there) guest
  | sleeping guest => exact .sleeping guest
  | awaiting stands other timeout => exact .awaiting stands other timeout
  | closing guest => exact .closing guest

theorem Polite.told {open_ : Bool} {task task' : Task State ε}
    (polite : Polite settings heralded k task) (told : Told open_ task task') :
    Polite settings heralded k task' := by
  cases told with
  | same => exact polite
  | news =>
    cases polite with
    | calling permits there guest => exact .calling permits there guest
  | watching | parked =>
    cases polite with
    | closing guest => exact .closing guest

/-- What polite tasks say: answers to the peer, and requests that the agreement that stands permits,
once it was announced. -/
inductive Harmless (heralded : Prop) (k : Option Agreement) : Traffic → Prop
  | response {r : Response} {result : Except Error Unit} :
      Harmless heralded k (.offered (.response r) result)
  | request {a : Agreement} {r : Request} {result : Except Error Unit} : k = some a →
      Permits a r.method → heralded → Harmless heralded k (.offered (.request r) result)

theorem Harmless.asks {x : Traffic} (harmless : Harmless heralded k x) : asks [x] = [] := by
  cases harmless with
  | response => rfl
  | request _ permits => simp [Client.asks, askId?, permits.other]

theorem Harmless.attempts {x : Traffic} (harmless : Harmless heralded k x) : attempts [x] = 0 := by
  cases harmless <;> rfl

/-- The own step of a polite task that stays so: it may close the client, and it says nothing but
what is harmless. -/
structure Minds (settings : Settings) (heralded : Prop) (s : Session State ε)
    (k : Option Agreement) (task : Task State ε) : Prop where
  polite : Polite settings heralded k (s.turned task)
  agreement : (s.changed task).agreement = s.shared.agreement
  lifecycle : (s.changed task).lifecycle = s.shared.lifecycle ∨
    (s.changed task).lifecycle = .closed
  harmless : ∀ x, s.taskTraffic task = some x → Harmless heralded k x

/-- The own step of a task that begins a handshake, after which it goes on as `next` says. -/
structure Begins (settings : Settings) (s : Session State ε) (k : Option Agreement)
    (task : Task State ε) (next : Except Error Agreement → Program State ε Unit) : Prop where
  free : refusal s.shared.lifecycle = none
  goes : ∀ r, Guest settings k (next r)
  turned : s.turned task = .ready (Stage.asking.program next settings)
  changed : s.changed task = s.shared.beginHandshake
  silent : s.taskTraffic task = none

/-- What the own step of a polite task does. -/
inductive Proceeds (settings : Settings) (heralded : Prop) (s : Session State ε)
    (k : Option Agreement) (task : Task State ε) : Prop
  | minds : Minds settings heralded s k task → Proceeds settings heralded s k task
  | begins {next : Except Error Agreement → Program State ε Unit} :
      Begins settings s k task next → Proceeds settings heralded s k task

section Proceeds

variable {s : Session State ε}

theorem Minds.of_same {task task' : Task State ε} (turned : s.turned task = task')
    (polite : Polite settings heralded k task') (same : s.changed task = s.shared)
    (harmless : ∀ x, s.taskTraffic task = some x → Harmless heralded k x) :
    Minds settings heralded s k task :=
  ⟨turned ▸ polite, by rw [same], .inl (by rw [same]), harmless⟩

theorem Guest.proceeds {p : Program State ε Unit} (guest : Guest settings k p)
    (stands : ∀ a, k = some a → s.shared.agreement = some a)
    (heralds : ∀ a, k = some a → s.stopped = false → heralded) :
    Proceeds settings heralded s k (.ready p) := by
  have on {task : Task State ε} (turned : s.turned (.ready p) = task)
      (polite : Polite settings heralded k task) (same : s.changed (.ready p) = s.shared)
      (quiet : s.taskTraffic (.ready p) = none) : Proceeds settings heralded s k (.ready p) :=
    .minds (.of_same turned polite same (by simp [quiet]))
  cases guest with
  | done => exact on rfl (.ready .done) rfl rfl
  | @request a method params timeout next permits goes =>
    cases stopped : s.stopped with
    | true => exact on (if_pos stopped) (.ready (goes _)) rfl rfl
    | false =>
      exact on (if_neg (by simp [stopped])) (.calling permits (heralds a rfl stopped) goes) rfl rfl
  | respond goes => exact on rfl (.sending goes) rfl rfl
  | sleep goes => exact on rfl (.sleeping goes) rfl rfl
  | now goes => exact on rfl (.ready (goes _)) rfl rfl
  | emit goes => exact on rfl (.ready goes) rfl rfl
  | health goes => exact on rfl (.ready (goes _)) rfl rfl
  | close goes => exact on rfl (.closing goes) rfl rfl
  | look goes => exact on rfl (.ready (goes _ stands)) rfl rfl
  | retire goes => exact .minds ⟨.ready (goes _), rfl, .inr rfl, by rintro _ ⟨⟩⟩
  | await known other timeout => exact on rfl (.awaiting known other timeout) rfl rfl
  | @handshake _ next goes =>
    have turned : s.turned (.ready (.update State.beginHandshake (Stage.open_ next settings))) =
      .ready (Stage.open_ next settings s.shared) := rfl
    unfold Stage.open_ at turned
    cases refused : refusal s.shared.lifecycle with
    | none =>
      rw [refused] at turned
      exact .begins ⟨refused, goes, turned, rfl, rfl⟩
    | some e =>
      rw [refused] at turned
      exact on turned (.ready (goes _)) (beginHandshake_refused refused) rfl

/-- The own step of a polite task. -/
theorem Polite.proceeds {task : Task State ε} (polite : Polite settings heralded k task)
    (stands : ∀ a, k = some a → s.shared.agreement = some a)
    (initialized : s.shared.lifecycle = .initialized → ∃ a, k = some a)
    (heralds : ∀ a, k = some a → s.stopped = false → heralded) :
    Proceeds settings heralded s k task := by
  have quiet {task task' : Task State ε} (turned : s.turned task = task')
      (polite : Polite settings heralded k task') (same : s.changed task = s.shared)
      (quiet : s.taskTraffic task = none) : Proceeds settings heralded s k task :=
    .minds (.of_same turned polite same (by simp [quiet]))
  cases polite with
  | ready guest => exact guest.proceeds stands heralds
  | sending goes =>
    refine .minds (.of_same rfl (.ready (goes _)) rfl fun x hx => ?_)
    cases hx
    exact .response
  | @calling a call stage next permits there goes =>
    cases stage with
    | admitted => exact quiet rfl (.calling permits there goes) rfl rfl
    | registered => exact quiet rfl (.calling permits there goes) rfl rfl
    | confirmed =>
      refine .minds (.of_same rfl ?_ rfl fun x hx => ?_)
      · simp only [Session.turned, Session.calledOn]
        split <;> exact .calling permits there goes
      · cases hx
        exact .request rfl permits there
    | waiting deadline =>
      refine quiet rfl ?_ rfl rfl
      simp only [Session.turned, Session.calledOn]
      split
      · exact .ready (goes _)
      · split <;> exact .calling permits there goes
    | withdrawing e => exact quiet rfl (.ready (goes _)) rfl rfl
  | sleeping goes =>
    refine quiet rfl ?_ rfl rfl
    simp only [Session.turned]
    split
    · exact .ready goes
    · exact .sleeping goes
  | awaiting known other timeout =>
    refine quiet rfl ?_ rfl rfl
    simp only [Session.turned]
    split
    · by_cases ready : s.shared.lifecycle = .initialized
      · obtain ⟨a, rfl⟩ := initialized ready
        exact .ready (known _ a ready (stands a rfl))
      · exact .ready (other _ ready)
    · split
      · exact .ready timeout
      · exact .awaiting known other timeout
  | closing goes =>
    refine quiet rfl ?_ rfl rfl
    simp only [Session.turned, Session.closedOn]
    split
    · exact .closing goes
    · exact .ready (goes _)

end Proceeds

/-! ### Handshakes -/

section Shakes

variable {next : Except Error Agreement → Program State ε Unit} {stage : Stage}
  {s : Session State ε} {t : List Traffic} {task : Task State ε}

theorem Shakes.told {open_ : Bool} {task' : Task State ε} (shakes : Shakes settings next stage task)
    (told : Told open_ task task') : Shakes settings next stage task' := by
  cases told with
  | same => exact shakes
  | news =>
    cases shakes with
    | calling method => exact .calling method
  | watching | parked => cases shakes

/-- A handshake that waits for its answer is the last one that was asked for. -/
def Asked (t : List Traffic) (task : Task State ε) : Prop :=
  ∀ call deadline next, task = .calling call (.waiting deadline) next →
    (asks t).getLast? = some (.text call.id) ∧ .offered call.message (.ok ()) ∈ t

/-- An answer that a task's request has was heard. -/
def Heard (t : List Traffic) (task : Task State ε) : Prop :=
  ∀ call callStage next answer, task = .calling call callStage next →
    call.slot = .answered answer →
    ∃ r, .heard (.response r) ∈ t ∧ r.id = some (.text call.id) ∧ r.answer = answer

theorem verdict_ok {answer : Except Error Json} {a : Agreement} (h : verdict answer = .ok a) :
    ∃ value, answer = .ok value ∧ unmarshal Agreement.reader value = .ok a ∧
      a.isSupported = true := by
  unfold verdict at h
  split at h
  · cases h
  · rename_i read
    split at h
    · rename_i supported
      cases h
      cases answer with
      | error e => cases read
      | ok value => exact ⟨value, rfl, read, supported⟩
    · cases h

/-- An outcome that is no error was an answer. -/
theorem answered_of_outcome {slot : Session.Slot} {value : Json}
    (h : slot.outcome? = some (.ok value)) : slot = .answered (.ok value) := by
  cases slot with
  | empty => cases h
  | dropped => cases h
  | answered answer =>
    cases answer with
    | ok v =>
      cases h
      rfl
    | error e => cases h

/-- A task that asks goes on asking, or comes to a verdict on what was answered to the last
handshake that was asked for. -/
inductive Asks (settings : Settings) (next : Except Error Agreement → Program State ε Unit)
    (s : Session State ε) (t : List Traffic) (task : Task State ε) : Prop
  | on : Shakes settings next .asking (s.turned task) →
      Asked (t ++ (s.taskTraffic task).toList) (s.turned task) →
      attempts (s.taskTraffic task).toList = 0 → Asks settings next s t task
  | judge (answer : Except Error Json) :
      s.turned task = .ready ((Stage.judged answer).program next settings) →
      s.taskTraffic task = none → (∀ a, verdict answer = .ok a → AnswersLast t a) →
      Asks settings next s t task

/-- A handshake that was not answered fails. -/
theorem Asks.of_error {e : Error} (turned : s.turned task = .ready (Stage.judge next (.error e)))
    (silent : s.taskTraffic task = none) : Asks settings next s t task := by
  refine .judge (.error e) ?_ silent ?_
  · rw [turned, Stage.judge_eq settings]
  · intro a h
    obtain ⟨_, same, _⟩ := verdict_ok h
    cases same

theorem asks_ready : Asks settings next s t (.ready (Stage.asking.program next settings)) := by
  cases stopped : s.stopped with
  | true => exact .of_error (if_pos stopped) rfl
  | false =>
    have turned : s.turned (.ready (Stage.asking.program next settings)) = .calling
        ⟨s.freshId, "initialize", settings.offer.toJson, s.timeouts.request, .empty⟩ .admitted
        (Stage.judge next) := if_neg (by simp [stopped])
    refine .on ?_ ?_ rfl
    · rw [turned]
      exact .calling rfl
    · rw [turned]
      rintro _ _ _ ⟨⟩

section Calling

variable {call : Call}

/-- The handshake is asked for. -/
theorem asks_confirmed (method : call.method = "initialize") :
    Asks settings next s t (.calling call .confirmed (Stage.judge next)) := by
  have traffic : s.taskTraffic (.calling call .confirmed (Stage.judge next)) =
    some (.offered call.message (s.link.send call.message).1) := rfl
  have ask (result : Except Error Unit) :
      asks [.offered call.message result] = [.text call.id] := by
    simp [asks, askId?, Call.message, Request.new, method]
  refine .on ?_ ?_ rfl
  · simp only [Session.turned, Session.calledOn]
    split <;> exact .calling method
  · rw [traffic]
    intro _ _ _ same
    simp only [Session.turned, Session.calledOn] at same
    split at same
    · rename_i sent
      cases same
      rw [sent, Option.toList_some, asks_append, ask, List.getLast?_concat]
      exact ⟨rfl, List.mem_append_right _ List.mem_cons_self⟩
    · cases same

/-- A handshake that was asked for waits for its answer, and is judged by it. -/
theorem asks_waiting {deadline : Nat} (method : call.method = "initialize")
    (asked : Asked t (.calling call (.waiting deadline) (Stage.judge next)))
    (heard : Heard t (.calling call (.waiting deadline) (Stage.judge next))) :
    Asks settings next s t (.calling call (.waiting deadline) (Stage.judge next)) := by
  obtain ⟨last, offered⟩ := asked _ _ _ rfl
  cases out : call.slot.outcome? with
  | some outcome =>
    refine .judge outcome ?_ rfl fun a h => ?_
    · simp only [Session.turned, Session.calledOn, out, Stage.judge_eq settings]
    · obtain ⟨value, rfl, read, supported⟩ := verdict_ok h
      obtain ⟨r, there, own, answer⟩ := heard _ _ _ _ rfl (answered_of_outcome out)
      refine ⟨.text call.id, last, ⟨call.params.given, ?_⟩,
        ⟨r, value, there, own, answer, read⟩, supported⟩
      rw [← method]
      exact offered
  | none =>
    have silent : s.taskTraffic (.calling call (.waiting deadline) (Stage.judge next)) = none := rfl
    refine .on ?_ ?_ rfl
    · simp only [Session.turned, Session.calledOn, out]
      split <;> exact .calling method
    · rw [silent, Option.toList_none, List.append_nil]
      intro _ _ _ same
      simp only [Session.turned, Session.calledOn, out] at same
      split at same
      · cases same
      · cases same
        exact ⟨last, offered⟩

end Calling

theorem Shakes.asks (shakes : Shakes settings next .asking task) (asked : Asked t task)
    (heard : Heard t task) : Asks settings next s t task := by
  generalize asking : Stage.asking = stage at shakes
  cases shakes with
  | sending => cases asking
  | ready =>
    subst asking
    exact asks_ready
  | @calling call callStage method =>
    cases callStage with
    | admitted => exact .on (.calling method) (by rintro _ _ _ ⟨⟩) rfl
    | registered =>
      refine .on (.calling method) ?_ rfl
      intro _ _ _ same
      simp only [Session.turned, Session.calledOn] at same
      split at same <;> cases same
    | confirmed => exact asks_confirmed method
    | waiting => exact asks_waiting method asked heard
    | withdrawing => exact .of_error rfl rfl

/-- What the own step of a task at a stage of a handshake does. -/
inductive Advances (settings : Settings) (next : Except Error Agreement → Program State ε Unit)
    (s : Session State ε) (t : List Traffic) (task : Task State ε) : Stage → Prop
  | asks : Asks settings next s t task → s.changed task = s.shared →
      Advances settings next s t task .asking
  | fails {e : Error} : s.turned task = .ready (next (.error e)) →
      s.changed task = s.shared.endHandshake .failed → s.taskTraffic task = none →
      Advances settings next s t task (.failing e)
  | keeps {a : Agreement} : s.turned task = .ready ((Stage.announcing a).program next settings) →
      s.changed task = s.shared.agree a → s.taskTraffic task = none →
      Advances settings next s t task (.accepting a)
  /-- The announcement is on its way to the transport. -/
  | announces {a : Agreement} : Shakes settings next (.announcing a) (s.turned task) →
      s.changed task = s.shared → s.taskTraffic task = none →
      Advances settings next s t task (.announcing a)
  | announced {a : Agreement} {result : Except Error Unit} :
      s.turned task = .ready ((Stage.ending a).program next settings) →
      s.changed task = s.shared → s.taskTraffic task = some (.offered announcement result) →
      Advances settings next s t task (.announcing a)
  /-- A closed session does not take the announcement. -/
  | withheld {a : Agreement} : s.stopped = true →
      s.turned task = .ready ((Stage.ending a).program next settings) →
      s.changed task = s.shared →
      s.taskTraffic task = some (.withheld "notifications/initialized") →
      Advances settings next s t task (.announcing a)
  | ends {a : Agreement} : s.turned task = .ready (next (.ok a)) →
      s.changed task = s.shared.endHandshake .initialized → s.taskTraffic task = none →
      Advances settings next s t task (.ending a)

theorem Shakes.advances (shakes : Shakes settings next stage task)
    (asked : stage = .asking → Asked t task) (heard : Heard t task) :
    Advances settings next s t task stage := by
  cases shakes with
  | ready =>
    cases stage with
    | asking => exact .asks (Shakes.ready.asks (asked rfl) heard) rfl
    | failing e => exact .fails rfl rfl rfl
    | accepting a => exact .keeps rfl rfl rfl
    | announcing a =>
      cases stopped : s.stopped with
      | true => exact .withheld stopped (if_pos stopped) rfl (if_pos stopped)
      | false =>
        refine .announces ?_ rfl (if_neg (by simp [stopped]))
        have turned : s.turned (.ready ((Stage.announcing a).program next settings)) =
          .sending announcement fun _ => Stage.end_ next a := if_neg (by simp [stopped])
        rw [turned]
        exact .sending
    | ending a => exact .ends rfl rfl rfl
  | @calling call callStage method =>
    exact .asks ((Shakes.calling method).asks (asked rfl) heard) rfl
  | sending => exact .announced rfl rfl rfl

end Shakes

/-- A task is in the course of a handshake. -/
def Shaking (settings : Settings) (task : Task State ε) : Prop :=
  ∃ stage next, Shakes settings next stage task

/-- A guest changes the state of a client in a handshake by closing it only. -/
theorem Guest.update_mem {k : Option Agreement} {change : State → State}
    {next : State → Program State ε Unit} (guest : Guest settings k (.update change next)) :
    change ⟨.initializing, none⟩ ∈ [⟨.initializing, none⟩, ⟨.closed, none⟩] := by
  cases guest with
  | look | handshake => exact List.mem_cons_self
  | retire => exact List.mem_cons_of_mem _ List.mem_cons_self

theorem Guest.not_stage {k : Option Agreement} {stage : Stage}
    {next : Except Error Agreement → Program State ε Unit}
    (guest : Guest settings k (stage.program next settings)) : False := by
  cases stage with
  | asking =>
    cases guest with
    | request permits => exact permits.other rfl
  | announcing a => cases guest
  | failing e =>
    have stays := Guest.update_mem guest
    simp [State.endHandshake] at stays
  | accepting a =>
    have stays := Guest.update_mem guest
    simp [State.agree] at stays
  | ending a =>
    have stays := Guest.update_mem guest
    simp [State.endHandshake] at stays

/-- A polite task is in no handshake. -/
theorem Polite.not_shaking {task : Task State ε}
    (polite : Polite settings heralded k task) : ¬ Shaking settings task := by
  rintro ⟨stage, next, shakes⟩
  cases shakes with
  | ready =>
    cases polite with
    | ready guest => exact guest.not_stage
  | calling method =>
    cases polite with
    | calling permits => exact permits.other method
  | sending => cases polite

end Mcp.Client
