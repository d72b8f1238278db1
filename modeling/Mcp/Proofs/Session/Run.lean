import Mcp.Session.Step

/-!
Runs of a session: whatever its agents, its peer and the clock do, in any order, and the history
that a run leaves of the session's requests. What holds at the start and is kept by each act holds
after every run (`run_induction`).
-/

namespace Mcp

namespace Session

variable {σ ε : Type}

/-- One thing that happens to a session: a step of an agent, a program that somebody starts, or
something that the peer, the transport's owner or the clock does. A step that an agent cannot take
changes nothing. -/
inductive Act (σ ε : Type) where
  | step (agent : Agent)
  | spawn (program : Program σ ε Unit)
  | inject (m : Message)
  | failSends (on : Bool)
  | unhealthy (on : Bool)
  /-- The peer takes nothing more of what is sent. -/
  | deafen
  /-- The peer puts nothing more in. -/
  | endSource
  | advance (milliseconds : Nat)
  | drop

/-- The session after an act. -/
def act (s : Session σ ε) : Act σ ε → Session σ ε
  | .step agent => s.step agent
  | .spawn program => s.spawn program
  | .inject m => { s with link := s.link.inject m }
  | .failSends on => { s with link := { s.link with failing := on } }
  | .unhealthy on => { s with link := { s.link with unhealthy := on } }
  | .deafen => { s with link := s.link.deafen }
  | .endSource => { s with link := s.link.endSource }
  | .advance milliseconds => { s with now := s.now + milliseconds }
  | .drop => s.drop

/-- The session after a run. -/
def run (s : Session σ ε) (acts : List (Act σ ε)) : Session σ ε := acts.foldl act s

/-! ### What a run does to requests -/

/-- The id of a session's `n`-th request. -/
def idOf (label : String) (n : Nat) : String := label ++ "-" ++ toString n

/-- The id of the next request. -/
def freshId (s : Session σ ε) : String := idOf s.label s.nextId

end Session

/-- What a response says: its error if it has one, and otherwise its result. -/
def Response.answer (r : Response) : Except RpcError Json :=
  match r.error with
  | some e => .error e
  | none => .ok (Json.ofOption r.result)

namespace Session

variable {σ ε : Type}

/-- The outcome of a request that was answered. -/
def outcomeOf : Except RpcError Json → Except Error Json
  | .ok value => .ok value
  | .error e => .error (.rpc e)

/-- The outcome of a request by what has come for it. -/
def Slot.outcome? : Slot → Option (Except Error Json)
  | .empty => none
  | .answered answer => some (outcomeOf answer)
  | .dropped => some (.error .transportClosed)

/-- What an act is to the requests of a session. -/
inductive Happening where
  /-- A request got its id. -/
  | began (id method : String) (timeout : Nat)
  /-- It was put in the table. -/
  | entered (id : String)
  /-- It was in the table, and the session was found closed. -/
  | refused (id : String)
  /-- It was sent, and waits until a time. -/
  | sent (id : String) (deadline : Nat)
  /-- It could not be sent. -/
  | unsent (id : String) (error : Error)
  /-- The reader handed out a response. -/
  | heard (response : Response)
  /-- Its time was over and nothing had come for it. -/
  | expired (id : String)
  /-- The session gave up all requests in the table. -/
  | cleared
  | ended (id : String) (outcome : Except Error Json)

/-- What the next step of a request is. -/
def callHappening (s : Session σ ε) (call : Call) : CallStage → Option Happening
  | .admitted => some (.entered call.id)
  | .registered => if s.stopped then some (.refused call.id) else none
  | .confirmed =>
    match (s.link.send (.request (.new (.text call.id) call.method call.params.given))).1 with
    | .ok () => some (.sent call.id (s.now + call.timeout))
    | .error e => some (.unsent call.id e)
  | .waiting deadline =>
    match call.slot.outcome? with
    | some outcome => some (.ended call.id outcome)
    | none => if deadline ≤ s.now then some (.expired call.id) else none
  | .withdrawing e => some (.ended call.id (.error e))

/-- What the next step of a task is. -/
def taskHappening (s : Session σ ε) : Task σ ε → Option Happening
  | .ready (.request method _ timeout _) =>
    if s.stopped then none
    else some (.began s.freshId method (timeout.getD s.timeouts.request))
  | .calling call stage _ => s.callHappening call stage
  | .closing .clearing _ => some .cleared
  | _ => none

/-- What the reader's next step is. -/
def readHappening (s : Session σ ε) : Option Happening :=
  match s.reader with
  | .reading =>
    if s.stopped then none
    else
      match s.link.receive.1 with
      | some (.response r) => some (.heard r)
      | _ => none
  | .leaving => some .cleared
  | .gone => none

/-- What an act is to the requests of a session, if it is anything to them. -/
def happening (s : Session σ ε) : Act σ ε → Option Happening
  | .step (.task index) => s.tasks[index]?.bind s.taskHappening
  | .step .reader => s.readHappening
  | _ => none

/-- The history that a run leaves. -/
def history (s : Session σ ε) : List (Act σ ε) → List Happening
  | [] => []
  | a :: rest => (s.happening a).toList ++ (s.act a).history rest

/-! ### What no act changes -/

/-- What stays through a run: how ids start, how long the session waits, and its handlers. -/
structure SameSettings (s s' : Session σ ε) : Prop where
  label : s'.label = s.label
  timeouts : s'.timeouts = s.timeouts
  handlers : s'.handlers = s.handlers

theorem begin_settings (s : Session σ ε) (i : Nat) (program : Program σ ε Unit) :
    SameSettings s (s.begin i program) := by
  cases program with
  | request | notify =>
    simp only [begin]
    split <;> exact ⟨rfl, rfl, rfl⟩
  | done | respond | sleep | now | emit | update | await | health | close => exact ⟨rfl, rfl, rfl⟩

theorem stepCall_settings (s : Session σ ε) (i : Nat) (call : Call)
    (next : Except Error Json → Program σ ε Unit) (stage : CallStage) :
    SameSettings s (s.stepCall i call next stage) := by
  cases stage with
  | admitted | registered | withdrawing => exact ⟨rfl, rfl, rfl⟩
  | confirmed =>
    simp only [stepCall]
    split <;> exact ⟨rfl, rfl, rfl⟩
  | waiting =>
    simp only [stepCall]
    split
    · exact ⟨rfl, rfl, rfl⟩
    · exact ⟨rfl, rfl, rfl⟩
    · exact ⟨rfl, rfl, rfl⟩
    · split <;> exact ⟨rfl, rfl, rfl⟩

theorem stepClose_settings (s : Session σ ε) (i : Nat)
    (next : Except Error Unit → Program σ ε Unit) (stage : CloseStage) :
    SameSettings s (s.stepClose i next stage) := by
  cases stage with
  | draining | watching | stopping | clearing | releasing => exact ⟨rfl, rfl, rfl⟩
  | joining =>
    simp only [stepClose]
    split <;> exact ⟨rfl, rfl, rfl⟩
  | parked =>
    simp only [stepClose]
    split
    · exact ⟨rfl, rfl, rfl⟩
    · split <;> exact ⟨rfl, rfl, rfl⟩

theorem stepTask_settings (s : Session σ ε) (i : Nat) (task : Task σ ε) :
    SameSettings s (s.stepTask i task) := by
  cases task with
  | ready program => exact s.begin_settings i program
  | calling call stage next => exact s.stepCall_settings i call next stage
  | closing stage next => exact s.stepClose_settings i next stage
  | sending => exact ⟨rfl, rfl, rfl⟩
  | sleeping =>
    simp only [stepTask]
    split <;> exact ⟨rfl, rfl, rfl⟩
  | awaiting =>
    simp only [stepTask]
    split
    · exact ⟨rfl, rfl, rfl⟩
    · split <;> exact ⟨rfl, rfl, rfl⟩

theorem dispatch_settings (s : Session σ ε) (m : Message) : SameSettings s (s.dispatch m) := by
  cases m with
  | request => exact ⟨rfl, rfl, rfl⟩
  | notification =>
    simp only [dispatch]
    split <;> exact ⟨rfl, rfl, rfl⟩
  | response =>
    simp only [dispatch]
    split
    · exact ⟨rfl, rfl, rfl⟩
    · split <;> exact ⟨rfl, rfl, rfl⟩

theorem read_settings (s : Session σ ε) : SameSettings s s.read := by
  unfold Session.read
  split
  · split
    · exact ⟨rfl, rfl, rfl⟩
    · split
      · rename_i m link _
        have := dispatch_settings { s with link } m
        exact ⟨this.label, this.timeouts, this.handlers⟩
      · split <;> exact ⟨rfl, rfl, rfl⟩
  · exact ⟨rfl, rfl, rfl⟩
  · exact ⟨rfl, rfl, rfl⟩

theorem act_settings (s : Session σ ε) (a : Act σ ε) : SameSettings s (s.act a) := by
  cases a with
  | step agent =>
    cases agent with
    | task index =>
      simp only [act, step]
      split
      · exact s.stepTask_settings index _
      · exact ⟨rfl, rfl, rfl⟩
    | forwarder => exact ⟨rfl, rfl, rfl⟩
    | reader => exact s.read_settings
  | spawn | inject | failSends | unhealthy | deafen | endSource | advance | drop =>
    exact ⟨rfl, rfl, rfl⟩

/-! ### Runs in parts -/

@[simp] theorem run_nil (s : Session σ ε) : s.run [] = s := rfl

@[simp] theorem run_cons (s : Session σ ε) (a : Act σ ε) (acts : List (Act σ ε)) :
    s.run (a :: acts) = (s.act a).run acts := rfl

@[simp] theorem run_append (s : Session σ ε) (before after : List (Act σ ε)) :
    s.run (before ++ after) = (s.run before).run after := List.foldl_append ..

@[simp] theorem history_append (s : Session σ ε) (before after : List (Act σ ε)) :
    s.history (before ++ after) = s.history before ++ (s.run before).history after := by
  induction before generalizing s with
  | nil => rfl
  | cons a before ih => simp [history, ih, List.append_assoc]

/-- What holds of a session and the history behind it, and is kept by each act, holds after every
run. -/
theorem run_induction {P : Session σ ε → List Happening → Prop}
    (step : ∀ s h a, P s h → P (s.act a) (h ++ (s.happening a).toList))
    {s : Session σ ε} {h : List Happening} (start : P s h) (acts : List (Act σ ε)) :
    P (s.run acts) (h ++ s.history acts) := by
  induction acts generalizing s h with
  | nil => simpa [history] using start
  | cons a rest ih =>
    have := ih (step s h a start)
    simpa [history, List.append_assoc] using this

theorem run_label (s : Session σ ε) (acts : List (Act σ ε)) : (s.run acts).label = s.label := by
  induction acts generalizing s with
  | nil => rfl
  | cons a rest ih => exact (ih (s.act a)).trans (s.act_settings a).label

theorem run_handlers (s : Session σ ε) (acts : List (Act σ ε)) :
    (s.run acts).handlers = s.handlers := by
  induction acts generalizing s with
  | nil => rfl
  | cons a rest ih => exact (ih (s.act a)).trans (s.act_settings a).handlers

/-- A session that was just started has no requests. -/
structure Fresh (label : String) (s : Session σ ε) : Prop where
  label : s.label = label
  nextId : s.nextId = 1
  pending : s.pending = []
  tasks : s.tasks = []

theorem fresh_of_start {label : String} {timeouts : Timeouts} {handlers : Handlers σ ε}
    {link : Transport.Memory} {shared : σ} {s : Session σ ε}
    (h : Session.start label timeouts handlers link shared = .ok s) : Fresh label s := by
  unfold Session.start at h
  split at h
  · cases h
  · cases h
    exact ⟨rfl, rfl, rfl, rfl⟩

theorem handlers_of_start {label : String} {timeouts : Timeouts} {handlers : Handlers σ ε}
    {link : Transport.Memory} {shared : σ} {s : Session σ ε}
    (h : Session.start label timeouts handlers link shared = .ok s) : s.handlers = handlers := by
  unfold Session.start at h
  split at h
  · cases h
  · cases h
    rfl

end Session

end Mcp
