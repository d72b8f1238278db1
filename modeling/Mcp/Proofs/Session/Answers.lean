import Mcp.Proofs.Session.Course
import Mcp.Proofs.Session.Owed

/-!
How a session serves its peer. Each request that is heard gets a task of its own, which runs the
handler and then sends the answer, by two steps that nothing can hold up (`Replies`); until the
handler comes to a result its task says only what the handler says (`Answered`). No task waits for
another, and in the end each request was answered once. Main statement: `serves_peer`.
-/

namespace Mcp

/-- The response to a request, by what its handler came to. -/
def Request.reply (r : Request) : Except String Json → Response
  | .ok value => .success r.id value
  | .error text => .failure (some r.id) ⟨internalError, text, none⟩

/-- The response to a request that has no handler. -/
def Request.unknown (r : Request) : Response :=
  .failure (some r.id) ⟨methodNotFound, "Method not found: " ++ r.method, none⟩

namespace Session

variable {σ ε : Type}

/-- The program that sends a response and does nothing else. -/
def replying (m : Response) : Program σ ε Unit := .respond m fun _ => .done ()

/-! ### Sending an answer -/

/-- A run of the task with an index that is about to send a response: it has not sent it and can
take a step, whatever happened, or it has sent it once, with its second step. -/
inductive Replies (s : Session σ ε) (i : Nat) (m : Response) (acts : List (Act σ ε)) : Prop
  | due : acts.countP (Act.isStepOf i) < 2 → s.taskTranscript i acts = [] →
      (s.run acts).enabled (.task i) = true → Replies s i m acts
  | sent {before after : List (Act σ ε)} : acts = before ++ .step (.task i) :: after →
      before.countP (Act.isStepOf i) = 1 →
      s.taskTranscript i acts =
        [.offered (.response m) ((s.run before).link.send (.response m)).1] → Replies s i m acts

section Replies

variable {s : Session σ ε} {i : Nat} {task : Task σ ε} {acts : List (Act σ ε)}

theorem countP_isStepOf_eq_zero_iff :
    acts.countP (Act.isStepOf i) = 0 ↔ .step (.task i) ∉ acts := by
  simp only [List.countP_eq_zero, Act.isStepOf_iff]
  exact ⟨fun none there => none _ there rfl, fun none a there own => none (own ▸ there)⟩

/-- A task that nobody can tell anything stays as it is, and says nothing, until it takes a step. -/
theorem stays (deaf : ∀ {open_ : Bool} {task' : Task σ ε}, Told open_ task task' → task' = task)
    (h : s.tasks[i]? = some task) (still : .step (.task i) ∉ acts) :
    (s.run acts).tasks[i]? = some task ∧ s.taskTranscript i acts = [] := by
  induction acts generalizing s with
  | nil => exact ⟨h, rfl⟩
  | cons a acts ih =>
    obtain ⟨apart, still⟩ := not_or.mp (mt List.mem_cons.mpr still)
    obtain ⟨task', h', told⟩ := act_elsewhere h (Ne.symm apart)
    cases deaf told
    rw [run_cons, taskTranscript, if_neg (mt Act.isStepOf_iff.mp (Ne.symm apart)), List.nil_append]
    exact ih h' still

theorem done_says_nothing (h : s.tasks[i]? = some (.ready (.done ()))) :
    s.taskTranscript i acts = [] := by
  induction acts generalizing s with
  | nil => rfl
  | cons a acts ih =>
    by_cases own : a = .step (.task i)
    · subst own
      rw [taskTranscript, traffic_task h, ih (act_own h), List.append_nil]
      exact ite_self _
    · obtain ⟨task', h', told⟩ := act_elsewhere h own
      cases told
      rw [taskTranscript, if_neg (mt Act.isStepOf_iff.mp own), ih h', List.append_nil]

/-- A task that is about to hand a response to the transport does so with its next step. -/
theorem replies_of_sending {m : Response}
    (h : s.tasks[i]? = some (.sending (.response m) fun _ => .done ())) (acts : List (Act σ ε)) :
    (.step (.task i) ∉ acts ∧ s.taskTranscript i acts = [] ∧
      (s.run acts).enabled (.task i) = true) ∨
    ∃ before after, acts = before ++ .step (.task i) :: after ∧ .step (.task i) ∉ before ∧
      s.taskTranscript i acts =
        [.offered (.response m) ((s.run before).link.send (.response m)).1] := by
  have deaf {open_ : Bool} {task' : Task σ ε}
      (told : Told open_ (.sending (.response m) fun _ => .done ()) task') :
      task' = .sending (.response m) fun _ => .done () := by
    cases told
    rfl
  by_cases there : .step (.task i) ∈ acts
  · obtain ⟨before, after, rfl, still⟩ := List.eq_append_cons_of_mem there
    obtain ⟨h', silent⟩ := stays deaf h still
    refine .inr ⟨before, after, rfl, still, ?_⟩
    rw [taskTranscript_append, silent, List.nil_append, taskTranscript,
      if_pos (Act.isStepOf_iff.mpr rfl), traffic_task h', done_says_nothing (act_own h')]
    rfl
  · obtain ⟨h', silent⟩ := stays deaf h there
    refine .inl ⟨there, silent, ?_⟩
    simp only [enabled, h', canStep]

/-- A task that runs `replying` sends the response with its second step. -/
theorem replies {m : Response} (h : s.tasks[i]? = some (.ready (replying m)))
    (acts : List (Act σ ε)) : Replies s i m acts := by
  have deaf {open_ : Bool} {task' : Task σ ε} (told : Told open_ (.ready (replying m)) task') :
      task' = .ready (replying m) := by
    cases told
    rfl
  -- The first own step takes the response up; the second, if there is one, hands it over.
  by_cases there : .step (.task i) ∈ acts
  · obtain ⟨before, after, rfl, still⟩ := List.eq_append_cons_of_mem there
    obtain ⟨h', silent⟩ := stays deaf h still
    have none_ := countP_isStepOf_eq_zero_iff.mpr still
    have own : Act.isStepOf i (.step (.task i) : Act σ ε) = true := Act.isStepOf_iff.mpr rfl
    have spoken : s.taskTranscript i (before ++ .step (.task i) :: after) =
        ((s.run before).act (.step (.task i))).taskTranscript i after := by
      rw [taskTranscript_append, silent, List.nil_append, taskTranscript, if_pos own,
        traffic_task h']
      rfl
    rcases replies_of_sending (act_own h') after with ⟨still', silent', able⟩ |
        ⟨middle, rest, rfl, still', offers⟩
    · refine .due ?_ (spoken.trans silent') (by simpa using able)
      rw [List.countP_append, List.countP_cons_of_pos own, none_,
        countP_isStepOf_eq_zero_iff.mpr still']
      omega
    · have split : before ++ .step (.task i) :: (middle ++ .step (.task i) :: rest) =
          (before ++ .step (.task i) :: middle) ++ .step (.task i) :: rest := by simp
      refine .sent split ?_ ?_
      · rw [List.countP_append, List.countP_cons_of_pos own, none_,
          countP_isStepOf_eq_zero_iff.mpr still']
      · rw [spoken, offers, run_append, run_cons]
  · obtain ⟨h', silent⟩ := stays deaf h there
    refine .due ?_ silent ?_
    · rw [countP_isStepOf_eq_zero_iff.mpr there]
      omega
    · simp only [enabled, h', canStep, replying]

end Replies

/-! ### Answering a request -/

/-- A run of the task with an index that runs a handler for a request: until the handler comes to a
result, the task says what the handler says, and then it sends the answer with that result. -/
inductive Answered (s : Session σ ε) (i : Nat) (p : Program σ ε (Except String Json)) (r : Request)
    (acts : List (Act σ ε)) : Prop
  | working : (∀ before after x, acts = before ++ after → ¬ ComesTo s i p before x) →
      s.taskTranscript i acts = s.alone i p acts → Answered s i p r acts
  | finished {before after : List (Act σ ε)} {x : Except String Json} : acts = before ++ after →
      ComesTo s i p before x → s.taskTranscript i before = s.alone i p before →
      Replies (s.run before) i (r.reply x) after → Answered s i p r acts

theorem answered {s : Session σ ε} {i : Nat} {p : Program σ ε (Except String Json)} {r : Request}
    (h : s.tasks[i]? = some (.ready (p.bind fun x => replying (r.reply x))))
    (acts : List (Act σ ε)) : Answered s i p r acts := by
  cases courses h acts with
  | going never spoken => exact .working never spoken
  | came split comes there spoken => exact .finished split comes spoken (replies there _)

theorem answer_handled {h : Handlers σ ε} {r : Request}
    {run : Json → Program σ ε (Except String Json)}
    (found : h.requests.lookup r.method = some run) :
    h.answer r = (run (Json.ofOption r.params)).bind fun x => replying (r.reply x) := by
  simp only [Handlers.answer, found]
  congr 1
  funext x
  cases x <;> rfl

theorem answer_unhandled {h : Handlers σ ε} {r : Request}
    (missing : h.requests.lookup r.method = none) : h.answer r = replying r.unknown := by
  simp only [Handlers.answer, missing]
  rfl

/-- What a session does with a request that it hears: it starts a task for it and does nothing else,
and the task answers it. -/
structure Takes (s : Session σ ε) (r : Request) : Prop where
  starts : s.act (.step .reader) =
    ({ s with link := s.link.receive.2 } : Session σ ε).spawn (s.handlers.answer r)
  /-- With what the handler comes to, which runs with the request's params, or with null. -/
  handled {run : Json → Program σ ε (Except String Json)} :
    s.handlers.requests.lookup r.method = some run → ∀ later,
      Answered (s.act (.step .reader)) s.tasks.length (run (r.params.getD .null)) r later
  /-- A handler that sends no responses of its own sends none before that. -/
  silent {run : Json → Program σ ε (Except String Json)} :
    s.handlers.requests.lookup r.method = some run → (run (r.params.getD .null)).Owes none →
    ∀ later, ((s.act (.step .reader)).alone s.tasks.length (run (r.params.getD .null))
      later).filterMap Traffic.replied? = []
  /-- With the news that there is no handler. -/
  unhandled : s.handlers.requests.lookup r.method = none → ∀ later,
    Replies (s.act (.step .reader)) s.tasks.length r.unknown later

theorem takes {s : Session σ ε} {r : Request}
    (heard : s.traffic (.step .reader) = some (.heard (.request r))) : Takes s r := by
  have starts : s.act (.step .reader) =
      ({ s with link := s.link.receive.2 } : Session σ ε).spawn (s.handlers.answer r) :=
    read_of_heard heard
  have there : (s.act (.step .reader)).tasks[s.tasks.length]? =
      some (.ready (s.handlers.answer r)) := by
    rw [starts]
    exact List.getElem?_concat_length
  refine ⟨starts, fun found later => ?_, fun {run} _ tacit later => ?_,
    fun missing later => ?_⟩
  · rw [answer_handled found] at there
    exact answered there later
  · have alone : Task.Owes none (.ready ((run (r.params.getD .null)).bind fun _ => .done ())) :=
      .bind tacit fun _ => rfl
    exact tacit_answers_nothing (setTask_own there _) alone later
  · rw [answer_unhandled missing] at there
    exact replies there later

/-! ### Other messages -/

/-- What a session does with a notification that it hears: it starts the handler for it, which runs
with the notification's params, or with null, and does nothing else. -/
structure Notes (s : Session σ ε) (n : Notification) : Prop where
  handled {run : Json → Program σ ε Unit} :
    s.handlers.notifications.lookup n.method = some run → s.act (.step .reader) =
      ({ s with link := s.link.receive.2 } : Session σ ε).spawn (run (n.params.getD .null))
  unhandled : s.handlers.notifications.lookup n.method = none →
    s.act (.step .reader) = { s with link := s.link.receive.2 }

theorem notes {s : Session σ ε} {n : Notification}
    (heard : s.traffic (.step .reader) = some (.heard (.notification n))) : Notes s n := by
  have read : s.act (.step .reader) = _ := read_of_heard heard
  refine ⟨fun found => ?_, fun missing => ?_⟩
  · rw [read]
    simp only [dispatch, Handlers.act, found]
    rfl
  · rw [read]
    simp only [dispatch, Handlers.act, missing, Option.map_none]

/-- What a session does with a response that it hears: it hands it to the request in the table with
its id, and otherwise tells tasks that the table is empty at most. -/
structure HandsOn (s : Session σ ε) (r : Response) : Prop where
  quiet : (s.act (.step .reader)).link.sent = s.link.sent
  tells : Tells true s (s.act (.step .reader))
  hands {id : RequestId} {i : Nat} {call : Call} {stage : CallStage}
    {next : Except Error Json → Program σ ε Unit} : r.id = some id →
    s.pending.lookup id.key = some i → s.tasks[i]? = some (.calling call stage next) →
    call.slot = .empty → (s.act (.step .reader)).tasks[i]? =
      some (.calling { call with slot := .answered r.answer } stage next)

theorem withdraw_calling {s : Session σ ε} {i : Nat} {call : Call} {stage : CallStage}
    {next : Except Error Json → Program σ ε Unit} (h : s.tasks[i]? = some (.calling call stage next))
    (id : String) : (s.withdraw id).tasks[i]? = some (.calling call stage next) := by
  simp only [withdraw]
  split
  · rw [List.getElem?_map, h]
    rfl
  · exact h

theorem handsOn {s : Session σ ε} {r : Response}
    (heard : s.traffic (.step .reader) = some (.heard (.response r))) : HandsOn s r := by
  have read : s.act (.step .reader) = _ := read_of_heard heard
  refine ⟨?_, ?_, fun {id i call stage next} own owner h empty => ?_⟩
  · rw [act_sent, heard]
    exact List.append_nil _
  · have taken : Tells true s { s with link := s.link.receive.2 } := .of_tasks rfl
    rw [read]
    exact taken.trans (response_tells _ r)
  · rw [read]
    have owner' : ({ s with link := s.link.receive.2 } : Session σ ε).pending.lookup id.key =
        some i := owner
    have h' := withdraw_calling (s := { s with link := s.link.receive.2 }) h id.key
    obtain ⟨name, method, params, timeout, slot⟩ := call
    subst empty
    simp only [dispatch, own, owner', List.getElem?_modify_eq, h']
    rfl

/-! ### Every run -/

/-- A transport takes a message if it is connected, was not made to fail, and its peer listens. -/
theorem send_ok_iff (t : Transport.Memory) (m : Message) :
    (t.send m).1 = .ok () ↔ t.status = .connected ∧ t.failing = false ∧ t.peerListens = true := by
  unfold Transport.Memory.send
  split
  · simp_all
  · split
    · simp_all
    · split <;> simp_all

/-- Later registrations for a method replace earlier ones. -/
structure Replaces (h : Handlers σ ε) : Prop where
  request (method other : String) (run : Json → Program σ ε (Except String Json)) :
    (h.onRequest method run).requests.lookup other =
      if other = method then some run else h.requests.lookup other
  notification (method other : String) (run : Json → Program σ ε Unit) :
    (h.onNotification method run).notifications.lookup other =
      if other = method then some run else h.notifications.lookup other

theorem lookup_cons_ite {α : Type} (method other : String) (run : α) (rest : List (String × α)) :
    ((method, run) :: rest).lookup other = if other = method then some run else rest.lookup other := by
  rw [List.lookup_cons]
  by_cases same : other = method
  · simp [same]
  · simp [beq_false_of_ne same, same]

theorem replaces (h : Handlers σ ε) : Replaces h :=
  ⟨fun method other run => lookup_cons_ite method other run h.requests,
    fun method other run => lookup_cons_ite method other run h.notifications⟩

/-- In a run, everything but the task with an index is the same whatever that task is. -/
structure Regardless (s : Session σ ε) (i : Nat) (acts : List (Act σ ε)) : Prop where
  rest (task : Task σ ε) : ∃ task', (s.setTask i task).run acts = (s.run acts).setTask i task'
  transcript (task : Task σ ε) : (s.setTask i task).transcript acts = s.transcript acts
  enabled (task : Task σ ε) {agent : Agent} : agent ≠ .task i →
    ((s.setTask i task).run acts).enabled agent = (s.run acts).enabled agent

theorem regardless {s : Session σ ε} {i : Nat} {acts : List (Act σ ε)}
    (inside : i < s.tasks.length) (still : .step (.task i) ∉ acts) : Regardless s i acts := by
  obtain ⟨f, -, same⟩ := run_beside inside still
  refine ⟨fun task => ⟨f task, (same task).1⟩, fun task => (same task).2, fun task agent other => ?_⟩
  rw [(same task).1, enabled_beside other]

/-- What a session with these handlers promises about the requests, notifications and responses of
its peer. -/
structure Serves (handlers : Handlers σ ε) (s : Session σ ε) (acts : List (Act σ ε)) : Prop where
  settings : (s.run acts).handlers = handlers
  latest (h : Handlers σ ε) : Replaces h
  request {r : Request} :
    (s.run acts).traffic (.step .reader) = some (.heard (.request r)) → Takes (s.run acts) r
  notification {n : Notification} :
    (s.run acts).traffic (.step .reader) = some (.heard (.notification n)) → Notes (s.run acts) n
  response {r : Response} :
    (s.run acts).traffic (.step .reader) = some (.heard (.response r)) → HandsOn (s.run acts) r
  /-- Only tasks send. -/
  speaks {a : Act σ ε} {m : Message} {result : Except Error Unit} :
    (s.run acts).traffic a = some (.offered m result) → ∃ i, a = .step (.task i)
  /-- What was sent while the transport took it is on the wire. -/
  wire : (s.run acts).link.sent = s.link.sent ++ (s.transcript acts).filterMap Traffic.sent?
  accepted (m : Message) : ((s.run acts).link.send m).1 = .ok () ↔
    (s.run acts).link.status = .connected ∧ (s.run acts).link.failing = false ∧
      (s.run acts).link.peerListens = true
  /-- If handlers and other programs send no responses of their own, each request that was heard was
  answered or is owed by a task of its own, and nothing else was answered. -/
  accounts : handlers.Tacit → (∀ program, .spawn program ∈ acts → program.Owes none) →
    Accounted (s.run acts) (s.transcript acts)
  /-- So when all tasks are done, each request was answered once. -/
  settled : handlers.Tacit → (∀ program, .spawn program ∈ acts → program.Owes none) →
    (∀ task ∈ (s.run acts).tasks, task = .ready (.done ())) →
    ((s.transcript acts).filterMap Traffic.asked?).Perm
      ((s.transcript acts).filterMap Traffic.replied?)
  /-- A task that takes no step holds nothing up. -/
  beside {i : Nat} {later : List (Act σ ε)} : i < (s.run acts).tasks.length →
    .step (.task i) ∉ later → Regardless (s.run acts) i later

/-- A session serves its peer, in every run. -/
theorem serves_peer {label : String} {timeouts : Timeouts} {handlers : Handlers σ ε}
    {link : Transport.Memory} {shared : σ} {s : Session σ ε}
    (h : Session.start label timeouts handlers link shared = .ok s) (acts : List (Act σ ε)) :
    Serves handlers s acts := by
  have fresh := (fresh_of_start h).tasks
  obtain rfl := handlers_of_start h
  refine
    { settings := s.run_handlers acts, latest := replaces, request := takes,
      notification := notes, response := handsOn, speaks := ?speaks,
      wire := s.run_sent acts, accepted := send_ok_iff _,
      accounts := fun tacit given => accounted_run tacit fresh given,
      settled := fun tacit given => (accounted_run tacit fresh given).settled,
      beside := regardless }
  case speaks =>
    intro a m result offered
    cases (s.run acts).act_whose a with
    | @task i => exact ⟨i, rfl⟩
    | reader =>
      obtain ⟨m', same⟩ := (s.run acts).traffic_reader offered
      cases same
    | outside absent other =>
      rw [traffic_outside absent other] at offered
      cases offered

/-- A handler that takes its time, and one that does not. -/
def slowAndFast : Handlers Unit Unit :=
  (Handlers.none.onRequest "slow" fun _ => .sleep 10 (.done (.ok (.str "late")))).onRequest
    "fast" fun params => .done (.ok params)

/-- The slow handler is overtaken by the fast one for a request with the same id, and by the answer to
a request that has no handler. -/
theorem serves_peer_out_of_order : ∃ s : Session Unit Unit,
    Session.start "sess" .default slowAndFast .new () = .ok s ∧
    ∃ acts : List (Act Unit Unit), Serves slowAndFast s acts ∧ (s.run acts).link.sent =
      [.response (.success (.number 7) .null),
        .response (.failure (some (.text "7")) ⟨methodNotFound, "Method not found: gone", none⟩),
        .response (.success (.number 7) (.str "late"))] := by
  have started : Session.start "sess" .default slowAndFast .new () = .ok _ := rfl
  refine ⟨_, started,
    [.inject (.request (.new (.number 7) "slow" none)),
      .inject (.request (.new (.number 7) "fast" none)),
      .inject (.request (.new (.text "7") "gone" none)),
      .step .forwarder, .step .forwarder, .step .forwarder,
      .step .reader, .step (.task 0), .step .reader, .step .reader,
      .step (.task 1), .step (.task 1), .step (.task 2), .step (.task 2),
      .advance 10, .step (.task 0), .step (.task 0), .step (.task 0)], serves_peer started _, ?_⟩
  rfl

end Session

end Mcp
