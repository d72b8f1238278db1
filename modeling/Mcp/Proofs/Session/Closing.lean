import Mcp.Proofs.Session.Settling

/-!
How sessions close. A close returns, within a few steps of its own when the session has settled
(`Closes.returns`), and when one has returned others change nothing (`Released.again`). Main
statement: `closing_settles`, which says of every run that the closing of a session is for good,
that it settles, how the requests in flight end, and that what is asked of the session afterwards
is refused.
-/

namespace Mcp.Session

variable {σ ε : Type}

/-! ### Closing again -/

/-- A task is in a close, after which it goes on as `next` says. -/
inductive Closes (next : Except Error Unit → Program σ ε Unit) : Task σ ε → Prop
  | ready {graceful : Bool} : Closes next (.ready (.close graceful next))
  | closing {stage : CloseStage} : Closes next (.closing stage next)

/-- How many steps are left of a close when the session has settled. -/
@[simp] def CloseStage.left : CloseStage → Nat
  | .releasing => 1
  | .clearing => 2
  | .joining => 3
  | .stopping => 4
  | .watching .. => 5
  | .draining _ => 6
  | .parked .. => 7

theorem CloseStage.left_pos (stage : CloseStage) : 0 < stage.left := by
  cases stage <;> simp

@[simp] def Task.closeLeft : Task σ ε → Nat
  | .closing stage _ => stage.left
  | _ => 7

section Again

variable {s : Session σ ε} {a : Act σ ε} {i : Nat} {task : Task σ ε}
  {next : Except Error Unit → Program σ ε Unit}

theorem Closes.told {open_ : Bool} {task' : Task σ ε} (closes : Closes next task)
    (told : Told open_ task task') : Closes next task' ∧ task'.closeLeft = task.closeLeft := by
  cases told with
  | same => exact ⟨closes, rfl⟩
  | news => cases closes
  | watching | parked =>
    cases closes
    exact ⟨.closing, rfl⟩

theorem left_of_nextStage {stage stage' : CloseStage} (empty : s.pending = [])
    (gone : s.reader = .gone) (awake : ∀ deadline, stage ≠ .parked deadline false)
    (h : s.nextStage stage = some stage') : stage'.left < stage.left := by
  cases stage with
  | releasing => cases h
  | draining | clearing =>
    cases h
    simp
  | watching =>
    simp only [nextStage, empty, List.isEmpty_nil, if_true] at h
    cases h
    simp
  | parked deadline woken =>
    cases woken with
    | false => exact absurd rfl (awake deadline)
    | true =>
      cases h
      simp
  | stopping =>
    simp only [nextStage, Option.some.injEq] at h
    subst h
    split <;> simp
  | joining =>
    simp only [nextStage, gone, if_true] at h
    cases h
    simp

/-- A close's own step goes on with it or ends it, and it ends well. -/
theorem Closes.turned (closes : Closes next task) :
    Closes next (s.turned task) ∨ s.turned task = .ready (next (.ok ())) := by
  cases closes with
  | ready => exact .inl .closing
  | closing =>
    simp only [Session.turned, closedOn]
    split
    · exact .inl .closing
    · exact .inr rfl

/-- An act leaves a task in its close, or is the end of it, which is well. -/
theorem Closes.act (closes : Closes next task) (h : s.tasks[i]? = some task) (a : Act σ ε) :
    ∃ task', (s.act a).tasks[i]? = some task' ∧
      (Closes next task' ∨ task' = .ready (next (.ok ()))) := by
  by_cases own : a = .step (.task i)
  · subst own
    exact ⟨_, act_own h, closes.turned⟩
  · obtain ⟨task', h', told⟩ := act_elsewhere h own
    exact ⟨task', h', .inl (closes.told told).1⟩

/-- In a settled session each step of a close brings it nearer to its end. -/
theorem Closes.nearer (winding : Winding s) (settled : s.Settled) (closes : Closes next task)
    (h : s.tasks[i]? = some task) : s.turned task = .ready (next (.ok ())) ∨
      Closes next (s.turned task) ∧ (s.turned task).closeLeft < task.closeLeft := by
  cases closes with
  | @ready graceful =>
    refine .inr ⟨.closing, ?_⟩
    cases graceful <;> simp [Session.turned, started]
  | @closing stage =>
    have awake deadline : stage ≠ .parked deadline false := by
      rintro rfl
      exact winding.parked h (settled.pending winding.sound)
    simp only [Session.turned, closedOn]
    split
    · rename_i goes
      exact .inr
        ⟨.closing, left_of_nextStage (settled.pending winding.sound) settled.reader awake goes⟩
    · exact .inl rfl

/-- In a settled session a close returns within so many steps of its own, whatever happens between
them. -/
theorem Closes.returns (acts : List (Act σ ε)) (winding : Winding s) (settled : s.Settled)
    (closes : Closes next task) (h : s.tasks[i]? = some task)
    (enough : task.closeLeft ≤ acts.countP (Act.isStepOf i)) :
    ∃ before after, acts = before ++ after ∧
      (s.run before).tasks[i]? = some (.ready (next (.ok ()))) := by
  induction acts generalizing s task with
  | nil =>
    have some_left : 0 < task.closeLeft := by
      cases closes with
      | ready => simp
      | closing => exact CloseStage.left_pos _
    simp only [List.countP_nil] at enough
    omega
  | cons a acts ih =>
    have later {task' : Task σ ε} (h' : (s.act a).tasks[i]? = some task')
        (closes' : Closes next task')
        (enough' : task'.closeLeft ≤ acts.countP (Act.isStepOf i)) :
        ∃ before after, a :: acts = before ++ after ∧
          (s.run before).tasks[i]? = some (.ready (next (.ok ()))) := by
      obtain ⟨before, after, rfl, returned⟩ :=
        ih (winding.act a) (settled.act a) closes' h' enough'
      exact ⟨a :: before, after, rfl, returned⟩
    by_cases own : a.isStepOf i = true
    · rw [List.countP_cons_of_pos own] at enough
      obtain rfl := Act.isStepOf_iff.mp own
      rcases closes.nearer winding settled h with returned | ⟨closes', fewer⟩
      · refine ⟨[.step (.task i)], acts, rfl, ?_⟩
        rw [run_cons, run_nil, act_own h, returned]
      · exact later (act_own h) closes' (by omega)
    · rw [List.countP_cons_of_neg own] at enough
      obtain ⟨task', h', told⟩ := act_elsewhere h (mt Act.isStepOf_iff.mpr own)
      obtain ⟨closes', same⟩ := closes.told told
      exact later h' closes' (by omega)

end Again

/-- A close has returned: the table was cleared, the reader is taken and the transport is closed. -/
structure Released (s : Session σ ε) : Prop where
  cleared : s.Cleared
  joinable : s.joinable = false
  status : s.link.status = .closed
  cancelled : s.link.cancelled = true

section Released

variable {s : Session σ ε} {i : Nat} {task : Task σ ε} {next : Except Error Unit → Program σ ε Unit}

theorem send_rest (t : Transport.Memory) (m : Message) :
    (t.send m).2.status = t.status ∧ (t.send m).2.cancelled = t.cancelled := by
  unfold Transport.Memory.send
  split
  · exact ⟨rfl, rfl⟩
  · split
    · exact ⟨rfl, rfl⟩
    · split <;> exact ⟨rfl, rfl⟩

/-- A task's step leaves a transport closed. -/
theorem linked_closed (task : Task σ ε) (status : s.link.status = .closed)
    (cancelled : s.link.cancelled = true) :
    (s.linked task).status = .closed ∧ (s.linked task).cancelled = true := by
  unfold linked
  split
  · exact ⟨(send_rest ..).1.trans status, (send_rest ..).2.trans cancelled⟩
  · exact ⟨(send_rest ..).1.trans status, (send_rest ..).2.trans cancelled⟩
  · exact ⟨rfl, rfl⟩
  · exact ⟨status, cancelled⟩

theorem Released.act (released : s.Released) (a : Act σ ε) : (s.act a).Released := by
  have cleared := released.cleared.act a
  have joinable := act_joinable released.joinable a
  cases s.act_whose a with
  | @task i task h =>
    obtain ⟨status, cancelled⟩ := linked_closed task released.status released.cancelled
    rw [← (act_leaves h).link] at status cancelled
    exact ⟨cleared, joinable, status, cancelled⟩
  | reader =>
    obtain ⟨inbox, receiving, link⟩ := s.act_reads.link
    refine ⟨cleared, joinable, ?_, ?_⟩
    · rw [link]
      exact released.status
    · rw [link]
      exact released.cancelled
  | outside _ _ rest =>
    exact ⟨cleared, joinable, rest.status.trans released.status,
      rest.cancelled.trans released.cancelled⟩

/-- The step with which a close returns. -/
theorem Winding.released (winding : Winding s) {stage : CloseStage}
    (h : s.tasks[i]? = some (.closing stage next))
    (returns : (s.act (.step (.task i))).tasks[i]? = some (.ready (next (.ok ())))) :
    (s.act (.step (.task i))).Released := by
  have last : stage = .releasing := by
    rw [act_own h, Option.some.injEq, turned, closedOn] at returns
    cases stage with
    | releasing => rfl
    | draining | watching | parked | stopping | joining | clearing => cases returns
  subst last
  refine ⟨(winding.releasing h).act _, act_joinable (winding.closing h rfl) _, ?_, ?_⟩
  · rw [(act_leaves h).link]
    rfl
  · rw [(act_leaves h).link]
    rfl

/-- A close's step, when another close has returned, changes nothing but its own task, the table,
which it may clear again, and what others are told by that. -/
theorem Released.again (released : s.Released) (closes : Closes next task)
    (h : s.tasks[i]? = some task) :
    s.act (.step (.task i)) = { s with
      tasks := (s.act (.step (.task i))).tasks
      pending := (s.act (.step (.task i))).pending } := by
  have stopped := released.cleared.stopped
  have link : s.link.close = s.link := by
    rw [Transport.Memory.close, ← released.status, ← released.cancelled]
  rw [act_task h]
  cases closes with
  | ready => rfl
  | @closing stage =>
    cases stage with
    | draining | watching | clearing => rfl
    | stopping => simp only [stepTask, stepClose, setTask, stopped, released.joinable]
    | releasing =>
      simp only [stepTask, stepClose, link]
      rfl
    | parked =>
      simp only [stepTask, stepClose]
      split
      · rfl
      · split <;> rfl
    | joining =>
      simp only [stepTask, stepClose]
      split <;> rfl

theorem Closes.pending (closes : Closes next task) (h : s.tasks[i]? = some task) :
    (s.act (.step (.task i))).pending = s.pending ∨ (s.act (.step (.task i))).pending = [] := by
  rw [(act_leaves h).pending]
  cases closes with
  | ready => exact .inl rfl
  | @closing stage =>
    cases stage with
    | clearing => exact .inr rfl
    | draining | watching | parked | stopping | joining | releasing => exact .inl rfl

end Released

/-! ### Every run -/

/-- A close has returned in a run. -/
def Returned (s : Session σ ε) (acts : List (Act σ ε)) : Prop :=
  ∃ before i after stage next, acts = before ++ .step (.task i) :: after ∧
    (s.run before).tasks[i]? = some (.closing stage next) ∧
    ((s.run before).act (.step (.task i))).tasks[i]? = some (.ready (next (.ok ())))

theorem Winding.returned {s : Session σ ε} (winding : Winding s) {acts : List (Act σ ε)}
    (returned : Returned s acts) : (s.run acts).Released := by
  obtain ⟨before, i, after, stage, next, rfl, h, returns⟩ := returned
  rw [run_append, run_cons]
  exact run_keeps (fun _ a released => released.act a) ((winding.run before).released h returns)
    after

/-- What a session promises about its closing after a run. -/
structure ClosingSettles (s : Session σ ε) (acts : List (Act σ ε)) : Prop where
  /-- A close that has returned and the end of what comes in stop a session. -/
  closes : Returned s acts ∨ (s.run acts).reader ≠ .reading → (s.run acts).stopped = true
  /-- A session that was stopped stays so. -/
  stays : (s.run acts).stopped = true → ∀ later, (s.run (acts ++ later)).stopped = true
  /-- Steps of its own settle the closing. -/
  settles : (s.run acts).stopped = true →
    ∃ later : List (Act σ ε), (∀ a ∈ later, a.isStep) ∧ (s.run (acts ++ later)).Settled
  /-- It has settled when neither the reader nor a request can go on. -/
  atRest : (s.run acts).stopped = true → (s.run acts).enabled .reader = false →
    (∀ i o, (s.run acts).ongoing? i = some o → (s.run acts).enabled (.task i) = false) →
    (s.run acts).Settled
  /-- The table is empty from then on. -/
  empty : (s.run acts).Settled → ∀ later, (s.run (acts ++ later)).pendingCount = 0
  /-- A request in flight for which nothing had come ends with the news that the transport is
  closed, or with a failure of its own that it met first; and it has ended when the closing has
  settled. -/
  inFlight {i : Nat} {o : Ongoing σ ε} : (s.run acts).stopped = true →
    (s.run acts).ongoing? i = some o → o.call.slot = .empty → ∀ later,
      (∀ outcome, .ended o.call.id outcome ∈ (s.run acts).history later →
        EndsClosed ((s.run acts).history later) o outcome) ∧
      ((s.run (acts ++ later)).Settled → Ended ((s.run acts).history later) o.call.id)
  /-- One that has not seen the session open since it was put in the table is never sent. -/
  turnedBack {i : Nat} {o : Ongoing σ ε} : (s.run acts).stopped = true →
    (s.run acts).ongoing? i = some o → o.call.slot = .empty →
    o.stage = .admitted ∨ o.stage = .registered → ∀ later,
      (∀ deadline, .sent o.call.id deadline ∉ (s.run acts).history later) ∧
        ∀ e, .unsent o.call.id e ∉ (s.run acts).history later
  /-- A request that is started afterwards is refused, and nothing else changes. -/
  request {i : Nat} {method : String} {params : Json} {timeout : Option Nat}
    {next : Except Error Json → Program σ ε Unit} : (s.run acts).stopped = true →
    (s.run acts).tasks[i]? = some (.ready (.request method params timeout next)) →
    (s.run acts).act (.step (.task i)) =
      (s.run acts).setTask i (.ready (next (.error .transportClosed)))
  /-- So is a notification. -/
  notification {i : Nat} {method : String} {params : Json}
    {next : Except Error Unit → Program σ ε Unit} : (s.run acts).stopped = true →
    (s.run acts).tasks[i]? = some (.ready (.notify method params next)) →
    (s.run acts).act (.step (.task i)) =
      (s.run acts).setTask i (.ready (next (.error .transportClosed)))
  /-- Every close that returns returns well. -/
  well {i : Nat} {task : Task σ ε} {next : Except Error Unit → Program σ ε Unit} :
    (s.run acts).tasks[i]? = some task → Closes next task → ∀ a,
      ∃ task', (s.run (acts ++ [a])).tasks[i]? = some task' ∧
        (Closes next task' ∨ task' = .ready (next (.ok ())))
  /-- When the closing has settled, a close returns within seven steps of its own, whatever happens
  between them. -/
  returns {i : Nat} {task : Task σ ε} {next : Except Error Unit → Program σ ε Unit}
    {later : List (Act σ ε)} : (s.run acts).Settled → (s.run acts).tasks[i]? = some task →
    Closes next task → 7 ≤ later.countP (Act.isStepOf i) →
      ∃ before after, later = before ++ after ∧
        (s.run (acts ++ before)).tasks[i]? = some (.ready (next (.ok ())))
  /-- After a close has returned, the steps of others change nothing but their own tasks, the table,
  which holds requests that are turned back and which they may clear again, and what they tell
  others by that. -/
  again {i : Nat} {task : Task σ ε} {next : Except Error Unit → Program σ ε Unit} :
    Returned s acts → (s.run acts).tasks[i]? = some task → Closes next task →
    (∀ j o, (s.run acts).ongoing? j = some o → o.call.slot = .empty → o.stage.turnedBack) ∧
      ∃ tasks pending, (s.run (acts ++ [.step (.task i)])) = { s.run acts with tasks, pending } ∧
        (pending = (s.run acts).pending ∨ pending = []) ∧
        ∀ j ≠ i, Option.Rel (Told false) (s.run acts).tasks[j]? tasks[j]?

/-- The closing of a session settles, in every run. -/
theorem closing_settles {label : String} {timeouts : Timeouts} {handlers : Handlers σ ε}
    {link : Transport.Memory} {shared : σ} {s : Session σ ε}
    (h : Session.start label timeouts handlers link shared = .ok s) (acts : List (Act σ ε)) :
    ClosingSettles s acts := by
  have accounts := accounts_run h acts
  have winding := (winding_of_start h).run acts
  have released (returned : Returned s acts) : (s.run acts).Released :=
    (winding_of_start h).returned returned
  refine
    { closes := ?closes, stays := ?stays, settles := ?settles, atRest := winding.settled,
      empty := ?empty, inFlight := ?inFlight, turnedBack := ?turnedBack, request := ?request,
      notification := ?notification, well := ?well, returns := ?returns, again := ?again }
  case closes =>
    rintro (returned | left)
    · exact (released returned).cleared.stopped
    · exact winding.reader left
  case stays =>
    intro stopped later
    rw [run_append]
    exact run_stopped stopped later
  case settles =>
    intro stopped
    obtain ⟨later, steps, settled⟩ := Session.settles accounts winding stopped
    exact ⟨later, steps, by rwa [run_append]⟩
  case empty =>
    intro settled later
    rw [run_append, pendingCount, (settled.run later).pending (winding.run later).sound]
    rfl
  case inFlight =>
    intro i o stopped ho empty later
    rw [run_append]
    exact ⟨fun outcome => ends_closed winding.sound stopped ho empty,
      ended_of_settled winding.sound ho⟩
  case turnedBack =>
    intro i o stopped ho empty early later
    exact not_offered winding.sound stopped ho empty early
  case request =>
    intro i method params timeout next stopped h
    simp only [act_task h, stepTask, begin, stopped, if_true]
  case notification =>
    intro i method params next stopped h
    simp only [act_task h, stepTask, begin, stopped, if_true]
  case well =>
    intro i task next h closes a
    rw [run_append]
    exact closes.act h a
  case returns =>
    intro i task next later settled h closes enough
    have left : task.closeLeft ≤ 7 := by
      cases closes with
      | ready => simp
      | @closing stage => cases stage <;> simp
    obtain ⟨before, after, rfl, returned⟩ :=
      closes.returns later winding settled h (Nat.le_trans left enough)
    exact ⟨before, after, rfl, by rwa [run_append]⟩
  case again =>
    intro i task next returned h closes
    have released := released returned
    refine ⟨fun j o => released.cleared.turnedBack,
      ((s.run acts).act (.step (.task i))).tasks, _, ?_, closes.pending h, fun j other => ?_⟩
    · rw [run_append]
      exact released.again closes h
    · have tells := (s.run acts).stepTask_tells task other
      rw [released.cleared.stopped] at tells
      rw [act_task h]
      exact tells

/-- A graceful close whose time is over together with that of a request. -/
theorem closing_settles_late : ∃ s : Session Unit Unit,
    Session.start "sess" ⟨30000, 100⟩ .none .new () = .ok s ∧
      ClosingSettles s
        [.spawn (.request "a" .null none fun _ => .done ()),
          .step (.task 0), .step (.task 0), .step (.task 0), .step (.task 0),
          .spawn (.close true fun _ => .done ()),
          .step (.task 1), .step (.task 1), .step (.task 1),
          .spawn (.request "b" .null (some 100) fun _ => .done ()),
          .step (.task 2), .step (.task 2), .step (.task 2), .step (.task 2),
          .advance 100, .step (.task 1), .step (.task 1), .step (.task 2), .step (.task 2),
          .step .reader, .step .reader, .step (.task 0), .step (.task 1), .step (.task 1),
          .step (.task 1)] := by
  have started : Session.start (σ := Unit) (ε := Unit) "sess" ⟨30000, 100⟩ .none .new () = .ok _ :=
    rfl
  exact ⟨_, started, closing_settles started _⟩

/-- That each request in flight ends with the news that the transport is closed is too much to ask:
the time of one that was sent may be over between the stop of the session and the clearing of its
table. Nor does a further close change nothing at all: it may clear the entry of a request that is
about to be turned back. -/
theorem closing_may_find_time_over : ∃ s : Session Unit Unit,
    Session.start "sess" .default .none .new () = .ok s ∧
      (¬ ∀ before after i call deadline next outcome, (s.run before).stopped = true →
        (s.run before).ongoing? i = some ⟨call, .waiting deadline, next⟩ → call.slot = .empty →
        .ended call.id outcome ∈ (s.run before).history after →
        outcome = .error .transportClosed) ∧
      ¬ ∀ acts i task next, Returned s acts → (s.run acts).tasks[i]? = some task →
        Closes next task → (s.run (acts ++ [.step (.task i)])).pending = (s.run acts).pending := by
  refine ⟨_, rfl, fun claim => ?_, fun claim => ?_⟩
  · have closed := claim
      [.spawn (.request "a" .null (some 100) fun _ => .done ()),
        .step (.task 0), .step (.task 0), .step (.task 0), .step (.task 0), .advance 100,
        .spawn (.close false fun _ => .done ()), .step (.task 1), .step (.task 1)]
      [.step (.task 0), .step (.task 0)]
      0 ⟨"sess-1", "a", .null, 100, .empty⟩ 100 (fun _ => .done ()) (.error (.timeout "a" 100))
      rfl rfl rfl (List.mem_of_getElem? (i := 1) rfl)
    cases closed
  · have same := claim
      [.spawn (.request "a" .null none fun _ => .done ()), .step (.task 0),
        .spawn (.close false fun _ => .done ()), .step (.task 1), .step (.task 1),
        .step .reader, .step .reader, .step (.task 1), .step (.task 1), .step (.task 1),
        .step (.task 0), .spawn (.close false fun _ => .done ()), .step (.task 2), .step (.task 2)]
      2 (.closing .clearing fun _ => .done ()) (fun _ => .done ())
      ⟨[.spawn (.request "a" .null none fun _ => .done ()), .step (.task 0),
          .spawn (.close false fun _ => .done ()), .step (.task 1), .step (.task 1),
          .step .reader, .step .reader, .step (.task 1), .step (.task 1)], 1, _, .releasing,
        fun _ => .done (), rfl, rfl, rfl⟩ rfl .closing
    cases same

end Mcp.Session
