import Mcp.Proofs.Session.Moves

/-!
What one act does to each task. A task's own step makes of it what `turned` says; the steps of
others can only tell it that something came for its request or that the table is empty (`Told`);
and tasks that are new run a program that somebody started (`Starts`). `act_becomes` says that
nothing else happens to a task. Where `Moves` is about requests, this is about programs.
-/

namespace Mcp.Session

variable {σ ε : Type}

/-- Whether an act is a step of the task with an index. -/
def Act.isStepOf (i : Nat) : Act σ ε → Bool
  | .step (.task j) => j = i
  | _ => false

theorem Act.isStepOf_iff {i : Nat} {a : Act σ ε} : a.isStepOf i = true ↔ a = .step (.task i) := by
  unfold isStepOf
  split
  · simp
  · rename_i other
    constructor
    · intro h
      cases h
    · rintro rfl
      exact absurd rfl (other i)

/-! ### What a task makes of its own step -/

/-- What a program's next operation makes of its task. -/
def started (s : Session σ ε) : Program σ ε Unit → Task σ ε
  | .done () => .ready (.done ())
  | .request method params timeout next =>
    if s.stopped then .ready (next (.error .transportClosed))
    else
      .calling ⟨s.freshId, method, params, timeout.getD s.timeouts.request, .empty⟩ .admitted next
  | .notify method params next =>
    if s.stopped then .ready (next (.error .transportClosed))
    else .sending (.notification (.new method params.given)) next
  | .respond response next => .sending (.response response) next
  | .sleep milliseconds next => .sleeping (s.now + milliseconds) next
  | .now next => .ready (next s.now)
  | .emit _ next => .ready next
  | .update _ next => .ready (next s.shared)
  | .await wanted timeout next => .awaiting wanted (s.now + timeout) next
  | .health next => .ready (next s.link.health)
  | .close graceful next =>
    .closing (if graceful then .draining (s.now + s.timeouts.close) else .stopping) next

/-- The message that a call sends. -/
def Call.message (call : Call) : Message :=
  .request (.new (.text call.id) call.method call.params.given)

/-- How a call goes on. -/
def calledOn (s : Session σ ε) (call : Call) (next : Except Error Json → Program σ ε Unit) :
    CallStage → Task σ ε
  | .admitted => .calling call .registered next
  | .registered =>
    .calling call (if s.stopped then .withdrawing .transportClosed else .confirmed) next
  | .confirmed =>
    match (s.link.send call.message).1 with
    | .ok () => .calling call (.waiting (s.now + call.timeout)) next
    | .error e => .calling call (.withdrawing e) next
  | .waiting deadline =>
    match call.slot.outcome? with
    | some outcome => .ready (next outcome)
    | none =>
      if deadline ≤ s.now then
        .calling call (.withdrawing (.timeout call.method call.timeout)) next
      else .calling call (.waiting deadline) next
  | .withdrawing e => .ready (next (.error e))

/-- The stage of a close after its next step; none if it is done. -/
def nextStage (s : Session σ ε) : CloseStage → Option CloseStage
  | .draining deadline => some (.watching deadline false)
  | .watching deadline woken =>
    some (if s.pending.isEmpty then .stopping else .parked deadline woken)
  | .parked deadline woken =>
    some
      (if woken then .draining deadline
      else if deadline ≤ s.now then .stopping
      else .parked deadline woken)
  | .stopping => some (if s.joinable then .joining else .clearing)
  | .joining => some (if s.reader = .gone then .clearing else .joining)
  | .clearing => some .releasing
  | .releasing => none

/-- How a close goes on. -/
def closedOn (s : Session σ ε) (next : Except Error Unit → Program σ ε Unit)
    (stage : CloseStage) : Task σ ε :=
  match s.nextStage stage with
  | some stage => .closing stage next
  | none => .ready (next (.ok ()))

/-- What a task's own step makes of it. -/
def turned (s : Session σ ε) : Task σ ε → Task σ ε
  | .ready program => s.started program
  | .sending message next => .ready (next (s.link.send message).1)
  | .calling call stage next => s.calledOn call next stage
  | .sleeping deadline next => if deadline ≤ s.now then .ready next else .sleeping deadline next
  | .awaiting wanted deadline next =>
    if wanted s.shared then .ready (next (some s.shared))
    else if deadline ≤ s.now then .ready (next none)
    else .awaiting wanted deadline next
  | .closing stage next => s.closedOn next stage

section Own

variable {s t : Session σ ε} {i : Nat} {task old : Task σ ε}

theorem setTask_own (h : t.tasks[i]? = some old) (new : Task σ ε) :
    (t.setTask i new).tasks[i]? = some new := by
  simp [setTask, (List.getElem?_eq_some_iff.mp h).1]

theorem withdraw_has (h : s.tasks[i]? = some task) (id : String) :
    ∃ old, (s.withdraw id).tasks[i]? = some old := by
  simp only [withdraw]
  split <;> simp [h]

theorem begin_own {program : Program σ ε Unit} (h : s.tasks[i]? = some (.ready program)) :
    (s.begin i program).tasks[i]? = some (s.started program) := by
  cases program with
  | done => exact h
  | request method params timeout next =>
    simp only [begin, started]
    cases s.stopped with
    | true => exact setTask_own h _
    | false => exact setTask_own (t := { s with nextId := s.nextId + 1 }) h _
  | notify =>
    simp only [begin, started]
    split <;> exact setTask_own h _
  | emit event next => exact setTask_own (t := { s with log := s.log ++ [event] }) h _
  | update change next => exact setTask_own (t := { s with shared := change s.shared }) h _
  | respond | sleep | now | await | health | close => exact setTask_own h _

theorem stepCall_own {call : Call} {stage : CallStage}
    {next : Except Error Json → Program σ ε Unit}
    (h : s.tasks[i]? = some (.calling call stage next)) :
    (s.stepCall i call next stage).tasks[i]? = some (s.calledOn call next stage) := by
  cases stage with
  | admitted => exact setTask_own (t := { s with pending := s.pending ++ [(call.id, i)] }) h _
  | registered => exact setTask_own h _
  | confirmed =>
    simp only [stepCall, calledOn, Call.message]
    split
    · rename_i link sent
      rw [sent]
      exact setTask_own (t := { s with link }) h _
    · rename_i e link unsent
      rw [unsent]
      exact setTask_own (t := { s with link }) h _
  | waiting deadline =>
    simp only [stepCall, calledOn]
    cases call.slot with
    | answered answer => cases answer <;> exact setTask_own h _
    | dropped => exact setTask_own h _
    | empty =>
      simp only [Slot.outcome?]
      split
      · exact setTask_own h _
      · exact h
  | withdrawing e =>
    obtain ⟨old, h⟩ := withdraw_has h call.id
    exact setTask_own h _

theorem stepClose_own {stage : CloseStage} {next : Except Error Unit → Program σ ε Unit}
    (h : s.tasks[i]? = some (.closing stage next)) :
    (s.stepClose i next stage).tasks[i]? = some (s.closedOn next stage) := by
  cases stage with
  | draining | watching => exact setTask_own h _
  | parked =>
    simp only [stepClose, closedOn, nextStage]
    split
    · exact setTask_own h _
    · split
      · exact setTask_own h _
      · exact h
  | stopping => exact setTask_own (t := { s with stopped := true, joinable := false }) h _
  | joining =>
    simp only [stepClose, closedOn, nextStage]
    split
    · exact setTask_own h _
    · exact h
  | clearing =>
    have h : ∃ old, s.clear.tasks[i]? = some old := by
      simp [clear, h]
    obtain ⟨old, h⟩ := h
    exact setTask_own h _
  | releasing => exact setTask_own (t := { s with link := s.link.close }) h _

theorem stepTask_own (h : s.tasks[i]? = some task) :
    (s.stepTask i task).tasks[i]? = some (s.turned task) := by
  cases task with
  | ready program => exact begin_own h
  | sending message next =>
    exact setTask_own (t := { s with link := (s.link.send message).2 }) h _
  | calling call stage next => exact stepCall_own h
  | sleeping =>
    simp only [stepTask, turned]
    split
    · exact setTask_own h _
    · exact h
  | awaiting =>
    simp only [stepTask, turned]
    split
    · exact setTask_own h _
    · split
      · exact setTask_own h _
      · exact h
  | closing stage next => exact stepClose_own h

end Own

/-! ### What a task is told by others -/

/-- What may come into a slot, from a session that is open or not. -/
inductive Slot.Gets (open_ : Bool) : Slot → Slot → Prop
  | same {slot : Slot} : Gets open_ slot slot
  | answer {answer : Except RpcError Json} :
      open_ = true → Gets open_ .empty (.answered answer)
  | drop : Gets open_ .empty .dropped

/-- What a task may be told by others: that something came for its request, or that the table is
empty. -/
inductive Told (open_ : Bool) : Task σ ε → Task σ ε → Prop
  | same {task : Task σ ε} : Told open_ task task
  | news {call : Call} {slot : Slot} {stage : CallStage}
      {next : Except Error Json → Program σ ε Unit} : Slot.Gets open_ call.slot slot →
      Told open_ (.calling call stage next) (.calling { call with slot } stage next)
  | watching {deadline : Nat} {woken : Bool} {next : Except Error Unit → Program σ ε Unit} :
      Told open_ (.closing (.watching deadline woken) next)
        (.closing (.watching deadline true) next)
  | parked {deadline : Nat} {woken : Bool} {next : Except Error Unit → Program σ ε Unit} :
      Told open_ (.closing (.parked deadline woken) next) (.closing (.parked deadline true) next)

theorem Slot.Gets.trans {open_ : Bool} {a b c : Slot} (first : Slot.Gets open_ a b)
    (second : Slot.Gets open_ b c) : Slot.Gets open_ a c := by
  cases first with
  | same => exact second
  | answer h =>
    cases second
    exact .answer h
  | drop =>
    cases second
    exact .drop

theorem Told.trans {open_ : Bool} {a b c : Task σ ε} (first : Told open_ a b)
    (second : Told open_ b c) : Told open_ a c := by
  cases first with
  | same => exact second
  | news gets =>
    cases second with
    | same => exact .news gets
    | news more => exact .news (gets.trans more)
  | watching =>
    cases second <;> exact .watching
  | parked =>
    cases second <;> exact .parked

theorem Told.wake (open_ : Bool) (task : Task σ ε) : Told open_ task task.wake := by
  unfold Task.wake
  split
  · exact .watching
  · exact .parked
  · exact .same

theorem Told.giveUp (open_ : Bool) (task : Task σ ε) : Told open_ task task.giveUp := by
  unfold Task.giveUp
  split
  · exact .news .drop
  · exact .same

theorem Told.accept (answer : Except RpcError Json) (task : Task σ ε) :
    Told true task (task.accept answer) := by
  unfold Task.accept
  split
  · exact .news (.answer rfl)
  · exact .same

/-- Two sessions have the same tasks, but that some were told something. -/
def Tells (open_ : Bool) (s s' : Session σ ε) : Prop :=
  ∀ i : Nat, Option.Rel (Told open_) s.tasks[i]? s'.tasks[i]?

section Others

variable {s s' : Session σ ε} {open_ : Bool}

theorem told_refl : ∀ task : Option (Task σ ε), Option.Rel (Told open_) task task
  | none => .none
  | some _ => .some .same

theorem Tells.of_tasks (h : s'.tasks = s.tasks) : Tells open_ s s' := fun i => by
  rw [h]
  exact told_refl _

theorem Tells.trans {s'' : Session σ ε} (first : Tells open_ s s') (second : Tells open_ s' s'') :
    Tells open_ s s'' := by
  intro i
  have first := first i
  have second := second i
  generalize s.tasks[i]? = a, s'.tasks[i]? = b, s''.tasks[i]? = c at first second
  cases first with
  | none =>
    cases second
    exact .none
  | some told =>
    cases second with
    | some more => exact .some (told.trans more)

theorem withdraw_tells (s : Session σ ε) (id : String) : Tells open_ s (s.withdraw id) := by
  intro i
  simp only [withdraw]
  split
  · rw [List.getElem?_map]
    cases s.tasks[i]? with
    | none => exact .none
    | some task => exact .some (.wake open_ task)
  · exact told_refl _

theorem clear_tells (s : Session σ ε) : Tells open_ s s.clear := by
  intro i
  simp only [clear, List.getElem?_map, List.getElem?_mapIdx]
  cases s.tasks[i]? with
  | none => exact .none
  | some task =>
    refine .some (Told.trans ?_ (.wake open_ _))
    split
    · exact .giveUp open_ task
    · exact .same

theorem modify_tells (s : Session σ ε) (owner : Nat) (answer : Except RpcError Json) :
    Tells true s { s with tasks := s.tasks.modify owner (Task.accept answer) } := by
  intro i
  rw [List.getElem?_modify]
  cases s.tasks[i]? with
  | none => exact .none
  | some task =>
    refine .some ?_
    split
    · exact .accept answer task
    · exact .same

/-- A response starts nothing. -/
theorem response_tells (s : Session σ ε) (r : Response) :
    Tells true s (s.dispatch (.response r)) := by
  simp only [dispatch]
  split
  · exact .of_tasks rfl
  · split
    · exact s.withdraw_tells _
    · exact (s.withdraw_tells _).trans (modify_tells _ _ _)

/-- A task other than the one that is set stays. -/
theorem setTask_elsewhere (t : Session σ ε) {i j : Nat} (new : Task σ ε) (other : j ≠ i) :
    (t.setTask i new).tasks[j]? = t.tasks[j]? := by
  simp [setTask, Ne.symm other]

end Others

/-- What somebody starts on a session: a program given to it, or a handler of the session's own for
what the reader takes. -/
inductive Starts (s : Session σ ε) : Act σ ε → Program σ ε Unit → Prop
  | given {program : Program σ ε Unit} : Starts s (.spawn program) program
  | asked {r : Request} : Starts s (.step .reader) (s.handlers.answer r)
  | told {n : Notification} {program : Program σ ε Unit} :
      s.handlers.act n = some program → Starts s (.step .reader) program

/-- What an act can make of the task with an index. -/
inductive Becomes (s : Session σ ε) (a : Act σ ε) (i : Nat) :
    Option (Task σ ε) → Option (Task σ ε) → Prop
  | own {task : Task σ ε} : a = .step (.task i) → Becomes s a i (some task) (some (s.turned task))
  | told {task task' : Task σ ε} : a ≠ .step (.task i) → Told (!s.stopped) task task' →
      Becomes s a i (some task) (some task')
  | new {program : Program σ ε Unit} : Starts s a program →
      Becomes s a i none (some (.ready program))
  | absent : Becomes s a i none none

section Acts

variable {s : Session σ ε} {a : Act σ ε} {i j : Nat} {task : Task σ ε}

theorem begin_elsewhere {program : Program σ ε Unit} (other : j ≠ i) :
    (s.begin i program).tasks[j]? = s.tasks[j]? := by
  cases program with
  | done => rfl
  | request =>
    simp only [begin]
    split <;> exact setTask_elsewhere _ _ other
  | notify =>
    simp only [begin]
    split <;> exact setTask_elsewhere _ _ other
  | respond | sleep | now | emit | update | await | health | close =>
    exact setTask_elsewhere _ _ other

/-- A task's step tells other tasks something at most. -/
theorem stepTask_tells (s : Session σ ε) (task : Task σ ε) (other : j ≠ i) :
    Option.Rel (Told (!s.stopped)) s.tasks[j]? (s.stepTask i task).tasks[j]? := by
  have set {t : Session σ ε} (new : Task σ ε) (tells : Tells (!s.stopped) s t) :
      Option.Rel (Told (!s.stopped)) s.tasks[j]? (t.setTask i new).tasks[j]? := by
    rw [setTask_elsewhere t new other]
    exact tells j
  have only (new : Task σ ε) : Option.Rel (Told (!s.stopped)) s.tasks[j]?
      (s.setTask i new).tasks[j]? := set new (.of_tasks rfl)
  have same : Option.Rel (Told (!s.stopped)) s.tasks[j]? s.tasks[j]? := told_refl _
  cases task with
  | ready program =>
    rw [stepTask, begin_elsewhere other]
    exact same
  | sending => exact set _ (.of_tasks rfl)
  | sleeping =>
    simp only [stepTask]
    split
    · exact only _
    · exact same
  | awaiting =>
    simp only [stepTask]
    split
    · exact only _
    · split
      · exact only _
      · exact same
  | calling call stage next =>
    cases stage with
    | admitted | registered => exact set _ (.of_tasks rfl)
    | confirmed =>
      simp only [stepTask, stepCall]
      split <;> exact set _ (.of_tasks rfl)
    | waiting =>
      simp only [stepTask, stepCall]
      split
      · exact only _
      · exact only _
      · exact only _
      · split
        · exact only _
        · exact same
    | withdrawing => exact set _ (s.withdraw_tells call.id)
  | closing stage next =>
    cases stage with
    | draining | watching | stopping | releasing => exact set _ (.of_tasks rfl)
    | parked =>
      simp only [stepTask, stepClose]
      split
      · exact only _
      · split
        · exact only _
        · exact same
    | joining =>
      simp only [stepTask, stepClose]
      split
      · exact only _
      · exact same
    | clearing => exact set _ s.clear_tells

theorem Becomes.of_told {old new : Option (Task σ ε)}
    (told : Option.Rel (Told (!s.stopped)) old new) (other : a ≠ .step (.task i)) :
    Becomes s a i old new := by
  cases told with
  | none => exact .absent
  | some told => exact .told other told

theorem Becomes.of_spawn {program : Program σ ε Unit} (starts : Starts s a program)
    (other : a ≠ .step (.task i)) :
    Becomes s a i s.tasks[i]? (s.tasks ++ [.ready program])[i]? := by
  rw [List.getElem?_append]
  split
  · exact .of_told (told_refl _) other
  · rename_i beyond
    rw [List.getElem?_eq_none (by omega), List.getElem?_singleton]
    split
    · exact .new starts
    · exact .absent

theorem dispatch_becomes {t : Session σ ε} (m : Message) (open_ : s.stopped = false)
    (tasks : t.tasks = s.tasks) (handlers : t.handlers = s.handlers) :
    Becomes s (.step .reader) i s.tasks[i]? (t.dispatch m).tasks[i]? := by
  cases m with
  | request r =>
    simp only [dispatch, spawn, tasks, handlers]
    exact .of_spawn .asked (by simp)
  | notification n =>
    simp only [dispatch]
    split
    · rename_i program acts
      rw [spawn, tasks]
      exact .of_spawn (.told (handlers ▸ acts)) (by simp)
    · rw [tasks]
      exact .of_told (told_refl _) (by simp)
  | response r =>
    have tells : Tells (!s.stopped) s (t.dispatch (.response r)) := by
      rw [open_]
      have same : Tells true s t := .of_tasks tasks
      exact same.trans (t.response_tells r)
    exact .of_told (tells i) (by simp)

theorem read_becomes (s : Session σ ε) (i : Nat) :
    Becomes s (.step .reader) i s.tasks[i]? s.read.tasks[i]? := by
  have same : Becomes s (.step .reader) i s.tasks[i]? s.tasks[i]? :=
    .of_told (told_refl _) (by simp)
  unfold Session.read
  split
  · split
    · exact same
    · rename_i open_
      split
      · rename_i m link _
        exact dispatch_becomes (t := { s with link }) m (by simpa using open_) rfl rfl
      · split <;> exact same
  · exact .of_told (s.clear_tells i) (by simp)
  · exact same

/-- Nothing happens to a task but what `Becomes` lists. -/
theorem act_becomes (s : Session σ ε) (a : Act σ ε) (i : Nat) :
    Becomes s a i s.tasks[i]? (s.act a).tasks[i]? := by
  have same (other : a ≠ .step (.task i)) : Becomes s a i s.tasks[i]? s.tasks[i]? :=
    .of_told (told_refl _) other
  cases a with
  | step agent =>
    cases agent with
    | reader => exact s.read_becomes i
    | forwarder => exact same (by simp)
    | task j =>
      simp only [act, step]
      cases ht : s.tasks[j]? with
      | none =>
        by_cases hij : i = j
        · subst hij
          rw [ht]
          exact .absent
        · exact same (by simpa using Ne.symm hij)
      | some task =>
        by_cases hij : i = j
        · subst hij
          rw [stepTask_own ht, ht]
          exact .own rfl
        · exact .of_told (s.stepTask_tells task hij) (by simpa using Ne.symm hij)
  | spawn program => exact .of_spawn .given (by simp)
  | inject | failSends | unhealthy | deafen | endSource | advance | drop => exact same (by simp)

/-- A task's own step makes of it what it turns to. -/
theorem act_own (h : s.tasks[i]? = some task) :
    (s.act (.step (.task i))).tasks[i]? = some (s.turned task) := by
  simp only [act, step, h]
  exact stepTask_own h

/-- The step of another agent tells a task something at most. -/
theorem act_elsewhere (h : s.tasks[i]? = some task) (other : a ≠ .step (.task i)) :
    ∃ task', (s.act a).tasks[i]? = some task' ∧ Told (!s.stopped) task task' := by
  have becomes := s.act_becomes a i
  rw [h] at becomes
  generalize (s.act a).tasks[i]? = after at becomes
  cases becomes with
  | own same => exact absurd same other
  | told _ told => exact ⟨_, rfl, told⟩

end Acts

end Mcp.Session
