import Mcp.Proofs.Session.Outcomes
import Mcp.Proofs.Session.Effects

/-!
A session that was told to stop winds down. It takes no new requests, so each request there is was
there before (`act_winds`), and once the table was cleared those that nothing has come for are being
turned back (`Cleared`). `Winding` collects what holds of every session about its stopping: the
reader does not leave a session that goes on, and neither the reader nor a close is done before the
table was cleared.
-/

namespace Mcp.Session

variable {σ ε : Type}

/-- What every act keeps holds after every run. -/
theorem run_keeps {P : Session σ ε → Prop} (keeps : ∀ s a, P s → P (s.act a)) {s : Session σ ε}
    (start : P s) (acts : List (Act σ ε)) : P (s.run acts) :=
  run_induction (P := fun s _ => P s) (h := []) (fun s _ a => keeps s a) start acts

/-! ### What is for good -/

/-- A session that was told to stop does not go on. -/
theorem act_stopped {s : Session σ ε} (stopped : s.stopped = true) (a : Act σ ε) :
    (s.act a).stopped = true := by
  cases s.act_whose a with
  | task h => rw [(act_leaves h).stopped, stopped, Bool.true_or]
  | reader => exact s.act_reads.stopped stopped
  | outside _ _ rest => exact rest.stopped stopped

theorem run_stopped {s : Session σ ε} (stopped : s.stopped = true) (acts : List (Act σ ε)) :
    (s.run acts).stopped = true :=
  run_keeps (P := fun s => s.stopped = true) (fun _ a stopped => act_stopped stopped a) stopped acts

/-- A reader that is gone does not come back. -/
theorem act_gone {s : Session σ ε} (gone : s.reader = .gone) (a : Act σ ε) :
    (s.act a).reader = .gone := by
  cases s.act_whose a with
  | task h => rw [(act_leaves h).reader, gone]
  | reader => simp [Session.act, step, Session.read, gone]
  | outside _ _ rest => rw [rest.reader, gone]

/-- The first close that stops a session takes its reader, and no other does. -/
theorem act_joinable {s : Session σ ε} (taken : s.joinable = false) (a : Act σ ε) :
    (s.act a).joinable = false := by
  cases s.act_whose a with
  | task h => rw [(act_leaves h).joinable, taken, Bool.false_and]
  | reader => rw [s.act_reads.joinable, taken]
  | outside _ _ rest => rw [rest.joinable, taken]

/-! ### Requests of a session that was told to stop -/

/-- How a request of a session that was told to stop may be after an act, with what the act is to
the session's requests. -/
inductive Winds (s : Session σ ε) (o : Ongoing σ ε) (x : Option Happening) : Ongoing σ ε → Prop
  /-- Others can give it up at most. -/
  | told {slot : Slot} : Slot.Gets false o.call.slot slot →
      Winds s o x { o with call := { o.call with slot } }
  | enter : o.stage = .admitted → Winds s o x { o with stage := .registered }
  | refuse : o.stage = .registered → Winds s o x { o with stage := .withdrawing .transportClosed }
  | send : o.stage = .confirmed → x = some (.sent o.call.id (s.now + o.call.timeout)) →
      Winds s o x { o with stage := .waiting (s.now + o.call.timeout) }
  | unsent {e : Error} : o.stage = .confirmed → x = some (.unsent o.call.id e) →
      Winds s o x { o with stage := .withdrawing e }
  | expire {deadline : Nat} : o.stage = .waiting deadline → x = some (.expired o.call.id) →
      Winds s o x { o with stage := .withdrawing (.timeout o.call.method o.call.timeout) }

section Stopped

variable {s : Session σ ε} {i : Nat} {o : Ongoing σ ε}

/-- A program of a session that was told to stop starts no request. -/
theorem started_none (stopped : s.stopped = true) (program : Program σ ε Unit) :
    (s.started program).ongoing? = none := by
  cases program with
  | request | notify =>
    simp only [started, stopped, if_true]
    rfl
  | done | respond | sleep | now | emit | update | await | health | close => rfl

/-- The own step of a request that does not end. -/
theorem calledOn_winds (stopped : s.stopped = true) {o' : Ongoing σ ε}
    (ho : (s.calledOn o.call o.next o.stage).ongoing? = some o') :
    Winds s o (s.callHappening o.call o.stage) o' := by
  obtain ⟨call, stage, next⟩ := o
  cases stage with
  | admitted =>
    cases ho
    exact .enter rfl
  | registered =>
    simp only [calledOn, stopped, if_true] at ho
    cases ho
    exact .refuse rfl
  | confirmed =>
    cases result : (s.link.send call.message).1 with
    | ok u =>
      cases u
      simp only [calledOn, result] at ho
      cases ho
      rw [Call.message] at result
      simp only [callHappening, result]
      exact .send rfl rfl
    | error e =>
      simp only [calledOn, result] at ho
      cases ho
      rw [Call.message] at result
      simp only [callHappening, result]
      exact .unsent rfl rfl
  | waiting deadline =>
    simp only [calledOn] at ho
    split at ho
    · cases ho
    · rename_i nothing
      simp only [callHappening, nothing]
      split at ho
      · rename_i late
        cases ho
        rw [if_pos late]
        exact .expire rfl rfl
      · cases ho
        exact .told .same
  | withdrawing => cases ho

/-- Each request of a session that was told to stop was there before. -/
theorem act_winds (stopped : s.stopped = true) {a : Act σ ε} {o' : Ongoing σ ε}
    (ho' : (s.act a).ongoing? i = some o') :
    ∃ o, s.ongoing? i = some o ∧ Winds s o (s.happening a) o' := by
  have here := ongoing?_eq_some.mp ho'
  have becomes := s.act_becomes a i
  rw [here] at becomes
  generalize before : s.tasks[i]? = old at becomes
  generalize after : some (Task.calling o'.call o'.stage o'.next) = new at becomes
  cases becomes with
  | @own task same =>
    have on : (s.turned task).ongoing? = some o' := by
      rw [← Option.some.inj after]
      rfl
    subst same
    rw [happening_task before]
    cases task with
    | ready program =>
      rw [turned, started_none stopped] at on
      cases on
    | calling call stage next =>
      exact ⟨⟨call, stage, next⟩, ongoing?_eq_some.mpr before,
        calledOn_winds (o := ⟨call, stage, next⟩) stopped on⟩
    | sending => cases on
    | sleeping =>
      simp only [turned] at on
      split at on <;> cases on
    | awaiting =>
      simp only [turned] at on
      split at on
      · cases on
      · split at on <;> cases on
    | closing stage next =>
      simp only [turned, closedOn] at on
      split at on <;> cases on
  | told _ told =>
    rw [stopped] at told
    cases told with
    | same =>
      cases after
      exact ⟨o', ongoing?_eq_some.mpr before, .told .same⟩
    | @news call slot stage next gets =>
      obtain ⟨call', stage', next'⟩ := o'
      cases after
      exact ⟨⟨call, stage', next'⟩, ongoing?_eq_some.mpr before, .told (Bool.not_true ▸ gets)⟩
    | watching => cases after
    | parked => cases after
  | new => cases after
  | absent => cases after

theorem act_ongoing?_none (stopped : s.stopped = true) (idle : s.ongoing? i = none)
    (a : Act σ ε) : (s.act a).ongoing? i = none := by
  cases h : (s.act a).ongoing? i with
  | none => rfl
  | some o' =>
    obtain ⟨o, ho, -⟩ := act_winds stopped h
    rw [idle] at ho
    cases ho

end Stopped

/-! ### Cleared tables -/

/-- A request has not seen the session open since it was put in the table, if it was. -/
def CallStage.turnedBack : CallStage → Prop
  | .admitted | .registered => True
  | .withdrawing e => e = .transportClosed
  | .confirmed | .waiting _ => False

/-- A session was told to stop, and has cleared its table since: a request for which nothing has
come is one that the session turns back. -/
structure Cleared (s : Session σ ε) : Prop where
  stopped : s.stopped = true
  turnedBack : ∀ {i o}, s.ongoing? i = some o → o.call.slot = .empty → o.stage.turnedBack

theorem Cleared.act {s : Session σ ε} (cleared : s.Cleared) (a : Act σ ε) : (s.act a).Cleared where
  stopped := act_stopped cleared.stopped a
  turnedBack {i o'} ho' empty := by
    obtain ⟨o, ho, winds⟩ := act_winds cleared.stopped ho'
    have before := cleared.turnedBack ho
    cases winds with
    | @told slot gets =>
      simp only at empty
      subst empty
      refine before ?_
      generalize o.call.slot = old at gets
      cases gets
      rfl
    | enter => exact trivial
    | refuse => exact rfl
    | send stage | unsent stage =>
      have := before empty
      rw [stage] at this
      exact this.elim
    | expire stage =>
      have := before empty
      rw [stage] at this
      exact this.elim

/-- A session that was told to stop and clears its table has cleared it. -/
theorem Sound.cleared {s : Session σ ε} (sound : Sound s) (stopped : s.stopped = true)
    {a : Act σ ε} (clears : s.happening a = some .cleared) : (s.act a).Cleared where
  stopped := act_stopped stopped a
  turnedBack {i o} ho empty := by
    have moves := s.act_moves a
    rw [clears] at moves
    cases moves with
    | advance _ step => cases step
    | clear requests =>
      rw [requests, sound.clear_eq, Option.map_eq_some_iff] at ho
      obtain ⟨p, -, rfl⟩ := ho
      have outside : (p.tell (fun _ => true) .dropped).inTable = false := by
        rw [Ongoing.inTable_tell (by simp), Bool.not_true, Bool.and_false]
      have admitted : (p.tell (fun _ => true) .dropped).stage = .admitted := by
        by_contra later
        rw [Ongoing.inTable_iff.mpr ⟨later, empty⟩] at outside
        cases outside
      rw [admitted]
      exact trivial

/-! ### Sessions that wind down -/

/-- A close has stopped the session. -/
def CloseStage.hasStopped : CloseStage → Bool
  | .joining | .clearing | .releasing => true
  | _ => false

/-- What holds of a session about its stopping. -/
structure Winding (s : Session σ ε) : Prop where
  sound : Sound s
  /-- The reader leaves when the session stops. -/
  reader : s.reader ≠ .reading → s.stopped = true
  /-- It is gone when it has cleared the table. -/
  gone : s.reader = .gone → s.Cleared
  joinable : s.joinable = false → s.stopped = true
  /-- A close that has stopped the session has let others know. -/
  closing {i : Nat} {stage : CloseStage} {next : Except Error Unit → Program σ ε Unit} :
    s.tasks[i]? = some (.closing stage next) → stage.hasStopped = true → s.joinable = false
  /-- It is done when it has cleared the table. -/
  releasing {i : Nat} {next : Except Error Unit → Program σ ε Unit} :
    s.tasks[i]? = some (.closing .releasing next) → s.Cleared
  /-- A close that waits and was not woken waits for requests in the table. -/
  parked {i deadline : Nat} {next : Except Error Unit → Program σ ε Unit} :
    s.tasks[i]? = some (.closing (.parked deadline false) next) → s.pending ≠ []

/-- What the others make of the stage of a close when the table is empty. -/
def CloseStage.wake : CloseStage → CloseStage
  | .watching deadline _ => .watching deadline true
  | .parked deadline _ => .parked deadline true
  | stage => stage

/-- How a close comes to a stage by an act. -/
inductive Shuts (s : Session σ ε) (a : Act σ ε) (i : Nat)
    (next : Except Error Unit → Program σ ε Unit) : CloseStage → Prop
  | begin {graceful : Bool} : a = .step (.task i) →
      s.tasks[i]? = some (.ready (.close graceful next)) →
      Shuts s a i next (if graceful then .draining (s.now + s.timeouts.close) else .stopping)
  | own {stage stage' : CloseStage} : a = .step (.task i) →
      s.tasks[i]? = some (.closing stage next) → s.nextStage stage = some stage' →
      Shuts s a i next stage'
  | told {stage stage' : CloseStage} : a ≠ .step (.task i) →
      s.tasks[i]? = some (.closing stage next) → stage' = stage ∨ stage' = stage.wake →
      Shuts s a i next stage'

theorem act_closing {s : Session σ ε} {a : Act σ ε} {i : Nat} {stage : CloseStage}
    {next : Except Error Unit → Program σ ε Unit}
    (h : (s.act a).tasks[i]? = some (.closing stage next)) : Shuts s a i next stage := by
  have becomes := s.act_becomes a i
  rw [h] at becomes
  generalize before : s.tasks[i]? = old at becomes
  generalize after : some (Task.closing stage next) = new at becomes
  cases becomes with
  | @own task same =>
    have turned := Option.some.inj after
    cases task with
    | ready program =>
      cases program with
      | close graceful next' =>
        cases turned
        exact .begin same before
      | request | notify =>
        simp only [Session.turned, started] at turned
        split at turned <;> cases turned
      | done | respond | sleep | now | emit | update | await | health => cases turned
    | calling call stage' next' =>
      cases stage' with
      | admitted | registered | withdrawing => cases turned
      | confirmed =>
        simp only [Session.turned, calledOn] at turned
        split at turned <;> cases turned
      | waiting =>
        simp only [Session.turned, calledOn] at turned
        split at turned
        · cases turned
        · split at turned <;> cases turned
    | sending => cases turned
    | sleeping =>
      simp only [Session.turned] at turned
      split at turned <;> cases turned
    | awaiting =>
      simp only [Session.turned] at turned
      split at turned
      · cases turned
      · split at turned <;> cases turned
    | closing stage' next' =>
      simp only [Session.turned, closedOn] at turned
      split at turned
      · rename_i goes
        cases turned
        exact .own same before goes
      · cases turned
  | told other told =>
    cases told with
    | same =>
      cases after
      exact .told other before (.inl rfl)
    | news => cases after
    | watching | parked =>
      cases after
      exact .told other before (.inr rfl)
  | new => cases after
  | absent => cases after

/-! ### The stages of a close -/

section Stages

variable {s : Session σ ε} {stage stage' : CloseStage}

theorem hasStopped_of_nextStage (h : s.nextStage stage = some stage')
    (later : stage'.hasStopped = true) : stage.hasStopped = true ∨ stage = .stopping := by
  cases stage with
  | joining | clearing | releasing => exact .inl rfl
  | stopping => exact .inr rfl
  | draining =>
    cases h
    cases later
  | watching | parked =>
    simp only [nextStage, Option.some.injEq] at h
    subst h
    split at later
    · cases later
    · first
      | cases later
      | split at later <;> cases later

theorem clearing_of_nextStage (h : s.nextStage stage = some .releasing) : stage = .clearing := by
  cases stage with
  | clearing => rfl
  | draining | releasing => cases h
  | watching | stopping | joining =>
    simp only [nextStage, Option.some.injEq] at h
    split at h <;> cases h
  | parked =>
    simp only [nextStage, Option.some.injEq] at h
    split at h
    · cases h
    · split at h <;> cases h

/-- A close that comes to wait, or stays so, saw requests in the table or waited before. -/
theorem parked_of_nextStage {deadline : Nat}
    (h : s.nextStage stage = some (.parked deadline false)) :
    s.pending ≠ [] ∨ stage = .parked deadline false := by
  cases stage with
  | clearing | draining | releasing => cases h
  | stopping | joining =>
    simp only [nextStage, Option.some.injEq] at h
    split at h <;> cases h
  | watching =>
    simp only [nextStage, Option.some.injEq] at h
    split at h
    · cases h
    · rename_i full
      exact .inl (by simpa using full)
  | parked =>
    simp only [nextStage, Option.some.injEq] at h
    split at h
    · cases h
    · split at h
      · cases h
      · exact .inr h

theorem hasStopped_wake : stage.wake.hasStopped = stage.hasStopped := by
  cases stage <;> rfl

theorem wake_ne_parked {deadline : Nat} (h : stage.wake = .parked deadline false) : False := by
  cases stage <;> cases h

theorem releasing_of_wake (h : stage.wake = .releasing) : stage = .releasing := by
  cases stage with
  | releasing => rfl
  | draining | watching | parked | stopping | joining | clearing => cases h

end Stages

/-! ### Every act keeps it -/

/-- No close waits without having been woken. -/
def AllAwake (s : Session σ ε) : Prop :=
  ∀ (i deadline : Nat) (next : Except Error Unit → Program σ ε Unit),
    s.tasks[i]? ≠ some (.closing (.parked deadline false) next)

theorem Task.wake_awake (task : Task σ ε) (deadline : Nat)
    (next : Except Error Unit → Program σ ε Unit) :
    task.wake ≠ .closing (.parked deadline false) next := by
  unfold Task.wake
  split
  · simp
  · simp
  · rename_i other
    rintro rfl
    exact other _ _ _ rfl

theorem AllAwake.of_wake {s : Session σ ε} {tasks : List (Task σ ε)}
    (h : s.tasks = tasks.map Task.wake) : s.AllAwake := by
  intro i deadline next
  rw [h, List.getElem?_map]
  cases tasks[i]? with
  | none => simp
  | some task => simpa using task.wake_awake deadline next

/-- An id that leaves the table as its last wakes whoever waits for that. -/
theorem withdraw_awake {s : Session σ ε} {id : String} (empty : (s.withdraw id).pending = []) :
    (s.withdraw id).AllAwake := by
  have empty : (s.pending.filter fun entry => entry.1 ≠ id).isEmpty = true := by
    rw [List.isEmpty_iff]
    exact empty
  have woken : (s.withdraw id).tasks = s.tasks.map Task.wake := by
    simp only [withdraw, empty, if_true]
  exact .of_wake woken

theorem clear_awake (s : Session σ ε) : s.clear.AllAwake := .of_wake rfl

theorem AllAwake.setTask {s : Session σ ε} (awake : s.AllAwake) {i : Nat} {task : Task σ ε}
    (own : ∀ deadline next, task ≠ .closing (.parked deadline false) next) :
    (s.setTask i task).AllAwake := by
  intro j deadline next
  by_cases hij : j = i
  · subst hij
    simp only [Session.setTask, List.getElem?_set, if_true]
    split
    · simpa using own deadline next
    · simp
  · rw [setTask_elsewhere s task hij]
    exact awake j deadline next

theorem AllAwake.accept {s : Session σ ε} (awake : s.AllAwake) (owner : Nat)
    (answer : Except RpcError Json) :
    ({ s with tasks := s.tasks.modify owner (Task.accept answer) } : Session σ ε).AllAwake := by
  intro i deadline next
  have here := awake i deadline next
  simp only [List.getElem?_modify]
  cases h : s.tasks[i]? with
  | none => simp
  | some task =>
    rw [h] at here
    simp only [Option.map_eq_map, Option.map_some]
    split
    · unfold Task.accept
      split
      · simp
      · exact here
    · exact here

theorem dispatch_awake {s s' : Session σ ε} {m : Message} (h : s.dispatch m = s')
    (before : s.pending ≠ []) (empty : s'.pending = []) : s'.AllAwake := by
  cases m with
  | request =>
    subst h
    exact absurd empty before
  | notification =>
    simp only [dispatch] at h
    split at h <;> subst h <;> exact absurd empty before
  | response r =>
    simp only [dispatch] at h
    split at h
    · subst h
      exact absurd empty before
    · split at h <;> subst h
      · exact withdraw_awake empty
      · exact (withdraw_awake empty).accept _ _

theorem read_awake {s s' : Session σ ε} (h : s.read = s') (before : s.pending ≠ [])
    (empty : s'.pending = []) : s'.AllAwake := by
  unfold Session.read at h
  split at h
  · split at h
    · subst h
      exact absurd empty before
    · split at h
      · exact dispatch_awake h before empty
      · split at h <;> subst h <;> exact absurd empty before
  · subst h
    exact s.clear_awake
  · subst h
    exact absurd empty before

/-- Whoever waits for the table to become empty is woken when it does. -/
theorem act_awake {s : Session σ ε} {a : Act σ ε} (before : s.pending ≠ [])
    (empty : (s.act a).pending = []) : (s.act a).AllAwake := by
  cases s.act_whose a with
  | @task i task h =>
    rw [(act_leaves h).pending] at empty
    simp only [Session.act, step, h]
    cases task with
    | calling call stage next =>
      cases stage with
      | admitted => simp [tabled] at empty
      | withdrawing e => exact (withdraw_awake empty).setTask (by simp)
      | registered | confirmed | waiting => exact absurd empty before
    | closing stage next =>
      cases stage with
      | clearing => exact s.clear_awake.setTask (by simp)
      | draining | watching | parked | stopping | joining | releasing => exact absurd empty before
    | ready | sending | sleeping | awaiting => exact absurd empty before
  | reader => exact read_awake rfl before empty
  | outside _ _ rest =>
    rw [rest.pending] at empty
    exact absurd empty before

theorem Winding.act {s : Session σ ε} (winding : Winding s) (a : Act σ ε) : Winding (s.act a) where
  sound := winding.sound.act a
  reader left := by
    cases s.act_whose a with
    | task h =>
      rw [(act_leaves h).reader] at left
      exact act_stopped (winding.reader left) _
    | reader =>
      rcases s.act_reads.reader with same | ⟨-, stopped⟩ | ⟨leaving, -⟩
      · rw [same] at left
        exact act_stopped (winding.reader left) _
      · exact stopped
      · exact act_stopped (winding.reader (by simp [leaving])) _
    | outside _ _ rest =>
      rw [rest.reader] at left
      exact act_stopped (winding.reader left) _
  gone gone := by
    cases s.act_whose a with
    | task h =>
      rw [(act_leaves h).reader] at gone
      exact (winding.gone gone).act _
    | reader =>
      rcases s.act_reads.reader with same | ⟨leaving, -⟩ | ⟨leaving, -⟩
      · rw [same] at gone
        exact (winding.gone gone).act _
      · rw [leaving] at gone
        cases gone
      · have stopped := winding.reader (by simp [leaving])
        exact winding.sound.cleared stopped (by simp [happening, readHappening, leaving])
    | outside _ _ rest =>
      rw [rest.reader] at gone
      exact (winding.gone gone).act _
  joinable taken := by
    cases s.act_whose a with
    | @task i task h =>
      rw [(act_leaves h).joinable, Bool.and_eq_false_iff] at taken
      rcases taken with before | stops
      · exact act_stopped (winding.joinable before) _
      · rw [(act_leaves h).stopped, Bool.or_eq_true_iff]
        exact .inr (by simpa using stops)
    | reader =>
      rw [s.act_reads.joinable] at taken
      exact act_stopped (winding.joinable taken) _
    | outside _ _ rest =>
      rw [rest.joinable] at taken
      exact act_stopped (winding.joinable taken) _
  closing {i stage next} h later := by
    cases act_closing h with
    | begin => split at later <;> cases later
    | own same before goes =>
      subst same
      rcases hasStopped_of_nextStage goes later with already | rfl
      · exact act_joinable (winding.closing before already) _
      · rw [(act_leaves before).joinable]
        exact Bool.and_false _
    | told _ before same =>
      refine act_joinable (winding.closing before ?_) a
      rcases same with rfl | rfl
      · exact later
      · rwa [hasStopped_wake] at later
  releasing {i next} h := by
    have shuts := act_closing h
    generalize at_ : CloseStage.releasing = stage at shuts
    cases shuts with
    | begin => split at at_ <;> cases at_
    | own same before goes =>
      subst same at_
      obtain rfl := clearing_of_nextStage goes
      have stopped := winding.joinable (winding.closing before rfl)
      exact winding.sound.cleared stopped (happening_task before)
    | told _ before same =>
      subst at_
      have there : s.tasks[i]? = some (.closing .releasing next) := by
        rcases same with rfl | woken
        · exact before
        · rw [releasing_of_wake woken.symm] at before
          exact before
      exact (winding.releasing there).act a
  parked {i deadline next} h empty := by
    have before : s.pending = [] := by
      by_contra full
      exact act_awake full empty i deadline next h
    have shuts := act_closing h
    generalize at_ : CloseStage.parked deadline false = stage at shuts
    cases shuts with
    | begin => split at at_ <;> cases at_
    | own _ there goes =>
      subst at_
      rcases parked_of_nextStage goes with full | rfl
      · exact full before
      · exact winding.parked there before
    | told _ there same =>
      subst at_
      rcases same with rfl | woken
      · exact winding.parked there before
      · exact wake_ne_parked woken.symm

theorem Winding.run {s : Session σ ε} (winding : Winding s) (acts : List (Act σ ε)) :
    Winding (s.run acts) :=
  run_keeps (fun _ a winding => winding.act a) winding acts

/-- Sessions start so. -/
theorem winding_of_start {label : String} {timeouts : Timeouts} {handlers : Handlers σ ε}
    {link : Transport.Memory} {shared : σ} {s : Session σ ε}
    (h : Session.start label timeouts handlers link shared = .ok s) : Winding s := by
  have fresh := fresh_of_start h
  have none {i : Nat} {task : Task σ ε} (h : s.tasks[i]? = some task) : False := by
    simp [fresh.tasks] at h
  unfold Session.start at h
  split at h
  · cases h
  · cases h
    exact ⟨fresh.sound, by simp, by simp, by simp, fun h => (none h).elim,
      fun h => (none h).elim, fun h => (none h).elim⟩

end Mcp.Session
