import Mcp.Proofs.Session.Effects
import Mcp.Proofs.Session.Wire

/-!
A task among the others. Whatever the task with an index is, the acts of others do the same to
everything else (`act_beside`), say the same and can be taken as well; all that they do to the task
itself is to tell it something (`Passive`). So no task waits for another: `run_beside`.
-/

namespace Mcp.Session

variable {σ ε : Type}

/-- What the acts of others do to a task. -/
inductive Passive : (Task σ ε → Task σ ε) → Prop
  | same : Passive fun task => task
  | wake : Passive Task.wake
  | giveUp : Passive Task.giveUp
  | accept (answer : Except RpcError Json) : Passive (Task.accept answer)
  | comp {f g : Task σ ε → Task σ ε} : Passive f → Passive g → Passive fun task => f (g task)

theorem Passive.ite {p : Prop} [Decidable p] {f : Task σ ε → Task σ ε} (passive : Passive f) :
    Passive fun task => if p then f task else task := by
  by_cases h : p
  · simpa only [if_pos h] using passive
  · simpa only [if_neg h] using Passive.same

/-! ### Setting a task -/

section Set

variable (s : Session σ ε) {i j : Nat} (task : Task σ ε)

theorem setTask_setTask (new : Task σ ε) : (s.setTask i task).setTask i new = s.setTask i new := by
  simp only [setTask, List.set_set]

theorem length_setTask (s : Session σ ε) (i : Nat) (task : Task σ ε) :
    (s.setTask i task).tasks.length = s.tasks.length := by
  simp only [setTask, List.length_set]

theorem setTask_comm (other : j ≠ i) (new : Task σ ε) :
    (s.setTask i task).setTask j new = (s.setTask j new).setTask i task := by
  simp only [setTask]
  rw [List.set_comm _ _ other.symm]

theorem setTask_self {s : Session σ ε} {task : Task σ ε} (h : s.tasks[i]? = some task) :
    s.setTask i task = s := by
  obtain ⟨inside, rfl⟩ := List.getElem?_eq_some_iff.mp h
  simp only [setTask, List.set_getElem_self]

theorem spawn_setTask (inside : i < s.tasks.length) (program : Program σ ε Unit) :
    (s.setTask i task).spawn program = (s.spawn program).setTask i task := by
  simp only [setTask, spawn, List.set_append_left _ _ inside]

theorem withdraw_setTask (id : String) :
    (s.setTask i task).withdraw id = (s.withdraw id).setTask i
      (if (s.pending.filter fun entry => entry.1 ≠ id).isEmpty then task.wake else task) := by
  have same : (s.setTask i task).pending = s.pending := rfl
  unfold withdraw
  simp only [same]
  split
  · simp only [setTask, List.map_set]
  · rfl

theorem clear_setTask :
    (s.setTask i task).clear = s.clear.setTask i
      (if s.pending.any fun entry => entry.2 = i then task.giveUp else task).wake := by
  simp only [setTask, clear]
  rw [List.mapIdx_set, List.map_set]
  rfl

theorem modify_set (tasks : List (Task σ ε)) (owner : Nat) (answer : Except RpcError Json) :
    (tasks.set i task).modify owner (Task.accept answer) =
      (tasks.modify owner (Task.accept answer)).set i
        (if owner = i then task.accept answer else task) := by
  refine List.ext_getElem? fun j => ?_
  simp only [List.getElem?_modify, List.getElem?_set, List.length_modify]
  by_cases here : i = j
  · subst here
    simp only [if_true]
    split <;> split <;> simp_all
  · simp only [if_neg here]

end Set

/-! ### A step apart from the task that takes it -/

/-- What the step of the task with an index makes of everything but that task. -/
def aside (s : Session σ ε) (i : Nat) : Task σ ε → Session σ ε
  | .ready (.request ..) => if s.stopped then s else { s with nextId := s.nextId + 1 }
  | .ready (.emit event _) => { s with log := s.log ++ [event] }
  | .ready (.update change _) => { s with shared := change s.shared }
  | .sending message _ => { s with link := (s.link.send message).2 }
  | .calling call .admitted _ => { s with pending := s.pending ++ [(call.id, i)] }
  | .calling call .confirmed _ => { s with link := (s.link.send call.message).2 }
  | .calling call (.withdrawing _) _ => s.withdraw call.id
  | .closing .stopping _ => { s with stopped := true, joinable := false }
  | .closing .clearing _ => s.clear
  | .closing .releasing _ => { s with link := s.link.close }
  | _ => s

section Aside

variable {s : Session σ ε} {i : Nat}

theorem begin_eq {program : Program σ ε Unit} (h : s.tasks[i]? = some (.ready program)) :
    s.begin i program = (s.aside i (.ready program)).setTask i (s.started program) := by
  cases program with
  | done => exact (setTask_self h).symm
  | request =>
    simp only [begin, aside, started]
    split <;> rfl
  | notify =>
    simp only [begin, aside, started]
    split <;> rfl
  | respond | sleep | now | emit | update | await | health | close => rfl

theorem stepCall_eq {call : Call} {stage : CallStage}
    {next : Except Error Json → Program σ ε Unit}
    (h : s.tasks[i]? = some (.calling call stage next)) :
    s.stepCall i call next stage =
      (s.aside i (.calling call stage next)).setTask i (s.calledOn call next stage) := by
  cases stage with
  | admitted | registered | withdrawing => rfl
  | confirmed =>
    simp only [stepCall, aside, calledOn, Call.message]
    split
    · rename_i sent
      rw [sent]
    · rename_i unsent
      rw [unsent]
  | waiting =>
    simp only [stepCall, aside, calledOn]
    cases slot : call.slot with
    | answered answer => cases answer <;> rfl
    | dropped => rfl
    | empty =>
      simp only [Slot.outcome?]
      split
      · rfl
      · exact (setTask_self h).symm

theorem stepClose_eq {stage : CloseStage} {next : Except Error Unit → Program σ ε Unit}
    (h : s.tasks[i]? = some (.closing stage next)) :
    s.stepClose i next stage =
      (s.aside i (.closing stage next)).setTask i (s.closedOn next stage) := by
  cases stage with
  | draining | watching | stopping | clearing | releasing => rfl
  | parked =>
    simp only [stepClose, aside, closedOn, nextStage]
    split
    · rfl
    · split
      · rfl
      · exact (setTask_self h).symm
  | joining =>
    simp only [stepClose, aside, closedOn, nextStage]
    split
    · rfl
    · exact (setTask_self h).symm

/-- A step is what it makes of the task that takes it, and what it makes of the rest. -/
theorem stepTask_eq {task : Task σ ε} (h : s.tasks[i]? = some task) :
    s.stepTask i task = (s.aside i task).setTask i (s.turned task) := by
  cases task with
  | ready program => exact begin_eq h
  | sending => rfl
  | calling call stage next => exact stepCall_eq h
  | closing stage next => exact stepClose_eq h
  | sleeping =>
    simp only [stepTask, aside, turned]
    split
    · rfl
    · exact (setTask_self h).symm
  | awaiting =>
    simp only [stepTask, aside, turned]
    split
    · rfl
    · split
      · rfl
      · exact (setTask_self h).symm

end Aside

/-! ### Acts beside a task -/

/-- An operation does the same beside the task with an index, whatever that task is. -/
def SameBeside (i : Nat) (op : Session σ ε → Session σ ε) (s : Session σ ε) : Prop :=
  ∃ f, Passive f ∧ ∀ task, op (s.setTask i task) = (op s).setTask i (f task)

section Beside

variable {s : Session σ ε} {i : Nat}

theorem turned_setTask (task t : Task σ ε) : (s.setTask i task).turned t = s.turned t := by
  cases t with
  | ready program => cases program <;> rfl
  | calling call stage => cases stage <;> rfl
  | closing stage => cases stage <;> rfl
  | sending | sleeping | awaiting => rfl

theorem taskTraffic_setTask (task t : Task σ ε) :
    (s.setTask i task).taskTraffic t = s.taskTraffic t := by
  cases t with
  | ready program => cases program <;> rfl
  | calling call stage => cases stage <;> rfl
  | sending | sleeping | awaiting | closing => rfl

theorem canStep_setTask (task t : Task σ ε) : (s.setTask i task).canStep t = s.canStep t := by
  cases t with
  | ready program => cases program <;> rfl
  | calling call stage => cases stage <;> rfl
  | closing stage => cases stage <;> rfl
  | sending | sleeping | awaiting => rfl

theorem sameBeside_rfl {op : Session σ ε → Session σ ε}
    (h : ∀ task, op (s.setTask i task) = (op s).setTask i task) : SameBeside i op s :=
  ⟨_, .same, h⟩

theorem withdraw_beside (id : String) : SameBeside i (·.withdraw id) s :=
  ⟨_, .ite .wake, fun task => s.withdraw_setTask task id⟩

theorem clear_beside : SameBeside i clear s :=
  ⟨_, .comp .wake (.ite .giveUp), fun task => s.clear_setTask task⟩

theorem aside_beside (j : Nat) (t : Task σ ε) : SameBeside i (·.aside j t) s := by
  cases t with
  | ready program =>
    cases program with
    | request =>
      refine sameBeside_rfl fun task => ?_
      have same : (s.setTask i task).stopped = s.stopped := rfl
      simp only [aside, same]
      split <;> rfl
    | done | notify | respond | sleep | now | emit | update | await | health | close =>
      exact sameBeside_rfl fun _ => rfl
  | calling call stage next =>
    cases stage with
    | withdrawing => exact withdraw_beside call.id
    | admitted | registered | confirmed | waiting => exact sameBeside_rfl fun _ => rfl
  | closing stage next =>
    cases stage with
    | clearing => exact clear_beside
    | draining | watching | parked | stopping | joining | releasing =>
      exact sameBeside_rfl fun _ => rfl
  | sending | sleeping | awaiting => exact sameBeside_rfl fun _ => rfl

/-- A step of another task. -/
theorem step_beside {j : Nat} (other : j ≠ i) : SameBeside i (·.step (.task j)) s := by
  cases h : s.tasks[j]? with
  | none =>
    refine sameBeside_rfl fun task => ?_
    simp only [step, setTask_elsewhere s task other, h]
  | some t =>
    obtain ⟨f, passive, same⟩ := s.aside_beside (i := i) j t
    refine ⟨f, passive, fun task => ?_⟩
    have h' := (setTask_elsewhere s task other).trans h
    simp only [step, h, h']
    simp only at same
    rw [stepTask_eq h, stepTask_eq h', turned_setTask, same, setTask_comm _ _ other]

theorem dispatch_beside (inside : i < s.tasks.length) (m : Message) :
    SameBeside i (·.dispatch m) s := by
  cases m with
  | request r => exact sameBeside_rfl fun task => s.spawn_setTask task inside _
  | notification n =>
    refine sameBeside_rfl fun task => ?_
    have same : (s.setTask i task).handlers = s.handlers := rfl
    simp only [dispatch, same]
    split
    · exact s.spawn_setTask task inside _
    · rfl
  | response r =>
    cases id : r.id with
    | none => exact sameBeside_rfl fun task => by simp only [dispatch, id]
    | some id' =>
      obtain ⟨f, passive, same⟩ := withdraw_beside (s := s) (i := i) id'.key
      cases owner : s.pending.lookup id'.key with
      | none =>
        refine ⟨f, passive, fun task => ?_⟩
        have owner' : (s.setTask i task).pending.lookup id'.key = none := owner
        simp only [dispatch, id, owner, owner']
        exact same task
      | some index =>
        refine ⟨_, .comp (.ite (p := index = i) (.accept r.answer)) passive, fun task => ?_⟩
        have owner' : (s.setTask i task).pending.lookup id'.key = some index := owner
        simp only [dispatch, id, owner, owner']
        simp only at same
        rw [same]
        simp only [setTask, modify_set]
        rfl

theorem read_beside (inside : i < s.tasks.length) : SameBeside i read s := by
  cases reader : s.reader with
  | gone =>
    refine sameBeside_rfl fun task => ?_
    have reader' : (s.setTask i task).reader = .gone := reader
    simp only [Session.read, reader, reader']
  | leaving =>
    obtain ⟨f, passive, same⟩ := clear_beside (s := s) (i := i)
    refine ⟨f, passive, fun task => ?_⟩
    have reader' : (s.setTask i task).reader = .leaving := reader
    simp only [Session.read, reader, reader', same]
    rfl
  | reading =>
    have reader' (task : Task σ ε) : (s.setTask i task).reader = .reading := reader
    have stopped' (task : Task σ ε) : (s.setTask i task).stopped = s.stopped := rfl
    have link' (task : Task σ ε) : (s.setTask i task).link = s.link := rfl
    cases stopped : s.stopped with
    | true =>
      refine sameBeside_rfl fun task => ?_
      simp only [Session.read, reader, reader', stopped', stopped, if_true]
      rfl
    | false =>
      cases received : s.link.receive with
      | mk m link =>
        cases m with
        | none =>
          refine sameBeside_rfl fun task => ?_
          simp only [Session.read, reader, reader', stopped', stopped, link', received,
            Bool.false_eq_true, if_false]
          split <;> rfl
        | some m =>
          obtain ⟨f, passive, same⟩ := dispatch_beside (s := { s with link }) (i := i) inside m
          refine ⟨f, passive, fun task => ?_⟩
          have heard : s.traffic (.step .reader) = some (.heard m) := by
            simp [traffic, readTraffic, reader, stopped, received]
          have heard' : (s.setTask i task).traffic (.step .reader) = some (.heard m) := heard
          simp only [read_of_heard heard, read_of_heard heard', link', received]
          exact same task

/-- What the act of another does to everything but a task does not depend on that task. -/
theorem act_beside {a : Act σ ε} (inside : i < s.tasks.length) (other : a ≠ .step (.task i)) :
    SameBeside i (·.act a) s := by
  cases a with
  | step agent =>
    cases agent with
    | task j => exact step_beside fun same => other (by rw [same])
    | forwarder => exact sameBeside_rfl fun _ => rfl
    | reader => exact read_beside inside
  | spawn program => exact sameBeside_rfl fun task => s.spawn_setTask task inside program
  | inject | failSends | unhealthy | deafen | endSource | advance | drop =>
    exact sameBeside_rfl fun _ => rfl

/-- What the act of another is to the wire does not depend on a task. -/
theorem traffic_beside {a : Act σ ε} (other : a ≠ .step (.task i)) (task : Task σ ε) :
    (s.setTask i task).traffic a = s.traffic a := by
  unfold traffic
  split
  · rename_i j
    have apart : j ≠ i := fun same => other (by rw [same])
    rw [setTask_elsewhere s task apart]
    exact congrArg s.tasks[j]?.bind (funext (taskTraffic_setTask task))
  · rfl
  · rfl

/-- Whether another agent can take a step does not depend on a task. -/
theorem enabled_beside {agent : Agent} (other : agent ≠ .task i) (task : Task σ ε) :
    (s.setTask i task).enabled agent = s.enabled agent := by
  cases agent with
  | task j =>
    have apart : j ≠ i := fun same => other (by rw [same])
    simp only [enabled, setTask_elsewhere s task apart, canStep_setTask]
  | forwarder | reader => rfl

/-- No act takes a task away. -/
theorem act_inside (a : Act σ ε) (inside : i < s.tasks.length) : i < (s.act a).tasks.length := by
  have there := List.getElem?_eq_getElem inside
  by_cases own : a = .step (.task i)
  · subst own
    exact (List.getElem?_eq_some_iff.mp (act_own there)).1
  · obtain ⟨task', there', -⟩ := act_elsewhere there own
    exact (List.getElem?_eq_some_iff.mp there').1

/-- A task's own step sets the task, so what was there before does not show in the rest. -/
theorem act_setTask (inside : i < s.tasks.length) (task : Task σ ε) :
    (s.setTask i task).act (.step (.task i)) = (s.aside i task).setTask i (s.turned task) := by
  have there : (s.setTask i task).tasks[i]? = some task :=
    setTask_own (List.getElem?_eq_getElem inside) _
  obtain ⟨f, -, same⟩ := s.aside_beside (i := i) i task
  simp only at same
  simp only [Session.act, Session.step, there]
  rw [stepTask_eq there, turned_setTask, same, setTask_setTask]

/-- As long as a task takes no step, whatever it is, the others do the same, and say the same. -/
theorem run_beside {acts : List (Act σ ε)} (inside : i < s.tasks.length)
    (still : .step (.task i) ∉ acts) :
    ∃ f, Passive f ∧ ∀ task, (s.setTask i task).run acts = (s.run acts).setTask i (f task) ∧
      (s.setTask i task).transcript acts = s.transcript acts := by
  induction acts generalizing s with
  | nil => exact ⟨_, .same, fun task => ⟨rfl, rfl⟩⟩
  | cons a acts ih =>
    obtain ⟨apart, still⟩ := not_or.mp (mt List.mem_cons.mpr still)
    obtain ⟨f, first, same⟩ := act_beside inside (Ne.symm apart)
    obtain ⟨g, later, rest⟩ := ih (act_inside a inside) still
    refine ⟨_, .comp later first, fun task => ?_⟩
    simp only at same
    obtain ⟨run, spoken⟩ := rest (f task)
    constructor
    · rw [run_cons, same, run, run_cons]
    · rw [transcript, same, spoken, traffic_beside (Ne.symm apart), transcript]

end Beside

end Mcp.Session
