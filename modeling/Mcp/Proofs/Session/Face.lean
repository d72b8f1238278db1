import Mcp.Proofs.Session.Beside
import Mcp.Proofs.Session.Draining

/-!
What shows of a session: everything but the messages that are on their way in, and whether a graceful
close that waits is about to look at the table again (`face`). What an act does to the face depends on
the face alone, but for the acts of the reader and of a close that looks at the table (`plain_congr`).
-/

namespace Mcp

/-- A transport without what is on its way in. -/
def Transport.Memory.dry (t : Transport.Memory) : Transport.Memory :=
  { t with
    unclaimed := false
    sourceOpen := false
    forwarding := false
    receiving := false
    queue := []
    inbox := [] }

namespace Transport.Memory

variable (t : Memory) (m : Message)

theorem send_dry : t.dry.send m = ((t.send m).1, (t.send m).2.dry) := by
  have status : t.dry.status = t.status := rfl
  have failing : t.dry.failing = t.failing := rfl
  have peerListens : t.dry.peerListens = t.peerListens := rfl
  unfold send
  simp only [status, failing, peerListens]
  split
  · rfl
  · split
    · rfl
    · split <;> rfl

theorem dry_inject : (t.inject m).dry = t.dry := by
  unfold inject
  split <;> rfl

theorem dry_forward : t.forward.dry = t.dry := by
  unfold forward
  split
  · rfl
  · split
    · rfl
    · split
      · split <;> rfl
      · split <;> rfl

end Transport.Memory

namespace Session

variable {σ ε : Type}

/-! ### Faces -/

/-- A close that is to look at the table, wherever it is on the way to that. -/
def CloseStage.calm : CloseStage → CloseStage
  | .watching deadline _ => .draining deadline
  | .parked deadline true => .draining deadline
  | stage => stage

def Task.calm : Task σ ε → Task σ ε
  | .closing stage next => .closing stage.calm next
  | task => task

/-- What shows of a session: its time, its requests and table, what was sent, whether it is closed, and
how far its programs are. -/
def face (s : Session σ ε) : Session σ ε :=
  { s with link := s.link.dry, tasks := s.tasks.map Task.calm }

/-- Whether a close waits for the table and has a step to take. -/
def CloseStage.awake : CloseStage → Bool
  | .draining _ => true
  | .watching _ _ => true
  | .parked _ woken => woken
  | _ => false

def Task.awake : Task σ ε → Bool
  | .closing stage _ => stage.awake
  | _ => false

section Calm

theorem CloseStage.calm_calm (stage : CloseStage) : stage.calm.calm = stage.calm := by
  cases stage with
  | parked deadline woken => cases woken <;> rfl
  | draining | watching | stopping | joining | clearing | releasing => rfl

theorem CloseStage.calm_of_not_awake {stage : CloseStage} (asleep : stage.awake = false) :
    stage.calm = stage := by
  cases stage with
  | draining | watching => cases asleep
  | parked deadline woken =>
    cases asleep
    rfl
  | stopping | joining | clearing | releasing => rfl

theorem CloseStage.awake_calm (stage : CloseStage) : stage.calm.awake = stage.awake := by
  cases stage with
  | parked deadline woken => cases woken <;> rfl
  | draining | watching | stopping | joining | clearing | releasing => rfl

theorem CloseStage.calm_wake_calm (stage : CloseStage) :
    stage.calm.wake.calm = stage.wake.calm := by
  cases stage with
  | parked deadline woken => cases woken <;> rfl
  | draining | watching | stopping | joining | clearing | releasing => rfl

theorem Task.calm_calm (task : Task σ ε) : task.calm.calm = task.calm := by
  cases task with
  | closing stage next => exact congrArg (Task.closing · next) stage.calm_calm
  | ready | sending | calling | sleeping | awaiting => rfl

theorem Task.calm_of_not_awake {task : Task σ ε} (asleep : task.awake = false) :
    task.calm = task := by
  cases task with
  | closing stage next =>
    exact congrArg (Task.closing · next) (CloseStage.calm_of_not_awake asleep)
  | ready | sending | calling | sleeping | awaiting => rfl

theorem Task.awake_calm (task : Task σ ε) : task.calm.awake = task.awake := by
  cases task with
  | closing stage next => exact stage.awake_calm
  | ready | sending | calling | sleeping | awaiting => rfl

theorem Task.wake_closing (stage : CloseStage) (next : Except Error Unit → Program σ ε Unit) :
    (Task.closing stage next).wake = .closing stage.wake next := by
  cases stage <;> rfl

theorem Task.calm_wake_calm (task : Task σ ε) : task.calm.wake.calm = task.wake.calm := by
  cases task with
  | closing stage next =>
    simp only [calm, wake_closing]
    exact congrArg (Task.closing · next) stage.calm_wake_calm
  | ready | sending | calling | sleeping | awaiting => rfl

theorem Task.giveUp_calm (task : Task σ ε) : task.calm.giveUp = task.giveUp.calm := by
  cases task with
  | calling call stage next =>
    obtain ⟨id, method, params, timeout, slot⟩ := call
    cases slot <;> rfl
  | ready | sending | closing | sleeping | awaiting => rfl

theorem Task.accept_calm (answer : Except RpcError Json) (task : Task σ ε) :
    task.calm.accept answer = (task.accept answer).calm := by
  cases task with
  | calling call stage next =>
    obtain ⟨id, method, params, timeout, slot⟩ := call
    cases slot <;> rfl
  | ready | sending | closing | sleeping | awaiting => rfl

end Calm

/-! ### What depends on the face alone -/

/-- What an operation makes of the face depends on the face alone. -/
def Outward (op : Session σ ε → Session σ ε) : Prop := ∀ s, (op s).face = (op s.face).face

section Outward

variable {s s' : Session σ ε}

@[simp] theorem face_face (s : Session σ ε) : s.face.face = s.face := by
  simp only [face, List.map_map]
  exact congrArg (fun f => { s with link := s.link.dry, tasks := s.tasks.map f })
    (funext Task.calm_calm)

theorem Outward.congr {op : Session σ ε → Session σ ε} (outward : Outward op)
    (same : s.face = s'.face) : (op s).face = (op s').face := by
  rw [outward s, same, ← outward s']

theorem Outward.comp {op op' : Session σ ε → Session σ ε} (first : Outward op)
    (second : Outward op') : Outward fun s => op' (op s) := by
  intro s
  rw [second (op s), first s, ← second (op s.face)]

theorem setTask_outward (i : Nat) (task : Task σ ε) : Outward (·.setTask i task) := by
  intro s
  simp only [setTask, face, List.map_set, List.map_map]
  exact congrArg (fun f => { s with link := s.link.dry, tasks := (s.tasks.map f).set i task.calm })
    (funext fun task => (Task.calm_calm task).symm)

theorem spawn_outward (program : Program σ ε Unit) : Outward (·.spawn program) := by
  intro s
  simp only [spawn, face, List.map_append, List.map_map]
  exact congrArg (fun f => { s with
    link := s.link.dry
    tasks := s.tasks.map f ++ [Task.ready program] }) (funext fun task => (Task.calm_calm task).symm)

theorem withdraw_tasks (s : Session σ ε) (id : String) : (s.withdraw id).tasks =
    s.tasks.map fun task =>
      if (s.pending.filter fun entry => entry.1 ≠ id).isEmpty then task.wake else task := by
  unfold withdraw
  split
  · rename_i empty
    simp only [if_pos empty]
  · rename_i full
    simp only [if_neg full, List.map_id']

theorem withdraw_outward (id : String) : Outward (σ := σ) (ε := ε) (·.withdraw id) := by
  intro s
  have told (p : Prop) [Decidable p] (task : Task σ ε) :
      (if p then task.wake else task).calm = (if p then task.calm.wake else task.calm).calm := by
    split
    · rw [Task.calm_wake_calm]
    · rw [Task.calm_calm]
  have tasks : (s.withdraw id).face.tasks = (s.face.withdraw id).face.tasks := by
    simp only [face, withdraw_tasks, List.map_map]
    exact congrArg s.tasks.map (funext fun task => told _ task)
  exact congrArg (fun tasks => { s.face with
    pending := s.pending.filter fun entry => entry.1 ≠ id
    tasks }) tasks

theorem clear_outward : Outward (σ := σ) (ε := ε) clear := by
  intro s
  have each (p : Prop) [Decidable p] (task : Task σ ε) :
      (if p then task.giveUp else task).wake.calm =
        (if p then task.calm.giveUp else task.calm).wake.calm := by
    split
    · rw [Task.giveUp_calm, Task.calm_wake_calm]
    · rw [Task.calm_wake_calm]
  simp only [clear, face, List.map_map]
  congr 1
  refine List.ext_getElem? fun i => ?_
  simp only [List.getElem?_map, List.getElem?_mapIdx]
  cases s.tasks[i]? with
  | none => rfl
  | some task => exact congrArg some (each _ task)

theorem answer_outward (owner : Nat) (answer : Except RpcError Json) : Outward (σ := σ) (ε := ε)
    fun s => { s with tasks := s.tasks.modify owner (Task.accept answer) } := by
  intro s
  simp only [face]
  congr 1
  refine List.ext_getElem? fun i => ?_
  simp only [List.getElem?_map, List.getElem?_modify]
  cases s.tasks[i]? with
  | none => rfl
  | some task =>
    refine congrArg some ?_
    show (if owner = i then task.accept answer else task).calm =
      (if owner = i then task.calm.accept answer else task.calm).calm
    split
    · rw [Task.accept_calm, Task.calm_calm]
    · exact task.calm_calm.symm

theorem sent_face (s : Session σ ε) (m : Message) :
    (s.face.link.send m).1 = (s.link.send m).1 ∧
      (s.face.link.send m).2.dry = (s.link.send m).2.dry := by
  have same : s.face.link.send m = ((s.link.send m).1, (s.link.send m).2.dry) := s.link.send_dry m
  rw [same]
  exact ⟨rfl, rfl⟩

theorem send_outward (m : Message) :
    Outward (σ := σ) (ε := ε) fun s => { s with link := (s.link.send m).2 } := by
  intro s
  calc { s.face with link := (s.link.send m).2.dry }
    _ = { s.face.face with link := (s.face.link.send m).2.dry } := by
      rw [face_face, (s.sent_face m).2]

theorem aside_outward (i : Nat) (task : Task σ ε) : Outward (·.aside i task) := by
  have unmoved : Outward (σ := σ) (ε := ε) fun s => s := fun s => s.face_face.symm
  -- What is set beside the tasks and the transport stays as it is in the face.
  have rest (f : Session σ ε → Session σ ε) (s : Session σ ε) : f s.face = f s.face.face := by
    rw [face_face]
  cases task with
  | ready program =>
    cases program with
    | request =>
      intro s
      have stopped : s.face.stopped = s.stopped := rfl
      simp only [aside, stopped]
      split
      · exact unmoved s
      · exact rest (fun s => { s with nextId := s.nextId + 1 }) s
    | emit event => exact rest fun s => { s with log := s.log ++ [event] }
    | update change => exact rest fun s => { s with shared := change s.shared }
    | done | notify | respond | sleep | now | await | health | close => exact unmoved
  | sending message => exact send_outward message
  | calling call stage =>
    cases stage with
    | admitted => exact rest fun s => { s with pending := s.pending ++ [(call.id, i)] }
    | confirmed => exact send_outward call.message
    | withdrawing => exact withdraw_outward call.id
    | registered | waiting => exact unmoved
  | closing stage =>
    cases stage with
    | stopping => exact rest fun s => { s with stopped := true, joinable := false }
    | clearing => exact clear_outward
    | releasing => exact rest fun s => { s with link := s.link.close }
    | draining | watching | parked | joining => exact unmoved
  | sleeping | awaiting => exact unmoved

theorem turned_face (s : Session σ ε) (task : Task σ ε) : s.face.turned task = s.turned task := by
  cases task with
  | ready program => cases program <;> rfl
  | sending message next => exact congrArg (fun r => Task.ready (next r)) (s.sent_face message).1
  | calling call stage next =>
    cases stage with
    | confirmed =>
      simp only [turned, calledOn, (s.sent_face call.message).1]
      rfl
    | admitted | registered | waiting | withdrawing => rfl
  | closing stage => cases stage <;> rfl
  | sleeping | awaiting => rfl

theorem taskHappening_face (s : Session σ ε) (task : Task σ ε) :
    s.face.taskHappening task = s.taskHappening task := by
  cases task with
  | ready program => cases program <;> rfl
  | calling call stage next =>
    cases stage with
    | confirmed =>
      have sent := (s.sent_face call.message).1
      rw [Call.message] at sent
      simp only [taskHappening, callHappening, sent]
      rfl
    | admitted | registered | waiting | withdrawing => rfl
  | closing stage => cases stage <;> rfl
  | sending | sleeping | awaiting => rfl

theorem dispatch_outward (m : Message) : Outward (σ := σ) (ε := ε) (·.dispatch m) := by
  have unmoved : Outward (σ := σ) (ε := ε) fun s => s := fun s => s.face_face.symm
  intro s
  cases m with
  | request r => exact spawn_outward (s.handlers.answer r) s
  | notification n =>
    have handlers : s.face.handlers = s.handlers := rfl
    simp only [dispatch, handlers]
    split
    · exact spawn_outward _ s
    · exact unmoved s
  | response r =>
    have pending : s.face.pending = s.pending := rfl
    cases id : r.id with
    | none =>
      simp only [dispatch, id]
      exact unmoved s
    | some id' =>
      cases owner : s.pending.lookup id'.key with
      | none =>
        simp only [dispatch, id, pending, owner]
        exact withdraw_outward id'.key s
      | some index =>
        simp only [dispatch, id, pending, owner]
        exact (withdraw_outward id'.key).comp (answer_outward index r.answer) s

end Outward

/-! ### Acts by what shows -/

/-- An act of a task that does not wait for the table, or of somebody outside. -/
def Plain (s : Session σ ε) : Act σ ε → Prop
  | .step (.task i) => ∀ task, s.tasks[i]? = some task → task.awake = false
  | .step .reader => False
  | _ => True

section Acts

variable {s s' : Session σ ε} {i : Nat}

theorem tasks_face (s : Session σ ε) (i : Nat) : s.face.tasks[i]? = s.tasks[i]?.map Task.calm :=
  List.getElem?_map ..

theorem task_of_face (same : s.face = s'.face) {task : Task σ ε} (h : s.tasks[i]? = some task) :
    ∃ task', s'.tasks[i]? = some task' ∧ task'.calm = task.calm := by
  have calm := s'.tasks_face i
  rw [← same, tasks_face, h, Option.map_some] at calm
  obtain ⟨task', h', same'⟩ := Option.map_eq_some_iff.mp calm.symm
  exact ⟨task', h', same'⟩

theorem asleep_of_face (same : s.face = s'.face) {task : Task σ ε} (h : s.tasks[i]? = some task)
    (asleep : task.awake = false) : s'.tasks[i]? = some task := by
  obtain ⟨task', h', calm⟩ := task_of_face same h
  have asleep' : task'.awake = false := by
    rw [← Task.awake_calm, calm, Task.awake_calm, asleep]
  rw [h', ← Task.calm_of_not_awake asleep', calm, Task.calm_of_not_awake asleep]

theorem awake_of_face (same : s.face = s'.face) {stage : CloseStage}
    {next : Except Error Unit → Program σ ε Unit}
    (h : s.tasks[i]? = some (.closing stage next)) :
    ∃ stage', s'.tasks[i]? = some (.closing stage' next) ∧ stage'.calm = stage.calm := by
  obtain ⟨task', h', calm⟩ := task_of_face same h
  cases task' with
  | closing stage' next' =>
    injection calm with same_stage same_next
    exact ⟨stage', by rw [h', same_next], same_stage⟩
  | ready | sending | calling | sleeping | awaiting => cases calm

theorem absent_of_face (same : s.face = s'.face) (h : s.tasks[i]? = none) :
    s'.tasks[i]? = none := by
  have calm := s'.tasks_face i
  rw [← same, tasks_face, h, Option.map_none] at calm
  exact Option.map_eq_none_iff.mp calm.symm

theorem plain_face {a : Act σ ε} (plain : s.Plain a) : (s.act a).face = (s.face.act a).face := by
  cases a with
  | step agent =>
    cases agent with
    | task i =>
      cases h : s.tasks[i]? with
      | none =>
        have h' : s.face.tasks[i]? = none := by rw [tasks_face, h, Option.map_none]
        simp only [Session.act, step, h, h', face_face]
      | some task =>
        have h' : s.face.tasks[i]? = some task := by
          rw [tasks_face, h, Option.map_some, Task.calm_of_not_awake (plain task h)]
        simp only [Session.act, step, h, h']
        rw [stepTask_eq h, stepTask_eq h', turned_face]
        exact (setTask_outward i (s.turned task)).congr (aside_outward i task s)
    | forwarder =>
      calc { s.face with link := s.link.forward.dry }
        _ = { s.face.face with link := s.face.link.forward.dry } := by
          rw [Transport.Memory.dry_forward, Transport.Memory.dry_forward, face_face]
          rfl
    | reader => exact plain.elim
  | spawn program => exact spawn_outward program s
  | inject m =>
    calc { s.face with link := (s.link.inject m).dry }
      _ = { s.face.face with link := (s.face.link.inject m).dry } := by
        rw [Transport.Memory.dry_inject, Transport.Memory.dry_inject, face_face]
        rfl
  | failSends on =>
    exact congrArg (fun s => { s with link := { s.link with failing := on } }) s.face_face.symm
  | unhealthy on =>
    exact congrArg (fun s => { s with link := { s.link with unhealthy := on } }) s.face_face.symm
  | deafen => exact congrArg (fun s => { s with link := s.link.deafen }) s.face_face.symm
  | endSource => exact s.face_face.symm
  | advance milliseconds =>
    exact congrArg (fun s => { s with now := s.now + milliseconds }) s.face_face.symm
  | drop => exact congrArg drop s.face_face.symm

theorem plain_congr (same : s.face = s'.face) {a : Act σ ε} (plain : s.Plain a) :
    s'.Plain a ∧ (s.act a).face = (s'.act a).face ∧ s.happening a = s'.happening a := by
  have plain' : s'.Plain a := by
    cases a with
    | step agent =>
      cases agent with
      | task i =>
        intro task' h'
        obtain ⟨task, h, calm⟩ := task_of_face same.symm h'
        rw [← Task.awake_calm, ← calm, Task.awake_calm]
        exact plain task h
      | forwarder => exact trivial
      | reader => exact plain
    | spawn | inject | failSends | unhealthy | deafen | endSource | advance | drop => exact trivial
  refine ⟨plain', ?_, ?_⟩
  · rw [plain_face plain, same, ← plain_face plain']
  · cases a with
    | step agent =>
      cases agent with
      | task i =>
        cases h : s.tasks[i]? with
        | none =>
          simp only [happening, h, absent_of_face same h]
          rfl
        | some task =>
          rw [happening_task h, happening_task (asleep_of_face same h (plain task h)),
            ← taskHappening_face, same, taskHappening_face]
      | forwarder => rfl
      | reader => exact plain.elim
    | spawn | inject | failSends | unhealthy | deafen | endSource | advance | drop => rfl

end Acts

end Session

end Mcp
