import Mathlib.Logic.Function.Basic
import Mcp.Proofs.Session.Run

/-!
What one act does to the requests of a session. `Moves` lists the few ways in which requests, the
table and the counter of ids can change, with the happening of each, and `act_moves` says that every
act is one of them. Proofs about requests look at these ways and not at the steps of a session.
-/

namespace Mcp.Session

variable {σ ε : Type}

/-- A request on its way, with what its program does on its outcome. -/
structure Ongoing (σ ε : Type) where
  call : Call
  stage : CallStage
  next : Except Error Json → Program σ ε Unit

/-- The request that a task is busy with. -/
def Task.ongoing? : Task σ ε → Option (Ongoing σ ε)
  | .calling call stage next => some ⟨call, stage, next⟩
  | _ => none

/-- The request that the task with an index is busy with. -/
def ongoing? (s : Session σ ε) (index : Nat) : Option (Ongoing σ ε) :=
  s.tasks[index]?.bind Task.ongoing?

/-- Puts something into a slot that is empty. -/
def Slot.fill : Slot → Slot → Slot
  | .empty, news => news
  | slot, _ => slot

def Ongoing.fill (news : Slot) (o : Ongoing σ ε) : Ongoing σ ε :=
  { o with call := { o.call with slot := o.call.slot.fill news } }

/-! ### Requests of changed sessions -/

@[simp] theorem ongoing?_tasks {s s' : Session σ ε} (h : s'.tasks = s.tasks) :
    s'.ongoing? = s.ongoing? := by
  funext i
  simp [ongoing?, h]

theorem ongoing?_setTask (s : Session σ ε) {i : Nat} {old : Task σ ε} (task : Task σ ε)
    (h : s.tasks[i]? = some old) :
    (s.setTask i task).ongoing? = Function.update s.ongoing? i task.ongoing? := by
  obtain ⟨hi, -⟩ := List.getElem?_eq_some_iff.mp h
  funext j
  by_cases hj : j = i
  · subst hj
    simp [ongoing?, setTask, hi]
  · simp [ongoing?, setTask, hj, Ne.symm hj]

theorem ongoing?_setTask_same (s : Session σ ε) {i : Nat} {old : Task σ ε} (task : Task σ ε)
    (h : s.tasks[i]? = some old) (same : task.ongoing? = old.ongoing?) :
    (s.setTask i task).ongoing? = s.ongoing? := by
  rw [ongoing?_setTask s task h, same]
  exact Function.update_eq_self_iff.mpr (by simp [ongoing?, h])

theorem ongoing?_spawn (s : Session σ ε) (program : Program σ ε Unit) :
    (s.spawn program).ongoing? = s.ongoing? := by
  funext i
  simp only [ongoing?, spawn, List.getElem?_append]
  split
  · rfl
  · rename_i hi
    rw [List.getElem?_eq_none (by omega : s.tasks.length ≤ i)]
    cases i - s.tasks.length <;> simp [Task.ongoing?]

@[simp] theorem Task.ongoing?_wake (task : Task σ ε) : task.wake.ongoing? = task.ongoing? := by
  unfold Task.wake
  split <;> rfl

theorem Task.ongoing?_accept (answer : Except RpcError Json) : ∀ task : Task σ ε,
    (task.accept answer).ongoing? = task.ongoing?.map (Ongoing.fill (.answered answer))
  | .calling ⟨_, _, _, _, .empty⟩ _ _ | .calling ⟨_, _, _, _, .answered _⟩ _ _
  | .calling ⟨_, _, _, _, .dropped⟩ _ _ => rfl
  | .ready _ | .sending .. | .sleeping .. | .awaiting .. | .closing .. => rfl

theorem Task.ongoing?_giveUp : ∀ task : Task σ ε,
    task.giveUp.ongoing? = task.ongoing?.map (Ongoing.fill .dropped)
  | .calling ⟨_, _, _, _, .empty⟩ _ _ | .calling ⟨_, _, _, _, .answered _⟩ _ _
  | .calling ⟨_, _, _, _, .dropped⟩ _ _ => rfl
  | .ready _ | .sending .. | .sleeping .. | .awaiting .. | .closing .. => rfl

@[simp] theorem ongoing?_withdraw (s : Session σ ε) (id : String) :
    (s.withdraw id).ongoing? = s.ongoing? := by
  funext i
  simp only [ongoing?, withdraw]
  split
  · cases h : s.tasks[i]? <;> simp [h]
  · rfl

theorem ongoing?_clear (s : Session σ ε) (i : Nat) :
    s.clear.ongoing? i =
      if s.pending.any (fun entry => entry.2 = i) then (s.ongoing? i).map (Ongoing.fill .dropped)
      else s.ongoing? i := by
  simp only [ongoing?, clear, List.getElem?_map, List.getElem?_mapIdx]
  cases h : s.tasks[i]? with
  | none => simp
  | some task =>
    simp only [Option.map_some, Option.bind_some, Task.ongoing?_wake]
    split
    · exact task.ongoing?_giveUp
    · rfl

theorem ongoing?_modify (s : Session σ ε) (answer : Except RpcError Json) (owner i : Nat) :
    ({ s with tasks := s.tasks.modify owner (Task.accept answer) } : Session σ ε).ongoing? i =
      if owner = i then (s.ongoing? i).map (Ongoing.fill (.answered answer))
      else s.ongoing? i := by
  simp only [ongoing?, List.getElem?_modify]
  cases h : s.tasks[i]? with
  | none => simp
  | some task =>
    simp only [Option.bind_some]
    split
    · exact task.ongoing?_accept answer
    · rfl

/-! ### The ways in which requests change -/

/-- How a request that is in the table, or was, goes on without leaving it. -/
inductive Advance (s : Session σ ε) (call : Call) :
    CallStage → Option Happening → CallStage → Prop
  | confirm : Advance s call .registered none .confirmed
  | refuse : s.stopped = true →
      Advance s call .registered (some (.refused call.id)) (.withdrawing .transportClosed)
  | send : Advance s call .confirmed (some (.sent call.id (s.now + call.timeout)))
      (.waiting (s.now + call.timeout))
  | fail (e : Error) : Advance s call .confirmed (some (.unsent call.id e)) (.withdrawing e)
  | expire {deadline : Nat} : call.slot = .empty → deadline ≤ s.now →
      Advance s call (.waiting deadline) (some (.expired call.id))
        (.withdrawing (.timeout call.method call.timeout))

/-- The ways in which an act may change requests, the table and the counter of ids, with the
happening of each. -/
inductive Moves (s s' : Session σ ε) : Option Happening → Prop
  | quiet : s'.ongoing? = s.ongoing? → s'.pending = s.pending → s'.nextId = s.nextId →
      Moves s s' none
  | begin {i : Nat} {method : String} {params : Json} {timeout : Option Nat}
      {next : Except Error Json → Program σ ε Unit} :
      s.tasks[i]? = some (.ready (.request method params timeout next)) →
      s'.ongoing? = Function.update s.ongoing? i
        (some ⟨⟨s.freshId, method, params, timeout.getD s.timeouts.request, .empty⟩, .admitted,
          next⟩) →
      s'.pending = s.pending → s'.nextId = s.nextId + 1 →
      Moves s s' (some (.began s.freshId method (timeout.getD s.timeouts.request)))
  | enter {i : Nat} {call : Call} {next : Except Error Json → Program σ ε Unit} :
      s.ongoing? i = some ⟨call, .admitted, next⟩ →
      s'.ongoing? = Function.update s.ongoing? i (some ⟨call, .registered, next⟩) →
      s'.pending = s.pending ++ [(call.id, i)] → s'.nextId = s.nextId →
      Moves s s' (some (.entered call.id))
  | advance {i : Nat} {call : Call} {stage stage' : CallStage}
      {next : Except Error Json → Program σ ε Unit} {x : Option Happening} :
      s.ongoing? i = some ⟨call, stage, next⟩ → Advance s call stage x stage' →
      s'.ongoing? = Function.update s.ongoing? i (some ⟨call, stage', next⟩) →
      s'.pending = s.pending → s'.nextId = s.nextId → Moves s s' x
  | finish {i : Nat} {call : Call} {deadline : Nat} {next : Except Error Json → Program σ ε Unit}
      {outcome : Except Error Json} :
      s.ongoing? i = some ⟨call, .waiting deadline, next⟩ → call.slot.outcome? = some outcome →
      s'.ongoing? = Function.update s.ongoing? i none →
      s'.tasks[i]? = some (.ready (next outcome)) →
      s'.pending = s.pending → s'.nextId = s.nextId → Moves s s' (some (.ended call.id outcome))
  | withdraw {i : Nat} {call : Call} {e : Error} {next : Except Error Json → Program σ ε Unit} :
      s.ongoing? i = some ⟨call, .withdrawing e, next⟩ →
      s'.ongoing? = Function.update s.ongoing? i none →
      s'.tasks[i]? = some (.ready (next (.error e))) →
      s'.pending = s.pending.filter (fun entry => entry.1 ≠ call.id) → s'.nextId = s.nextId →
      Moves s s' (some (.ended call.id (.error e)))
  | hear {r : Response} :
      s.stopped = false →
      (∀ i, s'.ongoing? i =
        if (r.id.bind fun id => s.pending.lookup id.key) = some i then
          (s.ongoing? i).map (Ongoing.fill (.answered r.answer))
        else s.ongoing? i) →
      s'.pending = s.pending.filter (fun entry => r.id.map RequestId.key ≠ some entry.1) →
      s'.nextId = s.nextId → Moves s s' (some (.heard r))
  | clear :
      (∀ i, s'.ongoing? i =
        if s.pending.any (fun entry => entry.2 = i) then
          (s.ongoing? i).map (Ongoing.fill .dropped)
        else s.ongoing? i) →
      s'.pending = [] → s'.nextId = s.nextId → Moves s s' (some .cleared)

/-! ### Every act is one of them -/

theorem Moves.of_tasks {s s' : Session σ ε} (ht : s'.tasks = s.tasks)
    (hp : s'.pending = s.pending) (hn : s'.nextId = s.nextId) : Moves s s' none :=
  .quiet (ongoing?_tasks ht) hp hn

/-- A task that is busy with no request, before and after, moves no request. -/
theorem Moves.setTask {s t : Session σ ε} {i : Nat} {old task : Task σ ε}
    (h : s.tasks[i]? = some old) (same : task.ongoing? = old.ongoing?) (ht : t.tasks = s.tasks)
    (hp : t.pending = s.pending) (hn : t.nextId = s.nextId) :
    Moves s (t.setTask i task) none := by
  refine .quiet ?_ hp hn
  rw [ongoing?_setTask_same t task (by rw [ht]; exact h) same, ongoing?_tasks ht]

theorem begin_moves (s : Session σ ε) {i : Nat} {program : Program σ ε Unit}
    (h : s.tasks[i]? = some (.ready program)) :
    Moves s (s.begin i program) (s.taskHappening (.ready program)) := by
  cases program with
  | done => exact .of_tasks rfl rfl rfl
  | request method params timeout next =>
    simp only [begin, taskHappening]
    cases s.stopped with
    | true => exact .setTask h rfl rfl rfl rfl
    | false => exact .begin h (ongoing?_setTask { s with nextId := s.nextId + 1 } _ h) rfl rfl
  | notify =>
    simp only [begin, taskHappening]
    split <;> exact .setTask h rfl rfl rfl rfl
  | close graceful =>
    simp only [begin, taskHappening]
    exact .setTask h rfl rfl rfl rfl
  | respond | sleep | now | emit | update | await | health => exact .setTask h rfl rfl rfl rfl

theorem stepCall_moves (s : Session σ ε) {i : Nat} {call : Call} {stage : CallStage}
    {next : Except Error Json → Program σ ε Unit}
    (h : s.tasks[i]? = some (.calling call stage next)) :
    Moves s (s.stepCall i call next stage) (s.callHappening call stage) := by
  have hi : s.ongoing? i = some ⟨call, stage, next⟩ := by simp [ongoing?, h, Task.ongoing?]
  have hlt : i < s.tasks.length := (List.getElem?_eq_some_iff.mp h).1
  cases stage with
  | admitted =>
    exact .enter hi (ongoing?_setTask { s with pending := s.pending ++ [(call.id, i)] } _ h) rfl rfl
  | registered =>
    simp only [stepCall, callHappening]
    cases hs : s.stopped with
    | true => exact .advance hi (.refuse hs) (ongoing?_setTask s _ h) rfl rfl
    | false => exact .advance hi .confirm (ongoing?_setTask s _ h) rfl rfl
  | confirmed =>
    simp only [stepCall, callHappening]
    split
    · rename_i link sent
      rw [sent]
      exact .advance hi .send (ongoing?_setTask { s with link } _ h) rfl rfl
    · rename_i e link unsent
      rw [unsent]
      exact .advance hi (.fail e) (ongoing?_setTask { s with link } _ h) rfl rfl
  | waiting deadline =>
    simp only [stepCall, callHappening]
    cases hslot : call.slot with
    | empty =>
      simp only [Slot.outcome?]
      split
      · rename_i late
        exact .advance hi (.expire hslot late) (ongoing?_setTask s _ h) rfl rfl
      · exact .of_tasks rfl rfl rfl
    | dropped =>
      exact .finish hi (by rw [hslot]; rfl) (ongoing?_setTask s _ h) (by simp [setTask, hlt])
        rfl rfl
    | answered answer =>
      have filled : call.slot.outcome? = some (outcomeOf answer) := by rw [hslot]; rfl
      cases answer with
      | ok value =>
        exact .finish hi filled (ongoing?_setTask s _ h) (by simp [setTask, hlt, outcomeOf]) rfl
          rfl
      | error e =>
        exact .finish hi filled (ongoing?_setTask s _ h) (by simp [setTask, hlt, outcomeOf]) rfl
          rfl
  | withdrawing e =>
    have h' : ∃ old, (s.withdraw call.id).tasks[i]? = some old := by
      simp only [Session.withdraw]
      split <;> simp [h]
    obtain ⟨old, h'⟩ := h'
    refine .withdraw hi ?_ ?_ rfl rfl
    · rw [stepCall, ongoing?_setTask _ _ h', ongoing?_withdraw]
      rfl
    · simp [stepCall, setTask, (List.getElem?_eq_some_iff.mp h').1]

theorem stepClose_moves (s : Session σ ε) {i : Nat} {stage : CloseStage}
    {next : Except Error Unit → Program σ ε Unit}
    (h : s.tasks[i]? = some (.closing stage next)) :
    Moves s (s.stepClose i next stage) (s.taskHappening (.closing stage next)) := by
  cases stage with
  | draining | watching | stopping | releasing => exact .setTask h rfl rfl rfl rfl
  | parked =>
    simp only [stepClose, taskHappening]
    split
    · exact .setTask h rfl rfl rfl rfl
    · split
      · exact .setTask h rfl rfl rfl rfl
      · exact .of_tasks rfl rfl rfl
  | joining =>
    simp only [stepClose, taskHappening]
    split
    · exact .setTask h rfl rfl rfl rfl
    · exact .of_tasks rfl rfl rfl
  | clearing =>
    have h' : ∃ stage, s.clear.tasks[i]? = some (.closing stage next) := by
      simp only [Session.clear, List.getElem?_map, List.getElem?_mapIdx, h, Option.map_some]
      split <;> exact ⟨_, rfl⟩
    obtain ⟨stage, h'⟩ := h'
    refine .clear (fun j => ?_) rfl rfl
    rw [stepClose, ongoing?_setTask_same _ (.closing .releasing next) h' rfl, ongoing?_clear]

theorem stepTask_moves (s : Session σ ε) {i : Nat} {task : Task σ ε}
    (h : s.tasks[i]? = some task) : Moves s (s.stepTask i task) (s.taskHappening task) := by
  cases task with
  | ready program => exact s.begin_moves h
  | sending => exact .setTask h rfl rfl rfl rfl
  | calling call stage next => exact s.stepCall_moves h
  | sleeping =>
    simp only [stepTask, taskHappening]
    split
    · exact .setTask h rfl rfl rfl rfl
    · exact .of_tasks rfl rfl rfl
  | awaiting =>
    simp only [stepTask, taskHappening]
    split
    · exact .setTask h rfl rfl rfl rfl
    · split
      · exact .setTask h rfl rfl rfl rfl
      · exact .of_tasks rfl rfl rfl
  | closing stage next => exact s.stepClose_moves h

theorem dispatch_response_moves {s t : Session σ ε} (r : Response) (open_ : s.stopped = false)
    (ht : t.tasks = s.tasks) (hp : t.pending = s.pending) (hn : t.nextId = s.nextId) :
    Moves s (t.dispatch (.response r)) (some (.heard r)) := by
  cases hid : r.id with
  | none =>
    simp only [dispatch, hid]
    exact .hear open_ (fun i => by simp [hid, ongoing?_tasks ht])
      (by simp [hid, hp, List.filter_eq_self.mpr]) hn
  | some id =>
    have pending : (t.withdraw id.key).pending =
        s.pending.filter fun entry => r.id.map RequestId.key ≠ some entry.1 := by
      simp [Session.withdraw, hid, hp, eq_comm (a := RequestId.key id)]
    simp only [dispatch, hid, hp]
    cases owner : s.pending.lookup id.key with
    | none =>
      exact .hear open_ (fun i => by simp [hid, owner, ongoing?_tasks ht]) pending hn
    | some index =>
      refine .hear open_ (fun i => ?_) pending hn
      have := ongoing?_modify (t.withdraw id.key) r.answer index i
      simp only [ongoing?_withdraw, ongoing?_tasks ht] at this
      simp only [hid, Option.bind_some, owner, Option.some.injEq]
      exact this

theorem read_moves (s : Session σ ε) : Moves s s.read s.readHappening := by
  unfold Session.read readHappening
  cases s.reader with
  | gone => exact .of_tasks rfl rfl rfl
  | leaving => exact .clear (ongoing?_clear s) rfl rfl
  | reading =>
    cases open_ : s.stopped with
    | true => exact .of_tasks rfl rfl rfl
    | false =>
      cases received : s.link.receive with
      | mk message link =>
        cases message with
        | none =>
          simp only [Bool.false_eq_true, if_false]
          split <;> exact .of_tasks rfl rfl rfl
        | some message =>
          cases message with
          | response r => exact dispatch_response_moves r open_ rfl rfl rfl
          | request r => exact .quiet (ongoing?_spawn { s with link } _) rfl rfl
          | notification n =>
            simp only [Bool.false_eq_true, if_false, dispatch]
            split
            · exact .quiet (ongoing?_spawn { s with link } _) rfl rfl
            · exact .of_tasks rfl rfl rfl

/-- Every act changes requests in one of the ways that `Moves` lists. -/
theorem act_moves (s : Session σ ε) (a : Act σ ε) : Moves s (s.act a) (s.happening a) := by
  cases a with
  | step agent =>
    cases agent with
    | task index =>
      simp only [act, step, happening]
      cases h : s.tasks[index]? with
      | none => exact .of_tasks rfl rfl rfl
      | some task => exact s.stepTask_moves h
    | forwarder => exact .of_tasks rfl rfl rfl
    | reader => exact s.read_moves
  | spawn program => exact .quiet (ongoing?_spawn s program) rfl rfl
  | inject | failSends | unhealthy | deafen | endSource | advance | drop =>
    exact .of_tasks rfl rfl rfl

end Mcp.Session
