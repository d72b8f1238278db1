import Mcp.Proofs.Session.Turns

/-!
What one act does to the rest of a session. A task's own step changes the shared state, the
transport, the table and the marks of closing as `Leaves` says, the reader's step as `Reads` says,
and an act from outside as `Outside` says; `act_whose` says that there are no other acts.
-/

namespace Mcp.Session

variable {σ ε : Type}

/-- What a task's own step makes of the state that the programs share. -/
def changed (s : Session σ ε) : Task σ ε → σ
  | .ready (.update change _) => change s.shared
  | _ => s.shared

/-- What a task's own step makes of the transport. -/
def linked (s : Session σ ε) : Task σ ε → Transport.Memory
  | .sending message _ => (s.link.send message).2
  | .calling call .confirmed _ => (s.link.send call.message).2
  | .closing .releasing _ => s.link.close
  | _ => s.link

/-- What the step of the task with an index makes of the table. -/
def tabled (s : Session σ ε) (i : Nat) : Task σ ε → List (String × Nat)
  | .calling call .admitted _ => s.pending ++ [(call.id, i)]
  | .calling call (.withdrawing _) _ => s.pending.filter fun entry => entry.1 ≠ call.id
  | .closing .clearing _ => []
  | _ => s.pending

/-- Whether a task is about to stop the session. -/
def Task.stops : Task σ ε → Bool
  | .closing .stopping _ => true
  | _ => false

/-- What the step of the task with an index makes of what its session has beside tasks. -/
structure Leaves (s s' : Session σ ε) (i : Nat) (task : Task σ ε) : Prop where
  shared : s'.shared = s.changed task
  link : s'.link = s.linked task
  pending : s'.pending = s.tabled i task
  stopped : s'.stopped = (s.stopped || task.stops)
  joinable : s'.joinable = (s.joinable && !task.stops)
  reader : s'.reader = s.reader

/-- What the reader's step makes of what its session has beside tasks and the table. -/
structure Reads (s s' : Session σ ε) : Prop where
  shared : s'.shared = s.shared
  link : ∃ inbox receiving, s'.link = { s.link with inbox, receiving }
  stopped : s.stopped = true → s'.stopped = true
  joinable : s'.joinable = s.joinable
  /-- The reader goes on reading, stops with the session, or leaves for good. -/
  reader : s'.reader = s.reader ∨ (s'.reader = .leaving ∧ s'.stopped = true) ∨
    (s.reader = .leaving ∧ s' = { s.clear with reader := .gone, link := s.link.abandon })

section Rest

variable (s : Session σ ε) (i : Nat)

theorem begin_leaves (program : Program σ ε Unit) :
    Leaves s (s.begin i program) i (.ready program) := by
  have quiet {s' : Session σ ε} {program : Program σ ε Unit}
      (rest : s' = { s with tasks := s'.tasks, nextId := s'.nextId, log := s'.log })
      (same : s.changed (.ready program) = s.shared) : Leaves s s' i (.ready program) := by
    rw [rest]
    exact ⟨same.symm, rfl, rfl, (Bool.or_false _).symm, (Bool.and_true _).symm, rfl⟩
  cases program with
  | request | notify =>
    simp only [begin]
    split <;> exact quiet rfl rfl
  | update => exact ⟨rfl, rfl, rfl, (Bool.or_false _).symm, (Bool.and_true _).symm, rfl⟩
  | done | respond | sleep | now | emit | await | health | close => exact quiet rfl rfl

theorem stepTask_leaves (task : Task σ ε) : Leaves s (s.stepTask i task) i task := by
  have quiet {s' : Session σ ε} (rest : s' = { s with
      link := s.linked task, tasks := s'.tasks, pending := s.tabled i task })
      (same : s.changed task = s.shared) (goes : task.stops = false) : Leaves s s' i task := by
    rw [rest]
    exact ⟨same.symm, rfl, rfl, by simp [goes], by simp [goes], rfl⟩
  cases task with
  | ready program => exact s.begin_leaves i program
  | sending => exact quiet rfl rfl rfl
  | sleeping =>
    simp only [stepTask]
    split <;> exact quiet rfl rfl rfl
  | awaiting =>
    simp only [stepTask]
    split
    · exact quiet rfl rfl rfl
    · split <;> exact quiet rfl rfl rfl
  | calling call stage next =>
    cases stage with
    | admitted | registered | withdrawing => exact quiet rfl rfl rfl
    | confirmed =>
      simp only [stepTask, stepCall]
      split
      · rename_i link sent
        refine quiet ?_ rfl rfl
        rw [linked, Call.message, sent]
        rfl
      · rename_i e link unsent
        refine quiet ?_ rfl rfl
        rw [linked, Call.message, unsent]
        rfl
    | waiting =>
      simp only [stepTask, stepCall]
      split
      · exact quiet rfl rfl rfl
      · exact quiet rfl rfl rfl
      · exact quiet rfl rfl rfl
      · split <;> exact quiet rfl rfl rfl
  | closing stage next =>
    cases stage with
    | draining | watching | clearing | releasing => exact quiet rfl rfl rfl
    | stopping => exact ⟨rfl, rfl, rfl, (Bool.or_true _).symm, (Bool.and_false _).symm, rfl⟩
    | parked =>
      simp only [stepTask, stepClose]
      split
      · exact quiet rfl rfl rfl
      · split <;> exact quiet rfl rfl rfl
    | joining =>
      simp only [stepTask, stepClose]
      split <;> exact quiet rfl rfl rfl

variable {s} {i : Nat}

/-- A task's own step does to its session what `Leaves` says. -/
theorem act_leaves {task : Task σ ε} (h : s.tasks[i]? = some task) :
    Leaves s (s.act (.step (.task i))) i task := by
  simp only [act, step, h]
  exact s.stepTask_leaves i task

theorem Reads.of_rest {s' : Session σ ε} (rest : s' = { s with
    link := s'.link, tasks := s'.tasks, pending := s'.pending })
    (link : ∃ inbox receiving, s'.link = { s.link with inbox, receiving }) : Reads s s' := by
  rw [rest]
  exact ⟨rfl, link, id, rfl, .inl rfl⟩

theorem receive_link (t : Transport.Memory) :
    ∃ inbox, t.receive.2 = { t with inbox } := by
  unfold Transport.Memory.receive
  split
  · exact ⟨t.inbox, rfl⟩
  · rename_i m rest _
    exact ⟨rest, rfl⟩

/-- The reader's step does to its session what `Reads` says. -/
theorem act_reads (s : Session σ ε) : Reads s (s.act (.step .reader)) := by
  have still : Reads s s := .of_rest rfl ⟨s.link.inbox, s.link.receiving, rfl⟩
  simp only [act, step]
  unfold Session.read
  split
  · split
    · rename_i stopped
      exact ⟨rfl, ⟨s.link.inbox, s.link.receiving, rfl⟩, id, rfl, .inr (.inl ⟨rfl, stopped⟩)⟩
    · split
      · rename_i m link received
        obtain ⟨inbox, rest⟩ := receive_link s.link
        rw [received] at rest
        simp only at rest
        subst rest
        have taken : ∃ inbox' receiving, { s.link with inbox } =
            ({ s.link with inbox := inbox', receiving } : Transport.Memory) :=
          ⟨inbox, s.link.receiving, rfl⟩
        cases m with
        | request => exact .of_rest rfl taken
        | notification =>
          simp only [dispatch]
          split <;> exact .of_rest rfl taken
        | response =>
          simp only [dispatch]
          split
          · exact .of_rest rfl taken
          · split <;> exact .of_rest rfl taken
      · split
        · exact ⟨rfl, ⟨s.link.inbox, s.link.receiving, rfl⟩, fun _ => rfl, rfl,
            .inr (.inl ⟨rfl, rfl⟩)⟩
        · exact still
  · rename_i leaving
    exact ⟨rfl, ⟨[], false, rfl⟩, id, rfl, .inr (.inr ⟨leaving, rfl⟩)⟩
  · exact still

/-- What an act from outside makes of what a session has beside tasks. -/
structure Outside (s s' : Session σ ε) : Prop where
  shared : s'.shared = s.shared
  pending : s'.pending = s.pending
  stopped : s.stopped = true → s'.stopped = true
  joinable : s'.joinable = s.joinable
  reader : s'.reader = s.reader
  status : s'.link.status = s.link.status
  cancelled : s'.link.cancelled = s.link.cancelled
  sent : s'.link.sent = s.link.sent

/-- Whose an act is: a task's, the reader's, or somebody's outside. -/
inductive Whose (s : Session σ ε) : Act σ ε → Prop
  | task {i : Nat} {task : Task σ ε} : s.tasks[i]? = some task → Whose s (.step (.task i))
  | reader : Whose s (.step .reader)
  | outside {a : Act σ ε} : (∀ i, a = .step (.task i) → s.tasks[i]? = none) →
      a ≠ .step .reader → Outside s (s.act a) → Whose s a

theorem Outside.of_link {s : Session σ ε} {link : Transport.Memory}
    (status : link.status = s.link.status) (cancelled : link.cancelled = s.link.cancelled)
    (sent : link.sent = s.link.sent) : Outside s { s with link } :=
  ⟨rfl, rfl, id, rfl, rfl, status, cancelled, sent⟩

/-- The forwarder moves what comes in and nothing else. -/
theorem forward_rest (t : Transport.Memory) :
    ∃ forwarding queue inbox, t.forward = { t with forwarding, queue, inbox } := by
  unfold Transport.Memory.forward
  split
  · exact ⟨t.forwarding, t.queue, t.inbox, rfl⟩
  · split
    · exact ⟨false, [], t.inbox, rfl⟩
    · split
      · split
        · exact ⟨t.forwarding, _, _, rfl⟩
        · exact ⟨false, [], t.inbox, rfl⟩
      · split
        · exact ⟨t.forwarding, t.queue, t.inbox, rfl⟩
        · exact ⟨false, t.queue, t.inbox, rfl⟩

/-- Every act is a task's, the reader's, or somebody's outside. -/
theorem act_whose (s : Session σ ε) (a : Act σ ε) : Whose s a := by
  cases a with
  | step agent =>
    cases agent with
    | task i =>
      cases h : s.tasks[i]? with
      | some task => exact .task h
      | none =>
        refine .outside (fun j same => ?_) (by simp) ?_
        · cases same
          exact h
        · simp only [act, step, h]
          exact .of_link rfl rfl rfl
    | reader => exact .reader
    | forwarder =>
      obtain ⟨forwarding, queue, inbox, moved⟩ := forward_rest s.link
      refine .outside (by simp) (by simp) ?_
      simp only [act, step, moved]
      exact .of_link rfl rfl rfl
  | inject m =>
    refine .outside (by simp) (by simp) ?_
    simp only [act, Transport.Memory.inject]
    split <;> exact .of_link rfl rfl rfl
  | spawn program => exact .outside (by simp) (by simp) ⟨rfl, rfl, id, rfl, rfl, rfl, rfl, rfl⟩
  | drop => exact .outside (by simp) (by simp) ⟨rfl, rfl, fun _ => rfl, rfl, rfl, rfl, rfl, rfl⟩
  | failSends | unhealthy | deafen | endSource | advance =>
    exact .outside (by simp) (by simp) ⟨rfl, rfl, id, rfl, rfl, rfl, rfl, rfl⟩

end Rest

end Mcp.Session
