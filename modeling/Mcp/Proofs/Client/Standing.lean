import Mcp.Proofs.Client.Tasks
import Mcp.Proofs.Session.Winding

/-!
Where a client stands. It is idle before its handshake, busy with one handshake, or settled with the
agreement of the one that succeeded (`Standing`); each time its lifecycle, what is known of the
server, its tasks and its transcript fit together. A handshake that is underway goes on stage by
stage (`Underway.act_own`) while others stand by (`Bystands`), so every act leaves the client
standing somewhere (`Standing.act`).
-/

namespace Mcp.Client

open Schema (Agreement)
open Session (Act Informed Starts Task Told Traffic)

variable {ε : Type} {settings : Settings} {hooks : Hooks ε}
  {next : Except Error Agreement → Program State ε Unit}
  {s : Session State ε} {t : List Traffic} {i : Nat} {stage : Stage} {task : Task State ε}

/-- What holds of a client while one of its tasks is at a stage of a handshake. -/
def Stage.Holds (s : Session State ε) (t : List Traffic) (task : Task State ε) : Stage → Prop
  | .asking => s.shared.agreement = none ∧ attempts t = 0 ∧ Asked t task
  | .failing _ => s.shared.agreement = none ∧ attempts t = 0
  | .accepting a => s.shared.agreement = none ∧ attempts t = 0 ∧ AnswersLast t a
  | .announcing a => s.shared.agreement = some a ∧ attempts t = 0 ∧ AnswersLast t a
  | .ending a => s.shared.agreement = some a ∧ attempts t = 1 ∧ AnswersLast t a ∧
      (Announced t ∨ s.stopped = true)

/-- The task with an index is at a stage of a handshake, after which it goes on as `next` says. -/
structure Underway (settings : Settings) (next : Except Error Agreement → Program State ε Unit)
    (s : Session State ε) (t : List Traffic) (i : Nat) (stage : Stage) (task : Task State ε) :
    Prop where
  here : s.tasks[i]? = some task
  shakes : Shakes settings next stage task
  lifecycle : s.shared.lifecycle ∈ [.initializing, .closed]
  holds : stage.Holds s t task

/-- Where a client stands, with the transcript of what it did. -/
inductive Standing (settings : Settings) (s : Session State ε) (t : List Traffic) : Prop
  /-- No handshake is in flight, and none has succeeded. -/
  | idle : (∀ (j : Nat) (task : Task State ε), s.tasks[j]? = some task →
        Polite settings False none task) →
      s.shared.lifecycle ∈ [.uninitialized, .failed, .closed] → s.shared.agreement = none →
      attempts t = 0 → Standing settings s t
  /-- One task is in the course of a handshake, and no other is. -/
  | busy {next : Except Error Agreement → Program State ε Unit} {i : Nat} {stage : Stage}
      {task : Task State ε} : Underway settings next s t i stage task →
      (∀ r, Guest settings none (next r)) →
      (∀ (j : Nat) (task : Task State ε), j ≠ i → s.tasks[j]? = some task →
        Polite settings False none task) → Standing settings s t
  /-- A handshake has succeeded. -/
  | settled {a : Agreement} : (∀ (j : Nat) (task : Task State ε), s.tasks[j]? = some task →
        Polite settings (Announced t) (some a) task) →
      s.shared.lifecycle ∈ [.initialized, .closed] → s.shared.agreement = some a →
      attempts t = 1 → AnswersLast t a → Announced t ∨ s.stopped = true → Standing settings s t

/-! ### What more traffic leaves -/

/-- Traffic that asks for no handshake and announces nothing. -/
def Quiet (more : List Traffic) : Prop := asks more = [] ∧ attempts more = 0

theorem Quiet.nil : Quiet [] := ⟨rfl, rfl⟩

theorem Quiet.heard (m : Message) : Quiet [.heard m] := ⟨rfl, rfl⟩

theorem Harmless.quiet {heralded : Prop} {k : Option Agreement} {x : Option Traffic}
    (harmless : ∀ y, x = some y → Harmless heralded k y) : Quiet x.toList := by
  cases x with
  | none => exact .nil
  | some x => exact ⟨(harmless x rfl).asks, (harmless x rfl).attempts⟩

theorem Quiet.attempts_eq {more : List Traffic} (quiet : Quiet more) :
    attempts (t ++ more) = attempts t := by
  rw [attempts_append, quiet.2, Nat.add_zero]

theorem Asked.more {more : List Traffic} (asked : Asked t task) (quiet : Quiet more) :
    Asked (t ++ more) task := by
  intro call deadline next same
  obtain ⟨last, offered⟩ := asked call deadline next same
  rw [asks_append, quiet.1, List.append_nil]
  exact ⟨last, List.mem_append_left _ offered⟩

theorem Asked.told {open_ : Bool} {task' : Task State ε} (asked : Asked t task)
    (told : Told open_ task task') : Asked t task' := by
  cases told with
  | same => exact asked
  | @news call slot stage next =>
    rintro _ deadline _ ⟨⟩
    exact asked call deadline next rfl
  | watching | parked => rintro _ _ _ ⟨⟩

theorem Stage.Holds.more {more : List Traffic} {s' : Session State ε} {task' : Task State ε}
    (holds : stage.Holds s t task) (quiet : Quiet more)
    (agreement : s'.shared.agreement = s.shared.agreement)
    (stopped : s.stopped = true → s'.stopped = true) (asked : ∀ t, Asked t task → Asked t task') :
    stage.Holds s' (t ++ more) task' := by
  cases stage with
  | asking =>
    obtain ⟨unknown, tried, last⟩ := holds
    exact ⟨agreement.trans unknown, quiet.attempts_eq.trans tried, (asked _ last).more quiet⟩
  | failing e =>
    obtain ⟨unknown, tried⟩ := holds
    exact ⟨agreement.trans unknown, quiet.attempts_eq.trans tried⟩
  | accepting a | announcing a =>
    obtain ⟨kept, tried, answers⟩ := holds
    exact ⟨agreement.trans kept, quiet.attempts_eq.trans tried, answers.more more quiet.1⟩
  | ending a =>
    obtain ⟨kept, tried, answers, announced⟩ := holds
    exact ⟨agreement.trans kept, quiet.attempts_eq.trans tried, answers.more more quiet.1,
      announced.imp (Announced.more · more) stopped⟩

/-! ### What each task is doing -/

/-- A polite task's step while no agreement stands. -/
theorem Polite.proceeds_before {states : List Lifecycle} (polite : Polite settings False none task)
    (lifecycle : s.shared.lifecycle ∈ states) (early : .initialized ∉ states) :
    Proceeds settings False s none task :=
  polite.proceeds (by simp) (fun initialized => absurd (initialized ▸ lifecycle) early) (by simp)

/-- A polite task's step once an agreement stands. -/
theorem Polite.proceeds_after {a : Agreement}
    (polite : Polite settings (Announced t) (some a) task) (agreement : s.shared.agreement = some a)
    (announced : Announced t ∨ s.stopped = true) :
    Proceeds settings (Announced t) s (some a) task := by
  refine polite.proceeds ?_ (fun _ => ⟨a, rfl⟩) fun _ _ open_ => ?_
  · rintro _ ⟨⟩
    exact agreement
  · exact announced.resolve_right (by simp [open_])

/-- Where every handshake is refused, a polite task minds its own business. -/
theorem Proceeds.minds_of_mem {heralded : Prop} {k : Option Agreement} {states : List Lifecycle}
    (proceeds : Proceeds settings heralded s k task) (lifecycle : s.shared.lifecycle ∈ states)
    (busy : ∀ l ∈ states, refusal l ≠ none) : Minds settings heralded s k task := by
  cases proceeds with
  | minds minds => exact minds
  | begins begins => exact absurd begins.free (busy _ lifecycle)

/-- What a task of a client is doing: a handshake, or something polite. -/
inductive Role (settings : Settings) (s : Session State ε) (t : List Traffic)
    (task : Task State ε) : Prop
  | shakes {stage : Stage} {next : Except Error Agreement → Program State ε Unit} :
      Shakes settings next stage task → stage.Holds s t task → Role settings s t task
  | polite {heralded : Prop} {k : Option Agreement} : Polite settings heralded k task →
      Proceeds settings heralded s k task →
      (∀ a, k = some a → s.shared.agreement = some a ∧ AnswersLast t a) →
      (heralded → Announced t) → Role settings s t task

theorem Standing.role (standing : Standing settings s t) (h : s.tasks[i]? = some task) :
    Role settings s t task := by
  cases standing with
  | idle tasks lifecycle =>
    exact .polite (tasks i task h) ((tasks i task h).proceeds_before lifecycle (by decide))
      (by simp) False.elim
  | @busy _ j _ _ underway _ others =>
    by_cases same : i = j
    · subst same
      cases h.symm.trans underway.here
      exact .shakes underway.shakes underway.holds
    · have polite := others i task same h
      exact .polite polite (polite.proceeds_before underway.lifecycle (by decide)) (by simp)
        False.elim
  | settled tasks lifecycle agreement one answers announced =>
    refine .polite (tasks i task h) ((tasks i task h).proceeds_after agreement announced) ?_ id
    rintro _ ⟨⟩
    exact ⟨agreement, answers⟩

/-- At most one task is in the course of a handshake, and the client is initializing or closed
then. -/
theorem Standing.alone (standing : Standing settings s t) (h : s.tasks[i]? = some task)
    (shaking : Shaking settings task) :
    s.shared.lifecycle ∈ [.initializing, .closed] ∧
      ∀ (j : Nat) (task' : Task State ε), s.tasks[j]? = some task' → Shaking settings task' →
        j = i := by
  cases standing with
  | idle tasks => exact absurd shaking (tasks i task h).not_shaking
  | settled tasks => exact absurd shaking (tasks i task h).not_shaking
  | @busy _ n _ _ underway _ others =>
    have only {j : Nat} {task' : Task State ε} (h' : s.tasks[j]? = some task')
        (shaking' : Shaking settings task') : j = n := by
      by_contra apart
      exact (others j task' apart h').not_shaking shaking'
    refine ⟨underway.lifecycle, fun j task' h' shaking' => ?_⟩
    rw [only h' shaking', only h shaking]

/-! ### Acts of others -/

/-- An act asks for no handshake, announces nothing, and leaves the shared state as it is but that
it may close the client. -/
structure Bystands (s : Session State ε) (a : Act State ε) : Prop where
  quiet : Quiet (s.traffic a).toList
  agreement : (s.act a).shared.agreement = s.shared.agreement
  lifecycle : (s.act a).shared.lifecycle = s.shared.lifecycle ∨
    (s.act a).shared.lifecycle = .closed

theorem Bystands.lifecycle_mem {a : Act State ε} {states : List Lifecycle} (bystands : Bystands s a)
    (lifecycle : s.shared.lifecycle ∈ states) (closed : .closed ∈ states) :
    (s.act a).shared.lifecycle ∈ states := by
  rcases bystands.lifecycle with same | retired
  · rwa [same]
  · rwa [retired]

/-- If an act is a task's step, the task minds its own business. -/
def Minding (settings : Settings) (heralded : Prop) (s : Session State ε) (k : Option Agreement)
    (a : Act State ε) : Prop :=
  ∀ (j : Nat) (task : Task State ε), a = .step (.task j) → s.tasks[j]? = some task →
    Minds settings heralded s k task

section Minding

variable {a : Act State ε} {heralded : Prop} {k : Option Agreement}

theorem Minding.bystands (minding : Minding settings heralded s k a) : Bystands s a := by
  cases s.act_whose a with
  | @task j task there =>
    have minds := minding j task rfl there
    have shared := (Session.act_leaves there).shared
    refine ⟨?_, ?_, ?_⟩
    · rw [Session.traffic_task there]
      exact Harmless.quiet minds.harmless
    · rw [shared, minds.agreement]
    · rw [shared]
      exact minds.lifecycle
  | reader =>
    have shared := s.act_reads.shared
    refine ⟨?_, by rw [shared], .inl (by rw [shared])⟩
    cases h : s.traffic (.step .reader) with
    | none => exact .nil
    | some x =>
      obtain ⟨m, rfl⟩ := s.traffic_reader h
      exact .heard m
  | outside absent other rest =>
    refine ⟨?_, by rw [rest.shared], .inl (by rw [rest.shared])⟩
    rw [Session.traffic_outside absent other]
    exact .nil

/-- A task that takes no step of its own stays polite, and new tasks are. -/
theorem polite_elsewhere (own : s.handlers = handlers settings hooks)
    (legal : ∀ p, a = .spawn p → Guest settings none p) {j : Nat} (other : a ≠ .step (.task j))
    (old : ∀ task, s.tasks[j]? = some task → Polite settings heralded k task)
    {task' : Task State ε} (h : (s.act a).tasks[j]? = some task') :
    Polite settings heralded k task' := by
  have becomes := s.act_becomes a j
  rw [h] at becomes
  generalize before : s.tasks[j]? = there at becomes
  cases becomes with
  | own same => exact absurd same other
  | told _ told => exact (old _ before).told told
  | new starts =>
    refine .ready (Guest.mono ?_ k)
    cases starts with
    | given => exact legal _ rfl
    | asked =>
      rw [own]
      exact answer_guest _
    | told acts =>
      rw [own] at acts
      exact act_guest acts

/-- A polite task stays so, if its own steps mind its own business. -/
theorem Minding.polite (minding : Minding settings heralded s k a)
    (own : s.handlers = handlers settings hooks)
    (legal : ∀ p, a = .spawn p → Guest settings none p) {j : Nat}
    (old : ∀ task, s.tasks[j]? = some task → Polite settings heralded k task)
    {task' : Task State ε} (h : (s.act a).tasks[j]? = some task') :
    Polite settings heralded k task' := by
  by_cases step : a = .step (.task j)
  · subst step
    cases before : s.tasks[j]? with
    | none =>
      rw [Session.act, Session.step, before] at h
      rw [before] at h
      cases h
    | some task =>
      rw [Session.act_own before] at h
      cases h
      exact (minding j task rfl before).polite
  · exact polite_elsewhere own legal step old h

/-- While a handshake is underway, all other tasks mind their own business. -/
theorem Standing.bystands (standing : Standing settings s t) (h : s.tasks[i]? = some task)
    (shaking : Shaking settings task) (other : a ≠ .step (.task i)) : Bystands s a := by
  obtain ⟨lifecycle, only⟩ := standing.alone h shaking
  by_cases step : ∃ (j : Nat) (task' : Task State ε), a = .step (.task j) ∧ s.tasks[j]? = some task'
  · obtain ⟨j, task', rfl, there⟩ := step
    cases standing.role there with
    | shakes shakes =>
      obtain rfl := only j task' there ⟨_, _, shakes⟩
      exact absurd rfl other
    | @polite heralded k _ proceeds =>
      have minds := proceeds.minds_of_mem lifecycle (by decide)
      have minding : Minding settings heralded s k (.step (.task j)) := by
        rintro _ _ ⟨⟩ there'
        cases there.symm.trans there'
        exact minds
      exact minding.bystands
  · have minding : Minding settings False s none a := by
      intro j task' same there
      exact absurd ⟨j, task', same, there⟩ step
    exact minding.bystands

end Minding

/-! ### Handshakes underway -/

/-- A handshake stays at its stage while others act. -/
theorem Underway.act_elsewhere {a : Act State ε}
    (underway : Underway settings next s t i stage task) (bystands : Bystands s a)
    (other : a ≠ .step (.task i)) :
    ∃ task', Underway settings next (s.act a) (t ++ (s.traffic a).toList) i stage task' := by
  obtain ⟨task', h', told⟩ := Session.act_elsewhere underway.here other
  have lifecycle := bystands.lifecycle_mem underway.lifecycle (by decide)
  have holds : stage.Holds (s.act a) (t ++ (s.traffic a).toList) task' :=
    underway.holds.more bystands.quiet bystands.agreement
      (fun stopped => Session.act_stopped stopped a) fun t asked => asked.told told
  exact ⟨task', h', underway.shakes.told told, lifecycle, holds⟩

/-- A handshake that ends leaves the client in the state that it names, or closed. -/
theorem endHandshake_lifecycle {state : State}
    (lifecycle : state.lifecycle ∈ [.initializing, .closed]) (next : Lifecycle) :
    (state.endHandshake next).lifecycle =
      if state.lifecycle = .closed then .closed else next := by
  unfold State.endHandshake
  simp only [List.mem_cons, List.not_mem_nil, or_false] at lifecycle
  rcases lifecycle with busy | closed
  · simp [busy]
  · simp [closed]

theorem endHandshake_agreement (state : State) (next : Lifecycle) :
    (state.endHandshake next).agreement = state.agreement := by
  unfold State.endHandshake
  split <;> rfl

/-- How a handshake ends with a step of its task, with the transcript to then. -/
inductive Ends (next : Except Error Agreement → Program State ε Unit) (s s' : Session State ε)
    (t : List Traffic) (i : Nat) : Prop
  /-- It fails, and nothing is known of the server. -/
  | fails {e : Error} : s'.tasks[i]? = some (.ready (next (.error e))) →
      s'.shared.lifecycle = (if s.shared.lifecycle = .closed then .closed else .failed) →
      s'.shared.agreement = none → attempts t = 0 → Ends next s s' t i
  /-- It succeeds, and its agreement is kept. -/
  | succeeds {a : Agreement} : s'.tasks[i]? = some (.ready (next (.ok a))) →
      s'.shared.lifecycle = (if s.shared.lifecycle = .closed then .closed else .initialized) →
      s'.shared.agreement = some a → attempts t = 1 → AnswersLast t a →
      Announced t ∨ s'.stopped = true → Ends next s s' t i

/-- What the own step of a task in the course of a handshake leads to. -/
inductive Underway.Goes (settings : Settings) (next : Except Error Agreement → Program State ε Unit)
    (s s' : Session State ε) (t : List Traffic) (i : Nat) : Prop
  | on {stage : Stage} {task : Task State ε} : Underway settings next s' t i stage task →
      Goes settings next s s' t i
  | ends : Ends next s s' t i → Goes settings next s s' t i

theorem Underway.act_own (underway : Underway settings next s t i stage task)
    (informed : Informed s t) :
    Underway.Goes settings next s (s.act (.step (.task i)))
      (t ++ (s.taskTraffic task).toList) i := by
  obtain ⟨h, shakes, lifecycle, holds⟩ := underway
  have leaves := Session.act_leaves h
  have here := Session.act_own h
  have heard : Heard t task := by
    rintro call callStage next answer rfl answered
    have ongoing : s.ongoing? i = some ⟨call, callStage, next⟩ := by
      simp [Session.ongoing?, h, Task.ongoing?]
    exact informed i _ answer ongoing answered
  -- The handshake is at its next stage.
  have on {stage' : Stage} (shakes' : Shakes settings next stage' (s.turned task))
      (state : (s.changed task).lifecycle = s.shared.lifecycle)
      (holds' : stage'.Holds (s.act (.step (.task i))) (t ++ (s.taskTraffic task).toList)
        (s.turned task)) :
      Underway.Goes settings next s (s.act (.step (.task i)))
        (t ++ (s.taskTraffic task).toList) i := by
    refine .on ⟨here, shakes', ?_, holds'⟩
    rwa [leaves.shared, state]
  have asked : stage = .asking → Asked t task := by
    rintro rfl
    exact holds.2.2
  cases shakes.advances (s := s) (t := t) asked heard with
  | asks asks same =>
    obtain ⟨agreement, untried, -⟩ := holds
    have agreement' : (s.act (.step (.task i))).shared.agreement = none := by
      rw [leaves.shared, same, agreement]
    cases asks with
    | on shakes' asked' quiet =>
      refine on shakes' (by rw [same]) ⟨agreement', ?_, asked'⟩
      rw [attempts_append, untried, quiet]
    | judge answer turned silent answers =>
      rw [turned, silent] at on
      rw [silent]
      have none' : attempts (t ++ (none : Option Traffic).toList) = 0 :=
        Quiet.nil.attempts_eq.trans untried
      refine on .ready (by rw [same]) ?_
      unfold Stage.judged
      cases judged : verdict answer with
      | error e => exact ⟨agreement', none'⟩
      | ok a => exact ⟨agreement', none', (answers a judged).more _ rfl⟩
  | @fails e turned same silent =>
    obtain ⟨agreement, untried⟩ := holds
    rw [turned] at here
    rw [silent]
    refine .ends (.fails here ?_ ?_ (Quiet.nil.attempts_eq.trans untried))
    · rw [leaves.shared, same, endHandshake_lifecycle lifecycle]
    · rw [leaves.shared, same, endHandshake_agreement, agreement]
  | @keeps a turned same silent =>
    obtain ⟨agreement, untried, answers⟩ := holds
    have kept : s.shared.agree a = { s.shared with agreement := some a } := by
      simp [State.agree, agreement]
    rw [turned, silent, same, kept] at on
    rw [silent]
    refine on .ready rfl ⟨?_, Quiet.nil.attempts_eq.trans untried, answers.more _ rfl⟩
    rw [leaves.shared, same, kept]
  | announces shakes' same silent =>
    obtain ⟨agreement, untried, answers⟩ := holds
    rw [silent] at on ⊢
    refine on shakes' (by rw [same]) ⟨?_, Quiet.nil.attempts_eq.trans untried, answers.more _ rfl⟩
    rw [leaves.shared, same, agreement]
  | @announced a result turned same traffic =>
    obtain ⟨agreement, untried, answers⟩ := holds
    rw [turned, traffic] at on
    rw [traffic]
    refine on .ready (by rw [same]) ⟨?_, ?_, answers.more _ rfl, ?_⟩
    · rw [leaves.shared, same, agreement]
    · rw [attempts_append, untried]
      rfl
    · exact .inl ⟨result, List.mem_append_right _ List.mem_cons_self⟩
  | withheld stopped turned same traffic =>
    obtain ⟨agreement, untried, answers⟩ := holds
    rw [turned, traffic] at on
    rw [traffic]
    refine on .ready (by rw [same]) ⟨?_, ?_, answers.more _ rfl, ?_⟩
    · rw [leaves.shared, same, agreement]
    · rw [attempts_append, untried]
      rfl
    · exact .inr (Session.act_stopped stopped _)
  | @ends a turned same silent =>
    obtain ⟨agreement, one, answers, announced⟩ := holds
    rw [turned] at here
    rw [silent, Option.toList_none, List.append_nil]
    refine .ends (.succeeds here ?_ ?_ one answers
      (announced.imp_right fun stopped => Session.act_stopped stopped _))
    · rw [leaves.shared, same, endHandshake_lifecycle lifecycle]
    · rw [leaves.shared, same, endHandshake_agreement, agreement]

/-! ### Every act -/

section Acts

variable {a : Act State ε}

theorem Standing.idle_act (own : s.handlers = handlers settings hooks)
    (legal : ∀ p, a = .spawn p → Guest settings none p)
    (tasks : ∀ (j : Nat) (task : Task State ε), s.tasks[j]? = some task →
      Polite settings False none task)
    (lifecycle : s.shared.lifecycle ∈ [.uninitialized, .failed, .closed])
    (agreement : s.shared.agreement = none) (untried : attempts t = 0) :
    Standing settings (s.act a) (t ++ (s.traffic a).toList) := by
  by_cases begun : ∃ j task next, a = .step (.task j) ∧ s.tasks[j]? = some task ∧
      Begins settings s none task next
  · obtain ⟨j, task, next, rfl, there, begins⟩ := begun
    have shared : (s.act (.step (.task j))).shared = { s.shared with lifecycle := .initializing } :=
      ((Session.act_leaves there).shared.trans begins.changed).trans
        (beginHandshake_begun begins.free)
    have here := Session.act_own there
    rw [begins.turned] at here
    rw [Session.traffic_task there, begins.silent]
    refine .busy ⟨here, .ready, ?_, ?_, Quiet.nil.attempts_eq.trans untried, by rintro _ _ _ ⟨⟩⟩
      begins.goes fun n task' apart h' => ?_
    · rw [shared]
      exact List.mem_cons_self
    · rwa [shared]
    · exact polite_elsewhere own legal (by simpa using Ne.symm apart) (tasks n) h'
  · have minding : Minding settings False s none a := by
      intro j task same there
      cases (tasks j task there).proceeds_before lifecycle (by decide) with
      | minds minds => exact minds
      | @begins next begins => exact absurd ⟨j, task, next, same, there, begins⟩ begun
    have bystands := minding.bystands
    refine .idle (fun j task' => minding.polite own legal (tasks j))
      (bystands.lifecycle_mem lifecycle (by decide)) ?_ (bystands.quiet.attempts_eq.trans untried)
    rw [bystands.agreement, agreement]

theorem Standing.settled_act (own : s.handlers = handlers settings hooks)
    (legal : ∀ p, a = .spawn p → Guest settings none p) {b : Agreement}
    (tasks : ∀ (j : Nat) (task : Task State ε), s.tasks[j]? = some task →
      Polite settings (Announced t) (some b) task)
    (lifecycle : s.shared.lifecycle ∈ [.initialized, .closed])
    (agreement : s.shared.agreement = some b) (one : attempts t = 1) (answers : AnswersLast t b)
    (announced : Announced t ∨ s.stopped = true) :
    Standing settings (s.act a) (t ++ (s.traffic a).toList) := by
  have minding : Minding settings (Announced t) s (some b) a := by
    intro j task same there
    exact ((tasks j task there).proceeds_after agreement announced).minds_of_mem lifecycle
      (by decide)
  have bystands := minding.bystands
  refine .settled
    (fun j task' h' => (minding.polite own legal (tasks j) h').imp (Announced.more · _))
    (bystands.lifecycle_mem lifecycle (by decide)) ?_ (bystands.quiet.attempts_eq.trans one)
    (answers.more _ bystands.quiet.1)
    (announced.imp (Announced.more · _) fun stopped => Session.act_stopped stopped _)
  rw [bystands.agreement, agreement]

/-- A step of the handshake itself leads to its next stage, or to its end. -/
theorem Standing.busy_own (own : s.handlers = handlers settings hooks) (informed : Informed s t)
    (underway : Underway settings next s t i stage task) (goes : ∀ r, Guest settings none (next r))
    (others : ∀ (j : Nat) (task : Task State ε), j ≠ i → s.tasks[j]? = some task →
      Polite settings False none task) :
    Standing settings (s.act (.step (.task i))) (t ++ (s.taskTraffic task).toList) := by
  have others' (j : Nat) (task' : Task State ε) (apart : j ≠ i)
      (h' : (s.act (.step (.task i))).tasks[j]? = some task') : Polite settings False none task' :=
    polite_elsewhere own (by simp) (by simpa using Ne.symm apart) (fun task => others j task apart)
      h'
  -- The handshake is over, and its task is as polite as the others.
  have all {r : Except Error Agreement}
      (h : (s.act (.step (.task i))).tasks[i]? = some (.ready (next r))) (j : Nat)
      (task' : Task State ε) (h' : (s.act (.step (.task i))).tasks[j]? = some task') :
      Polite settings False none task' := by
    by_cases same : j = i
    · subst same
      cases h.symm.trans h'
      exact .ready (goes r)
    · exact others' j task' same h'
  have left {l : Lifecycle}
      (lifecycle : (s.act (.step (.task i))).shared.lifecycle =
        if s.shared.lifecycle = .closed then .closed else l) :
      (s.act (.step (.task i))).shared.lifecycle ∈ [l, .closed] := by
    rw [lifecycle]
    split <;> simp
  cases underway.act_own informed with
  | on underway' => exact .busy underway' goes others'
  | ends ends =>
    cases ends with
    | fails h lifecycle agreement untried =>
      exact .idle (all h) (List.mem_cons_of_mem _ (left lifecycle)) agreement untried
    | succeeds h lifecycle agreement one answers announced =>
      exact .settled (fun j task' h' => (all h j task' h').mono _ _) (left lifecycle) agreement one
        answers announced

/-- Every act leaves the client standing somewhere. -/
theorem Standing.act (standing : Standing settings s t)
    (own : s.handlers = handlers settings hooks) (informed : Informed s t)
    (legal : ∀ p, a = .spawn p → Guest settings none p) :
    Standing settings (s.act a) (t ++ (s.traffic a).toList) := by
  cases standing with
  | idle tasks lifecycle agreement untried =>
    exact .idle_act own legal tasks lifecycle agreement untried
  | settled tasks lifecycle agreement one answers announced =>
    exact .settled_act own legal tasks lifecycle agreement one answers announced
  | @busy next i stage task underway goes others =>
    by_cases step : a = .step (.task i)
    · subst step
      rw [Session.traffic_task underway.here]
      exact .busy_own own informed underway goes others
    · have bystands := Standing.bystands (.busy underway goes others) underway.here
        ⟨stage, next, underway.shakes⟩ step
      obtain ⟨task', underway'⟩ := underway.act_elsewhere bystands step
      refine .busy underway' goes fun j task'' apart h'' => ?_
      have minding : Minding settings False s none a := by
        intro n task' same there
        have apart' : n ≠ i := by
          rintro rfl
          exact step same
        exact ((others n task' apart' there).proceeds_before underway.lifecycle
          (by decide)).minds_of_mem underway.lifecycle (by decide)
      exact minding.polite own legal (fun task => others j task apart) h''

end Acts

end Mcp.Client
