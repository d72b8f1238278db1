import Mcp.Proofs.Session.InStep
import Mcp.Proofs.Session.Records

/-!
Programs that do the same and record different things (`Program.Twin`). A session in which one of
them runs does what a session does in which the other runs in its place: each run of the one has a
run of the other that is the same but for the steps in which the task records (`Mirrors`). Main
statement: `mirrors_spawn`.
-/

namespace Mcp

variable {σ ε α : Type}

/-- Two programs that do the same but for what they record. Each comes with the events that were
recorded before; where both are done, all the events of the one are to those of the other as `R`
says. -/
inductive Program.Twin (R : List ε → List ε → Prop) :
    List ε → Program σ ε Unit → List ε → Program σ ε Unit → Prop
  | done {es es' : List ε} : R es es' → Twin R es (.done ()) es' (.done ())
  | request {es es' method params timeout next next'} :
      (∀ answer, Twin R es (next answer) es' (next' answer)) →
      Twin R es (.request method params timeout next) es' (.request method params timeout next')
  | notify {es es' method params next next'} :
      (∀ result, Twin R es (next result) es' (next' result)) →
      Twin R es (.notify method params next) es' (.notify method params next')
  | respond {es es' response next next'} :
      (∀ result, Twin R es (next result) es' (next' result)) →
      Twin R es (.respond response next) es' (.respond response next')
  | sleep {es es' milliseconds next next'} : Twin R es next es' next' →
      Twin R es (.sleep milliseconds next) es' (.sleep milliseconds next')
  | now {es es' next next'} : (∀ time, Twin R es (next time) es' (next' time)) →
      Twin R es (.now next) es' (.now next')
  | update {es es' change next next'} : (∀ found, Twin R es (next found) es' (next' found)) →
      Twin R es (.update change next) es' (.update change next')
  | await {es es' wanted timeout next next'} :
      (∀ found, Twin R es (next found) es' (next' found)) →
      Twin R es (.await wanted timeout next) es' (.await wanted timeout next')
  | health {es es' next next'} : (∀ result, Twin R es (next result) es' (next' result)) →
      Twin R es (.health next) es' (.health next')
  | close {es es' graceful next next'} : (∀ result, Twin R es (next result) es' (next' result)) →
      Twin R es (.close graceful next) es' (.close graceful next')
  | left {es es' event p q} : Twin R (es ++ [event]) p es' q → Twin R es (.emit event p) es' q
  | right {es es' event p q} : Twin R es p (es' ++ [event]) q → Twin R es p es' (.emit event q)

namespace Program

section Twin

variable {R : List ε → List ε → Prop} {es es' : List ε} {p q : Program σ ε Unit} {event : ε}

theorem Twin.swap (twin : Twin R es p es' q) : Twin (flip R) es' q es p := by
  induction twin with
  | done related => exact .done related
  | request _ ih => exact .request ih
  | notify _ ih => exact .notify ih
  | respond _ ih => exact .respond ih
  | sleep _ ih => exact .sleep ih
  | now _ ih => exact .now ih
  | update _ ih => exact .update ih
  | await _ ih => exact .await ih
  | health _ ih => exact .health ih
  | close _ ih => exact .close ih
  | left _ ih => exact .right ih
  | right _ ih => exact .left ih

theorem Twin.of_emit (twin : Twin R es (.emit event p) es' q) : Twin R (es ++ [event]) p es' q := by
  generalize emits : (.emit event p : Program σ ε Unit) = whole at twin
  induction twin with
  | left later =>
    cases emits
    exact later
  | right _ ih => exact .right (ih emits)
  | done | request | notify | respond | sleep | now | update | await | health | close => cases emits

/-- What two programs do alike, whatever it is and records, makes no difference. -/
theorem Twin.bind {r : Program σ ε α} {k k' : α → Program σ ε Unit}
    (next : ∀ own a, Twin R (es ++ own) (k a) (es' ++ own) (k' a)) :
    Twin R es (r.bind k) es' (r.bind k') := by
  induction r generalizing es es' with
  | done a =>
    have now := next [] a
    rwa [List.append_nil, List.append_nil] at now
  | request _ _ _ _ ih => exact .request fun answer => ih answer next
  | notify _ _ _ ih => exact .notify fun result => ih result next
  | respond _ _ ih => exact .respond fun result => ih result next
  | sleep _ _ ih => exact .sleep (ih next)
  | now _ ih => exact .now fun time => ih time next
  | update _ _ ih => exact .update fun found => ih found next
  | await _ _ _ ih => exact .await fun found => ih found next
  | health _ ih => exact .health fun result => ih result next
  | close _ _ ih => exact .close fun result => ih result next
  | emit event _ ih =>
    refine .left (.right (ih fun own a => ?_))
    simpa using next (event :: own) a

end Twin

end Program

namespace Session

/-! ### Tasks -/

/-- Two tasks in the course of programs that do the same but for what they record. -/
inductive Task.Twin (R : List ε → List ε → Prop) (es es' : List ε) :
    Task σ ε → Task σ ε → Prop
  | ready {p q : Program σ ε Unit} : p.Twin R es es' q → Twin R es es' (.ready p) (.ready q)
  | sending (message : Message) {next next' : Except Error Unit → Program σ ε Unit} :
      (∀ result, Program.Twin R es (next result) es' (next' result)) →
      Twin R es es' (.sending message next) (.sending message next')
  | calling (call : Call) (stage : CallStage) {next next' : Except Error Json → Program σ ε Unit} :
      (∀ answer, Program.Twin R es (next answer) es' (next' answer)) →
      Twin R es es' (.calling call stage next) (.calling call stage next')
  | sleeping (deadline : Nat) {next next' : Program σ ε Unit} : Program.Twin R es next es' next' →
      Twin R es es' (.sleeping deadline next) (.sleeping deadline next')
  | awaiting (wanted : σ → Bool) (deadline : Nat) {next next' : Option σ → Program σ ε Unit} :
      (∀ found, Program.Twin R es (next found) es' (next' found)) →
      Twin R es es' (.awaiting wanted deadline next) (.awaiting wanted deadline next')
  | closing (stage : CloseStage) {next next' : Except Error Unit → Program σ ε Unit} :
      (∀ result, Program.Twin R es (next result) es' (next' result)) →
      Twin R es es' (.closing stage next) (.closing stage next')

section Tasks

variable {R : List ε → List ε → Prop} {es es' : List ε} {t t' : Task σ ε}

theorem Task.Twin.swap (twin : Task.Twin R es es' t t') : Task.Twin (flip R) es' es t' t := by
  cases twin with
  | ready next => exact .ready next.swap
  | sending message next => exact .sending message fun result => (next result).swap
  | calling call stage next => exact .calling call stage fun answer => (next answer).swap
  | sleeping deadline next => exact .sleeping deadline next.swap
  | awaiting wanted deadline next => exact .awaiting wanted deadline fun found => (next found).swap
  | closing stage next => exact .closing stage fun result => (next result).swap

/-- What others tell a task, they tell its twin. -/
theorem Task.Twin.passive (twin : Task.Twin R es es' t t') {f : Task σ ε → Task σ ε}
    (passive : Passive f) : Task.Twin R es es' (f t) (f t') := by
  induction passive generalizing t t' with
  | same => exact twin
  | comp _ _ first second => exact first (second twin)
  | wake | giveUp | accept =>
    cases twin with
    | calling call stage next =>
      obtain ⟨id, method, params, timeout, slot⟩ := call
      cases slot <;> exact .calling _ stage next
    | closing stage next => cases stage <;> exact .closing _ next
    | ready next => exact .ready next
    | sending message next => exact .sending message next
    | sleeping deadline next => exact .sleeping deadline next
    | awaiting wanted deadline next => exact .awaiting wanted deadline next

/-- Where neither of two twins is about to record something, they take the same step. -/
structure SameStep (R : List ε → List ε → Prop) (es es' : List ε) (s : Session σ ε) (i : Nat)
    (t t' : Task σ ε) : Prop where
  turned : Task.Twin R es es' (s.turned t) (s.turned t')
  aside : s.aside i t = s.aside i t'
  traffic : s.taskTraffic t = s.taskTraffic t'

theorem Task.Twin.step (twin : Task.Twin R es es' t t') (plain : t.event? = none)
    (plain' : t'.event? = none) (s : Session σ ε) (i : Nat) : SameStep R es es' s i t t' := by
  cases twin with
  | ready next =>
    cases next with
    | done related => exact ⟨.ready (.done related), rfl, rfl⟩
    | request next =>
      refine ⟨?_, rfl, rfl⟩
      simp only [Session.turned, started]
      split
      · exact .ready (next _)
      · exact .calling _ _ next
    | notify next =>
      refine ⟨?_, rfl, rfl⟩
      simp only [Session.turned, started]
      split
      · exact .ready (next _)
      · exact .sending _ next
    | respond next => exact ⟨.sending _ next, rfl, rfl⟩
    | sleep next => exact ⟨.sleeping _ next, rfl, rfl⟩
    | now next => exact ⟨.ready (next _), rfl, rfl⟩
    | update next => exact ⟨.ready (next _), rfl, rfl⟩
    | await next => exact ⟨.awaiting _ _ next, rfl, rfl⟩
    | health next => exact ⟨.ready (next _), rfl, rfl⟩
    | close next => exact ⟨.closing _ next, rfl, rfl⟩
    | left => cases plain
    | right => cases plain'
  | sending message next => exact ⟨.ready (next _), rfl, rfl⟩
  | calling call stage next =>
    refine ⟨?_, by cases stage <;> rfl, by cases stage <;> rfl⟩
    cases stage with
    | admitted => exact .calling call _ next
    | registered => exact .calling call _ next
    | withdrawing e => exact .ready (next _)
    | confirmed =>
      simp only [Session.turned, calledOn]
      split <;> exact .calling call _ next
    | waiting deadline =>
      simp only [Session.turned, calledOn]
      split
      · exact .ready (next _)
      · split <;> exact .calling call _ next
  | sleeping deadline next =>
    refine ⟨?_, rfl, rfl⟩
    simp only [Session.turned]
    split
    · exact .ready next
    · exact .sleeping _ next
  | awaiting wanted deadline next =>
    refine ⟨?_, rfl, rfl⟩
    simp only [Session.turned]
    split
    · exact .ready (next _)
    · split
      · exact .ready (next _)
      · exact .awaiting _ _ next
  | closing stage next =>
    refine ⟨?_, by cases stage <;> rfl, rfl⟩
    simp only [Session.turned, closedOn]
    split
    · exact .closing _ next
    · exact .ready (next _)

end Tasks

/-! ### The log -/

section Log

variable (s : Session σ ε) (log : List ε)

/-- A session with another log. -/
def withLog : Session σ ε := { s with log }

theorem withLog_turned (t : Task σ ε) : (s.withLog log).turned t = s.turned t := by
  cases t with
  | ready program => cases program <;> rfl
  | calling call stage => cases stage <;> rfl
  | closing stage => cases stage <;> rfl
  | sending | sleeping | awaiting => rfl

theorem withLog_aside (i : Nat) (t : Task σ ε) :
    (s.withLog log).aside i t = (s.aside i t).withLog (log ++ t.event?.toList) := by
  have quiet : log ++ (none : Option ε).toList = log := List.append_nil _
  cases t with
  | ready program =>
    cases program with
    | emit event next => rfl
    | request =>
      have same : (s.withLog log).stopped = s.stopped := rfl
      simp only [aside, same, Task.event?, quiet]
      split <;> rfl
    | done | notify | respond | sleep | now | update | await | health | close =>
      simp only [Task.event?, quiet]
      rfl
  | calling call stage =>
    simp only [Task.event?, quiet]
    cases stage <;> rfl
  | closing stage =>
    simp only [Task.event?, quiet]
    cases stage <;> rfl
  | sending | sleeping | awaiting =>
    simp only [Task.event?, quiet]
    rfl

theorem withLog_dispatch (m : Message) :
    (s.withLog log).dispatch m = (s.dispatch m).withLog log := by
  cases m with
  | request => rfl
  | notification n =>
    have same : (s.withLog log).handlers = s.handlers := rfl
    simp only [dispatch, same]
    split <;> rfl
  | response r =>
    have same : (s.withLog log).pending = s.pending := rfl
    simp only [dispatch, same]
    split
    · rfl
    · split <;> rfl

theorem withLog_read : (s.withLog log).read = s.read.withLog log := by
  have reader : (s.withLog log).reader = s.reader := rfl
  have stopped : (s.withLog log).stopped = s.stopped := rfl
  have link : (s.withLog log).link = s.link := rfl
  simp only [Session.read, reader, stopped, link]
  split
  · split
    · rfl
    · split
      · rename_i m link _
        exact withLog_dispatch { s with link } log m
      · split <;> rfl
  · rfl
  · rfl

/-- What a session does, but for its log, does not depend on the log. -/
theorem withLog_act (a : Act σ ε) : (s.withLog log).act a =
    (s.act a).withLog (log ++ (s.record a).toList.map Prod.snd) := by
  have quiet : log ++ ([] : List (Nat × ε)).map Prod.snd = log := List.append_nil _
  cases a with
  | step agent =>
    cases agent with
    | task i =>
      cases h : s.tasks[i]? with
      | none =>
        have h' : (s.withLog log).tasks[i]? = none := h
        simp only [act, step, record, h, h', Option.bind_none, Option.map_none, Option.toList,
          quiet]
      | some task =>
        have h' : (s.withLog log).tasks[i]? = some task := h
        rw [record_task h]
        simp only [act, step, h, h']
        rw [stepTask_eq h, stepTask_eq h', withLog_turned, withLog_aside]
        cases task.event? <;> rfl
    | forwarder =>
      simp only [record, Option.toList, quiet]
      rfl
    | reader =>
      simp only [record, Option.toList, quiet]
      exact s.withLog_read log
  | spawn | inject | failSends | unhealthy | deafen | endSource | advance | drop =>
    simp only [record, Option.toList, quiet]
    rfl

theorem withLog_taskTraffic (t : Task σ ε) : (s.withLog log).taskTraffic t = s.taskTraffic t := by
  cases t with
  | ready program => cases program <;> rfl
  | calling call stage => cases stage <;> rfl
  | sending | sleeping | awaiting | closing => rfl

theorem withLog_traffic (a : Act σ ε) : (s.withLog log).traffic a = s.traffic a := by
  cases a with
  | step agent =>
    cases agent with
    | task i => exact congrArg s.tasks[i]?.bind (funext (s.withLog_taskTraffic log))
    | forwarder | reader => rfl
  | spawn | inject | failSends | unhealthy | deafen | endSource | advance | drop => rfl

end Log

/-! ### Runs but for records -/

/-- The acts of a run but those in which the task with an index records something. -/
def unrecorded (i : Nat) (s : Session σ ε) : List (Act σ ε) → List (Act σ ε)
  | [] => []
  | a :: rest =>
    (if (eventsOf i (s.record a).toList).isEmpty then [a] else []) ++ unrecorded i (s.act a) rest

/-- Two runs are the same but for the steps in which the task with an index records something, and
the same passes on the wire at the same times. -/
structure Matches (i : Nat) (s : Session σ ε) (acts : List (Act σ ε)) (s' : Session σ ε)
    (acts' : List (Act σ ε)) : Prop where
  steps : unrecorded i s acts = unrecorded i s' acts'
  wire : timed traffic s acts = timed traffic s' acts'

section Matches

variable {i : Nat} {s s' : Session σ ε} {a : Act σ ε} {acts acts' : List (Act σ ε)}

theorem unrecorded_append (before after : List (Act σ ε)) : unrecorded i s (before ++ after) =
    unrecorded i s before ++ unrecorded i (s.run before) after := by
  induction before generalizing s with
  | nil => rfl
  | cons a before ih =>
    rw [List.cons_append, unrecorded, ih, unrecorded, List.append_assoc, run_cons]

theorem timed_append {β : Type} (view : Session σ ε → Act σ ε → Option β)
    (before after : List (Act σ ε)) :
    timed view s (before ++ after) = timed view s before ++ timed view (s.run before) after := by
  induction before generalizing s with
  | nil => rfl
  | cons a before ih => rw [List.cons_append, timed, ih, timed, List.append_assoc, run_cons]

theorem Matches.append {more more' : List (Act σ ε)} (first : Matches i s acts s' acts')
    (later : Matches i (s.run acts) more (s'.run acts') more') :
    Matches i s (acts ++ more) s' (acts' ++ more') where
  steps := by rw [unrecorded_append, unrecorded_append, first.steps, later.steps]
  wire := by rw [timed_append, timed_append, first.wire, later.wire]

theorem Matches.symm (same : Matches i s acts s' acts') : Matches i s' acts' s acts :=
  ⟨same.steps.symm, same.wire.symm⟩

theorem Matches.nil : Matches i s [] s' [] := ⟨rfl, rfl⟩

theorem Matches.one (plain : eventsOf i (s.record a).toList = [])
    (plain' : eventsOf i (s'.record a).toList = []) (now : s.now = s'.now)
    (same : s.traffic a = s'.traffic a) : Matches i s [a] s' [a] where
  steps := by simp [unrecorded, plain, plain']
  wire := by simp only [timed, now, same]

theorem eventsOf_records_nil : eventsOf i (s.records []) = [] := rfl

theorem recording_of_record {x : Nat × ε} (recorded : s.record (.step (.task i)) = some x) :
    ∃ event p, s.tasks[i]? = some (.ready (.emit event p)) := by
  obtain ⟨event, next, -⟩ := Option.map_eq_some_iff.mp recorded
  obtain ⟨t, there, happens⟩ := Option.bind_eq_some_iff.mp next
  unfold Task.event? at happens
  split at happens
  · exact ⟨_, _, there⟩
  · cases happens

/-- A task that records something does nothing else. -/
theorem Matches.recording {event : ε} {p : Program σ ε Unit}
    (there : s.tasks[i]? = some (.ready (.emit event p))) :
    Matches i s [.step (.task i)] s' [] := by
  constructor
  · simp only [unrecorded, eventsOf_own there]
    rfl
  · simp only [timed, traffic_task there]
    rfl

end Matches

/-! ### Sessions -/

/-- Two sessions that differ in a task and in their logs; the task of the one is the twin of that of
the other. -/
inductive Twins (i : Nat) (R : List ε → List ε → Prop) (es es' : List ε) :
    Session σ ε → Session σ ε → Prop
  | intro {s : Session σ ε} {t t' : Task σ ε} {log log' : List ε} : i < s.tasks.length →
      Task.Twin R es es' t t' →
      Twins i R es es' ((s.setTask i t).withLog log) ((s.setTask i t').withLog log')

section Twins

variable {i : Nat} {R : List ε → List ε → Prop} {es es' : List ε} {s s' : Session σ ε} {a : Act σ ε}

theorem Twins.swap (twins : Twins i R es es' s s') : Twins i (flip R) es' es s' s := by
  cases twins with
  | intro inside twin => exact .intro inside twin.swap

theorem task_there {t : Task σ ε} {log : List ε} (inside : i < s.tasks.length) :
    ((s.setTask i t).withLog log).tasks[i]? = some t :=
  setTask_own (List.getElem?_eq_getElem inside) t

theorem act_in_place {t : Task σ ε} {log : List ε} (inside : i < s.tasks.length) :
    ((s.setTask i t).withLog log).act (.step (.task i)) =
      ((s.aside i t).setTask i (s.turned t)).withLog (log ++ t.event?.toList) := by
  have recorded := record_task (setTask_own (List.getElem?_eq_getElem inside) t)
  rw [withLog_act, act_setTask inside, recorded]
  cases t.event? <;> rfl

theorem aside_inside {t : Task σ ε} (inside : i < s.tasks.length) :
    i < (s.aside i t).tasks.length := by
  have there : i < (s.setTask i t).tasks.length := by rwa [length_setTask]
  have kept := act_inside (.step (.task i)) there
  rwa [act_setTask inside, length_setTask] at kept

/-- The acts of others do the same to twins, and are the same to the wire. -/
theorem Twins.elsewhere (twins : Twins i R es es' s s') (other : a ≠ .step (.task i)) :
    Twins i R es es' (s.act a) (s'.act a) ∧ Matches i s [a] s' [a] := by
  obtain @⟨s, t, t', log, log', inside, twin⟩ := twins
  constructor
  · obtain ⟨f, passive, same⟩ := act_beside inside other
    simp only at same
    rw [withLog_act, withLog_act, same, same]
    exact .intro (act_inside a inside) (twin.passive passive)
  · refine .one (eventsOf_elsewhere other) (eventsOf_elsewhere other) rfl ?_
    rw [withLog_traffic, withLog_traffic, traffic_beside other, traffic_beside other]

/-- A step in which neither records does the same to twins, and is the same to the wire. -/
theorem Twins.own (twins : Twins i R es es' s s') (plain : s.record (.step (.task i)) = none)
    (plain' : s'.record (.step (.task i)) = none) :
    Twins i R es es' (s.act (.step (.task i))) (s'.act (.step (.task i))) ∧
      Matches i s [.step (.task i)] s' [.step (.task i)] := by
  obtain @⟨s, t, t', log, log', inside, twin⟩ := twins
  rw [record_task (task_there inside), Option.map_eq_none_iff] at plain plain'
  obtain ⟨turned, aside, same⟩ := twin.step plain plain' s i
  constructor
  · rw [act_in_place inside, act_in_place inside, aside]
    exact .intro (aside_inside inside) turned
  · refine .one ?_ ?_ rfl ?_
    · rw [eventsOf_own (task_there inside), plain]
      rfl
    · rw [eventsOf_own (task_there inside), plain']
      rfl
    · rw [traffic_task (task_there inside), traffic_task (task_there inside), withLog_taskTraffic,
        withLog_taskTraffic, taskTraffic_setTask, taskTraffic_setTask, same]

/-- A step in which the second records something leaves the first as it is. -/
theorem Twins.right {event : ε} {p : Program σ ε Unit} (twins : Twins i R es es' s s')
    (there : s'.tasks[i]? = some (.ready (.emit event p))) :
    Twins i R es (es' ++ [event]) s (s'.act (.step (.task i))) := by
  obtain @⟨s, t, t', log, log', inside, twin⟩ := twins
  obtain rfl := Option.some.inj ((task_there inside).symm.trans there)
  rw [act_in_place inside]
  cases twin with
  | ready next =>
    have inside' : i < (s.aside i (.ready (.emit event p))).tasks.length := inside
    exact .intro inside' (.ready next.swap.of_emit.swap)

/-- Twins of which the second is not about to record anything. -/
structure Abreast (i : Nat) (R : List ε → List ε → Prop) (es es' : List ε)
    (s s' : Session σ ε) : Prop where
  twins : Twins i R es es' s s'
  plain : s'.record (.step (.task i)) = none

/-- The second of twins has caught up after some acts, in which it records what is left. -/
def CatchesUp (i : Nat) (R : List ε → List ε → Prop) (es es' : List ε)
    (s s' : Session σ ε) : Prop :=
  ∃ acts, Matches i s [] s' acts ∧
    Abreast i R es (es' ++ eventsOf i (s'.records acts)) s (s'.run acts)

theorem Abreast.catchesUp (abreast : Abreast i R es es' s s') : CatchesUp i R es es' s s' := by
  refine ⟨[], .nil, ?_⟩
  rwa [eventsOf_records_nil, List.append_nil]

theorem Twins.catchesUp_program {p : Program σ ε Unit} (twins : Twins i R es es' s s')
    (there : s'.tasks[i]? = some (.ready p)) : CatchesUp i R es es' s s' := by
  induction p generalizing es' s' with
  | emit event p ih =>
    obtain ⟨acts, same, abreast⟩ := ih (twins.right there) (act_own there)
    refine ⟨.step (.task i) :: acts, (Matches.recording there).symm.append same, ?_⟩
    rw [records, eventsOf_append, eventsOf_own there, ← List.append_assoc]
    exact abreast
  | done | request | notify | respond | sleep | now | update | await | health | close =>
    refine Abreast.catchesUp ⟨twins, ?_⟩
    rw [record_task there]
    rfl

theorem Twins.catchesUp (twins : Twins i R es es' s s') : CatchesUp i R es es' s s' := by
  have again := twins
  obtain @⟨s, t, t', log, log', inside, twin⟩ := twins
  cases t' with
  | ready p => exact again.catchesUp_program (task_there inside)
  | sending | calling | sleeping | awaiting | closing =>
    refine Abreast.catchesUp ⟨again, ?_⟩
    rw [record_task (task_there inside)]
    rfl

/-- One act of the first, and what the second does at the same time. -/
theorem Abreast.act (abreast : Abreast i R es es' s s') (a : Act σ ε) :
    ∃ acts, Matches i s [a] s' acts ∧
      Abreast i R (es ++ eventsOf i (s.record a).toList) (es' ++ eventsOf i (s'.records acts))
        (s.act a) (s'.run acts) := by
  obtain ⟨twins, plain'⟩ := abreast
  have follows {a : Act σ ε} (same : Matches i s [a] s' [a])
      (later : Twins i R es es' (s.act a) (s'.act a))
      (quiet : eventsOf i (s.record a).toList = [])
      (quiet' : eventsOf i (s'.record a).toList = []) :
      ∃ acts, Matches i s [a] s' acts ∧
        Abreast i R (es ++ eventsOf i (s.record a).toList) (es' ++ eventsOf i (s'.records acts))
          (s.act a) (s'.run acts) := by
    obtain ⟨acts, same', abreast⟩ := later.catchesUp
    refine ⟨a :: acts, same.append same', ?_⟩
    rw [records, eventsOf_append, quiet, quiet', List.append_nil, List.nil_append]
    exact abreast
  by_cases own : a = .step (.task i)
  · subst own
    cases recorded : s.record (.step (.task i)) with
    | none =>
      obtain ⟨later, same⟩ := twins.own recorded plain'
      rw [← recorded]
      refine follows same later ?_ ?_
      · rw [recorded]
        rfl
      · rw [plain']
        rfl
    | some x =>
      obtain ⟨event, p, there⟩ := recording_of_record recorded
      have own : eventsOf i (s.record (.step (.task i))).toList = [event] := eventsOf_own there
      refine ⟨[], .recording there, ?_, plain'⟩
      rw [← recorded, own, eventsOf_records_nil, List.append_nil]
      exact (twins.swap.right there).swap
  · obtain ⟨later, same⟩ := twins.elsewhere own
    exact follows same later (eventsOf_elsewhere own) (eventsOf_elsewhere own)

theorem Abreast.run (abreast : Abreast i R es es' s s') (acts : List (Act σ ε)) :
    ∃ acts', Matches i s acts s' acts' ∧
      Abreast i R (es ++ eventsOf i (s.records acts)) (es' ++ eventsOf i (s'.records acts'))
        (s.run acts) (s'.run acts') := by
  induction acts generalizing es es' s s' with
  | nil =>
    refine ⟨[], .nil, ?_⟩
    rwa [eventsOf_records_nil, eventsOf_records_nil, List.append_nil, List.append_nil]
  | cons a acts ih =>
    obtain ⟨first, same, abreast⟩ := abreast.act a
    obtain ⟨rest, same', abreast⟩ := ih abreast
    refine ⟨first ++ rest, same.append same', ?_⟩
    rw [records, eventsOf_append, records_append, eventsOf_append, ← List.append_assoc,
      ← List.append_assoc, run_cons, run_append]
    exact abreast

/-- The program of the task with an index is done. -/
def Done (i : Nat) (s : Session σ ε) : Prop := s.tasks[i]? = some (.ready (.done ()))

theorem Abreast.done (abreast : Abreast i R es es' s s') (done : Done i s) :
    Done i s' ∧ R es es' := by
  obtain ⟨twins, plain⟩ := abreast
  obtain @⟨s, t, t', log, log', inside, twin⟩ := twins
  obtain rfl := Option.some.inj ((task_there inside).symm.trans done)
  rw [record_task (task_there inside), Option.map_eq_none_iff] at plain
  cases twin with
  | ready next =>
    cases next with
    | done related => exact ⟨task_there inside, related⟩
    | right => cases plain

end Twins

/-! ### Mirrors -/

/-- Each run of a session has a run of another that is the same but for what the task with an index
records, and in which that task is done as well if it is in the first; what the two then have
recorded is related. -/
def Mirrors (i : Nat) (R : List ε → List ε → Prop) (s s' : Session σ ε) : Prop :=
  ∀ acts, ∃ acts', Matches i s acts s' acts' ∧
    (Done i (s.run acts) → Done i (s'.run acts') ∧
      R (eventsOf i (s.records acts)) (eventsOf i (s'.records acts')))

theorem Twins.mirrors {i : Nat} {R : List ε → List ε → Prop} {s s' : Session σ ε}
    (twins : Twins i R [] [] s s') : Mirrors i R s s' := by
  intro acts
  obtain ⟨first, same, abreast⟩ := twins.catchesUp
  obtain ⟨rest, same', abreast⟩ := abreast.run acts
  refine ⟨first ++ rest, same.append same', fun done => ?_⟩
  obtain ⟨done', related⟩ := abreast.done done
  rw [records_append, eventsOf_append, run_append]
  exact ⟨done', related⟩

/-- A session in which one program was started mirrors that in which the other was, and is mirrored
by it. -/
theorem mirrors_spawn {R : List ε → List ε → Prop} {p q : Program σ ε Unit}
    (twin : p.Twin R [] [] q) (s : Session σ ε) :
    Mirrors s.tasks.length R (s.spawn p) (s.spawn q) ∧
      Mirrors s.tasks.length (flip R) (s.spawn q) (s.spawn p) := by
  have twins : Twins s.tasks.length R [] [] (s.spawn p) (s.spawn q) := by
    have inside : s.tasks.length < (s.spawn p).tasks.length := by simp [spawn]
    have replaced (r : Program σ ε Unit) :
        ((s.spawn p).setTask s.tasks.length (.ready r)).withLog s.log = s.spawn r := by
      simp [spawn, setTask, withLog]
    have both := @Twins.intro σ ε s.tasks.length R [] [] (s.spawn p) (.ready p) (.ready q) s.log
      s.log inside (.ready twin)
    rwa [replaced p, replaced q] at both
  exact ⟨twins.mirrors, twins.swap.mirrors⟩

end Session

end Mcp
