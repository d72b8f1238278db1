import Mcp.Proofs.Session.Beside
import Mathlib.Data.List.ReduceOption

/-!
The account of answers. Programs other than those that answer requests send no responses of their
own (`Program.Owes none`); the program that answers a request sends one response, with the
request's id, however its operations turn out. So at each point of a run every request that was
heard was answered once or is owed by one task, and nothing else was answered (`Accounted`).
Main statement: `accounted_run`.
-/

namespace Mcp

variable {σ ε α β : Type}

/-- What a program is to answer: it sends one response, with the id that is due, and then no other,
however its operations turn out; or none if nothing is due. -/
def Program.Owes : Option RequestId → Program σ ε α → Prop
  | due, .done _ => due = none
  | due, .respond response next => response.id.isSome ∧ response.id = due ∧ ∀ r, (next r).Owes none
  | due, .request _ _ _ next => ∀ r, (next r).Owes due
  | due, .notify _ _ next => ∀ r, (next r).Owes due
  | due, .sleep _ next => next.Owes due
  | due, .now next => ∀ time, (next time).Owes due
  | due, .emit _ next => next.Owes due
  | due, .update _ next => ∀ s, (next s).Owes due
  | due, .await _ _ next => ∀ s, (next s).Owes due
  | due, .health next => ∀ r, (next r).Owes due
  | due, .close _ next => ∀ r, (next r).Owes due

theorem Program.Owes.bind {due : Option RequestId} {p : Program σ ε α}
    {f : α → Program σ ε β} (tacit : p.Owes none) (goes : ∀ a, (f a).Owes due) :
    (p.bind f).Owes due := by
  induction p with
  | done a => exact goes a
  | respond response next ih =>
    obtain ⟨given, nothing, -⟩ := tacit
    rw [nothing] at given
    cases given
  | request _ _ _ _ ih | notify _ _ _ ih | now _ ih | update _ _ ih | await _ _ _ ih | health _ ih
  | close _ _ ih => exact fun r => ih r (tacit r)
  | sleep _ _ ih | emit _ _ ih => exact ih tacit

namespace Session

/-- What a task is to answer. -/
def Task.Owes (due : Option RequestId) : Task σ ε → Prop
  | .ready program => program.Owes due
  | .sending (.response response) next =>
    response.id.isSome ∧ response.id = due ∧ ∀ r, (next r).Owes none
  | .sending _ next => ∀ r, (next r).Owes due
  | .calling _ _ next => ∀ r, (next r).Owes due
  | .sleeping _ next => next.Owes due
  | .awaiting _ _ next => ∀ s, (next s).Owes due
  | .closing _ next => ∀ r, (next r).Owes due

/-- No handler sends responses of its own. -/
structure Handlers.Tacit (h : Handlers σ ε) : Prop where
  requests : ∀ entry ∈ h.requests, ∀ params, (entry.2 params).Owes .none
  notifications : ∀ entry ∈ h.notifications, ∀ params, (entry.2 params).Owes .none

/-- The id of a request that was heard. -/
def Traffic.asked? : Traffic → Option RequestId
  | .heard (.request r) => some r.id
  | _ => none

/-- The id of a request that was answered. -/
def Traffic.replied? : Traffic → Option RequestId
  | .offered (.response r) _ => r.id
  | _ => none

/-- Each request that was heard was answered or is owed by a task of its own, and nothing else was
answered; all other tasks owe nothing. -/
def Accounted (s : Session σ ε) (t : List Traffic) : Prop :=
  ∃ due : List (Option RequestId),
    (∀ i : Nat, Option.Rel (fun d task => Task.Owes d task) due[i]? s.tasks[i]?) ∧
    (t.filterMap Traffic.asked?).Perm (t.filterMap Traffic.replied? ++ due.reduceOption)

/-! ### Steps -/

theorem filterMap_toList (f : α → Option β) (x : Option α) :
    x.toList.filterMap f = (x.bind f).toList := by
  cases x with
  | none => rfl
  | some a => cases h : f a <;> simp [h]

section Steps

variable {s : Session σ ε} {due : Option RequestId} {task : Task σ ε}

theorem Task.Owes.told {open_ : Bool} {task' : Task σ ε} (owes : task.Owes due)
    (told : Told open_ task task') : task'.Owes due := by
  cases told <;> exact owes

theorem started_owes {program : Program σ ε Unit} (owes : program.Owes due) :
    (s.started program).Owes due := by
  cases program with
  | done | sleep | emit | respond => exact owes
  | request =>
    simp only [started]
    split
    · exact owes _
    · exact owes
  | notify =>
    simp only [started]
    split
    · exact owes _
    · exact owes
  | now | update | health => exact owes _
  | await | close => exact owes

theorem calledOn_owes {call : Call} {stage : CallStage} {next : Except Error Json → Program σ ε Unit}
    (owes : ∀ r, (next r).Owes due) : (s.calledOn call next stage).Owes due := by
  cases stage with
  | admitted | registered => exact owes
  | withdrawing => exact owes _
  | confirmed =>
    simp only [calledOn]
    split <;> exact owes
  | waiting =>
    simp only [calledOn]
    split
    · exact owes _
    · split <;> exact owes

theorem closedOn_owes {stage : CloseStage} {next : Except Error Unit → Program σ ε Unit}
    (owes : ∀ r, (next r).Owes due) : (s.closedOn next stage).Owes due := by
  unfold closedOn
  split
  · exact owes
  · exact owes _

/-- A task's own step answers what is due, or leaves it due. -/
theorem Task.Owes.turned (owes : task.Owes due) :
    ∃ due', (s.turned task).Owes due' ∧
      due.toList = ((s.taskTraffic task).bind Traffic.replied?).toList ++ due'.toList := by
  have quiet (same : (s.turned task).Owes due)
      (silent : (s.taskTraffic task).bind Traffic.replied? = none) :
      ∃ due', (s.turned task).Owes due' ∧
        due.toList = ((s.taskTraffic task).bind Traffic.replied?).toList ++ due'.toList :=
    ⟨due, same, by rw [silent]; rfl⟩
  cases task with
  | ready program =>
    refine quiet (started_owes owes) ?_
    cases program with
    | notify =>
      simp only [taskTraffic]
      split <;> rfl
    | done | request | respond | sleep | now | emit | update | await | health | close => rfl
  | sending m next =>
    cases m with
    | response r =>
      obtain ⟨-, rfl, tacit⟩ := owes
      exact ⟨none, tacit _, (List.append_nil _).symm⟩
    | request => exact quiet (owes _) rfl
    | notification => exact quiet (owes _) rfl
  | calling call stage next =>
    refine quiet (calledOn_owes owes) ?_
    cases stage <;> rfl
  | sleeping =>
    refine quiet ?_ rfl
    simp only [Session.turned]
    split <;> exact owes
  | awaiting =>
    refine quiet ?_ rfl
    simp only [Session.turned]
    split
    · exact owes _
    · split
      · exact owes _
      · exact owes
  | closing => exact quiet (closedOn_owes owes) rfl

/-- A task that owes nothing answers nothing. -/
theorem tacit_answers_nothing {i : Nat} (h : s.tasks[i]? = some task) (tacit : task.Owes none)
    (acts : List (Act σ ε)) : (s.taskTranscript i acts).filterMap Traffic.replied? = [] := by
  induction acts generalizing s task with
  | nil => rfl
  | cons a acts ih =>
    rw [taskTranscript, List.filterMap_append]
    by_cases own : a = .step (.task i)
    · subst own
      obtain ⟨due, owes, split⟩ := tacit.turned (s := s)
      obtain ⟨silent, nothing⟩ := List.append_eq_nil_iff.mp split.symm
      obtain rfl := Option.toList_eq_nil_iff.mp nothing
      rw [if_pos (Act.isStepOf_iff.mpr rfl), traffic_task h, filterMap_toList, silent,
        List.nil_append]
      exact ih (act_own h) owes
    · obtain ⟨task', h', told⟩ := act_elsewhere h own
      rw [if_neg (mt Act.isStepOf_iff.mp own)]
      exact ih h' (tacit.told told)

/-- The program that answers a request owes an answer to it. -/
theorem answer_owes {h : Handlers σ ε} (tacit : h.Tacit) (r : Request) :
    (h.answer r).Owes (some r.id) := by
  unfold Handlers.answer
  split
  · rename_i run found
    obtain ⟨before, after, all, -⟩ := List.lookup_eq_some_iff.mp found
    refine .bind (tacit.requests (r.method, run) (by simp [all]) _) fun result => ?_
    cases result <;> exact ⟨rfl, rfl, fun _ => rfl⟩
  · exact ⟨rfl, rfl, fun _ => rfl⟩

/-- What a notification sets off owes nothing. -/
theorem act_owes {h : Handlers σ ε} (tacit : h.Tacit) {n : Notification}
    {program : Program σ ε Unit} (acts : h.act n = some program) : program.Owes none := by
  obtain ⟨run, found, rfl⟩ := Option.map_eq_some_iff.mp acts
  obtain ⟨before, after, all, -⟩ := List.lookup_eq_some_iff.mp found
  exact tacit.notifications (n.method, run) (by simp [all]) _

end Steps

/-! ### The account -/

section Account

variable {s s' : Session σ ε} {t : List Traffic}

theorem reduceOption_cons (d : Option RequestId) (due : List (Option RequestId)) :
    (d :: due).reduceOption = d.toList ++ due.reduceOption := by
  cases d <;> rfl

/-- What is due falls by what is answered now. -/
theorem reduceOption_set {due : List (Option RequestId)} {i : Nat} {d d' : Option RequestId}
    {now : List RequestId} (h : due[i]? = some d) (split : d.toList = now ++ d'.toList) :
    due.reduceOption.Perm (now ++ (due.set i d').reduceOption) := by
  induction due generalizing i with
  | nil => cases h
  | cons e due ih =>
    cases i with
    | zero =>
      cases h
      simp only [List.set_cons_zero, reduceOption_cons, split, List.append_assoc, List.Perm.refl]
    | succ i =>
      simp only [List.set_cons_succ, reduceOption_cons]
      have later : due.reduceOption.Perm (now ++ (due.set i d').reduceOption) := ih h
      calc (e.toList ++ due.reduceOption).Perm (e.toList ++ (now ++ (due.set i d').reduceOption)) :=
          later.append_left _
        List.Perm _ (now ++ (e.toList ++ (due.set i d').reduceOption)) := by
          rw [← List.append_assoc, ← List.append_assoc]
          exact List.perm_append_comm.append_right _

/-- A session whose tasks were at most told something has the same account. -/
theorem Accounted.told {open_ : Bool} (accounted : Accounted s t) (tells : Tells open_ s s') :
    Accounted s' t := by
  obtain ⟨due, owes, even⟩ := accounted
  refine ⟨due, fun i => ?_, even⟩
  have here := owes i
  have tells := tells i
  generalize due[i]? = d, s.tasks[i]? = before, s'.tasks[i]? = after at here tells
  cases here with
  | none =>
    cases tells
    exact .none
  | some here =>
    cases tells with
    | some told => exact .some (here.told told)

/-- Traffic that neither asks nor answers changes no account. -/
theorem Accounted.quiet {x : List Traffic} (accounted : Accounted s t)
    (asked : x.filterMap Traffic.asked? = []) (replied : x.filterMap Traffic.replied? = []) :
    Accounted s (t ++ x) := by
  obtain ⟨due, owes, even⟩ := accounted
  refine ⟨due, owes, ?_⟩
  rwa [List.filterMap_append, List.filterMap_append, asked, replied, List.append_nil,
    List.append_nil]

theorem length_eq_of_rel {R : α → β → Prop} {as : List α} {bs : List β}
    (h : ∀ i : Nat, Option.Rel R as[i]? bs[i]?) : as.length = bs.length := by
  have alike (i : Nat) : as.length ≤ i ↔ bs.length ≤ i := by
    rw [← List.getElem?_eq_none_iff, ← List.getElem?_eq_none_iff]
    have rel := h i
    generalize as[i]? = a, bs[i]? = b at rel
    cases rel <;> simp
  have upper := alike as.length
  have lower := alike bs.length
  omega

/-- A program that is started as a task of its own owes what is due for it. -/
theorem Accounted.spawn {program : Program σ ε Unit} {d : Option RequestId} {x : List Traffic}
    (accounted : Accounted s t) (owes : program.Owes d)
    (tasks : s'.tasks = s.tasks ++ [.ready program]) (asked : x.filterMap Traffic.asked? = d.toList)
    (replied : x.filterMap Traffic.replied? = []) : Accounted s' (t ++ x) := by
  obtain ⟨due, each, even⟩ := accounted
  have same : due.length = s.tasks.length := length_eq_of_rel each
  refine ⟨due ++ [d], fun i => ?_, ?_⟩
  · rw [tasks, List.getElem?_append, List.getElem?_append, same]
    split
    · exact each i
    · rw [List.getElem?_singleton, List.getElem?_singleton]
      split
      · exact .some owes
      · exact .none
  · rw [List.filterMap_append, List.filterMap_append, asked, replied, List.append_nil,
      List.reduceOption_append, List.reduceOption_singleton, ← List.append_assoc]
    exact even.append_right _

/-- Only the reader hears. -/
theorem task_asks_nothing (s : Session σ ε) (task : Task σ ε) :
    (s.taskTraffic task).bind Traffic.asked? = none := by
  cases task with
  | ready program =>
    cases program with
    | notify =>
      simp only [taskTraffic]
      split <;> rfl
    | done | request | respond | sleep | now | emit | update | await | health | close => rfl
  | calling call stage next => cases stage <;> rfl
  | sending | sleeping | awaiting | closing => rfl

/-- A step of a task, answering what is due or leaving it due. -/
theorem Accounted.step {i : Nat} {task : Task σ ε} (accounted : Accounted s t)
    (h : s.tasks[i]? = some task) :
    Accounted (s.act (.step (.task i))) (t ++ (s.traffic (.step (.task i))).toList) := by
  obtain ⟨due, owes, even⟩ := accounted
  have here := owes i
  rw [h] at here
  obtain ⟨d, there⟩ : ∃ d, due[i]? = some d := by
    cases there : due[i]? with
    | some d => exact ⟨d, rfl⟩
    | none =>
      rw [there] at here
      cases here
  rw [there] at here
  cases here with
  | some here =>
    obtain ⟨d', goes, split⟩ := here.turned (s := s)
    rw [traffic_task h]
    -- What this task still owes takes the place of what it owed; other tasks were told something.
    refine ⟨due.set i d', fun j => ?_, ?_⟩
    · by_cases own : j = i
      · subst own
        rw [act_own h, List.getElem?_set_self (List.getElem?_eq_some_iff.mp there).1]
        exact .some goes
      · rw [List.getElem?_set_ne (Ne.symm own)]
        have other := owes j
        have becomes := s.act_becomes (.step (.task i)) j
        generalize due[j]? = e, s.tasks[j]? = before, (s.act (.step (.task i))).tasks[j]? = after
          at other becomes
        cases becomes with
        | own same =>
          cases same
          exact absurd rfl own
        | told _ told =>
          cases other with
          | some other => exact .some (other.told told)
        | new starts => cases starts
        | absent => exact other
    · rw [List.filterMap_append, List.filterMap_append, filterMap_toList, filterMap_toList,
        task_asks_nothing, Option.toList_none, List.append_nil, List.append_assoc]
      exact even.trans ((reduceOption_set there split).append_left _)

/-- If the reader hears nothing, tasks are told something at most. -/
theorem read_quiet (quiet : s.traffic (.step .reader) = none) : Tells true s s.read := by
  simp only [traffic, readTraffic] at quiet
  unfold Session.read
  split
  · rename_i reading
    simp only [reading] at quiet
    split
    · exact .of_tasks rfl
    · rename_i open_
      rw [if_neg open_, Option.map_eq_none_iff] at quiet
      split
      · rename_i received
        rw [received] at quiet
        cases quiet
      · split <;> exact .of_tasks rfl
  · exact s.clear_tells
  · exact .of_tasks rfl

theorem Accounted.act (accounted : Accounted s t) (tacit : s.handlers.Tacit) {a : Act σ ε}
    (given : ∀ program, a = .spawn program → program.Owes none) :
    Accounted (s.act a) (t ++ (s.traffic a).toList) := by
  have outside (silent : s.traffic a = none) (tasks : (s.act a).tasks = s.tasks) :
      Accounted (s.act a) (t ++ (s.traffic a).toList) := by
    rw [silent, Option.toList_none, List.append_nil]
    exact accounted.told (.of_tasks tasks : Tells true s _)
  cases a with
  | step agent =>
    cases agent with
    | task i =>
      cases h : s.tasks[i]? with
      | some task => exact accounted.step h
      | none => exact outside (by simp [traffic, h]) (by simp [Session.act, Session.step, h])
    | forwarder => exact outside rfl rfl
    | reader =>
      cases heard : s.traffic (.step .reader) with
      | none =>
        rw [Option.toList_none, List.append_nil]
        exact accounted.told (read_quiet heard)
      | some x =>
        obtain ⟨m, rfl⟩ := s.traffic_reader heard
        have read : s.act (.step .reader) = _ := read_of_heard heard
        have taken : Accounted { s with link := s.link.receive.2 } t :=
          accounted.told (.of_tasks rfl : Tells true s _)
        rw [read]
        cases m with
        | request r => exact accounted.spawn (answer_owes tacit r) rfl rfl rfl
        | notification n =>
          cases acts : s.handlers.act n with
          | some program =>
            simp only [dispatch, acts]
            exact accounted.spawn (act_owes tacit acts) rfl rfl rfl
          | none =>
            simp only [dispatch, acts]
            exact taken.quiet rfl rfl
        | response r => exact (taken.told (response_tells _ r)).quiet rfl rfl
  | spawn program =>
    exact accounted.spawn (given program rfl) rfl rfl rfl
  | inject | failSends | unhealthy | deafen | endSource | advance | drop => exact outside rfl rfl

/-- In every run of a session with nothing behind it, each request that was heard was answered or is
owed by a task of its own, and nothing else was answered. -/
theorem accounted_run (tacit : s.handlers.Tacit) (fresh : s.tasks = []) {acts : List (Act σ ε)}
    (given : ∀ program, .spawn program ∈ acts → program.Owes none) :
    Accounted (s.run acts) (s.transcript acts) := by
  have start : Accounted s [] := ⟨[], by simp [fresh], .refl _⟩
  have run : (s.run acts).handlers.Tacit ∧ Accounted (s.run acts) ([] ++ s.transcript acts) :=
    transcript_induction (P := fun s t => s.handlers.Tacit ∧ Accounted s t)
      (fun s t a there ⟨tacit, accounted⟩ => ⟨(s.act_settings a).handlers ▸ tacit,
        accounted.act tacit fun program same => given program (same ▸ there)⟩) ⟨tacit, start⟩
  exact run.2

/-- When all tasks are done, each request that was heard was answered once, with its own id, and
nothing else was answered. -/
theorem Accounted.settled (accounted : Accounted s t)
    (done : ∀ task ∈ s.tasks, task = .ready (.done ())) :
    (t.filterMap Traffic.asked?).Perm (t.filterMap Traffic.replied?) := by
  obtain ⟨due, owes, even⟩ := accounted
  have nothing : due.reduceOption = [] := by
    refine List.eq_nil_iff_forall_not_mem.mpr fun id there => ?_
    obtain ⟨i, there⟩ := List.mem_iff_getElem?.mp (List.reduceOption_mem_iff.mp there)
    have here := owes i
    rw [there] at here
    generalize h : s.tasks[i]? = task at here
    cases here with
    | some here =>
      rw [done _ (List.mem_of_getElem? h)] at here
      cases here
  rwa [nothing, List.append_nil] at even

end Account

end Session

end Mcp
