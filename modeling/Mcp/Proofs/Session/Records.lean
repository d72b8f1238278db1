import Mcp.Proofs.Session.Beside

/-!
What tasks record. A run leaves records, each with the task that made it, and the log is what they
say (`run_log`). A task makes records by its own steps only, so what was recorded before a task was
done and before another was started is in order (`records_in_order`).
-/

namespace Mcp.Session

variable {σ ε : Type}

/-- The event that a task's next step records. -/
def Task.event? : Task σ ε → Option ε
  | .ready (.emit event _) => some event
  | _ => none

/-- What an act records, with the task that does. -/
def record (s : Session σ ε) : Act σ ε → Option (Nat × ε)
  | .step (.task index) => (s.tasks[index]?.bind Task.event?).map fun event => (index, event)
  | _ => none

/-- The records of a run, in order. -/
def records (s : Session σ ε) : List (Act σ ε) → List (Nat × ε)
  | [] => []
  | a :: rest => (s.record a).toList ++ (s.act a).records rest

/-- The events among records that the task with an index recorded. -/
def eventsOf (i : Nat) (records : List (Nat × ε)) : List ε :=
  records.filterMap fun x => if x.1 = i then some x.2 else none

section Records

variable {s : Session σ ε} {i j : Nat} {task : Task σ ε} {a : Act σ ε}

theorem eventsOf_append (i : Nat) (before after : List (Nat × ε)) :
    eventsOf i (before ++ after) = eventsOf i before ++ eventsOf i after :=
  List.filterMap_append ..

theorem mem_eventsOf {records : List (Nat × ε)} {event : ε} :
    event ∈ eventsOf i records ↔ (i, event) ∈ records := by
  simp only [eventsOf, List.mem_filterMap]
  constructor
  · rintro ⟨⟨j, e⟩, there, same⟩
    split at same
    · rename_i own
      cases own
      cases same
      exact there
    · cases same
  · exact fun there => ⟨_, there, if_pos rfl⟩

theorem records_append (before after : List (Act σ ε)) :
    s.records (before ++ after) = s.records before ++ (s.run before).records after := by
  induction before generalizing s with
  | nil => rfl
  | cons a before ih =>
    rw [List.cons_append, records, ih, records, List.append_assoc, run_cons]

theorem record_task (h : s.tasks[i]? = some task) :
    s.record (.step (.task i)) = task.event?.map fun event => (i, event) := by
  simp only [record, h, Option.bind_some]

theorem eventsOf_elsewhere (other : a ≠ .step (.task i)) : eventsOf i (s.record a).toList = [] := by
  cases recorded : s.record a with
  | none => rfl
  | some x =>
    unfold record at recorded
    split at recorded
    · rename_i j
      obtain ⟨event, -, rfl⟩ := Option.map_eq_some_iff.mp recorded
      have apart : j ≠ i := fun same => other (by rw [same])
      simp [eventsOf, apart]
    · cases recorded

theorem eventsOf_own (h : s.tasks[i]? = some task) :
    eventsOf i (s.record (.step (.task i))).toList = task.event?.toList := by
  rw [record_task h]
  cases task.event? <;> simp [eventsOf]

/-! ### The log -/

theorem aside_log (s : Session σ ε) (i : Nat) (task : Task σ ε) :
    (s.aside i task).log = s.log ++ task.event?.toList := by
  have quiet : s.log = s.log ++ (none : Option ε).toList := (List.append_nil _).symm
  cases task with
  | ready program =>
    cases program with
    | emit event next => rfl
    | request =>
      simp only [aside]
      split <;> exact quiet
    | done | notify | respond | sleep | now | update | await | health | close => exact quiet
  | calling call stage next => cases stage <;> exact quiet
  | closing stage next => cases stage <;> exact quiet
  | sending | sleeping | awaiting => exact quiet

theorem read_log (s : Session σ ε) : s.read.log = s.log := by
  unfold Session.read
  split
  · split
    · rfl
    · split
      · rename_i m link _
        cases m with
        | request => rfl
        | notification =>
          simp only [dispatch]
          split <;> rfl
        | response =>
          simp only [dispatch]
          split
          · rfl
          · split <;> rfl
      · split <;> rfl
  · rfl
  · rfl

theorem act_log (s : Session σ ε) (a : Act σ ε) :
    (s.act a).log = s.log ++ (s.record a).toList.map Prod.snd := by
  have quiet : s.log = s.log ++ ([] : List (Nat × ε)).map Prod.snd := (List.append_nil _).symm
  cases a with
  | step agent =>
    cases agent with
    | task i =>
      cases h : s.tasks[i]? with
      | none =>
        simp only [act, step, record, h]
        exact quiet
      | some task =>
        rw [record_task h]
        simp only [act, step, h, stepTask_eq h]
        refine (s.aside_log i task).trans ?_
        cases task.event? <;> rfl
    | forwarder => exact quiet
    | reader => exact s.read_log.trans quiet
  | spawn | inject | failSends | unhealthy | deafen | endSource | advance | drop => exact quiet

theorem run_log (s : Session σ ε) (acts : List (Act σ ε)) :
    (s.run acts).log = s.log ++ (s.records acts).map Prod.snd := by
  induction acts generalizing s with
  | nil => exact (List.append_nil _).symm
  | cons a acts ih =>
    rw [run_cons, ih, act_log, records, List.map_append, List.append_assoc]

/-! ### Order -/

theorem run_inside (acts : List (Act σ ε)) (inside : i < s.tasks.length) :
    i < (s.run acts).tasks.length := by
  induction acts generalizing s with
  | nil => exact inside
  | cons a acts ih => exact ih (act_inside a inside)

/-- A task records nothing before it is there. -/
theorem inside_of_records {acts : List (Act σ ε)} {event : ε} (h : (i, event) ∈ s.records acts) :
    i < (s.run acts).tasks.length := by
  induction acts generalizing s with
  | nil => cases h
  | cons a acts ih =>
    rcases List.mem_append.mp h with now | later
    · refine run_inside acts (act_inside a ?_)
      by_contra absent
      have nothing : s.tasks[i]? = none := List.getElem?_eq_none (Nat.le_of_not_lt absent)
      have own : event ∈ eventsOf i (s.record a).toList := mem_eventsOf.mpr now
      by_cases same : a = .step (.task i)
      · subst same
        rw [record, nothing] at own
        cases own
      · rw [eventsOf_elsewhere same] at own
        cases own
    · exact ih later

/-- A task that is done stays so and records nothing. -/
theorem done_records_nothing (h : s.tasks[i]? = some (.ready (.done ()))) (acts : List (Act σ ε)) :
    eventsOf i (s.records acts) = [] := by
  induction acts generalizing s with
  | nil => rfl
  | cons a acts ih =>
    rw [records, eventsOf_append]
    by_cases own : a = .step (.task i)
    · subst own
      rw [eventsOf_own h, ih (act_own h)]
      rfl
    · obtain ⟨task', h', told⟩ := act_elsewhere h own
      cases told
      rw [eventsOf_elsewhere own, ih h', List.nil_append]

/-- What one task recorded before it was done, and another only later, is in order. -/
theorem records_in_order {before after : List (Act σ ε)}
    (done : (s.run before).tasks[i]? = some (.ready (.done ())))
    (later : eventsOf j (s.records before) = []) (d e : ε) :
    ¬ List.Sublist [(j, d), (i, e)] (s.records (before ++ after)) := by
  intro swapped
  rw [records_append] at swapped
  obtain ⟨first, second, split, early, late⟩ := List.sublist_append_iff.mp swapped
  cases first with
  | nil =>
    have there : e ∈ eventsOf i ((s.run before).records after) := by
      obtain rfl : _ = second := split
      exact mem_eventsOf.mpr (late.subset (List.mem_cons_of_mem _ List.mem_cons_self))
    rw [done_records_nothing done] at there
    cases there
  | cons x first =>
    have there : d ∈ eventsOf j (s.records before) := by
      obtain ⟨rfl, -⟩ := List.cons.inj split
      exact mem_eventsOf.mpr (early.subset List.mem_cons_self)
    rw [later] at there
    cases there

end Records

end Mcp.Session
