import Mcp.Proofs.Session.Closing

/-!
A graceful close. `Drains` says how far it is: it waits for the table until its time is over, is about
to stop the session, has stopped it, or has returned. Each act leads it on (`Drains.act`), as long as
nothing else stops the session. It never stops the session early while a request is in the table that
was there at its start, and it waits for nothing but such a request or its time.
-/

namespace Mcp.Session

variable {σ ε : Type}

/-! ### Requests that have left the table -/

/-- A request was put in the table at some time. -/
structure WasIn (s : Session σ ε) (id : String) : Prop where
  issued : Issued s.label s.nextId id
  later {i : Nat} {o : Ongoing σ ε} : s.ongoing? i = some o → o.call.id = id → o.stage ≠ .admitted

/-- A request was put in the table, and is not there any more. -/
structure Left (s : Session σ ε) (id : String) : Prop where
  wasIn : s.WasIn id
  out (i : Nat) : (id, i) ∉ s.pending

theorem Sound.wasIn {s : Session σ ε} (sound : Sound s) {id : String} {i : Nat}
    (there : (id, i) ∈ s.pending) : s.WasIn id := by
  obtain ⟨o, ho, rfl, inside⟩ := sound.mem_table.mp there
  refine ⟨sound.issued ho, fun hp same => ?_⟩
  obtain rfl := sound.unique hp ho same
  rw [ho] at hp
  cases hp
  exact (Ongoing.inTable_iff.mp inside).1

/-- A request that is not in the table yet was so before, or has just begun. -/
theorem Moves.admitted {s s' : Session σ ε} {x : Option Happening} (m : Moves s s' x) {i : Nat}
    {o : Ongoing σ ε} (ho : s'.ongoing? i = some o) (stage : o.stage = .admitted) :
    (∃ p, s.ongoing? i = some p ∧ p.call.id = o.call.id ∧ p.stage = .admitted) ∨
      o.call.id = s.freshId := by
  have before (same : s.ongoing? i = some o) : (∃ p, s.ongoing? i = some p ∧
      p.call.id = o.call.id ∧ p.stage = .admitted) ∨ o.call.id = s.freshId :=
    .inl ⟨o, same, rfl, stage⟩
  cases m with
  | quiet requests => exact before (requests ▸ ho)
  | begin _ requests =>
    rw [requests, Function.update_apply] at ho
    split at ho
    · cases ho
      exact .inr rfl
    · exact before ho
  | enter _ requests =>
    rw [requests, Function.update_apply] at ho
    split at ho
    · cases ho
      cases stage
    · exact before ho
  | advance _ step requests =>
    rw [requests, Function.update_apply] at ho
    split at ho
    · cases ho
      exact absurd stage step.stages.2
    · exact before ho
  | finish _ _ requests | withdraw _ requests =>
    rw [requests, Function.update_apply] at ho
    split at ho
    · cases ho
    · exact before ho
  | hear _ requests | clear requests =>
    rw [requests] at ho
    split at ho
    · obtain ⟨p, hp, rfl⟩ := Option.map_eq_some_iff.mp ho
      exact .inl ⟨p, hp, rfl, stage⟩
    · exact before ho

theorem Moves.table {s s' : Session σ ε} {x : Option Happening} (m : Moves s s' x)
    {entry : String × Nat} (there : entry ∈ s'.pending) : entry ∈ s.pending ∨
      ∃ o, s.ongoing? entry.2 = some o ∧ o.call.id = entry.1 ∧ o.stage = .admitted := by
  cases m with
  | quiet _ table | begin _ _ table | advance _ _ _ table | finish _ _ _ _ table =>
    rw [table] at there
    exact .inl there
  | enter ho _ table =>
    rw [table, List.mem_append, List.mem_singleton] at there
    rcases there with before | rfl
    · exact .inl before
    · exact .inr ⟨_, ho, rfl, rfl⟩
  | withdraw _ _ _ table | hear _ _ table =>
    rw [table] at there
    exact .inl (List.mem_of_mem_filter there)
  | clear _ table =>
    rw [table] at there
    cases there

theorem Moves.nextId_le {s s' : Session σ ε} {x : Option Happening} (m : Moves s s' x) :
    s.nextId ≤ s'.nextId := by
  cases m <;> omega

section Act

variable {s : Session σ ε} {id : String}

theorem WasIn.act (was : s.WasIn id) (a : Act σ ε) : (s.act a).WasIn id where
  issued := by
    obtain ⟨n, positive, given, rfl⟩ := was.issued
    have more := (s.act_moves a).nextId_le
    exact ⟨n, positive, by omega, by rw [(s.act_settings a).label]⟩
  later {i o} ho same stage := by
    rcases (s.act_moves a).admitted ho stage with ⟨p, hp, before, early⟩ | fresh
    · exact was.later hp (before.trans same) early
    · obtain ⟨n, -, given, issued⟩ := was.issued
      have : n = s.nextId := idOf_injective (issued.symm.trans (same.symm.trans fresh))
      omega

/-- A request that has left the table does not come back. -/
theorem Left.act (left : s.Left id) (a : Act σ ε) : (s.act a).Left id where
  wasIn := left.wasIn.act a
  out i there := by
    rcases (s.act_moves a).table there with before | ⟨o, ho, same, early⟩
    · exact left.out i before
    · exact left.wasIn.later ho same early

end Act

/-! ### How far a graceful close is -/

/-- The time until which a close waits, while it does. -/
def CloseStage.until? : CloseStage → Option Nat
  | .draining deadline | .watching deadline _ | .parked deadline _ => some deadline
  | .stopping | .joining | .clearing | .releasing => none

theorem CloseStage.until?_wake (stage : CloseStage) : stage.wake.until? = stage.until? := by
  cases stage <;> rfl

theorem CloseStage.wake_of_hasStopped {stage : CloseStage} (stopped : stage.hasStopped = true) :
    stage.wake = stage := by
  cases stage with
  | joining | clearing | releasing => rfl
  | draining | watching | parked | stopping => cases stopped

/-- A close need not wait any more: its time is over, or the requests for which it waits have left the
table. -/
def Excused (deadline : Nat) (table : List (String × Nat)) (s : Session σ ε) : Prop :=
  deadline ≤ s.now ∨ ∀ entry ∈ table, s.Left entry.1

/-- How far a task is with a graceful close that waits for a table until a time. -/
inductive Drains (deadline : Nat) (table : List (String × Nat)) (i : Nat)
    (next : Except Error Unit → Program σ ε Unit) (s : Session σ ε) : Prop
  | waiting {stage : CloseStage} : s.stopped = false → s.tasks[i]? = some (.closing stage next) →
      stage.until? = some deadline → Drains deadline table i next s
  | leaving : s.stopped = false → s.tasks[i]? = some (.closing .stopping next) →
      Excused deadline table s → Drains deadline table i next s
  | stopped {stage : CloseStage} : s.stopped = true → s.tasks[i]? = some (.closing stage next) →
      stage.hasStopped = true → Excused deadline table s → Drains deadline table i next s
  | returned : s.Released → Excused deadline table s → Drains deadline table i next s

/-! ### The clock and the mark of closing -/

/-- How much time passes. -/
def Act.passes : Act σ ε → Nat
  | .advance milliseconds => milliseconds
  | _ => 0

section Clock

variable (s : Session σ ε)

theorem stepTask_now (i : Nat) (task : Task σ ε) : (s.stepTask i task).now = s.now := by
  cases task with
  | ready program =>
    cases program with
    | request | notify =>
      simp only [stepTask, begin]
      split <;> rfl
    | done | respond | sleep | now | emit | update | await | health | close => rfl
  | sending => rfl
  | sleeping =>
    simp only [stepTask]
    split <;> rfl
  | awaiting =>
    simp only [stepTask]
    split
    · rfl
    · split <;> rfl
  | calling call stage next =>
    cases stage with
    | admitted | registered | withdrawing => rfl
    | confirmed =>
      simp only [stepTask, stepCall]
      split <;> rfl
    | waiting =>
      simp only [stepTask, stepCall]
      split
      · rfl
      · rfl
      · rfl
      · split <;> rfl
  | closing stage next =>
    cases stage with
    | draining | watching | stopping | clearing | releasing => rfl
    | parked =>
      simp only [stepTask, stepClose]
      split
      · rfl
      · split <;> rfl
    | joining =>
      simp only [stepTask, stepClose]
      split <;> rfl

theorem dispatch_rest (m : Message) :
    (s.dispatch m).now = s.now ∧ (s.dispatch m).stopped = s.stopped := by
  cases m with
  | request => exact ⟨rfl, rfl⟩
  | notification =>
    simp only [dispatch]
    split <;> exact ⟨rfl, rfl⟩
  | response =>
    simp only [dispatch]
    split
    · exact ⟨rfl, rfl⟩
    · split <;> exact ⟨rfl, rfl⟩

theorem read_now : s.read.now = s.now := by
  unfold Session.read
  split
  · split
    · rfl
    · split
      · exact (dispatch_rest _ _).1
      · split <;> rfl
  · rfl
  · rfl

theorem act_now (a : Act σ ε) : (s.act a).now = s.now + a.passes := by
  cases a with
  | step agent =>
    cases agent with
    | task i =>
      simp only [Session.act, step]
      split
      · exact s.stepTask_now i _
      · rfl
    | forwarder => rfl
    | reader => exact s.read_now
  | advance | spawn | inject | failSends | unhealthy | deafen | endSource | drop => rfl

variable {s}

/-- The reader stops a session only when nothing more will come in. -/
theorem read_open (open_ : s.stopped = false) (more : s.link.ended = false) :
    s.read.stopped = false := by
  unfold Session.read
  split
  · rw [if_neg (by simp [open_])]
    split
    · exact (dispatch_rest _ _).2.trans open_
    · rw [if_neg (by simp [more])]
      exact open_
  · exact open_
  · exact open_

/-- Nothing stops a session but a close, the end of what comes in, and its own end. -/
theorem act_open {a : Act σ ε} (open_ : s.stopped = false) (kept : a ≠ .drop)
    (more : s.link.ended = false)
    (goesOn : ∀ i task, a = .step (.task i) → s.tasks[i]? = some task → task.stops = false) :
    (s.act a).stopped = false := by
  cases a with
  | step agent =>
    cases agent with
    | task i =>
      cases h : s.tasks[i]? with
      | none => simpa [Session.act, step, h] using open_
      | some task => rw [(act_leaves h).stopped, open_, goesOn i task rfl h, Bool.or_false]
    | forwarder => exact open_
    | reader => exact read_open open_ more
  | drop => exact absurd rfl kept
  | advance | spawn | inject | failSends | unhealthy | deafen | endSource => exact open_

end Clock

/-! ### One act -/

section Steps

variable {s : Session σ ε} {a : Act σ ε} {i deadline : Nat} {table : List (String × Nat)}
  {next : Except Error Unit → Program σ ε Unit}

theorem Excused.act (excused : Excused deadline table s) (a : Act σ ε) :
    Excused deadline table (s.act a) := by
  rcases excused with late | left
  · exact .inl (by rw [s.act_now a]; omega)
  · exact .inr fun entry there => (left entry there).act a

def Act.isDrop : Act σ ε → Bool
  | .drop => true
  | _ => false

/-- What may happen while a task closes a session and nobody else does. -/
structure Alone (i : Nat) (s : Session σ ε) (a : Act σ ε) : Prop where
  kept : a ≠ .drop
  /-- More may come in. -/
  more : s.stopped = false → s.link.ended = false
  others : ∀ j ≠ i, ∀ task, s.tasks[j]? = some task → task.isClosing = false

theorem Alone.open_ (alone : Alone i s a) (open_ : s.stopped = false)
    (goesOn : ∀ task, a = .step (.task i) → s.tasks[i]? = some task → task.stops = false) :
    (s.act a).stopped = false := by
  refine act_open open_ alone.kept (alone.more open_) fun j task own h => ?_
  by_cases hij : j = i
  · subst hij
    exact goesOn task own h
  · have idle := alone.others j hij task h
    cases task with
    | closing => cases idle
    | ready | sending | calling | sleeping | awaiting => rfl

/-- A close that waits stops waiting when the table is empty or its time is over. -/
theorem until?_nextStage {stage stage' : CloseStage} (waits : stage.until? = some deadline)
    (goes : s.nextStage stage = some stage') :
    stage'.until? = some deadline ∨
      stage' = .stopping ∧ (s.pending = [] ∨ deadline ≤ s.now) := by
  cases stage with
  | draining =>
    cases goes
    exact .inl waits
  | watching =>
    simp only [nextStage, Option.some.injEq] at goes
    subst goes
    split
    · rename_i empty
      exact .inr ⟨rfl, .inl (by simpa using empty)⟩
    · exact .inl waits
  | parked =>
    simp only [CloseStage.until?, Option.some.injEq] at waits
    simp only [nextStage, Option.some.injEq] at goes
    subst waits goes
    split
    · exact .inl rfl
    · split
      · rename_i late
        exact .inr ⟨rfl, .inr late⟩
      · exact .inl rfl
  | stopping | joining | clearing | releasing => cases waits

theorem hasStopped_nextStage {stage stage' : CloseStage} (stopped : stage.hasStopped = true)
    (goes : s.nextStage stage = some stage') : stage'.hasStopped = true := by
  cases stage with
  | joining =>
    simp only [nextStage, Option.some.injEq] at goes
    subst goes
    split <;> rfl
  | clearing =>
    cases goes
    rfl
  | releasing => cases goes
  | draining | watching | parked | stopping => cases stopped

/-- Somebody else's act leaves a close at its stage, or wakes it. -/
theorem closing_elsewhere {stage : CloseStage} (h : s.tasks[i]? = some (.closing stage next))
    (other : a ≠ .step (.task i)) :
    (s.act a).tasks[i]? = some (.closing stage next) ∨
      (s.act a).tasks[i]? = some (.closing stage.wake next) := by
  obtain ⟨task', h', told⟩ := act_elsewhere h other
  cases told with
  | same => exact .inl h'
  | watching | parked => exact .inr h'

theorem closing_own {stage : CloseStage} (h : s.tasks[i]? = some (.closing stage next)) :
    (∃ stage', s.nextStage stage = some stage' ∧
      (s.act (.step (.task i))).tasks[i]? = some (.closing stage' next)) ∨
    stage = .releasing ∧ (s.act (.step (.task i))).tasks[i]? = some (.ready (next (.ok ()))) := by
  have own := act_own h
  rw [turned, closedOn] at own
  cases goes : s.nextStage stage with
  | some stage' =>
    rw [goes] at own
    exact .inl ⟨stage', rfl, own⟩
  | none =>
    rw [goes] at own
    refine .inr ⟨?_, own⟩
    cases stage with
    | releasing => rfl
    | draining | watching | parked | stopping | joining | clearing => cases goes

section Stages

variable {stage : CloseStage}

theorem Drains.act_waiting (open_ : s.stopped = false)
    (h : s.tasks[i]? = some (.closing stage next)) (waits : stage.until? = some deadline)
    (was : ∀ entry ∈ table, s.WasIn entry.1) (alone : Alone i s a) :
    Drains deadline table i next (s.act a) := by
  have open' : (s.act a).stopped = false := by
    refine alone.open_ open_ fun task _ h' => ?_
    rw [h] at h'
    cases h'
    cases stage with
    | draining | watching | parked | joining | clearing | releasing => rfl
    | stopping => cases waits
  by_cases own : a = .step (.task i)
  · subst own
    rcases closing_own h with ⟨stage', goes, h'⟩ | ⟨rfl, -⟩
    · rcases until?_nextStage waits goes with waits' | ⟨rfl, empty | late⟩
      · exact .waiting open' h' waits'
      · refine .leaving open' h' (.inr fun entry there => ?_)
        have left : s.Left entry.1 := ⟨was entry there, by simp [empty]⟩
        exact left.act _
      · have excused : Excused deadline table s := .inl late
        exact .leaving open' h' (excused.act _)
    · cases waits
  · rcases closing_elsewhere h own with h' | h'
    · exact .waiting open' h' waits
    · exact .waiting open' h' (stage.until?_wake.trans waits)

theorem Drains.act_leaving (open_ : s.stopped = false)
    (h : s.tasks[i]? = some (.closing .stopping next)) (excused : Excused deadline table s)
    (alone : Alone i s a) : Drains deadline table i next (s.act a) := by
  by_cases own : a = .step (.task i)
  · subst own
    have stopped : (s.act (.step (.task i))).stopped = true := by
      rw [(act_leaves h).stopped]
      exact Bool.or_true _
    rcases closing_own h with ⟨stage', goes, h'⟩ | ⟨impossible, -⟩
    · refine .stopped stopped h' ?_ (excused.act _)
      cases goes
      split <;> rfl
    · cases impossible
  · have open' := alone.open_ open_ fun task same _ => absurd same own
    rcases closing_elsewhere h own with h' | h' <;> exact .leaving open' h' (excused.act a)

theorem Drains.act_stopped (stopped : s.stopped = true)
    (h : s.tasks[i]? = some (.closing stage next)) (after : stage.hasStopped = true)
    (excused : Excused deadline table s) (winding : Winding s) (a : Act σ ε) :
    Drains deadline table i next (s.act a) := by
  have stopped' := Session.act_stopped stopped a
  by_cases own : a = .step (.task i)
  · subst own
    rcases closing_own h with ⟨stage', goes, h'⟩ | ⟨rfl, returns⟩
    · exact .stopped stopped' h' (hasStopped_nextStage after goes) (excused.act _)
    · exact .returned (winding.released h returns) (excused.act _)
  · rcases closing_elsewhere h own with h' | h'
    · exact .stopped stopped' h' after (excused.act a)
    · rw [CloseStage.wake_of_hasStopped after] at h'
      exact .stopped stopped' h' after (excused.act a)

end Stages

/-- Every act leads a graceful close on. -/
theorem Drains.act (drains : Drains deadline table i next s) (winding : Winding s)
    (was : ∀ entry ∈ table, s.WasIn entry.1) (alone : Alone i s a) :
    Drains deadline table i next (s.act a) := by
  cases drains with
  | waiting open_ h waits => exact .act_waiting open_ h waits was alone
  | leaving open_ h excused => exact .act_leaving open_ h excused alone
  | stopped stopped h after excused => exact .act_stopped stopped h after excused winding a
  | returned released excused => exact .returned (released.act a) (excused.act a)

end Steps

/-! ### The next steps of a close -/

/-- Steps of its own task stop a session within so many. -/
def StopsWithin (s : Session σ ε) (i n : Nat) : Prop :=
  ∃ m ≤ n, (s.run (List.replicate m (.step (.task i)))).stopped = true

/-- A close need not wait: no request is in the table, or its time is over. -/
def MayStop (s : Session σ ε) (deadline : Nat) : Prop := s.pending = [] ∨ deadline ≤ s.now

/-- How many steps a close takes to stop a session if it need not wait. -/
@[simp] def CloseStage.toStop : CloseStage → Nat
  | .stopping => 1
  | .parked _ false => 2
  | .watching _ false => 3
  | .draining _ => 4
  | .parked _ true => 5
  | .watching _ true => 6
  | .joining | .clearing | .releasing => 0

theorem CloseStage.toStop_le (stage : CloseStage) : stage.toStop ≤ 6 := by
  cases stage with
  | watching deadline woken | parked deadline woken => cases woken <;> simp
  | draining | stopping | joining | clearing | releasing => simp

section Soon

variable {s : Session σ ε} {i n deadline : Nat} {next : Except Error Unit → Program σ ε Unit}
  {stage : CloseStage}

theorem StopsWithin.succ (soon : (s.act (.step (.task i))).StopsWithin i n) :
    s.StopsWithin i (n + 1) := by
  obtain ⟨m, le, stops⟩ := soon
  exact ⟨m + 1, by omega, stops⟩

theorem StopsWithin.mono {m : Nat} (soon : s.StopsWithin i m) (h : m ≤ n) : s.StopsWithin i n := by
  obtain ⟨k, le, stops⟩ := soon
  exact ⟨k, by omega, stops⟩

theorem stopping_stops (h : s.tasks[i]? = some (.closing .stopping next)) : s.StopsWithin i 1 := by
  refine ⟨1, Nat.le_refl 1, ?_⟩
  show (s.act (.step (.task i))).stopped = true
  rw [(act_leaves h).stopped]
  exact Bool.or_true _

theorem MayStop.act (may : s.MayStop deadline) (h : s.tasks[i]? = some (.closing stage next))
    (waits : stage.until? = some deadline) : (s.act (.step (.task i))).MayStop deadline := by
  have table : (s.act (.step (.task i))).pending = s.pending := by
    rw [(act_leaves h).pending]
    cases stage with
    | draining | watching | parked | stopping | joining | releasing => rfl
    | clearing => cases waits
  rw [MayStop, table, act_now]
  exact may

theorem toStop_nextStage {stage' : CloseStage} (may : s.MayStop deadline)
    (awake : ∀ deadline, stage = .parked deadline false → s.pending ≠ [])
    (waits : stage.until? = some deadline) (goes : s.nextStage stage = some stage') :
    stage'.toStop < stage.toStop := by
  cases stage with
  | draining =>
    cases goes
    simp
  | watching _ woken =>
    simp only [nextStage, Option.some.injEq] at goes
    subst goes
    split <;> cases woken <;> simp
  | parked _ woken =>
    simp only [CloseStage.until?, Option.some.injEq] at waits
    simp only [nextStage, Option.some.injEq] at goes
    subst waits goes
    cases woken with
    | true => simp
    | false =>
      have late := may.resolve_left (awake _ rfl)
      rw [if_neg Bool.false_ne_true, if_pos late]
      simp
  | stopping | joining | clearing | releasing => cases waits

theorem Winding.stops (winding : Winding s) (may : s.MayStop deadline)
    (h : s.tasks[i]? = some (.closing stage next)) (waits : stage.until? = some deadline) :
    s.StopsWithin i stage.toStop := by
  induction left : stage.toStop using Nat.strongRecOn generalizing s stage with
  | ind n ih =>
    rcases closing_own h with ⟨stage', goes, h'⟩ | ⟨rfl, -⟩
    · have nearer : stage'.toStop < n := by
        rw [← left]
        refine toStop_nextStage may ?_ waits goes
        rintro _ rfl
        exact winding.parked h
      have soon : (s.act (.step (.task i))).StopsWithin i stage'.toStop := by
        rcases until?_nextStage waits goes with waits' | ⟨rfl, -⟩
        · exact ih _ nearer (winding.act _) (may.act h waits) h' waits' rfl
        · exact stopping_stops h'
      exact soon.succ.mono nearer
    · cases waits

theorem Winding.enabled_waiting (winding : Winding s) (may : s.MayStop deadline)
    (h : s.tasks[i]? = some (.closing stage next)) (waits : stage.until? = some deadline) :
    s.enabled (.task i) = true := by
  rw [enabled, h]
  cases stage with
  | draining | watching => rfl
  | parked _ woken =>
    simp only [CloseStage.until?, Option.some.injEq] at waits
    subst waits
    cases woken with
    | true => rfl
    | false =>
      have late := may.resolve_left (winding.parked h)
      simpa [canStep] using late
  | stopping | joining | clearing | releasing => cases waits

/-- A graceful close that need not wait goes on, and stops the session. -/
theorem Drains.stops {table : List (String × Nat)} (drains : Drains deadline table i next s)
    (winding : Winding s) (open_ : s.stopped = false) (may : s.MayStop deadline) :
    s.enabled (.task i) = true ∧ s.StopsWithin i 6 := by
  cases drains with
  | @waiting stage _ h waits =>
    exact ⟨winding.enabled_waiting may h waits, (winding.stops may h waits).mono stage.toStop_le⟩
  | leaving _ h => exact ⟨by rw [enabled, h]; rfl, (stopping_stops h).mono (by decide)⟩
  | stopped stopped =>
    rw [open_] at stopped
    cases stopped
  | returned released =>
    have stopped := released.cleared.stopped
    rw [open_] at stopped
    cases stopped

end Soon

/-! ### Runs on which something holds throughout -/

/-- Something holds at each act of a run. -/
inductive Along (P : Session σ ε → Act σ ε → Prop) : Session σ ε → List (Act σ ε) → Prop
  | nil {s : Session σ ε} : Along P s []
  | cons {s : Session σ ε} {a : Act σ ε} {acts : List (Act σ ε)} :
      P s a → Along P (s.act a) acts → Along P s (a :: acts)

instance Along.decidable {P : Session σ ε → Act σ ε → Prop} [∀ s a, Decidable (P s a)]
    (s : Session σ ε) : (acts : List (Act σ ε)) → Decidable (Along P s acts)
  | [] => .isTrue .nil
  | a :: acts =>
    have : Decidable (Along P (s.act a) acts) := Along.decidable (s.act a) acts
    decidable_of_iff (P s a ∧ Along P (s.act a) acts)
      ⟨fun ⟨here, later⟩ => .cons here later, fun | .cons here later => ⟨here, later⟩⟩

theorem Along.and {P Q : Session σ ε → Act σ ε → Prop} {s : Session σ ε} {acts : List (Act σ ε)}
    (first : Along P s acts) (second : Along Q s acts) :
    Along (fun s a => P s a ∧ Q s a) s acts := by
  induction first with
  | nil => exact .nil
  | cons here _ ih =>
    cases second with
    | cons here' later => exact .cons ⟨here, here'⟩ (ih later)

theorem Along.keeps {P : Session σ ε → Act σ ε → Prop} {Q : Session σ ε → Prop} {s : Session σ ε}
    {acts : List (Act σ ε)} (along : Along P s acts)
    (keeps : ∀ s a, P s a → Q s → Q (s.act a)) (start : Q s) : Q (s.run acts) := by
  induction along with
  | nil => exact start
  | cons here _ ih => exact ih (keeps _ _ here start)

/-- Time passes only when nobody has a step to take, and never beyond a time for which a task
waits. -/
def Punctual (s : Session σ ε) (a : Act σ ε) : Prop :=
  0 < a.passes → (∀ agent, s.enabled agent = false) ∧
    ∀ task ∈ s.tasks, ∀ deadline, task.deadline? = some deadline → s.now + a.passes ≤ deadline

instance (i : Nat) (s : Session σ ε) (a : Act σ ε) : Decidable (Alone i s a) :=
  decidable_of_iff (a.isDrop = false ∧ (s.stopped = false → s.link.ended = false) ∧
      ∀ entry ∈ s.tasks.zipIdx, entry.2 ≠ i → entry.1.isClosing = false) <| by
    constructor
    · rintro ⟨kept, more, others⟩
      refine ⟨?_, more, fun j other task h => others (task, j) ?_ other⟩
      · rintro rfl
        cases kept
      · exact List.mem_zipIdx_iff_getElem?.mpr h
    · rintro ⟨kept, more, others⟩
      refine ⟨?_, more, fun entry there other => others entry.2 other entry.1 ?_⟩
      · cases a with
        | drop => exact absurd rfl kept
        | step | spawn | inject | failSends | unhealthy | deafen | endSource | advance => rfl
      · exact List.mem_zipIdx_iff_getElem?.mp there

section Graceful

variable {s : Session σ ε} {a : Act σ ε} {i deadline : Nat} {table : List (String × Nat)}
  {next : Except Error Unit → Program σ ε Unit} {acts : List (Act σ ε)}

/-- A graceful close that nobody keeps waiting has returned, or waits, and not for a time that is
over. -/
theorem Drains.rests (drains : Drains deadline table i next s) (winding : Winding s)
    (idle : ∀ agent, s.enabled agent = false) :
    s.Released ∧ s.Settled ∨
      s.tasks[i]? = some (.closing (.parked deadline false) next) := by
  have still := idle (.task i)
  cases drains with
  | @waiting stage _ h waits =>
    rw [enabled, h] at still
    cases stage with
    | draining | watching => cases still
    | parked _ woken =>
      simp only [CloseStage.until?, Option.some.injEq] at waits
      subst waits
      cases woken with
      | true => cases still
      | false => exact .inr h
    | stopping | joining | clearing | releasing => cases waits
  | leaving _ h _ =>
    rw [enabled, h] at still
    cases still
  | @stopped stage stopped h after _ =>
    have settled := winding.settled stopped (idle .reader) fun j _ _ => idle (.task j)
    rw [enabled, h] at still
    cases stage with
    | joining => simp [canStep, settled.reader] at still
    | clearing | releasing => cases still
    | draining | watching | parked | stopping => cases after
  | returned released _ =>
    exact .inl ⟨released,
      winding.settled released.cleared.stopped (idle .reader) fun j _ _ => idle (.task j)⟩

/-- How far a graceful close is, with what that rests on. -/
structure Draining (deadline : Nat) (table : List (String × Nat)) (i : Nat)
    (next : Except Error Unit → Program σ ε Unit) (s : Session σ ε) : Prop where
  winding : Winding s
  wasIn : ∀ entry ∈ table, s.WasIn entry.1
  drains : Drains deadline table i next s

theorem Draining.act (draining : Draining deadline table i next s) (alone : Alone i s a) :
    Draining deadline table i next (s.act a) where
  winding := draining.winding.act a
  wasIn entry there := (draining.wasIn entry there).act a
  drains := draining.drains.act draining.winding draining.wasIn alone

theorem Draining.run (draining : Draining deadline table i next s)
    (alone : Along (Alone i) s acts) : Draining deadline table i next (s.run acts) :=
  alone.keeps (fun _ _ alone draining => draining.act alone) draining

theorem draining_of_call (winding : Winding s) (open_ : s.stopped = false)
    (calls : s.tasks[i]? = some (.ready (.close true next))) :
    Draining (s.now + s.timeouts.close) s.pending i next (s.act (.step (.task i))) where
  winding := winding.act _
  wasIn entry there := (winding.sound.wasIn (i := entry.2) there).act _
  drains := by
    have begun : (s.act (.step (.task i))).tasks[i]? =
        some (.closing (.draining (s.now + s.timeouts.close)) next) := act_own calls
    refine .waiting ?_ begun rfl
    rw [(act_leaves calls).stopped, open_]
    rfl

/-- Where everybody takes the steps that they have, the close has returned when its time is over. -/
theorem Draining.punctual (draining : Draining deadline table i next s) (early : s.now ≤ deadline)
    (alone : Along (Alone i) s acts) (punctual : Along Punctual s acts)
    (past : deadline < (s.run acts).now) : (s.run acts).Released ∧ (s.run acts).Settled := by
  have keeps (s : Session σ ε) (a : Act σ ε) (here : Alone i s a ∧ Punctual s a) :
      Draining deadline table i next s ∧ (s.now ≤ deadline ∨ s.Released ∧ s.Settled) →
      Draining deadline table i next (s.act a) ∧
        ((s.act a).now ≤ deadline ∨ (s.act a).Released ∧ (s.act a).Settled) := by
    rintro ⟨draining, state⟩
    refine ⟨draining.act here.1, ?_⟩
    rcases state with early | ⟨released, settled⟩
    · rw [act_now]
      rcases Nat.eq_zero_or_pos a.passes with still | passes
      · exact .inl (by omega)
      · obtain ⟨idle, upTo⟩ := here.2 passes
        rcases draining.drains.rests draining.winding idle with ⟨released, settled⟩ | parked
        · exact .inr ⟨released.act a, settled.act a⟩
        · exact .inl (upTo _ (List.mem_of_getElem? parked) deadline rfl)
    · exact .inr ⟨released.act a, settled.act a⟩
  have both := (alone.and punctual).keeps keeps ⟨draining, .inl early⟩
  exact both.2.resolve_left (by omega)

end Graceful

end Mcp.Session
