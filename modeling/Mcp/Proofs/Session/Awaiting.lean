import Mcp.Proofs.Session.Answers
import Mcp.Proofs.Session.Draining

/-!
How a task waits for what its session shares. Each of its steps looks, and the first that finds what
is waited for, or the time over, ends the wait; until then the task says nothing (`awaits`). Where
everybody takes the steps that they have, it does not wait beyond its time (`awaits_in_time`).
-/

namespace Mcp.Session

variable {σ ε : Type} {s : Session σ ε} {i : Nat} {task : Task σ ε}

/-- What holds at each act of a run holds in any weaker form, too. -/
theorem Along.mono {P Q : Session σ ε → Act σ ε → Prop} {acts : List (Act σ ε)}
    (weaker : ∀ s a, P s a → Q s a) (along : Along P s acts) : Along Q s acts := by
  induction along with
  | nil => exact .nil
  | cons here _ ih => exact .cons (weaker _ _ here) ih

theorem run_then (before : List (Act σ ε)) (a : Act σ ε) :
    s.run (before ++ [a]) = (s.run before).act a := by
  rw [run_append, run_cons, run_nil]

/-! ### The next step of a task -/

/-- A task that nobody can tell anything is as it was when it takes its first step, if it takes
one, and has said nothing before. -/
theorem first_step
    (deaf : ∀ {open_ : Bool} {task' : Task σ ε}, Told open_ task task' → task' = task)
    (h : s.tasks[i]? = some task) (acts : List (Act σ ε)) :
    (.step (.task i) ∉ acts ∧ s.taskTranscript i acts = []) ∨
      ∃ before after, acts = before ++ .step (.task i) :: after ∧ .step (.task i) ∉ before ∧
        (s.run before).tasks[i]? = some task ∧ s.taskTranscript i before = [] := by
  by_cases there : .step (.task i) ∈ acts
  · obtain ⟨before, after, rfl, still⟩ := List.eq_append_cons_of_mem there
    obtain ⟨h', silent⟩ := stays deaf h still
    exact .inr ⟨before, after, rfl, still, h', silent⟩
  · obtain ⟨-, silent⟩ := stays deaf h there
    exact .inl ⟨there, silent⟩

/-- A task has said nothing up to and with a step by which it says nothing. -/
theorem silent_through {before : List (Act σ ε)} (h : (s.run before).tasks[i]? = some task)
    (silent : s.taskTranscript i before = []) (quiet : (s.run before).taskTraffic task = none) :
    s.taskTranscript i (before ++ [.step (.task i)]) = [] := by
  rw [taskTranscript_append, silent, taskTranscript, traffic_task h, quiet]
  simp [taskTranscript]

/-! ### Waits -/

section Awaiting

variable {wanted : σ → Bool} {deadline : Nat} {next : Option σ → Program σ ε Unit}
  {acts : List (Act σ ε)}

/-- A step of a waiting task finds neither what is waited for nor the time over. -/
def Looks (i : Nat) (wanted : σ → Bool) (deadline : Nat) (s : Session σ ε) (a : Act σ ε) : Prop :=
  a = .step (.task i) → wanted s.shared = false ∧ s.now < deadline

/-- What a run makes of a task that waits: each of its steps has looked in vain, or one of them ends
the wait. -/
inductive Awaits (i : Nat) (wanted : σ → Bool) (deadline : Nat)
    (next : Option σ → Program σ ε Unit) (s : Session σ ε) (acts : List (Act σ ε)) : Prop
  | still : Along (Looks i wanted deadline) s acts →
      (s.run acts).tasks[i]? = some (.awaiting wanted deadline next) →
      s.taskTranscript i acts = [] → Awaits i wanted deadline next s acts
  | ends (before after : List (Act σ ε)) : acts = before ++ .step (.task i) :: after →
      Along (Looks i wanted deadline) s before →
      (s.run before).tasks[i]? = some (.awaiting wanted deadline next) →
      s.taskTranscript i before = [] →
      (wanted (s.run before).shared = true ∨ deadline ≤ (s.run before).now) →
      Awaits i wanted deadline next s acts

/-- An act that does not end the wait may come first. -/
theorem Awaits.after_act {a : Act σ ε} (looks : Looks i wanted deadline s a)
    (silent : (if a.isStepOf i then (s.traffic a).toList else []) = [])
    (waits : Awaits i wanted deadline next (s.act a) acts) :
    Awaits i wanted deadline next s (a :: acts) := by
  have quiet (later : List (Act σ ε)) :
      s.taskTranscript i (a :: later) = (s.act a).taskTranscript i later := by
    rw [taskTranscript, silent, List.nil_append]
  cases waits with
  | still along h said => exact .still (.cons looks along) h (by rw [quiet, said])
  | ends before after split along h said why =>
    subst split
    exact .ends (a :: before) after rfl (.cons looks along) h (by rw [quiet, said]) why

/-- A look in vain leaves a task waiting. -/
theorem turned_awaiting (unseen : wanted s.shared = false) (early : s.now < deadline) :
    s.turned (.awaiting wanted deadline next) = .awaiting wanted deadline next := by
  simp only [turned, unseen]
  rw [if_neg (by simp), if_neg (by omega)]

/-- A task that waits still waits after an act with which it looks in vain, if it looks. -/
theorem awaiting_act {a : Act σ ε} (h : s.tasks[i]? = some (.awaiting wanted deadline next))
    (looks : Looks i wanted deadline s a) :
    (s.act a).tasks[i]? = some (.awaiting wanted deadline next) := by
  by_cases own : a = .step (.task i)
  · obtain ⟨unseen, early⟩ := looks own
    rw [own, act_own h, turned_awaiting unseen early]
  · obtain ⟨task', h', told⟩ := act_elsewhere h own
    cases told
    exact h'

theorem awaits (h : s.tasks[i]? = some (.awaiting wanted deadline next)) (acts : List (Act σ ε)) :
    Awaits i wanted deadline next s acts := by
  induction acts generalizing s with
  | nil => exact .still .nil h rfl
  | cons a acts ih =>
    have silent : (if a.isStepOf i then (s.traffic a).toList else []) = [] := by
      split
      · rename_i own
        rw [Act.isStepOf_iff.mp own, traffic_task h]
        rfl
      · rfl
    by_cases looks : Looks i wanted deadline s a
    · exact .after_act looks silent (ih (awaiting_act h looks))
    · obtain ⟨rfl, ends⟩ := Classical.not_imp.mp looks
      refine .ends [] acts rfl .nil h rfl ?_
      rw [run_nil]
      by_cases seen : wanted s.shared = true
      · exact .inl seen
      · exact .inr (by simpa [seen] using ends)

/-- A task that waits has a step to take when it would find what it waits for, or the time over. -/
theorem enabled_awaiting (h : s.tasks[i]? = some (.awaiting wanted deadline next)) :
    s.enabled (.task i) = true ↔ wanted s.shared = true ∨ deadline ≤ s.now := by
  simp [enabled, h, canStep]

/-- Where everybody takes the steps that they have, a task does not wait beyond its time. -/
theorem awaits_in_time (h : s.tasks[i]? = some (.awaiting wanted deadline next))
    (early : s.now ≤ deadline) (along : Along (Looks i wanted deadline) s acts)
    (punctual : Along Punctual s acts) : (s.run acts).now ≤ deadline := by
  induction along with
  | nil => exact early
  | @cons s a acts looks _ ih =>
    cases punctual with
    | cons prompt later =>
      refine ih (awaiting_act h looks) ?_ later
      rw [act_now]
      rcases Nat.eq_zero_or_pos a.passes with still | passes
      · omega
      · exact (prompt passes).2 _ (List.mem_of_getElem? h) deadline rfl

end Awaiting

end Mcp.Session
