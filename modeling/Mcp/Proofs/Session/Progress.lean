import Mcp.Proofs.Session.Accounts

/-!
Requests go on by themselves. A request that has not ended can always take its next step, unless it
was sent and waits for what has not come yet (`enabled_or_waits`), and a few steps bring it to its
end or to such waiting (`rests`).
-/

namespace Mcp.Session

variable {σ ε : Type}

theorem ongoing?_eq_some {s : Session σ ε} {i : Nat} {o : Ongoing σ ε} :
    s.ongoing? i = some o ↔ s.tasks[i]? = some (.calling o.call o.stage o.next) := by
  rw [ongoing?, Option.bind_eq_some_iff]
  constructor
  · rintro ⟨task, ht, ho⟩
    cases task with
    | calling call stage next =>
      cases ho
      exact ht
    | ready | sending | sleeping | awaiting | closing => cases ho
  · intro ht
    exact ⟨_, ht, rfl⟩

theorem act_task {s : Session σ ε} {i : Nat} {task : Task σ ε} (h : s.tasks[i]? = some task) :
    s.act (.step (.task i)) = s.stepTask i task := by
  simp [act, step, h]

theorem happening_task {s : Session σ ε} {i : Nat} {task : Task σ ε}
    (h : s.tasks[i]? = some task) : s.happening (.step (.task i)) = s.taskHappening task := by
  simp [happening, h]

/-- A request was sent, and waits for what has not come yet. -/
def Waits (s : Session σ ε) (i : Nat) (id : String) : Prop :=
  ∃ call deadline next, s.ongoing? i = some ⟨call, .waiting deadline, next⟩ ∧ call.id = id ∧
    call.slot = .empty ∧ s.now < deadline

/-- So many steps of its own task bring a request to its end or to where it waits. -/
def Rests (s : Session σ ε) (i : Nat) (id : String) (steps : Nat) : Prop :=
  ∃ n ≤ steps, Ended (s.history (List.replicate n (.step (.task i)))) id ∨
    (s.run (List.replicate n (.step (.task i)))).Waits i id

theorem Rests.next {s : Session σ ε} {i steps : Nat} {id : String}
    (rests : (s.act (.step (.task i))).Rests i id steps) : s.Rests i id (steps + 1) := by
  obtain ⟨n, hn, ⟨outcome, ended⟩ | waits⟩ := rests
  · exact ⟨n + 1, by omega, .inl ⟨outcome, List.mem_append_right _ ended⟩⟩
  · exact ⟨n + 1, by omega, .inr waits⟩

theorem Rests.mono {s : Session σ ε} {i m n : Nat} {id : String} (rests : s.Rests i id m)
    (h : m ≤ n) : s.Rests i id n := by
  obtain ⟨k, hk, done⟩ := rests
  exact ⟨k, Nat.le_trans hk h, done⟩

theorem Rests.of_ended {s : Session σ ε} {i : Nat} {id : String} {outcome : Except Error Json}
    (h : s.happening (.step (.task i)) = some (.ended id outcome)) : s.Rests i id 1 := by
  refine ⟨1, Nat.le_refl 1, .inl ⟨outcome, ?_⟩⟩
  simp [history, h]

theorem rests_withdrawing {s : Session σ ε} {i : Nat} {call : Call} {e : Error}
    {next : Except Error Json → Program σ ε Unit}
    (h : s.tasks[i]? = some (.calling call (.withdrawing e) next)) : s.Rests i call.id 1 :=
  .of_ended (happening_task h)

theorem rests_waiting {s : Session σ ε} {i : Nat} {call : Call} {deadline : Nat}
    {next : Except Error Json → Program σ ε Unit}
    (h : s.tasks[i]? = some (.calling call (.waiting deadline) next)) : s.Rests i call.id 2 := by
  have hi := (List.getElem?_eq_some_iff.mp h).1
  have here := happening_task h
  simp only [taskHappening, callHappening] at here
  cases hslot : call.slot with
  | answered answer =>
    rw [hslot] at here
    exact (Rests.of_ended here).mono (by decide)
  | dropped =>
    rw [hslot] at here
    exact (Rests.of_ended here).mono (by decide)
  | empty =>
    by_cases late : deadline ≤ s.now
    · have after : (s.act (.step (.task i))).tasks[i]? = some (.calling call
          (.withdrawing (.timeout call.method call.timeout)) next) := by
        simp [act_task h, stepTask, stepCall, hslot, late, setTask, hi]
      exact (rests_withdrawing after).next
    · refine ⟨0, Nat.zero_le 2, .inr ⟨call, deadline, next, ?_, rfl, hslot, by simpa using late⟩⟩
      exact ongoing?_eq_some.mpr h

theorem rests_confirmed {s : Session σ ε} {i : Nat} {call : Call}
    {next : Except Error Json → Program σ ε Unit}
    (h : s.tasks[i]? = some (.calling call .confirmed next)) : s.Rests i call.id 3 := by
  have hi := (List.getElem?_eq_some_iff.mp h).1
  have after : (∃ deadline, (s.act (.step (.task i))).tasks[i]? =
      some (.calling call (.waiting deadline) next)) ∨
      ∃ e, (s.act (.step (.task i))).tasks[i]? = some (.calling call (.withdrawing e) next) := by
    simp only [act_task h, stepTask, stepCall]
    split
    · exact .inl ⟨s.now + call.timeout, by simp [setTask, hi]⟩
    · rename_i e _ _
      exact .inr ⟨e, by simp [setTask, hi]⟩
  rcases after with ⟨_, sent⟩ | ⟨_, failed⟩
  · exact (rests_waiting sent).next
  · exact (rests_withdrawing failed).next.mono (by decide)

theorem rests_registered {s : Session σ ε} {i : Nat} {call : Call}
    {next : Except Error Json → Program σ ε Unit}
    (h : s.tasks[i]? = some (.calling call .registered next)) : s.Rests i call.id 4 := by
  have hi := (List.getElem?_eq_some_iff.mp h).1
  have after : (s.act (.step (.task i))).tasks[i]? = some (.calling call
      (if s.stopped then .withdrawing .transportClosed else .confirmed) next) := by
    simp [act_task h, stepTask, stepCall, setTask, hi]
  cases hs : s.stopped with
  | true =>
    rw [hs] at after
    exact (rests_withdrawing after).next.mono (by decide)
  | false =>
    rw [hs] at after
    exact (rests_confirmed after).next

theorem rests_admitted {s : Session σ ε} {i : Nat} {call : Call}
    {next : Except Error Json → Program σ ε Unit}
    (h : s.tasks[i]? = some (.calling call .admitted next)) : s.Rests i call.id 5 := by
  have hi := (List.getElem?_eq_some_iff.mp h).1
  have after : (s.act (.step (.task i))).tasks[i]? = some (.calling call .registered next) := by
    simp [act_task h, stepTask, stepCall, setTask, hi]
  exact (rests_registered after).next

/-- A few steps of its own task bring every request to its end or to where it waits. -/
theorem rests {s : Session σ ε} {i : Nat} {o : Ongoing σ ε} (ho : s.ongoing? i = some o) :
    s.Rests i o.call.id 5 := by
  have h := ongoing?_eq_some.mp ho
  obtain ⟨call, stage, next⟩ := o
  cases stage with
  | admitted => exact rests_admitted h
  | registered => exact (rests_registered h).mono (by decide)
  | confirmed => exact (rests_confirmed h).mono (by decide)
  | waiting => exact (rests_waiting h).mono (by decide)
  | withdrawing => exact (rests_withdrawing h).mono (by decide)

/-- Nothing but waiting keeps a request from its next step. -/
theorem enabled_or_waits {s : Session σ ε} {i : Nat} {o : Ongoing σ ε}
    (ho : s.ongoing? i = some o) : s.enabled (.task i) = true ∨ s.Waits i o.call.id := by
  have h := ongoing?_eq_some.mp ho
  simp only [enabled, h]
  obtain ⟨call, stage, next⟩ := o
  cases stage with
  | admitted | registered | confirmed | withdrawing => exact .inl rfl
  | waiting deadline =>
    simp only [canStep]
    cases hslot : call.slot with
    | answered | dropped => exact .inl rfl
    | empty =>
      by_cases late : deadline ≤ s.now
      · exact .inl (by simpa using late)
      · exact .inr ⟨call, deadline, next, ho, rfl, hslot, by simpa using late⟩

end Mcp.Session
