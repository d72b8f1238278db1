import Mcp.Proofs.Session.Winding

/-!
How the closing of a session settles. A session that was told to stop settles by steps of its own
(`settles`): its reader goes, and each request in flight ends, with the news that the transport is
closed if it met neither its own failure nor the end of its time first (`ends_closed`).
-/

namespace Mcp.Session

variable {σ ε : Type}

/-! ### Settled sessions -/

/-- The closing of a session has settled: nothing is left of its reader and of its requests. -/
structure Settled (s : Session σ ε) : Prop where
  stopped : s.stopped = true
  reader : s.reader = .gone
  idle (i : Nat) : s.ongoing? i = none

theorem Settled.act {s : Session σ ε} (settled : s.Settled) (a : Act σ ε) : (s.act a).Settled where
  stopped := act_stopped settled.stopped a
  reader := act_gone settled.reader a
  idle i := act_ongoing?_none settled.stopped (settled.idle i) a

theorem Settled.run {s : Session σ ε} (settled : s.Settled) (acts : List (Act σ ε)) :
    (s.run acts).Settled :=
  run_keeps (fun _ a settled => settled.act a) settled acts

theorem Settled.pending {s : Session σ ε} (settled : s.Settled) (sound : Sound s) :
    s.pending = [] := by
  rw [List.eq_nil_iff_forall_not_mem]
  rintro ⟨id, i⟩ entry
  obtain ⟨o, ho, -⟩ := sound.mem_table.mp entry
  rw [settled.idle i] at ho
  cases ho

/-- A session that was told to stop has settled when neither its reader nor a request has a step to
take. -/
theorem Winding.settled {s : Session σ ε} (winding : Winding s) (stopped : s.stopped = true)
    (reader : s.enabled .reader = false)
    (requests : ∀ i o, s.ongoing? i = some o → s.enabled (.task i) = false) : s.Settled := by
  have gone : s.reader = .gone := by
    simp only [enabled, canRead] at reader
    cases stage : s.reader with
    | reading => simp [stage, stopped] at reader
    | leaving => simp [stage] at reader
    | gone => rfl
  refine ⟨stopped, gone, fun i => ?_⟩
  cases ho : s.ongoing? i with
  | none => rfl
  | some o =>
    rcases enabled_or_waits ho with able | ⟨call, deadline, next, same, -, empty, -⟩
    · rw [requests i o ho] at able
      cases able
    · exact ((winding.gone gone).turnedBack same empty).elim

/-! ### Closing settles -/

theorem reader_goes {s : Session σ ε} (stopped : s.stopped = true) :
    ∃ n, (s.run (List.replicate n (.step .reader))).reader = .gone := by
  cases stage : s.reader with
  | gone => exact ⟨0, stage⟩
  | leaving => exact ⟨1, by simp [Session.act, step, Session.read, stage]⟩
  | reading => exact ⟨2, by simp [Session.act, step, Session.read, stage, stopped]⟩

/-- The requests of a session that was told to stop were there before. -/
theorem run_ongoing? {s : Session σ ε} (stopped : s.stopped = true) {i : Nat} {o' : Ongoing σ ε}
    (acts : List (Act σ ε)) (ho' : (s.run acts).ongoing? i = some o') :
    ∃ o, s.ongoing? i = some o ∧ o'.call.id = o.call.id := by
  induction acts generalizing s with
  | nil => exact ⟨o', ho', rfl⟩
  | cons a acts ih =>
    obtain ⟨p, hp, same⟩ := ih (act_stopped stopped a) ho'
    obtain ⟨o, ho, winds⟩ := act_winds stopped hp
    refine ⟨o, ho, same.trans ?_⟩
    cases winds <;> rfl

/-- When the reader is gone, a few steps of its own task end each request. -/
theorem request_ends {s : Session σ ε} {h : List Happening} (accounts : Accounts s h)
    (winding : Winding s) (gone : s.reader = .gone) (i : Nat) :
    ∃ n, (s.run (List.replicate n (.step (.task i)))).ongoing? i = none := by
  have cleared := winding.gone gone
  cases ho : s.ongoing? i with
  | none => exact ⟨0, ho⟩
  | some o =>
    obtain ⟨n, -, ⟨outcome, ended⟩ | ⟨call, deadline, next, waiting, -, empty, -⟩⟩ := rests ho
    · refine ⟨n, ?_⟩
      have done := (accounts.run (List.replicate n (.step (.task i)))).done
        ⟨outcome, List.mem_append_right _ ended⟩
      cases ho' : (s.run (List.replicate n (.step (.task i)))).ongoing? i with
      | none => rfl
      | some o' =>
        obtain ⟨p, hp, same⟩ := run_ongoing? cleared.stopped _ ho'
        rw [ho] at hp
        cases hp
        exact absurd ⟨i, o', ho', same⟩ done
    · have later : (s.run (List.replicate n (.step (.task i)))).Cleared :=
        run_keeps (fun _ a cleared => cleared.act a) cleared _
      exact (later.turnedBack waiting empty).elim

/-- A step of an agent, not an act from outside. -/
def Act.isStep : Act σ ε → Prop
  | .step _ => True
  | _ => False

theorem requests_end {s : Session σ ε} {h : List Happening} (accounts : Accounts s h)
    (winding : Winding s) (gone : s.reader = .gone) (tasks : List Nat) :
    ∃ acts : List (Act σ ε), (∀ a ∈ acts, a.isStep) ∧
      ∀ i ∈ tasks, (s.run acts).ongoing? i = none := by
  induction tasks generalizing s h with
  | nil => exact ⟨[], by simp, by simp⟩
  | cons i tasks ih =>
    obtain ⟨n, idle⟩ := request_ends accounts winding gone i
    have stopped := winding.reader (by simp [gone])
    have gone' : (s.run (List.replicate n (.step (.task i)))).reader = .gone :=
      run_keeps (P := fun s => s.reader = .gone) (fun _ a gone => act_gone gone a) gone _
    obtain ⟨acts, steps, others⟩ := ih (accounts.run _) (winding.run _) gone'
    refine ⟨List.replicate n (.step (.task i)) ++ acts, ?_, ?_⟩
    · intro a ha
      rcases List.mem_append.mp ha with own | other
      · rw [List.eq_of_mem_replicate own]
        exact trivial
      · exact steps a other
    · intro j hj
      rw [run_append]
      rcases List.mem_cons.mp hj with rfl | other
      · cases still : ((s.run (List.replicate n (.step (.task j)))).run acts).ongoing? j with
        | none => rfl
        | some o' =>
          obtain ⟨o, ho, -⟩ := run_ongoing? (run_stopped stopped _) _ still
          rw [idle] at ho
          cases ho
      · exact others j other

/-- A few steps of its own settle the closing of a session. -/
theorem settles {s : Session σ ε} {h : List Happening} (accounts : Accounts s h)
    (winding : Winding s) (stopped : s.stopped = true) :
    ∃ acts : List (Act σ ε), (∀ a ∈ acts, a.isStep) ∧ (s.run acts).Settled := by
  obtain ⟨n, gone⟩ := reader_goes stopped
  obtain ⟨acts, steps, idle⟩ := requests_end (accounts.run _) (winding.run _) gone
    (List.range (s.run (List.replicate n (.step .reader))).tasks.length)
  refine ⟨List.replicate n (.step .reader) ++ acts, ?_, ?_⟩
  · intro a ha
    rcases List.mem_append.mp ha with own | other
    · rw [List.eq_of_mem_replicate own]
      exact trivial
    · exact steps a other
  · rw [run_append]
    have stopped' := run_stopped stopped (List.replicate n (.step .reader))
    refine ⟨run_stopped stopped' acts,
      run_keeps (P := fun s => s.reader = .gone) (fun _ a gone => act_gone gone a) gone acts,
      fun i => ?_⟩
    cases ho : ((s.run (List.replicate n (.step .reader))).run acts).ongoing? i with
    | none => rfl
    | some o' =>
      obtain ⟨o, ho₀, -⟩ := run_ongoing? stopped' acts ho
      have inside : i < (s.run (List.replicate n (.step .reader))).tasks.length :=
        (List.getElem?_eq_some_iff.mp (ongoing?_eq_some.mp ho₀)).1
      rw [← ho]
      exact idle i (List.mem_range.mpr inside)

/-! ### How requests in flight end -/

/-- How a request for which nothing had come when the session was told to stop may end, with what
happened since. -/
inductive EndsClosed (h : List Happening) (o : Ongoing σ ε) : Except Error Json → Prop
  | closed : EndsClosed h o (.error .transportClosed)
  /-- It had seen the session open, and could not be sent. -/
  | unsent {e : Error} : o.stage = .confirmed → .unsent o.call.id e ∈ h → EndsClosed h o (.error e)
  /-- Its time was over before the table was cleared. -/
  | late : (o.stage = .confirmed ∨ ∃ deadline, o.stage = .waiting deadline) →
      .expired o.call.id ∈ h → EndsClosed h o (.error (.timeout o.call.method o.call.timeout))
  /-- It had failed already. -/
  | failed {e : Error} : o.stage = .withdrawing e → EndsClosed h o (.error e)

theorem EndsClosed.mono {h : List Happening} {o : Ongoing σ ε} {outcome : Except Error Json}
    (ends : EndsClosed h o outcome) (more : List Happening) :
    EndsClosed (h ++ more) o outcome := by
  cases ends with
  | closed => exact .closed
  | unsent stage there => exact .unsent stage (List.mem_append_left _ there)
  | late stage there => exact .late stage (List.mem_append_left _ there)
  | failed stage => exact .failed stage

/-- How far a request for which nothing had come when the session was told to stop has got, with
what happened since. -/
structure Toward (h : List Happening) (o o' : Ongoing σ ε) : Prop where
  call : ∃ slot, (slot = .empty ∨ slot = .dropped) ∧ o'.call = { o.call with slot }
  confirmed : o'.stage = .confirmed → o.stage = .confirmed
  waiting {deadline : Nat} : o'.stage = .waiting deadline →
    o.stage = .confirmed ∨ ∃ deadline, o.stage = .waiting deadline
  failing {e : Error} : o'.stage = .withdrawing e → EndsClosed h o (.error e)

theorem Toward.start {o : Ongoing σ ε} (empty : o.call.slot = .empty) : Toward [] o o where
  call := ⟨.empty, .inl rfl, by rw [← empty]⟩
  confirmed := id
  waiting stage := .inr ⟨_, stage⟩
  failing stage := .failed stage

theorem Toward.winds {s : Session σ ε} {h : List Happening} {o p p' : Ongoing σ ε}
    {x : Option Happening} (toward : Toward h o p) (winds : Winds s p x p') :
    Toward (h ++ x.toList) o p' := by
  obtain ⟨slot, unanswered, same⟩ := toward.call
  cases winds with
  | told gets =>
    refine ⟨?_, toward.confirmed, toward.waiting, fun stage => (toward.failing stage).mono _⟩
    rw [same] at gets ⊢
    rcases unanswered with rfl | rfl
    · cases gets with
      | same => exact ⟨.empty, .inl rfl, rfl⟩
      | answer open_ => cases open_
      | drop => exact ⟨.dropped, .inr rfl, rfl⟩
    · cases gets
      exact ⟨.dropped, .inr rfl, rfl⟩
  | enter stage => exact ⟨toward.call, by simp, by simp, by simp⟩
  | refuse stage =>
    refine ⟨toward.call, by simp, by simp, fun stage => ?_⟩
    cases stage
    exact .closed
  | send stage happens =>
    exact ⟨toward.call, by simp, fun _ => .inl (toward.confirmed stage), by simp⟩
  | unsent stage happens =>
    refine ⟨toward.call, by simp, by simp, fun failing => ?_⟩
    cases failing
    refine .unsent (toward.confirmed stage) ?_
    simp [happens, same]
  | expire stage happens =>
    refine ⟨toward.call, by simp, by simp, fun failing => ?_⟩
    cases failing
    simp only [same]
    refine .late (toward.waiting stage) ?_
    simp [happens, same]

theorem toward_run {s : Session σ ε} (stopped : s.stopped = true) {i : Nat} {o : Ongoing σ ε}
    (ho : s.ongoing? i = some o) (empty : o.call.slot = .empty) (acts : List (Act σ ε))
    {o' : Ongoing σ ε} (ho' : (s.run acts).ongoing? i = some o') :
    Toward (s.history acts) o o' := by
  have keeps (s : Session σ ε) (h : List Happening) (a : Act σ ε) :
      (s.stopped = true ∧ ∀ o', s.ongoing? i = some o' → Toward h o o') →
      (s.act a).stopped = true ∧ ∀ o', (s.act a).ongoing? i = some o' →
        Toward (h ++ (s.happening a).toList) o o' := by
    rintro ⟨stopped, toward⟩
    refine ⟨act_stopped stopped a, fun o' ho' => ?_⟩
    obtain ⟨p, hp, winds⟩ := act_winds stopped ho'
    exact (toward p hp).winds winds
  have start : s.stopped = true ∧ ∀ o', s.ongoing? i = some o' → Toward [] o o' := by
    refine ⟨stopped, fun o' ho' => ?_⟩
    rw [ho] at ho'
    cases ho'
    exact .start empty
  exact (run_induction keeps start acts).2 o' ho'

theorem mem_history {s : Session σ ε} {acts : List (Act σ ε)} {x : Happening}
    (h : x ∈ s.history acts) : ∃ before a after, acts = before ++ a :: after ∧
      (s.run before).happening a = some x := by
  induction acts generalizing s with
  | nil => simp [history] at h
  | cons a acts ih =>
    rcases List.mem_append.mp h with here | later
    · exact ⟨[], a, acts, rfl, by simpa using here⟩
    · obtain ⟨before, b, after, rfl, happens⟩ := ih later
      exact ⟨a :: before, b, after, rfl, happens⟩

/-- A request ends by what came for it, or by its failure. -/
theorem ends_by {s : Session σ ε} {a : Act σ ε} {id : String} {outcome : Except Error Json}
    (h : s.happening a = some (.ended id outcome)) :
    ∃ i o, s.ongoing? i = some o ∧ o.call.id = id ∧
      ((∃ deadline, o.stage = .waiting deadline) ∧ o.call.slot.outcome? = some outcome ∨
        ∃ e, o.stage = .withdrawing e ∧ outcome = .error e) := by
  have moves := s.act_moves a
  rw [h] at moves
  cases moves with
  | advance _ step => cases step
  | finish ho out => exact ⟨_, _, ho, rfl, .inl ⟨⟨_, rfl⟩, out⟩⟩
  | withdraw ho => exact ⟨_, _, ho, rfl, .inr ⟨_, rfl, rfl⟩⟩

/-- What is handed to the transport is a request that has seen the session open. -/
theorem offered_by {s : Session σ ε} {a : Act σ ε} {id : String}
    (h : (∃ deadline, s.happening a = some (.sent id deadline)) ∨
      ∃ e, s.happening a = some (.unsent id e)) :
    ∃ i o, s.ongoing? i = some o ∧ o.call.id = id ∧ o.stage = .confirmed := by
  have moves := s.act_moves a
  rcases h with ⟨deadline, h⟩ | ⟨e, h⟩ <;> rw [h] at moves
  · cases moves with
    | advance ho step =>
      cases step with
      | send => exact ⟨_, _, ho, rfl, rfl⟩
  · cases moves with
    | advance ho step =>
      cases step with
      | fail => exact ⟨_, _, ho, rfl, rfl⟩

section InFlight

variable {s : Session σ ε} {i : Nat} {o : Ongoing σ ε} {acts : List (Act σ ε)}

/-- The request with the id of one in flight is that one. -/
theorem same_task (sound : Sound s) (stopped : s.stopped = true) (ho : s.ongoing? i = some o)
    {j : Nat} {p : Ongoing σ ε} (hp : (s.run acts).ongoing? j = some p)
    (same : p.call.id = o.call.id) : j = i := by
  obtain ⟨o', ho', before⟩ := run_ongoing? stopped acts hp
  exact sound.unique ho' ho (before.symm.trans same)

theorem ends_closed (sound : Sound s) (stopped : s.stopped = true) (ho : s.ongoing? i = some o)
    (empty : o.call.slot = .empty) {outcome : Except Error Json}
    (ended : .ended o.call.id outcome ∈ s.history acts) :
    EndsClosed (s.history acts) o outcome := by
  obtain ⟨before, a, after, rfl, happens⟩ := mem_history ended
  obtain ⟨j, p, hp, same, how⟩ := ends_by happens
  obtain rfl := same_task sound stopped ho hp same
  have toward := toward_run stopped ho empty before hp
  rw [history_append]
  rcases how with ⟨-, out⟩ | ⟨e, stage, rfl⟩
  · obtain ⟨slot, rfl | rfl, call⟩ := toward.call
    · rw [call] at out
      cases out
    · rw [call] at out
      cases out
      exact .closed
  · exact (toward.failing stage).mono _

/-- A request that has not seen the session open is not handed to the transport. -/
theorem not_offered (sound : Sound s) (stopped : s.stopped = true) (ho : s.ongoing? i = some o)
    (empty : o.call.slot = .empty) (early : o.stage = .admitted ∨ o.stage = .registered) :
    (∀ deadline, .sent o.call.id deadline ∉ s.history acts) ∧
      ∀ e, .unsent o.call.id e ∉ s.history acts := by
  have confirmed {before : List (Act σ ε)} {a : Act σ ε}
      (happens : (∃ deadline, (s.run before).happening a = some (.sent o.call.id deadline)) ∨
        ∃ e, (s.run before).happening a = some (.unsent o.call.id e)) : o.stage = .confirmed := by
    obtain ⟨j, p, hp, same, stage⟩ := offered_by happens
    obtain rfl := same_task sound stopped ho hp same
    exact (toward_run stopped ho empty before hp).confirmed stage
  constructor
  · intro deadline sent
    obtain ⟨before, a, after, rfl, happens⟩ := mem_history sent
    have := confirmed (.inl ⟨deadline, happens⟩)
    rcases early with stage | stage <;> rw [stage] at this <;> cases this
  · intro e unsent
    obtain ⟨before, a, after, rfl, happens⟩ := mem_history unsent
    have := confirmed (.inr ⟨e, happens⟩)
    rcases early with stage | stage <;> rw [stage] at this <;> cases this

/-- When the closing has settled, every request has ended. -/
theorem ended_of_settled (sound : Sound s) (ho : s.ongoing? i = some o)
    (settled : (s.run acts).Settled) : Ended (s.history acts) o.call.id := by
  by_contra unended
  obtain ⟨o', ho', -⟩ := ongoing?_run sound ho acts unended
  rw [settled.idle i] at ho'
  cases ho'

end InFlight

end Mcp.Session
