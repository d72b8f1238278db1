import Mcp.Proofs.Session.Lives
import Mcp.Proofs.Session.Effects

/-!
What a session says to its transport and hears from it. A run leaves a transcript of this traffic,
whose messages that were taken are what is on the wire (`run_sent`), and each answer that a request
has was heard (`Informed`).
-/

namespace Mcp.Session

variable {σ ε : Type}

/-- What an act is to the wire. -/
inductive Traffic where
  /-- A message was handed to the transport, which took it or did not. -/
  | offered (m : Message) (result : Except Error Unit)
  /-- A closed session did not take a notification with a method. -/
  | withheld (method : String)
  /-- The reader took a message. -/
  | heard (m : Message)

/-- The message of a piece of traffic, if it went out. -/
def Traffic.sent? : Traffic → Option Message
  | .offered m (.ok ()) => some m
  | _ => none

/-- What the next step of a task is to the wire. -/
def taskTraffic (s : Session σ ε) : Task σ ε → Option Traffic
  | .ready (.notify method _ _) => if s.stopped then some (.withheld method) else none
  | .sending m _ => some (.offered m (s.link.send m).1)
  | .calling call .confirmed _ => some (.offered call.message (s.link.send call.message).1)
  | _ => none

/-- What the reader's next step is to the wire. -/
def readTraffic (s : Session σ ε) : Option Traffic :=
  match s.reader with
  | .reading => if s.stopped then none else s.link.receive.1.map .heard
  | _ => none

/-- What an act is to the wire, if it is anything to it. -/
def traffic (s : Session σ ε) : Act σ ε → Option Traffic
  | .step (.task index) => s.tasks[index]?.bind s.taskTraffic
  | .step .reader => s.readTraffic
  | _ => none

/-- The traffic of a run, in order. -/
def transcript (s : Session σ ε) : List (Act σ ε) → List Traffic
  | [] => []
  | a :: rest => (s.traffic a).toList ++ (s.act a).transcript rest

/-- The traffic of one task's own steps in a run. -/
def taskTranscript (s : Session σ ε) (i : Nat) : List (Act σ ε) → List Traffic
  | [] => []
  | a :: rest =>
    (if a.isStepOf i then (s.traffic a).toList else []) ++ (s.act a).taskTranscript i rest

theorem taskTranscript_append {s : Session σ ε} {i : Nat} (before after : List (Act σ ε)) :
    s.taskTranscript i (before ++ after) =
      s.taskTranscript i before ++ (s.run before).taskTranscript i after := by
  induction before generalizing s with
  | nil => rfl
  | cons a before ih =>
    rw [List.cons_append, taskTranscript, ih, taskTranscript, List.append_assoc, run_cons]

/-- Each piece of a transcript is what one act was to the wire. -/
theorem transcript_split {s : Session σ ε} {acts : List (Act σ ε)} {before after : List Traffic}
    {x : Traffic} (h : s.transcript acts = before ++ x :: after) :
    ∃ earlier a later, acts = earlier ++ a :: later ∧ s.transcript earlier = before ∧
      (s.run earlier).traffic a = some x := by
  induction acts generalizing s before with
  | nil => simp [transcript] at h
  | cons a acts ih =>
    have further {before' : List Traffic}
        (rest : (s.act a).transcript acts = before' ++ x :: after)
        (same : before = (s.traffic a).toList ++ before') :
        ∃ earlier b later, a :: acts = earlier ++ b :: later ∧ s.transcript earlier = before ∧
          (s.run earlier).traffic b = some x := by
      obtain ⟨earlier, b, later, rfl, told, happens⟩ := ih rest
      exact ⟨a :: earlier, b, later, rfl, by rw [transcript, told, same], happens⟩
    rw [transcript] at h
    cases happens : s.traffic a with
    | none =>
      rw [happens] at h
      exact further h (by rw [happens]; rfl)
    | some y =>
      rw [happens] at h
      cases before with
      | nil =>
        cases h
        exact ⟨[], a, acts, rfl, rfl, happens⟩
      | cons b before =>
        obtain ⟨rfl, rest⟩ := List.cons.inj h
        exact further rest (by rw [happens]; rfl)

/-- What holds of a session and its transcript, and is kept by each act of a run, holds after the
run. -/
theorem transcript_induction {P : Session σ ε → List Traffic → Prop} {acts : List (Act σ ε)}
    (step : ∀ s t, ∀ a ∈ acts, P s t → P (s.act a) (t ++ (s.traffic a).toList))
    {s : Session σ ε} {t : List Traffic} (start : P s t) :
    P (s.run acts) (t ++ s.transcript acts) := by
  induction acts generalizing s t with
  | nil => simpa [transcript] using start
  | cons a acts ih =>
    have later := ih (fun s t b there => step s t b (List.mem_cons_of_mem a there))
      (step s t a List.mem_cons_self start)
    simpa [transcript, List.append_assoc] using later

theorem traffic_task {s : Session σ ε} {i : Nat} {task : Task σ ε} (h : s.tasks[i]? = some task) :
    s.traffic (.step (.task i)) = s.taskTraffic task := by
  simp [traffic, h]

theorem traffic_outside {s : Session σ ε} {a : Act σ ε}
    (absent : ∀ i, a = .step (.task i) → s.tasks[i]? = none) (other : a ≠ .step .reader) :
    s.traffic a = none := by
  unfold traffic
  split
  · simp [absent _ rfl]
  · exact absurd rfl other
  · rfl

/-- The reader hears, and does nothing else to the wire. -/
theorem traffic_reader (s : Session σ ε) {x : Traffic} (h : s.traffic (.step .reader) = some x) :
    ∃ m, x = .heard m := by
  simp only [traffic, readTraffic] at h
  split at h
  · split at h
    · cases h
    · obtain ⟨m, -, rfl⟩ := Option.map_eq_some_iff.mp h
      exact ⟨m, rfl⟩
  · cases h

/-- The reader hands out what it hears. -/
theorem read_of_heard {s : Session σ ε} {m : Message}
    (h : s.traffic (.step .reader) = some (.heard m)) :
    s.read = ({ s with link := s.link.receive.2 } : Session σ ε).dispatch m := by
  simp only [traffic, readTraffic] at h
  unfold Session.read
  split at h
  · rename_i reading
    split at h
    · cases h
    · rename_i open_
      split
      · rw [if_neg open_]
        obtain ⟨m', received, same⟩ := Option.map_eq_some_iff.mp h
        cases same
        split
        · rename_i received'
          rw [received'] at received ⊢
          cases received
          rfl
        · rename_i nothing
          rw [nothing] at received
          cases received
      · rename_i leaving
        cases reading.symm.trans leaving
      · rename_i gone
        cases reading.symm.trans gone
  · cases h

/-! ### What is on the wire -/

theorem send_sent (t : Transport.Memory) (m : Message) :
    (t.send m).2.sent = t.sent ++ (Traffic.offered m (t.send m).1).sent?.toList := by
  unfold Transport.Memory.send
  split
  · exact (List.append_nil _).symm
  · split
    · exact (List.append_nil _).symm
    · split
      · rfl
      · exact (List.append_nil _).symm

theorem linked_sent (s : Session σ ε) (task : Task σ ε) :
    (s.linked task).sent = s.link.sent ++ ((s.taskTraffic task).bind Traffic.sent?).toList := by
  have quiet : s.link.sent = s.link.sent ++ (none : Option Message).toList :=
    (List.append_nil _).symm
  cases task with
  | ready program =>
    cases program with
    | notify =>
      simp only [linked, taskTraffic]
      split <;> exact quiet
    | done | request | respond | sleep | now | emit | update | await | health | close =>
      exact quiet
  | sending m next => exact send_sent s.link m
  | calling call stage next =>
    cases stage with
    | confirmed => exact send_sent s.link call.message
    | admitted | registered | waiting | withdrawing => exact quiet
  | closing stage next => cases stage <;> exact quiet
  | sleeping | awaiting => exact quiet

theorem act_sent (s : Session σ ε) (a : Act σ ε) :
    (s.act a).link.sent = s.link.sent ++ ((s.traffic a).bind Traffic.sent?).toList := by
  cases s.act_whose a with
  | @task i task h => rw [(act_leaves h).link, traffic_task h, linked_sent]
  | reader =>
    obtain ⟨inbox, receiving, link⟩ := s.act_reads.link
    rw [link]
    cases h : s.traffic (.step .reader) with
    | none => exact (List.append_nil _).symm
    | some x =>
      obtain ⟨m, rfl⟩ := s.traffic_reader h
      exact (List.append_nil _).symm
  | outside absent other rest =>
    rw [traffic_outside absent other]
    exact rest.sent.trans (List.append_nil _).symm

/-- What went out in a run is what its transcript says. -/
theorem run_sent (s : Session σ ε) (acts : List (Act σ ε)) :
    (s.run acts).link.sent = s.link.sent ++ (s.transcript acts).filterMap Traffic.sent? := by
  induction acts generalizing s with
  | nil => exact (List.append_nil _).symm
  | cons a acts ih =>
    rw [run_cons, ih, act_sent, transcript, List.filterMap_append, List.append_assoc]
    cases s.traffic a with
    | none => rfl
    | some x => cases h : x.sent? <;> simp [h]

/-! ### Answers that were heard -/

theorem traffic_of_heard {s : Session σ ε} {a : Act σ ε} {r : Response}
    (h : s.happening a = some (.heard r)) : s.traffic a = some (.heard (.response r)) := by
  cases a with
  | step agent =>
    cases agent with
    | task i =>
      simp only [happening] at h
      obtain ⟨task, -, h⟩ := Option.bind_eq_some_iff.mp h
      cases task with
      | ready program =>
        cases program with
        | request =>
          simp only [taskHappening] at h
          split at h <;> cases h
        | done | notify | respond | sleep | now | emit | update | await | health | close =>
          cases h
      | calling call stage next =>
        cases stage with
        | admitted | withdrawing => cases h
        | registered =>
          simp only [taskHappening, callHappening] at h
          split at h <;> cases h
        | confirmed =>
          simp only [taskHappening, callHappening] at h
          split at h <;> cases h
        | waiting =>
          simp only [taskHappening, callHappening] at h
          split at h
          · cases h
          · split at h <;> cases h
      | closing stage next => cases stage <;> cases h
      | sending | sleeping | awaiting => cases h
    | forwarder => cases h
    | reader =>
      simp only [happening, readHappening] at h
      simp only [traffic, readTraffic]
      split at h
      · rename_i reading
        rw [reading]
        simp only
        split at h
        · cases h
        · rename_i open_
          rw [if_neg open_]
          split at h
          · rename_i m received
            cases h
            rw [received]
            rfl
          · cases h
      · cases h
      · cases h
  | spawn | inject | failSends | unhealthy | deafen | endSource | advance | drop => cases h

/-- An answer that a request has after an act is one that it had before, or the act hears it, in a
response with the request's id. -/
theorem act_answered {s : Session σ ε} (sound : Sound s) (named : s.label ≠ "") (a : Act σ ε)
    {i : Nat} {o : Ongoing σ ε} {answer : Except RpcError Json}
    (ho : (s.act a).ongoing? i = some o) (answered : o.call.slot = .answered answer) :
    (∃ p, s.ongoing? i = some p ∧ p.call = o.call) ∨
      ∃ r, s.traffic a = some (.heard (.response r)) ∧ r.id = some (.text o.call.id) ∧
        r.answer = answer := by
  -- A request that goes on keeps what came for it.
  have updated {new : Option (Ongoing σ ε)} {j : Nat}
      (requests : (s.act a).ongoing? = Function.update s.ongoing? j new)
      (before : ∀ o' answer, new = some o' → o'.call.slot = .answered answer →
        ∃ p, s.ongoing? j = some p ∧ p.call = o'.call) :
      ∃ p, s.ongoing? i = some p ∧ p.call = o.call := by
    rw [requests, Function.update_apply] at ho
    split at ho
    · rename_i here
      subst here
      exact before o answer ho answered
    · exact ⟨o, ho, rfl⟩
  have moves := s.act_moves a
  generalize happens : s.happening a = x at moves
  cases moves with
  | quiet requests =>
    rw [requests] at ho
    exact .inl ⟨o, ho, rfl⟩
  | begin _ requests =>
    refine .inl (updated requests fun o' answer same answered => ?_)
    cases same
    cases answered
  | enter hc requests | advance hc _ requests =>
    refine .inl (updated requests fun o' answer same _ => ?_)
    cases same
    exact ⟨_, hc, rfl⟩
  | finish _ _ requests | withdraw _ requests => exact .inl (updated requests (by simp))
  | @hear r _ requests =>
    rw [requests, sound.hear_eq, Option.map_eq_some_iff] at ho
    obtain ⟨p, hp, rfl⟩ := ho
    rw [Ongoing.tell] at answered ⊢
    split at answered
    · rename_i told
      obtain ⟨inside, reached⟩ := Bool.and_eq_true_iff.mp told
      rw [Ongoing.fill, (Ongoing.inTable_iff.mp inside).2] at answered
      cases answered
      refine .inr ⟨r, traffic_of_heard happens, ?_, rfl⟩
      rw [if_pos told]
      exact (Response.reaches_iff named (sound.issued hp) r).mp reached
    · rename_i untold
      rw [if_neg untold]
      exact .inl ⟨p, hp, rfl⟩
  | clear requests =>
    rw [requests, sound.clear_eq, Option.map_eq_some_iff] at ho
    obtain ⟨p, hp, rfl⟩ := ho
    rw [Ongoing.tell] at answered ⊢
    split at answered
    · rename_i told
      obtain ⟨inside, -⟩ := Bool.and_eq_true_iff.mp told
      rw [Ongoing.fill, (Ongoing.inTable_iff.mp inside).2] at answered
      cases answered
    · rename_i untold
      rw [if_neg untold]
      exact .inl ⟨p, hp, rfl⟩

/-- Each answer that a request has was heard, in a response with the request's id. -/
def Informed (s : Session σ ε) (t : List Traffic) : Prop :=
  ∀ i o answer, s.ongoing? i = some o → o.call.slot = .answered answer →
    ∃ r, .heard (.response r) ∈ t ∧ r.id = some (.text o.call.id) ∧ r.answer = answer

theorem Informed.act {s : Session σ ε} {t : List Traffic} (informed : Informed s t)
    (sound : Sound s) (named : s.label ≠ "") (a : Act σ ε) :
    Informed (s.act a) (t ++ (s.traffic a).toList) := by
  intro i o answer ho answered
  rcases act_answered sound named a ho answered with ⟨p, hp, same⟩ | ⟨r, heard, own, told⟩
  · obtain ⟨r, heard, own, told⟩ := informed i p answer hp (same ▸ answered)
    exact ⟨r, List.mem_append_left _ heard, same ▸ own, told⟩
  · refine ⟨r, List.mem_append_right _ ?_, own, told⟩
    rw [heard]
    exact List.mem_cons_self

end Mcp.Session
