import Mcp.Proofs.Session.Alike

/-!
A message on its way in. Of two transports one may hold a message that the other does not
(`Holds`), in the queue or in the inbox, behind so many others. As long as these are in front, two
sessions with such transports go on in step (`Near.carry`, `Near.lack`).
-/

namespace Mcp

namespace Transport.Memory

/-- A transport holds a message, behind so many others, and is otherwise as another. -/
inductive Holds (m : Message) (n : Nat) (t t' : Memory) : Prop
  | queued (front rest : List Message) : n = t.inbox.length + front.length → t.cancelled = false →
      t.receiving = true → t.forwarding = true → t.queue = front ++ m :: rest →
      t' = { t with queue := front ++ rest } → Holds m n t t'
  | handed (front rest : List Message) : n = front.length → t.inbox = front ++ m :: rest →
      t' = { t with inbox := front ++ rest } → Holds m n t t'

/-- What is next for the receiver of a transport that holds a message. -/
inductive Next (m : Message) (n : Nat) (t t' : Memory) : Prop
  | earlier {x : Message} {rest rest' : List Message} {k : Nat} : n = k + 1 →
      t.inbox = x :: rest → t'.inbox = x :: rest' →
      Holds m k { t with inbox := rest } { t' with inbox := rest' } → Next m n t t'
  | nothing : t.inbox = [] → t'.inbox = [] → t.ended = false → t'.ended = false → Next m n t t'
  | own {rest : List Message} : n = 0 → t.inbox = m :: rest → t' = { t with inbox := rest } →
      Next m n t t'

section Holds

variable {m : Message} {n : Nat} {t t' : Memory}

theorem Holds.next (holds : Holds m n t t') : Next m n t t' := by
  cases holds with
  | queued front rest count kept receives runs queue same =>
    subst same
    cases inbox : t.inbox with
    | nil =>
      refine .nothing inbox rfl ?_ ?_ <;> simp [ended, runs]
    | cons x inbox' =>
      rw [inbox, List.length_cons] at count
      refine .earlier (k := inbox'.length + front.length) (by omega) inbox rfl ?_
      exact .queued front rest rfl kept receives runs queue rfl
  | handed front rest count inbox same =>
    subst same
    cases front with
    | nil => exact .own count inbox rfl
    | cons x front =>
      exact .earlier count inbox rfl (.handed front rest rfl rfl rfl)

/-- What the forwarder does does not depend on what it has handed on. -/
theorem forward_beside (t : Memory) : ∃ forwarding queue more, ∀ inbox : List Message,
    ({ t with inbox } : Memory).forward = { t with forwarding, queue, inbox := inbox ++ more } := by
  cases runs : t.forwarding with
  | false => exact ⟨false, t.queue, [], fun inbox => by simp [forward]⟩
  | true =>
    cases kept : t.cancelled with
    | true => exact ⟨false, [], [], fun inbox => by simp [forward]⟩
    | false =>
      cases queue : t.queue with
      | cons x rest =>
        cases receives : t.receiving with
        | true => exact ⟨true, rest, [x], fun inbox => by simp [forward]⟩
        | false => exact ⟨false, [], [], fun inbox => by simp [forward]⟩
      | nil =>
        cases source : t.sourceOpen with
        | true => exact ⟨true, [], [], fun inbox => by simp [forward]⟩
        | false => exact ⟨false, [], [], fun inbox => by simp [forward]⟩

/-- What is sent does not depend on what comes in. -/
theorem send_beside (t : Memory) (x : Message) : ∃ sent, ∀ queue inbox : List Message,
    (({ t with queue, inbox } : Memory).send x).2 = { t with queue, inbox, sent } := by
  refine ⟨(t.send x).2.sent, fun queue inbox => ?_⟩
  simp only [send]
  split
  · rfl
  · split
    · rfl
    · split <;> rfl

theorem Holds.forward_handed {front rest : List Message} (inbox : t.inbox = front ++ m :: rest) :
    Holds m front.length t.forward ({ t with inbox := front ++ rest } : Memory).forward := by
  obtain ⟨forwarding, queue, more, moved⟩ := t.forward_beside
  have own : t.forward = { t with forwarding, queue, inbox := t.inbox ++ more } := moved t.inbox
  refine .handed front (rest ++ more) rfl ?_ ?_
  · rw [own]
    simp only [inbox, List.append_assoc, List.cons_append]
  · rw [own, moved]
    simp only [List.append_assoc]

theorem Holds.forward_own {rest : List Message} (kept : t.cancelled = false)
    (receives : t.receiving = true) (runs : t.forwarding = true) (queue : t.queue = m :: rest)
    (back : t' = { t with queue := rest }) :
    t.forward.inbox = t.inbox ++ m :: [] ∧ t' = { t.forward with inbox := t.inbox ++ [] } := by
  have moved : t.forward = { t with queue := rest, inbox := t.inbox ++ [m] } := by
    simp [Memory.forward, runs, kept, queue, receives]
  exact ⟨by rw [moved], by rw [moved, back, List.append_nil]⟩

/-- The forwarders of both transports do the same, but when the message itself is moved. -/
theorem Holds.forward (holds : Holds m n t t') : Holds m n t.forward t'.forward ∨
    Holds m n t.forward t' ∧ Holds m n t.forward.forward t'.forward := by
  cases holds with
  | handed front rest count inbox same =>
    subst count same
    exact .inl (forward_handed inbox)
  | queued front rest count kept receives runs queue same =>
    cases front with
    | cons x front =>
      have moved : t.forward =
          { t with queue := front ++ m :: rest, inbox := t.inbox ++ [x] } := by
        simp [Memory.forward, runs, kept, queue, receives]
      have moved' : t'.forward = { t with queue := front ++ rest, inbox := t.inbox ++ [x] } := by
        simp [same, Memory.forward, runs, kept, receives]
      refine .inl ?_
      rw [moved, moved']
      refine .queued front rest ?_ kept receives runs rfl rfl
      simp only [List.length_append, List.length_cons, List.length_nil] at count ⊢
      omega
    | nil =>
      obtain ⟨inbox, back⟩ := forward_own kept receives runs queue same
      have here : n = t.inbox.length := count
      refine .inr ⟨.handed t.inbox [] here inbox back, ?_⟩
      rw [back, here]
      exact forward_handed inbox

/-- What is done beside what comes in, and does not stop the forwarder, changes nothing. -/
theorem Holds.beside (op : Memory → Memory) (holds : Holds m n t t')
    (beside : ∀ queue inbox, op { t with queue, inbox } = { op t with queue, inbox })
    (cancelled : (op t).cancelled = t.cancelled) (receiving : (op t).receiving = t.receiving)
    (forwarding : (op t).forwarding = t.forwarding) : Holds m n (op t) (op t') := by
  have same : op t = { op t with queue := t.queue, inbox := t.inbox } := beside t.queue t.inbox
  have queue' : (op t).queue = t.queue := congrArg (fun t => t.queue) same
  have inbox' : (op t).inbox = t.inbox := congrArg (fun t => t.inbox) same
  cases holds with
  | queued front rest count kept receives runs queue back =>
    refine .queued front rest (by rw [inbox', count]) (cancelled.trans kept)
      (receiving.trans receives) (forwarding.trans runs) (queue'.trans queue) ?_
    rw [back, beside (front ++ rest) t.inbox, inbox']
  | handed front rest count inbox back =>
    refine .handed front rest count (inbox'.trans inbox) ?_
    rw [back, beside t.queue (front ++ rest), queue']

theorem Holds.inject (holds : Holds m n t t') (x : Message) :
    Holds m n (t.inject x) (t'.inject x) := by
  cases holds with
  | queued front rest count kept receives runs queue back =>
    have accepts : t'.accepts = t.accepts := by rw [back]; rfl
    simp only [Memory.inject, accepts]
    split
    · refine .queued front (rest ++ [x]) count kept receives runs ?_ ?_
      · rw [queue, List.append_assoc, List.cons_append]
      · rw [back, List.append_assoc]
    · exact .queued front rest count kept receives runs queue back
  | handed front rest count inbox back =>
    have accepts : t'.accepts = t.accepts := by rw [back]; rfl
    simp only [Memory.inject, accepts]
    split
    · exact .handed front rest count inbox (by rw [back])
    · exact .handed front rest count inbox back

end Holds

end Transport.Memory

namespace Session

open Transport (Memory)
open Transport.Memory (Holds Next)

variable {σ ε : Type}

/-! ### What the reader meets -/

/-- The reader of an open session meets something: a message, or the end of what comes in. -/
def meets (s : Session σ ε) : Act σ ε → Bool
  | .step .reader => !s.stopped && s.canRead
  | _ => false

/-- How often the reader meets something in a run of an open session. -/
def met (s : Session σ ε) : List (Act σ ε) → Nat
  | [] => 0
  | a :: acts => (s.meets a).toNat + (s.act a).met acts

section Transit

variable {s s' : Session σ ε} {m : Message} {n : Nat}

theorem meets_reader (winding : Winding s) (open_ : s.stopped = false) :
    s.meets (.step .reader) = (!s.link.inbox.isEmpty || s.link.ended) := by
  have reading := winding.reading open_
  simp only [meets, canRead, reading, open_, Bool.not_false, Bool.true_and, Bool.false_or]

theorem reader_of_meets {a : Act σ ε} (meets : s.meets a = true) :
    a = .step .reader ∧ s.stopped = false := by
  cases a with
  | step agent =>
    cases agent with
    | reader =>
      rw [Session.meets, Bool.and_eq_true, Bool.not_eq_true'] at meets
      exact ⟨rfl, meets.1⟩
    | task | forwarder => cases meets
  | spawn | inject | failSends | unhealthy | deafen | endSource | advance | drop => cases meets

theorem kept_holds : Kept (Holds m n) where
  send {t t'} x holds := by
    obtain ⟨sent, beside⟩ := t.send_beside x
    have own : (t.send x).2 = { t with sent } := beside t.queue t.inbox
    refine Holds.beside (fun t => (t.send x).2) holds (fun queue inbox => ?_) ?_ ?_ ?_
    · simp only [beside]
    · simp only [own]
    · simp only [own]
    · simp only [own]
  inject {t t'} x holds := holds.inject x
  failing on holds := holds.beside (fun t => { t with failing := on }) (fun _ _ => rfl) rfl rfl rfl
  unhealthy on holds :=
    holds.beside (fun t => { t with unhealthy := on }) (fun _ _ => rfl) rfl rfl rfl
  deafen holds := holds.beside Memory.deafen (fun _ _ => rfl) rfl rfl rfl
  endSource holds := holds.beside Memory.endSource (fun _ _ => rfl) rfl rfl rfl

/-- A transport lacks a message that another holds. -/
def Lacks (m : Message) (n : Nat) (t t' : Memory) : Prop := Holds m n t' t

theorem kept_lacks : Kept (Lacks m n) where
  send x := kept_holds.send x
  inject x := kept_holds.inject x
  failing on := kept_holds.failing on
  unhealthy on := kept_holds.unhealthy on
  deafen := kept_holds.deafen
  endSource := kept_holds.endSource

/-- Who holds a message has something to do. -/
theorem Holds.busy (winding : Winding s) (open_ : s.stopped = false)
    (holds : Holds m n s.link s'.link) : ¬ ∀ agent, s.enabled agent = false := by
  intro idle
  cases holds with
  | queued front rest _ _ _ runs queue _ =>
    have still : s.link.canForward = false := idle .forwarder
    simp [Memory.canForward, runs, queue] at still
  | handed front rest _ inbox _ =>
    have meets := meets_reader winding open_
    have still : s.canRead = false := idle .reader
    simp [Session.meets, still, inbox] at meets

/-- A session with the message and one without go on in step until the message is met. -/
theorem Near.carry (near : Near (Holds m n) s s') (open_ : s.stopped = false) {a : Act σ ε}
    (early : n = 0 → s.meets a = false) : ∃ n' acts', Follows s [a] s' acts' ∧
      Near (Holds m n') (s.act a) (s'.run acts') ∧ n = n' + (s.meets a).toNat := by
  have still {agent : Agent} : ∀ a ∈ [(.step agent : Act σ ε)], a.passes = 0 := by simp [Act.passes]
  have holds := near.link open_
  have others {a : Act σ ε} (passes : a.passes = 0) (unmoved : a ≠ .step .forwarder)
      (unread : a ≠ .step .reader) (nothing : s.meets a = false) : ∃ n' acts',
        Follows s [a] s' acts' ∧ Near (Holds m n') (s.act a) (s'.run acts') ∧
          n = n' + (s.meets a).toNat := by
    obtain ⟨acts', inStep, near'⟩ := near.follows kept_holds unmoved unread
    exact ⟨n, acts', inStep.follows (by simpa using passes), near', by rw [nothing]; rfl⟩
  cases a with
  | step agent =>
    cases agent with
    | task i => exact others rfl nofun nofun rfl
    | reader =>
      have meets := meets_reader near.first open_
      cases holds.next with
      | @earlier x rest rest' k count inbox inbox' later =>
        obtain ⟨inStep, near'⟩ := near.hear open_ inbox inbox' later
        refine ⟨k, _, inStep.follows still, near', ?_⟩
        rw [meets, inbox, count]
        rfl
      | nothing inbox inbox' more more' =>
        obtain ⟨inStep, near'⟩ := near.listen open_ inbox inbox' (more'.trans more.symm)
        refine ⟨n, _, inStep.follows still, near', ?_⟩
        rw [meets, inbox, more]
        rfl
      | own first inbox =>
        rw [early first, inbox] at meets
        cases meets
    | forwarder =>
      rcases holds.forward with same | ⟨moved, -⟩
      · obtain ⟨inStep, near'⟩ := near.forward fun _ _ => same
        exact ⟨n, _, inStep.follows still, near', rfl⟩
      · have near' : Near (Holds m n) (s.act (.step .forwarder)) s' :=
          near.left s.forward_face fun _ _ => moved
        have inStep : InStep s [.step .forwarder] s' [] :=
          .left near.face (quiet_of_none rfl) (.done near'.face)
        exact ⟨n, [], inStep.follows still, near', rfl⟩
  | advance milliseconds =>
    -- No time passes in due course while the message is on its way: somebody has a step to take.
    obtain ⟨inStep, near'⟩ := near.plain kept_holds (a := .advance milliseconds) trivial nofun
    refine ⟨n, _, ⟨inStep, fun along => ?_⟩, near', rfl⟩
    cases along with
    | cons here _ =>
      refine .cons (fun passes => ?_) .nil
      exact absurd (here passes).1 (Holds.busy near.first open_ holds)
  | spawn | inject | failSends | unhealthy | deafen | endSource | drop =>
    exact others rfl nofun nofun rfl

/-- A session without the message and one with it go on in step until something else is met in its
place. -/
theorem Near.lack (near : Near (Lacks m n) s s') (open_ : s.stopped = false) {a : Act σ ε}
    (early : n = 0 → s.meets a = false) : ∃ n' acts', InStep s [a] s' acts' ∧
      Near (Lacks m n') (s.act a) (s'.run acts') ∧ n = n' + (s.meets a).toNat := by
  have holds : Holds m n s'.link s.link := near.link open_
  have others {a : Act σ ε} (unmoved : a ≠ .step .forwarder) (unread : a ≠ .step .reader)
      (nothing : s.meets a = false) : ∃ n' acts', InStep s [a] s' acts' ∧
        Near (Lacks m n') (s.act a) (s'.run acts') ∧ n = n' + (s.meets a).toNat := by
    obtain ⟨acts', inStep, near'⟩ := near.follows kept_lacks unmoved unread
    exact ⟨n, acts', inStep, near', by rw [nothing]; rfl⟩
  cases a with
  | step agent =>
    cases agent with
    | task i => exact others nofun nofun rfl
    | reader =>
      have meets := meets_reader near.first open_
      cases holds.next with
      | @earlier x rest rest' k count inbox inbox' later =>
        obtain ⟨inStep, near'⟩ : InStep s [.step .reader] s' [.step .reader] ∧
            Near (Lacks m k) (s.act (.step .reader)) (s'.act (.step .reader)) :=
          near.hear open_ inbox' inbox later
        refine ⟨k, _, inStep, near', ?_⟩
        rw [meets, inbox', count]
        rfl
      | nothing inbox inbox' more more' =>
        obtain ⟨inStep, near'⟩ := near.listen open_ inbox' inbox (more.trans more'.symm)
        refine ⟨n, _, inStep, near', ?_⟩
        rw [meets, inbox', more']
        rfl
      | own first inbox back =>
        -- The reader finds nothing; that of the other session would find the message.
        have nothing := early first
        rw [nothing, eq_comm, Bool.or_eq_false_iff] at meets
        obtain ⟨happens, acted⟩ := read_nothing near.first open_ (by simpa using meets.1)
        rw [if_neg (by simp [meets.2])] at acted
        refine ⟨n, [], .left near.face (quiet_of_none happens) (.done ?_), ?_, ?_⟩
        · rw [acted]
          exact near.face
        · rw [acted]
          exact near
        · rw [nothing]
          rfl
    | forwarder =>
      rcases holds.forward with same | ⟨moved, both⟩
      · obtain ⟨inStep, near'⟩ : InStep s [.step .forwarder] s' [.step .forwarder] ∧
            Near (Lacks m n) (s.act (.step .forwarder)) (s'.act (.step .forwarder)) :=
          near.forward fun _ _ => same
        exact ⟨n, _, inStep, near', rfl⟩
      · have between : Near (Lacks m n) s (s'.act (.step .forwarder)) :=
          near.right s'.forward_face fun _ _ => moved
        obtain ⟨inStep, near'⟩ :
            InStep s [.step .forwarder] (s'.act (.step .forwarder)) [.step .forwarder] ∧
              Near (Lacks m n) (s.act (.step .forwarder))
                ((s'.act (.step .forwarder)).act (.step .forwarder)) :=
          between.forward fun _ _ => both
        exact ⟨n, _, .right near.face (quiet_of_none rfl) inStep, near', rfl⟩
  | advance | spawn | inject | failSends | unhealthy | deafen | endSource | drop =>
    exact others nofun nofun rfl

end Transit

end Session

end Mcp
