import Mcp.Proofs.Session.Transit

/-!
Messages that mean nothing to a session: responses to no request in the table, and notifications that
nobody handles. `stray_message` says that such a message, put in at any point of any run where more may
come in, leaves everything else as it is: with the message and without it a session has the same runs,
but for the steps that move it and hand it out.
-/

namespace Mcp.Session

open Transport (Memory)
open Transport.Memory (Holds Next)

variable {σ ε : Type}

/-- A message means nothing to a session: it is a response to no request in the table, or a
notification that nobody handles. -/
def Strays (s : Session σ ε) : Message → Prop
  | .response r => (r.id.bind fun id => s.pending.lookup id.key) = none
  | .notification n => s.handlers.act n = none
  | .request _ => False

section Strays

variable {s s' : Session σ ε} {m : Message} {n : Nat}

theorem Task.calm_wake {task : Task σ ε}
    (awake : ∀ deadline next, task ≠ .closing (.parked deadline false) next) :
    task.wake.calm = task.calm := by
  cases task with
  | closing stage next =>
    cases stage with
    | parked deadline woken =>
      cases woken with
      | true => rfl
      | false => exact absurd rfl (awake deadline next)
    | draining | watching | stopping | joining | clearing | releasing => rfl
  | ready | sending | calling | sleeping | awaiting => rfl

/-- An id that is not in the table is taken out of it without a trace. -/
theorem withdraw_face (winding : Winding s) {id : String} (absent : s.pending.lookup id = none) :
    (s.withdraw id).face = s.face := by
  have table : (s.pending.filter fun entry => entry.1 ≠ id) = s.pending := by
    refine List.filter_eq_self.mpr fun entry there => ?_
    have other : id ≠ entry.1 := by simpa using List.lookup_eq_none_iff.mp absent entry there
    exact decide_eq_true other.symm
  -- Whoever waits for the table to become empty is told so again, but nobody waits when it is.
  have tasks : (s.withdraw id).tasks.map Task.calm = s.tasks.map Task.calm := by
    rw [withdraw_tasks, table, List.map_map]
    refine List.map_congr_left fun task there => ?_
    show (if s.pending.isEmpty then task.wake else task).calm = task.calm
    split
    · rename_i empty
      refine Task.calm_wake fun deadline next waits => ?_
      subst waits
      obtain ⟨i, h⟩ := List.mem_iff_getElem?.mp there
      exact winding.parked h (by simpa using empty)
    · rfl
  calc { s.face with
        pending := s.pending.filter fun entry => entry.1 ≠ id
        tasks := (s.withdraw id).tasks.map Task.calm }
    _ = s.face := by rw [table, tasks]; rfl

theorem Strays.face (winding : Winding s) (stray : s.Strays m) : (s.dispatch m).face = s.face := by
  cases m with
  | request => exact stray.elim
  | notification n =>
    have unhandled : s.handlers.act n = none := stray
    simp only [dispatch, unhandled]
  | response r =>
    rw [Strays] at stray
    cases id : r.id with
    | none => simp only [dispatch, id]
    | some id' =>
      rw [id, Option.bind_some] at stray
      simp only [dispatch, id, stray]
      exact withdraw_face winding stray

theorem Strays.of_face (same : s.face = s'.face) (stray : s.Strays m) : s'.Strays m := by
  have pending : s.pending = s'.pending := congrArg (fun s => s.pending) same
  have handlers : s.handlers = s'.handlers := congrArg (fun s => s.handlers) same
  cases m with
  | response => rwa [Strays, pending] at stray
  | notification => rwa [Strays, handlers] at stray
  | request => exact stray

theorem Strays.quiet (stray : s.Strays m) : ∀ x, toRequests m = some x → ∃ r, x = .heard r := by
  intro x happens
  cases m with
  | request => exact stray.elim
  | notification => cases happens
  | response r =>
    cases happens
    exact ⟨r, rfl⟩

/-- The reader hands out a message that means nothing. -/
theorem Near.pass (near : Near (Holds m 0) s s') (open_ : s.stopped = false)
    (meets : s.meets (.step .reader) = true) (stray : s.Strays m) :
    InStep s [.step .reader] s' [] ∧ Alike (s.act (.step .reader)) s' := by
  have holds := near.link open_
  rw [meets_reader near.first open_] at meets
  cases holds.next with
  | earlier count => cases count
  | nothing inbox _ more =>
    rw [inbox, more] at meets
    cases meets
  | own _ inbox back =>
    obtain ⟨face, link, happens⟩ := read_message near.first open_ inbox
    have hidden : (s.act (.step .reader)).face = s.face := face.trans (stray.face near.first)
    have quiet : s.Quiet (.step .reader) := by
      rw [Quiet, happens]
      exact stray.quiet
    have alike : Alike (s.act (.step .reader)) s' :=
      near.left hidden fun _ _ => link.trans back.symm
    exact ⟨.left near.face quiet (.done alike.face), alike⟩

/-! ### With the message, and without it -/

/-- Where the reader meets the message that is behind so many others, the message means nothing. -/
def PassesBy (m : Message) (n : Nat) (s : Session σ ε) (acts : List (Act σ ε)) : Prop :=
  ∀ before after, acts = before ++ .step .reader :: after → s.met before = n →
    (s.run before).meets (.step .reader) = true → (s.run before).Strays m

/-- Whatever run a session has with the message, it has without it. -/
theorem Near.removed (near : Near (Holds m n) s s') {acts : List (Act σ ε)}
    (passes : PassesBy m n s acts) : ∃ acts', Follows s acts s' acts' := by
  -- The one session holds the message that the other lacks until the message is met or the session
  -- is stopped, and from then on the two are alike.
  induction acts generalizing s s' n with
  | nil => exact ⟨[], .done near.face, fun _ => .nil⟩
  | cons a acts ih =>
    cases stopped : s.stopped with
    | true =>
      have alike : Alike s s' := near.of_stopped stopped
      obtain ⟨acts', follows, -⟩ := alike.run (a :: acts)
      exact ⟨acts', follows⟩
    | false =>
      by_cases here : n = 0 ∧ s.meets a = true
      · obtain ⟨rfl, meets⟩ := here
        obtain ⟨rfl, -⟩ := reader_of_meets meets
        have stray : s.Strays m := passes [] acts rfl rfl meets
        obtain ⟨inStep, alike⟩ := near.pass stopped meets stray
        obtain ⟨acts', follows, -⟩ := alike.run acts
        have first : Follows s [.step .reader] s' [] := inStep.follows (by simp [Act.passes])
        have whole : Follows s ([.step .reader] ++ acts) s' ([] ++ acts') := first.append follows
        exact ⟨acts', whole⟩
      · have early : n = 0 → s.meets a = false := by
          intro first
          cases meets : s.meets a with
          | false => rfl
          | true => exact absurd ⟨first, meets⟩ here
        obtain ⟨n', first, follows, near', count⟩ := near.carry stopped early
        have later : PassesBy m n' (s.act a) acts := by
          intro before after parts met meets
          refine passes (a :: before) after (by rw [parts]; rfl) ?_ meets
          rw [Session.met, met, count, Nat.add_comm]
        obtain ⟨acts', more⟩ := ih near' later
        have whole : Follows s ([a] ++ acts) s' (first ++ acts') := follows.append more
        exact ⟨_, whole⟩

/-- As long as nothing is met in its place, the message may wait. -/
theorem Near.waits (near : Near (Lacks m n) s s') {acts : List (Act σ ε)} (early : s.met acts ≤ n) :
    ∃ acts', InStep s acts s' acts' ∧ Near (Lacks m (n - s.met acts)) (s.run acts) (s'.run acts') := by
  induction acts generalizing s s' n with
  | nil => exact ⟨[], .done near.face, near⟩
  | cons a acts ih =>
    cases stopped : s.stopped with
    | true =>
      have alike : Alike s s' := near.of_stopped stopped
      obtain ⟨acts', follows, alike'⟩ := alike.run (a :: acts)
      exact ⟨acts', follows.inStep, alike'.of_stopped (run_stopped stopped _)⟩
    | false =>
      rw [met] at early
      have first : n = 0 → s.meets a = false := by
        intro first
        cases meets : s.meets a with
        | false => rfl
        | true =>
          rw [meets, Bool.toNat_true] at early
          omega
      obtain ⟨n', acts', inStep, near', count⟩ := near.lack stopped first
      obtain ⟨acts'', more, near''⟩ := ih near' (by omega)
      have whole : InStep s ([a] ++ acts) s' (acts' ++ acts'') := inStep.append more
      refine ⟨_, whole, ?_⟩
      have left : n - s.met (a :: acts) = n' - (s.act a).met acts := by
        rw [met]
        omega
      rw [left, run_append]
      exact near''

theorem Near.comm (alike : Alike s s') : Alike s' s where
  face := alike.symm.face
  link open_ := (alike.symm.link open_).symm
  first := alike.second
  second := alike.first

/-- A message that nothing is in front of can be handed out, and if it means nothing that does not
show. -/
theorem Near.deliver (near : Near (Holds m 0) s s') (open_ : s.stopped = false)
    (stray : s.Strays m) : ∃ acts, InStep s acts s' [] ∧ Alike (s.run acts) s' := by
  have holds := near.link open_
  have handed {s : Session σ ε} {rest : List Message} (near : Near (Holds m 0) s s')
      (open_ : s.stopped = false) (inbox : s.link.inbox = m :: rest) :
      s.meets (.step .reader) = true := by
    rw [meets_reader near.first open_, inbox]
    rfl
  cases holds with
  | handed front rest count inbox =>
    obtain rfl := List.length_eq_zero_iff.mp count.symm
    obtain ⟨inStep, alike⟩ := near.pass open_ (handed near open_ inbox) stray
    exact ⟨_, inStep, alike⟩
  | queued front rest count kept receives runs queue back =>
    have front_nil : front = [] := List.length_eq_zero_iff.mp (by omega)
    have inbox : s.link.inbox = [] := List.length_eq_zero_iff.mp (by omega)
    subst front_nil
    obtain ⟨inbox', back'⟩ := Holds.forward_own kept receives runs queue back
    rw [inbox, List.nil_append] at inbox' back'
    have near' : Near (Holds m 0) (s.act (.step .forwarder)) s' :=
      near.left s.forward_face fun _ _ => .handed [] [] rfl inbox' back'
    obtain ⟨inStep, alike⟩ := near'.pass open_ (handed near' open_ inbox') stray
    exact ⟨[.step .forwarder, .step .reader], .left near.face (quiet_of_none rfl) inStep, alike⟩

/-- Whatever run a session has without the message, it has with it, if the message means nothing at
some point at which all that was in front of it has been met, and nothing else. -/
theorem Near.inserted (near : Near (Lacks m n) s s') {before : List (Act σ ε)}
    (turn : s.met before = n) (stray : (s.run before).Strays m) (after : List (Act σ ε)) :
    ∃ acts', InStep s (before ++ after) s' acts' ∧ ((∀ a ∈ before, a.passes = 0) →
      Along Punctual s (before ++ after) → Along Punctual s' acts') := by
  obtain ⟨first, inStep, here⟩ := near.waits (Nat.le_of_eq turn)
  rw [turn, Nat.sub_self] at here
  obtain ⟨between, handing, alike⟩ : ∃ between, InStep (s.run before) [] (s'.run first) between ∧
      Alike (s.run before) ((s'.run first).run between) := by
    cases stopped : (s.run before).stopped with
    | true => exact ⟨[], .done here.face, here.of_stopped stopped⟩
    | false =>
      have holds : Near (Holds m 0) (s'.run first) (s.run before) := here.symm
      have stray' : (s'.run first).Strays m := stray.of_face here.face
      obtain ⟨acts, inStep, alike⟩ := holds.deliver (here.stopped.trans stopped) stray'
      exact ⟨acts, inStep.symm, alike.comm⟩
  obtain ⟨last, follows, -⟩ := alike.run after
  have rest : InStep (s.run before) ([] ++ after) (s'.run first) (between ++ last) :=
    handing.append follows.inStep
  refine ⟨first ++ (between ++ last), inStep.append rest, fun still along => ?_⟩
  obtain ⟨-, later⟩ := along_append.mp along
  have before_it : Along Punctual s' first := punctual_of_still (inStep.still still)
  have at_it : Along Punctual (s'.run first) between := punctual_of_still (handing.still nofun)
  exact along_append.mpr ⟨before_it, along_append.mpr ⟨at_it, follows.punctual later⟩⟩

end Strays

/-! ### Where more may come in -/

/-- Somebody receives from the transport of a session that is open. -/
structure Attended (s : Session σ ε) : Prop where
  claimed : s.link.unclaimed = false
  receives : s.stopped = false → s.link.receiving = true

section Attended

variable {s s' : Session σ ε}

theorem Attended.of_link (attended : Attended s) (open_ : s'.stopped = false → s.stopped = false)
    (claimed : s'.link.unclaimed = s.link.unclaimed)
    (receives : s.stopped = false → s'.link.receiving = s.link.receiving) : Attended s' where
  claimed := claimed.trans attended.claimed
  receives now := (receives (open_ now)).trans (attended.receives (open_ now))

theorem linked_rest (s : Session σ ε) (task : Task σ ε) :
    ∃ status cancelled sent, s.linked task = { s.link with status, cancelled, sent } := by
  have sends (m : Message) : ∃ status cancelled sent,
      (s.link.send m).2 = { s.link with status, cancelled, sent } := by
    obtain ⟨sent, beside⟩ := s.link.send_beside m
    exact ⟨_, _, sent, beside s.link.queue s.link.inbox⟩
  cases task with
  | sending message => exact sends message
  | calling call stage =>
    cases stage with
    | confirmed => exact sends call.message
    | admitted | registered | waiting | withdrawing => exact ⟨_, _, _, rfl⟩
  | closing stage => cases stage <;> exact ⟨_, _, _, rfl⟩
  | ready | sleeping | awaiting => exact ⟨_, _, _, rfl⟩

theorem Attended.act (attended : Attended s) (winding : Winding s) (a : Act σ ε) :
    Attended (s.act a) := by
  have attends : (s.act a).link.unclaimed = s.link.unclaimed →
      (s.stopped = false → (s.act a).link.receiving = s.link.receiving) → Attended (s.act a) :=
    attended.of_link open_of_act
  cases a with
  | step agent =>
    cases agent with
    | task i =>
      cases h : s.tasks[i]? with
      | none =>
        have same : s.act (.step (.task i)) = s := by simp only [Session.act, step, h]
        rw [same]
        exact attended
      | some task =>
        obtain ⟨status, cancelled, sent, linked⟩ := s.linked_rest task
        rw [(act_leaves h).link, linked] at attends
        exact attends rfl fun _ => rfl
    | forwarder =>
      obtain ⟨forwarding, queue, inbox, moved⟩ := forward_rest s.link
      have link : (s.act (.step .forwarder)).link = { s.link with forwarding, queue, inbox } := moved
      rw [link] at attends
      exact attends rfl fun _ => rfl
    | reader =>
      obtain ⟨inbox, receiving, link⟩ := s.act_reads.link
      refine attends (by rw [link]) fun open_ => ?_
      cases inbox : s.link.inbox with
      | nil =>
        rw [(read_nothing winding open_ inbox).2]
        split <;> rfl
      | cons m rest => rw [(read_message winding open_ inbox).2.1]
  | inject m =>
    have link : (s.act (.inject m)).link = s.link.inject m := rfl
    rw [link, Memory.inject] at attends
    split at attends <;> exact attends rfl fun _ => rfl
  | spawn | failSends | unhealthy | deafen | endSource | advance | drop =>
    exact attends rfl fun _ => rfl

theorem Attended.run (attended : Attended s) (winding : Winding s) (acts : List (Act σ ε)) :
    Attended (s.run acts) := by
  have both : Winding (s.run acts) ∧ Attended (s.run acts) :=
    run_keeps (P := fun s => Winding s ∧ Attended s)
      (fun _ a both => ⟨both.1.act a, both.2.act both.1 a⟩) ⟨winding, attended⟩ acts
  exact both.2

theorem attended_of_start {label : String} {timeouts : Timeouts} {handlers : Handlers σ ε}
    {link : Memory} {shared : σ} {s : Session σ ε}
    (h : Session.start label timeouts handlers link shared = .ok s) : Attended s := by
  unfold Session.start Memory.connect at h
  split at h
  · cases h
  · rename_i connected
    cases h
    split at connected
    · cases connected
      exact ⟨rfl, fun _ => rfl⟩
    · cases connected

end Attended

/-! ### Messages that mean nothing for good -/

/-- A message will mean nothing whatever happens: it is a response without an id or with a number for
one, a response to a request that has left the table, or a notification that nobody handles. -/
inductive Void (s : Session σ ε) : Message → Prop
  | unnamed {r : Response} : r.id = none → Void s (.response r)
  | numbered {r : Response} {n : Int} : r.id = some (.number n) → Void s (.response r)
  | departed {r : Response} {id : String} : r.id = some (.text id) → s.Left id → Void s (.response r)
  | unhandled {n : Notification} : s.handlers.act n = none → Void s (.notification n)

section Void

variable {s : Session σ ε} {m : Message}

theorem Void.act (void : s.Void m) (a : Act σ ε) : (s.act a).Void m := by
  cases void with
  | unnamed id => exact .unnamed id
  | numbered id => exact .numbered id
  | departed id left => exact .departed id (left.act a)
  | unhandled nobody => exact .unhandled (by rw [(s.act_settings a).handlers, nobody])

theorem absent_of_forall {id : String} (absent : ∀ i, (id, i) ∉ s.pending) :
    s.pending.lookup id = none := by
  refine List.lookup_eq_none_iff.mpr fun entry there => ?_
  have other : id ≠ entry.1 := by
    rintro rfl
    exact absent entry.2 there
  simpa using other

theorem Void.strays (void : s.Void m) (sound : Sound s) (named : s.label ≠ "") : s.Strays m := by
  cases void with
  | unnamed id => rw [Strays, id, Option.bind_none]
  | @numbered r n id =>
    rw [Strays, id, Option.bind_some]
    refine absent_of_forall fun i there => ?_
    obtain ⟨o, ho, same, -⟩ := sound.mem_table.mp there
    obtain ⟨k, -, -, issued⟩ := sound.issued ho
    exact number_ne_idOf named n k (same.symm.trans issued)
  | departed id left =>
    rw [Strays, id, Option.bind_some]
    exact absent_of_forall left.out
  | unhandled nobody => exact nobody

theorem Void.run (void : s.Void m) (winding : Winding s) (named : s.label ≠ "")
    (acts : List (Act σ ε)) : (s.run acts).Strays m := by
  have later : (s.run acts).Void m := run_keeps (P := fun s => s.Void m) (fun _ a void => void.act a)
    void acts
  exact later.strays (winding.run acts).sound (by rwa [run_label])

end Void

/-! ### Every run -/

/-- Two runs are the same, but for steps that do not show. -/
structure SameRun (s : Session σ ε) (acts : List (Act σ ε)) (s' : Session σ ε)
    (acts' : List (Act σ ε)) : Prop where
  inStep : InStep s acts s' acts'
  /-- The same requests begin, go out and end, with the same outcomes and at the same times. -/
  requests : timed deed s acts = timed deed s' acts'
  /-- The same messages are sent, at the same times. -/
  sent : timed sends s acts = timed sends s' acts'
  /-- The same closes return, at the same times. -/
  closes : timed closes s acts = timed closes s' acts'
  /-- At each point of the one run there is a point of the other that looks the same: with the same
  table, the same mark of closing, and each task as far as there. -/
  meanwhile {before after : List (Act σ ε)} : acts = before ++ after →
    ∃ before' after', acts' = before' ++ after' ∧ (s.run before).face = (s'.run before').face
  /-- And so at the end. -/
  ends : (s.run acts).face = (s'.run acts').face

theorem InStep.sameRun {s s' : Session σ ε} {acts acts' : List (Act σ ε)}
    (inStep : InStep s acts s' acts') : SameRun s acts s' acts' where
  inStep := inStep
  requests := inStep.timed deed_shows
  sent := inStep.timed sends_shows
  closes := inStep.timed closes_shows
  meanwhile parts := by
    obtain ⟨before', after', parts', first, -⟩ := inStep.split parts
    exact ⟨before', after', parts', first.ends⟩
  ends := inStep.ends

/-- How many messages are on their way in. -/
def incoming (s : Session σ ε) : Nat := s.link.inbox.length + s.link.queue.length

/-- What it means that a message, if it means nothing, passes a session unnoticed. -/
structure Unnoticed (s : Session σ ε) (m : Message) : Prop where
  /-- Each run with the message is a run without it, if the message means nothing when the reader
  comes to it; and where time passes only when nobody has a step to take, it does so without it. -/
  removed {acts : List (Act σ ε)} : PassesBy m s.incoming (s.act (.inject m)) acts →
    ∃ acts', SameRun (s.act (.inject m)) acts s acts' ∧
      (Along Punctual (s.act (.inject m)) acts → Along Punctual s acts')
  /-- Each run without the message is a run with it, if the message means nothing at some point at
  which all that was in front of it has been met, and nothing else. -/
  inserted {before : List (Act σ ε)} : s.met before = s.incoming → (s.run before).Strays m →
    ∀ after, ∃ acts', SameRun s (before ++ after) (s.act (.inject m)) acts' ∧
      ((∀ a ∈ before, a.passes = 0) → Along Punctual s (before ++ after) →
        Along Punctual (s.act (.inject m)) acts')
  /-- Before that the message waits, whatever it means. -/
  waiting {acts : List (Act σ ε)} : s.met acts ≤ s.incoming →
    ∃ acts', SameRun s acts (s.act (.inject m)) acts'
  /-- Some messages mean nothing at any point. -/
  forGood : s.label ≠ "" → s.Void m →
    ∀ acts, (s.run acts).Strays m ∧ ((s.act (.inject m)).run acts).Strays m

theorem near_inject {s : Session σ ε} (winding : Winding s) (attended : Attended s) (m : Message)
    (accepts : s.link.accepts = true) (kept : s.link.cancelled = false) :
    Near (Holds m s.incoming) (s.act (.inject m)) s where
  face := congrArg (fun link => { s.face with link }) (s.link.dry_inject m)
  link open_ := by
    have runs : s.link.forwarding = true := by
      rw [Memory.accepts, attended.claimed, Bool.false_or, Bool.and_eq_true] at accepts
      exact accepts.2
    have put : (s.act (.inject m)).link = { s.link with queue := s.link.queue ++ [m] } := by
      show s.link.inject m = _
      rw [Memory.inject, if_pos accepts]
    rw [put]
    refine .queued s.link.queue [] rfl kept (attended.receives open_) runs rfl ?_
    rw [List.append_nil]
  first := winding.act _
  second := winding

/-- A message that means nothing leaves everything else as it is, wherever in a run it is put in. -/
theorem stray_message {label : String} {timeouts : Timeouts} {handlers : Handlers σ ε}
    {link : Memory} {shared : σ} {s : Session σ ε}
    (h : Session.start label timeouts handlers link shared = .ok s) (before : List (Act σ ε))
    (m : Message) (accepts : (s.run before).link.accepts = true)
    (kept : (s.run before).link.cancelled = false) : Unnoticed (s.run before) m := by
  have winding := (winding_of_start h).run before
  have attended := (attended_of_start h).run (winding_of_start h) before
  generalize s.run before = s at accepts kept winding attended
  have near := near_inject winding attended m accepts kept
  have lacks : Near (Lacks m s.incoming) s (s.act (.inject m)) := near.symm
  refine { removed := ?removed, inserted := ?inserted, waiting := ?waiting, forGood := ?forGood }
  case removed =>
    intro acts passes
    obtain ⟨acts', follows⟩ := near.removed passes
    exact ⟨acts', follows.inStep.sameRun, follows.punctual⟩
  case inserted =>
    intro before turn stray after
    obtain ⟨acts', inStep, punctual⟩ := lacks.inserted turn stray after
    exact ⟨acts', inStep.sameRun, punctual⟩
  case waiting =>
    intro acts early
    obtain ⟨acts', inStep, -⟩ := lacks.waits early
    exact ⟨acts', inStep.sameRun⟩
  case forGood =>
    intro named void acts
    have named' : (s.act (.inject m)).label ≠ "" := named
    exact ⟨void.run winding named acts, (void.act _).run (winding.act _) named' acts⟩

/-- A second response to a request that was answered comes in while a graceful close waits for another
request. -/
theorem stray_message_while_draining : ∃ s : Session Unit Unit,
    Session.start "sess" ⟨30000, 100⟩ .none .new () = .ok s ∧
      ∃ before m, (s.run before).link.accepts = true ∧ (s.run before).link.cancelled = false ∧
        (s.run before).Strays m ∧ (s.run before).tasks[2]?.any Task.isClosing = true ∧
        Unnoticed (s.run before) m := by
  have started : Session.start (σ := Unit) (ε := Unit) "sess" ⟨30000, 100⟩ .none .new () = .ok _ :=
    rfl
  refine ⟨_, started,
    [.spawn (.request "a" .null none fun _ => .done ()),
      .step (.task 0), .step (.task 0), .step (.task 0), .step (.task 0),
      .inject (.response (.success (.text "sess-1") .null)), .step .forwarder, .step .reader,
      .spawn (.request "b" .null none fun _ => .done ()),
      .step (.task 1), .step (.task 1), .step (.task 1), .step (.task 1),
      .spawn (.close true fun _ => .done ()), .step (.task 2), .step (.task 2), .step (.task 2)],
    .response (.success (.text "sess-1") .null), rfl, rfl, rfl, rfl, ?_⟩
  exact stray_message started _ _ rfl rfl

end Mcp.Session
