import Mcp.Proofs.Session.InStep

/-!
Sessions that look the same. Two sessions are near each other if they have the same face and, as long
as they are open, related transports (`Near`). An act that neither moves a message nor looks at the
table keeps them near (`Near.plain`); where a close looks at the table, the other session comes to that
point by steps that do not show (`Near.awake`). Sessions with equal transports are alike, and whatever
run the one has, the other has a run in step that waits no longer for anything (`Near.run`).
-/

namespace Mcp.Session

open Transport (Memory)

variable {σ ε : Type}

/-! ### Transports beside what moves -/

/-- A relation between transports that is kept by everything but moving, taking and closing. -/
structure Kept (R : Memory → Memory → Prop) : Prop where
  send {t t' : Memory} (m : Message) : R t t' → R (t.send m).2 (t'.send m).2
  inject {t t' : Memory} (m : Message) : R t t' → R (t.inject m) (t'.inject m)
  failing {t t' : Memory} (on : Bool) : R t t' →
    R { t with failing := on } { t' with failing := on }
  unhealthy {t t' : Memory} (on : Bool) : R t t' →
    R { t with unhealthy := on } { t' with unhealthy := on }
  deafen {t t' : Memory} : R t t' → R t.deafen t'.deafen
  endSource {t t' : Memory} : R t t' → R t.endSource t'.endSource

theorem kept_eq : Kept Eq where
  send _ same := by rw [same]
  inject _ same := by rw [same]
  failing _ same := by rw [same]
  unhealthy _ same := by rw [same]
  deafen same := by rw [same]
  endSource same := by rw [same]

/-- Two sessions look the same, and their transports are related as long as they are open. -/
structure Near (R : Memory → Memory → Prop) (s s' : Session σ ε) : Prop where
  face : s.face = s'.face
  link : s.stopped = false → R s.link s'.link
  first : Winding s
  second : Winding s'

section Near

variable {R R' : Memory → Memory → Prop} {s s' : Session σ ε} {i deadline : Nat}
  {stage stage' : CloseStage} {next : Except Error Unit → Program σ ε Unit}

theorem Near.stopped (near : Near R s s') : s'.stopped = s.stopped :=
  (congrArg (fun s => s.stopped) near.face).symm

theorem Near.pending (near : Near R s s') : s'.pending = s.pending :=
  (congrArg (fun s => s.pending) near.face).symm

theorem Near.reader (near : Near R s s') : s'.reader = s.reader :=
  (congrArg (fun s => s.reader) near.face).symm

/-- After the stop of a session its transport does not count. -/
theorem Near.of_stopped (near : Near R s s') (stopped : s.stopped = true) : Near R' s s' where
  face := near.face
  link open_ := by
    rw [stopped] at open_
    cases open_
  first := near.first
  second := near.second

theorem open_of_act {a : Act σ ε} (open_ : (s.act a).stopped = false) : s.stopped = false := by
  cases stopped : s.stopped with
  | false => rfl
  | true =>
    rw [act_stopped stopped] at open_
    cases open_

theorem Near.act {a : Act σ ε} (near : Near R s s') (face : (s.act a).face = (s'.act a).face)
    (link : s.stopped = false → R s.link s'.link → R' (s.act a).link (s'.act a).link) :
    Near R' (s.act a) (s'.act a) where
  face := face
  link open_ := link (open_of_act open_) (near.link (open_of_act open_))
  first := near.first.act a
  second := near.second.act a

/-- The first session takes a step that does not show. -/
theorem Near.left {agent : Agent} (near : Near R s s')
    (hidden : (s.act (.step agent)).face = s.face)
    (link : s.stopped = false → R s.link s'.link → R' (s.act (.step agent)).link s'.link) :
    Near R' (s.act (.step agent)) s' where
  face := hidden.trans near.face
  link open_ := link (open_of_act open_) (near.link (open_of_act open_))
  first := near.first.act _
  second := near.second

theorem Near.right {agent : Agent} (near : Near R s s')
    (hidden : (s'.act (.step agent)).face = s'.face)
    (link : s.stopped = false → R s.link s'.link → R' s.link (s'.act (.step agent)).link) :
    Near R' s (s'.act (.step agent)) where
  face := near.face.trans hidden.symm
  link open_ := link open_ (near.link open_)
  first := near.first
  second := near.second.act _

theorem Near.symm (near : Near R s s') : Near (fun t t' => R t' t) s' s where
  face := near.face.symm
  link open_ := near.link (near.stopped.symm.trans open_)
  first := near.second
  second := near.first

theorem forward_face (s : Session σ ε) : (s.act (.step .forwarder)).face = s.face :=
  congrArg (fun link => { s.face with link }) s.link.dry_forward

theorem linked_kept (kept : Kept R) {task : Task σ ε} (related : R s.link s'.link)
    (goesOn : task.returns = false) : R (s.linked task) (s'.linked task) := by
  cases task with
  | sending message => exact kept.send message related
  | calling call stage =>
    cases stage with
    | confirmed => exact kept.send call.message related
    | admitted | registered | waiting | withdrawing => exact related
  | closing stage =>
    cases stage with
    | releasing => cases goesOn
    | draining | watching | parked | stopping | joining | clearing => exact related
  | ready | sleeping | awaiting => exact related

/-- A close of an open session does not return. -/
theorem Winding.goesOn (winding : Winding s) (open_ : s.stopped = false) {task : Task σ ε}
    (h : s.tasks[i]? = some task) : task.returns = false := by
  cases task with
  | closing stage next =>
    cases stage with
    | releasing =>
      have stopped := (winding.releasing h).stopped
      rw [open_] at stopped
      cases stopped
    | draining | watching | parked | stopping | joining | clearing => rfl
  | ready | sending | calling | sleeping | awaiting => rfl

/-- The reader of an open session reads. -/
theorem Winding.reading (winding : Winding s) (open_ : s.stopped = false) : s.reader = .reading := by
  by_contra left
  rw [winding.reader left] at open_
  cases open_

theorem Near.plain (kept : Kept R) (near : Near R s s') {a : Act σ ε} (plain : s.Plain a)
    (unmoved : a ≠ .step .forwarder) :
    InStep s [a] s' [a] ∧ Near R (s.act a) (s'.act a) := by
  obtain ⟨-, face, happens⟩ := plain_congr near.face plain
  refine ⟨.both near.face happens (.done face), near.act face fun open_ related => ?_⟩
  cases a with
  | step agent =>
    cases agent with
    | task i =>
      cases h : s.tasks[i]? with
      | none =>
        simp only [Session.act, step, h, absent_of_face near.face h]
        exact related
      | some task =>
        rw [(act_leaves h).link, (act_leaves (asleep_of_face near.face h (plain task h))).link]
        exact linked_kept kept related (near.first.goesOn open_ h)
    | forwarder => exact absurd rfl unmoved
    | reader => exact plain.elim
  | inject m => exact kept.inject m related
  | failSends on => exact kept.failing on related
  | unhealthy on => exact kept.unhealthy on related
  | deafen => exact kept.deafen related
  | endSource => exact kept.endSource related
  | spawn | advance | drop => exact related

/-! ### Closes that look at the table -/

theorem face_setTask {task task' : Task σ ε} (h : s.tasks[i]? = some task)
    (calm : task'.calm = task.calm) : (s.setTask i task').face = s.face := by
  have there : (s.tasks.map Task.calm)[i]? = some task'.calm := by
    rw [List.getElem?_map, h, calm]
    rfl
  have inside : (s.tasks.map Task.calm).set i task'.calm = s.tasks.map Task.calm := by
    obtain ⟨inside, same⟩ := List.getElem?_eq_some_iff.mp there
    rw [← same, List.set_getElem_self]
  simp only [setTask, face, List.map_set, inside]

theorem calm_nextStage (awake : stage.awake = true) (goes : s.nextStage stage = some stage')
    (awake' : stage'.awake = true) : stage'.calm = stage.calm := by
  cases stage with
  | draining =>
    cases goes
    rfl
  | watching deadline woken =>
    simp only [nextStage, Option.some.injEq] at goes
    split at goes
    · subst goes
      cases awake'
    · subst goes
      simp only [CloseStage.awake] at awake'
      subst awake'
      rfl
  | parked deadline woken =>
    simp only [CloseStage.awake] at awake
    subst awake
    cases goes
    rfl
  | stopping | joining | clearing | releasing => cases awake

/-- The step of a close that waits and has not looked at the table, or not found it full. -/
theorem awake_own (h : s.tasks[i]? = some (.closing stage next)) (awake : stage.awake = true)
    (goes : s.nextStage stage = some stage') :
    s.act (.step (.task i)) = s.setTask i (.closing stage' next) ∧
      s.happening (.step (.task i)) = none := by
  have turns : s.turned (.closing stage next) = .closing stage' next := by
    rw [turned, closedOn, goes]
  constructor
  · simp only [Session.act, step, h]
    rw [stepTask_eq h, turns]
    cases stage with
    | draining | watching | parked => rfl
    | stopping | joining | clearing | releasing => cases awake
  · rw [happening_task h]
    cases stage with
    | draining | watching | parked => rfl
    | stopping | joining | clearing | releasing => cases awake

theorem quiet_of_none {a : Act σ ε} (nothing : s.happening a = none) : s.Quiet a := by
  intro x happens
  rw [nothing] at happens
  cases happens

theorem awake_face (h : s.tasks[i]? = some (.closing stage next)) (awake : stage.awake = true)
    (goes : s.nextStage stage = some stage') (awake' : stage'.awake = true) :
    (s.act (.step (.task i))).face = s.face ∧ s.Quiet (.step (.task i)) := by
  obtain ⟨acted, nothing⟩ := awake_own h awake goes
  refine ⟨?_, quiet_of_none nothing⟩
  rw [acted]
  exact face_setTask h (congrArg (Task.closing · next) (calm_nextStage awake goes awake'))

/-- A session is near another, one of whose closes is at a stage. -/
structure NearAt (R : Memory → Memory → Prop) (s s' : Session σ ε) (i : Nat) (stage : CloseStage)
    (next : Except Error Unit → Program σ ε Unit) : Prop where
  near : Near R s s'
  there : s'.tasks[i]? = some (.closing stage next)

/-- The second session can come to have its close at a stage, and nothing shows. -/
def Reaches (R : Memory → Memory → Prop) (s s' : Session σ ε) (i : Nat) (stage : CloseStage)
    (next : Except Error Unit → Program σ ε Unit) : Prop :=
  ∃ acts', InStep s [] s' acts' ∧ NearAt R s (s'.run acts') i stage next

theorem NearAt.refl (at_ : NearAt R s s' i stage next) : Reaches R s s' i stage next :=
  ⟨[], .done at_.near.face, at_⟩

theorem NearAt.step {stage'' : CloseStage} (at_ : NearAt R s s' i stage next)
    (awake : stage.awake = true) (goes : s'.nextStage stage = some stage')
    (awake' : stage'.awake = true)
    (later : NearAt R s (s'.act (.step (.task i))) i stage' next →
      Reaches R s (s'.act (.step (.task i))) i stage'' next) :
    Reaches R s s' i stage'' next := by
  obtain ⟨same, quiet⟩ := awake_face at_.there awake goes awake'
  have inside : i < s'.tasks.length := (List.getElem?_eq_some_iff.mp at_.there).1
  obtain ⟨acted, -⟩ := awake_own at_.there awake goes
  have near : Near R s (s'.act (.step (.task i))) := by
    refine at_.near.right same fun _ related => ?_
    rw [acted]
    exact related
  have there : (s'.act (.step (.task i))).tasks[i]? = some (.closing stage' next) := by
    rw [acted]
    exact setTask_own at_.there _
  obtain ⟨acts', inStep, reached⟩ := later ⟨near, there⟩
  exact ⟨_ :: acts', .right at_.near.face quiet inStep, reached⟩

/-- A close that waits comes to look at the table, and was not woken if the table is full. -/
theorem NearAt.looks (at_ : NearAt R s s' i stage next) (awake : stage.awake = true)
    (waits : stage.calm = .draining deadline) :
    ∃ woken, (s.pending = [] ∨ woken = false) ∧ Reaches R s s' i (.watching deadline woken) next := by
  have from_draining {s' : Session σ ε} (at_ : NearAt R s s' i (.draining deadline) next) :
      Reaches R s s' i (.watching deadline false) next :=
    at_.step rfl rfl rfl NearAt.refl
  have from_parked {s' : Session σ ε} (at_ : NearAt R s s' i (.parked deadline true) next) :
      Reaches R s s' i (.watching deadline false) next :=
    at_.step rfl rfl rfl from_draining
  -- Only a close that was woken and finds the table full has to go round once more.
  cases stage with
  | draining =>
    cases waits
    exact ⟨false, .inr rfl, from_draining at_⟩
  | parked _ woken =>
    simp only [CloseStage.awake] at awake
    subst awake
    cases waits
    exact ⟨false, .inr rfl, from_parked at_⟩
  | watching _ woken =>
    cases waits
    cases woken with
    | false => exact ⟨false, .inr rfl, at_.refl⟩
    | true =>
      by_cases empty : s.pending = []
      · exact ⟨true, .inl empty, at_.refl⟩
      · have full : s'.pending.isEmpty = false := by
          rw [at_.near.pending]
          simpa using empty
        refine ⟨false, .inr rfl, at_.step rfl ?_ rfl from_parked⟩
        simp only [nextStage, full, Bool.false_eq_true, if_false]
  | stopping | joining | clearing | releasing => cases awake

/-- Where a close that looks at the table goes on or comes to wait, it does so whenever it looks at
that table. -/
theorem asleep_nextStage (awake : stage.awake = true) (goes : s.nextStage stage = some stage')
    (asleep : stage'.awake = false) : ∃ deadline, stage.calm = .draining deadline ∧
      ∀ woken, s.pending = [] ∨ woken = false →
        s.nextStage (.watching deadline woken) = some stage' := by
  cases stage with
  | draining =>
    cases goes
    cases asleep
  | parked deadline woken =>
    simp only [CloseStage.awake] at awake
    subst awake
    cases goes
    cases asleep
  | watching deadline woken =>
    refine ⟨deadline, rfl, fun woken' ready => ?_⟩
    simp only [nextStage, Option.some.injEq] at goes ⊢
    split at goes
    · rename_i empty
      rw [if_pos empty, goes]
    · rename_i full
      subst goes
      rw [if_neg full, ready.resolve_left (by simpa using full)]
      exact congrArg _ asleep.symm
  | stopping | joining | clearing | releasing => cases awake

/-- Where a close of the one session looks at the table, that of the other does. -/
theorem Near.awake (near : Near R s s') (h : s.tasks[i]? = some (.closing stage next))
    (awake : stage.awake = true) : ∃ acts', InStep s [.step (.task i)] s' acts' ∧
      Near R (s.act (.step (.task i))) (s'.run acts') := by
  obtain ⟨stage', goes⟩ : ∃ stage', s.nextStage stage = some stage' := by
    cases stage with
    | draining | watching | parked => exact ⟨_, rfl⟩
    | stopping | joining | clearing | releasing => cases awake
  obtain ⟨acted, nothing⟩ := awake_own h awake goes
  cases after : stage'.awake with
  | true =>
    obtain ⟨same, quiet⟩ := awake_face h awake goes after
    have near' : Near R (s.act (.step (.task i))) s' := by
      refine near.left same fun _ related => ?_
      rw [acted]
      exact related
    exact ⟨[], .left near.face quiet (.done near'.face), near'⟩
  | false =>
    -- This shows, so the other close has to come to the same point before it follows.
    obtain ⟨deadline, waits, onward⟩ := asleep_nextStage awake goes after
    obtain ⟨own, there, calm⟩ := awake_of_face near.face h
    have awake_too : own.awake = true := by
      rw [← CloseStage.awake_calm, calm, CloseStage.awake_calm, awake]
    have at_ : NearAt R s s' i own next := ⟨near, there⟩
    obtain ⟨woken, ready, acts', inStep, looks⟩ := at_.looks awake_too (calm.trans waits)
    have goes' : (s'.run acts').nextStage (.watching deadline woken) = some stage' := by
      rw [← onward woken ready]
      simp only [nextStage, looks.near.pending]
    obtain ⟨acted', nothing'⟩ := awake_own looks.there rfl goes'
    have face : (s.act (.step (.task i))).face =
        ((s'.run acts').act (.step (.task i))).face := by
      rw [acted, acted']
      exact (setTask_outward i _).congr looks.near.face
    have last : InStep s [.step (.task i)] (s'.run acts') [.step (.task i)] :=
      .both looks.near.face (nothing.trans nothing'.symm) (.done face)
    have whole : InStep s ([] ++ [.step (.task i)]) s' (acts' ++ [.step (.task i)]) :=
      inStep.append last
    refine ⟨_, whole, ?_⟩
    rw [run_append]
    refine looks.near.act face fun _ related => ?_
    rw [acted, acted']
    exact related

/-! ### Acts that are nothing to what comes in -/

/-- Whatever the one session does beside moving and taking messages, the other can do in step. -/
theorem Near.follows (kept : Kept R) (near : Near R s s') {a : Act σ ε} (unmoved : a ≠ .step .forwarder)
    (unread : a ≠ .step .reader) : ∃ acts', InStep s [a] s' acts' ∧
      Near R (s.act a) (s'.run acts') := by
  by_cases plain : s.Plain a
  · obtain ⟨inStep, near'⟩ := near.plain kept plain unmoved
    exact ⟨[a], inStep, near'⟩
  · cases a with
    | step agent =>
      cases agent with
      | task i =>
        obtain ⟨task, h⟩ := not_forall.mp plain
        obtain ⟨h, awake⟩ := Classical.not_imp.mp h
        cases task with
        | closing stage next => exact near.awake h (eq_true_of_ne_false awake)
        | ready | sending | calling | sleeping | awaiting => exact absurd rfl awake
      | forwarder => exact absurd rfl unmoved
      | reader => exact absurd rfl unread
    | spawn | inject | failSends | unhealthy | deafen | endSource | advance | drop =>
      exact absurd trivial plain

/-! ### What comes in -/

theorem Near.forward (near : Near R s s')
    (link : s.stopped = false → R s.link s'.link → R' s.link.forward s'.link.forward) :
    InStep s [.step .forwarder] s' [.step .forwarder] ∧
      Near R' (s.act (.step .forwarder)) (s'.act (.step .forwarder)) := by
  obtain ⟨-, face, happens⟩ := plain_congr near.face (a := .step .forwarder) trivial
  exact ⟨.both near.face happens (.done face), near.act face link⟩

theorem read_stopped (stopped : s.stopped = true) : s.read.face = s.face.read.face := by
  have shown (f : Session σ ε → Session σ ε) : f s.face = f s.face.face := by rw [face_face]
  have reader' : s.face.reader = s.reader := rfl
  have stopped' : s.face.stopped = s.stopped := rfl
  cases reader : s.reader with
  | reading =>
    simp only [Session.read, reader', stopped', reader, stopped, if_true]
    exact shown fun s => { s with stopped := true, reader := .leaving }
  | leaving =>
    simp only [Session.read, reader', reader]
    exact congrArg (fun s => { s with reader := .gone }) (clear_outward s)
  | gone =>
    simp only [Session.read, reader', reader]
    exact s.face_face.symm

/-- The reader of a stopped session takes no message. -/
theorem Near.leave (near : Near R s s') (stopped : s.stopped = true) :
    InStep s [.step .reader] s' [.step .reader] ∧
      Near R (s.act (.step .reader)) (s'.act (.step .reader)) := by
  have stopped' : s'.stopped = true := near.stopped.trans stopped
  have face : (s.act (.step .reader)).face = (s'.act (.step .reader)).face := by
    show s.read.face = s'.read.face
    rw [read_stopped stopped, near.face, ← read_stopped stopped']
  have happens : s.happening (.step .reader) = s'.happening (.step .reader) := by
    simp only [happening, readHappening, near.reader, stopped, stopped', if_true]
  refine ⟨.both near.face happens (.done face), near.act face fun open_ => ?_⟩
  rw [stopped] at open_
  cases open_

theorem dispatch_link (s : Session σ ε) (m : Message) : (s.dispatch m).link = s.link := by
  cases m with
  | request => rfl
  | notification =>
    simp only [dispatch]
    split <;> rfl
  | response =>
    simp only [dispatch]
    split
    · rfl
    · split <;> rfl

theorem dry_receive (t : Memory) : t.receive.2.dry = t.dry := by
  obtain ⟨inbox, rest⟩ := receive_link t
  rw [rest]
  rfl

/-- What the handing out of a message is to requests. -/
def toRequests : Message → Option Happening
  | .response r => some (.heard r)
  | .request _ | .notification _ => none

theorem read_message (winding : Winding s) (open_ : s.stopped = false) {m : Message}
    {rest : List Message} (inbox : s.link.inbox = m :: rest) :
    (s.act (.step .reader)).face = (s.dispatch m).face ∧
      (s.act (.step .reader)).link = { s.link with inbox := rest } ∧
      s.happening (.step .reader) = toRequests m := by
  have reading := winding.reading open_
  have received : s.link.receive = (some m, { s.link with inbox := rest }) := by
    rw [Memory.receive, inbox]
  have heard : s.traffic (.step .reader) = some (.heard m) := by
    simp only [traffic, readTraffic, reading, open_, received, Bool.false_eq_true, if_false]
    rfl
  have acted : s.act (.step .reader) = ({ s with link := s.link.receive.2 }).dispatch m :=
    read_of_heard heard
  refine ⟨?_, ?_, ?_⟩
  · rw [acted]
    exact (dispatch_outward m).congr
      (congrArg (fun link => { s.face with link }) (dry_receive s.link))
  · rw [acted, dispatch_link, received]
  · simp only [happening, readHappening, reading, open_, received, Bool.false_eq_true, if_false]
    cases m <;> rfl

/-- Both sessions take a message, and it is the same. -/
theorem Near.hear (near : Near R s s') (open_ : s.stopped = false) {m : Message}
    {rest rest' : List Message} (inbox : s.link.inbox = m :: rest)
    (inbox' : s'.link.inbox = m :: rest')
    (link : R' { s.link with inbox := rest } { s'.link with inbox := rest' }) :
    InStep s [.step .reader] s' [.step .reader] ∧
      Near R' (s.act (.step .reader)) (s'.act (.step .reader)) := by
  obtain ⟨face, after, happens⟩ := read_message near.first open_ inbox
  obtain ⟨face', after', happens'⟩ :=
    read_message near.second (near.stopped.trans open_) inbox'
  have same : (s.act (.step .reader)).face = (s'.act (.step .reader)).face := by
    rw [face, face', (dispatch_outward m).congr near.face]
  refine ⟨.both near.face (happens.trans happens'.symm) (.done same), near.act same fun _ _ => ?_⟩
  rw [after, after']
  exact link

theorem read_nothing (winding : Winding s) (open_ : s.stopped = false) (inbox : s.link.inbox = []) :
    s.happening (.step .reader) = none ∧
      s.act (.step .reader) =
        if s.link.ended then { s with stopped := true, reader := .leaving } else s := by
  have reading := winding.reading open_
  have received : s.link.receive = (none, s.link) := by rw [Memory.receive, inbox]
  constructor
  · simp only [happening, readHappening, reading, open_, received, Bool.false_eq_true, if_false]
  · simp only [Session.act, step, Session.read, reading, open_, received, Bool.false_eq_true,
      if_false]

theorem Near.listen (near : Near R s s') (open_ : s.stopped = false) (inbox : s.link.inbox = [])
    (inbox' : s'.link.inbox = []) (ended : s'.link.ended = s.link.ended) :
    InStep s [.step .reader] s' [.step .reader] ∧
      Near R (s.act (.step .reader)) (s'.act (.step .reader)) := by
  obtain ⟨nothing, acted⟩ := read_nothing near.first open_ inbox
  obtain ⟨nothing', acted'⟩ := read_nothing near.second (near.stopped.trans open_) inbox'
  rw [ended] at acted'
  have face : (s.act (.step .reader)).face = (s'.act (.step .reader)).face := by
    rw [acted, acted']
    split
    · exact congrArg (fun s => { s with stopped := true, reader := .leaving }) near.face
    · exact near.face
  refine ⟨.both near.face (nothing.trans nothing'.symm) (.done face),
    near.act face fun _ related => ?_⟩
  rw [acted, acted']
  split <;> exact related

end Near

/-! ### Sessions that hear the same -/

/-- Two sessions look the same and, as long as they are open, hear the same. -/
abbrev Alike (s s' : Session σ ε) : Prop := Near Eq s s'

section Alike

variable {s s' : Session σ ε}

/-- One run follows another: it is in step with it, and waits no longer for anything. -/
structure Follows (s : Session σ ε) (acts : List (Act σ ε)) (s' : Session σ ε)
    (acts' : List (Act σ ε)) : Prop where
  inStep : InStep s acts s' acts'
  punctual : Along Punctual s acts → Along Punctual s' acts'

theorem along_append {P : Session σ ε → Act σ ε → Prop} {before after : List (Act σ ε)} :
    Along P s (before ++ after) ↔ Along P s before ∧ Along P (s.run before) after := by
  induction before generalizing s with
  | nil => exact ⟨fun later => ⟨.nil, later⟩, fun both => both.2⟩
  | cons a before ih =>
    constructor
    · intro along
      cases along with
      | cons here later => exact ⟨.cons here (ih.mp later).1, (ih.mp later).2⟩
    · rintro ⟨first, later⟩
      cases first with
      | cons here first => exact .cons here (ih.mpr ⟨first, later⟩)

theorem punctual_of_still {acts : List (Act σ ε)} (still : ∀ a ∈ acts, a.passes = 0) :
    Along Punctual s acts := by
  induction acts generalizing s with
  | nil => exact .nil
  | cons a acts ih =>
    obtain ⟨here, later⟩ := List.forall_mem_cons.mp still
    exact .cons (fun passes => absurd here (Nat.ne_of_gt passes)) (ih later)

theorem Follows.append {acts acts' more more' : List (Act σ ε)} (first : Follows s acts s' acts')
    (later : Follows (s.run acts) more (s'.run acts') more') :
    Follows s (acts ++ more) s' (acts' ++ more') where
  inStep := first.inStep.append later.inStep
  punctual along := by
    obtain ⟨before, after⟩ := along_append.mp along
    exact along_append.mpr ⟨first.punctual before, later.punctual after⟩

/-- While no time passes nothing is waited for. -/
theorem InStep.follows {acts acts' : List (Act σ ε)} (inStep : InStep s acts s' acts')
    (still : ∀ a ∈ acts, a.passes = 0) : Follows s acts s' acts' where
  inStep := inStep
  punctual _ := punctual_of_still (inStep.still still)

theorem canStep_face (s : Session σ ε) (task : Task σ ε) : s.face.canStep task = s.canStep task := by
  cases task with
  | ready program => cases program <;> rfl
  | calling call stage => cases stage <;> rfl
  | closing stage => cases stage <;> rfl
  | sending | sleeping | awaiting => rfl

/-- Where nobody has a step to take, no close is to look at the table. -/
theorem asleep_of_idle (idle : ∀ agent, s.enabled agent = false) {i : Nat} {task : Task σ ε}
    (h : s.tasks[i]? = some task) : task.awake = false := by
  have still := idle (.task i)
  rw [enabled, h] at still
  cases task with
  | closing stage next =>
    cases stage with
    | draining | watching => cases still
    | parked deadline woken =>
      cases woken with
      | true => cases still
      | false => rfl
    | stopping | joining | clearing | releasing => rfl
  | ready | sending | calling | sleeping | awaiting => rfl

theorem Near.idle (alike : Alike s s') (idle : ∀ agent, s.enabled agent = false)
    (still : s'.link.canForward = false) :
    (∀ agent, s'.enabled agent = false) ∧ s'.tasks = s.tasks := by
  have tasks : s'.tasks = s.tasks := by
    refine List.ext_getElem? fun i => ?_
    cases h : s.tasks[i]? with
    | none => exact absent_of_face alike.face h
    | some task => exact asleep_of_face alike.face h (asleep_of_idle idle h)
  refine ⟨fun agent => ?_, tasks⟩
  cases agent with
  | task i =>
    have before := idle (.task i)
    rw [enabled] at before ⊢
    rw [tasks]
    cases h : s.tasks[i]? with
    | none => rfl
    | some task =>
      rw [h] at before
      have same : s'.canStep task = s.canStep task := by
        rw [← canStep_face, ← alike.face, canStep_face]
      exact same.trans before
  | forwarder => exact still
  | reader =>
    have before : s.canRead = false := idle .reader
    cases stopped : s.stopped with
    | true =>
      rw [← before, enabled, canRead, canRead, alike.reader, alike.stopped, stopped]
      rfl
    | false =>
      rw [← before, enabled, canRead, canRead, alike.reader, alike.stopped, alike.link stopped]

/-- How many steps the forwarder has at most. -/
def ahead (t : Memory) : Nat := if t.forwarding then t.queue.length + 1 else 0

theorem forward_ahead {t : Memory} (can : t.canForward = true) : ahead t.forward < ahead t := by
  have runs : t.forwarding = true := by
    rw [Memory.canForward, Bool.and_eq_true] at can
    exact can.1
  have more : ahead t = t.queue.length + 1 := by rw [ahead, if_pos runs]
  rw [more, Memory.forward, runs, Bool.not_true, if_neg Bool.false_ne_true]
  split
  · exact Nat.succ_pos _
  · rename_i kept
    split
    · rename_i m rest queue
      split
      · simp only [ahead, queue, if_true, List.length_cons]
        omega
      · exact Nat.succ_pos _
    · rename_i queue
      split
      · rename_i source
        simp only [Memory.canForward, runs, kept, queue, source] at can
        cases can
      · exact Nat.succ_pos _

/-- When the session has stopped, the forwarder can do what it has to do, and nothing shows. -/
theorem Near.settle (alike : Alike s s') (stopped : s.stopped = true) : ∃ acts',
    InStep s [] s' acts' ∧ Alike s (s'.run acts') ∧ (s'.run acts').link.canForward = false := by
  -- By induction on the steps that the forwarder has.
  induction left : ahead s'.link using Nat.strongRecOn generalizing s' with
  | ind n ih =>
    cases can : s'.link.canForward with
    | false => exact ⟨[], .done alike.face, alike, can⟩
    | true =>
      have alike' : Alike s (s'.act (.step .forwarder)) := by
        refine alike.right s'.forward_face fun open_ => ?_
        rw [stopped] at open_
        cases open_
      have fewer : ahead (s'.act (.step .forwarder)).link < n := by
        rw [← left]
        exact forward_ahead can
      obtain ⟨acts', inStep, settled⟩ := ih _ fewer alike' rfl
      exact ⟨_ :: acts', .right alike.face (quiet_of_none rfl) inStep, settled⟩

/-- Time passes for both sessions; before that the forwarder may have to finish. -/
theorem Near.wait (alike : Alike s s') (milliseconds : Nat) : ∃ acts',
    Follows s [.advance milliseconds] s' acts' ∧
      Alike (s.act (.advance milliseconds)) (s'.run acts') := by
  obtain ⟨acts', inStep, alike', still⟩ : ∃ acts', InStep s [] s' acts' ∧
      Alike s (s'.run acts') ∧
        (s.link.canForward = false → (s'.run acts').link.canForward = false) := by
    cases stopped : s.stopped with
    | true =>
      obtain ⟨acts', inStep, alike', still⟩ := alike.settle stopped
      exact ⟨acts', inStep, alike', fun _ => still⟩
    | false => exact ⟨[], .done alike.face, alike, by rw [run_nil, alike.link stopped]; exact id⟩
  obtain ⟨last, after⟩ := alike'.plain kept_eq (a := .advance milliseconds) trivial nofun
  have whole : InStep s ([] ++ [.advance milliseconds]) s' (acts' ++ [.advance milliseconds]) :=
    inStep.append last
  refine ⟨_, ⟨whole, fun along => along_append.mpr ⟨?_, ?_⟩⟩, ?_⟩
  · exact punctual_of_still (inStep.still nofun)
  · refine .cons (fun passes => ?_) .nil
    obtain ⟨idle, upTo⟩ : (∀ agent, s.enabled agent = false) ∧ ∀ task ∈ s.tasks, ∀ deadline,
        task.deadline? = some deadline → s.now + milliseconds ≤ deadline := by
      cases along with
      | cons here _ => exact here passes
    obtain ⟨idle', tasks⟩ := alike'.idle idle (still (idle .forwarder))
    have now : s.now = (s'.run acts').now := congrArg (fun s => s.now) alike'.face
    refine ⟨idle', ?_⟩
    rw [tasks, ← now]
    exact upTo
  · rw [run_append]
    exact after

/-- Whatever the one session does, the other can do in step. -/
theorem Near.step (alike : Alike s s') (a : Act σ ε) : ∃ acts', Follows s [a] s' acts' ∧
    Alike (s.act a) (s'.run acts') := by
  have both {a : Act σ ε} (still : a.passes = 0)
      (here : InStep s [a] s' [a] ∧ Alike (s.act a) (s'.act a)) :
      ∃ acts', Follows s [a] s' acts' ∧ Alike (s.act a) (s'.run acts') :=
    ⟨[a], here.1.follows (by simpa using still), here.2⟩
  have others {a : Act σ ε} (still : a.passes = 0) (unmoved : a ≠ .step .forwarder)
      (unread : a ≠ .step .reader) : ∃ acts', Follows s [a] s' acts' ∧
        Alike (s.act a) (s'.run acts') := by
    obtain ⟨acts', inStep, alike'⟩ := alike.follows kept_eq unmoved unread
    exact ⟨acts', inStep.follows (by simpa using still), alike'⟩
  cases a with
  | step agent =>
    cases agent with
    | task i => exact others rfl nofun nofun
    | forwarder => exact both rfl (alike.forward fun _ same => by rw [same])
    | reader =>
      cases stopped : s.stopped with
      | true => exact both rfl (alike.leave stopped)
      | false =>
        have same := alike.link stopped
        cases inbox : s.link.inbox with
        | nil => exact both rfl (alike.listen stopped inbox (same ▸ inbox) (by rw [same]))
        | cons m rest =>
          exact both rfl (alike.hear stopped inbox (same ▸ inbox) (by rw [same]))
  | advance milliseconds => exact alike.wait milliseconds
  | spawn | inject | failSends | unhealthy | deafen | endSource | drop =>
    exact others rfl nofun nofun

/-- Whatever run the one session has, the other has a run in step. -/
theorem Near.run (alike : Alike s s') (acts : List (Act σ ε)) : ∃ acts',
    Follows s acts s' acts' ∧ Alike (s.run acts) (s'.run acts') := by
  induction acts generalizing s s' with
  | nil => exact ⟨[], ⟨.done alike.face, fun _ => .nil⟩, alike⟩
  | cons a acts ih =>
    obtain ⟨first, follows, alike'⟩ := alike.step a
    obtain ⟨later, more, alike''⟩ := ih alike'
    have whole : Follows s ([a] ++ acts) s' (first ++ later) := follows.append more
    refine ⟨_, whole, ?_⟩
    rw [run_append]
    exact alike''

end Alike

end Mcp.Session
