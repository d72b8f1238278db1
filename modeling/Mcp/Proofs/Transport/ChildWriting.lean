import Mathlib.Data.List.Induction
import Mcp.Proofs.Transport.ChildQueue

/-!
What is written to a child process. The lines of the sends that were put into the queue are written in
that order: those of the sends that have succeeded, whole, and of the next one at most a part. A send
that comes when the writer has stopped, or when a close has taken the queue, is turned away and leaves
no bytes. No send is left waiting. Main statement: `writes_in_order`.
-/

namespace Mcp.Transport.Child

/-- The send that a step puts into the queue. -/
def queuedBy (t : Child) : Action → List Nat
  | .enqueue i =>
    match t.desk.stage i with
    | some .admitted => if t.writer = .over then [] else [i]
    | _ => []
  | _ => []

/-- The sends that are put into the queue, in that order. -/
def queuedIn (t : Child) : List Action → List Nat
  | [] => []
  | a :: actions => t.queuedBy a ++ (t.tryStep a).queuedIn actions

theorem queuedIn_append (t : Child) (before after : List Action) :
    t.queuedIn (before ++ after) = t.queuedIn before ++ (t.run before).queuedIn after := by
  induction before generalizing t with
  | nil => rfl
  | cons a before ih => rw [List.cons_append, queuedIn, ih, queuedIn, run_cons, List.append_assoc]

/-! ### Every step -/

/-- What holds of a transport in every run; the sends of `order` have been put into the queue. -/
structure Attends (t : Child) (order : List Nat) : Prop where
  orderly : t.face.Orderly
  laid : t.Laid
  fits : ∃ done rest part, t.desk.Fits order done rest part
  /-- Before there is a writer, nobody waits for it. -/
  unmanned {i : Nat} : t.writer = .absent →
    t.desk.stage i ≠ some .admitted ∧ t.desk.stage i ≠ some .waiting

section Every

variable {t t' : Child} {d' : Desk} {a : Action} {order done rest : List Nat} {part : List UInt8}
  {i : Nat}

theorem queuedBy_enqueue (at_ : t.desk.stage i = some .admitted) (going : t.writer ≠ .over) :
    t.queuedBy (.enqueue i) = [i] := by
  simp only [queuedBy, at_, if_neg going]

theorem queuedBy_of_over (halted : t.writer = .over) : t.queuedBy a = [] := by
  unfold queuedBy
  split
  · split
    · exact if_pos halted
    · rfl
  · rfl

theorem queuedBy_of_other (other : ∀ i, a ≠ .enqueue i) : t.queuedBy a = [] := by
  cases a with
  | enqueue i => exact absurd rfl (other i)
  | _ => rfl

theorem queuedBy_of_none (h : t.step? a = none) : t.queuedBy a = [] := by
  unfold queuedBy
  split
  · rename_i i
    split
    · rename_i at_
      obtain ⟨⟨line, stage⟩, there, rfl⟩ := Option.map_eq_some_iff.mp at_
      have found : t.sends[i]? = some ⟨line, .admitted⟩ := there
      simp [step?, enqueue?, found] at h
    · rfl
  · rfl

theorem Works.fits (works : Works t a d') (fits : t.desk.Fits order done rest part) :
    ∃ done' rest' part', d'.Fits (order ++ t.queuedBy a) done' rest' part' := by
  have keeps {e : Desk} {done' rest' : List Nat} {part' : List UInt8} (other : ∀ i, a ≠ .enqueue i)
      (fits' : e.Fits order done' rest' part') :
      ∃ done' rest' part', e.Fits (order ++ t.queuedBy a) done' rest' part' := by
    rw [queuedBy_of_other other, List.append_nil]
    exact ⟨done', rest', part', fits'⟩
  -- `enqueue` alone makes the order longer.
  cases works with
  | quiet one => exact keeps one fits
  | issue => exact keeps nofun (fits.issue _)
  | enter at_ => exact keeps nofun (fits.restage (fits.outside (.inl at_)) (.inr (.inl rfl)))
  | turnAway at_ => exact keeps nofun (fits.restage (fits.outside (.inl at_)) (.inr (.inr rfl)))
  | @enqueue i at_ going =>
    rw [queuedBy_enqueue at_ going]
    exact ⟨done, rest ++ [i], part, fits.enqueue at_ going⟩
  | tooLate at_ halted =>
    rw [queuedBy_of_over halted, List.append_nil]
    exact ⟨done, rest, part, fits.restage (fits.outside (.inr at_)) (.inr (.inr rfl))⟩
  | take idle queue => exact keeps nofun (fits.take idle queue)
  | write busy => exact keeps nofun (fits.write busy _)
  | acknowledge busy => exact keeps nofun (fits.acknowledge busy)
  | refuse busy => exact keeps nofun (fits.refuse busy)
  | finish idle queue => exact keeps nofun (fits.finish idle queue)
  | stop => exact keeps nofun fits.stop
  | spawn absent => exact keeps nofun (fits.spawn absent)
  | publish | shut =>
    exact keeps nofun (fits.congr rfl rfl rfl (fun _ _ => rfl) (fun _ _ => rfl) fits.others)

theorem Works.unmanned (works : Works t a d') (laid : t.Laid)
    (was : ∀ i, t.writer = .absent → t.desk.stage i ≠ some .admitted ∧ t.desk.stage i ≠ some .waiting)
    (absent : d'.writer = .absent) : d'.stage i ≠ some .admitted ∧ d'.stage i ≠ some .waiting := by
  have away {j : Nat} (absent : t.writer = .absent) :
      (t.desk.restage j .turnedAway).stage i ≠ some .admitted ∧
        (t.desk.restage j .turnedAway).stage i ≠ some .waiting := by
    by_cases same : i = j
    · subst same
      cases there : t.desk.sends[i]? <;>
        simp [Desk.stage, Desk.restage, there, SendStage.turnedAway]
    · rw [Desk.stage_restage_ne same]
      exact was i absent
  cases works with
  | quiet | publish | shut => exact was i absent
  | @issue line =>
    have old {stage : SendStage} (other : stage ≠ .framed)
        (at_ : (t.desk.issue line).stage i = some stage) : t.desk.stage i = some stage :=
      (Desk.framed_or_old at_).resolve_left other
    exact ⟨fun at_ => (was i absent).1 (old (by simp) at_),
      fun at_ => (was i absent).2 (old (by simp) at_)⟩
  | enter _ opened =>
    exact absurd absent (laid.born (Connect.born_of_opened (laid.opened opened)))
  | turnAway => exact away absent
  | enqueue admitted => exact absurd admitted (was _ absent).1
  | tooLate admitted => exact absurd admitted (was _ absent).1
  | take | write | acknowledge | refuse | finish | stop | spawn => cases absent

theorem Attends.step (attends : t.Attends order) (h : t.step? a = some t') :
    t'.Attends (order ++ t.queuedBy a) := by
  obtain ⟨done, rest, part, fits⟩ := attends.fits
  have works := step_works attends.laid h
  exact ⟨attends.orderly.moves (step_moves h), attends.laid.step attends.orderly h, works.fits fits,
    works.unmanned attends.laid fun i => attends.unmanned⟩

theorem Attends.tryStep (attends : t.Attends order) (a : Action) :
    (t.tryStep a).Attends (order ++ t.queuedBy a) := by
  unfold Child.tryStep
  cases h : t.step? a with
  | none =>
    rw [queuedBy_of_none h, List.append_nil]
    exact attends
  | some t' => exact attends.step h

theorem Attends.run (attends : t.Attends order) (actions : List Action) :
    (t.run actions).Attends (order ++ t.queuedIn actions) := by
  induction actions generalizing t order with
  | nil => simpa [queuedIn] using attends
  | cons a actions ih =>
    rw [queuedIn, ← List.append_assoc]
    exact ih (attends.tryStep a)

theorem new_attends (command : String) : (new command).Attends [] where
  orderly := new_orderly command
  laid := ⟨fun _ => rfl, nofun, nofun, nofun, fun there => absurd there List.not_mem_nil⟩
  fits := ⟨[], [], [], rfl, List.nodup_nil, rfl, fun h => absurd h List.not_mem_nil,
    .waits (.inl rfl) rfl rfl fun _ h => absurd h List.not_mem_nil, fun _ => nofun⟩
  unmanned _ := ⟨nofun, nofun⟩

theorem attends_run (command : String) (actions : List Action) :
    ((new command).run actions).Attends ((new command).queuedIn actions) :=
  (new_attends command).run actions

/-! ### What stays -/

theorem Desk.Fits.succeeded_iff {d : Desk} (fits : d.Fits order done rest part) :
    d.stage i = some .succeeded ↔ i ∈ done := by
  refine ⟨fun at_ => ?_, fits.succeeded⟩
  by_cases queued : i ∈ order
  · rcases fits.mem.mp queued with written | left
    · exact written
    · cases fits.phase with
      | waits _ _ _ waiting | writes _ _ _ waiting => cases at_.symm.trans (waiting i left)
      | stopped _ _ ended =>
        rcases ended i left with away | ⟨-, failed⟩
        · cases at_.symm.trans away
        · cases at_.symm.trans failed
  · rcases fits.others queued at_ with wrong | wrong | wrong <;> cases wrong

/-- The line that the writer has is that of a send that waits. -/
theorem Desk.Fits.writing {d : Desk} (fits : d.Fits order done rest part) {left : List UInt8}
    (busy : d.writer = .writing i left) : d.stage i = some .waiting := by
  cases fits.phase with
  | waits idle => rcases idle with idle | idle <;> cases idle.symm.trans busy
  | stopped halted => cases halted.symm.trans busy
  | writes busy' all whole waiting =>
    cases busy'.symm.trans busy
    exact waiting i (all ▸ List.mem_cons_self)

/-- A send that has ended stays so. -/
theorem Works.ended (works : Works t a d') (fits : t.desk.Fits order done rest part)
    {result : Except Error Unit} (ended : t.desk.stage i = some (.ended result)) :
    d'.stage i = some (.ended result) := by
  have there : t.desk.stage i ≠ none := by simp [ended]
  have elsewhere {j : Nat} {stage stage' : SendStage} (at_ : t.desk.stage j = some stage)
      (going : ∀ r, stage ≠ .ended r) : (t.desk.restage j stage').stage i = some (.ended result) := by
    refine (Desk.stage_restage_ne ?_).trans ended
    rintro rfl
    cases at_.symm.trans ended
    exact going result rfl
  have stopped {e : Desk} (at_ : e.stage i = some (.ended result)) :
      e.stop.stage i = some (.ended result) := by
    rw [Desk.stage_stop, at_]
    rfl
  cases works with
  | quiet | take | write | finish | spawn | publish | shut => exact ended
  | issue => exact (Desk.stage_issue there).trans ended
  | enter at_ | turnAway at_ | enqueue at_ | tooLate at_ => exact elsewhere at_ nofun
  | acknowledge busy => exact elsewhere (fits.writing busy) nofun
  | refuse busy => exact stopped (elsewhere (fits.writing busy) nofun)
  | stop => exact stopped ended

theorem Attends.ended_run (attends : t.Attends order) {result : Except Error Unit}
    (ended : t.desk.stage i = some (.ended result)) (actions : List Action) :
    (t.run actions).desk.stage i = some (.ended result) := by
  induction actions generalizing t order with
  | nil => exact ended
  | cons a actions ih =>
    refine ih (attends.tryStep a) ?_
    unfold Child.tryStep
    cases h : t.step? a with
    | none => exact ended
    | some t' =>
      obtain ⟨done, rest, part, fits⟩ := attends.fits
      exact (step_works attends.laid h).ended fits ended

/-- A writer that has stopped writes nothing more. -/
theorem Works.halted (works : Works t a d') (halted : t.writer = .over) :
    d'.writer = .over ∧ d'.written = t.written := by
  cases works with
  | quiet | issue | enter | turnAway | tooLate | publish | shut => exact ⟨halted, rfl⟩
  | stop => exact ⟨rfl, rfl⟩
  | enqueue _ going => exact absurd halted going
  | take other | write other | acknowledge other | refuse other | finish other | spawn other =>
    cases other.symm.trans halted

theorem Attends.over_run (attends : t.Attends order) (halted : t.writer = .over)
    (actions : List Action) : (t.run actions).writer = .over ∧ (t.run actions).written = t.written ∧
      t.queuedIn actions = [] := by
  induction actions generalizing t order with
  | nil => exact ⟨halted, rfl, rfl⟩
  | cons a actions ih =>
    have next : (t.tryStep a).writer = .over ∧ (t.tryStep a).written = t.written := by
      unfold Child.tryStep
      cases h : t.step? a with
      | none => exact ⟨halted, rfl⟩
      | some t' => exact (step_works attends.laid h).halted halted
    obtain ⟨halted', written, none_⟩ := ih (attends.tryStep a) next.1
    rw [queuedIn, queuedBy_of_over halted, none_]
    exact ⟨halted', written.trans next.2, rfl⟩

/-! ### Turned away -/

/-- A send has not been made, or has not found the queue. -/
def Desk.Aside (d : Desk) (i : Nat) : Prop :=
  d.stage i = none ∨ d.stage i = some .framed ∨ d.stage i = some .turnedAway

theorem Desk.Aside.stop {d : Desk} (aside : d.Aside i) : d.stop.Aside i := by
  unfold Desk.Aside
  rw [Desk.stage_stop]
  rcases aside with at_ | at_ | at_ <;> rw [at_]
  · exact .inl rfl
  · exact .inr (.inl rfl)
  · exact .inr (.inr rfl)

theorem Desk.Aside.elsewhere {d : Desk} (aside : d.Aside i) {j : Nat} {stage stage' : SendStage}
    (at_ : d.stage j = some stage) (far : stage = .admitted ∨ stage = .waiting) :
    (d.restage j stage').Aside i := by
  have other : i ≠ j := by
    rintro rfl
    rcases aside with none_ | framed | away
    · cases none_.symm.trans at_
    · cases framed.symm.trans at_
      rcases far with wrong | wrong <;> cases wrong
    · cases away.symm.trans at_
      rcases far with wrong | wrong <;> cases wrong
  unfold Desk.Aside
  rw [Desk.stage_restage_ne other]
  exact aside

theorem Desk.Aside.turnAway {d : Desk} (aside : d.Aside i) {j : Nat} (there : d.stage j ≠ none) :
    (d.restage j .turnedAway).Aside i := by
  by_cases same : i = j
  · subst same
    exact .inr (.inr (Desk.stage_restage there))
  · unfold Desk.Aside
    rw [Desk.stage_restage_ne same]
    exact aside

theorem Desk.Aside.issue {d : Desk} (aside : d.Aside i) (line : List UInt8) :
    (d.issue line).Aside i := by
  cases at_ : (d.issue line).stage i with
  | none => exact .inl at_
  | some stage =>
    rcases Desk.framed_or_old at_ with rfl | old
    · exact .inr (.inl at_)
    · unfold Desk.Aside
      rw [at_, ← old]
      exact aside

/-- Others find the queue no more, and a send has not found it. -/
structure Barred (t : Child) (i : Nat) : Prop where
  shut : t.queueOpen = false
  opened : t.connecting.opened = true
  aside : t.desk.Aside i

theorem Barred.not_queued (barred : t.Barred i) : i ∉ t.queuedBy a := by
  have never : t.desk.stage i ≠ some .admitted := by
    rcases barred.aside with at_ | at_ | at_ <;> simp [at_, SendStage.turnedAway]
  unfold queuedBy
  split
  · split
    · rename_i j at_
      split
      · exact List.not_mem_nil
      · rw [List.mem_singleton]
        rintro rfl
        exact never at_
    · exact List.not_mem_nil
  · exact List.not_mem_nil

theorem Barred.works (barred : t.Barred i) (fits : t.desk.Fits order done rest part)
    (works : Works t a d') : d'.queueOpen = false ∧ d'.Aside i := by
  obtain ⟨shut, opened, aside⟩ := barred
  cases works with
  | quiet | take | write | finish | spawn => exact ⟨shut, aside⟩
  | shut => exact ⟨rfl, aside⟩
  | issue => exact ⟨shut, aside.issue _⟩
  | enter _ open_ => cases shut.symm.trans open_
  | turnAway at_ => exact ⟨shut, aside.turnAway (by simp [at_])⟩
  | enqueue at_ | tooLate at_ => exact ⟨shut, aside.elsewhere at_ (.inl rfl)⟩
  | acknowledge busy => exact ⟨shut, aside.elsewhere (fits.writing busy) (.inr rfl)⟩
  | refuse busy => exact ⟨shut, (aside.elsewhere (fits.writing busy) (.inr rfl)).stop⟩
  | stop => exact ⟨shut, aside.stop⟩
  | publish placed => cases (congrArg Connect.opened placed).symm.trans opened

theorem Barred.step (barred : t.Barred i) (attends : t.Attends order) (h : t.step? a = some t') :
    t'.Barred i := by
  obtain ⟨done, rest, part, fits⟩ := attends.fits
  obtain ⟨shut, aside⟩ := barred.works fits (step_works attends.laid h)
  exact ⟨shut, step_opened attends.orderly h barred.opened, aside⟩

theorem Barred.run (barred : t.Barred i) (attends : t.Attends order) (actions : List Action) :
    (t.run actions).Barred i ∧ i ∉ t.queuedIn actions := by
  induction actions generalizing t order with
  | nil => exact ⟨barred, List.not_mem_nil⟩
  | cons a actions ih =>
    have next : (t.tryStep a).Barred i := by
      unfold Child.tryStep
      cases h : t.step? a with
      | none => exact barred
      | some t' => exact barred.step attends h
    obtain ⟨barred', later⟩ := ih next (attends.tryStep a)
    rw [queuedIn, List.mem_append]
    exact ⟨barred', not_or.mpr ⟨barred.not_queued, later⟩⟩

end Every

/-! ### How a send comes to its end -/

/-- What may help a send on: its own steps and those of the writer. -/
inductive Helps (i : Nat) : Action → Prop
  | enter : Helps i (.enter i)
  | enqueue : Helps i (.enqueue i)
  | take : Helps i .take
  | write {count : Nat} : Helps i (.write count)
  | acknowledge : Helps i .acknowledge

section Serve

variable {t : Child} {order : List Nat} {i j : Nat}

theorem enter_goes (framed : t.desk.stage i = some .framed) :
    (t.tryStep (.enter i)).desk.stage i = some .admitted ∨
      (t.tryStep (.enter i)).desk.stage i = some .turnedAway := by
  obtain ⟨⟨line, stage⟩, there, rfl⟩ := Option.map_eq_some_iff.mp framed
  have found : t.sends[i]? = some ⟨line, .framed⟩ := there
  have here (stage : SendStage) : (t.desk.restage i stage).stage i = some stage :=
    Desk.stage_restage (by simp [framed])
  simp only [tryStep, step?, enter?, found, Option.getD_some, set_restage found]
  split
  · exact .inl (here .admitted)
  · exact .inr (here .turnedAway)

theorem enqueue_goes (admitted : t.desk.stage i = some .admitted) :
    (t.tryStep (.enqueue i)).desk.stage i = some .waiting ∨
      (t.tryStep (.enqueue i)).desk.stage i = some .turnedAway := by
  obtain ⟨⟨line, stage⟩, there, rfl⟩ := Option.map_eq_some_iff.mp admitted
  have found : t.sends[i]? = some ⟨line, .admitted⟩ := there
  have here (stage : SendStage) : (t.desk.restage i stage).stage i = some stage :=
    Desk.stage_restage (by simp [admitted])
  simp only [tryStep, step?, enqueue?, found, Option.getD_some, set_restage found]
  split
  · exact .inr (here .turnedAway)
  · exact .inl (here .waiting)

/-- The writer can write the rest of its line. -/
theorem serves_current {left : List UInt8} (busy : t.writer = .writing j left)
    (there : t.desk.stage j ≠ none) : ∃ steps : List Action, (∀ a ∈ steps, Helps i a) ∧
      (t.run steps).writer = .idle ∧ (t.run steps).queue = t.queue ∧
      (t.run steps).desk.stage j = some .succeeded := by
  have written : (t.tryStep (.write left.length)).writer = .writing j [] ∧
      (t.tryStep (.write left.length)).queue = t.queue ∧
      (t.tryStep (.write left.length)).sends = t.sends := by
    cases left with
    | nil => simp [tryStep, step?, write?, busy]
    | cons b left => simp [tryStep, step?, write?, busy]
  refine ⟨[.write left.length, .acknowledge], ?_, ?_⟩
  · simp only [List.mem_cons, List.not_mem_nil, or_false]
    rintro a (rfl | rfl)
    · exact .write
    · exact .acknowledge
  · obtain ⟨busy', queue, sends⟩ := written
    simp only [run_cons, run_nil]
    generalize t.tryStep (.write left.length) = t' at busy' queue sends
    have there' : t'.desk.stage j ≠ none := by
      rw [show t'.desk.stage j = t.desk.stage j from congrArg (fun l => l[j]?.map Send.stage) sends]
      exact there
    simp only [tryStep, step?, acknowledge?, busy', Option.getD_some]
    exact ⟨rfl, queue, Desk.stage_restage there'⟩

theorem Attends.queue_there (attends : t.Attends order) (idle : t.writer = .idle)
    (queued : j ∈ t.queue) : t.desk.stage j ≠ none := by
  obtain ⟨done, rest, part, fits⟩ := attends.fits
  cases fits.phase with
  | waits _ all =>
    refine fits.there (fits.mem.mpr (.inr ?_))
    rw [all]
    exact queued
  | writes busy => cases idle.symm.trans busy
  | stopped halted => cases idle.symm.trans halted

theorem take_goes {rest : List Nat} (idle : t.writer = .idle) (queue : t.queue = j :: rest)
    (there : t.desk.stage j ≠ none) : (t.tryStep .take).writer = .writing j (t.desk.line j) ∧
      (t.tryStep .take).queue = rest ∧ (t.tryStep .take).desk.stage j = t.desk.stage j := by
  cases found : t.sends[j]? with
  | none => simp [Desk.stage, desk, found] at there
  | some s => simp [tryStep, step?, take?, idle, queue, found, Desk.line, Desk.stage, desk]

/-- The writer can write the lines of all that wait for it. -/
theorem Attends.serves (attends : t.Attends order) (idle : t.writer = .idle)
    (queued : i ∈ t.queue) : ∃ steps : List Action, (∀ a ∈ steps, Helps i a) ∧
      (t.run steps).desk.stage i = some .succeeded := by
  -- On the queue: its first send is served, and the others are nearer the front then.
  induction queue : t.queue generalizing t order with
  | nil =>
    rw [queue] at queued
    cases queued
  | cons j rest ih =>
    have there := attends.queue_there idle (queue ▸ List.mem_cons_self : j ∈ t.queue)
    obtain ⟨busy, left, stays⟩ := take_goes idle queue there
    obtain ⟨steps, helps, idle', queue', succeeded⟩ := serves_current (i := i) busy (stays ▸ there)
    have taken : ∀ a ∈ Action.take :: steps, Helps i a := by
      intro a member
      rcases List.mem_cons.mp member with rfl | later
      · exact .take
      · exact helps a later
    by_cases first : i = j
    · subst first
      exact ⟨.take :: steps, taken, succeeded⟩
    · have later : i ∈ rest := by
        rw [queue] at queued
        exact (List.mem_cons.mp queued).resolve_left first
      have left' : ((t.tryStep .take).run steps).queue = rest := queue'.trans left
      obtain ⟨more, helps', ended⟩ := ih ((attends.tryStep .take).run steps) idle'
        (left'.symm ▸ later) left'
      refine ⟨(.take :: steps) ++ more, fun a member => ?_, ?_⟩
      · rcases List.mem_append.mp member with early | late
        · exact taken a early
        · exact helps' a late
      · rw [run_append]
        exact ended

/-- A send that waits can be served. -/
theorem Attends.serves_waiting (attends : t.Attends order)
    (waiting : t.desk.stage i = some .waiting) : ∃ steps : List Action, (∀ a ∈ steps, Helps i a) ∧
      (t.run steps).desk.stage i = some .succeeded := by
  obtain ⟨done, rest, part, fits⟩ := attends.fits
  have inRest : i ∈ rest := by
    have queued : i ∈ order := by
      by_contra outside
      rcases fits.others outside waiting with wrong | wrong | wrong <;> cases wrong
    refine (fits.mem.mp queued).resolve_left fun written => ?_
    cases (fits.succeeded written).symm.trans waiting
  cases fits.phase with
  | waits manned all =>
    rcases manned with absent | idle
    · exact absurd waiting (attends.unmanned absent).2
    · have queued : i ∈ t.desk.queue := all ▸ inRest
      exact attends.serves idle queued
  | @writes j left busy all whole waits =>
    have there : t.desk.stage j ≠ none := by simp [waits j (all ▸ List.mem_cons_self)]
    obtain ⟨steps, helps, idle', queue', succeeded⟩ := serves_current (i := i) busy there
    by_cases first : i = j
    · subst first
      exact ⟨steps, helps, succeeded⟩
    · have later : i ∈ t.queue := (List.mem_cons.mp (all ▸ inRest)).resolve_left first
      obtain ⟨more, helps', ended⟩ := (attends.run steps).serves idle' (queue'.symm ▸ later)
      refine ⟨steps ++ more, fun a member => ?_, ?_⟩
      · rcases List.mem_append.mp member with early | late
        · exact helps a early
        · exact helps' a late
      · rw [run_append]
        exact ended
  | stopped halted _ ended =>
    rcases ended i inRest with away | ⟨-, failed⟩
    · cases waiting.symm.trans away
    · cases waiting.symm.trans failed

/-- A send can be brought to its end by its own steps and those of the writer. -/
def MayEnd (t : Child) (i : Nat) : Prop :=
  ∃ (steps : List Action) (result : Except Error Unit), (∀ a ∈ steps, Helps i a) ∧
    (t.run steps).desk.stage i = some (.ended result)

theorem MayEnd.of_step {a : Action} (helps : Helps i a) (later : (t.tryStep a).MayEnd i) :
    t.MayEnd i := by
  obtain ⟨steps, result, helps', ended⟩ := later
  refine ⟨a :: steps, result, fun b member => ?_, ended⟩
  rcases List.mem_cons.mp member with rfl | more
  · exact helps
  · exact helps' b more

theorem mayEnd_of_ended {result : Except Error Unit} (ended : t.desk.stage i = some (.ended result)) :
    t.MayEnd i :=
  ⟨[], result, fun _ member => absurd member List.not_mem_nil, ended⟩

theorem Attends.mayEnd_waiting (attends : t.Attends order)
    (waiting : t.desk.stage i = some .waiting) : t.MayEnd i := by
  obtain ⟨steps, helps, succeeded⟩ := attends.serves_waiting waiting
  exact ⟨steps, .ok (), helps, succeeded⟩

theorem Attends.mayEnd_admitted (attends : t.Attends order)
    (admitted : t.desk.stage i = some .admitted) : t.MayEnd i := by
  refine .of_step .enqueue ?_
  rcases enqueue_goes admitted with waiting | away
  · exact (attends.tryStep _).mayEnd_waiting waiting
  · exact mayEnd_of_ended away

theorem Attends.mayEnd (attends : t.Attends order) (there : t.desk.stage i ≠ none) :
    t.MayEnd i := by
  cases at_ : t.desk.stage i with
  | none => exact absurd at_ there
  | some stage =>
    cases stage with
    | framed =>
      refine .of_step .enter ?_
      rcases enter_goes at_ with admitted | away
      · exact (attends.tryStep _).mayEnd_admitted admitted
      · exact mayEnd_of_ended away
    | admitted => exact attends.mayEnd_admitted at_
    | waiting => exact attends.mayEnd_waiting at_
    | ended => exact mayEnd_of_ended at_

end Serve

/-! ### Who stops the writer -/

/-- The steps by which a writer stops that is not done. -/
inductive Cuts (t : Child) : Action → Prop
  | refuse {i : Nat} {left : List UInt8} : t.writer = .writing i left → Cuts t .refuse
  | close {j : Nat} {c : Close} : t.closes[j]? = some c → c.graceful = false →
      c.stage = .stopping true → Cuts t (.advance j)

def Action.line? : Action → Option (List UInt8)
  | .send line => some line
  | _ => none

section Lines

variable {t t' : Child} {d d' : Desk} {a : Action} {i : Nat}

theorem lines_restage {stage : SendStage} :
    (d.restage i stage).sends.map Send.line = d.sends.map Send.line := by
  refine List.ext_getElem? fun j => ?_
  simp only [Desk.restage, List.getElem?_map, List.getElem?_modify]
  split <;> cases d.sends[j]? <;> rfl

theorem lines_stop : d.stop.sends.map Send.line = d.sends.map Send.line := by
  simp only [Desk.stop, List.map_map]
  exact congrArg (fun f => d.sends.map f) (funext Desk.line_giveUp)

theorem Works.lines (works : Works t a d') :
    d'.sends.map Send.line = t.sends.map Send.line ++ a.line?.toList := by
  have none_ (lines : d'.sends.map Send.line = t.sends.map Send.line) (other : a.line? = none) :
      d'.sends.map Send.line = t.sends.map Send.line ++ a.line?.toList := by
    rw [lines, other, Option.toList_none, List.append_nil]
  cases works with
  | quiet _ other =>
    refine none_ rfl ?_
    cases a with
    | send line => exact absurd rfl (other line)
    | _ => rfl
  | issue => exact List.map_append
  | take | write | finish | spawn | publish | shut => exact none_ rfl rfl
  | enter | turnAway | enqueue | tooLate | acknowledge => exact none_ lines_restage rfl
  | refuse => exact none_ (lines_stop.trans lines_restage) rfl
  | stop => exact none_ lines_stop rfl

theorem Attends.lines {order : List Nat} (attends : t.Attends order) (actions : List Action) :
    (t.run actions).sends.map Send.line =
      t.sends.map Send.line ++ actions.filterMap Action.line? := by
  induction actions generalizing t order with
  | nil => exact (List.append_nil _).symm
  | cons a actions ih =>
    have next : (t.tryStep a).sends.map Send.line = t.sends.map Send.line ++ a.line?.toList := by
      unfold Child.tryStep
      cases h : t.step? a with
      | some t' => exact (step_works attends.laid h).lines
      | none =>
        have silent : a.line? = none := by
          cases a with
          | send => cases h
          | _ => rfl
        rw [silent, Option.toList_none, List.append_nil, Option.getD_none]
    rw [run_cons, ih (attends.tryStep a), next, List.append_assoc]
    cases h : a.line? <;> simp [h]

end Lines

section Cut

variable {t : Child} {d' : Desk} {a : Action} {order : List Nat} {i : Nat}

/-- A step stops the writer when it is done, or cuts it off. -/
theorem Works.stops (works : Works t a d') (going : t.writer ≠ .over) (halted : d'.writer = .over) :
    Cuts t a ∨ a = .finish ∧ t.writer = .idle ∧ t.queue = [] := by
  cases works with
  | quiet | issue | enter | turnAway | enqueue | tooLate | publish | shut => exact absurd halted going
  | take | write | acknowledge | spawn => cases halted
  | refuse busy => exact .inl (.refuse busy)
  | stop there abrupt at_ => exact .inl (.close there abrupt at_)
  | finish idle queue => exact .inr ⟨rfl, idle, queue⟩

/-- When nothing waits, every send of the queue has succeeded. -/
theorem Attends.succeeded (attends : t.Attends order) (idle : t.writer = .idle)
    (queue : t.queue = []) (queued : i ∈ order) : t.desk.stage i = some .succeeded := by
  obtain ⟨done, rest, part, fits⟩ := attends.fits
  cases fits.phase with
  | waits _ all =>
    refine fits.succeeded ((fits.mem.mp queued).resolve_right fun left => ?_)
    have none_ : rest = [] := all.trans queue
    rw [none_] at left
    cases left
  | writes busy => cases idle.symm.trans busy
  | stopped halted => cases idle.symm.trans halted

end Cut

/-- Where the writer has stopped, each send of the queue has succeeded, or the writer was cut off. -/
theorem cut_off (command : String) {actions : List Action} {i : Nat}
    (halted : ((new command).run actions).writer = .over)
    (queued : i ∈ (new command).queuedIn actions) :
    ((new command).run actions).desk.stage i = some .succeeded ∨
      ∃ before a after, actions = before ++ a :: after ∧ Cuts ((new command).run before) a := by
  -- From the end of the run: the last action stops the writer, or it has stopped before and the
  -- send was in the queue by then.
  induction actions using List.reverseRecOn with
  | nil => cases halted
  | append_singleton actions a ih =>
    have attends := attends_run command actions
    rw [queuedIn_append, List.mem_append] at queued
    rw [run_append] at halted ⊢
    by_cases stopped : ((new command).run actions).writer = .over
    · rw [(attends.over_run stopped [a]).2.2] at queued
      rcases ih stopped (queued.resolve_right List.not_mem_nil) with succeeded |
        ⟨before, b, after, rfl, cuts⟩
      · exact .inl (attends.ended_run succeeded [a])
      · exact .inr ⟨before, b, after ++ [a], by rw [List.append_assoc, List.cons_append], cuts⟩
    · cases h : ((new command).run actions).step? a with
      | none =>
        rw [run_cons, run_nil, Child.tryStep, h] at halted
        exact absurd halted stopped
      | some t' =>
        have next : ((new command).run actions).run [a] = t' := by
          rw [run_cons, run_nil, Child.tryStep, h, Option.getD_some]
        rw [next] at halted
        rcases (step_works attends.laid h).stops stopped halted with cuts | ⟨rfl, idle, queue⟩
        · exact .inr ⟨actions, a, [], rfl, cuts⟩
        · have earlier : i ∈ (new command).queuedIn actions := by
            have none_ : ((new command).run actions).queuedIn [.finish] = [] := rfl
            rw [none_] at queued
            exact queued.resolve_right List.not_mem_nil
          exact .inl (attends.ended_run (attends.succeeded idle queue earlier) [.finish])

/-! ### All that is written -/

/-- What a run writes to the process, and how its sends end. -/
structure WritesInOrder (command : String) (actions : List Action) : Prop where
  /-- Each send has the line that it was given. -/
  lines : ((new command).run actions).sends.map Send.line = actions.filterMap Action.line?
  /-- What is written are the lines of the sends that have succeeded, as they were queued, and then at
  most a part of the next. -/
  whole : ∃ (done rest : List Nat) (part : List UInt8),
    ((new command).run actions).desk.Fits ((new command).queuedIn actions) done rest part ∧
      ∀ i, ((new command).run actions).desk.stage i = some .succeeded ↔ i ∈ done
  /-- Nothing is written any more when the writer has stopped. -/
  silent {before after : List Action} : actions = before ++ after →
    ((new command).run before).writer = .over →
    ((new command).run actions).written = ((new command).run before).written
  /-- It stops with a line unwritten only if a write fails, or by an immediate close. -/
  cut {i : Nat} : ((new command).run actions).writer = .over → i ∈ (new command).queuedIn actions →
    ((new command).run actions).desk.stage i = some .succeeded ∨
      ∃ before a after, actions = before ++ a :: after ∧ Cuts ((new command).run before) a
  failed {before after : List Action} {i : Nat} {left : List UInt8} :
    actions = before ++ .refuse :: after → ((new command).run before).writer = .writing i left →
    ((new command).run actions).desk.stage i = some .writeFailed
  /-- A send that was not queued before the writer stopped. -/
  late {before after : List Action} {i : Nat} : actions = before ++ after →
    ((new command).run before).writer = .over → i ∉ (new command).queuedIn before →
    i ∉ (new command).queuedIn actions ∧ ∀ result,
      ((new command).run actions).desk.stage i = some (.ended result) →
        result = .error .transportClosed
  /-- A send that had not found the queue when a close took it. -/
  shut {before after : List Action} {i j : Nat} {c : Close} :
    actions = before ++ .advance j :: after → ((new command).run before).closes[j]? = some c →
    c.stage = .marked → ((new command).run before).queueOpen = true →
    ((new command).run before).desk.stage i = none ∨
      ((new command).run before).desk.stage i = some .framed →
    i ∉ (new command).queuedIn actions ∧ ∀ result,
      ((new command).run actions).desk.stage i = some (.ended result) →
        result = .error .transportClosed
  /-- No send is left waiting. -/
  returns {i : Nat} : ((new command).run actions).desk.stage i ≠ none →
    ((new command).run actions).MayEnd i

theorem Attends.turned_away {t : Child} {order : List Nat} {i : Nat} (attends : t.Attends order)
    (outside : i ∉ order) {result : Except Error Unit}
    (ended : t.desk.stage i = some (.ended result)) : result = .error .transportClosed := by
  obtain ⟨done, rest, part, fits⟩ := attends.fits
  rcases fits.others outside ended with wrong | wrong | away
  · cases wrong
  · cases wrong
  · cases away
    rfl

/-- In every run, what is written to the process are lines in the order in which they were queued. -/
theorem writes_in_order (command : String) (actions : List Action) :
    WritesInOrder command actions := by
  have attends := attends_run command actions
  refine ⟨?lines, ?whole, ?silent, cut_off command, ?failed, ?late, ?shut, attends.mayEnd⟩
  case lines => simpa [new] using (new_attends command).lines actions
  case whole =>
    obtain ⟨done, rest, part, fits⟩ := attends.fits
    exact ⟨done, rest, part, fits, fun i => fits.succeeded_iff⟩
  case silent =>
    rintro before after rfl halted
    rw [run_append]
    exact ((attends_run command before).over_run halted after).2.1
  case failed =>
    rintro before after i left rfl busy
    have before_ := attends_run command before
    obtain ⟨done, rest, part, fits⟩ := before_.fits
    have refused : (((new command).run before).tryStep .refuse).desk =
        (((new command).run before).desk.restage i .writeFailed).stop := by
      simp only [tryStep, step?, refuse?, busy, Option.getD_some]
      rfl
    have failed : (((new command).run before).tryStep .refuse).desk.stage i = some .writeFailed := by
      rw [refused, Desk.stage_stop, Desk.stage_restage (by simp [fits.writing busy])]
      rfl
    rw [run_append, run_cons]
    exact (before_.tryStep .refuse).ended_run failed after
  case late =>
    rintro before after i rfl halted outside
    have none_ := ((attends_run command before).over_run halted after).2.2
    have outside' : i ∉ (new command).queuedIn (before ++ after) := by
      rw [queuedIn_append, none_, List.append_nil]
      exact outside
    exact ⟨outside', fun result => attends.turned_away outside'⟩
  case shut =>
    rintro before after i j c rfl there marked open_ early
    have before_ := attends_run command before
    obtain ⟨done, rest, part, fits⟩ := before_.fits
    have barred : (((new command).run before).tryStep (.advance j)).Barred i := by
      obtain ⟨graceful, stage⟩ := c
      subst marked
      simp only [tryStep, step?, there, Option.bind_some, advance?, Option.map_some,
        Option.getD_some]
      exact ⟨rfl, before_.laid.opened open_, early.imp_right .inl⟩
    have outside : i ∉ (new command).queuedIn before := by
      rcases early with none_ | framed
      · exact fun queued => fits.there queued none_
      · exact fits.outside (.inl framed)
    have outside' : i ∉ (new command).queuedIn (before ++ .advance j :: after) := by
      have later := (barred.run (before_.tryStep (.advance j)) after).2
      have none_ : ((new command).run before).queuedBy (.advance j) = [] := rfl
      rw [queuedIn_append, queuedIn, none_, List.nil_append, List.mem_append]
      exact not_or.mpr ⟨outside, later⟩
    exact ⟨outside', fun result => attends.turned_away outside'⟩

end Mcp.Transport.Child
