import Mcp.Proofs.Transport.ChildStatus

/-!
The teardown of a connected transport to a child process. It is in the hands of one close, the first
to claim it, and `Custody` says where the process is while that close goes from stage to stage. When
it has returned, the transport is closed and no process runs. Others that are called after the claim
return at once, so they may return while the process still runs. Main statement: `torn_down_once`.
-/

namespace Mcp.Transport.Child

/-- A transport is closed, and nothing is left of its process. -/
structure Down (t : Child) : Prop where
  status : t.status = .closed
  held : t.held = false
  process : t.process.isRunning = false

/-- Where the process is when the close that tears down is at a stage. -/
def Keeps (t : Child) : CloseStage → Prop
  | .claimed | .marked | .stopping _ | .taking _ => t.held = true
  | .reaping _ => t.held = false
  | .joining _ | .leaving => t.held = false ∧ t.process.isRunning = false
  | .called | .ended => False

/-- In whose hands the process of a connected transport is. -/
inductive Custody (t : Child) : Prop
  | unclaimed : t.released = false → t.held = true → Custody t
  /-- A close tears down. -/
  | underway {i : Nat} {c : Close} : t.closes[i]? = some c → c.busy = true → t.Keeps c.stage →
      Custody t
  | finished : t.face.Settled → t.held = false → t.process.isRunning = false → Custody t

/-- Whether an action is a step of those who connect. -/
def Action.connects : Action → Bool
  | .connect => true
  | .spawn _ => true
  | .place => true
  | .publish => true
  | .complete => true
  | _ => false

/-- Whether a connect has come so far that others find the process. -/
def Connect.places : Connect → Bool
  | .placed => true
  | .published => true
  | .ended (.ok _) => true
  | _ => false

/-- How many steps a close has before it that tears down. -/
def CloseStage.left : CloseStage → Nat
  | .claimed => 7
  | .marked => 6
  | .stopping _ => 5
  | .taking _ => 4
  | .reaping _ => 3
  | .joining _ => 2
  | .leaving => 1
  | .called | .ended => 0

section Closes

variable {f f' : Face} {a : Action} {i j : Nat} {c d : Close}

theorem Close.begun_of_busy (busy : c.busy = true) : c.stage ≠ .called := by
  intro called
  simp [Close.busy, called, CloseStage.tears] at busy

/-- While one close has the teardown in hand, no other has. -/
theorem Face.Orderly.alone (orderly : f.Orderly) (hi : f.closes[i]? = some c)
    (busy : c.busy = true) (hj : f.closes[j]? = some d) (other : j ≠ i) : d.busy = false := by
  have count := Face.countP_moveClose hi .ended Close.busy
  rw [busy, show ({ c with stage := .ended } : Close).busy = false from rfl] at count
  have single := orderly.single
  have none_ : (f.moveClose i c .ended).closes.countP Close.busy = 0 := by
    simp only [Bool.toNat_true, Bool.toNat_false] at count
    omega
  have there : (f.moveClose i c .ended).closes[j]? = some d := by
    simpa [Face.moveClose, Ne.symm other] using hj
  exact Bool.eq_false_iff.mpr (List.countP_eq_zero.mp none_ d (List.mem_of_getElem? there))

theorem Face.Orderly.same_index (orderly : f.Orderly) (hi : f.closes[i]? = some c)
    (busy : c.busy = true) (hj : f.closes[j]? = some d) (busy' : d.busy = true) : j = i := by
  refine Decidable.byContradiction fun other => ?_
  rw [orderly.alone hi busy hj other] at busy'
  cases busy'

/-- A close is where it was after a step that is not its own. -/
theorem Moves.elsewhere (m : Moves f a f') (hi : f.closes[i]? = some c)
    (other : a ≠ .advance i ∧ a ≠ .lapse i) : f'.closes[i]? = some c := by
  obtain ⟨inside, -⟩ := List.getElem?_eq_some_iff.mp hi
  have elsewhere {k : Nat} {e : Close} {stage : CloseStage} (apart : k ≠ i) :
      (f.moveClose k e stage).closes[i]? = some c := by
    simpa [Face.moveClose, apart] using hi
  have apart {k : Nat} (same : a = .advance k ∨ a = .lapse k) : k ≠ i := by
    rintro rfl
    exact same.elim other.1 other.2
  cases m with
  | quiet | connect | fail | prepare | complete | outputEnds => exact hi
  | close => simpa [List.getElem?_append_left inside] using hi
  | claim | pass | forgo | mark | leave => exact elsewhere (apart (.inl rfl))
  | tear _ _ _ whose => exact elsewhere (apart whose)

/-- The step that releases the transport puts the teardown in the hands of a close. -/
theorem Moves.claims (m : Moves f a f') (open_ : f.released = false) (released : f'.released = true) :
    ∃ (i : Nat) (c : Close), f'.closes[i]? = some c ∧ c.busy = true := by
  cases m with
  | @claim i c there =>
    obtain ⟨inside, -⟩ := List.getElem?_eq_some_iff.mp there
    exact ⟨i, { c with stage := .claimed }, by simp [Face.moveClose, inside], rfl⟩
  | quiet | connect | fail | prepare | complete | outputEnds | close | pass | forgo | mark | tear
  | leave => cases open_.symm.trans released

theorem Moves.unclaimed (m : Moves f a f') (open_ : f.released = false)
    (other : ∀ i, a ≠ .advance i) : f'.released = false := by
  cases m with
  | claim => exact absurd rfl (other _)
  | quiet | connect | fail | prepare | complete | outputEnds | close | pass | forgo | mark | tear
  | leave => exact open_

end Closes

/-! ### One step -/

section Step

variable {t t' : Child} {a : Action} {i : Nat} {c : Close}

/-- What a step of those who neither connect nor close leaves. -/
structure SameProcess (t t' : Child) : Prop where
  connecting : t'.connecting = t.connecting
  held : t'.held = t.held
  /-- No process starts. -/
  halted : t.process.isRunning = false → t'.process.isRunning = false
  workersHeld : t'.workersHeld = t.workersHeld
  /-- A close may be called. -/
  closes : ∀ c ∈ t'.closes, c ∈ t.closes ∨ c.stage = .called

theorem step_process (h : t.step? a = some t') (aside : a.connects = false)
    (other : ∀ i, a ≠ .advance i ∧ a ≠ .lapse i) : SameProcess t t' := by
  cases a with
  | advance i => exact absurd rfl (other i).1
  | lapse i => exact absurd rfl (other i).2
  | connect | spawn | place | publish | complete => cases aside
  | enter index =>
    simp only [step?, enter?] at h
    split at h
    · cases h
      split <;> exact ⟨rfl, rfl, id, rfl, fun _ => .inl⟩
    · cases h
  | enqueue index =>
    simp only [step?, enqueue?] at h
    split at h
    · cases h
      split <;> exact ⟨rfl, rfl, id, rfl, fun _ => .inl⟩
    · cases h
  | take =>
    simp only [step?, take?] at h
    split at h
    · obtain ⟨s, -, rfl⟩ := Option.map_eq_some_iff.mp h
      exact ⟨rfl, rfl, id, rfl, fun _ => .inl⟩
    · cases h
  | write count =>
    simp only [step?, write?] at h
    split at h
    · split at h
      · cases h
        exact ⟨rfl, rfl, id, rfl, fun _ => .inl⟩
      · cases h
    · cases h
  | acknowledge =>
    simp only [step?, acknowledge?] at h
    split at h
    · cases h
      exact ⟨rfl, rfl, id, rfl, fun _ => .inl⟩
    · cases h
  | refuse =>
    simp only [step?, refuse?] at h
    split at h
    · cases h
      exact ⟨rfl, rfl, id, rfl, fun _ => .inl⟩
    · cases h
  | finish =>
    simp only [step?, finish?] at h
    split at h
    · split at h
      · cases h
      · cases h
        exact ⟨rfl, rfl, id, rfl, fun _ => .inl⟩
    · cases h
  | outputEnds =>
    simp only [step?] at h
    split at h
    · cases h
      exact ⟨rfl, rfl, id, rfl, fun _ => .inl⟩
    · cases h
  | exit ending =>
    simp only [step?, exit?] at h
    split at h
    · cases h
      exact ⟨rfl, rfl, fun _ => rfl, rfl, fun _ => .inl⟩
    · cases h
  | send =>
    cases h
    exact ⟨rfl, rfl, id, rfl, fun _ => .inl⟩
  | close graceful =>
    cases h
    refine ⟨rfl, rfl, id, rfl, fun c member => ?_⟩
    exact (List.mem_append.mp member).imp_right fun new => by rw [List.mem_singleton.mp new]

theorem isRunning_kill (p : Process) : p.kill.isRunning = false := by
  cases p <;> rfl

theorem getElem?_moveClose (there : t.closes[i]? = some c) {t' : Child} {stage : CloseStage}
    (same : t'.closes = t.closes) :
    (moveClose i c (t', stage)).closes[i]? = some { c with stage } := by
  obtain ⟨inside, -⟩ := List.getElem?_eq_some_iff.mp there
  simp [moveClose, same, inside]

/-- A step of the close that tears down hands the process on as `Keeps` says. -/
theorem advance_keeps {p : Child × CloseStage} (begun : t.status ≠ .disconnected)
    (there : t.closes[i]? = some c) (keeps : t.Keeps c.stage)
    (h : t.advance? c.graceful c.stage = some p) :
    (∃ stage, (moveClose i c p).closes[i]? = some { c with stage } ∧
      ({ c with stage } : Close).busy = true ∧ (moveClose i c p).Keeps stage) ∨
    c.stage = .leaving ∧ t.held = false ∧ t.process.isRunning = false ∧
      (moveClose i c p).held = false ∧ (moveClose i c p).process.isRunning = false := by
  obtain ⟨graceful, stage⟩ := c
  have on {t' : Child} {stage' : CloseStage} (same : t'.closes = t.closes)
      (tears : stage'.tears = true) (keeps' : t'.Keeps stage') :
      ∃ stage'', (moveClose i ⟨graceful, stage⟩ (t', stage')).closes[i]? =
          some ⟨graceful, stage''⟩ ∧
        (⟨graceful, stage''⟩ : Close).busy = true ∧
        (moveClose i ⟨graceful, stage⟩ (t', stage')).Keeps stage'' :=
    ⟨stage', getElem?_moveClose there same, by simp [Close.busy, tears], by
      cases stage' <;> exact keeps'⟩
  cases stage with
  | called | ended => exact keeps.elim
  | claimed =>
    simp only [advance?, if_neg begun, Option.some.injEq] at h
    subst h
    exact .inl (on rfl rfl keeps)
  | marked =>
    cases h
    exact .inl (on rfl rfl keeps)
  | stopping workers =>
    simp only [advance?] at h
    split at h
    · cases h
      exact .inl (on rfl rfl keeps)
    · split at h
      · cases h
        exact .inl (on rfl rfl keeps)
      · split at h
        · cases h
          exact .inl (on rfl rfl keeps)
        · cases h
  | taking workers =>
    have held : t.held = true := keeps
    simp only [advance?, held, Bool.not_true, Bool.false_eq_true, if_false, Option.some.injEq] at h
    subst h
    exact .inl (on rfl rfl rfl)
  | reaping workers =>
    simp only [advance?] at h
    split at h
    · cases h
      exact .inl (on rfl rfl ⟨keeps, isRunning_kill _⟩)
    · split at h
      · cases h
      · rename_i halted
        cases h
        exact .inl (on rfl rfl ⟨keeps, Bool.eq_false_iff.mpr halted⟩)
  | joining workers =>
    simp only [advance?] at h
    split at h
    · cases h
    · cases h
      exact .inl (on rfl rfl keeps)
  | leaving =>
    cases h
    obtain ⟨held, halted⟩ := keeps
    exact .inr ⟨rfl, held, halted, held, halted⟩

theorem lapse_keeps {p : Child × CloseStage} (there : t.closes[i]? = some c)
    (keeps : t.Keeps c.stage) (h : t.lapse? c.stage = some p) :
    ∃ stage, (moveClose i c p).closes[i]? = some { c with stage } ∧
      ({ c with stage } : Close).busy = true ∧ (moveClose i c p).Keeps stage := by
  obtain ⟨graceful, stage⟩ := c
  unfold lapse? at h
  split at h
  · rename_i at_
    cases h
    subst at_
    exact ⟨.taking true, getElem?_moveClose there rfl, rfl, keeps⟩
  · rename_i workers at_
    cases h
    subst at_
    exact ⟨.joining workers, getElem?_moveClose there rfl, rfl, keeps, isRunning_kill _⟩
  · rename_i at_
    cases h
    subst at_
    exact ⟨.leaving, getElem?_moveClose there rfl, rfl, keeps⟩
  · cases h

end Step

/-! ### Every step -/

theorem Moves.connected {f f' : Face} {a : Action} {result : Except Error Unit} (m : Moves f a f')
    (orderly : f.Orderly) (connected : f.connecting = .ended result) :
    f'.connecting = .ended result := by
  cases m with
  | quiet | outputEnds | close | claim | pass | forgo | mark | tear | leave => exact connected
  | connect disconnected => cases (orderly.idle disconnected).symm.trans connected
  | fail begun => cases begun.symm.trans connected
  | complete published => cases published.symm.trans connected
  | prepare underway =>
    rw [connected] at underway
    cases underway

/-- A transport whose connect has succeeded. -/
structure Attended (t : Child) : Prop where
  orderly : t.face.Orderly
  connected : t.connecting = .ended (.ok ())
  custody : t.Custody

section Attended

variable {t t' : Child} {a : Action} {i : Nat} {c : Close}

theorem Attended.keeps (attended : t.Attended) (there : t.closes[i]? = some c)
    (busy : c.busy = true) : t.Keeps c.stage := by
  cases attended.custody with
  | unclaimed open_ =>
    cases open_.symm.trans (attended.orderly.released there (Close.begun_of_busy busy))
  | underway there' busy' keeps =>
    cases attended.orderly.same_index there' busy' there busy
    cases there.symm.trans there'
    exact keeps
  | finished settled => cases busy.symm.trans (settled.closes c (List.mem_of_getElem? there))

theorem Attended.begun (attended : t.Attended) : t.status ≠ .disconnected := by
  intro disconnected
  cases (attended.orderly.idle disconnected).symm.trans attended.connected

/-- Nobody goes on connecting. -/
theorem Attended.not_connects (attended : t.Attended) (h : t.step? a = some t')
    (connects : a.connects = true) : t = t' := by
  have connected := attended.connected
  cases a with
  | spawn | place | publish | complete => simp [step?, connected] at h
  | connect =>
    have refused : t.connectFault? ≠ none := by simp [connectFault?, attended.begun]
    simp only [step?, beginConnect, Option.some.injEq] at h
    split at h
    · contradiction
    · exact h
  | send | enter | enqueue | take | write | acknowledge | refuse | finish | outputEnds | exit
  | close | advance | lapse => cases connects

theorem SameProcess.keeps (same : SameProcess t t') {stage : CloseStage} (keeps : t.Keeps stage) :
    t'.Keeps stage := by
  have held := same.held
  cases stage with
  | called | ended => exact keeps.elim
  | claimed | marked | stopping | taking | reaping => exact held.trans keeps
  | joining | leaving => exact ⟨held.trans keeps.1, same.halted keeps.2⟩

/-- A step that is no close's leaves the process in the hands it is in. -/
theorem Attended.custody_aside (attended : t.Attended) (h : t.step? a = some t')
    (other : ∀ i, a ≠ .advance i ∧ a ≠ .lapse i) : t'.Custody := by
  cases aside : a.connects with
  | true =>
    have untouched := attended.not_connects h aside
    subst untouched
    exact attended.custody
  | false =>
  have moves := step_moves h
  have same := step_process h aside other
  cases attended.custody with
  | unclaimed open_ held =>
    exact .unclaimed (moves.unclaimed open_ fun i => (other i).1) (same.held.trans held)
  | underway there busy keeps =>
    exact .underway (moves.elsewhere there (other _)) busy (same.keeps keeps)
  | finished settled held halted =>
    exact .finished (settled.moves moves) (same.held.trans held) (same.halted halted)

/-- The first close takes the process over; any other leaves it where it is. -/
theorem Attended.custody_called (attended : t.Attended) (there : t.closes[i]? = some c)
    (called : c.stage = .called) {p : Child × CloseStage}
    (h : t.advance? c.graceful c.stage = some p) : (moveClose i c p).Custody := by
  have moves := advance_moves there h
  simp only [called, advance?, Option.some.injEq] at h
  subst h
  cases attended.custody with
  | unclaimed open_ held =>
    simp only [open_, Bool.false_eq_true, if_false]
    exact .underway (getElem?_moveClose there rfl) rfl held
  | @underway j d there' busy keeps =>
    have released := attended.orderly.released there' (Close.begun_of_busy busy)
    have apart : i ≠ j := by
      rintro rfl
      cases there.symm.trans there'
      exact Close.begun_of_busy busy called
    have released' : t.released = true := released
    simp only [released', if_true] at moves ⊢
    have stays := moves.elsewhere there' ⟨by simpa using apart, by simp⟩
    refine .underway stays busy ?_
    revert keeps
    cases d.stage <;> exact id
  | finished settled held halted =>
    have released : t.released = true := settled.released
    simp only [released, if_true] at moves ⊢
    exact .finished (settled.moves moves) held halted

theorem Attended.custody_advance (attended : t.Attended) (there : t.closes[i]? = some c)
    {p : Child × CloseStage} (h : t.advance? c.graceful c.stage = some p) :
    (moveClose i c p).Custody := by
  by_cases called : c.stage = .called
  · exact attended.custody_called there called h
  have busy : c.busy = true := by
    revert h called
    cases at_ : c.stage <;> simp [advance?, Close.busy, at_, CloseStage.tears]
  rcases advance_keeps attended.begun there (attended.keeps there busy) h with
    ⟨stage, there', busy', keeps'⟩ | ⟨leaving, -, -, held, halted⟩
  · exact .underway there' busy' keeps'
  · have alone : t.face.connecting.underway = false := congrArg Connect.underway attended.connected
    have settled := attended.orderly.settles there leaving alone
    rw [leaving] at h
    cases h
    exact .finished settled held halted

theorem Attended.custody_lapse (attended : t.Attended) (there : t.closes[i]? = some c)
    {p : Child × CloseStage} (h : t.lapse? c.stage = some p) : (moveClose i c p).Custody := by
  have busy : c.busy = true := by
    revert h
    cases at_ : c.stage <;> simp [lapse?, Close.busy, at_, CloseStage.tears]
  obtain ⟨stage, there', busy', keeps'⟩ := lapse_keeps there (attended.keeps there busy) h
  exact .underway there' busy' keeps'

theorem Attended.step (attended : t.Attended) (h : t.step? a = some t') : t'.Attended where
  orderly := attended.orderly.moves (step_moves h)
  connected := (step_moves h).connected attended.orderly attended.connected
  custody := by
    cases a with
    | advance i =>
      obtain ⟨c, there, h⟩ := Option.bind_eq_some_iff.mp h
      obtain ⟨p, goes, rfl⟩ := Option.map_eq_some_iff.mp h
      exact attended.custody_advance there goes
    | lapse i =>
      obtain ⟨c, there, h⟩ := Option.bind_eq_some_iff.mp h
      split at h
      · obtain ⟨p, goes, rfl⟩ := Option.map_eq_some_iff.mp h
        exact attended.custody_lapse there goes
      · cases h
    | connect | spawn | place | publish | complete | send | enter | enqueue | take | write
    | acknowledge | refuse | finish | outputEnds | exit | close =>
      exact attended.custody_aside h fun _ => ⟨nofun, nofun⟩

theorem Attended.run (attended : t.Attended) (actions : List Action) : (t.run actions).Attended := by
  induction actions generalizing t with
  | nil => exact attended
  | cons a actions ih =>
    refine ih ?_
    unfold tryStep
    cases h : t.step? a with
    | none => exact attended
    | some t' => exact attended.step h

end Attended

/-! ### The one that tears down -/

/-- Whether a close has the teardown in hand at some time of a run. -/
def Performs (t : Child) (actions : List Action) (i : Nat) : Prop :=
  ∃ first rest c, actions = first ++ rest ∧ (t.run first).closes[i]? = some c ∧ c.busy = true

/-- No close has the teardown in hand, or can claim it, but the one with an index. -/
structure Face.Sole (f : Face) (i : Nat) : Prop where
  released : f.released = true
  others {j : Nat} {d : Close} : f.closes[j]? = some d → d.busy = true → j = i

section Sole

variable {t : Child} {f f' : Face} {a : Action} {actions : List Action} {i j : Nat} {c d : Close}

theorem Face.Sole.moveClose (sole : f.Sole i) {k : Nat} {stage : CloseStage}
    (there : f.closes[k]? = some c) (hj : (f.moveClose k c stage).closes[j]? = some d)
    (busyj : d.busy = true) (busy : ({ c with stage } : Close).busy = true → c.busy = true) :
    j = i := by
  by_cases same : k = j
  · subst same
    obtain ⟨inside, -⟩ := List.getElem?_eq_some_iff.mp there
    have moved : some ({ c with stage } : Close) = some d := by
      simpa [Face.moveClose, inside] using hj
    cases moved
    exact sole.others there (busy busyj)
  · have stayed : f.closes[j]? = some d := by simpa [Face.moveClose, same] using hj
    exact sole.others stayed busyj

theorem Face.Sole.moves (sole : f.Sole i) (m : Moves f a f') : f'.Sole i := by
  refine ⟨m.released sole.released, fun {j d} hj busy => ?_⟩
  cases m with
  | quiet | connect | fail | prepare | complete | outputEnds => exact sole.others hj busy
  | @close graceful =>
    have there : j < f.closes.length ∨ d = ⟨graceful, .called⟩ := by
      rw [List.getElem?_append] at hj
      split at hj
      · exact .inl ‹_›
      · exact .inr (List.mem_singleton.mp (List.mem_of_getElem? hj))
    rcases there with inside | rfl
    · rw [List.getElem?_append_left inside] at hj
      exact sole.others hj busy
    · cases busy
  | claim _ _ open_ => cases open_.symm.trans sole.released
  | pass there | forgo there | leave there => exact sole.moveClose there hj busy nofun
  | mark there claimed =>
    exact sole.moveClose there hj busy fun _ => by simp [Close.busy, claimed]
  | tear there tears =>
    exact sole.moveClose there hj busy fun _ => by simp [Close.busy, tears]

theorem Face.Orderly.sole (orderly : f.Orderly) (there : f.closes[i]? = some c)
    (busy : c.busy = true) : f.Sole i :=
  ⟨orderly.released there (Close.begun_of_busy busy),
    fun there' busy' => orderly.same_index there busy there' busy'⟩

theorem Attended.sole (attended : t.Attended) (performs : Performs t actions i) :
    (t.run actions).face.Sole i := by
  obtain ⟨first, rest, c, rfl, there, busy⟩ := performs
  rw [run_append]
  exact run_keeps Face.Sole.moves ((attended.run first).orderly.sole there busy) rest

theorem Attended.performs_unique (attended : t.Attended) (hi : Performs t actions i)
    (hj : Performs t actions j) : j = i := by
  -- The later of the two finds the earlier alone in possession.
  have later {first : List Action} {k l : Nat} {e : Close} (hk : Performs t first k)
      (there : (t.run first).closes[l]? = some e) (busy : e.busy = true) : l = k :=
    (attended.sole hk).others there busy
  obtain ⟨first, rest, c, rfl, therei, busyi⟩ := hi
  obtain ⟨first', rest', d, split, therej, busyj⟩ := hj
  rcases List.append_eq_append_iff.mp split with ⟨between, rfl, -⟩ | ⟨between, rfl, -⟩
  · exact later ⟨first, between, c, rfl, therei, busyi⟩ therej busyj
  · exact (later ⟨first', between, d, rfl, therej, busyj⟩ therei busyi).symm

/-- A close has the teardown in hand as soon as the transport is released. -/
theorem exists_performs (open_ : t.released = false) (released : (t.run actions).released = true) :
    ∃ i, Performs t actions i := by
  induction actions generalizing t with
  | nil => cases open_.symm.trans released
  | cons a actions ih =>
    cases next : (t.tryStep a).released with
    | false =>
      obtain ⟨i, first, rest, c, rfl, there, busy⟩ := ih next released
      exact ⟨i, a :: first, rest, c, rfl, there, busy⟩
    | true =>
      rcases t.tryStep_moves a with moves | ⟨-, same⟩
      · obtain ⟨i, c, there, busy⟩ := moves.claims open_ next
        exact ⟨i, [a], actions, c, rfl, there, busy⟩
      · rw [same] at next
        cases open_.symm.trans next

end Sole

/-! ### How it ends -/

section Ends

variable {t : Child} {actions : List Action} {i : Nat} {c : Close}

theorem called_or_ended (idle : c.busy = false) : c.stage = .called ∨ c.stage = .ended := by
  revert idle
  cases at_ : c.stage <;> simp [Close.busy, at_, CloseStage.tears]

/-- A close that has returned leaves the teardown done or in the hands of another. -/
theorem Attended.returned (attended : t.Attended) (there : t.closes[i]? = some c)
    (ended : c.stage = .ended) :
    t.Down ∨ ∃ (j : Nat) (d : Close), j ≠ i ∧ t.closes[j]? = some d ∧ d.busy = true := by
  cases attended.custody with
  | unclaimed open_ =>
    have released := attended.orderly.released there (by simp [ended])
    cases open_.symm.trans released
  | @underway j d there' busy =>
    refine .inr ⟨j, d, ?_, there', busy⟩
    rintro rfl
    cases there.symm.trans there'
    simp [Close.busy, ended, CloseStage.tears] at busy
  | finished settled held halted => exact .inl ⟨settled.status, held, halted⟩

theorem Attended.down (attended : t.Attended) (sole : t.face.Sole i) (there : t.closes[i]? = some c)
    (ended : c.stage = .ended) : t.Down := by
  rcases attended.returned there ended with down | ⟨j, d, other, there', busy⟩
  · exact down
  · exact absurd (sole.others there' busy) other

/-- The close that tears down has a next step, whatever the process does. -/
theorem Attended.goes_on (attended : t.Attended) (there : t.closes[i]? = some c)
    (busy : c.busy = true) :
    ∃ (a : Action) (d : Close), (a = .advance i ∨ a = .lapse i) ∧
      (t.tryStep a).closes[i]? = some d ∧ (d.busy = true ∨ d.stage = .ended) ∧
      d.stage.left < c.stage.left := by
  obtain ⟨graceful, stage⟩ := c
  have advances {t' : Child} {stage' : CloseStage} (h : t.advance? graceful stage = some (t', stage'))
      (same : t'.closes = t.closes) :
      (t.tryStep (.advance i)).closes[i]? = some ⟨graceful, stage'⟩ := by
    simp only [tryStep, step?, there, Option.bind_some, h, Option.map_some, Option.getD_some]
    exact getElem?_moveClose there same
  have lapses {t' : Child} {stage' : CloseStage} (patient : graceful = true)
      (h : t.lapse? stage = some (t', stage')) (same : t'.closes = t.closes) :
      (t.tryStep (.lapse i)).closes[i]? = some ⟨graceful, stage'⟩ := by
    subst patient
    simp only [tryStep, step?, there, Option.bind_some, if_true, h, Option.map_some,
      Option.getD_some]
    exact getElem?_moveClose there same
  have keeps := attended.keeps there busy
  have less : ∀ {m n : Nat}, m + 1 = n → m < n := fun h => h ▸ Nat.lt_succ_self _
  cases stage with
  | called | ended => exact keeps.elim
  | claimed =>
    have h : t.advance? graceful .claimed = some ({ t with status := .closing }, .marked) := by
      simp [advance?, attended.begun]
    exact ⟨_, _, .inl rfl, advances h rfl, .inl rfl, less rfl⟩
  | marked => exact ⟨_, _, .inl rfl, advances rfl rfl, .inl rfl, less rfl⟩
  | stopping workers =>
    cases workers with
    | false => exact ⟨_, _, .inl rfl, advances rfl rfl, .inl rfl, less rfl⟩
    | true =>
      cases graceful with
      | false => exact ⟨_, _, .inl rfl, advances rfl rfl, .inl rfl, less rfl⟩
      | true => exact ⟨_, _, .inr rfl, lapses rfl rfl rfl, .inl rfl, less rfl⟩
  | taking workers =>
    have held : t.held = true := keeps
    have h : t.advance? graceful (.taking workers) = some ({ t with
        held := false
        process := if graceful then t.process.ask else t.process }, .reaping workers) := by
      simp [advance?, held]
    exact ⟨_, _, .inl rfl, advances h rfl, .inl rfl, less rfl⟩
  | reaping workers =>
    cases graceful with
    | false => exact ⟨_, _, .inl rfl, advances rfl rfl, .inl rfl, less rfl⟩
    | true => exact ⟨_, _, .inr rfl, lapses rfl rfl rfl, .inl rfl, less rfl⟩
  | joining workers =>
    cases workers with
    | false =>
      have h : t.advance? graceful (.joining false) = some (t, .leaving) := by simp [advance?]
      exact ⟨_, _, .inl rfl, advances h rfl, .inl rfl, less rfl⟩
    | true =>
      cases graceful with
      | false => exact ⟨_, _, .inl rfl, advances rfl rfl, .inl rfl, less rfl⟩
      | true => exact ⟨_, _, .inr rfl, lapses rfl rfl rfl, .inl rfl, less rfl⟩
  | leaving => exact ⟨_, _, .inl rfl, advances rfl rfl, .inr rfl, less rfl⟩

theorem Attended.ends (attended : t.Attended) (there : t.closes[i]? = some c)
    (busy : c.busy = true) :
    ∃ (steps : List Action) (d : Close), steps.length ≤ c.stage.left ∧
      (∀ a ∈ steps, a = .advance i ∨ a = .lapse i) ∧
      (t.run steps).closes[i]? = some d ∧ d.stage = .ended := by
  induction left : c.stage.left using Nat.strongRecOn generalizing t c with
  | ind n ih =>
  subst left
  obtain ⟨a, d, own, there', far, less⟩ := attended.goes_on there busy
  rcases far with busy' | ended
  · obtain ⟨steps, e, short, owns, there'', ended⟩ := ih _ less (attended.run [a]) there' busy' rfl
    refine ⟨a :: steps, e, ?_, ?_, there'', ended⟩
    · rw [List.length_cons]
      omega
    · intro b member
      rcases List.mem_cons.mp member with rfl | later
      · exact own
      · exact owns b later
  · refine ⟨[a], d, ?_, ?_, there', ended⟩
    · rw [List.length_singleton]
      omega
    · intro b member
      rw [List.mem_singleton.mp member]
      exact own

theorem CloseStage.left_le (stage : CloseStage) : stage.left ≤ 7 := by
  cases stage <;> simp [left]

end Ends

/-! ### When a connect has succeeded -/

section Connected

variable {t t' : Child} {a : Action}

/-- Who connects lets others find the process, and none but a close takes it. -/
theorem step_held (orderly : t.face.Orderly) (h : t.step? a = some t')
    (was : t.released = false → t.connecting.places = true → t.held = true)
    (open_' : t'.released = false) (places : t'.connecting.places = true) : t'.held = true := by
  have moves := step_moves h
  have open_ : t.released = false := by
    rw [← Bool.not_eq_true]
    intro released
    cases open_'.symm.trans (moves.released released)
  have untouched {i : Nat} {c : Close} (there : t.closes[i]? = some c) : c.stage = .called :=
    orderly.unclaimed open_ c (List.mem_of_getElem? there)
  cases a with
  | place =>
    simp only [step?] at h
    split at h <;> cases h
    rfl
  | spawn succeeds =>
    simp only [step?] at h
    split at h
    · cases h
      cases succeeds <;> cases places
    · cases h
  | connect =>
    simp only [step?, beginConnect, Option.some.injEq] at h
    subst h
    split at places
    · cases places
    · exact was open_ places
  | publish =>
    simp only [step?] at h
    split at h
    · rename_i placed
      cases h
      exact was open_ (congrArg Connect.places placed)
    · cases h
  | complete =>
    simp only [step?] at h
    split at h
    · rename_i published
      cases h
      exact was open_ (congrArg Connect.places published)
    · cases h
  | advance i =>
    obtain ⟨c, there, h⟩ := Option.bind_eq_some_iff.mp h
    obtain ⟨p, goes, rfl⟩ := Option.map_eq_some_iff.mp h
    simp only [untouched there, advance?, open_, Bool.false_eq_true, if_false,
      Option.some.injEq] at goes
    subst goes
    cases open_'
  | lapse i =>
    obtain ⟨c, there, h⟩ := Option.bind_eq_some_iff.mp h
    rw [untouched there] at h
    split at h <;> cases h
  | send | enter | enqueue | take | write | acknowledge | refuse | finish | outputEnds | exit
  | close =>
    have same := step_process h rfl fun _ => ⟨by simp, by simp⟩
    rw [same.connecting] at places
    exact same.held.trans (was open_ places)

theorem run_held (orderly : t.face.Orderly)
    (was : t.released = false → t.connecting.places = true → t.held = true) (actions : List Action)
    (open_ : (t.run actions).released = false)
    (places : (t.run actions).connecting.places = true) : (t.run actions).held = true := by
  induction actions generalizing t with
  | nil => exact was open_ places
  | cons a actions ih =>
    refine ih (run_keeps Face.Orderly.moves orderly [a]) ?_ open_ places
    unfold tryStep
    cases h : t.step? a with
    | none => exact was
    | some t' => exact step_held orderly h was

theorem attended_of_connected {command : String} {actions : List Action}
    (connected : ((new command).run actions).connecting = .ended (.ok ()))
    (unclosed : ((new command).run actions).released = false) :
    ((new command).run actions).Attended where
  orderly := run_orderly command actions
  connected := connected
  custody := .unclaimed unclosed
    (run_held (new_orderly command) (fun _ => nofun) actions unclosed
      (congrArg Connect.places connected))

end Connected

/-- How a transport is torn down by the calls of a run that close it. -/
structure TornDownOnce (t : Child) (actions : List Action) : Prop where
  /-- As soon as a call has done anything, one of all calls has had the teardown in hand. -/
  performed {k : Nat} {c : Close} : (t.run actions).closes[k]? = some c → c.stage ≠ .called →
    ∃ i, Performs t actions i
  sole {i j : Nat} : Performs t actions i → Performs t actions j → j = i
  /-- Any other call does nothing but return. -/
  aside {i k : Nat} {c : Close} : Performs t actions i → (t.run actions).closes[k]? = some c →
    k ≠ i → c.stage = .called ∨ c.stage = .ended
  /-- A call that has returned has left the transport closed, without a running process, or has left
  that to the call that still tears down. -/
  returned {k : Nat} {c : Close} : (t.run actions).closes[k]? = some c → c.stage = .ended →
    (t.run actions).Down ∨ ∃ (i : Nat) (d : Close), i ≠ k ∧ Performs t actions i ∧
      (t.run actions).closes[i]? = some d ∧ d.busy = true
  down {i : Nat} {c : Close} : Performs t actions i → (t.run actions).closes[i]? = some c →
    c.stage = .ended → (t.run actions).Down
  /-- Whatever the process does, the call that tears down can return, by at most seven steps. -/
  ends {i : Nat} {c : Close} : (t.run actions).closes[i]? = some c → c.busy = true →
    ∃ (steps : List Action) (d : Close), steps.length ≤ 7 ∧
      (∀ a ∈ steps, a = .advance i ∨ a = .lapse i) ∧
      (t.run (actions ++ steps)).closes[i]? = some d ∧ d.stage = .ended ∧
      (t.run (actions ++ steps)).Down

/-- A connected transport is torn down by one call, and closed when that has returned. -/
theorem torn_down_once (command : String) (before after : List Action)
    (connected : ((new command).run before).connecting = .ended (.ok ()))
    (unclosed : ((new command).run before).released = false) :
    TornDownOnce ((new command).run before) after := by
  have start := attended_of_connected connected unclosed
  have attended := start.run after
  have underway {i : Nat} {c : Close}
      (there : (((new command).run before).run after).closes[i]? = some c)
      (busy : c.busy = true) : Performs ((new command).run before) after i :=
    ⟨after, [], c, (List.append_nil after).symm, there, busy⟩
  refine ⟨?performed, start.performs_unique, ?aside, ?returned, ?down, ?ends⟩
  case performed =>
    intro k c there begun
    exact exists_performs unclosed (attended.orderly.released there begun)
  case aside =>
    intro i k c performs there other
    refine called_or_ended (Bool.eq_false_iff.mpr fun busy => ?_)
    exact other ((start.sole performs).others there busy)
  case returned =>
    intro k c there ended
    rcases attended.returned there ended with down | ⟨i, d, other, there', busy⟩
    · exact .inl down
    · exact .inr ⟨i, d, other, underway there' busy, there', busy⟩
  case down =>
    intro i c performs there ended
    exact attended.down (start.sole performs) there ended
  case ends =>
    intro i c there busy
    obtain ⟨steps, d, short, own, there', ended⟩ := attended.ends there busy
    have sole := run_keeps Face.Sole.moves (attended.orderly.sole there busy) steps
    have down := (attended.run steps).down sole there' ended
    refine ⟨steps, d, Nat.le_trans short c.stage.left_le, own, ?_⟩
    rw [run_append]
    exact ⟨there', ended, down⟩

/-- A graceful close waits for a process that ignores being asked while an immediate one is called;
then it loses patience. -/
theorem patience_ends_torn_down : ∃ before after : List Action,
    ((new "server").run before).connecting = .ended (.ok ()) ∧
      ((new "server").run before).released = false ∧
      TornDownOnce ((new "server").run before) after ∧
      (((new "server").run before).run after).closes = [⟨true, .ended⟩, ⟨false, .ended⟩] :=
  ⟨[.connect, .spawn true, .place, .publish, .complete],
    [.close true, .advance 0, .advance 0, .advance 0, .finish, .advance 0, .advance 0, .close false,
      .advance 1, .lapse 0, .outputEnds, .advance 0, .advance 0],
    rfl, rfl, torn_down_once "server" _ _ rfl rfl, rfl⟩

/-- That a close has torn down when it returns is too much to say: one that is called while a
graceful close waits, for the writer or for the process, returns before the process is killed. -/
theorem close_may_return_early : ∃ connected writing waiting : List Action,
    ((new "server").run connected).status = .connected ∧
    (((new "server").run connected).run writing).closes = [⟨true, .stopping true⟩, ⟨false, .ended⟩] ∧
      (((new "server").run connected).run writing).status = .closing ∧
      (((new "server").run connected).run writing).held = true ∧
      (((new "server").run connected).run writing).process = .running false ∧
    (((new "server").run connected).run waiting).closes = [⟨true, .reaping true⟩, ⟨false, .ended⟩] ∧
      (((new "server").run connected).run waiting).status = .closing ∧
      (((new "server").run connected).run waiting).process = .running true :=
  ⟨[.connect, .spawn true, .place, .publish, .complete],
    [.close true, .advance 0, .advance 0, .advance 0, .close false, .advance 1],
    [.close true, .advance 0, .advance 0, .advance 0, .finish, .advance 0, .advance 0, .close false,
      .advance 1],
    rfl, rfl, rfl, rfl, rfl, rfl, rfl, rfl⟩

end Mcp.Transport.Child
