import Mcp.Transport.Child

/-!
What the steps of a transport to a child process do to its status, its connect and its closes
(`Face`). `Moves` lists everything that a step can do to them. In every run no close has claimed the
teardown before the transport is released, and at most one close has it in hand (`Orderly`).
-/

namespace Mcp.Transport.Child

/-- The state after some steps. One that cannot be taken changes nothing. -/
def run (t : Child) (actions : List Action) : Child := actions.foldl tryStep t

@[simp] theorem run_nil (t : Child) : t.run [] = t := rfl

@[simp] theorem run_cons (t : Child) (a : Action) (actions : List Action) :
    t.run (a :: actions) = (t.tryStep a).run actions := rfl

theorem run_append (t : Child) (before after : List Action) :
    t.run (before ++ after) = (t.run before).run after := List.foldl_append ..

/-- Whether somebody is in the course of connecting. -/
def Connect.underway : Connect → Bool
  | .begun => true
  | .spawned => true
  | .placed => true
  | .published => true
  | .idle => false
  | .ended _ => false

/-- Whether a close has set the status and has not come to its end. -/
def CloseStage.tears : CloseStage → Bool
  | .marked => true
  | .stopping _ => true
  | .taking _ => true
  | .reaping _ => true
  | .joining _ => true
  | .leaving => true
  | .called => false
  | .claimed => false
  | .ended => false

/-- What connects and closes have to do with each other. -/
structure Face where
  status : Status
  connecting : Connect
  released : Bool
  closes : List Close

def face (t : Child) : Face := ⟨t.status, t.connecting, t.released, t.closes⟩

/-- The face after the close with an index has come to a stage. -/
def Face.moveClose (f : Face) (index : Nat) (c : Close) (stage : CloseStage) : Face :=
  { f with closes := f.closes.set index { c with stage } }

/-- What a step can do. -/
inductive Moves (f : Face) : Action → Face → Prop
  | quiet {a : Action} : a ≠ .complete → (∀ i, a ≠ .advance i) → Moves f a f
  | connect : f.status = .disconnected →
      Moves f .connect { f with status := .connecting, connecting := .begun }
  | fail {e : Error} : f.connecting = .begun →
      Moves f (.spawn false) { f with status := .closed, connecting := .ended (.error e) }
  /-- A connect goes on, but not to its end. -/
  | prepare {a : Action} {stage : Connect} : f.connecting.underway = true →
      stage.underway = true → a ≠ .complete → (∀ i, a ≠ .advance i) →
      Moves f a { f with connecting := stage }
  | complete : f.connecting = .published →
      Moves f .complete { f with status := .connected, connecting := .ended (.ok ()) }
  | outputEnds : f.status = .connected → Moves f .outputEnds { f with status := .closed }
  | close {graceful : Bool} :
      Moves f (.close graceful) { f with closes := f.closes ++ [⟨graceful, .called⟩] }
  | claim {i : Nat} {c : Close} : f.closes[i]? = some c → c.stage = .called →
      f.released = false → Moves f (.advance i) { f.moveClose i c .claimed with released := true }
  /-- Another close has claimed the teardown. -/
  | pass {i : Nat} {c : Close} : f.closes[i]? = some c → c.stage = .called →
      f.released = true → Moves f (.advance i) (f.moveClose i c .ended)
  /-- There is nothing to tear down. -/
  | forgo {i : Nat} {c : Close} : f.closes[i]? = some c → c.stage = .claimed →
      f.status = .disconnected →
      Moves f (.advance i) { f.moveClose i c .ended with status := .closed }
  | mark {i : Nat} {c : Close} : f.closes[i]? = some c → c.stage = .claimed →
      f.status ≠ .disconnected →
      Moves f (.advance i) { f.moveClose i c .marked with status := .closing }
  | tear {a : Action} {i : Nat} {c : Close} {stage : CloseStage} : f.closes[i]? = some c →
      c.stage.tears = true → stage.tears = true → a = .advance i ∨ a = .lapse i →
      Moves f a (f.moveClose i c stage)
  | leave {i : Nat} {c : Close} : f.closes[i]? = some c → c.stage = .leaving →
      Moves f (.advance i) { f.moveClose i c .ended with status := .closed }

section Steps

variable {t t' : Child}

theorem advance_moves {i : Nat} {c : Close} {p : Child × CloseStage}
    (there : t.closes[i]? = some c) (h : t.advance? c.graceful c.stage = some p) :
    Moves t.face (.advance i) (moveClose i c p).face := by
  obtain ⟨graceful, stage⟩ := c
  have tear {t' : Child} {stage' : CloseStage} (same : t'.face = t.face)
      (before : stage.tears = true) (after : stage'.tears = true) :
      Moves t.face (.advance i) (moveClose i ⟨graceful, stage⟩ (t', stage')).face := by
    have moved : (moveClose i ⟨graceful, stage⟩ (t', stage')).face =
        t'.face.moveClose i ⟨graceful, stage⟩ stage' := rfl
    rw [moved, same]
    exact .tear there before after (.inl rfl)
  cases stage with
  | called =>
    simp only [advance?, Option.some.injEq] at h
    subst h
    split
    · rename_i released
      exact .pass there rfl released
    · rename_i open_
      exact .claim there rfl (Bool.eq_false_iff.mpr open_)
  | claimed =>
    simp only [advance?, Option.some.injEq] at h
    subst h
    split
    · rename_i disconnected
      exact .forgo there rfl disconnected
    · rename_i begun
      exact .mark there rfl begun
  | marked =>
    cases h
    exact tear rfl rfl rfl
  | stopping workers =>
    simp only [advance?] at h
    split at h
    · cases h
      exact tear rfl rfl rfl
    · split at h
      · cases h
        exact tear rfl rfl rfl
      · split at h
        · cases h
          exact tear rfl rfl rfl
        · cases h
  | taking workers =>
    simp only [advance?, Option.some.injEq] at h
    subst h
    split <;> exact tear rfl rfl rfl
  | reaping workers =>
    simp only [advance?] at h
    split at h
    · cases h
      exact tear rfl rfl rfl
    · split at h
      · cases h
      · cases h
        exact tear rfl rfl rfl
  | joining workers =>
    simp only [advance?] at h
    split at h
    · cases h
    · cases h
      exact tear rfl rfl rfl
  | leaving =>
    cases h
    exact .leave there rfl
  | ended => cases h

theorem lapse_moves {i : Nat} {c : Close} {p : Child × CloseStage}
    (there : t.closes[i]? = some c) (h : t.lapse? c.stage = some p) :
    Moves t.face (.lapse i) (moveClose i c p).face := by
  obtain ⟨graceful, stage⟩ := c
  unfold lapse? at h
  split at h
  · rename_i at_
    cases h
    exact .tear there (congrArg CloseStage.tears at_) rfl (.inr rfl)
  · rename_i workers at_
    cases h
    exact .tear there (congrArg CloseStage.tears at_) rfl (.inr rfl)
  · rename_i at_
    cases h
    exact .tear there (congrArg CloseStage.tears at_) rfl (.inr rfl)
  · cases h

/-- A step does nothing but what `Moves` lists. -/
theorem step_moves {a : Action} (h : t.step? a = some t') : Moves t.face a t'.face := by
  have quiet (same : t'.face = t.face) (one : a ≠ .complete) (other : ∀ i, a ≠ .advance i) :
      Moves t.face a t'.face := by
    rw [same]
    exact .quiet one other
  cases a with
  | connect =>
    simp only [step?, Option.some.injEq] at h
    subst h
    unfold beginConnect connectFault?
    by_cases idle : t.status = .disconnected
    · simp only [if_pos idle]
      exact .connect idle
    · simp only [if_neg idle]
      exact .quiet (by simp) (by simp)
  | spawn succeeds =>
    simp only [step?] at h
    split at h
    · rename_i begun
      cases h
      cases succeeds with
      | true => exact .prepare (congrArg Connect.underway begun) rfl (by simp) (by simp)
      | false => exact .fail begun
    · cases h
  | place =>
    simp only [step?] at h
    split at h
    · rename_i spawned
      cases h
      exact .prepare (congrArg Connect.underway spawned) rfl (by simp) (by simp)
    · cases h
  | publish =>
    simp only [step?] at h
    split at h
    · rename_i placed
      cases h
      exact .prepare (congrArg Connect.underway placed) rfl (by simp) (by simp)
    · cases h
  | complete =>
    simp only [step?] at h
    split at h
    · rename_i published
      cases h
      exact .complete published
    · cases h
  | send line =>
    cases h
    exact quiet rfl (by simp) (by simp)
  | enter index =>
    simp only [step?, enter?] at h
    split at h
    · cases h
      refine quiet ?_ (by simp) (by simp)
      split <;> rfl
    · cases h
  | enqueue index =>
    simp only [step?, enqueue?] at h
    split at h
    · cases h
      refine quiet ?_ (by simp) (by simp)
      split <;> rfl
    · cases h
  | take =>
    simp only [step?, take?] at h
    split at h
    · obtain ⟨s, -, rfl⟩ := Option.map_eq_some_iff.mp h
      exact quiet rfl (by simp) (by simp)
    · cases h
  | write count =>
    simp only [step?, write?] at h
    split at h
    · split at h
      · cases h
        exact quiet rfl (by simp) (by simp)
      · cases h
    · cases h
  | acknowledge =>
    simp only [step?, acknowledge?] at h
    split at h
    · cases h
      exact quiet rfl (by simp) (by simp)
    · cases h
  | refuse =>
    simp only [step?, refuse?] at h
    split at h
    · cases h
      exact quiet rfl (by simp) (by simp)
    · cases h
  | finish =>
    simp only [step?, finish?] at h
    split at h
    · split at h
      · cases h
      · cases h
        exact quiet rfl (by simp) (by simp)
    · cases h
  | outputEnds =>
    simp only [step?] at h
    split at h
    · cases h
      by_cases connected : t.status = .connected
      · have closed : t.outputEnded.face = { t.face with status := .closed } := by
          simp only [outputEnded, face, if_pos connected]
        rw [closed]
        exact .outputEnds connected
      · refine quiet ?_ (by simp) (by simp)
        simp only [outputEnded, face, if_neg connected]
    · cases h
  | exit ending =>
    simp only [step?, exit?] at h
    split at h
    · cases h
      exact quiet rfl (by simp) (by simp)
    · cases h
  | close graceful =>
    cases h
    exact .close
  | advance i =>
    obtain ⟨c, there, h⟩ := Option.bind_eq_some_iff.mp h
    obtain ⟨p, goes, rfl⟩ := Option.map_eq_some_iff.mp h
    exact advance_moves there goes
  | lapse i =>
    obtain ⟨c, there, h⟩ := Option.bind_eq_some_iff.mp h
    split at h
    · obtain ⟨p, goes, rfl⟩ := Option.map_eq_some_iff.mp h
      exact lapse_moves there goes
    · cases h

theorem tryStep_moves (t : Child) (a : Action) :
    Moves t.face a (t.tryStep a).face ∨ (t.step? a = none ∧ t.tryStep a = t) := by
  unfold tryStep
  cases h : t.step? a with
  | none => exact .inr ⟨rfl, rfl⟩
  | some t' => exact .inl (step_moves h)

end Steps

/-! ### What holds in every run -/

/-- Whether a close has the teardown in hand. -/
def Close.busy (c : Close) : Bool := c.stage = .claimed || c.stage.tears

/-- How connects and closes stand to each other. -/
structure Face.Orderly (f : Face) : Prop where
  idle : f.status = .disconnected → f.connecting = .idle
  /-- Before the first close claims the teardown, none has done anything. -/
  unclaimed : f.released = false → ∀ c ∈ f.closes, c.stage = .called
  early : f.released = false → f.connecting.underway = true → f.status = .connecting
  single : f.closes.countP Close.busy ≤ 1

section Orderly

variable {f f' : Face} {a : Action} {i : Nat} {c : Close}

theorem Face.countP_moveClose (there : f.closes[i]? = some c) (stage : CloseStage)
    (p : Close → Bool) : (f.moveClose i c stage).closes.countP p + (p c).toNat =
      f.closes.countP p + (p { c with stage }).toNat := by
  obtain ⟨inside, rfl⟩ := List.getElem?_eq_some_iff.mp there
  have toNat (b : Bool) : (if b = true then 1 else 0) = b.toNat := by cases b <;> rfl
  have counted : (p f.closes[i]).toNat ≤ f.closes.countP p := by
    cases holds : p f.closes[i] with
    | false => exact Nat.zero_le _
    | true => exact List.countP_pos_iff.mpr ⟨_, List.getElem_mem inside, holds⟩
  simp only [moveClose, List.countP_set inside, toNat]
  omega

theorem Face.mem_moveClose {stage : CloseStage} {d : Close}
    (h : d ∈ (f.moveClose i c stage).closes) : d ∈ f.closes ∨ d = { c with stage } :=
  List.mem_or_eq_of_mem_set h

/-- A close that has done something has found the transport released. -/
theorem Face.Orderly.released (orderly : f.Orderly) (there : f.closes[i]? = some c)
    (begun : c.stage ≠ .called) : f.released = true := by
  rw [← Bool.not_eq_false]
  intro open_
  exact begun (orderly.unclaimed open_ c (List.mem_of_getElem? there))

theorem Face.Orderly.countP_eq_zero (orderly : f.Orderly) (open_ : f.released = false)
    {p : Close → Bool} (quiet : ∀ d : Close, d.stage = .called → p d = false) :
    f.closes.countP p = 0 := by
  rw [List.countP_eq_zero]
  intro d there
  rw [quiet d (orderly.unclaimed open_ d there)]
  exact Bool.false_ne_true

/-- Where a close that has done something goes on, order is kept if the status stays begun. -/
theorem Face.Orderly.moveClose (orderly : f.Orderly) (there : f.closes[i]? = some c)
    (begun : c.stage ≠ .called) {stage : CloseStage} {status : Status}
    (idle : status = .disconnected → f.connecting = .idle)
    (busy : ({ c with stage } : Close).busy = true → c.busy = true) :
    Face.Orderly { f.moveClose i c stage with status } where
  idle := idle
  unclaimed open_ := absurd ((orderly.released there begun).symm.trans open_) (by simp)
  early open_ := absurd ((orderly.released there begun).symm.trans open_) (by simp)
  single := by
    have count := Face.countP_moveClose there stage Close.busy
    have single := orderly.single
    have less : ({ c with stage } : Close).busy.toNat ≤ c.busy.toNat := by
      revert busy
      cases ({ c with stage } : Close).busy <;> cases c.busy <;> simp
    show (f.moveClose i c stage).closes.countP Close.busy ≤ 1
    omega

theorem Face.Orderly.moves (orderly : f.Orderly) (m : Moves f a f') : f'.Orderly := by
  have ⟨idle, unclaimed, early, single⟩ := orderly
  cases m with
  | quiet => exact orderly
  | connect => exact ⟨nofun, unclaimed, fun _ _ => rfl, single⟩
  | fail => exact ⟨nofun, unclaimed, fun _ => nofun, single⟩
  | prepare underway =>
    refine ⟨fun disconnected => ?_, unclaimed, fun open_ _ => early open_ underway, single⟩
    rw [idle disconnected] at underway
    cases underway
  | complete => exact ⟨nofun, unclaimed, fun _ => nofun, single⟩
  | outputEnds connected =>
    refine ⟨nofun, unclaimed, fun open_ underway => ?_, single⟩
    have connecting := early open_ underway
    rw [connected] at connecting
    cases connecting
  | close =>
    refine ⟨idle, fun open_ d there => ?_, early, ?_⟩
    · rcases List.mem_append.mp there with old | new
      · exact unclaimed open_ d old
      · rw [List.mem_singleton.mp new]
    · rw [List.countP_append]
      exact single
  | @claim i c there called open_ =>
    have none_ := orderly.countP_eq_zero (p := Close.busy) open_ fun d same => by
      simp [Close.busy, same, CloseStage.tears]
    have count := Face.countP_moveClose there .claimed Close.busy
    refine ⟨idle, nofun, nofun, ?_⟩
    show (f.moveClose i c .claimed).closes.countP Close.busy ≤ 1
    have less := Bool.toNat_le ({ c with stage := .claimed } : Close).busy
    omega
  | @pass i c there called released =>
    have count := Face.countP_moveClose there .ended Close.busy
    have less : ({ c with stage := .ended } : Close).busy.toNat = 0 := rfl
    refine ⟨idle, fun open_ => absurd (released.symm.trans open_) (by simp),
      fun open_ => absurd (released.symm.trans open_) (by simp), ?_⟩
    omega
  | forgo there claimed =>
    exact orderly.moveClose there (by simp [claimed]) nofun nofun
  | mark there claimed =>
    exact orderly.moveClose there (by simp [claimed]) nofun fun _ => by simp [Close.busy, claimed]
  | tear there tears =>
    refine orderly.moveClose there ?_ idle fun _ => by simp [Close.busy, tears]
    intro called
    rw [called] at tears
    cases tears
  | leave there leaving =>
    exact orderly.moveClose there (by simp [leaving]) nofun nofun

end Orderly

theorem new_orderly (command : String) : (new command).face.Orderly :=
  ⟨fun _ => rfl, fun _ _ there => absurd there List.not_mem_nil, fun _ => nofun, Nat.zero_le 1⟩

/-- What every move keeps holds after every run. -/
theorem run_keeps {P : Face → Prop} (keeps : ∀ {f f' : Face} {a : Action}, P f → Moves f a f' → P f')
    {t : Child} (start : P t.face) (actions : List Action) : P (t.run actions).face := by
  induction actions generalizing t with
  | nil => exact start
  | cons a actions ih =>
    refine ih ?_
    rcases t.tryStep_moves a with moves | ⟨-, same⟩
    · exact keeps start moves
    · rwa [same]

theorem run_orderly (command : String) (actions : List Action) :
    ((new command).run actions).face.Orderly :=
  run_keeps Face.Orderly.moves (new_orderly command) actions

end Mcp.Transport.Child
