import Mcp.Proofs.Transport.ChildSteps

/-!
The order of the states that a transport to a child process passes through. The status goes back in
two ways only (`Slips`): a close begins on a transport that is closed already, as its process ended
or could not be started, and a connect ends that was overtaken by a close. Each step that is no such
slip goes forward, a transport that nobody closes goes forward always, and one that was torn down
with no connect under way is closed for good. Main statement: `status_moves_forward`.
-/

namespace Mcp.Transport.Child

/-- The steps by which the status goes back. -/
inductive Slips (t : Child) : Action → Prop
  /-- A close begins on a transport that is closed already. -/
  | close {i : Nat} {c : Close} : t.closes[i]? = some c → c.stage = .claimed →
      t.status = .closed → Slips t (.advance i)
  /-- A connect ends after a close has begun. -/
  | connect : t.connecting = .published → t.status = .closing ∨ t.status = .closed →
      Slips t .complete

/-- How often the status goes back. -/
def backs (t : Child) : List Action → Nat
  | [] => 0
  | a :: rest => (if (t.tryStep a).status.rank < t.status.rank then 1 else 0) +
      (t.tryStep a).backs rest

/-- Whether a connect has come to its end. -/
def Connect.finished : Connect → Bool
  | .ended _ => true
  | _ => false

/-- Whether a close has claimed the teardown and done nothing more. -/
def Close.claims (c : Close) : Bool := c.stage = .claimed

/-- How often the status may yet go back: once by the close that claims the teardown, and once by
the connect. -/
def Face.chances (f : Face) : Nat :=
  (if f.released then f.closes.countP Close.claims else 1) + (if f.connecting.finished then 0 else 1)

/-- A transport that was torn down, with nobody connecting. -/
structure Face.Settled (f : Face) : Prop where
  status : f.status = .closed
  alone : f.connecting.underway = false
  released : f.released = true
  closes : ∀ c ∈ f.closes, c.busy = false

section Moves

variable {t : Child} {f f' : Face} {a : Action} {i : Nat} {c : Close}

theorem rank_le_closed (s : Status) : s.rank ≤ Status.closed.rank := by
  cases s <;> decide

theorem Slips.step (slips : Slips t a) : t.step? a ≠ none := by
  cases slips with
  | connect published => simp [step?, published]
  | close there claimed => simp [step?, there, advance?, claimed]

theorem Slips.claimed (slips : Slips t (.advance i)) (there : t.closes[i]? = some c) :
    c.stage = .claimed ∧ t.status = .closed := by
  cases slips with
  | close there' claimed closed =>
    cases there.symm.trans there'
    exact ⟨claimed, closed⟩

/-- The status goes back by slips and by nothing else. -/
theorem back_iff (t : Child) (a : Action) :
    (t.tryStep a).status.rank < t.status.rank ↔ Slips t a := by
  have neither {s : Status} (on : t.status.rank ≤ s.rank) (steady : ¬ Slips t a) :
      s.rank < t.status.rank ↔ Slips t a :=
    ⟨fun back => absurd back (Nat.not_lt.mpr on), fun slips => absurd slips steady⟩
  -- A step of a close is a slip only where the close has claimed the teardown.
  have unclaimed {i : Nat} {c : Close} (there : t.closes[i]? = some c)
      (other : c.stage ≠ .claimed) : ¬ Slips t (.advance i) :=
    fun slips => other (slips.claimed there).1
  rcases t.tryStep_moves a with moves | ⟨untaken, same⟩
  · show (t.tryStep a).face.status.rank < t.status.rank ↔ Slips t a
    generalize (t.tryStep a).face = f' at moves
    cases moves with
    | quiet one other =>
      refine neither (Nat.le_refl _) fun slips => ?_
      cases slips with
      | close => exact other _ rfl
      | connect => exact one rfl
    | prepare _ _ one other =>
      refine neither (Nat.le_refl _) fun slips => ?_
      cases slips with
      | close => exact other _ rfl
      | connect => exact one rfl
    | connect disconnected =>
      refine neither ?_ nofun
      rw [show t.status = .disconnected from disconnected]
      exact Nat.zero_le _
    | fail => exact neither (rank_le_closed _) nofun
    | outputEnds => exact neither (rank_le_closed _) nofun
    | close => exact neither (Nat.le_refl _) nofun
    | complete published =>
      constructor
      · intro back
        refine .connect published ?_
        revert back
        cases t.status <;> simp [Status.rank]
      · intro slips
        cases slips with
        | connect _ late =>
          have before : Status.connected.rank < Status.closing.rank := by decide
          rcases late with late | late
          · rw [late]
            exact before
          · rw [late]
            exact Nat.lt_succ_of_lt before
    | claim there called | pass there called =>
      exact neither (Nat.le_refl _) (unclaimed there (by simp [called]))
    | leave there leaving =>
      exact neither (rank_le_closed _) (unclaimed there (by simp [leaving]))
    | forgo there _ disconnected =>
      refine neither (rank_le_closed _) fun slips => ?_
      cases (slips.claimed there).2.symm.trans disconnected
    | mark there claimed =>
      constructor
      · intro back
        refine .close there claimed ?_
        revert back
        cases t.status <;> simp [Status.rank]
      · intro slips
        rw [(slips.claimed there).2]
        exact (by decide : Status.closing.rank < Status.closed.rank)
    | tear there tears _ whose =>
      rcases whose with rfl | rfl
      · refine neither (Nat.le_refl _) (unclaimed there fun claimed => ?_)
        rw [claimed] at tears
        cases tears
      · exact neither (Nat.le_refl _) nofun
  · rw [same]
    exact neither (Nat.le_refl _) fun slips => slips.step untaken

theorem Moves.released (m : Moves f a f') (released : f.released = true) : f'.released = true := by
  cases m with
  | claim => rfl
  | quiet | connect | fail | prepare | complete | outputEnds | close | pass | forgo | mark | tear
  | leave => exact released

/-! ### How often -/

theorem Connect.underway_finished {stage : Connect} (underway : stage.underway = true) :
    stage.finished = false := by
  cases stage with
  | ended => cases underway
  | idle | begun | spawned | placed | published => rfl

/-- A close takes a chance if the status goes back by its step: then it had claimed the teardown. -/
theorem Face.chances_moveClose (released : f.released = true) (there : f.closes[i]? = some c)
    {stage : CloseStage} {status : Status} (after : ({ c with stage } : Close).claims = false)
    (claims : status.rank < f.status.rank → c.claims = true) :
    (if status.rank < f.status.rank then 1 else 0) +
      Face.chances { f.moveClose i c stage with status } ≤ f.chances := by
  have count := Face.countP_moveClose there stage Close.claims
  have released' : (f.moveClose i c stage).released = true := released
  have same : (f.moveClose i c stage).connecting = f.connecting := rfl
  rw [after, Bool.toNat_false, Nat.add_zero] at count
  simp only [chances, released, released', same, if_true]
  split
  · rename_i back
    rw [claims back, Bool.toNat_true] at count
    omega
  · omega

/-- A step back takes a chance, and no step gives one. -/
theorem Moves.chances (m : Moves f a f') (orderly : f.Orderly) :
    (if f'.status.rank < f.status.rank then 1 else 0) + f'.chances ≤ f.chances := by
  have still : (if f.status.rank < f.status.rank then 1 else 0) = 0 := if_neg (Nat.lt_irrefl _)
  have closed : (if Status.closed.rank < f.status.rank then 1 else 0) = 0 :=
    if_neg (Nat.not_lt.mpr (rank_le_closed _))
  cases m with
  | quiet => simp only [still, Nat.zero_add, Nat.le_refl]
  | connect disconnected =>
    simp only [Face.chances, disconnected, orderly.idle disconnected]
    exact Nat.le_of_eq (Nat.zero_add _)
  | fail begun =>
    simp only [Face.chances, closed, begun, Connect.finished]
    simp
  | prepare before after =>
    simp only [Face.chances, still, Connect.underway_finished before, Connect.underway_finished after,
      Nat.zero_add, Nat.le_refl]
  | complete published =>
    have once : (if Status.connected.rank < f.status.rank then 1 else 0) ≤ 1 := by
      split <;> omega
    simp only [Face.chances, published, Connect.finished, if_true, Bool.false_eq_true, if_false]
    omega
  | outputEnds connected =>
    simp only [closed, Nat.zero_add]
    exact Nat.le_refl f.chances
  | close =>
    simp only [still, Face.chances, List.countP_append, Nat.zero_add]
    exact Nat.le_refl _
  | @claim i c there called open_ =>
    have none_ := orderly.countP_eq_zero (p := Close.claims) open_ fun d same => by
      simp [Close.claims, same]
    have count := Face.countP_moveClose there .claimed Close.claims
    have less := Bool.toNat_le ({ c with stage := .claimed } : Close).claims
    have same : (f.moveClose i c .claimed).connecting = f.connecting := rfl
    have status : (f.moveClose i c .claimed).status = f.status := rfl
    simp only [Face.chances, status, still, open_, same, if_true, Bool.false_eq_true, if_false]
    omega
  | pass there _ released =>
    exact Face.chances_moveClose released there rfl fun back => absurd back (Nat.lt_irrefl _)
  | forgo there claimed =>
    have released := orderly.released there (by simp [claimed])
    exact Face.chances_moveClose released there rfl fun _ => by simp [Close.claims, claimed]
  | mark there claimed =>
    have released := orderly.released there (by simp [claimed])
    exact Face.chances_moveClose released there rfl fun _ => by simp [Close.claims, claimed]
  | @tear a i c stage there before after =>
    have released := orderly.released there fun called => by
      rw [called] at before
      cases before
    refine Face.chances_moveClose released there ?_ fun back => absurd back (Nat.lt_irrefl _)
    simp only [Close.claims, decide_eq_false_iff_not]
    intro claimed
    rw [claimed] at after
    cases after
  | leave there leaving =>
    have released := orderly.released there (by simp [leaving])
    exact Face.chances_moveClose released there rfl fun back =>
      absurd back (Nat.not_lt.mpr (rank_le_closed _))

/-! ### For good -/

theorem Close.not_busy_claimed {c : Close} (idle : c.busy = false) : c.stage ≠ .claimed := by
  intro claimed
  rw [busy, claimed] at idle
  cases idle

theorem Close.not_busy_tears {c : Close} (idle : c.busy = false) : c.stage.tears = false := by
  rw [busy, Bool.or_eq_false_iff] at idle
  exact idle.2

theorem Face.Settled.moves (settled : f.Settled) (m : Moves f a f') : f'.Settled := by
  obtain ⟨closed, alone, released, closes⟩ := settled
  have idle {i : Nat} {c : Close} (there : f.closes[i]? = some c) : c.busy = false :=
    closes c (List.mem_of_getElem? there)
  cases m with
  | quiet => exact ⟨closed, alone, released, closes⟩
  | connect disconnected => cases closed.symm.trans disconnected
  | outputEnds connected => cases closed.symm.trans connected
  | fail begun =>
    rw [begun] at alone
    cases alone
  | complete published =>
    rw [published] at alone
    cases alone
  | prepare underway => cases underway.symm.trans alone
  | claim _ _ open_ => cases released.symm.trans open_
  | close =>
    refine ⟨closed, alone, released, fun d there => ?_⟩
    rcases List.mem_append.mp there with old | new
    · exact closes d old
    · rw [List.mem_singleton.mp new]
      rfl
  | pass =>
    refine ⟨closed, alone, released, fun d there => ?_⟩
    rcases Face.mem_moveClose there with old | rfl
    · exact closes d old
    · rfl
  | forgo there claimed | mark there claimed =>
    exact absurd claimed (Close.not_busy_claimed (idle there))
  | tear there tears => cases tears.symm.trans (Close.not_busy_tears (idle there))
  | leave there leaving =>
    have tears := Close.not_busy_tears (idle there)
    rw [leaving] at tears
    cases tears

/-- The close that tears down settles the transport with its last step, if nobody connects. -/
theorem Face.Orderly.settles (orderly : f.Orderly) (there : f.closes[i]? = some c)
    (leaving : c.stage = .leaving) (alone : f.connecting.underway = false) :
    Face.Settled { f.moveClose i c .ended with status := .closed } where
  status := rfl
  alone := alone
  released := orderly.released there (by simp [leaving])
  closes d h := by
    have count := Face.countP_moveClose there .ended Close.busy
    have busy : c.busy = true := by simp [Close.busy, leaving, CloseStage.tears]
    rw [busy, show ({ c with stage := .ended } : Close).busy = false from rfl, Bool.toNat_true,
      Bool.toNat_false] at count
    have single := orderly.single
    have none_ : (f.moveClose i c .ended).closes.countP Close.busy = 0 := by omega
    exact Bool.eq_false_iff.mpr (List.countP_eq_zero.mp none_ d h)

end Moves

/-! ### Runs -/

section Runs

variable {t : Child} {actions : List Action}

theorem backs_le_chances (t : Child) (orderly : t.face.Orderly) (actions : List Action) :
    t.backs actions ≤ t.face.chances := by
  induction actions generalizing t with
  | nil => exact Nat.zero_le _
  | cons a actions ih =>
    rw [backs]
    rcases t.tryStep_moves a with moves | ⟨-, same⟩
    · have step : (if (t.tryStep a).status.rank < t.status.rank then 1 else 0) +
          (t.tryStep a).face.chances ≤ t.face.chances := moves.chances orderly
      have rest := ih _ (orderly.moves moves)
      omega
    · rw [same, if_neg (Nat.lt_irrefl _), Nat.zero_add]
      exact ih t orderly

theorem rank_le_run (steady : ∀ before a after, actions = before ++ a :: after →
    ¬ Slips (t.run before) a) : t.status.rank ≤ (t.run actions).status.rank := by
  induction actions generalizing t with
  | nil => exact Nat.le_refl _
  | cons a actions ih =>
    have first : ¬ Slips t a := steady [] a actions rfl
    refine Nat.le_trans (Nat.not_lt.mp (mt (back_iff t a).mp first)) (ih ?_)
    intro before b after split
    exact steady (a :: before) b after (by rw [split, List.cons_append])

theorem Slips.released {a : Action} (slips : Slips t a) (orderly : t.face.Orderly) :
    t.released = true := by
  cases slips with
  | close there claimed => exact orderly.released there (by simp [claimed])
  | connect published late =>
    rw [← Bool.not_eq_false]
    intro open_
    have early : t.status = .connecting :=
      orderly.early open_ (congrArg Connect.underway published)
    rw [early] at late
    rcases late with late | late <;> cases late

end Runs

/-- How the status of a transport to a process moves. -/
structure MovesForward (command : String) (actions : List Action) : Prop where
  /-- A step goes back if it is a slip, and otherwise not. -/
  back {before after : List Action} {a : Action} : actions = before ++ a :: after →
    (((new command).run (before ++ [a])).status.rank < ((new command).run before).status.rank ↔
      Slips ((new command).run before) a)
  twice : (new command).backs actions ≤ 2
  forward {before after : List Action} : actions = before ++ after →
    (∀ first a rest, after = first ++ a :: rest →
      ¬ Slips ((new command).run (before ++ first)) a) →
    ((new command).run before).status.rank ≤ ((new command).run actions).status.rank
  /-- As long as no close has claimed the teardown, it goes forward. -/
  unclosed {before after : List Action} : actions = before ++ after →
    ((new command).run actions).released = false →
    ((new command).run before).status.rank ≤ ((new command).run actions).status.rank
  /-- When the close that tears down is done and nobody is connecting, the transport is closed for
  good. -/
  forGood {before after : List Action} {i : Nat} {c : Close} :
    actions = before ++ .advance i :: after →
    ((new command).run before).closes[i]? = some c → c.stage = .leaving →
    ((new command).run before).connecting.underway = false →
    ((new command).run actions).status = .closed

/-- The status moves forward but for two kinds of slips, in every run. -/
theorem status_moves_forward (command : String) (actions : List Action) :
    MovesForward command actions where
  back := by
    rintro before after a -
    rw [run_append]
    exact back_iff _ a
  twice := backs_le_chances _ (new_orderly command) actions
  forward := by
    rintro before after rfl steady
    rw [run_append]
    refine rank_le_run fun first a rest split => ?_
    rw [← run_append]
    exact steady first a rest split
  unclosed := by
    rintro before after rfl open_
    rw [run_append] at open_ ⊢
    refine rank_le_run fun first a rest split slips => ?_
    rw [← run_append] at slips
    have released := slips.released (run_orderly command _)
    rw [run_append] at released
    have stays := run_keeps (P := fun f => f.released = true) (fun h moves => moves.released h)
      released (a :: rest)
    rw [split, run_append] at open_
    cases stays.symm.trans open_
  forGood := by
    rintro before after i c rfl there leaving alone
    have settled := (run_orderly command before).settles there leaving alone
    have stepped : (((new command).run before).tryStep (.advance i)).face =
        { ((new command).run before).face.moveClose i c .ended with status := .closed } := by
      obtain ⟨graceful, stage⟩ := c
      subst leaving
      simp only [tryStep, step?, there, Option.bind_some, advance?, Option.map_some,
        Option.getD_some]
      rfl
    rw [← stepped] at settled
    rw [run_append, run_cons]
    exact (run_keeps Face.Settled.moves settled after).status

/-- That the status never goes back is too much to say: a graceful close of a transport whose process
has ended its output, or could not be started, closes it once more, and a connect that is overtaken
by a close leaves the transport connected and its process running after the close has returned. -/
theorem status_may_move_back : ∃ ended failed overtaken : List Action,
    ((new "server").run ended).status = .closed ∧
      ((new "server").run (ended ++ [.advance 0])).status = .closing ∧
    ((new "server").run failed).status = .closed ∧
      ((new "server").run (failed ++ [.advance 0])).status = .closing ∧
    ((new "server").run overtaken).status = .closed ∧
      ((new "server").run overtaken).closes = [⟨false, .ended⟩] ∧
      ((new "server").run (overtaken ++ [.complete])).status = .connected ∧
      ((new "server").run (overtaken ++ [.complete])).process = .running false :=
  ⟨[.connect, .spawn true, .place, .publish, .complete, .outputEnds, .close true, .advance 0],
    [.connect, .spawn false, .close true, .advance 0],
    [.connect, .spawn true, .close false, .advance 0, .advance 0, .advance 0, .advance 0,
      .advance 0, .advance 0, .advance 0, .place, .publish],
    rfl, rfl, rfl, rfl, rfl, rfl, rfl, rfl⟩

end Mcp.Transport.Child
