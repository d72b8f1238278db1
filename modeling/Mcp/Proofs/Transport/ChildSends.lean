import Mcp.Proofs.Transport.ChildTeardown

/-!
What the steps of a transport to a child process do to its sends, its queue and its writer (`Desk`).
`Works` lists everything that a step can do to them. It rests on how far the connect has come when
there is a writer, when others find the queue, and when a close can stop the writer (`Laid`).
-/

namespace Mcp.Transport.Child

/-- What a send, the queue and the writer have to do with each other. -/
structure Desk where
  queueOpen : Bool
  queue : List Nat
  writer : Writer
  written : List UInt8
  sends : List Send

def desk (t : Child) : Desk := ⟨t.queueOpen, t.queue, t.writer, t.written, t.sends⟩

namespace Desk

def stage (d : Desk) (i : Nat) : Option SendStage := d.sends[i]?.map Send.stage

/-- The line of a send. -/
def line (d : Desk) (i : Nat) : List UInt8 := (d.sends[i]?.map Send.line).getD []

/-- The desk after somebody has sent a line. -/
def issue (d : Desk) (line : List UInt8) : Desk := { d with sends := d.sends ++ [⟨line, .framed⟩] }

def restage (d : Desk) (i : Nat) (stage : SendStage) : Desk :=
  { d with sends := d.sends.modify i fun s => { s with stage } }

/-- The desk after the writer has stopped. -/
def stop (d : Desk) : Desk :=
  { d with writer := .over, queue := [], sends := d.sends.map Send.giveUp }

end Desk

/-- A send that ended so was turned away. -/
def SendStage.turnedAway : SendStage := .ended (.error .transportClosed)

/-! ### How far the connect has come -/

def Connect.early : Connect → Bool
  | .idle => true
  | .begun => true
  | _ => false

/-- Whether there is a process, with a writer. -/
def Connect.born : Connect → Bool
  | .spawned => true
  | .placed => true
  | .published => true
  | .ended (.ok _) => true
  | _ => false

/-- Whether others have found the queue. -/
def Connect.opened : Connect → Bool
  | .published => true
  | .ended (.ok _) => true
  | _ => false

structure Laid (t : Child) : Prop where
  early : t.connecting.early = true → t.writer = .absent
  born : t.connecting.born = true → t.writer ≠ .absent
  opened : t.queueOpen = true → t.connecting.opened = true
  held : t.workersHeld = true → t.connecting.born = true
  stopping {c : Close} : c ∈ t.closes → c.stage = .stopping true → t.connecting.born = true

section Laid

variable {t t' : Child} {a : Action}

theorem Connect.not_early_of_born {stage : Connect} (born : stage.born = true) :
    stage.early = false := by
  cases stage with
  | idle | begun => cases born
  | spawned | placed | published | ended => rfl

theorem Connect.born_of_opened {stage : Connect} (opened : stage.opened = true) :
    stage.born = true := by
  cases stage with
  | idle | begun | spawned | placed => cases opened
  | published => rfl
  | ended result =>
    cases result with
    | ok => rfl
    | error => cases opened

/-- Where none of what it speaks of changes but the writer, which may not go, it stays. -/
theorem Laid.aside (laid : t.Laid) (connecting : t'.connecting = t.connecting)
    (writer : t'.writer = .absent ↔ t.writer = .absent) (queueOpen : t'.queueOpen = t.queueOpen)
    (workersHeld : t'.workersHeld = t.workersHeld)
    (closes : ∀ c ∈ t'.closes, c.stage = .stopping true → c ∈ t.closes) : t'.Laid where
  early early := writer.mpr (laid.early (connecting ▸ early))
  born born absent := laid.born (connecting ▸ born) (writer.mp absent)
  opened opened := connecting ▸ laid.opened (queueOpen ▸ opened)
  held held := connecting ▸ laid.held (workersHeld ▸ held)
  stopping there at_ := connecting ▸ laid.stopping (closes _ there at_) at_

theorem Laid.spawned (laid : t.Laid) (begun : t.connecting = .begun) (succeeds : Bool) :
    (t.spawned succeeds).Laid := by
  have unborn : t.connecting.born = false := congrArg Connect.born begun
  have shut : t.queueOpen = false := by
    rw [← Bool.not_eq_true]
    intro opened
    cases (Connect.born_of_opened (laid.opened opened)).symm.trans unborn
  have free : t.workersHeld = false := by
    rw [← Bool.not_eq_true]
    intro held
    cases (laid.held held).symm.trans unborn
  cases succeeds with
  | true =>
    refine ⟨nofun, fun _ => nofun, fun opened => ?_, fun _ => rfl, fun _ _ => rfl⟩
    cases shut.symm.trans opened
  | false =>
    refine ⟨nofun, nofun, fun opened => ?_, fun held => ?_, fun there at_ => ?_⟩
    · cases shut.symm.trans opened
    · cases free.symm.trans held
    · cases (laid.stopping there at_).symm.trans unborn

end Laid

/-! ### The steps of a close -/

/-- What a step of a close makes of the desk. -/
inductive Hands (t : Child) (c : Close) : Child × CloseStage → Prop
  | nothing {t' : Child} {stage : CloseStage} : t'.desk = t.desk →
      t'.workersHeld = t.workersHeld → t'.connecting = t.connecting → t'.closes = t.closes →
      stage ≠ .stopping true → Hands t c (t', stage)
  | takes : c.stage = .marked →
      Hands t c ({ t with queueOpen := false, workersHeld := false }, .stopping t.workersHeld)
  | stops : c.stage = .stopping true → c.graceful = false →
      Hands t c ({ t.stopWriter with reader := .over }, .taking true)

section Close

variable {t : Child} {i : Nat} {c : Close} {p : Child × CloseStage}

theorem advance_hands (h : t.advance? c.graceful c.stage = some p) : Hands t c p := by
  obtain ⟨graceful, stage⟩ := c
  cases stage with
  | called | claimed =>
    simp only [advance?, Option.some.injEq] at h
    subst h
    split <;> exact .nothing rfl rfl rfl rfl (by simp)
  | marked =>
    cases h
    exact .takes rfl
  | stopping workers =>
    simp only [advance?] at h
    split at h
    · cases h
      exact .nothing rfl rfl rfl rfl (by simp)
    · rename_i waits
      obtain rfl : workers = true := by simpa using waits
      split at h
      · rename_i abrupt
        cases h
        exact .stops rfl (by simpa using abrupt)
      · split at h <;> cases h
        exact .nothing rfl rfl rfl rfl (by simp)
  | taking workers =>
    simp only [advance?, Option.some.injEq] at h
    subst h
    split <;> exact .nothing rfl rfl rfl rfl (by simp)
  | reaping workers =>
    simp only [advance?] at h
    split at h
    · cases h
      exact .nothing rfl rfl rfl rfl (by simp)
    · split at h <;> cases h
      exact .nothing rfl rfl rfl rfl (by simp)
  | joining workers =>
    simp only [advance?] at h
    split at h <;> cases h
    exact .nothing rfl rfl rfl rfl (by simp)
  | leaving =>
    cases h
    exact .nothing rfl rfl rfl rfl (by simp)
  | ended => cases h

theorem lapse_hands (h : t.lapse? c.stage = some p) : Hands t c p := by
  unfold lapse? at h
  split at h <;> cases h
  all_goals exact .nothing rfl rfl rfl rfl nofun

theorem Laid.hands (laid : t.Laid) (there : t.closes[i]? = some c) (hands : Hands t c p) :
    (moveClose i c p).Laid := by
  have old {d : Close} {stage : CloseStage} (member : d ∈ t.closes.set i { c with stage })
      (at_ : d.stage = .stopping true) (other : stage ≠ .stopping true) : d ∈ t.closes := by
    rcases List.mem_or_eq_of_mem_set member with old | rfl
    · exact old
    · exact absurd at_ other
  cases hands with
  | nothing desk workersHeld connecting closes other =>
    refine laid.aside connecting ?_ (congrArg Desk.queueOpen desk) workersHeld fun d member at_ => ?_
    · exact iff_of_eq (congrArg (fun e : Desk => e.writer = .absent) desk)
    · exact old (closes ▸ member) at_ other
  | takes marked =>
    refine ⟨laid.early, laid.born, nofun, nofun, fun {d} member at_ => ?_⟩
    rcases List.mem_or_eq_of_mem_set member with old | rfl
    · exact laid.stopping old at_
    · exact laid.held (by simpa using at_)
  | stops at_ abrupt =>
    have born := laid.stopping (List.mem_of_getElem? there) at_
    refine ⟨fun early => ?_, fun _ => nofun, laid.opened, laid.held, fun _ _ => born⟩
    cases (Connect.not_early_of_born born).symm.trans early

end Close

/-! ### Every step -/

/-- What a step can do to the desk. -/
inductive Works (t : Child) : Action → Desk → Prop
  | quiet {a : Action} : (∀ i, a ≠ .enqueue i) → (∀ line, a ≠ .send line) → Works t a t.desk
  | issue {line : List UInt8} : Works t (.send line) (t.desk.issue line)
  | enter {i : Nat} : t.desk.stage i = some .framed → t.queueOpen = true →
      Works t (.enter i) (t.desk.restage i .admitted)
  | turnAway {i : Nat} : t.desk.stage i = some .framed → t.queueOpen = false →
      Works t (.enter i) (t.desk.restage i .turnedAway)
  | enqueue {i : Nat} : t.desk.stage i = some .admitted → t.writer ≠ .over →
      Works t (.enqueue i) { t.desk.restage i .waiting with queue := t.queue ++ [i] }
  | tooLate {i : Nat} : t.desk.stage i = some .admitted → t.writer = .over →
      Works t (.enqueue i) (t.desk.restage i .turnedAway)
  | take {i : Nat} {rest : List Nat} : t.writer = .idle → t.queue = i :: rest →
      Works t .take { t.desk with writer := .writing i (t.desk.line i), queue := rest }
  | write {i count : Nat} {rest : List UInt8} : t.writer = .writing i rest →
      Works t (.write count) { t.desk with
        writer := .writing i (rest.drop count)
        written := t.written ++ rest.take count }
  | acknowledge {i : Nat} : t.writer = .writing i [] →
      Works t .acknowledge { t.desk.restage i (.ended (.ok ())) with writer := .idle }
  | refuse {i : Nat} {rest : List UInt8} : t.writer = .writing i rest →
      Works t .refuse (t.desk.restage i (.ended (.error (.transport .writeFailed)))).stop
  | finish : t.writer = .idle → t.queue = [] →
      Works t .finish { t.desk with writer := .over }
  /-- An immediate close stops the writer. -/
  | stop {i : Nat} {c : Close} : t.closes[i]? = some c → c.graceful = false →
      c.stage = .stopping true → Works t (.advance i) t.desk.stop
  | spawn : t.writer = .absent → Works t (.spawn true) { t.desk with writer := .idle }
  | publish : t.connecting = .placed → Works t .publish { t.desk with queueOpen := true }
  /-- A close takes the queue. -/
  | shut {i : Nat} {c : Close} : t.closes[i]? = some c → c.stage = .marked →
      Works t (.advance i) { t.desk with queueOpen := false }

section Step

variable {t t' : Child} {a : Action} {i : Nat}

theorem set_restage {sends : List Send} {line : List UInt8} {stage stage' : SendStage}
    (there : sends[i]? = some ⟨line, stage⟩) :
    sends.set i ⟨line, stage'⟩ = sends.modify i fun s => { s with stage := stage' } := by
  refine List.ext_getElem? fun j => ?_
  rw [List.getElem?_set, List.getElem?_modify]
  by_cases same : i = j
  · subst same
    obtain ⟨inside, at_⟩ := List.getElem?_eq_some_iff.mp there
    simp [inside, at_]
  · simp [same]

theorem step_opened (orderly : t.face.Orderly) (h : t.step? a = some t')
    (opened : t.connecting.opened = true) : t'.connecting.opened = true := by
  have elsewhere {i : Nat} {c : Close} {p : Child × CloseStage} (hands : Hands t c p) :
      (moveClose i c p).connecting.opened = true := by
    cases hands with
    | nothing _ _ connecting => exact (congrArg Connect.opened connecting).trans opened
    | takes | stops => exact opened
  cases a with
  | connect =>
    simp only [step?, beginConnect, connectFault?, Option.some.injEq] at h
    subst h
    by_cases idle : t.status = .disconnected
    · cases (congrArg Connect.opened (orderly.idle idle)).symm.trans opened
    · simp only [if_neg idle]
      exact opened
  | spawn | place =>
    simp only [step?] at h
    split at h
    · rename_i before
      rw [before] at opened
      cases opened
    · cases h
  | publish | complete =>
    simp only [step?] at h
    split at h <;> cases h
    rfl
  | advance i =>
    obtain ⟨c, there, h⟩ := Option.bind_eq_some_iff.mp h
    obtain ⟨p, goes, rfl⟩ := Option.map_eq_some_iff.mp h
    exact elsewhere (advance_hands goes)
  | lapse i =>
    obtain ⟨c, there, h⟩ := Option.bind_eq_some_iff.mp h
    split at h
    · obtain ⟨p, goes, rfl⟩ := Option.map_eq_some_iff.mp h
      exact elsewhere (lapse_hands goes)
    · cases h
  | send | enter | enqueue | take | write | acknowledge | refuse | finish | outputEnds | exit
  | close =>
    rw [(step_process h rfl fun _ => ⟨by simp, by simp⟩).connecting]
    exact opened

/-- A step does nothing to the desk but what `Works` lists. -/
theorem step_works (laid : t.Laid) (h : t.step? a = some t') : Works t a t'.desk := by
  have quiet (same : t'.desk = t.desk) (one : ∀ i, a ≠ .enqueue i) (other : ∀ line, a ≠ .send line) :
      Works t a t'.desk := by
    rw [same]
    exact .quiet one other
  cases a with
  | connect =>
    simp only [step?, beginConnect, Option.some.injEq] at h
    split at h <;> subst h <;> exact quiet rfl (by simp) (by simp)
  | spawn succeeds =>
    simp only [step?] at h
    split at h
    · rename_i begun
      cases h
      cases succeeds with
      | true => exact .spawn (laid.early (congrArg Connect.early begun))
      | false => exact quiet rfl (by simp) (by simp)
    · cases h
  | place =>
    simp only [step?] at h
    split at h
    · cases h
      exact quiet rfl (by simp) (by simp)
    · cases h
  | publish =>
    simp only [step?] at h
    split at h
    · rename_i placed
      cases h
      exact .publish placed
    · cases h
  | complete =>
    simp only [step?] at h
    split at h
    · cases h
      exact quiet rfl (by simp) (by simp)
    · cases h
  | send line =>
    cases h
    exact .issue
  | enter index =>
    simp only [step?, enter?] at h
    split at h
    · rename_i line there
      have framed : t.desk.stage index = some .framed := congrArg (Option.map Send.stage) there
      simp only [set_restage there, Option.some.injEq] at h
      split at h
      · rename_i opened
        subst h
        exact .enter framed opened
      · rename_i shut
        subst h
        exact .turnAway framed (Bool.eq_false_iff.mpr shut)
    · cases h
  | enqueue index =>
    simp only [step?, enqueue?] at h
    split at h
    · rename_i line there
      have admitted : t.desk.stage index = some .admitted := congrArg (Option.map Send.stage) there
      simp only [set_restage there, Option.some.injEq] at h
      split at h
      · rename_i halted
        subst h
        exact .tooLate admitted halted
      · rename_i going
        subst h
        exact .enqueue admitted going
    · cases h
  | take =>
    simp only [step?, take?] at h
    split at h
    · rename_i i rest idle queue
      obtain ⟨s, there, rfl⟩ := Option.map_eq_some_iff.mp h
      have line : t.desk.line i = s.line := congrArg (fun o => (o.map Send.line).getD []) there
      have works := Works.take idle queue
      rw [line] at works
      exact works
    · cases h
  | write count =>
    simp only [step?, write?] at h
    split at h
    · rename_i i rest busy
      split at h
      · cases h
        exact .write busy
      · cases h
    · cases h
  | acknowledge =>
    simp only [step?, acknowledge?] at h
    split at h
    · rename_i i busy
      cases h
      exact .acknowledge busy
    · cases h
  | refuse =>
    simp only [step?, refuse?] at h
    split at h
    · rename_i i rest busy
      cases h
      exact .refuse busy
    · cases h
  | finish =>
    simp only [step?, finish?] at h
    split at h
    · rename_i idle queue
      split at h
      · cases h
      · cases h
        exact .finish idle queue
    · cases h
  | outputEnds =>
    simp only [step?] at h
    split at h
    · cases h
      exact quiet rfl (by simp) (by simp)
    · cases h
  | exit ending =>
    simp only [step?, exit?] at h
    split at h
    · cases h
      exact quiet rfl (by simp) (by simp)
    · cases h
  | close graceful =>
    cases h
    exact quiet rfl (by simp) (by simp)
  | advance i =>
    obtain ⟨c, there, h⟩ := Option.bind_eq_some_iff.mp h
    obtain ⟨p, goes, rfl⟩ := Option.map_eq_some_iff.mp h
    cases advance_hands goes with
    | nothing desk => exact quiet desk (by simp) (by simp)
    | takes marked => exact .shut there marked
    | stops at_ abrupt => exact .stop there abrupt at_
  | lapse i =>
    obtain ⟨c, there, h⟩ := Option.bind_eq_some_iff.mp h
    split at h
    · obtain ⟨p, goes, rfl⟩ := Option.map_eq_some_iff.mp h
      unfold lapse? at goes
      split at goes <;> cases goes
      all_goals exact quiet rfl (by simp) (by simp)
    · cases h

/-- Those who neither connect nor close leave the queue as it is, and the writer where it is. -/
theorem Works.aside {d' : Desk} (works : Works t a d') (aside : a.connects = false)
    (other : ∀ i, a ≠ .advance i) :
    (d'.writer = .absent ↔ t.writer = .absent) ∧ d'.queueOpen = t.queueOpen := by
  cases works with
  | quiet | issue | enter | turnAway | enqueue | tooLate => exact ⟨.rfl, rfl⟩
  | take idle | finish idle => exact ⟨by simp [idle], rfl⟩
  | write busy | acknowledge busy => exact ⟨by simp [busy], rfl⟩
  | refuse busy => exact ⟨by simp [busy, Desk.stop], rfl⟩
  | spawn | publish => cases aside
  | stop | shut => exact absurd rfl (other _)

theorem Laid.step (laid : t.Laid) (orderly : t.face.Orderly) (h : t.step? a = some t') :
    t'.Laid := by
  have works := step_works laid h
  cases a with
  | connect =>
    simp only [step?, beginConnect, connectFault?, Option.some.injEq] at h
    subst h
    by_cases idle : t.status = .disconnected
    · have none_ : t.connecting = .idle := orderly.idle idle
      have unborn : t.connecting.born = false := congrArg Connect.born none_
      simp only [if_pos idle]
      refine ⟨fun _ => laid.early (congrArg Connect.early none_), by rintro ⟨⟩, fun opened => ?_,
        fun held => ?_, fun there at_ => ?_⟩
      · cases (Connect.born_of_opened (laid.opened opened)).symm.trans unborn
      · cases (laid.held held).symm.trans unborn
      · cases (laid.stopping there at_).symm.trans unborn
    · simp only [if_neg idle]
      exact laid
  | spawn succeeds =>
    simp only [step?] at h
    split at h
    · rename_i begun
      cases h
      exact laid.spawned begun succeeds
    · cases h
  | place =>
    simp only [step?] at h
    split at h
    · rename_i spawned
      cases h
      refine ⟨by rintro ⟨⟩, fun _ => laid.born (congrArg Connect.born spawned), fun opened => ?_,
        fun _ => rfl, fun _ _ => rfl⟩
      cases (laid.opened opened).symm.trans (congrArg Connect.opened spawned)
    · cases h
  | publish =>
    simp only [step?] at h
    split at h
    · rename_i placed
      cases h
      exact ⟨by rintro ⟨⟩, fun _ => laid.born (congrArg Connect.born placed), fun _ => rfl,
        fun _ => rfl, fun _ _ => rfl⟩
    · cases h
  | complete =>
    simp only [step?] at h
    split at h
    · rename_i published
      cases h
      exact ⟨by rintro ⟨⟩, fun _ => laid.born (congrArg Connect.born published), fun _ => rfl,
        fun _ => rfl, fun _ _ => rfl⟩
    · cases h
  | advance i =>
    obtain ⟨c, there, h⟩ := Option.bind_eq_some_iff.mp h
    obtain ⟨p, goes, rfl⟩ := Option.map_eq_some_iff.mp h
    exact laid.hands there (advance_hands goes)
  | lapse i =>
    obtain ⟨c, there, h⟩ := Option.bind_eq_some_iff.mp h
    split at h
    · obtain ⟨p, goes, rfl⟩ := Option.map_eq_some_iff.mp h
      exact laid.hands there (lapse_hands goes)
    · cases h
  | send | enter | enqueue | take | write | acknowledge | refuse | finish | outputEnds | exit
  | close =>
    have same := step_process h rfl fun _ => ⟨by simp, by simp⟩
    obtain ⟨writer, queueOpen⟩ := works.aside rfl (by simp)
    refine laid.aside same.connecting writer queueOpen same.workersHeld fun c member at_ => ?_
    refine (same.closes c member).resolve_right fun called => ?_
    cases called.symm.trans at_

end Step

end Mcp.Transport.Child
