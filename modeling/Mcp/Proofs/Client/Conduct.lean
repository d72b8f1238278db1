import Mcp.Proofs.Client.Standing

/-!
What a client does where it stands: what it says (`Speaks`), and how an act changes the state that
its tasks share (`Changes`). A client that was started and is used by its operations is in order
throughout every run (`inOrder_run`).
-/

namespace Mcp.Client

open Schema (Agreement)
open Session (Act Informed Sound Task Traffic)

variable {ε : Type} {settings : Settings} {hooks : Hooks ε} {s : Session State ε}
  {t : List Traffic} {i : Nat} {task : Task State ε}

/-! ### What a client says -/

/-- What a client says, and what is true then. -/
inductive Speaks (settings : Settings) (s : Session State ε) (t : List Traffic) : Traffic → Prop
  | heard {m : Message} : Speaks settings s t (.heard m)
  | response {r : Response} {result : Except Error Unit} :
      Speaks settings s t (.offered (.response r) result)
  /-- Requests wait for the announcement, and the agreement that was announced permits them. -/
  | request {a : Agreement} {r : Request} {result : Except Error Unit} :
      s.shared.agreement = some a → AnswersLast t a → Announced t → Permits a r.method →
      Speaks settings s t (.offered (.request r) result)
  /-- A task asks for a handshake while there is no agreement. -/
  | handshake {i : Nat} {task : Task State ε} {next : Except Error Agreement → Program State ε Unit}
      {r : Request} {result : Except Error Unit} : s.tasks[i]? = some task →
      Shakes settings next .asking task → r.method = "initialize" → s.shared.agreement = none →
      attempts t = 0 → Speaks settings s t (.offered (.request r) result)
  /-- The announcement is tried once. -/
  | announcement {a : Agreement} {x : Traffic} : isAttempt x = true →
      s.shared.agreement = some a → AnswersLast t a → attempts t = 0 → Speaks settings s t x

/-- What a task says at a stage of a handshake. -/
theorem Shakes.speaks {stage : Stage} {next : Except Error Agreement → Program State ε Unit}
    {x : Traffic} (there : s.tasks[i]? = some task) (shakes : Shakes settings next stage task)
    (holds : stage.Holds s t task) (h : s.taskTraffic task = some x) : Speaks settings s t x := by
  cases shakes with
  | ready =>
    cases stage with
    | announcing a =>
      obtain ⟨agreement, untried, answers⟩ := holds
      have withheld : s.taskTraffic (.ready ((Stage.announcing a).program next settings)) =
        if s.stopped then some (.withheld "notifications/initialized") else none := rfl
      rw [withheld] at h
      split at h
      · cases h
        exact .announcement rfl agreement answers untried
      · cases h
    | asking | failing | accepting | ending => cases h
  | @calling call callStage method =>
    cases callStage with
    | confirmed =>
      cases h
      obtain ⟨agreement, untried, -⟩ := holds
      exact .handshake there (.calling method) method agreement untried
    | admitted | registered | waiting | withdrawing => cases h
  | sending =>
    cases h
    obtain ⟨agreement, untried, answers⟩ := holds
    exact .announcement rfl agreement answers untried

/-- Everything that a client says, it may say where it stands. -/
theorem Standing.speaks (standing : Standing settings s t) {a : Act State ε} {x : Traffic}
    (h : s.traffic a = some x) : Speaks settings s t x := by
  cases s.act_whose a with
  | reader =>
    obtain ⟨m, rfl⟩ := s.traffic_reader h
    exact .heard
  | outside absent other =>
    rw [Session.traffic_outside absent other] at h
    cases h
  | task there =>
    rw [Session.traffic_task there] at h
    cases standing.role there with
    | shakes shakes holds => exact shakes.speaks there holds h
    | polite polite proceeds stands announced =>
      cases proceeds with
      | begins begins =>
        rw [begins.silent] at h
        cases h
      | minds minds =>
        cases minds.harmless x h with
        | response => exact .response
        | request same permits there =>
          obtain ⟨agreement, answers⟩ := stands _ same
          exact .request agreement answers (announced there) permits

/-! ### How the shared state changes -/

/-- The ways from one state of a client's life to another. -/
inductive Lifecycle.Leads : Lifecycle → Lifecycle → Prop
  | begin : Leads .uninitialized .initializing
  | retry : Leads .failed .initializing
  | succeed : Leads .initializing .initialized
  | fail : Leads .initializing .failed
  | close {l : Lifecycle} : Leads l .closed

/-- What an act makes of the state that a client's tasks share. -/
inductive Changes (s s' : State) : Prop
  | minds : s'.agreement = s.agreement →
      s'.lifecycle = s.lifecycle ∨ s'.lifecycle = .closed → Changes s s'
  | begins : refusal s.lifecycle = none → s' = s.beginHandshake → Changes s s'
  | agrees {a : Agreement} : s' = s.agree a → Changes s s'
  | ends (next : Lifecycle) : next ∈ [.failed, .initialized] → s' = s.endHandshake next →
      Changes s s'

section Changes

variable {state state' : State}

/-- The lifecycle goes the ways that it may. -/
theorem Changes.leads (changes : Changes state state') :
    state'.lifecycle = state.lifecycle ∨ state.lifecycle.Leads state'.lifecycle := by
  cases changes with
  | minds _ lifecycle =>
    rcases lifecycle with same | closed
    · exact .inl same
    · rw [closed]
      exact .inr .close
  | begins free begun =>
    rw [beginHandshake_begun free] at begun
    subst begun
    generalize state.lifecycle = l at free
    cases l with
    | uninitialized => exact .inr .begin
    | failed => exact .inr .retry
    | initializing | initialized | closed => cases free
  | agrees kept =>
    subst kept
    unfold State.agree
    split <;> exact .inl rfl
  | ends next mem ended =>
    subst ended
    unfold State.endHandshake
    split
    · rename_i busy
      rw [busy]
      simp only [List.mem_cons, List.not_mem_nil, or_false] at mem
      rcases mem with rfl | rfl
      · exact .inr .fail
      · exact .inr .succeed
    · exact .inl rfl

/-- An agreement that is kept stays as it is. -/
theorem Changes.keeps (changes : Changes state state') {a : Agreement}
    (kept : state.agreement = some a) : state'.agreement = some a := by
  cases changes with
  | minds agreement => rw [agreement, kept]
  | begins free begun =>
    rw [begun, beginHandshake_begun free]
    exact kept
  | agrees agreed =>
    rw [agreed, State.agree, kept]
    exact kept
  | ends _ _ ended => rw [ended, endHandshake_agreement, kept]

end Changes

/-- What a step of a handshake makes of the shared state. -/
theorem Shakes.changes {stage : Stage} {next : Except Error Agreement → Program State ε Unit}
    (shakes : Shakes settings next stage task) : Changes s.shared (s.changed task) := by
  cases shakes with
  | ready =>
    cases stage with
    | asking | announcing => exact .minds rfl (.inl rfl)
    | failing e => exact .ends .failed (by simp) rfl
    | accepting a => exact .agrees (a := a) rfl
    | ending a => exact .ends .initialized (by simp) rfl
  | calling | sending => exact .minds rfl (.inl rfl)

/-- An act changes the shared state in one of these ways, or not at all. -/
theorem Standing.changes (standing : Standing settings s t) (a : Act State ε) :
    Changes s.shared (s.act a).shared := by
  have same {s' : State} (h : s' = s.shared) : Changes s.shared s' :=
    .minds (by rw [h]) (.inl (by rw [h]))
  cases s.act_whose a with
  | reader => exact same s.act_reads.shared
  | outside _ _ rest => exact same rest.shared
  | task there =>
    rw [(Session.act_leaves there).shared]
    cases standing.role there with
    | shakes shakes => exact shakes.changes
    | polite _ proceeds =>
      cases proceeds with
      | minds minds => exact .minds minds.agreement minds.lifecycle
      | begins begins => exact .begins begins.free begins.changed

/-! ### Every run -/

/-- A client is in order: it stands somewhere, it answers as a client does, and its session's
requests are accounted for. -/
structure InOrder (settings : Settings) (hooks : Hooks ε) (s : Session State ε)
    (t : List Traffic) : Prop where
  standing : Standing settings s t
  own : s.handlers = handlers settings hooks
  sound : Sound s
  named : s.label ≠ ""
  informed : Informed s t

theorem InOrder.act (inOrder : InOrder settings hooks s t) (a : Act State ε)
    (legal : ∀ p, a = .spawn p → Guest settings none p) :
    InOrder settings hooks (s.act a) (t ++ (s.traffic a).toList) where
  standing := inOrder.standing.act inOrder.own inOrder.informed legal
  own := (s.act_settings a).handlers.trans inOrder.own
  sound := inOrder.sound.act a
  named := by
    rw [(s.act_settings a).label]
    exact inOrder.named
  informed := inOrder.informed.act inOrder.sound inOrder.named a

theorem inOrder_of_start {label : String} {link : Transport.Memory} (named : label ≠ "")
    (h : start label settings hooks link = .ok s) : InOrder settings hooks s [] := by
  have fresh := Session.fresh_of_start h
  have absent (i : Nat) : s.tasks[i]? = none := by simp [fresh.tasks]
  have shared : s.handlers = handlers settings hooks ∧ s.shared = .initial := by
    unfold start Session.start at h
    split at h
    · cases h
    · cases h
      exact ⟨rfl, rfl⟩
  obtain ⟨own, initial⟩ := shared
  refine ⟨.idle (fun i task h => ?_) ?_ ?_ rfl, own, fresh.sound, fresh.label ▸ named, ?_⟩
  · rw [absent] at h
    cases h
  · rw [initial]
    exact List.mem_cons_self
  · rw [initial]
    rfl
  · intro i o answer ho
    simp [Session.ongoing?, absent] at ho

/-- A use of a client: acts on it in which only programs made of its operations are started. -/
def Uses (settings : Settings) (acts : List (Act State ε)) : Prop :=
  ∀ p, .spawn p ∈ acts → Use settings p

theorem Uses.of_append {before after : List (Act State ε)}
    (uses : Uses settings (before ++ after)) : Uses settings before ∧ Uses settings after :=
  ⟨fun p there => uses p (List.mem_append_left _ there),
    fun p there => uses p (List.mem_append_right _ there)⟩

/-- What each act of a client in order keeps, a run keeps. -/
theorem InOrder.run_keeps {P : Session State ε → List Traffic → Prop}
    (step : ∀ s t (a : Act State ε), InOrder settings hooks s t → P s t →
      P (s.act a) (t ++ (s.traffic a).toList))
    (inOrder : InOrder settings hooks s t) (start : P s t) {acts : List (Act State ε)}
    (uses : Uses settings acts) :
    InOrder settings hooks (s.run acts) (t ++ s.transcript acts) ∧
      P (s.run acts) (t ++ s.transcript acts) := by
  refine Session.transcript_induction (P := fun s t => InOrder settings hooks s t ∧ P s t)
    (fun s t a there both => ?_) ⟨inOrder, start⟩
  refine ⟨both.1.act a fun p same => (uses p ?_).guest, step s t a both.1 both.2⟩
  rwa [← same]

theorem inOrder_run {label : String} {link : Transport.Memory} (named : label ≠ "")
    (h : start label settings hooks link = .ok s) {acts : List (Act State ε)}
    (uses : Uses settings acts) : InOrder settings hooks (s.run acts) (s.transcript acts) :=
  ((inOrder_of_start named h).run_keeps (P := fun _ _ => True) (fun _ _ _ _ _ => trivial) trivial
    uses).1

/-- An agreement that a client keeps, it keeps for good. -/
theorem InOrder.agreement_run (inOrder : InOrder settings hooks s t) {a : Agreement}
    (kept : s.shared.agreement = some a) {acts : List (Act State ε)} (uses : Uses settings acts) :
    (s.run acts).shared.agreement = some a :=
  (inOrder.run_keeps (P := fun s _ => s.shared.agreement = some a)
    (fun _ _ act inOrder kept => (inOrder.standing.changes act).keeps kept) kept uses).2

/-- A client that was closed stays closed. -/
theorem InOrder.closed_run (inOrder : InOrder settings hooks s t)
    (closed : s.shared.lifecycle = .closed) {acts : List (Act State ε)}
    (uses : Uses settings acts) : (s.run acts).shared.lifecycle = .closed := by
  refine (inOrder.run_keeps (P := fun s _ => s.shared.lifecycle = .closed)
    (fun s _ act inOrder closed => ?_) closed uses).2
  rcases (inOrder.standing.changes act).leads with same | leads
  · rw [same, closed]
  · rw [closed] at leads
    generalize (s.act act).shared.lifecycle = l at leads
    cases leads
    rfl

/-- The announcement was tried once at most. -/
theorem Standing.attempts_le (standing : Standing settings s t) : attempts t ≤ 1 := by
  have zero (h : attempts t = 0) : attempts t ≤ 1 := by omega
  cases standing with
  | idle _ _ _ untried => exact zero untried
  | @busy _ _ stage _ underway =>
    have holds := underway.holds
    cases stage with
    | failing e => exact zero holds.2
    | asking | accepting | announcing => exact zero holds.2.1
    | ending a => exact Nat.le_of_eq holds.2.1
  | settled _ _ _ one => exact Nat.le_of_eq one

end Mcp.Client
