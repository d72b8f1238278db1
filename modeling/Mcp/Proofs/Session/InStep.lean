import Mcp.Proofs.Session.Face

/-!
Runs that look the same. Two runs are in step if they have the same acts, but for steps in between
that do not show (`InStep`): at each point of the one there is a point of the other with the same
face, and so the same happens to requests, the same is sent and the same closes return, at the same
times (`InStep.timed`).
-/

namespace Mcp.Session

variable {σ ε : Type}

/-- An act is nothing to the requests of a session, but perhaps a response that is handed out. -/
def Quiet (s : Session σ ε) (a : Act σ ε) : Prop := ∀ x, s.happening a = some x → ∃ r, x = .heard r

/-- Two runs look the same at each point: they take the same acts, and each may take steps in between
that do not show. -/
inductive InStep : Session σ ε → List (Act σ ε) → Session σ ε → List (Act σ ε) → Prop
  | done {s s' : Session σ ε} : s.face = s'.face → InStep s [] s' []
  | both {s s' : Session σ ε} {a : Act σ ε} {acts acts' : List (Act σ ε)} : s.face = s'.face →
      s.happening a = s'.happening a → InStep (s.act a) acts (s'.act a) acts' →
      InStep s (a :: acts) s' (a :: acts')
  | left {s s' : Session σ ε} {agent : Agent} {acts acts' : List (Act σ ε)} : s.face = s'.face →
      s.Quiet (.step agent) → InStep (s.act (.step agent)) acts s' acts' →
      InStep s (.step agent :: acts) s' acts'
  | right {s s' : Session σ ε} {agent : Agent} {acts acts' : List (Act σ ε)} : s.face = s'.face →
      s'.Quiet (.step agent) → InStep s acts (s'.act (.step agent)) acts' →
      InStep s acts s' (.step agent :: acts')

section InStep

variable {s s' : Session σ ε} {acts acts' : List (Act σ ε)}

theorem InStep.face (inStep : InStep s acts s' acts') : s.face = s'.face := by
  cases inStep with
  | done same | both same | left same | right same => exact same

theorem InStep.ends (inStep : InStep s acts s' acts') : (s.run acts).face = (s'.run acts').face := by
  induction inStep with
  | done same => exact same
  | both _ _ _ ih | left _ _ _ ih | right _ _ _ ih => exact ih

theorem InStep.symm (inStep : InStep s acts s' acts') : InStep s' acts' s acts := by
  induction inStep with
  | done same => exact .done same.symm
  | both same happens _ ih => exact .both same.symm happens.symm ih
  | left same quiet _ ih => exact .right same.symm quiet ih
  | right same quiet _ ih => exact .left same.symm quiet ih

theorem InStep.append {more more' : List (Act σ ε)} (inStep : InStep s acts s' acts')
    (later : InStep (s.run acts) more (s'.run acts') more') :
    InStep s (acts ++ more) s' (acts' ++ more') := by
  induction inStep with
  | done => exact later
  | both same happens _ ih => exact .both same happens (ih later)
  | left same quiet _ ih => exact .left same quiet (ih later)
  | right same quiet _ ih => exact .right same quiet (ih later)

/-- Each point of the one run has a point of the other that looks the same. -/
theorem InStep.split (inStep : InStep s acts s' acts') {before after : List (Act σ ε)}
    (parts : acts = before ++ after) : ∃ before' after', acts' = before' ++ after' ∧
      InStep s before s' before' ∧ InStep (s.run before) after (s'.run before') after' := by
  induction inStep generalizing before with
  | done same =>
    obtain ⟨rfl, rfl⟩ := List.append_eq_nil_iff.mp parts.symm
    exact ⟨[], [], rfl, .done same, .done same⟩
  | both same happens later ih =>
    cases before with
    | nil =>
      subst parts
      exact ⟨[], _, rfl, .done same, .both same happens later⟩
    | cons a before =>
      obtain ⟨rfl, rfl⟩ := List.cons.inj parts
      obtain ⟨before', after', rfl, first, rest⟩ := ih rfl
      exact ⟨_ :: before', after', rfl, .both same happens first, rest⟩
  | left same quiet later ih =>
    cases before with
    | nil =>
      subst parts
      exact ⟨[], _, rfl, .done same, .left same quiet later⟩
    | cons a before =>
      obtain ⟨rfl, rfl⟩ := List.cons.inj parts
      obtain ⟨before', after', rfl, first, rest⟩ := ih rfl
      exact ⟨before', after', rfl, .left same quiet first, rest⟩
  | right same quiet later ih =>
    obtain ⟨before', after', rfl, first, rest⟩ := ih parts
    exact ⟨_ :: before', after', rfl, .right same quiet first, rest⟩

/-- Time passes in neither of two runs in step, or in both. -/
theorem InStep.still (inStep : InStep s acts s' acts') (still : ∀ a ∈ acts, a.passes = 0) :
    ∀ a ∈ acts', a.passes = 0 := by
  induction inStep with
  | done => exact still
  | both _ _ _ ih =>
    obtain ⟨here, later⟩ := List.forall_mem_cons.mp still
    exact List.forall_mem_cons.mpr ⟨here, ih later⟩
  | left _ _ _ ih => exact ih (List.forall_mem_cons.mp still).2
  | right _ _ _ ih => exact List.forall_mem_cons.mpr ⟨rfl, ih still⟩

end InStep

/-! ### What happens when -/

/-- What acts are in some respect, each with its time. -/
def timed {β : Type} (view : Session σ ε → Act σ ε → Option β) (s : Session σ ε) :
    List (Act σ ε) → List (Nat × β)
  | [] => []
  | a :: acts => (view s a).toList.map (s.now, ·) ++ timed view (s.act a) acts

/-- A respect in which acts are the same if they look the same. -/
structure Shows {β : Type} (view : Session σ ε → Act σ ε → Option β) : Prop where
  same {s s' : Session σ ε} {a : Act σ ε} : s.face = s'.face → (s.act a).face = (s'.act a).face →
    s.happening a = s'.happening a → view s a = view s' a
  hides {s : Session σ ε} {agent : Agent} : (s.act (.step agent)).face = s.face →
    s.Quiet (.step agent) → view s (.step agent) = none

theorem InStep.timed {β : Type} {view : Session σ ε → Act σ ε → Option β} (shows : Shows view)
    {s s' : Session σ ε} {acts acts' : List (Act σ ε)} (inStep : InStep s acts s' acts') :
    timed view s acts = timed view s' acts' := by
  induction inStep with
  | done => rfl
  | @both s s' a acts acts' same happens later ih =>
    have now : s.now = s'.now := congrArg (fun s => s.now) same
    rw [Session.timed, Session.timed, shows.same same later.face happens, ih, now]
  | left same quiet later ih =>
    rw [Session.timed, shows.hides (later.face.trans same.symm) quiet, ih]
    rfl
  | @right s s' agent acts acts' same quiet later ih =>
    have hidden := shows.hides (later.face.symm.trans same) quiet
    calc Session.timed view s acts
      _ = [] ++ Session.timed view (s'.act (.step agent)) acts' := ih
      _ = Session.timed view s' (.step agent :: acts') := by
        rw [Session.timed, hidden]
        rfl

def Happening.isHeard : Happening → Bool
  | .heard _ => true
  | _ => false

/-- What an act is to a request beside the handing out of a response. -/
def deed (s : Session σ ε) (a : Act σ ε) : Option Happening :=
  (s.happening a).filter fun x => !x.isHeard

/-- The message that an act puts on the wire. -/
def sends (s : Session σ ε) (a : Act σ ε) : Option Message := (s.traffic a).bind Traffic.sent?

/-- Whether a close is about to return. -/
def Task.returns : Task σ ε → Bool
  | .closing .releasing _ => true
  | _ => false

/-- The task whose close an act ends. -/
def closes (s : Session σ ε) : Act σ ε → Option Nat
  | .step (.task i) => if s.tasks[i]?.any Task.returns then some i else none
  | _ => none

theorem deed_shows : Shows (σ := σ) (ε := ε) deed where
  same {s s' a} _ _ happens := by rw [deed, deed, happens]
  hides {s agent} _ quiet := by
    rw [deed]
    cases h : s.happening (.step agent) with
    | none => rfl
    | some x =>
      obtain ⟨r, rfl⟩ := quiet x h
      rfl

theorem sends_shows : Shows (σ := σ) (ε := ε) sends where
  same {s s' a} same after _ := by
    have sent : s.link.sent = s'.link.sent := congrArg (fun s => s.link.sent) same
    have sent' : (s.act a).link.sent = (s'.act a).link.sent :=
      congrArg (fun s => s.link.sent) after
    rw [act_sent, act_sent, sent, List.append_cancel_left_eq] at sent'
    show (s.traffic a).bind Traffic.sent? = (s'.traffic a).bind Traffic.sent?
    revert sent'
    cases (s.traffic a).bind Traffic.sent? <;> cases (s'.traffic a).bind Traffic.sent? <;> simp
  hides {s agent} same _ := by
    have sent : (s.act (.step agent)).link.sent = s.link.sent :=
      congrArg (fun s => s.link.sent) same
    rw [act_sent, List.append_right_eq_self] at sent
    exact Option.toList_eq_nil_iff.mp sent

theorem Task.returns_calm (task : Task σ ε) : task.calm.returns = task.returns := by
  cases task with
  | closing stage next =>
    cases stage with
    | parked deadline woken => cases woken <;> rfl
    | draining | watching | stopping | joining | clearing | releasing => rfl
  | ready | sending | calling | sleeping | awaiting => rfl

theorem returns_face (s : Session σ ε) (i : Nat) :
    s.face.tasks[i]?.any Task.returns = s.tasks[i]?.any Task.returns := by
  rw [tasks_face]
  cases s.tasks[i]? with
  | none => rfl
  | some task => exact task.returns_calm

theorem returns_own {s : Session σ ε} {i : Nat} (returns : s.tasks[i]?.any Task.returns = true) :
    (s.act (.step (.task i))).tasks[i]?.any Task.returns = false := by
  cases h : s.tasks[i]? with
  | none =>
    rw [h] at returns
    cases returns
  | some task =>
    rw [h] at returns
    rw [act_own h]
    cases task with
    | closing stage next =>
      cases stage with
      | releasing => rfl
      | draining | watching | parked | stopping | joining | clearing => cases returns
    | ready | sending | calling | sleeping | awaiting => cases returns

theorem closes_shows : Shows (σ := σ) (ε := ε) closes where
  same {s s' a} same _ _ := by
    cases a with
    | step agent =>
      cases agent with
      | task i =>
        have here : s.tasks[i]?.any Task.returns = s'.tasks[i]?.any Task.returns := by
          rw [← returns_face, same, returns_face]
        simp only [closes, here]
      | forwarder | reader => rfl
    | spawn | inject | failSends | unhealthy | deafen | endSource | advance | drop => rfl
  hides {s agent} same _ := by
    cases agent with
    | task i =>
      cases returns : s.tasks[i]?.any Task.returns with
      | false => simp only [closes, returns, Bool.false_eq_true, if_false]
      | true =>
        have after := returns_own returns
        rw [← returns_face, same, returns_face, returns] at after
        cases after
    | forwarder | reader => rfl

end Mcp.Session
