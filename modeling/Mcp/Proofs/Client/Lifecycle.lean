import Mcp.Proofs.Client.Conduct

/-!
The life of a client. Main statements: its lifecycle goes the ways that it may, one handshake is in
flight at a time, and the agreement of the one that succeeded is kept for good
(`one_agreement_is_kept`); a handshake that was begun fails and leaves nothing, or succeeds and
leaves the client initialized unless it was closed meanwhile (`handshakes_end`). A client that is
closed while its handshake is in flight may still see the handshake succeed
(`handshake_may_outlive_close`).
-/

namespace Mcp.Client

open Program.Operation
open Schema (Agreement)
open Session (Act Task Traffic)

variable {ε : Type} {settings : Settings} {hooks : Hooks ε}
  {next : Except Error Agreement → Program State ε Unit}
  {s : Session State ε} {t : List Traffic} {i : Nat}

/-! ### Accepted handshakes -/

/-- A handshake was accepted: its agreement is kept, or about to be. -/
def Accepted (settings : Settings) (s : Session State ε) : Prop :=
  (∃ a, s.shared.agreement = some a) ∨
    ∃ (i : Nat) (task : Task State ε) (next : Except Error Agreement → Program State ε Unit)
      (a : Agreement), s.tasks[i]? = some task ∧ Shakes settings next (.accepting a) task

theorem Standing.accepted_act (standing : Standing settings s t) (accepted : Accepted settings s)
    (act : Act State ε) : Accepted settings (s.act act) := by
  rcases accepted with ⟨a, kept⟩ | ⟨i, task, next, a, there, shakes⟩
  · exact .inl ⟨a, (standing.changes act).keeps kept⟩
  · by_cases own : act = .step (.task i)
    · subst own
      have agrees : s.changed task = s.shared.agree a := by
        cases shakes
        rfl
      left
      rw [(Session.act_leaves there).shared, agrees, State.agree]
      split
      · rename_i kept
        exact Option.isSome_iff_exists.mp kept
      · exact ⟨a, rfl⟩
    · obtain ⟨task', there', told⟩ := Session.act_elsewhere there own
      exact .inr ⟨i, task', next, a, there', shakes.told told⟩

/-- No handshake is asked for once one was accepted. -/
theorem Standing.asks_none (standing : Standing settings s t) (accepted : Accepted settings s)
    (act : Act State ε) : asks (s.traffic act).toList = [] := by
  cases h : s.traffic act with
  | none => rfl
  | some x =>
    cases standing.speaks h with
    | heard | response => rfl
    | request _ _ _ permits => simp [asks, askId?, permits.other]
    | announcement attempt =>
      cases x with
      | offered m result =>
        cases m with
        | request | response => cases attempt
        | notification => rfl
      | withheld | heard => rfl
    | handshake there shakes _ agreement =>
      rcases accepted with ⟨a, kept⟩ | ⟨j, task', next', a, there', shakes'⟩
      · rw [agreement] at kept
        cases kept
      · obtain rfl := (standing.alone there ⟨_, _, shakes⟩).2 j task' there' ⟨_, _, shakes'⟩
        cases there.symm.trans there'
        cases shakes' with
        | ready => cases shakes

/-! ### What is known where -/

/-- Where a handshake may begin, nothing is known of the server and nothing was announced. -/
theorem Standing.unknown (standing : Standing settings s t)
    (free : refusal s.shared.lifecycle = none) :
    s.shared.agreement = none ∧ attempts t = 0 := by
  have outside {states : List Lifecycle} (mem : s.shared.lifecycle ∈ states)
      (busy : ∀ l ∈ states, refusal l ≠ none) : False := busy _ mem free
  cases standing with
  | idle _ _ agreement untried => exact ⟨agreement, untried⟩
  | busy underway => exact (outside underway.lifecycle (by decide)).elim
  | settled _ lifecycle => exact (outside lifecycle (by decide)).elim

/-- What is known of the server is what it answered to the last handshake. -/
theorem Standing.answers (standing : Standing settings s t) {a : Agreement}
    (kept : s.shared.agreement = some a) : AnswersLast t a := by
  have absent (agreement : s.shared.agreement = none) : AnswersLast t a := by
    rw [agreement] at kept
    cases kept
  have same {b : Agreement} (agreement : s.shared.agreement = some b)
      (answers : AnswersLast t b) : AnswersLast t a := by
    cases agreement.symm.trans kept
    exact answers
  cases standing with
  | idle _ _ agreement => exact absent agreement
  | @busy _ _ stage _ underway =>
    have holds := underway.holds
    cases stage with
    | asking | failing | accepting => exact absent holds.1
    | announcing => exact same holds.1 holds.2.2
    | ending => exact same holds.1 holds.2.2.1
  | settled _ _ agreement _ answers => exact same agreement answers

theorem Standing.agreement_some (standing : Standing settings s t)
    (lifecycle : s.shared.lifecycle = .initialized) : ∃ a, s.shared.agreement = some a := by
  cases standing with
  | idle _ mem =>
    rw [lifecycle] at mem
    exact absurd mem (by decide)
  | busy underway =>
    have mem := underway.lifecycle
    rw [lifecycle] at mem
    exact absurd mem (by decide)
  | settled _ _ agreement => exact ⟨_, agreement⟩

/-- An initializing client has a task in the course of a handshake. -/
theorem Standing.shaking (standing : Standing settings s t)
    (lifecycle : s.shared.lifecycle = .initializing) :
    ∃ (i : Nat) (task : Task State ε), s.tasks[i]? = some task ∧ Shaking settings task := by
  cases standing with
  | idle _ mem | settled _ mem =>
    rw [lifecycle] at mem
    exact absurd mem (by decide)
  | busy underway => exact ⟨_, _, underway.here, _, _, underway.shakes⟩

/-- A task that waits for the answer to a handshake is in the course of one. -/
theorem Standing.shaking_of_ongoing (standing : Standing settings s t) {o : Session.Ongoing State ε}
    (ho : s.ongoing? i = some o) (method : o.call.method = "initialize") :
    ∃ task, s.tasks[i]? = some task ∧ Shaking settings task := by
  obtain ⟨call, stage, next⟩ := o
  have there := Session.ongoing?_eq_some.mp ho
  refine ⟨_, there, ?_⟩
  cases standing.role there with
  | shakes shakes => exact ⟨_, _, shakes⟩
  | polite polite =>
    cases polite with
    | calling permits => exact absurd method permits.other

/-! ### A handshake in a run -/

/-- What a run has made of a task that was about to shake hands, which goes on as `next` says; the
transcript before the run is `t`. -/
inductive HandshakeRuns (settings : Settings) (next : Except Error Agreement → Program State ε Unit)
    (s : Session State ε) (t : List Traffic) (i : Nat) (acts : List (Act State ε)) : Prop
  | waits : (s.run acts).tasks[i]? = some (.ready ((handshake settings).before next)) →
      HandshakeRuns settings next s t i acts
  /-- It was refused and changed nothing. -/
  | refused (before after : List (Act State ε)) {e : Error} :
      acts = before ++ .step (.task i) :: after →
      refusal (s.run before).shared.lifecycle = some e →
      (s.run (before ++ [.step (.task i)])).tasks[i]? = some (.ready (next (.error e))) →
      (s.run (before ++ [.step (.task i)])).shared = (s.run before).shared →
      HandshakeRuns settings next s t i acts
  | underway {stage : Stage} {task : Task State ε} :
      Underway settings next (s.run acts) (t ++ s.transcript acts) i stage task →
      HandshakeRuns settings next s t i acts
  | ended (before after : List (Act State ε)) : acts = before ++ .step (.task i) :: after →
      Ends next (s.run before) (s.run (before ++ [.step (.task i)]))
        (t ++ s.transcript (before ++ [.step (.task i)])) i →
      HandshakeRuns settings next s t i acts

/-- An act may come first. -/
theorem HandshakeRuns.after_act {a : Act State ε} {acts : List (Act State ε)}
    (runs : HandshakeRuns settings next (s.act a) (t ++ (s.traffic a).toList) i acts) :
    HandshakeRuns settings next s t i (a :: acts) := by
  have told (acts : List (Act State ε)) : t ++ s.transcript (a :: acts) =
      (t ++ (s.traffic a).toList) ++ (s.act a).transcript acts := by
    rw [Session.transcript, List.append_assoc]
  cases runs with
  | waits h => exact .waits h
  | refused before after split why h same =>
    subst split
    exact .refused (a :: before) after rfl why h same
  | underway underway =>
    rw [← told] at underway
    exact .underway underway
  | ended before after split ends =>
    subst split
    rw [← told] at ends
    exact .ended (a :: before) after rfl ends

theorem InOrder.act_uses (inOrder : InOrder settings hooks s t) {a : Act State ε}
    {acts : List (Act State ε)} (uses : Uses settings (a :: acts)) :
    InOrder settings hooks (s.act a) (t ++ (s.traffic a).toList) ∧ Uses settings acts := by
  refine ⟨inOrder.act a fun p same => (uses p ?_).guest,
    fun p there => uses p (List.mem_cons_of_mem _ there)⟩
  rw [same]
  exact List.mem_cons_self

theorem Underway.runs {stage : Stage} {task : Task State ε}
    (underway : Underway settings next s t i stage task) (inOrder : InOrder settings hooks s t)
    {acts : List (Act State ε)} (uses : Uses settings acts) :
    HandshakeRuns settings next s t i acts := by
  induction acts generalizing s t stage task with
  | nil =>
    rw [← List.append_nil t] at underway
    exact .underway underway
  | cons a acts ih =>
    obtain ⟨inOrder', uses'⟩ := inOrder.act_uses uses
    by_cases own : a = .step (.task i)
    · subst own
      have goes := underway.act_own inOrder.informed
      rw [← Session.traffic_task underway.here] at goes
      cases goes with
      | on underway' => exact .after_act (ih underway' inOrder' uses')
      | ends ends =>
        refine .ended [] acts rfl ?_
        rw [List.nil_append, Session.transcript, Session.transcript, List.append_nil]
        exact ends
    · have bystands := inOrder.standing.bystands underway.here ⟨_, _, underway.shakes⟩ own
      obtain ⟨task', underway'⟩ := underway.act_elsewhere bystands own
      exact .after_act (ih underway' inOrder' uses')

/-- What a task that shakes hands makes of its first step. -/
theorem handshake_turned (s : Session State ε)
    (next : Except Error Agreement → Program State ε Unit) :
    s.turned (.ready ((handshake settings).before next)) =
      .ready (Stage.open_ next settings s.shared) := by
  rw [handshake_before]
  rfl

theorem InOrder.handshake_runs (inOrder : InOrder settings hooks s t)
    (h : s.tasks[i]? = some (.ready ((handshake settings).before next)))
    {acts : List (Act State ε)} (uses : Uses settings acts) :
    HandshakeRuns settings next s t i acts := by
  induction acts generalizing s t with
  | nil => exact .waits h
  | cons a acts ih =>
    obtain ⟨inOrder', uses'⟩ := inOrder.act_uses uses
    by_cases own : a = .step (.task i)
    · subst own
      have here := Session.act_own h
      have shared := (Session.act_leaves h).shared
      have changed : s.changed (.ready ((handshake settings).before next)) =
          s.shared.beginHandshake := by
        rw [handshake_before]
        rfl
      have silent : s.traffic (.step (.task i)) = none := by
        rw [Session.traffic_task h, handshake_before]
        rfl
      rw [changed] at shared
      rw [handshake_turned, Stage.open_] at here
      cases refused : refusal s.shared.lifecycle with
      | some e =>
        rw [refused] at here
        rw [beginHandshake_refused refused] at shared
        exact .refused [] acts rfl refused here shared
      | none =>
        rw [refused] at here
        rw [beginHandshake_begun refused] at shared
        obtain ⟨agreement, untried⟩ := inOrder.standing.unknown refused
        have underway : Underway settings next (s.act (.step (.task i)))
            (t ++ (s.traffic (.step (.task i))).toList) i .asking
            (.ready (Stage.asking.program next settings)) := by
          refine ⟨here, .ready, ?_, ?_, ?_, by rintro _ _ _ ⟨⟩⟩
          · rw [shared]
            exact List.mem_cons_self
          · rwa [shared]
          · rw [silent]
            exact Quiet.nil.attempts_eq.trans untried
        exact .after_act (underway.runs inOrder' uses')
    · obtain ⟨task', h', told⟩ := Session.act_elsewhere h own
      cases told with
      | same => exact .after_act (ih inOrder' h' uses')

/-! ### Every run -/

/-- What a client promises about its life, after a run. -/
structure KeepsOneAgreement (settings : Settings) (s : Session State ε)
    (acts : List (Act State ε)) : Prop where
  /-- The lifecycle goes the ways that it may. -/
  ways {before after : List (Act State ε)} {a : Act State ε} : acts = before ++ a :: after →
    (s.run (before ++ [a])).shared.lifecycle = (s.run before).shared.lifecycle ∨
      (s.run before).shared.lifecycle.Leads (s.run (before ++ [a])).shared.lifecycle
  /-- A client that was closed stays closed. -/
  closed {before after : List (Act State ε)} : acts = before ++ after →
    (s.run before).shared.lifecycle = .closed → (s.run acts).shared.lifecycle = .closed
  /-- One handshake is in flight at a time, -/
  one {i j : Nat} {task task' : Task State ε} : (s.run acts).tasks[i]? = some task →
    (s.run acts).tasks[j]? = some task' → Shaking settings task → Shaking settings task' → i = j
  /-- to which every request for a handshake belongs, -/
  calls {i : Nat} {o : Session.Ongoing State ε} : (s.run acts).ongoing? i = some o →
    o.call.method = "initialize" →
    ∃ task, (s.run acts).tasks[i]? = some task ∧ Shaking settings task
  /-- and there is one if the client is initializing. -/
  inFlight : (s.run acts).shared.lifecycle = .initializing →
    ∃ (i : Nat) (task : Task State ε), (s.run acts).tasks[i]? = some task ∧ Shaking settings task
  /-- No handshake is asked for after one was accepted. -/
  accepted {before after : List (Act State ε)} : acts = before ++ after →
    Accepted settings (s.run before) → asks ((s.run before).transcript after) = []
  /-- Nothing is known of the server before a handshake and after a failed one. -/
  absent : (s.run acts).shared.lifecycle = .uninitialized ∨
    (s.run acts).shared.lifecycle = .failed → (s.run acts).shared.agreement = none
  /-- An agreement is kept for good. -/
  kept {before after : List (Act State ε)} {a : Agreement} : acts = before ++ after →
    (s.run before).shared.agreement = some a → (s.run acts).shared.agreement = some a
  /-- An initialized client has one. -/
  present : (s.run acts).shared.lifecycle = .initialized →
    ∃ a, (s.run acts).shared.agreement = some a
  /-- It is on a version that is understood, and was the answer to the last handshake that was asked
  for. -/
  answers {a : Agreement} : (s.run acts).shared.agreement = some a →
    AnswersLast (s.transcript acts) a

/-- A client keeps one agreement, in every run. -/
theorem one_agreement_is_kept {label : String} {link : Transport.Memory} (named : label ≠ "")
    (h : start label settings hooks link = .ok s) {acts : List (Act State ε)}
    (uses : Uses settings acts) : KeepsOneAgreement settings s acts := by
  have standing := (inOrder_run named h uses).standing
  refine
    { ways := ?ways, closed := ?closed, one := ?one, calls := standing.shaking_of_ongoing,
      inFlight := standing.shaking, accepted := ?accepted, absent := ?absent, kept := ?kept,
      present := standing.agreement_some, answers := standing.answers }
  case ways =>
    rintro before after a rfl
    rw [Session.run_append]
    exact ((inOrder_run named h uses.of_append.1).standing.changes a).leads
  case closed =>
    rintro before after rfl closed
    rw [Session.run_append]
    exact (inOrder_run named h uses.of_append.1).closed_run closed uses.of_append.2
  case one =>
    intro i j task task' there there' shaking shaking'
    exact (standing.alone there' shaking').2 i task there shaking
  case accepted =>
    rintro before after rfl accepted
    have inOrder := inOrder_run named h uses.of_append.1
    have same := (inOrder.run_keeps
      (P := fun s' t => Accepted settings s' ∧ asks t = asks (s.transcript before))
      (fun s' t a inOrder both => ⟨inOrder.standing.accepted_act both.1 a, by
        rw [asks_append, inOrder.standing.asks_none both.1, List.append_nil, both.2]⟩)
      ⟨accepted, rfl⟩ uses.of_append.2).2.2
    rw [asks_append] at same
    exact List.append_right_eq_self.mp same
  case absent =>
    intro lifecycle
    have free : refusal (s.run acts).shared.lifecycle = none := by
      rcases lifecycle with same | same
      · rw [same]
        rfl
      · rw [same]
        rfl
    exact (standing.unknown free).1
  case kept =>
    rintro before after a rfl kept
    rw [Session.run_append]
    exact (inOrder_run named h uses.of_append.1).agreement_run kept uses.of_append.2

/-- The first handshake runs out of time, its answer comes late, and the second is answered before
the client is closed: the second answer is kept. -/
theorem one_agreement_is_kept_on_retry : ∃ (s : Session State Unit) (acts : List (Act State Unit)),
    start "sess" .default ⟨[], [], [], fun _ => ⟨[], none⟩⟩ .new = .ok s ∧
      Uses .default acts ∧ KeepsOneAgreement .default s acts ∧
      asks (s.transcript acts) = [.text "sess-1", .text "sess-2"] ∧
      (s.run acts).shared.agreement.map (·.serverInfo.name) = some "second" := by
  have started : start (ε := Unit) "sess" .default ⟨[], [], [], fun _ => ⟨[], none⟩⟩ .new =
    .ok _ := rfl
  have uses : Uses (ε := Unit) .default
      [.spawn ((handshake .default).before fun _ => (handshake .default).before fun _ => .done ()),
        .step (.task 0), .step (.task 0), .step (.task 0), .step (.task 0), .step (.task 0),
        .advance 30000, .step (.task 0), .step (.task 0), .step (.task 0),
        .step (.task 0), .step (.task 0), .step (.task 0), .step (.task 0), .step (.task 0),
        .inject (.response (.success (.text "sess-1")
          (Agreement.toJson ⟨"2025-03-26", .none, ⟨"first", "1"⟩, none⟩))),
        .inject (.response (.success (.text "sess-2")
          (Agreement.toJson ⟨"2025-03-26", .none, ⟨"second", "1"⟩, none⟩))),
        .step .forwarder, .step .forwarder, .step .reader, .step .reader,
        .step (.task 0), .step (.task 0), .step (.task 0), .step (.task 0), .step (.task 0),
        .spawn ((close false).before fun _ => .done ()), .step (.task 1), .step (.task 1)] := by
    intro p there
    simp only [List.mem_cons, Act.spawn.injEq, reduceCtorEq, List.not_mem_nil, or_false,
      false_or] at there
    rcases there with rfl | rfl
    · exact .operation .handshake fun _ => .operation .handshake fun _ => .done
    · exact .operation .close fun _ => .done
  exact ⟨_, _, started, uses, one_agreement_is_kept (by decide) started uses, rfl, rfl⟩

/-- Every handshake that is begun ends as `Ends` says, if it ends: it fails and leaves nothing, or
it succeeds, its agreement is kept, and the client is initialized unless it was closed by then. -/
theorem handshakes_end {label : String} {link : Transport.Memory} (named : label ≠ "")
    (h : start label settings hooks link = .ok s) {before later : List (Act State ε)}
    (uses : Uses settings (before ++ later))
    (there : (s.run before).tasks[i]? = some (.ready ((handshake settings).before next))) :
    HandshakeRuns settings next (s.run before) (s.transcript before) i later :=
  (inOrder_run named h uses.of_append.1).handshake_runs there uses.of_append.2

/-- A handshake that is answered while its client closes gracefully. -/
theorem handshakes_end_while_closing : ∃ (s : Session State (Except Error Agreement))
    (before later : List (Act State (Except Error Agreement))),
    start "sess" .default ⟨[], [], [], fun _ => ⟨[], none⟩⟩ .new = .ok s ∧
      Uses .default (before ++ later) ∧
      (s.run before).tasks[0]? =
        some (.ready ((handshake .default).before fun r => .emit r (.done ()))) ∧
      HandshakeRuns .default (fun r => .emit r (.done ())) (s.run before) (s.transcript before) 0
        later ∧
      (s.run (before ++ later)).shared.lifecycle = .closed := by
  have started : start (ε := Except Error Agreement) "sess" .default
    ⟨[], [], [], fun _ => ⟨[], none⟩⟩ .new = .ok _ := rfl
  have uses : Uses (ε := Except Error Agreement) .default
      ([.spawn ((handshake .default).before fun r => .emit r (.done ()))] ++
        [.step (.task 0), .step (.task 0), .step (.task 0), .step (.task 0), .step (.task 0),
          .spawn ((close true).before fun _ => .done ()), .step (.task 1), .step (.task 1),
          .inject (.response (.success (.text "sess-1")
            (Agreement.toJson ⟨"2025-03-26", .none, ⟨"server", "1"⟩, none⟩))),
          .step .forwarder, .step .reader, .step (.task 0), .step (.task 0), .step (.task 0),
          .step (.task 0), .step (.task 0), .step (.task 0)]) := by
    intro p there
    simp only [List.cons_append, List.nil_append, List.mem_cons, Act.spawn.injEq, reduceCtorEq,
      List.not_mem_nil, or_false, false_or] at there
    rcases there with rfl | rfl
    · exact .operation .handshake fun _ => .emit .done
    · exact .operation .close fun _ => .done
  exact ⟨_, _, _, started, uses, rfl, handshakes_end (by decide) started uses rfl, rfl⟩

/-- That a client closed during its handshake never sees the handshake succeed is too much to say:
one that closes gracefully lets the request for it be answered, and then keeps the agreement,
announces itself and calls the handshake a success. -/
theorem handshake_may_outlive_close : ∃ s : Session State (Except Error Agreement),
    start "sess" .default ⟨[], [], [], fun _ => ⟨[], none⟩⟩ .new = .ok s ∧
      ∃ (before later : List (Act State (Except Error Agreement)))
        (o : Session.Ongoing State (Except Error Agreement)) (a : Agreement),
        before.head? = some (.spawn ((handshake .default).before fun r => .emit r (.done ()))) ∧
        Uses .default (before ++ later) ∧
        (s.run before).shared = ⟨.closed, none⟩ ∧
        (s.run before).ongoing? 0 = some o ∧ o.call.method = "initialize" ∧
        (s.run (before ++ later)).log = [.ok a] ∧
        (s.run (before ++ later)).shared = ⟨.closed, some a⟩ ∧
        announcement ∈ (s.run (before ++ later)).link.sent := by
  refine ⟨_, rfl,
    [.spawn ((handshake .default).before fun r => .emit r (.done ())),
      .step (.task 0), .step (.task 0), .step (.task 0), .step (.task 0), .step (.task 0),
      .spawn ((close true).before fun _ => .done ()), .step (.task 1), .step (.task 1)],
    [.inject (.response (.success (.text "sess-1")
        (Agreement.toJson ⟨"2025-03-26", .none, ⟨"server", "1"⟩, none⟩))),
      .step .forwarder, .step .reader, .step (.task 0), .step (.task 0), .step (.task 0),
      .step (.task 0), .step (.task 0), .step (.task 0)],
    _, _, rfl, ?_, rfl, rfl, rfl, rfl, rfl, List.mem_of_getElem? (i := 1) rfl⟩
  intro p there
  simp only [List.cons_append, List.nil_append, List.mem_cons, Act.spawn.injEq, reduceCtorEq,
    List.not_mem_nil, or_false, false_or] at there
  rcases there with rfl | rfl
  · exact .operation .handshake fun _ => .emit .done
  · exact .operation .close fun _ => .done

end Mcp.Client
