import Mcp.Proofs.Session.Draining

/-!
What a graceful close promises. `graceful_close` says it of every run in which nothing else closes the
session: it does not stop early while a request is in flight that was so when it was called, it stops
when its time is over at the latest, and of the requests in flight those end with their response to
which one was handed out, and the others with the news that the transport is closed, unless they met
their own failure or the end of their own time first.
-/

namespace Mcp.Session

variable {σ ε : Type}

/-! ### Requests that are answered -/

section Answered

variable {s : Session σ ε} {j deadline : Nat} {call : Call}
  {next : Except Error Json → Program σ ε Unit}

theorem answered_of_heard (sound : Sound s) {a : Act σ ε} {r : Response}
    (ho : s.ongoing? j = some ⟨call, .waiting deadline, next⟩) (empty : call.slot = .empty)
    (heard : s.happening a = some (.heard r)) (own : Response.reaches r call.id = true) :
    (s.act a).tasks[j]? =
      some (.calling { call with slot := .answered r.answer } (.waiting deadline) next) := by
  have m := s.act_moves a
  rw [heard] at m
  cases m with
  | advance _ step => cases step
  | hear _ requests =>
    have after := (requests j).trans (sound.hear_eq r j)
    have inside : (Ongoing.mk call (.waiting deadline) next).inTable = true :=
      Ongoing.inTable_iff.mpr ⟨by simp, empty⟩
    rw [ho, Option.map_some, Ongoing.tell, inside, own] at after
    have here := ongoing?_eq_some.mp after
    simpa [Ongoing.fill, empty, Slot.fill] using here

/-- A request that has its answer hands it to its caller with its own next step, and nobody else
changes that. -/
theorem answered_run {answer : Except RpcError Json} (filled : call.slot = .answered answer)
    (h : s.tasks[j]? = some (.calling call (.waiting deadline) next)) (later : List (Act σ ε)) :
    (s.run later).tasks[j]? = some (.calling call (.waiting deadline) next) ∨
      ∃ first rest, later = first ++ .step (.task j) :: rest ∧
        (s.run (first ++ [.step (.task j)])).tasks[j]? =
          some (.ready (next (outcomeOf answer))) := by
  induction later generalizing s with
  | nil => exact .inl h
  | cons a later ih =>
    by_cases own : a = .step (.task j)
    · subst own
      refine .inr ⟨[], later, rfl, ?_⟩
      rw [List.nil_append, run_cons, run_nil, act_own h, turned, calledOn, filled]
      rfl
    · obtain ⟨task', h', told⟩ := act_elsewhere h own
      have same : task' = .calling call (.waiting deadline) next := by
        cases told with
        | same => rfl
        | news gets =>
          rw [filled] at gets
          cases gets
          rw [← filled]
      rw [same] at h'
      rcases ih h' with still | ⟨first, rest, rfl, handed⟩
      · exact .inl still
      · exact .inr ⟨a :: first, rest, rfl, handed⟩

end Answered

/-! ### Every run -/

/-- In a run of a session a task calls a graceful close, and nothing else closes the session. -/
structure ClosesAlone (s : Session σ ε) (before : List (Act σ ε)) (i : Nat)
    (next : Except Error Unit → Program σ ε Unit) (acts : List (Act σ ε)) : Prop where
  calls : (s.run before).tasks[i]? = some (.ready (.close true next))
  open_ : (s.run before).stopped = false
  alone : Along (Alone i) (s.run before) (.step (.task i) :: acts)

/-- What a session promises about the graceful close that a task calls in `s`, when the session has
come to `t` by the call and these acts. -/
structure GracefulClose (s : Session σ ε) (i : Nat) (acts : List (Act σ ε)) (t : Session σ ε) :
    Prop where
  /-- If the session was stopped before the time of the close was over, no request is in the table that
  was there at the call. -/
  waits : t.stopped = true → t.now < s.now + s.timeouts.close →
    ∀ entry ∈ s.pending, entry ∉ t.pending
  /-- When that time is over the close does not wait any more. -/
  late : s.now + s.timeouts.close ≤ t.now → t.stopped = false →
    t.enabled (.task i) = true ∧ t.StopsWithin i 6
  /-- So where time passes only when nobody has a step to take, it does not pass beyond that time
  before the close has returned and everything has settled. -/
  inTime : Along Punctual s (.step (.task i) :: acts) → s.now + s.timeouts.close < t.now →
    t.Settled ∧ t.link.status = .closed
  /-- Nor does the close wait when no request is in the table. -/
  atOnce : t.pending = [] → t.stopped = false →
    t.enabled (.task i) = true ∧ t.StopsWithin i 6
  /-- A request that waits for its response when that is handed out gets it: nobody changes that, and
  the next step of its own task hands it to the caller. -/
  answered {j deadline : Nat} {call : Call} {next : Except Error Json → Program σ ε Unit}
    {a : Act σ ε} {r : Response} : t.ongoing? j = some ⟨call, .waiting deadline, next⟩ →
    call.slot = .empty → t.happening a = some (.heard r) → r.id = some (.text call.id) →
    ∀ later, ((t.act a).run later).tasks[j]? =
        some (.calling { call with slot := .answered r.answer } (.waiting deadline) next) ∨
      ∃ first rest, later = first ++ .step (.task j) :: rest ∧
        ((t.act a).run (first ++ [.step (.task j)])).tasks[j]? =
          some (.ready (next (outcomeOf r.answer)))
  /-- A request that is in the table when the session is stopped ends with the news that the transport
  is closed, or with a failure of its own that it met first; and it has ended when the closing has
  settled. -/
  inFlight {j : Nat} {o : Ongoing σ ε} : t.stopped = true → t.ongoing? j = some o →
    o.call.slot = .empty → ∀ later,
      (∀ outcome, .ended o.call.id outcome ∈ t.history later →
        EndsClosed (t.history later) o outcome) ∧
      ((t.run later).Settled → Ended (t.history later) o.call.id)
  /-- After the close has returned the transport is closed, and the table holds only requests that are
  being turned back. -/
  returned : Returned s (.step (.task i) :: acts) → t.link.status = .closed ∧
    ∀ entry ∈ t.pending, ∃ o, t.ongoing? entry.2 = some o ∧ o.call.id = entry.1 ∧
      (o.stage = .registered ∨ o.stage = .withdrawing .transportClosed)

/-- After a close has returned the table holds only requests that are being turned back. -/
theorem Released.table {s : Session σ ε} (released : s.Released) (sound : Sound s)
    {entry : String × Nat} (there : entry ∈ s.pending) :
    ∃ o, s.ongoing? entry.2 = some o ∧ o.call.id = entry.1 ∧
      (o.stage = .registered ∨ o.stage = .withdrawing .transportClosed) := by
  obtain ⟨o, ho, same, inside⟩ := sound.mem_table.mp there
  obtain ⟨later, empty⟩ := Ongoing.inTable_iff.mp inside
  refine ⟨o, ho, same, ?_⟩
  have turned := released.cleared.turnedBack ho empty
  cases stage : o.stage with
  | admitted => exact absurd stage later
  | registered => exact .inl rfl
  | confirmed | waiting =>
    rw [stage] at turned
    exact turned.elim
  | withdrawing e =>
    rw [stage] at turned
    obtain rfl : e = .transportClosed := turned
    exact .inr rfl

/-- A graceful close lets the requests in flight finish until its time is over, in every run in which
nothing else closes the session. -/
theorem graceful_close {label : String} {timeouts : Timeouts} {handlers : Handlers σ ε}
    {link : Transport.Memory} {shared : σ} {s : Session σ ε}
    (h : Session.start label timeouts handlers link shared = .ok s) {before acts : List (Act σ ε)}
    {i : Nat} {next : Except Error Unit → Program σ ε Unit}
    (closes : ClosesAlone s before i next acts) :
    GracefulClose (s.run before) i acts (s.run (before ++ .step (.task i) :: acts)) := by
  have winding := (winding_of_start h).run before
  obtain ⟨calls, open_, alone⟩ := closes
  rw [run_append]
  generalize s.run before = s at calls open_ alone winding
  have later : Along (Alone i) (s.act (.step (.task i))) acts := by
    cases alone with
    | cons _ later => exact later
  have released (returned : Returned s (.step (.task i) :: acts)) := winding.returned returned
  have begun := draining_of_call winding open_ calls
  have lapsed := begun.punctual (by rw [act_now]; exact Nat.le_add_right _ _) later
  have draining := begun.run later
  rw [run_cons] at released ⊢
  generalize (s.act (.step (.task i))).run acts = t at released lapsed draining
  have sound := draining.winding.sound
  refine
    { waits := ?waits, late := ?late, inTime := ?inTime, atOnce := ?atOnce,
      answered := ?answered, inFlight := ?inFlight, returned := ?returned }
  case waits =>
    intro stopped early entry there still
    have excused : Excused (s.now + s.timeouts.close) s.pending t := by
      cases draining.drains with
      | waiting open_ | leaving open_ =>
        rw [open_] at stopped
        cases stopped
      | stopped _ _ _ excused | returned _ excused => exact excused
    rcases excused with late | left
    · omega
    · exact (left entry there).out entry.2 still
  case late =>
    intro late open_
    exact draining.drains.stops draining.winding open_ (.inr late)
  case inTime =>
    intro punctual late
    cases punctual with
    | cons _ punctual =>
      obtain ⟨released, settled⟩ := lapsed punctual late
      exact ⟨settled, released.status⟩
  case atOnce =>
    intro empty open_
    exact draining.drains.stops draining.winding open_ (.inl empty)
  case answered =>
    intro j deadline call next a r ho empty heard own later
    have reaches : Response.reaches r call.id = true := by
      rw [Response.reaches, own]
      exact decide_eq_true rfl
    exact answered_run rfl (answered_of_heard sound ho empty heard reaches) later
  case inFlight =>
    intro j o stopped ho empty later
    exact ⟨fun outcome => ends_closed sound stopped ho empty, ended_of_settled sound ho⟩
  case returned =>
    intro returned
    exact ⟨(released returned).status, fun entry => (released returned).table sound⟩

/-- One request is answered while the close waits, and another is still in flight when its time is
over. -/
theorem graceful_close_between : ∃ s : Session Unit Unit,
    Session.start "sess" ⟨30000, 100⟩ .none .new () = .ok s ∧
      ∃ before acts next, ClosesAlone s before 1 next acts ∧
        GracefulClose (s.run before) 1 acts (s.run (before ++ .step (.task 1) :: acts)) := by
  have started : Session.start (σ := Unit) (ε := Unit) "sess" ⟨30000, 100⟩ .none .new () = .ok _ :=
    rfl
  refine ⟨_, started,
    [.spawn (.request "a" .null none fun _ => .done ()),
      .step (.task 0), .step (.task 0), .step (.task 0), .step (.task 0),
      .spawn (.close true fun _ => .done ())],
    [.step (.task 1), .step (.task 1),
      .spawn (.request "b" .null none fun _ => .done ()),
      .step (.task 2), .step (.task 2), .step (.task 2), .step (.task 2),
      .inject (.response (.success (.text "sess-1") .null)), .step .forwarder, .step .reader,
      .step (.task 0), .advance 100, .step (.task 1), .step (.task 1), .step .reader,
      .step .reader, .step (.task 2), .step (.task 1), .step (.task 1), .step (.task 1)],
    fun _ => .done (), ?closes, ?close⟩
  case closes => exact ⟨rfl, rfl, by decide⟩
  case close => exact graceful_close started ⟨rfl, rfl, by decide⟩

/-- Three things are too much to ask. A response that is handed out is lost if the time of its request
was over before. The time of a request may be over between the stop of the session and the clearing of
its table. And a request that began before the stop may come to the table after the close has
returned. -/
theorem graceful_close_may_come_too_late : ∃ s : Session Unit Unit,
    Session.start "sess" ⟨30000, 100⟩ .none .new () = .ok s ∧
      (¬ ∀ before i next acts, ClosesAlone s before i next acts → ∀ a r id outcome,
        (s.run (before ++ .step (.task i) :: acts)).happening a = some (.heard r) →
        r.id = some (.text id) →
        .ended id outcome ∈ s.history (before ++ .step (.task i) :: acts ++ [a]) →
        outcome = outcomeOf r.answer) ∧
      (¬ ∀ before i next acts, ClosesAlone s before i next acts →
        (s.run (before ++ .step (.task i) :: acts)).stopped = true →
        ∀ entry ∈ (s.run (before ++ .step (.task i) :: acts)).pending, ∀ later outcome,
          .ended entry.1 outcome ∈ (s.run (before ++ .step (.task i) :: acts)).history later →
          outcome = .error .transportClosed) ∧
      ¬ ∀ before i next acts, ClosesAlone s before i next acts →
        Returned (s.run before) (.step (.task i) :: acts) →
        (s.run (before ++ .step (.task i) :: acts)).pending = [] := by
  refine ⟨_, rfl, fun claim => ?_, fun claim => ?_, fun claim => ?_⟩
  · have lost := claim
      [.spawn (.request "a" .null (some 50) fun _ => .done ()),
        .step (.task 0), .step (.task 0), .step (.task 0), .step (.task 0),
        .spawn (.request "b" .null none fun _ => .done ()),
        .step (.task 1), .step (.task 1), .step (.task 1), .step (.task 1),
        .spawn (.close true fun _ => .done ())]
      2 (fun _ => .done ())
      [.step (.task 2), .step (.task 2), .advance 50, .step (.task 0), .step (.task 0),
        .inject (.response (.success (.text "sess-1") .null)), .step .forwarder]
      ⟨rfl, rfl, by decide⟩ (.step .reader) (.success (.text "sess-1") .null) "sess-1"
      (.error (.timeout "a" 50)) rfl rfl (List.mem_of_getElem? (i := 7) rfl)
    cases lost
  · have closed := claim
      [.spawn (.request "a" .null (some 100) fun _ => .done ()),
        .step (.task 0), .step (.task 0), .step (.task 0), .step (.task 0),
        .spawn (.close true fun _ => .done ())]
      1 (fun _ => .done ())
      [.step (.task 1), .step (.task 1), .advance 100, .step (.task 1), .step (.task 1)]
      ⟨rfl, rfl, by decide⟩ rfl ("sess-1", 0) (List.mem_of_getElem? (i := 0) rfl)
      [.step (.task 0), .step (.task 0)] (.error (.timeout "a" 100))
      (List.mem_of_getElem? (i := 1) rfl)
    cases closed
  · have empty := claim
      [.spawn (.request "a" .null none fun _ => .done ()), .step (.task 0),
        .spawn (.close true fun _ => .done ())]
      1 (fun _ => .done ())
      [.step (.task 1), .step (.task 1), .step (.task 1), .step .reader, .step .reader,
        .step (.task 1), .step (.task 1), .step (.task 1), .step (.task 0)]
      ⟨rfl, rfl, by decide⟩
      ⟨[.step (.task 1), .step (.task 1), .step (.task 1), .step (.task 1), .step .reader,
          .step .reader, .step (.task 1), .step (.task 1)], 1, _, .releasing,
        fun _ => .done (), rfl, rfl, rfl⟩
    cases empty

end Mcp.Session
