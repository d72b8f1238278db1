import Mcp.Proofs.Session.Lives
import Mcp.Proofs.Session.Progress

/-!
How requests end. `calls_settle` says it for every run: each request ends once at most; one that was
sent ends by what decided it first, be it the response with its id, the end of its time or the end
of the session; and nothing that the peer answers to others touches it.
-/

namespace Mcp.Session

variable {σ ε : Type}

/-- Whether it is the end of a request. -/
def Happening.ends (id : String) : Happening → Bool
  | .ended i _ => i = id
  | _ => false

/-! ### What a tale says of its end -/

theorem mem_filter_names (id : String) {h : List Happening} {x : Happening}
    (named : x.names id = true) : x ∈ h.filter (Happening.names id) ↔ x ∈ h := by
  rw [List.mem_filter]
  exact and_iff_left named

theorem filter_ends (id : String) (h : List Happening) :
    (h.filter (Happening.names id)).countP (Happening.ends id) = h.countP (Happening.ends id) := by
  rw [List.countP_filter]
  congr
  funext x
  cases x <;> simp [Happening.ends, Happening.names]

theorem Tale.failing_not_ended {id : String} {e : Error} {named : List Happening}
    {v : Option Happening} (tale : Tale id (.failing e) named v) :
    named.countP (Happening.ends id) = 0 := by
  cases tale <;> rfl

theorem Tale.countP_ends_le {id : String} {p : Phase} {named : List Happening}
    {v : Option Happening} (tale : Tale id p named v) :
    named.countP (Happening.ends id) ≤ 1 := by
  cases tale with
  | failed failing => simp [failing.failing_not_ended, Happening.ends]
  | finished => simp [Happening.ends]
  | _ => simp [Happening.ends]

/-- A request that ended was either sent and had an outcome, or failed. -/
theorem Tale.of_ended {id : String} {p : Phase} {named : List Happening} {v : Option Happening}
    {outcome : Except Error Json} (tale : Tale id p named v)
    (ended : .ended id outcome ∈ named) :
    (∃ slot, Comes id v slot ∧ slot.outcome? = some outcome ∧
      ∃ deadline, .sent id deadline ∈ named) ∨
    ∃ e before, outcome = .error e ∧ named = before ++ [.ended id outcome] ∧
      Tale id (.failing e) before v := by
  cases tale with
  | @finished method timeout deadline slot v outcome' c out =>
    obtain rfl : outcome = outcome' := by simpa using ended
    exact .inl ⟨slot, c, out, deadline, by simp⟩
  | @failed e before _ failing =>
    have none_before : .ended id outcome ∉ before := by
      have := failing.failing_not_ended
      rw [List.countP_eq_zero] at this
      intro there
      exact this _ there (by simp [Happening.ends])
    obtain rfl : outcome = .error e := by simpa [none_before] using ended
    exact .inr ⟨e, before, rfl, rfl, failing⟩
  | _ => simp at ended

/-- How a request that was sent may end, by what decided it. -/
inductive Decided (h : List Happening) (id : String) : Except Error Json → Prop
  /-- It was answered: the outcome is what the response says. -/
  | answered {r : Response} : decider? id h = some (.heard r) → r.id = some (.text id) →
      Decided h id (outcomeOf r.answer)
  /-- Its time was over: the error names its method and its timeout. -/
  | late {method : String} {timeout : Nat} : decider? id h = some (.expired id) →
      .began id method timeout ∈ h → Decided h id (.error (.timeout method timeout))
  | closed : decider? id h = some .cleared → Decided h id (.error .transportClosed)

/-- How a request that was not sent may end. -/
inductive Unsent (h : List Happening) (id : String) : Except Error Json → Prop
  | failed {e : Error} : .unsent id e ∈ h → Unsent h id (.error e)
  | refused : .refused id ∈ h → Unsent h id (.error .transportClosed)

theorem Life.decided {id : String} {h : List Happening} {p : Phase} {deadline : Nat}
    {outcome : Except Error Json} (life : Life id h p) (sent : .sent id deadline ∈ h)
    (ended : .ended id outcome ∈ h) : Decided h id outcome := by
  have tale := life.tale
  rw [← mem_filter_names id (by simp [Happening.names])] at sent ended
  rcases tale.of_ended ended with ⟨slot, c, out, -⟩ | ⟨e, before, rfl, named, failing⟩
  · generalize hv : decider? id h = v at c
    cases c with
    | nothing => cases out
    | answer own =>
      cases out
      exact .answered hv own
    | close =>
      cases out
      exact .closed hv
  · rw [named] at sent
    generalize hv : decider? id h = v at failing
    cases failing with
    | refused | unsent => simp at sent
    | @expired method timeout deadline' =>
      have began : .began id method timeout ∈ h.filter (Happening.names id) := by simp [named]
      exact .late hv ((mem_filter_names id (by simp [Happening.names])).mp began)

theorem Life.unsent {id : String} {h : List Happening} {p : Phase} {outcome : Except Error Json}
    (life : Life id h p) (unsent : ∀ deadline, .sent id deadline ∉ h)
    (ended : .ended id outcome ∈ h) : Unsent h id outcome := by
  have tale := life.tale
  rw [← mem_filter_names id (by simp [Happening.names])] at ended
  have unsent deadline : .sent id deadline ∉ h.filter (Happening.names id) := by
    rw [mem_filter_names id (by simp [Happening.names])]
    exact unsent deadline
  rcases tale.of_ended ended with ⟨_, _, _, deadline, sent⟩ | ⟨e, before, rfl, named, failing⟩
  · exact absurd sent (unsent deadline)
  · generalize decider? id h = v at failing
    cases failing with
    | refused =>
      have refused : .refused id ∈ h.filter (Happening.names id) := by simp [named]
      exact .refused ((mem_filter_names id (by simp [Happening.names])).mp refused)
    | unsent =>
      have failed : .unsent id e ∈ h.filter (Happening.names id) := by simp [named]
      exact .failed ((mem_filter_names id (by simp [Happening.names])).mp failed)
    | @expired method timeout deadline => exact absurd (by simp [named]) (unsent deadline)

/-- A request that was sent, answered and has not ended has its answer. -/
theorem Stands.has_answer {s : Session σ ε} {h : List Happening} {id : String} {deadline : Nat}
    {p : Phase} {r : Response} (stands : Stands s id p) (life : Life id h p)
    (sent : .sent id deadline ∈ h) (decided : decider? id h = some (.heard r))
    (unended : ¬ Ended h id) : ∃ i call deadline next,
      s.ongoing? i = some ⟨call, .waiting deadline, next⟩ ∧ call.id = id ∧
        call.slot = .answered r.answer := by
  have tale := life.tale
  rw [← mem_filter_names id (by simp [Happening.names])] at sent
  rw [decided] at tale
  have unnamed outcome : .ended id outcome ∉ h.filter (Happening.names id) := by
    rw [mem_filter_names id (by simp [Happening.names])]
    exact fun there => unended ⟨outcome, there⟩
  generalize h.filter (Happening.names id) = named at tale sent unnamed
  cases stands with
  | unborn => cases tale
  | @past outcome =>
    refine absurd ?_ (unnamed outcome)
    cases tale with
    | finished | failed => simp
  | @busy i o ho hid =>
    obtain ⟨call, stage, next⟩ := o
    cases stage with
    | admitted => cases tale
    | registered | confirmed =>
      cases tale
      simp at sent
    | waiting deadline =>
      cases tale with
      | underway c =>
        refine ⟨i, call, deadline, next, ho, hid, ?_⟩
        generalize call.slot = slot at c
        cases c
        rfl
    | withdrawing e =>
      simp only [Ongoing.phase] at tale
      cases tale <;> simp at sent

/-! ### What becomes of a request that a task is busy with -/

/-- An act leaves a request with its task, or ends it and hands its outcome on. -/
inductive Keeps (s' : Session σ ε) (i : Nat) (o : Ongoing σ ε) (x : Option Happening) : Prop
  | still {o' : Ongoing σ ε} : s'.ongoing? i = some o' → o'.call.id = o.call.id →
      o'.next = o.next → (∀ outcome, x ≠ some (.ended o.call.id outcome)) → Keeps s' i o x
  | ended {outcome : Except Error Json} : x = some (.ended o.call.id outcome) →
      s'.tasks[i]? = some (.ready (o.next outcome)) → Keeps s' i o x

theorem Keeps.of_update {s s' : Session σ ε} {i j : Nat} {o p p' : Ongoing σ ε}
    {x : Option Happening} (ho : s.ongoing? i = some o) (hp : s.ongoing? j = some p)
    (requests : s'.ongoing? = Function.update s.ongoing? j (some p'))
    (id : p'.call.id = p.call.id) (next : p'.next = p.next)
    (quiet : ∀ id outcome, x ≠ some (.ended id outcome)) : Keeps s' i o x := by
  by_cases hij : i = j
  · subst hij
    rw [ho] at hp
    cases hp
    exact .still (by rw [requests]; simp) id next (quiet _)
  · exact .still (by rw [requests, Function.update_of_ne hij, ho]) rfl rfl (quiet _)

theorem Keeps.of_remove {s s' : Session σ ε} {i j : Nat} {o p : Ongoing σ ε}
    {outcome : Except Error Json} (sound : Sound s) (ho : s.ongoing? i = some o)
    (hp : s.ongoing? j = some p) (requests : s'.ongoing? = Function.update s.ongoing? j none)
    (ready : s'.tasks[j]? = some (.ready (p.next outcome))) :
    Keeps s' i o (some (.ended p.call.id outcome)) := by
  by_cases hij : i = j
  · subst hij
    rw [ho] at hp
    cases hp
    exact .ended rfl ready
  · refine .still (by rw [requests, Function.update_of_ne hij, ho]) rfl rfl fun _ same => ?_
    simp only [Option.some.injEq, Happening.ended.injEq] at same
    exact hij (sound.unique ho hp same.1.symm)

theorem Keeps.of_tell {s s' : Session σ ε} {i : Nat} {o : Ongoing σ ε} {x : Option Happening}
    {whom : String → Bool} {news : Slot} (ho : s.ongoing? i = some o)
    (requests : ∀ i, s'.ongoing? i = (s.ongoing? i).map (Ongoing.tell whom news))
    (quiet : ∀ id outcome, x ≠ some (.ended id outcome)) : Keeps s' i o x :=
  .still (by rw [requests, ho, Option.map_some]) (o.tell_id ..) (o.tell_next ..) (quiet _)

theorem Moves.keeps {s s' : Session σ ε} {x : Option Happening} (m : Moves s s' x)
    (sound : Sound s) {i : Nat} {o : Ongoing σ ε} (ho : s.ongoing? i = some o) :
    Keeps s' i o x := by
  cases m with
  | quiet hr => exact .still (by rw [hr, ho]) rfl rfl (by simp)
  | @begin j _ _ _ _ ready hr =>
    have hij : i ≠ j := by
      rintro rfl
      simp [ongoing?, ready, Task.ongoing?] at ho
    exact .still (by rw [hr, Function.update_of_ne hij, ho]) rfl rfl (by simp)
  | enter hc hr => exact .of_update ho hc hr rfl rfl (by simp)
  | advance hc step hr => exact .of_update ho hc hr rfl rfl (by cases step <;> simp)
  | finish hc _ hr ready => exact .of_remove sound ho hc hr ready
  | withdraw hc hr ready => exact .of_remove sound ho hc hr ready
  | @hear r _ hr => exact .of_tell ho (fun i => (hr i).trans (sound.hear_eq r i)) (by simp)
  | clear hr => exact .of_tell ho (fun i => (hr i).trans (sound.clear_eq i)) (by simp)

/-- The end of a request goes to the task that is busy with it. -/
theorem Moves.ended {s s' : Session σ ε} {id : String} {outcome : Except Error Json}
    (m : Moves s s' (some (.ended id outcome))) :
    ∃ i o, s.ongoing? i = some o ∧ o.call.id = id ∧
      s'.tasks[i]? = some (.ready (o.next outcome)) := by
  cases m with
  | advance _ step => cases step
  | finish hc _ _ ready => exact ⟨_, _, hc, rfl, ready⟩
  | withdraw hc _ ready => exact ⟨_, _, hc, rfl, ready⟩

/-- A request that has not ended is with the task that began it. -/
theorem ongoing?_run {s : Session σ ε} (sound : Sound s) {i : Nat} {o : Ongoing σ ε}
    (ho : s.ongoing? i = some o) (acts : List (Act σ ε))
    (unended : ¬ Ended (s.history acts) o.call.id) :
    ∃ o', (s.run acts).ongoing? i = some o' ∧ o'.call.id = o.call.id ∧ o'.next = o.next := by
  induction acts generalizing s o with
  | nil => exact ⟨o, ho, rfl, rfl⟩
  | cons a acts ih =>
    have unended_after : ¬ Ended ((s.act a).history acts) o.call.id := by
      rintro ⟨outcome, there⟩
      exact unended ⟨outcome, List.mem_append_right _ there⟩
    cases (s.act_moves a).keeps sound ho with
    | still ho' id next _ =>
      obtain ⟨o', kept, id', next'⟩ := ih (sound.act a) ho' (id ▸ unended_after)
      exact ⟨o', kept, id'.trans id, next'.trans next⟩
    | @ended outcome now _ =>
      refine absurd ⟨outcome, List.mem_append_left _ ?_⟩ unended
      simp [now]

/-! ### How calls end in every run -/

/-- What a session promises about the requests of a run. -/
structure CallsSettle (s : Session σ ε) (acts : List (Act σ ε)) : Prop where
  /-- A call ends once at most. -/
  once (id : String) : (s.history acts).countP (Happening.ends id) ≤ 1
  /-- A call that was sent ends by what decided it first since it was put in the table. -/
  sent {id : String} {deadline : Nat} {outcome : Except Error Json} :
    .sent id deadline ∈ s.history acts → .ended id outcome ∈ s.history acts →
    Decided (s.history acts) id outcome
  /-- If it was a response with its id that did, the next step of the call's task ends it so. -/
  answered {id : String} {deadline : Nat} {r : Response} :
    .sent id deadline ∈ s.history acts → decider? id (s.history acts) = some (.heard r) →
    ¬ Ended (s.history acts) id →
    ∃ i, (s.run acts).happening (.step (.task i)) = some (.ended id (outcomeOf r.answer))
  /-- One that was not sent ends because it could not be, or because the session was closed. -/
  unsent {id : String} {outcome : Except Error Json} :
    (∀ deadline, .sent id deadline ∉ s.history acts) → .ended id outcome ∈ s.history acts →
    Unsent (s.history acts) id outcome
  /-- A closed session takes no call. -/
  refused {i : Nat} {method : String} {params : Json} {timeout : Option Nat}
    {next : Except Error Json → Program σ ε Unit} : (s.run acts).stopped = true →
    (s.run acts).tasks[i]? = some (.ready (.request method params timeout next)) →
    (s.run (acts ++ [.step (.task i)])).tasks[i]? =
      some (.ready (next (.error .transportClosed)))
  /-- A call that has not ended waits for its answer or has a step to take, and a few such steps
  bring it to its end or to waiting. -/
  progress {i : Nat} {o : Ongoing σ ε} : (s.run acts).ongoing? i = some o →
    ((s.run acts).enabled (.task i) = true ∨ (s.run acts).Waits i o.call.id) ∧
      (s.run acts).Rests i o.call.id 5
  /-- A session that is open alone hears responses, and a response to one call leaves others, and
  their places in the table, as they are. -/
  undisturbed {a : Act σ ε} {r : Response} : (s.run acts).happening a = some (.heard r) →
    (s.run acts).stopped = false ∧
    ∀ {i : Nat} {o : Ongoing σ ε}, (s.run acts).ongoing? i = some o →
      r.id ≠ some (.text o.call.id) → (s.run (acts ++ [a])).ongoing? i = some o ∧
        ∀ j, (o.call.id, j) ∈ (s.run (acts ++ [a])).pending ↔
          (o.call.id, j) ∈ (s.run acts).pending
  /-- The task that called goes on with the outcome, the result read as the caller's type. -/
  decoded {α : Type} {read : Json.Reader α} {method : String} {params : Json}
    {timeout : Option Nat} {next : Except Error α → Program σ ε Unit} {i : Nat}
    {during : List (Act σ ε)} {a : Act σ ε} {outcome : Except Error Json} :
    (s.run acts).stopped = false →
    (s.run acts).tasks[i]? =
      some (.ready ((Program.Operation.call read method params timeout).run.bind next)) →
    (s.run (acts ++ .step (.task i) :: during)).happening a =
      some (.ended (s.run acts).freshId outcome) →
    (s.run (acts ++ .step (.task i) :: (during ++ [a]))).tasks[i]? =
      some (.ready (next (outcome.bind (unmarshal read))))

theorem begins {s : Session σ ε} {i : Nat} {method : String} {params : Json}
    {timeout : Option Nat} {next : Except Error Json → Program σ ε Unit}
    (open_ : s.stopped = false)
    (h : s.tasks[i]? = some (.ready (.request method params timeout next))) :
    ∃ o, (s.act (.step (.task i))).ongoing? i = some o ∧ o.call.id = s.freshId ∧
      o.next = next := by
  have hi := (List.getElem?_eq_some_iff.mp h).1
  refine ⟨⟨⟨s.freshId, method, params, timeout.getD s.timeouts.request, .empty⟩, .admitted, next⟩,
    ?_, rfl, rfl⟩
  rw [ongoing?_eq_some, act_task h]
  simp [stepTask, begin, open_, setTask, hi, freshId, idOf]

/-- The outcome of a request goes to the task that began it, whatever happens in between. -/
theorem handed_on {s : Session σ ε} {h : List Happening} (accounts : Accounts s h) {i : Nat}
    {o : Ongoing σ ε} (ho : s.ongoing? i = some o) {during : List (Act σ ε)} {a : Act σ ε}
    {outcome : Except Error Json}
    (ended : (s.run during).happening a = some (.ended o.call.id outcome)) :
    ((s.run during).act a).tasks[i]? = some (.ready (o.next outcome)) := by
  have later := accounts.run during
  have m := (s.run during).act_moves a
  rw [ended] at m
  obtain ⟨j, p, hp, hid, ready⟩ := m.ended
  have unended : ¬ Ended (s.history during) o.call.id := by
    rintro ⟨before, there⟩
    exact later.done ⟨before, List.mem_append_right _ there⟩ ⟨j, p, hp, hid⟩
  obtain ⟨o', ho', hid', next⟩ := ongoing?_run accounts.sound ho during unended
  obtain rfl := later.sound.unique hp ho' (hid.trans hid'.symm)
  rw [ho'] at hp
  cases hp
  rw [next] at ready
  exact ready

/-- A response leaves every request but that of its own id as it is. -/
theorem heard_undisturbed {s : Session σ ε} (sound : Sound s) (named : s.label ≠ "")
    {a : Act σ ε} {r : Response} (heard : s.happening a = some (.heard r)) :
    s.stopped = false ∧ ∀ {i : Nat} {o : Ongoing σ ε}, s.ongoing? i = some o →
      r.id ≠ some (.text o.call.id) → (s.act a).ongoing? i = some o ∧
        ∀ j, (o.call.id, j) ∈ (s.act a).pending ↔ (o.call.id, j) ∈ s.pending := by
  have m := s.act_moves a
  rw [heard] at m
  cases m with
  | advance _ step => cases step
  | hear open_ hr hp _ =>
    refine ⟨open_, fun {i o} ho other => ?_⟩
    have unreached : Response.reaches r o.call.id = false := by
      rw [Bool.eq_false_iff, ne_eq, Response.reaches_iff named (sound.issued ho)]
      exact other
    constructor
    · rw [(hr i).trans (sound.hear_eq r i), ho, Option.map_some, Ongoing.tell, unreached]
      simp
    · intro j
      rw [hp, List.mem_filter]
      refine and_iff_left ?_
      simpa [Response.reaches] using unreached

/-- Every run of a session settles its calls. -/
theorem calls_settle {label : String} {timeouts : Timeouts} {handlers : Handlers σ ε}
    {link : Transport.Memory} {shared : σ} {s : Session σ ε} (named : label ≠ "")
    (h : Session.start label timeouts handlers link shared = .ok s) (acts : List (Act σ ε)) :
    CallsSettle s acts where
  once id := by
    obtain ⟨p, life, -⟩ := lived_run named h id acts
    rw [← filter_ends]
    exact life.tale.countP_ends_le
  sent {id _ _} sent ended := by
    obtain ⟨p, life, -⟩ := lived_run named h id acts
    exact life.decided sent ended
  answered {id _ _} sent decided unended := by
    obtain ⟨p, life, stands⟩ := lived_run named h id acts
    obtain ⟨i, call, deadline, next, ho, rfl, filled⟩ :=
      stands.has_answer life sent decided unended
    refine ⟨i, ?_⟩
    rw [happening_task (ongoing?_eq_some.mp ho), taskHappening, callHappening, filled]
    rfl
  unsent {id _} unsent ended := by
    obtain ⟨p, life, -⟩ := lived_run named h id acts
    exact life.unsent unsent ended
  refused {i _ _ _ _} closed ready := by
    have hi := (List.getElem?_eq_some_iff.mp ready).1
    rw [run_append, run_cons, run_nil, act_task ready]
    simp [stepTask, begin, closed, setTask, hi]
  progress ho := ⟨enabled_or_waits ho, rests ho⟩
  undisturbed {a _} heard := by
    have same : (s.run acts).label = label := (s.run_label acts).trans (fresh_of_start h).label
    rw [run_append, run_cons, run_nil]
    exact heard_undisturbed (accounts_run h acts).sound (same ▸ named) heard
  decoded {_ _ _ _ _ _ i during a _} open_ ready ended := by
    obtain ⟨o, ho, hid, hnext⟩ := begins open_ ready
    rw [run_append, run_cons, ← hid] at ended
    have handed := handed_on ((accounts_run h acts).act _) ho ended
    rw [hnext] at handed
    rw [run_append, run_cons, run_append, run_cons, run_nil]
    exact handed

/-- Two calls that are answered in the wrong order, the second twice. -/
theorem calls_settle_out_of_order : ∃ s : Session Unit Unit,
    "sess" ≠ "" ∧ Session.start "sess" .default .none .new () = .ok s ∧
      CallsSettle s
        [.spawn (.request "a" .null none fun _ => .done ()),
          .spawn (.request "b" .null none fun _ => .done ()),
          .step (.task 0), .step (.task 1), .step (.task 0), .step (.task 1),
          .step (.task 0), .step (.task 1), .step (.task 0), .step (.task 1),
          .inject (.response (.success (.text "sess-2") (.bool true))),
          .inject (.response (.success (.text "sess-2") (.bool false))),
          .inject (.response (.success (.text "sess-1") .null)),
          .step .forwarder, .step .forwarder, .step .forwarder,
          .step .reader, .step .reader, .step .reader, .step (.task 0), .step (.task 1)] := by
  have named : "sess" ≠ "" := by decide
  have started : Session.start (σ := Unit) (ε := Unit) "sess" .default .none .new () = .ok _ := rfl
  exact ⟨_, named, started, calls_settle named started _⟩

/-- That a call which was sent is answered exactly if a response with its id was heard before its
time was over and before the session was closed is too much to ask: the response must not come
before the call is in the table. -/
theorem early_response_is_lost : ∃ s : Session Unit Unit,
    Session.start "sess" .default .none .new () = .ok s ∧
      ∃ acts, ¬ ∀ id deadline outcome, .sent id deadline ∈ s.history acts →
        .ended id outcome ∈ s.history acts →
        ((∃ answer, outcome = outcomeOf answer) ↔
          ∃ before r after, s.history acts = before ++ .heard r :: after ∧
            r.id = some (.text id) ∧ .expired id ∉ before ∧ .cleared ∉ before) := by
  refine ⟨_, rfl,
    [.spawn (.request "a" .null none fun _ => .done ()),
      .step (.task 0), .step (.task 0), .step (.task 0), .step (.task 0),
      .inject (.response (.success (.text "sess-2") (.bool true))),
      .step .forwarder, .step .reader,
      .spawn (.request "b" .null (some 100) fun _ => .done ()),
      .step (.task 1), .step (.task 1), .step (.task 1), .step (.task 1),
      .advance 100, .step (.task 1), .step (.task 1)], fun claim => ?_⟩
  have answered := (claim "sess-2" 100 (.error (.timeout "b" 100)) ?_ ?_).mpr ?_
  · obtain ⟨_ | _, same⟩ := answered <;> cases same
  · exact List.mem_of_getElem? (i := 6) rfl
  · exact List.mem_of_getElem? (i := 8) rfl
  · refine ⟨[.began "sess-1" "a" 30000, .entered "sess-1", .sent "sess-1" 30000],
      .success (.text "sess-2") (.bool true), _, rfl, rfl, by simp, by simp⟩

end Mcp.Session
