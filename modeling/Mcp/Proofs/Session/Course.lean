import Mcp.Proofs.Session.Beside

/-!
A program and what follows it. While a program runs, its task does the same whatever follows the
program (`Course.act`): its course is a function of that. So a program comes to a result, if it does,
in the same acts whatever is then done with the result (`ComesTo`), and what its task said until
then is what the program itself said. Main statement: `courses`.
-/

namespace Mcp.Session

variable {σ ε α : Type}

/-- A task in the course of a program, by what follows the program. -/
inductive Course : ((α → Program σ ε Unit) → Task σ ε) → Prop
  | ready (p : Program σ ε α) : Course fun k => .ready (p.bind k)
  | sending (message : Message) (next : Except Error Unit → Program σ ε α) :
      Course fun k => .sending message fun r => (next r).bind k
  | calling (call : Call) (stage : CallStage) (next : Except Error Json → Program σ ε α) :
      Course fun k => .calling call stage fun r => (next r).bind k
  | sleeping (deadline : Nat) (next : Program σ ε α) :
      Course fun k => .sleeping deadline (next.bind k)
  | awaiting (wanted : σ → Bool) (deadline : Nat) (next : Option σ → Program σ ε α) :
      Course fun k => .awaiting wanted deadline fun r => (next r).bind k
  | closing (stage : CloseStage) (next : Except Error Unit → Program σ ε α) :
      Course fun k => .closing stage fun r => (next r).bind k

/-- The program has come to a result. -/
def CameTo (course : (α → Program σ ε Unit) → Task σ ε) (x : α) : Prop :=
  ∀ k, course k = .ready (k x)

section Course

variable {course : (α → Program σ ε Unit) → Task σ ε}

/-- What others tell a task does not depend on what follows the program. -/
theorem Course.passive (h : Course course) {f : Task σ ε → Task σ ε} (passive : Passive f) :
    Course fun k => f (course k) := by
  induction passive generalizing course with
  | same => exact h
  | comp _ _ first second => exact first (second h)
  | wake | giveUp | accept =>
    cases h with
    | calling call stage next =>
      obtain ⟨id, method, params, timeout, slot⟩ := call
      cases slot <;> exact .calling _ stage next
    | closing stage next => cases stage <;> exact .closing _ next
    | ready p => exact .ready p
    | sending message next => exact .sending message next
    | sleeping deadline next => exact .sleeping deadline next
    | awaiting wanted deadline next => exact .awaiting wanted deadline next

/-- A step of a task, with what it makes of the task, of the rest and of the wire. -/
def StepsTo (s : Session σ ε) (i : Nat) (course course' : (α → Program σ ε Unit) → Task σ ε)
    (t : Session σ ε) (x : Option Traffic) : Prop :=
  ∀ k, s.turned (course k) = course' k ∧ s.aside i (course k) = t ∧
    s.taskTraffic (course k) = x

/-- Until the program comes to a result, a step does not depend on what follows the program. -/
theorem Course.step (h : Course course) (going : ∀ x, ¬ CameTo course x) (s : Session σ ε)
    (i : Nat) : ∃ course' t x, Course course' ∧ StepsTo s i course course' t x := by
  cases h with
  | ready p =>
    cases p with
    -- The only step that would depend on it: the program has come to its result.
    | done x => exact absurd (fun _ => rfl) (going x)
    | request method params timeout next =>
      cases stopped : s.stopped with
      | true =>
        refine ⟨_, _, _, .ready (next (.error .transportClosed)), fun k => ⟨?_, rfl, rfl⟩⟩
        simp only [turned, Program.bind, started, stopped, if_true]
      | false =>
        refine ⟨_, _, _, .calling
          ⟨s.freshId, method, params, timeout.getD s.timeouts.request, .empty⟩ .admitted next,
          fun k => ⟨?_, rfl, rfl⟩⟩
        simp only [turned, Program.bind, started, stopped, Bool.false_eq_true, if_false]
    | notify method params next =>
      cases stopped : s.stopped with
      | true =>
        refine ⟨_, _, _, .ready (next (.error .transportClosed)), fun k => ⟨?_, rfl, rfl⟩⟩
        simp only [turned, Program.bind, started, stopped, if_true]
      | false =>
        refine ⟨_, _, _, .sending (.notification (.new method params.given)) next,
          fun k => ⟨?_, rfl, rfl⟩⟩
        simp only [turned, Program.bind, started, stopped, Bool.false_eq_true, if_false]
    | respond response next =>
      exact ⟨_, _, _, .sending (.response response) next, fun k => ⟨rfl, rfl, rfl⟩⟩
    | sleep milliseconds next =>
      exact ⟨_, _, _, .sleeping (s.now + milliseconds) next, fun k => ⟨rfl, rfl, rfl⟩⟩
    | now next => exact ⟨_, _, _, .ready (next s.now), fun k => ⟨rfl, rfl, rfl⟩⟩
    | emit event next => exact ⟨_, _, _, .ready next, fun k => ⟨rfl, rfl, rfl⟩⟩
    | update change next =>
      exact ⟨_, _, _, .ready (next s.shared), fun k => ⟨rfl, rfl, rfl⟩⟩
    | await wanted timeout next =>
      exact ⟨_, _, _, .awaiting wanted (s.now + timeout) next, fun k => ⟨rfl, rfl, rfl⟩⟩
    | health next => exact ⟨_, _, _, .ready (next s.link.health), fun k => ⟨rfl, rfl, rfl⟩⟩
    | close graceful next => exact ⟨_, _, _, .closing _ next, fun k => ⟨rfl, rfl, rfl⟩⟩
  | sending message next =>
    exact ⟨_, _, _, .ready (next (s.link.send message).1), fun k => ⟨rfl, rfl, rfl⟩⟩
  | sleeping deadline next =>
    by_cases due : deadline ≤ s.now
    · exact ⟨_, _, _, .ready next, fun k => ⟨if_pos due, rfl, rfl⟩⟩
    · exact ⟨_, _, _, .sleeping deadline next, fun k => ⟨if_neg due, rfl, rfl⟩⟩
  | awaiting wanted deadline next =>
    cases seen : wanted s.shared with
    | true =>
      refine ⟨_, _, _, .ready (next (some s.shared)), fun k => ⟨?_, rfl, rfl⟩⟩
      simp only [turned, seen, if_true]
    | false =>
      by_cases due : deadline ≤ s.now
      · refine ⟨_, _, _, .ready (next none), fun k => ⟨?_, rfl, rfl⟩⟩
        simp only [turned, seen, due, Bool.false_eq_true, if_false, if_true]
      · refine ⟨_, _, _, .awaiting wanted deadline next, fun k => ⟨?_, rfl, rfl⟩⟩
        simp only [turned, seen, due, Bool.false_eq_true, if_false]
  | calling call stage next =>
    cases stage with
    | admitted => exact ⟨_, _, _, .calling call .registered next, fun k => ⟨rfl, rfl, rfl⟩⟩
    | registered => exact ⟨_, _, _, .calling call _ next, fun k => ⟨rfl, rfl, rfl⟩⟩
    | withdrawing e => exact ⟨_, _, _, .ready (next (.error e)), fun k => ⟨rfl, rfl, rfl⟩⟩
    | confirmed =>
      cases sent : (s.link.send call.message).1 with
      | ok =>
        refine ⟨_, _, _, .calling call (.waiting (s.now + call.timeout)) next,
          fun k => ⟨?_, rfl, rfl⟩⟩
        simp only [turned, calledOn, sent]
      | error e =>
        refine ⟨_, _, _, .calling call (.withdrawing e) next, fun k => ⟨?_, rfl, rfl⟩⟩
        simp only [turned, calledOn, sent]
    | waiting deadline =>
      cases come : call.slot.outcome? with
      | some outcome =>
        refine ⟨_, _, _, .ready (next outcome), fun k => ⟨?_, rfl, rfl⟩⟩
        simp only [turned, calledOn, come]
      | none =>
        by_cases due : deadline ≤ s.now
        · refine ⟨_, _, _, .calling call (.withdrawing (.timeout call.method call.timeout)) next,
            fun k => ⟨?_, rfl, rfl⟩⟩
          simp only [turned, calledOn, come, due, if_true]
        · refine ⟨_, _, _, .calling call (.waiting deadline) next, fun k => ⟨?_, rfl, rfl⟩⟩
          simp only [turned, calledOn, come, due, if_false]
  | closing stage next =>
    cases onward : s.nextStage stage with
    | none =>
      refine ⟨_, s.aside i (.closing stage fun _ => .done ()), _, .ready (next (.ok ())),
        fun k => ⟨?_, ?_, rfl⟩⟩
      · simp only [turned, closedOn, onward]
      · cases stage <;> rfl
    | some stage' =>
      refine ⟨_, s.aside i (.closing stage fun _ => .done ()), _, .closing stage' next,
        fun k => ⟨?_, ?_, rfl⟩⟩
      · simp only [turned, closedOn, onward]
      · cases stage <;> rfl

end Course

/-! ### Runs -/

/-- A run leads from one course of a task to another, whatever follows the program: it does the same
to the rest of the session, and the task says the same. -/
structure Leads (s : Session σ ε) (i : Nat) (course : (α → Program σ ε Unit) → Task σ ε)
    (acts : List (Act σ ε)) (t : Session σ ε) (course' : (α → Program σ ε Unit) → Task σ ε)
    (spoken : List Traffic) : Prop where
  inside : i < t.tasks.length
  run : ∀ k, (s.setTask i (course k)).run acts = t.setTask i (course' k)
  spoken : ∀ k, (s.setTask i (course k)).taskTranscript i acts = spoken

section Leads

variable {s t u : Session σ ε} {i : Nat} {course course' course'' : (α → Program σ ε Unit) → Task σ ε}

theorem Leads.cons {a : Act σ ε} {acts : List (Act σ ε)} {first rest : List Traffic}
    (one : Leads s i course [a] t course' first) (more : Leads t i course' acts u course'' rest) :
    Leads s i course (a :: acts) u course'' (first ++ rest) where
  inside := more.inside
  run k := by
    have acted := one.run k
    rw [run_cons, run_nil] at acted
    rw [run_cons, acted, more.run]
  spoken k := by
    have acted := one.run k
    have heard := one.spoken k
    rw [run_cons, run_nil] at acted
    rw [taskTranscript, taskTranscript, List.append_nil] at heard
    rw [taskTranscript, heard, acted, more.spoken]

/-- Until the program comes to a result, no act depends on what follows it. -/
theorem Course.act (h : Course course) (going : ∀ x, ¬ CameTo course x)
    (inside : i < s.tasks.length) (a : Act σ ε) :
    ∃ t course' spoken, Course course' ∧ Leads s i course [a] t course' spoken := by
  have stays {t : Session σ ε} {task task' : Task σ ε}
      (acted : (s.setTask i task).act a = t.setTask i task') : i < t.tasks.length := by
    rw [← t.length_setTask i task', ← acted]
    exact act_inside a (by rwa [length_setTask])
  by_cases own : a = .step (.task i)
  · subst own
    obtain ⟨course', t, x, h', steps⟩ := h.step going s i
    have there (k : α → Program σ ε Unit) :
        (s.setTask i (course k)).tasks[i]? = some (course k) :=
      setTask_own (List.getElem?_eq_getElem inside) _
    have acted (k : α → Program σ ε Unit) :
        (s.setTask i (course k)).act (.step (.task i)) = t.setTask i (course' k) := by
      obtain ⟨turns, aside, -⟩ := steps k
      rw [act_setTask inside, turns, aside]
    refine ⟨t, course', x.toList, h', stays (acted fun _ => .done ()), acted, fun k => ?_⟩
    obtain ⟨-, -, spoken⟩ := steps k
    rw [taskTranscript, taskTranscript, List.append_nil, if_pos (Act.isStepOf_iff.mpr rfl),
      traffic_task (there k), taskTraffic_setTask, spoken]
  · obtain ⟨f, passive, same⟩ := act_beside inside own
    refine ⟨s.act a, fun k => f (course k), [], h.passive passive,
      stays (same (course fun _ => .done ())), fun k => same (course k), fun k => ?_⟩
    rw [taskTranscript, taskTranscript, if_neg (mt Act.isStepOf_iff.mp own), List.append_nil]

/-- A run either goes all the way while the program runs, or the program comes to a result on the
way. -/
theorem Course.run (h : Course course) (inside : i < s.tasks.length) (acts : List (Act σ ε)) :
    (∃ t course' spoken, Leads s i course acts t course' spoken ∧ ∀ x, ¬ CameTo course' x) ∨
    ∃ before after t course' spoken x, acts = before ++ after ∧
      Leads s i course before t course' spoken ∧ CameTo course' x := by
  -- Before each act the course is looked at: once it has come to a result, what follows decides.
  induction acts generalizing s course with
  | nil =>
    have stays : Leads s i course [] s course [] := ⟨inside, fun _ => rfl, fun _ => rfl⟩
    by_cases came : ∃ x, CameTo course x
    · obtain ⟨x, came⟩ := came
      exact .inr ⟨[], [], s, course, [], x, rfl, stays, came⟩
    · exact .inl ⟨s, course, [], stays, not_exists.mp came⟩
  | cons a acts ih =>
    by_cases came : ∃ x, CameTo course x
    · obtain ⟨x, came⟩ := came
      exact .inr ⟨[], a :: acts, s, course, [], x, rfl, ⟨inside, fun _ => rfl, fun _ => rfl⟩, came⟩
    · obtain ⟨t, course', spoken, h', one⟩ := h.act (not_exists.mp came) inside a
      rcases ih h' one.inside with ⟨u, course'', rest, more, going⟩ |
          ⟨before, after, u, course'', rest, x, rfl, more, came⟩
      · exact .inl ⟨u, course'', _, one.cons more, going⟩
      · exact .inr ⟨a :: before, after, u, course'', _, x, rfl, one.cons more, came⟩

end Leads

/-! ### Results -/

/-- In a run, a program that runs as the task with an index comes to a result: whatever were to
follow the program, at the end of the run the task would be about to do that with the result. -/
def ComesTo (s : Session σ ε) (i : Nat) (p : Program σ ε α) (acts : List (Act σ ε)) (x : α) : Prop :=
  ∀ k : α → Program σ ε Unit,
    ((s.setTask i (.ready (p.bind k))).run acts).tasks[i]? = some (.ready (k x))

/-- What a program says as the task with an index, when nothing follows it. -/
def alone (s : Session σ ε) (i : Nat) (p : Program σ ε α) (acts : List (Act σ ε)) : List Traffic :=
  (s.setTask i (.ready (p.bind fun _ => .done ()))).taskTranscript i acts

/-- How a run of a task is split by the result of the program that it starts with: the program runs
to the end of the run, or comes to a result on the way; and its task says what the program says. -/
inductive Courses (s : Session σ ε) (i : Nat) (p : Program σ ε α) (k : α → Program σ ε Unit)
    (acts : List (Act σ ε)) : Prop
  | going : (∀ before after x, acts = before ++ after → ¬ ComesTo s i p before x) →
      s.taskTranscript i acts = s.alone i p acts → Courses s i p k acts
  | came {before after : List (Act σ ε)} {x : α} : acts = before ++ after →
      ComesTo s i p before x → (s.run before).tasks[i]? = some (.ready (k x)) →
      s.taskTranscript i before = s.alone i p before → Courses s i p k acts

theorem Leads.comesTo_iff {s t : Session σ ε} {i : Nat} {p : Program σ ε α}
    {acts : List (Act σ ε)} {course : (α → Program σ ε Unit) → Task σ ε} {spoken : List Traffic}
    (leads : Leads s i (fun k => .ready (p.bind k)) acts t course spoken) (x : α) :
    ComesTo s i p acts x ↔ CameTo course x := by
  refine forall_congr' fun k => ?_
  rw [leads.run k, setTask_own (List.getElem?_eq_getElem leads.inside), Option.some.injEq]

theorem courses {s : Session σ ε} {i : Nat} {p : Program σ ε α} {k : α → Program σ ε Unit}
    (h : s.tasks[i]? = some (.ready (p.bind k))) (acts : List (Act σ ε)) :
    Courses s i p k acts := by
  have inside : i < s.tasks.length := (List.getElem?_eq_some_iff.mp h).1
  have as_is : s.setTask i (.ready (p.bind k)) = s := setTask_self h
  have same {acts : List (Act σ ε)} {t : Session σ ε}
      {course : (α → Program σ ε Unit) → Task σ ε} {spoken : List Traffic}
      (leads : Leads s i (fun k => .ready (p.bind k)) acts t course spoken) :
      s.taskTranscript i acts = s.alone i p acts := by
    have spoken := leads.spoken k
    rw [as_is] at spoken
    rw [alone, spoken, leads.spoken]
  by_cases comes : ∃ before after x, acts = before ++ after ∧ ComesTo s i p before x
  · obtain ⟨before, after, x, rfl, comes⟩ := comes
    -- The result may have come some acts before the end of that part of the run.
    rcases (Course.ready p).run inside before with ⟨t, course, spoken, leads, going⟩ |
        ⟨first, rest, t, course, spoken, y, rfl, leads, came⟩
    · exact absurd ((leads.comesTo_iff x).mp comes) (going x)
    · have comes := (leads.comesTo_iff y).mpr came
      have there := comes k
      rw [as_is] at there
      exact .came (List.append_assoc ..) comes there (same leads)
  · rcases (Course.ready p).run inside acts with ⟨t, course, spoken, leads, going⟩ |
        ⟨before, after, t, course, spoken, x, rfl, leads, came⟩
    · exact .going (fun before after x split come => comes ⟨before, after, x, split, come⟩)
        (same leads)
    · exact absurd ⟨before, after, x, rfl, (leads.comesTo_iff x).mpr came⟩ comes

end Mcp.Session
