import Mcp.Proofs.Program
import Mcp.Proofs.Session.Records

/-!
The deeds of a task. A step of a task completes a deed of its program, or it leads to one that a
later step completes (`Completes`). So a run of the task does one deed after the other of those that
its program may do, and is always at the beginning or in the midst of the next (`performs`). What
the task records are the events among them.
-/

namespace Mcp

namespace Program

variable {σ ε α β : Type}

/-- A program does some deeds, and something is left of it. -/
inductive Passes : Program σ ε α → List (Deed σ ε) → Program σ ε α → Prop
  | here {p : Program σ ε α} : Passes p [] p
  | does {p q r : Program σ ε α} {deed : Deed σ ε} {deeds : List (Deed σ ε)} :
      Does p deed q → Passes q deeds r → Passes p (deed :: deeds) r

variable {p : Program σ ε α} {deeds : List (Deed σ ε)}

theorem passes_of_goes {a : α} (goes : Goes p deeds a) : Passes p deeds (.done a) := by
  induction goes with
  | done => exact .here
  | does does _ ih => exact .does does ih

/-- Nothing follows on the result of a program. -/
theorem of_passes_done {a : α} {q : Program σ ε α} (passes : Passes (.done a) deeds q) :
    deeds = [] ∧ q = .done a := by
  cases passes with
  | here => exact ⟨rfl, rfl⟩
  | does does => cases does

/-- A program passes through the first part of it, or has come to a result there and goes on as
that says. -/
theorem of_passes_bind {f : α → Program σ ε β} {q : Program σ ε β}
    (passes : Passes (p.bind f) deeds q) :
    (∃ q', Passes p deeds q' ∧ (∀ a, q' ≠ .done a) ∧ q = q'.bind f) ∨
      ∃ first rest a, deeds = first ++ rest ∧ Goes p first a ∧ Passes (f a) rest q := by
  generalize whole : p.bind f = start at passes
  induction passes generalizing p with
  | @here start =>
    by_cases finished : ∃ a, p = .done a
    · obtain ⟨a, rfl⟩ := finished
      have same : f a = start := whole
      exact .inr ⟨[], [], a, rfl, .done a, same ▸ .here⟩
    · exact .inl ⟨p, .here, not_exists.mp finished, whole.symm⟩
  | does does passes ih =>
    subst whole
    rcases of_does_bind does with ⟨a, rfl⟩ | ⟨q', does', rfl⟩
    · exact .inr ⟨[], _, a, rfl, .done a, .does does passes⟩
    · rcases ih rfl with ⟨r, goes, unfinished, rfl⟩ | ⟨first, rest, a, rfl, goes, follows⟩
      · exact .inl ⟨r, .does does' goes, unfinished, rfl⟩
      · exact .inr ⟨_ :: first, rest, a, rfl, .does does' goes, follows⟩

theorem Passes.bind {f : α → Program σ ε β} {q : Program σ ε α} (passes : Passes p deeds q) :
    Passes (p.bind f) deeds (q.bind f) := by
  induction passes with
  | here => exact .here
  | does does _ ih => exact .does does.bind ih

/-! ### All that a program does -/

/-- All that a program ever does is as said. -/
def Only (ok : Deed σ ε → Prop) (p : Program σ ε α) : Prop :=
  ∀ {deeds : List (Deed σ ε)} {q : Program σ ε α}, Passes p deeds q → ∀ deed ∈ deeds, ok deed

section Only

variable {ok : Deed σ ε → Prop}

theorem only_done {a : α} : Only ok (.done a : Program σ ε α) := by
  intro deeds q passes deed there
  rw [(of_passes_done passes).1] at there
  cases there

theorem only_of_does (each : ∀ deed q, Does p deed q → ok deed ∧ Only ok q) : Only ok p := by
  intro deeds q passes
  cases passes with
  | here => simp
  | does does passes =>
    obtain ⟨first, rest⟩ := each _ _ does
    intro deed there
    rcases List.mem_cons.mp there with rfl | there
    · exact first
    · exact rest passes deed there

theorem Only.next {deed : Deed σ ε} {q : Program σ ε α} (only : Only ok p) (does : Does p deed q) :
    ok deed ∧ Only ok q :=
  ⟨only (.does does .here) deed List.mem_cons_self,
    fun passes later there => only (.does does passes) later (List.mem_cons_of_mem _ there)⟩

theorem Only.later {q : Program σ ε α} (only : Only ok p) (passes : Passes p deeds q) :
    Only ok q := by
  induction passes with
  | here => exact only
  | does does _ ih => exact ih (only.next does).2

end Only

/-- The event that a deed records. -/
def Deed.event? : Deed σ ε → Option ε
  | .emit event => some event
  | _ => none

theorem events_emitted (events : List ε) :
    (events.map (Deed.emit (σ := σ))).filterMap Deed.event? = events := by
  induction events with
  | nil => rfl
  | cons event events ih => exact congrArg (event :: ·) ih

end Program

namespace Session

open Program (Deed Does Passes)

variable {σ ε : Type} {s : Session σ ε} {i : Nat} {task : Task σ ε} {p : Program σ ε Unit}

/-- The next step of a task completes a deed. How long a deed was to take at most is not to be
seen. -/
inductive Completes (s : Session σ ε) : Task σ ε → Deed σ ε → Prop
  | unasked {method : String} {params : Json} {timeout : Option Nat}
      {next : Except Error Json → Program σ ε Unit} : s.stopped = true →
      Completes s (.ready (.request method params timeout next))
        (.request method params timeout (.error .transportClosed))
  | asked {call : Call} {deadline : Nat} {timeout : Option Nat} {outcome : Except Error Json}
      {next : Except Error Json → Program σ ε Unit} : call.slot.outcome? = some outcome →
      Completes s (.calling call (.waiting deadline) next)
        (.request call.method call.params timeout outcome)
  | withdrawn {call : Call} {e : Error} {timeout : Option Nat}
      {next : Except Error Json → Program σ ε Unit} :
      Completes s (.calling call (.withdrawing e) next)
        (.request call.method call.params timeout (.error e))
  | untold {method : String} {params : Json} {next : Except Error Unit → Program σ ε Unit} :
      s.stopped = true → Completes s (.ready (.notify method params next))
        (.notify method params (.error .transportClosed))
  | told {method : String} {params : Json} {next : Except Error Unit → Program σ ε Unit} :
      Completes s (.sending (.notification (.new method params.given)) next)
        (.notify method params
          (s.link.send (.notification (.new method params.given))).1)
  | answered {r : Response} {next : Except Error Unit → Program σ ε Unit} :
      Completes s (.sending (.response r) next) (.respond r (s.link.send (.response r)).1)
  | slept {deadline milliseconds : Nat} {next : Program σ ε Unit} : deadline ≤ s.now →
      Completes s (.sleeping deadline next) (.sleep milliseconds)
  | now {next : Nat → Program σ ε Unit} : Completes s (.ready (.now next)) (.now s.now)
  | emit {event : ε} {next : Program σ ε Unit} :
      Completes s (.ready (.emit event next)) (.emit event)
  | update {change : σ → σ} {next : σ → Program σ ε Unit} :
      Completes s (.ready (.update change next)) (.update change s.shared)
  | found {wanted : σ → Bool} {deadline timeout : Nat} {next : Option σ → Program σ ε Unit} :
      wanted s.shared = true →
      Completes s (.awaiting wanted deadline next) (.await wanted timeout (some s.shared))
  | elapsed {wanted : σ → Bool} {deadline timeout : Nat} {next : Option σ → Program σ ε Unit} :
      wanted s.shared = false → deadline ≤ s.now →
      Completes s (.awaiting wanted deadline next) (.await wanted timeout none)
  | health {next : Except Error Unit → Program σ ε Unit} :
      Completes s (.ready (.health next)) (.health s.link.health)
  | closed {stage : CloseStage} {graceful : Bool} {next : Except Error Unit → Program σ ε Unit} :
      s.nextStage stage = none →
      Completes s (.closing stage next) (.close graceful (.ok ()))

/-- A task is at the beginning of a program, or in the midst of its first deed. -/
inductive During : Task σ ε → Program σ ε Unit → Prop
  | ready {p : Program σ ε Unit} : During (.ready p) p
  | calling {call : Call} {stage : CallStage} {timeout : Option Nat}
      {next : Except Error Json → Program σ ε Unit} :
      During (.calling call stage next) (.request call.method call.params timeout next)
  | notifying {method : String} {params : Json} {next : Except Error Unit → Program σ ε Unit} :
      During (.sending (.notification (.new method params.given)) next)
        (.notify method params next)
  | responding {r : Response} {next : Except Error Unit → Program σ ε Unit} :
      During (.sending (.response r) next) (.respond r next)
  | sleeping {deadline milliseconds : Nat} {next : Program σ ε Unit} :
      During (.sleeping deadline next) (.sleep milliseconds next)
  | awaiting {wanted : σ → Bool} {deadline timeout : Nat} {next : Option σ → Program σ ε Unit} :
      During (.awaiting wanted deadline next) (.await wanted timeout next)
  | closing {stage : CloseStage} {graceful : Bool}
      {next : Except Error Unit → Program σ ε Unit} :
      During (.closing stage next) (.close graceful next)

/-- What a task's own step makes of the program that it is at: the first deed is done, or the step
leads to it. -/
inductive During.Turns (s : Session σ ε) (task : Task σ ε) (p : Program σ ε Unit) : Prop
  | does {deed : Deed σ ε} {q : Program σ ε Unit} : Completes s task deed → Does p deed q →
      During (s.turned task) q → Turns s task p
  | leads : (∀ deed, ¬ Completes s task deed) → During (s.turned task) p → Turns s task p

theorem During.turns (during : During task p) : During.Turns s task p := by
  cases during with
  | ready =>
    cases p with
    | done => exact .leads (fun _ completes => by cases completes) .ready
    | request method params timeout next =>
      cases stopped : s.stopped with
      | true =>
        refine .does (.unasked stopped) (.request _) ?_
        simp only [turned, started, stopped, if_true]
        exact .ready
      | false =>
        refine .leads (fun _ completes => ?_) ?_
        · cases completes with
          | unasked stopped' => cases stopped.symm.trans stopped'
        · simp only [turned, started, stopped, Bool.false_eq_true, if_false]
          exact .calling
    | notify method params next =>
      cases stopped : s.stopped with
      | true =>
        refine .does (.untold stopped) (.notify _) ?_
        simp only [turned, started, stopped, if_true]
        exact .ready
      | false =>
        refine .leads (fun _ completes => ?_) ?_
        · cases completes with
          | untold stopped' => cases stopped.symm.trans stopped'
        · simp only [turned, started, stopped, Bool.false_eq_true, if_false]
          exact .notifying
    | respond => exact .leads (fun _ completes => by cases completes) .responding
    | sleep => exact .leads (fun _ completes => by cases completes) .sleeping
    | await => exact .leads (fun _ completes => by cases completes) .awaiting
    | close => exact .leads (fun _ completes => by cases completes) .closing
    | now => exact .does .now (.now _) .ready
    | emit => exact .does .emit .emit .ready
    | update => exact .does .update (.update _) .ready
    | health => exact .does .health (.health _) .ready
  | notifying => exact .does .told (.notify _) .ready
  | responding => exact .does .answered (.respond _) .ready
  | @sleeping deadline _ next =>
    by_cases due : deadline ≤ s.now
    · refine .does (.slept due) .sleep ?_
      simp only [turned, due, if_true]
      exact .ready
    · refine .leads (fun _ completes => ?_) ?_
      · cases completes with
        | slept due' => exact due due'
      · simp only [turned, due, if_false]
        exact .sleeping
  | @awaiting wanted deadline _ next =>
    cases seen : wanted s.shared with
    | true =>
      refine .does (.found seen) (.await _) ?_
      simp only [turned, seen, if_true]
      exact .ready
    | false =>
      by_cases due : deadline ≤ s.now
      · refine .does (.elapsed seen due) (.await _) ?_
        simp only [turned, seen, due, Bool.false_eq_true, if_false, if_true]
        exact .ready
      · refine .leads (fun _ completes => ?_) ?_
        · cases completes with
          | found seen' => cases seen.symm.trans seen'
          | elapsed _ due' => exact due due'
        · simp only [turned, seen, due, Bool.false_eq_true, if_false]
          exact .awaiting
  | @closing stage _ next =>
    cases onward : s.nextStage stage with
    | none =>
      refine .does (.closed onward) (.close _) ?_
      simp only [turned, closedOn, onward]
      exact .ready
    | some stage' =>
      refine .leads (fun _ completes => ?_) ?_
      · cases completes with
        | closed last => cases onward.symm.trans last
      · simp only [turned, closedOn, onward]
        exact .closing
  | @calling call stage _ next =>
    cases stage with
    | admitted | registered =>
      exact .leads (fun _ completes => by cases completes) .calling
    | confirmed =>
      refine .leads (fun _ completes => by cases completes) ?_
      simp only [turned, calledOn]
      split <;> exact .calling
    | withdrawing e => exact .does .withdrawn (.request _) .ready
    | waiting deadline =>
      cases come : call.slot.outcome? with
      | some outcome =>
        refine .does (.asked come) (.request _) ?_
        simp only [turned, calledOn, come]
        exact .ready
      | none =>
        refine .leads (fun _ completes => ?_) ?_
        · cases completes with
          | asked come' => cases come.symm.trans come'
        · simp only [turned, calledOn, come]
          split <;> exact .calling

/-- What others tell a task leaves it where it is in its program. -/
theorem During.told {open_ : Bool} {task' : Task σ ε} (during : During task p)
    (told : Told open_ task task') : During task' p := by
  cases told with
  | same => exact during
  | @news call slot =>
    cases during
    let heard : Call := { call with slot }
    exact (.calling : During (.calling heard _ _) (.request heard.method heard.params _ _))
  | watching | parked =>
    cases during
    exact .closing

/-! ### Runs -/

/-- The deeds that the task with an index completes in a run, one after the other. -/
inductive Performs (i : Nat) : Session σ ε → List (Act σ ε) → List (Deed σ ε) → Prop
  | nil {s : Session σ ε} : Performs i s [] []
  | elsewhere {s : Session σ ε} {a : Act σ ε} {acts : List (Act σ ε)} {deeds : List (Deed σ ε)} :
      a ≠ .step (.task i) → Performs i (s.act a) acts deeds → Performs i s (a :: acts) deeds
  | leads {s : Session σ ε} {task : Task σ ε} {acts : List (Act σ ε)} {deeds : List (Deed σ ε)} :
      s.tasks[i]? = some task → (∀ deed, ¬ Completes s task deed) →
      Performs i (s.act (.step (.task i))) acts deeds →
      Performs i s (.step (.task i) :: acts) deeds
  | does {s : Session σ ε} {task : Task σ ε} {acts : List (Act σ ε)} {deed : Deed σ ε}
      {deeds : List (Deed σ ε)} : s.tasks[i]? = some task → Completes s task deed →
      Performs i (s.act (.step (.task i))) acts deeds →
      Performs i s (.step (.task i) :: acts) (deed :: deeds)

/-- A task does deeds that its program may do, and is then at what is left of it. -/
theorem performs (h : s.tasks[i]? = some task) (during : During task p) (acts : List (Act σ ε)) :
    ∃ deeds q task', Performs i s acts deeds ∧ Passes p deeds q ∧
      (s.run acts).tasks[i]? = some task' ∧ During task' q := by
  induction acts generalizing s task p with
  | nil => exact ⟨[], p, task, .nil, .here, h, during⟩
  | cons a acts ih =>
    by_cases own : a = .step (.task i)
    · subst own
      cases during.turns (s := s) with
      | does completes does during' =>
        obtain ⟨deeds, q, task', performs, passes, h', there⟩ := ih (act_own h) during'
        exact ⟨_ :: deeds, q, task', .does h completes performs, .does does passes, h', there⟩
      | leads nothing during' =>
        obtain ⟨deeds, q, task', performs, passes, h', there⟩ := ih (act_own h) during'
        exact ⟨deeds, q, task', .leads h nothing performs, passes, h', there⟩
    · obtain ⟨task', h', told⟩ := act_elsewhere h own
      obtain ⟨deeds, q, task'', performs, passes, h'', there⟩ := ih h' (during.told told)
      exact ⟨deeds, q, task'', .elsewhere own performs, passes, h'', there⟩

/-! ### What a task says and records -/

/-- What is said when a deed is done. -/
inductive Voices : Deed σ ε → Traffic → Prop
  | request {method : String} {params : Json} {timeout : Option Nat} {r : Request}
      {answer : Except Error Json} {result : Except Error Unit} : r.method = method →
      Voices (.request method params timeout answer) (.offered (.request r) result)
  | notify {method : String} {params : Json} {answer result : Except Error Unit} :
      Voices (.notify method params answer)
        (.offered (.notification (.new method params.given)) result)
  | withhold {method : String} {params : Json} {answer : Except Error Unit} :
      Voices (.notify method params answer) (.withheld method)
  | respond {r : Response} {answer result : Except Error Unit} :
      Voices (.respond r answer) (.offered (.response r) result)

/-- What a task says by its next step, it says for the first deed of the program that it is at. -/
theorem During.voices (during : During task p) {x : Traffic} (h : s.taskTraffic task = some x) :
    ∃ deed q, Does p deed q ∧ Voices deed x := by
  cases during with
  | ready =>
    cases p with
    | notify method params next =>
      simp only [taskTraffic] at h
      split at h
      · cases h
        exact ⟨_, _, .notify (.ok ()), .withhold⟩
      · cases h
    | done | request | respond | sleep | now | emit | update | await | health | close => cases h
  | @calling call stage _ _ =>
    cases stage with
    | confirmed =>
      cases h
      exact ⟨_, _, .request (.ok .null), .request rfl⟩
    | admitted | registered | waiting | withdrawing => cases h
  | notifying =>
    cases h
    exact ⟨_, _, .notify (.ok ()), .notify⟩
  | responding =>
    cases h
    exact ⟨_, _, .respond (.ok ()), .respond⟩
  | sleeping | awaiting | closing => cases h

/-- A task says what its program may say. -/
theorem spoken {ok : Deed σ ε → Prop} (only : p.Only ok) (h : s.tasks[i]? = some task)
    (during : During task p) (acts : List (Act σ ε)) :
    ∀ x ∈ s.taskTranscript i acts, ∃ deed, ok deed ∧ Voices deed x := by
  induction acts generalizing s task p with
  | nil =>
    intro x there
    cases there
  | cons a acts ih =>
    intro x there
    rcases List.mem_append.mp there with now | later
    · split at now
      · rename_i own
        obtain rfl := Act.isStepOf_iff.mp own
        rw [traffic_task h, Option.mem_toList] at now
        obtain ⟨deed, q, does, voices⟩ := during.voices now
        exact ⟨deed, (only.next does).1, voices⟩
      · cases now
    · by_cases own : a = .step (.task i)
      · subst own
        cases during.turns (s := s) with
        | does _ does during' => exact ih (only.next does).2 (act_own h) during' x later
        | leads _ during' => exact ih only (act_own h) during' x later
      · obtain ⟨task', h', told⟩ := act_elsewhere h own
        exact ih only h' (during.told told) x later

/-- A deed is recorded if it is an event. -/
theorem Completes.event? {deed : Deed σ ε} (completes : Completes s task deed) :
    task.event? = deed.event? := by
  cases completes <;> rfl

/-- What is recorded is a deed. -/
theorem event?_none (nothing : ∀ deed, ¬ Completes s task deed) : task.event? = none := by
  unfold Task.event?
  split
  · exact absurd .emit (nothing _)
  · rfl

/-- What a task records are the events among its deeds. -/
theorem Performs.events {acts : List (Act σ ε)} {deeds : List (Deed σ ε)}
    (performs : Performs i s acts deeds) :
    eventsOf i (s.records acts) = deeds.filterMap Deed.event? := by
  induction performs with
  | nil => rfl
  | elsewhere other _ ih => rw [records, eventsOf_append, eventsOf_elsewhere other, ih]; rfl
  | leads h nothing _ ih =>
    rw [records, eventsOf_append, eventsOf_own h, event?_none nothing, ih]
    rfl
  | @does s task acts deed deeds h completes _ ih =>
    rw [records, eventsOf_append, eventsOf_own h, completes.event?, ih, List.filterMap_cons]
    cases deed.event? <;> rfl

end Session

end Mcp
