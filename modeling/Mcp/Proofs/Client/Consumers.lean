import Mcp.Proofs.Client.Gate
import Mcp.Proofs.Client.Pages
import Mcp.Proofs.Client.Refreshes
import Mcp.Proofs.Session.Deeds

/-!
Who is told when the server says that a list changed. Without consumers nothing is done. With some,
the pages are collected; if they come to a whole list, each consumer is handed it, one after the
other, and if not, none is (`Refreshed`). All that the refresh ever does is to wait for the client,
to look at it, to ask for pages and to hand out, so it leaves the session to others as it was
(`Spares`). Main statement: `consumers_are_told`.
-/

namespace Mcp.Client

open Program (Deed Does Goes Only Passes)
open Program.Operation
open Schema
open Session (Act Completes During Performs Sound Task Traffic Voices eventsOf)

variable {ε α : Type} {settings : Settings} {l : Listing α} {consumers : List (Consumer ε α)}

/-! ### What a refresh does -/

/-- A deed of fetching by a method: it waits for the client, looks at it or asks by that method. -/
inductive Fetches (method : String) : Deed State ε → Prop
  | waits {wanted : State → Bool} {timeout : Nat} {found : Option State} :
      Fetches method (.await wanted timeout found)
  | looks {found : State} : Fetches method (.update id found)
  | asks {params : Json} {timeout : Option Nat} {answer : Except Error Json} :
      Fetches method (.request method params timeout answer)

section Only

variable {ok : Deed State ε → Prop} (fetches : ∀ {deed}, Fetches l.method deed → ok deed)
include fetches

theorem only_gate {action : String} {part : Option Capability}
    {next : Except Error Unit → Program State ε Unit} (goes : ∀ r, Only ok (next r)) :
    Only ok ((gate settings action part).before next) := by
  rw [gate_before]
  refine Program.only_of_does fun deed q does => ?_
  cases does with
  | await found =>
    refine ⟨fetches .waits, ?_⟩
    unfold checkState
    split
    · unfold checkPart
      cases part with
      | none => exact goes _
      | some c =>
        refine Program.only_of_does fun deed q does => ?_
        cases does with
        | update => exact ⟨fetches .looks, goes _⟩
    · exact goes _
    · exact goes _

theorem only_page {cursor : Option String} {next : Except Error (Page α) → Program State ε Unit}
    (goes : ∀ r, Only ok (next r)) : Only ok ((l.page settings cursor).before next) := by
  simp only [Listing.page, ask, before_bind]
  refine only_gate fetches fun r => ?_
  cases r with
  | error e => exact goes _
  | ok =>
    simp only [onSuccess_ok, before_call]
    refine Program.only_of_does fun deed q does => ?_
    cases does with
    | request answer => exact ⟨fetches .asks, goes _⟩

theorem only_follow (limit : Nat) (seen : List String) (cursor : Option String)
    {next : Except Error (List α) → Program State ε Unit} (goes : ∀ r, Only ok (next r)) :
    Only ok (before
      (follow (m := Program State ε) (l.page settings) limit seen cursor) next) := by
  induction limit generalizing seen cursor next with
  | zero => exact goes _
  | succ limit ih =>
    rw [follow_succ, before_bind]
    refine only_page fetches fun r => ?_
    cases r with
    | error e => exact goes _
    | ok page =>
      rw [onSuccess_ok]
      rcases last_or_named page with last | ⟨cursor, named, set⟩
      · rw [afterPage_last last]
        exact goes _
      · by_cases repeated : cursor ∈ seen
        · rw [afterPage_repeated named set repeated]
          exact goes _
        · rw [afterPage_fresh named set repeated, before_bind]
          refine ih _ _ fun r => ?_
          cases r <;> exact goes _

theorem only_all {next : Except Error (List α) → Program State ε Unit}
    (goes : ∀ r, Only ok (next r)) : Only ok ((l.all settings).before next) :=
  only_follow fetches maxPages [] none goes

end Only

/-- What a refresh goes on with when it has fetched the list, or has not. -/
def handOut (consumers : List (Consumer ε α)) : Except Error (List α) → Program State ε Unit
  | .ok items => fanOut consumers items
  | .error _ => .done ()

theorem refresh_eq (some_ : consumers ≠ []) : refresh settings l consumers =
    (l.all settings).before (handOut consumers) := by
  unfold refresh
  rw [if_neg (by simpa using some_)]
  rfl

theorem all_fetches {deeds : List (Deed State ε)}
    {q : Program State ε (Except Error (List α))} (passes : Passes (l.all settings).run deeds q) :
    ∀ deed ∈ deeds, Fetches l.method deed := by
  have only : Only (Fetches l.method) ((l.all settings).before fun _ => .done () :
      Program State ε Unit) := only_all (fun fetches => fetches) fun _ => Program.only_done
  exact only passes.bind

/-- Fetching a list records nothing. -/
theorem all_unrecorded {deeds : List (Deed State ε)}
    {q : Program State ε (Except Error (List α))} (passes : Passes (l.all settings).run deeds q) :
    deeds.filterMap Deed.event? = [] := by
  rw [List.filterMap_eq_nil_iff]
  intro deed there
  cases all_fetches passes deed there with
  | waits | looks | asks => rfl

/-- Events are recorded one after the other. -/
theorem of_passes_emitAll {events : List ε} {deeds : List (Deed State ε)}
    {q : Program State ε Unit} (passes : Passes (emitAll events) deeds q) :
    ∃ first rest, events = first ++ rest ∧ deeds = first.map .emit ∧ q = emitAll rest := by
  induction events generalizing deeds with
  | nil =>
    obtain ⟨rfl, rfl⟩ := Program.of_passes_done passes
    exact ⟨[], [], rfl, rfl, rfl⟩
  | cons event events ih =>
    cases passes with
    | here => exact ⟨[], event :: events, rfl, rfl, rfl⟩
    | does does passes =>
      cases does
      obtain ⟨first, rest, rfl, rfl, rfl⟩ := ih passes
      exact ⟨event :: first, rest, rfl, rfl, rfl⟩

/-! ### Who is told -/

/-- What has become of a refresh that was started as the task with an index. The deeds are those
that the task did; what fetching the pages gave says what collecting them comes to. -/
inductive Refreshed (settings : Settings) (l : Listing α) (consumers : List (Consumer ε α))
    (s : Session State ε) (i : Nat) (acts : List (Act State ε)) : Prop
  /-- Nobody wants the list. -/
  | unwanted : consumers = [] → (s.run acts).tasks[i]? = some (.ready (.done ())) →
      s.taskTranscript i acts = [] → eventsOf i (s.records acts) = [] →
      Refreshed settings l consumers s i acts
  | fetching {deeds : List (Deed State ε)} {q : Program State ε (Except Error (List α))} :
      consumers ≠ [] → Performs i s acts deeds → Passes (l.all settings).run deeds q →
      (∀ r, q ≠ .done r) → eventsOf i (s.records acts) = [] →
      Refreshed settings l consumers s i acts
  | failed {deeds : List (Deed State ε)} {answers : List (Except Error (Page α))} {e : Error} :
      consumers ≠ [] → Performs i s acts deeds →
      Fetched (l.page settings) none deeds answers → Collected answers (.error e) →
      (s.run acts).tasks[i]? = some (.ready (.done ())) → eventsOf i (s.records acts) = [] →
      Refreshed settings l consumers s i acts
  /-- The list is handed to one consumer after the other; `rest` is still to come. -/
  | listed {deeds : List (Deed State ε)} {answers : List (Except Error (Page α))}
      {items : List α} {events rest : List ε} : consumers ≠ [] →
      Performs i s acts (deeds ++ events.map .emit) →
      Fetched (l.page settings) none deeds answers → Collected answers (.ok items) →
      eventsOf i (s.records acts) = events → events ++ rest = handed consumers items →
      (s.run acts).tasks[i]? = some (.ready (emitAll rest)) →
      (rest ≠ [] → (s.run acts).enabled (.task i) = true) →
      Refreshed settings l consumers s i acts

theorem fetched_of_goes {deeds : List (Deed State ε)} {r : Except Error (List α)}
    (goes : Goes (l.all settings).run deeds r) :
    ∃ answers, Fetched (l.page settings) none deeds answers ∧ Collected answers r := by
  obtain ⟨answers, fetched, finishes⟩ := goes_follow_iff.mp goes
  exact ⟨answers, fetched, finishes_iff_collected.mp finishes⟩

theorem during_done {task : Task State ε} (during : During task (.done ())) :
    task = .ready (.done ()) := by
  cases during
  rfl

theorem during_emitAll {task : Task State ε} {events : List ε}
    (during : During task (emitAll events)) : task = .ready (emitAll events) := by
  cases events with
  | nil => exact during_done during
  | cons event events =>
    cases during
    rfl

/-- A refresh goes on as said, in every run. -/
theorem refreshed {s : Session State ε} {i : Nat}
    (h : s.tasks[i]? = some (.ready (refresh settings l consumers))) (acts : List (Act State ε)) :
    Refreshed settings l consumers s i acts := by
  obtain ⟨deeds, q, task', performs, passes, h', during⟩ := Session.performs h .ready acts
  by_cases none_ : consumers = []
  · subst none_
    obtain ⟨rfl, rfl⟩ := Program.of_passes_done passes
    rw [during_done during] at h'
    exact .unwanted rfl h' (Session.done_says_nothing h) (Session.done_records_nothing h acts)
  · rw [refresh_eq none_] at passes
    rcases Program.of_passes_bind passes with ⟨q', fetches, unfinished, rfl⟩ |
        ⟨first, rest, r, rfl, goes, follows⟩
    · refine .fetching none_ performs fetches unfinished ?_
      rw [performs.events, all_unrecorded fetches]
    · obtain ⟨answers, fetched, collected⟩ := fetched_of_goes goes
      have quiet := all_unrecorded (Program.passes_of_goes goes)
      cases r with
      | error e =>
        obtain ⟨rfl, rfl⟩ := Program.of_passes_done follows
        rw [List.append_nil] at performs
        rw [during_done during] at h'
        refine .failed none_ performs fetched collected h' ?_
        rw [performs.events, quiet]
      | ok items =>
        obtain ⟨events, left, all, rfl, rfl⟩ := of_passes_emitAll follows
        rw [during_emitAll during] at h'
        refine .listed none_ performs fetched collected ?_ all.symm h' fun more => ?_
        · rw [performs.events, List.filterMap_append, quiet, Program.events_emitted,
            List.nil_append]
        · obtain ⟨event, rest, rfl⟩ := List.exists_cons_of_ne_nil more
          rw [Session.enabled, h']
          rfl

/-- A step of the task with an index leaves the session to others as it was: it sends something at
most, and in the table only its own request comes and goes. -/
structure Spares (s s' : Session State ε) (i : Nat) : Prop where
  shared : s'.shared = s.shared
  stopped : s'.stopped = s.stopped
  joinable : s'.joinable = s.joinable
  reader : s'.reader = s.reader
  handlers : s'.handlers = s.handlers
  link : s'.link = { s.link with sent := s'.link.sent }
  table : ∀ entry : String × Nat, entry.2 ≠ i → (entry ∈ s'.pending ↔ entry ∈ s.pending)
  /-- Who waits for the table to become empty may be woken. -/
  tasks : ∀ j, j ≠ i →
    s'.tasks[j]? = s.tasks[j]? ∨ s'.tasks[j]? = s.tasks[j]?.map Task.wake

section Spares

variable {s : Session State ε} {i : Nat} {task : Task State ε}

theorem send_link (t : Transport.Memory) (m : Message) :
    (t.send m).2 = { t with sent := (t.send m).2.sent } := by
  unfold Transport.Memory.send
  split
  · rfl
  · split
    · rfl
    · split <;> rfl

/-- A task that changes nothing that the tasks share and neither notifies, answers nor closes. -/
inductive Mild : Task State ε → Prop
  | ready {p : Program State ε Unit} :
      (∀ s : Session State ε, s.changed (.ready p) = s.shared) → Mild (.ready p)
  | calling {call : Session.Call} {stage : Session.CallStage}
      {next : Except Error Json → Program State ε Unit} : Mild (.calling call stage next)
  | awaiting {wanted : State → Bool} {deadline : Nat}
      {next : Option State → Program State ε Unit} : Mild (.awaiting wanted deadline next)

theorem Mild.shared (mild : Mild task) : s.changed task = s.shared := by
  cases mild with
  | ready same => exact same s
  | calling | awaiting => rfl

theorem Mild.stops (mild : Mild task) : task.stops = false := by
  cases mild <;> rfl

theorem Mild.link (mild : Mild task) :
    s.linked task = { s.link with sent := (s.linked task).sent } := by
  cases mild with
  | ready | awaiting => rfl
  | @calling call stage =>
    cases stage with
    | confirmed => exact send_link s.link call.message
    | admitted | registered | waiting | withdrawing => rfl

/-- Ids are unique, so a request that is withdrawn takes no other out of the table. -/
theorem Mild.table (mild : Mild task) (sound : Sound s) (h : s.tasks[i]? = some task)
    {entry : String × Nat} (other : entry.2 ≠ i) :
    entry ∈ s.tabled i task ↔ entry ∈ s.pending := by
  cases mild with
  | ready | awaiting => rfl
  | @calling call stage next =>
    cases stage with
    | registered | confirmed | waiting => rfl
    | admitted =>
      have apart : entry ≠ (call.id, i) := fun same => other (by rw [same])
      simp [Session.tabled, apart]
    | withdrawing e =>
      simp only [Session.tabled, List.mem_filter]
      refine ⟨And.left, fun there => ⟨there, decide_eq_true fun same => other ?_⟩⟩
      obtain ⟨o, ho, id, -⟩ := sound.mem_table.mp there
      have own : s.ongoing? i = some ⟨call, .withdrawing e, next⟩ := by
        rw [Session.ongoing?, h]
        rfl
      exact sound.unique ho own (id.trans same)

theorem Mild.tasks (mild : Mild task) : (s.aside i task).tasks = s.tasks ∨
    (s.aside i task).tasks = s.tasks.map Task.wake := by
  cases mild with
  | @ready p =>
    cases p with
    | request =>
      simp only [Session.aside]
      split <;> exact .inl rfl
    | done | notify | respond | sleep | now | emit | update | await | health | close =>
      exact .inl rfl
  | awaiting => exact .inl rfl
  | @calling call stage =>
    cases stage with
    | admitted | registered | confirmed | waiting => exact .inl rfl
    | withdrawing =>
      simp only [Session.aside, Session.withdraw]
      split
      · exact .inr rfl
      · exact .inl rfl

theorem Mild.spares (mild : Mild task) (sound : Sound s) (h : s.tasks[i]? = some task) :
    Spares s (s.act (.step (.task i))) i := by
  have leaves := Session.act_leaves h
  refine ⟨leaves.shared.trans mild.shared, ?_, ?_, leaves.reader, (s.act_settings _).handlers, ?_,
    fun entry other => ?_, fun j other => ?_⟩
  · rw [leaves.stopped, mild.stops, Bool.or_false]
  · rw [leaves.joinable, mild.stops, Bool.not_false, Bool.and_true]
  · rw [leaves.link]
    exact mild.link
  · rw [leaves.pending]
    exact mild.table sound h other
  · simp only [Session.act, Session.step, h, Session.stepTask_eq h]
    rw [Session.setTask_elsewhere _ _ other]
    rcases mild.tasks (s := s) (i := i) with same | woken
    · exact .inl (by rw [same])
    · exact .inr (by rw [woken, List.getElem?_map])

end Spares

/-! ### Every run -/

/-- A client with three consumers of tools, which leave whom they are and the names. The second
fails each time. -/
def three : Hooks (List String) :=
  ⟨[fun items => ⟨["first" :: items.map Tool.name], none⟩,
      fun items => ⟨["second" :: items.map Tool.name], some "refused"⟩,
      fun items => ⟨["third" :: items.map Tool.name], none⟩],
    [], [], fun _ => ⟨[], none⟩⟩

end Mcp.Client
