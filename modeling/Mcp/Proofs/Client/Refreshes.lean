import Mcp.Proofs.Client.Tasks
import Mcp.Proofs.Session.Answers
import Mcp.Proofs.Session.Records

/-!
The lists that a client fetches again when the server says that they changed. Each notification
starts a refresh of its own, which asks for the pages one after the other and hands the whole list
to the consumers in turn (`Refreshing`); what it hands out was asked for and answered after its
notification. Refreshes do not wait for each other, so one that takes longer may be overtaken, but
one that is done when the next notification is heard has handed out its list before. Main
statement: `refreshes_in_turn`.
-/

namespace Mcp.Client

open Program.Operation
open Schema
open Session (Act Call CallStage Sound Task Told Traffic eventsOf)

variable {ε α : Type} {settings : Settings} {l : Listing α} {consumers : List (Consumer ε α)}

/-! ### Pages -/

/-- The cursor to go on with after some pages; none is the first page. -/
def cursorAfter (pages : List (Page α)) : Option String := pages.getLast?.bind Page.nextCursor

/-- The last of some pages names no next one. -/
def Whole (pages : List (Page α)) : Prop :=
  ∃ last, pages.getLast? = some last ∧ (last.nextCursor = none ∨ last.nextCursor = some "")

/-- The page that an answer holds, if it does. -/
def Listing.got (l : Listing α) (answer : Except Error Json) : List (Page α) :=
  (answer.bind (unmarshal l.read)).toOption.toList

/-- A program that fetches a list, of which it has some pages, and hands it out when it is whole. -/
inductive Fetching (l : Listing α) (consumers : List (Consumer ε α)) :
    List (Page α) → Program State ε Unit → Prop
  | failed {pages : List (Page α)} : Fetching l consumers pages (.done ())
  | whole {pages : List (Page α)} : Whole pages →
      Fetching l consumers pages (fanOut consumers (pages.flatMap Page.items))
  | request {pages : List (Page α)} {timeout : Option Nat}
      {next : Except Error Json → Program State ε Unit} :
      (∀ answer, Fetching l consumers (pages ++ l.got answer) (next answer)) →
      Fetching l consumers pages
        (.request l.method (PageRequest.toJson ⟨cursorAfter pages⟩) timeout next)
  | look {pages : List (Page α)} {next : State → Program State ε Unit} :
      (∀ s, Fetching l consumers pages (next s)) → Fetching l consumers pages (.update id next)
  | await {pages : List (Page α)} {wanted : State → Bool} {timeout : Nat}
      {next : Option State → Program State ε Unit} :
      (∀ s, Fetching l consumers pages (next s)) →
      Fetching l consumers pages (.await wanted timeout next)

section Fetching

variable {pages : List (Page α)}

theorem Fetching.gate {action : String} {part : Option Capability}
    {next : Except Error Unit → Program State ε Unit}
    (passed : Fetching l consumers pages (next (.ok ())))
    (refused : ∀ e, Fetching l consumers pages (next (.error e))) :
    Fetching l consumers pages ((gate settings action part).before next) := by
  simp only [Client.gate, requireInitialized, before_bind, before_await]
  refine .await fun s => ?_
  cases lifecycle : s.map State.lifecycle with
  | none =>
    simp only [onSuccess_ok, lifecycle, before_throw, onSuccess_error]
    exact refused _
  | some found =>
    cases found with
    | initialized =>
      simp only [onSuccess_ok, lifecycle, before_pure]
      cases part with
      | none => exact passed
      | some c =>
        simp only [before_bind, before_shared, onSuccess_ok, before_ite, before_pure, before_throw]
        refine .look fun s => ?_
        split
        · exact passed
        · exact refused _
    | uninitialized | initializing | failed | closed =>
      simp only [onSuccess_ok, lifecycle, before_throw, onSuccess_error]
      exact refused _

theorem Fetching.page {next : Except Error (Page α) → Program State ε Unit}
    (got : ∀ page, Fetching l consumers (pages ++ [page]) (next (.ok page)))
    (failed : ∀ e, Fetching l consumers pages (next (.error e))) :
    Fetching l consumers pages ((l.page settings (cursorAfter pages)).before next) := by
  simp only [Listing.page, Client.ask, before_bind]
  refine .gate ?_ fun e => failed e
  simp only [onSuccess_ok, before_call]
  refine .request fun answer => ?_
  unfold Listing.got
  cases answer.bind (unmarshal l.read) with
  | ok page => exact got page
  | error e =>
    simp only [Except.toOption, Option.toList_none, List.append_nil]
    exact failed e

theorem Fetching.follow (limit : Nat) (seen : List String)
    {next : Except Error (List α) → Program State ε Unit}
    (whole : ∀ more, Whole (pages ++ more) →
      Fetching l consumers (pages ++ more) (next (.ok (more.flatMap Page.items))))
    (failed : ∀ more e, Fetching l consumers (pages ++ more) (next (.error e))) :
    Fetching l consumers pages (before
      (Client.follow (m := Program State ε) (l.page settings) limit seen (cursorAfter pages))
      next) := by
  have refused (e : Error) : Fetching l consumers pages (next (.error e)) := by
    have := failed [] e
    rwa [List.append_nil] at this
  induction limit generalizing seen pages next with
  | zero => exact refused _
  | succ limit ih =>
    simp only [Client.follow, before_bind]
    refine .page (fun page => ?_) refused
    have last : (pages ++ [page]).getLast? = some page := List.getLast?_concat
    have ends (stops : page.nextCursor = none ∨ page.nextCursor = some "") :
        Fetching l consumers (pages ++ [page]) (next (.ok page.items)) := by
      have := whole [page] ⟨page, last, stops⟩
      rwa [List.flatMap_singleton] at this
    simp only [onSuccess_ok]
    split
    · rename_i none_
      exact ends (.inl none_)
    · rename_i cursor more
      simp only [before_ite, before_pure, before_throw]
      split
      · rename_i empty
        exact ends (.inr (by rw [more, String.isEmpty_iff.mp empty]))
      · split
        · exact failed [page] _
        · have onward : cursorAfter (pages ++ [page]) = some cursor := by
            rw [cursorAfter, last, Option.bind_some, more]
          simp only [before_bind]
          rw [← onward]
          refine ih _ (fun rest whole' => ?_) (fun rest e => ?_) fun e => failed [page] e
          · have := whole (page :: rest) (by simpa using whole')
            simpa using this
          · have := failed (page :: rest) e
            simpa using this

theorem refresh_fetching (settings : Settings) (l : Listing α)
    (consumers : List (Consumer ε α)) : Fetching l consumers [] (refresh settings l consumers) := by
  unfold refresh
  split
  · exact .failed
  · exact .follow maxPages [] (fun pages whole => .whole whole) fun pages e => .failed

end Fetching

/-! ### What was got -/

/-- A page that was got: its request went out, and it was the answer. -/
def Got (l : Listing α) (heard own : List Traffic) (cursor : Option String)
    (page : Page α) : Prop :=
  ∃ (id : String) (r : Response) (value : Json),
    .offered (.request (.new (.text id) l.method (PageRequest.toJson ⟨cursor⟩).given)) (.ok ())
      ∈ own ∧
    .heard (.response r) ∈ heard ∧ r.id = some (.text id) ∧ r.answer = .ok value ∧
    unmarshal l.read value = .ok page

/-- Pages that were got one after the other, each with the cursor of the one before. -/
inductive Gathered (l : Listing α) (heard own : List Traffic) : List (Page α) → Prop
  | nil : Gathered l heard own []
  | next {pages : List (Page α)} {page : Page α} : Gathered l heard own pages →
      Got l heard own (cursorAfter pages) page → Gathered l heard own (pages ++ [page])

section Gathered

variable {heard own heard' own' : List Traffic} {pages : List (Page α)}

theorem Got.more {cursor : Option String} {page : Page α} (got : Got l heard own cursor page)
    (moreHeard : heard ⊆ heard') (moreOwn : own ⊆ own') : Got l heard' own' cursor page := by
  obtain ⟨id, r, value, offered, there, answers⟩ := got
  exact ⟨id, r, value, moreOwn offered, moreHeard there, answers⟩

theorem Gathered.more (gathered : Gathered l heard own pages) (moreHeard : heard ⊆ heard')
    (moreOwn : own ⊆ own') : Gathered l heard' own' pages := by
  induction gathered with
  | nil => exact .nil
  | next _ got ih => exact .next ih (got.more moreHeard moreOwn)

theorem Gathered.took (gathered : Gathered l heard own pages) {outcome : Except Error Json}
    (answers : ∀ value page, outcome = .ok value → unmarshal l.read value = .ok page →
      Got l heard own (cursorAfter pages) page) :
    Gathered l heard own (pages ++ l.got outcome) := by
  unfold Listing.got
  cases outcome with
  | error e =>
    rw [Except.bind, Except.toOption, Option.toList_none, List.append_nil]
    exact gathered
  | ok value =>
    rw [Except.bind]
    cases read : unmarshal l.read value with
    | error e =>
      rw [Except.toOption, Option.toList_none, List.append_nil]
      exact gathered
    | ok page => exact .next gathered (answers value page rfl read)

end Gathered

/-! ### The task of a refresh -/

/-- What the consumers leave when they are handed a list, in turn. -/
def handed (consumers : List (Consumer ε α)) (items : List α) : List ε :=
  consumers.flatMap fun consumer => (consumer items).events

/-- An answer that a call has was heard. -/
def AnswerHeard (heard : List Traffic) (call : Call) : Prop :=
  ∀ answer, call.slot = .answered answer →
    ∃ r, .heard (.response r) ∈ heard ∧ r.id = some (.text call.id) ∧ r.answer = answer

theorem AnswerHeard.more {heard heard' : List Traffic} {call : Call}
    (answered : AnswerHeard heard call) (more : heard ⊆ heard') : AnswerHeard heard' call := by
  intro answer filled
  obtain ⟨r, there, rest⟩ := answered answer filled
  exact ⟨r, more there, rest⟩

/-- A task that refreshes a list, by what was heard since it was started, what it said itself and
what it recorded. -/
inductive Refreshing (l : Listing α) (consumers : List (Consumer ε α)) (heard own : List Traffic) :
    List ε → Task State ε → Prop
  | fetching {pages : List (Page α)} {p : Program State ε Unit} : Gathered l heard own pages →
      Fetching l consumers pages p → Refreshing l consumers heard own [] (.ready p)
  | awaiting {pages : List (Page α)} {wanted : State → Bool} {deadline : Nat}
      {next : Option State → Program State ε Unit} : Gathered l heard own pages →
      (∀ s, Fetching l consumers pages (next s)) →
      Refreshing l consumers heard own [] (.awaiting wanted deadline next)
  | asking {pages : List (Page α)} {call : Call} {stage : CallStage}
      {next : Except Error Json → Program State ε Unit} : Gathered l heard own pages →
      call.message =
        .request (.new (.text call.id) l.method (PageRequest.toJson ⟨cursorAfter pages⟩).given) →
      (∀ deadline, stage = .waiting deadline → .offered call.message (.ok ()) ∈ own) →
      AnswerHeard heard call →
      (∀ answer, Fetching l consumers (pages ++ l.got answer) (next answer)) →
      Refreshing l consumers heard own [] (.calling call stage next)
  | handing {pages : List (Page α)} {before rest : List ε} : Gathered l heard own pages →
      Whole pages → before ++ rest = handed consumers (pages.flatMap Page.items) →
      Refreshing l consumers heard own before (.ready (emitAll rest))

section Refreshing

variable {heard own : List Traffic} {before : List ε} {s : Session State ε} {i : Nat}
  {task : Task State ε}

theorem Refreshing.act_elsewhere (refreshing : Refreshing l consumers heard own before task)
    (sound : Sound s) (named : s.label ≠ "") (h : s.tasks[i]? = some task) {a : Act State ε}
    (other : a ≠ .step (.task i)) : ∃ task', (s.act a).tasks[i]? = some task' ∧
      Refreshing l consumers (heard ++ (s.traffic a).toList) own before task' := by
  obtain ⟨task', h', told⟩ := Session.act_elsewhere h other
  refine ⟨task', h', ?_⟩
  have more : heard ⊆ heard ++ (s.traffic a).toList := List.subset_append_left ..
  cases refreshing with
  | fetching gathered fetching =>
    cases told
    exact .fetching (gathered.more more (List.Subset.refl _)) fetching
  | awaiting gathered goes =>
    cases told
    exact .awaiting (gathered.more more (List.Subset.refl _)) goes
  | handing gathered whole split =>
    cases told
    exact .handing (gathered.more more (List.Subset.refl _)) whole split
  | @asking pages call stage next gathered asks offered answered goes =>
    have now (slot : Session.Slot)
        (h' : (s.act a).tasks[i]? = some (.calling { call with slot } stage next)) :
        Refreshing l consumers (heard ++ (s.traffic a).toList) own []
          (.calling { call with slot } stage next) := by
      refine .asking (gathered.more more (List.Subset.refl _)) asks offered ?_ goes
      intro answer filled
      have ho : (s.act a).ongoing? i = some ⟨{ call with slot }, stage, next⟩ := by
        rw [Session.ongoing?, h']
        rfl
      rcases Session.act_answered sound named a ho filled with ⟨p, hp, same⟩ | ⟨r, there, rest⟩
      · rw [Session.ongoing?, h] at hp
        cases hp
        obtain ⟨r, there, rest⟩ := answered answer ((congrArg Call.slot same).trans filled)
        exact ⟨r, more there, rest⟩
      · refine ⟨r, List.mem_append_right _ ?_, rest⟩
        rw [there]
        exact List.mem_cons_self
    cases told with
    | same => exact now call.slot h'
    | @news _ slot => exact now slot h'

/-- A refresh that hands out its list does so event by event. -/
theorem Refreshing.hand {pages : List (Page α)} {rest : List ε}
    (gathered : Gathered l heard own pages) (whole : Whole pages)
    (split : before ++ rest = handed consumers (pages.flatMap Page.items)) :
    Refreshing l consumers
      (heard ++ (s.taskTraffic (.ready (emitAll rest))).toList)
      (own ++ (s.taskTraffic (.ready (emitAll rest))).toList)
      (before ++ (Task.event? (.ready (emitAll rest) : Task State ε)).toList)
      (s.turned (.ready (emitAll rest))) := by
  cases rest with
  | nil =>
    have stays : Refreshing l consumers heard own before (.ready (emitAll [])) :=
      .handing gathered whole split
    simpa [emitAll, Session.taskTraffic, Task.event?, Session.turned, Session.started] using stays
  | cons e rest =>
    have goes : Refreshing l consumers heard own (before ++ [e]) (.ready (emitAll rest)) := by
      refine .handing gathered whole ?_
      rw [List.append_assoc]
      exact split
    simpa [emitAll, Session.taskTraffic, Task.event?, Session.turned, Session.started] using goes

theorem Refreshing.ask {pages : List (Page α)} {call : Call} {stage : CallStage}
    {next : Except Error Json → Program State ε Unit} (gathered : Gathered l heard own pages)
    (asks : call.message =
      .request (.new (.text call.id) l.method (PageRequest.toJson ⟨cursorAfter pages⟩).given))
    (offered : ∀ deadline, stage = .waiting deadline → .offered call.message (.ok ()) ∈ own)
    (answered : AnswerHeard heard call)
    (goes : ∀ answer, Fetching l consumers (pages ++ l.got answer) (next answer)) :
    Refreshing l consumers
      (heard ++ (s.taskTraffic (.calling call stage next)).toList)
      (own ++ (s.taskTraffic (.calling call stage next)).toList) []
      (s.turned (.calling call stage next)) := by
  have quiet (x : List Traffic) : x ++ (none : Option Traffic).toList = x := List.append_nil x
  cases stage with
  | admitted =>
    simp only [Session.taskTraffic, quiet]
    exact .asking gathered asks (by simp) answered goes
  | registered =>
    simp only [Session.taskTraffic, quiet]
    refine .asking gathered asks (fun deadline waits => ?_) answered goes
    split at waits <;> cases waits
  | confirmed =>
    have more (x : List Traffic) : x ⊆ x ++ (s.taskTraffic (.calling call .confirmed next)).toList :=
      List.subset_append_left ..
    have gathered := gathered.more (more heard) (more own)
    have answered := answered.more (more heard)
    simp only [Session.turned, Session.calledOn]
    split
    · rename_i sent
      refine .asking gathered asks (fun deadline waits => ?_) answered goes
      refine List.mem_append_right _ ?_
      rw [Session.taskTraffic, sent]
      exact List.mem_cons_self
    · exact .asking gathered asks (by simp) answered goes
  | waiting deadline =>
    simp only [Session.taskTraffic, quiet, Session.turned, Session.calledOn]
    split
    · rename_i outcome come
      refine .fetching (gathered.took fun value page same read => ?_) (goes _)
      subst same
      obtain ⟨r, there, own_, answer⟩ := answered (.ok value) (answered_of_outcome come)
      refine ⟨call.id, r, value, ?_, there, own_, answer, read⟩
      rw [← asks]
      exact offered deadline rfl
    · split
      · exact .asking gathered asks (by simp) answered goes
      · exact .asking gathered asks offered answered goes
  | withdrawing e =>
    simp only [Session.taskTraffic, quiet]
    exact .fetching (gathered.took (by simp)) (goes _)

/-- A refresh goes on by its own step. -/
theorem Refreshing.act_own (refreshing : Refreshing l consumers heard own before task) :
    Refreshing l consumers (heard ++ (s.taskTraffic task).toList)
      (own ++ (s.taskTraffic task).toList) (before ++ task.event?.toList) (s.turned task) := by
  have quiet (x : List Traffic) : x ++ (none : Option Traffic).toList = x := List.append_nil x
  cases refreshing with
  | @fetching pages _ gathered fetching =>
    cases fetching with
    | failed =>
      simp only [Session.taskTraffic, quiet]
      exact .fetching gathered .failed
    | whole whole => exact .hand gathered whole rfl
    | look goes =>
      simp only [Session.taskTraffic, quiet]
      exact .fetching gathered (goes _)
    | await goes =>
      simp only [Session.taskTraffic, quiet]
      exact .awaiting gathered goes
    | @request _ timeout next goes =>
      simp only [Session.taskTraffic, quiet, Session.turned, Session.started]
      split
      · exact .fetching (gathered.took (by simp)) (goes _)
      · exact .asking gathered rfl (by simp) (by simp [AnswerHeard]) goes
  | awaiting gathered goes =>
    simp only [Session.taskTraffic, quiet, Session.turned]
    split
    · exact .fetching gathered (goes _)
    · split
      · exact .fetching gathered (goes _)
      · exact .awaiting gathered goes
  | handing gathered whole split => exact .hand gathered whole split
  | asking gathered asks offered answered goes =>
    exact .ask gathered asks offered answered goes

theorem Refreshing.run (refreshing : Refreshing l consumers heard own before task)
    (sound : Sound s) (named : s.label ≠ "") (h : s.tasks[i]? = some task)
    (acts : List (Act State ε)) : ∃ task', (s.run acts).tasks[i]? = some task' ∧
      Refreshing l consumers (heard ++ s.transcript acts) (own ++ s.taskTranscript i acts)
        (before ++ eventsOf i (s.records acts)) task' := by
  induction acts generalizing s heard own before task with
  | nil =>
    refine ⟨task, h, ?_⟩
    simpa [Session.transcript, Session.taskTranscript, Session.records, eventsOf] using refreshing
  | cons a acts ih =>
    have label : (s.act a).label ≠ "" := by rwa [(s.act_settings a).label]
    rw [Session.run_cons, Session.transcript, Session.taskTranscript, Session.records,
      Session.eventsOf_append, ← List.append_assoc, ← List.append_assoc, ← List.append_assoc]
    by_cases step : a = .step (.task i)
    · subst step
      rw [if_pos (Session.Act.isStepOf_iff.mpr rfl), Session.traffic_task h, Session.eventsOf_own h]
      exact ih refreshing.act_own (sound.act _) label (Session.act_own h)
    · obtain ⟨task', h', goes⟩ := refreshing.act_elsewhere sound named h step
      rw [if_neg (mt Session.Act.isStepOf_iff.mp step), Session.eventsOf_elsewhere step,
        List.append_nil, List.append_nil]
      exact ih goes (sound.act a) label h'

end Refreshing

/-! ### What is handed out -/

/-- What a refresh has handed out, by what was heard since it was started, what it said, and whether
it is done: nothing, or, to one consumer after the other, the list that it got. -/
inductive HandsOut (l : Listing α) (consumers : List (Consumer ε α)) (heard own : List Traffic)
    (ended : Prop) (events : List ε) : Prop
  | nothing : events = [] → HandsOut l consumers heard own ended events
  | list {pages : List (Page α)} : Gathered l heard own pages → Whole pages →
      events <+: handed consumers (pages.flatMap Page.items) →
      (ended → events = handed consumers (pages.flatMap Page.items)) →
      HandsOut l consumers heard own ended events

theorem emitAll_done {events : List ε} (h : emitAll events = (.done () : Program State ε Unit)) :
    events = [] := by
  cases events with
  | nil => rfl
  | cons e events => cases h

theorem Refreshing.handsOut {heard own : List Traffic} {events : List ε} {task : Task State ε}
    (refreshing : Refreshing l consumers heard own events task) :
    HandsOut l consumers heard own (task = .ready (.done ())) events := by
  cases refreshing with
  | fetching | awaiting | asking => exact .nothing rfl
  | @handing pages _ rest gathered whole split =>
    refine .list gathered whole ⟨rest, split⟩ fun ended => ?_
    have none_ : rest = [] := emitAll_done (Session.Task.ready.inj ended)
    rw [← split, none_, List.append_nil]

/-- The kinds of lists that a client fetches again: the notification of each, the list itself, and
those who want it. -/
inductive Kind (hooks : Hooks ε) :
    {α : Type} → String → Listing α → List (Consumer ε α) → Prop
  | tools : Kind hooks "notifications/tools/list_changed" .tools hooks.tools
  | resources : Kind hooks "notifications/resources/list_changed" .resources hooks.resources
  | prompts : Kind hooks "notifications/prompts/list_changed" .prompts hooks.prompts

theorem Kind.handler {hooks : Hooks ε} {method : String} (kind : Kind hooks method l consumers) :
    (handlers settings hooks).notifications.lookup method =
      some fun _ => refresh settings l consumers := by
  cases kind with
  | tools | resources | prompts => rfl

/-- After some acts a notification is heard, and a task with an index comes next. -/
structure Notified (s : Session State ε) (before : List (Act State ε)) (method : String) (i : Nat) :
    Prop where
  heard : ∃ n : Notification, n.method = method ∧
    (s.run before).traffic (.step .reader) = some (.heard (.notification n))
  index : (s.run before).tasks.length = i

/-- What a client promises about the lists that it fetches again. -/
structure RefreshesInTurn (hooks : Hooks ε) (settings : Settings) (s : Session State ε)
    (acts : List (Act State ε)) : Prop where
  /-- What consumers leave is what tasks recorded. -/
  log : (s.run acts).log = (s.records acts).map Prod.snd
  /-- A notification starts a refresh. -/
  starts {α : Type} {method : String} {l : Listing α} {consumers : List (Consumer ε α)} {i : Nat}
    {before after : List (Act State ε)} : Kind hooks method l consumers →
    acts = before ++ .step .reader :: after → Notified s before method i →
    (s.run (before ++ [.step .reader])).tasks[i]? = some (.ready (refresh settings l consumers))
  /-- The refresh hands out one list, whose pages were asked for and answered after that. -/
  hands {α : Type} {method : String} {l : Listing α} {consumers : List (Consumer ε α)} {i : Nat}
    {before after : List (Act State ε)} : Kind hooks method l consumers →
    acts = before ++ .step .reader :: after → Notified s before method i →
    HandsOut l consumers ((s.run (before ++ [.step .reader])).transcript after)
      ((s.run (before ++ [.step .reader])).taskTranscript i after)
      ((s.run acts).tasks[i]? = some (.ready (.done ()))) (eventsOf i (s.records acts))
  /-- What is fetched for a notification never comes after what is fetched for a later one, if its
  refresh was done when the later one was heard. -/
  oneByOne {method : String} {i j : Nat} {before middle after : List (Act State ε)} :
    acts = (before ++ .step .reader :: middle) ++ .step .reader :: after →
    Notified s before method i → Notified s (before ++ .step .reader :: middle) method j →
    (s.run (before ++ .step .reader :: middle)).tasks[i]? = some (.ready (.done ())) →
    ∀ d e, ¬ List.Sublist [(j, d), (i, e)] (s.records acts)
  /-- At any rate a refresh is not overtaken by one that has nothing to hand out until the first is
  done. -/
  inOrder {i j : Nat} {early late : List (Act State ε)} : acts = early ++ late →
    (s.run early).tasks[i]? = some (.ready (.done ())) → eventsOf j (s.records early) = [] →
    ∀ d e, ¬ List.Sublist [(j, d), (i, e)] (s.records acts)

theorem Notified.absent {s : Session State ε} {before : List (Act State ε)} {method : String}
    {i : Nat} (notified : Notified s before method i) : eventsOf i (s.records before) = [] := by
  rw [List.eq_nil_iff_forall_not_mem]
  intro event there
  have inside := Session.inside_of_records (Session.mem_eventsOf.mp there)
  have index := notified.index
  omega

theorem Notified.starts {s : Session State ε} {before : List (Act State ε)} {hooks : Hooks ε}
    {method : String} {i : Nat} (notified : Notified s before method i)
    (own : s.handlers = handlers settings hooks) (kind : Kind hooks method l consumers) :
    (s.run (before ++ [.step .reader])).tasks[i]? =
      some (.ready (refresh settings l consumers)) := by
  obtain ⟨⟨n, rfl, heard⟩, rfl⟩ := notified
  have found : (s.run before).handlers.notifications.lookup n.method =
      some fun _ => refresh settings l consumers := by
    rw [s.run_handlers, own]
    exact kind.handler
  rw [Session.run_append, Session.run_cons, Session.run_nil, (Session.notes heard).handled found]
  exact List.getElem?_concat_length

theorem started_log {label : String} {hooks : Hooks ε} {link : Transport.Memory}
    {s : Session State ε} (h : start label settings hooks link = .ok s) : s.log = [] := by
  unfold start Session.start at h
  split at h
  · cases h
  · cases h
    rfl

/-- The lists that a client fetches again come in turn. -/
theorem refreshes_in_turn {label : String} {hooks : Hooks ε} {link : Transport.Memory}
    {s : Session State ε} (named : label ≠ "") (h : start label settings hooks link = .ok s)
    (acts : List (Act State ε)) : RefreshesInTurn hooks settings s acts := by
  have fresh := Session.fresh_of_start h
  have own := Session.handlers_of_start h
  refine
    { log := ?log, starts := ?starts, hands := ?hands, oneByOne := ?oneByOne, inOrder := ?inOrder }
  case log =>
    rw [s.run_log, started_log h, List.nil_append]
  case starts =>
    intro α method l consumers i before after kind split notified
    exact notified.starts own kind
  case hands =>
    rintro α method l consumers i before after kind rfl notified
    have named' : (s.run (before ++ [.step .reader])).label ≠ "" := by
      rwa [s.run_label, fresh.label]
    have begins : Refreshing l consumers [] [] [] (.ready (refresh settings l consumers)) :=
      .fetching .nil (refresh_fetching settings l consumers)
    obtain ⟨task, there, goes⟩ :=
      begins.run (fresh.sound.run _) named' (notified.starts own kind) after
    have before_none : eventsOf i (s.records (before ++ [.step .reader])) = [] := by
      rw [Session.records_append, Session.eventsOf_append, notified.absent]
      rfl
    rw [List.append_cons before _ after, s.run_append _ after, there, s.records_append _ after,
      Session.eventsOf_append, before_none, Option.some.injEq]
    exact goes.handsOut
  case inOrder =>
    rintro i j early late rfl done later d e
    exact Session.records_in_order done later d e
  case oneByOne =>
    rintro method i j before middle after rfl - later done d e
    exact Session.records_in_order done later.absent d e

/-! ### Two refreshes -/

section Two

/-- A client with one consumer of tools, which leaves their names. -/
def names : Hooks (List String) :=
  ⟨[fun items => ⟨[items.map Tool.name], none⟩], [], [], fun _ => ⟨[], none⟩⟩

def steps (i n : Nat) : List (Act State (List String)) := List.replicate n (.step (.task i))

/-- The peer puts in a message, which is forwarded and taken. -/
def taken (m : Message) : List (Act State (List String)) :=
  [.inject m, .step .forwarder, .step .reader]

/-- The peer says that the tools have changed, which is about to be heard. -/
def changing : List (Act State (List String)) :=
  [.inject (.notification (.new "notifications/tools/list_changed" none)), .step .forwarder]

/-- The client shakes hands with a server that offers tools. -/
def shaken : List (Act State (List String)) :=
  .spawn ((handshake .default).before fun _ => .done ()) :: steps 0 5 ++
    taken (.response (.success (.text "sess-1")
      (Agreement.toJson ⟨"2025-03-26", ⟨none, none, none, none, some (.obj [])⟩,
        ⟨"server", "1"⟩, none⟩))) ++ steps 0 5

/-- A server's answer that it has one tool. -/
def oneTool (id name : String) : Message :=
  .response (.success (.text id) (.obj [("tools", .arr [.obj [("name", .str name)]])]))

/-- One refresh after the other. -/
theorem refreshes_in_turn_twice : ∃ (s : Session State (List String))
    (acts : List (Act State (List String))), start "sess" .default names .new = .ok s ∧
      RefreshesInTurn names .default s acts ∧ (s.run acts).log = [["old"], ["new"]] := by
  have started : start "sess" .default names .new = .ok _ := rfl
  exact ⟨_,
    shaken ++ changing ++ .step .reader :: steps 1 7 ++ taken (oneTool "sess-2" "old") ++
      steps 1 2 ++ changing ++ .step .reader :: steps 2 7 ++ taken (oneTool "sess-3" "new") ++
      steps 2 2,
    started, refreshes_in_turn (by decide) started _, rfl⟩

/-- That lists come in the order of their notifications is too much to say: of two refreshes at a
time, the one that is answered first hands out its list first. -/
theorem refreshes_may_be_overtaken : ∃ (s : Session State (List String))
    (before middle after : List (Act State (List String))),
    start "sess" .default names .new = .ok s ∧
      Notified s before "notifications/tools/list_changed" 1 ∧
      Notified s (before ++ .step .reader :: middle) "notifications/tools/list_changed" 2 ∧
      s.records ((before ++ .step .reader :: middle) ++ .step .reader :: after) =
        [(2, ["new"]), (1, ["old"])] := by
  exact ⟨_, shaken ++ changing, steps 1 7 ++ changing,
    steps 2 7 ++ taken (oneTool "sess-3" "new") ++ steps 2 2 ++
      taken (oneTool "sess-2" "old") ++ steps 1 2,
    rfl, ⟨⟨_, rfl, rfl⟩, rfl⟩, ⟨⟨_, rfl, rfl⟩, rfl⟩, rfl⟩

end Two

end Mcp.Client
