import Mcp.Client.Listing
import Mcp.Proofs.Program

/-!
How the pages of a list are collected. `Fetched` says which pages are asked for, `Finishes` what the
answers must be like for the fetching to end with them, and how it ends then. Main statement:
`pages_collected`, for every way to fetch a page, whatever it does and gives.
-/

namespace Mcp.Client

open Program Schema

variable {σ ε α : Type}

/-! ### What is asked for -/

/-- Fetches from a cursor on, each for the cursor that the page before it names: their deeds one
after another, and what each fetch gave. -/
inductive Fetched (fetch : Option String → Program.Operation σ ε (Page α)) :
    Option String → List (Deed σ ε) → List (Except Error (Page α)) → Prop
  | nothing {cursor : Option String} : Fetched fetch cursor [] []
  | failure {cursor : Option String} {deeds : List (Deed σ ε)} {e : Error} :
      Goes (fetch cursor).run deeds (.error e) → Fetched fetch cursor deeds [.error e]
  | page {cursor : Option String} {deeds rest : List (Deed σ ε)} {page : Page α}
      {answers : List (Except Error (Page α))} :
      Goes (fetch cursor).run deeds (.ok page) → Fetched fetch page.nextCursor rest answers →
      Fetched fetch cursor (deeds ++ rest) (.ok page :: answers)

/-! ### How it ends -/

/-- A page that names no next one. -/
def Last (page : Page α) : Prop := page.nextCursor = none ∨ page.nextCursor = some ""

/-- Pages that each name a next one, with the cursors by which they do: none was seen before, and
none is named twice. -/
structure Linked (seen : List String) (pages : List (Page α)) (cursors : List String) : Prop where
  named : pages.map Page.nextCursor = cursors.map some
  given : "" ∉ cursors
  unseen : ∀ cursor ∈ cursors, cursor ∉ seen
  distinct : cursors.Nodup

/-- How the fetching ends when so many pages may still be asked for and these cursors have been
seen: the answers that are left, and what they come to. -/
inductive Stops : Nat → List String → List (Except Error (Page α)) → Except Error (List α) → Prop
  | whole {left : Nat} {seen : List String} {page : Page α} : Last page →
      Stops (left + 1) seen [.ok page] (.ok page.items)
  | failed {left : Nat} {seen : List String} (e : Error) :
      Stops (left + 1) seen [.error e] (.error e)
  | repeated {left : Nat} {seen : List String} {page : Page α} {cursor : String} :
      page.nextCursor = some cursor → cursor ≠ "" → cursor ∈ seen →
      Stops (left + 1) seen [.ok page] (.error (.protocol (.repeatedCursor cursor)))
  | tooMany {seen : List String} : Stops 0 seen [] (.error (.protocol (.tooManyPages maxPages)))

/-- The items of some pages in front of what the others come to. -/
def inFront (pages : List (Page α)) (r : Except Error (List α)) : Except Error (List α) :=
  r.map (pages.flatMap Page.items ++ ·)

/-- The answers with which fetching at most so many pages ends: pages that each name a fresh next
one, and then one of the ways to stop. -/
inductive Finishes (limit : Nat) (seen : List String) :
    List (Except Error (Page α)) → Except Error (List α) → Prop
  | intro {pages : List (Page α)} {cursors : List String} {left : Nat}
      {answers : List (Except Error (Page α))} {r : Except Error (List α)} :
      Linked seen pages cursors → pages.length + left = limit →
      Stops left (cursors.reverse ++ seen) answers r →
      Finishes limit seen (pages.map .ok ++ answers) (inFront pages r)

theorem Last.not_named {page : Page α} {cursor : String} (last : Last page)
    (named : page.nextCursor = some cursor) : cursor = "" := by
  rcases last with none | empty
  · cases named.symm.trans none
  · exact Option.some.inj (named.symm.trans empty)

theorem linked_nil {seen : List String} : Linked (α := α) seen [] [] :=
  ⟨rfl, List.not_mem_nil, by simp, List.nodup_nil⟩

theorem linked_cons_iff {seen cursors : List String} {page : Page α} {pages : List (Page α)} :
    Linked seen (page :: pages) cursors ↔ ∃ cursor rest, cursors = cursor :: rest ∧
      page.nextCursor = some cursor ∧ cursor ≠ "" ∧ cursor ∉ seen ∧
      Linked (cursor :: seen) pages rest := by
  constructor
  · rintro ⟨named, given, unseen, distinct⟩
    cases cursors with
    | nil => cases named
    | cons cursor rest =>
      simp only [List.map_cons, List.cons.injEq] at named
      simp only [List.mem_cons, not_or] at given
      obtain ⟨fresh, distinct⟩ := List.nodup_cons.mp distinct
      refine ⟨cursor, rest, rfl, named.1, fun empty => given.1 empty.symm,
        unseen _ (.head _), named.2, given.2, ?_, distinct⟩
      intro other place
      rw [List.mem_cons, not_or]
      exact ⟨fun same => fresh (same ▸ place), unseen _ (.tail _ place)⟩
  · rintro ⟨cursor, rest, rfl, named, set, fresh, linked⟩
    have other : cursor ∉ rest := fun place => linked.unseen cursor place (.head _)
    refine ⟨by simp [named, linked.named], ?_, ?_, List.nodup_cons.mpr ⟨other, linked.distinct⟩⟩
    · simp [linked.given, set.symm]
    · rintro _ (_ | ⟨_, place⟩)
      · exact fresh
      · exact fun there => linked.unseen _ place (.tail _ there)

theorem inFront_nil (r : Except Error (List α)) : inFront [] r = r := by
  cases r <;> rfl

theorem inFront_cons (page : Page α) (pages : List (Page α)) (r : Except Error (List α)) :
    inFront (page :: pages) r = inFront [page] (inFront pages r) := by
  cases r <;> simp [inFront, Except.map]

/-- The fetching ends at once, or a page names a fresh next one and it ends after that. -/
theorem finishes_iff {limit : Nat} {seen : List String} {answers : List (Except Error (Page α))}
    {r : Except Error (List α)} : Finishes limit seen answers r ↔
      Stops limit seen answers r ∨ ∃ left page cursor rest r', limit = left + 1 ∧
        answers = .ok page :: rest ∧ page.nextCursor = some cursor ∧ cursor ≠ "" ∧
        cursor ∉ seen ∧ Finishes left (cursor :: seen) rest r' ∧ r = inFront [page] r' := by
  constructor
  · rintro @⟨pages, cursors, left, answers, r, linked, total, stops⟩
    cases pages with
    | nil =>
      obtain rfl : cursors = [] := List.map_eq_nil_iff.mp linked.named.symm
      obtain rfl : left = limit := by simpa using total
      rw [inFront_nil]
      exact .inl stops
    | cons page pages =>
      obtain ⟨cursor, rest, rfl, named, set, fresh, linked⟩ := linked_cons_iff.mp linked
      have behind : pages.length + left + 1 = limit := by
        simp only [List.length_cons] at total
        omega
      rw [List.reverse_cons, List.append_assoc] at stops
      exact .inr ⟨_, page, cursor, _, inFront pages r, behind.symm, rfl, named, set, fresh,
        .intro linked rfl stops, inFront_cons page pages r⟩
  · rintro (stops | ⟨left, page, cursor, rest, r', rfl, rfl, named, set, fresh, ends, rfl⟩)
    · rw [← inFront_nil r]
      exact .intro linked_nil (Nat.zero_add _) stops
    · obtain @⟨pages, cursors, more, answers, r, linked, total, stops⟩ := ends
      have longer : Linked seen (page :: pages) (cursor :: cursors) :=
        linked_cons_iff.mpr ⟨cursor, cursors, rfl, named, set, fresh, linked⟩
      have behind : (page :: pages).length + more = left + 1 := by
        simp only [List.length_cons]
        omega
      rw [← inFront_cons]
      refine .intro longer behind ?_
      rwa [List.reverse_cons, List.append_assoc]

section Head

variable {limit : Nat} {seen : List String} {page : Page α} {next : String}
  {answers : List (Except Error (Page α))} {r : Except Error (List α)}

theorem finishes_zero_iff :
    Finishes 0 seen answers r ↔ answers = [] ∧ r = .error (.protocol (.tooManyPages maxPages)) := by
  rw [finishes_iff]
  constructor
  · rintro (stops | ⟨_, _, _, _, _, more, _⟩)
    · cases stops
      exact ⟨rfl, rfl⟩
    · cases more
  · rintro ⟨rfl, rfl⟩
    exact .inl .tooMany

theorem finishes_error_iff {e : Error} :
    Finishes (limit + 1) seen (.error e :: answers) r ↔ answers = [] ∧ r = .error e := by
  rw [finishes_iff]
  constructor
  · rintro (stops | ⟨_, _, _, _, _, _, other, _⟩)
    · cases stops
      exact ⟨rfl, rfl⟩
    · cases other
  · rintro ⟨rfl, rfl⟩
    exact .inl (.failed e)

theorem finishes_last_iff (last : Last page) :
    Finishes (limit + 1) seen (.ok page :: answers) r ↔ answers = [] ∧ r = .ok page.items := by
  rw [finishes_iff]
  constructor
  · rintro (stops | ⟨_, _, _, _, _, _, same, named, set, _⟩)
    · cases stops with
      | whole => exact ⟨rfl, rfl⟩
      | repeated named set _ => exact absurd (last.not_named named) set
    · cases same
      exact absurd (last.not_named named) set
  · rintro ⟨rfl, rfl⟩
    exact .inl (.whole last)

theorem finishes_repeated_iff (named : page.nextCursor = some next) (set : next ≠ "")
    (repeated : next ∈ seen) : Finishes (limit + 1) seen (.ok page :: answers) r ↔
      answers = [] ∧ r = .error (.protocol (.repeatedCursor next)) := by
  rw [finishes_iff]
  constructor
  · rintro (stops | ⟨_, _, _, _, _, _, same, named', _, fresh, _⟩)
    · cases stops with
      | whole last => exact absurd (last.not_named named) set
      | repeated named' _ _ =>
        cases named.symm.trans named'
        exact ⟨rfl, rfl⟩
    · cases same
      cases named.symm.trans named'
      exact absurd repeated fresh
  · rintro ⟨rfl, rfl⟩
    exact .inl (.repeated named set repeated)

theorem finishes_fresh_iff (named : page.nextCursor = some next) (set : next ≠ "")
    (fresh : next ∉ seen) : Finishes (limit + 1) seen (.ok page :: answers) r ↔
      ∃ r', Finishes limit (next :: seen) answers r' ∧ r = inFront [page] r' := by
  rw [finishes_iff]
  constructor
  · rintro (stops | ⟨_, _, _, _, r', total, same, named', _, _, ends, rfl⟩)
    · cases stops with
      | whole last => exact absurd (last.not_named named) set
      | repeated named' _ repeated =>
        cases named.symm.trans named'
        exact absurd repeated fresh
    · cases same
      cases total
      cases named.symm.trans named'
      exact ⟨r', ends, rfl⟩
  · rintro ⟨r', ends, rfl⟩
    exact .inr ⟨limit, page, next, answers, r', rfl, rfl, named, set, fresh, ends, rfl⟩

theorem not_finishes_nil : ¬ Finishes (limit + 1) seen ([] : List (Except Error (Page α))) r := by
  rw [finishes_iff]
  rintro (stops | ⟨_, _, _, _, _, _, more, _⟩)
  · cases stops
  · cases more

theorem last_or_named (page : Page α) :
    Last page ∨ ∃ next, page.nextCursor = some next ∧ next ≠ "" := by
  unfold Last
  cases page.nextCursor with
  | none => exact .inl (.inl rfl)
  | some next =>
    by_cases empty : next = ""
    · exact .inl (.inr (congrArg some empty))
    · exact .inr ⟨next, rfl, empty⟩

end Head

/-! ### Following the cursors -/

section Follow

variable {fetch : Option String → Program.Operation σ ε (Page α)} {limit : Nat}
  {seen : List String} {cursor : Option String} {page : Page α} {next : String}
  {deeds : List (Deed σ ε)} {r : Except Error (List α)}

/-- What follows on a page. -/
def afterPage (fetch : Option String → Program.Operation σ ε (Page α)) (limit : Nat)
    (seen : List String) (page : Page α) : Program.Operation σ ε (List α) :=
  match page.nextCursor with
  | none => pure page.items
  | some next =>
    if next.isEmpty then pure page.items
    else if seen.contains next then throw (.protocol (.repeatedCursor next))
    else follow fetch limit (next :: seen) (some next) >>= fun rest => pure (page.items ++ rest)

theorem follow_succ : follow (m := Program σ ε) fetch (limit + 1) seen cursor =
    fetch cursor >>= afterPage fetch limit seen := rfl

theorem afterPage_last (last : Last page) : afterPage fetch limit seen page = pure page.items := by
  rcases last with none | empty
  · rw [afterPage, none]
  · rw [afterPage, empty]
    rfl

theorem afterPage_repeated (named : page.nextCursor = some next) (set : next ≠ "")
    (repeated : next ∈ seen) :
    afterPage fetch limit seen page = throw (.protocol (.repeatedCursor next)) := by
  simp [afterPage, named, set, repeated]

theorem afterPage_fresh (named : page.nextCursor = some next) (set : next ≠ "")
    (fresh : next ∉ seen) : afterPage fetch limit seen page =
      (follow fetch limit (next :: seen) (some next) >>=
        fun rest => pure (page.items ++ rest)) := by
  simp [afterPage, named, set, fresh]

theorem goes_inFront_iff {op : Program.Operation σ ε (List α)} :
    Goes (op >>= fun rest => pure (page.items ++ rest)).run deeds r ↔
      ∃ r', Goes op.run deeds r' ∧ r = inFront [page] r' := by
  rw [Operation.goes_bind_iff]
  constructor
  · rintro (⟨e, goes, rfl⟩ | ⟨first, rest, items, rfl, goes, follows⟩)
    · exact ⟨_, goes, rfl⟩
    · obtain ⟨rfl, rfl⟩ := Operation.goes_pure_iff.mp follows
      exact ⟨_, by rwa [List.append_nil], by simp [inFront, Except.map]⟩
  · rintro ⟨e | items, goes, rfl⟩
    · exact .inl ⟨e, goes, rfl⟩
    · refine .inr ⟨deeds, [], items, (List.append_nil _).symm, goes, ?_⟩
      exact Operation.goes_pure_iff.mpr ⟨rfl, by simp [inFront, Except.map]⟩

theorem fetched_nothing_iff {stop : Except Error (List α)} :
    (∃ answers, Fetched fetch cursor deeds answers ∧ answers = [] ∧ r = stop) ↔
      deeds = [] ∧ r = stop := by
  constructor
  · rintro ⟨_, fetched, rfl, rfl⟩
    cases fetched
    exact ⟨rfl, rfl⟩
  · rintro ⟨rfl, rfl⟩
    exact ⟨[], .nothing, rfl, rfl⟩

/-- Following the cursors goes as the fetches go, up to answers with which they end. -/
theorem goes_follow_iff : Goes (follow (m := Program σ ε) fetch limit seen cursor).run deeds r ↔
    ∃ answers, Fetched fetch cursor deeds answers ∧ Finishes limit seen answers r := by
  induction limit generalizing seen cursor deeds r with
  | zero =>
    rw [follow, Operation.goes_throw_iff]
    simp only [finishes_zero_iff, fetched_nothing_iff]
  | succ limit ih =>
    have after (page : Page α) (deeds : List (Deed σ ε)) :
        Goes (afterPage fetch limit seen page).run deeds r ↔ ∃ answers,
          Fetched fetch page.nextCursor deeds answers ∧
            Finishes (limit + 1) seen (.ok page :: answers) r := by
      rcases last_or_named page with last | ⟨next, named, set⟩
      · rw [afterPage_last last, Operation.goes_pure_iff]
        simp only [finishes_last_iff last, fetched_nothing_iff]
      · by_cases repeated : next ∈ seen
        · rw [afterPage_repeated named set repeated, Operation.goes_throw_iff]
          simp only [finishes_repeated_iff named set repeated, fetched_nothing_iff]
        · simp only [afterPage_fresh named set repeated, goes_inFront_iff, ih,
            finishes_fresh_iff named set repeated, named]
          constructor
          · rintro ⟨r', ⟨answers, fetched, ends⟩, rfl⟩
            exact ⟨answers, fetched, r', ends, rfl⟩
          · rintro ⟨answers, fetched, r', ends, rfl⟩
            exact ⟨r', ⟨answers, fetched, ends⟩, rfl⟩
    rw [follow_succ, Operation.goes_bind_iff]
    constructor
    · rintro (⟨e, goes, rfl⟩ | ⟨first, rest, page, rfl, goes, follows⟩)
      · exact ⟨[.error e], .failure goes, finishes_error_iff.mpr ⟨rfl, rfl⟩⟩
      · obtain ⟨answers, fetched, ends⟩ := (after page rest).mp follows
        exact ⟨.ok page :: answers, .page goes fetched, ends⟩
    · rintro ⟨answers, fetched, ends⟩
      cases fetched with
      | nothing => exact absurd ends not_finishes_nil
      | failure goes =>
        obtain ⟨-, rfl⟩ := finishes_error_iff.mp ends
        exact .inl ⟨_, goes, rfl⟩
      | page goes fetched =>
        exact .inr ⟨_, _, _, rfl, goes, (after _ _).mpr ⟨_, fetched, ends⟩⟩

end Follow

/-! ### The end of the fetching -/

section Behaviour

variable {limit : Nat} {seen : List String}

/-- However the fetches are answered, they end at some answer. -/
theorem exists_finishes (behaviour : Nat → Except Error (Page α)) :
    ∃ n r, Finishes limit seen ((List.range n).map behaviour) r := by
  induction limit generalizing seen behaviour with
  | zero => exact ⟨0, _, finishes_zero_iff.mpr ⟨rfl, rfl⟩⟩
  | succ limit ih =>
    cases given : behaviour 0 with
    | error e => exact ⟨1, _, by simpa [given] using finishes_error_iff.mpr ⟨rfl, rfl⟩⟩
    | ok page =>
      rcases last_or_named page with last | ⟨next, named, set⟩
      · exact ⟨1, _, by simpa [given] using (finishes_last_iff last).mpr ⟨rfl, rfl⟩⟩
      · by_cases repeated : next ∈ seen
        · exact ⟨1, _, by
            simpa [given] using (finishes_repeated_iff named set repeated).mpr ⟨rfl, rfl⟩⟩
        · obtain ⟨n, r, ends⟩ := @ih (next :: seen) (behaviour ∘ Nat.succ)
          refine ⟨n + 1, inFront [page] r, ?_⟩
          rw [List.range_succ_eq_map, List.map_cons, List.map_map, given]
          exact (finishes_fresh_iff named set repeated).mpr ⟨r, ends, rfl⟩

/-- Answers with which the fetching ends are not the beginning of others, and say how it ends. -/
theorem finishes_unique {answers more : List (Except Error (Page α))} {r r' : Except Error (List α)}
    (ends : Finishes limit seen answers r) (ends' : Finishes limit seen (answers ++ more) r') :
    more = [] ∧ r' = r := by
  induction limit generalizing seen answers r r' with
  | zero =>
    obtain ⟨rfl, rfl⟩ := finishes_zero_iff.mp ends
    exact finishes_zero_iff.mp ends'
  | succ limit ih =>
    cases answers with
    | nil => exact absurd ends not_finishes_nil
    | cons answer answers =>
      rw [List.cons_append] at ends'
      cases answer with
      | error e =>
        obtain ⟨rfl, rfl⟩ := finishes_error_iff.mp ends
        exact finishes_error_iff.mp ends'
      | ok page =>
        rcases last_or_named page with last | ⟨next, named, set⟩
        · obtain ⟨rfl, rfl⟩ := (finishes_last_iff last).mp ends
          exact (finishes_last_iff last).mp ends'
        · by_cases repeated : next ∈ seen
          · obtain ⟨rfl, rfl⟩ := (finishes_repeated_iff named set repeated).mp ends
            exact (finishes_repeated_iff named set repeated).mp ends'
          · obtain ⟨_, later, rfl⟩ := (finishes_fresh_iff named set repeated).mp ends
            obtain ⟨_, later', rfl⟩ := (finishes_fresh_iff named set repeated).mp ends'
            obtain ⟨rfl, rfl⟩ := ih later later'
            exact ⟨rfl, rfl⟩

theorem finishes_unique_range {behaviour : Nat → Except Error (Page α)} {n n' : Nat}
    {r r' : Except Error (List α)} (ends : Finishes limit seen ((List.range n).map behaviour) r)
    (ends' : Finishes limit seen ((List.range n').map behaviour) r') (before : n ≤ n') :
    n' = n ∧ r' = r := by
  obtain ⟨more, rfl⟩ := Nat.exists_eq_add_of_le before
  rw [List.range_add, List.map_append] at ends'
  obtain ⟨nothing, rfl⟩ := finishes_unique ends ends'
  have none : more = 0 := by simpa using nothing
  exact ⟨by omega, rfl⟩

end Behaviour

/-! ### Collecting -/

/-- The answers with which collecting ends, and what it comes to: the whole list, the failure of a
fetch, or a refusal of the pages. -/
inductive Collected : List (Except Error (Page α)) → Except Error (List α) → Prop
  | whole {pages : List (Page α)} {cursors : List String} {last : Page α} :
      Linked [] pages cursors → pages.length < maxPages → Last last →
      Collected ((pages ++ [last]).map .ok) (.ok ((pages ++ [last]).flatMap Page.items))
  | failed {pages : List (Page α)} {cursors : List String} (e : Error) :
      Linked [] pages cursors → pages.length < maxPages →
      Collected (pages.map .ok ++ [.error e]) (.error e)
  | repeated {pages : List (Page α)} {cursors : List String} {last : Page α} {cursor : String} :
      Linked [] pages cursors → pages.length < maxPages → last.nextCursor = some cursor →
      cursor ∈ cursors →
      Collected ((pages ++ [last]).map .ok) (.error (.protocol (.repeatedCursor cursor)))
  | tooMany {pages : List (Page α)} {cursors : List String} :
      Linked [] pages cursors → pages.length = maxPages →
      Collected (pages.map .ok) (.error (.protocol (.tooManyPages maxPages)))

theorem finishes_iff_collected {answers : List (Except Error (Page α))}
    {r : Except Error (List α)} : Finishes maxPages [] answers r ↔ Collected answers r := by
  constructor
  · rintro @⟨pages, cursors, left, answers, r, linked, total, stops⟩
    cases stops with
    | whole last =>
      simpa [inFront, Except.map] using Collected.whole linked (by omega) last
    | failed e => exact .failed e linked (by omega)
    | @repeated _ _ page cursor named _ repeated =>
      have before : cursor ∈ cursors := by simpa using repeated
      simpa [inFront, Except.map] using Collected.repeated linked (by omega) named before
    | tooMany =>
      rw [List.append_nil]
      exact .tooMany linked total
  · intro collected
    have room {pages : List (Page α)} (short : pages.length < maxPages) :
        ∃ left, pages.length + (left + 1) = maxPages := ⟨maxPages - pages.length - 1, by omega⟩
    cases collected with
    | whole linked short last =>
      obtain ⟨left, total⟩ := room short
      simpa [inFront, Except.map] using Finishes.intro linked total (.whole last)
    | failed e linked short =>
      obtain ⟨left, total⟩ := room short
      exact .intro linked total (.failed e)
    | @repeated _ cursors _ cursor linked short named repeated =>
      obtain ⟨left, total⟩ := room short
      have set : cursor ≠ "" := fun empty => linked.given (empty ▸ repeated)
      have before : cursor ∈ cursors.reverse ++ [] := by simpa using repeated
      simpa [inFront, Except.map] using Finishes.intro linked total (.repeated named set before)
    | tooMany linked full =>
      simpa [inFront, Except.map] using Finishes.intro linked full .tooMany

/-- How an operation collects the pages that `fetch` gives. -/
structure Collects (fetch : Option String → Program.Operation σ ε (Page α))
    (op : Program.Operation σ ε (List α)) : Prop where
  /-- It fetches from the first page on, and stops where the answers say what they come to. -/
  goes : ∀ deeds r, Goes op.run deeds r ↔
    ∃ answers, Fetched fetch none deeds answers ∧ Collected answers r
  /-- There are some answers by then, and no more than the limit. -/
  bounded : ∀ (answers : List (Except Error (Page α))) r, Collected answers r →
    1 ≤ answers.length ∧ answers.length ≤ maxPages
  /-- However the fetches are answered, this comes once. -/
  once : ∀ behaviour : Nat → Except Error (Page α), ∃ n r,
    Collected ((List.range n).map behaviour) r ∧
      ∀ n' r', Collected ((List.range n').map behaviour) r' → n' = n ∧ r' = r

theorem Collected.bounded {answers : List (Except Error (Page α))} {r : Except Error (List α)}
    (collected : Collected answers r) : 1 ≤ answers.length ∧ answers.length ≤ maxPages := by
  cases collected with
  | whole _ short _ | failed _ _ short | repeated _ short _ _ =>
    simp only [List.length_map, List.length_append, List.length_singleton]
    omega
  | tooMany _ full =>
    have positive : 1 ≤ maxPages := by decide
    rw [List.length_map, full]
    exact ⟨positive, Nat.le_refl _⟩

theorem collected_once (behaviour : Nat → Except Error (Page α)) : ∃ n r,
    Collected ((List.range n).map behaviour) r ∧
      ∀ n' r', Collected ((List.range n').map behaviour) r' → n' = n ∧ r' = r := by
  obtain ⟨n, r, ends⟩ := @exists_finishes _ maxPages [] behaviour
  refine ⟨n, r, finishes_iff_collected.mp ends, ?_⟩
  intro n' r' collected
  have ends' := finishes_iff_collected.mpr collected
  rcases Nat.le_total n n' with before | before
  · exact finishes_unique_range ends ends' before
  · obtain ⟨rfl, rfl⟩ := finishes_unique_range ends' ends before
    exact ⟨rfl, rfl⟩

/-- Pages are collected from the first on, at most so many, each by the cursor that the one before
it names, until they are whole, a fetch fails, a cursor comes again or there are too many; so every
list of the server is. -/
theorem pages_collected :
    (∀ fetch : Option String → Program.Operation σ ε (Page α), Collects fetch (collect fetch)) ∧
      ∀ (l : Listing α) (settings : Settings),
        Collects (l.page (ε := ε) settings) (l.all settings) := by
  have each {σ : Type} (fetch : Option String → Program.Operation σ ε (Page α)) :
      Collects fetch (collect fetch) := by
    refine ⟨fun deeds r => ?_, fun _ _ => Collected.bounded, collected_once⟩
    rw [collect, goes_follow_iff]
    simp only [finishes_iff_collected]
  exact ⟨each, fun l settings => each (l.page settings)⟩

end Mcp.Client
