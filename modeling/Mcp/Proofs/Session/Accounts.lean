import Mathlib.Data.List.Nodup
import Mcp.Proofs.Session.Table

/-!
A session's history and its table. Every request that began has either ended or is what exactly one
task is busy with (`Accounts`), and the table holds ids of requests of the second kind only
(`table_accounts_for_requests`).
-/

namespace Mcp.Session

variable {σ ε : Type}

/-- The ids of the requests that began, in order. -/
def begun (h : List Happening) : List String :=
  h.filterMap fun x =>
    match x with
    | .began id .. => some id
    | _ => none

/-- A request has ended, in whatever way. -/
def Ended (h : List Happening) (id : String) : Prop := ∃ outcome, .ended id outcome ∈ h

/-- A task is busy with a request. -/
def Busy (s : Session σ ε) (id : String) : Prop := ∃ i o, s.ongoing? i = some o ∧ o.call.id = id

/-- A session and the history that led to it agree on the requests that began, those that ended and
those that tasks are busy with. -/
structure Accounts (s : Session σ ε) (h : List Happening) : Prop where
  sound : Sound s
  begun : begun h = (List.range' 1 (s.nextId - 1)).map (idOf s.label)
  issued : ∀ {id}, Ended h id → Issued s.label s.nextId id
  done : ∀ {id}, Ended h id → ¬ s.Busy id
  open_ : ∀ {id}, Issued s.label s.nextId id → ¬ Ended h id → s.Busy id

/-! ### Histories that grow -/

theorem ended_append {h : List Happening} {x : Option Happening} {id : String} :
    Ended (h ++ x.toList) id ↔ Ended h id ∨ ∃ outcome, x = some (.ended id outcome) := by
  simp [Ended, exists_or]

theorem ended_append_of_ne {h : List Happening} {x : Option Happening} {id : String}
    (hx : ∀ outcome, x ≠ some (.ended id outcome)) : Ended (h ++ x.toList) id ↔ Ended h id := by
  rw [ended_append]
  exact ⟨fun e => e.resolve_right fun ⟨outcome, same⟩ => hx outcome same, .inl⟩

theorem begun_append {h : List Happening} {x : Option Happening}
    (hx : ∀ id method timeout, x ≠ some (.began id method timeout)) :
    begun (h ++ x.toList) = begun h := by
  cases x with
  | none => simp
  | some x => cases x <;> simp_all [begun]

theorem issued_succ {label : String} {nextId : Nat} (positive : 0 < nextId) {id : String} :
    Issued label (nextId + 1) id ↔ Issued label nextId id ∨ id = idOf label nextId := by
  constructor
  · rintro ⟨n, h0, hn, rfl⟩
    rcases Nat.lt_or_eq_of_le (Nat.le_of_lt_succ hn) with hlt | rfl
    · exact .inl ⟨n, h0, hlt, rfl⟩
    · exact .inr rfl
  · rintro (⟨n, h0, hn, rfl⟩ | rfl)
    · exact ⟨n, h0, by omega, rfl⟩
    · exact ⟨nextId, positive, by omega, rfl⟩

theorem issued_iff_mem {label : String} {nextId : Nat} {id : String} :
    Issued label nextId id ↔ id ∈ (List.range' 1 (nextId - 1)).map (idOf label) := by
  simp only [Issued, List.mem_map, List.mem_range'_1]
  constructor
  · rintro ⟨n, h0, hn, rfl⟩
    exact ⟨n, by omega, rfl⟩
  · rintro ⟨n, hn, rfl⟩
    exact ⟨n, by omega, by omega, rfl⟩

/-! ### Tasks that are busy with a request -/

theorem busy_update {f : Nat → Option (Ongoing σ ε)} {i : Nat} {o o' : Ongoing σ ε} {id : String}
    (h : f i = some o) (same : o'.call.id = o.call.id) :
    (∃ j p, Function.update f i (some o') j = some p ∧ p.call.id = id) ↔
      ∃ j p, f j = some p ∧ p.call.id = id := by
  constructor
  · rintro ⟨j, p, hp, rfl⟩
    rw [Function.update_apply] at hp
    split at hp
    · cases hp
      exact ⟨i, o, h, same.symm⟩
    · exact ⟨j, p, hp, rfl⟩
  · rintro ⟨j, p, hp, rfl⟩
    by_cases hj : j = i
    · subst hj
      rw [h] at hp
      cases hp
      exact ⟨j, o', by simp, same⟩
    · exact ⟨j, p, by simp [hj, hp], rfl⟩

theorem busy_tell {f g : Nat → Option (Ongoing σ ε)} {whom : String → Bool} {news : Slot}
    (h : ∀ i, g i = (f i).map (Ongoing.tell whom news)) {id : String} :
    (∃ j p, g j = some p ∧ p.call.id = id) ↔ ∃ j p, f j = some p ∧ p.call.id = id := by
  constructor
  · rintro ⟨j, p, hp, rfl⟩
    rw [h, Option.map_eq_some_iff] at hp
    obtain ⟨o, ho, rfl⟩ := hp
    exact ⟨j, o, ho, by simp⟩
  · rintro ⟨j, o, ho, rfl⟩
    exact ⟨j, o.tell whom news, by rw [h, ho, Option.map_some], by simp⟩

/-- When a request ends, its task alone is no longer busy. -/
theorem Sound.busy_remove {s : Session σ ε} (sound : Sound s) {i : Nat} {o : Ongoing σ ε}
    (h : s.ongoing? i = some o) {id : String} :
    (∃ j p, Function.update s.ongoing? i none j = some p ∧ p.call.id = id) ↔
      s.Busy id ∧ id ≠ o.call.id := by
  constructor
  · rintro ⟨j, p, hp, rfl⟩
    rw [Function.update_apply] at hp
    split at hp
    · cases hp
    · rename_i hj
      exact ⟨⟨j, p, hp, rfl⟩, fun same => hj (sound.unique hp h same)⟩
  · rintro ⟨⟨j, p, hp, rfl⟩, other⟩
    refine ⟨j, p, ?_, rfl⟩
    rw [Function.update_apply, if_neg]
    · exact hp
    · rintro rfl
      rw [h] at hp
      cases hp
      exact other rfl

/-! ### Every act keeps the accounts -/

theorem Accounts.of_busy_iff {s s' : Session σ ε} {h : List Happening} {x : Option Happening}
    (accounts : Accounts s h) (sound : Sound s') (label : s'.label = s.label)
    (next : s'.nextId = s.nextId) (notEnd : ∀ id outcome, x ≠ some (.ended id outcome))
    (notBegin : ∀ id method timeout, x ≠ some (.began id method timeout))
    (busy : ∀ id, s'.Busy id ↔ s.Busy id) : Accounts s' (h ++ x.toList) where
  sound := sound
  begun := by rw [begun_append notBegin, accounts.begun, label, next]
  issued ended := by
    rw [label, next]
    exact accounts.issued ((ended_append_of_ne (notEnd _)).mp ended)
  done ended := by
    rw [busy]
    exact accounts.done ((ended_append_of_ne (notEnd _)).mp ended)
  open_ issued unended := by
    rw [label, next] at issued
    rw [ended_append_of_ne (notEnd _)] at unended
    rw [busy]
    exact accounts.open_ issued unended

theorem Accounts.of_end {s s' : Session σ ε} {h : List Happening} {i : Nat} {o : Ongoing σ ε}
    {outcome : Except Error Json} (accounts : Accounts s h) (sound : Sound s')
    (label : s'.label = s.label) (next : s'.nextId = s.nextId) (ho : s.ongoing? i = some o)
    (removed : s'.ongoing? = Function.update s.ongoing? i none) :
    Accounts s' (h ++ (some (Happening.ended o.call.id outcome)).toList) where
  sound := sound
  begun := by rw [begun_append (by simp), accounts.begun, label, next]
  issued {id} ended := by
    rw [label, next]
    rcases ended_append.mp ended with before | ⟨_, now⟩
    · exact accounts.issued before
    · cases now
      exact accounts.sound.issued ho
  done {id} ended := by
    rw [Busy, removed, accounts.sound.busy_remove ho]
    rintro ⟨busy, other⟩
    rcases ended_append.mp ended with before | ⟨_, now⟩
    · exact accounts.done before busy
    · cases now
      exact other rfl
  open_ {id} issued unended := by
    rw [label, next] at issued
    rw [ended_append, not_or] at unended
    rw [Busy, removed, accounts.sound.busy_remove ho]
    refine ⟨accounts.open_ issued unended.1, ?_⟩
    rintro rfl
    exact unended.2 ⟨outcome, rfl⟩

theorem Accounts.of_begin {s s' : Session σ ε} {h : List Happening} {i : Nat} {o : Ongoing σ ε}
    {method : String} {timeout : Nat} (accounts : Accounts s h) (sound : Sound s')
    (label : s'.label = s.label) (next : s'.nextId = s.nextId + 1) (free : s.ongoing? i = none)
    (id : o.call.id = s.freshId)
    (added : s'.ongoing? = Function.update s.ongoing? i (some o)) :
    Accounts s' (h ++ (some (Happening.began s.freshId method timeout)).toList) where
  sound := sound
  begun := by
    obtain ⟨n, hn⟩ : ∃ n, s.nextId = n + 1 := ⟨s.nextId - 1, by have := accounts.sound.positive; omega⟩
    have := accounts.begun
    rw [hn] at this
    simp only [Session.begun, Option.toList_some, List.filterMap_append] at this ⊢
    rw [this, label, next, hn]
    simp [List.range'_concat, freshId, hn, Nat.add_comm 1]
  issued {id} ended := by
    rw [ended_append_of_ne (by simp)] at ended
    rw [label, next, issued_succ accounts.sound.positive]
    exact .inl (accounts.issued ended)
  done {id'} ended := by
    rw [ended_append_of_ne (by simp)] at ended
    rintro ⟨j, p, hp, rfl⟩
    rw [added, Function.update_apply] at hp
    split at hp
    · cases hp
      obtain ⟨n, -, hn, same⟩ := accounts.issued ended
      have := idOf_injective (id.symm.trans same)
      omega
    · exact accounts.done ended ⟨j, p, hp, rfl⟩
  open_ {id'} issued unended := by
    rw [ended_append_of_ne (by simp)] at unended
    rw [label, next, issued_succ accounts.sound.positive] at issued
    rcases issued with issued | rfl
    · obtain ⟨j, p, hp, rfl⟩ := accounts.open_ issued unended
      refine ⟨j, p, ?_, rfl⟩
      rw [added, Function.update_apply, if_neg]
      · exact hp
      · rintro rfl
        rw [free] at hp
        cases hp
    · exact ⟨i, o, by rw [added]; simp, id⟩

theorem Accounts.act {s : Session σ ε} {h : List Happening} (accounts : Accounts s h)
    (a : Act σ ε) : Accounts (s.act a) (h ++ (s.happening a).toList) := by
  have sound := accounts.sound.act a
  have label := (s.act_settings a).label
  have moves := s.act_moves a
  generalize s.act a = s' at sound label moves
  generalize s.happening a = x at moves
  cases moves with
  | quiet ho _ hn =>
    exact accounts.of_busy_iff sound label hn (by simp) (by simp) fun id => by rw [Busy, ho, Busy]
  | begin ready ho _ hn =>
    exact accounts.of_begin sound label hn (by simp [ongoing?, ready, Task.ongoing?]) rfl ho
  | enter h ho _ hn =>
    refine accounts.of_busy_iff sound label hn (by simp) (by simp) fun id => ?_
    rw [Busy, ho]
    exact busy_update h rfl
  | advance h step ho _ hn =>
    refine accounts.of_busy_iff sound label hn ?_ ?_ fun id => ?_
    · cases step <;> simp
    · cases step <;> simp
    · rw [Busy, ho]
      exact busy_update h rfl
  | finish h _ ho _ _ hn => exact accounts.of_end sound label hn h ho
  | withdraw h ho _ _ hn => exact accounts.of_end sound label hn h ho
  | @hear r _ ho _ hn =>
    refine accounts.of_busy_iff sound label hn (by simp) (by simp) fun id => ?_
    exact busy_tell fun i => (ho i).trans (accounts.sound.hear_eq r i)
  | clear ho _ hn =>
    refine accounts.of_busy_iff sound label hn (by simp) (by simp) fun id => ?_
    exact busy_tell fun i => (ho i).trans (accounts.sound.clear_eq i)

theorem Fresh.accounts {label : String} {s : Session σ ε} (fresh : Fresh label s) :
    Accounts s [] where
  sound := fresh.sound
  begun := by
    rw [fresh.nextId]
    rfl
  issued ended := by simp [Ended] at ended
  done ended := by simp [Ended] at ended
  open_ issued _ := absurd issued (fresh.not_issued _)

theorem Accounts.run {s : Session σ ε} {h : List Happening} (accounts : Accounts s h)
    (acts : List (Act σ ε)) : Accounts (s.run acts) (h ++ s.history acts) :=
  run_induction (fun _ _ a accounts => accounts.act a) accounts acts

/-- A session and its history agree after every run. -/
theorem accounts_run {label : String} {timeouts : Timeouts} {handlers : Handlers σ ε}
    {link : Transport.Memory} {shared : σ} {s : Session σ ε}
    (h : Session.start label timeouts handlers link shared = .ok s) (acts : List (Act σ ε)) :
    Accounts (s.run acts) (s.history acts) :=
  (fresh_of_start h).accounts.run acts

/-! ### What the table says in every run -/

theorem idOf_nodup (label : String) (n m : Nat) : ((List.range' n m).map (idOf label)).Nodup :=
  List.Nodup.map (fun _ _ => idOf_injective) List.nodup_range'

theorem Accounts.mem_begun {s : Session σ ε} {h : List Happening} (accounts : Accounts s h)
    {id : String} : id ∈ Session.begun h ↔ Issued s.label s.nextId id := by
  rw [accounts.begun, issued_iff_mem]

theorem Accounts.busy_iff {s : Session σ ε} {h : List Happening} (accounts : Accounts s h)
    {id : String} : s.Busy id ↔ id ∈ Session.begun h ∧ ¬ Ended h id := by
  rw [accounts.mem_begun]
  constructor
  · rintro ⟨i, o, ho, rfl⟩
    exact ⟨accounts.sound.issued ho, fun ended => accounts.done ended ⟨i, o, ho, rfl⟩⟩
  · rintro ⟨issued, unended⟩
    exact accounts.open_ issued unended

/-- A key of the table is the id of what a task is busy with. -/
theorem Sound.busy_of_key {s : Session σ ε} (sound : Sound s) {id : String}
    (key : id ∈ s.pending.map Prod.fst) : s.Busy id := by
  obtain ⟨⟨id, i⟩, entry, rfl⟩ := List.mem_map.mp key
  obtain ⟨o, ho, hid, -⟩ := sound.mem_table.mp entry
  exact ⟨i, o, ho, hid⟩

/-- How the table of a session accounts for the requests of a run. -/
structure TableAccounts (s : Session σ ε) (acts : List (Act σ ε)) : Prop where
  /-- No two requests have one id. -/
  distinct : (begun (s.history acts)).Nodup
  /-- Each key is the id of one request that began and has not ended, with a task of its own. -/
  keys {id : String} : id ∈ (s.run acts).pending.map Prod.fst →
    id ∈ begun (s.history acts) ∧ ¬ Ended (s.history acts) id ∧
      ∃! i, ∃ o, (s.run acts).ongoing? i = some o ∧ o.call.id = id
  /-- A request that has not ended is with a task. -/
  outstanding {id : String} : id ∈ begun (s.history acts) → ¬ Ended (s.history acts) id →
    (s.run acts).Busy id
  /-- One that was put in and for which nothing has come has one entry. -/
  entry {i : Nat} {o : Ongoing σ ε} : (s.run acts).ongoing? i = some o → o.stage ≠ .admitted →
    o.call.slot = .empty → ((s.run acts).pending.map Prod.fst).count o.call.id = 1
  /-- One that has ended never comes back. -/
  gone {id : String} : Ended (s.history acts) id →
    ∀ later, id ∉ (s.run (acts ++ later)).pending.map Prod.fst
  /-- The table is empty when all requests have ended. -/
  empty : (∀ id ∈ begun (s.history acts), Ended (s.history acts) id) →
    (s.run acts).pendingCount = 0

/-- The table accounts for the requests of every run. -/
theorem table_accounts_for_requests {label : String} {timeouts : Timeouts}
    {handlers : Handlers σ ε} {link : Transport.Memory} {shared : σ} {s : Session σ ε}
    (h : Session.start label timeouts handlers link shared = .ok s) (acts : List (Act σ ε)) :
    TableAccounts s acts where
  distinct := by
    rw [(accounts_run h acts).begun]
    exact idOf_nodup ..
  keys {id} key := by
    have accounts := accounts_run h acts
    have busy := accounts.sound.busy_of_key key
    obtain ⟨began, unended⟩ := accounts.busy_iff.mp busy
    obtain ⟨i, o, ho, rfl⟩ := busy
    refine ⟨began, unended, i, ⟨o, ho, rfl⟩, ?_⟩
    rintro j ⟨p, hp, same⟩
    exact accounts.sound.unique hp ho same
  outstanding began unended := (accounts_run h acts).busy_iff.mpr ⟨began, unended⟩
  entry {i o} ho later empty := by
    have sound := (accounts_run h acts).sound
    have inside : (o.call.id, i) ∈ (s.run acts).pending :=
      sound.mem_table.mpr ⟨o, ho, rfl, Ongoing.inTable_iff.mpr ⟨later, empty⟩⟩
    rw [sound.keys_nodup.count, if_pos (List.mem_map_of_mem inside)]
  gone {id} ended later key := by
    have accounts := accounts_run h (acts ++ later)
    rw [history_append] at accounts
    obtain ⟨outcome, there⟩ := ended
    exact accounts.done ⟨outcome, List.mem_append_left _ there⟩ (accounts.sound.busy_of_key key)
  empty all := by
    have accounts := accounts_run h acts
    have none_left : (s.run acts).pending = [] := by
      rw [List.eq_nil_iff_forall_not_mem]
      rintro ⟨id, i⟩ entry
      have busy := accounts.sound.busy_of_key (List.mem_map_of_mem entry)
      obtain ⟨began, unended⟩ := accounts.busy_iff.mp busy
      exact unended (all id began)
    rw [pendingCount, none_left, List.length_nil]

/-- A call that is refused by the transport, one that is given up and one that is answered. -/
theorem table_accounts_for_three : ∃ s : Session Unit Unit,
    Session.start "sess" .default .none .new () = .ok s ∧
      TableAccounts s
        [.failSends true, .spawn (.request "a" .null none fun _ => .done ()),
          .step (.task 0), .step (.task 0), .step (.task 0), .step (.task 0), .failSends false,
          .spawn (.request "b" .null (some 0) fun _ => .done ()),
          .spawn (.request "c" .null none fun _ => .done ()),
          .step (.task 1), .step (.task 2), .step (.task 1), .step (.task 2), .step (.task 0),
          .step (.task 1), .step (.task 2), .step (.task 1), .step (.task 2), .step (.task 1),
          .step (.task 1), .inject (.response (.success (.text "sess-3") .null)),
          .step .forwarder, .step .reader, .step (.task 2)] := by
  have started : Session.start (σ := Unit) (ε := Unit) "sess" .default .none .new () = .ok _ := rfl
  exact ⟨_, started, table_accounts_for_requests started _⟩

end Mcp.Session
