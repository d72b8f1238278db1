import Mcp.Proofs.Session.Moves

/-!
The table of a session and its requests. `Fits` ties the two together: the table holds exactly the
requests that were put in and for which nothing has come, each once and under its own id, and no two
requests have one id. Every act keeps it, so it holds after every run.
-/

namespace Mcp.Session

variable {σ ε : Type}

theorem idOf_injective {label : String} {m n : Nat} (h : idOf label m = idOf label n) : m = n := by
  have h := (String.append_right_inj _).mp h
  simp only [Nat.toString_eq_ofList_toDigits] at h
  have h := congrArg (Nat.ofDigitChars 10 · 0) (String.ofList_injective h)
  simpa only [Nat.ofDigitChars_ten_toDigits] using h

/-- The ids that a session has given out. -/
def Issued (label : String) (nextId : Nat) (id : String) : Prop :=
  ∃ n, 0 < n ∧ n < nextId ∧ id = idOf label n

/-- Whether a request was put in the table and nothing has come for it. -/
def Ongoing.inTable (o : Ongoing σ ε) : Bool :=
  match o.stage, o.call.slot with
  | .admitted, _ => false
  | _, .empty => true
  | _, _ => false

/-- What comes for the requests in the table whose ids are as given. -/
def Ongoing.tell (whom : String → Bool) (news : Slot) (o : Ongoing σ ε) : Ongoing σ ε :=
  if o.inTable && whom o.call.id then o.fill news else o

theorem Ongoing.inTable_iff {o : Ongoing σ ε} :
    o.inTable = true ↔ o.stage ≠ .admitted ∧ o.call.slot = .empty := by
  unfold inTable
  split
  · simp_all
  · simp_all
  · simp_all

@[simp] theorem Ongoing.tell_id (whom : String → Bool) (news : Slot) (o : Ongoing σ ε) :
    (o.tell whom news).call.id = o.call.id := by
  unfold tell
  split <;> rfl

@[simp] theorem Ongoing.tell_stage (whom : String → Bool) (news : Slot) (o : Ongoing σ ε) :
    (o.tell whom news).stage = o.stage := by
  unfold tell
  split <;> rfl

@[simp] theorem Ongoing.tell_next (whom : String → Bool) (news : Slot) (o : Ongoing σ ε) :
    (o.tell whom news).next = o.next := by
  unfold tell
  split <;> rfl

theorem Ongoing.inTable_tell {whom : String → Bool} {news : Slot} (h : news ≠ .empty)
    (o : Ongoing σ ε) : (o.tell whom news).inTable = (o.inTable && !whom o.call.id) := by
  unfold tell
  split
  · rename_i told
    obtain ⟨inside, told⟩ := Bool.and_eq_true_iff.mp told
    have full : (o.fill news).inTable = false := by
      rw [Bool.eq_false_iff, ne_eq, inTable_iff]
      rintro ⟨-, empty⟩
      rw [fill, (inTable_iff.mp inside).2] at empty
      exact h empty
    simp [full, told]
  · rename_i told
    cases inside : o.inTable <;> simp_all

/-- The table, the requests that tasks are busy with, and the ids given out fit together. -/
structure Fits (requests : Nat → Option (Ongoing σ ε)) (table : List (String × Nat))
    (label : String) (nextId : Nat) : Prop where
  positive : 0 < nextId
  issued : ∀ {i o}, requests i = some o → Issued label nextId o.call.id
  unique : ∀ {i j o o'}, requests i = some o → requests j = some o' →
    o.call.id = o'.call.id → i = j
  /-- Nothing comes for a request that is not in the table yet. -/
  unfilled : ∀ {i o}, requests i = some o → o.stage = .admitted → o.call.slot = .empty
  /-- The table holds the requests that were put in and for which nothing has come. -/
  mem_table : ∀ {id i}, (id, i) ∈ table ↔
    ∃ o, requests i = some o ∧ o.call.id = id ∧ o.inTable = true
  keys_nodup : (table.map Prod.fst).Nodup

namespace Fits

variable {requests requests' : Nat → Option (Ongoing σ ε)} {table : List (String × Nat)}
  {label : String} {nextId i : Nat}

theorem start (label : String) (h : ∀ i, requests i = none) : Fits requests [] label 1 where
  positive := by decide
  issued := by simp [h]
  unique := by simp [h]
  unfilled := by simp [h]
  mem_table := by simp [h]
  keys_nodup := List.nodup_nil

/-- An id that was not given out is the id of no request. -/
theorem id_ne (fits : Fits requests table label nextId) {o : Ongoing σ ε}
    (h : requests i = some o) : o.call.id ≠ idOf label nextId := by
  obtain ⟨n, -, hn, hid⟩ := fits.issued h
  rw [hid]
  intro same
  have := idOf_injective same
  omega

theorem lookup_eq_some_iff (fits : Fits requests table label nextId) {id : String} :
    table.lookup id = some i ↔ ∃ o, requests i = some o ∧ o.call.id = id ∧ o.inTable = true := by
  rw [← fits.mem_table, List.lookup_eq_some_iff]
  constructor
  · rintro ⟨before, after, rfl, -⟩
    simp
  · intro inside
    obtain ⟨before, after, rfl⟩ := List.append_of_mem inside
    refine ⟨before, after, rfl, fun p hp => ?_⟩
    have nodup := fits.keys_nodup
    rw [List.map_append, List.map_cons, List.nodup_append] at nodup
    simpa using (nodup.2.2 p.1 (List.mem_map_of_mem hp) id List.mem_cons_self).symm

/-- A request that begins has an id that was not given out. -/
theorem begin (fits : Fits requests table label nextId) (free : requests i = none)
    (method : String) (params : Json) (timeout : Nat)
    (next : Except Error Json → Program σ ε Unit) :
    Fits (Function.update requests i
      (some ⟨⟨idOf label nextId, method, params, timeout, .empty⟩, .admitted, next⟩))
      table label (nextId + 1) where
  positive := by omega
  issued {j o} h := by
    rw [Function.update_apply] at h
    split at h
    · cases h
      exact ⟨nextId, fits.positive, by omega, rfl⟩
    · obtain ⟨n, h0, hn, hid⟩ := fits.issued h
      exact ⟨n, h0, by omega, hid⟩
  unique {j k o o'} h h' same := by
    rw [Function.update_apply] at h h'
    split at h <;> split at h'
    · omega
    · cases h
      exact absurd same.symm (fits.id_ne h')
    · cases h'
      exact absurd same (fits.id_ne h)
    · exact fits.unique h h' same
  unfilled {j o} h admitted := by
    rw [Function.update_apply] at h
    split at h
    · cases h
      rfl
    · exact fits.unfilled h admitted
  mem_table {id j} := by
    rw [fits.mem_table, Function.update_apply]
    split
    · rename_i hj
      subst hj
      simp [free, Ongoing.inTable]
    · rfl
  keys_nodup := fits.keys_nodup

/-- Each request after a step is one from before it, by its id. -/
def Continues (requests requests' : Nat → Option (Ongoing σ ε)) : Prop :=
  ∀ i p, requests' i = some p → ∃ o, requests i = some o ∧ o.call.id = p.call.id

theorem continues_update {o o' : Ongoing σ ε} (h : requests i = some o)
    (id : o'.call.id = o.call.id) : Continues requests (Function.update requests i (some o')) := by
  intro j p hp
  rw [Function.update_apply] at hp
  split at hp
  · rename_i hj
    cases hp
    exact ⟨o, hj ▸ h, id.symm⟩
  · exact ⟨p, hp, rfl⟩

theorem continues_erase : Continues requests (Function.update requests i none) := by
  intro j p hp
  rw [Function.update_apply] at hp
  split at hp
  · cases hp
  · exact ⟨p, hp, rfl⟩

theorem issued_of_continues (fits : Fits requests table label nextId)
    (continues : Continues requests requests') {p : Ongoing σ ε} (hp : requests' i = some p) :
    Issued label nextId p.call.id := by
  obtain ⟨o, ho, same⟩ := continues i p hp
  exact same ▸ fits.issued ho

theorem unique_of_continues (fits : Fits requests table label nextId)
    (continues : Continues requests requests') {j : Nat} {p q : Ongoing σ ε}
    (hp : requests' i = some p) (hq : requests' j = some q) (same : p.call.id = q.call.id) :
    i = j := by
  obtain ⟨o, ho, ofP⟩ := continues i p hp
  obtain ⟨o', ho', ofQ⟩ := continues j q hq
  exact fits.unique ho ho' (ofP.trans (same.trans ofQ.symm))

/-- A request that goes on outside the table, or within it, keeps its place. -/
theorem replace (fits : Fits requests table label nextId) {o o' : Ongoing σ ε}
    (h : requests i = some o) (id : o'.call.id = o.call.id) (inside : o'.inTable = o.inTable)
    (later : o'.stage ≠ .admitted) :
    Fits (Function.update requests i (some o')) table label nextId where
  positive := fits.positive
  issued := fits.issued_of_continues (continues_update h id)
  unique := fits.unique_of_continues (continues_update h id)
  unfilled {j p} hp admitted := by
    rw [Function.update_apply] at hp
    split at hp
    · cases hp
      exact absurd admitted later
    · exact fits.unfilled hp admitted
  mem_table {key j} := by
    rw [fits.mem_table, Function.update_apply]
    split
    · rename_i hj
      subst hj
      simp [h, id, inside]
    · rfl
  keys_nodup := fits.keys_nodup

/-- A request is put in the table. -/
theorem enter (fits : Fits requests table label nextId) {call : Call}
    {next : Except Error Json → Program σ ε Unit}
    (h : requests i = some ⟨call, .admitted, next⟩) :
    Fits (Function.update requests i (some ⟨call, .registered, next⟩)) (table ++ [(call.id, i)])
      label nextId := by
  have outside : ∀ {id}, (id, i) ∉ table := by
    intro id inside
    obtain ⟨o, ho, -, hin⟩ := fits.mem_table.mp inside
    rw [h] at ho
    cases ho
    simp [Ongoing.inTable] at hin
  have empty : call.slot = .empty := fits.unfilled h rfl
  have continues : Continues requests
      (Function.update requests i (some ⟨call, .registered, next⟩)) := continues_update h rfl
  refine ⟨fits.positive, fits.issued_of_continues continues, fits.unique_of_continues continues,
    fun {j o} ho admitted => ?_, fun {id j} => ?_, ?_⟩
  · rw [Function.update_apply] at ho
    split at ho
    · cases ho
      exact empty
    · exact fits.unfilled ho admitted
  · rw [List.mem_append, fits.mem_table, Function.update_apply]
    split
    · rename_i hj
      subst hj
      rw [← fits.mem_table]
      simp [outside, Ongoing.inTable, empty, eq_comm (a := call.id)]
    · rename_i hj
      simp [hj]
  · rw [List.map_append, List.nodup_append]
    refine ⟨fits.keys_nodup, by simp, fun key hkey key' hkey' same => ?_⟩
    obtain ⟨⟨id, j⟩, hmem, rfl⟩ := List.mem_map.mp hkey
    obtain ⟨o, ho, hid, -⟩ := fits.mem_table.mp hmem
    simp only [List.map_cons, List.map_nil, List.mem_singleton] at hkey'
    have : j = i := fits.unique ho h (by rw [hid]; exact same.trans hkey')
    exact outside (this ▸ hmem)

/-- A request ends, and its id leaves the table if it was there. -/
theorem remove (fits : Fits requests table label nextId) {o : Ongoing σ ε}
    (h : requests i = some o) :
    Fits (Function.update requests i none) (table.filter fun entry => entry.1 ≠ o.call.id) label
      nextId where
  positive := fits.positive
  issued := fits.issued_of_continues continues_erase
  unique := fits.unique_of_continues continues_erase
  unfilled {j p} hp admitted := by
    rw [Function.update_apply] at hp
    split at hp
    · cases hp
    · exact fits.unfilled hp admitted
  mem_table {key j} := by
    rw [List.mem_filter, fits.mem_table, Function.update_apply]
    split
    · rename_i hj
      subst hj
      simp [h]
      exact fun same _ => same.symm
    · rename_i hj
      constructor
      · exact fun ⟨there, _⟩ => there
      · rintro ⟨p, hp, rfl, inside⟩
        refine ⟨⟨p, hp, rfl, inside⟩, ?_⟩
        simpa using fun same => hj (fits.unique hp h same)
  keys_nodup := fits.keys_nodup.sublist (List.filter_sublist.map _)

theorem continues_tell {whom : String → Bool} {news : Slot}
    (h : ∀ i, requests' i = (requests i).map (Ongoing.tell whom news)) :
    Continues requests requests' := by
  intro j p hp
  rw [h, Option.map_eq_some_iff] at hp
  obtain ⟨o, ho, rfl⟩ := hp
  exact ⟨o, ho, (o.tell_id ..).symm⟩

/-- Something comes for requests in the table, and their ids leave it. -/
theorem tell (fits : Fits requests table label nextId) (whom : String → Bool) {news : Slot}
    (full : news ≠ .empty) (h : ∀ i, requests' i = (requests i).map (Ongoing.tell whom news)) :
    Fits requests' (table.filter fun entry => !whom entry.1) label nextId where
  positive := fits.positive
  issued := fits.issued_of_continues (continues_tell h)
  unique := fits.unique_of_continues (continues_tell h)
  unfilled {j p} hp admitted := by
    rw [h, Option.map_eq_some_iff] at hp
    obtain ⟨o, ho, rfl⟩ := hp
    rw [Ongoing.tell_stage] at admitted
    have outside : o.inTable = false := by simp [Ongoing.inTable, admitted]
    simpa [Ongoing.tell, outside] using fits.unfilled ho admitted
  mem_table {key j} := by
    rw [List.mem_filter, fits.mem_table, h]
    constructor
    · rintro ⟨⟨o, ho, rfl, inside⟩, untold⟩
      exact ⟨o.tell whom news, by simp [ho], by simp,
        by rw [Ongoing.inTable_tell full, inside]; simpa using untold⟩
    · rintro ⟨p, hp, rfl, inside⟩
      obtain ⟨o, ho, rfl⟩ := Option.map_eq_some_iff.mp hp
      rw [Ongoing.inTable_tell full, Bool.and_eq_true_iff] at inside
      exact ⟨⟨o, ho, by simp, inside.1⟩, by simpa using inside.2⟩
  keys_nodup := fits.keys_nodup.sublist (List.filter_sublist.map _)

end Fits

/-! ### Every act keeps it -/

/-- A session's requests, its table and the ids that it gave out fit together. -/
def Sound (s : Session σ ε) : Prop := Fits s.ongoing? s.pending s.label s.nextId

/-- The requests that a response may be for, by the text of its id. -/
def Response.reaches (r : Response) (id : String) : Bool := r.id.map RequestId.key = some id

theorem Sound.hear_eq {s : Session σ ε} (sound : Sound s) (r : Response) (i : Nat) :
    (if (r.id.bind fun id => s.pending.lookup id.key) = some i then
        (s.ongoing? i).map (Ongoing.fill (.answered r.answer))
      else s.ongoing? i) =
      (s.ongoing? i).map (Ongoing.tell (Response.reaches r) (.answered r.answer)) := by
  cases ho : s.ongoing? i with
  | none => simp
  | some o =>
    have owner : (r.id.bind fun id => s.pending.lookup id.key) = some i ↔
        (o.inTable && Response.reaches r o.call.id) = true := by
      rw [Option.bind_eq_some_iff]
      simp only [sound.lookup_eq_some_iff, ho, Option.some.injEq, Response.reaches,
        Bool.and_eq_true, decide_eq_true_eq, Option.map_eq_some_iff]
      constructor
      · rintro ⟨id, hid, p, rfl, hkey, inside⟩
        exact ⟨inside, id, hid, hkey.symm⟩
      · rintro ⟨inside, id, hid, hkey⟩
        exact ⟨id, hid, o, rfl, hkey.symm, inside⟩
    simp only [owner, Option.map_some, Ongoing.tell]
    split <;> rfl

theorem Sound.clear_eq {s : Session σ ε} (sound : Sound s) (i : Nat) :
    (if s.pending.any (fun entry => entry.2 = i) then
        (s.ongoing? i).map (Ongoing.fill .dropped)
      else s.ongoing? i) =
      (s.ongoing? i).map (Ongoing.tell (fun _ => true) .dropped) := by
  cases ho : s.ongoing? i with
  | none => simp
  | some o =>
    have inside : (s.pending.any fun entry => entry.2 = i) = o.inTable := by
      rw [Bool.eq_iff_iff, List.any_eq_true]
      constructor
      · rintro ⟨⟨id, j⟩, hmem, hj⟩
        obtain rfl : j = i := by simpa using hj
        obtain ⟨p, hp, -, inside⟩ := sound.mem_table.mp hmem
        rw [ho] at hp
        cases hp
        exact inside
      · intro inside
        exact ⟨(o.call.id, i), sound.mem_table.mpr ⟨o, ho, rfl, inside⟩, by simp⟩
    simp only [inside, Option.map_some, Ongoing.tell, Bool.and_true]
    split <;> rfl

theorem Advance.stages {s : Session σ ε} {call : Call} {stage stage' : CallStage}
    {x : Option Happening} (h : Advance s call stage x stage') :
    stage ≠ .admitted ∧ stage' ≠ .admitted := by
  cases h <;> simp

theorem Advance.inTable {s : Session σ ε} {call : Call} {stage stage' : CallStage}
    {x : Option Happening} (h : Advance s call stage x stage')
    (next : Except Error Json → Program σ ε Unit) :
    (Ongoing.mk call stage' next).inTable = (Ongoing.mk call stage next).inTable := by
  rw [Bool.eq_iff_iff]
  simp [Ongoing.inTable_iff, h.stages]

theorem Sound.moves {s s' : Session σ ε} {x : Option Happening} (sound : Sound s)
    (m : Moves s s' x) (label : s'.label = s.label) : Sound s' := by
  unfold Sound
  rw [label]
  cases m with
  | quiet ho hp hn =>
    rw [ho, hp, hn]
    exact sound
  | begin ready ho hp hn =>
    rw [ho, hp, hn]
    exact sound.begin (by simp [ongoing?, ready, Task.ongoing?]) ..
  | enter h ho hp hn =>
    rw [ho, hp, hn]
    exact sound.enter h
  | advance h step ho hp hn =>
    rw [ho, hp, hn]
    exact sound.replace h rfl (step.inTable _) step.stages.2
  | @finish i call deadline next outcome h filled ho _ hp hn =>
    have outside : (s.pending.filter fun entry => entry.1 ≠ call.id) = s.pending := by
      rw [List.filter_eq_self]
      rintro ⟨id, j⟩ hmem
      obtain ⟨o, hj, rfl, inside⟩ := sound.mem_table.mp hmem
      simp only [ne_eq, decide_eq_true_eq]
      intro same
      obtain rfl := sound.unique hj h same
      rw [h] at hj
      cases hj
      rw [(Ongoing.inTable_iff.mp inside).2] at filled
      cases filled
    rw [ho, hp, hn, ← outside]
    exact sound.remove h
  | withdraw h ho _ hp hn =>
    rw [ho, hp, hn]
    exact sound.remove h
  | @hear r _ ho hp hn =>
    rw [hp, hn]
    have told i : s'.ongoing? i =
        (s.ongoing? i).map (Ongoing.tell (Response.reaches r) (.answered r.answer)) :=
      (ho i).trans (sound.hear_eq r i)
    have := sound.tell (Response.reaches r) (by simp) told
    simpa only [Response.reaches, ← decide_not] using this
  | clear ho hp hn =>
    rw [hp, hn]
    have told i : s'.ongoing? i = (s.ongoing? i).map (Ongoing.tell (fun _ => true) .dropped) :=
      (ho i).trans (sound.clear_eq i)
    have := sound.tell (fun _ => true) (by simp) told
    rwa [List.filter_eq_nil_iff.mpr (by simp)] at this

theorem Sound.act {s : Session σ ε} (sound : Sound s) (a : Act σ ε) : Sound (s.act a) :=
  sound.moves (s.act_moves a) (s.act_settings a).label

theorem Sound.run {s : Session σ ε} (sound : Sound s) (acts : List (Act σ ε)) :
    Sound (s.run acts) :=
  run_induction (P := fun s _ => Sound s) (h := []) (fun _ _ a sound => sound.act a) sound acts

theorem Fresh.sound {label : String} {s : Session σ ε} (fresh : Fresh label s) : Sound s := by
  unfold Sound
  rw [fresh.pending, fresh.nextId]
  exact Fits.start s.label fun i => by simp [ongoing?, fresh.tasks]

theorem Fresh.not_issued {label : String} {s : Session σ ε} (fresh : Fresh label s)
    (id : String) : ¬ Issued s.label s.nextId id := by
  rintro ⟨n, h0, hn, -⟩
  rw [fresh.nextId] at hn
  omega

end Mcp.Session
