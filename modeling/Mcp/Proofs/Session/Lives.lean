import Mcp.Proofs.Session.Life

/-!
Sessions tell lives. The history of every run is a life of every id (`lived_run`), and the phase to
which it leads is how far the session is with the request of that id.
-/

namespace Mcp.Session

variable {σ ε : Type}

/-! ### Ids of requests and ids of responses -/

theorem hyphen_not_mem_digits (n : Nat) : '-' ∉ Nat.toDigits 10 n := by
  intro h
  have := Nat.isDigit_of_mem_toDigits (by decide) (by decide) h
  exact absurd this (by decide)

/-- The text of a number has no hyphen but at its start, where the id of a request has none. -/
theorem number_ne_idOf {label : String} (named : label ≠ "") (n : Int) (m : Nat) :
    toString n ≠ idOf label m := by
  intro same
  have tail : '-' ∉ (toString n).toList.tail := by
    rw [Int.toString_eq_repr]
    cases n with
    | ofNat n =>
      simp only [Int.repr, Nat.repr_eq_ofList_toDigits, String.toList_ofList]
      exact fun h => hyphen_not_mem_digits n (List.mem_of_mem_tail h)
    | negSucc n =>
      simpa [Int.repr, Nat.repr_eq_ofList_toDigits] using hyphen_not_mem_digits (n + 1)
  rw [same] at tail
  have some_char : label.toList ≠ [] := fun h => named (String.toList_eq_nil_iff.mp h)
  obtain ⟨c, rest, hlabel⟩ := List.exists_cons_of_ne_nil some_char
  simp [idOf, hlabel] at tail

theorem Response.reaches_iff {label : String} (named : label ≠ "") {nextId : Nat} {id : String}
    (issued : Issued label nextId id) (r : Response) :
    Response.reaches r id = true ↔ r.id = some (.text id) := by
  obtain ⟨m, -, -, rfl⟩ := issued
  simp only [Response.reaches, decide_eq_true_eq, Option.map_eq_some_iff]
  constructor
  · rintro ⟨key, hid, same⟩
    cases key with
    | text t => rw [hid, ← same]; rfl
    | number n => exact absurd same (number_ne_idOf named n m)
  · intro hid
    exact ⟨_, hid, rfl⟩

/-! ### How far a session is with a request -/

def Ongoing.phase (o : Ongoing σ ε) : Phase :=
  match o.stage with
  | .admitted => .begun o.call.method o.call.timeout
  | .registered | .confirmed => .entered o.call.method o.call.timeout o.call.slot
  | .waiting deadline => .underway o.call.method o.call.timeout deadline o.call.slot
  | .withdrawing e => .failing e

theorem Ongoing.phase_tell (whom : String → Bool) (news : Slot) (o : Ongoing σ ε) :
    (o.tell whom news).phase = if whom o.call.id then o.phase.fill news else o.phase := by
  obtain ⟨⟨id, method, params, timeout, slot⟩, stage, next⟩ := o
  cases told : whom id <;> cases stage <;> cases slot <;>
    simp [tell, inTable, phase, fill, Phase.fill, Slot.fill, told]

/-- How far a session is with the request of an id. -/
inductive Stands (s : Session σ ε) (id : String) : Phase → Prop
  | unborn : ¬ Issued s.label s.nextId id → Stands s id .unborn
  | busy {i : Nat} {o : Ongoing σ ε} :
      s.ongoing? i = some o → o.call.id = id → Stands s id o.phase
  | past {outcome : Except Error Json} :
      Issued s.label s.nextId id → ¬ s.Busy id → Stands s id (.past outcome)

/-- The history of a session is a life of an id, which led to where the session stands. -/
def Lived (s : Session σ ε) (h : List Happening) (id : String) : Prop :=
  ∃ p, Life id h p ∧ Stands s id p

/-- What comes next in a life, if anything does. -/
def Phase.Goes (id : String) (p : Phase) (x : Option Happening) (p' : Phase) : Prop :=
  match x with
  | none => p' = p
  | some x => Phase.Step id p x p'

theorem Life.goes {id : String} {h : List Happening} {p p' : Phase} {x : Option Happening}
    (life : Life id h p) (goes : p.Goes id x p') : Life id (h ++ x.toList) p' := by
  cases x with
  | none =>
    obtain rfl : p' = p := goes
    simpa using life
  | some x => exact life.snoc goes

/-! ### Every act leads every life on -/

section Acts

variable {s s' : Session σ ε} {h : List Happening} {x : Option Happening}

/-- What is nothing to a request leaves its life where it was. -/
theorem Lived.rest {id : String} (lived : Lived s h id)
    (nothing : ∀ p, Phase.Goes id p x p) (stands : ∀ p, Stands s id p → Stands s' id p) :
    Lived s' (h ++ x.toList) id := by
  obtain ⟨p, life, here⟩ := lived
  exact ⟨p, life.goes (nothing p), stands p here⟩

theorem Phase.goes_other {id : String} {x : Happening} (unnamed : x.names id = false)
    (undecided : x.decides id = false) (p : Phase) : Phase.Goes id p (some x) p :=
  Phase.Step.other unnamed undecided

theorem Stands.of_eq {id : String} {p : Phase} (stands : Stands s id p)
    (label : s'.label = s.label) (next : s'.nextId = s.nextId)
    (requests : s'.ongoing? = s.ongoing?) : Stands s' id p := by
  cases stands with
  | unborn fresh => exact .unborn (by rwa [label, next])
  | busy ho hid => exact .busy (by rwa [requests]) hid
  | past issued idle => exact .past (by rwa [label, next]) (by rwa [Busy, requests])

/-- A task keeps its request when the task of another request changes. -/
theorem ongoing?_elsewhere {i j : Nat} {q : Ongoing σ ε} {new : Option (Ongoing σ ε)}
    (requests : s'.ongoing? = Function.update s.ongoing? i new) (hq : s.ongoing? j = some q)
    (other : s.ongoing? i ≠ some q) : s'.ongoing? j = some q := by
  rw [requests, Function.update_apply, if_neg]
  · exact hq
  · rintro rfl
    exact other hq

/-- The request of a task goes on. -/
theorem Lived.of_update {i : Nat} {o o' : Ongoing σ ε} {id : String} (lived : Lived s h id)
    (sound : Sound s) (label : s'.label = s.label) (next : s'.nextId = s.nextId)
    (ho : s.ongoing? i = some o)
    (requests : s'.ongoing? = Function.update s.ongoing? i (some o'))
    (same : o'.call.id = o.call.id)
    (own : Phase.Goes o.call.id o.phase x o'.phase)
    (others : ∀ id p, id ≠ o.call.id → Phase.Goes id p x p) :
    Lived s' (h ++ x.toList) id := by
  obtain ⟨p, life, stands⟩ := lived
  by_cases hid : id = o.call.id
  · subst hid
    have now : Stands s' o.call.id o'.phase := .busy (i := i) (by rw [requests]; simp) same
    cases stands with
    | unborn fresh => exact absurd (sound.issued ho) fresh
    | @busy j q hq hid =>
      obtain rfl := sound.unique hq ho hid
      rw [ho] at hq
      cases hq
      exact ⟨_, life.goes own, now⟩
    | past _ idle => exact absurd ⟨i, o, ho, rfl⟩ idle
  · refine Lived.rest ⟨p, life, stands⟩ (fun p => others id p hid) fun p stands => ?_
    cases stands with
    | unborn fresh => exact .unborn (by rwa [label, next])
    | @busy j q hq hid' =>
      refine .busy (i := j) (ongoing?_elsewhere requests hq ?_) hid'
      rw [ho]
      rintro ⟨⟩
      exact hid hid'.symm
    | past issued idle =>
      refine .past (by rwa [label, next]) ?_
      rw [Busy, requests, busy_update ho same]
      exact idle

/-- The request of a task ends. -/
theorem Lived.of_end {i : Nat} {o : Ongoing σ ε} {id : String} {outcome : Except Error Json}
    (lived : Lived s h id) (sound : Sound s) (label : s'.label = s.label)
    (next : s'.nextId = s.nextId) (ho : s.ongoing? i = some o)
    (requests : s'.ongoing? = Function.update s.ongoing? i none)
    (own : Phase.Step o.call.id o.phase (.ended o.call.id outcome) (.past outcome)) :
    Lived s' (h ++ (some (Happening.ended o.call.id outcome)).toList) id := by
  obtain ⟨p, life, stands⟩ := lived
  have busy {id : String} : s'.Busy id ↔ s.Busy id ∧ id ≠ o.call.id := by
    rw [Busy, requests]
    exact sound.busy_remove ho
  by_cases hid : id = o.call.id
  · subst hid
    have now : Stands s' o.call.id (.past outcome) :=
      .past (by rw [label, next]; exact sound.issued ho) fun still => (busy.mp still).2 rfl
    cases stands with
    | unborn fresh => exact absurd (sound.issued ho) fresh
    | @busy j q hq hid =>
      obtain rfl := sound.unique hq ho hid
      rw [ho] at hq
      cases hq
      exact ⟨_, life.snoc own, now⟩
    | past _ idle => exact absurd ⟨i, o, ho, rfl⟩ idle
  · refine Lived.rest ⟨p, life, stands⟩ (Phase.goes_other ?_ rfl) fun p stands => ?_
    · simpa [Happening.names] using Ne.symm hid
    · cases stands with
      | unborn fresh => exact .unborn (by rwa [label, next])
      | @busy j q hq hid' =>
        refine .busy (i := j) (ongoing?_elsewhere requests hq ?_) hid'
        rw [ho]
        rintro ⟨⟩
        exact hid hid'.symm
      | past issued idle =>
        exact .past (by rwa [label, next]) fun still => idle (busy.mp still).1

/-- Something comes for requests in the table. -/
theorem Lived.of_tell {id : String} {x : Happening} {whom : String → Bool} {news : Slot}
    (lived : Lived s h id) (label : s'.label = s.label) (next : s'.nextId = s.nextId)
    (requests : ∀ i, s'.ongoing? i = (s.ongoing? i).map (Ongoing.tell whom news))
    (reached : ∀ p, Issued s.label s.nextId id →
      Phase.Step id p x (if whom id then p.fill news else p))
    (unborn : Phase.Step id .unborn x .unborn) (sound : Sound s) :
    Lived s' (h ++ (some x).toList) id := by
  obtain ⟨p, life, stands⟩ := lived
  cases stands with
  | unborn fresh => exact ⟨_, life.snoc unborn, .unborn (by rwa [label, next])⟩
  | @busy i o ho hid =>
    subst hid
    refine ⟨_, life.snoc (reached _ (sound.issued ho)), ?_⟩
    rw [← o.phase_tell]
    exact .busy (i := i) (by rw [requests, ho, Option.map_some]) (o.tell_id ..)
  | @past outcome issued idle =>
    have step := reached (.past outcome) issued
    have stays : (if whom id then (Phase.past outcome).fill news else .past outcome) =
        .past outcome := by
      split <;> rfl
    rw [stays] at step
    refine ⟨_, life.snoc step, .past (by rwa [label, next]) ?_⟩
    rw [Busy, busy_tell requests]
    exact idle

/-- A request begins. -/
theorem Lived.of_begin {i : Nat} {o : Ongoing σ ε} {id : String} (lived : Lived s h id)
    (sound : Sound s) (label : s'.label = s.label) (next : s'.nextId = s.nextId + 1)
    (free : s.ongoing? i = none) (hid : o.call.id = s.freshId) (stage : o.stage = .admitted)
    (requests : s'.ongoing? = Function.update s.ongoing? i (some o)) :
    Lived s' (h ++ (some (Happening.began s.freshId o.call.method o.call.timeout)).toList) id := by
  obtain ⟨p, life, stands⟩ := lived
  have fresh : ¬ Issued s.label s.nextId s.freshId := by
    rintro ⟨n, -, hn, same⟩
    have := idOf_injective same
    omega
  have issued {id : String} :
      Issued s'.label s'.nextId id ↔ Issued s.label s.nextId id ∨ id = s.freshId := by
    rw [label, next]
    exact issued_succ sound.positive
  by_cases own : id = s.freshId
  · subst own
    have now : Stands s' s.freshId o.phase := .busy (i := i) (by rw [requests]; simp) hid
    rw [Ongoing.phase, stage] at now
    cases stands with
    | unborn _ => exact ⟨_, life.snoc .begin, now⟩
    | busy ho hid => exact absurd (hid ▸ sound.issued ho) fresh
    | past issued _ => exact absurd issued fresh
  · refine Lived.rest ⟨p, life, stands⟩ (Phase.goes_other ?_ rfl) fun p stands => ?_
    · simpa [Happening.names] using Ne.symm own
    · cases stands with
      | unborn unissued =>
        refine .unborn ?_
        rw [issued, not_or]
        exact ⟨unissued, own⟩
      | @busy j q hq hid' =>
        exact .busy (i := j) (ongoing?_elsewhere requests hq (by simp [free])) hid'
      | past before idle =>
        refine .past (issued.mpr (.inl before)) ?_
        rintro ⟨j, q, hq, rfl⟩
        rw [requests, Function.update_apply] at hq
        split at hq
        · cases hq
          exact own hid
        · exact idle ⟨j, q, hq, rfl⟩

end Acts

theorem Advance.goes {s : Session σ ε} {call : Call} {stage stage' : CallStage}
    {x : Option Happening} (h : Advance s call stage x stage')
    (next : Except Error Json → Program σ ε Unit) :
    Phase.Goes call.id (Ongoing.mk call stage next).phase x
      (Ongoing.mk call stage' next).phase := by
  cases h with
  | confirm => rfl
  | refuse => exact Phase.Step.refuse
  | send => exact Phase.Step.send
  | fail => exact Phase.Step.fail
  | expire empty _ =>
    rw [Ongoing.phase, empty]
    exact Phase.Step.expire

theorem Advance.goes_other {s : Session σ ε} {call : Call} {stage stage' : CallStage}
    {x : Option Happening} (h : Advance s call stage x stage') {id : String}
    (other : id ≠ call.id) (p : Phase) : Phase.Goes id p x p := by
  cases h with
  | confirm => rfl
  | refuse | send | fail | expire =>
    exact Phase.goes_other (by simpa [Happening.names] using Ne.symm other)
      (by simp [Happening.decides, Ne.symm other]) p

theorem Lived.moves {s s' : Session σ ε} {h : List Happening} {x : Option Happening} {id : String}
    (lived : Lived s h id) (m : Moves s s' x) (sound : Sound s) (named : s.label ≠ "")
    (label : s'.label = s.label) : Lived s' (h ++ x.toList) id := by
  cases m with
  | quiet ho _ hn => exact lived.rest (fun _ => rfl) fun p stands => stands.of_eq label hn ho
  | begin ready ho _ hn =>
    exact lived.of_begin sound label hn (by simp [ongoing?, ready, Task.ongoing?]) rfl rfl ho
  | enter hc ho _ hn =>
    refine lived.of_update sound label hn hc ho rfl ?_ fun id p other => ?_
    · have empty := sound.unfilled hc rfl
      rw [Ongoing.phase, Ongoing.phase, empty]
      exact Phase.Step.enter
    · exact Phase.goes_other (by simpa [Happening.names] using Ne.symm other) rfl p
  | advance hc step ho _ hn =>
    exact lived.of_update sound label hn hc ho rfl (step.goes _) fun _ p other =>
      step.goes_other other p
  | finish hc out ho _ _ hn => exact lived.of_end sound label hn hc ho (.finish out)
  | withdraw hc ho _ _ hn => exact lived.of_end sound label hn hc ho .withdraw
  | @hear r _ ho _ hn =>
    have other (p : Phase) (unheard : r.id ≠ some (.text id)) :
        Phase.Step id p (.heard r) p := .other rfl (by simpa [Happening.decides] using unheard)
    refine lived.of_tell label hn (fun i => (ho i).trans (sound.hear_eq r i)) (fun p issued => ?_)
      ?_ sound
    · by_cases heard : r.id = some (.text id)
      · rw [if_pos ((Response.reaches_iff named issued r).mpr heard)]
        exact .hear heard
      · rw [if_neg (mt (Response.reaches_iff named issued r).mp heard)]
        exact other p heard
    · by_cases heard : r.id = some (.text id)
      · exact .hear heard
      · exact other _ heard
  | clear ho _ hn =>
    exact lived.of_tell label hn (fun i => (ho i).trans (sound.clear_eq i)) (fun p _ => .clear)
      .clear sound

/-- The history of every run is a life of every id. -/
theorem lived_run {label : String} {timeouts : Timeouts} {handlers : Handlers σ ε}
    {link : Transport.Memory} {shared : σ} {s : Session σ ε} (named : label ≠ "")
    (h : Session.start label timeouts handlers link shared = .ok s) (id : String)
    (acts : List (Act σ ε)) : Lived (s.run acts) (s.history acts) id := by
  have fresh := fresh_of_start h
  have start : Lived s [] id := ⟨.unborn, .nil, .unborn (fresh.not_issued id)⟩
  have keeps (s : Session σ ε) (h : List Happening) (a : Act σ ε) :
      (Sound s ∧ s.label = label ∧ Lived s h id) → Sound (s.act a) ∧ (s.act a).label = label ∧
        Lived (s.act a) (h ++ (s.happening a).toList) id := by
    rintro ⟨sound, same, lived⟩
    have kept := (s.act_settings a).label
    exact ⟨sound.act a, kept.trans same, lived.moves (s.act_moves a) sound (same ▸ named) kept⟩
  exact (run_induction keeps ⟨fresh.sound, fresh.label, start⟩ acts).2.2

end Mcp.Session
