import Mcp.Proofs.Session.Accounts

/-!
The life of one request as its session's history tells it. `Phase.Step` says which happenings may
come next in a life and what they make of it. `life_of_run` says that the history of every run tells
a life of every id, at whose end the session stands; `Tale` reads a life off the happenings that
name the request and off the first one that decides it (`decider?`).
-/

namespace Mcp.Session

variable {σ ε : Type}

/-! ### Happenings as one request sees them -/

namespace Happening

/-- Whether it happens to the request with an id alone. -/
def names (id : String) : Happening → Bool
  | .began i _ _ | .entered i | .refused i | .sent i _ | .unsent i _ | .expired i | .ended i _ =>
    i = id
  | .heard _ | .cleared => false

/-- Whether it puts a request in the table. -/
def enters (id : String) : Happening → Bool
  | .entered i => i = id
  | _ => false

/-- Whether it decides a request that is in the table: a response with the request's own id, the
end of its time, and the end of all requests in the table do. -/
def decides (id : String) : Happening → Bool
  | .heard r => r.id = some (.text id)
  | .expired i => i = id
  | .cleared => true
  | _ => false

end Happening

/-- The first happening that decides a request after it was put in the table. -/
def decider? (id : String) (h : List Happening) : Option Happening :=
  ((h.dropWhile fun x => !x.enters id).drop 1).find? (Happening.decides id)

theorem decider?_append {id : String} {h : List Happening} (x : Happening) :
    decider? id (h ++ [x]) =
      if h.any (Happening.enters id) then
        (decider? id h).or (if x.decides id then some x else none)
      else none := by
  unfold decider?
  induction h with
  | nil => cases hx : x.enters id <;> simp [hx]
  | cons y h ih =>
    cases hy : y.enters id with
    | false => simpa [hy] using ih
    | true =>
      simp only [List.cons_append, List.dropWhile_cons, hy, Bool.not_true, Bool.false_eq_true,
        if_false, List.drop_succ_cons, List.drop_zero, List.any_cons, Bool.true_or, if_true,
        List.find?_append]
      cases hx : x.decides id <;> simp [hx]

/-! ### Lives -/

/-- How far a request is. -/
inductive Phase where
  | unborn
  | begun (method : String) (timeout : Nat)
  /-- It was put in the table and not sent yet. -/
  | entered (method : String) (timeout : Nat) (slot : Slot)
  | underway (method : String) (timeout deadline : Nat) (slot : Slot)
  | failing (error : Error)
  | past (outcome : Except Error Json)

/-- What comes for a request counts while it is in the table, and the first counts. -/
def Phase.fill (news : Slot) : Phase → Phase
  | .entered method timeout slot => .entered method timeout (slot.fill news)
  | .underway method timeout deadline slot => .underway method timeout deadline (slot.fill news)
  | p => p

/-- What may come next in the life of a request, and what it makes of it. -/
inductive Phase.Step (id : String) : Phase → Happening → Phase → Prop
  /-- What neither names a request nor decides it is nothing to it. -/
  | other {p : Phase} {x : Happening} :
      x.names id = false → x.decides id = false → Step id p x p
  | begin {method : String} {timeout : Nat} :
      Step id .unborn (.began id method timeout) (.begun method timeout)
  | enter {method : String} {timeout : Nat} :
      Step id (.begun method timeout) (.entered id) (.entered method timeout .empty)
  | refuse {method : String} {timeout : Nat} {slot : Slot} :
      Step id (.entered method timeout slot) (.refused id) (.failing .transportClosed)
  | send {method : String} {timeout deadline : Nat} {slot : Slot} :
      Step id (.entered method timeout slot) (.sent id deadline)
        (.underway method timeout deadline slot)
  | fail {method : String} {timeout : Nat} {slot : Slot} {e : Error} :
      Step id (.entered method timeout slot) (.unsent id e) (.failing e)
  | hear {p : Phase} {r : Response} :
      r.id = some (.text id) → Step id p (.heard r) (p.fill (.answered r.answer))
  | clear {p : Phase} : Step id p .cleared (p.fill .dropped)
  | expire {method : String} {timeout deadline : Nat} :
      Step id (.underway method timeout deadline .empty) (.expired id)
        (.failing (.timeout method timeout))
  | finish {method : String} {timeout deadline : Nat} {slot : Slot}
      {outcome : Except Error Json} :
      slot.outcome? = some outcome →
      Step id (.underway method timeout deadline slot) (.ended id outcome) (.past outcome)
  | withdraw {e : Error} : Step id (.failing e) (.ended id (.error e)) (.past (.error e))

/-- The phase that a history leads a request to. -/
inductive Life (id : String) : List Happening → Phase → Prop
  | nil : Life id [] .unborn
  | snoc {h : List Happening} {p p' : Phase} {x : Happening} :
      Life id h p → Phase.Step id p x p' → Life id (h ++ [x]) p'

/-! ### What a life tells -/

/-- What has come for a request, by what decided it. -/
inductive Comes (id : String) : Option Happening → Slot → Prop
  | nothing : Comes id none .empty
  | answer {r : Response} : r.id = some (.text id) →
      Comes id (some (.heard r)) (.answered r.answer)
  | close : Comes id (some .cleared) .dropped

/-- The happenings that name a request in a phase, in order, and what decided it. -/
inductive Tale (id : String) : Phase → List Happening → Option Happening → Prop
  | unborn : Tale id .unborn [] none
  | begun {method : String} {timeout : Nat} :
      Tale id (.begun method timeout) [.began id method timeout] none
  | entered {method : String} {timeout : Nat} {slot : Slot} {v : Option Happening} :
      Comes id v slot →
      Tale id (.entered method timeout slot) [.began id method timeout, .entered id] v
  | underway {method : String} {timeout deadline : Nat} {slot : Slot} {v : Option Happening} :
      Comes id v slot →
      Tale id (.underway method timeout deadline slot)
        [.began id method timeout, .entered id, .sent id deadline] v
  | refused {method : String} {timeout : Nat} {v : Option Happening} :
      Tale id (.failing .transportClosed)
        [.began id method timeout, .entered id, .refused id] v
  | unsent {method : String} {timeout : Nat} {e : Error} {v : Option Happening} :
      Tale id (.failing e) [.began id method timeout, .entered id, .unsent id e] v
  | expired {method : String} {timeout deadline : Nat} :
      Tale id (.failing (.timeout method timeout))
        [.began id method timeout, .entered id, .sent id deadline, .expired id]
        (some (.expired id))
  | finished {method : String} {timeout deadline : Nat} {slot : Slot} {v : Option Happening}
      {outcome : Except Error Json} : Comes id v slot → slot.outcome? = some outcome →
      Tale id (.past outcome)
        [.began id method timeout, .entered id, .sent id deadline, .ended id outcome] v
  | failed {e : Error} {named : List Happening} {v : Option Happening} :
      Tale id (.failing e) named v → Tale id (.past (.error e)) (named ++ [.ended id (.error e)]) v

theorem Tale.enters_iff {id : String} {p : Phase} {named : List Happening}
    {v : Option Happening} (tale : Tale id p named v) :
    named.any (Happening.enters id) = true ↔ p ≠ .unborn ∧ ∀ m t, p ≠ .begun m t := by
  induction tale with
  | failed _ ih => simp_all
  | _ => simp [Happening.enters]

theorem any_enters_filter (id : String) (h : List Happening) :
    (h.filter (Happening.names id)).any (Happening.enters id) = h.any (Happening.enters id) := by
  rw [List.any_filter]
  congr
  funext x
  cases x <;> simp [Happening.names, Happening.enters]

theorem Comes.fill {id : String} {v : Option Happening} {slot news : Slot} {x : Happening}
    (c : Comes id v slot) (cx : Comes id (some x) news) :
    Comes id (v.or (some x)) (slot.fill news) := by
  cases c with
  | nothing => exact cx
  | answer h => exact .answer h
  | close => exact .close

/-- A request that has an outcome was decided. -/
theorem Comes.or_eq {id : String} {v : Option Happening} {slot : Slot}
    {outcome : Except Error Json} (c : Comes id v slot) (h : slot.outcome? = some outcome)
    (w : Option Happening) : v.or w = v := by
  cases c with
  | nothing => cases h
  | answer | close => rfl

/-- What decided a request that fails may still come, if it matters no more. -/
theorem Tale.failing_or {id : String} {e : Error} {named : List Happening} {v : Option Happening}
    (tale : Tale id (.failing e) named v) (w : Option Happening) :
    Tale id (.failing e) named (v.or w) := by
  cases tale with
  | refused => exact .refused
  | unsent => exact .unsent
  | expired => exact .expired

/-- Nothing decides a request that was not put in the table. -/
theorem Tale.undecided {id : String} {p : Phase} {named : List Happening} {v : Option Happening}
    (tale : Tale id p named v) (outside : named.any (Happening.enters id) = false) : v = none := by
  cases tale with
  | unborn | begun => rfl
  | failed failing => simp [failing.enters_iff.mpr] at outside
  | _ => simp [Happening.enters] at outside

/-- What happens to the table as a whole leads a tale on. -/
theorem Tale.fill {id : String} {p : Phase} {named : List Happening} {v : Option Happening}
    {news : Slot} {x : Happening} (tale : Tale id p named v) (c : Comes id (some x) news) :
    Tale id (p.fill news) named
      (if named.any (Happening.enters id) then v.or (some x) else none) := by
  have inside (entered : named.any (Happening.enters id) = true)
      (h : Tale id (p.fill news) named (v.or (some x))) : Tale id (p.fill news) named
        (if named.any (Happening.enters id) then v.or (some x) else none) := by
    rwa [if_pos entered]
  cases tale with
  | unborn => exact .unborn
  | begun => exact .begun
  | entered before => exact inside (by simp [Happening.enters]) (.entered (before.fill c))
  | underway before => exact inside (by simp [Happening.enters]) (.underway (before.fill c))
  | refused => exact inside (by simp [Happening.enters]) .refused
  | unsent => exact inside (by simp [Happening.enters]) .unsent
  | expired => exact inside (by simp [Happening.enters]) .expired
  | finished before out =>
    refine inside (by simp [Happening.enters]) ?_
    rw [before.or_eq out]
    exact .finished before out
  | failed failing =>
    exact inside (by simp [failing.enters_iff.mpr]) (.failed (failing.failing_or (some x)))

/-- A step of a life leads its tale on. -/
theorem Tale.step {id : String} {p p' : Phase} {named : List Happening} {v : Option Happening}
    {x : Happening} (tale : Tale id p named v) (step : Phase.Step id p x p') :
    Tale id p' (named ++ if x.names id then [x] else [])
      (if named.any (Happening.enters id) then v.or (if x.decides id then some x else none)
        else none) := by
  cases step with
  | other unnamed undecided =>
    simp only [unnamed, undecided, Bool.false_eq_true, if_false, List.append_nil, Option.or_none]
    cases inside : named.any (Happening.enters id) with
    | true => simpa using tale
    | false => simpa [tale.undecided inside] using tale
  | begin =>
    cases tale
    simpa [Happening.names] using .begun
  | enter =>
    cases tale
    simpa [Happening.names, Happening.enters] using .entered .nothing
  | hear own => simpa [Happening.names, Happening.decides, own] using tale.fill (.answer own)
  | clear => simpa [Happening.names, Happening.decides] using tale.fill .close
  | refuse =>
    cases tale
    simpa [Happening.names, Happening.enters, Happening.decides] using .refused
  | send =>
    cases tale with
    | entered c => simpa [Happening.names, Happening.enters, Happening.decides] using .underway c
  | fail =>
    cases tale
    simpa [Happening.names, Happening.enters, Happening.decides] using .unsent
  | expire =>
    cases tale with
    | underway c =>
      cases c
      simpa [Happening.names, Happening.enters, Happening.decides] using .expired
  | finish out =>
    cases tale with
    | underway c =>
      simpa [Happening.names, Happening.enters, Happening.decides] using .finished c out
  | withdraw =>
    have inside := tale.enters_iff.mpr (by simp)
    simpa [inside, Happening.names, Happening.decides] using .failed tale

/-- The happenings of a life that name its request, and what decided it, are its tale. -/
theorem Life.tale {id : String} {h : List Happening} {p : Phase} (life : Life id h p) :
    Tale id p (h.filter (Happening.names id)) (decider? id h) := by
  induction life with
  | nil => exact .unborn
  | snoc _ step ih =>
    have := ih.step step
    rw [any_enters_filter] at this
    rw [List.filter_append, decider?_append]
    simpa [List.filter_cons] using this

end Mcp.Session
