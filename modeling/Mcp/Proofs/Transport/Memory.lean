import Mcp.Transport.Memory

/-!
Closing a transport in memory. Whether it may be connected depends on whether its queue was claimed
and not on its status. So a close after the first connect is for good, one before it lasts until that
connect comes, and what was put in after a close is delivered in neither case. Main statement:
`close_ends_delivery`.
-/

namespace Mcp.Transport.Memory

/-- What its owner, its peer and its forwarder may do to a transport. -/
inductive Act where
  | connect
  | send (m : Message)
  /-- A graceful close does what any close does. -/
  | close (graceful : Bool)
  | health
  | receive
  | abandon
  | inject (m : Message)
  | failSends (on : Bool)
  | unhealthy (on : Bool)
  | deafen
  | endSource
  | forward

def act (t : Memory) : Act → Memory
  | .connect => t.connect.2
  | .send m => (t.send m).2
  | .close _ => t.close
  | .health => t
  | .receive => t.receive.2
  | .abandon => t.abandon
  | .inject m => t.inject m
  | .failSends on => { t with failing := on }
  | .unhealthy on => { t with unhealthy := on }
  | .deafen => t.deafen
  | .endSource => t.endSource
  | .forward => t.forward

def run (t : Memory) (acts : List Act) : Memory := acts.foldl act t

@[simp] theorem run_nil (t : Memory) : t.run [] = t := rfl

@[simp] theorem run_cons (t : Memory) (a : Act) (acts : List Act) :
    t.run (a :: acts) = (t.act a).run acts := rfl

@[simp] theorem run_append (t : Memory) (before after : List Act) :
    t.run (before ++ after) = (t.run before).run after := List.foldl_append ..

/-- How many connects succeed in a run. -/
def connects (t : Memory) : List Act → Nat
  | [] => 0
  | .connect :: rest => t.connect.1.isOk.toNat + (t.act .connect).connects rest
  | a :: rest => (t.act a).connects rest

/-! ### What an act changes -/

/-- What an act leaves that neither connects nor closes. -/
structure SameState (t t' : Memory) : Prop where
  status : t'.status = t.status
  unclaimed : t'.unclaimed = t.unclaimed
  cancelled : t'.cancelled = t.cancelled
  /-- The forwarder of a closed transport hands nothing on. -/
  inbox : t.cancelled = true → t'.inbox <:+ t.inbox

/-- What an act can do. -/
inductive Moves (t : Memory) : Act → Memory → Prop
  | claim : t.unclaimed = true → Moves t .connect
      { t with status := .connected, unclaimed := false, forwarding := true, receiving := true }
  | refuse : t.unclaimed = false → Moves t .connect t
  | close {graceful : Bool} : Moves t (.close graceful) t.close
  | other {a : Act} {t' : Memory} : a ≠ .connect → (∀ graceful, a ≠ .close graceful) →
      SameState t t' → Moves t a t'

section Act

variable {t : Memory}

theorem act_moves (t : Memory) (a : Act) : Moves t a (t.act a) := by
  have same {t' : Memory} (rest : t' = { t with
      failing := t'.failing, unhealthy := t'.unhealthy, peerListens := t'.peerListens,
      sourceOpen := t'.sourceOpen, forwarding := t'.forwarding, receiving := t'.receiving,
      queue := t'.queue, inbox := t'.inbox, sent := t'.sent })
      (inbox : t.cancelled = true → t'.inbox <:+ t.inbox) : SameState t t' := by
    rw [rest]
    exact ⟨rfl, rfl, rfl, inbox⟩
  have kept : t.cancelled = true → t.inbox <:+ t.inbox := fun _ => List.suffix_refl _
  cases a with
  | connect =>
    cases unclaimed : t.unclaimed with
    | true =>
      simp only [act, connect, unclaimed, if_true]
      exact .claim unclaimed
    | false =>
      simp only [act, connect, unclaimed, Bool.false_eq_true, if_false]
      exact .refuse unclaimed
  | close graceful => exact .close
  | send m =>
    refine .other (by simp) (by simp) ?_
    simp only [act, send]
    split
    · exact same rfl kept
    · split
      · exact same rfl kept
      · split <;> exact same rfl kept
  | receive =>
    refine .other (by simp) (by simp) ?_
    simp only [act, receive]
    split
    · exact same rfl kept
    · rename_i m rest received
      refine same rfl fun _ => ?_
      rw [received]
      exact List.suffix_cons m rest
  | inject m =>
    refine .other (by simp) (by simp) ?_
    simp only [act, inject]
    split <;> exact same rfl kept
  | forward =>
    refine .other (by simp) (by simp) ?_
    simp only [act, forward]
    split
    · exact same rfl kept
    · split
      · exact same rfl kept
      · rename_i open_
        have open_ : t.cancelled = true → False := fun cancelled => open_ cancelled
        split
        · split
          · exact same rfl fun cancelled => (open_ cancelled).elim
          · exact same rfl kept
        · split <;> exact same rfl kept
  | abandon => exact .other (by simp) (by simp) (same rfl fun _ => List.nil_suffix)
  | health | failSends | unhealthy | deafen | endSource =>
    exact .other (by simp) (by simp) (same rfl kept)

theorem connect_of_unclaimed (unclaimed : t.unclaimed = true) :
    t.connect.1 = .ok () ∧ (t.act .connect).status = .connected := by
  simp [act, connect, unclaimed]

theorem connect_of_claimed (claimed : t.unclaimed = false) :
    t.connect = (.error (.invalidState .connectedBefore), t) := by
  simp [connect, claimed]

/-- Only a connect claims the queue, and every connect leaves it claimed. -/
theorem act_unclaimed (t : Memory) (a : Act) :
    (t.act a).unclaimed = false ↔ t.unclaimed = false ∨ a = .connect := by
  have moves := t.act_moves a
  generalize t.act a = t' at moves
  cases moves with
  | claim => simp
  | refuse claimed => simp [claimed]
  | close => simp [close]
  | other connects _ same => simp [same.unclaimed, connects]

theorem act_closed {a : Act} (closed : t.status = .closed)
    (other : t.unclaimed = false ∨ a ≠ .connect) : (t.act a).status = .closed := by
  have moves := t.act_moves a
  generalize t.act a = t' at moves
  cases moves with
  | claim unclaimed => simp [unclaimed] at other
  | refuse => exact closed
  | close => rfl
  | other _ _ same => exact same.status.trans closed

theorem act_connected {a : Act} (connected : t.status = .connected)
    (open_ : ∀ graceful, a ≠ .close graceful) : (t.act a).status = .connected := by
  have moves := t.act_moves a
  generalize t.act a = t' at moves
  cases moves with
  | claim => rfl
  | refuse => exact connected
  | close => exact absurd rfl (open_ _)
  | other _ _ same => exact same.status.trans connected

theorem act_inbox (cancelled : t.cancelled = true) (a : Act) :
    (t.act a).cancelled = true ∧ (t.act a).inbox <:+ t.inbox := by
  have moves := t.act_moves a
  generalize t.act a = t' at moves
  cases moves with
  | claim | refuse => exact ⟨cancelled, List.suffix_refl _⟩
  | close => exact ⟨rfl, List.suffix_refl _⟩
  | other _ _ same => exact ⟨same.cancelled.trans cancelled, same.inbox cancelled⟩

end Act

/-! ### Runs -/

section Run

variable {t : Memory} {acts : List Act}

theorem run_unclaimed (t : Memory) (acts : List Act) :
    (t.run acts).unclaimed = false ↔ t.unclaimed = false ∨ .connect ∈ acts := by
  induction acts generalizing t with
  | nil => simp
  | cons a acts ih => rw [run_cons, ih, act_unclaimed, List.mem_cons, or_assoc, eq_comm (a := a)]

theorem connects_of_claimed (claimed : t.unclaimed = false) (acts : List Act) :
    t.connects acts = 0 := by
  induction acts generalizing t with
  | nil => rfl
  | cons a acts ih =>
    have rest := ih ((act_unclaimed t a).mpr (.inl claimed))
    cases a with
    | connect =>
      rw [connects, rest, connect_of_claimed claimed]
      rfl
    | send | close | health | receive | abandon | inject | failSends | unhealthy | deafen
    | endSource | forward => exact rest

theorem connects_le_one (t : Memory) (acts : List Act) : t.connects acts ≤ 1 := by
  induction acts generalizing t with
  | nil => exact Nat.zero_le 1
  | cons a acts ih =>
    cases a with
    | connect =>
      have rest := connects_of_claimed ((act_unclaimed t .connect).mpr (.inr rfl)) acts
      have here := Bool.toNat_le t.connect.1.isOk
      rw [connects]
      omega
    | send | close | health | receive | abandon | inject | failSends | unhealthy | deafen
    | endSource | forward => exact ih _

theorem run_closed (closed : t.status = .closed)
    (other : t.unclaimed = false ∨ .connect ∉ acts) : (t.run acts).status = .closed := by
  induction acts generalizing t with
  | nil => exact closed
  | cons a acts ih =>
    rw [List.mem_cons, not_or] at other
    refine ih (act_closed closed ?_) ?_
    · exact other.imp_right fun absent => Ne.symm absent.1
    · exact other.imp (fun claimed => (act_unclaimed t a).mpr (.inl claimed)) And.right

theorem run_connected (connected : t.status = .connected)
    (open_ : ∀ graceful, .close graceful ∉ acts) : (t.run acts).status = .connected := by
  induction acts generalizing t with
  | nil => exact connected
  | cons a acts ih =>
    have here : ∀ graceful, a ≠ .close graceful := by
      rintro graceful rfl
      exact open_ graceful List.mem_cons_self
    exact ih (act_connected connected here) fun graceful later =>
      open_ graceful (List.mem_cons_of_mem a later)

theorem run_inbox (cancelled : t.cancelled = true) (acts : List Act) :
    (t.run acts).inbox <:+ t.inbox := by
  induction acts generalizing t with
  | nil => exact List.suffix_refl _
  | cons a acts ih =>
    obtain ⟨cancelled', suffix⟩ := act_inbox cancelled a
    exact (ih cancelled').trans suffix

end Run

/-! ### Closing -/

/-- A transport is closed, and takes nothing. -/
structure Shut (t : Memory) : Prop where
  status : t.status = .closed
  /-- Nothing that is sent reaches the peer. -/
  send (m : Message) : t.send m = (.error .transportClosed, t)
  health : t.health = .error (.transport .unhealthy)

theorem shut_of_closed {t : Memory} (closed : t.status = .closed) : t.Shut where
  status := closed
  send m := by simp [Memory.send, closed]
  health := by simp [Memory.health, closed]

/-- What a close does to a transport, whatever came before it and comes after it. -/
structure EndsDelivery (before : List Act) (graceful : Bool) (after : List Act) : Prop where
  once : new.connects (before ++ .close graceful :: after) ≤ 1
  /-- If somebody has connected before the close, it is for good. -/
  forGood : .connect ∈ before → (new.run (before ++ .close graceful :: after)).Shut ∧
    (new.run (before ++ .close graceful :: after)).connect =
      (.error (.invalidState .connectedBefore), new.run (before ++ .close graceful :: after))
  /-- Otherwise it lasts until somebody connects. -/
  unconnected : .connect ∉ after → (new.run (before ++ .close graceful :: after)).Shut
  /-- A first connect after the close succeeds, and opens the transport until it is closed again. -/
  reopens {first rest : List Act} : .connect ∉ before → after = first ++ .connect :: rest →
    .connect ∉ first → (new.run (before ++ .close graceful :: first)).connect.1 = .ok () ∧
      ((∀ graceful, .close graceful ∉ rest) →
        (new.run (before ++ .close graceful :: after)).status = .connected)
  /-- What can still be received was handed on before the close. -/
  undelivered :
    (new.run (before ++ .close graceful :: after)).inbox <:+ (new.run before).inbox

/-- A close after the first connect is for good, and no close is followed by a delivery. -/
theorem close_ends_delivery (before : List Act) (graceful : Bool) (after : List Act) :
    EndsDelivery before graceful after where
  once := connects_le_one new _
  forGood connected := by
    have claimed : (new.run before).unclaimed = false :=
      (run_unclaimed new before).mpr (.inr connected)
    have claimed' : (new.run (before ++ .close graceful :: after)).unclaimed = false :=
      (run_unclaimed new _).mpr (.inr (List.mem_append_left _ connected))
    refine ⟨shut_of_closed ?_, connect_of_claimed claimed'⟩
    rw [run_append, run_cons]
    exact run_closed (t := (new.run before).close) rfl (.inl claimed)
  unconnected absent := by
    refine shut_of_closed ?_
    rw [run_append, run_cons]
    exact run_closed (t := (new.run before).close) rfl (.inr absent)
  reopens := by
    rintro first rest absent rfl absent'
    have unclaimed : (new.run (before ++ .close graceful :: first)).unclaimed = true := by
      rw [← Bool.not_eq_false, run_unclaimed]
      simp [new, absent, absent']
    obtain ⟨succeeds, connected⟩ := connect_of_unclaimed unclaimed
    refine ⟨succeeds, fun open_ => ?_⟩
    -- The run is split at that connect, so that what comes behind it starts connected.
    have split : before ++ .close graceful :: (first ++ .connect :: rest) =
        (before ++ .close graceful :: first) ++ .connect :: rest := by simp
    rw [split, run_append, run_cons]
    exact run_connected connected open_
  undelivered := by
    rw [run_append, run_cons]
    exact run_inbox (t := (new.run before).close) rfl after

/-- That a closed transport refuses every later connect is too much to say. The first connect opens
it, and what is sent then reaches the peer. -/
theorem connect_may_follow_close :
    (new.run [.close false]).status = .closed ∧
      (new.run [.close false]).connect.1 = .ok () ∧
      (new.run [.close false, .connect]).status = .connected ∧
      ((new.run [.close false, .connect]).send (.notification (.new "ping" none))).1 = .ok () ∧
      (new.run [.close false, .connect, .send (.notification (.new "ping" none))]).sent =
        [.notification (.new "ping" none)] ∧
      (new.run [.close false, .connect]).health = .ok () :=
  ⟨rfl, rfl, rfl, rfl, rfl, rfl⟩

end Mcp.Transport.Memory
