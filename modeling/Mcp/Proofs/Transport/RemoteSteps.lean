import Mcp.Proofs.EventStream.Routing
import Mcp.Transport.Remote

/-!
What the steps of a transport with an event stream do. `Moves` lists everything that a step can do,
with what it rests on. In every run nobody reads before the server has answered, and a connect that
is overtaken by a close finds the reader told to stop (`Sound`).
-/

namespace Mcp.EventStream.Reader

/-- The first endpoint is kept. -/
theorem endpoint_step {r : Reader} {place : Url} (told : r.endpoint = some place) (h : Happening) :
    (r.step h).1.endpoint = some place := by
  cases reading : r.reading with
  | false => rw [step_of_stopped reading, told]
  | true =>
    rw [step_of_reading reading]
    obtain ⟨base, decoder, endpoint, taken, reads⟩ := r
    obtain rfl : reads = true := reading
    obtain rfl : endpoint = some place := told
    cases taken with
    | true => simp [actAll_of_taken]
    | false => simp [actAll_of_untaken]

theorem endpoint_step_of_stopped {r : Reader} (stopped : r.reading = false) (h : Happening) :
    (r.step h).1.endpoint = r.endpoint ∧ (r.step h).1.reading = false := by
  rw [step_of_stopped stopped]
  exact ⟨rfl, stopped⟩

theorem endpoint_step_cancelled (r : Reader) : (r.step .cancelled).1.endpoint = r.endpoint ∧
    (r.step .cancelled).1.reading = false := by
  cases reading : r.reading with
  | false => exact endpoint_step_of_stopped reading _
  | true =>
    rw [step_of_reading reading]
    exact ⟨rfl, Bool.and_false _⟩

theorem endpoint_step_abandoned (r : Reader) :
    (r.step .abandoned).1.endpoint = r.endpoint := by
  cases reading : r.reading with
  | false => exact (endpoint_step_of_stopped reading _).1
  | true =>
    rw [step_of_reading reading]
    rfl

end Mcp.EventStream.Reader

namespace Mcp.Transport.Remote

/-- The state after some steps. One that cannot be taken changes nothing. -/
def run (t : Remote) (actions : List Action) : Remote := actions.foldl tryStep t

@[simp] theorem run_nil (t : Remote) : t.run [] = t := rfl

@[simp] theorem run_cons (t : Remote) (a : Action) (actions : List Action) :
    t.run (a :: actions) = (t.tryStep a).run actions := rfl

theorem run_append (t : Remote) (before after : List Action) :
    t.run (before ++ after) = (t.run before).run after := List.foldl_append ..

/-- Whether the transport closes or has closed. -/
def Shutting (t : Remote) : Prop := t.status = .closing ∨ t.status = .closed

instance (t : Remote) : Decidable t.Shutting := inferInstanceAs (Decidable (_ ∨ _))

theorem shutting_iff {t : Remote} : t.Shutting ↔ Status.closing.rank ≤ t.status.rank := by
  unfold Shutting
  cases t.status <;> decide

/-- A close that finds nothing to do. -/
def closedBefore (t : Remote) (graceful : Bool) : Prop :=
  t.status = .closed ∨ graceful = true ∧ t.status = .closing

/-- The state after a close that has nothing to do or nothing to wait for. -/
def returns (t : Remote) (graceful : Bool) : Remote :=
  { t with closes := t.closes ++ [⟨graceful, .ended⟩] }

/-! ### What a step can do -/

inductive Moves (t : Remote) : Action → Remote → Prop
  | connect : t.status = .disconnected →
      Moves t .connect { t with status := .connecting, connecting := .asking }
  | refuse : t.status ≠ .disconnected → Moves t .connect t
  | accept : t.connecting = .asking → Moves t (.answer .accepted)
      { t with
        reader := some (.start t.url)
        held := true
        connecting := .waiting (t.now + t.endpointTimeout) }
  | unanswered {reply : Reply} {e : Error} : t.connecting = .asking →
      Moves t (.answer reply) (t.failConnect e)
  | complete {deadline : Nat} {place : Url} : t.connecting = .waiting deadline →
      t.endpoint = some place →
      Moves t .settle { t with status := .connected, connecting := .ended (.ok ()) }
  | giveUp {deadline : Nat} {e : Error} : t.connecting = .waiting deadline →
      t.found? deadline = some (.error e) →
      Moves t .settle ({ t with cancelled := true }.failConnect e)
  | stream {r : EventStream.Reader} {h : EventStream.Happening} : t.reader = some r →
      t.mayHappen r h = true →
      Moves t (.stream h)
        { t with
          reader := some (r.step h).1
          begun := true
          inbound := t.inbound ++ (r.step h).2 }
  | turnAway {m : Message} : t.Shutting →
      Moves t (.send m) { t with sends := t.sends ++ [⟨m, .ended (.error .transportClosed)⟩] }
  | send {m : Message} : ¬ t.Shutting →
      Moves t (.send m)
        { t with sends := t.sends ++ [⟨m, .waiting (t.now + t.endpointTimeout)⟩] }
  | post {i deadline : Nat} {m : Message} {place : Url} :
      t.sends[i]? = some ⟨m, .waiting deadline⟩ → t.endpoint = some place →
      Moves t (.look i) (t.sendOn i m (.ok place))
  | fail {i deadline : Nat} {m : Message} {e : Error} :
      t.sends[i]? = some ⟨m, .waiting deadline⟩ → t.found? deadline = some (.error e) →
      Moves t (.look i) (t.sendOn i m (.error e))
  | posted {i : Nat} {m : Message} {place : Url} {reply : Reply} :
      t.sends[i]? = some ⟨m, .posting place⟩ →
      Moves t (.posted i reply)
        { t with sends := t.sends.set i ⟨m, .ended (reply.outcome place)⟩ }
  | return {graceful : Bool} : t.closedBefore graceful →
      Moves t (.close graceful) (t.returns graceful)
  /-- There is nothing to wait for. -/
  | shut {graceful : Bool} : ¬ t.closedBefore graceful → (graceful = true → t.held = false) →
      Moves t (.close graceful)
        { t.returns graceful with
          status := .closed
          reader := t.abortedReader
          held := false
          cancelled := true }
  | join : ¬ t.Shutting → t.held = true → Moves t (.close true)
      { t with
        closes := t.closes ++ [⟨true, .joining⟩]
        status := .closing
        cancelled := true
        held := false }
  | leave {i : Nat} {graceful : Bool} : t.closes[i]? = some ⟨graceful, .joining⟩ →
      t.reading = false → Moves t (.leave i)
        { t with status := .closed, closes := t.closes.set i ⟨graceful, .ended⟩ }
  | pass {milliseconds : Nat} :
      Moves t (.pass milliseconds) { t with now := t.now + milliseconds }

section Steps

variable {t t' : Remote}

/-- Where the endpoint is found, the stream has told it. -/
theorem endpoint_of_found {deadline : Nat} {place : Url}
    (found : t.found? deadline = some (.ok place)) : t.endpoint = some place := by
  unfold found? at found
  split at found
  · rename_i told
    cases found
    exact told
  · split at found
    · cases found
    · split at found <;> cases found

theorem beginSend_moves (m : Message) : Moves t (.send m) (t.beginSend m) := by
  unfold beginSend
  split
  · rename_i closing
    exact .turnAway (.inl closing)
  · rename_i closed
    exact .turnAway (.inr closed)
  · rename_i closing closed
    exact .send fun shutting => shutting.elim closing closed

theorem shut_moves : Moves t (.close false) t.shut := by
  unfold shut
  by_cases closed : t.status = .closed
  · rw [if_pos closed]
    exact .return (.inl closed)
  · rw [if_neg closed]
    exact .shut (fun before => before.elim closed nofun) nofun

theorem beginClose_moves : Moves t (.close true) t.beginClose := by
  unfold beginClose
  split
  · rename_i closing
    exact .return (.inr ⟨rfl, closing⟩)
  · rename_i closed
    exact .return (.inl closed)
  · rename_i closing closed
    by_cases held : t.held = true
    · rw [if_pos held]
      exact .join (fun shutting => shutting.elim closing closed) held
    · have free : t.held = false := Bool.eq_false_iff.mpr held
      have reader : t.abortedReader = t.reader := by rw [abortedReader, free]; rfl
      have same : { t.returns true with
          status := .closed, reader := t.abortedReader, held := false, cancelled := true } =
          { t.returns true with status := .closed, cancelled := true } := by
        rw [reader, ← free]
        rfl
      rw [if_neg held]
      exact same ▸ Moves.shut (fun before => before.elim closed fun both => closing both.2)
        fun _ => free

theorem step_moves {a : Action} (h : t.step? a = some t') : Moves t a t' := by
  cases a with
  | connect =>
    obtain rfl : t.beginConnect = t' := Option.some.inj h
    unfold beginConnect connectFault?
    by_cases fresh : t.status = .disconnected
    · rw [if_pos fresh]
      exact .connect fresh
    · rw [if_neg fresh]
      exact .refuse fresh
  | answer reply =>
    simp only [step?] at h
    split at h
    · rename_i asking
      obtain rfl : t.answered reply = t' := Option.some.inj h
      cases reply with
      | accepted => exact .accept asking
      | refused _ => exact .unanswered asking
      | failed _ => exact .unanswered asking
    · cases h
  | stream happening =>
    simp only [step?, stream?] at h
    split at h
    · cases h
    · rename_i r read
      split at h
      · rename_i may
        cases h
        exact .stream read may
      · cases h
  | settle =>
    simp only [step?] at h
    split at h
    · rename_i waiting
      obtain ⟨found, finds, rfl⟩ := Option.map_eq_some_iff.mp h
      cases found with
      | ok place => exact .complete waiting (endpoint_of_found finds)
      | error e => exact .giveUp waiting finds
    · cases h
  | send m =>
    obtain rfl : t.beginSend m = t' := Option.some.inj h
    exact beginSend_moves m
  | look i =>
    simp only [step?, look?] at h
    split at h
    · rename_i there
      obtain ⟨found, finds, rfl⟩ := Option.map_eq_some_iff.mp h
      cases found with
      | ok place => exact .post there (endpoint_of_found finds)
      | error e => exact .fail there finds
    · cases h
  | posted i reply =>
    simp only [step?, posted?] at h
    split at h
    · rename_i there
      cases h
      exact .posted there
    · cases h
  | close graceful =>
    cases graceful with
    | false =>
      obtain rfl : t.shut = t' := Option.some.inj h
      exact shut_moves
    | true =>
      obtain rfl : t.beginClose = t' := Option.some.inj h
      exact beginClose_moves
  | leave i =>
    simp only [step?, leave?] at h
    split at h
    · rename_i there
      split at h
      · cases h
      · rename_i stopped
        cases h
        exact .leave there (Bool.eq_false_iff.mpr stopped)
    · cases h
  | pass milliseconds =>
    cases h
    exact .pass

/-- Taking a step does what the step can do, or nothing. -/
theorem tryStep_moves (t : Remote) (a : Action) : t.tryStep a = t ∨ Moves t a (t.tryStep a) := by
  unfold tryStep
  cases h : t.step? a with
  | none => exact .inl rfl
  | some t' => exact .inr (step_moves h)

/-- What every step keeps, a run keeps. -/
theorem run_keeps {P : Remote → Prop} (step : ∀ {t a t'}, P t → Moves t a t' → P t')
    (holds : P t) (actions : List Action) : P (t.run actions) := by
  induction actions generalizing t with
  | nil => exact holds
  | cons a rest ih =>
    rw [run_cons]
    obtain still | moved := tryStep_moves t a
    · rw [still]
      exact ih holds
    · exact ih (step holds moved)

end Steps

/-! ### What holds in every run -/

/-- Whether somebody is in the course of connecting. -/
def Connect.underway : Connect → Bool
  | .asking => true
  | .waiting _ => true
  | .idle => false
  | .ended _ => false

/-- Whether the server has yet to answer. -/
def Connect.unanswered : Connect → Bool
  | .idle => true
  | .asking => true
  | .waiting _ => false
  | .ended _ => false

structure Sound (t : Remote) : Prop where
  fresh : t.status = .disconnected → t.connecting = .idle
  unread : t.connecting.unanswered = true → t.reader = none
  /-- A reader that has not begun has told nothing. -/
  unbegun : t.begun = false → ∀ r ∈ t.reader, r.endpoint = none ∧ r.reading = true
  /-- A connect that is overtaken by a close finds the reader told to stop. -/
  told : t.Shutting → t.connecting.underway = true → t.cancelled = true
  joining : ∀ c ∈ t.closes, c.stage = .joining → t.cancelled = true
  /-- While the transport closes, a close waits for the reader. -/
  joined : t.status = .closing → ∃ i : Nat, t.closes[i]? = some ⟨true, .joining⟩
  posts : ∀ post ∈ t.posts, post.send < t.sends.length

theorem sound_new (url : Url) (endpointTimeout : Nat) : (new url endpointTimeout).Sound where
  fresh _ := rfl
  unread _ := rfl
  unbegun _ _ among := nomatch among
  told _ underway := nomatch underway
  joining _ among := nomatch among
  joined closing := nomatch closing
  posts _ among := nomatch among

/-- What a close leaves of the reader. -/
theorem abortedReader_cases (t : Remote) :
    t.abortedReader = t.reader ∨ t.begun = false ∧ t.abortedReader = none := by
  unfold abortedReader
  split
  · rename_i drops
    simp only [Bool.and_eq_true, Bool.not_eq_true'] at drops
    exact .inr ⟨drops.2, rfl⟩
  · exact .inl rfl

theorem Sound.moves {t t' : Remote} {a : Action} (sound : t.Sound) (moved : Moves t a t') :
    t'.Sound := by
  have grown {sends : List Send} (more : t.sends.length ≤ sends.length) :
      ∀ post ∈ t.posts, post.send < sends.length := fun post among =>
    Nat.lt_of_lt_of_le (sound.posts post among) more
  cases moved with
  | connect fresh =>
    exact { sound with
      fresh := nofun
      unread := fun _ => sound.unread (by rw [sound.fresh fresh]; rfl)
      told := fun shutting => by simp [Shutting] at shutting
      joined := nofun }
  | refuse _ => exact sound
  | accept asking =>
    exact { sound with
      fresh := fun fresh => nomatch (sound.fresh fresh).symm.trans asking
      unread := nofun
      unbegun := fun _ r among => by cases among; exact ⟨rfl, rfl⟩
      told := fun shutting _ => sound.told shutting (by rw [asking]; rfl) }
  | unanswered _ =>
    exact { sound with fresh := nofun, unread := nofun, told := fun _ => nofun, joined := nofun }
  | complete _ _ =>
    exact { sound with fresh := nofun, unread := nofun, told := fun _ => nofun, joined := nofun }
  | giveUp _ _ =>
    exact { sound with
      fresh := nofun
      unread := nofun
      told := fun _ => nofun
      joining := fun _ _ _ => rfl
      joined := nofun }
  | stream read _ =>
    exact { sound with
      unread := fun unanswered => nomatch (sound.unread unanswered).symm.trans read
      unbegun := nofun }
  | turnAway _ => exact { sound with posts := grown (by simp) }
  | send _ => exact { sound with posts := grown (by simp) }
  | post there _ =>
    have within := (List.getElem?_eq_some_iff.mp there).1
    refine { sound with posts := fun post among => ?_ }
    obtain among | rfl := (List.mem_append.mp among).imp_right List.mem_singleton.mp
    · exact grown (Nat.le_of_eq List.length_set.symm) post among
    · simpa [sendOn] using within
  | fail _ _ => exact { sound with posts := grown (Nat.le_of_eq List.length_set.symm) }
  | posted _ => exact { sound with posts := grown (Nat.le_of_eq List.length_set.symm) }
  | «return» _ =>
    refine { sound with joining := fun c among joins => ?_, joined := fun closing => ?_ }
    · obtain among | rfl := (List.mem_append.mp among).imp_right List.mem_singleton.mp
      · exact sound.joining c among joins
      · cases joins
    · obtain ⟨i, there⟩ := sound.joined closing
      exact ⟨i, (List.getElem?_append_left (List.getElem?_eq_some_iff.mp there).1).trans there⟩
  | shut _ _ =>
    exact { sound with
      fresh := nofun
      unread := fun unanswered => (abortedReader_cases t).elim
        (fun kept => kept.trans (sound.unread unanswered)) And.right
      unbegun := fun unbegun r among => by
        obtain kept | ⟨-, gone⟩ := abortedReader_cases t
        · exact sound.unbegun unbegun r (kept ▸ among)
        · cases gone ▸ among
      told := fun _ _ => rfl
      joining := fun _ _ _ => rfl
      joined := nofun }
  | join _ _ =>
    exact { sound with
      fresh := nofun
      told := fun _ _ => rfl
      joining := fun _ _ _ => rfl
      joined := fun _ => ⟨t.closes.length, by simp⟩ }
  | leave there _ =>
    -- Whoever waits for the reader has told it to stop.
    have cancelled := sound.joining _ (List.mem_of_getElem? there) rfl
    exact { sound with
      fresh := nofun
      told := fun _ _ => cancelled
      joining := fun _ _ _ => cancelled
      joined := nofun }
  | pass => exact { sound with }

theorem Sound.run {t : Remote} (sound : t.Sound) (actions : List Action) : (t.run actions).Sound :=
  run_keeps Sound.moves sound actions

end Mcp.Transport.Remote
