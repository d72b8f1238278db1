import Mathlib.Data.List.Induction
import Mcp.Proofs.Transport.RemoteSteps

/-!
How sends fare on a transport with an event stream. What the stream has told stays told, and a
stream that is over tells nothing any more, so a send that waits finds the endpoint, else the end of
the stream, else the deadline, and nothing else takes it further (`fares_of_waiting`). Where time
only passes when nobody has anything to do, the deadline is met to the millisecond (`Timely`).
-/

namespace Mcp.Transport.Remote

/-! ### Clocks -/

/-- Whether somebody waits for the endpoint until a time. -/
def Awaits (t : Remote) (deadline : Nat) : Prop :=
  t.connecting = .waiting deadline ∨
    ∃ (i : Nat) (m : Message), t.sends[i]? = some ⟨m, .waiting deadline⟩

/-- Whether a step is one that the transport takes by itself. -/
def Action.own : Action → Bool
  | .settle => true
  | .look _ => true
  | .leave _ => true
  | .stream .cancelled => true
  | _ => false

/-- Nothing is left to do by itself. -/
def Idle (t : Remote) : Prop := ∀ a : Action, a.own = true → t.step? a = none

/-- Time passes when nothing is left to do, and not past a time that somebody waits for. -/
def Punctual (t : Remote) : Action → Prop
  | .pass milliseconds => t.Idle ∧ ∀ deadline, t.Awaits deadline → t.now + milliseconds ≤ deadline
  | _ => True

/-- Every step is taken in time. -/
def Timely (t : Remote) : List Action → Prop
  | [] => True
  | a :: rest => t.Punctual a ∧ (t.tryStep a).Timely rest

theorem timely_append {t : Remote} {before after : List Action} :
    t.Timely (before ++ after) ↔ t.Timely before ∧ (t.run before).Timely after := by
  induction before generalizing t with
  | nil => simp [Timely]
  | cons a rest ih => simp only [List.cons_append, Timely, run_cons, ih, and_assoc]

section Clock

variable {t t' : Remote} {a : Action} {deadline : Nat}

theorem now_moves (moved : Moves t a t') :
    t'.now = t.now ∨ ∃ milliseconds, a = .pass milliseconds ∧ t'.now = t.now + milliseconds := by
  cases moved with
  | pass => exact .inr ⟨_, rfl, rfl⟩
  | _ => exact .inl rfl

/-- Nobody waits longer than until the time that is set. -/
theorem now_le_of_punctual (waits : t.Awaits deadline) (soon : t.now ≤ deadline)
    (punctual : t.Punctual a) (moved : Moves t a t') : t'.now ≤ deadline := by
  obtain still | ⟨milliseconds, rfl, later⟩ := now_moves moved
  · exact Nat.le_trans (Nat.le_of_eq still) soon
  · exact Nat.le_trans (Nat.le_of_eq later) (punctual.2 deadline waits)

theorem moves_fixed (moved : Moves t a t') :
    t'.url = t.url ∧ t'.endpointTimeout = t.endpointTimeout := by
  cases moved <;> exact ⟨rfl, rfl⟩

theorem run_fixed (t : Remote) (actions : List Action) :
    (t.run actions).url = t.url ∧ (t.run actions).endpointTimeout = t.endpointTimeout :=
  run_keeps (P := fun t' => t'.url = t.url ∧ t'.endpointTimeout = t.endpointTimeout)
    (fun same moved => ⟨(moves_fixed moved).1.trans same.1, (moves_fixed moved).2.trans same.2⟩)
    ⟨rfl, rfl⟩ actions

end Clock

/-! ### The endpoint -/

section Endpoint

variable {t t' : Remote} {a : Action} {deadline : Nat} {place : Url}

theorem found_of_told (told : t.endpoint = some place) : t.found? deadline = some (.ok place) := by
  unfold found?
  rw [told]

/-- There is something to find once one of three things has come. -/
theorem isSome_found (come : t.endpoint.isSome = true ∨ t.streamOver = true ∨ deadline ≤ t.now) :
    (t.found? deadline).isSome = true := by
  unfold found?
  split
  · rfl
  · rename_i untold
    rw [untold] at come
    split
    · rfl
    · rename_i open_
      rw [if_pos (come.resolve_left nofun |>.resolve_left open_)]
      rfl

theorem error_of_found {e : Error} (found : t.found? deadline = some (.error e)) :
    t.endpoint = none ∧
      (t.streamOver = true ∧ e = .transport .noEndpoint ∨
        t.streamOver = false ∧ deadline ≤ t.now ∧
          e = .protocol (.endpointLate t.url.write t.endpointTimeout)) := by
  unfold found? at found
  split at found
  · cases found
  · rename_i untold
    refine ⟨untold, ?_⟩
    split at found
    · rename_i ended
      cases found
      exact .inl ⟨ended, rfl⟩
    · rename_i open_
      split at found
      · rename_i late
        cases found
        exact .inr ⟨Bool.eq_false_iff.mpr open_, late, rfl⟩
      · cases found

/-- An endpoint that was told is told for good. -/
theorem endpoint_moves (sound : t.Sound) (told : t.endpoint = some place) (moved : Moves t a t') :
    t'.endpoint = some place := by
  cases moved with
  | accept asking =>
    have unread := sound.unread (by rw [asking]; rfl)
    rw [endpoint, unread] at told
    cases told
  | stream read _ =>
    rw [endpoint, read] at told
    exact EventStream.Reader.endpoint_step told _
  | shut _ _ =>
    obtain ⟨r, read, told⟩ := Option.bind_eq_some_iff.mp told
    obtain kept | ⟨unbegun, -⟩ := abortedReader_cases t
    · exact Option.bind_eq_some_iff.mpr ⟨r, kept.trans read, told⟩
    · exact nomatch (sound.unbegun unbegun r read).1.symm.trans told
  | _ => exact told

/-- A stream that is over tells nothing any more. -/
theorem over_moves (sound : t.Sound) (ended : t.streamOver = true) (untold : t.endpoint = none)
    (moved : Moves t a t') : t'.streamOver = true ∧ t'.endpoint = none := by
  cases moved with
  | accept asking =>
    have unread := sound.unread (by rw [asking]; rfl)
    rw [streamOver, unread] at ended
    cases ended
  | @stream r h read _ =>
    have stopped : r.reading = false := by simpa [streamOver, read] using ended
    have same := EventStream.Reader.endpoint_step_of_stopped stopped h
    rw [endpoint, read] at untold
    exact ⟨by simp [streamOver, same.2], same.1.trans untold⟩
  | shut _ _ =>
    obtain kept | ⟨unbegun, -⟩ := abortedReader_cases t
    · exact ⟨by rw [streamOver, kept]; exact ended, by rw [endpoint, kept]; exact untold⟩
    · obtain ⟨r, read, stopped⟩ : ∃ r, t.reader = some r ∧ r.reading = false := by
        simpa [streamOver, Option.any_eq_true] using ended
      exact nomatch (sound.unbegun unbegun r read).2.symm.trans stopped
  | _ => exact ⟨ended, untold⟩

theorem endpoint_run (sound : t.Sound) (told : t.endpoint = some place) (actions : List Action) :
    (t.run actions).endpoint = some place :=
  (run_keeps (P := fun t => t.Sound ∧ t.endpoint = some place)
    (fun ⟨sound, told⟩ moved => ⟨sound.moves moved, endpoint_moves sound told moved⟩)
    ⟨sound, told⟩ actions).2

theorem over_run (sound : t.Sound) (ended : t.streamOver = true) (untold : t.endpoint = none)
    (actions : List Action) :
    (t.run actions).streamOver = true ∧ (t.run actions).endpoint = none :=
  (run_keeps (P := fun t => t.Sound ∧ t.streamOver = true ∧ t.endpoint = none)
    (fun ⟨sound, ended, untold⟩ moved => ⟨sound.moves moved, over_moves sound ended untold moved⟩)
    ⟨sound, ended, untold⟩ actions).2

end Endpoint

/-! ### Sends -/

/-- What was posted for a send. -/
def postsOf (t : Remote) (i : Nat) : List Post := t.posts.filter fun post => post.send = i

/-- What a step does to a send. -/
inductive Goes (t : Remote) (i : Nat) (s : Send) : Action → Remote → Prop
  | stays {a : Action} {t' : Remote} : t'.sends[i]? = some s → t'.postsOf i = t.postsOf i →
      Goes t i s a t'
  | finds {deadline : Nat} {found : Except Error Url} : s.stage = .waiting deadline →
      t.found? deadline = some found → Goes t i s (.look i) (t.sendOn i s.message found)
  | ends {place : Url} {reply : Reply} {t' : Remote} : s.stage = .posting place →
      t'.sends[i]? = some ⟨s.message, .ended (reply.outcome place)⟩ →
      t'.postsOf i = t.postsOf i → Goes t i s (.posted i reply) t'

/-- A send has posted its message to a place, once and nothing else. -/
structure Posted (t : Remote) (i : Nat) (m : Message) (place : Url) : Prop where
  stage : t.sends[i]? = some ⟨m, .posting place⟩ ∨
    ∃ reply : Reply, t.sends[i]? = some ⟨m, .ended (reply.outcome place)⟩
  posts : t.postsOf i = [⟨i, place, m.toJson.compact⟩]

/-- A send has failed and posted nothing. -/
structure Failed (t : Remote) (i : Nat) (m : Message) (e : Error) : Prop where
  stage : t.sends[i]? = some ⟨m, .ended (.error e)⟩
  unposted : t.postsOf i = []

/-- A send waits after some steps, and has posted nothing. -/
structure Waited (t : Remote) (i : Nat) (m : Message) (deadline : Nat) (actions : List Action) :
    Prop where
  stage : (t.run actions).sends[i]? = some ⟨m, .waiting deadline⟩
  unposted : (t.run actions).postsOf i = []
  inTime : t.Timely actions → (t.run actions).now ≤ deadline

/-- How a send that waits in `t` has fared after some steps. -/
inductive Fares (t : Remote) (i : Nat) (m : Message) (deadline : Nat) (actions : List Action) : Prop
  | waits : t.Waited i m deadline actions → Fares t i m deadline actions
  /-- The stream had told the endpoint. -/
  | posts {before later : List Action} {place : Url} : actions = before ++ .look i :: later →
      t.Waited i m deadline before → (t.run before).endpoint = some place →
      (t.run actions).Posted i m place → Fares t i m deadline actions
  /-- The stream ended first. -/
  | unheard {before later : List Action} : actions = before ++ .look i :: later →
      t.Waited i m deadline before → (t.run before).endpoint = none →
      (t.run before).streamOver = true →
      (t.run actions).Failed i m (.transport .noEndpoint) → Fares t i m deadline actions
  /-- The deadline came first. -/
  | late {before later : List Action} : actions = before ++ .look i :: later →
      t.Waited i m deadline before → (t.run before).endpoint = none →
      (t.run before).streamOver = false → deadline ≤ (t.run before).now →
      (t.Timely before → (t.run before).now = deadline) →
      (t.run actions).Failed i m (.protocol (.endpointLate t.url.write t.endpointTimeout)) →
      Fares t i m deadline actions

section Sends

variable {t t' : Remote} {a : Action} {i : Nat} {m : Message} {s : Send} {deadline : Nat}

theorem postsOf_append (t : Remote) (i : Nat) (post : Post) :
    ({ t with posts := t.posts ++ [post] } : Remote).postsOf i =
      t.postsOf i ++ if post.send = i then [post] else [] := by
  simp [postsOf, List.filter_append, List.filter_cons]

theorem goes_of_moves (there : t.sends[i]? = some s) (moved : Moves t a t') : Goes t i s a t' := by
  have within := (List.getElem?_eq_some_iff.mp there).1
  have behind {other : Send} : (t.sends ++ [other])[i]? = some s :=
    (List.getElem?_append_left within).trans there
  have beside {j : Nat} {other : Send} (apart : j ≠ i) : (t.sends.set j other)[i]? = some s :=
    (List.getElem?_set_ne apart).trans there
  cases moved with
  | turnAway _ => exact .stays behind rfl
  | send _ => exact .stays behind rfl
  | @post j _ m place found told =>
    by_cases same : j = i
    · subst same
      obtain rfl : s = ⟨m, .waiting _⟩ := Option.some.inj (there.symm.trans found)
      exact .finds rfl (found_of_told told)
    · refine .stays (beside same) ((postsOf_append _ _ _).trans ?_)
      rw [if_neg same, List.append_nil]
  | @fail j _ m e there' finds =>
    by_cases same : j = i
    · subst same
      obtain rfl : s = ⟨m, .waiting _⟩ := Option.some.inj (there.symm.trans there')
      exact .finds rfl finds
    · exact .stays (beside same) rfl
  | @posted j m place reply there' =>
    by_cases same : j = i
    · subst same
      obtain rfl : s = ⟨m, .posting place⟩ := Option.some.inj (there.symm.trans there')
      exact .ends rfl (List.getElem?_set_self within) rfl
    · exact .stays (beside same) rfl
  | _ => exact .stays there rfl

/-- Once a send has ended nothing becomes of it. -/
theorem ended_moves {result : Except Error Unit} (ended : t.sends[i]? = some ⟨m, .ended result⟩)
    (moved : Moves t a t') :
    t'.sends[i]? = some ⟨m, .ended result⟩ ∧ t'.postsOf i = t.postsOf i := by
  cases goes_of_moves ended moved with
  | stays there same => exact ⟨there, same⟩
  | finds waiting _ => cases waiting
  | ends posting _ _ => cases posting

theorem Failed.moves {e : Error} (failed : t.Failed i m e) (moved : Moves t a t') :
    t'.Failed i m e :=
  have kept := ended_moves failed.stage moved
  ⟨kept.1, kept.2.trans failed.unposted⟩

theorem Posted.moves {place : Url} (posted : t.Posted i m place) (moved : Moves t a t') :
    t'.Posted i m place := by
  obtain ⟨posting | ⟨reply, ended⟩, posts⟩ := posted
  · cases goes_of_moves posting moved with
    | stays there same => exact ⟨.inl there, same.trans posts⟩
    | finds waiting _ => cases waiting
    | ends stage there same =>
      cases stage
      exact ⟨.inr ⟨_, there⟩, same.trans posts⟩
  · have kept := ended_moves ended moved
    exact ⟨.inr ⟨reply, kept.1⟩, kept.2.trans posts⟩

theorem posted_sendOn (there : t.sends[i]? = some ⟨m, .waiting deadline⟩)
    (unposted : t.postsOf i = []) (place : Url) : (t.sendOn i m (.ok place)).Posted i m place where
  stage := .inl (List.getElem?_set_self (List.getElem?_eq_some_iff.mp there).1)
  posts := by
    refine (postsOf_append _ _ _).trans ?_
    rw [if_pos rfl]
    exact congrArg (· ++ _) unposted

theorem failed_sendOn (there : t.sends[i]? = some ⟨m, .waiting deadline⟩)
    (unposted : t.postsOf i = []) (e : Error) : (t.sendOn i m (.error e)).Failed i m e where
  stage := List.getElem?_set_self (List.getElem?_eq_some_iff.mp there).1
  unposted := unposted

/-- A send that waits stays as it is but for its own look. -/
theorem Waited.step {actions : List Action} (waited : t.Waited i m deadline actions) (a : Action) :
    t.Fares i m deadline (actions ++ [a]) := by
  obtain ⟨stage, unposted, inTime⟩ := waited
  have next : t.run (actions ++ [a]) = (t.run actions).tryStep a := run_append ..
  obtain still | moved := tryStep_moves (t.run actions) a
  · -- The step could not be taken.
    rw [still] at next
    exact .waits ⟨next ▸ stage, next ▸ unposted,
      fun timely => next ▸ inTime (timely_append.mp timely).1⟩
  · generalize (t.run actions).tryStep a = t' at next moved
    cases goes_of_moves stage moved with
    | stays there same =>
      refine .waits ⟨next ▸ there, next ▸ same.trans unposted, fun timely => next ▸ ?_⟩
      obtain ⟨before, punctual, -⟩ := timely_append.mp timely
      exact now_le_of_punctual (.inr ⟨i, m, stage⟩) (inTime before) punctual moved
    | @finds _ found waiting finds =>
      cases waiting
      cases found with
      | ok place =>
        exact .posts rfl ⟨stage, unposted, inTime⟩ (endpoint_of_found finds)
          (next ▸ posted_sendOn stage unposted place)
      | error e =>
        have failed := next ▸ failed_sendOn stage unposted e
        obtain ⟨untold, ⟨ended, rfl⟩ | ⟨open_, late, rfl⟩⟩ := error_of_found finds
        · exact .unheard rfl ⟨stage, unposted, inTime⟩ untold ended failed
        · rw [(run_fixed t actions).1, (run_fixed t actions).2] at failed
          exact .late rfl ⟨stage, unposted, inTime⟩ untold open_ late
            (fun timely => Nat.le_antisymm (inTime timely) late) failed
    | ends posting _ _ => cases posting

theorem Fares.step {actions : List Action} (fares : t.Fares i m deadline actions) (a : Action) :
    t.Fares i m deadline (actions ++ [a]) := by
  have further {before later : List Action} (split : actions = before ++ .look i :: later) :
      actions ++ [a] = before ++ .look i :: (later ++ [a]) := by
    rw [split, List.append_assoc, List.cons_append]
  have next : t.run (actions ++ [a]) = (t.run actions).run [a] := run_append ..
  cases fares with
  | waits waited => exact waited.step a
  | posts split waited told posted =>
    exact .posts (further split) waited told (next ▸ run_keeps Posted.moves posted [a])
  | unheard split waited untold ended failed =>
    exact .unheard (further split) waited untold ended (next ▸ run_keeps Failed.moves failed [a])
  | late split waited untold open_ late exactly failed =>
    exact .late (further split) waited untold open_ late exactly
      (next ▸ run_keeps Failed.moves failed [a])

theorem fares_of_waiting (there : t.sends[i]? = some ⟨m, .waiting deadline⟩)
    (unposted : t.postsOf i = []) (soon : t.now ≤ deadline) (actions : List Action) :
    t.Fares i m deadline actions := by
  -- On the last step, since what is said of the steps before it is said from `t` on.
  induction actions using List.reverseRecOn with
  | nil => exact .waits ⟨there, unposted, fun _ => soon⟩
  | append_singleton before a ih => exact ih.step a

end Sends

end Mcp.Transport.Remote
