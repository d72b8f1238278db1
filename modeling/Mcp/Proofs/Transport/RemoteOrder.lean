import Mcp.Proofs.Transport.RemoteSends

/-!
What a transport with an event stream promises to those who send and close, in whatever order they,
the stream and the clock take their steps (`orderly_in_every_run`). A close may be undone, and then
sends are let through again (`close_may_be_undone`): a connect that had been told the endpoint when
the close came ends as if there had been none. Nothing else undoes a close, and no more than one
connect does (`Undone`, `lagging_ends`).
-/

namespace Mcp.Transport.Remote

/-- A connect has been told the endpoint and has yet to say so. -/
def Lagging (t : Remote) : Prop :=
  ∃ deadline place, t.connecting = .waiting deadline ∧ t.endpoint = some place

/-- Among some steps a connect that lags comes to its end while the transport closes or has closed,
and connects it. -/
structure Undone (t : Remote) (actions : List Action) : Prop where
  lagging : t.Lagging
  settled : ∃ before later, actions = before ++ .settle :: later ∧ (t.run before).Shutting ∧
    (t.run (before ++ [.settle])).status = .connected

/-! ### Closing -/

section Closing

variable {t t' : Remote} {a : Action}

theorem close_moves (t : Remote) (graceful : Bool) :
    Moves t (.close graceful) (t.tryStep (.close graceful)) := by
  cases graceful with
  | false => exact shut_moves
  | true => exact beginClose_moves

/-- A close that comes after another does nothing. -/
theorem close_again {graceful : Bool} (before : t.closedBefore graceful) :
    t.tryStep (.close graceful) = t.returns graceful := by
  have taken := close_moves t graceful
  generalize t.tryStep (.close graceful) = t' at taken
  cases taken with
  | «return» _ => rfl
  | shut open_ _ => exact absurd before open_
  | join open_ _ => exact absurd (before.elim .inr fun both => .inl both.2) open_

theorem closedBefore_of_close (t : Remote) (graceful : Bool) :
    (t.tryStep (.close graceful)).closedBefore graceful := by
  have taken := close_moves t graceful
  generalize t.tryStep (.close graceful) = t' at taken
  cases taken with
  | «return» before => exact before
  | shut _ _ => exact .inl rfl
  | join _ _ => exact .inr ⟨rfl, rfl⟩

theorem shutting_of_close (t : Remote) (graceful : Bool) :
    (t.tryStep (.close graceful)).Shutting :=
  (closedBefore_of_close t graceful).elim .inr fun both => .inl both.2

theorem rank_moves (shutting : t.Shutting) (steady : a = .settle → ¬ t.Lagging)
    (moved : Moves t a t') : t.status.rank ≤ t'.status.rank := by
  have last {s : Status} : s.rank ≤ Status.closed.rank := by cases s <;> decide
  cases moved with
  | connect fresh => exact absurd shutting (by rw [Shutting, fresh]; decide)
  | unanswered _ => exact last
  | complete waiting told => exact absurd ⟨_, _, waiting, told⟩ (steady rfl)
  | giveUp _ _ => exact last
  | shut _ _ => exact last
  | join open_ _ => exact absurd shutting open_
  | leave _ _ => exact last
  | _ => exact Nat.le_refl _

/-- After a close the stream tells no endpoint any more to a connect that is under way. -/
theorem not_lagging_moves (sound : t.Sound) (shutting : t.Shutting) (calm : ¬ t.Lagging)
    (moved : Moves t a t') : ¬ t'.Lagging := by
  rintro ⟨deadline, place, waiting, told⟩
  cases moved with
  | connect _ => cases waiting
  | accept _ => cases told
  | unanswered _ => cases waiting
  | complete _ _ => cases waiting
  | giveUp _ _ => cases waiting
  | @stream r h read may =>
    have cancelled := sound.told shutting (by rw [waiting]; rfl)
    have same : (r.step h).1.endpoint = r.endpoint := by
      cases h with
      | cancelled => exact (EventStream.Reader.endpoint_step_cancelled r).1
      | abandoned => exact EventStream.Reader.endpoint_step_abandoned r
      | bytes _ => simp [mayHappen, cancelled] at may
      | finished => simp [mayHappen, cancelled] at may
      | failed => simp [mayHappen, cancelled] at may
    refine calm ⟨deadline, place, waiting, ?_⟩
    rw [endpoint, read]
    exact same.symm.trans told
  | shut _ _ =>
    obtain kept | ⟨-, gone⟩ := abortedReader_cases t
    · exact calm ⟨deadline, place, waiting, by rw [endpoint, ← kept]; exact told⟩
    · obtain ⟨r, read, -⟩ := Option.bind_eq_some_iff.mp told
      cases gone.symm.trans read
  | _ => exact calm ⟨deadline, place, waiting, told⟩

theorem settle_of_lagging (lags : t.Lagging) :
    t.step? .settle = some { t with status := .connected, connecting := .ended (.ok ()) } := by
  obtain ⟨deadline, place, waiting, told⟩ := lags
  rw [step?, waiting]
  show (t.found? deadline).map t.settled = _
  rw [found_of_told told]
  rfl

theorem connected_of_lagging (lags : t.Lagging) : (t.tryStep .settle).status = .connected := by
  rw [tryStep, settle_of_lagging lags]
  rfl

theorem Undone.cons {rest : List Action} (undone : (t.tryStep a).Undone rest) (lags : t.Lagging) :
    t.Undone (a :: rest) := by
  obtain ⟨before, later, split, shutting, connected⟩ := undone.settled
  refine ⟨lags, a :: before, later, ?_, shutting, connected⟩
  rw [split, List.cons_append]

/-- A close stays, or a connect undoes it that lagged when the close had come. -/
theorem rank_run (sound : t.Sound) (shutting : t.Shutting) (actions : List Action) :
    t.status.rank ≤ (t.run actions).status.rank ∨ t.Undone actions := by
  induction actions generalizing t with
  | nil => exact .inl (Nat.le_refl _)
  | cons a rest ih =>
    rw [run_cons]
    by_cases undoes : a = .settle ∧ t.Lagging
    · obtain ⟨rfl, lags⟩ := undoes
      exact .inr ⟨lags, [], rest, rfl, shutting, connected_of_lagging lags⟩
    · obtain ⟨sound', up, back⟩ : (t.tryStep a).Sound ∧
          t.status.rank ≤ (t.tryStep a).status.rank ∧ ((t.tryStep a).Lagging → t.Lagging) := by
        obtain still | moved := tryStep_moves t a
        · rw [still]
          exact ⟨sound, Nat.le_refl _, id⟩
        · refine ⟨sound.moves moved, ?_, fun lags => Classical.byContradiction fun calm => ?_⟩
          · exact rank_moves shutting (fun settles lags => undoes ⟨settles, lags⟩) moved
          · -- Where no connect lags, none comes to lag: the reader has been told to stop.
            exact not_lagging_moves sound shutting calm moved lags
      have shutting' := shutting_iff.mpr (Nat.le_trans (shutting_iff.mp shutting) up)
      obtain further | undone := ih sound' shutting'
      · exact .inl (Nat.le_trans up further)
      · exact .inr (undone.cons (back undone.lagging))

theorem closed_of_rank {s : Status} (high : Status.closed.rank ≤ s.rank) : s = .closed := by
  revert high
  cases s <;> decide

theorem begun_moves (begun : t.status ≠ .disconnected) (moved : Moves t a t') :
    t'.status ≠ .disconnected := by
  cases moved with
  | connect _ => exact nofun
  | unanswered _ => exact nofun
  | complete _ _ => exact nofun
  | giveUp _ _ => exact nofun
  | shut _ _ => exact nofun
  | join _ _ => exact nofun
  | leave _ _ => exact nofun
  | _ => exact begun

theorem begun_run (begun : t.status ≠ .disconnected) (actions : List Action) :
    (t.run actions).status ≠ .disconnected :=
  run_keeps begun_moves begun actions

/-- Once a connect has ended nobody is in the course of connecting any more. -/
theorem ended_run_of_begun (begun : t.status ≠ .disconnected)
    (ended : t.connecting.underway = false) (actions : List Action) :
    (t.run actions).connecting.underway = false := by
  refine (run_keeps (P := fun t => t.status ≠ .disconnected ∧ t.connecting.underway = false)
    (fun {t a t'} kept moved => ⟨begun_moves kept.1 moved, ?_⟩) ⟨begun, ended⟩ actions).2
  obtain ⟨begun, ended⟩ := kept
  cases moved with
  | connect fresh => exact absurd fresh begun
  | accept asking =>
    rw [asking] at ended
    cases ended
  | unanswered _ => rfl
  | complete _ _ => rfl
  | giveUp _ _ => rfl
  | _ => exact ended

theorem status_of_leave {i : Nat} (left : t.step? (.leave i) = some t') : t'.status = .closed := by
  cases step_moves left with
  | leave _ _ => rfl

/-- Time does not pass while the transport has something to do. -/
theorem not_punctual_of_own (own : a.own = true) (can : (t.step? a).isSome = true)
    (milliseconds : Nat) : ¬ t.Punctual (.pass milliseconds) := fun punctual => by
  rw [punctual.1 a own] at can
  cases can

theorem leave_of_stopped {i : Nat} {graceful : Bool}
    (there : t.closes[i]? = some ⟨graceful, .joining⟩) (stopped : t.reading = false) :
    t.step? (.leave i) =
      some { t with status := .closed, closes := t.closes.set i ⟨graceful, .ended⟩ } := by
  simp [step?, leave?, there, stopped]

/-- A reader that is told to stop can. -/
theorem stops_of_cancelled (cancelled : t.cancelled = true) (reading : t.reading = true) :
    (t.step? (.stream .cancelled)).isSome = true := by
  obtain ⟨r, read, reads⟩ : ∃ r, t.reader = some r ∧ r.reading = true := by
    simpa [Remote.reading, Option.any_eq_true] using reading
  simp [step?, stream?, read, mayHappen, cancelled, reads]

theorem stopped_of_cancelled (cancelled : t.cancelled = true) :
    (t.tryStep (.stream .cancelled)).reading = false ∧
      (t.tryStep (.stream .cancelled)).closes = t.closes := by
  cases read : t.reader with
  | none => simp [tryStep, step?, stream?, read, reading]
  | some r =>
    have stopped := (EventStream.Reader.endpoint_step_cancelled r).2
    cases reads : r.reading <;>
      simp [tryStep, step?, stream?, read, mayHappen, cancelled, reads, reading, stopped]

/-- The close that waits for the reader comes to its end before time passes. -/
theorem joined_of_closing (sound : t.Sound) (closing : t.status = .closing) :
    ∃ i : Nat, t.closes[i]? = some ⟨true, .joining⟩ ∧
      (t.run [.stream .cancelled, .leave i]).status = .closed ∧
      ∀ milliseconds, ¬ t.Punctual (.pass milliseconds) := by
  obtain ⟨i, there⟩ := sound.joined closing
  have cancelled := sound.joining _ (List.mem_of_getElem? there) rfl
  refine ⟨i, there, ?_, ?_⟩
  · obtain ⟨stopped, same⟩ := stopped_of_cancelled cancelled
    rw [run_cons, run_cons, run_nil, tryStep, leave_of_stopped (same ▸ there) stopped]
    rfl
  · cases reading : t.reading with
    | true => exact not_punctual_of_own rfl (stops_of_cancelled cancelled reading)
    | false => exact not_punctual_of_own rfl (by rw [leave_of_stopped there reading]; rfl)

theorem lagging_ends (lags : t.Lagging) : (∀ milliseconds, ¬ t.Punctual (.pass milliseconds)) ∧
    (t.tryStep .settle).status = .connected ∧
    ∀ actions : List Action, ¬ ((t.tryStep .settle).run actions).Lagging := by
  have connected := connected_of_lagging lags
  refine ⟨?_, connected, ?_⟩
  · exact not_punctual_of_own rfl (by rw [settle_of_lagging lags]; rfl)
  · rintro actions ⟨deadline, _, waiting, -⟩
    have begun : (t.tryStep .settle).status ≠ .disconnected := by
      rw [connected]
      exact nofun
    have spent : (t.tryStep .settle).connecting.underway = false := by
      rw [tryStep, settle_of_lagging lags]
      rfl
    have ended := ended_run_of_begun begun spent actions
    rw [waiting] at ended
    cases ended

/-- A send that has something to find goes on before time passes. -/
theorem prompt_of_waiting {i deadline : Nat} {m : Message}
    (there : t.sends[i]? = some ⟨m, .waiting deadline⟩)
    (come : t.endpoint.isSome = true ∨ t.streamOver = true ∨ deadline ≤ t.now) :
    (t.step? (.look i)).isSome = true ∧ ∀ milliseconds, ¬ t.Punctual (.pass milliseconds) := by
  have can : (t.step? (.look i)).isSome = true := by
    rw [step?, look?, there]
    simpa using isSome_found come
  exact ⟨can, not_punctual_of_own rfl can⟩

theorem postsOf_fresh (sound : t.Sound) : t.postsOf t.sends.length = [] :=
  List.filter_eq_nil_iff.mpr fun post among => by
    have before := sound.posts post among
    simp only [decide_eq_true_eq]
    omega

theorem failed_of_shutting (sound : t.Sound) (shutting : t.Shutting) (m : Message) :
    (t.tryStep (.send m)).Failed t.sends.length m .transportClosed := by
  have taken : Moves t (.send m) (t.tryStep (.send m)) := beginSend_moves m
  generalize t.tryStep (.send m) = t' at taken
  cases taken with
  | turnAway _ => exact ⟨List.getElem?_concat_length, postsOf_fresh sound⟩
  | send open_ => exact absurd shutting open_

theorem fares_of_open (sound : t.Sound) (open_ : ¬ t.Shutting) (m : Message)
    (actions : List Action) :
    (t.tryStep (.send m)).Fares t.sends.length m (t.now + t.endpointTimeout) actions := by
  have taken : Moves t (.send m) (t.tryStep (.send m)) := beginSend_moves m
  generalize t.tryStep (.send m) = t' at taken
  cases taken with
  | turnAway shutting => exact absurd shutting open_
  | send _ =>
    refine fares_of_waiting ?_ ?_ ?_ actions
    · exact List.getElem?_concat_length
    · exact postsOf_fresh sound
    · exact Nat.le_add_right ..

/-- After a close the transport does not connect. -/
theorem refuses_of_begun (begun : t.status ≠ .disconnected) :
    t.connectFault? = some (.invalidState (.already "SSE" t.status)) ∧ t.tryStep .connect = t := by
  have fault : t.connectFault? = some (.invalidState (.already "SSE" t.status)) := if_neg begun
  refine ⟨fault, ?_⟩
  show t.beginConnect = t
  rw [beginConnect, fault]

end Closing

/-! ### All together -/

structure Orderly (t : Remote) : Prop where
  /-- A send fails at once while the transport closes, and after that. -/
  refused : t.Shutting → ∀ (m : Message) (actions : List Action),
    ((t.tryStep (.send m)).run actions).Failed t.sends.length m .transportClosed
  /-- Any other waits for the endpoint, the end of the stream or its deadline, in this order. -/
  waits : ¬ t.Shutting → ∀ (m : Message) (actions : List Action),
    (t.tryStep (.send m)).Fares t.sends.length m (t.now + t.endpointTimeout) actions
  /-- It goes on when one of them has come, and before time passes. -/
  prompt : ∀ {i deadline : Nat} {m : Message}, t.sends[i]? = some ⟨m, .waiting deadline⟩ →
    t.endpoint.isSome = true ∨ t.streamOver = true ∨ deadline ≤ t.now →
    (t.step? (.look i)).isSome = true ∧ ∀ milliseconds, ¬ t.Punctual (.pass milliseconds)
  told : ∀ {place : Url}, t.endpoint = some place → ∀ actions : List Action,
    (t.run actions).endpoint = some place
  ended : t.streamOver = true → t.endpoint = none → ∀ actions : List Action,
    (t.run actions).streamOver = true ∧ (t.run actions).endpoint = none
  closes : ∀ graceful : Bool, (t.tryStep (.close graceful)).Shutting
  closesAtOnce : (t.tryStep (.close false)).status = .closed
  /-- A graceful close waits for the reader, which stops before time passes. -/
  joins : t.status = .closing → ∃ i : Nat, t.closes[i]? = some ⟨true, .joining⟩ ∧
    (t.run [.stream .cancelled, .leave i]).status = .closed ∧
    ∀ milliseconds, ¬ t.Punctual (.pass milliseconds)
  leaves : ∀ {i : Nat} {t' : Remote}, t.step? (.leave i) = some t' → t'.status = .closed
  /-- A second close does nothing. -/
  again : ∀ graceful : Bool, t.run [.close graceful, .close graceful] =
    (t.tryStep (.close graceful)).returns graceful
  /-- A close is for good but for a connect that lagged when it came. -/
  shut : t.Shutting → ∀ actions : List Action, (t.run actions).Shutting ∨ t.Undone actions
  stays : t.status = .closed → ∀ actions : List Action,
    (t.run actions).status = .closed ∨ t.Undone actions
  /-- Such a connect ends before time passes, and connects. None lags after it. -/
  lags : t.Lagging → (∀ milliseconds, ¬ t.Punctual (.pass milliseconds)) ∧
    (t.tryStep .settle).status = .connected ∧
    ∀ actions : List Action, ¬ ((t.tryStep .settle).run actions).Lagging
  /-- A connect is refused once there was a close, and changes nothing. -/
  unconnected : ∀ (graceful : Bool) (actions : List Action),
    let after := (t.tryStep (.close graceful)).run actions
    after.connectFault? = some (.invalidState (.already "SSE" after.status)) ∧
      after.tryStep .connect = after
  unhealthy : t.status ≠ .connected →
    t.health = .error (.transport (.notConnected "SSE" t.status))

theorem orderly_in_every_run (url : Url) (endpointTimeout : Nat) (actions : List Action) :
    ((new url endpointTimeout).run actions).Orderly := by
  have sound := (sound_new url endpointTimeout).run actions
  generalize (new url endpointTimeout).run actions = t at sound
  exact {
    refused := fun shutting m later =>
      run_keeps Failed.moves (failed_of_shutting sound shutting m) later
    waits := fares_of_open sound
    prompt := prompt_of_waiting
    told := fun told => endpoint_run sound told
    ended := over_run sound
    closes := shutting_of_close t
    closesAtOnce := (closedBefore_of_close t false).elim id nofun
    joins := joined_of_closing sound
    leaves := status_of_leave
    again := fun graceful => close_again (closedBefore_of_close t graceful)
    shut := fun shutting later => (rank_run sound shutting later).imp_left fun up =>
      shutting_iff.mpr (Nat.le_trans (shutting_iff.mp shutting) up)
    stays := fun closed later => (rank_run sound (.inr closed) later).imp_left fun up =>
      closed_of_rank (closed ▸ up)
    lags := lagging_ends
    unconnected := fun graceful later => by
      have begun : (t.tryStep (.close graceful)).status ≠ .disconnected := fun fresh =>
        absurd (shutting_of_close t graceful) (by rw [Shutting, fresh]; decide)
      exact refuses_of_begun (begun_run begun later)
    unhealthy := fun down => if_pos down }

theorem close_may_be_undone :
    let server : Url := ⟨"http", "", none, some (.name "localhost"), none, "/sse", none, none⟩
    let ping : Message := .notification (.new "ping" none)
    let told := (new server 100).run [.connect, .answer .accepted,
      .stream (.bytes (Text.encode "event: endpoint\ndata: /messages\n\n"))]
    ∀ closing ∈ [[.close false], [.close true, .stream .cancelled, .leave 0]],
      (told.run closing).status = .closed ∧
        ((told.run closing).run [.settle]).status = .connected ∧
        ((told.run closing).run [.settle, .send ping, .look 0]).posts.map (·.place.write) =
          ["http://localhost/messages"] := by
  decide +kernel

/-- Where nobody connects a send fails to the millisecond. -/
theorem orderly_in_every_run_late :
    let url : Url := ⟨"http", "", none, none, none, "/sse", none, none⟩
    let ping : Message := .notification (.new "ping" none)
    let t := (new url 100).tryStep (.send ping)
    t.Timely [.pass 100, .look 0] ∧ t.Fares 0 ping 100 [.pass 100, .look 0] ∧
      (t.run [.pass 100, .look 0]).Failed 0 ping (.protocol (.endpointLate url.write 100)) := by
  intro url ping t
  have idle : t.Idle := fun a own => by
    cases a with
    | settle => rfl
    | look i => cases i <;> rfl
    | leave _ => rfl
    | stream _ => rfl
    | _ => cases own
  have until_ (deadline : Nat) (awaits : t.Awaits deadline) : t.now + 100 ≤ deadline := by
    obtain waiting | ⟨i, m, there⟩ := awaits
    · cases waiting
    · cases i with
      | zero => cases there; decide
      | succ i => cases there
  refine ⟨⟨⟨idle, until_⟩, trivial, trivial⟩, ?_, ⟨rfl, rfl⟩⟩
  exact (orderly_in_every_run url 100 []).waits (by decide) ping _

end Mcp.Transport.Remote
