import Mathlib.Data.List.Nodup
import Mcp.Proofs.Transport.ChildSends

/-!
The queue of a transport to a child process, and its writer. The sends that were put into the queue are
those whose lines are written, and the rest; with the first of the rest the writer may have begun
(`Phase`). `Fits` says so of a desk, and each thing that can happen to it keeps that.
-/

namespace Mcp.Transport.Child

def SendStage.succeeded : SendStage := .ended (.ok ())

def SendStage.writeFailed : SendStage := .ended (.error (.transport .writeFailed))

/-- The stage of a send after the writer has stopped. -/
def SendStage.giveUp : SendStage → SendStage
  | .waiting => .turnedAway
  | stage => stage

namespace Desk

/-! ### Stages and lines -/

section Stages

variable {d : Desk} {i j : Nat} {stage : SendStage}

theorem stage_restage (there : d.stage i ≠ none) : (d.restage i stage).stage i = some stage := by
  cases at_ : d.sends[i]? with
  | none =>
    rw [Desk.stage, at_] at there
    exact absurd rfl there
  | some s => simp [Desk.stage, restage, at_]

theorem stage_restage_ne (other : j ≠ i) : (d.restage i stage).stage j = d.stage j := by
  simp [Desk.stage, restage, Ne.symm other]

theorem line_restage : (d.restage i stage).line j = d.line j := by
  by_cases same : i = j
  · subst same
    cases at_ : d.sends[i]? <;> simp [line, restage, at_]
  · simp [line, restage, same]

theorem stage_giveUp (s : Send) : s.giveUp.stage = s.stage.giveUp := by
  obtain ⟨line, stage⟩ := s
  cases stage <;> rfl

theorem line_giveUp (s : Send) : s.giveUp.line = s.line := by
  obtain ⟨line, stage⟩ := s
  cases stage <;> rfl

theorem stage_stop : d.stop.stage i = (d.stage i).map SendStage.giveUp := by
  simp only [Desk.stage, stop, List.getElem?_map, Option.map_map]
  exact congrArg (fun f => Option.map f d.sends[i]?) (funext stage_giveUp)

theorem line_stop : d.stop.line i = d.line i := by
  simp only [line, stop, List.getElem?_map, Option.map_map]
  exact congrArg (fun f => (Option.map f d.sends[i]?).getD []) (funext line_giveUp)

theorem getElem?_issue {line : List UInt8} (there : d.stage i ≠ none) :
    (d.issue line).sends[i]? = d.sends[i]? := by
  refine List.getElem?_append_left ?_
  rw [← Nat.not_le]
  intro outside
  refine there ?_
  rw [Desk.stage, List.getElem?_eq_none outside]
  rfl

theorem stage_issue {line : List UInt8} (there : d.stage i ≠ none) :
    (d.issue line).stage i = d.stage i :=
  congrArg (Option.map Send.stage) (getElem?_issue there)

theorem line_issue {line : List UInt8} (there : d.stage i ≠ none) :
    (d.issue line).line i = d.line i :=
  congrArg (fun o => (Option.map Send.line o).getD []) (getElem?_issue there)

theorem framed_or_old {line : List UInt8} (at_ : (d.issue line).stage i = some stage) :
    stage = .framed ∨ d.stage i = some stage := by
  by_cases there : d.stage i = none
  · have outside : d.sends.length ≤ i := by simpa [Desk.stage] using there
    obtain ⟨s, member, rfl⟩ := Option.map_eq_some_iff.mp at_
    rw [issue, List.getElem?_append_right outside] at member
    rw [List.mem_singleton.mp (List.mem_of_getElem? member)]
    exact .inl rfl
  · exact .inr ((stage_issue there).symm.trans at_)

end Stages

/-! ### The writer and its queue -/

/-- How far the writer has come with the sends whose lines are not written yet: the first of them
may be begun with. -/
inductive Phase (d : Desk) (rest : List Nat) (part : List UInt8) : Prop
  | waits : d.writer = .absent ∨ d.writer = .idle → rest = d.queue → part = [] →
      (∀ i ∈ rest, d.stage i = some .waiting) → Phase d rest part
  | writes {i : Nat} {left : List UInt8} : d.writer = .writing i left → rest = i :: d.queue →
      part ++ left = d.line i → (∀ i ∈ rest, d.stage i = some .waiting) → Phase d rest part
  /-- No more is written. Only the first can have failed. -/
  | stopped : d.writer = .over → part = [] ∨ (∃ i, rest.head? = some i ∧ part <+: d.line i) →
      (∀ i ∈ rest, d.stage i = some .turnedAway ∨
        rest.head? = some i ∧ d.stage i = some .writeFailed) → Phase d rest part

/-- The sends that were put into the queue are those whose lines are written, and the rest. -/
structure Fits (d : Desk) (order done rest : List Nat) (part : List UInt8) : Prop where
  split : order = done ++ rest
  once : order.Nodup
  written : d.written = done.flatMap d.line ++ part
  succeeded {i : Nat} : i ∈ done → d.stage i = some .succeeded
  phase : d.Phase rest part
  /-- A send that was not put into the queue has got nowhere. -/
  others {i : Nat} {stage : SendStage} : i ∉ order → d.stage i = some stage →
    stage = .framed ∨ stage = .admitted ∨ stage = .turnedAway

section Fits

variable {d d' : Desk} {order done rest : List Nat} {part : List UInt8} {i : Nat}

theorem Fits.there (fits : d.Fits order done rest part) (queued : i ∈ order) : d.stage i ≠ none := by
  rw [fits.split, List.mem_append] at queued
  rcases queued with written | left
  · simp [fits.succeeded written]
  · cases fits.phase with
    | waits _ _ _ waiting | writes _ _ _ waiting => simp [waiting i left]
    | stopped _ _ ended => rcases ended i left with away | ⟨-, failed⟩ <;> simp [*]

theorem Phase.congr (phase : d.Phase rest part) (writer : d'.writer = d.writer)
    (queue : d'.queue = d.queue) (stage : ∀ i ∈ rest, d'.stage i = d.stage i)
    (line : ∀ i ∈ rest, d'.line i = d.line i) : d'.Phase rest part := by
  cases phase with
  | waits idle all none_ waiting =>
    exact .waits (writer ▸ idle) (queue ▸ all) none_ fun i there =>
      (stage i there).trans (waiting i there)
  | @writes j left busy all whole waiting =>
    have first : j ∈ rest := all ▸ List.mem_cons_self
    exact .writes (writer.trans busy) (queue ▸ all) (whole.trans (line j first).symm)
      fun i there => (stage i there).trans (waiting i there)
  | stopped halted begun ended =>
    refine .stopped (writer.trans halted) ?_ fun i there => ?_
    · rcases begun with none_ | ⟨i, first, part⟩
      · exact .inl none_
      · exact .inr ⟨i, first, line i (List.mem_of_head? first) ▸ part⟩
    · rw [stage i there]
      exact ended i there

/-- Where no send of the queue and nothing of the writer changes, all fits as before. -/
theorem Fits.congr (fits : d.Fits order done rest part) (writer : d'.writer = d.writer)
    (queue : d'.queue = d.queue) (written : d'.written = d.written)
    (stage : ∀ i ∈ order, d'.stage i = d.stage i) (line : ∀ i ∈ order, d'.line i = d.line i)
    (others : ∀ {i stage}, i ∉ order → d'.stage i = some stage →
      stage = .framed ∨ stage = .admitted ∨ stage = .turnedAway) :
    d'.Fits order done rest part := by
  have ofDone {i : Nat} (h : i ∈ done) : i ∈ order := by simp [fits.split, h]
  have ofRest {i : Nat} (h : i ∈ rest) : i ∈ order := by simp [fits.split, h]
  refine ⟨fits.split, fits.once, ?_, fun h => ?_, ?_, others⟩
  · rw [written, fits.written]
    exact congrArg (· ++ part) (List.flatMap_congr fun i h => (line i (ofDone h)).symm)
  · exact (stage _ (ofDone h)).trans (fits.succeeded h)
  · exact fits.phase.congr writer queue (fun i h => stage i (ofRest h)) fun i h => line i (ofRest h)

theorem Fits.mem (fits : d.Fits order done rest part) : i ∈ order ↔ i ∈ done ∨ i ∈ rest := by
  rw [fits.split, List.mem_append]

/-- A send that has not been put into the queue goes on. -/
theorem Fits.restage (fits : d.Fits order done rest part) (outside : i ∉ order)
    {stage : SendStage} (far : stage = .framed ∨ stage = .admitted ∨ stage = .turnedAway) :
    (d.restage i stage).Fits order done rest part := by
  refine fits.congr rfl rfl rfl (fun j h => ?_) (fun j _ => line_restage) fun {j stage'} h at_ => ?_
  · refine stage_restage_ne ?_
    rintro rfl
    exact outside h
  · by_cases same : j = i
    · subst same
      cases there : d.stage j with
      | none =>
        have absent : d.sends[j]? = none := by simpa [Desk.stage] using there
        simp [Desk.stage, Desk.restage, absent] at at_
      | some old =>
        rw [stage_restage (by simp [there])] at at_
        cases at_
        exact far
    · rw [stage_restage_ne same] at at_
      exact fits.others h at_

theorem Fits.outside (fits : d.Fits order done rest part)
    (early : d.stage i = some .framed ∨ d.stage i = some .admitted) : i ∉ order := by
  intro queued
  have never {stage : SendStage} (at_ : d.stage i = some stage) (framed : stage ≠ .framed)
      (admitted : stage ≠ .admitted) : False := by
    rcases early with early | early
    · cases early.symm.trans at_
      exact framed rfl
    · cases early.symm.trans at_
      exact admitted rfl
  rcases fits.mem.mp queued with written | left
  · exact never (fits.succeeded written) nofun nofun
  · cases fits.phase with
    | waits _ _ _ waiting | writes _ _ _ waiting => exact never (waiting i left) nofun nofun
    | stopped _ _ ended =>
      rcases ended i left with away | ⟨-, failed⟩
      · exact never away nofun nofun
      · exact never failed nofun nofun

end Fits

/-! ### What a step does -/

section Steps

variable {t : Child} {d : Desk} {order done rest : List Nat} {part : List UInt8} {i : Nat}

theorem Fits.issue (fits : d.Fits order done rest part) (line : List UInt8) :
    (d.issue line).Fits order done rest part := by
  refine fits.congr rfl rfl rfl (fun i h => stage_issue (fits.there h))
    (fun i h => line_issue (fits.there h)) fun h at_ => ?_
  rcases framed_or_old at_ with framed | old
  · exact .inl framed
  · exact fits.others h old

theorem Fits.enqueue (fits : d.Fits order done rest part) (at_ : d.stage i = some .admitted)
    (going : d.writer ≠ .over) :
    ({ d.restage i .waiting with queue := d.queue ++ [i] } : Desk).Fits (order ++ [i]) done
      (rest ++ [i]) part := by
  have outside : i ∉ order := fits.outside (.inr at_)
  have here : (d.restage i .waiting).stage i = some .waiting := stage_restage (by simp [at_])
  have apart {j : Nat} (queued : j ∈ order) : j ≠ i := by
    rintro rfl
    exact outside queued
  have waits {j : Nat} (waiting : ∀ j ∈ rest, d.stage j = some .waiting) (member : j ∈ rest ++ [i]) :
      (d.restage i .waiting).stage j = some .waiting := by
    rcases List.mem_append.mp member with old | new
    · exact (stage_restage_ne (apart (fits.mem.mpr (.inr old)))).trans (waiting j old)
    · rw [List.mem_singleton.mp new]
      exact here
  refine ⟨?split, ?once, ?written, fun h => ?succeeded, ?phase, fun {j stage} h at_ => ?others⟩
  case split => rw [fits.split, List.append_assoc]
  case once =>
    refine List.nodup_append.mpr ⟨fits.once, List.nodup_singleton i, fun j queued k new => ?_⟩
    rw [List.mem_singleton.mp new]
    exact apart queued
  case written =>
    refine fits.written.trans ?_
    exact congrArg (· ++ part) (List.flatMap_congr fun j _ => line_restage.symm)
  case succeeded =>
    exact (stage_restage_ne (apart (fits.mem.mpr (.inl h)))).trans (fits.succeeded h)
  case phase =>
    cases fits.phase with
    | waits idle all none_ waiting =>
      exact .waits idle (congrArg (· ++ [i]) all) none_ fun j h => waits waiting h
    | writes busy all whole waiting =>
      exact .writes busy (congrArg (· ++ [i]) all) (whole.trans line_restage.symm)
        fun j h => waits waiting h
    | stopped halted => exact absurd halted going
  case others =>
    have notIn : j ∉ order := fun old => h (List.mem_append_left [i] old)
    have other : j ≠ i := fun same => h (List.mem_append_right order (same ▸ List.mem_singleton_self j))
    have before : d.stage j = some stage := (stage_restage_ne other).symm.trans at_
    exact fits.others notIn before

theorem Fits.take (fits : d.Fits order done rest part) (idle : d.writer = .idle) {next : List Nat}
    (queue : d.queue = i :: next) :
    ({ d with writer := .writing i (d.line i), queue := next } : Desk).Fits order done rest [] := by
  cases fits.phase with
  | waits _ all none_ waiting =>
    subst none_
    exact ⟨fits.split, fits.once, fits.written, fits.succeeded,
      .writes rfl (all.trans queue) rfl waiting, fits.others⟩
  | writes busy => cases idle.symm.trans busy
  | stopped halted => cases idle.symm.trans halted

theorem Fits.write (fits : d.Fits order done rest part) {left : List UInt8}
    (busy : d.writer = .writing i left) (count : Nat) :
    ({ d with
      writer := .writing i (left.drop count)
      written := d.written ++ left.take count } : Desk).Fits order done rest
        (part ++ left.take count) := by
  refine ⟨fits.split, fits.once, ?_, fits.succeeded, ?_, fits.others⟩
  · exact (congrArg (· ++ left.take count) fits.written).trans (List.append_assoc ..)
  · cases fits.phase with
    | waits idle => rcases idle with idle | idle <;> cases idle.symm.trans busy
    | writes busy' all whole waiting =>
      cases busy'.symm.trans busy
      refine .writes rfl all ?_ waiting
      rw [List.append_assoc, List.take_append_drop]
      exact whole
    | stopped halted => cases halted.symm.trans busy

theorem Fits.acknowledge (fits : d.Fits order done rest part) (busy : d.writer = .writing i []) :
    ({ d.restage i .succeeded with writer := .idle } : Desk).Fits order (done ++ [i]) d.queue [] := by
  cases fits.phase with
  | waits idle => rcases idle with idle | idle <;> cases idle.symm.trans busy
  | stopped halted => cases halted.symm.trans busy
  | writes busy' all whole waiting =>
    cases busy'.symm.trans busy
    subst all
    have here : (d.restage i .succeeded).stage i = some .succeeded := stage_restage (by
      simp [waiting i List.mem_cons_self])
    have split : order = (done ++ [i]) ++ d.queue := by rw [fits.split, List.append_assoc]; rfl
    have once : ((done ++ [i]) ++ d.queue).Nodup := split ▸ fits.once
    obtain ⟨once', -, disjoint⟩ := List.nodup_append.mp once
    have apart {j : Nat} (queued : j ∈ done ∨ j ∈ d.queue) : j ≠ i := by
      rintro rfl
      rcases queued with old | later
      · exact (List.nodup_append.mp once').2.2 j old j (List.mem_singleton_self j) rfl
      · exact disjoint j (List.mem_append_right done (List.mem_singleton_self j)) j later rfl
    refine ⟨split, fits.once, ?written, fun {j} h => ?succeeded, ?phase,
      fun {j stage} h at_ => ?others⟩
    case written =>
      rw [List.append_nil] at whole
      rw [List.append_nil, List.flatMap_append, List.flatMap_singleton]
      show d.written = done.flatMap (fun j => (d.restage i .succeeded).line j) ++
        (d.restage i .succeeded).line i
      simp only [line_restage, ← whole]
      exact fits.written
    case succeeded =>
      rcases List.mem_append.mp h with old | new
      · exact (stage_restage_ne (apart (.inl old))).trans (fits.succeeded old)
      · rw [List.mem_singleton.mp new]
        exact here
    case phase =>
      refine .waits (.inr rfl) rfl rfl fun j later => ?_
      exact (stage_restage_ne (apart (.inr later))).trans (waiting j (List.mem_cons_of_mem i later))
    case others =>
      have other : j ≠ i := by
        rintro rfl
        exact h (fits.mem.mpr (.inr List.mem_cons_self))
      exact fits.others h ((stage_restage_ne other).symm.trans at_)

/-- The writer stops, whether it has failed with the first line or not. -/
theorem Fits.stop (fits : d.Fits order done rest part) : d.stop.Fits order done rest part := by
  refine ⟨fits.split, fits.once, ?written, fun h => ?succeeded, ?phase, fun {j stage} h at_ => ?others⟩
  case written =>
    refine fits.written.trans ?_
    exact congrArg (· ++ part) (List.flatMap_congr fun i _ => line_stop.symm)
  case succeeded =>
    rw [stage_stop, fits.succeeded h]
    rfl
  case phase =>
    have away {i : Nat} (waiting : d.stage i = some .waiting) : d.stop.stage i = some .turnedAway := by
      rw [stage_stop, waiting]
      rfl
    cases fits.phase with
    | waits _ _ none_ waiting => exact .stopped rfl (.inl none_) fun i h => .inl (away (waiting i h))
    | @writes i left _ all whole waiting =>
      refine .stopped rfl (.inr ⟨i, by rw [all, List.head?_cons], ?_⟩) fun i h =>
        .inl (away (waiting i h))
      rw [line_stop, ← whole]
      exact List.prefix_append part left
    | stopped halted begun ended =>
      refine .stopped rfl ?_ fun i h => ?_
      · simpa only [line_stop] using begun
      · rcases ended i h with turned | ⟨first, failed⟩
        · left
          rw [stage_stop, turned]
          rfl
        · refine .inr ⟨first, ?_⟩
          rw [stage_stop, failed]
          rfl
  case others =>
    rw [stage_stop] at at_
    obtain ⟨old, there, rfl⟩ := Option.map_eq_some_iff.mp at_
    rcases fits.others h there with rfl | rfl | rfl
    · exact .inl rfl
    · exact .inr (.inl rfl)
    · exact .inr (.inr rfl)

/-- The writer fails with the first line, and stops. -/
theorem Fits.refuse (fits : d.Fits order done rest part) {left : List UInt8}
    (busy : d.writer = .writing i left) :
    (d.restage i .writeFailed).stop.Fits order done rest part := by
  cases fits.phase with
  | waits idle => rcases idle with idle | idle <;> cases idle.symm.trans busy
  | stopped halted => cases halted.symm.trans busy
  | writes busy' all whole waiting =>
    cases busy'.symm.trans busy
    have first : i ∈ rest := all ▸ List.mem_cons_self
    have failed : (d.restage i .writeFailed).stop.stage i = some .writeFailed := by
      rw [stage_stop, stage_restage (by simp [waiting i first])]
      rfl
    have elsewhere {j : Nat} (other : j ≠ i) :
        (d.restage i .writeFailed).stop.stage j = d.stop.stage j := by
      rw [stage_stop, stage_restage_ne other, stage_stop]
    have lines (j : Nat) : (d.restage i .writeFailed).stop.line j = d.line j :=
      line_stop.trans line_restage
    have stopped := fits.stop
    have apart {j : Nat} (written : j ∈ done) : j ≠ i := by
      rintro rfl
      cases (fits.succeeded written).symm.trans (waiting j first)
    refine ⟨fits.split, fits.once, ?written, fun h => ?succeeded, ?phase,
      fun {j stage} h at_ => ?others⟩
    case written =>
      refine fits.written.trans ?_
      exact congrArg (· ++ part) (List.flatMap_congr fun j _ => (lines j).symm)
    case succeeded => exact (elsewhere (apart h)).trans (stopped.succeeded h)
    case phase =>
      refine .stopped rfl (.inr ⟨i, by rw [all, List.head?_cons], ?_⟩) fun j h => ?_
      · rw [lines, ← whole]
        exact List.prefix_append part left
      · by_cases same : j = i
        · subst same
          exact .inr ⟨by rw [all, List.head?_cons], failed⟩
        · left
          rw [elsewhere same, stage_stop, waiting j h]
          rfl
    case others =>
      have other : j ≠ i := by
        rintro rfl
        exact h (fits.mem.mpr (.inr first))
      exact stopped.others h ((elsewhere other).symm.trans at_)

theorem Fits.finish (fits : d.Fits order done rest part) (idle : d.writer = .idle)
    (queue : d.queue = []) : ({ d with writer := .over } : Desk).Fits order done rest part := by
  refine ⟨fits.split, fits.once, fits.written, fits.succeeded, ?_, fits.others⟩
  cases fits.phase with
  | waits _ all none_ =>
    refine .stopped rfl (.inl none_) fun i h => ?_
    rw [all, queue] at h
    cases h
  | writes busy => cases idle.symm.trans busy
  | stopped halted => cases idle.symm.trans halted

theorem Fits.spawn (fits : d.Fits order done rest part) (absent : d.writer = .absent) :
    ({ d with writer := .idle } : Desk).Fits order done rest part := by
  refine ⟨fits.split, fits.once, fits.written, fits.succeeded, ?_, fits.others⟩
  cases fits.phase with
  | waits _ all none_ waiting => exact .waits (.inr rfl) all none_ waiting
  | writes busy => cases absent.symm.trans busy
  | stopped halted => cases absent.symm.trans halted

end Steps

end Desk

end Mcp.Transport.Child
