import Mathlib.Data.List.Induction
import Mathlib.Data.List.TakeWhile
import Mcp.EventStream.Reader
import Mcp.Proofs.EventStream.Whole

/-!
Where a reader of an event stream sends its events. Only two things count of a run: the events of the
whole stream that had come when nobody took messages any more, and those behind them up to the first
that carries a message. The messages are those of the first events, and the endpoint is the first
that both together name (`reader_routes`).
-/

namespace Mcp.EventStream

/-! ### What events carry -/

namespace Event

/-- The message that an event carries. -/
def message? (e : Event) : Option Message :=
  if (e.kind = none ∨ e.kind = some "message") ∧ ¬ Text.isBlankText e.data then
    (Message.parse e.data).toOption
  else none

/-- The endpoint that an event names, if it resolves. -/
def endpoint? (base : Url) (e : Event) : Option Url :=
  if e.kind = some "endpoint" then (base.join (Text.trimmed e.data)).toOption else none

/-- Whether an event carries no message. -/
def quiet (e : Event) : Bool := e.message?.isNone

end Event

/-! ### What a run brings -/

namespace Happening

/-- Whether nothing of the stream is read behind this. -/
def stops : Happening → Bool
  | .finished | .failed | .cancelled => true
  | .bytes _ | .abandoned => false

/-- Whether nobody takes messages behind this. -/
def loses : Happening → Bool
  | .abandoned => true
  | _ => false

/-- Whether the stream ends cleanly here. -/
def completes : Happening → Bool
  | .finished => true
  | _ => false

def chunk? : Happening → Option (List UInt8)
  | .bytes chunk => some chunk
  | _ => none

end Happening

/-- The pieces of the stream that come before anything stops the reader. -/
def brought (happened : List Happening) : List (List UInt8) :=
  (happened.takeWhile fun h => !h.stops).filterMap Happening.chunk?

/-- The events of the whole stream: those that blank lines end, and the last one if the stream ends
cleanly. -/
def decoded (happened : List Happening) : List Event :=
  (endedEvents (brought happened).flatten).map Prod.snd ++
    if (happened.find? Happening.stops).any Happening.completes then
      (lastEvent? (brought happened).flatten).toList
    else []

/-- The events that come while somebody takes messages. -/
def accepted (happened : List Happening) : List Event :=
  decoded (happened.takeWhile fun h => !h.loses)

/-- The events that come when nobody takes messages any more. -/
def refused (happened : List Happening) : List Event :=
  (decoded happened).drop (accepted happened).length

/-- The events up to the first message that cannot be delivered. -/
def heeded (happened : List Happening) : List Event :=
  accepted happened ++ (refused happened).takeWhile Event.quiet

/-! ### One happening more -/

theorem takeWhile_append_of_any {α : Type} {p : α → Bool} {xs : List α}
    (fails : (xs.any fun x => !p x) = true) (ys : List α) :
    (xs ++ ys).takeWhile p = xs.takeWhile p := by
  rw [List.takeWhile_append, if_neg]
  intro whole
  have all := List.takeWhile_eq_self_iff.mp ((List.takeWhile_prefix p).eq_of_length whole)
  obtain ⟨x, member, fails⟩ := List.any_eq_true.mp fails
  simp [all x member] at fails

theorem takeWhile_of_not_any {α : Type} {p : α → Bool} {xs : List α}
    (none : xs.any p = false) : (xs.takeWhile fun x => !p x) = xs := by
  rw [List.takeWhile_eq_self_iff]
  simpa using none

/-- The events that a decoder gives for a happening. -/
def events (d : Decoder) : Happening → List Event
  | .bytes chunk => (d.push chunk).2
  | .finished => d.flush.2.toList
  | .failed | .cancelled | .abandoned => []

/-- The decoder behind a happening. -/
def decoding (d : Decoder) : Happening → Decoder
  | .bytes chunk => (d.push chunk).1
  | .finished => d.flush.1
  | .failed | .cancelled | .abandoned => d

/-- The decoder that has been given what a run brings. -/
def decoderAfter (happened : List Happening) : Decoder :=
  (Decoder.fresh.pushAll (brought happened)).1

/-- The events that one happening more brings. -/
def arriving (happened : List Happening) (h : Happening) : List Event :=
  if happened.any Happening.stops then [] else events (decoderAfter happened) h

theorem brought_concat (happened : List Happening) (h : Happening) :
    brought (happened ++ [h]) =
      brought happened ++ if happened.any Happening.stops then [] else h.chunk?.toList := by
  unfold brought
  cases stopped : happened.any Happening.stops with
  | true => rw [takeWhile_append_of_any (by simpa using stopped)]; simp
  | false =>
    rw [List.takeWhile_append_of_pos (by simpa using stopped), takeWhile_of_not_any stopped,
      List.filterMap_append]
    cases h <;> rfl

theorem decoded_concat (happened : List Happening) (h : Happening) :
    decoded (happened ++ [h]) = decoded happened ++ arriving happened h := by
  unfold decoded arriving decoderAfter
  rw [brought_concat, List.find?_append]
  cases stopped : happened.any Happening.stops with
  | true =>
    obtain ⟨first, found⟩ : ∃ first, happened.find? Happening.stops = some first := by
      rw [← Option.isSome_iff_exists, List.find?_isSome]
      simpa using stopped
    simp [found]
  | false =>
    have unfound : happened.find? Happening.stops = none := by simpa using stopped
    rw [unfound]
    cases h with
    | bytes chunk =>
      have all := pushAll_fresh (brought happened ++ [chunk])
      rw [Decoder.pushAll_append, List.flatten_append, pushAll_fresh] at all
      simpa [Happening.stops, Happening.chunk?, Decoder.pushAll, events] using all.symm
    | finished =>
      simp [Happening.stops, Happening.chunk?, Happening.completes, flush_pushAll, events]
    | failed | cancelled | abandoned =>
      simp [Happening.stops, Happening.chunk?, Happening.completes, events]

theorem accepted_concat (happened : List Happening) (h : Happening) :
    accepted (happened ++ [h]) =
      accepted happened ++ if happened.any Happening.loses then [] else arriving happened h := by
  unfold accepted
  cases lost : happened.any Happening.loses with
  | true => rw [takeWhile_append_of_any (by simpa using lost)]; simp
  | false =>
    rw [List.takeWhile_append_of_pos (by simpa using lost), takeWhile_of_not_any lost]
    cases h with
    | abandoned => simp [Happening.loses, arriving, events]
    | _ => exact decoded_concat happened _

theorem decoded_eq (happened : List Happening) :
    decoded happened = accepted happened ++ refused happened := by
  have earlier : accepted happened <+: decoded happened := by
    induction happened using List.reverseRecOn with
    | nil => exact List.prefix_refl _
    | append_singleton happened h ih =>
      rw [accepted_concat, decoded_concat]
      cases lost : happened.any Happening.loses with
      | true => simpa using ih.trans (List.prefix_append _ _)
      | false =>
        have all : accepted happened = decoded happened := by rw [accepted, takeWhile_of_not_any lost]
        simp [all]
  obtain ⟨rest, split⟩ := earlier
  rw [refused, ← split, List.drop_left]

theorem refused_of_not_lost {happened : List Happening}
    (lost : happened.any Happening.loses = false) : refused happened = [] := by
  rw [refused, accepted, takeWhile_of_not_any lost, List.drop_length]

theorem refused_concat (happened : List Happening) (h : Happening) :
    refused (happened ++ [h]) =
      refused happened ++ if happened.any Happening.loses then arriving happened h else [] := by
  rw [refused, decoded_concat, accepted_concat, decoded_eq]
  cases lost : happened.any Happening.loses with
  | true => simp
  | false => simp [refused_of_not_lost lost]

/-- Of the events of one happening more, those count that come before the first message that cannot be
delivered. -/
theorem heeded_concat (happened : List Happening) (h : Happening) :
    heeded (happened ++ [h]) = heeded happened ++
      if (refused happened).all Event.quiet then
        if happened.any Happening.loses then (arriving happened h).takeWhile Event.quiet
        else arriving happened h
      else [] := by
  rw [heeded, accepted_concat, refused_concat, heeded]
  cases lost : happened.any Happening.loses with
  | false => simp [refused_of_not_lost lost]
  | true =>
    cases silent : (refused happened).all Event.quiet with
    | true =>
      have all : ∀ e ∈ refused happened, e.quiet = true := by simpa using silent
      rw [if_pos rfl, if_pos rfl, List.takeWhile_append_of_pos all,
        List.takeWhile_eq_self_iff.mpr all]
      simp
    | false =>
      rw [if_pos rfl, if_pos rfl, takeWhile_append_of_any (by simpa using silent)]
      simp

theorem heeded_grows (happened later : List Happening) :
    heeded happened <+: heeded (happened ++ later) := by
  induction later using List.reverseRecOn with
  | nil => simp
  | append_singleton later h ih =>
    rw [← List.append_assoc, heeded_concat]
    exact ih.trans (List.prefix_append _ _)

/-! ### The reader at one event -/

theorem Event.message?_of_endpoint {e : Event} (names : e.kind = some "endpoint") :
    e.message? = none := by
  simp [message?, names]

theorem Event.meaning_eq {e : Event} (names : e.kind ≠ some "endpoint") :
    e.meaning = match e.message? with
      | some m => .message m
      | none => .nothing := by
  unfold meaning message?
  rw [if_neg names]
  by_cases told : e.kind = none ∨ e.kind = some "message"
  · cases blank : Text.isBlankText e.data with
    | true => simp [told]
    | false => cases read : Message.parse e.data <;> simp [told, Except.toOption]
  · simp [told]

theorem Event.endpoint?_of_message {base : Url} {e : Event} {m : Message}
    (carried : e.message? = some m) : e.endpoint? base = none := by
  rw [endpoint?, if_neg]
  intro names
  rw [message?_of_endpoint names] at carried
  cases carried

namespace Reader

variable {base : Url} {decoder : Decoder} {endpoint : Option Url}

/-- An event without a message stops nothing. It counts only if it is the first to name an
endpoint that resolves. -/
theorem act_of_quiet {e : Event} (silent : e.message? = none) (taken : Bool) :
    (⟨base, decoder, endpoint, taken, true⟩ : Reader).act e =
      (⟨base, decoder, endpoint.or (e.endpoint? base), taken, true⟩, none) := by
  by_cases names : e.kind = some "endpoint"
  · cases endpoint <;> simp [act, Event.meaning, Event.endpoint?, names]
  · simp [act, Event.meaning_eq names, silent, Event.endpoint?, names]

theorem act_of_message {e : Event} {m : Message} (carried : e.message? = some m) (taken : Bool) :
    (⟨base, decoder, endpoint, taken, true⟩ : Reader).act e =
      (⟨base, decoder, endpoint, taken, taken⟩, if taken then some m else none) := by
  have names : e.kind ≠ some "endpoint" := by
    intro names
    rw [Event.message?_of_endpoint names] at carried
    cases carried
  cases taken <;> simp [act, Event.meaning_eq names, carried]

theorem act_of_stopped {r : Reader} (stopped : r.reading = false) (e : Event) :
    r.act e = (r, none) := by
  simp [act, stopped]

/-! ### The reader at several events -/

theorem actAll_of_stopped {r : Reader} (stopped : r.reading = false) (events : List Event) :
    r.actAll events = (r, []) := by
  induction events with
  | nil => rfl
  | cons e events ih => simp [actAll, act_of_stopped stopped, ih]

theorem actAll_of_taken (events : List Event) :
    (⟨base, decoder, endpoint, true, true⟩ : Reader).actAll events =
      (⟨base, decoder, endpoint.or (events.findSome? (Event.endpoint? base)), true, true⟩,
        events.filterMap Event.message?) := by
  induction events generalizing endpoint with
  | nil => simp [actAll]
  | cons e events ih =>
    cases carried : e.message? with
    | none =>
      simp only [actAll, act_of_quiet carried, ih, List.filterMap_cons, carried,
        List.findSome?_cons]
      cases e.endpoint? base <;> simp
    | some m =>
      simp [actAll, act_of_message carried, ih, carried, Event.endpoint?_of_message carried]

theorem actAll_of_untaken (events : List Event) :
    (⟨base, decoder, endpoint, false, true⟩ : Reader).actAll events =
      (⟨base, decoder,
        endpoint.or ((events.takeWhile Event.quiet).findSome? (Event.endpoint? base)), false,
        events.all Event.quiet⟩, []) := by
  induction events generalizing endpoint with
  | nil => simp [actAll]
  | cons e events ih =>
    cases carried : e.message? with
    | none =>
      have silent : e.quiet = true := by rw [Event.quiet, carried]; rfl
      simp only [actAll, act_of_quiet carried, ih, List.takeWhile_cons, silent, if_true,
        List.findSome?_cons, List.all_cons]
      cases e.endpoint? base <;> simp
    | some m =>
      have loud : e.quiet = false := by rw [Event.quiet, carried]; rfl
      simp [actAll, act_of_message carried, actAll_of_stopped, loud]

/-! ### The reader along a run -/

/-- What happenings make of the reader in order, and the messages that it delivers. -/
def run (r : Reader) : List Happening → Reader × List Message
  | [] => (r, [])
  | h :: later =>
    let (r, messages) := r.step h
    let (r, more) := r.run later
    (r, messages ++ more)

theorem run_append (r : Reader) (before after : List Happening) :
    r.run (before ++ after) =
      (((r.run before).1.run after).1, (r.run before).2 ++ ((r.run before).1.run after).2) := by
  induction before generalizing r with
  | nil => rfl
  | cons h before ih => simp only [List.cons_append, run, ih, List.append_assoc]

theorem run_concat (r : Reader) (happened : List Happening) (h : Happening) :
    r.run (happened ++ [h]) =
      (((r.run happened).1.step h).1, (r.run happened).2 ++ ((r.run happened).1.step h).2) := by
  simp [run_append, run]

theorem step_of_stopped {r : Reader} (stopped : r.reading = false) (h : Happening) :
    r.step h = ({ r with taken := r.taken && !h.loses }, []) := by
  obtain ⟨base, decoder, endpoint, taken, reads⟩ := r
  obtain rfl : reads = false := stopped
  cases h <;> cases taken <;> rfl

theorem step_of_reading {r : Reader} (reading : r.reading = true) (h : Happening) :
    r.step h =
      let (after, messages) := { r with decoder := decoding r.decoder h }.actAll (events r.decoder h)
      ({ after with taken := after.taken && !h.loses, reading := after.reading && !h.stops },
        messages) := by
  obtain ⟨base, decoder, endpoint, taken, reads⟩ := r
  obtain rfl : reads = true := reading
  cases h with
  | bytes chunk =>
    simp only [Happening.loses, Happening.stops, Bool.not_false, Bool.and_true]
    rfl
  | finished =>
    simp only [Happening.loses, Happening.stops, Bool.not_false, Bool.and_true, Bool.not_true,
      Bool.and_false]
    rfl
  | failed | cancelled | abandoned => cases taken <;> rfl

/-- What a run has made of the reader and what it has delivered, by the events of the run. -/
structure Tracks (base : Url) (happened : List Happening) (r : Reader) (messages : List Message) :
    Prop where
  base_eq : r.base = base
  taken : r.taken = !happened.any Happening.loses
  decoder : r.reading = true → r.decoder = decoderAfter happened
  reading : r.reading = (!happened.any Happening.stops && (refused happened).all Event.quiet)
  endpoint : r.endpoint = (heeded happened).findSome? (Event.endpoint? base)
  messages : messages = (accepted happened).filterMap Event.message?

theorem tracks_start (base : Url) : Tracks base [] (start base) [] :=
  ⟨rfl, rfl, fun _ => rfl, rfl, rfl, rfl⟩

theorem decoding_decoderAfter {happened : List Happening}
    (before : happened.any Happening.stops = false) (h : Happening) (goesOn : h.stops = false) :
    decoding (decoderAfter happened) h = decoderAfter (happened ++ [h]) := by
  rw [decoderAfter, decoderAfter, brought_concat, before]
  cases h with
  | bytes chunk => simp [decoding, Happening.chunk?, Decoder.pushAll_append, Decoder.pushAll]
  | abandoned => simp [decoding, Happening.chunk?]
  | finished | failed | cancelled => cases goesOn

/-- What comes behind the end, or behind a message that could not be delivered, does not count. -/
theorem counts_of_over {happened : List Happening}
    (lost : (!happened.any Happening.stops && (refused happened).all Event.quiet) = false)
    (h : Happening) :
    accepted (happened ++ [h]) = accepted happened ∧ heeded (happened ++ [h]) = heeded happened ∧
      (!(happened ++ [h]).any Happening.stops &&
        (refused (happened ++ [h])).all Event.quiet) = false := by
  rw [accepted_concat, heeded_concat, refused_concat]
  cases ended : happened.any Happening.stops with
  | true => simp [arriving, ended]
  | false =>
    have loud : (refused happened).all Event.quiet = false := by simpa [ended] using lost
    have lost : happened.any Happening.loses = true := by
      by_contra kept
      rw [refused_of_not_lost (by simpa using kept)] at loud
      cases loud
    rw [if_pos lost, if_pos lost, List.all_append, loud]
    simp

theorem Tracks.step_stopped {happened : List Happening} {r : Reader} {messages : List Message}
    (tracks : Tracks base happened r messages) (stopped : r.reading = false) (h : Happening) :
    Tracks base (happened ++ [h]) (r.step h).1 (messages ++ (r.step h).2) := by
  obtain ⟨same, also, still⟩ := counts_of_over (tracks.reading.symm.trans stopped) h
  rw [step_of_stopped stopped]
  refine ⟨tracks.base_eq, ?_, fun reads => ?_, ?_, ?_, ?_⟩
  · simp [tracks.taken]
  · simp [stopped] at reads
  · exact stopped.trans still.symm
  · rw [also]
    exact tracks.endpoint
  · rw [same, List.append_nil]
    exact tracks.messages

theorem Tracks.step_reading {happened : List Happening} {r : Reader} {messages : List Message}
    (tracks : Tracks base happened r messages) (reading : r.reading = true) (h : Happening) :
    Tracks base (happened ++ [h]) (r.step h).1 (messages ++ (r.step h).2) := by
  obtain ⟨before, silent⟩ : happened.any Happening.stops = false ∧
      (refused happened).all Event.quiet = true := by
    simpa using tracks.reading.symm.trans reading
  have next (reads : h.stops = false) :
      decoding r.decoder h = decoderAfter (happened ++ [h]) := by
    rw [tracks.decoder reading, decoding_decoderAfter before h reads]
  have brings : events r.decoder h = arriving happened h := by
    rw [arriving, before, tracks.decoder reading]
    rfl
  rw [step_of_reading reading, brings]
  obtain ⟨home, decoder, endpoint, takes, reads⟩ := r
  obtain rfl : reads = true := reading
  obtain rfl : home = base := tracks.base_eq
  obtain rfl : endpoint = _ := tracks.endpoint
  cases takes with
  | true =>
    have kept : happened.any Happening.loses = false := by simpa using tracks.taken
    rw [actAll_of_taken]
    refine ⟨rfl, ?_, fun reads => next (by simpa using reads), ?_, ?_, ?_⟩
    · simp [kept]
    · simp [before, refused_concat, kept, silent]
    · rw [heeded_concat, silent, kept, List.findSome?_append]
      rfl
    · simp [accepted_concat, kept, tracks.messages]
  | false =>
    have lost : happened.any Happening.loses = true := by simpa using tracks.taken
    rw [actAll_of_untaken]
    refine ⟨rfl, ?_, fun reads => next ?_, ?_, ?_, ?_⟩
    · simp [lost]
    · simpa using (Bool.and_eq_true_iff.mp reads).2
    · simp [before, refused_concat, lost, silent, Bool.and_comm]
    · rw [heeded_concat, silent, lost, List.findSome?_append]
      rfl
    · simp [accepted_concat, lost, tracks.messages]

theorem Tracks.step {happened : List Happening} {r : Reader} {messages : List Message}
    (tracks : Tracks base happened r messages) (h : Happening) :
    Tracks base (happened ++ [h]) (r.step h).1 (messages ++ (r.step h).2) := by
  cases reading : r.reading with
  | true => exact tracks.step_reading reading h
  | false => exact tracks.step_stopped reading h

theorem tracks (base : Url) (happened : List Happening) :
    Tracks base happened ((start base).run happened).1 ((start base).run happened).2 := by
  induction happened using List.reverseRecOn with
  | nil => exact tracks_start base
  | append_singleton happened h ih =>
    rw [run_concat]
    exact ih.step h

end Reader

/-! ### Whole runs -/

theorem brought_bytes (chunks : List (List UInt8)) (later : List Happening) :
    brought (chunks.map .bytes ++ later) = chunks ++ brought later := by
  have pass : ∀ h ∈ chunks.map Happening.bytes, (!h.stops) = true := by simp [Happening.stops]
  rw [brought, List.takeWhile_append_of_pos pass, List.filterMap_append, List.filterMap_map]
  exact congrArg (· ++ brought later) List.filterMap_some

theorem decoded_stopped (chunks : List (List UInt8)) {h : Happening} (stops : h.stops = true)
    (later : List Happening) :
    decoded (chunks.map .bytes ++ h :: later) =
      (endedEvents chunks.flatten).map Prod.snd ++
        if h.completes then (lastEvent? chunks.flatten).toList else [] := by
  have unstopped : (chunks.map Happening.bytes).find? Happening.stops = none := by
    simp [Happening.stops]
  have nothing : brought (h :: later) = [] := by simp [brought, stops]
  rw [decoded, brought_bytes, nothing, List.append_nil, List.find?_append, unstopped]
  simp [stops]

theorem decoded_bytes (chunks : List (List UInt8)) :
    decoded (chunks.map .bytes) = (endedEvents chunks.flatten).map Prod.snd := by
  have unstopped : (chunks.map Happening.bytes).find? Happening.stops = none := by
    simp [Happening.stops]
  have all := brought_bytes chunks []
  rw [List.append_nil] at all
  rw [decoded, all, unstopped]
  simp [brought]

theorem takeWhile_unlost (chunks : List (List UInt8)) (later : List Happening) :
    (chunks.map Happening.bytes ++ later).takeWhile (fun h => !h.loses) =
      chunks.map .bytes ++ later.takeWhile fun h => !h.loses :=
  List.takeWhile_append_of_pos (by simp [Happening.loses])

theorem accepted_stopped (chunks : List (List UInt8)) {h : Happening} (stops : h.stops = true)
    (later : List Happening) :
    accepted (chunks.map .bytes ++ h :: later) = decoded (chunks.map .bytes ++ h :: later) := by
  have kept : h.loses = false := by cases h <;> first | rfl | cases stops
  rw [accepted, takeWhile_unlost, List.takeWhile_cons_of_pos (by simp [kept]),
    decoded_stopped chunks stops, decoded_stopped chunks stops]

theorem heeded_stopped (chunks : List (List UInt8)) {h : Happening} (stops : h.stops = true)
    (later : List Happening) :
    heeded (chunks.map .bytes ++ h :: later) = decoded (chunks.map .bytes ++ h :: later) := by
  rw [heeded, refused, accepted_stopped chunks stops, List.drop_length]
  simp

theorem accepted_abandoned (chunks : List (List UInt8)) (later : List Happening) :
    accepted (chunks.map .bytes ++ .abandoned :: later) = decoded (chunks.map .bytes) := by
  rw [accepted, takeWhile_unlost]
  simp [Happening.loses]

/-- What is promised of a reader of an event stream. -/
structure Routes (base : Url) : Prop where
  /-- It delivers the messages of the events that come while somebody takes messages, and nothing
  else. -/
  messages : ∀ happened, ((Reader.start base).run happened).2 =
    (accepted happened).filterMap Event.message?
  /-- Its endpoint is the first that an event names and that resolves. -/
  endpoint : ∀ happened, ((Reader.start base).run happened).1.endpoint =
    (heeded happened).findSome? (Event.endpoint? base)
  /-- An endpoint stays. -/
  kept : ∀ happened url, ((Reader.start base).run happened).1.endpoint = some url →
    ∀ later, ((Reader.start base).run (happened ++ later)).1.endpoint = some url
  /-- It reads until something stops it or a message cannot be delivered. -/
  reading : ∀ happened, ((Reader.start base).run happened).1.reading = true ↔
    (∀ h ∈ happened, h.stops = false) ∧ ∀ e ∈ refused happened, e.message? = none
  /-- An event passes without a trace if it carries no message and either names no endpoint that
  resolves or comes when there is one. -/
  passes : ∀ happened e, e.message? = none →
    e.endpoint? base = none ∨ ((Reader.start base).run happened).1.endpoint.isSome →
    ((Reader.start base).run happened).1.act e = (((Reader.start base).run happened).1, none)
  /-- A stream that ends cleanly gives its last event also if no blank line ends it. -/
  finished : ∀ chunks later,
    let events := (endedEvents (List.flatten chunks)).map Prod.snd ++
      (lastEvent? (List.flatten chunks)).toList
    let after := (Reader.start base).run (chunks.map .bytes ++ .finished :: later)
    after.2 = events.filterMap Event.message? ∧
      after.1.endpoint = events.findSome? (Event.endpoint? base)
  /-- A stream that breaks off or is no longer read does not. -/
  cut : ∀ chunks h later, h = .failed ∨ h = .cancelled →
    let events := (endedEvents (List.flatten chunks)).map Prod.snd
    let after := (Reader.start base).run (chunks.map .bytes ++ h :: later)
    after.2 = events.filterMap Event.message? ∧
      after.1.endpoint = events.findSome? (Event.endpoint? base)
  /-- When nobody takes messages any more, those count whose events have come. -/
  abandoned : ∀ chunks later,
    ((Reader.start base).run (chunks.map .bytes ++ .abandoned :: later)).2 =
      ((endedEvents (List.flatten chunks)).map Prod.snd).filterMap Event.message?

/-- However an event stream comes and ends, its reader sends each event where it belongs. -/
theorem reader_routes (base : Url) : Routes base where
  messages happened := (Reader.tracks base happened).messages
  endpoint happened := (Reader.tracks base happened).endpoint
  kept happened url found later := by
    rw [(Reader.tracks base _).endpoint] at found ⊢
    exact (heeded_grows happened later).findSome?_eq_some found
  reading happened := by
    rw [(Reader.tracks base happened).reading]
    simp [Event.quiet]
  passes happened e silent unneeded := by
    have home := (Reader.tracks base happened).base_eq
    generalize ((Reader.start base).run happened).1 = r at unneeded home
    obtain ⟨_, decoder, endpoint, taken, reads⟩ := r
    obtain rfl := home
    cases reads with
    | false => exact Reader.act_of_stopped rfl e
    | true =>
      rw [Reader.act_of_quiet silent]
      rcases unneeded with unresolved | known
      · rw [unresolved, Option.or_none]
      · obtain ⟨url, rfl⟩ := Option.isSome_iff_exists.mp known
        rfl
  finished chunks later := by
    have events := decoded_stopped chunks (h := .finished) rfl later
    refine ⟨?_, ?_⟩
    · rw [(Reader.tracks base _).messages, accepted_stopped chunks rfl, events]
      rfl
    · rw [(Reader.tracks base _).endpoint, heeded_stopped chunks rfl, events]
      rfl
  cut chunks h later breaks := by
    have stops : h.stops = true := by rcases breaks with rfl | rfl <;> rfl
    have unclean : h.completes = false := by rcases breaks with rfl | rfl <;> rfl
    have events := decoded_stopped chunks stops later
    rw [unclean, if_neg Bool.false_ne_true, List.append_nil] at events
    refine ⟨?_, ?_⟩
    · rw [(Reader.tracks base _).messages, accepted_stopped chunks stops, events]
    · rw [(Reader.tracks base _).endpoint, heeded_stopped chunks stops, events]
  abandoned chunks later := by
    rw [(Reader.tracks base _).messages, accepted_abandoned, decoded_bytes]

end Mcp.EventStream
