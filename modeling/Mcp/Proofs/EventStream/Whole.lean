import Mcp.Proofs.EventStream.Decoder
import Mcp.Proofs.Text.Lossy

/-!
A decoder gives the events of the whole stream, at the byte that completes each
(`decoder_reads_whole`). Both sides are followed one byte at a time: `Follows` ties the bytes that
the decoder keeps to the lines and groups of the stream so far. Both decode lines alike, so what a
line is decoded to is said for itself (`ReadsWhole.decoded`).
-/

namespace Mcp.EventStream

/-! ### The stream with one byte more -/

namespace Lines

/-- The lines with a byte behind them that is no part of a line end before it. -/
def withByte (place : Nat) (b : UInt8) (lines : Lines) : Lines :=
  if b = lineFeed ∨ b = carriageReturn then ⟨lines.ended ++ [⟨lines.rest, place⟩], []⟩
  else { lines with rest := lines.rest ++ [b] }

theorem withByte_afterEnd (first place : Nat) (b : UInt8) (lines : Lines) :
    withByte place b (afterEnd first lines) = afterEnd first (withByte place b lines) := by
  unfold withByte afterEnd
  split <;> rfl

theorem withByte_afterByte (a : UInt8) (place : Nat) (b : UInt8) (lines : Lines) :
    withByte place b (afterByte a lines) = afterByte a (withByte place b lines) := by
  obtain ⟨ended, rest⟩ := lines
  unfold withByte afterByte
  cases ended <;> split <;> rfl

theorem read_singleton (place : Nat) (b : UInt8) :
    read place [b] = withByte place b ⟨[], []⟩ := by
  rw [read, withByte]
  split <;> rfl

theorem read_cons (place : Nat) (b c : UInt8) (rest : List UInt8) :
    read place (b :: c :: rest) =
      if b = carriageReturn ∧ c = lineFeed then afterEnd place (read (place + 2) rest)
      else if b = lineFeed ∨ b = carriageReturn then afterEnd place (read (place + 1) (c :: rest))
      else afterByte b (read (place + 1) (c :: rest)) := by
  rw [read]

theorem read_concat (b : UInt8) : ∀ (place : Nat) (bytes : List UInt8),
    read place (bytes ++ [b]) =
      if b = lineFeed ∧ bytes.getLast? = some carriageReturn then read place bytes
      else withByte (place + bytes.length) b (read place bytes)
  | place, [] => by
    rw [List.nil_append, read_singleton]
    simp [read]
  | place, [c] => by
    rw [List.singleton_append, read_cons, List.getLast?_singleton, List.length_singleton]
    by_cases crlf : c = carriageReturn ∧ b = lineFeed
    · rw [if_pos crlf, if_pos ⟨crlf.2, congrArg some crlf.1⟩, crlf.1]
      rfl
    · have apart : ¬ (b = lineFeed ∧ some c = some carriageReturn) :=
        fun ⟨feed, carriage⟩ => crlf ⟨Option.some.inj carriage, feed⟩
      rw [if_neg crlf, if_neg apart, read_singleton (place + 1), read]
      by_cases ends : c = lineFeed ∨ c = carriageReturn
      · rw [if_pos ends, if_pos ends, withByte_afterEnd]
      · rw [if_neg ends, if_neg ends, withByte_afterByte]
  | place, c :: d :: rest => by
    have tail := read_concat b (place + 2) rest
    have step := read_concat b (place + 1) (d :: rest)
    rw [List.cons_append] at step
    have last : (c :: d :: rest).getLast? = (d :: rest).getLast? := by simp [List.getLast?_cons]
    have length : place + (c :: d :: rest).length = place + 1 + (d :: rest).length := by
      simp only [List.length_cons]
      omega
    rw [List.cons_append, List.cons_append, read_cons, read_cons, last, length]
    by_cases crlf : c = carriageReturn ∧ d = lineFeed
    · have same : (d :: rest).getLast? = some carriageReturn ↔
          rest.getLast? = some carriageReturn := by
        cases rest with
        | nil => simp [crlf.2, lineFeed, carriageReturn]
        | cons => simp [List.getLast?_cons]
      have place_eq : place + 1 + (d :: rest).length = place + 2 + rest.length := by
        simp only [List.length_cons]
        omega
      rw [if_pos crlf, if_pos crlf, tail]
      simp only [same, place_eq]
      split
      · rfl
      · rw [withByte_afterEnd]
    · rw [if_neg crlf, if_neg crlf, step]
      by_cases ends : c = lineFeed ∨ c = carriageReturn
      · rw [if_pos ends, if_pos ends]
        split
        · rfl
        · rw [withByte_afterEnd]
      · rw [if_neg ends, if_neg ends]
        split
        · rfl
        · rw [withByte_afterByte]

end Lines

theorem Groups.read_concat (lines : List Line) (line : Line) :
    read (lines ++ [line]) =
      if line.bytes.isEmpty then ⟨(read lines).ended ++ [⟨(read lines).rest, line.stop⟩], []⟩
      else { read lines with rest := (read lines).rest ++ [line.bytes] } := by
  induction lines with
  | nil => simp [read]
  | cons first lines ih =>
    rw [List.cons_append, read, ih, read]
    generalize read lines = groups
    obtain ⟨ended, rest⟩ := groups
    cases line.bytes.isEmpty <;> cases first.bytes.isEmpty <;> cases ended <;> simp

/-! ### The decoder beside the stream -/

/-- The bytes that a decoder keeps are lines of the stream, blank ones and others, that no blank
line ended, and the bytes of the last line. -/
structure Follows (lines : Lines) (block : List UInt8) (kept : List (List UInt8)) : Prop where
  block_eq : block = ended kept ++ lines.rest
  kept_lines : ∀ line ∈ kept, lineFeed ∉ line
  rest_line : lineFeed ∉ lines.rest
  group_eq : (Groups.read lines.ended).rest = kept.filter fun line => !line.isEmpty

theorem Follows.next_byte {lines : Lines} {block : List UInt8} {kept : List (List UInt8)}
    (follows : Follows lines block kept) {b : UInt8} (feed : b ≠ lineFeed)
    (carriage : b ≠ carriageReturn) (place : Nat) :
    feedByte block b = (block ++ [b], none) ∧
      Follows (lines.withByte place b) (block ++ [b]) kept := by
  have next : lines.withByte place b = ⟨lines.ended, lines.rest ++ [b]⟩ := by
    rw [Lines.withByte, if_neg (by simp [feed, carriage])]
  rw [next]
  refine ⟨by simp [feedByte, feed], ?_, follows.kept_lines, ?_, follows.group_eq⟩
  · rw [follows.block_eq, List.append_assoc]
  · simpa [follows.rest_line] using Ne.symm feed

/-- The end of a blank line ends the block, unless the block has just begun. -/
theorem Follows.next_blank {lines : Lines} {block : List UInt8} {kept : List (List UInt8)}
    (follows : Follows lines block kept) (blank : lines.rest = []) (place : Nat) :
    (feedByte block lineFeed).2 = groupEvent? (Groups.read lines.ended).rest ∧
      ∃ kept', Follows ⟨lines.ended ++ [⟨[], place⟩], []⟩ (feedByte block lineFeed).1 kept' := by
  have group : (Groups.read (lines.ended ++ [⟨[], place⟩])).rest = [] := by
    rw [Groups.read_concat]
    rfl
  have block_eq := follows.block_eq
  rw [blank, List.append_nil] at block_eq
  rw [follows.group_eq]
  rcases List.eq_nil_or_concat kept with rfl | ⟨front, last, rfl⟩
  · rw [show block = [] from block_eq, feedByte_nil]
    refine ⟨rfl, [[]], rfl, by simp, by simp, ?_⟩
    rw [group]
    rfl
  · have lines_kept := follows.kept_lines
    rw [List.concat_eq_append] at block_eq lines_kept ⊢
    have ends : feedByte block lineFeed =
        ([], blockEvent? (Text.decode (ended front ++ last))) := by
      rw [block_eq, ended_concat]
      simp [feedByte]
    rw [ends]
    refine ⟨?_, [], rfl, by simp, by simp, group⟩
    exact blockEvent?_ended (fun line hline => lines_kept line (by simp [hline]))
      (lines_kept last (by simp))

/-- The end of another line is kept. -/
theorem Follows.next_line {lines : Lines} {block : List UInt8} {kept : List (List UInt8)}
    (follows : Follows lines block kept) (filled : lines.rest ≠ []) (place : Nat) :
    (feedByte block lineFeed).2 = none ∧
      Follows ⟨lines.ended ++ [⟨lines.rest, place⟩], []⟩ (feedByte block lineFeed).1
        (kept ++ [lines.rest]) := by
  have last : block.getLast? ≠ some lineFeed := by
    rw [follows.block_eq, List.getLast?_append, List.getLast?_eq_some_getLast filled,
      Option.some_or]
    intro same
    exact follows.rest_line (Option.some.inj same ▸ List.getLast_mem filled)
  have stays : feedByte block lineFeed = (block ++ [lineFeed], none) := by
    simp [feedByte, last]
  have unblank : lines.rest.isEmpty = false := by simpa using filled
  rw [stays]
  refine ⟨rfl, ?_, ?_, by simp, ?_⟩
  · rw [ended_concat, follows.block_eq, List.append_nil]
  · intro line hline
    rcases List.mem_append.mp hline with before | this
    · exact follows.kept_lines line before
    · rw [List.mem_singleton.mp this]
      exact follows.rest_line
  · rw [Groups.read_concat]
    simp [unblank, follows.group_eq]

/-! ### The events of the stream with one byte more -/

/-- The event that one byte more completes. -/
def completes? (bytes : List UInt8) (b : UInt8) : Option Event :=
  if b = lineFeed ∧ bytes.getLast? = some carriageReturn then none
  else if (b = lineFeed ∨ b = carriageReturn) ∧ (Lines.read 0 bytes).rest = [] then
    groupEvent? (Groups.read (Lines.read 0 bytes).ended).rest
  else none

theorem endedEvents_concat (bytes : List UInt8) (b : UInt8) :
    endedEvents (bytes ++ [b]) =
      endedEvents bytes ++ ((completes? bytes b).map (bytes.length, ·)).toList := by
  simp only [endedEvents, completes?, Lines.read_concat, Nat.zero_add]
  split
  · simp
  · generalize Lines.read 0 bytes = lines
    by_cases ends : b = lineFeed ∨ b = carriageReturn
    · rw [Lines.withByte, if_pos ends, Groups.read_concat]
      by_cases blank : lines.rest = []
      · simp only [blank, List.isEmpty_nil, if_true, List.filterMap_append, ends, and_self]
        cases completed : groupEvent? (Groups.read lines.ended).rest <;> simp [completed]
      · simp [blank, List.isEmpty_iff]
    · simp [Lines.withByte, ends]

/-- The events of more bytes are those of the first ones and others, each at a place behind the
first ones. -/
theorem endedEvents_append (bytes more : List UInt8) :
    ∃ events, endedEvents (bytes ++ more) = endedEvents bytes ++ events ∧
      ∀ e ∈ events, bytes.length ≤ e.1 ∧ e.1 < bytes.length + more.length := by
  induction more generalizing bytes with
  | nil => exact ⟨[], by simp, by simp⟩
  | cons b more ih =>
    obtain ⟨events, found, places⟩ := ih (bytes ++ [b])
    rw [List.append_assoc, List.singleton_append, endedEvents_concat, List.append_assoc] at found
    refine ⟨_, found, fun e he => ?_⟩
    rw [List.length_append, List.length_singleton] at places
    rw [List.length_cons]
    rcases List.mem_append.mp he with here | later
    · rw [Option.mem_toList, Option.map_eq_some_iff] at here
      obtain ⟨_, _, rfl⟩ := here
      exact ⟨Nat.le_refl _, by omega⟩
    · have := places e later
      omega

/-! ### The decoder reads the whole stream -/

theorem endsInReturn_false {bytes : List UInt8} :
    endsInReturn false bytes = true ↔ bytes.getLast? = some carriageReturn := by
  unfold endsInReturn
  cases bytes.getLast? <;> simp

/-- What a decoder keeps of bytes and gives for them is what the stream says of them. -/
structure Agrees (bytes : List UInt8) : Prop where
  follows : ∃ kept, Follows (Lines.read 0 bytes) (Decoder.fresh.afterBytes bytes).1 kept
  events : (Decoder.fresh.afterBytes bytes).2 = (endedEvents bytes).map Prod.snd

theorem agrees_nil : Agrees [] where
  follows := ⟨[], rfl, by simp, by simp [Lines.read], rfl⟩
  events := rfl

/-- One byte more in the buffer. -/
theorem afterBytes_concat (bytes : List UInt8) (b c : UInt8)
    (h : normalized (endsInReturn false bytes) [b] = [c]) :
    Decoder.fresh.afterBytes (bytes ++ [b]) =
      ((feedByte (Decoder.fresh.afterBytes bytes).1 c).1, (Decoder.fresh.afterBytes bytes).2 ++
        (feedByte (Decoder.fresh.afterBytes bytes).1 c).2.toList) := by
  have fresh : Decoder.fresh.afterReturn = false := rfl
  simp only [Decoder.afterBytes, fresh, normalized_append, h, feed_append, feed, List.append_nil]

theorem Agrees.next {bytes : List UInt8} (agrees : Agrees bytes) (b : UInt8) :
    Agrees (bytes ++ [b]) := by
  obtain ⟨⟨kept, follows⟩, events⟩ := agrees
  by_cases second : b = lineFeed ∧ bytes.getLast? = some carriageReturn
  · have skipped : normalized (endsInReturn false bytes) [b] = [] := by
      rw [endsInReturn_false.mpr second.2, second.1]
      rfl
    have same : Decoder.fresh.afterBytes (bytes ++ [b]) = Decoder.fresh.afterBytes bytes := by
      have fresh : Decoder.fresh.afterReturn = false := rfl
      simp only [Decoder.afterBytes, fresh, normalized_append, skipped, List.append_nil]
    refine ⟨⟨kept, ?_⟩, ?_⟩
    · rw [Lines.read_concat, if_pos second, same]
      exact follows
    · rw [endedEvents_concat, completes?, if_pos second, same, events]
      simp
  · by_cases ends : b = lineFeed ∨ b = carriageReturn
    · have feeds : normalized (endsInReturn false bytes) [b] = [lineFeed] := by
        rcases ends with rfl | rfl
        · have fresh : endsInReturn false bytes = false := by
            rw [Bool.eq_false_iff, ne_eq, endsInReturn_false]
            exact fun carriage => second ⟨rfl, carriage⟩
          rw [fresh]
          rfl
        · simp [normalized, lineFeed, carriageReturn]
      have next : Lines.read 0 (bytes ++ [b]) =
          ⟨(Lines.read 0 bytes).ended ++ [⟨(Lines.read 0 bytes).rest, 0 + bytes.length⟩], []⟩ := by
        rw [Lines.read_concat, if_neg second, Lines.withByte, if_pos ends]
      by_cases blank : (Lines.read 0 bytes).rest = []
      · obtain ⟨completed, kept', follows'⟩ := follows.next_blank blank (0 + bytes.length)
        refine ⟨⟨kept', ?_⟩, ?_⟩
        · rw [next, blank, afterBytes_concat bytes b lineFeed feeds]
          exact follows'
        · rw [afterBytes_concat bytes b lineFeed feeds, completed, events, endedEvents_concat,
            completes?, if_neg second, if_pos ⟨ends, blank⟩]
          cases groupEvent? (Groups.read (Lines.read 0 bytes).ended).rest <;> simp
      · obtain ⟨silent, follows'⟩ := follows.next_line blank (0 + bytes.length)
        refine ⟨⟨kept ++ [(Lines.read 0 bytes).rest], ?_⟩, ?_⟩
        · rw [next, afterBytes_concat bytes b lineFeed feeds]
          exact follows'
        · rw [afterBytes_concat bytes b lineFeed feeds, silent, events, endedEvents_concat,
            completes?, if_neg second, if_neg (by simp [blank])]
          simp
    · rw [not_or] at ends
      have adds : normalized (endsInReturn false bytes) [b] = [b] := by
        simp [normalized, ends]
      obtain ⟨silent, follows'⟩ := follows.next_byte ends.1 ends.2 (0 + bytes.length)
      refine ⟨⟨kept, ?_⟩, ?_⟩
      · rw [Lines.read_concat, if_neg second, afterBytes_concat bytes b b adds, silent]
        exact follows'
      · rw [afterBytes_concat bytes b b adds, silent, events, endedEvents_concat, completes?,
          if_neg second, if_neg (by simp [ends])]
        simp

theorem agrees (bytes : List UInt8) : Agrees bytes := by
  have general (more : List UInt8) : ∀ bytes, Agrees bytes → Agrees (bytes ++ more) := by
    induction more with
    | nil => exact fun bytes h => by rwa [List.append_nil]
    | cons b more ih =>
      intro bytes h
      have := ih _ (h.next b)
      rwa [List.append_assoc, List.singleton_append] at this
  exact general bytes [] agrees_nil

theorem pushAll_fresh (chunks : List (List UInt8)) :
    (Decoder.fresh.pushAll chunks).2.flatten = (endedEvents chunks.flatten).map Prod.snd := by
  rw [(Decoder.pushAll_spec Decoder.settled_fresh chunks).2]
  exact (agrees chunks.flatten).events

theorem flush_pushAll (chunks : List (List UInt8)) :
    (Decoder.fresh.pushAll chunks).1.flush = (.fresh, lastEvent? chunks.flatten) := by
  obtain ⟨kept, follows⟩ := (agrees chunks.flatten).follows
  have buffer := (Decoder.pushAll_spec Decoder.settled_fresh chunks).1
  rw [follows.block_eq] at buffer
  rw [Decoder.flush, buffer, blockEvent?_ended follows.kept_lines follows.rest_line, lastEvent?,
    follows.group_eq, List.filter_append]
  cases (Lines.read 0 chunks.flatten).rest <;> rfl

/-- How the events that a decoder gives for chunks are those of the whole stream. -/
structure ReadsWhole (chunks : List (List UInt8)) : Prop where
  /-- What a line of the stream is decoded to, and nothing else. -/
  decoded (line : List UInt8) (text : List Char) :
    Text.ReadsAs line text ↔ text = Text.decode line
  /-- The chunks give the events that blank lines end, in order. -/
  pushed : (Decoder.fresh.pushAll chunks).2.flatten = (endedEvents chunks.flatten).map Prod.snd
  /-- Each event comes with the chunk that holds the first byte of its blank line's line end. -/
  timely {before after : List (List UInt8)} {chunk : List UInt8} :
    chunks = before ++ chunk :: after →
    ((Decoder.fresh.pushAll before).1.push chunk).2 =
      ((endedEvents chunks.flatten).filter fun e =>
        before.flatten.length ≤ e.1 ∧ e.1 < before.flatten.length + chunk.length).map Prod.snd
  /-- The end of the stream gives the event of the last group and a decoder that is as new. -/
  flushed : (Decoder.fresh.pushAll chunks).1.flush = (.fresh, lastEvent? chunks.flatten)

/-- However a stream is cut, a decoder reads the whole stream. -/
theorem decoder_reads_whole (chunks : List (List UInt8)) : ReadsWhole chunks where
  decoded _ _ := Text.readsAs_iff
  pushed := pushAll_fresh chunks
  timely {before after chunk} cut := by
    subst cut
    obtain ⟨earlier, first, places⟩ := endedEvents_append [] before.flatten
    obtain ⟨here, upTo, near⟩ := endedEvents_append before.flatten chunk
    obtain ⟨later, all, far⟩ := endedEvents_append (before.flatten ++ chunk) after.flatten
    have given : ((Decoder.fresh.pushAll before).1.push chunk).2 = here.map Prod.snd := by
      have both := pushAll_fresh (before ++ [chunk])
      have flat : (before ++ [chunk]).flatten = before.flatten ++ chunk := by simp
      rw [Decoder.pushAll_append, List.flatten_append, pushAll_fresh before, flat, upTo,
        List.map_append, List.append_cancel_left_eq] at both
      simpa [Decoder.pushAll] using both
    have flat : (before ++ chunk :: after).flatten = before.flatten ++ chunk ++ after.flatten := by
      simp
    have before_chunk : ∀ e ∈ endedEvents before.flatten, e.1 < before.flatten.length := by
      have first : endedEvents before.flatten = earlier := first
      rw [first]
      intro e he
      simpa using (places e he).2
    rw [given, flat, all, upTo, List.filter_append, List.filter_append]
    rw [List.filter_eq_nil_iff.mpr, List.filter_eq_self.mpr, List.filter_eq_nil_iff.mpr]
    · simp
    · intro e he
      have := (far e he).1
      rw [List.length_append] at this
      simp only [decide_eq_true_eq]
      omega
    · intro e he
      simpa using near e he
    · intro e he
      have := before_chunk e he
      simp only [decide_eq_true_eq]
      omega
  flushed := flush_pushAll chunks

/-- A comment, a name without a colon, a value behind two spaces, a field that does not count, a byte
that is no text and a group that nothing ends; the cuts are inside line ends and a character. -/
theorem decoder_reads_whole_cut :
    let first := Text.encode ": hi\r"
    let second := Text.encode "\nevent: e\r\ndata:  x:y\r\ndata\r\nretry: 5\r\nid\r\n\r"
    let third := Text.encode "\ndata: caf" ++ [0xC3]
    let chunks := [first, second, [], third, [0xA9, 0xFF]]
    (Decoder.fresh.pushAll chunks).2.flatten = [⟨some "e", " x:y\n", some ""⟩] ∧
      ((Decoder.fresh.pushAll [first]).1.push second).2 = [⟨some "e", " x:y\n", some ""⟩] ∧
      (Decoder.fresh.pushAll chunks).1.flush = (.fresh, some ⟨none, "café\uFFFD", none⟩) ∧
      Text.ReadsAs [0xE2, 0x82, 0x41] ['\uFFFD', 'A'] := by
  intro first second third chunks
  have whole := decoder_reads_whole chunks
  have ended : endedEvents chunks.flatten = [(48, ⟨some "e", " x:y\n", some ""⟩)] := by
    decide +kernel
  have last : lastEvent? chunks.flatten = some ⟨none, "café\uFFFD", none⟩ := by decide +kernel
  refine ⟨?_, ?_, ?_, ?_⟩
  · rw [whole.pushed, ended]
    rfl
  · rw [whole.timely (show chunks = [first] ++ second :: [[], third, [0xA9, 0xFF]] from rfl), ended]
    decide +kernel
  · rw [whole.flushed, last]
  · rw [whole.decoded]
    rfl

end Mcp.EventStream
