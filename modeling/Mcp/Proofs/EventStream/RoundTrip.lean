import Mcp.EventStream.Written
import Mcp.Proofs.EventStream.Whole

/-!
A decoder gives back the events of which a stream was written, however the stream is cut
(`decoder_reads_back`). The lines of the stream are read back first, then the groups between its
blank lines, then the event of each group.
-/

namespace Mcp.EventStream

/-! ### Lines are read back -/

/-- Whether bytes stand on one line: no line end is among them. -/
def Unbroken (bytes : List UInt8) : Prop := lineFeed ∉ bytes ∧ carriageReturn ∉ bytes

namespace Lines

theorem read_other (place : Nat) {b : UInt8} (feed : b ≠ lineFeed) (carriage : b ≠ carriageReturn)
    (rest : List UInt8) : read place (b :: rest) = afterByte b (read (place + 1) rest) := by
  cases rest with
  | nil => simp [read, feed, carriage]
  | cons => rw [read_cons, if_neg (by simp [carriage]), if_neg (by simp [feed, carriage])]

/-- A line feed behind a lone carriage return would belong to the same line end. -/
theorem read_lineEnd (ending : LineEnd) (place : Nat) {rest : List UInt8}
    (apart : ending = .carriage → rest.head? ≠ some lineFeed) :
    read place (ending.bytes ++ rest) =
      afterEnd place (read (place + ending.bytes.length) rest) := by
  cases ending with
  | both => simp [LineEnd.bytes, read_cons]
  | feed => cases rest <;> simp [LineEnd.bytes, read, lineFeed, carriageReturn]
  | carriage =>
    cases rest with
    | nil => simp [LineEnd.bytes, read]
    | cons b rest =>
      have other : b ≠ lineFeed := by simpa using apart rfl
      simp [LineEnd.bytes, read_cons, other]

theorem read_line {line : List UInt8} (unbroken : Unbroken line) (ending : LineEnd) (place : Nat)
    {rest : List UInt8} (apart : ending = .carriage → rest.head? ≠ some lineFeed) :
    ∃ after, read place (line ++ (ending.bytes ++ rest)) =
      { read after rest with
        ended := ⟨line, place + line.length⟩ :: (read after rest).ended } := by
  induction line generalizing place with
  | nil => exact ⟨_, read_lineEnd ending place apart⟩
  | cons b line ih =>
    obtain ⟨feed, carriage⟩ := unbroken
    rw [List.mem_cons, not_or] at feed carriage
    obtain ⟨after, read_rest⟩ := ih ⟨feed.2, carriage.2⟩ (place + 1)
    refine ⟨after, ?_⟩
    rw [List.cons_append, read_other place (Ne.symm feed.1) (Ne.symm carriage.1), read_rest]
    simp [afterByte, Nat.add_comm, Nat.add_left_comm]

end Lines

theorem head?_terminated {lines : List (List UInt8)} (unbroken : ∀ line ∈ lines, Unbroken line) :
    (terminated .carriage lines).head? ≠ some lineFeed := by
  cases lines with
  | nil => simp [terminated]
  | cons line lines =>
    cases line with
    | nil => simp [terminated, LineEnd.bytes, lineFeed, carriageReturn]
    | cons b line =>
      have := (unbroken (b :: line) List.mem_cons_self).1
      rw [List.mem_cons, not_or] at this
      simpa [terminated] using Ne.symm this.1

/-- Lines that a line end ends, and nothing behind the last of them. -/
theorem read_terminated (ending : LineEnd) {lines : List (List UInt8)}
    (unbroken : ∀ line ∈ lines, Unbroken line) (place : Nat) :
    (Lines.read place (terminated ending lines)).ended.map Line.bytes = lines ∧
      (Lines.read place (terminated ending lines)).rest = [] := by
  induction lines generalizing place with
  | nil => exact ⟨rfl, rfl⟩
  | cons line lines ih =>
    have others : ∀ line ∈ lines, Unbroken line := fun l hl =>
      unbroken l (List.mem_cons_of_mem _ hl)
    have apart : ending = .carriage → (terminated ending lines).head? ≠ some lineFeed := by
      rintro rfl
      exact head?_terminated others
    obtain ⟨after, read_eq⟩ := Lines.read_line (unbroken line List.mem_cons_self) ending place apart
    obtain ⟨ended, rest⟩ := ih others after
    have split : terminated ending (line :: lines) =
        line ++ (ending.bytes ++ terminated ending lines) := by
      simp [terminated]
    rw [split, read_eq, List.map_cons, ended]
    exact ⟨rfl, rest⟩

/-! ### Groups are read back -/

/-- What lines come to, wherever they stand: the events that blank lines end, and the event of the
lines behind the last blank line. -/
def Give (lines : List (List UInt8)) (events : List Event) (last : Option Event) : Prop :=
  ∀ placed : List Line, placed.map Line.bytes = lines →
    ((Groups.read placed).ended.filterMap fun group => groupEvent? group.lines) = events ∧
      groupEvent? (Groups.read placed).rest = last

theorem give_nil : Give [] [] none := by
  intro placed same
  rw [List.map_eq_nil_iff.mp same]
  exact ⟨rfl, rfl⟩

/-- A comment counts for nothing in its group. -/
theorem groupEvent?_comment (text : List UInt8) (lines : List (List UInt8)) :
    groupEvent? ((Filler.comment text).line :: lines) = groupEvent? lines := by
  have head : (Text.decode (Filler.comment text).line).head? = some ':' := by
    rw [Filler.line, Text.decode_encode_append]
    rfl
  unfold groupEvent?
  rw [List.map_cons, List.filter_cons_of_neg (by simp [head])]

theorem Give.filler {lines : List (List UInt8)} {events : List Event} {last : Option Event}
    (give : Give lines events last) (filler : Filler) :
    Give (filler.line :: lines) events last := by
  intro placed same
  obtain ⟨line, more, rfl, bytes, same⟩ := List.map_eq_cons_iff.mp same
  obtain ⟨ended, rest⟩ := give more same
  rw [Groups.read]
  cases filler with
  | blank =>
    rw [if_pos (by simp [bytes, Filler.line])]
    exact ⟨ended, rest⟩
  | comment text =>
    have filled : line.bytes.isEmpty = false := by
      rw [bytes]
      simp [Filler.line, Text.encode_eq, String.utf8EncodeChar]
    rw [if_neg (by simp [filled]), bytes]
    generalize Groups.read more = groups at ended rest ⊢
    obtain ⟨groups, others⟩ := groups
    cases groups with
    | nil => exact ⟨ended, (groupEvent?_comment text others).trans rest⟩
    | cons group groups =>
      refine ⟨?_, rest⟩
      rw [← ended, List.filterMap_cons, List.filterMap_cons, groupEvent?_comment]

/-- Lines that are not blank are the group that the next blank line ends. -/
theorem Groups.read_block {block lines : List (List UInt8)} (filled : ∀ line ∈ block, line ≠ [])
    (placed : List Line) (same : placed.map Line.bytes = block ++ [] :: lines) :
    ∃ stop more, more.map Line.bytes = lines ∧
      read placed = { read more with ended := ⟨block, stop⟩ :: (read more).ended } := by
  induction block generalizing placed with
  | nil =>
    obtain ⟨line, more, rfl, bytes, same⟩ := List.map_eq_cons_iff.mp same
    refine ⟨line.stop, more, same, ?_⟩
    rw [read, if_pos (by simp [bytes])]
  | cons first block ih =>
    obtain ⟨line, more, rfl, bytes, same⟩ := List.map_eq_cons_iff.mp same
    obtain ⟨stop, others, kept, read_more⟩ :=
      ih (fun l hl => filled l (List.mem_cons_of_mem _ hl)) more same
    refine ⟨stop, others, kept, ?_⟩
    have unblank : line.bytes.isEmpty = false := by
      simpa [bytes] using filled first List.mem_cons_self
    rw [read, if_neg (by simp [unblank]), read_more, bytes]

theorem Give.block {lines : List (List UInt8)} {events : List Event} {last : Option Event}
    (give : Give lines events last) {block : List (List UInt8)}
    (filled : ∀ line ∈ block, line ≠ []) :
    Give (block ++ [] :: lines) ((groupEvent? block).toList ++ events) last := by
  intro placed same
  obtain ⟨stop, more, kept, read_eq⟩ := Groups.read_block filled placed same
  obtain ⟨ended, rest⟩ := give more kept
  rw [read_eq]
  refine ⟨?_, rest⟩
  rw [List.filterMap_cons, ended]
  cases groupEvent? block <;> rfl

theorem give_fillers {lines : List (List UInt8)} {events : List Event} {last : Option Event}
    (give : Give lines events last) (fillers : List Filler) :
    Give (fillers.map Filler.line ++ lines) events last := by
  induction fillers with
  | nil => exact give
  | cons filler fillers ih => exact ih.filler filler

/-! ### Events are read back -/

theorem lineField_fieldLine {field : String × String} (plain : ':' ∉ field.1.toList) :
    lineField (fieldLine field).toList = field := by
  obtain ⟨name, value⟩ := field
  have split : (fieldLine (name, value)).toList = name.toList ++ ':' :: ' ' :: value.toList := by
    simp [fieldLine]
  rw [split, lineField_append plain]
  simp

theorem name_of_mem_fields {e : Event} {field : String × String} (h : field ∈ e.fields) :
    field.1 ∈ ["event", "id", "data"] := by
  simp only [Event.fields, List.mem_append, Option.mem_toList, Option.map_eq_some_iff,
    List.mem_map] at h
  rcases h with (⟨_, _, rfl⟩ | ⟨_, _, rfl⟩) | ⟨_, _, rfl⟩ <;> simp

theorem intercalate_pieces (text : String) : "\n".intercalate (pieces text) = text := by
  rw [← String.toList_inj, String.toList_intercalate, pieces, List.map_map]
  have same : String.toList ∘ String.ofList = id := by
    funext cs
    exact String.toList_ofList
  rw [same, List.map_id, show "\n".toList = ['\n'] from rfl]
  exact Text.intercalate_splitBy (by simp) text.toList

theorem colon_not_mem_name {e : Event} {field : String × String} (h : field ∈ e.fields) :
    ':' ∉ field.1.toList := by
  have named := name_of_mem_fields h
  generalize field.1 = name at named
  simp only [List.mem_cons, List.not_mem_nil, or_false] at named
  rcases named with rfl | rfl | rfl <;> decide

theorem head?_fieldLine {e : Event} {field : String × String} (h : field ∈ e.fields) :
    ∃ c, c ≠ ':' ∧ (fieldLine field).toList.head? = some c := by
  have named := name_of_mem_fields h
  obtain ⟨name, value⟩ := field
  simp only [List.mem_cons, List.not_mem_nil, or_false] at named
  rcases named with rfl | rfl | rfl
  · exact ⟨'e', by decide, by simp [fieldLine]⟩
  · exact ⟨'i', by decide, by simp [fieldLine]⟩
  · exact ⟨'d', by decide, by simp [fieldLine]⟩

theorem valuesOf_fields (e : Event) :
    valuesOf "data" e.fields = pieces e.data ∧ valuesOf "event" e.fields = e.kind.toList ∧
      valuesOf "id" e.fields = e.id.toList := by
  obtain ⟨kind, data, id⟩ := e
  cases kind <;> cases id <;>
    simp [valuesOf, Event.fields, List.filter_map, Function.comp_def]

/-- The lines of an event give the event. -/
theorem groupEvent?_lines (e : Event) : groupEvent? (e.lines.map Text.encode) = some e := by
  have decoded : (e.lines.map Text.encode).map Text.decode =
      e.fields.map fun field => (fieldLine field).toList := by
    simp only [Event.lines, List.map_map]
    refine List.map_congr_left fun field _ => ?_
    have whole := Text.decode_encode_append (fieldLine field) []
    simpa [show Text.decode [] = [] from rfl] using whole
  have plain : (e.fields.map fun field => (fieldLine field).toList).filter
      (fun line => line.head? ≠ some ':') = e.fields.map fun field => (fieldLine field).toList := by
    rw [List.filter_eq_self]
    intro line member
    obtain ⟨field, inside, rfl⟩ := List.mem_map.mp member
    obtain ⟨c, other, head⟩ := head?_fieldLine inside
    simp [head, other]
  have fields : (e.fields.map fun field => (fieldLine field).toList).map lineField = e.fields := by
    rw [List.map_map]
    refine Eq.trans (List.map_congr_left fun field inside => ?_) (List.map_id e.fields)
    exact lineField_fieldLine (colon_not_mem_name inside)
  obtain ⟨data, kinds, ids⟩ := valuesOf_fields e
  have some_piece : (pieces e.data).isEmpty = false := by
    simp [pieces, Text.splitBy_ne_nil]
  unfold groupEvent?
  simp only [decoded, plain, fields, data, kinds, ids, some_piece, Bool.false_and,
    intercalate_pieces, Bool.false_eq_true, if_false]
  obtain ⟨kind, text, id⟩ := e
  cases kind <;> cases id <;> rfl

/-- What makes an event one that the lines of a stream can hold: no line end in its kind and its id,
no carriage return in its data. -/
structure Event.Plain (e : Event) : Prop where
  kind : ∀ kind ∈ e.kind, '\n' ∉ kind.toList ∧ '\r' ∉ kind.toList
  id : ∀ id ∈ e.id, '\n' ∉ id.toList ∧ '\r' ∉ id.toList
  data : '\r' ∉ e.data.toList

/-- A comment holds no line end. -/
def Filler.Plain : Filler → Prop
  | .blank => True
  | .comment text => Unbroken text

structure Passage.Plain (p : Passage) : Prop where
  fillers : ∀ filler ∈ p.fillers, filler.Plain
  event : p.event.Plain

theorem unbroken_encode {s : String} (feed : '\n' ∉ s.toList) (carriage : '\r' ∉ s.toList) :
    Unbroken (Text.encode s) :=
  ⟨Text.lineFeed_not_mem_encode feed,
    fun inside => carriage (Text.mem_of_mem_encode (by decide) inside)⟩

theorem Event.Plain.values {e : Event} (plain : e.Plain) {field : String × String}
    (h : field ∈ e.fields) : '\n' ∉ field.2.toList ∧ '\r' ∉ field.2.toList := by
  simp only [Event.fields, List.mem_append, Option.mem_toList, Option.map_eq_some_iff,
    List.mem_map] at h
  rcases h with (⟨kind, known, rfl⟩ | ⟨id, known, rfl⟩) | ⟨piece, inside, rfl⟩
  · exact plain.kind kind known
  · exact plain.id id known
  · obtain ⟨cs, known, rfl⟩ := List.mem_map.mp inside
    rw [String.toList_ofList]
    constructor
    · intro feed
      simpa using (Text.mem_of_mem_splitBy known feed).2
    · exact fun carriage => plain.data (Text.mem_of_mem_splitBy known carriage).1

theorem Event.Plain.lines {e : Event} (plain : e.Plain) {line : String} (h : line ∈ e.lines) :
    Unbroken (Text.encode line) := by
  obtain ⟨field, inside, rfl⟩ := List.mem_map.mp h
  have value := plain.values inside
  have named := name_of_mem_fields inside
  obtain ⟨name, value⟩ := field
  simp only [List.mem_cons, List.not_mem_nil, or_false] at named
  apply unbroken_encode <;> rcases named with rfl | rfl | rfl <;> simp_all [fieldLine]

theorem Filler.Plain.line {filler : Filler} (plain : filler.Plain) : Unbroken filler.line := by
  cases filler with
  | blank => exact ⟨List.not_mem_nil, List.not_mem_nil⟩
  | comment text =>
    have colon : Unbroken (Text.encode ":") := unbroken_encode (by decide) (by decide)
    refine ⟨?_, ?_⟩
    · exact fun inside => (List.mem_append.mp inside).elim colon.1 plain.1
    · exact fun inside => (List.mem_append.mp inside).elim colon.2 plain.2

theorem Passage.Plain.lines {p : Passage} (plain : p.Plain) {line : List UInt8}
    (h : line ∈ p.lines) : Unbroken line := by
  simp only [Passage.lines, List.mem_append, List.mem_map, List.mem_singleton] at h
  rcases h with ⟨filler, inside, rfl⟩ | ⟨text, inside, rfl⟩ | rfl
  · exact (plain.fillers filler inside).line
  · exact plain.event.lines inside
  · exact ⟨List.not_mem_nil, List.not_mem_nil⟩

theorem Passage.give {lines : List (List UInt8)} {events : List Event} {last : Option Event}
    (give : Give lines events last) (p : Passage) :
    Give (p.lines ++ lines) (p.event :: events) last := by
  have filled : ∀ line ∈ p.event.lines.map Text.encode, line ≠ [] := by
    intro line member empty
    obtain ⟨text, known, rfl⟩ := List.mem_map.mp member
    obtain ⟨field, named, rfl⟩ := List.mem_map.mp known
    obtain ⟨c, _, head⟩ := head?_fieldLine named
    rw [← Text.decodeText_encode (fieldLine field), empty] at head
    cases head
  have block := give.block filled
  rw [groupEvent?_lines] at block
  have := give_fillers block p.fillers
  simpa [Passage.lines] using this

theorem give_written (passages : List Passage) (closing : List Filler) :
    Give (passages.flatMap Passage.lines ++ closing.map Filler.line)
      (passages.map Passage.event) none := by
  induction passages with
  | nil =>
    have := give_fillers give_nil closing
    rwa [List.append_nil] at this
  | cons p passages ih =>
    rw [List.flatMap_cons, List.append_assoc, List.map_cons]
    exact p.give ih

/-- However a written stream is cut, a decoder gives back its events in order, and nothing is left
for the end of the stream to give. -/
theorem decoder_reads_back {passages : List Passage} (plain : ∀ p ∈ passages, p.Plain)
    {closing : List Filler} (plain_closing : ∀ filler ∈ closing, filler.Plain) {ending : LineEnd}
    {chunks : List (List UInt8)} (cut : chunks.flatten = written ending passages closing) :
    (Decoder.fresh.pushAll chunks).2.flatten = passages.map Passage.event ∧
      (Decoder.fresh.pushAll chunks).1.finish = none := by
  have unbroken : ∀ line ∈ passages.flatMap Passage.lines ++ closing.map Filler.line,
      Unbroken line := by
    intro line member
    rcases List.mem_append.mp member with inside | inside
    · obtain ⟨p, known, inside⟩ := List.mem_flatMap.mp inside
      exact (plain p known).lines inside
    · obtain ⟨filler, known, rfl⟩ := List.mem_map.mp inside
      exact (plain_closing filler known).line
  obtain ⟨lines, rest⟩ := read_terminated ending unbroken 0
  obtain ⟨events, last⟩ := give_written passages closing _ lines
  rw [Decoder.finish, flush_pushAll, pushAll_fresh, cut, written]
  constructor
  · rw [endedEvents, List.map_filterMap, ← events]
    simp [Function.comp_def]
  · rw [lastEvent?, rest]
    simpa using last

/-- Two events, one of them behind a comment, in lines that end with both bytes; the cut is between
the two bytes of a line end. -/
theorem decoder_reads_back_two :
    let passages : List Passage :=
      [⟨[], ⟨some "endpoint", " /post: 1", none⟩⟩,
        ⟨[.comment [0xC3, 0xA9], .blank], ⟨none, "é\n\n", some ""⟩⟩]
    let stream := written .both passages [.comment []]
    (Decoder.fresh.pushAll [stream.take 16, stream.drop 16]).2.flatten =
        [⟨some "endpoint", " /post: 1", none⟩, ⟨none, "é\n\n", some ""⟩] ∧
      (Decoder.fresh.pushAll [stream.take 16, stream.drop 16]).1.finish = none := by
  intro passages stream
  have cut : [stream.take 16, stream.drop 16].flatten = stream := by simp
  refine decoder_reads_back ?_ ?_ cut
  · intro p member
    simp only [passages, List.mem_cons, List.not_mem_nil, or_false] at member
    rcases member with rfl | rfl
    · exact ⟨by simp, ⟨by simp, by simp, by decide⟩⟩
    · exact ⟨by simp [Filler.Plain, Unbroken, lineFeed, carriageReturn],
        ⟨by simp, by simp, by decide⟩⟩
  · simp [Filler.Plain, Unbroken]

end Mcp.EventStream
