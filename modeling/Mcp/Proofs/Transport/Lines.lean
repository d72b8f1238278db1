import Mcp.Proofs.Json.OnLine
import Mcp.Proofs.Message.RoundTrip
import Mcp.Proofs.Text.Utf8
import Mcp.Transport.Lines

/-! Framing by lines. What a reader delivers depends on the bytes alone and not on the pieces in which
they come: it is what the lines between the line ends mean, each taken by itself. A message whose line
reads back as itself is such a line, so the reader delivers the messages that were written, whatever
other lines stand between them. -/

namespace Mcp

namespace Text

theorem trimStart_cons {c : Char} (solid : isBlank c = false) (cs : List Char) :
    trimStart (c :: cs) = c :: cs :=
  List.dropWhile_cons_of_neg (by simp [solid])

/-- Characters between two that are no white space lose nothing. -/
theorem trim_between {c d : Char} (first : isBlank c = false) (last : isBlank d = false)
    (cs : List Char) : trim (c :: cs ++ [d]) = c :: cs ++ [d] := by
  rw [trim, List.cons_append, trimStart_cons first, ← List.cons_append, List.reverse_append,
    List.reverse_singleton, List.singleton_append, trimStart_cons last, ← List.singleton_append,
    List.reverse_append, List.reverse_reverse, List.reverse_singleton]

end Text

namespace Message

/-- The text of a message, without the end of its line. -/
def text (m : Message) : String := String.ofList m.toJson.write

theorem line_eq (m : Message) : m.line = m.text ++ "\n" := by
  rw [line, text, String.ofList_append]

theorem parse_text {m : Message} (back : parse m.line = .ok m) : parse m.text = .ok m := by
  unfold parse at back ⊢
  split at back
  · rename_i v read
    rw [text, Json.parse_of_parse_lineFeed read]
    exact back
  · cases back

theorem toJson_obj (m : Message) : ∃ ms, m.toJson = .obj ms := by
  cases m <;> exact ⟨_, rfl⟩

theorem trimmed_text (m : Message) : Text.trimmed m.text = m.text := by
  obtain ⟨ms, object⟩ := m.toJson_obj
  obtain ⟨inner, braces⟩ := Json.write_obj ms
  rw [text, object, braces, Text.trimmed, String.toList_ofList,
    Text.trim_between (by decide) (by decide)]

theorem text_ne_empty (m : Message) : m.text.isEmpty = false := by
  obtain ⟨ms, object⟩ := m.toJson_obj
  obtain ⟨inner, braces⟩ := Json.write_obj ms
  rw [text, object, braces, List.cons_append]
  simp

theorem lineFeed_not_mem_text (m : Message) : '\n' ∉ m.text.toList := by
  rw [text, String.toList_ofList]
  exact Json.lineFeed_not_mem_write m.toJson

end Message

namespace Transport.Lines

/-! ### What lines mean -/

/-- The messages that lines mean: each is decoded and trimmed, blank ones are dropped, and of the
others those count that are messages. -/
def meant (lines : List (List UInt8)) : List Message :=
  (((lines.map Text.decodeText).map Text.trimmed).filter fun text => !text.isEmpty).filterMap
    fun text => (Message.parse text).toOption

theorem meant_eq (lines : List (List UInt8)) : meant lines = lines.filterMap message? := by
  induction lines with
  | nil => rfl
  | cons line lines ih =>
    rw [List.filterMap_cons, message?, ← ih]
    simp only [meant, List.map_cons, List.filter_cons]
    cases blank : (Text.trimmed (Text.decodeText line)).isEmpty with
    | true => rfl
    | false => simp only [Bool.not_false, if_true, List.filterMap_cons, Bool.false_eq_true, if_false]

theorem meant_append (lines more : List (List UInt8)) :
    meant (lines ++ more) = meant lines ++ meant more := by
  rw [meant_eq, meant_eq, meant_eq, List.filterMap_append]

theorem meant_cons (line : List UInt8) (lines : List (List UInt8)) :
    meant (line :: lines) = (message? line).toList ++ meant lines := by
  rw [meant_eq, meant_eq, List.filterMap_cons]
  cases message? line <;> rfl

/-- A line that is the text of a message means the message. -/
theorem message?_encode {m : Message} (back : Message.parse m.line = .ok m) :
    message? (Text.encode m.text) = some m := by
  rw [message?, Text.decodeText_encode, m.trimmed_text, m.text_ne_empty, Message.parse_text back]
  rfl

/-! ### Pieces of any size -/

namespace Buffer

theorem push_append (p : Buffer) (bytes more : List UInt8) :
    p.push (bytes ++ more) =
      (((p.push bytes).1.push more).1, (p.push bytes).2 ++ ((p.push bytes).1.push more).2) := by
  induction bytes generalizing p with
  | nil => rfl
  | cons b bytes ih =>
    simp only [List.cons_append, push, ih, List.append_assoc]

/-- The lines that bytes complete, and the one that they leave, are those between the line ends. -/
theorem push_splitOn {line : List UInt8} (fresh : lineEnd ∉ line) (bytes : List UInt8) :
    ((⟨line.reverse⟩ : Buffer).push bytes).2 ++ [((⟨line.reverse⟩ : Buffer).push bytes).1.bytes.reverse] =
      (line ++ bytes).splitOn lineEnd := by
  induction bytes generalizing line with
  | nil => simp [push, List.splitOn_eq_singleton fresh]
  | cons b bytes ih =>
    by_cases ends : b = lineEnd
    · subst ends
      have rest := ih (List.not_mem_nil : lineEnd ∉ [])
      rw [List.splitOn_append_cons_self_of_not_mem fresh]
      simp only [push, next, if_true, List.reverse_reverse]
      exact congrArg (line :: ·) rest
    · have kept : lineEnd ∉ line ++ [b] := by simp [fresh, Ne.symm ends]
      have rest := ih kept
      rw [List.append_assoc, List.singleton_append, List.reverse_append] at rest
      simp only [push, next, if_neg ends, Option.toList_none, List.nil_append]
      exact rest

end Buffer

namespace Reader

/-- What happenings make of the reader in order, and the messages that it delivers. -/
def run (r : Reader) : List Happening → Reader × List Message
  | [] => (r, [])
  | h :: later =>
    let (r, messages) := r.step h
    let (r, more) := r.run later
    (r, messages ++ more)

/-- The reader delivers nothing any more: it has stopped, or nobody takes the messages. -/
def Mute (r : Reader) : Prop := r.reading = false ∨ r.taken = false

theorem Mute.act {r : Reader} (mute : r.Mute) (line : List UInt8) :
    (r.act line).1.Mute ∧ (r.act line).2 = none := by
  unfold Reader.act
  split
  · exact ⟨mute, rfl⟩
  · rename_i reading
    split
    · exact ⟨mute, rfl⟩
    · have untaken : r.taken = false := mute.resolve_left (by simpa using reading)
      rw [untaken]
      exact ⟨.inl rfl, rfl⟩

theorem Mute.actAll {r : Reader} (mute : r.Mute) (lines : List (List UInt8)) :
    (r.actAll lines).1.Mute ∧ (r.actAll lines).2 = [] := by
  induction lines generalizing r with
  | nil => exact ⟨mute, rfl⟩
  | cons line lines ih =>
    obtain ⟨after, silent⟩ := mute.act line
    obtain ⟨last, silence⟩ := ih after
    exact ⟨last, by simp [Reader.actAll, silent, silence]⟩

theorem Mute.step {r : Reader} (mute : r.Mute) (h : Happening) :
    (r.step h).1.Mute ∧ (r.step h).2 = [] := by
  cases h with
  | bytes chunk => exact Mute.actAll (r := { r with buffer := (r.buffer.push chunk).1 }) mute _
  | finished =>
    obtain ⟨-, silent⟩ := Mute.actAll (r := { r with buffer := .empty }) mute r.buffer.finish.toList
    exact ⟨.inl rfl, silent⟩
  | failed => exact ⟨.inl rfl, rfl⟩
  | abandoned => exact ⟨.inr rfl, rfl⟩

theorem Mute.run {r : Reader} (mute : r.Mute) (later : List Happening) : (r.run later).2 = [] := by
  induction later generalizing r with
  | nil => rfl
  | cons h later ih =>
    obtain ⟨after, silent⟩ := mute.step h
    simp [Reader.run, silent, ih after]

/-- A reader whose messages are taken, with the beginning of a line. -/
def holding (p : Buffer) : Reader := ⟨p, true, true⟩

theorem actAll_holding (p : Buffer) (lines : List (List UInt8)) :
    (holding p).actAll lines = (holding p, meant lines) := by
  induction lines with
  | nil => rfl
  | cons line lines ih =>
    have one : (holding p).act line = (holding p, message? line) := by
      unfold act holding
      cases message? line <;> rfl
    simp only [actAll, one, ih, meant_cons]

theorem step_bytes (p : Buffer) (bytes : List UInt8) :
    (holding p).step (.bytes bytes) = (holding (p.push bytes).1, meant (p.push bytes).2) :=
  actAll_holding (p.push bytes).1 (p.push bytes).2

/-- The end of the bytes ends the line that was begun. -/
theorem step_finished (bytes : List UInt8) :
    (holding ⟨bytes⟩).step .finished = (⟨.empty, true, false⟩, meant [bytes.reverse]) := by
  have last := actAll_holding .empty (Buffer.finish ⟨bytes⟩).toList
  have same : meant (Buffer.finish ⟨bytes⟩).toList = meant [bytes.reverse] := by
    cases bytes with
    | nil => rfl
    | cons b bytes => rfl
  rw [same] at last
  show (let (r, messages) := (holding .empty).actAll (Buffer.finish ⟨bytes⟩).toList
    ({ r with reading := false }, messages)) = _
  rw [last]
  rfl

/-- Pieces of bytes are read like all of them at once. -/
theorem run_bytes (p : Buffer) (chunks : List (List UInt8)) :
    (holding p).run (chunks.map .bytes) = (holding p).step (.bytes chunks.flatten) := by
  induction chunks generalizing p with
  | nil => rfl
  | cons chunk chunks ih =>
    rw [List.map_cons, run, step_bytes]
    dsimp only
    rw [ih, step_bytes, step_bytes, List.flatten_cons, Buffer.push_append, meant_append]

theorem run_append (r : Reader) (before after : List Happening) :
    r.run (before ++ after) =
      (((r.run before).1.run after).1, (r.run before).2 ++ ((r.run before).1.run after).2) := by
  induction before generalizing r with
  | nil => rfl
  | cons h before ih => simp only [List.cons_append, run, ih, List.append_assoc]

end Reader

/-! ### Whole runs -/

/-- Bytes that carry messages: the lines of the messages in order, each as it is written, and between
them lines that mean no message; the last one may lack its end. -/
inductive Carries : List UInt8 → List Message → Prop where
  | nothing : Carries [] []
  | message {m : Message} {bytes : List UInt8} {ms : List Message}
    (back : Message.parse m.line = .ok m) (more : Carries bytes ms) :
    Carries (Text.encode m.line ++ bytes) (m :: ms)
  | other {line bytes : List UInt8} {ms : List Message} (oneLine : lineEnd ∉ line)
    (noMessage : message? line = none) (more : Carries bytes ms) :
    Carries (line ++ lineEnd :: bytes) ms
  | unfinished {line : List UInt8} (oneLine : lineEnd ∉ line) (noMessage : message? line = none) :
    Carries line []

theorem Carries.meant_eq {bytes : List UInt8} {ms : List Message} (carries : Carries bytes ms) :
    meant (bytes.splitOn lineEnd) = ms := by
  induction carries with
  | nothing => rfl
  | @message m bytes ms back _ ih =>
    have feed : Text.encode "\n" = [lineEnd] := by
      rw [Text.encode_eq]
      rfl
    have oneLine : lineEnd ∉ Text.encode m.text :=
      Text.lineFeed_not_mem_encode m.lineFeed_not_mem_text
    rw [m.line_eq, Text.encode_append, feed, List.append_assoc, List.singleton_append,
      List.splitOn_append_cons_self_of_not_mem oneLine, meant_cons, message?_encode back, ih]
    rfl
  | other oneLine noMessage _ ih =>
    rw [List.splitOn_append_cons_self_of_not_mem oneLine, meant_cons, noMessage, ih]
    rfl
  | unfinished oneLine noMessage =>
    rw [List.splitOn_eq_singleton oneLine, meant_cons, noMessage]
    rfl

/-- What is promised of a reader that gets bytes in these pieces. -/
structure Delivers (chunks : List (List UInt8)) : Prop where
  /-- While bytes come it delivers what the lines mean whose ends have come, and reads on. -/
  soFar : (Reader.start.run (chunks.map .bytes)).2 = meant (chunks.flatten.splitOn lineEnd).dropLast ∧
    (Reader.start.run (chunks.map .bytes)).1.reading = true
  /-- When the bytes end it has delivered what all lines mean, with the last one if it lacks its end,
  and nothing that happens later adds to that. -/
  finished : ∀ later, (Reader.start.run (chunks.map .bytes ++ .finished :: later)).2 =
    meant (chunks.flatten.splitOn lineEnd)
  /-- When the bytes cannot be read any further, or nobody takes messages any more, it delivers no
  message of a line whose end has not come. -/
  cut : ∀ h later, h = .failed ∨ h = .abandoned →
    (Reader.start.run (chunks.map .bytes ++ h :: later)).2 =
      meant (chunks.flatten.splitOn lineEnd).dropLast
  /-- If the bytes carry messages, it delivers just these. -/
  carried : ∀ ms, Carries chunks.flatten ms → ∀ later,
    (Reader.start.run (chunks.map .bytes ++ .finished :: later)).2 = ms

/-- A reader delivers what the lines mean, however the bytes come. -/
theorem delivers (chunks : List (List UInt8)) : Delivers chunks := by
  have lines := Buffer.push_splitOn (List.not_mem_nil : lineEnd ∉ []) chunks.flatten
  have read : Reader.start.run (chunks.map .bytes) = _ :=
    (Reader.run_bytes .empty chunks).trans (Reader.step_bytes .empty chunks.flatten)
  change (Buffer.empty.push _).2 ++ [(Buffer.empty.push _).1.bytes.reverse] = _ at lines
  rw [List.nil_append] at lines
  generalize Buffer.empty.push chunks.flatten = pushed at lines read
  obtain ⟨⟨bytes⟩, complete⟩ := pushed
  dsimp only at lines read
  have whole : (chunks.flatten.splitOn lineEnd).dropLast = complete := by
    rw [← lines, List.dropLast_concat]
  have ended (later : List Happening) :
      (Reader.start.run (chunks.map .bytes ++ .finished :: later)).2 =
        meant (chunks.flatten.splitOn lineEnd) := by
    rw [Reader.run_append, read, ← lines, meant_append]
    have stopped : Reader.Mute ⟨.empty, true, false⟩ := .inl rfl
    simp [Reader.run, Reader.step_finished, stopped.run later]
  refine ⟨?_, ended, ?_, fun ms carries later => ?_⟩
  · rw [read, whole]
    exact ⟨rfl, rfl⟩
  · intro h later cut
    have silent : ((Reader.holding ⟨bytes⟩).step h).1.Mute ∧
        ((Reader.holding ⟨bytes⟩).step h).2 = [] := by
      rcases cut with rfl | rfl
      · exact ⟨.inl rfl, rfl⟩
      · exact ⟨.inr rfl, rfl⟩
    rw [Reader.run_append, read, whole]
    simp [Reader.run, silent.2, silent.1.run later]
  · rw [ended, carries.meant_eq]

end Transport.Lines

end Mcp
