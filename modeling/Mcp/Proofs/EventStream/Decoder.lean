import Mcp.Proofs.EventStream.Block

/-!
What a decoder does with chunks, one byte at a time. A search that resumes where the last one
stopped finds each blank line when its last byte comes (`push_eq`), so the events do not depend on
how the bytes are cut (`pushAll_spec`).
-/

namespace Mcp.EventStream

/-! ### Line ends -/

/-- The bytes that a chunk adds to the buffer, one line feed for each line end. -/
def normalized (afterReturn : Bool) : List UInt8 → List UInt8
  | [] => []
  | b :: rest =>
    if afterReturn && b = lineFeed then normalized false rest
    else if b = carriageReturn then lineFeed :: normalized true rest
    else b :: normalized false rest

/-- Whether a carriage return is the last byte so far. -/
def endsInReturn (afterReturn : Bool) (bytes : List UInt8) : Bool :=
  match bytes.getLast? with
  | some b => b = carriageReturn
  | none => afterReturn

theorem endsInReturn_cons (afterReturn : Bool) (b : UInt8) (rest : List UInt8) :
    endsInReturn afterReturn (b :: rest) = endsInReturn (b = carriageReturn) rest := by
  simp only [endsInReturn, List.getLast?_cons]
  cases rest.getLast? <;> rfl

theorem normalized_append (afterReturn : Bool) (before after : List UInt8) :
    normalized afterReturn (before ++ after) =
      normalized afterReturn before ++ normalized (endsInReturn afterReturn before) after := by
  induction before generalizing afterReturn with
  | nil => rfl
  | cons b before ih =>
    rw [List.cons_append, endsInReturn_cons]
    simp only [normalized]
    split
    · rename_i skipped
      have feed : b = lineFeed := by simpa using (Bool.and_eq_true_iff.mp skipped).2
      rw [ih, feed]
      rfl
    · split
      · rename_i carriage
        rw [ih, List.cons_append, decide_eq_true carriage]
      · rename_i other
        rw [ih, List.cons_append, decide_eq_false other]

namespace Decoder

theorem foldl_keep (chunk : List UInt8) (d : Decoder) :
    chunk.foldl keep d =
      { d with
        buffer := d.buffer ++ (normalized d.afterReturn chunk).toArray
        afterReturn := endsInReturn d.afterReturn chunk } := by
  induction chunk generalizing d with
  | nil => simp [normalized, endsInReturn]
  | cons b chunk ih =>
    rw [List.foldl_cons, ih, endsInReturn_cons]
    simp only [keep, normalized]
    split
    · rename_i skipped
      have feed : b = lineFeed := by simpa using (Bool.and_eq_true_iff.mp skipped).2
      simp [feed, lineFeed, carriageReturn]
    · split
      · rename_i carriage
        simp [carriage]
      · rename_i other
        simp [other]

end Decoder

/-! ### Blank lines -/

/-- One byte more of a block that has not ended: the block after it, and the event of the block
that it ends. -/
def feedByte (block : List UInt8) (b : UInt8) : List UInt8 × Option Event :=
  if b = lineFeed ∧ block.getLast? = some lineFeed then
    ([], blockEvent? (Text.decode block.dropLast))
  else (block ++ [b], none)

/-- More bytes of a block that has not ended: the block after them and the events. -/
def feed (block : List UInt8) : List UInt8 → List UInt8 × List Event
  | [] => (block, [])
  | b :: rest =>
    let (block, event) := feedByte block b
    let (block, events) := feed block rest
    (block, event.toList ++ events)

theorem feed_append (block before after : List UInt8) :
    feed block (before ++ after) =
      ((feed (feed block before).1 after).1,
        (feed block before).2 ++ (feed (feed block before).1 after).2) := by
  induction before generalizing block with
  | nil => rfl
  | cons b before ih => simp [feed, ih]

theorem feedByte_nil (b : UInt8) : feedByte [] b = ([b], none) := by
  simp [feedByte]

namespace Decoder

theorem scan_of_le {buffer : Array UInt8} {start pos : Nat} (h : buffer.size ≤ pos) :
    scan buffer start pos = ([], start, pos) := by
  unfold scan
  rw [dif_neg (by omega)]

theorem scan_of_getElem? {buffer : Array UInt8} {pos : Nat} {b c : UInt8} (start : Nat)
    (prior : buffer.toList[pos - 1]? = some b) (here : buffer.toList[pos]? = some c) :
    scan buffer start pos =
      if c = lineFeed ∧ b = lineFeed then
        let event := blockEvent? (Text.decode (buffer.extract start (pos - 1)).toList)
        let (events, start, stop) := scan buffer (pos + 1) (pos + 2)
        (event.toList ++ events, start, stop)
      else scan buffer start (pos + 1) := by
  obtain ⟨hpos, here⟩ := List.getElem?_eq_some_iff.mp here
  obtain ⟨hprior, prior⟩ := List.getElem?_eq_some_iff.mp prior
  rw [Array.length_toList] at hpos hprior
  rw [Array.getElem_toList] at here prior
  rw [scan, dif_pos hpos]
  simp only [here, prior]

/-- A search from the end of what holds no blank line finds the events of the bytes behind it. -/
theorem scan_eq {buffer : Array UInt8} (more before block : List UInt8)
    (h : buffer.toList = before ++ block ++ more) :
    ∃ start, scan buffer before.length (before.length + max block.length 1) =
        ((feed block more).2, start, start + max (feed block more).1.length 1) ∧
      buffer.toList.drop start = (feed block more).1 := by
  induction more generalizing before block with
  | nil =>
    have size : buffer.size = before.length + block.length := by
      rw [← Array.length_toList, h, List.append_nil, List.length_append]
    refine ⟨before.length, ?_, ?_⟩
    · rw [scan_of_le (by omega)]
      rfl
    · rw [h, List.append_nil, List.drop_left]
      rfl
  | cons b more ih =>
    -- The first byte of a block ends none, and the search passes over it.
    rcases List.eq_nil_or_concat block with rfl | ⟨front, last, rfl⟩
    · have found := ih before [b] (by simpa using h)
      simpa [feed, feedByte_nil] using found
    · have stop : max (front.concat last).length 1 = front.length + 1 := by simp
      have prior : buffer.toList[before.length + (front.length + 1) - 1]? = some last := by
        rw [h]
        simp
      have here : buffer.toList[before.length + (front.length + 1)]? = some b := by
        rw [h]
        simp
      rw [stop, scan_of_getElem? before.length prior here]
      by_cases blank : b = lineFeed ∧ last = lineFeed
      · obtain ⟨start, found, rest⟩ := ih (before ++ front.concat last ++ [b]) [] (by simpa using h)
        have block : (buffer.extract before.length
            (before.length + (front.length + 1) - 1)).toList = front := by
          rw [Array.toList_extract, h]
          simp
        have length : (before ++ front.concat last ++ [b]).length =
            before.length + (front.length + 1) + 1 := by
          simp [Nat.add_assoc]
        have next : max ([] : List UInt8).length 1 = 1 := rfl
        rw [length, next] at found
        refine ⟨start, ?_, ?_⟩
        · rw [if_pos blank, block, found]
          simp [feed, feedByte, blank]
        · rw [rest]
          simp [feed, feedByte, blank]
      · obtain ⟨start, found, rest⟩ := ih before (front.concat last ++ [b]) (by simpa using h)
        have stop : max (front.concat last ++ [b]).length 1 = front.length + 1 + 1 := by simp
        rw [stop, ← Nat.add_assoc] at found
        refine ⟨start, ?_, ?_⟩
        · rw [if_neg blank, found]
          simp [feed, feedByte, blank]
        · rw [rest]
          simp [feed, feedByte, blank]

/-! ### Chunks -/

/-- A decoder between chunks: the bytes that it keeps hold no blank line, and all were searched. -/
def Settled (d : Decoder) : Prop := max d.scanned 1 = max d.buffer.size 1

theorem settled_fresh : Settled fresh := rfl

/-- What a decoder keeps after more bytes, and the events of these. -/
def afterBytes (d : Decoder) (bytes : List UInt8) : List UInt8 × List Event :=
  feed d.buffer.toList (normalized d.afterReturn bytes)

/-- One chunk gives what its bytes give one at a time. -/
theorem push_eq {d : Decoder} (settled : Settled d) (chunk : List UInt8) :
    d.push chunk =
      (⟨(d.afterBytes chunk).1.toArray, max (d.afterBytes chunk).1.length 1,
        endsInReturn d.afterReturn chunk⟩, (d.afterBytes chunk).2) := by
  have bytes : (d.buffer ++ (normalized d.afterReturn chunk).toArray).toList =
      [] ++ d.buffer.toList ++ normalized d.afterReturn chunk := by simp
  obtain ⟨start, found, rest⟩ := scan_eq (normalized d.afterReturn chunk) [] d.buffer.toList bytes
  rw [List.length_nil, Nat.zero_add, Array.length_toList, ← settled] at found
  have kept : (d.buffer ++ (normalized d.afterReturn chunk).toArray).extract start
      (d.buffer ++ (normalized d.afterReturn chunk).toArray).size =
      (d.afterBytes chunk).1.toArray := by
    apply Array.toList_inj.mp
    rw [Array.toList_extract, List.extract_eq_take_drop, rest]
    have length : (d.afterBytes chunk).1.length =
        (d.buffer ++ (normalized d.afterReturn chunk).toArray).size - start := by
      rw [afterBytes, ← rest, List.length_drop, Array.length_toList]
    exact List.take_of_length_le (Nat.le_of_eq length)
  simp only [push, foldl_keep, found, kept, afterBytes]
  simp

theorem settled_push {d : Decoder} (settled : Settled d) (chunk : List UInt8) :
    Settled (d.push chunk).1 := by
  rw [push_eq settled]
  simp [Settled]

theorem afterBytes_push {d : Decoder} (settled : Settled d) (chunk bytes : List UInt8) :
    d.afterBytes (chunk ++ bytes) =
      (((d.push chunk).1.afterBytes bytes).1, (d.push chunk).2 ++
        ((d.push chunk).1.afterBytes bytes).2) := by
  rw [push_eq settled]
  simp only [afterBytes, normalized_append, feed_append]

/-- However bytes are cut, a decoder keeps and gives what they keep and give one at a time. -/
theorem pushAll_spec {d : Decoder} (settled : Settled d) (chunks : List (List UInt8)) :
    (d.pushAll chunks).1.buffer.toList = (d.afterBytes chunks.flatten).1 ∧
      (d.pushAll chunks).2.flatten = (d.afterBytes chunks.flatten).2 := by
  induction chunks generalizing d with
  | nil => exact ⟨rfl, rfl⟩
  | cons chunk chunks ih =>
    obtain ⟨kept, given⟩ := ih (settled_push settled chunk)
    rw [List.flatten_cons, afterBytes_push settled]
    exact ⟨kept, by rw [← given]; rfl⟩

theorem pushAll_append (d : Decoder) (before after : List (List UInt8)) :
    d.pushAll (before ++ after) =
      (((d.pushAll before).1.pushAll after).1,
        (d.pushAll before).2 ++ ((d.pushAll before).1.pushAll after).2) := by
  induction before generalizing d with
  | nil => rfl
  | cons chunk before ih => simp [pushAll, ih]

end Decoder

end Mcp.EventStream
