import Mcp.Text.CodeTable
import Mcp.Text.Utf8

/-!
Lines of bytes and lines of text. A line feed settles whatever stands before it, and nothing else
decodes to a line break, so bytes may be decoded line by line or all at once
(`splitBy_decode`).
-/

namespace Mcp.Text

/-! ### Pieces between separators -/

section Pieces

variable {α : Type} {isSeparator : α → Bool}

theorem splitBy_cons_separator {item : α} (h : isSeparator item = true) (items : List α) :
    splitBy isSeparator (item :: items) = [] :: splitBy isSeparator items := by
  simp [splitBy, h]

theorem splitBy_ne_nil (items : List α) : splitBy isSeparator items ≠ [] := by
  cases items with
  | nil => simp [splitBy]
  | cons item items =>
    simp only [splitBy, List.foldr_cons]
    repeat' split
    all_goals simp

theorem splitBy_cons_other {item : α} (h : isSeparator item = false) {items piece : List α}
    {pieces : List (List α)} (rest : splitBy isSeparator items = piece :: pieces) :
    splitBy isSeparator (item :: items) = (item :: piece) :: pieces := by
  simp only [splitBy, List.foldr_cons] at rest ⊢
  rw [rest]
  simp [h]

theorem splitBy_of_forall {items : List α} (h : ∀ item ∈ items, isSeparator item = false) :
    splitBy isSeparator items = [items] := by
  induction items with
  | nil => rfl
  | cons item items ih =>
    exact splitBy_cons_other (h item List.mem_cons_self)
      (ih fun i hi => h i (List.mem_cons_of_mem _ hi))

theorem splitBy_append {before : List α} (h : ∀ item ∈ before, isSeparator item = false)
    {item : α} (separates : isSeparator item = true) (after : List α) :
    splitBy isSeparator (before ++ item :: after) = before :: splitBy isSeparator after := by
  induction before with
  | nil => exact splitBy_cons_separator separates after
  | cons first before ih =>
    exact splitBy_cons_other (h first List.mem_cons_self)
      (ih fun i hi => h i (List.mem_cons_of_mem _ hi))

/-- The items of a piece are items that do not separate. -/
theorem mem_of_mem_splitBy {items piece : List α} (h : piece ∈ splitBy isSeparator items) {item : α}
    (inside : item ∈ piece) : item ∈ items ∧ isSeparator item = false := by
  induction items generalizing piece with
  | nil =>
    rw [List.mem_singleton.mp h] at inside
    cases inside
  | cons first items ih =>
    have more (h : item ∈ items ∧ isSeparator item = false) :
        item ∈ first :: items ∧ isSeparator item = false :=
      ⟨List.mem_cons_of_mem _ h.1, h.2⟩
    cases separates : isSeparator first with
    | true =>
      rw [splitBy_cons_separator separates, List.mem_cons] at h
      rcases h with rfl | h
      · cases inside
      · exact more (ih h inside)
    | false =>
      obtain ⟨front, others, pieces⟩ := List.exists_cons_of_ne_nil (splitBy_ne_nil items)
      rw [splitBy_cons_other separates pieces, List.mem_cons] at h
      rw [pieces] at ih
      rcases h with rfl | h
      · rcases List.mem_cons.mp inside with rfl | inside
        · exact ⟨List.mem_cons_self, separates⟩
        · exact more (ih List.mem_cons_self inside)
      · exact more (ih (List.mem_cons_of_mem _ h) inside)

/-- The pieces of items, joined by what separates them, are the items. -/
theorem intercalate_splitBy {separator : α}
    (only : ∀ item, isSeparator item = true ↔ item = separator) (items : List α) :
    [separator].intercalate (splitBy isSeparator items) = items := by
  induction items with
  | nil => rfl
  | cons first items ih =>
    obtain ⟨front, others, pieces⟩ :
        ∃ front others, splitBy isSeparator items = front :: others :=
      List.exists_cons_of_ne_nil (splitBy_ne_nil items)
    cases separates : isSeparator first with
    | true =>
      rw [splitBy_cons_separator separates]
      rw [pieces] at ih ⊢
      rw [List.intercalate_cons_cons, ih, (only first).mp separates]
      rfl
    | false =>
      rw [splitBy_cons_other separates pieces]
      rw [pieces] at ih
      cases others <;> simp_all [List.intercalate]

end Pieces

/-! ### A line feed settles what stands before it -/

theorem Unfinished.next_lineFeed (state : Unfinished) :
    state.next 10 = (.nothing, state.flush ++ ['\n']) := by
  cases state with
  | nothing => rfl
  | after lead missing seen =>
    have second : maySecond lead 10 = false := by
      unfold maySecond
      repeat' split
      all_goals decide
    have unfit : (if seen.isEmpty then maySecond lead 10 else isContinuation 10) = false := by
      split
      · exact second
      · decide
    simp only [Unfinished.next, unfit]
    rfl

theorem decodeFrom_lineFeed (state : Unfinished) (before after : List UInt8) :
    decodeFrom state (before ++ 10 :: after) =
      decodeFrom state before ++ '\n' :: decode after := by
  induction before generalizing state with
  | nil => simp [decodeFrom, Unfinished.next_lineFeed, decode]
  | cons b before ih => simp [decodeFrom, ih]

theorem decode_lineFeed (before after : List UInt8) :
    decode (before ++ 10 :: after) = decode before ++ '\n' :: decode after :=
  decodeFrom_lineFeed .nothing before after

/-! ### Nothing else decodes to a line break -/

/-- An unfinished character is one that its bytes so far may start. -/
def Unfinished.Proper : Unfinished → Prop
  | .nothing => True
  | .after lead missing seen => following lead = some (missing + 1 + seen.length) ∧
    ∀ b ∈ seen.head?, maySecond lead b = true

theorem le_foldl_payload (rest : List UInt8) (n : Nat) :
    n ≤ rest.foldl (fun n b => n * 64 + b.toNat % 64) n := by
  induction rest generalizing n with
  | nil => exact Nat.le_refl n
  | cons b rest ih => exact Nat.le_trans (by grind) (ih _)

theorem ofNat_ne_lineFeed {n : Nat} (h : n ≠ 10) : Char.ofNat n ≠ '\n' := by
  by_cases valid : n.isValidChar
  · rw [Char.ofNat, dif_pos valid]
    intro same
    exact h (congrArg (fun c : Char => c.val.toNat) same)
  · rw [Char.ofNat, dif_neg valid]
    decide

/-- The bits of a character of several bytes are not those of a control character. -/
theorem payload_ge {lead b : UInt8} {rest : List UInt8}
    (h : following lead = some (b :: rest).length) (second : maySecond lead b = true) :
    16 ≤ lead.toNat % (if (b :: rest).length = 1 then 32 else
      if (b :: rest).length = 2 then 16 else 8) * 64 + b.toNat % 64 := by
  simp only [following, maySecond, isContinuation, Bool.and_eq_true, decide_eq_true_eq,
    beq_iff_eq, UInt8.le_iff_toNat_le, ← UInt8.toNat_inj, UInt8.reduceToNat] at h second
  simp only [List.length_cons] at h ⊢
  split at h
  · have one : rest.length + 1 = 1 := by simpa using h.symm
    rw [if_pos one]
    omega
  · split at h
    · have two : rest.length + 1 = 2 := by simpa using h.symm
      rw [if_neg (by omega), if_pos two]
      split at second
      · simp only [decide_eq_true_eq, Bool.and_eq_true] at second
        omega
      · omega
    · split at h
      · have three : rest.length + 1 = 3 := by simpa using h.symm
        rw [if_neg (by omega), if_neg (by omega)]
        repeat' split at second
        all_goals simp only [decide_eq_true_eq, Bool.and_eq_true] at second
        all_goals omega
      · cases h

theorem assemble_ne_lineFeed {lead b : UInt8} {rest : List UInt8}
    (h : following lead = some (b :: rest).length) (second : maySecond lead b = true) :
    assemble lead (b :: rest) ≠ '\n' :=
  have large := Nat.le_trans (payload_ge h second) (le_foldl_payload rest _)
  ofNat_ne_lineFeed (Nat.ne_of_gt (Nat.lt_of_lt_of_le (by decide) large))

theorem first_proper (b : UInt8) : (first b).1.Proper := by
  unfold first
  split
  · trivial
  · split
    · rename_i missing known
      exact ⟨by simpa using known, by simp⟩
    · trivial

theorem lineFeed_not_mem_first {b : UInt8} (h : b ≠ 10) : '\n' ∉ (first b).2 := by
  unfold first
  split
  · have := ofNat_ne_lineFeed fun same => h (UInt8.toNat_inj.mp same)
    simpa using this.symm
  · split
    · simp
    · simp [replacement]

theorem Unfinished.Proper.next {state : Unfinished} (proper : state.Proper) {b : UInt8}
    (h : b ≠ 10) : (state.next b).1.Proper ∧ '\n' ∉ (state.next b).2 := by
  cases state with
  | nothing => exact ⟨first_proper b, lineFeed_not_mem_first h⟩
  | after lead missing seen =>
    obtain ⟨known, second⟩ := proper
    cases fit : (if seen.isEmpty then maySecond lead b else isContinuation b) with
    | false =>
      simp only [Unfinished.next, fit, Bool.false_eq_true, if_false]
      refine ⟨first_proper b, ?_⟩
      simpa [replacement] using lineFeed_not_mem_first h
    | true =>
      have second : ∀ x ∈ (seen ++ [b]).head?, maySecond lead x = true := by
        cases seen with
        | nil => simpa using fit
        | cons x seen => simpa using second
      simp only [Unfinished.next, fit, if_true]
      cases missing with
      | zero =>
        refine ⟨trivial, ?_⟩
        obtain ⟨x, rest, hx⟩ := List.exists_cons_of_ne_nil (show seen ++ [b] ≠ [] by simp)
        have length := congrArg List.length hx
        rw [List.length_append, List.length_singleton] at length
        rw [hx] at second ⊢
        have known : following lead = some (x :: rest).length := by
          rw [known, ← length]
          congr 1
          omega
        simpa using (assemble_ne_lineFeed known (second x rfl)).symm
      | succ missing =>
        refine ⟨⟨?_, second⟩, by simp⟩
        rw [known, List.length_append, List.length_singleton]
        congr 1
        omega

theorem lineFeed_not_mem_decodeFrom {state : Unfinished} (proper : state.Proper)
    {bytes : List UInt8} (h : 10 ∉ bytes) : '\n' ∉ decodeFrom state bytes := by
  induction bytes generalizing state with
  | nil =>
    cases state with
    | nothing => simp [decodeFrom, Unfinished.flush]
    | after => simp [decodeFrom, Unfinished.flush, replacement]
  | cons b bytes ih =>
    rw [List.mem_cons, not_or] at h
    obtain ⟨kept, here⟩ := proper.next (Ne.symm h.1)
    rw [decodeFrom, List.mem_append, not_or]
    exact ⟨here, ih kept h.2⟩

/-- Bytes without a line feed decode to text without a line break. -/
theorem lineFeed_not_mem_decode {bytes : List UInt8} (h : 10 ∉ bytes) : '\n' ∉ decode bytes :=
  lineFeed_not_mem_decodeFrom (show Unfinished.nothing.Proper from trivial) h

/-- The lines of a decoded text are the decoded lines. -/
theorem splitBy_decode {line : List UInt8} (h : 10 ∉ line) (rest : List UInt8) :
    splitBy (· = '\n') (decode (line ++ 10 :: rest)) =
      decode line :: splitBy (· = '\n') (decode rest) := by
  rw [decode_lineFeed]
  refine splitBy_append (fun c hc => ?_) (by decide) _
  rw [decide_eq_false_iff_not]
  rintro rfl
  exact lineFeed_not_mem_decode h hc

theorem splitBy_decode_line {line : List UInt8} (h : 10 ∉ line) :
    splitBy (· = '\n') (decode line) = [decode line] := by
  refine splitBy_of_forall fun c hc => ?_
  rw [decide_eq_false_iff_not]
  rintro rfl
  exact lineFeed_not_mem_decode h hc

/-! ### Bytes do not vanish -/

theorem first_settles_or_waits (b : UInt8) : (first b).1 ≠ .nothing ∨ (first b).2 ≠ [] := by
  unfold first
  split
  · simp
  · split <;> simp

theorem Unfinished.next_settles_or_waits (state : Unfinished) (b : UInt8) :
    (state.next b).1 ≠ .nothing ∨ (state.next b).2 ≠ [] := by
  cases state with
  | nothing => exact first_settles_or_waits b
  | after lead missing seen =>
    simp only [Unfinished.next]
    generalize (if seen.isEmpty then maySecond lead b else isContinuation b) = fit
    cases fit with
    | true => cases missing <;> simp
    | false => simp

theorem decodeFrom_ne_nil {state : Unfinished} (h : state ≠ .nothing) (bytes : List UInt8) :
    decodeFrom state bytes ≠ [] := by
  induction bytes generalizing state with
  | nil =>
    cases state with
    | nothing => exact absurd rfl h
    | after => simp [decodeFrom, Unfinished.flush]
  | cons b bytes ih =>
    rw [decodeFrom, ne_eq, List.append_eq_nil_iff]
    rintro ⟨silent, rest⟩
    rcases state.next_settles_or_waits b with waits | settles
    · exact ih waits rest
    · exact settles silent

theorem decode_eq_nil_iff {bytes : List UInt8} : decode bytes = [] ↔ bytes = [] := by
  constructor
  · intro h
    cases bytes with
    | nil => rfl
    | cons b bytes =>
      rw [decode, decodeFrom, List.append_eq_nil_iff] at h
      rcases Unfinished.nothing.next_settles_or_waits b with waits | settles
      · exact absurd h.2 (decodeFrom_ne_nil waits bytes)
      · exact absurd h.1 settles
  · rintro rfl
    rfl

/-! ### A text comes back from its bytes -/

theorem toList_loop_eq (bytes : ByteArray) (i : Nat) (before : List UInt8) :
    ByteArray.toList.loop bytes i before = before.reverse ++ bytes.data.toList.drop i := by
  fun_induction ByteArray.toList.loop bytes i before with
  | case1 i before inside ih =>
    have place : i < bytes.data.toList.length := by simpa using inside
    rw [ih, List.drop_eq_getElem_cons place]
    simp [ByteArray.get!, inside]
  | case2 i before outside =>
    rw [List.drop_eq_nil_of_le (by simpa using Nat.le_of_not_lt outside)]
    simp

theorem encode_eq (s : String) : encode s = s.toList.flatMap String.utf8EncodeChar := by
  have bytes : s.toByteArray = s.toList.utf8Encode := by
    rw [← String.toByteArray_ofList, String.ofList_toList]
  rw [encode, String.toUTF8_eq_toByteArray, bytes, ByteArray.toList, toList_loop_eq,
    List.utf8Encode, List.toList_data_toByteArray]
  rfl

theorem encode_append (s t : String) : encode (s ++ t) = encode s ++ encode t := by
  rw [encode_eq, encode_eq, encode_eq, String.toList_append, List.flatMap_append]

theorem isContinuation_iff {b : UInt8} :
    isContinuation b = true ↔ 0x80 ≤ b.toNat ∧ b.toNat ≤ 0xBF := by
  simp [isContinuation, UInt8.le_iff_toNat_le]

theorem maySecond_iff {lead b : UInt8} :
    maySecond lead b = true ↔
      (0x80 ≤ b.toNat ∧ b.toNat ≤ 0xBF) ∧ (lead.toNat = 0xE0 → 0xA0 ≤ b.toNat) ∧
        (lead.toNat = 0xED → b.toNat ≤ 0x9F) ∧ (lead.toNat = 0xF0 → 0x90 ≤ b.toNat) ∧
          (lead.toNat = 0xF4 → b.toNat ≤ 0x8F) := by
  simp only [maySecond, beq_iff_eq, ← UInt8.toNat_inj, UInt8.reduceToNat]
  repeat' split
  all_goals
    simp only [Bool.and_eq_true, decide_eq_true_eq, UInt8.le_iff_toNat_le, UInt8.reduceToNat,
      isContinuation_iff]
    omega

theorem following_eq (lead : UInt8) :
    following lead =
      if 0xC2 ≤ lead.toNat ∧ lead.toNat ≤ 0xDF then some 1
      else if 0xE0 ≤ lead.toNat ∧ lead.toNat ≤ 0xEF then some 2
      else if 0xF0 ≤ lead.toNat ∧ lead.toNat ≤ 0xF4 then some 3
      else none := by
  simp [following, UInt8.le_iff_toNat_le]

theorem bounds_of_following {lead : UInt8} {n : Nat} (leads : following lead = some n) :
    0xC2 ≤ lead.toNat ∧ 0 < n := by
  rw [following_eq] at leads
  repeat' split at leads
  all_goals simp only [Option.some.injEq, reduceCtorEq] at leads
  all_goals omega

/-- Bytes that may follow a first byte, as far as they go. -/
structure Fits (lead : UInt8) (more : List UInt8) : Prop where
  second : ∀ b ∈ more.head?, maySecond lead b = true
  others : ∀ d ∈ more.tail, isContinuation d = true

/-- A first byte and all that follow it. -/
structure Several (lead : UInt8) (more : List UInt8) : Prop extends Fits lead more where
  leads : following lead = some more.length

theorem Fits.next {lead d : UInt8} {seen more : List UInt8} (fits : Fits lead (seen ++ d :: more)) :
    (if seen.isEmpty then maySecond lead d else isContinuation d) = true := by
  cases seen with
  | nil => exact fits.second d rfl
  | cons b seen => exact fits.others d (by simp)

theorem Fits.front {lead : UInt8} {seen more : List UInt8} (fits : Fits lead (seen ++ more)) :
    Fits lead seen := by
  cases seen with
  | nil => exact ⟨nofun, nofun⟩
  | cons b seen =>
    constructor
    · intro d first
      exact fits.second d first
    · intro d inside
      exact fits.others d (List.mem_append_left more inside)

theorem decodeFrom_fits {lead : UInt8} {missing : Nat} {seen more : List UInt8}
    (fits : Fits lead (seen ++ more)) (rest : List UInt8) :
    decodeFrom (.after lead (more.length + missing) seen) (more ++ rest) =
      decodeFrom (.after lead missing (seen ++ more)) rest := by
  induction more generalizing seen with
  | nil => simp
  | cons d more ih =>
    have accepted := fits.next
    have length : (d :: more).length + missing = more.length + missing + 1 := by
      simp only [List.length_cons]
      omega
    rw [length, List.cons_append, decodeFrom]
    simp only [Unfinished.next, accepted, if_true, List.nil_append]
    rw [ih (by simpa using fits), List.append_assoc]
    rfl

/-- A byte that others follow waits for them. -/
theorem decode_following {lead : UInt8} {missing : Nat} (leads : following lead = some (missing + 1))
    (rest : List UInt8) : decode (lead :: rest) = decodeFrom (.after lead missing []) rest := by
  have high : ¬lead < 0x80 := by
    rw [UInt8.lt_iff_toNat_lt]
    show ¬lead.toNat < 128
    have := (bounds_of_following leads).1
    omega
  rw [decode, decodeFrom]
  simp only [Unfinished.next, first, if_neg high, leads, List.nil_append]

/-- The bytes of a character of several bytes decode to it. -/
theorem Several.decode {lead : UInt8} {more : List UInt8} (several : Several lead more)
    (rest : List UInt8) : decode (lead :: more ++ rest) = assemble lead more :: decode rest := by
  obtain ⟨fits, leads⟩ := several
  rcases List.eq_nil_or_concat more with rfl | ⟨seen, last, rfl⟩
  · exact absurd (bounds_of_following leads).2 (Nat.lt_irrefl 0)
  · rw [List.concat_eq_append] at fits leads ⊢
    rw [List.length_append, List.length_singleton] at leads
    have accepted := fits.next
    have begun : Fits lead ([] ++ seen) := fits.front
    rw [List.cons_append, decode_following leads, List.append_assoc]
    rw [← Nat.add_zero seen.length, decodeFrom_fits begun, List.nil_append, List.singleton_append,
      decodeFrom]
    simp only [Unfinished.next, accepted, if_true]
    rfl

theorem utf8EncodeChar_cases (c : Char) :
    (c.toNat < 0x80 ∧ String.utf8EncodeChar c = [UInt8.ofNat c.toNat]) ∨
      ∃ lead more, String.utf8EncodeChar c = lead :: more ∧ Several lead more ∧
        assemble lead more = c := by
  have valid : c.toNat < 0xD800 ∨ 0xDFFF < c.toNat ∧ c.toNat < 0x110000 := c.valid
  unfold String.utf8EncodeChar
  rw [show c.val.toNat = c.toNat from rfl]
  have same {n : Nat} (same : n = c.toNat) : Char.ofNat n = c := by rw [same, Char.ofNat_toNat]
  generalize c.toNat = n at valid same
  have byte {k : Nat} (small : k < 256) : (UInt8.ofNat k).toNat = k := by
    rw [UInt8.toNat_ofNat']
    omega
  dsimp only
  split
  · exact .inl ⟨by omega, rfl⟩
  split
  · refine .inr ⟨_, _, rfl, ⟨⟨?second, ?others⟩, ?leads⟩, ?value⟩
    case leads =>
      rw [following_eq, byte (by omega), if_pos (by omega)]
      rfl
    case second =>
      rintro b ⟨⟩
      rw [maySecond_iff, byte (by omega), byte (by omega)]
      omega
    case others =>
      simp
    case value =>
      show Char.ofNat ((UInt8.ofNat _).toNat % 32 * 64 + (UInt8.ofNat _).toNat % 64) = c
      rw [byte (by omega), byte (by omega)]
      exact same (by omega)
  split
  · refine .inr ⟨_, _, rfl, ⟨⟨?second, ?others⟩, ?leads⟩, ?value⟩
    case leads =>
      rw [following_eq, byte (by omega), if_neg (by omega), if_pos (by omega)]
      rfl
    case second =>
      rintro b ⟨⟩
      rw [maySecond_iff, byte (by omega), byte (by omega)]
      omega
    case others =>
      simp only [List.tail_cons, List.mem_singleton]
      rintro d rfl
      rw [isContinuation_iff, byte (by omega)]
      omega
    case value =>
      show Char.ofNat (((UInt8.ofNat _).toNat % 16 * 64 + (UInt8.ofNat _).toNat % 64) * 64 +
        (UInt8.ofNat _).toNat % 64) = c
      rw [byte (by omega), byte (by omega), byte (by omega)]
      exact same (by omega)
  · refine .inr ⟨_, _, rfl, ⟨⟨?second, ?others⟩, ?leads⟩, ?value⟩
    case leads =>
      rw [following_eq, byte (by omega), if_neg (by omega), if_neg (by omega), if_pos (by omega)]
      rfl
    case second =>
      rintro b ⟨⟩
      rw [maySecond_iff, byte (by omega), byte (by omega)]
      omega
    case others =>
      simp only [List.tail_cons, List.mem_cons, List.not_mem_nil, or_false]
      rintro d (rfl | rfl)
      all_goals
        rw [isContinuation_iff, byte (by omega)]
        omega
    case value =>
      show Char.ofNat ((((UInt8.ofNat _).toNat % 8 * 64 + (UInt8.ofNat _).toNat % 64) * 64 +
        (UInt8.ofNat _).toNat % 64) * 64 + (UInt8.ofNat _).toNat % 64) = c
      rw [byte (by omega), byte (by omega), byte (by omega), byte (by omega)]
      exact same (by omega)

/-- Bytes that begin with those of a character decode to it and to what the others decode to. -/
theorem decode_utf8EncodeChar (c : Char) (rest : List UInt8) :
    decode (String.utf8EncodeChar c ++ rest) = c :: decode rest := by
  rcases utf8EncodeChar_cases c with ⟨low, bytes⟩ | ⟨lead, more, bytes, several, same⟩
  · have number : (UInt8.ofNat c.toNat).toNat = c.toNat := by
      rw [UInt8.toNat_ofNat']
      omega
    have small : UInt8.ofNat c.toNat < 0x80 := by
      rw [UInt8.lt_iff_toNat_lt, number]
      exact low
    rw [bytes, List.singleton_append, decode, decodeFrom]
    simp only [Unfinished.next, first, if_pos small]
    rw [number, Char.ofNat_toNat]
    rfl
  · rw [bytes, several.decode, same]

theorem decode_encode_append (s : String) (rest : List UInt8) :
    decode (encode s ++ rest) = s.toList ++ decode rest := by
  rw [encode_eq]
  induction s.toList with
  | nil => rfl
  | cons c cs ih => rw [List.flatMap_cons, List.append_assoc, decode_utf8EncodeChar, ih]; rfl

theorem decodeText_encode (s : String) : decodeText (encode s) = s := by
  have whole := decode_encode_append s []
  rw [List.append_nil, show decode [] = [] from rfl, List.append_nil] at whole
  rw [decodeText, whole, String.ofList_toList]

theorem isText_iff {bytes : List UInt8} : isText bytes = true ↔ ∃ s, bytes = encode s := by
  rw [isText, beq_iff_eq]
  constructor
  · intro same
    exact ⟨decodeText bytes, same.symm⟩
  · rintro ⟨s, rfl⟩
    rw [decodeText_encode]

theorem Several.high {lead : UInt8} {more : List UInt8} (several : Several lead more) :
    ∀ b ∈ lead :: more, 128 ≤ b.toNat := by
  intro b inside
  obtain ⟨⟨second, others⟩, leads⟩ := several
  cases inside with
  | head => exact Nat.le_trans (by decide) (bounds_of_following leads).1
  | tail _ inside =>
    cases more with
    | nil => cases inside
    | cons d more =>
      cases inside with
      | head => exact (maySecond_iff.mp (second _ rfl)).1.1
      | tail _ inside => exact (isContinuation_iff.mp (others b inside)).1

/-- A byte below 128 among the bytes of a character is that character. -/
theorem eq_of_mem_utf8EncodeChar {c : Char} {b : UInt8} (low : b.toNat < 128)
    (inside : b ∈ String.utf8EncodeChar c) : Char.ofNat b.toNat = c := by
  rcases utf8EncodeChar_cases c with ⟨small, bytes⟩ | ⟨lead, more, bytes, several, -⟩
  · rw [bytes, List.mem_singleton] at inside
    have number : b.toNat = c.toNat := by
      rw [inside, UInt8.toNat_ofNat']
      omega
    rw [number, Char.ofNat_toNat]
  · rw [bytes] at inside
    exact absurd low (Nat.not_lt.mpr (several.high b inside))

/-- A byte below 128 among the bytes of a text is a character of it. -/
theorem mem_of_mem_encode {s : String} {b : UInt8} (low : b.toNat < 128) (inside : b ∈ encode s) :
    Char.ofNat b.toNat ∈ s.toList := by
  rw [encode_eq, List.mem_flatMap] at inside
  obtain ⟨c, member, inside⟩ := inside
  rwa [eq_of_mem_utf8EncodeChar low inside]

/-- Only a line feed has a line feed among its bytes. -/
theorem lineFeed_not_mem_encode {s : String} (clean : '\n' ∉ s.toList) : 10 ∉ encode s :=
  fun inside => clean (mem_of_mem_encode (by decide) inside)

end Mcp.Text
