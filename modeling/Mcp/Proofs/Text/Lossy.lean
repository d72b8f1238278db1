import Mathlib.Data.List.Basic
import Mcp.Proofs.Text.Utf8
import Mcp.Text.Lossy

/-!
Decoding reads any bytes as what they read as (`readsAs_iff`). The bytes that a first byte lets
follow are the first bytes of a character (`Fits.begins`), so the pieces that decoding gives up are
the maximal ones.
-/

namespace Mcp.Text

/-! ### Characters of several bytes -/

theorem toNat_ofNat_of_valid {n : Nat} (valid : n.isValidChar) :
    (Char.ofNat n).val.toNat = n := by
  rw [Char.ofNat, dif_pos valid]
  rfl

theorem Several.utf8EncodeChar {lead : UInt8} {more : List UInt8} (several : Several lead more) :
    String.utf8EncodeChar (assemble lead more) = lead :: more := by
  obtain ⟨⟨second, others⟩, leads⟩ := several
  have byte {k : Nat} (b : UInt8) (same : k = b.toNat) : UInt8.ofNat k = b := by
    rw [same, UInt8.ofNat_toNat]
  rw [following_eq] at leads
  split at leads
  · obtain ⟨b, rfl⟩ := List.length_eq_one_iff.mp (Option.some.inj leads).symm
    have := maySecond_iff.mp (second b rfl)
    show String.utf8EncodeChar (Char.ofNat (lead.toNat % 32 * 64 + b.toNat % 64)) = _
    unfold String.utf8EncodeChar
    dsimp only
    rw [toNat_ofNat_of_valid (by omega), if_neg (by omega), if_pos (by omega), byte lead (by omega),
      byte b (by omega)]
  split at leads
  · obtain ⟨b, d, rfl⟩ := List.length_eq_two.mp (Option.some.inj leads).symm
    have := maySecond_iff.mp (second b rfl)
    have := isContinuation_iff.mp (others d (by simp))
    show String.utf8EncodeChar
      (Char.ofNat ((lead.toNat % 16 * 64 + b.toNat % 64) * 64 + d.toNat % 64)) = _
    unfold String.utf8EncodeChar
    dsimp only
    rw [toNat_ofNat_of_valid (by omega), if_neg (by omega), if_neg (by omega), if_pos (by omega),
      byte lead (by omega), byte b (by omega), byte d (by omega)]
  split at leads
  · obtain ⟨b, d, e, rfl⟩ := List.length_eq_three.mp (Option.some.inj leads).symm
    have := maySecond_iff.mp (second b rfl)
    have := isContinuation_iff.mp (others d (by simp))
    have := isContinuation_iff.mp (others e (by simp))
    show String.utf8EncodeChar (Char.ofNat
      (((lead.toNat % 8 * 64 + b.toNat % 64) * 64 + d.toNat % 64) * 64 + e.toNat % 64)) = _
    unfold String.utf8EncodeChar
    dsimp only
    rw [toNat_ofNat_of_valid (by omega), if_neg (by omega), if_neg (by omega), if_neg (by omega),
      byte lead (by omega), byte b (by omega), byte d (by omega), byte e (by omega)]
  · cases leads

theorem exists_maySecond (lead : UInt8) : ∃ b, maySecond lead b = true := by
  by_cases overlong : lead.toNat = 0xE0
  · refine ⟨0xA0, maySecond_iff.mpr ?_⟩
    simp [overlong]
  by_cases far : lead.toNat = 0xF0
  · refine ⟨0x90, maySecond_iff.mpr ?_⟩
    simp [far]
  refine ⟨0x80, maySecond_iff.mpr ?_⟩
  simp [overlong, far]

/-- One byte more, where it is accepted. -/
theorem Fits.concat {lead d : UInt8} {seen : List UInt8} (fits : Fits lead seen)
    (accepted : (if seen.isEmpty then maySecond lead d else isContinuation d) = true) :
    Fits lead (seen ++ [d]) := by
  cases seen with
  | nil =>
    refine ⟨?_, nofun⟩
    rintro b ⟨⟩
    exact accepted
  | cons first seen =>
    refine ⟨fits.second, ?_⟩
    intro b inside
    obtain inside | rfl := (List.mem_append.mp inside).imp_right List.mem_singleton.mp
    · exact fits.others b inside
    · exact accepted

theorem Fits.exists_concat {lead : UInt8} {seen : List UInt8} (fits : Fits lead seen) :
    ∃ b, Fits lead (seen ++ [b]) := by
  cases seen with
  | nil =>
    obtain ⟨b, second⟩ := exists_maySecond lead
    exact ⟨b, fits.concat second⟩
  | cons _ _ => exact ⟨0x80, fits.concat (show isContinuation 0x80 = true by decide)⟩

theorem begins_of_whole {c : Char} {piece : List UInt8}
    (whole : String.utf8EncodeChar c = piece) : Begins piece :=
  ⟨c, whole ▸ List.prefix_rfl⟩

theorem Begins.of_append {piece more : List UInt8} (begins : Begins (piece ++ more)) :
    Begins piece := by
  obtain ⟨c, initial⟩ := begins
  exact ⟨c, (List.prefix_append piece more).trans initial⟩

/-- Bytes that fit are the first ones of a character. -/
theorem Fits.begins {lead : UInt8} {seen : List UInt8} (fits : Fits lead seen) (missing : Nat)
    (leads : following lead = some (seen.length + missing)) : Begins (lead :: seen) := by
  -- On how many bytes are missing: with one more the piece is still one that fits.
  induction missing generalizing seen with
  | zero =>
    have several : Several lead seen := ⟨fits, leads⟩
    exact begins_of_whole several.utf8EncodeChar
  | succ missing ih =>
    obtain ⟨b, longer⟩ := fits.exists_concat
    have begins : Begins (lead :: seen ++ [b]) := by
      apply ih longer
      rw [leads, List.length_append, List.length_singleton]
      congr 1
      omega
    exact begins.of_append

/-! ### Pieces that are no character -/

/-- What an unfinished character and a byte that does not fit come to. -/
theorem decodeFrom_unfit {lead : UInt8} {missing : Nat} {seen rest : List UInt8}
    (unfit : ∀ d ∈ rest.head?,
      (if seen.isEmpty then maySecond lead d else isContinuation d) = false) :
    decodeFrom (.after lead missing seen) rest = '\uFFFD' :: decode rest := by
  cases rest with
  | nil => rfl
  | cons d rest =>
    rw [decode, decodeFrom, decodeFrom]
    simp only [Unfinished.next, unfit d rfl, Bool.false_eq_true, if_false]
    rfl

/-- A byte that starts no character. -/
theorem decode_stray {b : UInt8} (stray : ¬ Begins [b]) (rest : List UInt8) :
    decode (b :: rest) = '\uFFFD' :: decode rest := by
  have high : ¬ b < 0x80 := by
    intro low
    have small : b.toNat < 0x80 := UInt8.lt_iff_toNat_lt.mp low
    have number : (Char.ofNat b.toNat).val.toNat = b.toNat :=
      toNat_ofNat_of_valid (.inl (by omega))
    have whole : String.utf8EncodeChar (Char.ofNat b.toNat) = [b] := by
      unfold String.utf8EncodeChar
      dsimp only
      rw [number, if_pos (by omega), UInt8.ofNat_toNat]
    exact stray (begins_of_whole whole)
  have leads : following b = none := by
    cases known : following b with
    | none => rfl
    | some n =>
      have fits : Fits b [] := ⟨nofun, nofun⟩
      refine absurd (fits.begins n ?_) stray
      rw [known, List.length_nil, Nat.zero_add]
  rw [decode, decodeFrom]
  simp only [Unfinished.next, first, if_neg high, leads]
  rfl

/-- A piece of a character of several bytes, with others than the missing ones behind it. -/
theorem decode_cut {lead : UInt8} {seen rest : List UInt8} (fits : Fits lead seen) {missing : Nat}
    (leads : following lead = some (seen.length + missing + 1))
    (maximal : ∀ b ∈ rest.head?, ¬ Begins (lead :: seen ++ [b])) :
    decode (lead :: seen ++ rest) = '\uFFFD' :: decode rest := by
  have unfit : ∀ d ∈ rest.head?,
      (if seen.isEmpty then maySecond lead d else isContinuation d) = false := by
    intro d next
    rw [← Bool.not_eq_true]
    intro accepted
    refine maximal d next ((fits.concat accepted).begins missing ?_)
    rw [leads, List.length_append, List.length_singleton]
    congr 1
    omega
  have begun : Fits lead ([] ++ seen) := fits
  rw [List.cons_append, decode_following leads, decodeFrom_fits begun]
  exact decodeFrom_unfit unfit

theorem decode_broken {piece rest : List UInt8} (broken : Broken piece rest) :
    decode (piece ++ rest) = '\uFFFD' :: decode rest := by
  obtain ⟨nonempty, begins, unfinished, maximal⟩ := broken
  obtain ⟨lead, seen, rfl⟩ := List.exists_cons_of_ne_nil nonempty
  by_cases starts : Begins (lead :: seen)
  · obtain ⟨c, more, whole⟩ := starts
    cases more with
    | nil => exact absurd (whole.symm.trans (List.append_nil _)) (unfinished c)
    | cons b more =>
      rcases utf8EncodeChar_cases c with ⟨-, bytes⟩ | ⟨_, _, bytes, ⟨fits, leads⟩, -⟩
      · -- A character of one byte has no piece that is not all of it.
        have length := congrArg List.length (whole.trans bytes)
        simp at length
      · rw [List.cons_append] at whole
        obtain ⟨rfl, rfl⟩ := List.cons_eq_cons.mp (whole.trans bytes)
        apply decode_cut fits.front _ maximal
        · exact more.length
        · rw [leads, List.length_append, List.length_cons, Nat.add_assoc]
  · have single : seen = [] := by
      simpa using begins.resolve_left starts
    subst single
    exact decode_stray starts rest

/-! ### All bytes -/

theorem decode_of_readsAs {bytes : List UInt8} {text : List Char} (reads : ReadsAs bytes text) :
    decode bytes = text := by
  induction reads with
  | nil => rfl
  | character c _ ih => rw [decode_utf8EncodeChar, ih]
  | broken broken _ ih => rw [decode_broken broken, ih]

/-- A piece with which a character begins grows until no byte more can be added. -/
theorem exists_maximal {piece : List UInt8} (nonempty : piece ≠ []) (begins : Begins piece)
    (rest : List UInt8) :
    ∃ piece' rest', piece ++ rest = piece' ++ rest' ∧ piece' ≠ [] ∧ Begins piece' ∧
      ∀ b ∈ rest'.head?, ¬ Begins (piece' ++ [b]) := by
  induction rest generalizing piece with
  | nil => exact ⟨piece, [], rfl, nonempty, begins, nofun⟩
  | cons b rest ih =>
    by_cases grows : Begins (piece ++ [b])
    · obtain ⟨piece', rest', same, maximal⟩ := ih (by simp) grows
      refine ⟨piece', rest', ?_, maximal⟩
      rw [← same, List.append_assoc, List.singleton_append]
    · refine ⟨piece, b :: rest, rfl, nonempty, begins, ?_⟩
      rintro d ⟨⟩
      exact grows

/-- Any bytes begin with those of a character or with a piece that is none. -/
theorem exists_piece {bytes : List UInt8} (nonempty : bytes ≠ []) :
    ∃ piece rest, bytes = piece ++ rest ∧ piece ≠ [] ∧
      ((∃ c : Char, String.utf8EncodeChar c = piece) ∨ Broken piece rest) := by
  obtain ⟨b, others, rfl⟩ := List.exists_cons_of_ne_nil nonempty
  have single : [b] ≠ [] := List.cons_ne_nil b []
  by_cases begins : Begins [b]
  · obtain ⟨piece, rest, same, nonempty, begins, maximal⟩ := exists_maximal single begins others
    refine ⟨piece, rest, same, nonempty, ?_⟩
    by_cases whole : ∃ c : Char, String.utf8EncodeChar c = piece
    · exact .inl whole
    · exact .inr ⟨nonempty, .inl begins, not_exists.mp whole, maximal⟩
  · refine ⟨[b], others, rfl, single, .inr ⟨single, .inr rfl, ?_, ?_⟩⟩
    · intro c whole
      exact begins (begins_of_whole whole)
    · intro d _ longer
      exact begins longer.of_append

theorem exists_readsAs (bytes : List UInt8) : ∃ text, ReadsAs bytes text := by
  by_cases empty : bytes = []
  · exact ⟨[], empty ▸ .nil⟩
  · obtain ⟨piece, rest, same, nonempty, kind⟩ := exists_piece empty
    have shorter : rest.length < bytes.length := by
      have := List.length_pos_iff.mpr nonempty
      rw [same, List.length_append]
      omega
    obtain ⟨text, reads⟩ := exists_readsAs rest
    rw [same]
    obtain ⟨c, rfl⟩ | broken := kind
    · exact ⟨c :: text, .character c reads⟩
    · exact ⟨'\uFFFD' :: text, .broken broken reads⟩
termination_by bytes.length

theorem readsAs_iff {bytes : List UInt8} {text : List Char} :
    ReadsAs bytes text ↔ text = decode bytes := by
  constructor
  · exact fun reads => (decode_of_readsAs reads).symm
  · rintro rfl
    obtain ⟨text, reads⟩ := exists_readsAs bytes
    rw [decode_of_readsAs reads]
    exact reads

end Mcp.Text
