import Mcp.Json.Parser
import Mcp.Json.Printer

/-! Numbers and strings read back. The digits of a natural number stand for it and do not start
with a zero unless they are one zero; any digits are those of a number behind zeros; and a character
comes back from the way it stands in a string. -/

namespace Mcp.Json

/-! ### Numbers -/

/-- A text in front of which a number ends. -/
def Stops : List Char → Prop
  | [] => True
  | c :: _ => c.isDigit = false ∧ c ≠ '.' ∧ c ≠ 'e' ∧ c ≠ 'E'

theorem digitsValue_cons (c : Char) (ds : List Char) (start : Nat) :
    digitsValue (c :: ds) start = digitsValue ds (start * 10 + (c.toNat - 48)) := by
  rw [digitsValue, List.foldl_cons, digitsValue]

theorem digitsValue_append (ds es : List Char) (start : Nat) :
    digitsValue (ds ++ es) start = digitsValue es (digitsValue ds start) := by
  simp [digitsValue]

theorem digitsValue_toDigits (n : Nat) : digitsValue (Nat.toDigits 10 n) 0 = n := by
  induction n using Nat.strongRecOn with
  | _ n ih =>
    rw [Nat.toDigits_eq_if (by decide)]
    split
    case isTrue small =>
      have digit := Nat.toNat_digitChar_sub_48_of_lt_ten small
      simp [digitsValue, digit]
    case isFalse large =>
      have digit := Nat.toNat_digitChar_sub_48_of_lt_ten (Nat.mod_lt n (show 10 > 0 by decide))
      have front := ih (n / 10) (by omega)
      rw [digitsValue_append, front]
      simp only [digitsValue, List.foldl_cons, List.foldl_nil, digit]
      omega

theorem isDigit_of_mem_toDigits {n : Nat} {c : Char} (inside : c ∈ Nat.toDigits 10 n) :
    c.isDigit = true :=
  Nat.isDigit_of_mem_toDigits (by decide) (by decide) inside

/-- The digits of a positive number start with a digit other than zero. -/
theorem toDigits_head {n : Nat} (positive : 0 < n) :
    ∃ d ds, Nat.toDigits 10 n = d :: ds ∧ d ≠ '0' ∧ d.isDigit = true := by
  induction n using Nat.strongRecOn with
  | _ n ih =>
    rw [Nat.toDigits_eq_if (by decide)]
    split
    case isTrue small =>
      refine ⟨n.digitChar, [], rfl, ?_, ?_⟩
      · intro zero
        have := Nat.digitChar_eq_zero.mp zero
        omega
      · rw [Nat.isDigit_digitChar]
        exact decide_eq_true small
    case isFalse large =>
      obtain ⟨d, ds, front, nonzero, digit⟩ := ih (n / 10) (by omega) (by omega)
      exact ⟨d, ds ++ [(n % 10).digitChar], by rw [front]; rfl, nonzero, digit⟩

/-- The value of a digit is less than ten, and its digit is the same one. -/
theorem digitChar_of_isDigit {c : Char} (digit : c.isDigit = true) :
    c.toNat - 48 < 10 ∧ Nat.digitChar (c.toNat - 48) = c := by
  have range : 48 ≤ c.toNat ∧ c.toNat ≤ 57 := Char.isDigit_iff_toNat.mp digit
  have small : c.toNat - 48 < 10 := by omega
  refine ⟨small, Char.toNat_inj.mp ?_⟩
  rw [Nat.toNat_digitChar_of_lt_ten small]
  omega

theorem isDigit_of_mem_zeros_append {zeros n : Nat} {c : Char}
    (inside : c ∈ List.replicate zeros '0' ++ Nat.toDigits 10 n) : c.isDigit = true := by
  rcases List.mem_append.mp inside with zero | digit
  · rw [List.eq_of_mem_replicate zero]
    decide
  · exact isDigit_of_mem_toDigits digit

theorem digitsValue_zeros (zeros : Nat) (ds : List Char) :
    digitsValue (List.replicate zeros '0' ++ ds) 0 = digitsValue ds 0 := by
  induction zeros with
  | zero => rfl
  | succ zeros ih =>
    rw [List.replicate_succ, List.cons_append, digitsValue_cons]
    exact ih

/-- Digits behind those of a positive number are the last digits of a number. -/
theorem toDigits_append {start : Nat} (positive : 0 < start) {ds : List Char}
    (digits : ∀ c ∈ ds, c.isDigit = true) :
    Nat.toDigits 10 start ++ ds = Nat.toDigits 10 (digitsValue ds start) := by
  induction ds generalizing start with
  | nil => exact List.append_nil _
  | cons c ds ih =>
    obtain ⟨small, back⟩ := digitChar_of_isDigit (digits c List.mem_cons_self)
    have rest : ∀ d ∈ ds, d.isDigit = true := fun d there => digits d (List.mem_cons_of_mem c there)
    have front := Nat.toDigits_append_toDigits (b := 10) (by decide) positive small
    rw [Nat.toDigits_of_lt_base small, back, Nat.mul_comm] at front
    rw [digitsValue_cons, ← ih (by omega) rest, ← front, List.append_assoc, List.singleton_append]

/-- Digits are those of the number that they stand for, behind zeros. -/
theorem eq_zeros_append_toDigits {ds : List Char} (nonempty : ds ≠ [])
    (digits : ∀ c ∈ ds, c.isDigit = true) :
    ∃ zeros, ds = List.replicate zeros '0' ++ Nat.toDigits 10 (digitsValue ds 0) := by
  induction ds with
  | nil => exact absurd rfl nonempty
  | cons c ds ih =>
    have rest : ∀ d ∈ ds, d.isDigit = true := fun d there => digits d (List.mem_cons_of_mem c there)
    obtain ⟨small, back⟩ := digitChar_of_isDigit (digits c List.mem_cons_self)
    by_cases zero : c = '0'
    · subst zero
      by_cases last : ds = []
      · subst last
        exact ⟨0, rfl⟩
      · obtain ⟨zeros, split⟩ := ih last rest
        refine ⟨zeros + 1, ?_⟩
        rw [List.replicate_succ, List.cons_append, digitsValue_cons]
        exact congrArg (List.cons '0') split
    · have positive : 0 < c.toNat - 48 := by
        refine Nat.pos_of_ne_zero fun none => zero ?_
        rw [← back, none]
        rfl
      have front := toDigits_append positive rest
      rw [Nat.toDigits_of_lt_base small, back] at front
      refine ⟨0, ?_⟩
      rw [digitsValue_cons, Nat.zero_mul, Nat.zero_add, ← front]
      rfl

theorem le_digitsValue (ds : List Char) (start : Nat) : start ≤ digitsValue ds start := by
  induction ds generalizing start with
  | nil => exact Nat.le_refl _
  | cons d rest ih =>
    have := ih (start * 10 + (d.toNat - 48))
    rw [digitsValue_cons]
    omega

/-- Digits that stand for less than `2 ^ 64` fit, all of them. -/
theorem takeFitting_eq {ds : List Char} {start : Nat}
    (fits : digitsValue ds start < 0x10000000000000000) :
    takeFitting start ds = (digitsValue ds start, []) := by
  induction ds generalizing start with
  | nil => rfl
  | cons d rest ih =>
    rw [digitsValue_cons] at fits ⊢
    have := le_digitsValue rest (start * 10 + (d.toNat - 48))
    rw [takeFitting, if_pos (by omega), ih fits]

theorem takeWhile_digits {ds rest : List Char} (digits : ∀ c ∈ ds, c.isDigit = true)
    (stops : Stops rest) :
    (ds ++ rest).takeWhile Char.isDigit = ds ∧ (ds ++ rest).dropWhile Char.isDigit = rest := by
  rw [List.takeWhile_append_of_pos digits, List.dropWhile_append_of_pos digits]
  cases rest with
  | nil => simp
  | cons c rest => simp [stops.1]

theorem fractional_of_stops {rest : List Char} (negative : Bool) (n : Nat) (stops : Stops rest) :
    number.fractional negative n 0 rest = integer negative n rest := by
  unfold number.fractional
  cases rest with
  | nil => rfl
  | cons c rest =>
    obtain ⟨_, point, small, large⟩ := stops
    split
    case h_1 same => exact absurd (List.cons.inj same).1 point
    case h_2 same => exact absurd (List.cons.inj same).1 small
    case h_3 same => exact absurd (List.cons.inj same).1 large
    case h_4 => rfl

/-- The digits of a number below `2 ^ 64` are read as that number. -/
theorem number_toDigits {n : Nat} {rest : List Char} (negative : Bool)
    (fits : n < 0x10000000000000000) (stops : Stops rest) :
    number negative (Nat.toDigits 10 n ++ rest) = integer negative n rest := by
  rcases Nat.eq_zero_or_pos n with rfl | positive
  · have ends := fractional_of_stops negative 0 stops
    rw [Nat.toDigits_zero, List.singleton_append]
    cases rest with
    | nil => exact ends
    | cons c rest =>
      unfold number
      simp only [if_pos, stops.1]
      exact ends
  · obtain ⟨d, ds, split, nonzero, digit⟩ := toDigits_head positive
    have value : digitsValue (Nat.toDigits 10 n) 0 = n := digitsValue_toDigits n
    have fitting := takeFitting_eq (show digitsValue (Nat.toDigits 10 n) 0 < _ by omega)
    obtain ⟨taken, dropped⟩ := takeWhile_digits (fun c => isDigit_of_mem_toDigits (n := n)) stops
    rw [split] at taken dropped fitting value ⊢
    rw [List.cons_append] at taken dropped ⊢
    unfold number
    simp only [if_neg nonzero, if_pos digit, taken, dropped, fitting, value]
    exact fractional_of_stops negative n stops

/-! ### Strings -/

theorem hexValue?_digitChar : ∀ n < 16, hexValue? (Nat.digitChar n) = some n := by decide

theorem utf8Size_digitChar : ∀ n < 16, (Nat.digitChar n).utf8Size = 1 := by decide

/-- The two digits of a byte behind two zeros are read as that byte. -/
theorem hexUnit_hexByte {n : Nat} (byte : n < 256) (rest : List Char) :
    hexUnit ('0' :: '0' :: (hexByte n ++ rest)) = .ok (n, rest) := by
  have highDigit : n / 16 % 16 < 16 := Nat.mod_lt _ (by decide)
  have lowDigit : n % 16 < 16 := Nat.mod_lt _ (by decide)
  have zero : hexValue? '0' = some 0 := by decide
  have size : byteCount (List.take 4 ('0' :: '0' :: (hexByte n ++ rest))) = 4 := by
    simp only [hexByte, List.cons_append, List.nil_append, List.take_succ_cons, List.take_zero,
      byteCount, utf8Size_digitChar _ highDigit, utf8Size_digitChar _ lowDigit]
    decide
  unfold hexUnit
  rw [size, if_neg (by decide)]
  simp only [hexByte, List.cons_append, List.nil_append, zero, hexValue?_digitChar _ highDigit,
    hexValue?_digitChar _ lowDigit]
  congr
  omega

/-- A control character comes back from its escape. -/
theorem escape_control {c : Char} (control : c.toNat < 0x20) (rest : List Char) :
    escape ('u' :: '0' :: '0' :: (hexByte c.toNat ++ rest)) = .ok (c, rest) := by
  have unit := hexUnit_hexByte (show c.toNat < 256 by omega) rest
  unfold escape
  simp only [unit, bind, Except.bind]
  rw [if_neg (by omega), if_neg (by omega), Char.ofNat_toNat]

/-- The characters of a string behind one that stands in it. -/
theorem stringTail_escapeChar (fuel : Nat) (c : Char) (rest : List Char) :
    stringTail (fuel + 1) (escapeChar c ++ rest) =
      (stringTail fuel rest).map fun (tail, rest) => (c :: tail, rest) := by
  have through (d : Char) (rest' : List Char) (read : escape (d :: rest') = .ok (c, rest)) :
      stringTail (fuel + 1) ('\\' :: d :: rest') =
        (stringTail fuel rest).map fun (tail, rest) => (c :: tail, rest) := by
    rw [stringTail, if_neg (by decide), if_pos rfl, read]
    rfl
  unfold escapeChar
  split
  case isTrue quote => exact through c rest (by rw [quote]; rfl)
  split
  case isTrue backslash => exact through c rest (by rw [backslash]; rfl)
  split
  case isTrue same => exact through 'b' rest (by rw [same]; rfl)
  split
  case isTrue same => exact through 'f' rest (by rw [same]; rfl)
  split
  case isTrue same => exact through 'n' rest (by rw [same]; rfl)
  split
  case isTrue same => exact through 'r' rest (by rw [same]; rfl)
  split
  case isTrue same => exact through 't' rest (by rw [same]; rfl)
  split
  case isTrue control => exact through 'u' _ (escape_control control rest)
  case isFalse quote backslash _ _ _ _ _ printed =>
    rw [List.singleton_append, stringTail, if_neg quote, if_neg backslash, if_neg printed]
    rfl

/-- The characters of a written string are read back. -/
theorem stringTail_written (cs rest : List Char) {fuel : Nat} (enough : cs.length < fuel) :
    stringTail fuel (cs.flatMap escapeChar ++ '\x22' :: rest) = .ok (cs, rest) := by
  induction cs generalizing fuel with
  | nil =>
    cases fuel with
    | zero => cases enough
    | succ fuel => rfl
  | cons c cs ih =>
    cases fuel with
    | zero => cases enough
    | succ fuel =>
      have tail := ih (Nat.lt_of_succ_lt_succ enough)
      rw [List.flatMap_cons, List.append_assoc, stringTail_escapeChar, tail]
      rfl

theorem length_le_written (cs : List Char) : cs.length ≤ (cs.flatMap escapeChar).length := by
  induction cs with
  | nil => exact Nat.le_refl _
  | cons c cs ih =>
    have : 1 ≤ (escapeChar c).length := by
      unfold escapeChar
      repeat' split
      all_goals simp
    rw [List.flatMap_cons, List.length_append, List.length_cons]
    omega

/-- A written string is read back behind its opening quote. -/
theorem string_written (s : String) (rest : List Char) :
    string (s.toList.flatMap escapeChar ++ '\x22' :: rest) = .ok (s, rest) := by
  have enough : s.toList.length < (s.toList.flatMap escapeChar ++ '\x22' :: rest).length + 1 := by
    have := length_le_written s.toList
    rw [List.length_append]
    omega
  rw [string, stringTail_written s.toList rest enough]
  simp [bind, Except.bind]

end Mcp.Json
