import Mcp.Proofs.Json.Ordered
import Mcp.Proofs.Json.Scalar

/-! Reading back what was written: the compact text of a value whose numbers are integers of
64 bits is read as that value with its objects ordered, and it is one line. -/

namespace Mcp.Json

/-! ### The text of a value -/

/-- The first character of a value's text: no white space and nothing that closes. -/
def Opening (c : Char) : Prop := isSpace c = false ∧ c ≠ ']' ∧ c ≠ '\x7d'

instance (c : Char) : Decidable (Opening c) := by unfold Opening; infer_instance

theorem write_nonneg {n : Int} (nonneg : 0 ≤ n) :
    write (.num (.int n)) = Nat.toDigits 10 n.toNat := by
  simp [write, Number.write, Int.repr_eq_if, nonneg]

theorem write_negative {n : Int} (negative : n < 0) :
    write (.num (.int n)) = '-' :: Nat.toDigits 10 (-n).toNat := by
  have : ¬ 0 ≤ n := by omega
  simp [write, Number.write, Int.repr_eq_if, this]

theorem ne_of_isDigit {c d : Char} (digit : c.isDigit = true) (other : d.isDigit = false) :
    c ≠ d := by
  intro same
  rw [same, other] at digit
  cases digit

theorem opening_of_isDigit {c : Char} (digit : c.isDigit = true) : Opening c := by
  have differ (d : Char) (other : d.isDigit = false) := ne_of_isDigit digit other
  simp [Opening, isSpace, differ ' ' rfl, differ '\n' rfl, differ '\t' rfl, differ '\r' rfl,
    differ ']' rfl, differ '\x7d' rfl]

theorem toDigits_cons (n : Nat) : ∃ d ds, Nat.toDigits 10 n = d :: ds ∧ d.isDigit = true := by
  cases split : Nat.toDigits 10 n with
  | nil => exact absurd split Nat.toDigits_ne_nil
  | cons d ds =>
    refine ⟨d, ds, rfl, isDigit_of_mem_toDigits (n := n) ?_⟩
    rw [split]
    exact List.mem_cons_self

theorem Whole.write_cons {v : Json} (whole : Whole v) : ∃ c cs, v.write = c :: cs ∧ Opening c := by
  cases whole with
  | null => exact ⟨'n', _, rfl, by decide⟩
  | bool b => cases b <;> exact ⟨_, _, rfl, by decide⟩
  | @int n _ _ =>
    by_cases nonneg : 0 ≤ n
    · obtain ⟨d, ds, split, digit⟩ := toDigits_cons n.toNat
      exact ⟨d, ds, by rw [write_nonneg nonneg, split], opening_of_isDigit digit⟩
    · exact ⟨'-', _, write_negative (by omega), by decide⟩
  | str s => exact ⟨'\x22', _, rfl, by decide⟩
  | @arr items _ => cases items <;> exact ⟨'[', _, rfl, by decide⟩
  | @obj members _ => cases members <;> exact ⟨'\x7b', _, rfl, by decide⟩

theorem skipSpace_cons {c : Char} (cs : List Char) (solid : isSpace c = false) :
    skipSpace (c :: cs) = c :: cs := by
  simp [skipSpace, solid]

theorem Whole.skipSpace_write {v : Json} (whole : Whole v) (rest : List Char) :
    skipSpace (v.write ++ rest) = v.write ++ rest := by
  obtain ⟨c, cs, split, opening⟩ := whole.write_cons
  rw [split]
  exact skipSpace_cons _ opening.1

theorem skipSpace_comma (cs : List Char) : skipSpace (',' :: cs) = ',' :: cs :=
  skipSpace_cons cs (by decide)

theorem skipSpace_colon (cs : List Char) : skipSpace (':' :: cs) = ':' :: cs :=
  skipSpace_cons cs (by decide)

theorem skipSpace_quote (cs : List Char) : skipSpace ('\x22' :: cs) = '\x22' :: cs :=
  skipSpace_cons cs (by decide)

theorem Whole.length_write {v : Json} (whole : Whole v) : 0 < v.write.length := by
  obtain ⟨c, cs, split, _⟩ := whole.write_cons
  simp [split]

theorem stops_writeItems (items : List Json) (rest : List Char) :
    Stops (writeItems items ++ rest) := by
  cases items <;> exact ⟨rfl, by decide, by decide, by decide⟩

theorem stops_writeMembers (members : List (String × Json)) (rest : List Char) :
    Stops (writeMembers members ++ rest) := by
  cases members <;> exact ⟨rfl, by decide, by decide, by decide⟩

/-! ### Reading one value, by its first character -/

section

variable (fuel levels : Nat) {rest : List Char}

theorem value_digits {n : Nat} (fits : n < 0x10000000000000000) (stops : Stops rest) :
    value (fuel + 1) levels (Nat.toDigits 10 n ++ rest) = .ok (.num (.int n), rest) := by
  have read := number_toDigits false fits stops
  obtain ⟨d, ds, split, digit⟩ := toDigits_cons n
  rw [split, List.cons_append] at read ⊢
  have differ (c : Char) (other : c.isDigit = false) := ne_of_isDigit digit other
  rw [value.eq_def]
  dsimp only
  rw [if_neg (differ 'n' rfl), if_neg (differ 't' rfl), if_neg (differ 'f' rfl),
    if_neg (differ '\x22' rfl), if_neg (differ '-' rfl), if_pos digit, read]
  rfl

theorem value_minus {n : Nat} (positive : 0 < n) (fits : n ≤ 0x8000000000000000)
    (stops : Stops rest) :
    value (fuel + 1) levels ('-' :: (Nat.toDigits 10 n ++ rest)) =
      .ok (.num (.int (-(n : Int))), rest) := by
  have read := number_toDigits true (show n < 0x10000000000000000 by omega) stops
  rw [value.eq_def]
  dsimp only
  rw [if_neg (by decide), if_neg (by decide), if_neg (by decide), if_neg (by decide),
    if_pos rfl, read, integer, if_neg (by decide), if_pos ⟨positive, fits⟩]
  rfl

theorem value_string (s : String) :
    value (fuel + 1) levels (writeString s ++ rest) = .ok (.str s, rest) := by
  have read := string_written s rest
  simp only [writeString, List.cons_append, List.append_assoc, List.nil_append]
  rw [value.eq_def]
  dsimp only
  rw [if_neg (by decide), if_neg (by decide), if_neg (by decide), if_pos rfl, read]
  rfl

theorem value_array {c : Char} {cs : List Char} (opening : Opening c) :
    value (fuel + 1) (levels + 1) ('[' :: c :: cs) =
      (items fuel levels (c :: cs)).map fun (items, rest) => (.arr items, rest) := by
  rw [value, if_neg (by decide), if_neg (by decide), if_neg (by decide), if_neg (by decide),
    if_neg (by decide), if_neg (by decide), if_pos rfl, skipSpace_cons cs opening.1]
  split
  case h_1 same => exact absurd (List.cons.inj same).1 opening.2.1
  case h_2 same => cases same
  case h_3 => rfl

theorem value_object {cs : List Char} :
    value (fuel + 1) (levels + 1) ('\x7b' :: '\x22' :: cs) =
      (members fuel levels ('\x22' :: cs)).map fun (members, rest) =>
        (.obj (Members.ofList members), rest) := by
  rw [value, if_neg (by decide), if_neg (by decide), if_neg (by decide), if_neg (by decide),
    if_neg (by decide), if_neg (by decide), if_neg (by decide), if_pos rfl,
    skipSpace_cons cs (by decide)]
  rfl

end

/-! ### Reading a whole value -/

/-- The text of a value is read as that value wherever levels and fuel suffice. -/
def ReadsBack (v : Json) : Prop :=
  ∀ (fuel levels : Nat) (rest : List Char), Stops rest → v.depth ≤ levels →
    2 * v.write.length ≤ fuel → value fuel levels (v.write ++ rest) = .ok (v.canonical, rest)

theorem length_writeItems (more : List Json) : 0 < (writeItems more).length := by
  cases more <;> simp [writeItems]

theorem length_writeMembers (more : List (String × Json)) : 0 < (writeMembers more).length := by
  cases more <;> simp [writeMembers]

theorem items_written {v : Json} {more : List Json} {fuel levels : Nat} (rest : List Char)
    (whole : ∀ w ∈ v :: more, Whole w) (back : ∀ w ∈ v :: more, ReadsBack w)
    (shallow : depthItems (v :: more) ≤ levels)
    (enough : 2 * (v.write.length + (writeItems more).length) ≤ fuel) :
    items fuel levels (v.write ++ (writeItems more ++ rest)) =
      .ok (canonicalItems (v :: more), rest) := by
  induction more generalizing v fuel with
  | nil =>
    obtain ⟨fuel, rfl⟩ : ∃ f, fuel = f + 1 := ⟨fuel - 1, by simp [writeItems] at enough; omega⟩
    have first := back v List.mem_cons_self fuel levels (writeItems [] ++ rest)
      (stops_writeItems [] rest) (by rw [depthItems] at shallow; omega)
      (by simp [writeItems] at enough; omega)
    rw [items, first]
    rfl
  | cons w more ih =>
    have longer := length_writeItems more
    rw [depthItems] at shallow
    simp only [writeItems, List.length_cons, List.length_append] at enough
    obtain ⟨fuel, rfl⟩ : ∃ f, fuel = f + 1 := ⟨fuel - 1, by omega⟩
    have first := back v List.mem_cons_self fuel levels (writeItems (w :: more) ++ rest)
      (stops_writeItems _ rest) (by omega) (by omega)
    have others := ih (fun u inside => whole u (List.mem_cons_of_mem _ inside))
      (fun u inside => back u (List.mem_cons_of_mem _ inside)) (by omega)
      (show 2 * (w.write.length + (writeItems more).length) ≤ fuel by omega)
    have wholeNext : Whole w := whole w (by simp)
    obtain ⟨c, cs, split, opening⟩ := wholeNext.write_cons
    rw [items, first]
    simp only [bind, Except.bind, writeItems, List.cons_append, List.append_assoc, skipSpace_comma,
      wholeNext.skipSpace_write]
    rw [split, List.cons_append] at others ⊢
    split
    case h_1 same => exact absurd (List.cons.inj same).1 opening.2.1
    case h_2 =>
      rw [others]
      rfl

theorem members_written {key : String} {v : Json} {more : List (String × Json)} {fuel levels : Nat}
    (rest : List Char) (whole : ∀ m ∈ (key, v) :: more, Whole m.2)
    (back : ∀ m ∈ (key, v) :: more, ReadsBack m.2)
    (shallow : depthMembers ((key, v) :: more) ≤ levels)
    (enough : 2 * (v.write.length + (writeMembers more).length) ≤ fuel) :
    members fuel levels (writeString key ++ ':' :: (v.write ++ (writeMembers more ++ rest))) =
      .ok (canonicalMembers ((key, v) :: more), rest) := by
  induction more generalizing key v fuel with
  | nil =>
    obtain ⟨fuel, rfl⟩ : ∃ f, fuel = f + 1 := ⟨fuel - 1, by simp [writeMembers] at enough; omega⟩
    have first := back (key, v) List.mem_cons_self fuel levels (writeMembers [] ++ rest)
      (stops_writeMembers [] rest) (by rw [depthMembers] at shallow; dsimp only; omega)
      (by simp [writeMembers] at enough; dsimp only; omega)
    have wholeFirst : Whole v := whole (key, v) List.mem_cons_self
    simp only [writeString, List.cons_append, List.append_assoc, List.nil_append]
    rw [members, string_written]
    simp only [bind, Except.bind, skipSpace_colon, wholeFirst.skipSpace_write, first]
    rfl
  | cons m more ih =>
    obtain ⟨nextKey, w⟩ := m
    have longer := length_writeMembers more
    rw [depthMembers] at shallow
    simp only [writeMembers, List.length_cons, List.length_append] at enough
    obtain ⟨fuel, rfl⟩ : ∃ f, fuel = f + 1 := ⟨fuel - 1, by omega⟩
    have first := back (key, v) List.mem_cons_self fuel levels
      (writeMembers ((nextKey, w) :: more) ++ rest) (stops_writeMembers _ rest)
      (by dsimp only; omega) (by dsimp only; omega)
    have others := ih (fun n inside => whole n (List.mem_cons_of_mem _ inside))
      (fun n inside => back n (List.mem_cons_of_mem _ inside)) (by omega)
      (show 2 * (w.write.length + (writeMembers more).length) ≤ fuel by omega)
    have wholeFirst : Whole v := whole (key, v) List.mem_cons_self
    simp only [writeString, List.cons_append, List.append_assoc, List.nil_append] at others ⊢
    rw [members, string_written]
    simp only [bind, Except.bind, skipSpace_colon, wholeFirst.skipSpace_write, first]
    simp only [writeMembers, writeString, List.cons_append, List.append_assoc, List.nil_append,
      skipSpace_comma, skipSpace_quote, others]
    rfl

/-- A value whose text is not empty needs some fuel. -/
theorem ReadsBack.of_succ {v : Json} (whole : Whole v)
    (back : ∀ (fuel levels : Nat) (rest : List Char), Stops rest → v.depth ≤ levels →
      2 * v.write.length ≤ fuel + 1 →
      value (fuel + 1) levels (v.write ++ rest) = .ok (v.canonical, rest)) : ReadsBack v := by
  intro fuel levels rest stops shallow enough
  cases fuel with
  | zero =>
    have := whole.length_write
    omega
  | succ fuel => exact back fuel levels rest stops shallow enough

theorem readsBack_int {n : Int} (least : Number.leastInt ≤ n) (greatest : n ≤ Number.greatestInt) :
    ReadsBack (.num (.int n)) := by
  simp only [Number.leastInt, Number.greatestInt] at least greatest
  refine ReadsBack.of_succ (.int least greatest) ?_
  intro fuel levels rest stops _ _
  by_cases nonneg : 0 ≤ n
  · have read := value_digits fuel levels (show n.toNat < 0x10000000000000000 by omega) stops
    rw [Int.toNat_of_nonneg nonneg] at read
    rw [write_nonneg nonneg, read]
    rfl
  · have read := value_minus fuel levels (show 0 < (-n).toNat by omega) (by omega) stops
    rw [Int.toNat_of_nonneg (by omega), Int.neg_neg] at read
    rw [write_negative (by omega), List.cons_append, read]
    rfl

theorem readsBack_arr {more : List Json} (whole : ∀ v ∈ more, Whole v)
    (back : ∀ v ∈ more, ReadsBack v) : ReadsBack (.arr more) := by
  refine ReadsBack.of_succ (.arr whole) ?_
  intro fuel levels rest _ shallow enough
  rw [depth] at shallow
  obtain ⟨levels, rfl⟩ : ∃ l, levels = l + 1 := ⟨levels - 1, by omega⟩
  cases more with
  | nil => rfl
  | cons v more =>
    simp only [write, List.length_cons, List.length_append] at enough
    have read := items_written rest whole back (Nat.le_of_succ_le_succ shallow)
      (show 2 * (v.write.length + (writeItems more).length) ≤ fuel by omega)
    obtain ⟨c, cs, split, opening⟩ := (whole v List.mem_cons_self).write_cons
    rw [split, List.cons_append] at read
    rw [write, split, List.cons_append, List.cons_append, List.cons_append, List.append_assoc,
      value_array fuel levels opening, read]
    rfl

theorem readsBack_obj {more : List (String × Json)} (whole : ∀ m ∈ more, Whole m.2)
    (back : ∀ m ∈ more, ReadsBack m.2) : ReadsBack (.obj more) := by
  refine ReadsBack.of_succ (.obj whole) ?_
  intro fuel levels rest _ shallow enough
  rw [depth] at shallow
  obtain ⟨levels, rfl⟩ : ∃ l, levels = l + 1 := ⟨levels - 1, by omega⟩
  cases more with
  | nil => rfl
  | cons m more =>
    obtain ⟨key, v⟩ := m
    simp only [write, List.length_cons, List.length_append] at enough
    have read := members_written rest whole back (Nat.le_of_succ_le_succ shallow)
      (show 2 * (v.write.length + (writeMembers more).length) ≤ fuel by omega)
    simp only [write, writeString, List.cons_append, List.append_assoc] at read ⊢
    rw [value_object fuel levels, read]
    rfl

/-- Every value whose numbers are integers of 64 bits is read back. -/
theorem Whole.readsBack {v : Json} (whole : Whole v) : ReadsBack v := by
  induction whole with
  | null => exact .of_succ .null fun _ _ _ _ _ _ => rfl
  | bool b => cases b <;> exact .of_succ (.bool _) fun _ _ _ _ _ _ => rfl
  | int least greatest => exact readsBack_int least greatest
  | str s => exact .of_succ (.str s) fun fuel levels _ _ _ _ => value_string fuel levels s
  | arr inside ih => exact readsBack_arr inside ih
  | obj inside ih => exact readsBack_obj inside ih

/-- A line that holds the text of a value stands for that value with its objects ordered. -/
theorem Whole.parse_line {v : Json} (whole : Whole v) (shallow : v.depth ≤ levelLimit) :
    parse (String.ofList (v.write ++ ['\n'])) = .ok v.canonical := by
  have read := whole.readsBack (2 * (v.write ++ ['\n']).length + 2) levelLimit ['\n']
    ⟨rfl, by decide, by decide, by decide⟩ shallow (by simp; omega)
  simp only [parse, parseWithin, String.toList_ofList, whole.skipSpace_write, read, bind,
    Except.bind]
  rfl

/-! ### One line -/

theorem lineFeed_not_mem_escapeChar (c : Char) : '\n' ∉ escapeChar c := by
  have digit (n : Nat) : '\n' ≠ Nat.digitChar n := (Nat.digitChar_ne '\n' (by decide)).symm
  by_cases feed : c = '\n'
  · rw [feed]
    decide
  · have other : '\n' ≠ c := fun same => feed same.symm
    unfold escapeChar
    repeat' split
    all_goals simp [hexByte, digit, other]

theorem lineFeed_not_mem_writeString (s : String) : '\n' ∉ writeString s := by
  simp [writeString, lineFeed_not_mem_escapeChar]

theorem lineFeed_not_mem_toDigits (n : Nat) : '\n' ∉ Nat.toDigits 10 n := by
  intro inside
  have digit := isDigit_of_mem_toDigits inside
  cases digit

theorem lineFeed_not_mem_writeItems {more : List Json} (clean : ∀ v ∈ more, '\n' ∉ v.write) :
    '\n' ∉ writeItems more := by
  induction more with
  | nil => decide
  | cons v more ih =>
    have rest := ih fun w inside => clean w (List.mem_cons_of_mem _ inside)
    have first := clean v List.mem_cons_self
    simp [writeItems, first, rest]

theorem lineFeed_not_mem_writeMembers {more : List (String × Json)}
    (clean : ∀ m ∈ more, '\n' ∉ m.2.write) : '\n' ∉ writeMembers more := by
  induction more with
  | nil => decide
  | cons m more ih =>
    have rest := ih fun n inside => clean n (List.mem_cons_of_mem _ inside)
    have first := clean m List.mem_cons_self
    simp [writeMembers, lineFeed_not_mem_writeString, first, rest]

/-- The text of a value holds no line feed. -/
theorem Whole.lineFeed_not_mem {v : Json} (whole : Whole v) : '\n' ∉ v.write := by
  induction whole with
  | null => decide
  | bool b => cases b <;> decide
  | @int n _ _ =>
    by_cases nonneg : 0 ≤ n
    · rw [write_nonneg nonneg]
      exact lineFeed_not_mem_toDigits _
    · rw [write_negative (by omega)]
      simp [lineFeed_not_mem_toDigits]
  | str s => exact lineFeed_not_mem_writeString s
  | @arr more _ clean =>
    cases more with
    | nil => decide
    | cons v more =>
      have rest := lineFeed_not_mem_writeItems fun w inside =>
        clean w (List.mem_cons_of_mem _ inside)
      have first := clean v List.mem_cons_self
      simp [write, first, rest]
  | @obj more _ clean =>
    cases more with
    | nil => decide
    | cons m more =>
      have rest := lineFeed_not_mem_writeMembers fun n inside =>
        clean n (List.mem_cons_of_mem _ inside)
      have first := clean m List.mem_cons_self
      simp [write, lineFeed_not_mem_writeString, first, rest]

end Mcp.Json
