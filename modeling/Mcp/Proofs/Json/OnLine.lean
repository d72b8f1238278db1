import Mcp.Proofs.Json.Parsed
import Mcp.Proofs.Json.ReadBack

/-! JSON on a line. The text of a value holds no line feed, and a line feed behind a text is no part of
it: a reader that succeeds on a text with a line feed behind it leaves the line feed, and it reads the
same of the text alone. -/

namespace Mcp.Json

/-- A reader that succeeds on a text with a line feed behind it leaves the line feed and, in front of
it, at most so many characters; the other reader gives the same of the text alone. -/
def Spares {α : Type} (most : Nat) (read read' : List Char → Except SyntaxError (α × List Char))
    (cs : List Char) : Prop :=
  ∀ a r, read (cs ++ ['\n']) = .ok (a, r) →
    ∃ r', r = r' ++ ['\n'] ∧ r'.length ≤ most ∧ read' cs = .ok (a, r')

section

variable {α β : Type} {most : Nat} {cs : List Char}
  {read read' behind behind' other other' : List Char → Except SyntaxError (α × List Char)}

theorem Spares.mono {more : Nat} (spares : Spares most read read' cs) (le : most ≤ more) :
    Spares more read read' cs := by
  intro a r done
  obtain ⟨r', rfl, short, alone⟩ := spares a r done
  exact ⟨r', rfl, Nat.le_trans short le, alone⟩

theorem spares_ok (a : α) (cs : List Char) :
    Spares cs.length (fun cs => .ok (a, cs)) (fun cs => .ok (a, cs)) cs := by
  intro b r done
  rw [Except.ok.injEq, Prod.mk.injEq] at done
  obtain ⟨rfl, rfl⟩ := done
  exact ⟨cs, rfl, Nat.le_refl _, rfl⟩

theorem spares_error (error : List Char → SyntaxError) :
    Spares most (fun cs => .error (error cs)) read' cs := by
  intro a r done
  cases done

theorem spares_ite {p : Prop} [Decidable p] (ofTrue : p → Spares most read read' cs)
    (ofFalse : ¬p → Spares most other other' cs) :
    Spares most (fun cs => if p then read cs else other cs)
      (fun cs => if p then read' cs else other' cs) cs := by
  by_cases holds : p
  · simpa only [if_pos holds] using ofTrue holds
  · simpa only [if_neg holds] using ofFalse holds

theorem Spares.bind {left : Nat}
    {next next' : α → List Char → Except SyntaxError (β × List Char)}
    (first : Spares left read read' cs)
    (onward : ∀ a rest, rest.length ≤ left → Spares most (next a) (next' a) rest) :
    Spares most (fun cs => read cs >>= fun x => next x.1 x.2)
      (fun cs => read' cs >>= fun x => next' x.1 x.2) cs := by
  intro b r done
  obtain ⟨⟨a, rest⟩, begun, done⟩ := of_bind_eq_ok done
  obtain ⟨rest, rfl, le, alone⟩ := first a rest begun
  obtain ⟨r', rfl, short, alone'⟩ := onward a rest le b r done
  refine ⟨r', rfl, short, ?_⟩
  show (read' cs >>= fun x => next' x.1 x.2) = _
  rw [alone]
  exact alone'

/-- Reads on by whether the text begins with a character. -/
def onHead (c : Char) (behind other : List Char → α) : List Char → α
  | [] => other []
  | d :: rest => if d = c then behind rest else other (d :: rest)

theorem onHead_of_not {c : Char} {behind other : List Char → α} {cs : List Char}
    (apart : ∀ rest, cs ≠ c :: rest) : onHead c behind other cs = other cs := by
  cases cs with
  | nil => rfl
  | cons d rest => rw [onHead, if_neg fun same => apart rest (by rw [same])]

/-- Reads on by whether the text begins with a digit. -/
def onDigit (digits other : List Char → α) : List Char → α
  | [] => other []
  | c :: rest => if c.isDigit then digits (c :: rest) else other (c :: rest)

theorem spares_onHead {c : Char} (solid : c ≠ '\n')
    (ofBehind : ∀ rest, cs = c :: rest → Spares most behind behind' rest)
    (ofOther : Spares most other other' cs) :
    Spares most (onHead c behind other) (onHead c behind' other') cs := by
  intro a r done
  cases cs with
  | nil =>
    rw [List.nil_append, onHead, if_neg solid.symm] at done
    exact ofOther a r done
  | cons d rest =>
    rw [List.cons_append, onHead] at done
    rw [onHead]
    split at done
    · rename_i same
      rw [if_pos same]
      exact ofBehind rest (by rw [same]) a r done
    · rename_i differ
      rw [if_neg differ]
      exact ofOther a r done

theorem spares_onDigit {digits digits' : List Char → Except SyntaxError (α × List Char)}
    (ofDigits : ∀ c rest, cs = c :: rest → c.isDigit → Spares most digits digits' cs)
    (ofOther : Spares most other other' cs) :
    Spares most (onDigit digits other) (onDigit digits' other') cs := by
  intro a r done
  cases cs with
  | nil => exact ofOther a r done
  | cons c rest =>
    rw [List.cons_append, onDigit] at done
    rw [onDigit]
    split at done
    · rename_i digit
      rw [if_pos digit]
      exact ofDigits c rest rfl digit a r done
    · rename_i differ
      rw [if_neg differ]
      exact ofOther a r done

end

/-! ### White space and digits -/

theorem skipSpace_lineFeed (cs : List Char) :
    (skipSpace (cs ++ ['\n']) = [] ∧ skipSpace cs = []) ∨
      skipSpace (cs ++ ['\n']) = skipSpace cs ++ ['\n'] := by
  induction cs with
  | nil => exact .inl ⟨rfl, rfl⟩
  | cons c cs ih =>
    simp only [skipSpace, List.cons_append, List.dropWhile_cons] at ih ⊢
    split
    · exact ih
    · exact .inr rfl

theorem length_skipSpace_le (cs : List Char) : (skipSpace cs).length ≤ cs.length :=
  (List.dropWhile_suffix _).length_le

theorem takeWhile_lineFeed (cs : List Char) :
    (cs ++ ['\n']).takeWhile Char.isDigit = cs.takeWhile Char.isDigit := by
  induction cs with
  | nil => rfl
  | cons c cs ih => simp only [List.cons_append, List.takeWhile_cons, ih]

theorem dropWhile_lineFeed (cs : List Char) :
    (cs ++ ['\n']).dropWhile Char.isDigit = cs.dropWhile Char.isDigit ++ ['\n'] := by
  induction cs with
  | nil => rfl
  | cons c cs ih =>
    simp only [List.cons_append, List.dropWhile_cons, ih]
    split <;> rfl

section

variable {α : Type} {most : Nat} {cs : List Char}

/-- A reader behind white space, if it wants anything at all. -/
theorem Spares.skipSpace {read read' : List Char → Except SyntaxError (α × List Char)}
    (needs : ∀ x, read [] ≠ .ok x) (spares : Spares most read read' (skipSpace cs)) :
    Spares most (fun cs => read (Json.skipSpace cs)) (fun cs => read' (Json.skipSpace cs)) cs := by
  intro a r done
  dsimp only at done ⊢
  rcases skipSpace_lineFeed cs with ⟨blank, -⟩ | same
  · rw [blank] at done
    exact absurd done (needs _)
  · rw [same] at done
    exact spares a r done

/-- A reader with more behind white space, if that wants anything at all. -/
theorem Spares.bind_skipSpace {β : Type} {left : Nat}
    {read read' : List Char → Except SyntaxError (β × List Char)}
    {next next' : β → List Char → Except SyntaxError (α × List Char)}
    (first : Spares left read read' cs) (needs : ∀ b x, next b [] ≠ .ok x)
    (onward : ∀ b rest, rest.length ≤ left →
      Spares most (next b) (next' b) (Json.skipSpace rest)) :
    Spares most (fun cs => read cs >>= fun x => next x.1 (Json.skipSpace x.2))
      (fun cs => read' cs >>= fun x => next' x.1 (Json.skipSpace x.2)) cs := by
  have behind (b : β) (rest : List Char) (le : rest.length ≤ left) :
      Spares most ((fun b rest => next b (Json.skipSpace rest)) b)
        ((fun b rest => next' b (Json.skipSpace rest)) b) rest :=
    Spares.skipSpace (needs b) (onward b rest le)
  exact first.bind behind

/-- A reader of digits that goes on with what they are. -/
theorem spares_digits {next next' : List Char → List Char → Except SyntaxError (α × List Char)}
    (spares : Spares most (next (cs.takeWhile Char.isDigit)) (next' (cs.takeWhile Char.isDigit))
      (cs.dropWhile Char.isDigit)) :
    Spares most (fun cs => next (cs.takeWhile Char.isDigit) (cs.dropWhile Char.isDigit))
      (fun cs => next' (cs.takeWhile Char.isDigit) (cs.dropWhile Char.isDigit)) cs := by
  intro a r done
  dsimp only at done ⊢
  rw [takeWhile_lineFeed, dropWhile_lineFeed] at done
  exact spares a r done

end

/-! ### Numbers -/

section

variable {negative : Bool} {significand : Nat}

theorem finishReal_spares {exponent : Int} (cs : List Char) :
    Spares cs.length (finishReal negative significand exponent)
      (finishReal negative significand exponent) cs := by
  unfold finishReal
  cases realOfDecimal negative significand exponent with
  | none => exact spares_error _
  | some x => exact spares_ok _ cs

theorem integer_spares (cs : List Char) :
    Spares cs.length (integer negative significand) (integer negative significand) cs :=
  spares_ite (fun _ => spares_ok _ cs) fun _ =>
    spares_ite (fun _ => spares_ok _ cs) fun _ => finishReal_spares cs

/-- Reads an exponent behind its sign. -/
def exponentDigits (negative : Bool) (significand : Nat) (exponent : Int) (down : Bool)
    (digits rest : List Char) : Except SyntaxError (Number × List Char) :=
  if 0x80000000 ≤ digitsValue digits 0 then
    if significand ≠ 0 ∧ !down then .error .malformed
    else .ok (.real (Decimal.Binary64.zero negative), rest)
  else
    finishReal negative significand
      (if down then exponent - digitsValue digits 0 else exponent + digitsValue digits 0) rest

theorem exponentDigits_spares {exponent : Int} {down : Bool} {digits : List Char}
    (cs : List Char) :
    Spares cs.length (exponentDigits negative significand exponent down digits)
      (exponentDigits negative significand exponent down digits) cs :=
  spares_ite (fun _ => spares_ite (fun _ => spares_error _) fun _ => spares_ok _ cs) fun _ =>
    finishReal_spares cs

def signedExponent (negative : Bool) (significand : Nat) (exponent : Int) (down : Bool) :
    List Char → Except SyntaxError (Number × List Char) :=
  onDigit
    (fun cs => exponentDigits negative significand exponent down (cs.takeWhile Char.isDigit)
      (cs.dropWhile Char.isDigit))
    fun cs => .error (refuse cs)

theorem signedExponent_spares {exponent : Int} {down : Bool} (cs : List Char) :
    Spares cs.length (signedExponent negative significand exponent down)
      (signedExponent negative significand exponent down) cs :=
  spares_onDigit
    (fun _ _ _ _ => spares_digits
      ((exponentDigits_spares _).mono (List.dropWhile_suffix _).length_le))
    (spares_error _)

theorem exponentPart_eq (exponent : Int) : exponentPart negative significand exponent =
    onHead '+' (signedExponent negative significand exponent false)
      (onHead '-' (signedExponent negative significand exponent true)
        (signedExponent negative significand exponent false)) := by
  funext cs
  rcases cs with _ | ⟨c, rest⟩
  · rfl
  by_cases plus : c = '+'
  · subst plus
    cases rest <;> rfl
  by_cases minus : c = '-'
  · subst minus
    cases rest <;> rfl
  · rw [onHead, if_neg plus, onHead, if_neg minus, exponentPart]
    · rfl
    · simp [plus]
    · simp [minus]

theorem exponentPart_spares {exponent : Int} (cs : List Char) :
    Spares cs.length (exponentPart negative significand exponent)
      (exponentPart negative significand exponent) cs := by
  have behind (down : Bool) (c : Char) (rest : List Char) (same : cs = c :: rest) :
      Spares cs.length (signedExponent negative significand exponent down)
        (signedExponent negative significand exponent down) rest :=
    (signedExponent_spares rest).mono (by simp [same])
  rw [exponentPart_eq]
  exact spares_onHead (by decide) (behind false _)
    (spares_onHead (by decide) (behind true _) (signedExponent_spares cs))

theorem optionalExponent_eq (exponent : Int) : optionalExponent negative significand exponent =
    onHead 'e' (exponentPart negative significand exponent)
      (onHead 'E' (exponentPart negative significand exponent)
        (finishReal negative significand exponent)) := by
  funext cs
  unfold optionalExponent
  split
  · rfl
  · rfl
  · rename_i small large
    rw [onHead_of_not small, onHead_of_not large]

theorem fractional_eq (value exponent : Nat) : number.fractional negative value exponent =
    onHead '.' (fractionPart negative value exponent)
      (onHead 'e' (exponentPart negative value exponent)
        (onHead 'E' (exponentPart negative value exponent) (integer negative value))) := by
  funext cs
  unfold number.fractional
  split
  · rfl
  · rfl
  · rfl
  · rename_i point small large
    rw [onHead_of_not point, onHead_of_not small, onHead_of_not large]

theorem exponentPart_spares_behind {exponent : Int} {cs : List Char} (c : Char) (rest : List Char)
    (same : cs = c :: rest) :
    Spares cs.length (exponentPart negative significand exponent)
      (exponentPart negative significand exponent) rest :=
  (exponentPart_spares rest).mono (by simp [same])

theorem optionalExponent_spares {exponent : Int} (cs : List Char) :
    Spares cs.length (optionalExponent negative significand exponent)
      (optionalExponent negative significand exponent) cs := by
  rw [optionalExponent_eq]
  exact spares_onHead (by decide) (exponentPart_spares_behind _)
    (spares_onHead (by decide) (exponentPart_spares_behind _) (finishReal_spares cs))

def fractionDigits (negative : Bool) (significand : Nat) (exponent : Int)
    (digits rest : List Char) : Except SyntaxError (Number × List Char) :=
  if digits.isEmpty then .error (refuse rest)
  else
    optionalExponent negative (takeFitting significand digits).1
      (exponent - (digits.length - (takeFitting significand digits).2.length : Nat)) rest

theorem fractionPart_spares {exponent : Int} (cs : List Char) :
    Spares cs.length (fractionPart negative significand exponent)
      (fractionPart negative significand exponent) cs := by
  have behind (digits rest : List Char) :
      Spares rest.length (fractionDigits negative significand exponent digits)
        (fractionDigits negative significand exponent digits) rest :=
    spares_ite (fun _ => spares_error _) fun _ => optionalExponent_spares rest
  exact spares_digits ((behind _ _).mono (List.dropWhile_suffix _).length_le)

theorem fractional_spares {value exponent : Nat} (cs : List Char) :
    Spares cs.length (number.fractional negative value exponent)
      (number.fractional negative value exponent) cs := by
  rw [fractional_eq]
  refine spares_onHead (by decide) (fun rest same => ?_)
    (spares_onHead (by decide) (exponentPart_spares_behind _)
      (spares_onHead (by decide) (exponentPart_spares_behind _) (integer_spares cs)))
  exact (fractionPart_spares rest).mono (by simp [same])

/-- Reads a number behind its whole part, which does not begin with zero. -/
def wholePart (negative : Bool) (digits : List Char) :
    List Char → Except SyntaxError (Number × List Char) :=
  let (value, dropped) := takeFitting 0 digits
  if dropped.isEmpty then number.fractional negative value 0
  else
    onHead '.' (fractionPart negative value dropped.length)
      (optionalExponent negative value dropped.length)

theorem wholePart_spares {digits : List Char} (cs : List Char) :
    Spares cs.length (wholePart negative digits) (wholePart negative digits) cs := by
  unfold wholePart
  dsimp only
  split
  · exact fractional_spares cs
  · refine spares_onHead (by decide) (fun rest same => ?_) (optionalExponent_spares cs)
    exact (fractionPart_spares rest).mono (by simp [same])

theorem number_eq : number negative =
    onHead '0' (onDigit (fun _ => .error .malformed) (number.fractional negative 0 0))
      (onDigit
        (fun cs => wholePart negative (cs.takeWhile Char.isDigit) (cs.dropWhile Char.isDigit))
        fun cs => .error (refuse cs)) := by
  funext cs
  rcases cs with _ | ⟨c, rest⟩
  · rfl
  unfold number
  dsimp only
  rw [onHead]
  by_cases zero : c = '0'
  · rw [if_pos zero, if_pos zero]
    cases rest <;> rfl
  rw [if_neg zero, if_neg zero, onDigit]
  split
  · dsimp only [wholePart]
    split
    · rfl
    · split
      · rename_i same
        rw [same]
        rfl
      · rename_i apart
        rw [onHead_of_not apart]
  · rfl

theorem number_spares (cs : List Char) :
    Spares (cs.length - 1) (number negative) (number negative) cs := by
  rw [number_eq]
  refine spares_onHead (by decide) (fun rest same => ?_) ?_
  · refine spares_onDigit (fun _ _ _ _ => spares_error _) ((fractional_spares rest).mono ?_)
    simp [same]
  · refine spares_onDigit (fun c rest same digit => ?_) (spares_error _)
    refine spares_digits ((wholePart_spares _).mono ?_)
    rw [same, List.dropWhile_cons_of_pos digit]
    exact (List.dropWhile_suffix _).length_le

end

/-! ### Words and strings -/

theorem word_spares {letters : List Char} {v : Json} (solid : '\n' ∉ letters) (cs : List Char) :
    Spares cs.length (word letters v) (word letters v) cs := by
  induction letters generalizing cs with
  | nil => exact spares_ok v cs
  | cons letter letters ih =>
    rw [List.mem_cons, not_or] at solid
    have same : word (letter :: letters) v =
        onHead letter (word letters v) fun cs => .error (refuse cs) := by
      funext cs
      cases cs <;> rfl
    rw [same]
    refine spares_onHead (Ne.symm solid.1) (fun rest same => ?_) (spares_error _)
    exact (ih solid.2 rest).mono (by simp [same])

theorem hexUnit_spares (cs : List Char) : Spares cs.length hexUnit hexUnit cs := by
  intro n r done
  unfold hexUnit at done ⊢
  split at done
  · cases done
  · rename_i large
    have feed : hexValue? '\n' = none := by decide
    match cs with
    | [] | [_] | [_, _] => cases done
    | [_, _, _] =>
      simp only [List.cons_append, List.nil_append, feed] at done
      split at done
      · rename_i none_
        cases none_
      · cases done
    | a :: b :: c :: d :: rest =>
      rw [if_neg (by simpa using large)]
      simp only [List.cons_append] at done
      dsimp only at done ⊢
      split at done
      · cases done
        exact ⟨rest, rfl, by simp only [List.length_cons]; omega, rfl⟩
      · cases done

/-- The character of a surrogate pair. -/
def ofPair (high low : Nat) (rest : List Char) : Except SyntaxError (Char × List Char) :=
  if 0xDC00 ≤ low ∧ low ≤ 0xDFFF then
    .ok (Char.ofNat (0x10000 + (high - 0xD800) * 0x400 + (low - 0xDC00)), rest)
  else .error .malformed

/-- Reads the second unit of a surrogate pair behind its mark. -/
def lowUnit (high : Nat) (cs : List Char) : Except SyntaxError (Char × List Char) :=
  hexUnit cs >>= fun x => ofPair high x.1 x.2

theorem lowUnit_spares {high : Nat} (cs : List Char) :
    Spares cs.length (lowUnit high) (lowUnit high) cs :=
  (hexUnit_spares cs).bind fun _ rest le =>
    spares_ite (fun _ => (spares_ok _ rest).mono le) fun _ => spares_error _

theorem lowSurrogate_eq (high : Nat) : lowSurrogate high =
    onHead '\\' (onHead 'u' (lowUnit high) fun cs => .error (refuse cs))
      fun cs => .error (refuse cs) := by
  funext cs
  rcases cs with _ | ⟨c, rest⟩
  · rfl
  by_cases mark : c = '\\'
  · subst mark
    rcases rest with _ | ⟨d, rest⟩
    · rfl
    by_cases unit : d = 'u'
    · subst unit
      rfl
    · rw [onHead, if_pos rfl, onHead, if_neg unit, lowSurrogate]
      · rfl
      · simp
      · simp [unit]
  · rw [onHead, if_neg mark, lowSurrogate]
    · rfl
    · simp
    · simp [mark]

theorem lowSurrogate_spares {high : Nat} (cs : List Char) :
    Spares cs.length (lowSurrogate high) (lowSurrogate high) cs := by
  rw [lowSurrogate_eq]
  refine spares_onHead (by decide) (fun rest same => ?_) (spares_error _)
  refine spares_onHead (by decide) (fun rest' same' => ?_) (spares_error _)
  refine (lowUnit_spares rest').mono ?_
  simp only [same, same', List.length_cons]
  omega

/-- The character of one unit, or reads the second unit of two. -/
def ofUnit (unit : Nat) (rest : List Char) : Except SyntaxError (Char × List Char) :=
  if 0xDC00 ≤ unit ∧ unit ≤ 0xDFFF then .error .malformed
  else if 0xD800 ≤ unit ∧ unit ≤ 0xDBFF then lowSurrogate unit rest
  else .ok (Char.ofNat unit, rest)

theorem ofUnit_spares {unit : Nat} (cs : List Char) :
    Spares cs.length (ofUnit unit) (ofUnit unit) cs :=
  spares_ite (fun _ => spares_error _) fun _ =>
    spares_ite (fun _ => lowSurrogate_spares cs) fun _ => spares_ok _ cs

/-- The character that one letter behind a backslash stands for. -/
def escaped? (c : Char) : Option Char :=
  if c = '\x22' ∨ c = '\\' ∨ c = '/' then some c
  else if c = 'b' then some '\x08'
  else if c = 'f' then some '\x0c'
  else if c = 'n' then some '\n'
  else if c = 'r' then some '\r'
  else if c = 't' then some '\t'
  else none

def escapeLetter : List Char → Except SyntaxError (Char × List Char)
  | [] => .error .unfinished
  | c :: rest =>
    match escaped? c with
    | some d => .ok (d, rest)
    | none => .error .malformed

theorem escapeLetter_spares (cs : List Char) :
    Spares cs.length escapeLetter escapeLetter cs := by
  intro c r done
  cases cs with
  | nil => cases done
  | cons d rest =>
    rw [List.cons_append, escapeLetter] at done
    rw [escapeLetter]
    split at done
    · cases done
      exact ⟨rest, rfl, Nat.le_succ _, rfl⟩
    · cases done

theorem escape_eq :
    escape = onHead 'u' (fun cs => hexUnit cs >>= fun x => ofUnit x.1 x.2) escapeLetter := by
  funext cs
  rcases cs with _ | ⟨c, rest⟩
  · rfl
  by_cases unit : c = 'u'
  · subst unit
    rfl
  · rw [onHead, if_neg unit, escape, escapeLetter, escaped?]
    · grind
    · exact unit

theorem escape_spares (cs : List Char) : Spares cs.length escape escape cs := by
  rw [escape_eq]
  refine spares_onHead (by decide) (fun rest same => ?_) (escapeLetter_spares cs)
  refine (hexUnit_spares rest).bind fun _ left le => (ofUnit_spares left).mono ?_
  exact Nat.le_trans le (by simp [same])

/-- Reads on behind a character of a string. -/
def behindChar (fuel : Nat) (c : Char) (rest : List Char) :
    Except SyntaxError (List Char × List Char) :=
  stringTail fuel rest >>= fun x => .ok (c :: x.1, x.2)

def plainChar (fuel : Nat) : List Char → Except SyntaxError (List Char × List Char)
  | [] => .error .unfinished
  | c :: rest => if c.toNat < 0x20 then .error .malformed else behindChar fuel c rest

theorem stringTail_succ (fuel : Nat) : stringTail (fuel + 1) =
    onHead '\x22' (fun rest => .ok ([], rest))
      (onHead '\\' (fun rest => escape rest >>= fun x => behindChar fuel x.1 x.2)
        (plainChar fuel)) := by
  funext cs
  cases cs <;> rfl

theorem stringTail_spares {fuel fuel' : Nat} {cs : List Char} (enough : cs.length < fuel') :
    Spares (cs.length - 1) (stringTail fuel) (stringTail fuel') cs := by
  induction fuel generalizing fuel' cs with
  | zero => exact spares_error _
  | succ fuel ih =>
    obtain _ | fuel' := fuel'
    · cases enough
    have behind (c : Char) (rest : List Char) (short : rest.length < cs.length) :
        Spares (cs.length - 1) (behindChar fuel c) (behindChar fuel' c) rest := by
      have tail : Spares _ (stringTail fuel) (stringTail fuel') rest := ih (by omega)
      exact tail.bind fun s left le => (spares_ok _ left).mono (by omega)
    rw [stringTail_succ, stringTail_succ]
    refine spares_onHead (by decide) (fun rest same => ?_)
      (spares_onHead (by decide) (fun rest same => ?_) ?_)
    · exact (spares_ok _ rest).mono (by simp [same])
    · refine (escape_spares rest).bind fun c left le => behind c left ?_
      simp only [same, List.length_cons]
      omega
    · intro s r done
      cases cs with
      | nil => cases done
      | cons c rest =>
        rw [List.cons_append, plainChar] at done
        rw [plainChar]
        split at done
        · cases done
        · rename_i shown
          rw [if_neg shown]
          exact behind c rest (Nat.lt_succ_self _) s r done

theorem string_spares (cs : List Char) : Spares cs.length string string cs := by
  intro s r done
  obtain ⟨⟨chars, rest⟩, begun, done⟩ := of_bind_eq_ok done
  cases done
  obtain ⟨r', rfl, le, alone⟩ := stringTail_spares (Nat.lt_succ_self cs.length) _ _ begun
  refine ⟨r', rfl, Nat.le_trans le (Nat.sub_le _ _), ?_⟩
  rw [string, alone]
  rfl

/-! ### Values -/

section

variable {α : Type} (fuel levels : Nat)

/-- The value of what was read. -/
def gives {α : Type} (make : α → Json) (read : List Char → Except SyntaxError (α × List Char))
    (cs : List Char) : Except SyntaxError (Json × List Char) :=
  read cs >>= fun x => .ok (make x.1, x.2)

def arrayTail : Nat → List Char → Except SyntaxError (Json × List Char)
  | 0, _ => .error .malformed
  | levels + 1, rest =>
    onHead ']' (fun rest => .ok (.arr [], rest)) (gives .arr (items fuel levels)) (skipSpace rest)

def objectTail : Nat → List Char → Except SyntaxError (Json × List Char)
  | 0, _ => .error .malformed
  | levels + 1, rest =>
    onHead '\x7d' (fun rest => .ok (.obj [], rest))
      (gives (fun ms => .obj (Members.ofList ms)) (members fuel levels)) (skipSpace rest)

def nextItem (item : Json) : List Char → Except SyntaxError (List Json × List Char) :=
  onHead ']' (fun _ => .error .malformed)
    fun cs => items fuel levels cs >>= fun x => .ok (item :: x.1, x.2)

def behindItem (item : Json) : List Char → Except SyntaxError (List Json × List Char) :=
  onHead ']' (fun rest => .ok ([item], rest))
    (onHead ',' (fun rest => nextItem fuel levels item (skipSpace rest))
      fun cs => .error (refuse cs))

def behindMember (key : String) (item : Json) :
    List Char → Except SyntaxError (List (String × Json) × List Char) :=
  onHead '\x7d' (fun rest => .ok ([(key, item)], rest))
    (onHead ','
      (fun rest => members fuel levels (skipSpace rest) >>= fun x => .ok ((key, item) :: x.1, x.2))
      fun cs => .error (refuse cs))

def behindKey (key : String) : List Char → Except SyntaxError (List (String × Json) × List Char) :=
  onHead ':'
    (fun rest => value fuel levels (skipSpace rest) >>= fun x =>
      behindMember fuel levels key x.1 (skipSpace x.2))
    fun cs => .error (refuse cs)

end

theorem value_nil (fuel levels : Nat) : value fuel levels [] = .error .unfinished := by
  cases fuel <;> rfl

theorem items_nil (fuel levels : Nat) : items fuel levels [] = .error .unfinished := by
  cases fuel with
  | zero => rfl
  | succ fuel =>
    rw [items, value_nil]
    rfl

theorem members_nil (fuel levels : Nat) : members fuel levels [] = .error .unfinished := by
  cases fuel <;> rfl

theorem arrayTail_succ (fuel levels : Nat) (cs : List Char) :
    arrayTail fuel (levels + 1) cs =
      match skipSpace cs with
      | ']' :: rest => .ok (.arr [], rest)
      | [] => .error .unfinished
      | rest =>
        (do
          let (vs, rest) ← items fuel levels rest
          .ok (.arr vs, rest)) := by
  rw [arrayTail]
  generalize skipSpace cs = left
  split
  · rfl
  · rw [onHead, gives, items_nil]
    rfl
  · rename_i apart _
    rw [onHead_of_not apart, gives]

theorem objectTail_succ (fuel levels : Nat) (cs : List Char) :
    objectTail fuel (levels + 1) cs =
      match skipSpace cs with
      | '\x7d' :: rest => .ok (.obj [], rest)
      | [] => .error .unfinished
      | rest =>
        (do
          let (ms, rest) ← members fuel levels rest
          .ok (.obj (Members.ofList ms), rest)) := by
  rw [objectTail]
  generalize skipSpace cs = left
  split
  · rfl
  · rw [onHead, gives, members_nil]
    rfl
  · rename_i apart _
    rw [onHead_of_not apart, gives]

theorem value_succ (fuel levels : Nat) : value (fuel + 1) levels =
    onHead 'n' (word ['u', 'l', 'l'] .null)
      (onHead 't' (word ['r', 'u', 'e'] (.bool true))
        (onHead 'f' (word ['a', 'l', 's', 'e'] (.bool false))
          (onHead '\x22' (gives .str string)
            (onHead '-' (gives .num (number true))
              (onDigit (gives .num (number false))
                (onHead '[' (arrayTail fuel levels)
                  (onHead '\x7b' (objectTail fuel levels) fun cs => .error (refuse cs)))))))) := by
  funext cs
  rcases cs with _ | ⟨c, rest⟩
  · rfl
  rw [value.eq_def]
  dsimp only [onHead, onDigit]
  cases levels with
  | zero => rfl
  | succ levels =>
    rw [arrayTail_succ, objectTail_succ]
    rfl

theorem items_succ (fuel levels : Nat) : items (fuel + 1) levels = fun cs =>
    value fuel levels cs >>= fun x => behindItem fuel levels x.1 (skipSpace x.2) := by
  funext cs
  rw [items]
  refine congrArg _ (funext fun x => ?_)
  obtain ⟨item, rest⟩ := x
  dsimp only [behindItem]
  generalize skipSpace rest = left
  split
  · rfl
  · rename_i rest
    rw [onHead, if_neg (by decide), onHead, if_pos rfl, nextItem]
    generalize skipSpace rest = left
    split
    · rfl
    · rename_i apart
      rw [onHead_of_not apart]
  · rename_i closed more
    rw [onHead_of_not closed, onHead_of_not more]

theorem behindMember_eq (fuel levels : Nat) (key : String) (item : Json) (cs : List Char) :
    behindMember fuel levels key item cs =
      match cs with
      | '\x7d' :: rest => .ok ([(key, item)], rest)
      | ',' :: rest => do
        let (more, rest) ← members fuel levels (skipSpace rest)
        .ok ((key, item) :: more, rest)
      | rest => .error (refuse rest) := by
  rw [behindMember]
  split
  · rfl
  · rfl
  · rename_i closed more
    rw [onHead_of_not closed, onHead_of_not more]

theorem behindKey_eq (fuel levels : Nat) (key : String) (cs : List Char) :
    behindKey fuel levels key cs =
      match cs with
      | ':' :: rest => do
        let (item, rest) ← value fuel levels (skipSpace rest)
        match skipSpace rest with
        | '\x7d' :: rest => .ok ([(key, item)], rest)
        | ',' :: rest => do
          let (more, rest) ← members fuel levels (skipSpace rest)
          .ok ((key, item) :: more, rest)
        | rest => .error (refuse rest)
      | rest => .error (refuse rest) := by
  rw [behindKey]
  split
  · dsimp only [onHead]
    rw [if_pos rfl]
    refine congrArg _ (funext fun x => ?_)
    obtain ⟨item, rest⟩ := x
    rw [behindMember_eq]
  · rename_i apart
    rw [onHead_of_not apart]

theorem members_succ (fuel levels : Nat) : members (fuel + 1) levels =
    onHead '\x22' (fun rest => string rest >>= fun x => behindKey fuel levels x.1 (skipSpace x.2))
      fun cs => .error (refuse cs) := by
  funext cs
  rw [members.eq_def]
  dsimp only
  split
  · dsimp only [onHead]
    rw [if_pos rfl]
    refine congrArg _ (funext fun x => ?_)
    obtain ⟨key, rest⟩ := x
    exact (behindKey_eq fuel levels key (skipSpace rest)).symm
  · rename_i apart
    rw [onHead_of_not apart]

/-- With this fuel the reader of values spares the line feed. -/
def ValueSpares (fuel : Nat) : Prop :=
  ∀ {fuel' levels : Nat} {cs : List Char}, 2 * cs.length + 1 ≤ fuel' →
    Spares (cs.length - 1) (value fuel levels) (value fuel' levels) cs

def ItemsSpare (fuel : Nat) : Prop :=
  ∀ {fuel' levels : Nat} {cs : List Char}, 2 * cs.length + 2 ≤ fuel' →
    Spares (cs.length - 1) (items fuel levels) (items fuel' levels) cs

def MembersSpare (fuel : Nat) : Prop :=
  ∀ {fuel' levels : Nat} {cs : List Char}, 2 * cs.length + 1 ≤ fuel' →
    Spares (cs.length - 1) (members fuel levels) (members fuel' levels) cs

theorem gives_spares {α : Type} {make : α → Json} {most : Nat} {cs : List Char}
    {read read' : List Char → Except SyntaxError (α × List Char)}
    (spares : Spares most read read' cs) : Spares most (gives make read) (gives make read') cs :=
  spares.bind fun _ left le => (spares_ok _ left).mono le

theorem gives_nil {α : Type} {make : α → Json}
    {read : List Char → Except SyntaxError (α × List Char)} {e : SyntaxError}
    (needs : read [] = .error e) : gives make read [] = .error e := by
  rw [gives, needs]
  rfl

section

variable {fuel fuel' levels most : Nat} {rest : List Char}

theorem arrayTail_spares (ofItems : ItemsSpare fuel) (enough : 2 * rest.length + 2 ≤ fuel') :
    Spares rest.length (arrayTail fuel levels) (arrayTail fuel' levels) rest := by
  have shorter := length_skipSpace_le rest
  cases levels with
  | zero => exact spares_error _
  | succ levels =>
    refine Spares.skipSpace (fun x done => ?_)
      (spares_onHead (by decide) (fun left same => ?_) ?_)
    · rw [onHead, gives_nil (items_nil fuel levels)] at done
      cases done
    · rw [same, List.length_cons] at shorter
      exact (spares_ok _ left).mono (by omega)
    · exact (gives_spares (ofItems (by omega))).mono (by omega)

theorem objectTail_spares (ofMembers : MembersSpare fuel)
    (enough : 2 * rest.length + 1 ≤ fuel') :
    Spares rest.length (objectTail fuel levels) (objectTail fuel' levels) rest := by
  have shorter := length_skipSpace_le rest
  cases levels with
  | zero => exact spares_error _
  | succ levels =>
    refine Spares.skipSpace (fun x done => ?_)
      (spares_onHead (by decide) (fun left same => ?_) ?_)
    · rw [onHead, gives_nil (members_nil fuel levels)] at done
      cases done
    · rw [same, List.length_cons] at shorter
      exact (spares_ok _ left).mono (by omega)
    · exact (gives_spares (ofMembers (by omega))).mono (by omega)

theorem value_spares (ofItems : ItemsSpare fuel) (ofMembers : MembersSpare fuel) :
    ValueSpares (fuel + 1) := by
  intro fuel' levels cs enough
  obtain _ | fuel' := fuel'
  · cases enough
  rw [value_succ, value_succ]
  have behind {letters : List Char} {v : Json} (solid : '\n' ∉ letters) (c : Char)
      (rest : List Char) (same : cs = c :: rest) :
      Spares (cs.length - 1) (word letters v) (word letters v) rest :=
    (word_spares solid rest).mono (by simp [same])
  refine spares_onHead (by decide) (behind (by decide) _) ?_
  refine spares_onHead (by decide) (behind (by decide) _) ?_
  refine spares_onHead (by decide) (behind (by decide) _) ?_
  refine spares_onHead (by decide) (fun rest same => ?_) ?_
  · exact (gives_spares (string_spares rest)).mono (by simp [same])
  refine spares_onHead (by decide) (fun rest same => ?_) ?_
  · exact (gives_spares (number_spares rest)).mono (by simp [same])
  refine spares_onDigit (fun _ _ _ _ => gives_spares (number_spares cs)) ?_
  refine spares_onHead (by decide) (fun rest same => ?_) ?_
  · rw [same, List.length_cons] at enough
    exact (arrayTail_spares ofItems (by omega)).mono (by simp [same])
  refine spares_onHead (by decide) (fun rest same => ?_) (spares_error _)
  · rw [same, List.length_cons] at enough
    exact (objectTail_spares ofMembers (by omega)).mono (by simp [same])

theorem nextItem_spares {item : Json} (ofItems : ItemsSpare fuel)
    (enough : 2 * rest.length + 2 ≤ fuel') :
    Spares rest.length (nextItem fuel levels item) (nextItem fuel' levels item) rest := by
  refine spares_onHead (by decide) (fun _ _ => spares_error _) ?_
  refine (ofItems enough).bind fun vs left le => (spares_ok _ left).mono ?_
  exact Nat.le_trans le (Nat.sub_le _ _)

theorem nextItem_nil {item : Json} (x : List Json × List Char) :
    nextItem fuel levels item [] ≠ .ok x := by
  rw [nextItem, onHead, items_nil]
  intro done
  cases done

theorem behindItem_spares {item : Json} (ofItems : ItemsSpare fuel)
    (enough : 2 * rest.length ≤ fuel') :
    Spares rest.length (behindItem fuel levels item) (behindItem fuel' levels item) rest := by
  refine spares_onHead (by decide) (fun left same => ?_)
    (spares_onHead (by decide) (fun left same => ?_) (spares_error _))
  · exact (spares_ok _ left).mono (by simp [same])
  · have shorter := length_skipSpace_le left
    rw [same, List.length_cons] at enough ⊢
    exact Spares.skipSpace nextItem_nil
      ((nextItem_spares ofItems (by omega)).mono (by omega))

theorem behindItem_nil {item : Json} (x : List Json × List Char) :
    behindItem fuel levels item [] ≠ .ok x := by
  intro done
  cases done

theorem items_spare (ofValue : ValueSpares fuel) (ofItems : ItemsSpare fuel) :
    ItemsSpare (fuel + 1) := by
  intro fuel' levels cs enough
  obtain _ | fuel' := fuel'
  · cases enough
  rw [items_succ, items_succ]
  have first : Spares _ (value fuel levels) (value fuel' levels) cs := ofValue (by omega)
  refine first.bind_skipSpace (fun _ => behindItem_nil) fun item left le => ?_
  have shorter := length_skipSpace_le left
  exact (behindItem_spares ofItems (by omega)).mono (by omega)

theorem behindMember_spares {key : String} {item : Json} (ofMembers : MembersSpare fuel)
    (enough : 2 * rest.length ≤ fuel') :
    Spares rest.length (behindMember fuel levels key item) (behindMember fuel' levels key item)
      rest := by
  refine spares_onHead (by decide) (fun left same => ?_)
    (spares_onHead (by decide) (fun left same => ?_) (spares_error _))
  · exact (spares_ok _ left).mono (by simp [same])
  · have shorter := length_skipSpace_le left
    rw [same, List.length_cons] at enough ⊢
    have more : Spares (skipSpace left).length (members fuel levels) (members fuel' levels)
        (skipSpace left) := (ofMembers (by omega)).mono (Nat.sub_le _ _)
    refine Spares.bind (Spares.skipSpace (fun x done => ?_) more) fun ms last le =>
      (spares_ok _ last).mono (by omega)
    rw [members_nil] at done
    cases done

theorem behindMember_nil {key : String} {item : Json} (x : List (String × Json) × List Char) :
    behindMember fuel levels key item [] ≠ .ok x := by
  intro done
  cases done

theorem behindKey_spares {key : String} (ofValue : ValueSpares fuel)
    (ofMembers : MembersSpare fuel) (enough : 2 * rest.length ≤ fuel') :
    Spares rest.length (behindKey fuel levels key) (behindKey fuel' levels key) rest := by
  refine spares_onHead (by decide) (fun left same => ?_) (spares_error _)
  have shorter := length_skipSpace_le left
  rw [same, List.length_cons] at enough ⊢
  have item : Spares (skipSpace left).length (value fuel levels) (value fuel' levels)
      (skipSpace left) := (ofValue (by omega)).mono (Nat.sub_le _ _)
  refine Spares.bind_skipSpace (Spares.skipSpace (fun x done => ?_) item)
    (fun _ => behindMember_nil) fun v last le => ?_
  · rw [value_nil] at done
    cases done
  · have shorter' := length_skipSpace_le last
    exact (behindMember_spares ofMembers (by omega)).mono (by omega)

theorem behindKey_nil {key : String} (x : List (String × Json) × List Char) :
    behindKey fuel levels key [] ≠ .ok x := by
  intro done
  cases done

theorem members_spare (ofValue : ValueSpares fuel) (ofMembers : MembersSpare fuel) :
    MembersSpare (fuel + 1) := by
  intro fuel' levels cs enough
  obtain _ | fuel' := fuel'
  · cases enough
  rw [members_succ, members_succ]
  refine spares_onHead (by decide) (fun rest same => ?_) (spares_error _)
  rw [same, List.length_cons] at enough ⊢
  refine (string_spares rest).bind_skipSpace (fun _ => behindKey_nil) fun key left le => ?_
  have shorter := length_skipSpace_le left
  exact (behindKey_spares ofValue ofMembers (by omega)).mono (by omega)

end

theorem read_spares (fuel : Nat) : ValueSpares fuel ∧ ItemsSpare fuel ∧ MembersSpare fuel := by
  induction fuel with
  | zero => exact ⟨fun _ => spares_error _, fun _ => spares_error _, fun _ => spares_error _⟩
  | succ fuel ih =>
    obtain ⟨ofValue, ofItems, ofMembers⟩ := ih
    exact ⟨value_spares ofItems ofMembers, items_spare ofValue ofItems,
      members_spare ofValue ofMembers⟩

/-- A text with a line feed behind it stands for a value only if the text alone stands for it. -/
theorem parse_of_parse_lineFeed {cs : List Char} {v : Json}
    (read : parse (String.ofList (cs ++ ['\n'])) = .ok v) : parse (String.ofList cs) = .ok v := by
  obtain ⟨⟨w, rest⟩, inner, ended⟩ := of_bind_eq_ok read
  rw [String.toList_ofList] at inner
  have shorter := length_skipSpace_le cs
  have whole (fuel : Nat) : Spares cs.length (fun cs => value fuel levelLimit (skipSpace cs))
      (fun cs' => value (2 * cs.length + 2) levelLimit (skipSpace cs')) cs := by
    refine Spares.skipSpace (fun x done => ?_) (((read_spares fuel).1 (by omega)).mono (by omega))
    rw [value_nil] at done
    cases done
  obtain ⟨rest, rfl, -, alone⟩ := whole _ w rest inner
  have blank : (skipSpace (rest ++ ['\n'])).isEmpty → (skipSpace rest).isEmpty := by
    rcases skipSpace_lineFeed rest with ⟨-, blank⟩ | same
    · simp [blank]
    · simp [same]
  dsimp only at alone ended
  split at ended
  · rename_i empty
    cases ended
    rw [parse, parseWithin, String.toList_ofList, alone]
    exact if_pos (blank empty)
  · cases ended

/-! ### Written values -/

theorem not_mem_ite {α : Type} {p : Prop} [Decidable p] {a : α} {as bs : List α} (left : a ∉ as)
    (right : a ∉ bs) : a ∉ if p then as else bs := by
  split
  · exact left
  · exact right

theorem lineFeed_not_mem_number (n : Number) : '\n' ∉ n.write.toList := by
  have digits := lineFeed_not_mem_toDigits
  cases n with
  | int n =>
    show '\n' ∉ (Json.num (.int n)).write
    by_cases nonneg : 0 ≤ n
    · rw [write_nonneg nonneg]
      exact digits _
    · rw [write_negative (by omega)]
      simp [digits]
  | real x =>
    have front (k n : Nat) : '\n' ∉ (Nat.toDigits 10 n).take k := fun inside =>
      digits n (List.mem_of_mem_take inside)
    have back (k n : Nat) : '\n' ∉ (Nat.toDigits 10 n).drop k := fun inside =>
      digits n (List.mem_of_mem_drop inside)
    have signed {body : List Char} (clean : '\n' ∉ body) :
        '\n' ∉ if x.negative then '-' :: body else body :=
      not_mem_ite (List.not_mem_cons_of_ne_of_not_mem (by decide) clean) clean
    rw [Number.write, Decimal.Layout.write, String.toList_ofList]
    refine signed (not_mem_ite (not_mem_ite ?_ (not_mem_ite ?_ ?_)) ?_)
    · simp [digits, numberLayout]
    · simp [front, back]
    · simp [digits]
    · simp only [List.mem_append, not_or]
      refine ⟨⟨⟨front _ _, not_mem_ite List.not_mem_nil ?_⟩, ?_⟩, digits _⟩
      · exact List.not_mem_cons_of_ne_of_not_mem (by decide) (back _ _)
      · split <;> decide

mutual

/-- The text of a value is one line. -/
theorem lineFeed_not_mem_write : (v : Json) → '\n' ∉ v.write
  | .null => by decide
  | .bool true => by decide
  | .bool false => by decide
  | .num n => lineFeed_not_mem_number n
  | .str s => lineFeed_not_mem_writeString s
  | .arr [] => by decide
  | .arr (v :: rest) => by
    have first := lineFeed_not_mem_write v
    have others := lineFeed_not_mem_items rest
    simp [write, first, others]
  | .obj [] => by decide
  | .obj ((k, v) :: rest) => by
    have first := lineFeed_not_mem_write v
    have others := lineFeed_not_mem_members rest
    simp [write, lineFeed_not_mem_writeString, first, others]
termination_by structural v => v

theorem lineFeed_not_mem_items : (vs : List Json) → '\n' ∉ writeItems vs
  | [] => by decide
  | v :: rest => by
    have first := lineFeed_not_mem_write v
    have others := lineFeed_not_mem_items rest
    simp [writeItems, first, others]
termination_by structural vs => vs

theorem lineFeed_not_mem_members : (ms : List (String × Json)) → '\n' ∉ writeMembers ms
  | [] => by decide
  | (k, v) :: rest => by
    have first := lineFeed_not_mem_write v
    have others := lineFeed_not_mem_members rest
    simp [writeMembers, lineFeed_not_mem_writeString, first, others]
termination_by structural ms => ms

end

theorem writeMembers_closes (ms : List (String × Json)) :
    ∃ inner, writeMembers ms = inner ++ ['\x7d'] := by
  induction ms with
  | nil => exact ⟨[], rfl⟩
  | cons m ms ih =>
    obtain ⟨inner, same⟩ := ih
    obtain ⟨k, v⟩ := m
    exact ⟨',' :: (writeString k ++ ':' :: (v.write ++ inner)), by simp [writeMembers, same]⟩

/-- The text of an object stands between braces. -/
theorem write_obj (ms : List (String × Json)) :
    ∃ inner, (Json.obj ms).write = '\x7b' :: inner ++ ['\x7d'] := by
  cases ms with
  | nil => exact ⟨[], rfl⟩
  | cons m ms =>
    obtain ⟨inner, same⟩ := writeMembers_closes ms
    obtain ⟨k, v⟩ := m
    exact ⟨writeString k ++ ':' :: (v.write ++ inner), by simp [write, same]⟩

end Mcp.Json
