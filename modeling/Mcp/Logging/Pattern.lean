import Mcp.Text.Blank
import Mcp.Text.Letter

/-!
Which texts are patterns that the value of a field can be matched against. A pattern is a regular
expression over UTF-8. Nothing is known of scripts other than Latin, so that classes of letters and
letters of either case can be asked for only where bytes are matched, and there nothing may match a
part of a character.
-/

namespace Mcp.Logging.Pattern

/-- What is switched on. -/
structure Flags where
  ignoreCase : Bool
  unicode : Bool
  /-- Whether blanks and comments between the parts of a pattern do not count. -/
  spaced : Bool
  deriving DecidableEq, Repr

namespace Flags

def start : Flags := ⟨false, true, false⟩

/-- Whether characters of both cases would have to be found, of which nothing is known. -/
def needsCases (f : Flags) : Bool := f.ignoreCase && f.unicode

def set (f : Flags) (on : Bool) (c : Char) : Flags :=
  if c = 'i' then { f with ignoreCase := on }
  else if c = 'u' then { f with unicode := on }
  else if c = 'x' then { f with spaced := on }
  else f

end Flags

/-! ### Blanks -/

/-- The text behind blanks and comments, each of which runs to the end of its line. -/
def skipBlanks : Bool → List Char → List Char
  | _, [] => []
  | true, c :: rest => skipBlanks (c ≠ '\n') rest
  | false, c :: rest =>
    if Text.isBlank c then skipBlanks false rest
    else if c = '#' then skipBlanks true rest
    else c :: rest

def next (f : Flags) (cs : List Char) : List Char := if f.spaced then skipBlanks false cs else cs

/-- The first character behind blanks; a comment is not passed over, but its mark is. -/
def peek? (f : Flags) (cs : List Char) : Option Char :=
  if f.spaced then (cs.dropWhile Text.isBlank).head?.bind fun c =>
    if c = '#' then ((cs.dropWhile Text.isBlank).drop 1).find? fun c => !Text.isBlank c else some c
  else cs.head?

/-! ### Escapes -/

/-- What one part of a pattern matches. -/
inductive Item where
  /-- A character; with `byte`, one that was given as a byte. -/
  | literal (c : Char) (byte : Bool)
  /-- Digits, blanks or the characters of words; with `others`, all but these. -/
  | class (others : Bool)
  /-- A place between characters; with `word`, one that depends on what words are. -/
  | place (word : Bool)
  deriving DecidableEq, Repr

def hexDigit? (c : Char) : Option Nat :=
  if c.isDigit then some (c.toNat - 48)
  else if 'a' ≤ c ∧ c ≤ 'f' then some (c.toNat - 87)
  else if 'A' ≤ c ∧ c ≤ 'F' then some (c.toNat - 55)
  else none

/-- Reads so many hexadecimal digits: their value, and what is behind them. -/
def readHex (f : Flags) : Nat → Nat → List Char → Option (Nat × List Char)
  | 0, n, cs => some (n, cs)
  | count + 1, n, cs =>
    match next f cs with
    | [] => none
    | c :: rest => (hexDigit? c).bind fun d => readHex f count (n * 16 + d) rest

def readNumbered (f : Flags) (digits : Nat) (cs : List Char) : Option (Item × List Char) := do
  let (n, rest) ← readHex f digits 0 cs
  if n.isValidChar then some (.literal (Char.ofNat n) (digits = 2), next f rest) else none

/-- Whether a backslash before a character only says that it stands for itself. -/
def isEscapable (c : Char) : Bool :=
  c.toNat < 0x80 && !c.isAlphanum && c ≠ '<' && c ≠ '>'

/-- Reads what follows a backslash. -/
def readEscape (f : Flags) : List Char → Option (Item × List Char)
  | [] => none
  | c :: rest =>
    if c = 'x' then readNumbered f 2 rest
    else if c = 'u' then readNumbered f 4 rest
    else if c = 'U' then readNumbered f 8 rest
    else if ['d', 's', 'w'].contains c then some (.class false, rest)
    else if ['D', 'S', 'W'].contains c then some (.class true, rest)
    else if ['a', 'f', 't', 'n', 'r', 'v'].contains c then
      some (.literal (if c = 'a' then '\x07' else if c = 'f' then '\x0c' else if c = 't' then '\t'
        else if c = 'n' then '\n' else if c = 'r' then '\r' else '\x0b') false, rest)
    else if ['b', 'B', '<', '>'].contains c then some (.place true, rest)
    else if ['A', 'z'].contains c then some (.place false, rest)
    else if isEscapable c then some (.literal c false, rest)
    else none

def Item.isKnown (f : Flags) : Item → Bool
  | .literal c byte => !f.needsCases && (f.unicode || !byte || c.toNat < 0x80)
  | .class others => !f.unicode && !others
  | .place word => !f.unicode || !word

/-- Whether an item may stand between brackets. -/
def Item.isMember (f : Flags) : Item → Bool
  | .literal c byte => (Item.literal c byte).isKnown f && (f.unicode || c.toNat < 0x80)
  | .class others => (Item.class others).isKnown f
  | .place _ => false

/-! ### Brackets -/

/-- The names of classes between brackets and colons. -/
def classNames : List String :=
  ["alnum", "alpha", "ascii", "blank", "cntrl", "digit", "graph", "lower", "print", "punct",
    "space", "upper", "word", "xdigit"]

/-- Reads a named class: whether it means the others, and what is behind it. -/
def namedClass? (cs : List Char) : Option (Bool × List Char) :=
  match cs with
  | '[' :: ':' :: rest =>
    let others := rest.head? = some '^'
    let rest := if others then rest.drop 1 else rest
    let name := rest.takeWhile (· ≠ ':')
    match rest.drop name.length with
    | ':' :: ']' :: behind =>
      if classNames.contains (String.ofList name) then some (others, behind) else none
    | _ => none
  | _ => none

/-- Reads a character between brackets, or what a backslash makes of one. -/
def readMember (f : Flags) : List Char → Option (Item × List Char)
  | [] => none
  | '\\' :: rest => readEscape f rest
  | c :: rest => some (.literal c false, rest)

def readRange (f : Flags) (cs : List Char) : Option (List Char) := do
  let (first, rest) ← readMember f cs
  if !first.isMember f then none
  else
    match next f rest with
    | '-' :: behind =>
      if [some ']', some '-'].contains (peek? f behind) then some ('-' :: behind)
      else
        let (last, rest) ← readMember f (next f behind)
        match first, last with
        | .literal a _, .literal b _ => if last.isMember f && a ≤ b then some rest else none
        | _, _ => none
    | [] => none
    | rest => some rest

/-- Reads what follows an opening bracket: hyphens, or a closing bracket, which stand for themselves
there. -/
def readOpening (f : Flags) (cs : List Char) : Option (List Char) :=
  let cs := next f cs
  let others := cs.head? = some '^'
  let cs := if others then next f (cs.drop 1) else cs
  let isHyphen (c : Char) : Bool := c = '-' || (f.spaced && Text.isBlank c)
  if others && !f.unicode then none
  else if cs.head? = some '-' then
    if f.needsCases then none else some (next f (cs.dropWhile isHyphen))
  else if cs.head? = some ']' then if f.needsCases then none else some (next f (cs.drop 1))
  else some cs

/-- Reads brackets that stand so many deep in others, up to where the outermost close. -/
def readBrackets (f : Flags) : Nat → Nat → List Char → Option (List Char)
  | 0, _, _ => none
  | fuel + 1, depth, cs =>
    match next f cs with
    | [] => none
    | '[' :: rest =>
      match if depth = 0 then none else namedClass? ('[' :: rest) with
      | some (others, behind) =>
        if f.needsCases || (others && !f.unicode) then none else readBrackets f fuel depth behind
      | none => (readOpening f rest).bind fun cs => readBrackets f fuel (depth + 1) cs
    | ']' :: rest => if depth ≤ 1 then some rest else readBrackets f fuel (depth - 1) rest
    | '&' :: '&' :: rest => readBrackets f fuel depth rest
    | '-' :: '-' :: rest => readBrackets f fuel depth rest
    | '~' :: '~' :: rest => readBrackets f fuel depth rest
    | cs => (readRange f cs).bind fun cs => readBrackets f fuel depth cs

/-! ### Groups -/

/-- Reads flags up to a colon or a closing parenthesis, each at most once, and one minus sign before
those that are switched off: the flags after it, whether there were any, and what is behind. -/
def readFlags (f : Flags) (on : Bool) (seen : List Char) :
    List Char → Option (Flags × Bool × List Char)
  | [] => none
  | c :: rest =>
    if c = ':' || c = ')' then
      if seen.head? = some '-' then none else some (f, !seen.isEmpty, c :: rest)
    else if seen.contains c then none
    else if c = '-' then readFlags f false (c :: seen) rest
    else if ['i', 'm', 's', 'U', 'u', 'R', 'x'].contains c then
      readFlags (f.set on c) on (c :: seen) rest
    else none

/-- Reads the name of a group up to its closing angle bracket. -/
def readName (cs : List Char) : Option (List Char × List Char) :=
  let name := cs.takeWhile (· ≠ '>')
  let isPart (c : Char) : Bool := Text.isLetterOrNumber c || ['_', '.', '[', ']'].contains c
  match name, cs.drop name.length with
  | c :: more, '>' :: rest =>
    if (Text.isLetter c || c = '_') && more.all isPart then some (name, rest) else none
  | _, _ => none

/-! ### Whole patterns -/

structure Reader where
  rest : List Char
  flags : Flags
  /-- The flags outside of each open group, from the innermost on. -/
  outer : List Flags
  names : List (List Char)
  /-- Whether there is something that can be repeated. -/
  repeatable : Bool

namespace Reader

def behind (r : Reader) (rest : List Char) : Reader := { r with rest, repeatable := true }

def openGroup (r : Reader) (flags : Flags) (rest : List Char) : Reader :=
  { r with rest, flags, outer := r.flags :: r.outer, repeatable := false }

def openNamed (r : Reader) (cs : List Char) : Option Reader := do
  let (name, rest) ← readName cs
  if r.names.contains name then none
  else some { r.openGroup r.flags rest with names := name :: r.names }

/-- Reads what follows an opening parenthesis. -/
def group (r : Reader) (cs : List Char) : Option Reader :=
  match next r.flags cs with
  | '?' :: 'P' :: '<' :: rest => r.openNamed rest
  | '?' :: '<' :: rest => r.openNamed rest
  | '?' :: rest => do
    let (flags, any, rest) ← readFlags r.flags true [] rest
    if rest.head? = some ':' then some (r.openGroup flags (rest.drop 1))
    else if any then some { r with rest := rest.drop 1, flags, repeatable := false }
    else none
  | rest => some (r.openGroup r.flags rest)

/-- Takes a part that is known. -/
def item (r : Reader) : Option (Item × List Char) → Option Reader
  | some (item, rest) => if item.isKnown r.flags then some (r.behind rest) else none
  | none => none

/-- Reads the next part of a pattern. A count of repetitions would need a closing brace, which no
pattern holds, as it ends the field. -/
def step (r : Reader) (c : Char) (rest : List Char) : Option Reader :=
  if c = '(' then r.group rest
  else if c = ')' then
    match r.outer with
    | [] => none
    | flags :: outer => some { r.behind rest with flags, outer }
  else if c = '|' then some { r with rest, repeatable := false }
  else if c = '[' then (readBrackets r.flags (rest.length + 2) 0 (c :: rest)).map r.behind
  else if ['?', '*', '+'].contains c then
    if r.repeatable then some (r.behind (if rest.head? = some '?' then rest.drop 1 else rest))
    else none
  else if c = '\x7b' then none
  else if c = '\\' then r.item (readEscape r.flags rest)
  else if c = '.' then if r.flags.unicode then some (r.behind rest) else none
  else if c = '^' || c = '$' then some (r.behind rest)
  else r.item (some (.literal c false, rest))

/-- Reads on to the end, where no group may be open. -/
def run : Nat → Reader → Bool
  | 0, _ => false
  | fuel + 1, r =>
    match next r.flags r.rest with
    | [] => r.outer.isEmpty
    | c :: rest =>
      match r.step c rest with
      | some r => run fuel r
      | none => false

end Reader

def isPattern (text : String) : Bool :=
  let cs := text.toList
  Reader.run (cs.length + 1) ⟨cs, .start, [], [], false⟩

end Mcp.Logging.Pattern
