import Mcp.Text.CharWidth
import Mcp.Text.Emoji
import Mcp.Text.Joining

/-!
How many columns a text takes. Most characters take what they take by themselves, but some are drawn
as one with those behind them, and a selector can change the one before it, so that a text is
measured from its end.
-/

namespace Mcp.Text

/-! ### What is behind a character -/

/-- Letters and signs that are drawn as one with certain characters before them. -/
inductive Partner where
  /-- Joins an alef. -/
  | lamed
  /-- Joins a vowel sign, and with it the letter before that. -/
  | buginese
  | bugineseVowel
  /-- Joins another consonant, by a joiner of its own script or the general one. -/
  | tifinagh
  | tifinaghJoiner
  | lisuTone
  | orkhon
  /-- May stand below the letter before it. -/
  | khmer
  deriving DecidableEq, Repr

/-- What stands behind a character, as far as its width depends on it. -/
inductive Follower where
  | plain
  | picture
  | skinTone
  /-- A letter of a flag; with `several`, more than one. -/
  | flagLetter (several : Bool)
  /-- A joiner before a picture; with `key`, before a keycap that ends in one. -/
  | joined (key : Bool)
  /-- An odd number of letters of flags, or an even one, before a joiner; with `first`, only
  one. -/
  | joinedFlag (odd first : Bool)
  /-- Tags of so many letters, and of so many digits before these, that a joiner follows. -/
  | tags (letters digits : Nat)
  /-- An alef, which a lam before it joins. -/
  | alef
  /-- One that joins; with `joins`, a joiner stands before it. -/
  | partner (p : Partner) (joins : Bool)
  /-- The sign of a vowel that the sign before it makes another of, or the two that it makes. -/
  | kiratVowel (double : Bool)
  deriving DecidableEq, Repr

/-- What stands behind a character, and which selectors stand between. -/
structure Behind where
  follower : Follower
  asPicture : Bool
  asText : Bool
  deriving DecidableEq, Repr

namespace Follower

/-- Whether selectors before it do not keep it from joining. -/
def seesThrough : Follower → Bool
  | .alef => true
  | .partner .. => true
  | _ => false

def isJoined : Follower → Bool
  | .joined _ => true
  | _ => false

def alone (f : Follower) : Behind := ⟨f, false, false⟩

end Follower

namespace Behind

def nothing : Behind := Follower.plain.alone

/-- With a selector of pictures before it. -/
def selectPicture (b : Behind) : Behind :=
  if b.follower.seesThrough || b.follower.isJoined then { b with asPicture := true }
  else ⟨.plain, true, false⟩

/-- With a selector of text before it. -/
def selectText (b : Behind) : Behind :=
  if b.follower.seesThrough then { b with asText := true } else ⟨.plain, false, true⟩

/-- Where the character before a selector of pictures cannot be one. -/
def withoutPicture (b : Behind) : Behind :=
  if !b.asPicture then b
  else if b.follower.seesThrough then { b with asPicture := false }
  else nothing

end Behind

/-! ### Characters by what they join -/

/-- The lams. -/
def isLam (c : Char) : Bool :=
  let n := c.toNat
  n = 0x644 || (0x6B5 ≤ n && n ≤ 0x6B8) || n = 0x76A || n = 0x8A6 || n = 0x8C7

def isAlef (c : Char) : Bool :=
  let n := c.toNat
  n = 0x622 || n = 0x623 || n = 0x625 || n = 0x627 || (0x671 ≤ n && n ≤ 0x673) || n = 0x675 ||
    n = 0x773 || n = 0x774 || (0x870 ≤ n && n ≤ 0x882)

def isTifinagh (c : Char) : Bool :=
  let n := c.toNat
  (0x2D31 ≤ n && n ≤ 0x2D65) || n = 0x2D6F

/-- The letters that may stand below another. -/
def isKhmer (c : Char) : Bool :=
  let n := c.toNat
  0x1780 ≤ n && n ≤ 0x17AF &&
    !([0x1783, 0x1788, 0x178D, 0x1794, 0x1799, 0x179A, 0x179E, 0x179F, 0x17A1, 0x17A3, 0x17A4,
      0x17A5, 0x17A6, 0x17A8, 0x17A9, 0x17AA, 0x17AD, 0x17AE].contains n)

/-- The marks that letters which join do not see. -/
def isSeenThrough (c : Char) : Bool :=
  let n := c.toNat
  n = 0x34F || n = 0x17B4 || n = 0x17B5 || (0x180B ≤ n && n ≤ 0x180D) || n = 0x180F ||
    (0xFE00 ≤ n && n ≤ 0xFE0F) || (0xE0100 ≤ n && n ≤ 0xE01EF)

def follower (c : Char) : Follower :=
  if isAlef c then .alef
  else if c = '\u05DC' then .partner .lamed false
  else if c = '\u1A10' then .partner .buginese false
  else if isTifinagh c then .partner .tifinagh false
  else if c = '\uA4FC' || c = '\uA4FD' then .partner .lisuTone true
  else if c.toNat = 0x10C03 then .partner .orkhon false
  else if isKhmer c then .partner .khmer true
  else if c.toNat = 0x16D67 then .kiratVowel false
  else if c.toNat = 0x16D68 then .kiratVowel true
  else if isFlagLetter c then .flagLetter false
  else if isSkinTone c then .skinTone
  else if pictures.contains c then .picture
  else .plain

/-! ### Joining -/

/-- What a letter adds to the width where it joins the one behind it, and what it is then. -/
def joinLetter (p : Partner) (joins : Bool) (c : Char) : Option (Int × Follower) :=
  match p with
  | .lamed => if joins && c = '\u05D0' then some (0, .plain) else none
  | .khmer => if c = '\u17D2' then some (-1, .plain) else none
  | .buginese => if joins && c = '\u1A17' then some (0, .partner .bugineseVowel true) else none
  | .bugineseVowel => if c = '\u1A15' then some (0, .plain) else none
  | .tifinagh =>
    if c = '\u2D7F' then some (1, .partner .tifinaghJoiner true)
    else if joins && isTifinagh c then some (0, .plain)
    else none
  | .tifinaghJoiner => if isTifinagh c then some (-1, .plain) else none
  | .lisuTone => if '\uA4F8' ≤ c ∧ c ≤ '\uA4FB' then some (0, .plain) else none
  | .orkhon => if joins && c.toNat = 0x10C32 then some (0, .plain) else none

/-- The same for a sign of a vowel. -/
def joinVowel (double : Bool) (c : Char) : Option (Int × Follower) :=
  let n := c.toNat
  if n = 0x16D63 then some (0, .plain)
  else if double then none
  else if n = 0x16D67 then some (0, .kiratVowel true)
  else if n = 0x16D68 then some (1, .kiratVowel false)
  else if n = 0x16D69 then some (0, .plain)
  else none

/-- The same for a tag of a flag that a joiner follows. Tags are up to six letters, behind up to
three digits. -/
def joinTag (letters digits : Nat) (c : Char) : Option (Int × Follower) :=
  if isTagLetter c && digits = 0 && letters < 6 then some (0, .tags (letters + 1) 0)
  else if isTagDigit c && letters ≤ 4 && digits < 3 then some (0, .tags letters (digits + 1))
  else if isBlankFlag c && (digits = 3 || (digits = 0 && 3 ≤ letters)) then some (0, .picture)
  else none

/-- The same for a character before a joiner and a picture. -/
def joinPicture (c : Char) : Option (Int × Follower) :=
  if c = keycap then some (0, .joined true)
  else if isFlagLetter c then some (1, .joinedFlag true true)
  else if isSkinTone c then some (0, .skinTone)
  else if isTagEnd c then some (0, .tags 0 0)
  else if pictures.contains c then some (0, .picture)
  else none

/-- What a character adds to the width where it joins what is behind it, and what it is then for the
one before it. -/
def joinWith (f : Follower) (c : Char) : Option (Int × Follower) :=
  match f with
  | .plain => none
  | .alef =>
    if isLam c then some (0, .plain)
    else if joins? c = some .around && charWidth c = 0 then some (0, .alef)
    else none
  | .partner p joins => joinLetter p joins c
  | .kiratVowel double => joinVowel double c
  | .tags letters digits => joinTag letters digits c
  | .joined key => if key then none else joinPicture c
  | .picture => if c = joiner then some (0, .joined false) else none
  | .skinTone =>
    if skinned.contains c then some (0, .picture)
    else if c = joiner then some (0, .joined false)
    else none
  | .flagLetter several =>
    if isFlagLetter c then some (1, .flagLetter true)
    else if several && c = joiner then some (0, .joined false)
    else none
  | .joinedFlag odd first =>
    if isFlagLetter c then if odd then some (-1, .joinedFlag false false)
      else some (3, .joinedFlag true false)
    else if !first && c = joiner then some (0, .joined false)
    else none

/-! ### Widths -/

/-- What a character adds to the width of what is behind it, and what is then behind the one before
it. -/
def widen (c : Char) (behind : Behind) : Int × Behind :=
  if behind.asPicture && selectable.contains c then
    (if behind.follower.isJoined then 0 else 2, Follower.picture.alone)
  else
    let b := behind.withoutPicture
    if c.toNat ≤ 0xA0 then (1, .nothing)
    else if c = pictureSelector then (0, b.selectPicture)
    else if c = textSelector then (0, b.selectText)
    else if b.asText && canBeText c then (1, .nothing)
    else
      let byItself : Int × Behind := (charWidth c, (follower c).alone)
      match b.follower with
      | .partner p joins =>
        if c = joiner then (0, (Follower.partner p true).alone)
        else if isSeenThrough c then (0, (Follower.partner p joins).alone)
        else ((joinWith b.follower c).map fun (n, f) => (n, f.alone)).getD byItself
      | f => ((joinWith f c).map fun (n, f) => (n, f.alone)).getD byItself

/-- The columns that characters take. A control takes one. -/
def charsWidth (cs : List Char) : Nat :=
  (cs.foldr (fun c (sum, behind) =>
    let (n, behind) := widen c behind
    (sum + n, behind)) ((0 : Int), Behind.nothing)).1.toNat

/-! ### Colours -/

/-- Where the reading of a text is with regard to the codes that set colours. -/
inductive Place where
  | outside
  /-- Behind an escape. -/
  | escaped
  /-- Behind the bracket that follows an escape, up to an `m`. -/
  | inside
  deriving DecidableEq, Repr

/-- How many characters of codes that set colours would take columns if they were shown. -/
def hiddenFrom : Place → List Char → Nat
  | _, [] => 0
  | .outside, c :: rest => hiddenFrom (if c = '\x1b' then .escaped else .outside) rest
  | .escaped, c :: rest =>
    if c = '[' then hiddenFrom .inside rest + 1 else hiddenFrom .outside rest
  | .inside, c :: rest =>
    hiddenFrom (if c = 'm' then .outside else .inside) rest + if 0 < charWidth c then 1 else 0

/-- The columns that a text on one line takes; the codes that set colours take none, except for the
escape. -/
def width (s : String) : Nat := charsWidth s.toList - hiddenFrom .outside s.toList

end Mcp.Text
