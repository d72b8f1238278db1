/-!
Labels of domain names in ASCII. A label is written as its ASCII characters, a hyphen, and numbers
that say which other characters stand between them and where. Characters come in ascending order,
and each number is the distance from the one before, counted through all places.
-/

namespace Mcp.Url

/-- A digit of the base-36 numbers that encode a label. -/
def labelDigit (n : Nat) : Char := if n < 26 then Char.ofNat (97 + n) else Char.ofNat (22 + n)

/-- The digits of a distance between characters, with thresholds that follow the bias. -/
def distanceDigits (fuel bias k q : Nat) : List Char :=
  match fuel with
  | 0 => []
  | fuel + 1 =>
    let t := if k ≤ bias then 1 else if bias + 26 ≤ k then 26 else k - bias
    if q < t then [labelDigit q]
    else labelDigit (t + (q - t) % (36 - t)) ::
      distanceDigits fuel bias (k + 36) ((q - t) / (36 - t))

/-- The bias after a distance has been written. -/
def adaptBias (delta points : Nat) (isFirst : Bool) : Nat :=
  let delta := if isFirst then delta / 700 else delta / 2
  go 16 (delta + delta / points) 0
where
  go : Nat → Nat → Nat → Nat
    | 0, _, k => k
    | fuel + 1, delta, k =>
      if 455 < delta then go fuel (delta / 35) (k + 36) else k + 36 * delta / (delta + 38)

/-- What has been written of a label. -/
structure LabelState where
  out : List Char
  delta : Nat
  bias : Nat
  written : Nat

/-- Encodes a label as ASCII: its ASCII characters, a hyphen, and the distances of the others. -/
def encodeLabel (label : List Char) : List Char :=
  let basic := label.filter fun c => c.toNat < 0x80
  let others := (label.filter fun c => 0x80 ≤ c.toNat).map Char.toNat
  let points := others.foldl (fun acc n => if acc.contains n then acc else acc ++ [n]) []
  let sorted := points.mergeSort
  let start : LabelState :=
    ⟨basic ++ (if basic.isEmpty then [] else ['-']), 0, 72, basic.length⟩
  let step (state : LabelState × Nat) (m : Nat) : LabelState × Nat :=
    let (s, n) := state
    let s := { s with delta := s.delta + (m - n) * (s.written + 1) }
    let s := label.foldl
      (fun s c =>
        if c.toNat < m then { s with delta := s.delta + 1 }
        else if c.toNat = m then
          ⟨s.out ++ distanceDigits 64 s.bias 36 s.delta, 0,
            adaptBias s.delta (s.written + 1) (s.written = basic.length), s.written + 1⟩
        else s)
      s
    ({ s with delta := s.delta + 1 }, m + 1)
  (sorted.foldl step (start, 0x80)).1.out

/-- The value of a digit of the base-36 numbers that encode a label. -/
def labelDigit? (c : Char) : Option Nat :=
  if 'a' ≤ c ∧ c ≤ 'z' then some (c.toNat - 97)
  else if c.isDigit then some (c.toNat - 22)
  else none

/-- Reads the digits of a distance between characters: its value, and what comes behind it. -/
def readDistance (bias : Nat) : Nat → Nat → Nat → List Char → Option (Nat × List Char)
  | _, _, _, [] => none
  | k, weight, value, c :: rest => do
    let digit ← labelDigit? c
    let t := if k ≤ bias then 1 else if bias + 26 ≤ k then 26 else k - bias
    let value := value + digit * weight
    if digit < t then some (value, rest)
    else readDistance bias (k + 36) (weight * (36 - t)) value rest

/-- How far a label has been read: its characters so far, the code point and the place that
distances count from, and the bias of the next distance. -/
structure ReadingState where
  out : List Char
  point : Nat := 0x80
  place : Nat := 0
  bias : Nat := 72
  isFirst : Bool := true

/-- Puts in the character that a distance leads to. -/
def ReadingState.insert? (s : ReadingState) (distance : Nat) : Option ReadingState :=
  let places := s.out.length + 1
  let total := s.place + distance
  let point := s.point + total / places
  let place := total % places
  if point.isValidChar then
    some ⟨s.out.take place ++ Char.ofNat point :: s.out.drop place, point, place + 1,
      adaptBias distance places s.isFirst, false⟩
  else none

/-- Puts in the characters that all distances lead to. Each distance takes a digit at least. -/
def ReadingState.insertAll? : Nat → ReadingState → List Char → Option (List Char)
  | _, s, [] => some s.out
  | 0, _, _ => none
  | fuel + 1, s, cs => do
    let (distance, rest) ← readDistance s.bias 36 1 0 cs
    let s ← s.insert? distance
    insertAll? fuel s rest

/-- Reads an encoded label. A hyphen ends its ASCII characters only if there are any. -/
def decodeLabel? (cs : List Char) : Option (List Char) :=
  let digits := (cs.reverse.takeWhile (· ≠ '-')).reverse
  let basic := ((cs.reverse.dropWhile (· ≠ '-')).drop 1).reverse
  if basic.isEmpty then ReadingState.insertAll? cs.length { out := [] } cs
  else ReadingState.insertAll? cs.length { out := basic } digits

end Mcp.Url
