/-!
Tables of properties of characters, written as words. A word names a code point or a range of them
in hexadecimal digits; an equals sign stands before what the table says about them.
-/

namespace Mcp.Text

def splitBy {α : Type} (isSeparator : α → Bool) (items : List α) : List (List α) :=
  items.foldr
    (fun item pieces =>
      if isSeparator item then [] :: pieces
      else
        match pieces with
        | [] => [[item]]
        | piece :: rest => (item :: piece) :: rest)
    [[]]

/-- The words of a text: what stands between blanks and line ends. -/
def words (text : String) : List (List Char) :=
  (splitBy (fun c => c = ' ' || c = '\n') text.toList).filter fun word => !word.isEmpty

/-- The number that hexadecimal digits in upper case write. -/
def hexNumber (digits : List Char) : Nat :=
  digits.foldl (fun n c => n * 16 + if c.isDigit then c.toNat - 48 else c.toNat - 55) 0

/-- What a table says about a range of code points. -/
structure CodeRow (α : Type) where
  first : Nat
  last : Nat
  value : α

/-- Rows in ascending order, without overlap. -/
structure CodeTable (α : Type) where
  rows : Array (CodeRow α)

namespace CodeTable

/-- Reads a table; `row` reads the range and the value of a word. -/
def ofWords {α : Type} (row : Nat × Nat → List Char → CodeRow α) (text : String) :
    CodeTable α :=
  ⟨((words text).map fun word =>
    let range := (splitBy (· = '-') (word.takeWhile (· ≠ '='))).map hexNumber
    let first := range.headD 0
    row (first, range.getLastD first) ((word.dropWhile (· ≠ '=')).drop 1)).toArray⟩

/-- Between two places, halving the distance, the place of the last row that starts at a code
point or before it. -/
def place {α : Type} (t : CodeTable α) (n : Nat) : Nat → Nat → Nat → Nat
  | 0, low, _ => low
  | fuel + 1, low, high =>
    if high ≤ low + 1 then low
    else
      let middle := (low + high) / 2
      if t.rows[middle]?.any fun row => row.first ≤ n then t.place n fuel middle high
      else t.place n fuel low middle

/-- The row in whose range a character lies. -/
def row? {α : Type} (t : CodeTable α) (c : Char) : Option (CodeRow α) :=
  t.rows[t.place c.toNat 24 0 t.rows.size]?.filter fun row =>
    row.first ≤ c.toNat && c.toNat ≤ row.last

def value? {α : Type} (t : CodeTable α) (c : Char) : Option α := (t.row? c).map CodeRow.value

end CodeTable

abbrev CodeSet := CodeTable Unit

namespace CodeSet

def ofText (text : String) : CodeSet := CodeTable.ofWords (fun (a, b) _ => ⟨a, b, ()⟩) text

def contains (s : CodeSet) (c : Char) : Bool := (CodeTable.row? s c).isSome

end CodeSet

end Mcp.Text
