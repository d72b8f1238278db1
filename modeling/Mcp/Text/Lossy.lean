/-!
What any bytes read as: the characters whose bytes they are, and one U+FFFD for each maximal piece
that starts a character and does not finish it, or is a byte that starts none.
-/

namespace Mcp.Text

/-- Bytes with which a character begins, or all of its bytes. -/
def Begins (bytes : List UInt8) : Prop := ∃ c : Char, bytes <+: String.utf8EncodeChar c

/-- A piece that reads as one U+FFFD before other bytes. -/
structure Broken (piece rest : List UInt8) : Prop where
  nonempty : piece ≠ []
  begins : Begins piece ∨ piece.length = 1
  unfinished : ∀ c : Char, String.utf8EncodeChar c ≠ piece
  maximal : ∀ b ∈ rest.head?, ¬ Begins (piece ++ [b])

inductive ReadsAs : List UInt8 → List Char → Prop
  | nil : ReadsAs [] []
  | character {rest : List UInt8} {text : List Char} (c : Char) : ReadsAs rest text →
      ReadsAs (String.utf8EncodeChar c ++ rest) (c :: text)
  | broken {piece rest : List UInt8} {text : List Char} : Broken piece rest → ReadsAs rest text →
      ReadsAs (piece ++ rest) ('\uFFFD' :: text)

end Mcp.Text
