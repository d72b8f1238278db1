import Mcp.Json.Record

/-!
Kinds of values that settings can be read from. JSON values are one kind.
-/

namespace Mcp

open Json (Mismatch)

/-- Values from which texts, numbers, lists, maps and records can be read. -/
class Source (ν : Type) extends Nullable ν where
  text : ν → Except Mismatch String
  path : ν → Except Mismatch String
  boolean : ν → Except Mismatch Bool
  unsigned : ν → Except Mismatch Nat
  list : {α : Type} → (ν → Except Mismatch α) → ν → Except Mismatch (List α)
  map : {α : Type} → (ν → Except Mismatch α) → ν → Except Mismatch (List (String × α))
  record : {α : Type} → String → Record ν α → ν → Except Mismatch α
  /-- Reads one of several records that a field tells apart. Their fields are read from JSON. -/
  tagged : {α : Type} → String → String → List (Variant Json α) → ν → Except Mismatch α

instance : Source Json where
  text := Json.Reader.text
  path := Json.Reader.path
  boolean := Json.Reader.boolean
  unsigned := Json.Reader.unsigned
  list := Json.Reader.list
  map := Json.Reader.map
  record := Json.record
  tagged := Json.tagged

end Mcp
