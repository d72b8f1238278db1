import Mcp.Json.Basic
import Mcp.Proofs.Members

/-! Values with ordered objects and values with whole numbers. `canonical` changes nothing in an
ordered value; the depth of a value bounds the depth of its parts. -/

namespace Mcp.Json

/-- The keys of every object ascend. Free values are kept so. -/
inductive Ordered : Json → Prop where
  | null : Ordered .null
  | bool (b : Bool) : Ordered (.bool b)
  | num (n : Number) : Ordered (.num n)
  | str (s : String) : Ordered (.str s)
  | arr {items : List Json} (inside : ∀ v ∈ items, Ordered v) : Ordered (.arr items)
  | obj {members : List (String × Json)} (ascending : Members.Ascending members)
      (inside : ∀ m ∈ members, Ordered m.2) : Ordered (.obj members)

/-- Every number is an integer of 64 bits, signed or unsigned. -/
inductive Whole : Json → Prop where
  | null : Whole .null
  | bool (b : Bool) : Whole (.bool b)
  | int {n : Int} (least : Number.leastInt ≤ n) (greatest : n ≤ Number.greatestInt) :
      Whole (.num (.int n))
  | str (s : String) : Whole (.str s)
  | arr {items : List Json} (inside : ∀ v ∈ items, Whole v) : Whole (.arr items)
  | obj {members : List (String × Json)} (inside : ∀ m ∈ members, Whole m.2) :
      Whole (.obj members)

theorem canonicalItems_eq_map (items : List Json) : canonicalItems items = items.map canonical := by
  induction items with
  | nil => rfl
  | cons v rest ih => rw [canonicalItems, ih, List.map_cons]

theorem canonicalMembers_eq_map (members : List (String × Json)) :
    canonicalMembers members = members.map fun m => (m.1, m.2.canonical) := by
  induction members with
  | nil => rfl
  | cons m rest ih => rw [canonicalMembers, ih, List.map_cons]

theorem Ordered.canonical_eq {v : Json} (ordered : Ordered v) : v.canonical = v := by
  induction ordered with
  | null => rfl
  | bool => rfl
  | num => rfl
  | str => rfl
  | @arr items _ ih =>
    have same : items.map canonical = items := by
      rw [List.map_congr_left ih, List.map_id']
    rw [canonical, canonicalItems_eq_map, same]
  | @obj members ascending _ ih =>
    have same : (members.map fun m => (m.1, m.2.canonical)) = members := by
      rw [List.map_congr_left fun m inside => by rw [ih m inside], List.map_id']
    rw [canonical, canonicalMembers_eq_map, same, ascending.ofList_eq]

theorem map_canonical_eq {value : Option Json} (ordered : ∀ v ∈ value, Ordered v) :
    value.map canonical = value := by
  cases value with
  | none => rfl
  | some v => rw [Option.map_some, (ordered v rfl).canonical_eq]

/-- An object with distinct keys is ordered into one that holds the same under each key. -/
theorem canonical_obj {members : List (String × Json)} (distinct : (members.map Prod.fst).Nodup) :
    ∃ kept, canonical (.obj members) = .obj kept ∧ Members.Ascending kept ∧
      ∀ key, Members.lookup kept key = (Members.lookup members key).map canonical := by
  refine ⟨_, rfl, Members.ofList_ascending _, ?_⟩
  intro key
  have keys : (canonicalMembers members).map Prod.fst = members.map Prod.fst := by
    rw [canonicalMembers_eq_map, List.map_map]
    rfl
  rw [Members.lookup_ofList (keys ▸ distinct), canonicalMembers_eq_map, Members.lookup_map]

theorem depthItems_le_iff {items : List Json} {n : Nat} :
    depthItems items ≤ n ↔ ∀ v ∈ items, v.depth ≤ n := by
  induction items with
  | nil => simp [depthItems]
  | cons v rest ih =>
    rw [depthItems, Nat.max_le, ih]
    simp

theorem depthMembers_le_iff {members : List (String × Json)} {n : Nat} :
    depthMembers members ≤ n ↔ ∀ m ∈ members, m.2.depth ≤ n := by
  induction members with
  | nil => simp [depthMembers]
  | cons m rest ih =>
    rw [depthMembers, Nat.max_le, ih]
    simp

end Mcp.Json
