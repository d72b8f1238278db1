import Mcp.Json.Parser
import Mcp.Proofs.Json.Ordered

/-! What reading gives: the objects of a value that was read are ordered, and no more arrays and
objects stand inside one another than the reader allows. -/

namespace Mcp

/-- A computation that gives a value gives one at each of its steps. -/
theorem of_bind_eq_ok {ε α β : Type} {x : Except ε α} {f : α → Except ε β} {b : β}
    (done : (x >>= f) = .ok b) : ∃ a, x = .ok a ∧ f a = .ok b := by
  cases x with
  | error e => cases done
  | ok a => exact ⟨a, rfl, done⟩

theorem of_map_eq_ok {ε α β : Type} {x : Except ε α} {f : α → β} {b : β}
    (done : x.map f = .ok b) : ∃ a, x = .ok a ∧ b = f a := by
  cases x with
  | error e => cases done
  | ok a =>
    cases done
    exact ⟨a, rfl, rfl⟩

namespace Json

/-- Ordered objects, and at most so many levels. -/
def Within (levels : Nat) (v : Json) : Prop := Ordered v ∧ v.depth ≤ levels

theorem within_arr {levels : Nat} {vs : List Json} (inside : ∀ v ∈ vs, Within levels v) :
    Within (levels + 1) (.arr vs) := by
  refine ⟨.arr fun v place => (inside v place).1, ?_⟩
  have shallow : depthItems vs ≤ levels := depthItems_le_iff.mpr fun v place => (inside v place).2
  rw [depth]
  omega

theorem within_ofList {levels : Nat} {ms : List (String × Json)}
    (inside : ∀ m ∈ ms, Within levels m.2) :
    Within (levels + 1) (.obj (Members.ofList ms)) := by
  have kept : ∀ m ∈ Members.ofList ms, Within levels m.2 := fun m place =>
    inside m (Members.mem_ofList place)
  refine ⟨.obj (Members.ofList_ascending ms) fun m place => (kept m place).1, ?_⟩
  have shallow : depthMembers (Members.ofList ms) ≤ levels :=
    depthMembers_le_iff.mpr fun m place => (kept m place).2
  rw [depth]
  omega

theorem Within.item {levels : Nat} {vs : List Json} {v : Json} (within : Within (levels + 1) (.arr vs))
    (inside : v ∈ vs) : Within levels v := by
  obtain ⟨ordered, shallow⟩ := within
  rw [depth] at shallow
  cases ordered with
  | arr each =>
    exact ⟨each v inside, depthItems_le_iff.mp (Nat.le_of_succ_le_succ shallow) v inside⟩

theorem Within.member {levels : Nat} {ms : List (String × Json)} {key : String} {v : Json}
    (within : Within (levels + 1) (.obj ms)) (found : Members.lookup ms key = some v) :
    Within levels v := by
  have inside := Members.lookup_mem found
  obtain ⟨ordered, shallow⟩ := within
  rw [depth] at shallow
  cases ordered with
  | obj _ each =>
    exact ⟨each _ inside, depthMembers_le_iff.mp (Nat.le_of_succ_le_succ shallow) _ inside⟩

theorem word_value {letters cs rest : List Char} {v w : Json}
    (read : word letters v cs = .ok (w, rest)) : w = v := by
  induction letters generalizing cs with
  | nil =>
    cases read
    rfl
  | cons letter letters ih =>
    cases cs with
    | nil => cases read
    | cons c cs =>
      rw [word] at read
      split at read
      · exact ih read
      · cases read

/-- A reader with this fuel gives values with no more levels than it allows. -/
def ValueWithin (fuel : Nat) : Prop :=
  ∀ {levels : Nat} {cs rest : List Char} {v : Json},
    value fuel levels cs = .ok (v, rest) → Within levels v

def ItemsWithin (fuel : Nat) : Prop :=
  ∀ {levels : Nat} {cs rest : List Char} {vs : List Json},
    items fuel levels cs = .ok (vs, rest) → ∀ v ∈ vs, Within levels v

def MembersWithin (fuel : Nat) : Prop :=
  ∀ {levels : Nat} {cs rest : List Char} {ms : List (String × Json)},
    members fuel levels cs = .ok (ms, rest) → ∀ m ∈ ms, Within levels m.2

theorem value_within {fuel : Nat} (ofItems : ItemsWithin fuel) (ofMembers : MembersWithin fuel) :
    ValueWithin (fuel + 1) := by
  intro levels cs rest v read
  rw [value.eq_def] at read
  cases cs with
  | nil => cases read
  | cons c cs =>
    dsimp only at read
    split at read
    · rw [word_value read]
      exact ⟨.null, Nat.zero_le _⟩
    split at read
    · rw [word_value read]
      exact ⟨.bool true, Nat.zero_le _⟩
    split at read
    · rw [word_value read]
      exact ⟨.bool false, Nat.zero_le _⟩
    split at read
    · obtain ⟨⟨s, _⟩, _, done⟩ := of_bind_eq_ok read
      cases done
      exact ⟨.str s, Nat.zero_le _⟩
    split at read
    · obtain ⟨⟨n, _⟩, _, done⟩ := of_bind_eq_ok read
      cases done
      exact ⟨.num n, Nat.zero_le _⟩
    split at read
    · obtain ⟨⟨n, _⟩, _, done⟩ := of_bind_eq_ok read
      cases done
      exact ⟨.num n, Nat.zero_le _⟩
    split at read
    · cases levels with
      | zero => cases read
      | succ levels =>
        dsimp only at read
        split at read
        · cases read
          exact within_arr fun _ nowhere => absurd nowhere List.not_mem_nil
        · cases read
        · obtain ⟨⟨vs, _⟩, inner, done⟩ := of_bind_eq_ok read
          cases done
          exact within_arr (ofItems inner)
    split at read
    · cases levels with
      | zero => cases read
      | succ levels =>
        dsimp only at read
        split at read
        · cases read
          exact within_ofList fun _ nowhere => absurd nowhere List.not_mem_nil
        · cases read
        · obtain ⟨⟨ms, _⟩, inner, done⟩ := of_bind_eq_ok read
          cases done
          exact within_ofList (ofMembers inner)
    · cases read

theorem items_within {fuel : Nat} (ofValue : ValueWithin fuel) (ofItems : ItemsWithin fuel) :
    ItemsWithin (fuel + 1) := by
  intro levels cs rest vs read
  rw [items] at read
  obtain ⟨⟨first, _⟩, inner, read⟩ := of_bind_eq_ok read
  dsimp only at read
  split at read
  · cases read
    simpa using ofValue inner
  · split at read
    · cases read
    · obtain ⟨⟨more, _⟩, others, done⟩ := of_bind_eq_ok read
      cases done
      simpa using ⟨ofValue inner, ofItems others⟩
  · cases read

theorem members_within {fuel : Nat} (ofValue : ValueWithin fuel)
    (ofMembers : MembersWithin fuel) : MembersWithin (fuel + 1) := by
  intro levels cs rest ms read
  rw [members.eq_def] at read
  dsimp only at read
  split at read
  · obtain ⟨⟨key, _⟩, _, read⟩ := of_bind_eq_ok read
    dsimp only at read
    split at read
    · obtain ⟨⟨first, _⟩, inner, read⟩ := of_bind_eq_ok read
      dsimp only at read
      split at read
      · cases read
        simpa using ofValue inner
      · obtain ⟨⟨more, _⟩, others, done⟩ := of_bind_eq_ok read
        cases done
        simpa using ⟨ofValue inner, fun k v => ofMembers others (k, v)⟩
      · cases read
    · cases read
  · cases read

theorem read_within (fuel : Nat) : ValueWithin fuel ∧ ItemsWithin fuel ∧ MembersWithin fuel := by
  induction fuel with
  | zero =>
    refine ⟨?_, ?_, ?_⟩
    all_goals
      intro _ _ _ _ read
      cases read
  | succ fuel ih =>
    obtain ⟨ofValue, ofItems, ofMembers⟩ := ih
    exact ⟨value_within ofItems ofMembers, items_within ofValue ofItems,
      members_within ofValue ofMembers⟩

/-- A value that a text stands for has ordered objects and at most 127 levels. -/
theorem parse_within {text : String} {v : Json} (read : parse text = .ok v) :
    Within levelLimit v := by
  obtain ⟨⟨w, rest⟩, inner, done⟩ := of_bind_eq_ok read
  dsimp only at done
  split at done
  · cases done
    exact (read_within _).1 inner
  · cases done

end Json

end Mcp
