import Mcp.Members

/-! Members with ascending keys: putting in and collecting keep the order, collecting members that
ascend already changes nothing, and looking up finds what was put in last. -/

namespace Mcp.Members

variable {ν : Type}

/-- Members whose keys ascend, so that no key occurs twice. -/
def Ascending (members : List (String × ν)) : Prop := members.Pairwise fun m n => m.1 < n.1

theorem Ascending.tail {m : String × ν} {rest : List (String × ν)}
    (ascending : Ascending (m :: rest)) : Ascending rest :=
  (List.pairwise_cons.mp ascending).2

theorem lookup_mem {members : List (String × ν)} {key : String} {value : ν}
    (found : lookup members key = some value) : (key, value) ∈ members := by
  induction members with
  | nil => simp [lookup] at found
  | cons m rest ih =>
    rw [lookup] at found
    split at found
    case isTrue same =>
      cases found
      rw [← same]
      exact List.mem_cons_self
    case isFalse => exact List.mem_cons_of_mem _ (ih found)

theorem ascending_iff {members : List (String × ν)} :
    Ascending members ↔ (members.map Prod.fst).Pairwise (· < ·) :=
  List.pairwise_map.symm

/-- Of members with distinct keys each is found under its key. -/
theorem lookup_of_mem {members : List (String × ν)} (distinct : (members.map Prod.fst).Nodup)
    {m : String × ν} (inside : m ∈ members) : lookup members m.1 = some m.2 := by
  induction members with
  | nil => cases inside
  | cons n rest ih =>
    rw [List.map_cons, List.nodup_cons] at distinct
    rcases List.mem_cons.mp inside with rfl | later
    · exact if_pos rfl
    · have differ : n.1 ≠ m.1 := fun same => distinct.1 (same ▸ List.mem_map_of_mem later)
      rw [lookup, if_neg differ]
      exact ih distinct.2 later

theorem Ascending.nodup {members : List (String × ν)} (ascending : Ascending members) :
    (members.map Prod.fst).Nodup := by
  refine (ascending_iff.mp ascending).imp ?_
  rintro key _ before rfl
  exact String.lt_irrefl _ before

theorem Ascending.lookup_eq {members : List (String × ν)} (ascending : Ascending members)
    {m : String × ν} (inside : m ∈ members) : lookup members m.1 = some m.2 :=
  lookup_of_mem ascending.nodup inside

theorem lookup_eq_none {members : List (String × ν)} {key : String}
    (absent : key ∉ members.map Prod.fst) : lookup members key = none := by
  cases found : lookup members key with
  | none => rfl
  | some v => exact absurd (List.mem_map_of_mem (f := Prod.fst) (lookup_mem found)) absent

theorem lookup_map {μ : Type} (f : ν → μ) (members : List (String × ν)) (key : String) :
    lookup (members.map fun m => (m.1, f m.2)) key = (lookup members key).map f := by
  induction members with
  | nil => rfl
  | cons m rest ih =>
    rw [List.map_cons, lookup, lookup]
    split
    · rfl
    · exact ih

/-- Leaving out the members with other keys changes nothing under a key. -/
theorem lookup_filter (keep : String → Bool) {key : String} (kept : keep key = true)
    (members : List (String × ν)) :
    lookup (members.filter fun m => keep m.1) key = lookup members key := by
  induction members with
  | nil => rfl
  | cons m rest ih =>
    rw [List.filter_cons, lookup]
    by_cases same : m.1 = key
    · rw [if_pos same, same, if_pos kept, lookup, if_pos same]
    · rw [if_neg same, ← ih]
      split
      · rw [lookup, if_neg same]
      · rfl

/-- A member that was put in is the given one or was there. -/
theorem mem_insert {members : List (String × ν)} {key : String} {value : ν} {m : String × ν}
    (inside : m ∈ insert members key value) : m = (key, value) ∨ m ∈ members := by
  induction members with
  | nil => simpa [insert] using inside
  | cons n rest ih =>
    rw [insert] at inside
    split at inside
    · simpa using inside
    · split at inside
      · rcases List.mem_cons.mp inside with here | later
        · exact .inl here
        · exact .inr (List.mem_cons_of_mem _ later)
      · rcases List.mem_cons.mp inside with here | later
        · exact .inr (List.mem_cons.mpr (.inl here))
        · exact (ih later).imp_right (List.mem_cons_of_mem _)

theorem lookup_insert (members : List (String × ν)) (key : String) (value : ν) (wanted : String) :
    lookup (insert members key value) wanted =
      if key = wanted then some value else lookup members wanted := by
  induction members with
  | nil => rfl
  | cons m rest ih =>
    rw [insert]
    split
    case isTrue => rfl
    case isFalse =>
      split
      case isTrue same =>
        rw [lookup, lookup, same]
        split <;> rfl
      case isFalse differ =>
        rw [lookup, lookup, ih]
        split
        case isTrue found =>
          rw [if_neg]
          rintro rfl
          exact differ found.symm
        case isFalse => rfl

theorem lt_of_not_lt_of_ne {a b : String} (notLess : ¬ a < b) (differ : a ≠ b) : b < a := by
  apply Classical.byContradiction
  intro notMore
  exact differ (String.le_antisymm (String.not_lt.mp notMore) (String.not_lt.mp notLess))

/-- Putting a member into members that ascend keeps them ascending. -/
theorem Ascending.insert {members : List (String × ν)} (ascending : Ascending members)
    (key : String) (value : ν) : Ascending (insert members key value) := by
  induction members with
  | nil => simp [Members.insert, Ascending]
  | cons n rest ih =>
    have behind := (List.pairwise_cons.mp ascending).1
    rw [Members.insert]
    split
    case isTrue first =>
      refine List.pairwise_cons.mpr ⟨?_, ascending⟩
      intro m inside
      rcases List.mem_cons.mp inside with rfl | later
      · exact first
      · exact String.lt_trans first (behind m later)
    case isFalse notFirst =>
      split
      case isTrue same =>
        subst same
        exact List.pairwise_cons.mpr ⟨behind, ascending.tail⟩
      case isFalse differ =>
        refine List.pairwise_cons.mpr ⟨?_, ih ascending.tail⟩
        intro m inside
        rcases mem_insert inside with rfl | old
        · exact lt_of_not_lt_of_ne notFirst differ
        · exact behind m old

/-- Collecting is putting in one member after another. -/
theorem collect_induction {P : List (String × ν) → Prop} (added : List (String × ν))
    {start : List (String × ν)} (first : P start)
    (next : ∀ members, P members → ∀ m ∈ added, P (Members.insert members m.1 m.2)) :
    P (added.foldl (fun acc m => Members.insert acc m.1 m.2) start) := by
  induction added generalizing start with
  | nil => exact first
  | cons m rest ih =>
    refine ih (next start first m List.mem_cons_self) ?_
    intro members holds n inside
    exact next members holds n (List.mem_cons_of_mem _ inside)

/-- Collected members ascend. -/
theorem ofList_ascending (members : List (String × ν)) : Ascending (ofList members) := by
  refine collect_induction members List.Pairwise.nil ?_
  intro collected ascending m _
  exact ascending.insert m.1 m.2

theorem mem_ofList {members : List (String × ν)} {m : String × ν} (inside : m ∈ ofList members) :
    m ∈ members := by
  have all : ∀ n ∈ ofList members, n ∈ members := by
    refine collect_induction (P := fun collected => ∀ n ∈ collected, n ∈ members) members
      (fun n nowhere => absurd nowhere List.not_mem_nil) ?_
    intro collected known added place n here
    rcases mem_insert here with rfl | old
    · exact place
    · exact known n old
  exact all m inside

/-- A member whose key is behind all others is put in at the end. -/
theorem insert_last {members : List (String × ν)} {key : String} (value : ν)
    (last : ∀ m ∈ members, m.1 < key) :
    Members.insert members key value = members ++ [(key, value)] := by
  induction members with
  | nil => rfl
  | cons m rest ih =>
    have before : m.1 < key := last m List.mem_cons_self
    have notBefore : ¬ key < m.1 := fun after => String.lt_irrefl _ (String.lt_trans before after)
    have differ : ¬ key = m.1 := by
      intro same
      rw [same] at before
      exact String.lt_irrefl _ before
    rw [Members.insert, if_neg notBefore, if_neg differ,
      ih fun n later => last n (List.mem_cons_of_mem _ later)]
    rfl

/-- Members that ascend are collected as they are. -/
theorem Ascending.ofList_eq {members : List (String × ν)} (ascending : Ascending members) :
    ofList members = members := by
  suffices general : ∀ (added start : List (String × ν)), Ascending (start ++ added) →
      added.foldl (fun acc m => Members.insert acc m.1 m.2) start = start ++ added by
    exact general members [] ascending
  intro added
  induction added with
  | nil => simp
  | cons m rest ih =>
    intro start ordered
    have last : ∀ n ∈ start, n.1 < m.1 := fun n inside =>
      (List.pairwise_append.mp ordered).2.2 n inside m List.mem_cons_self
    rw [List.foldl_cons, insert_last m.2 last, ih]
    · simp
    · simpa using ordered

/-- Collecting members with distinct keys keeps what is found under each key. -/
theorem lookup_ofList {members : List (String × ν)} (distinct : (members.map Prod.fst).Nodup)
    (key : String) : lookup (ofList members) key = lookup members key := by
  suffices general : ∀ added start : List (String × ν), (added.map Prod.fst).Nodup →
      lookup (added.foldl (fun acc m => Members.insert acc m.1 m.2) start) key =
        (lookup added key).or (lookup start key) by
    have found := general members [] distinct
    rwa [lookup, Option.or_none] at found
  intro added
  induction added with
  | nil =>
    intro start _
    rfl
  | cons m rest ih =>
    intro start distinct
    rw [List.map_cons, List.nodup_cons] at distinct
    rw [List.foldl_cons, ih _ distinct.2, lookup_insert, lookup]
    split
    case isTrue same =>
      rw [lookup_eq_none (same ▸ distinct.1)]
      rfl
    case isFalse => rfl

end Mcp.Members
