import Mcp.Json.Record
import Mcp.Proofs.Json.Ordered

/-! Reading records, field by field: what a record that was read was put together from, and what
the members of an object give; and the members that a record is written with. -/

namespace Mcp

variable {ν α β : Type}

theorem toOption_eq_some_iff {ε : Type} {x : Except ε α} {a : α} :
    x.toOption = some a ↔ x = .ok a := by
  cases x <;> simp [Except.toOption]

/-- What is there under the key of a rule passes it. -/
def Rule.Accepts (rule : Rule ν) : Option ν → Prop
  | some v => rule.fault v = none
  | none => rule.needed = false

theorem Field.value_required {key : String} {read : ν → Except Json.Mismatch α} {slot : Option ν}
    {a : α} (value : (required key read).value slot = some a) :
    ∃ v, slot = some v ∧ read v = .ok a := by
  cases slot with
  | none => cases value
  | some v => exact ⟨v, rfl, toOption_eq_some_iff.mp value⟩

namespace Json

/-- A value, or nothing for null. -/
def unlessNull (value : Option Json) : Option Json := value.filter fun v => !v.isNull

theorem unlessNull_ne_null (value : Option Json) : unlessNull value ≠ some .null := by
  intro null
  have := (Option.filter_eq_some_iff.mp null).2
  cases this

theorem unlessNull_eq_self_iff {value : Option Json} :
    unlessNull value = value ↔ value ≠ some .null := by
  cases value with
  | none => simp [unlessNull]
  | some v => cases v <;> simp [unlessNull, isNull, Option.filter]

theorem mem_of_mem_unlessNull {value : Option Json} {v : Json} (inside : v ∈ unlessNull value) :
    v ∈ value :=
  (Option.filter_eq_some_iff.mp inside).1

/-- An optional field of any value takes every value but null. -/
theorem orNull_any (v : Json) : orNull Reader.any v = .ok (unlessNull (some v)) := by
  cases v <;> rfl

theorem orNull_eq_some_iff {read : Reader α} {v : Json} {a : α} :
    orNull read v = .ok (some a) ↔ v.isNull = false ∧ read v = .ok a := by
  cases null : v.isNull <;> cases fits : read v <;>
    simp [orNull, Nullable.isNull, null, fits, bind, Except.bind, Except.map]

theorem value_optional (key : String) (slot : Option Json) :
    (Field.optional key Reader.any).value slot = some (unlessNull slot) := by
  cases slot with
  | none => rfl
  | some v =>
    show (orNull Reader.any v).toOption = _
    rw [orNull_any]
    rfl

end Json

namespace Record

/-! ### Where a record comes from -/

theorem build_pure {a b : α} {given rest : List (Option ν)}
    (built : (pure a : Record ν α).build given = some (b, rest)) : b = a ∧ given = rest := by
  cases built
  exact ⟨rfl, rfl⟩

/-- A record with one field more takes one slot more. -/
theorem build_field {r : Record ν (α → β)} {f : Field ν α} {given rest : List (Option ν)} {b : β}
    (built : (r.field f).build given = some (b, rest)) :
    ∃ make slot a, r.build given = some (make, slot :: rest) ∧ f.value slot = some a ∧
      b = make a := by
  obtain ⟨⟨make, slots⟩, before, built⟩ := Option.bind_eq_some_iff.mp built
  cases slots with
  | nil => cases built
  | cons slot slots =>
    obtain ⟨a, value, built⟩ := Option.bind_eq_some_iff.mp built
    cases built
    exact ⟨make, slot, a, before, value, rfl⟩

theorem build_required {r : Record ν (α → β)} {key : String} {read : ν → Except Json.Mismatch α}
    {given rest : List (Option ν)} {b : β}
    (built : (r.field (.required key read)).build given = some (b, rest)) :
    ∃ make v a, r.build given = some (make, some v :: rest) ∧ read v = .ok a ∧ b = make a := by
  obtain ⟨make, _, a, before, value, rfl⟩ := build_field built
  obtain ⟨v, rfl, known⟩ := Field.value_required value
  exact ⟨make, v, a, before, known, rfl⟩

theorem build_optional {r : Record Json (Option Json → β)} {key : String}
    {given rest : List (Option Json)} {b : β}
    (built : (r.field (.optional key Json.Reader.any)).build given = some (b, rest)) :
    ∃ make slot, r.build given = some (make, slot :: rest) ∧ b = make (Json.unlessNull slot) := by
  obtain ⟨make, slot, _, before, value, rfl⟩ := build_field built
  rw [Json.value_optional] at value
  cases value
  exact ⟨make, slot, before, rfl⟩

theorem assemble_eq_ok_iff {r : Record ν α} {given : List (Option ν)} {a : α} :
    r.assemble given = .ok a ↔ ∃ rest, r.build given = some (a, rest) := by
  unfold assemble
  cases r.build given with
  | none => simp
  | some built => cases built; simp

/-- A record is read from an object when no value is unfit, nothing is missing and the values that
are there make it. -/
theorem ofMembers_eq_ok_iff {r : Record ν α} {members : List (String × ν)} {a : α} :
    r.ofMembers members = .ok a ↔
      r.firstFault members = none ∧ r.firstMissing members = none ∧
        ∃ rest, r.build (r.rules.map fun rule => Members.lookup members rule.key) =
          some (a, rest) := by
  unfold ofMembers
  cases r.firstFault members with
  | some e => simp
  | none =>
    cases r.firstMissing members with
    | some key => simp
    | none => simp [assemble_eq_ok_iff]

/-- An object that was read as a record has its needed fields. -/
theorem found_of_ofMembers {r : Record ν α} {members : List (String × ν)} {a : α}
    (read : r.ofMembers members = .ok a) {rule : Rule ν} (inside : rule ∈ r.rules)
    (needed : rule.needed = true) : Members.lookup members rule.key ≠ none := by
  have complete := (ofMembers_eq_ok_iff.mp read).2.1
  rw [firstMissing, Option.map_eq_none_iff, List.find?_eq_none] at complete
  intro absent
  exact complete rule inside (by simp [needed, absent])

/-- A record that was read from the items of an array is made of them. -/
theorem build_of_ofItems {r : Record ν α} {type tooMany : String} {vs : List ν} {a : α}
    (read : r.ofItems type tooMany vs = .ok a) :
    ∃ rest, r.build (vs.map some ++ List.replicate (r.rules.length - vs.length) none) =
      some (a, rest) := by
  unfold ofItems at read
  split at read
  · cases read
  split at read
  · cases read
  split at read
  · cases read
  · exact assemble_eq_ok_iff.mp read

/-- If an array must reach every field of a record, the arrays that are read are as long as it. -/
theorem length_of_ofItems {r : Record ν α} {type tooMany : String} {vs : List ν} {a : α}
    (needed : ∀ rule ∈ r.rules, rule.neededInArray = true)
    (read : r.ofItems type tooMany vs = .ok a) : vs.length = r.rules.length := by
  unfold ofItems at read
  split at read
  · cases read
  split at read
  · cases read
  rename_i reached
  split at read
  · cases read
  rename_i within
  rw [firstShort, Option.map_eq_none_iff, List.findIdx?_eq_none_iff] at reached
  have behind : r.rules.drop vs.length = [] := by
    rw [List.eq_nil_iff_forall_not_mem]
    intro rule inside
    have short := reached rule inside
    rw [needed rule (List.mem_of_mem_drop inside)] at short
    cases short
  have least := List.drop_eq_nil_iff.mp behind
  omega

/-- Values that fill a record, each fit for its field, are read as what they make. -/
theorem ofItems_of_build {r : Record ν α} {type tooMany : String} {vs : List ν} {a : α}
    {rest : List (Option ν)} (full : r.rules.length = vs.length)
    (accepted : ∀ x ∈ r.rules.zip vs, x.1.fault x.2 = none)
    (built : r.build (vs.map some) = some (a, rest)) : r.ofItems type tooMany vs = .ok a := by
  have fit : ((r.rules.zip vs).findSome? fun x => x.1.fault x.2) = none :=
    List.findSome?_eq_none_iff.mpr accepted
  have reached : r.firstShort vs.length = none := by
    rw [firstShort, ← full, List.drop_length]
    rfl
  simp only [ofItems, fit, reached, full, Nat.lt_irrefl, if_false, Nat.sub_self,
    List.replicate_zero, List.append_nil]
  exact assemble_eq_ok_iff.mpr ⟨rest, built⟩

/-! ### What the members of an object give -/

theorem firstFault_eq_none {r : Record ν α} {members : List (String × ν)}
    (ascending : Members.Ascending members)
    (accepted : ∀ rule ∈ r.rules, rule.Accepts (Members.lookup members rule.key)) :
    r.firstFault members = none := by
  unfold firstFault
  rw [List.findSome?_eq_none_iff]
  intro m inside
  cases named : r.rules.find? fun rule => rule.key = m.1 with
  | none => rfl
  | some rule =>
    have key : rule.key = m.1 := by simpa using List.find?_some named
    have accepts := accepted rule (List.mem_of_find?_eq_some named)
    rw [key, ascending.lookup_eq inside] at accepts
    exact accepts

theorem firstMissing_eq_none {r : Record ν α} {members : List (String × ν)}
    (accepted : ∀ rule ∈ r.rules, rule.Accepts (Members.lookup members rule.key)) :
    r.firstMissing members = none := by
  unfold firstMissing
  rw [Option.map_eq_none_iff, List.find?_eq_none]
  intro rule inside
  have accepts := accepted rule inside
  cases found : Members.lookup members rule.key with
  | none =>
    rw [found] at accepts
    simp [show rule.needed = false from accepts]
  | some v => simp

/-- What is found under the keys of a record passes its rules and makes a value. -/
structure Gives (r : Record ν α) (members : List (String × ν)) (a : α) : Prop where
  accepted : ∀ rule ∈ r.rules, rule.Accepts (Members.lookup members rule.key)
  built : ∀ rest,
    r.build ((r.rules.map fun rule => Members.lookup members rule.key) ++ rest) = some (a, rest)

theorem gives_pure (members : List (String × ν)) (a : α) : (pure a).Gives members a where
  accepted _ nowhere := absurd nowhere List.not_mem_nil
  built _ := rfl

section

variable {r : Record ν (α → β)} {members : List (String × ν)} {make : α → β} {a : α}

theorem Gives.field {f : Field ν α} (before : r.Gives members make)
    (accepts : f.rule.Accepts (Members.lookup members f.key))
    (value : f.value (Members.lookup members f.key) = some a) :
    (r.field f).Gives members (make a) where
  accepted rule inside := by
    rcases List.mem_append.mp inside with old | new
    · exact before.accepted rule old
    · rw [List.mem_singleton.mp new]
      exact accepts
  built rest := by
    have first := before.built (Members.lookup members f.key :: rest)
    simp [Record.field, Field.rule, first, value]

theorem Gives.required {key : String} {read : ν → Except Json.Mismatch α} {v : ν}
    (before : r.Gives members make) (there : Members.lookup members key = some v)
    (fits : read v = .ok a) : (r.field (.required key read)).Gives members (make a) := by
  refine before.field ?_ ?_
  · show Rule.Accepts _ (Members.lookup members key)
    rw [there]
    simp [Rule.Accepts, Field.rule, Field.required, fits]
  · show (Field.required key read).value (Members.lookup members key) = some a
    rw [there]
    exact toOption_eq_some_iff.mpr fits

end

theorem Gives.optional {r : Record Json (Option Json → β)} {members : List (String × Json)}
    {make : Option Json → β} (before : r.Gives members make) (key : String) :
    (r.field (.optional key Json.Reader.any)).Gives members
      (make (Json.unlessNull (Members.lookup members key))) := by
  refine before.field ?_ (Json.value_optional key _)
  show Rule.Accepts _ (Members.lookup members key)
  cases Members.lookup members key with
  | none => rfl
  | some v => simp [Rule.Accepts, Field.rule, Field.optional, Json.orNull_any]

/-- An object is read as the record that its members give. -/
theorem Gives.ofMembers {r : Record ν α} {members : List (String × ν)} {a : α}
    (gives : r.Gives members a) (ascending : Members.Ascending members) :
    r.ofMembers members = .ok a := by
  have built := gives.built []
  rw [List.append_nil] at built
  exact ofMembers_eq_ok_iff.mpr ⟨firstFault_eq_none ascending gives.accepted,
    firstMissing_eq_none gives.accepted, [], built⟩

end Record

namespace Json

/-! ### The members of a written record -/

theorem keys_present (fields : List (String × Option Json)) :
    ((present fields).map Prod.fst).Sublist (fields.map Prod.fst) := by
  induction fields with
  | nil => exact .slnil
  | cons field rest ih =>
    obtain ⟨key, value⟩ := field
    cases value with
    | none => exact ih.cons key
    | some v => exact ih.cons_cons key

theorem lookup_present {fields : List (String × Option Json)}
    (distinct : (fields.map Prod.fst).Nodup) (key : String) :
    Members.lookup (present fields) key = (Members.lookup fields key).join := by
  induction fields with
  | nil => rfl
  | cons field rest ih =>
    obtain ⟨k, value⟩ := field
    rw [List.map_cons, List.nodup_cons] at distinct
    have later := ih distinct.2
    cases value with
    | some v =>
      show Members.lookup ((k, v) :: present rest) key = _
      rw [Members.lookup, Members.lookup, later]
      split <;> rfl
    | none =>
      show Members.lookup (present rest) key = _
      rw [Members.lookup, later]
      split
      case isTrue same =>
        rw [Members.lookup_eq_none (same ▸ distinct.1)]
        rfl
      case isFalse => rfl

/-- A record with distinct keys is ordered into an object that holds each value that is there. -/
theorem canonical_present (fields : List (String × Option Json))
    (distinct : (fields.map Prod.fst).Nodup) :
    ∃ kept, canonical (.obj (present fields)) = .obj kept ∧ Members.Ascending kept ∧
      ∀ key, Members.lookup kept key = (Members.lookup fields key).join.map canonical := by
  obtain ⟨kept, same, ascending, found⟩ := canonical_obj (distinct.sublist (keys_present fields))
  refine ⟨kept, same, ascending, fun key => ?_⟩
  rw [found, lookup_present distinct]

/-- A record that is written is one level deeper than its fields. -/
theorem depth_present {fields : List (String × Option Json)} {levels : Nat}
    (shallow : ∀ field ∈ fields, ∀ v ∈ field.2, v.depth ≤ levels) :
    depth (.obj (present fields)) ≤ levels + 1 := by
  rw [depth]
  refine Nat.succ_le_succ (depthMembers_le_iff.mpr ?_)
  intro m inside
  obtain ⟨⟨key, value⟩, place, made⟩ := List.mem_filterMap.mp inside
  obtain ⟨v, there, rfl⟩ := Option.map_eq_some_iff.mp made
  exact shallow _ place v there

end Json

end Mcp
