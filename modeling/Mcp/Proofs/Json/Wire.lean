import Mcp.Proofs.Message.Reading

/-! How values go over the wire: they are read from JSON and written as JSON. A way is faithful if
whatever is read from an ordered value is read again from what it is written as. Lists, maps,
records and variants are faithful if their parts are; a record is followed field by field, as it is
put together. -/

namespace Mcp

namespace Json

variable {α : Type}

/-- How the values of a type are read and written. -/
structure Wire (α : Type) where
  read : Reader α
  write : α → Json
  /-- What a value has in its optional fields that take any JSON. -/
  untyped : α → List (Option Json)

namespace Wire

/-- `a` is read from what it is written as, and has no null in an optional field that takes any
JSON. -/
structure Settled (w : Wire α) (a : α) : Prop where
  again : w.read (w.write a).canonical = .ok a
  sound : ∀ value ∈ w.untyped a, value ≠ some .null

def Faithful (w : Wire α) : Prop := ∀ v a, Ordered v → w.read v = .ok a → w.Settled a

/-! ### Texts, truth values and any values -/

def text : Wire String := ⟨Reader.text, .str, fun _ => []⟩

theorem faithful_text : text.Faithful := fun _ _ _ _ => ⟨rfl, nofun⟩

def boolean : Wire Bool := ⟨Reader.boolean, .bool, fun _ => []⟩

theorem faithful_boolean : boolean.Faithful := fun _ _ _ _ => ⟨rfl, nofun⟩

def any : Wire Json := ⟨Reader.any, fun v => v, fun _ => []⟩

theorem faithful_any : any.Faithful := by
  intro v a ordered read
  cases read
  exact ⟨congrArg Except.ok ordered.canonical_eq, nofun⟩

end Wire

/-! ### Lists and maps -/

/-- Each item of a list was read from an item of the array. -/
theorem Reader.mem_of_each {read : Reader α} {items : List Json} {as : List α}
    (known : each read items = .ok as) {a : α} (inside : a ∈ as) :
    ∃ v ∈ items, read v = .ok a := by
  induction items generalizing as with
  | nil =>
    cases known
    cases inside
  | cons v rest ih =>
    obtain ⟨first, here, known⟩ := of_bind_eq_ok known
    obtain ⟨more, later, known⟩ := of_bind_eq_ok known
    cases known
    rcases List.mem_cons.mp inside with rfl | inside
    · exact ⟨v, List.mem_cons_self, here⟩
    · obtain ⟨u, place, read⟩ := ih later inside
      exact ⟨u, List.mem_cons_of_mem _ place, read⟩

theorem Reader.each_map {read : Reader α} {written : α → Json} {as : List α}
    (again : ∀ a ∈ as, read (written a) = .ok a) : each read (as.map written) = .ok as := by
  induction as with
  | nil => rfl
  | cons a rest ih =>
    obtain ⟨here, later⟩ := List.forall_mem_cons.mp again
    simp only [List.map_cons, each, here, ih later, bind, Except.bind]

/-- A map has the keys of the object, and each of its values was read from one of the object. -/
theorem Reader.of_eachMember {read : Reader α} {members : List (String × Json)}
    {as : List (String × α)} (known : eachMember read members = .ok as) :
    as.map Prod.fst = members.map Prod.fst ∧ ∀ a ∈ as, ∃ m ∈ members, read m.2 = .ok a.2 := by
  induction members generalizing as with
  | nil =>
    cases known
    exact ⟨rfl, nofun⟩
  | cons m rest ih =>
    obtain ⟨first, here, known⟩ := of_bind_eq_ok known
    obtain ⟨more, later, known⟩ := of_bind_eq_ok known
    cases known
    obtain ⟨keys, parts⟩ := ih later
    refine ⟨by rw [List.map_cons, List.map_cons, keys], List.forall_mem_cons.mpr ⟨?_, ?_⟩⟩
    · exact ⟨m, List.mem_cons_self, here⟩
    · intro a inside
      obtain ⟨n, place, read⟩ := parts a inside
      exact ⟨n, List.mem_cons_of_mem _ place, read⟩

theorem Reader.eachMember_map {read : Reader α} (written : α → Json) {as : List (String × α)}
    (again : ∀ a ∈ as, read (written a.2) = .ok a.2) :
    eachMember read (as.map fun a => (a.1, written a.2)) = .ok as := by
  induction as with
  | nil => rfl
  | cons a rest ih =>
    obtain ⟨here, later⟩ := List.forall_mem_cons.mp again
    simp only [List.map_cons, eachMember, here, ih later, bind, Except.bind]

namespace Wire

def list (w : Wire α) : Wire (List α) :=
  ⟨Reader.list w.read, fun as => .arr (as.map w.write), fun as => as.flatMap w.untyped⟩

theorem Faithful.list {w : Wire α} (faithful : w.Faithful) : w.list.Faithful := by
  intro v as ordered read
  cases ordered with
  | @arr items inside =>
    have settled : ∀ a ∈ as, w.Settled a := by
      intro a here
      obtain ⟨v, place, known⟩ := Reader.mem_of_each read here
      exact faithful v a (inside v place) known
    refine ⟨?_, ?_⟩
    · show Reader.list w.read (.arr (canonicalItems (as.map w.write))) = .ok as
      rw [canonicalItems_eq_map, List.map_map]
      exact Reader.each_map fun a here => (settled a here).again
    · intro value here
      obtain ⟨a, place, part⟩ := List.mem_flatMap.mp here
      exact (settled a place).sound value part
  | _ => cases read

def map (w : Wire α) : Wire (List (String × α)) :=
  ⟨Reader.map w.read, fun as => .obj (as.map fun a => (a.1, w.write a.2)),
    fun as => as.flatMap fun a => w.untyped a.2⟩

theorem Faithful.map {w : Wire α} (faithful : w.Faithful) : w.map.Faithful := by
  intro v as ordered read
  cases ordered with
  | @obj members ascending inside =>
    obtain ⟨keys, parts⟩ := Reader.of_eachMember read
    have settled : ∀ a ∈ as, w.Settled a.2 := by
      intro a here
      obtain ⟨m, place, known⟩ := parts a here
      exact faithful m.2 a.2 (inside m place) known
    -- The keys of the map are those of an ordered object, so writing it moves no member.
    have still : Members.Ascending (as.map fun a => (a.1, (w.write a.2).canonical)) := by
      have same : (as.map fun a => (a.1, (w.write a.2).canonical)).map Prod.fst =
          members.map Prod.fst := by
        rw [List.map_map, ← keys]
        rfl
      rw [Members.ascending_iff, same]
      exact Members.ascending_iff.mp ascending
    refine ⟨?_, ?_⟩
    · show Reader.eachMember w.read
        (Members.ofList (canonicalMembers (as.map fun a => (a.1, w.write a.2)))) = .ok as
      rw [canonicalMembers_eq_map, List.map_map]
      show Reader.eachMember w.read
        (Members.ofList (as.map fun a => (a.1, (w.write a.2).canonical))) = .ok as
      rw [still.ofList_eq]
      exact Reader.eachMember_map (fun a => (w.write a).canonical) fun a here =>
        (settled a here).again
    · intro value here
      obtain ⟨a, place, part⟩ := List.mem_flatMap.mp here
      exact (settled a place).sound value part
  | _ => cases read

end Wire

end Json

open Json (Ordered Wire canonical unlessNull)

variable {α β : Type}

/-! ### Fields -/

namespace Field

/-- What the field makes of an ordered value, or of nothing, satisfies `Q` and is made again from
what it is written as. -/
def Faithful (f : Field Json α) (written : α → Option Json) (Q : α → Prop) : Prop :=
  ∀ slot a, (∀ v ∈ slot, Ordered v) → f.value slot = some a →
    Q a ∧ f.rule.Accepts ((written a).map canonical) ∧ f.value ((written a).map canonical) = some a

/-- A value that a field reads passes its rule. -/
theorem accepts_of_read {f : Field Json α} {v : Json} {a : α} (read : f.read v = .ok a) :
    f.rule.Accepts (some v) ∧ f.value (some v) = some a := by
  refine ⟨?_, toOption_eq_some_iff.mpr read⟩
  simp [Rule.Accepts, rule, read]

variable {key : String} {w : Wire α}

theorem faithful_required (faithful : w.Faithful) :
    (required key w.read).Faithful (fun a => some (w.write a)) w.Settled := by
  intro slot a ordered value
  obtain ⟨v, rfl, read⟩ := value_required value
  have settled := faithful v a (ordered v rfl) read
  exact ⟨settled, accepts_of_read settled.again⟩

theorem faithful_withDefault {otherwise : α} (faithful : w.Faithful)
    (default : w.Settled otherwise) :
    (withDefault key w.read otherwise).Faithful (fun a => some (w.write a)) w.Settled := by
  intro slot a ordered value
  have settled : w.Settled a := by
    cases slot with
    | none =>
      cases value
      exact default
    | some v => exact faithful v a (ordered v rfl) (toOption_eq_some_iff.mp value)
  exact ⟨settled, accepts_of_read settled.again⟩

theorem faithful_optional (faithful : w.Faithful)
    (notNull : ∀ a, (w.write a).canonical.isNull = false) :
    (optional key w.read).Faithful (fun a => a.map w.write) (fun a => ∀ x ∈ a, w.Settled x) := by
  intro slot a ordered value
  cases a with
  | none => exact ⟨nofun, rfl, rfl⟩
  | some x =>
    have settled : w.Settled x := by
      cases slot with
      | none => cases value
      | some v =>
        have read : orNull w.read v = .ok (some x) := toOption_eq_some_iff.mp value
        exact faithful v x (ordered v rfl) (Json.orNull_eq_some_iff.mp read).2
    have again : orNull w.read (w.write x).canonical = .ok (some x) :=
      Json.orNull_eq_some_iff.mpr ⟨notNull x, settled.again⟩
    refine ⟨?_, accepts_of_read again⟩
    rintro _ ⟨⟩
    exact settled

/-- An optional field that takes any JSON keeps every value but null. -/
theorem faithful_anything :
    (optional key Json.Reader.any).Faithful id (fun a => a ≠ some .null) := by
  intro slot a ordered value
  rw [Json.value_optional] at value
  cases value
  have still : (unlessNull slot).map canonical = unlessNull slot :=
    Json.map_canonical_eq fun v inside => ordered v (Json.mem_of_mem_unlessNull inside)
  have kept := Json.unlessNull_ne_null slot
  refine ⟨kept, ?_⟩
  rw [id, still, Json.value_optional, Json.unlessNull_eq_self_iff.mpr kept]
  refine ⟨?_, rfl⟩
  cases unlessNull slot with
  | none => rfl
  | some v => simp [Rule.Accepts, rule, optional, Json.orNull_any]

end Field

/-! ### Records -/

namespace Record

/-- Members that hold the fields make the record `a`. -/
structure RebuiltFrom (r : Record Json α) (fields : List (String × Option Json)) (a : α) :
    Prop where
  keys : fields.map Prod.fst = r.rules.map Rule.key
  gives : ∀ members, (∀ x ∈ fields, Members.lookup members x.1 = x.2.map canonical) →
    r.Gives members a

/-- What the record makes of ordered values is made again from fields for which `P` holds. -/
def Keeps (r : Record Json α) (P : α → List (String × Option Json) → Prop) : Prop :=
  ∀ given a rest, (∀ v, some v ∈ given → Ordered v) → r.build given = some (a, rest) →
    (∀ v, some v ∈ rest → Ordered v) ∧ ∃ fields, P a fields ∧ r.RebuiltFrom fields a

theorem Keeps.pure {make : α} {P : α → List (String × Option Json) → Prop} (holds : P make []) :
    (pure make).Keeps P := by
  intro given a rest ordered built
  obtain ⟨rfl, rfl⟩ := build_pure built
  exact ⟨ordered, [], holds, rfl, fun members _ => gives_pure members _⟩

section

variable {r : Record Json (α → β)} {P : β → List (String × Option Json) → Prop}

/-- A record is kept with one faithful field more. -/
theorem Keeps.field {f : Field Json α} {written : α → Option Json} {Q : α → Prop}
    (before : r.Keeps fun make fields => ∀ a, Q a → P (make a) (fields ++ [(f.key, written a)]))
    (faithful : f.Faithful written Q) : (r.field f).Keeps P := by
  intro given b rest ordered built
  obtain ⟨make, slot, a, first, value, rfl⟩ := build_field built
  obtain ⟨orderedRest, fields, holds, rebuilt⟩ := before given make (slot :: rest) ordered first
  have orderedSlot : ∀ v ∈ slot, Ordered v := by
    rintro v rfl
    exact orderedRest v List.mem_cons_self
  obtain ⟨good, accepts, again⟩ := faithful slot a orderedSlot value
  refine ⟨fun v inside => orderedRest v (List.mem_cons_of_mem _ inside),
    fields ++ [(f.key, written a)], holds a good, ?_, ?_⟩
  · show _ = (r.rules ++ [f.rule]).map Rule.key
    rw [List.map_append, List.map_append, rebuilt.keys]
    rfl
  · intro members found
    have known := rebuilt.gives members fun x inside => found x (List.mem_append_left _ inside)
    have here := found (f.key, written a) (List.mem_append_right _ List.mem_cons_self)
    exact known.field (here ▸ accepts) (here ▸ again)

end

variable {r : Record Json α} {P : α → List (String × Option Json) → Prop} {a : α}

/-- The record was read as `a` from the ordered values of an object or of an array. -/
inductive ReadAs (r : Record Json α) (a : α) : Prop
  | members {members : List (String × Json)} (ordered : ∀ m ∈ members, Ordered m.2)
      (read : r.ofMembers members = .ok a) : ReadAs r a
  | items {type tooMany : String} {items : List Json} (ordered : ∀ v ∈ items, Ordered v)
      (read : r.ofItems type tooMany items = .ok a) : ReadAs r a

theorem Keeps.of_readAs (keeps : r.Keeps P) (readAs : r.ReadAs a) :
    ∃ fields, P a fields ∧ r.RebuiltFrom fields a := by
  cases readAs with
  | members ordered read =>
    obtain ⟨_, _, rest, built⟩ := ofMembers_eq_ok_iff.mp read
    refine (keeps _ a rest ?_ built).2
    intro v given
    obtain ⟨rule, _, found⟩ := List.mem_map.mp given
    exact ordered _ (Members.lookup_mem found)
  | items ordered read =>
    obtain ⟨rest, built⟩ := build_of_ofItems read
    refine (keeps _ a rest ?_ built).2
    intro v given
    exact ordered v (by simpa using given)

end Record

namespace Json

/-- A record with distinct keys is written as an object with each of its fields. -/
theorem found_present (fields : List (String × Option Json))
    (distinct : (fields.map Prod.fst).Nodup) :
    ∃ kept, canonical (.obj (present fields)) = .obj kept ∧ Members.Ascending kept ∧
      ∀ x ∈ fields, Members.lookup kept x.1 = x.2.map canonical := by
  obtain ⟨kept, same, ascending, found⟩ := canonical_present fields distinct
  refine ⟨kept, same, ascending, fun x inside => ?_⟩
  rw [found, Members.lookup_of_mem distinct inside]
  rfl

theorem readAs_of_record {type : String} {r : Record Json α} {v : Json} {a : α}
    (ordered : Ordered v) (read : record type r v = .ok a) : r.ReadAs a := by
  cases ordered with
  | obj _ inside => exact .members inside read
  | arr inside => exact .items inside read
  | _ => cases read

/-- A variant that was named is found again under its name. -/
theorem of_namedVariant {variants : List (Variant Json α)} {v : Json} {variant : Variant Json α}
    (named : namedVariant variants v = .ok variant) :
    variant ∈ variants ∧ namedVariant variants (.str variant.name) = .ok variant := by
  cases v with
  | str s =>
    cases found : variants.find? fun v => v.name = s with
    | none => simp [namedVariant, found] at named
    | some first =>
      obtain rfl : first = variant := by simpa [namedVariant, found] using named
      have name : first.name = s := by simpa using List.find?_some found
      exact ⟨List.mem_of_find?_eq_some found, name ▸ named⟩
  | _ => cases named

theorem readAs_of_tagged {type tag : String} {variants : List (Variant Json α)} {v : Json} {a : α}
    (ordered : Ordered v) (read : tagged type tag variants v = .ok a) :
    ∃ variant ∈ variants, namedVariant variants (.str variant.name) = .ok variant ∧
      variant.record.ReadAs a := by
  cases ordered with
  | @obj members _ inside =>
    cases found : Members.lookup members tag with
    | none => simp [tagged, found] at read
    | some name =>
      simp only [tagged, found] at read
      obtain ⟨variant, named, read⟩ := of_bind_eq_ok read
      obtain ⟨place, again⟩ := of_namedVariant named
      exact ⟨variant, place, again,
        .members (fun m kept => inside m (List.mem_filter.mp kept).1) read⟩
  | @arr items inside =>
    cases items with
    | nil => cases read
    | cons name items =>
      obtain ⟨variant, named, read⟩ := of_bind_eq_ok read
      obtain ⟨place, again⟩ := of_namedVariant named
      exact ⟨variant, place, again,
        .items (fun v kept => inside v (List.mem_cons_of_mem _ kept)) read⟩
  | _ => cases read

namespace Wire

/-- A record is faithful if it is written with the fields that it is made again from. -/
theorem faithful_record {type : String} {r : Record Json α} {w : Wire α}
    (read : w.read = Json.record type r) (distinct : (r.rules.map Rule.key).Nodup)
    (keeps : r.Keeps fun a fields =>
      w.write a = .obj (present fields) ∧ ∀ value ∈ w.untyped a, value ≠ some .null) :
    w.Faithful := by
  intro v a ordered known
  rw [read] at known
  obtain ⟨fields, ⟨written, sound⟩, rebuilt⟩ := keeps.of_readAs (readAs_of_record ordered known)
  obtain ⟨kept, same, ascending, found⟩ := found_present fields (rebuilt.keys ▸ distinct)
  refine ⟨?_, sound⟩
  rw [read, written, same]
  exact (rebuilt.gives kept found).ofMembers ascending

/-- Records that a field tells apart are faithful if each is written with its name in that field
and with the fields that it is made again from. -/
theorem faithful_tagged {type tag : String} {variants : List (Variant Json α)} {w : Wire α}
    (read : w.read = tagged type tag variants)
    (distinct : ∀ variant ∈ variants, (tag :: variant.record.rules.map Rule.key).Nodup)
    (keeps : ∀ variant ∈ variants, variant.record.Keeps fun a fields =>
      w.write a = .obj (present ((tag, some (.str variant.name)) :: fields)) ∧
        ∀ value ∈ w.untyped a, value ≠ some .null) :
    w.Faithful := by
  intro v a ordered known
  rw [read] at known
  obtain ⟨variant, place, named, readAs⟩ := readAs_of_tagged ordered known
  obtain ⟨fields, ⟨written, sound⟩, rebuilt⟩ := (keeps variant place).of_readAs readAs
  have apart := distinct variant place
  rw [← rebuilt.keys] at apart
  obtain ⟨kept, same, ascending, found⟩ :=
    found_present ((tag, some (.str variant.name)) :: fields) apart
  obtain ⟨tagFound, fieldsFound⟩ := List.forall_mem_cons.mp found
  -- The tag is no key of the variant's fields, so they are all there without it.
  have others : ∀ x ∈ fields,
      Members.lookup (kept.filter fun m => m.1 ≠ tag) x.1 = x.2.map canonical := by
    intro x inside
    have other : x.1 ≠ tag := fun equal =>
      (List.nodup_cons.mp apart).1 (equal ▸ List.mem_map_of_mem inside)
    rw [← fieldsFound x inside]
    exact Members.lookup_filter (fun key => key ≠ tag) (by simpa using other) kept
  refine ⟨?_, sound⟩
  rw [read, written, same]
  simp only [tagged, tagFound, Option.map_some, canonical, named, bind, Except.bind]
  exact (rebuilt.gives _ others).ofMembers (ascending.filter _)

/-- Of two forms the second counts where the first does not fit. -/
theorem firstOf_pair_eq_ok_iff {γ : Type} {type : String} {first : Reader α} {second : Reader β}
    {f : α → γ} {g : β → γ} {v : Json} {c : γ} :
    Reader.firstOf type [fun v => (first v).map f, fun v => (second v).map g] v = .ok c ↔
      (∃ a, first v = .ok a ∧ f a = c) ∨
        (∀ a, first v ≠ .ok a) ∧ ∃ b, second v = .ok b ∧ g b = c := by
  unfold Reader.firstOf
  cases one : first v <;> cases other : second v <;>
    simp [one, other, Except.map, Except.toOption]

/-- One of two forms is faithful if each of them is, and nothing written in the second fits the
first. -/
theorem faithful_firstOf {γ : Type} {type : String} {first : Wire α} {second : Wire β}
    {f : α → γ} {g : β → γ} {w : Wire γ}
    (read : w.read = Reader.firstOf type
      [fun v => (first.read v).map f, fun v => (second.read v).map g])
    (asFirst : ∀ a, w.write (f a) = first.write a ∧ w.untyped (f a) = first.untyped a)
    (asSecond : ∀ b, w.write (g b) = second.write b ∧ w.untyped (g b) = second.untyped b)
    (apart : ∀ b a, first.read (second.write b).canonical ≠ .ok a)
    (faithfulFirst : first.Faithful) (faithfulSecond : second.Faithful) : w.Faithful := by
  intro v c ordered known
  rw [read, firstOf_pair_eq_ok_iff] at known
  rcases known with ⟨a, here, rfl⟩ | ⟨_, b, here, rfl⟩
  · have settled := faithfulFirst v a ordered here
    obtain ⟨written, untyped⟩ := asFirst a
    refine ⟨?_, untyped ▸ settled.sound⟩
    rw [read, written, firstOf_pair_eq_ok_iff]
    exact .inl ⟨a, settled.again, rfl⟩
  · have settled := faithfulSecond v b ordered here
    obtain ⟨written, untyped⟩ := asSecond b
    refine ⟨?_, untyped ▸ settled.sound⟩
    rw [read, written, firstOf_pair_eq_ok_iff]
    exact .inr ⟨apart b, b, settled.again, rfl⟩

end Wire

end Json

end Mcp
