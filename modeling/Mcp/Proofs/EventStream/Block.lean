import Mathlib.Data.List.TakeWhile
import Mcp.EventStream.Whole
import Mcp.Proofs.Text.Utf8

/-!
Blocks and groups. A line gives the field that its first colon makes (`fieldOf_eq_lineField`). The
text of a block gives the same event as the group of its lines, each decoded by itself and without
the blank ones (`blockEvent?_ended`).
-/

namespace Mcp.EventStream

/-! ### The field of a line -/

theorem splitAtColon_of_not_mem {line : List Char} (plain : ':' ∉ line) :
    splitAtColon line = none := by
  induction line with
  | nil => rfl
  | cons c line ih =>
    rw [List.mem_cons, not_or] at plain
    rw [splitAtColon, if_neg (Ne.symm plain.1), ih plain.2]
    rfl

theorem splitAtColon_append {name : List Char} (plain : ':' ∉ name) (value : List Char) :
    splitAtColon (name ++ ':' :: value) = some (name, value) := by
  induction name with
  | nil => rfl
  | cons c name ih =>
    rw [List.mem_cons, not_or] at plain
    rw [List.cons_append, splitAtColon, if_neg (Ne.symm plain.1), ih plain.2]
    rfl

theorem lineField_of_not_mem {line : List Char} (plain : ':' ∉ line) :
    lineField line = (String.ofList line, "") := by
  rw [lineField, splitAtColon_of_not_mem plain]

theorem lineField_append {name : List Char} (plain : ':' ∉ name) (value : List Char) :
    lineField (name ++ ':' :: value) =
      (String.ofList name,
        String.ofList (if value.head? = some ' ' then value.drop 1 else value)) := by
  rw [lineField, splitAtColon_append plain]
  cases value with
  | nil => rfl
  | cons c value =>
    by_cases space : c = ' '
    · subst space
      rfl
    · simp [space]

theorem ne_colon_of_mem {name : List Char} (plain : ':' ∉ name) :
    ∀ c ∈ name, decide (c ≠ ':') = true := by
  intro c inside
  rw [decide_eq_true_eq]
  rintro rfl
  exact plain inside

theorem fieldOf_eq_lineField (line : List Char) : fieldOf line = lineField line := by
  by_cases colon : ':' ∈ line
  · obtain ⟨name, value, rfl, plain⟩ := List.eq_append_cons_of_mem colon
    have others := ne_colon_of_mem plain
    rw [lineField_append plain, fieldOf, List.takeWhile_append_of_pos others,
      List.dropWhile_append_of_pos others]
    simp
  · have others := ne_colon_of_mem colon
    rw [lineField_of_not_mem colon, fieldOf, List.takeWhile_eq_self_iff.mpr others,
      List.dropWhile_eq_nil_iff.mpr others]
    rfl

/-! ### What lines give -/

/-- Whether a line gives a field: it is neither blank nor a comment. -/
def givesField (line : List Char) : Bool := !(line.isEmpty || line.head? = some ':')

theorem Draft.add_of_not {line : List Char} (h : givesField line = false) (d : Draft) :
    d.add line = d := by
  rw [givesField, Bool.not_eq_false'] at h
  rw [Draft.add, if_pos h]

/-- The draft with the fields of more lines. -/
def Draft.extend (d : Draft) (fields : List (String × String)) : Draft :=
  ⟨(valuesOf "event" fields).getLast?.or d.kind, d.data ++ valuesOf "data" fields,
    (valuesOf "id" fields).getLast?.or d.id⟩

theorem valuesOf_cons (name : String) (field : String × String) (fields : List (String × String)) :
    valuesOf name (field :: fields) =
      if field.1 = name then field.2 :: valuesOf name fields else valuesOf name fields := by
  unfold valuesOf
  rw [List.filter_cons]
  split <;> simp_all

theorem getLast?_cons_or {value : String} {values : List String} {before : Option String} :
    (value :: values).getLast?.or before = values.getLast?.or (some value) := by
  rw [List.getLast?_cons]
  cases values.getLast? <;> rfl

theorem Draft.add_extend {line : List Char} (h : givesField line = true) (d : Draft)
    (fields : List (String × String)) :
    (d.add line).extend fields = d.extend (fieldOf line :: fields) := by
  rw [givesField, Bool.not_eq_true'] at h
  rw [Draft.add, if_neg (by simpa using h)]
  generalize fieldOf line = field
  obtain ⟨name, value⟩ := field
  simp only [Draft.extend, valuesOf_cons]
  split
  · rename_i same
    obtain ⟨rfl, rfl⟩ := Prod.mk.inj same
    simp
  · rename_i same
    obtain ⟨rfl, rfl⟩ := Prod.mk.inj same
    simp [getLast?_cons_or]
  · rename_i same
    obtain ⟨rfl, rfl⟩ := Prod.mk.inj same
    simp [getLast?_cons_or]
  · rename_i data event id
    have hdata : name ≠ "data" := fun same => data value (by rw [same])
    have hevent : name ≠ "event" := fun same => event value (by rw [same])
    have hid : name ≠ "id" := fun same => id value (by rw [same])
    simp [hdata, hevent, hid]

theorem Draft.foldl_add (lines : List (List Char)) (d : Draft) :
    lines.foldl Draft.add d = d.extend ((lines.filter givesField).map fieldOf) := by
  induction lines generalizing d with
  | nil => simp [Draft.extend, valuesOf]
  | cons line lines ih =>
    rw [List.foldl_cons, ih]
    cases h : givesField line with
    | true => rw [List.filter_cons_of_pos h, List.map_cons, d.add_extend h]
    | false => rw [List.filter_cons_of_neg (by simp [h]), d.add_of_not h]

/-- The event of lines, by their fields alone. -/
theorem event?_foldl_add (lines : List (List Char)) :
    (lines.foldl Draft.add .empty).event? =
      let fields := (lines.filter givesField).map fieldOf
      if (valuesOf "data" fields).isEmpty && (valuesOf "event" fields).isEmpty &&
        (valuesOf "id" fields).isEmpty then none
      else some ⟨(valuesOf "event" fields).getLast?, "\n".intercalate (valuesOf "data" fields),
        (valuesOf "id" fields).getLast?⟩ := by
  rw [Draft.foldl_add]
  generalize (lines.filter givesField).map fieldOf = fields
  have isNone (values : List String) : values.getLast?.isNone = values.isEmpty := by
    cases values <;> simp [List.getLast?_cons]
  simp only [Draft.event?, Draft.extend, Draft.empty, Option.or_none, List.nil_append, isNone]
  rw [Bool.and_comm (valuesOf "event" fields).isEmpty]

/-! ### Lines with their line ends -/

/-- Lines with a line feed behind each. -/
def ended (lines : List (List UInt8)) : List UInt8 := lines.flatMap fun line => line ++ [lineFeed]

theorem ended_cons (line : List UInt8) (lines : List (List UInt8)) (rest : List UInt8) :
    ended (line :: lines) ++ rest = line ++ lineFeed :: (ended lines ++ rest) := by
  simp [ended]

theorem ended_concat (lines : List (List UInt8)) (line : List UInt8) :
    ended (lines ++ [line]) = ended lines ++ line ++ [lineFeed] := by
  simp [ended]

/-- The lines of the text of a block are its decoded lines. -/
theorem splitBy_decode_ended {lines : List (List UInt8)} (h : ∀ line ∈ lines, lineFeed ∉ line)
    {last : List UInt8} (hlast : lineFeed ∉ last) :
    Text.splitBy (· = '\n') (Text.decode (ended lines ++ last)) =
      (lines ++ [last]).map Text.decode := by
  induction lines with
  | nil => exact Text.splitBy_decode_line hlast
  | cons line lines ih =>
    have rest := ih fun l hl => h l (List.mem_cons_of_mem _ hl)
    rw [ended_cons, List.cons_append, List.map_cons, ← rest]
    exact Text.splitBy_decode (h line List.mem_cons_self) _

/-- The fields of lines are those of the lines that are not blank. -/
theorem filter_givesField (lines : List (List UInt8)) :
    (lines.map Text.decode).filter givesField =
      ((lines.filter fun line => !line.isEmpty).map Text.decode).filter fun line =>
        line.head? ≠ some ':' := by
  induction lines with
  | nil => rfl
  | cons line lines ih =>
    have blank : (Text.decode line).isEmpty = line.isEmpty := by
      rw [Bool.eq_iff_iff, List.isEmpty_iff, List.isEmpty_iff, Text.decode_eq_nil_iff]
    have gives : givesField (Text.decode line) =
        (!line.isEmpty && decide ((Text.decode line).head? ≠ some ':')) := by
      simp [givesField, blank]
    rw [List.map_cons, List.filter_cons, ih, gives, List.filter_cons]
    cases line.isEmpty <;> simp [List.filter_cons]

/-- The text of a block gives the event of its lines that are not blank. -/
theorem blockEvent?_ended {lines : List (List UInt8)} (h : ∀ line ∈ lines, lineFeed ∉ line)
    {last : List UInt8} (hlast : lineFeed ∉ last) :
    blockEvent? (Text.decode (ended lines ++ last)) =
      groupEvent? ((lines ++ [last]).filter fun line => !line.isEmpty) := by
  have same : fieldOf = lineField := funext fieldOf_eq_lineField
  rw [blockEvent?, splitBy_decode_ended h hlast, event?_foldl_add, filter_givesField, same]
  rfl

end Mcp.EventStream
