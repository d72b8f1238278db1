import Mcp.Message.Parser
import Mcp.Proofs.Json.Parsed
import Mcp.Proofs.Record

/-! The parts of a message by themselves: ids, error objects, requests and notifications are read
back from what they are written as, without the nulls of their optional fields, and what is read
has integers of 64 bits, ordered objects and no such null. -/

namespace Mcp

open Json (Ordered Within unlessNull)

/-- The signed integers of 64 bits. -/
def Signed (n : Int) : Prop := -0x8000000000000000 ≤ n ∧ n < 0x8000000000000000

instance (n : Int) : Decidable (Signed n) := by unfold Signed; infer_instance

theorem Json.Reader.signed_eq_ok_iff {v : Json} {n : Int} :
    Json.Reader.signed v = .ok n ↔ v = .num (.int n) ∧ Signed n := by
  unfold Json.Reader.signed
  split
  case h_1 m =>
    split
    case isTrue range =>
      simp only [Except.ok.injEq, Json.num.injEq, Json.Number.int.injEq]
      constructor
      · intro same
        exact ⟨same, same ▸ range⟩
      · exact And.left
    case isFalse outside =>
      simp only [reduceCtorEq, Json.num.injEq, Json.Number.int.injEq, false_iff, not_and]
      rintro rfl range
      exact outside range
  case h_2 other =>
    simp only [Json.Reader.refuse, reduceCtorEq, false_iff, not_and]
    intro same
    exact absurd same (other n)

theorem Json.Reader.text_eq_ok_iff {v : Json} {s : String} :
    Json.Reader.text v = .ok s ↔ v = .str s := by
  cases v <;> simp [Json.Reader.text, Json.Reader.refuse]

theorem unmarshal_eq_ok_iff {α : Type} {read : Json.Reader α} {v : Json} {a : α} :
    unmarshal read v = .ok a ↔ read v = .ok a := by
  unfold unmarshal
  cases read v <;> simp

/-- The values that a record was read from are parts of the value that it was read from. -/
theorem Json.record_given {α : Type} {type : String} {r : Record Json α} {v : Json} {a : α}
    (read : Json.record type r v = .ok a) :
    ∃ given rest, r.build given = some (a, rest) ∧
      ∀ part, some part ∈ given → ∀ levels, Within (levels + 1) v → Within levels part := by
  cases v with
  | obj members =>
    obtain ⟨_, _, rest, built⟩ := Record.ofMembers_eq_ok_iff.mp read
    refine ⟨_, rest, built, ?_⟩
    intro part given levels within
    obtain ⟨rule, _, found⟩ := List.mem_map.mp given
    exact within.member found
  | arr items =>
    obtain ⟨rest, built⟩ := Record.build_of_ofItems read
    refine ⟨_, rest, built, ?_⟩
    intro part given levels within
    have inside : part ∈ items := by simpa using given
    exact within.item inside
  | _ => cases read

/-! ### Ids -/

namespace RequestId

/-- A number is a signed integer of 64 bits. -/
def Fits : RequestId → Prop
  | .number n => Signed n
  | .text _ => True

/-- An id is read from a number if it is one that fits, and from a text otherwise. -/
theorem reader_eq (v : Json) :
    reader v =
      match Json.Reader.signed v, Json.Reader.text v with
      | .ok n, _ => .ok (.number n)
      | .error _, .ok s => .ok (.text s)
      | .error _, .error _ => .error (.noVariant "RequestId") := by
  unfold reader Json.Reader.firstOf
  cases number : Json.Reader.signed v <;> cases text : Json.Reader.text v <;>
    simp [number, text, Except.map, Except.toOption]

theorem reader_toJson {id : RequestId} (fits : id.Fits) : reader id.toJson = .ok id := by
  cases id with
  | number n =>
    have number : Json.Reader.signed (toJson (.number n)) = .ok n :=
      Json.Reader.signed_eq_ok_iff.mpr ⟨rfl, fits⟩
    rw [reader_eq, number]
  | text s => rfl

theorem fits_of_reader {v : Json} {id : RequestId} (read : reader v = .ok id) : id.Fits := by
  rw [reader_eq] at read
  split at read
  case h_1 signed =>
    cases read
    exact (Json.Reader.signed_eq_ok_iff.mp signed).2
  case h_2 =>
    cases read
    exact trivial
  case h_3 => cases read

theorem canonical_toJson (id : RequestId) : id.toJson.canonical = id.toJson := by
  cases id <;> rfl

end RequestId

/-! ### Error objects, requests and notifications -/

section

variable {given rest : List (Option Json)}

/-- The values that an error object is made from. -/
theorem RpcError.of_build {e : RpcError} (built : record.build given = some (e, rest)) :
    ∃ code message data,
      given = some (.num (.int code)) :: some (.str message) :: data :: rest ∧
      Signed code ∧ e = ⟨code, message, unlessNull data⟩ := by
  obtain ⟨_, data, toMessage, rfl⟩ := Record.build_optional built
  obtain ⟨_, _, message, toCode, messageRead, rfl⟩ := Record.build_required toMessage
  obtain ⟨_, _, code, start, codeRead, rfl⟩ := Record.build_required toCode
  obtain ⟨rfl, rfl⟩ := Record.build_pure start
  obtain ⟨rfl, range⟩ := Json.Reader.signed_eq_ok_iff.mp codeRead
  obtain rfl := Json.Reader.text_eq_ok_iff.mp messageRead
  exact ⟨code, message, data, rfl, range, rfl⟩

theorem Request.of_build {r : Request} (built : record.build given = some (r, rest)) :
    ∃ version source id method params,
      given = some (.str version) :: some source :: some (.str method) :: params :: rest ∧
      RequestId.reader source = .ok id ∧ r = ⟨version, id, method, unlessNull params⟩ := by
  obtain ⟨_, params, toMethod, rfl⟩ := Record.build_optional built
  obtain ⟨_, _, method, toId, methodRead, rfl⟩ := Record.build_required toMethod
  obtain ⟨_, source, id, toVersion, idRead, rfl⟩ := Record.build_required toId
  obtain ⟨_, _, version, start, versionRead, rfl⟩ := Record.build_required toVersion
  obtain ⟨rfl, rfl⟩ := Record.build_pure start
  obtain rfl := Json.Reader.text_eq_ok_iff.mp versionRead
  obtain rfl := Json.Reader.text_eq_ok_iff.mp methodRead
  exact ⟨version, source, id, method, params, rfl, idRead, rfl⟩

theorem Notification.of_build {n : Notification} (built : record.build given = some (n, rest)) :
    ∃ version method params,
      given = some (.str version) :: some (.str method) :: params :: rest ∧
      n = ⟨version, method, unlessNull params⟩ := by
  obtain ⟨_, params, toMethod, rfl⟩ := Record.build_optional built
  obtain ⟨_, _, method, toVersion, methodRead, rfl⟩ := Record.build_required toMethod
  obtain ⟨_, _, version, start, versionRead, rfl⟩ := Record.build_required toVersion
  obtain ⟨rfl, rfl⟩ := Record.build_pure start
  obtain rfl := Json.Reader.text_eq_ok_iff.mp versionRead
  obtain rfl := Json.Reader.text_eq_ok_iff.mp methodRead
  exact ⟨version, method, params, rfl, rfl⟩

end

section

variable {members : List (String × Json)} (ascending : Members.Ascending members)

include ascending

theorem RpcError.reader_of_lookup {code : Int} {message : String}
    (codeThere : Members.lookup members "code" = some (.ofInt code)) (range : Signed code)
    (messageThere : Members.lookup members "message" = some (.str message)) :
    RpcError.reader (.obj members) =
      .ok ⟨code, message, unlessNull (Members.lookup members "data")⟩ := by
  have number : Json.Reader.signed (.ofInt code) = .ok code :=
    Json.Reader.signed_eq_ok_iff.mpr ⟨rfl, range⟩
  have first := (Record.gives_pure members RpcError.mk).required codeThere number
  have second := first.required messageThere (Json.Reader.text_eq_ok_iff.mpr rfl)
  exact (second.optional "data").ofMembers ascending

theorem Request.reader_of_lookup {version method : String} {id : RequestId}
    (versionThere : Members.lookup members "jsonrpc" = some (.str version))
    (idThere : Members.lookup members "id" = some id.toJson) (fits : id.Fits)
    (methodThere : Members.lookup members "method" = some (.str method)) :
    Request.reader (.obj members) =
      .ok ⟨version, id, method, unlessNull (Members.lookup members "params")⟩ := by
  have first := (Record.gives_pure members Request.mk).required versionThere
    (Json.Reader.text_eq_ok_iff.mpr rfl)
  have second := first.required idThere (RequestId.reader_toJson fits)
  have third := second.required methodThere (Json.Reader.text_eq_ok_iff.mpr rfl)
  exact (third.optional "params").ofMembers ascending

theorem Notification.reader_of_lookup {version method : String}
    (versionThere : Members.lookup members "jsonrpc" = some (.str version))
    (methodThere : Members.lookup members "method" = some (.str method)) :
    Notification.reader (.obj members) =
      .ok ⟨version, method, unlessNull (Members.lookup members "params")⟩ := by
  have first := (Record.gives_pure members Notification.mk).required versionThere
    (Json.Reader.text_eq_ok_iff.mpr rfl)
  have second := first.required methodThere (Json.Reader.text_eq_ok_iff.mpr rfl)
  exact (second.optional "params").ofMembers ascending

end

/-- An optional part of a message as reading leaves it: it is not null, and it is a part of what
the message was read from. -/
structure ReadFrom (v : Json) (part : Option Json) : Prop where
  notNull : part ≠ some .null
  within : ∀ w ∈ part, ∀ levels, Within (levels + 1) v → Within levels w

theorem readFrom_unlessNull {v : Json} {slot : Option Json}
    (inside : ∀ w ∈ slot, ∀ levels, Within (levels + 1) v → Within levels w) :
    ReadFrom v (unlessNull slot) where
  notNull := Json.unlessNull_ne_null slot
  within w place := inside w (Json.mem_of_mem_unlessNull place)

theorem RpcError.of_reader {v : Json} {e : RpcError} (read : RpcError.reader v = .ok e) :
    Signed e.code ∧ ReadFrom v e.data := by
  obtain ⟨_, rest, built, parts⟩ := Json.record_given read
  obtain ⟨code, message, data, rfl, range, rfl⟩ := of_build built
  refine ⟨range, readFrom_unlessNull ?_⟩
  intro w slot
  exact parts w (by simp [show data = some w from slot])

theorem Request.of_reader {v : Json} {r : Request} (read : Request.reader v = .ok r) :
    r.id.Fits ∧ ReadFrom v r.params := by
  obtain ⟨_, rest, built, parts⟩ := Json.record_given read
  obtain ⟨version, source, id, method, params, rfl, idRead, rfl⟩ := of_build built
  refine ⟨RequestId.fits_of_reader idRead, readFrom_unlessNull ?_⟩
  intro w slot
  exact parts w (by simp [show params = some w from slot])

theorem Notification.of_reader {v : Json} {n : Notification}
    (read : Notification.reader v = .ok n) : ReadFrom v n.params := by
  obtain ⟨_, rest, built, parts⟩ := Json.record_given read
  obtain ⟨version, method, params, rfl, rfl⟩ := of_build built
  refine readFrom_unlessNull ?_
  intro w slot
  exact parts w (by simp [show params = some w from slot])

end Mcp
