import Mathlib.Data.List.Basic
import Mcp.Proofs.Message.RoundTrip

/-!
How a value is read as a message. The marks of an object choose one kind of message, or none
(`HasKind`); what the fields of that kind make is the message (`ReadAs`), and if they make none, the
value is refused and is read as no other kind. Main statements: `marks_decide`, for every value, and
`responses_answer`, about every response that is read from a text.
-/

namespace Mcp

open Json (Ordered unlessNull)

/-- The values that an id is read from. -/
inductive RequestId.From : Json → RequestId → Prop
  | number {n : Int} (range : Signed n) : From (.num (.int n)) (.number n)
  | text (s : String) : From (.str s) (.text s)

theorem RequestId.reader_eq_ok_iff {v : Json} {id : RequestId} :
    RequestId.reader v = .ok id ↔ RequestId.From v id := by
  constructor
  · intro read
    rw [reader_eq] at read
    split at read
    case h_1 number =>
      cases read
      obtain ⟨rfl, range⟩ := Json.Reader.signed_eq_ok_iff.mp number
      exact .number range
    case h_2 text =>
      cases read
      rw [Json.Reader.text_eq_ok_iff.mp text]
      exact .text _
    case h_3 => cases read
  · intro source
    cases source with
    | @number n range =>
      have fits : (RequestId.number n).Fits := range
      exact reader_toJson fits
    | text s => rfl

/-- The values that the id of a response is read from: null stands for none. -/
inductive RequestId.MaybeFrom : Json → Option RequestId → Prop
  | null : MaybeFrom .null none
  | given {v : Json} {id : RequestId} : From v id → MaybeFrom v (some id)

theorem RequestId.MaybeFrom.eq_none_iff {v : Json} {id : Option RequestId}
    (source : MaybeFrom v id) : id = none ↔ v = .null := by
  cases source with
  | null => simp
  | given source => cases source <;> simp

/-- The values that an error object is read from: an object with its members, or an array of them in
order. -/
inductive RpcError.From : Json → RpcError → Prop
  | object {members : List (String × Json)} {code : Int} {message : String} :
      Members.lookup members "code" = some (.num (.int code)) → Signed code →
      Members.lookup members "message" = some (.str message) →
      From (.obj members) ⟨code, message, unlessNull (Members.lookup members "data")⟩
  | array {code : Int} {message : String} {data : Json} : Signed code →
      From (.arr [.num (.int code), .str message, data]) ⟨code, message, unlessNull (some data)⟩

theorem RpcError.reader_array {code : Int} {message : String} {data : Json} (range : Signed code) :
    RpcError.reader (.arr [.num (.int code), .str message, data]) =
      .ok ⟨code, message, unlessNull (some data)⟩ := by
  have number : Json.Reader.signed (.num (.int code)) = .ok code :=
    Json.Reader.signed_eq_ok_iff.mpr ⟨rfl, range⟩
  have accepted : ∀ x ∈ record.rules.zip [.num (.int code), .str message, data],
      x.1.fault x.2 = none := by
    simp [record, Record.field, Record.pure, Field.rule, Field.required, Field.optional, number,
      Json.orNull_any, Json.Reader.text]
  have built : record.build [some (.num (.int code)), some (.str message), some data] =
      some (⟨code, message, unlessNull (some data)⟩, []) := by
    simp [record, Record.field, Record.pure, Field.value, Field.required, Field.optional, number,
      Except.toOption, Json.orNull_any, Json.Reader.text]
  show record.ofItems ("struct " ++ "JsonRpcError") "fewer elements in array" _ = _
  exact Record.ofItems_of_build rfl accepted built

theorem RpcError.reader_eq_ok_iff {v : Json} (ordered : Ordered v) {e : RpcError} :
    RpcError.reader v = .ok e ↔ RpcError.From v e := by
  constructor
  · intro read
    cases v with
    | obj members =>
      obtain ⟨-, -, rest, built⟩ := Record.ofMembers_eq_ok_iff.mp read
      obtain ⟨code, message, data, given, range, rfl⟩ := of_build built
      injection given with codeThere given
      injection given with messageThere given
      injection given with dataThere
      cases dataThere
      exact .object codeThere range messageThere
    | arr items =>
      have full := Record.length_of_ofItems (by simp [record, Record.field, Record.pure,
        Field.rule, Field.required, Field.optional]) read
      obtain ⟨rest, built⟩ := Record.build_of_ofItems read
      obtain ⟨a, b, c, rfl⟩ := List.length_eq_three.mp full
      obtain ⟨code, message, data, given, range, rfl⟩ := of_build built
      cases given
      exact .array range
    | null | bool | num | str => cases read
  · intro source
    cases source with
    | object codeThere range messageThere =>
      cases ordered with
      | obj ascending => exact reader_of_lookup ascending codeThere range messageThere
    | array range => exact reader_array range

theorem Request.reader_eq_ok_iff {members : List (String × Json)}
    (ascending : Members.Ascending members) {r : Request} :
    Request.reader (.obj members) = .ok r ↔ ∃ version source id method,
      Members.lookup members "jsonrpc" = some (.str version) ∧
      Members.lookup members "id" = some source ∧ RequestId.From source id ∧
      Members.lookup members "method" = some (.str method) ∧
      r = ⟨version, id, method, unlessNull (Members.lookup members "params")⟩ := by
  constructor
  · intro read
    obtain ⟨-, -, rest, built⟩ := Record.ofMembers_eq_ok_iff.mp read
    obtain ⟨version, source, id, method, params, given, idRead, rfl⟩ := of_build built
    injection given with versionThere given
    injection given with idThere given
    injection given with methodThere given
    injection given with paramsThere
    cases paramsThere
    exact ⟨version, source, id, method, versionThere, idThere, RequestId.reader_eq_ok_iff.mp idRead,
      methodThere, rfl⟩
  · rintro ⟨version, source, id, method, versionThere, idThere, fromSource, methodThere, rfl⟩
    have given : source = id.toJson ∧ id.Fits := by
      cases fromSource with
      | number range => exact ⟨rfl, range⟩
      | text => exact ⟨rfl, trivial⟩
    rw [given.1] at idThere
    exact reader_of_lookup ascending versionThere idThere given.2 methodThere

theorem Notification.reader_eq_ok_iff {members : List (String × Json)}
    (ascending : Members.Ascending members) {n : Notification} :
    Notification.reader (.obj members) = .ok n ↔ ∃ version method,
      Members.lookup members "jsonrpc" = some (.str version) ∧
      Members.lookup members "method" = some (.str method) ∧
      n = ⟨version, method, unlessNull (Members.lookup members "params")⟩ := by
  constructor
  · intro read
    obtain ⟨-, -, rest, built⟩ := Record.ofMembers_eq_ok_iff.mp read
    obtain ⟨version, method, params, given, rfl⟩ := of_build built
    injection given with versionThere given
    injection given with methodThere given
    injection given with paramsThere
    cases paramsThere
    exact ⟨version, method, versionThere, methodThere, rfl⟩
  · rintro ⟨version, method, versionThere, methodThere, rfl⟩
    exact reader_of_lookup ascending versionThere methodThere

namespace Message

/-! ### Kinds -/

/-- Something stands under a key. -/
def Has (members : List (String × Json)) (key : String) : Prop :=
  ∃ v, Members.lookup members key = some v

/-- Something but null stands under a key. -/
def HasSet (members : List (String × Json)) (key : String) : Prop :=
  ∃ v, Members.lookup members key = some v ∧ v ≠ .null

/-- What an object may be read as. -/
inductive Kind where
  | request
  | notification
  | failure
  | success
  deriving DecidableEq, Repr

/-- The kind that the marks of an object choose: a method makes a request or a notification,
whatever else there is, and an error that is set counts before a result. -/
inductive HasKind (members : List (String × Json)) : Kind → Prop
  | request : Has members "method" → HasSet members "id" → HasKind members .request
  | notification : Has members "method" → ¬ HasSet members "id" → HasKind members .notification
  | failure : ¬ Has members "method" → Has members "id" → HasSet members "error" →
      HasKind members .failure
  | success : ¬ Has members "method" → Has members "id" → ¬ HasSet members "error" →
      Has members "result" → HasKind members .success

/-- The message that the fields of a kind make. -/
inductive ReadAs (members : List (String × Json)) : Kind → Message → Prop
  | request {version method : String} {source : Json} {id : RequestId} :
      Members.lookup members "jsonrpc" = some (.str version) →
      Members.lookup members "id" = some source → RequestId.From source id →
      Members.lookup members "method" = some (.str method) →
      ReadAs members .request
        (.request ⟨version, id, method, unlessNull (Members.lookup members "params")⟩)
  | notification {version method : String} :
      Members.lookup members "jsonrpc" = some (.str version) →
      Members.lookup members "method" = some (.str method) →
      ReadAs members .notification
        (.notification ⟨version, method, unlessNull (Members.lookup members "params")⟩)
  | failure {source cause : Json} {id : Option RequestId} {e : RpcError} :
      Members.lookup members "id" = some source → RequestId.MaybeFrom source id →
      Members.lookup members "error" = some cause → RpcError.From cause e →
      ReadAs members .failure (.response ⟨jsonRpcVersion, id, none, some e⟩)
  | success {source result : Json} {id : Option RequestId} :
      Members.lookup members "id" = some source → RequestId.MaybeFrom source id →
      Members.lookup members "result" = some result →
      ReadAs members .success (.response ⟨jsonRpcVersion, id, some result, none⟩)

section Marks

variable {members : List (String × Json)} {key : String}

theorem contains_iff : Members.contains members key = true ↔ Has members key :=
  Option.isSome_iff_exists

theorem isNull_iff {v : Json} : v.isNull = true ↔ v = .null := by
  cases v <;> simp [Json.isNull]

theorem isSet_iff : isSet members key = true ↔ HasSet members key := by
  unfold isSet HasSet
  cases Members.lookup members key with
  | none => simp
  | some v => simp [← isNull_iff]

theorem ofJson_notObject {v : Json} (other : ∀ members, v ≠ .obj members) :
    ofJson v = .error (.protocol .notAnObject) := by
  cases v with
  | obj members => exact absurd rfl (other members)
  | null | bool | num | str | arr => rfl

theorem ofJson_method_id (method : Has members "method") (id : HasSet members "id") :
    ofJson (.obj members) = (unmarshal Request.reader (.obj members)).map .request := by
  simp only [ofJson, contains_iff.mpr method, isSet_iff.mpr id, Bool.and_self, if_true]

theorem ofJson_method (method : Has members "method") (id : ¬ HasSet members "id") :
    ofJson (.obj members) = (unmarshal Notification.reader (.obj members)).map .notification := by
  have unset : isSet members "id" = false := Bool.eq_false_iff.mpr (mt isSet_iff.mp id)
  simp only [ofJson, contains_iff.mpr method, unset, Bool.and_false, if_true, Bool.false_eq_true,
    if_false]

theorem ofJson_answer (method : ¬ Has members "method") (id : Has members "id")
    (answer : HasSet members "error" ∨ Has members "result") :
    ofJson (.obj members) = (readResponse members).map .response := by
  have absent : Members.contains members "method" = false :=
    Bool.eq_false_iff.mpr (mt contains_iff.mp method)
  have answered : (Members.contains members "result" || isSet members "error") = true := by
    rw [Bool.or_eq_true, contains_iff, isSet_iff]
    exact answer.symm
  simp only [ofJson, absent, contains_iff.mpr id, answered, Bool.false_and, Bool.false_eq_true,
    if_false, Bool.and_self, if_true]

end Marks

/-! ### Fields -/

section Fields

variable {α β : Type}

theorem map_eq_ok_iff {x : Except Error α} {f : α → β} {b : β} :
    x.map f = .ok b ↔ ∃ a, x = .ok a ∧ b = f a := by
  cases x with
  | error e => simp [Except.map]
  | ok a => simp [Except.map, eq_comm]

/-- A result that is no failure, or a failure to read a value. -/
def ReadsOrRefuses (x : Except Error α) : Prop :=
  ∀ e, x = .error e → ∃ fault, e = .serialization fault

theorem readsOrRefuses_ok (a : α) : ReadsOrRefuses (.ok a) := by
  intro e failed
  cases failed

theorem ReadsOrRefuses.map {x : Except Error α} (reads : ReadsOrRefuses x) (f : α → β) :
    ReadsOrRefuses (x.map f) := by
  intro e failed
  cases x with
  | error _ =>
    cases failed
    exact reads e rfl
  | ok a => cases failed

theorem ReadsOrRefuses.bind {x : Except Error α} (reads : ReadsOrRefuses x) {f : α → Except Error β}
    (next : ∀ a, ReadsOrRefuses (f a)) : ReadsOrRefuses (x.bind f) := by
  intro e failed
  cases x with
  | error _ =>
    cases failed
    exact reads e rfl
  | ok a => exact next a e failed

theorem unmarshal_reads (read : Json.Reader α) (v : Json) : ReadsOrRefuses (unmarshal read v) := by
  intro e failed
  unfold unmarshal at failed
  split at failed
  · cases failed
  · cases failed
    exact ⟨_, rfl⟩

theorem readSet_reads (members : List (String × Json)) (key : String) (read : Json.Reader α) :
    ReadsOrRefuses (readSet members key read) := by
  unfold readSet
  split
  · split
    · exact readsOrRefuses_ok none
    · exact (unmarshal_reads read _).map some
  · exact readsOrRefuses_ok none

theorem readResponse_reads (members : List (String × Json)) :
    ReadsOrRefuses (readResponse members) :=
  (readSet_reads members "id" _).bind fun _ =>
    (readSet_reads members "error" _).bind fun _ => readsOrRefuses_ok _

variable {members : List (String × Json)}

theorem readSet_id_iff (there : Has members "id") {id : Option RequestId} :
    readSet members "id" RequestId.reader = .ok id ↔
      ∃ source, Members.lookup members "id" = some source ∧ RequestId.MaybeFrom source id := by
  obtain ⟨source, found⟩ := there
  constructor
  · intro read
    refine ⟨source, found, ?_⟩
    rcases readSet_cases read with ⟨unset, rfl⟩ | ⟨w, id', found', -, known, rfl⟩
    · have null : source.isNull = true := by simpa [isSet, found] using unset
      rw [isNull_iff.mp null]
      exact .null
    · obtain rfl : source = w := Option.some.inj (found.symm.trans found')
      exact .given (RequestId.reader_eq_ok_iff.mp known)
  · rintro ⟨w, found', fromSource⟩
    obtain rfl : source = w := Option.some.inj (found.symm.trans found')
    cases fromSource with
    | null => exact readSet_unset (by simp [isSet, found, Json.isNull])
    | given fromSource =>
      have notNull : source.isNull = false := by cases fromSource <;> rfl
      exact readSet_set found notNull (RequestId.reader_eq_ok_iff.mpr fromSource)

theorem readSet_error_iff {cause : Json} (found : Members.lookup members "error" = some cause)
    (notNull : cause ≠ .null) (ordered : Ordered cause) {error : Option RpcError} :
    readSet members "error" RpcError.reader = .ok error ↔
      ∃ e, error = some e ∧ RpcError.From cause e := by
  have set : cause.isNull = false := Bool.eq_false_iff.mpr (mt isNull_iff.mp notNull)
  constructor
  · intro read
    rcases readSet_cases read with ⟨unset, -⟩ | ⟨w, e, found', -, known, rfl⟩
    · simp [isSet, found, set] at unset
    · obtain rfl : cause = w := Option.some.inj (found.symm.trans found')
      exact ⟨e, rfl, (RpcError.reader_eq_ok_iff ordered).mp known⟩
  · rintro ⟨e, rfl, fromCause⟩
    exact readSet_set found set ((RpcError.reader_eq_ok_iff ordered).mpr fromCause)

theorem readResponse_eq_ok_iff {r : Response} : readResponse members = .ok r ↔
    ∃ id error, readSet members "id" RequestId.reader = .ok id ∧
      readSet members "error" RpcError.reader = .ok error ∧
      r = ⟨jsonRpcVersion, id,
        if error.isNone then some (Json.ofOption (Members.lookup members "result")) else none,
        error⟩ := by
  constructor
  · intro read
    obtain ⟨id, idRead, afterId⟩ := of_bind_eq_ok read
    obtain ⟨error, errorRead, made⟩ := of_bind_eq_ok afterId
    cases made
    exact ⟨id, error, idRead, errorRead, rfl⟩
  · rintro ⟨id, error, idRead, errorRead, rfl⟩
    exact readResponse_eq_ok idRead errorRead

end Fields

/-! ### What a value is read as -/

/-- The marks of a value decide how it is read. -/
structure MarksDecide (v : Json) : Prop where
  notObject : (∀ members, v ≠ .obj members) → ofJson v = .error (.protocol .notAnObject)
  /-- An object of a kind is read as what its fields make. -/
  chosen {members : List (String × Json)} {kind : Kind} : v = .obj members →
    HasKind members kind → ∀ m, ofJson v = .ok m ↔ ReadAs members kind m
  /-- If they make nothing, it is refused for that. -/
  refused {members : List (String × Json)} {kind : Kind} : v = .obj members →
    HasKind members kind → ∀ e, ofJson v = .error e → ∃ fault, e = .serialization fault
  unmarked {members : List (String × Json)} : v = .obj members →
    (∀ kind, ¬ HasKind members kind) → ∃ fault, ofJson v = .error (.protocol fault)

section Decide

variable {members : List (String × Json)}

theorem HasKind.refuses {kind : Kind} (marked : HasKind members kind) :
    ReadsOrRefuses (ofJson (.obj members)) := by
  cases marked with
  | request method id =>
    rw [ofJson_method_id method id]
    exact (unmarshal_reads _ _).map _
  | notification method id =>
    rw [ofJson_method method id]
    exact (unmarshal_reads _ _).map _
  | failure method id error =>
    rw [ofJson_answer method id (.inl error)]
    exact (readResponse_reads members).map _
  | success method id _ result =>
    rw [ofJson_answer method id (.inr result)]
    exact (readResponse_reads members).map _

theorem HasKind.readAs (ordered : Ordered (.obj members)) {kind : Kind}
    (marked : HasKind members kind) (m : Message) :
    ofJson (.obj members) = .ok m ↔ ReadAs members kind m := by
  cases ordered with | obj ascending inside => ?_
  cases marked with
  | request method id =>
    rw [ofJson_method_id method id, map_eq_ok_iff]
    simp only [unmarshal_eq_ok_iff, Request.reader_eq_ok_iff ascending]
    constructor
    · rintro ⟨_, ⟨version, source, id, method, versionThere, idThere, fromSource, methodThere,
        rfl⟩, rfl⟩
      exact .request versionThere idThere fromSource methodThere
    · intro read
      cases read with
      | request versionThere idThere fromSource methodThere =>
        exact ⟨_, ⟨_, _, _, _, versionThere, idThere, fromSource, methodThere, rfl⟩, rfl⟩
  | notification method id =>
    rw [ofJson_method method id, map_eq_ok_iff]
    simp only [unmarshal_eq_ok_iff, Notification.reader_eq_ok_iff ascending]
    constructor
    · rintro ⟨_, ⟨version, method, versionThere, methodThere, rfl⟩, rfl⟩
      exact .notification versionThere methodThere
    · intro read
      cases read with
      | notification versionThere methodThere =>
        exact ⟨_, ⟨_, _, versionThere, methodThere, rfl⟩, rfl⟩
  | failure method id error =>
    obtain ⟨cause, causeThere, notNull⟩ := error
    have causeOrdered : Ordered cause := inside _ (Members.lookup_mem causeThere)
    rw [ofJson_answer method id (.inl ⟨cause, causeThere, notNull⟩), map_eq_ok_iff]
    simp only [readResponse_eq_ok_iff, readSet_id_iff id,
      readSet_error_iff causeThere notNull causeOrdered]
    constructor
    · rintro ⟨_, ⟨id, _, ⟨source, idThere, fromSource⟩, ⟨e, rfl, fromCause⟩, rfl⟩, rfl⟩
      exact .failure idThere fromSource causeThere fromCause
    · intro read
      cases read with
      | failure idThere fromSource causeThere' fromCause =>
        cases Option.some.inj (causeThere.symm.trans causeThere')
        exact ⟨_, ⟨_, _, ⟨_, idThere, fromSource⟩, ⟨_, rfl, fromCause⟩, rfl⟩, rfl⟩
  | success method id error result =>
    obtain ⟨value, valueThere⟩ := result
    have unset : readSet members "error" RpcError.reader = .ok none :=
      readSet_unset (Bool.eq_false_iff.mpr (mt isSet_iff.mp error))
    rw [ofJson_answer method id (.inr ⟨value, valueThere⟩), map_eq_ok_iff]
    simp only [readResponse_eq_ok_iff, readSet_id_iff id, unset, valueThere]
    constructor
    · rintro ⟨_, ⟨id, _, ⟨source, idThere, fromSource⟩, same, rfl⟩, rfl⟩
      cases same
      exact .success idThere fromSource valueThere
    · intro read
      cases read with
      | success idThere fromSource valueThere' =>
        cases Option.some.inj (valueThere.symm.trans valueThere')
        exact ⟨_, ⟨_, none, ⟨_, idThere, fromSource⟩, rfl, rfl⟩, rfl⟩

theorem ofJson_unmarked (unmarked : ∀ kind, ¬ HasKind members kind) :
    ∃ fault, ofJson (.obj members) = .error (.protocol fault) := by
  have method : ¬ Has members "method" := by
    intro method
    by_cases id : HasSet members "id"
    · exact unmarked _ (.request method id)
    · exact unmarked _ (.notification method id)
  have answer : ¬ (Has members "id" ∧ (Has members "result" ∨ HasSet members "error")) := by
    rintro ⟨id, answer⟩
    by_cases error : HasSet members "error"
    · exact unmarked _ (.failure method id error)
    · exact unmarked _ (.success method id error (answer.resolve_right error))
  have absent : Members.contains members "method" = false :=
    Bool.eq_false_iff.mpr (mt contains_iff.mp method)
  have unanswered : (Members.contains members "id" &&
      (Members.contains members "result" || isSet members "error")) = false := by
    rw [Bool.eq_false_iff]
    simpa only [ne_eq, Bool.and_eq_true, Bool.or_eq_true, contains_iff, isSet_iff] using answer
  refine ⟨.unclassifiable (isSet members "id") (Members.contains members "method")
    (Members.contains members "result") (isSet members "error"), ?_⟩
  simp only [ofJson, absent, unanswered, Bool.false_and, Bool.false_eq_true, if_false]

end Decide

/-- How a value is read is decided by its marks. -/
theorem marks_decide {v : Json} (ordered : Ordered v) : MarksDecide v where
  notObject := ofJson_notObject
  chosen := by
    rintro members kind rfl marked
    exact marked.readAs ordered
  refused := by
    rintro members kind rfl marked
    exact marked.refuses
  unmarked := by
    rintro members rfl
    exact ofJson_unmarked

/-- A method makes a notification of an object that has an error and a result as well, since the id
is null. -/
theorem marks_decide_hybrid :
    let members : List (String × Json) := [("error", .bool true), ("id", .null),
      ("jsonrpc", .str "2.0"), ("method", .str "ping"), ("result", .ofInt 1)]
    HasKind members .notification ∧
      ofJson (.obj members) = .ok (.notification ⟨"2.0", "ping", none⟩) := by
  intro members
  have ordered : Ordered (.obj members) := by
    refine .obj (by unfold Members.Ascending; decide) ?_
    simp only [members, List.forall_mem_cons]
    exact ⟨.bool _, .null, .str _, .str _, .num _, by simp⟩
  have marked : HasKind members .notification := by
    refine .notification ⟨_, rfl⟩ ?_
    rintro ⟨v, found, notNull⟩
    cases found
    exact notNull rfl
  exact ⟨marked, ((marks_decide ordered).chosen rfl marked _).mpr (.notification rfl rfl)⟩

/-! ### Responses -/

/-- A response that was read from an object. -/
structure AnswersFor (members : List (String × Json)) (r : Response) : Prop where
  one : (r.result.isSome ∧ r.error = none) ∨ (r.result = none ∧ r.error.isSome)
  error : r.error.isSome ↔ HasSet members "error"
  id : r.id = none ↔ Members.lookup members "id" = some .null
  /-- The only response with neither an id nor an error is the one that a result makes that stands
  beside a null id, with no error set. -/
  idless : (r.id = none ∧ r.error = none) ↔
    (Members.lookup members "id" = some .null ∧ ¬ HasSet members "error")

theorem HasKind.answersFor {members : List (String × Json)} {kind : Kind} {r : Response}
    (marked : HasKind members kind) (read : ReadAs members kind (.response r)) :
    AnswersFor members r := by
  have idOf {source : Json} {id : Option RequestId}
      (there : Members.lookup members "id" = some source)
      (fromSource : RequestId.MaybeFrom source id) :
      id = none ↔ Members.lookup members "id" = some .null := by
    rw [there, Option.some.injEq, fromSource.eq_none_iff]
  cases read with
  | failure idThere fromSource errorThere fromCause =>
    cases marked with
    | failure _ _ error =>
      exact ⟨.inr ⟨rfl, rfl⟩, ⟨fun _ => error, fun _ => rfl⟩, idOf idThere fromSource,
        by simp [error]⟩
  | success idThere fromSource resultThere =>
    cases marked with
    | success _ _ error _ =>
      exact ⟨.inl ⟨rfl, rfl⟩, by simp [error], idOf idThere fromSource,
        by simp [error, idOf idThere fromSource]⟩

/-- A response carries one answer, an error where one is set and a result otherwise, and lacks an id
exactly where the id is null, whatever it answers with. -/
theorem responses_answer {text : String} {r : Response} (read : parse text = .ok (.response r)) :
    ∃ members, Json.parse text = .ok (.obj members) ∧ AnswersFor members r := by
  unfold parse at read
  split at read
  case h_2 => cases read
  case h_1 v known =>
    have ordered := (Json.parse_within known).1
    cases v with
    | obj members =>
      refine ⟨members, known, ?_⟩
      by_cases marked : ∃ kind, HasKind members kind
      · obtain ⟨kind, marked⟩ := marked
        exact marked.answersFor ((marked.readAs ordered _).mp read)
      · obtain ⟨fault, failed⟩ := ofJson_unmarked (not_exists.mp marked)
        cases read.symm.trans failed
    | null | bool | num | str | arr => cases read

/-- An error without an id. -/
theorem responses_answer_error :
    ∃ members, Json.parse "\x7b\"error\":[1,\"e\",null],\"id\":null\x7d" = .ok (.obj members) ∧
      AnswersFor members ⟨jsonRpcVersion, none, none, some ⟨1, "e", none⟩⟩ := by
  refine responses_answer ?_
  rw [parse, Json.parse, Json.parseWithin]
  simp only [String.reduceToList]
  rfl

/-- A result beside a null id is read as a response that has no id and is no error. -/
theorem response_may_lack_id :
    ∃ r, parse "\x7b\"id\":null,\"result\":1\x7d" = .ok (.response r) ∧
      r.result = some (.ofInt 1) ∧ r.id = none ∧ r.error = none := by
  refine ⟨⟨jsonRpcVersion, none, some (.ofInt 1), none⟩, ?_, rfl, rfl, rfl⟩
  rw [parse, Json.parse, Json.parseWithin]
  simp only [String.reduceToList]
  rfl

end Message

end Mcp
