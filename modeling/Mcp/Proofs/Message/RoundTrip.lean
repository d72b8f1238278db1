import Mcp.Proofs.Json.ReadBack
import Mcp.Proofs.Message.Reading

/-! The round trip of messages. A message on a line of its own is read back, except that a null
among its optional fields comes back as nothing, and reading gives no such null; so a message that
was read comes back from its line as it is. -/

namespace Mcp

open Json (Ordered Whole Within unlessNull)

/-- The code is a signed integer of 64 bits, and the objects of the data are ordered. -/
structure RpcError.Fits (e : RpcError) : Prop where
  code : Signed e.code
  data : ∀ v ∈ e.data, Ordered v

def RpcError.withoutNull (e : RpcError) : RpcError := { e with data := unlessNull e.data }

namespace Message

/-- The messages that are built and read: ids and codes are signed integers of 64 bits, free values
are ordered, and a response has the version of the protocol and either a result or an error. -/
inductive Fits : Message → Prop where
  | request {r : Request} (id : r.id.Fits) (params : ∀ v ∈ r.params, Ordered v) : Fits (.request r)
  | notification {n : Notification} (params : ∀ v ∈ n.params, Ordered v) : Fits (.notification n)
  | result {id : Option RequestId} {v : Json} (fits : ∀ i ∈ id, i.Fits) (ordered : Ordered v) :
    Fits (.response ⟨jsonRpcVersion, id, some v, none⟩)
  | error {id : Option RequestId} {e : RpcError} (fits : ∀ i ∈ id, i.Fits) (error : e.Fits) :
    Fits (.response ⟨jsonRpcVersion, id, none, some e⟩)

/-- The message with nothing in place of null params or null error data. -/
def withoutNull : Message → Message
  | .request r => .request { r with params := unlessNull r.params }
  | .notification n => .notification { n with params := unlessNull n.params }
  | .response r => .response { r with error := r.error.map RpcError.withoutNull }

/-- The params, or the data of the error, are null. -/
def HasNull : Message → Prop
  | .request r => r.params = some .null
  | .notification n => n.params = some .null
  | .response r => ∃ e, r.error = some e ∧ e.data = some .null

theorem withoutNull_eq_self_iff {m : Message} : m.withoutNull = m ↔ ¬ m.HasNull := by
  cases m with
  | request r =>
    obtain ⟨version, id, method, params⟩ := r
    simp [withoutNull, HasNull, Json.unlessNull_eq_self_iff]
  | notification n =>
    obtain ⟨version, method, params⟩ := n
    simp [withoutNull, HasNull, Json.unlessNull_eq_self_iff]
  | response r =>
    obtain ⟨version, id, result, error⟩ := r
    cases error with
    | none => simp [withoutNull, HasNull]
    | some e =>
      obtain ⟨code, message, data⟩ := e
      simp [withoutNull, HasNull, RpcError.withoutNull, Json.unlessNull_eq_self_iff]

/-! ### Reading what was written -/

theorem isNull_toJson (id : RequestId) : id.toJson.isNull = false := by
  cases id <;> rfl

theorem ofJson_request {r : Request} (id : r.id.Fits) (params : ∀ v ∈ r.params, Ordered v) :
    ofJson r.toJson.canonical = .ok (.request { r with params := unlessNull r.params }) := by
  obtain ⟨kept, same, ascending, found⟩ := Json.canonical_present
    [("jsonrpc", some (.str r.version)), ("id", some r.id.toJson), ("method", some (.str r.method)),
      ("params", r.params)] (by simp)
  have versionThere : Members.lookup kept "jsonrpc" = some (.str r.version) := by
    rw [found]
    rfl
  have idThere : Members.lookup kept "id" = some r.id.toJson := by
    rw [found]
    simp [Members.lookup, RequestId.canonical_toJson]
  have methodThere : Members.lookup kept "method" = some (.str r.method) := by
    rw [found]
    rfl
  have paramsThere : Members.lookup kept "params" = r.params := by
    rw [found]
    simp [Members.lookup, Json.map_canonical_eq params]
  have read := Request.reader_of_lookup ascending versionThere idThere id methodThere
  rw [Request.toJson, same]
  simp only [ofJson, isSet, Members.contains, idThere, methodThere, isNull_toJson, Bool.not_false,
    Option.isSome_some, Bool.and_self, if_true]
  rw [unmarshal_eq_ok_iff.mpr read, paramsThere]
  rfl

theorem ofJson_notification {n : Notification} (params : ∀ v ∈ n.params, Ordered v) :
    ofJson n.toJson.canonical = .ok (.notification { n with params := unlessNull n.params }) := by
  obtain ⟨kept, same, ascending, found⟩ := Json.canonical_present
    [("jsonrpc", some (.str n.version)), ("method", some (.str n.method)), ("params", n.params)]
    (by simp)
  have versionThere : Members.lookup kept "jsonrpc" = some (.str n.version) := by
    rw [found]
    rfl
  have idAbsent : Members.lookup kept "id" = none := by
    rw [found]
    rfl
  have methodThere : Members.lookup kept "method" = some (.str n.method) := by
    rw [found]
    rfl
  have paramsThere : Members.lookup kept "params" = n.params := by
    rw [found]
    simp [Members.lookup, Json.map_canonical_eq params]
  have read := Notification.reader_of_lookup ascending versionThere methodThere
  rw [Notification.toJson, same]
  simp only [ofJson, isSet, Members.contains, idAbsent, methodThere, Option.isSome_some,
    Bool.and_false, if_true]
  rw [unmarshal_eq_ok_iff.mpr read, paramsThere]
  rfl

section

variable {α : Type} {members : List (String × Json)} {key : String} {read : Json.Reader α}

theorem readSet_unset (unset : isSet members key = false) :
    readSet members key read = .ok none := by
  unfold isSet at unset
  unfold readSet
  cases found : Members.lookup members key with
  | none => rfl
  | some v =>
    have null : v.isNull = true := by simpa [found] using unset
    simp [null]

theorem readSet_set {v : Json} {a : α} (there : Members.lookup members key = some v)
    (notNull : v.isNull = false) (fits : read v = .ok a) :
    readSet members key read = .ok (some a) := by
  simp [readSet, there, notNull, unmarshal_eq_ok_iff.mpr fits, Except.map]

/-- What a member was read as, or that it is not set. -/
theorem readSet_cases {a : Option α} (done : readSet members key read = .ok a) :
    (isSet members key = false ∧ a = none) ∨
      ∃ v b, Members.lookup members key = some v ∧ isSet members key = true ∧ read v = .ok b ∧
        a = some b := by
  unfold readSet at done
  unfold isSet
  cases found : Members.lookup members key with
  | none =>
    rw [found] at done
    cases done
    exact .inl ⟨rfl, rfl⟩
  | some v =>
    simp only [found] at done
    cases null : v.isNull with
    | true =>
      rw [null] at done
      cases done
      exact .inl ⟨by simp [null], rfl⟩
    | false =>
      rw [null] at done
      cases fits : unmarshal read v with
      | error e =>
        rw [fits] at done
        cases done
      | ok b =>
        rw [fits] at done
        cases done
        exact .inr ⟨v, b, rfl, by simp [null], unmarshal_eq_ok_iff.mp fits, rfl⟩

end

theorem readResponse_eq_ok {members : List (String × Json)} {id : Option RequestId}
    {error : Option RpcError} (idRead : readSet members "id" RequestId.reader = .ok id)
    (errorRead : readSet members "error" RpcError.reader = .ok error) :
    readResponse members =
      .ok ⟨jsonRpcVersion, id,
        if error.isNone then some (Json.ofOption (Members.lookup members "result")) else none,
        error⟩ := by
  rw [readResponse, idRead, errorRead]
  rfl

theorem readSet_id {members : List (String × Json)} {id : Option RequestId}
    (fits : ∀ i ∈ id, i.Fits)
    (there : Members.lookup members "id" = some (Json.ofOption (id.map RequestId.toJson))) :
    readSet members "id" RequestId.reader = .ok id := by
  cases id with
  | none =>
    refine readSet_unset ?_
    rw [isSet, there]
    rfl
  | some i => exact readSet_set there (isNull_toJson i) (RequestId.reader_toJson (fits i rfl))

theorem canonical_id (id : Option RequestId) :
    (Json.ofOption (id.map RequestId.toJson)).canonical =
      Json.ofOption (id.map RequestId.toJson) := by
  cases id with
  | none => rfl
  | some i => exact i.canonical_toJson

theorem ofJson_result {id : Option RequestId} {v : Json} (fits : ∀ i ∈ id, i.Fits)
    (ordered : Ordered v) :
    ofJson (Response.toJson ⟨jsonRpcVersion, id, some v, none⟩).canonical =
      .ok (.response ⟨jsonRpcVersion, id, some v, none⟩) := by
  obtain ⟨kept, same, ascending, found⟩ := Json.canonical_present
    [("jsonrpc", some (.str jsonRpcVersion)),
      ("id", some (Json.ofOption (id.map RequestId.toJson))), ("result", some v), ("error", none)]
    (by simp)
  have idThere : Members.lookup kept "id" = some (Json.ofOption (id.map RequestId.toJson)) := by
    rw [found]
    simp [Members.lookup, canonical_id]
  have methodAbsent : Members.lookup kept "method" = none := by
    rw [found]
    rfl
  have resultThere : Members.lookup kept "result" = some v := by
    rw [found]
    simp [Members.lookup, ordered.canonical_eq]
  have errorAbsent : Members.lookup kept "error" = none := by
    rw [found]
    rfl
  have errorRead : readSet kept "error" RpcError.reader = .ok none :=
    readSet_unset (by rw [isSet, errorAbsent])
  have read := readResponse_eq_ok (readSet_id fits idThere) errorRead
  rw [resultThere] at read
  show ofJson (Json.obj (Json.present _)).canonical = _
  simp only [Option.map_none, same]
  simp [ofJson, Members.contains, methodAbsent, idThere, resultThere, read]
  rfl

theorem RpcError.reader_written {e : RpcError} (fits : e.Fits) :
    RpcError.reader e.toJson.canonical = .ok e.withoutNull := by
  obtain ⟨kept, same, ascending, found⟩ := Json.canonical_present
    [("code", some (.ofInt e.code)), ("message", some (.str e.message)), ("data", e.data)]
    (by simp)
  have codeThere : Members.lookup kept "code" = some (.ofInt e.code) := by
    rw [found]
    rfl
  have messageThere : Members.lookup kept "message" = some (.str e.message) := by
    rw [found]
    rfl
  have dataThere : Members.lookup kept "data" = e.data := by
    rw [found]
    simp [Members.lookup, Json.map_canonical_eq fits.data]
  rw [RpcError.toJson, same, RpcError.reader_of_lookup ascending codeThere fits.code messageThere,
    dataThere]
  rfl

theorem ofJson_error {id : Option RequestId} {e : RpcError} (fits : ∀ i ∈ id, i.Fits)
    (error : e.Fits) :
    ofJson (Response.toJson ⟨jsonRpcVersion, id, none, some e⟩).canonical =
      .ok (.response ⟨jsonRpcVersion, id, none, some e.withoutNull⟩) := by
  obtain ⟨kept, same, ascending, found⟩ := Json.canonical_present
    [("jsonrpc", some (.str jsonRpcVersion)),
      ("id", some (Json.ofOption (id.map RequestId.toJson))), ("result", none),
      ("error", some e.toJson)] (by simp)
  have idThere : Members.lookup kept "id" = some (Json.ofOption (id.map RequestId.toJson)) := by
    rw [found]
    simp [Members.lookup, canonical_id]
  have methodAbsent : Members.lookup kept "method" = none := by
    rw [found]
    rfl
  have errorThere : Members.lookup kept "error" = some e.toJson.canonical := by
    rw [found]
    rfl
  have errorSet : e.toJson.canonical.isNull = false := rfl
  have errorRead : readSet kept "error" RpcError.reader = .ok (some e.withoutNull) :=
    readSet_set errorThere errorSet (RpcError.reader_written error)
  have read := readResponse_eq_ok (readSet_id fits idThere) errorRead
  show ofJson (Json.obj (Json.present _)).canonical = _
  simp only [Option.map_some, same]
  simp [ofJson, isSet, Members.contains, methodAbsent, idThere, errorThere, errorSet, read]
  rfl

/-- A message is read back from its value with ordered objects. -/
theorem Fits.ofJson_canonical {m : Message} (fits : Fits m) :
    ofJson m.toJson.canonical = .ok m.withoutNull := by
  cases fits with
  | request id params => exact ofJson_request id params
  | notification params => exact ofJson_notification params
  | result id ordered => exact ofJson_result id ordered
  | error id error => exact ofJson_error id error

/-- A message is read back from its line. -/
theorem Fits.parse_line {m : Message} (fits : Fits m) (whole : Whole m.toJson)
    (shallow : m.toJson.depth ≤ Json.levelLimit) : parse m.line = .ok m.withoutNull := by
  rw [parse, line, whole.parse_line shallow]
  exact fits.ofJson_canonical

/-! ### What reading gives -/

/-- What is promised of a message that was read from a value with so many levels. -/
structure Given (levels : Nat) (m : Message) : Prop where
  fits : m.Fits
  noNull : ¬ m.HasNull
  shallow : m.toJson.depth ≤ levels

theorem depth_id (id : RequestId) : id.toJson.depth = 0 := by
  cases id <;> rfl

theorem depth_ofOption_id (id : Option RequestId) :
    (Json.ofOption (id.map RequestId.toJson)).depth = 0 := by
  cases id with
  | none => rfl
  | some i => exact depth_id i

theorem given_request {levels : Nat} {v : Json} {r : Request} (within : Within (levels + 1) v)
    (read : Request.reader v = .ok r) : Given (levels + 1) (.request r) := by
  obtain ⟨id, params⟩ := Request.of_reader read
  have kept (w : Json) (inside : w ∈ r.params) := params.within w inside levels within
  refine ⟨.request id fun w inside => (kept w inside).1, params.notNull, Json.depth_present ?_⟩
  have shallow (w : Json) (inside : r.params = some w) := (kept w inside).2
  simpa [Json.depth, depth_id] using shallow

theorem given_notification {levels : Nat} {v : Json} {n : Notification}
    (within : Within (levels + 1) v) (read : Notification.reader v = .ok n) :
    Given (levels + 1) (.notification n) := by
  have params := Notification.of_reader read
  have kept (w : Json) (inside : w ∈ n.params) := params.within w inside levels within
  refine ⟨.notification fun w inside => (kept w inside).1, params.notNull, Json.depth_present ?_⟩
  have shallow (w : Json) (inside : n.params = some w) := (kept w inside).2
  simpa [Json.depth] using shallow

theorem given_result {levels : Nat} {id : Option RequestId} {v : Json} (within : Within levels v)
    (fits : ∀ i ∈ id, i.Fits) :
    Given (levels + 1) (.response ⟨jsonRpcVersion, id, some v, none⟩) := by
  refine ⟨.result fits within.1, by simp [HasNull], Json.depth_present ?_⟩
  simpa [Json.depth, depth_ofOption_id] using within.2

theorem given_error {levels : Nat} {id : Option RequestId} {v : Json} {e : RpcError}
    (within : Within (levels + 1) v) (read : RpcError.reader v = .ok e) (fits : ∀ i ∈ id, i.Fits) :
    Given (levels + 2) (.response ⟨jsonRpcVersion, id, none, some e⟩) := by
  obtain ⟨code, data⟩ := RpcError.of_reader read
  have kept (w : Json) (inside : w ∈ e.data) := data.within w inside levels within
  have ofError : e.toJson.depth ≤ levels + 1 := by
    refine Json.depth_present ?_
    have shallow (w : Json) (inside : e.data = some w) := (kept w inside).2
    simpa [Json.depth, Json.ofInt] using shallow
  refine ⟨.error fits ⟨code, fun w inside => (kept w inside).1⟩, ?_, Json.depth_present ?_⟩
  · rintro ⟨other, same, null⟩
    cases same
    exact data.notNull null
  · simpa [Json.depth, depth_ofOption_id] using ofError

theorem given_readResponse {levels : Nat} {members : List (String × Json)} {r : Response}
    (within : Within (levels + 2) (.obj members)) (read : readResponse members = .ok r) :
    Given (levels + 2) (.response r) := by
  obtain ⟨id, idRead, afterId⟩ := of_bind_eq_ok read
  obtain ⟨error, errorRead, made⟩ := of_bind_eq_ok afterId
  have fits : ∀ i ∈ id, i.Fits := by
    rcases readSet_cases idRead with ⟨_, rfl⟩ | ⟨_, i, _, _, known, rfl⟩
    · intro i nowhere
      cases nowhere
    · intro j same
      cases same
      exact RequestId.fits_of_reader known
  cases made
  rcases readSet_cases errorRead with ⟨_, rfl⟩ | ⟨v, e, there, _, known, rfl⟩
  · refine given_result ?_ fits
    cases found : Members.lookup members "result" with
    | none => exact ⟨.null, Nat.zero_le _⟩
    | some v => exact within.member found
  · exact given_error (within.member there) known fits

theorem given_ofJson {levels : Nat} {v : Json} {m : Message} (within : Within (levels + 2) v)
    (read : ofJson v = .ok m) : Given (levels + 2) m := by
  cases v with
  | obj members =>
    unfold ofJson at read
    dsimp only at read
    split at read
    · obtain ⟨r, done, rfl⟩ := of_map_eq_ok read
      exact given_request within (unmarshal_eq_ok_iff.mp done)
    split at read
    · obtain ⟨n, done, rfl⟩ := of_map_eq_ok read
      exact given_notification within (unmarshal_eq_ok_iff.mp done)
    split at read
    · obtain ⟨r, done, rfl⟩ := of_map_eq_ok read
      exact given_readResponse within done
    · cases read
  | _ => cases read

/-- A message that was read is one that can be read back: it fits, it has no null where nothing
would do, and it has at most 127 levels. -/
theorem given_parse {text : String} {m : Message} (read : parse text = .ok m) :
    Given Json.levelLimit m := by
  unfold parse at read
  split at read
  case h_1 v parsed => exact given_ofJson (Json.parse_within parsed) read
  case h_2 => cases read

/-! ### The round trip -/

/-- A message that is built from its parts, or that was read from a text. The ids and codes of the
parts are signed integers of 64 bits, and the objects of their free values are ordered. -/
inductive Origin : Message → Prop where
  | request {id : RequestId} (fits : id.Fits) (method : String) {params : Option Json}
    (ordered : ∀ v ∈ params, Ordered v) : Origin (.request (.new id method params))
  | notification (method : String) {params : Option Json} (ordered : ∀ v ∈ params, Ordered v) :
    Origin (.notification (.new method params))
  | success {id : RequestId} (fits : id.Fits) {result : Json} (ordered : Ordered result) :
    Origin (.response (.success id result))
  | failure {id : Option RequestId} (fits : ∀ i ∈ id, i.Fits) {e : RpcError} (error : e.Fits) :
    Origin (.response (.failure id e))
  | parsed {text : String} {m : Message} (read : parse text = .ok m) : Origin m

theorem Origin.fits {m : Message} (origin : Origin m) : m.Fits := by
  cases origin with
  | request fits method ordered => exact .request fits ordered
  | notification method ordered => exact .notification ordered
  | success fits ordered =>
    refine .result (fun i same => ?_) ordered
    cases same
    exact fits
  | failure fits error => exact .error fits error
  | parsed read => exact (given_parse read).fits

theorem count_lineFeed_line {m : Message} (whole : Whole m.toJson) :
    m.line.toList.count '\n' = 1 := by
  have clean := List.count_eq_zero.mpr whole.lineFeed_not_mem
  rw [line, String.toList_ofList, List.count_append, clean]
  rfl

theorem getLast?_line (m : Message) : m.line.toList.getLast? = some '\n' := by
  rw [line, String.toList_ofList, List.getLast?_concat]

/-- A message that was read comes back from its line, however deep it is. -/
theorem parse_line_of_parse {text : String} {m : Message} (read : parse text = .ok m)
    (whole : Whole m.toJson) : parse m.line = .ok m := by
  have given := given_parse read
  rw [given.fits.parse_line whole given.shallow, withoutNull_eq_self_iff.mpr given.noNull]

/-- What becomes of a message that is written on a line and read again. -/
structure Returns (m : Message) : Prop where
  /-- There is one line feed, and it is the last character. -/
  oneLine : m.line.toList.count '\n' = 1 ∧ m.line.toList.getLast? = some '\n'
  /-- The message comes back with nothing in place of null params or null error data. -/
  back : parse m.line = .ok m.withoutNull
  /-- It comes back as it is unless its params or its error data are null. -/
  same : parse m.line = .ok m ↔ ¬ m.HasNull
  /-- A message that was read has no such null and comes back as it is. -/
  again : ∀ text, parse text = .ok m → ¬ m.HasNull ∧ parse m.line = .ok m

/-- Every message whose numbers are integers of 64 bits and which has at most 127 levels makes the
round trip. -/
theorem lines_round_trip {m : Message} (origin : Origin m) (whole : Whole m.toJson)
    (shallow : m.toJson.depth ≤ Json.levelLimit) : Returns m := by
  have back := origin.fits.parse_line whole shallow
  have same : parse m.line = .ok m ↔ ¬ m.HasNull := by
    rw [back, Except.ok.injEq]
    exact withoutNull_eq_self_iff
  refine ⟨⟨count_lineFeed_line whole, getLast?_line m⟩, back, same, ?_⟩
  intro text read
  exact ⟨(given_parse read).noNull, parse_line_of_parse read whole⟩

/-- A call whose params hold a line feed, a negative number and an empty array. -/
theorem lines_round_trip_call :
    Returns (.request (.new (.number 7) "tools/call"
      (some (.obj [("lines", .str "a\nb"), ("shift", .ofInt (-12)), ("tags", .arr [])])))) := by
  have ordered : Ordered (.obj [("lines", .str "a\nb"), ("shift", .ofInt (-12)),
      ("tags", .arr [])]) := by
    refine .obj (by unfold Members.Ascending; decide) ?_
    simp only [List.forall_mem_cons]
    exact ⟨.str _, .num _, .arr (by simp), by simp⟩
  have whole : Whole (.obj [("lines", .str "a\nb"), ("shift", .ofInt (-12)),
      ("tags", .arr [])]) := by
    refine .obj ?_
    simp only [List.forall_mem_cons]
    exact ⟨.str _, .int (by decide) (by decide), .arr (by simp), by simp⟩
  have fits : (RequestId.number 7).Fits := show Signed 7 by decide
  refine lines_round_trip (.request fits "tools/call" ?_) (.obj ?_) (by decide)
  · intro v same
    cases same
    exact ordered
  · simp only [Request.new, Json.present, List.filterMap_cons, List.filterMap_nil,
      Option.map_some, List.forall_mem_cons]
    exact ⟨.str _, .int (by decide) (by decide), .str _, whole, by simp⟩

end Message

end Mcp
