import Mcp.Error
import Mcp.Proofs.Json.Wire
import Mcp.Schema.Handshake
import Mcp.Schema.Logging
import Mcp.Schema.Prompt
import Mcp.Schema.Resource
import Mcp.Schema.Root
import Mcp.Schema.Tool

/-! The round trip of the schema: a value of any of its types that was read from JSON is read again
from what it is written as. The `wire` of a type is how it is read and written, and which of its
fields are optional and take any JSON; the proof for a record goes over its fields in the order in
which it is put together. Main statement: `unmarshal_written`. -/

namespace Mcp.Schema

open Json (Ordered Wire)
open Json.Wire (faithful_any faithful_boolean faithful_firstOf faithful_record faithful_tagged
  faithful_text)
open Mcp.Field (faithful_anything faithful_optional faithful_required faithful_withDefault)
open Mcp.Record (Keeps)

/-! ### The handshake -/

def Implementation.wire : Wire Implementation := ⟨reader, toJson, fun _ => []⟩

theorem Implementation.faithful : wire.Faithful :=
  faithful_record rfl (by decide) <|
    Keeps.pure (by intros; exact ⟨rfl, nofun⟩)
      |>.field (faithful_required faithful_text)
      |>.field (faithful_required faithful_text)

def RootsCapability.wire : Wire RootsCapability := ⟨reader, toJson, fun _ => []⟩

theorem RootsCapability.faithful : wire.Faithful :=
  faithful_record rfl (by decide) <|
    Keeps.pure (by intros; exact ⟨rfl, nofun⟩)
      |>.field (faithful_optional faithful_boolean fun _ => rfl)

def ClientCapabilities.wire : Wire ClientCapabilities :=
  ⟨reader, toJson, fun c => [c.experimental, c.sampling]⟩

theorem ClientCapabilities.faithful : wire.Faithful :=
  faithful_record rfl (by decide) <|
    Keeps.pure (by
      intro experimental first roots _ sampling second
      exact ⟨rfl, by simpa [wire] using ⟨first, second⟩⟩)
      |>.field faithful_anything
      |>.field (faithful_optional RootsCapability.faithful fun _ => rfl)
      |>.field faithful_anything

def ServerCapabilities.wire : Wire ServerCapabilities :=
  ⟨reader, toJson, fun c => [c.experimental, c.logging, c.prompts, c.resources, c.tools]⟩

theorem ServerCapabilities.faithful : wire.Faithful :=
  faithful_record rfl (by decide) <|
    Keeps.pure (by
      intro experimental first logging second prompts third resources fourth tools fifth
      exact ⟨rfl, by simpa [wire] using ⟨first, second, third, fourth, fifth⟩⟩)
      |>.field faithful_anything
      |>.field faithful_anything
      |>.field faithful_anything
      |>.field faithful_anything
      |>.field faithful_anything

def Offer.wire : Wire Offer :=
  ⟨reader, toJson, fun o => ClientCapabilities.wire.untyped o.capabilities⟩

theorem Offer.faithful : wire.Faithful :=
  faithful_record rfl (by decide) <|
    Keeps.pure (by
      intro version _ capabilities settled clientInfo _
      exact ⟨rfl, settled.sound⟩)
      |>.field (faithful_required faithful_text)
      |>.field (faithful_required ClientCapabilities.faithful)
      |>.field (faithful_required Implementation.faithful)

def Agreement.wire : Wire Agreement :=
  ⟨reader, toJson, fun a => ServerCapabilities.wire.untyped a.capabilities⟩

theorem Agreement.faithful : wire.Faithful :=
  faithful_record rfl (by decide) <|
    Keeps.pure (by
      intro version _ capabilities settled serverInfo _ instructions _
      exact ⟨rfl, settled.sound⟩)
      |>.field (faithful_required faithful_text)
      |>.field (faithful_withDefault ServerCapabilities.faithful
        ⟨rfl, by simp [ServerCapabilities.wire, ServerCapabilities.none]⟩)
      |>.field (faithful_required Implementation.faithful)
      |>.field (faithful_optional faithful_text fun _ => rfl)

/-! ### Pages -/

def PageRequest.wire : Wire PageRequest := ⟨reader, toJson, fun _ => []⟩

theorem PageRequest.faithful : wire.Faithful :=
  faithful_record rfl (by decide) <|
    Keeps.pure (by intros; exact ⟨rfl, nofun⟩)
      |>.field (faithful_optional faithful_text fun _ => rfl)

def Page.wire {α : Type} (type key : String) (item : Wire α) : Wire (Page α) :=
  ⟨Json.record type (record key item.read), toJson key item.write,
    fun p => p.items.flatMap item.untyped⟩

theorem Page.faithful {α : Type} (type key : String) (item : Wire α)
    (apart : [key, "nextCursor"].Nodup) (faithful : item.Faithful) :
    (wire type key item).Faithful :=
  faithful_record rfl apart <|
    Keeps.pure (by
      intro items settled cursor _
      exact ⟨rfl, settled.sound⟩)
      |>.field (faithful_required faithful.list)
      |>.field (faithful_optional faithful_text fun _ => rfl)

/-! ### Content -/

def TextContents.wire : Wire TextContents := ⟨reader, toJson, fun _ => []⟩

theorem TextContents.faithful : wire.Faithful :=
  faithful_record rfl (by decide) <|
    Keeps.pure (by intros; exact ⟨rfl, nofun⟩)
      |>.field (faithful_required faithful_text)
      |>.field (faithful_optional faithful_text fun _ => rfl)
      |>.field (faithful_required faithful_text)

def BlobContents.wire : Wire BlobContents := ⟨reader, toJson, fun _ => []⟩

theorem BlobContents.faithful : wire.Faithful :=
  faithful_record rfl (by decide) <|
    Keeps.pure (by intros; exact ⟨rfl, nofun⟩)
      |>.field (faithful_required faithful_text)
      |>.field (faithful_optional faithful_text fun _ => rfl)
      |>.field (faithful_required faithful_text)

/-- Bytes are not read as text, since they are written without its own field. -/
theorem TextContents.reader_blob (contents : BlobContents) (text : TextContents) :
    reader contents.toJson.canonical ≠ .ok text := by
  intro read
  obtain ⟨kept, same, _, found⟩ := Json.canonical_present
    [("uri", some (.str contents.uri)), ("mimeType", contents.mimeType.map .str),
      ("blob", some (.str contents.blob))] (by decide : ["uri", "mimeType", "blob"].Nodup)
  have read : record.ofMembers kept = .ok text := by
    rw [BlobContents.toJson, same] at read
    exact read
  have own : (Field.required "text" Json.Reader.text).rule ∈ record.rules :=
    List.mem_append_right _ List.mem_cons_self
  exact Record.found_of_ofMembers read own rfl (found "text")

def ResourceContents.wire : Wire ResourceContents := ⟨reader, toJson, fun _ => []⟩

theorem ResourceContents.faithful : wire.Faithful := by
  refine faithful_firstOf rfl ?_ ?_ TextContents.reader_blob TextContents.faithful
    BlobContents.faithful
  · exact fun _ => ⟨rfl, rfl⟩
  · exact fun _ => ⟨rfl, rfl⟩

def Content.wire (type : String) : Wire Content := ⟨reader type, toJson, fun _ => []⟩

theorem Content.faithful (type : String) : (wire type).Faithful := by
  refine faithful_tagged rfl (by decide) ?_
  intro variant place
  simp only [variants, List.mem_cons, List.not_mem_nil, or_false] at place
  rcases place with rfl | rfl | rfl
  · exact Keeps.pure (by intros; exact ⟨rfl, nofun⟩)
      |>.field (faithful_required faithful_text)
  · exact Keeps.pure (by intros; exact ⟨rfl, nofun⟩)
      |>.field (faithful_required faithful_text)
      |>.field (faithful_required faithful_text)
  · exact Keeps.pure (by intros; exact ⟨rfl, nofun⟩)
      |>.field (faithful_required ResourceContents.faithful)

/-! ### Tools -/

def Tool.wire : Wire Tool := ⟨reader, toJson, fun t => [t.annotations]⟩

theorem Tool.faithful : wire.Faithful :=
  faithful_record rfl (by decide) <|
    Keeps.pure (by
      intro name _ description _ schema _ annotations known
      exact ⟨rfl, by simpa [wire] using known⟩)
      |>.field (faithful_required faithful_text)
      |>.field (faithful_optional faithful_text fun _ => rfl)
      |>.field (faithful_withDefault faithful_any ⟨rfl, nofun⟩)
      |>.field faithful_anything

def Tool.pageWire : Wire (Page Tool) :=
  ⟨pageReader, pageToJson, fun p => p.items.flatMap wire.untyped⟩

theorem Tool.faithful_page : pageWire.Faithful :=
  Page.faithful "ListToolsResponse" "tools" wire (by decide) faithful

def ToolCall.wire : Wire ToolCall := ⟨reader, toJson, fun c => [c.arguments]⟩

theorem ToolCall.faithful : wire.Faithful :=
  faithful_record rfl (by decide) <|
    Keeps.pure (by
      intro name _ arguments known
      exact ⟨rfl, by simpa [wire] using known⟩)
      |>.field (faithful_required faithful_text)
      |>.field faithful_anything

def ToolResult.wire : Wire ToolResult := ⟨reader, toJson, fun _ => []⟩

theorem ToolResult.faithful : wire.Faithful :=
  faithful_record rfl (by decide) <|
    Keeps.pure (by intros; exact ⟨rfl, nofun⟩)
      |>.field (faithful_withDefault (Content.faithful "ToolResponseContent").list
        ⟨rfl, fun _ nowhere => absurd nowhere List.not_mem_nil⟩)
      |>.field (faithful_optional faithful_boolean fun _ => rfl)

/-! ### Resources -/

def Resource.wire : Wire Resource := ⟨reader, toJson, fun _ => []⟩

theorem Resource.faithful : wire.Faithful :=
  faithful_record rfl (by decide) <|
    Keeps.pure (by intros; exact ⟨rfl, nofun⟩)
      |>.field (faithful_required faithful_text)
      |>.field (faithful_required faithful_text)
      |>.field (faithful_optional faithful_text fun _ => rfl)
      |>.field (faithful_optional faithful_text fun _ => rfl)

def Resource.pageWire : Wire (Page Resource) :=
  ⟨pageReader, pageToJson, fun p => p.items.flatMap wire.untyped⟩

theorem Resource.faithful_page : pageWire.Faithful :=
  Page.faithful "ListResourcesResponse" "resources" wire (by decide) faithful

def ResourceTemplate.wire : Wire ResourceTemplate := ⟨reader, toJson, fun _ => []⟩

theorem ResourceTemplate.faithful : wire.Faithful :=
  faithful_record rfl (by decide) <|
    Keeps.pure (by intros; exact ⟨rfl, nofun⟩)
      |>.field (faithful_required faithful_text)
      |>.field (faithful_required faithful_text)
      |>.field (faithful_optional faithful_text fun _ => rfl)
      |>.field (faithful_optional faithful_text fun _ => rfl)

def ResourceTemplate.pageWire : Wire (Page ResourceTemplate) :=
  ⟨pageReader, pageToJson, fun p => p.items.flatMap wire.untyped⟩

theorem ResourceTemplate.faithful_page : pageWire.Faithful :=
  Page.faithful "ListResourceTemplatesResponse" "resourceTemplates" wire (by decide) faithful

def ReadRequest.wire : Wire ReadRequest := ⟨reader, toJson, fun _ => []⟩

theorem ReadRequest.faithful : wire.Faithful :=
  faithful_record rfl (by decide) <|
    Keeps.pure (by intros; exact ⟨rfl, nofun⟩)
      |>.field (faithful_required faithful_text)

def ReadResult.wire : Wire ReadResult := ⟨reader, toJson, fun _ => []⟩

theorem ReadResult.faithful : wire.Faithful :=
  faithful_record rfl (by decide) <|
    Keeps.pure (by intros; exact ⟨rfl, nofun⟩)
      |>.field (faithful_required ResourceContents.faithful.list)

/-! ### Prompts -/

def Role.wire : Wire Role := ⟨reader, fun role => .str role.name, fun _ => []⟩

theorem Role.faithful : wire.Faithful := fun _ role _ _ => ⟨by cases role <;> rfl, nofun⟩

def PromptMessage.wire : Wire PromptMessage := ⟨reader, toJson, fun _ => []⟩

theorem PromptMessage.faithful : wire.Faithful :=
  faithful_record rfl (by decide) <|
    Keeps.pure (by intros; exact ⟨rfl, nofun⟩)
      |>.field (faithful_required Role.faithful)
      |>.field (faithful_required (Content.faithful "MessageContent"))

def PromptArgument.wire : Wire PromptArgument := ⟨reader, toJson, fun _ => []⟩

theorem PromptArgument.faithful : wire.Faithful :=
  faithful_record rfl (by decide) <|
    Keeps.pure (by intros; exact ⟨rfl, nofun⟩)
      |>.field (faithful_required faithful_text)
      |>.field (faithful_optional faithful_text fun _ => rfl)
      |>.field (faithful_optional faithful_boolean fun _ => rfl)

def Prompt.wire : Wire Prompt := ⟨reader, toJson, fun _ => []⟩

theorem Prompt.faithful : wire.Faithful :=
  faithful_record rfl (by decide) <|
    Keeps.pure (by intros; exact ⟨rfl, nofun⟩)
      |>.field (faithful_required faithful_text)
      |>.field (faithful_optional faithful_text fun _ => rfl)
      |>.field (faithful_optional PromptArgument.faithful.list fun _ => rfl)

def Prompt.pageWire : Wire (Page Prompt) :=
  ⟨pageReader, pageToJson, fun p => p.items.flatMap wire.untyped⟩

theorem Prompt.faithful_page : pageWire.Faithful :=
  Page.faithful "ListPromptsResponse" "prompts" wire (by decide) faithful

def PromptRequest.wire : Wire PromptRequest := ⟨reader, toJson, fun _ => []⟩

theorem PromptRequest.faithful : wire.Faithful :=
  faithful_record rfl (by decide) <|
    Keeps.pure (by intros; exact ⟨rfl, nofun⟩)
      |>.field (faithful_required faithful_text)
      |>.field (faithful_optional faithful_text.map fun _ => rfl)

def PromptResult.wire : Wire PromptResult := ⟨reader, toJson, fun _ => []⟩

theorem PromptResult.faithful : wire.Faithful :=
  faithful_record rfl (by decide) <|
    Keeps.pure (by intros; exact ⟨rfl, nofun⟩)
      |>.field (faithful_optional faithful_text fun _ => rfl)
      |>.field (faithful_required PromptMessage.faithful.list)

/-! ### Log records and roots -/

def Level.wire : Wire Level := ⟨reader, fun level => .str level.name, fun _ => []⟩

theorem Level.faithful : wire.Faithful := fun _ level _ _ => ⟨by cases level <;> rfl, nofun⟩

def LogRecord.wire : Wire LogRecord := ⟨reader, toJson, fun _ => []⟩

theorem LogRecord.faithful : wire.Faithful :=
  faithful_record rfl (by decide) <|
    Keeps.pure (by intros; exact ⟨rfl, nofun⟩)
      |>.field (faithful_required Level.faithful)
      |>.field (faithful_optional faithful_text fun _ => rfl)
      |>.field (faithful_withDefault faithful_any ⟨rfl, nofun⟩)

def Root.wire : Wire Root := ⟨reader, toJson, fun _ => []⟩

theorem Root.faithful : wire.Faithful :=
  faithful_record rfl (by decide) <|
    Keeps.pure (by intros; exact ⟨rfl, nofun⟩)
      |>.field (faithful_required faithful_text)
      |>.field (faithful_optional faithful_text fun _ => rfl)

def RootList.wire : Wire RootList := ⟨reader, toJson, fun _ => []⟩

theorem RootList.faithful : wire.Faithful :=
  faithful_record rfl (by decide) <|
    Keeps.pure (by intros; exact ⟨rfl, nofun⟩)
      |>.field (faithful_required Root.faithful.list)

/-! ### Every type -/

/-- The types of the schema. -/
inductive OfSchema : {α : Type} → Wire α → Prop
  | implementation : OfSchema Implementation.wire
  | rootsCapability : OfSchema RootsCapability.wire
  | clientCapabilities : OfSchema ClientCapabilities.wire
  | serverCapabilities : OfSchema ServerCapabilities.wire
  | offer : OfSchema Offer.wire
  | agreement : OfSchema Agreement.wire
  | pageRequest : OfSchema PageRequest.wire
  | textContents : OfSchema TextContents.wire
  | blobContents : OfSchema BlobContents.wire
  | resourceContents : OfSchema ResourceContents.wire
  | tool : OfSchema Tool.wire
  | toolPage : OfSchema Tool.pageWire
  | toolCall : OfSchema ToolCall.wire
  | toolContent : OfSchema (Content.wire "ToolResponseContent")
  | toolResult : OfSchema ToolResult.wire
  | resource : OfSchema Resource.wire
  | resourcePage : OfSchema Resource.pageWire
  | resourceTemplate : OfSchema ResourceTemplate.wire
  | resourceTemplatePage : OfSchema ResourceTemplate.pageWire
  | readRequest : OfSchema ReadRequest.wire
  | readResult : OfSchema ReadResult.wire
  | role : OfSchema Role.wire
  | promptContent : OfSchema (Content.wire "MessageContent")
  | promptMessage : OfSchema PromptMessage.wire
  | promptArgument : OfSchema PromptArgument.wire
  | prompt : OfSchema Prompt.wire
  | promptPage : OfSchema Prompt.pageWire
  | promptRequest : OfSchema PromptRequest.wire
  | promptResult : OfSchema PromptResult.wire
  | level : OfSchema Level.wire
  | logRecord : OfSchema LogRecord.wire
  | root : OfSchema Root.wire
  | rootList : OfSchema RootList.wire

theorem OfSchema.faithful {α : Type} {w : Wire α} (type : OfSchema w) : w.Faithful := by
  cases type with
  | implementation => exact Implementation.faithful
  | rootsCapability => exact RootsCapability.faithful
  | clientCapabilities => exact ClientCapabilities.faithful
  | serverCapabilities => exact ServerCapabilities.faithful
  | offer => exact Offer.faithful
  | agreement => exact Agreement.faithful
  | pageRequest => exact PageRequest.faithful
  | textContents => exact TextContents.faithful
  | blobContents => exact BlobContents.faithful
  | resourceContents => exact ResourceContents.faithful
  | tool => exact Tool.faithful
  | toolPage => exact Tool.faithful_page
  | toolCall => exact ToolCall.faithful
  | toolContent => exact Content.faithful _
  | toolResult => exact ToolResult.faithful
  | resource => exact Resource.faithful
  | resourcePage => exact Resource.faithful_page
  | resourceTemplate => exact ResourceTemplate.faithful
  | resourceTemplatePage => exact ResourceTemplate.faithful_page
  | readRequest => exact ReadRequest.faithful
  | readResult => exact ReadResult.faithful
  | role => exact Role.faithful
  | promptContent => exact Content.faithful _
  | promptMessage => exact PromptMessage.faithful
  | promptArgument => exact PromptArgument.faithful
  | prompt => exact Prompt.faithful
  | promptPage => exact Prompt.faithful_page
  | promptRequest => exact PromptRequest.faithful
  | promptResult => exact PromptResult.faithful
  | level => exact Level.faithful
  | logRecord => exact LogRecord.faithful
  | root => exact Root.faithful
  | rootList => exact RootList.faithful

/-- Whatever was read from an ordered value is read again from what it is written as, with the same
variants of content, and none of its optional fields of any JSON is null. -/
theorem unmarshal_written {α : Type} {w : Wire α} (type : OfSchema w) {v : Json} {t : α}
    (ordered : Ordered v) (read : unmarshal w.read v = .ok t) :
    unmarshal w.read (w.write t).canonical = .ok t ∧
      ∀ value ∈ w.untyped t, value ≠ some .null := by
  have settled := type.faithful v t ordered (unmarshal_eq_ok_iff.mp read)
  exact ⟨unmarshal_eq_ok_iff.mpr settled.again, settled.sound⟩

/-- A tool with a null and an unknown key, and bytes beside a null text. -/
theorem unmarshal_written_null_and_blob :
    (unmarshal Tool.reader (Tool.toJson ⟨"scan", none, .null, none⟩).canonical =
        .ok ⟨"scan", none, .null, none⟩ ∧
      ∀ value ∈ [(none : Option Json)], value ≠ some .null) ∧
    unmarshal ResourceContents.reader
        (ResourceContents.toJson (.blob ⟨"file:///a", none, "AA=="⟩)).canonical =
      .ok (.blob ⟨"file:///a", none, "AA=="⟩) := by
  have tool : Ordered
      (.obj [("annotations", .null), ("hint", .bool true), ("name", .str "scan")]) := by
    refine .obj (by unfold Members.Ascending; decide) ?_
    simp only [List.forall_mem_cons]
    exact ⟨.null, .bool _, .str _, nofun⟩
  have contents : Ordered
      (.obj [("blob", .str "AA=="), ("text", .null), ("uri", .str "file:///a")]) := by
    refine .obj (by unfold Members.Ascending; decide) ?_
    simp only [List.forall_mem_cons]
    exact ⟨.str _, .null, .str _, nofun⟩
  exact ⟨unmarshal_written .tool tool rfl, (unmarshal_written .resourceContents contents rfl).1⟩

end Mcp.Schema
