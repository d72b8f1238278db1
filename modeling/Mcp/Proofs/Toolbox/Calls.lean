import Mcp.Proofs.Toolbox.Keys
import Mcp.Toolbox.Calls

/-! Where calls go. After a listing the key of an entry leads to the last entry that has it. A box that
has listed nothing yet reads a key at its first dot before it lists, so the two agree on a key unless
the one reads it as a registered server and a tool, and the other leads it elsewhere. -/

namespace Mcp

open Schema (Tool ToolCall ToolResult)

namespace Toolbox

/-! ### Listings -/

/-- The tools that one server adds to a listing. -/
def offered {m : Type → Type} [Monad m] {κ : Type} (access : Access m κ) (server : String × κ) :
    m (List (String × Tool)) := do
  if ← access.offersTools server.2 then
    match ← access.listTools server.2 with
    | .ok tools => pure (tools.map fun tool => (server.1, tool))
    | .error _ => pure []
  else pure []

theorem gather_cons {m : Type → Type} [Monad m] [LawfulMonad m] {κ : Type} (access : Access m κ)
    (server : String × κ) (rest : List (String × κ)) :
    gather access (server :: rest) =
      offered access server >>= fun tools => gather access rest >>= fun more =>
        pure (tools ++ more) := by
  rw [gather, offered, bind_assoc]
  refine congrArg _ (funext fun offers => ?_)
  cases offers with
  | false => simp only [Bool.false_eq_true, if_false, pure_bind]
  | true =>
    simp only [if_true, bind_assoc]
    refine congrArg _ (funext fun listed => ?_)
    cases listed <;> simp only [pure_bind]

section

variable {ω κ : Type} {access : Access (StateM ω) κ}

theorem offered_run (server : String × κ) (w : ω) :
    ((offered access server).run w).1 =
      if ((access.offersTools server.2).run w).1 then
        match ((access.listTools server.2).run ((access.offersTools server.2).run w).2).1 with
        | .ok tools => tools.map fun tool => (server.1, tool)
        | .error _ => []
      else [] := by
  rw [offered, StateT.run_bind]
  obtain ⟨offers, w⟩ := (access.offersTools server.2).run w
  cases offers with
  | false => rfl
  | true =>
    show ((access.listTools server.2 >>= _).run w).1 = _
    rw [StateT.run_bind]
    obtain ⟨listed, w⟩ := (access.listTools server.2).run w
    cases listed <;> rfl

theorem gather_run (server : String × κ) (rest : List (String × κ)) (w : ω) :
    ((gather access (server :: rest)).run w).1 =
      ((offered access server).run w).1 ++
        ((gather access rest).run ((offered access server).run w).2).1 := by
  rw [gather_cons]
  rfl

theorem gather_registered (servers : List (String × κ)) (w : ω) :
    ∀ item ∈ ((gather access servers).run w).1, item.1 ∈ servers.map Prod.fst := by
  induction servers generalizing w with
  | nil => exact fun item nowhere => absurd nowhere List.not_mem_nil
  | cons server rest ih =>
    intro item place
    rw [gather_run, List.mem_append] at place
    rw [List.map_cons, List.mem_cons]
    rcases place with own | later
    · rw [offered_run] at own
      split at own
      · split at own
        · obtain ⟨tool, _, rfl⟩ := List.mem_map.mp own
          exact .inl rfl
        · cases own
      · cases own
    · exact .inr (ih _ item later)

/-- What a box lists. -/
def found (access : Access (StateM ω) κ) (t : Toolbox κ) (w : ω) : List Entry :=
  ((t.list access).run w).1.1

/-- The box that has listed. -/
def refreshed (access : Access (StateM ω) κ) (t : Toolbox κ) (w : ω) : Toolbox κ :=
  ((t.list access).run w).1.2

theorem found_eq (t : Toolbox κ) (w : ω) :
    t.found access w = entries ((gather access t.servers).run w).1 := rfl

theorem refreshed_eq (t : Toolbox κ) (w : ω) :
    t.refreshed access w = { t with table := routes (t.found access w) } := rfl

theorem registered_of_mem {t : Toolbox κ} {w : ω} {e : Entry} (inside : e ∈ t.found access w) :
    e.server ∈ t.names := by
  rw [found_eq, entries, List.mem_map] at inside
  obtain ⟨item, place, rfl⟩ := inside
  exact gather_registered t.servers w item place

end

/-! ### Calls -/

section

variable {m : Type → Type} [Monad m] {κ : Type} {access : Access m κ} {t : Toolbox κ}

theorem lookup_of_mem {servers : List (String × κ)} (distinct : (servers.map Prod.fst).Nodup)
    {name : String} {handle : κ} (inside : (name, handle) ∈ servers) :
    servers.lookup name = some handle := by
  induction servers with
  | nil => cases inside
  | cons server rest ih =>
    obtain ⟨first, others⟩ := List.nodup_cons.mp distinct
    rcases List.mem_cons.mp inside with rfl | there
    · exact List.lookup_cons_self
    · have differ : (name == server.1) = false := by
        rw [beq_eq_false_iff_ne]
        rintro rfl
        exact first (List.mem_map.mpr ⟨_, there, rfl⟩)
      rw [List.lookup_cons, differ]
      exact ih others there

/-- A call of a key asks the server of the entry for the tool of the entry, unless the arguments are
refused. -/
def Reaches (access : Access m κ) (t : Toolbox κ) (e : Entry) : Prop :=
  ∃ handle, (e.server, handle) ∈ t.servers ∧
    ∀ arguments, t.call access e.key arguments =
      match argumentsOf e.key arguments with
      | .error refusal => pure (.error refusal, t)
      | .ok given => do pure (← access.callTool handle ⟨e.tool.name, given⟩, t)

theorem reaches_of_lookup [LawfulMonad m] (distinct : t.names.Nodup) {e : Entry}
    (registered : e.server ∈ t.names) (leads : Members.lookup t.table e.key = some e.route) :
    Reaches access t e := by
  obtain ⟨⟨name, handle⟩, inside, rfl⟩ := List.mem_map.mp registered
  refine ⟨handle, inside, fun arguments => ?_⟩
  have resolved : resolve t.table t.names e.key = some e.route := by rw [resolve, leads]
  rw [call, resolved]
  dsimp only
  rw [callAt, Entry.route, lookup_of_mem distinct inside]
  dsimp only
  cases argumentsOf e.key arguments with
  | error refusal => simp
  | ok given => rfl

end

/-- What is promised of a box that has listed these entries. -/
structure Leads {m : Type → Type} [Monad m] {κ : Type} (access : Access m κ) (t : Toolbox κ)
    (found : List Entry) : Prop where
  /-- The last entry with its key is reached. -/
  last : ∀ before e after, found = before ++ e :: after →
    (∀ later ∈ after, later.key ≠ e.key) → Reaches access t e
  /-- The key of an entry with a later one of its key leads elsewhere, to an entry that is reached. -/
  hidden : ∀ before e after, found = before ++ e :: after → (∃ later ∈ after, later.key = e.key) →
    ∃ other ∈ after, other.key = e.key ∧ other.route ≠ e.route ∧ Reaches access t other
  /-- The keys are distinct unless entries clash. -/
  distinct : (found.map Entry.key).Nodup ↔ ∀ e ∈ found, ∀ other ∈ found, ¬Clash found e other
  /-- They are distinct if no tool has a dot in its name. -/
  dotless : (∀ e ∈ found, '.' ∉ e.tool.name.toList) → (found.map Entry.key).Nodup
  /-- If the keys are distinct, every entry is reached. -/
  all : (found.map Entry.key).Nodup → ∀ e ∈ found, Reaches access t e

/-- A listing of servers none of which lists two tools of one name. -/
theorem listing_leads {ω κ : Type} {access : Access (StateM ω) κ} {t : Toolbox κ}
    (distinct : t.names.Nodup) {w : ω} (once : Once (t.found access w)) :
    Leads access (t.refreshed access w) (t.found access w) := by
  have keys := nodup_keys_iff once
  have reached {before after : List Entry} {e : Entry}
      (place : t.found access w = before ++ e :: after) (last : ∀ later ∈ after, later.key ≠ e.key) :
      Reaches access (t.refreshed access w) e := by
    have inside : e ∈ t.found access w := by simp [place]
    have leads : Members.lookup (t.refreshed access w).table e.key = some e.route :=
      lookup_routes place last
    exact reaches_of_lookup (t := t.refreshed access w) distinct (registered_of_mem inside) leads
  refine ⟨fun _ _ _ => reached, ?_, keys, ?_, ?_⟩
  · rintro before e after place ⟨later, behind, same⟩
    obtain ⟨front, final, rest, split, key, last⟩ := exists_last behind
    have inside : final ∈ after := by simp [split]
    have same' : final.key = e.key := key.trans same
    refine ⟨final, inside, same', fun route => ?_, ?_⟩
    · have distinct : (before ++ e :: after).Nodup := place ▸ once.of_map _
      have one : final = e := entry_of_route once (by simp [place, inside]) (by simp [place]) route
      rw [one] at inside
      exact (List.nodup_cons.mp (List.nodup_append.mp distinct).2.1).1 inside
    · have place' : t.found access w = (before ++ e :: front) ++ final :: rest := by
        simp [place, split]
      exact reached place' (by rwa [key])
  · intro plain
    refine keys.mpr fun e here other there clash => ?_
    rcases clash.dot_mem with dot | dot
    · exact plain e here dot
    · exact plain other there dot
  · intro apart e inside
    obtain ⟨before, after, place⟩ := List.append_of_mem inside
    refine reached place fun later behind same => ?_
    rw [place, List.map_append, List.map_cons] at apart
    have fresh := (List.nodup_cons.mp (List.nodup_append.mp apart).2.1).1
    exact fresh (List.mem_map.mpr ⟨later, behind, same⟩)

/-- A tool with nothing but a name. -/
def plainTool (name : String) : Tool := ⟨name, none, .null, none⟩

/-- Servers that offer the tools of their handle, and answer a call with its name behind their own. -/
def scripted : Access (StateM Unit) (String × List String) where
  offersTools _ := pure true
  listTools server := pure (.ok (server.2.map plainTool))
  callTool server call := pure (.ok ⟨[.text (qualified server.1 call.name)], none⟩)

/-- A box of such servers, that has listed nothing yet. -/
def serving (servers : List (String × List String)) : Toolbox (String × List String) :=
  ⟨servers.map fun server => (server.1, server), []⟩

/-- What the server answers that a call reaches. -/
def answerTo (t : Toolbox (String × List String)) (key : String) : Option String :=
  (((t.call scripted key .null).run ()).1.1.toOption).map ToolResult.text

/-- Two servers with a tool of one name, and a tool with a name of its own. -/
theorem listing_leads_two :
    let t := serving [("alpha", ["echo", "only"]), ("beta", ["echo"])]
    t.names.Nodup ∧ Once (t.found scripted ()) ∧
      Leads scripted (t.refreshed scripted ()) (t.found scripted ()) := by
  have distinct : (serving [("alpha", ["echo", "only"]), ("beta", ["echo"])]).names.Nodup := by decide
  have once : Once ((serving [("alpha", ["echo", "only"]), ("beta", ["echo"])]).found scripted ()) := by
    unfold Once
    decide
  exact ⟨distinct, once, listing_leads distinct once⟩

/-- One tool has the qualified name of another. Both are listed under it, and it leads to the later. -/
theorem key_may_lead_elsewhere :
    let t := serving [("alpha", ["echo", "beta.echo"]), ("beta", ["echo"])]
    t.names.Nodup ∧ Once (t.found scripted ()) ∧
      (t.found scripted ()).map (fun e => (e.key, e.server, e.tool.name)) =
        [("alpha.echo", "alpha", "echo"), ("beta.echo", "alpha", "beta.echo"),
          ("beta.echo", "beta", "echo")] ∧
      ¬((t.found scripted ()).map Entry.key).Nodup ∧
      answerTo (t.refreshed scripted ()) "beta.echo" = some (qualified "beta" "echo") := by
  refine ⟨by decide, ?_, by decide, by decide, by decide⟩
  unfold Once
  decide

/-! ### Before and after a listing -/

section

variable {m : Type → Type} [Monad m] {κ : Type} {access : Access m κ}

/-- Where a call goes: where its key leads, if need be after a new listing; nowhere if that does not
help. -/
def seek (access : Access m κ) (t : Toolbox κ) (key : String) : m (Option Route × Toolbox κ) :=
  match resolve t.table t.names key with
  | some route => pure (some route, t)
  | none => do
    let (_, t) ← t.list access
    pure (resolve t.table t.names key, t)

theorem call_eq_seek [LawfulMonad m] (t : Toolbox κ) (key : String) (arguments : Json) :
    t.call access key arguments =
      t.seek access key >>= fun (route?, t) =>
        match route? with
        | some route => do pure (← t.callAt access key arguments route, t)
        | none => pure (.error (.toolExecution (.unknownTool key)), t) := by
  rw [call, seek]
  cases resolve t.table t.names key with
  | some route => simp
  | none =>
    refine Eq.trans ?_ (bind_assoc _ _ _).symm
    show t.list access >>= _ = t.list access >>= _
    refine congrArg _ (funext fun listed => ?_)
    obtain ⟨found, t⟩ := listed
    refine Eq.trans ?_ (pure_bind _ _).symm
    cases again : resolve t.table t.names key <;> simp only [again]

end

section

variable {ω κ : Type} {access : Access (StateM ω) κ}

/-- The servers answer in the same way whenever they are asked what tools they have. -/
structure Steady (access : Access (StateM ω) κ) : Prop where
  offers : ∀ handle w v, ((access.offersTools handle).run w).1 = ((access.offersTools handle).run v).1
  lists : ∀ handle w v, ((access.listTools handle).run w).1 = ((access.listTools handle).run v).1

theorem Steady.gather (steady : Steady access) (servers : List (String × κ)) (w v : ω) :
    ((Toolbox.gather access servers).run w).1 = ((Toolbox.gather access servers).run v).1 := by
  induction servers generalizing w v with
  | nil => rfl
  | cons server rest ih =>
    rw [gather_run, gather_run, offered_run, offered_run, steady.offers server.2 w v,
      steady.lists server.2 _ ((access.offersTools server.2).run v).2]
    exact congrArg _ (ih _ _)

/-- Where a call goes. -/
def target (access : Access (StateM ω) κ) (t : Toolbox κ) (key : String) (w : ω) : Option Route :=
  ((t.seek access key).run w).1.1

/-- What a key says by itself: the registered server before its first dot, and the tool behind it. -/
def atDot (servers : List String) (key : String) : Option Route :=
  match splitAtDot key with
  | some (server, tool) => if servers.contains server then some ⟨server, tool⟩ else none
  | none => none

theorem resolve_eq (table : List (String × Route)) (servers : List String) (key : String) :
    resolve table servers key = (Members.lookup table key).or (atDot servers key) := by
  rw [resolve]
  cases Members.lookup table key <;> rfl

theorem target_eq (t : Toolbox κ) (key : String) (w : ω) :
    t.target access key w =
      (resolve t.table t.names key).or (resolve (routes (t.found access w)) t.names key) := by
  rw [target, seek]
  cases resolve t.table t.names key <;> rfl

/-- The tool behind the first dot of a text is not the whole text. -/
theorem splitAtDot_ne {key server tool : String} (split : splitAtDot key = some (server, tool)) :
    tool ≠ key := by
  rintro rfl
  have shorter := (List.dropWhile_suffix (· ≠ '.') (l := tool.toList)).length_le
  rw [splitAtDot] at split
  split at split
  · cases split
  · rename_i rest behind
    rw [Option.some.injEq, Prod.mk.injEq] at split
    rw [behind, ← split.2, String.toList_ofList, List.length_cons] at shorter
    omega

theorem atDot_ne {servers : List String} {e : Entry} :
    atDot servers e.tool.name ≠ some e.route := by
  unfold atDot
  split
  · rename_i server tool split
    split
    · intro same
      have tool : tool = e.tool.name := congrArg Route.tool (Option.some.inj same)
      exact splitAtDot_ne split tool
    · exact Option.some_ne_none _ |>.symm
  · exact Option.some_ne_none _ |>.symm

/-- No other listed tool has the name of the entry. -/
def Sole (found : List Entry) (e : Entry) : Prop :=
  found.countP (fun other => other.tool.name = e.tool.name) = 1

/-- What is promised of calls to a box that has listed nothing yet, beside calls to the same box after
it has listed these entries. -/
structure Compared (access : Access (StateM ω) κ) (fresh listed : Toolbox κ) (found : List Entry) :
    Prop where
  /-- A call is one at the place where it goes, or it is refused as unknown. -/
  called : ∀ t ∈ [fresh, listed], ∀ key arguments, t.call access key arguments =
    t.seek access key >>= fun (route?, t) =>
      match route? with
      | some route => do pure (← t.callAt access key arguments route, t)
      | none => pure (.error (.toolExecution (.unknownTool key)), t)
  /-- Calls of a key go to the same place unless the key says one thing by itself and is listed as
  another. -/
  same : ∀ key w v, fresh.target access key w = listed.target access key v ↔
    ∀ own led, atDot listed.names key = some own → Members.lookup listed.table key = some led →
      own = led
  /-- Both are refused as unknown, or neither is. -/
  unknown : ∀ key w v, fresh.target access key w = none ↔ listed.target access key v = none
  /-- The name of a tool that no other has leads to it once the tools are listed, if no later entry has
  it for its key; before that it does so if it says nothing by itself, and not otherwise. -/
  named : ∀ before e after, found = before ++ e :: after → Sole found e →
    (∀ later ∈ after, later.key ≠ e.tool.name) → ∀ v,
      listed.target access e.tool.name v = some e.route ∧
      (fresh.target access e.tool.name v = some e.route ↔ atDot listed.names e.tool.name = none)

/-- A box whose servers go on to list the same tools. -/
theorem listing_compared {t : Toolbox κ} (fresh : t.table = []) (steady : Steady access) (w : ω) :
    Compared access t (t.refreshed access w) (t.found access w) := by
  have lists (v : ω) : t.found access v = t.found access w := by
    rw [found_eq, found_eq, steady.gather t.servers v w]
  have before (key : String) (v : ω) : t.target access key v =
      (atDot t.names key).or (Members.lookup (routes (t.found access w)) key) := by
    rw [target_eq, lists, fresh, resolve_eq, resolve_eq]
    cases atDot t.names key <;> simp [Members.lookup]
  have after (key : String) (v : ω) : (t.refreshed access w).target access key v =
      (Members.lookup (routes (t.found access w)) key).or (atDot t.names key) := by
    have again : (t.refreshed access w).found access v = t.found access w := lists v
    rw [target_eq, again, refreshed_eq]
    show (resolve (routes _) t.names key).or (resolve (routes _) t.names key) = _
    rw [Option.or_self, resolve_eq]
  refine ⟨fun t _ => t.call_eq_seek, fun key u v => ?_, fun key u v => ?_, ?_⟩
  · rw [before, after]
    show _ ↔ ∀ own led, atDot t.names key = some own →
      Members.lookup (routes (t.found access w)) key = some led → own = led
    cases atDot t.names key <;> cases Members.lookup (routes (t.found access w)) key <;> simp
  · rw [before, after]
    cases atDot t.names key <;> cases Members.lookup (routes (t.found access w)) key <;> simp
  · intro front e rest place sole last v
    have inside : e ∈ t.found access w := by simp [place]
    have key : e.key = e.tool.name := by
      have several : ¬1 < (t.found access w).countP fun other => other.tool.name = e.tool.name := by
        rw [sole]
        exact Nat.lt_irrefl 1
      exact (key_of_mem inside).trans (if_neg several)
    have led : Members.lookup (routes (t.found access w)) e.tool.name = some e.route := by
      rw [← key] at last ⊢
      exact lookup_routes place last
    rw [before, after, led]
    refine ⟨rfl, ?_⟩
    show _ ↔ atDot t.names e.tool.name = none
    cases own : atDot t.names e.tool.name with
    | none => simp
    | some route =>
      have apart : some route ≠ some e.route := own ▸ atDot_ne
      simpa using apart

/-- A tool with the name of its server in front, and another one. -/
theorem listing_compared_dotted :
    let t := serving [("fs", ["fs.read", "stat"])]
    t.table = [] ∧ Steady scripted ∧
      Compared scripted t (t.refreshed scripted ()) (t.found scripted ()) := by
  have steady : Steady scripted := ⟨fun _ _ _ => rfl, fun _ _ _ => rfl⟩
  exact ⟨rfl, steady, listing_compared rfl steady ()⟩

/-- The name of the only tool there is leads to a tool that no server has, until the tools are listed. -/
theorem listing_may_move_target :
    let t := serving [("fs", ["fs.read"])]
    Steady scripted ∧ t.table = [] ∧ (t.found scripted ()).map (fun e => (e.key, e.tool.name)) =
        [("fs.read", "fs.read")] ∧
      t.target scripted "fs.read" () = some ⟨"fs", "read"⟩ ∧
      answerTo t "fs.read" = some (qualified "fs" "read") ∧
      (t.refreshed scripted ()).target scripted "fs.read" () = some ⟨"fs", "fs.read"⟩ ∧
      answerTo (t.refreshed scripted ()) "fs.read" = some (qualified "fs" "fs.read") :=
  ⟨⟨fun _ _ _ => rfl, fun _ _ _ => rfl⟩, by decide⟩

end

end Toolbox

end Mcp
