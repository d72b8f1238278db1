import Mcp.Proofs.Toolbox.Calls

/-!
What a listing of all tools collects. The servers are asked one after the other (`asked`); those
that offer tools and list them count, and the others might as well not be there. The entries and the
table are made of what those servers list and of nothing else, so no route of an earlier listing is
left.
Main statement: `listing_collects`.
-/

namespace Mcp.Toolbox

open Schema (Tool)

variable {κ : Type}

/-! ### What the servers answer -/

/-- What a server answers to a listing: nothing if it offers no tools, and otherwise its tools or
why it could not list them all. -/
abbrev Answer := Option (Except Error (List Tool))

/-- The tools of an answer, if it has them. -/
def Answer.tools? : Answer → Option (List Tool)
  | some (.ok tools) => some tools
  | _ => none

/-- The servers that listed their tools. -/
def answering (given : List ((String × κ) × Answer)) : List (String × κ) :=
  (given.filter fun reply => reply.2.tools?.isSome).map Prod.fst

/-- The lists that were given, each with the name of its server. -/
def lists (given : List ((String × κ) × Answer)) : List (String × List Tool) :=
  given.filterMap fun reply => reply.2.tools?.map fun tools => (reply.1.1, tools)

/-- The tools of some lists, each with the name of its server. -/
def collected (lists : List (String × List Tool)) : List (String × Tool) :=
  lists.flatMap fun list => list.2.map fun tool => (list.1, tool)

section Asked

variable {ω : Type}

/-- The answers of servers that are asked one after the other. -/
def asked (access : Access (StateM ω) κ) :
    List (String × κ) → ω → List ((String × κ) × Answer)
  | [], _ => []
  | server :: rest, w =>
    let (offers, w) := (access.offersTools server.2).run w
    if offers then
      let (listed, w) := (access.listTools server.2).run w
      (server, some listed) :: asked access rest w
    else (server, none) :: asked access rest w

variable {access : Access (StateM ω) κ}

/-- A server that is asked first offers no tools, or lists them or fails to; then the others are
asked. -/
theorem asked_cons (server : String × κ) (rest : List (String × κ)) (w : ω) :
    asked access (server :: rest) w =
      if ((access.offersTools server.2).run w).1 then
        (server,
            some ((access.listTools server.2).run ((access.offersTools server.2).run w).2).1) ::
          asked access rest
            ((access.listTools server.2).run ((access.offersTools server.2).run w).2).2
      else (server, none) :: asked access rest ((access.offersTools server.2).run w).2 := rfl

theorem offered_world (server : String × κ) (w : ω) : ((offered access server).run w).2 =
    if ((access.offersTools server.2).run w).1 then
      ((access.listTools server.2).run ((access.offersTools server.2).run w).2).2
    else ((access.offersTools server.2).run w).2 := by
  rw [offered, StateT.run_bind]
  obtain ⟨offers, w⟩ := (access.offersTools server.2).run w
  cases offers with
  | false => rfl
  | true =>
    show ((access.listTools server.2 >>= _).run w).2 = _
    rw [StateT.run_bind]
    obtain ⟨listed, w⟩ := (access.listTools server.2).run w
    cases listed <;> rfl

/-- What is gathered is what the servers listed. -/
theorem gather_eq (servers : List (String × κ)) (w : ω) :
    ((gather access servers).run w).1 = collected (lists (asked access servers w)) := by
  induction servers generalizing w with
  | nil => rfl
  | cons server rest ih =>
    rw [gather_run, offered_run, offered_world, asked_cons, ih]
    cases ((access.offersTools server.2).run w).1 with
    | false => rfl
    | true =>
      simp only [if_true]
      generalize (access.listTools server.2).run ((access.offersTools server.2).run w).2 = result
      obtain ⟨listed, w'⟩ := result
      cases listed with
      | error e => rfl
      | ok tools =>
        simp only [lists, collected, List.filterMap_cons, Answer.tools?, Option.map_some,
          List.flatMap_cons]

end Asked

/-! ### Servers apart -/

/-- Servers that have nothing to do with each other: what one answers depends on what `view` shows
of it, and asking another changes nothing of that. -/
structure Apart {ω β : Type} (access : Access (StateM ω) κ) (view : κ → ω → β) : Prop where
  offers {handle : κ} {w v : ω} : view handle w = view handle v →
    ((access.offersTools handle).run w).1 = ((access.offersTools handle).run v).1 ∧
      view handle ((access.offersTools handle).run w).2 =
        view handle ((access.offersTools handle).run v).2
  listed {handle : κ} {w v : ω} : view handle w = view handle v →
    ((access.listTools handle).run w).1 = ((access.listTools handle).run v).1
  others {handle other : κ} {w : ω} : other ≠ handle →
    view other ((access.offersTools handle).run w).2 = view other w ∧
      view other ((access.listTools handle).run w).2 = view other w

section Apart

variable {ω β : Type} {access : Access (StateM ω) κ} {view : κ → ω → β}

/-- Servers that did not list their tools may be left out. -/
theorem Apart.lists_answering (apart : Apart access view) {servers : List (String × κ)}
    (distinct : (servers.map Prod.snd).Nodup) {w v : ω}
    (same : ∀ server ∈ servers, view server.2 w = view server.2 v) :
    lists (asked access (answering (asked access servers w)) v) =
      lists (asked access servers w) := by
  induction servers generalizing w v with
  | nil => rfl
  | cons server rest ih =>
    obtain ⟨first, distinct⟩ := List.nodup_cons.mp distinct
    have other {entry : String × κ} (there : entry ∈ rest) : entry.2 ≠ server.2 := fun same =>
      first (List.mem_map.mpr ⟨entry, there, same⟩)
    have own := same server List.mem_cons_self
    have later {entry : String × κ} (there : entry ∈ rest) : view entry.2 w = view entry.2 v :=
      same entry (List.mem_cons_of_mem _ there)
    obtain ⟨offers, own'⟩ := apart.offers own
    have listed := apart.listed own'
    have asking {entry : String × κ} (there : entry ∈ rest) (u : ω) :=
      apart.others (w := u) (other there)
    rw [asked_cons server rest w]
    split
    · rename_i offering
      generalize given : ((access.listTools server.2).run
        ((access.offersTools server.2).run w).2).1 = result at listed
      have behind {entry : String × κ} (there : entry ∈ rest) :
          view entry.2 ((access.listTools server.2).run
            ((access.offersTools server.2).run w).2).2 = view entry.2 w := by
        rw [(asking there _).2, (asking there _).1]
      cases result with
      | error e => exact ih distinct fun entry there => (behind there).trans (later there)
      | ok tools =>
        have kept : answering ((server, some (.ok tools)) :: asked access rest
              ((access.listTools server.2).run ((access.offersTools server.2).run w).2).2) =
            server :: answering (asked access rest
              ((access.listTools server.2).run ((access.offersTools server.2).run w).2).2) := rfl
        rw [kept, asked_cons, if_pos (offers ▸ offering), ← listed]
        refine congrArg ((server.1, tools) :: ·) (ih distinct fun entry there => ?_)
        rw [behind there, (asking there _).2, (asking there _).1]
        exact later there
    · refine ih distinct fun entry there => ?_
      rw [(asking there _).1]
      exact later there

end Apart

/-! ### Listings -/

/-- The table leads a key to the last entry that has it, and no other key anywhere. -/
theorem lookup_routes_eq (found : List Entry) (key : String) : Members.lookup (routes found) key =
    (found.reverse.find? fun e => e.key = key).map Entry.route := by
  induction found using List.reverseRecOn with
  | nil => rfl
  | append_singleton found e ih =>
    rw [routes_concat, Members.lookup_insert, List.reverse_append, List.reverse_singleton,
      List.singleton_append, List.find?_cons]
    by_cases own : e.key = key
    · simp [own]
    · simp [own, ih]

/-- Every route is that of an entry. -/
theorem mem_routes {found : List Entry} {entry : String × Route} (inside : entry ∈ routes found) :
    ∃ e ∈ found, entry = (e.key, e.route) := by
  induction found using List.reverseRecOn with
  | nil => cases inside
  | append_singleton found e ih =>
    rw [routes_concat] at inside
    rcases Members.mem_insert inside with rfl | before
    · exact ⟨e, by simp, rfl⟩
    · obtain ⟨other, there, same⟩ := ih before
      exact ⟨other, List.mem_append_left _ there, same⟩

section Collects

variable {ω : Type}

/-- What a box promises when it lists the tools of its servers. -/
structure Collects (access : Access (StateM ω) κ) (t : Toolbox κ) (w : ω) : Prop where
  /-- There is one entry for each tool that a server listed, in the order of the servers and of
  their lists. -/
  tools : (t.found access w).map (fun e => (e.server, e.tool)) =
    collected (lists (asked access t.servers w))
  /-- A tool is known by its name if that occurs once, and otherwise by its server and its name. -/
  keys : ∀ e ∈ t.found access w, e.key =
    if (collected (lists (asked access t.servers w))).countP (·.2.name = e.tool.name) = 1 then
      e.tool.name
    else qualified e.server e.tool.name
  servers : (t.refreshed access w).servers = t.servers
  /-- The table leads a key to the last entry that has it, and no other key anywhere. -/
  table : ∀ key, Members.lookup (t.refreshed access w).table key =
    ((t.found access w).reverse.find? fun e => e.key = key).map Entry.route
  /-- No route is left of an earlier listing. -/
  routes : ∀ entry ∈ (t.refreshed access w).table, ∃ e ∈ t.found access w,
    entry = (e.key, e.route)
  /-- A box whose servers list the same comes to the same, whatever else is registered in it and
  whatever its table was. -/
  alike {ω' κ' : Type} {access' : Access (StateM ω') κ'} {t' : Toolbox κ'} {w' : ω'} :
    lists (asked access' t'.servers w') = lists (asked access t.servers w) →
    t'.found access' w' = t.found access w ∧
      (t'.refreshed access' w').table = (t.refreshed access w).table
  /-- Of servers that have nothing to do with each other, those that did not list their tools might
  as well not be registered. -/
  without {β : Type} {view : κ → ω → β} : Apart access view → (t.servers.map Prod.snd).Nodup →
    ∀ table, found access ⟨answering (asked access t.servers w), table⟩ w = t.found access w ∧
      (refreshed access ⟨answering (asked access t.servers w), table⟩ w).table =
        (t.refreshed access w).table

/-- A listing collects the tools of the servers that list them, and nothing else. -/
theorem listing_collects (access : Access (StateM ω) κ) (t : Toolbox κ) (w : ω) :
    Collects access t w := by
  have same {ω' κ' : Type} {access' : Access (StateM ω') κ'} {t' : Toolbox κ'} {w' : ω'}
      (given : lists (asked access' t'.servers w') = lists (asked access t.servers w)) :
      t'.found access' w' = t.found access w ∧
        (t'.refreshed access' w').table = (t.refreshed access w).table := by
    have found : t'.found access' w' = t.found access w := by
      rw [found_eq, found_eq, gather_eq, gather_eq, given]
    rw [refreshed_eq, refreshed_eq, found]
    exact ⟨rfl, rfl⟩
  refine ⟨?_, fun e inside => ?_, rfl, lookup_routes_eq _, fun _ => mem_routes, same,
    fun apart distinct table => same (apart.lists_answering distinct fun _ _ => rfl)⟩
  · rw [found_eq, gather_eq, entries, List.map_map]
    exact List.map_id _
  · rw [found_eq, gather_eq] at inside
    have number := countP_entries (collected (lists (asked access t.servers w))) e.tool.name
    have some_ : 0 < (entries (collected (lists (asked access t.servers w)))).countP
        (fun other => other.tool.name = e.tool.name) :=
      List.countP_pos_iff.mpr ⟨e, inside, decide_eq_true rfl⟩
    rw [key_of_mem inside]
    unfold occurrences at number
    rw [← number]
    split
    · rw [if_neg (by omega)]
    · rw [if_pos (by omega)]

/-- Servers that offer tools or do not, and list them or fail to. Each listing is counted. -/
def counted : Access (StateM Nat) (Bool × Except Error (List String)) where
  offersTools server := pure server.1
  listTools server := fun n => (server.2.map (·.map plainTool), n + 1)
  callTool _ call := pure (.ok ⟨[.text call.name], none⟩)

/-- Of four servers one fails to list its tools and one offers none. The box knew another tool. -/
theorem listing_collects_from_two :
    let t : Toolbox (Bool × Except Error (List String)) :=
      ⟨[("alpha", (true, .error .transportClosed)), ("beta", (true, .ok ["echo", "only"])),
          ("gamma", (false, .ok ["echo"])), ("delta", (true, .ok ["echo"]))],
        [("old", ⟨"alpha", "old"⟩)]⟩
    Collects counted t 0 ∧ Apart counted (fun _ _ => ()) ∧
      (t.found counted 0).map (fun e => (e.key, e.server)) =
        [("beta.echo", "beta"), ("only", "beta"), ("delta.echo", "delta")] ∧
      (t.refreshed counted 0).table =
        [("beta.echo", ⟨"beta", "echo"⟩), ("delta.echo", ⟨"delta", "echo"⟩),
          ("only", ⟨"beta", "only"⟩)] :=
  ⟨listing_collects _ _ _, ⟨fun _ => ⟨rfl, rfl⟩, fun _ => rfl, fun _ => ⟨rfl, rfl⟩⟩, by decide,
    by decide⟩

end Collects

end Mcp.Toolbox
