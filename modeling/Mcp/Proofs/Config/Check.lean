import Mcp.Config.Check
import Mcp.Config.Connector
import Mcp.Proofs.Config.Load
import Mcp.Proofs.Json.Parsed
import Mcp.Proofs.Members
import Mcp.Proofs.Record

/-!
What the check of settings accepts, and what it reports of others. Whatever may be wrong is wrong in
a place (`Place`), and the places have an order: those of the client come first, then those of the
servers by their names. The check accepts settings with which nothing is wrong, and reports
otherwise what is wrong in the first place. The transports of settings that it accepts can be made.
Main statement: `check_finds_first`.
-/

namespace Mcp.Config

/-! ### What may be wrong, and where -/

inductive Place where
  | name
  | requestTimeout
  | initializationTimeout
  | closeTimeout
  | command (server : String)
  | url (server : String)
  | scheme (server : String)
  | endpointTimeout (server : String)
  deriving DecidableEq, Repr

namespace Place

/-- The server that a place belongs to, and the number of the place among its own. -/
def own? : Place → Option (String × Nat)
  | command server => some (server, 0)
  | url server => some (server, 1)
  | scheme server => some (server, 2)
  | endpointTimeout server => some (server, 3)
  | _ => none

/-- The number of a place of the client. -/
def number : Place → Nat
  | name => 0
  | requestTimeout => 1
  | initializationTimeout => 2
  | _ => 3

/-- A place is looked at before another. -/
inductive Before (p q : Place) : Prop
  | client : p.own? = none → q.own? = none → p.number < q.number → Before p q
  | across {own : String × Nat} : p.own? = none → q.own? = some own → Before p q
  | names {server server' : String} {own own' : Nat} : p.own? = some (server, own) →
      q.own? = some (server', own') → server < server' → Before p q
  | within {server : String} {own own' : Nat} : p.own? = some (server, own) →
      q.own? = some (server, own') → own < own' → Before p q

theorem Before.asymm {p q : Place} (before : p.Before q) : ¬ q.Before p := by
  intro after
  cases before with
  | client none none' less =>
    cases after with
    | client _ _ less' => exact Nat.lt_asymm less less'
    | across _ some | names _ some _ | within _ some _ => cases none.symm.trans some
  | across none some =>
    cases after with
    | client none' | across none' => cases some.symm.trans none'
    | names _ some' | within _ some' => cases none.symm.trans some'
  | names some some' less =>
    cases after with
    | client none | across none => cases some'.symm.trans none
    | names here here' less' =>
      cases some'.symm.trans here
      cases some.symm.trans here'
      exact String.lt_irrefl _ (String.lt_trans less less')
    | within here here' =>
      cases some'.symm.trans here
      cases some.symm.trans here'
      exact String.lt_irrefl _ less
  | within some some' less =>
    cases after with
    | client none | across none => cases some'.symm.trans none
    | names here here' less' =>
      cases some'.symm.trans here
      cases some.symm.trans here'
      exact String.lt_irrefl _ less'
    | within here here' less' =>
      cases some'.symm.trans here
      cases some.symm.trans here'
      exact Nat.lt_asymm less less'

end Place

/-- What is wrong with settings in a place. -/
inductive Wrong (c : Config) : Place → ConfigFault → Prop
  | name : Text.isBlankText c.client.name = true → Wrong c .name (.blank "client.name")
  | requestTimeout : c.client.requestTimeout = 0 →
      Wrong c .requestTimeout (.notPositive "client.request_timeout_seconds")
  | initializationTimeout : c.client.initializationTimeout = 0 →
      Wrong c .initializationTimeout (.notPositive "client.initialization_timeout_seconds")
  | closeTimeout : c.client.closeTimeout = 0 →
      Wrong c .closeTimeout (.notPositive "client.close_timeout_seconds")
  | command {server : String} {p : Program} : (server, .stdio p) ∈ c.servers →
      Text.isBlankText p.command = true →
      Wrong c (.command server) (.blank ("servers." ++ server ++ ".command"))
  | url {server : String} {r : Remote} {cause : Url.Error} : (server, .sse r) ∈ c.servers →
      Url.parse r.url = .error cause → Wrong c (.url server) (.badUrl server cause)
  | scheme {server : String} {r : Remote} {url : Url} : (server, .sse r) ∈ c.servers →
      Url.parse r.url = .ok url → url.scheme ≠ "http" → url.scheme ≠ "https" →
      Wrong c (.scheme server) (.badScheme server url.scheme)
  | endpointTimeout {server : String} {r : Remote} : (server, .sse r) ∈ c.servers →
      r.endpointTimeout = 0 → Wrong c (.endpointTimeout server)
        (.notPositive ("servers." ++ server ++ ".endpoint_timeout_seconds"))

/-- What is wrong in the first place where anything is. -/
structure First (c : Config) (place : Place) (fault : ConfigFault) : Prop where
  wrong : Wrong c place fault
  first {other : Place} {fault' : ConfigFault} : Wrong c other fault' →
    other = place ∧ fault' = fault ∨ place.Before other

/-- Settings with which nothing is wrong. -/
structure Sound (c : Config) : Prop where
  name : Text.isBlankText c.client.name = false
  requestTimeout : 0 < c.client.requestTimeout
  initializationTimeout : 0 < c.client.initializationTimeout
  closeTimeout : 0 < c.client.closeTimeout
  programs {server : String} {p : Program} : (server, .stdio p) ∈ c.servers →
    Text.isBlankText p.command = false
  remotes {server : String} {r : Remote} : (server, .sse r) ∈ c.servers →
    ∃ url, Url.parse r.url = .ok url ∧ (url.scheme = "http" ∨ url.scheme = "https") ∧
      0 < r.endpointTimeout

/-! ### Looking at the places in their order -/

/-- The faults of a place, each with the place. -/
def inPlace (place : Place) (faults : List ConfigFault) : List (Place × ConfigFault) :=
  faults.map (place, ·)

def ClientSettings.marked (c : ClientSettings) : List (Place × ConfigFault) :=
  inPlace .name (blankFault "client.name" c.name) ++
    inPlace .requestTimeout (secondsFault "client.request_timeout_seconds" c.requestTimeout) ++
    inPlace .initializationTimeout
      (secondsFault "client.initialization_timeout_seconds" c.initializationTimeout) ++
    inPlace .closeTimeout (secondsFault "client.close_timeout_seconds" c.closeTimeout)

/-- All that is wrong with the settings of a server. The timeout counts even where the URL is none. -/
def Server.marked (name : String) : Server → List (Place × ConfigFault)
  | .stdio p => inPlace (.command name) (blankFault ("servers." ++ name ++ ".command") p.command)
  | .sse r =>
    (match Url.parse r.url with
      | .error cause => inPlace (.url name) [.badUrl name cause]
      | .ok url => inPlace (.scheme name) (schemeFault name url)) ++
    inPlace (.endpointTimeout name)
      (secondsFault ("servers." ++ name ++ ".endpoint_timeout_seconds") r.endpointTimeout)

def marked (c : Config) : List (Place × ConfigFault) :=
  c.client.marked ++ c.servers.flatMap fun entry => entry.2.marked entry.1

section Marked

variable {c : Config} {place : Place} {fault : ConfigFault}

theorem mem_inPlace {p : Place} {faults : List ConfigFault} :
    (place, fault) ∈ inPlace p faults ↔ place = p ∧ fault ∈ faults := by
  simp only [inPlace, List.mem_map, Prod.mk.injEq]
  constructor
  · rintro ⟨_, there, rfl, rfl⟩
    exact ⟨rfl, there⟩
  · rintro ⟨rfl, there⟩
    exact ⟨fault, there, rfl, rfl⟩

theorem mem_blankFault {setting value : String} :
    fault ∈ blankFault setting value ↔ fault = .blank setting ∧ Text.isBlankText value = true := by
  unfold blankFault
  split <;> simp_all

theorem mem_secondsFault {setting : String} {seconds : Nat} :
    fault ∈ secondsFault setting seconds ↔ fault = .notPositive setting ∧ seconds = 0 := by
  unfold secondsFault
  split <;> simp_all

theorem mem_schemeFault {server : String} {url : Url} : fault ∈ schemeFault server url ↔
    fault = .badScheme server url.scheme ∧ url.scheme ≠ "http" ∧ url.scheme ≠ "https" := by
  unfold schemeFault
  split
  · rename_i known
    rw [Bool.or_eq_true, decide_eq_true_eq, decide_eq_true_eq] at known
    simp [known, ← not_or]
  · simp_all

theorem mem_unfit {server : String} {r : Remote} :
    (place, fault) ∈ Server.marked server (.sse r) ↔
      (∃ cause, Url.parse r.url = .error cause ∧ place = .url server ∧
        fault = .badUrl server cause) ∨
      (∃ url, Url.parse r.url = .ok url ∧ place = .scheme server ∧
        fault ∈ schemeFault server url) ∨
      (place = .endpointTimeout server ∧
        fault ∈ secondsFault ("servers." ++ server ++ ".endpoint_timeout_seconds")
          r.endpointTimeout) := by
  rw [Server.marked, List.mem_append, ← or_assoc, mem_inPlace]
  cases Url.parse r.url <;> simp [mem_inPlace]

/-- What is wrong with settings is what is found by looking at all places. -/
theorem mem_marked : (place, fault) ∈ marked c ↔ Wrong c place fault := by
  simp only [marked, ClientSettings.marked, List.mem_append, List.mem_flatMap, mem_inPlace,
    mem_blankFault, mem_secondsFault]
  constructor
  · rintro ((((⟨rfl, rfl, blank⟩ | ⟨rfl, rfl, zero⟩) | ⟨rfl, rfl, zero⟩) | ⟨rfl, rfl, zero⟩) |
      ⟨⟨server, settings⟩, there, found⟩)
    · exact .name blank
    · exact .requestTimeout zero
    · exact .initializationTimeout zero
    · exact .closeTimeout zero
    · cases settings with
      | stdio p =>
        obtain ⟨rfl, listed⟩ := mem_inPlace.mp found
        obtain ⟨rfl, blank⟩ := mem_blankFault.mp listed
        exact .command there blank
      | sse r =>
        rcases mem_unfit.mp found with ⟨cause, unread, rfl, rfl⟩ | ⟨url, read, rfl, other⟩ |
          ⟨rfl, listed⟩
        · exact .url there unread
        · obtain ⟨rfl, noHttp, noHttps⟩ := mem_schemeFault.mp other
          exact .scheme there read noHttp noHttps
        · obtain ⟨rfl, zero⟩ := mem_secondsFault.mp listed
          exact .endpointTimeout there zero
  · intro wrong
    cases wrong with
    | name blank => exact .inl (.inl (.inl (.inl ⟨rfl, rfl, blank⟩)))
    | requestTimeout zero => exact .inl (.inl (.inl (.inr ⟨rfl, rfl, zero⟩)))
    | initializationTimeout zero => exact .inl (.inl (.inr ⟨rfl, rfl, zero⟩))
    | closeTimeout zero => exact .inl (.inr ⟨rfl, rfl, zero⟩)
    | command there blank =>
      exact .inr ⟨_, there, mem_inPlace.mpr ⟨rfl, mem_blankFault.mpr ⟨rfl, blank⟩⟩⟩
    | url there unread => exact .inr ⟨_, there, mem_unfit.mpr (.inl ⟨_, unread, rfl, rfl⟩)⟩
    | scheme there read noHttp noHttps =>
      exact .inr ⟨_, there, mem_unfit.mpr
        (.inr (.inl ⟨_, read, rfl, mem_schemeFault.mpr ⟨rfl, noHttp, noHttps⟩⟩))⟩
    | endpointTimeout there zero =>
      exact .inr ⟨_, there, mem_unfit.mpr (.inr (.inr ⟨rfl, mem_secondsFault.mpr ⟨rfl, zero⟩⟩))⟩

theorem sound_iff : Sound c ↔ ∀ place fault, ¬ Wrong c place fault := by
  constructor
  · rintro sound place fault wrong
    cases wrong with
    | name blank => cases sound.name.symm.trans blank
    | requestTimeout zero => exact Nat.ne_of_gt sound.requestTimeout zero
    | initializationTimeout zero => exact Nat.ne_of_gt sound.initializationTimeout zero
    | closeTimeout zero => exact Nat.ne_of_gt sound.closeTimeout zero
    | command there blank => cases (sound.programs there).symm.trans blank
    | url there unread =>
      obtain ⟨url, read, -⟩ := sound.remotes there
      cases unread.symm.trans read
    | scheme there read noHttp noHttps =>
      obtain ⟨url, read', known, -⟩ := sound.remotes there
      cases read.symm.trans read'
      exact known.elim noHttp noHttps
    | endpointTimeout there zero =>
      obtain ⟨url, -, -, positive⟩ := sound.remotes there
      exact Nat.ne_of_gt positive zero
  · intro none
    refine ⟨?_, Nat.pos_of_ne_zero fun zero => none _ _ (.requestTimeout zero),
      Nat.pos_of_ne_zero fun zero => none _ _ (.initializationTimeout zero),
      Nat.pos_of_ne_zero fun zero => none _ _ (.closeTimeout zero), ?_, ?_⟩
    · exact Bool.eq_false_iff.mpr fun blank => none _ _ (.name blank)
    · exact fun there => Bool.eq_false_iff.mpr fun blank => none _ _ (.command there blank)
    · intro server r there
      cases read : Url.parse r.url with
      | error cause => exact absurd (.url there read) (none _ _)
      | ok url =>
        refine ⟨url, rfl, ?_, Nat.pos_of_ne_zero fun zero => none _ _ (.endpointTimeout there zero)⟩
        refine Classical.byContradiction fun other => ?_
        rw [not_or] at other
        exact none _ _ (.scheme there read other.1 other.2)

end Marked

/-! ### The order of what is found -/

section Order

variable {c : Config} {place : Place} {fault : ConfigFault}

theorem blankFault_length_le (setting value : String) : (blankFault setting value).length ≤ 1 := by
  unfold blankFault
  split <;> simp

theorem secondsFault_length_le (setting : String) (seconds : Nat) :
    (secondsFault setting seconds).length ≤ 1 := by
  unfold secondsFault
  split <;> simp

theorem schemeFault_length_le (server : String) (url : Url) :
    (schemeFault server url).length ≤ 1 := by
  unfold schemeFault
  split <;> simp

/-- What is looked at before. -/
def Earlier (a b : Place × ConfigFault) : Prop := a.1.Before b.1

theorem inPlace_pairwise {place : Place} {faults : List ConfigFault} (single : faults.length ≤ 1) :
    (inPlace place faults).Pairwise Earlier := by
  match faults with
  | [] => exact .nil
  | [fault] => exact List.pairwise_singleton _ _

/-- What is found in one place and what is found in later ones. -/
theorem pairwise_append_inPlace {found : List (Place × ConfigFault)} {place : Place}
    {faults : List ConfigFault} (ordered : found.Pairwise Earlier) (single : faults.length ≤ 1)
    (before : ∀ a ∈ found, a.1.Before place) :
    (found ++ inPlace place faults).Pairwise Earlier := by
  refine List.pairwise_append.mpr ⟨ordered, inPlace_pairwise single, fun a here b there => ?_⟩
  obtain ⟨same, -⟩ := mem_inPlace.mp there
  rw [Earlier, same]
  exact before a here

theorem own_of_mem_client {c : ClientSettings} (found : (place, fault) ∈ c.marked) :
    place.own? = none := by
  simp only [ClientSettings.marked, List.mem_append, mem_inPlace] at found
  rcases found with ((⟨rfl, -⟩ | ⟨rfl, -⟩) | ⟨rfl, -⟩) | ⟨rfl, -⟩ <;> rfl

theorem own_of_mem_server {name : String} {server : Server}
    (found : (place, fault) ∈ server.marked name) : ∃ own, place.own? = some (name, own) := by
  cases server with
  | stdio =>
    obtain ⟨rfl, -⟩ := mem_inPlace.mp found
    exact ⟨_, rfl⟩
  | sse =>
    rcases mem_unfit.mp found with ⟨_, _, rfl, _⟩ | ⟨_, _, rfl, _⟩ | ⟨rfl, _⟩ <;>
      exact ⟨_, rfl⟩

theorem client_pairwise (c : ClientSettings) : c.marked.Pairwise Earlier := by
  refine pairwise_append_inPlace (pairwise_append_inPlace (pairwise_append_inPlace
    (inPlace_pairwise (blankFault_length_le _ _)) (secondsFault_length_le _ _) ?_)
    (secondsFault_length_le _ _) ?_) (secondsFault_length_le _ _) ?_
  all_goals
    rintro ⟨place, fault⟩ found
    simp only [List.mem_append, mem_inPlace] at found
  · obtain ⟨rfl, -⟩ := found
    exact .client rfl rfl (show 0 < 1 by decide)
  · rcases found with ⟨rfl, -⟩ | ⟨rfl, -⟩
    · exact .client rfl rfl (show 0 < 2 by decide)
    · exact .client rfl rfl (show 1 < 2 by decide)
  · rcases found with (⟨rfl, -⟩ | ⟨rfl, -⟩) | ⟨rfl, -⟩
    · exact .client rfl rfl (show 0 < 3 by decide)
    · exact .client rfl rfl (show 1 < 3 by decide)
    · exact .client rfl rfl (show 2 < 3 by decide)

theorem server_pairwise (name : String) (server : Server) :
    (server.marked name).Pairwise Earlier := by
  cases server with
  | stdio => exact inPlace_pairwise (blankFault_length_le _ _)
  | sse r =>
    refine pairwise_append_inPlace ?_ (secondsFault_length_le _ _) ?_
    · split
      · exact inPlace_pairwise (Nat.le_refl 1)
      · exact inPlace_pairwise (schemeFault_length_le _ _)
    · rintro ⟨place, fault⟩ found
      split at found
      all_goals
        obtain ⟨rfl, -⟩ := mem_inPlace.mp found
        exact .within rfl rfl (by decide)

/-- What is found is found in the order of the places. -/
theorem marked_pairwise (ascending : Members.Ascending c.servers) :
    (marked c).Pairwise Earlier := by
  refine List.pairwise_append.mpr ⟨client_pairwise c.client, ?_, ?_⟩
  · refine List.pairwise_flatMap.mpr ⟨fun entry _ => server_pairwise entry.1 entry.2, ?_⟩
    refine ascending.imp fun {a b} less => ?_
    rintro ⟨p, _⟩ here ⟨q, _⟩ there
    obtain ⟨own, own_eq⟩ := own_of_mem_server here
    obtain ⟨own', own_eq'⟩ := own_of_mem_server there
    exact .names own_eq own_eq' less
  · rintro ⟨p, _⟩ here ⟨q, _⟩ there
    obtain ⟨entry, -, there⟩ := List.mem_flatMap.mp there
    obtain ⟨own, own_eq⟩ := own_of_mem_server there
    exact .across (own_of_mem_client here) own_eq

/-- The head of an ordered list is the member that comes before all others. -/
theorem head?_eq_some_iff_first {l : List (Place × ConfigFault)} (ordered : l.Pairwise Earlier)
    {a : Place × ConfigFault} :
    l.head? = some a ↔ a ∈ l ∧ ∀ b ∈ l, b = a ∨ Earlier a b := by
  cases l with
  | nil => simp
  | cons first rest =>
    have behind := (List.pairwise_cons.mp ordered).1
    rw [List.head?_cons, Option.some.injEq]
    constructor
    · rintro rfl
      exact ⟨List.mem_cons_self, fun b there =>
        (List.mem_cons.mp there).imp_right (behind b)⟩
    · rintro ⟨there, least⟩
      rcases List.mem_cons.mp there with rfl | later
      · rfl
      · rcases least first List.mem_cons_self with same | before
        · exact same
        · exact absurd (behind a later) before.asymm

theorem first_iff_head (ascending : Members.Ascending c.servers) :
    First c place fault ↔ (marked c).head? = some (place, fault) := by
  rw [head?_eq_some_iff_first (marked_pairwise ascending), mem_marked]
  constructor
  · rintro ⟨wrong, first⟩
    refine ⟨wrong, ?_⟩
    rintro ⟨other, fault'⟩ found
    rw [Prod.mk.injEq]
    exact first (mem_marked.mp found)
  · rintro ⟨wrong, first⟩
    refine ⟨wrong, fun {other fault'} wrong' => ?_⟩
    rw [← Prod.mk.injEq]
    exact first _ (mem_marked.mpr wrong')

end Order

/-! ### The check -/

section Check

variable {c : Config}

theorem map_snd_inPlace (place : Place) (faults : List ConfigFault) :
    (inPlace place faults).map Prod.snd = faults := by
  rw [inPlace, List.map_map]
  exact List.map_id faults

/-- The check stops at a URL that is none, and what it reports of the server is the same. -/
theorem head_server (name : String) (server : Server) :
    ((server.marked name).map Prod.snd).head? = (server.faults name).head? := by
  cases server with
  | stdio => rw [Server.marked, map_snd_inPlace, Server.faults]
  | sse r =>
    rw [Server.marked, Server.faults, List.map_append, map_snd_inPlace]
    cases Url.parse r.url with
    | error => rfl
    | ok => rw [map_snd_inPlace]

theorem head_faults (c : Config) : (faults c).head? = (marked c).head?.map Prod.snd := by
  have client : c.client.marked.map Prod.snd = c.client.faults := by
    simp only [ClientSettings.marked, ClientSettings.faults, List.map_append, map_snd_inPlace]
  rw [← List.head?_map, marked, List.map_append, client, faults, List.head?_append,
    List.head?_append, List.map_flatMap, List.head?_flatMap, List.head?_flatMap]
  simp only [head_server]

theorem check_eq (c : Config) : check c =
    match (marked c).head? with
    | none => .ok ()
    | some found => .error (.config found.2) := by
  have head := head_faults c
  unfold check
  cases found : faults c with
  | nil =>
    rw [found, List.head?_nil, eq_comm, Option.map_eq_none_iff] at head
    rw [head]
  | cons fault rest =>
    rw [found, List.head?_cons, eq_comm, Option.map_eq_some_iff] at head
    obtain ⟨first, head, rfl⟩ := head
    rw [head]

theorem check_ok_iff : check c = .ok () ↔ Sound c := by
  rw [sound_iff, check_eq]
  constructor
  · intro accepted place fault wrong
    have found := mem_marked.mpr wrong
    cases marked_eq : marked c with
    | nil =>
      rw [marked_eq] at found
      cases found
    | cons first rest =>
      rw [marked_eq] at accepted
      cases accepted
  · intro none
    have empty : marked c = [] :=
      List.eq_nil_iff_forall_not_mem.mpr fun found there => none _ _ (mem_marked.mp there)
    rw [empty]
    rfl

theorem check_error_iff (ascending : Members.Ascending c.servers) {e : Error} :
    check c = .error e ↔ ∃ place fault, e = .config fault ∧ First c place fault := by
  simp only [first_iff_head ascending, check_eq]
  cases (marked c).head? with
  | none => simp
  | some found =>
    obtain ⟨place, fault⟩ := found
    simp only [Option.some.injEq, Prod.mk.injEq, Except.error.injEq]
    constructor
    · rintro rfl
      exact ⟨place, fault, rfl, rfl, rfl⟩
    · rintro ⟨_, _, rfl, rfl, rfl⟩
      rfl

end Check

/-! ### What is made of settings -/

/-- The transport of a server whose URL is one, and of any program, can be made. -/
theorem connector_of_sound {c : Config} (sound : Sound c) {name : String} {server : Server}
    (there : (name, server) ∈ c.servers) :
    ∃ connector, server.connector = .ok connector ∧ connector.status = .disconnected := by
  cases server with
  | stdio => exact ⟨_, rfl, rfl⟩
  | sse r =>
    obtain ⟨url, read, -⟩ := sound.remotes there
    refine ⟨.remote (.new url (r.endpointTimeout * 1000)), ?_, rfl⟩
    rw [Server.connector, read]

/-! ### The order of the servers -/

/-- The servers of settings that are put together are in the order of their names. -/
theorem ascending_of_build {ν : Type} [Source ν] {given rest : List (Option ν)} {c : Config}
    (built : (record ν).build given = some (c, rest)) : Members.Ascending c.servers := by
  obtain ⟨_, slot, servers, two, value, rfl⟩ := Record.build_field built
  obtain ⟨_, _, logging, one, -, rfl⟩ := Record.build_field two
  obtain ⟨_, _, client, none, -, rfl⟩ := Record.build_field one
  obtain ⟨rfl, -⟩ := Record.build_pure none
  cases slot with
  | none =>
    cases value
    exact .nil
  | some v =>
    obtain ⟨named, -, rfl⟩ := of_map_eq_ok (toOption_eq_some_iff.mp value)
    exact Members.ofList_ascending named

theorem ascending_of_read {n : Yaml.Node} {c : Config} (known : read n = .ok c) :
    Members.Ascending c.servers := by
  have made {members : List (String × Yaml.Node)}
      (known : (record Yaml.Node).ofMembers members = .ok c) : Members.Ascending c.servers := by
    obtain ⟨-, -, rest, built⟩ := Record.ofMembers_eq_ok_iff.mp known
    exact ascending_of_build built
  have node : Yaml.Node.record "Config" (record Yaml.Node) n = .ok c := known
  unfold Yaml.Node.record at node
  split at node
  · obtain ⟨named, -, node⟩ := of_bind_eq_ok node
    obtain ⟨_, -, node⟩ := of_bind_eq_ok node
    exact made node
  · split at node
    · exact made node
    · cases node

/-- The servers of settings that are loaded are in the order of their names. -/
theorem ascending_of_load {f : File} {e : Environment} {o : Overrides} {c : Config}
    (loaded : load f e o = .ok c) : Members.Ascending c.servers := by
  obtain ⟨found, known, loaded⟩ := of_bind_eq_ok loaded
  cases loaded
  show Members.Ascending found.servers
  cases ofFile_eq_ok_iff.mp known with
  | missing => exact .nil
  | bytes _ read => exact ascending_of_read read

/-! ### What the check says -/

/-- What the check of settings says. -/
structure Checks (c : Config) : Prop where
  /-- It accepts settings with which nothing is wrong, and no others. -/
  accepts : check c = .ok () ↔ Sound c
  /-- It reports of others what is wrong in the first place where anything is. -/
  reports : ∀ e, check c = .error e ↔ ∃ place fault, e = .config fault ∧ First c place fault
  /-- The transports of accepted settings can be made, and are not connected then. -/
  transports : check c = .ok () → ∀ entry ∈ c.servers, ∃ connector,
    entry.2.connector = .ok connector ∧ connector.status = .disconnected
  /-- Clients with accepted settings have time for everything. -/
  timeouts : check c = .ok () → 0 < c.client.toSettings.requestTimeout ∧
    0 < c.client.toSettings.initializationTimeout ∧ 0 < c.client.toSettings.closeTimeout

/-- The check finds the first fault of settings whose servers are in the order of their names. -/
theorem check_finds_first {c : Config} (ascending : Members.Ascending c.servers) : Checks c where
  accepts := check_ok_iff
  reports _ := check_error_iff ascending
  transports accepted := fun _ there => connector_of_sound (check_ok_iff.mp accepted) there
  timeouts accepted := by
    have sound := check_ok_iff.mp accepted
    have thousand : 0 < 1000 := by decide
    exact ⟨Nat.mul_pos sound.requestTimeout thousand,
      Nat.mul_pos sound.initializationTimeout thousand, Nat.mul_pos sound.closeTimeout thousand⟩

/-- Settings with three servers. A mail server is no server that is read from, and its timeout is
zero; the command of another one is blank. -/
def threeServers : Config :=
  ⟨.default, .default,
    [("files", .stdio ⟨"files", [], [], none, true⟩), ("mail", .sse ⟨"mailto:server", [], 0⟩),
      ("search", .stdio ⟨" ", [], [], none, true⟩)]⟩

/-- Of the three faults of these settings the check reports the first. -/
theorem check_finds_first_of_three : Members.Ascending threeServers.servers ∧
    Checks threeServers ∧ check threeServers = .error (.config (.badScheme "mail" "mailto")) := by
  have ascending : Members.Ascending threeServers.servers := by
    unfold Members.Ascending
    decide
  have reported : check threeServers = .error (.config (.badScheme "mail" "mailto")) := rfl
  exact ⟨ascending, check_finds_first ascending, reported⟩

end Mcp.Config
