import Mathlib.Data.List.Induction
import Mathlib.Data.List.Nodup
import Mcp.Proofs.Members
import Mcp.Toolbox.Basic

/-! What tools are known by, and where the table leads. A key leads to the last entry that has it; so
every entry is found under its key if and only if no two entries have the same. Two may: the name of a
tool can be the qualified name of another, and names with dots can be qualified to the same. -/

namespace Mcp.Toolbox

open Schema (Tool)

/-- Where an entry is. -/
def Entry.route (e : Entry) : Route := ⟨e.server, e.tool.name⟩

/-- No server lists two tools of one name. -/
def Once (found : List Entry) : Prop := (found.map Entry.route).Nodup

/-- Another server has a tool of the same name. -/
def Shared (found : List Entry) (e : Entry) : Prop :=
  ∃ other ∈ found, other.tool.name = e.tool.name ∧ other.server ≠ e.server

theorem entry_of_route {found : List Entry} (once : Once found) {e other : Entry} (here : e ∈ found)
    (there : other ∈ found) (same : e.route = other.route) : e = other :=
  List.inj_on_of_nodup_map once here there same

/-! ### Keys -/

theorem countP_entries (collected : List (String × Tool)) (name : String) :
    (entries collected).countP (fun e => e.tool.name = name) = occurrences collected name := by
  rw [entries, List.countP_map]
  rfl

theorem key_of_mem {collected : List (String × Tool)} {e : Entry} (inside : e ∈ entries collected) :
    e.key = if 1 < (entries collected).countP (fun other => other.tool.name = e.tool.name)
      then qualified e.server e.tool.name else e.tool.name := by
  obtain ⟨item, place, rfl⟩ := List.mem_map.mp inside
  rw [countP_entries]

theorem exists_mem_ne {α : Type} {l : List α} (several : 1 < l.length) (distinct : l.Nodup) (a : α) :
    ∃ b ∈ l, b ≠ a := by
  match l with
  | b :: c :: rest =>
    by_cases first : b = a
    · refine ⟨c, by simp, fun second => ?_⟩
      rw [first, second] at distinct
      simp at distinct
    · exact ⟨b, by simp, first⟩

theorem one_lt_countP_iff {found : List Entry} (once : Once found) {e : Entry} (inside : e ∈ found) :
    1 < found.countP (fun other => other.tool.name = e.tool.name) ↔ Shared found e := by
  rw [List.countP_eq_length_filter]
  have named (other : Entry) : other ∈ found.filter (fun other => other.tool.name = e.tool.name) ↔
      other ∈ found ∧ other.tool.name = e.tool.name := by simp
  have distinct : (found.filter fun other => other.tool.name = e.tool.name).Nodup :=
    (once.of_map _).filter _
  generalize found.filter (fun other => other.tool.name = e.tool.name) = same at named distinct
  have own : e ∈ same := (named e).mpr ⟨inside, rfl⟩
  constructor
  · intro several
    obtain ⟨other, there, differ⟩ := exists_mem_ne several distinct e
    obtain ⟨listed, name⟩ := (named other).mp there
    refine ⟨other, listed, name, fun server => differ ?_⟩
    exact entry_of_route once listed inside (by rw [Entry.route, Entry.route, server, name])
  · rintro ⟨other, listed, name, server⟩
    have there : other ∈ same := (named other).mpr ⟨listed, name⟩
    have differ : other ≠ e := fun same => server (by rw [same])
    match same with
    | [] => cases own
    | [x] => exact absurd (by rw [List.mem_singleton.mp there, List.mem_singleton.mp own]) differ
    | _ :: _ :: _ => exact Nat.succ_lt_succ (Nat.succ_pos _)

/-- A tool is known by its name, and by its server and name if another server has one of that name. -/
theorem key_eq {collected : List (String × Tool)} (once : Once (entries collected)) {e : Entry}
    (inside : e ∈ entries collected) :
    (Shared (entries collected) e ∧ e.key = qualified e.server e.tool.name) ∨
      (¬Shared (entries collected) e ∧ e.key = e.tool.name) := by
  have key := key_of_mem inside
  have several := one_lt_countP_iff once inside
  split at key
  · rename_i often
    exact .inl ⟨several.mp often, key⟩
  · rename_i rare
    exact .inr ⟨fun shared => rare (several.mpr shared), key⟩

/-- Two entries that are known by the same. -/
inductive Clash (found : List Entry) (e other : Entry) : Prop where
  /-- The name of the one is the qualified name of the other. -/
  | name (plain : ¬Shared found e) (shared : Shared found other)
    (same : e.tool.name = qualified other.server other.tool.name)
  /-- Their qualified names are the same. -/
  | both (shared : Shared found e) (shared' : Shared found other) (differ : e.route ≠ other.route)
    (same : qualified e.server e.tool.name = qualified other.server other.tool.name)

section

variable {collected : List (String × Tool)}

theorem clash_of_key_eq (once : Once (entries collected)) {e other : Entry}
    (here : e ∈ entries collected) (there : other ∈ entries collected) (same : e.key = other.key)
    (differ : e ≠ other) : Clash (entries collected) e other ∨ Clash (entries collected) other e := by
  have apart : e.route ≠ other.route := fun same => differ (entry_of_route once here there same)
  rcases key_eq once here with ⟨shared, key⟩ | ⟨plain, key⟩
  · rcases key_eq once there with ⟨shared', key'⟩ | ⟨plain', key'⟩
    · exact .inl (.both shared shared' apart (by rw [← key, ← key', same]))
    · exact .inr (.name plain' shared (by rw [← key, ← key', same]))
  · rcases key_eq once there with ⟨shared', key'⟩ | ⟨plain', key'⟩
    · exact .inl (.name plain shared' (by rw [← key, ← key', same]))
    · have name : other.tool.name = e.tool.name := by rw [← key, ← key', same]
      have server : other.server ≠ e.server := fun server =>
        apart (by rw [Entry.route, Entry.route, server, name])
      exact absurd ⟨other, there, name, server⟩ plain

theorem Clash.key_eq {found : List Entry} {e other : Entry} (clash : Clash found e other)
    (keys : ∀ x ∈ found, (Shared found x ∧ x.key = qualified x.server x.tool.name) ∨
      (¬Shared found x ∧ x.key = x.tool.name)) (here : e ∈ found) (there : other ∈ found) :
    e.key = other.key ∧ e ≠ other := by
  have known {x : Entry} (place : x ∈ found) (shared : Shared found x) :
      x.key = qualified x.server x.tool.name :=
    ((keys x place).resolve_right fun plain => plain.1 shared).2
  cases clash with
  | name plain shared same =>
    have key : e.key = e.tool.name := ((keys e here).resolve_left fun some => plain some.1).2
    refine ⟨by rw [key, same, known there shared], ?_⟩
    rintro rfl
    exact plain shared
  | both shared shared' differ same =>
    refine ⟨by rw [known here shared, same, known there shared'], ?_⟩
    rintro rfl
    exact differ rfl

/-- No two entries have the same key, unless some clash. -/
theorem nodup_keys_iff (once : Once (entries collected)) :
    ((entries collected).map Entry.key).Nodup ↔
      ∀ e ∈ entries collected, ∀ other ∈ entries collected, ¬Clash (entries collected) e other := by
  constructor
  · intro distinct e here other there clash
    obtain ⟨same, differ⟩ := clash.key_eq (fun _ => key_eq once) here there
    exact differ (List.inj_on_of_nodup_map distinct here there same)
  · intro free
    refine List.Nodup.map_on (fun e here other there same => ?_) (once.of_map _)
    apply Classical.byContradiction
    intro differ
    rcases clash_of_key_eq once here there same differ with clash | clash
    · exact free e here other there clash
    · exact free other there e here clash

end

/-! ### Names without dots -/

theorem dot_mem_qualified (server tool : String) : '.' ∈ (qualified server tool).toList := by
  simp [qualified]

/-- Texts behind the last dot are the same, and those before it. -/
theorem behind_last_dot {front front' back back' : List Char} (plain : '.' ∉ back)
    (plain' : '.' ∉ back') (same : front ++ '.' :: back = front' ++ '.' :: back') :
    front = front' ∧ back = back' := by
  induction front generalizing front' with
  | nil =>
    cases front' with
    | nil =>
      cases same
      exact ⟨rfl, rfl⟩
    | cons c front' =>
      have behind : back = front' ++ '.' :: back' := (List.cons.inj same).2
      exact absurd (by simp [behind]) plain
  | cons c front ih =>
    cases front' with
    | nil =>
      have behind : front ++ '.' :: back = back' := (List.cons.inj same).2
      exact absurd (by simp [← behind]) plain'
    | cons c' front' =>
      obtain ⟨first, rest⟩ := List.cons.inj same
      obtain ⟨before, behind⟩ := ih rest
      exact ⟨by rw [first, before], behind⟩

theorem qualified_inj {server server' tool tool' : String} (plain : '.' ∉ tool.toList)
    (plain' : '.' ∉ tool'.toList) (same : qualified server tool = qualified server' tool') :
    server = server' ∧ tool = tool' := by
  have texts := congrArg String.toList same
  simp only [qualified, String.toList_append, List.append_assoc] at texts
  obtain ⟨before, behind⟩ := behind_last_dot plain plain' texts
  exact ⟨String.toList_inj.mp before, String.toList_inj.mp behind⟩

theorem Clash.dot_mem {found : List Entry} {e other : Entry} (clash : Clash found e other) :
    '.' ∈ e.tool.name.toList ∨ '.' ∈ other.tool.name.toList := by
  cases clash with
  | name plain shared same =>
    rw [same]
    exact .inl (dot_mem_qualified _ _)
  | both shared shared' differ same =>
    apply Classical.byContradiction
    rw [not_or]
    rintro ⟨plain, plain'⟩
    obtain ⟨server, tool⟩ := qualified_inj plain plain' same
    exact differ (by rw [Entry.route, Entry.route, server, tool])

/-! ### The table -/

theorem routes_concat (found : List Entry) (e : Entry) :
    routes (found ++ [e]) = Members.insert (routes found) e.key e.route := by
  rw [routes, List.foldl_append]
  rfl

/-- The table leads a key to the last entry that has it. -/
theorem lookup_routes {found before after : List Entry} {e : Entry} (place : found = before ++ e :: after)
    (last : ∀ later ∈ after, later.key ≠ e.key) :
    Members.lookup (routes found) e.key = some e.route := by
  subst place
  induction after using List.reverseRecOn with
  | nil => rw [routes_concat, Members.lookup_insert, if_pos rfl]
  | append_singleton after late ih =>
    rw [← List.cons_append, ← List.append_assoc, routes_concat, Members.lookup_insert,
      if_neg (last late (by simp))]
    exact ih fun later inside => last later (by simp [inside])

/-- Of the entries with a key there is a last one. -/
theorem exists_last {found : List Entry} {e : Entry} (inside : e ∈ found) :
    ∃ before final after, found = before ++ final :: after ∧ final.key = e.key ∧
      ∀ later ∈ after, later.key ≠ e.key := by
  induction found using List.reverseRecOn with
  | nil => cases inside
  | append_singleton found late ih =>
    by_cases same : late.key = e.key
    · exact ⟨found, late, [], rfl, same, fun later nowhere => absurd nowhere List.not_mem_nil⟩
    · have there : e ∈ found := by
        rcases List.mem_append.mp inside with there | own
        · exact there
        · exact absurd (by rw [List.mem_singleton.mp own]) same
      obtain ⟨before, final, after, split, key, last⟩ := ih there
      refine ⟨before, final, after ++ [late], by simp [split], key, fun later place => ?_⟩
      rcases List.mem_append.mp place with place | own
      · exact last later place
      · rwa [List.mem_singleton.mp own]

end Mcp.Toolbox
