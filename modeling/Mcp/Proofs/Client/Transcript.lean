import Mcp.Proofs.Client.Handshake

/-!
What a client's transcript says of its handshakes: which it asked for, what the server answered,
and whether the client announced that it is initialized.
-/

namespace Mcp.Client

open Schema (Agreement)
open Session (Traffic)

/-- The id of a handshake that is asked for. -/
def askId? : Traffic → Option RequestId
  | .offered (.request r) _ => if r.method = "initialize" then some r.id else none
  | _ => none

/-- The ids of all handshakes that were asked for, in order. -/
def asks (t : List Traffic) : List RequestId := t.filterMap askId?

/-- An attempt to announce that the client is initialized: the transport was handed the
announcement, or the session was closed and did not take it. -/
def isAttempt : Traffic → Bool
  | .offered (.notification n) _ => n.method = "notifications/initialized"
  | .withheld method => method = "notifications/initialized"
  | _ => false

def attempts (t : List Traffic) : Nat := t.countP isAttempt

/-- The transport was handed the announcement. -/
def Announced (t : List Traffic) : Prop := ∃ result, .offered announcement result ∈ t

/-- A handshake was asked for under an id, and a response with that id was heard that agrees on a
version that is understood. -/
structure Answers (t : List Traffic) (id : RequestId) (a : Agreement) : Prop where
  asked : ∃ params, .offered (.request (.new id "initialize" params)) (.ok ()) ∈ t
  heard : ∃ r value, .heard (.response r) ∈ t ∧ r.id = some id ∧ r.answer = .ok value ∧
    unmarshal Agreement.reader value = .ok a
  supported : a.isSupported = true

/-- An agreement is the answer to the last handshake that was asked for. -/
def AnswersLast (t : List Traffic) (a : Agreement) : Prop :=
  ∃ id, (asks t).getLast? = some id ∧ Answers t id a

section Growth

variable {t : List Traffic} {a : Agreement} {id : RequestId}

@[simp] theorem asks_append (t more : List Traffic) : asks (t ++ more) = asks t ++ asks more :=
  List.filterMap_append

@[simp] theorem attempts_append (t more : List Traffic) :
    attempts (t ++ more) = attempts t + attempts more := List.countP_append

theorem Announced.more (announced : Announced t) (more : List Traffic) : Announced (t ++ more) := by
  obtain ⟨result, there⟩ := announced
  exact ⟨result, List.mem_append_left _ there⟩

theorem Answers.more (answers : Answers t id a) (more : List Traffic) :
    Answers (t ++ more) id a := by
  obtain ⟨⟨params, asked⟩, ⟨r, value, heard, own⟩, supported⟩ := answers
  exact ⟨⟨params, List.mem_append_left _ asked⟩,
    ⟨r, value, List.mem_append_left _ heard, own⟩, supported⟩

/-- It stays the answer to the last handshake while no other is asked for. -/
theorem AnswersLast.more (answers : AnswersLast t a) (more : List Traffic)
    (quiet : asks more = []) : AnswersLast (t ++ more) a := by
  obtain ⟨id, last, answers⟩ := answers
  refine ⟨id, ?_, answers.more more⟩
  rw [asks_append, quiet, List.append_nil]
  exact last

end Growth

end Mcp.Client
