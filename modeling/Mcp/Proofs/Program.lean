import Mcp.Program

/-!
What an operation does before a program that goes on with its result. `Operation.before` puts the
two together; the equations say what each way of building operations comes to, so that an operation
can be read as the program that it is. `Goes` lists the deeds of a program up to its result, for
all that they may give.
-/

namespace Mcp.Program

variable {σ ε α β γ : Type}

theorem bind_assoc (p : Program σ ε α) (f : α → Program σ ε β) (g : β → Program σ ε γ) :
    (p.bind f).bind g = p.bind fun a => (f a).bind g := by
  induction p with
  | done => rfl
  | request _ _ _ _ ih | notify _ _ _ ih | respond _ _ ih | now _ ih | update _ _ ih
  | await _ _ _ ih | health _ ih | close _ _ ih =>
    simp only [bind]
    congr
    funext r
    exact ih r
  | sleep _ _ ih | emit _ _ ih =>
    simp only [bind]
    congr

/-! ### The ways of a program -/

/-- An operation of a program with what it gave. -/
inductive Deed (σ ε : Type) where
  | request (method : String) (params : Json) (timeout : Option Nat) (answer : Except Error Json)
  | notify (method : String) (params : Json) (result : Except Error Unit)
  | respond (response : Response) (result : Except Error Unit)
  | sleep (milliseconds : Nat)
  | now (time : Nat)
  | emit (event : ε)
  | update (change : σ → σ) (found : σ)
  | await (wanted : σ → Bool) (timeout : Nat) (found : Option σ)
  | health (result : Except Error Unit)
  | close (graceful : Bool) (result : Except Error Unit)

/-- The first deed of a program and what follows on it. -/
inductive Does : Program σ ε α → Deed σ ε → Program σ ε α → Prop
  | request {method params timeout next} (answer : Except Error Json) :
      Does (.request method params timeout next) (.request method params timeout answer)
        (next answer)
  | notify {method params next} (result : Except Error Unit) :
      Does (.notify method params next) (.notify method params result) (next result)
  | respond {response next} (result : Except Error Unit) :
      Does (.respond response next) (.respond response result) (next result)
  | sleep {milliseconds next} : Does (.sleep milliseconds next) (.sleep milliseconds) next
  | now {next} (time : Nat) : Does (.now next) (.now time) (next time)
  | emit {event next} : Does (.emit event next) (.emit event) next
  | update {change next} (found : σ) :
      Does (.update change next) (.update change found) (next found)
  | await {wanted timeout next} (found : Option σ) :
      Does (.await wanted timeout next) (.await wanted timeout found) (next found)
  | health {next} (result : Except Error Unit) : Does (.health next) (.health result) (next result)
  | close {graceful next} (result : Except Error Unit) :
      Does (.close graceful next) (.close graceful result) (next result)

/-- The deeds of a program up to its result. Each may give anything that it can give. -/
inductive Goes : Program σ ε α → List (Deed σ ε) → α → Prop
  | done (a : α) : Goes (.done a) [] a
  | does {p q : Program σ ε α} {deed : Deed σ ε} {deeds : List (Deed σ ε)} {a : α} :
      Does p deed q → Goes q deeds a → Goes p (deed :: deeds) a

section Ways

variable {p : Program σ ε α} {f : α → Program σ ε β} {deed : Deed σ ε} {deeds : List (Deed σ ε)}

theorem Does.bind {q : Program σ ε α} (does : Does p deed q) :
    Does (p.bind f) deed (q.bind f) := by
  cases does <;> constructor

theorem of_does_bind {q : Program σ ε β} (does : Does (p.bind f) deed q) :
    (∃ a, p = .done a) ∨ ∃ q', Does p deed q' ∧ q = q'.bind f := by
  cases p with
  | done a => exact .inl ⟨a, rfl⟩
  | request | notify | respond | sleep | now | emit | update | await | health | close =>
    cases does
    exact .inr ⟨_, by constructor, rfl⟩

theorem goes_done_iff {a b : α} : Goes (.done a : Program σ ε α) deeds b ↔ deeds = [] ∧ b = a := by
  constructor
  · intro goes
    cases goes with
    | done => exact ⟨rfl, rfl⟩
    | does does => cases does
  · rintro ⟨rfl, rfl⟩
    exact .done _

/-- A program goes through the first part of it and then through what follows on its result. -/
theorem goes_bind_iff {b : β} : Goes (p.bind f) deeds b ↔
    ∃ first rest a, deeds = first ++ rest ∧ Goes p first a ∧ Goes (f a) rest b := by
  constructor
  · intro goes
    generalize whole : p.bind f = q at goes
    induction goes generalizing p with
    | done b =>
      cases p with
      | done a =>
        have same : f a = .done b := whole
        exact ⟨[], [], a, rfl, .done a, same ▸ .done b⟩
      | _ => cases whole
    | does does goes ih =>
      subst whole
      rcases of_does_bind does with ⟨a, rfl⟩ | ⟨q', does', rfl⟩
      · exact ⟨[], _, a, rfl, .done a, .does does goes⟩
      · obtain ⟨first, rest, a, rfl, goes', follows⟩ := ih rfl
        exact ⟨_ :: first, rest, a, rfl, .does does' goes', follows⟩
  · rintro ⟨first, rest, a, rfl, goes, follows⟩
    induction goes with
    | done => exact follows
    | does does _ ih => exact .does does.bind (ih follows)

end Ways

namespace Operation

/-- An operation and the program that goes on with its result. -/
def before (op : Operation σ ε α) (next : Except Error α → Program σ ε β) : Program σ ε β :=
  op.run.bind next

variable (next : Except Error α → Program σ ε β)

@[simp] theorem before_pure (a : α) : before (pure a) next = next (.ok a) := rfl

@[simp] theorem before_throw (e : Error) : before (throw e) next = next (.error e) := rfl

/-- What follows an operation is skipped if the operation fails. -/
def onSuccess (op : α → Operation σ ε γ) (next : Except Error γ → Program σ ε β) :
    Except Error α → Program σ ε β
  | .ok a => (op a).before next
  | .error e => next (.error e)

/-- What is done about a failure is skipped if the operation succeeds. -/
def onFailure (op : Error → Operation σ ε α) (next : Except Error α → Program σ ε β) :
    Except Error α → Program σ ε β
  | .ok a => next (.ok a)
  | .error e => (op e).before next

@[simp] theorem onSuccess_ok (op : α → Operation σ ε γ) (next : Except Error γ → Program σ ε β)
    (a : α) : onSuccess op next (.ok a) = (op a).before next := rfl

@[simp] theorem onSuccess_error (op : α → Operation σ ε γ)
    (next : Except Error γ → Program σ ε β) (e : Error) :
    onSuccess op next (.error e) = next (.error e) := rfl

@[simp] theorem onFailure_ok (op : Error → Operation σ ε α) (a : α) :
    onFailure op next (.ok a) = next (.ok a) := rfl

@[simp] theorem before_bind (op : Operation σ ε γ) (f : γ → Operation σ ε α) :
    before (op >>= f) next = op.before (onSuccess f next) := by
  show Program.bind (Program.bind op.run _) next = _
  rw [bind_assoc, before]
  congr
  funext r
  cases r <;> rfl

@[simp] theorem before_tryCatch (op : Operation σ ε α) (f : Error → Operation σ ε α) :
    before (tryCatch op f) next = op.before (onFailure f next) := by
  show Program.bind (Program.bind op.run _) next = _
  rw [bind_assoc, before]
  congr
  funext r
  cases r <;> rfl

@[simp] theorem before_lift (p : Program σ ε α) :
    before (ExceptT.lift p) next = p.bind fun a => next (.ok a) :=
  bind_assoc p _ next

@[simp] theorem before_call (read : Json.Reader α) (method : String) (params : Json)
    (timeout : Option Nat) : before (call read method params timeout) next =
      .request method params timeout fun answer => next (answer.bind (unmarshal read)) := rfl

@[simp] theorem before_notify (method : String) (params : Json)
    (next : Except Error Unit → Program σ ε β) :
    before (notify method params) next = .notify method params next := rfl

@[simp] theorem before_health (next : Except Error Unit → Program σ ε β) :
    before health next = .health next := rfl

@[simp] theorem before_close (graceful : Bool) (next : Except Error Unit → Program σ ε β) :
    before (close graceful) next = .close graceful next := rfl

@[simp] theorem before_update (change : σ → σ) (next : Except Error σ → Program σ ε β) :
    before (update change) next = .update change fun s => next (.ok s) := rfl

@[simp] theorem before_shared (next : Except Error σ → Program σ ε β) :
    before shared next = .update id fun s => next (.ok s) := rfl

@[simp] theorem before_await (wanted : σ → Bool) (timeout : Nat)
    (next : Except Error (Option σ) → Program σ ε β) :
    before (await wanted timeout) next = .await wanted timeout fun s => next (.ok s) := rfl

@[simp] theorem before_ite {p : Prop} [Decidable p] (a b : Operation σ ε α) :
    before (if p then a else b) next = if p then a.before next else b.before next := by
  split <;> rfl

/-! ### The ways of an operation -/

section Ways

variable {op : Operation σ ε γ} {f : γ → Operation σ ε α} {deeds : List (Deed σ ε)}
  {r : Except Error α}

theorem goes_pure_iff {a : α} :
    Goes (pure a : Operation σ ε α).run deeds r ↔ deeds = [] ∧ r = .ok a := goes_done_iff

theorem goes_throw_iff {e : Error} :
    Goes (throw e : Operation σ ε α).run deeds r ↔ deeds = [] ∧ r = .error e := goes_done_iff

theorem goes_bind_iff : Goes (op >>= f).run deeds r ↔
    (∃ e, Goes op.run deeds (.error e) ∧ r = .error e) ∨
      ∃ first rest c, deeds = first ++ rest ∧ Goes op.run first (.ok c) ∧
        Goes (f c).run rest r := by
  refine (Program.goes_bind_iff (p := op.run)).trans ?_
  constructor
  · rintro ⟨first, rest, c | c, rfl, goes, follows⟩
    · obtain ⟨rfl, rfl⟩ := goes_done_iff.mp follows
      exact .inl ⟨c, by rwa [List.append_nil], rfl⟩
    · exact .inr ⟨first, rest, c, rfl, goes, follows⟩
  · rintro (⟨e, goes, rfl⟩ | ⟨first, rest, c, rfl, goes, follows⟩)
    · exact ⟨deeds, [], .error e, (List.append_nil _).symm, goes, .done _⟩
    · exact ⟨first, rest, .ok c, rfl, goes, follows⟩

end Ways

end Operation

end Mcp.Program
