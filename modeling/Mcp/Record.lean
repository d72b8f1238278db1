import Mcp.Json.Mismatch

/-!
Record types, whatever kind of value their fields are read from. A record is an object, or an
array of its fields in the order of their declaration. Of the values of an object the first unfit
one in the object's order is reported, and missing fields after that in the order of their
declaration.
-/

namespace Mcp

open Json (Mismatch)

/-- Values of which one stands for nothing. -/
class Nullable (ν : Type) where
  /-- Whether a value is null; a mismatch if it says that it is and is not. -/
  isNull : ν → Except Mismatch Bool

/-- A value, or nothing for null. -/
def orNull {ν α : Type} [Nullable ν] (read : ν → Except Mismatch α) (v : ν) :
    Except Mismatch (Option α) := do
  if ← Nullable.isNull v then .ok none else (read v).map some

/-- A field of a record: how its value is read, the value that it has in an object without its
key, and the value that it has in an array that ends before it. -/
structure Field (ν α : Type) where
  key : String
  read : ν → Except Mismatch α
  whenMissing : Option α
  whenShort : Option α

namespace Field

variable {ν α : Type}

def required (key : String) (read : ν → Except Mismatch α) : Field ν α := ⟨key, read, none, none⟩

def optional [Nullable ν] (key : String) (read : ν → Except Mismatch α) : Field ν (Option α) :=
  ⟨key, orNull read, some none, none⟩

def withDefault (key : String) (read : ν → Except Mismatch α) (value : α) : Field ν α :=
  ⟨key, read, some value, some value⟩

end Field

/-- What is checked of a field before a record is put together. -/
structure Rule (ν : Type) where
  key : String
  /-- Why a value does not fit the field. -/
  fault : ν → Option Mismatch
  /-- Whether an object must have the field. -/
  needed : Bool
  /-- Whether an array must reach the field. -/
  neededInArray : Bool

def Field.rule {ν α : Type} (f : Field ν α) : Rule ν where
  key := f.key
  fault v :=
    match f.read v with
    | .ok _ => none
    | .error e => some e
  needed := f.whenMissing.isNone
  neededInArray := f.whenShort.isNone

def Field.value {ν α : Type} (f : Field ν α) : Option ν → Option α
  | some v => (f.read v).toOption
  | none => f.whenMissing <|> f.whenShort

/-- A record type: the rules of its fields in the order of their declaration, and how a value is
put together from what is given for each of them. -/
structure Record (ν α : Type) where
  rules : List (Rule ν)
  build : List (Option ν) → Option (α × List (Option ν))

namespace Record

variable {ν α β : Type}

def pure (a : α) : Record ν α := ⟨[], fun given => some (a, given)⟩

def field (r : Record ν (α → β)) (f : Field ν α) : Record ν β where
  rules := r.rules ++ [f.rule]
  build given := do
    let (make, rest) ← r.build given
    match rest with
    | slot :: rest => do
      let a ← f.value slot
      some (make a, rest)
    | [] => none

/-- Puts the value together. -/
def assemble (r : Record ν α) (given : List (Option ν)) : Except Mismatch α :=
  match r.build given with
  | some (a, _) => .ok a
  | none => .error (.other "incomplete record")

/-- The first value of an object that does not fit its field. -/
def firstFault (r : Record ν α) (members : List (String × ν)) : Option Mismatch :=
  members.findSome? fun m =>
    (r.rules.find? fun rule => rule.key = m.1).bind fun rule => rule.fault m.2

def firstMissing (r : Record ν α) (members : List (String × ν)) : Option String :=
  (r.rules.find? fun rule => rule.needed && (Members.lookup members rule.key).isNone).map Rule.key

/-- Reads the record from the members of an object. Members that are no fields are ignored. -/
def ofMembers (r : Record ν α) (members : List (String × ν)) : Except Mismatch α :=
  match r.firstFault members with
  | some e => .error e
  | none =>
    match r.firstMissing members with
    | some key => .error (.missingField key)
    | none => r.assemble (r.rules.map fun rule => Members.lookup members rule.key)

def elements (n : Nat) : String := toString n ++ (if n = 1 then " element" else " elements")

/-- The first place behind the items of an array where a field must be given. -/
def firstShort (r : Record ν α) (count : Nat) : Option Nat :=
  ((r.rules.drop count).findIdx? Rule.neededInArray).map (count + ·)

def ofItems (r : Record ν α) (type tooMany : String) (items : List ν) : Except Mismatch α :=
  match (r.rules.zip items).findSome? fun (rule, v) => rule.fault v with
  | some e => .error e
  | none =>
    match r.firstShort items.length with
    | some place =>
      .error (.tooFewItems place (type ++ " with " ++ elements r.rules.length))
    | none =>
      if r.rules.length < items.length then .error (.tooManyItems items.length tooMany)
      else
        r.assemble (items.map some ++ List.replicate (r.rules.length - items.length) none)

end Record

/-- One of several records that a field tells apart. -/
structure Variant (ν α : Type) where
  name : String
  /-- The name of the variant in messages. -/
  title : String
  record : Record ν α

end Mcp
