import Mcp.Decimal.Real
import Mcp.Error
import Mcp.Logging.Pattern
import Mcp.Text.Blank
import Mcp.Text.Letter
import Mcp.Text.Utf8
import Mcp.Yaml.Scalar

/-!
Filters of log records. A filter is a list of directives with commas between them; each names a
target, a span, fields, a level, or several of these. Directives are kept with the most specific
first, and `write` gives them in this order.
-/

namespace Mcp.Logging

/-- The least severe records that pass. -/
inductive Level where
  | off
  | error
  | warn
  | info
  | debug
  | trace
  deriving DecidableEq, Repr, Inhabited

namespace Level

def name : Level → String
  | .off => "off"
  | .error => "error"
  | .warn => "warn"
  | .info => "info"
  | .debug => "debug"
  | .trace => "trace"

def all : List Level := [.off, .error, .warn, .info, .debug, .trace]

/-- Digits of a natural number, with or without a plus sign. -/
def number? (text : String) : Option Nat :=
  match text.toList with
  | '+' :: rest => Yaml.digits? 10 rest
  | cs => Yaml.digits? 10 cs

/-- A level by its name in letters of either case, or by its number from 0 for none at all. -/
def ofText? (text : String) : Option Level :=
  match number? text with
  | some n => all[n]?
  | none =>
    if text = "" then some .error
    else
      let name := String.ofList (text.toList.map Char.toLower)
      all.find? fun level => level.name = name

end Level

inductive Value where
  | bool (b : Bool)
  | real (x : Decimal.Real)
  /-- What is no number. -/
  | undefined
  | natural (n : Nat)
  | negative (n : Nat)
  /-- A text that matches a pattern. -/
  | pattern (text : String)
  deriving DecidableEq, Repr

namespace Value

/-- The number below zero that a text writes, or zero with its sign, if it is one of 64 bits. -/
def negative? (text : String) : Option Nat :=
  match text.toList with
  | '-' :: digits => (Yaml.digits? 10 digits).filter (· ≤ 0x8000000000000000)
  | _ => none

/-- A boolean, a number, or else a pattern; `none` for what is not even that. -/
def ofText? (text : String) : Option Value :=
  if text = "true" then some (.bool true)
  else if text = "false" then some (.bool false)
  else
    match (Level.number? text).filter (· < 0x10000000000000000), negative? text,
      Decimal.Real.ofText? text with
    | some n, _, _ => some (.natural n)
    | none, some n, _ => some (.negative n)
    | none, none, some .undefined => some .undefined
    | none, none, some x => some (.real x)
    | none, none, none => if Pattern.isPattern text then some (.pattern text) else none

/-- A number as it is written by itself; a pattern as it is. -/
def write : Value → String
  | .bool b => toString b
  | .real x => x.write
  | .undefined => Decimal.Real.undefined.write
  | .natural n => toString n
  | .negative n => if n = 0 then "0" else "-" ++ toString n
  | .pattern text => text

/-- The place of a kind of value among the kinds. -/
def rank : Value → Nat
  | .bool _ => 0
  | .real _ => 1
  | .undefined => 2
  | .natural _ => 3
  | .negative _ => 4
  | .pattern _ => 5

/-- The order of values: of one kind by size, and patterns by their text. -/
def order : Value → Value → Ordering
  | .bool a, .bool b => compare a b
  | .real a, .real b => a.order b
  | .natural a, .natural b => compare a b
  | .negative a, .negative b => compare b a
  | .pattern a, .pattern b => compare a b
  | a, b => compare a.rank b.rank

end Value

structure FieldFilter where
  name : String
  value : Option Value
  deriving DecidableEq, Repr

namespace FieldFilter

/-- A name, with a value behind an equals sign. -/
def ofText? (text : String) : Option FieldFilter :=
  match text.splitOn "=" with
  | name :: value :: _ => (Value.ofText? value).map fun value => ⟨name, some value⟩
  | _ => some ⟨text, none⟩

def write (f : FieldFilter) : String :=
  match f.value with
  | some value => f.name ++ "=" ++ value.write
  | none => f.name

def order (a b : FieldFilter) : Ordering :=
  (compare a.value.isSome b.value.isSome).then <|
    (compare a.name b.name).then <|
    match a.value, b.value with
    | some a, some b => a.order b
    | _, _ => .eq

end FieldFilter

structure Directive where
  target : Option String
  span : Option String
  fields : List FieldFilter
  level : Level
  deriving DecidableEq, Repr

namespace Directive

/-! ### Reading -/

/-- Where the reading of a directive is; a number is where the part that is being read began. -/
inductive Place where
  | start
  | levelOrTarget
  | span (first : Nat)
  | field (first : Nat)
  | behindField
  | behindSpan
  | level (first : Nat)
  deriving DecidableEq, Repr

/-- A directive that is being read: its text, how far it was read, and the parts so far. -/
structure Draft where
  bytes : List UInt8
  offset : Nat
  place : Place
  directive : Directive

/-- The text of a part up to here. -/
def Draft.part (d : Draft) (first : Nat) : String :=
  Text.decodeText ((d.bytes.drop first).take (d.offset - first))

def nonempty (text : String) : Option String := if text.isEmpty then none else some text

/-- Takes a field in; its text must not be empty, and its value must be one. -/
def Draft.withField (d : Draft) (first : Nat) (next : Place) : Option Draft :=
  let text := d.part first
  if text.isEmpty then none
  else
    (FieldFilter.ofText? text).map fun field =>
      { d with
        place := next
        directive := { d.directive with fields := d.directive.fields ++ [field] } }

def Draft.next (d : Draft) (c : Char) : Option Draft :=
  let after := d.offset + 1
  match d.place with
  | .start =>
    if c = '[' then some { d with place := .span after }
    else if Text.isLetterOrNumber c || ['-', ':', '_'].contains c then
      some { d with place := .levelOrTarget }
    else none
  | .levelOrTarget =>
    let named := { d.directive with target := some (d.part 0) }
    if c = '=' then some { d with place := .level after, directive := named }
    else if c = '[' then some { d with place := .span after, directive := named }
    else some d
  | .span first =>
    if c = ']' then
      some { d with
        place := .behindSpan
        directive := { d.directive with span := some (d.part first) } }
    else if c = '\x7b' then
      some { d with
        place := .field after
        directive := { d.directive with span := nonempty (d.part first) } }
    else some d
  | .field first => if c = '\x7d' then d.withField first .behindField else some d
  | .behindField => if c = ']' then some { d with place := .behindSpan } else none
  | .behindSpan => if c = '=' then some { d with place := .level after } else none
  | .level _ => some d

/-- Takes characters in, one after another. -/
def Draft.run : List Char → Draft → Option Draft
  | [], d => some d
  | c :: rest, d => do
    let d ← d.next c
    Draft.run rest { d with offset := d.offset + c.utf8Size }

/-- The directive when its text is over. Without a level it lets everything pass. -/
def Draft.finish (d : Draft) : Option Directive :=
  let rest (first : Nat) := Text.decodeText (d.bytes.drop first)
  match d.place with
  | .levelOrTarget =>
    match Level.ofText? (rest 0) with
    | some level => some { d.directive with level }
    | none => some { d.directive with target := some (rest 0) }
  | .level first =>
    if (rest first).isEmpty then some d.directive
    else (Level.ofText? (rest first)).map fun level => { d.directive with level }
  | .behindSpan => some d.directive
  | _ => none

/-- Reads a directive. White space around it is passed over, but places are counted as if there
were none before it. -/
def ofText? (text : String) : Option Directive := do
  let draft : Draft := ⟨Text.encode text, 0, .start, ⟨none, none, [], .trace⟩⟩
  (← draft.run (Text.trim text.toList)).finish

/-! ### Writing -/

def writeWith (d : Directive) (fields : List String) : String :=
  let inside := (d.span.getD "") ++
    if fields.isEmpty then "" else "\x7b" ++ ",".intercalate fields ++ "\x7d"
  let bracketed := if d.span.isSome || !fields.isEmpty then "[" ++ inside ++ "]" else ""
  let head := d.target.getD "" ++ bracketed
  if d.target.isSome || !bracketed.isEmpty then head ++ "=" ++ d.level.name else d.level.name

def write (d : Directive) : String := d.writeWith (d.fields.map FieldFilter.write)

/-! ### Order -/

/-- Whether it depends on spans or fields, which only a running program knows. -/
def isDynamic (d : Directive) : Bool := d.span.isSome || !d.fields.isEmpty

/-- Whether it can be decided by what is known of a record beforehand. -/
def isStatic (d : Directive) : Bool := d.span.isNone && d.fields.all fun f => f.value.isNone

def compareLists {α : Type} (cmp : α → α → Ordering) : List α → List α → Ordering
  | [], [] => .eq
  | [], _ :: _ => .lt
  | _ :: _, [] => .gt
  | a :: as, b :: bs => (cmp a b).then (compareLists cmp as bs)

/-- The order of how specific directives are, from the least; names decide at last. -/
def compareBy (a b : Directive) : Ordering :=
  (compare (a.target.map String.utf8ByteSize) (b.target.map String.utf8ByteSize)).then <|
    (compare a.span.isSome b.span.isSome).then <|
    (compare a.fields.length b.fields.length).then <|
    (compare a.target b.target).then <|
    (compare a.span b.span).then (compareLists FieldFilter.order a.fields b.fields)

/-- Puts a directive in its place, the most specific first; it replaces one of the same rank. -/
def insert (d : Directive) : List Directive → List Directive
  | [] => [d]
  | e :: rest =>
    match compareBy d e with
    | .gt => d :: e :: rest
    | .eq => d :: rest
    | .lt => e :: insert d rest

end Directive

/-- The directives of a filter: those that are decided beforehand, and those that are not. -/
structure Filter where
  statics : List Directive
  dynamics : List Directive
  deriving DecidableEq, Repr

namespace Filter

def ofDirectives (ds : List Directive) : Filter :=
  let sort (ds : List Directive) := ds.foldl (fun acc d => d.insert acc) []
  let dynamic := ds.filter Directive.isDynamic
  let static := ds.filter (fun d => !d.isDynamic) ++ dynamic.filter Directive.isStatic
  ⟨sort static, sort dynamic⟩

/-- Reads a filter; empty directives are passed over. -/
def ofText? (text : String) : Option Filter :=
  (((text.splitOn ",").filter (· ≠ "")).mapM Directive.ofText?).map ofDirectives

def write (f : Filter) : String :=
  ",".intercalate ((f.statics ++ f.dynamics).map Directive.write)

/-- The filter that the environment asks for, if it can be read, and else the one for a level. -/
def choose (environment : Option String) (level : String) : Except Error Filter :=
  match environment.bind ofText? with
  | some f => .ok f
  | none =>
    match ofText? level with
    | some f => .ok f
    | none => .error (.config (.badLevel level))

end Filter

end Mcp.Logging
