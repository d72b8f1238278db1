/-!
Words of a command line, read after a table of options, positional words and commands. An option
may have a value, attached to it or as the next word; a value that is a word of its own is looked at
only when something else follows it or the words end. So of two faults it is not always the one
further left that is reported.
-/

namespace Mcp.CommandLine

/-- Why a command line is refused, or what it asks for instead of a run. -/
inductive Fault where
  | unknownCommand
  | unknownArgument
  | missingArgument
  /-- An option lacks its value. -/
  | noValue
  /-- A value is not of the kind wanted. -/
  | badValue
  /-- Something that may be given once is given twice. -/
  | repeated
  /-- A flag has a value. -/
  | surplusValue
  | help
  | version
  deriving DecidableEq, Repr

/-- What an option does. -/
inductive Kind where
  | flag
  /-- It takes a value that passes a check. -/
  | value (fits : String → Bool)
  /-- It takes such a value each time, and may be given more than once. -/
  | values (fits : String → Bool)
  | help
  | version

structure Rule where
  short : Option Char
  long : String
  kind : Kind

/-- The words that may be given at one level of a command line. -/
structure Grammar where
  rules : List Rule
  /-- The names of the positional words, in their order. -/
  positionals : List String
  /-- The names of commands, whose words make up the next level. -/
  commands : List String

structure Reading where
  /-- Values by the names of their options and positions, in the order in which they were given. -/
  given : List (String × String)
  /-- An option whose value, if it was given, has not been looked at. -/
  pending : Option (Rule × Option String)
  /-- How many positional words were given. -/
  position : Nat
  /-- Whether all that follows is positional. -/
  trailing : Bool

namespace Reading

def start : Reading := ⟨[], none, 0, false⟩

/-- Whether the next word may be the value of an option. -/
def expectsValue (r : Reading) : Bool :=
  match r.pending with
  | some (_, none) => true
  | _ => false

def has (r : Reading) (name : String) : Bool := r.given.any fun g => g.1 = name

def record (r : Reading) (name value : String) : Reading :=
  { r with given := r.given ++ [(name, value)] }

/-- Takes a value for an option. -/
def give (r : Reading) (rule : Rule) (value : String) : Except Fault Reading :=
  match rule.kind with
  | .value fits =>
    if r.has rule.long then .error .repeated
    else if fits value then .ok (r.record rule.long value)
    else .error .badValue
  | .values fits => if fits value then .ok (r.record rule.long value) else .error .badValue
  | .flag => .error .surplusValue
  | .help => .error .surplusValue
  | .version => .error .surplusValue

/-- Looks at the value that is pending. -/
def resolve (r : Reading) : Except Fault Reading :=
  match r.pending with
  | none => .ok r
  | some (_, none) => .error .noValue
  | some (rule, some value) => { r with pending := none }.give rule value

/-- Takes an option without a value attached to it. -/
def enter (r : Reading) (rule : Rule) : Except Fault Reading := do
  let r ← r.resolve
  match rule.kind with
  | .flag => if r.has rule.long then .error .repeated else .ok (r.record rule.long "")
  | .value _ => .ok { r with pending := some (rule, none) }
  | .values _ => .ok { r with pending := some (rule, none) }
  | .help => .error .help
  | .version => .error .version

def takesValue (rule : Rule) : Bool :=
  match rule.kind with
  | .value _ => true
  | .values _ => true
  | _ => false

def long (g : Grammar) (r : Reading) (name : String) (attached : Option String) :
    Except Fault Reading :=
  match g.rules.find? fun rule => rule.long = name with
  | none => .error .unknownArgument
  | some rule =>
    match attached with
    | none => r.enter rule
    | some value =>
      if takesValue rule then do
        let r ← r.resolve
        r.give rule value
      else .error .surplusValue

/-- Options by their short names in one word. What follows one that takes a value is its value. -/
def shorts (g : Grammar) : List Char → Reading → Except Fault Reading
  | [], r => .ok r
  | c :: rest, r =>
    match g.rules.find? fun rule => rule.short = some c with
    | none => .error .unknownArgument
    | some rule =>
      if takesValue rule && !rest.isEmpty then do
        let value := if rest.head? = some '=' then rest.drop 1 else rest
        let r ← r.resolve
        r.give rule (String.ofList value)
      else do
        let r ← r.enter rule
        shorts g rest r

def positional (g : Grammar) (r : Reading) (word : String) : Except Fault Reading :=
  match g.positionals[r.position]? with
  | some name => do
    let r ← r.resolve
    .ok { r.record name word with position := r.position + 1 }
  | none =>
    if g.commands.isEmpty || (r.trailing && g.commands.contains word) then .error .unknownArgument
    else .error .unknownCommand

def word (g : Grammar) (r : Reading) (text : String) : Except Fault Reading :=
  if r.trailing then r.positional g text
  else
    match text.toList with
    | ['-', '-'] => .ok { r with trailing := true }
    | '-' :: '-' :: rest =>
      let name := String.ofList (rest.takeWhile (· ≠ '='))
      match rest.dropWhile (· ≠ '=') with
      | [] => r.long g name none
      | _ :: value => r.long g name (some (String.ofList value))
    | '-' :: c :: rest => shorts g (c :: rest) r
    | _ =>
      match r.pending with
      | some (rule, none) => .ok { r with pending := some (rule, some text) }
      | _ => r.positional g text

/-- Words up to their end or to a command, which is given with the words behind it. -/
def words (g : Grammar) :
    List String → Reading → Except Fault (Reading × Option (String × List String))
  | [], r => .ok (r, none)
  | text :: rest, r =>
    if !r.trailing && !r.expectsValue && g.commands.contains text then .ok (r, some (text, rest))
    else do
      let r ← r.word g text
      words g rest r

/-- Ends a level: the last value is looked at, and every positional word must be there. -/
def finish (g : Grammar) (r : Reading) : Except Fault Reading := do
  let r ← r.resolve
  if r.position < g.positionals.length then .error .missingArgument else .ok r

def value? (r : Reading) (name : String) : Option String :=
  (r.given.find? fun g => g.1 = name).map Prod.snd

/-- The value under a name that is known to be given. -/
def value (r : Reading) (name : String) : String := (r.value? name).getD ""

def values (r : Reading) (name : String) : List String :=
  r.given.filterMap fun g => if g.1 = name then some g.2 else none

end Reading

end Mcp.CommandLine
