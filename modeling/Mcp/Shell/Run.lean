import Mcp.Shell.Arithmetic
import Mcp.Shell.Format
import Mcp.Shell.Parser
import Mcp.Shell.State
import Mcp.Shell.Test

/-!
Running shell commands. Each function is given what happens after it, so that a command that waits
for input or sleeps can be left and gone on with; the whole is an `Activity`.
-/

namespace Mcp.Shell

/-- How the flow of commands goes on. -/
inductive Flow where
  | on
  /-- Out of so many more loops than one. -/
  | leave (more : Nat)
  /-- To the next turn of a loop, out of so many loops first. -/
  | again (more : Nat)
  /-- Out of a function. -/
  | back
  /-- Out of the shell. -/
  | quit
  deriving DecidableEq, Repr

abbrev Next := Flow → State → Activity

/-- A number written in digits, or another. -/
def numberOr (fallback : Nat) (text : Option String) : Nat :=
  (text.bind String.toNat?).getD fallback

/-- How long a text says to sleep, in milliseconds. -/
def duration (text : String) : Nat :=
  let cs := text.toList
  let whole := cs.takeWhile Char.isDigit
  let (fraction, unit) :=
    match cs.drop whole.length with
    | '.' :: rest => (rest.takeWhile Char.isDigit, rest.dropWhile Char.isDigit)
    | rest => ([], rest)
  let thousandths := String.ofList ((fraction ++ ['0', '0', '0']).take 3)
  let milliseconds := numberOr 0 (some (String.ofList whole)) * 1000 + numberOr 0 (some thousandths)
  match unit with
  | ['m'] => milliseconds * 60
  | ['h'] => milliseconds * 3600
  | _ => milliseconds

/-- The text that a command wrote, as a value: without the line ends at its end. -/
def captureText (bytes : List UInt8) : String :=
  String.ofList ((Text.decode bytes).reverse.dropWhile (· = '\n')).reverse

def isSignal (names : List String) (name : String) : Bool := names.contains name

def signalNumber? (name : String) : Option Nat :=
  let name := if name.startsWith "SIG" then (name.drop 3).toString else name
  match name.toNat? with
  | some n => some n
  | none =>
    [("HUP", 1), ("INT", 2), ("QUIT", 3), ("KILL", Activity.kill), ("USR1", 10), ("USR2", 12),
      ("PIPE", 13), ("ALRM", 14), ("TERM", Activity.termination)].lookup name

/-- The signal that arguments ask for, and the processes to which it goes. -/
def sentSignal (args : List String) : Option Nat × List String :=
  match args with
  | "-s" :: name :: processes => (signalNumber? name, processes)
  | option :: rest =>
    if option.startsWith "-" then (signalNumber? (option.drop 1).toString, rest)
    else (some Activity.termination, args)
  | [] => (some Activity.termination, [])

def State.trapped (s : State) (action : Option String) (signals : List String) : State :=
  let s :=
    if signals.any (isSignal ["TERM", "SIGTERM", "15"]) then { s with onTerm := action } else s
  if signals.any (isSignal ["EXIT", "0"]) then { s with onExit := action } else s

/-- A variable and its value, in one word. -/
def setting? (text : String) : Option (String × String) :=
  let name := text.toList.takeWhile (· ≠ '=')
  match text.toList.drop name.length with
  | _ :: value => some (String.ofList name, String.ofList value)
  | [] => none

/-- Sets variables that other programs see. -/
def State.export (s : State) (text : String) : State :=
  match setting? text with
  | some (name, value) => { s.set name value with exported := name :: s.exported }
  | none => { s with exported := text :: s.exported }

def pathFrom (directory path : String) : String :=
  if path.startsWith "/" then Test.normal path
  else if path = "." then directory
  else Test.normal (directory ++ "/" ++ path)

def programName (name : String) : String :=
  if name.startsWith "/bin/" then (name.drop 5).toString
  else if name.startsWith "/usr/bin/" then (name.drop 9).toString
  else name

def programs : List String :=
  ["sh", "dash", "cat", "sleep", "env", "head", "seq", "true", "false", "echo", "printf", "pwd",
    "test", "["]

def isProgram (name : String) : Bool := programs.contains (programName name)

/-- Closes streams of the process. -/
def closing : List Channel → (Unit → Activity) → Activity
  | [], next => next ()
  | channel :: rest, next => .close channel fun _ => closing rest next

mutual

/-- Goes on after termination was asked for, if the shell is not to die of it. -/
def terminated : Nat → State → (State → Activity) → Activity
  | 0, _, _ => .signalled Activity.termination
  | fuel + 1, s, next =>
    match s.onTerm.bind Command.parse? with
    | none => .signalled Activity.termination
    | some c => run fuel c s fun flow s => if flow = .quit then finish fuel s else next s

/-- Ends the shell, after what is to be done then. -/
def finish : Nat → State → Activity
  | 0, s => .exited s.status
  | fuel + 1, s =>
    match s.onExit.bind Command.parse? with
    | none => .exited s.status
    | some c => run fuel c { s with onExit := none } fun _ _ => .exited s.status

/-- Reads a byte from where a number leads. -/
def byte : Nat → Nat → State → (Option UInt8 → State → Activity) → Activity
  | 0, _, _, _ => .exited 2
  | fuel + 1, fd, s, next =>
    match s.route? fd with
    | some .input =>
      .read s.isDeaf (fun _ => terminated fuel s fun s => next none s) fun b => next b s
    | some .piped =>
      match s.piped with
      | b :: rest => next (some b) { s with piped := rest }
      | [] => next none s
    | _ => next none s

/-- Reads a line, its bytes in reverse, and whether the input ended in it. A backslash joins lines
unless the line is to be read as it is. -/
def line : Nat → Bool → List UInt8 → State → (List UInt8 → Bool → State → Activity) → Activity
  | 0, _, _, _, _ => .exited 2
  | fuel + 1, asItIs, acc, s, next =>
    byte fuel 0 s fun b s =>
      match b with
      | none => next acc true s
      | some 10 => next acc false s
      | some 92 =>
        if asItIs then line fuel asItIs (92 :: acc) s next
        else
          byte fuel 0 s fun b s =>
            match b with
            | none => next acc true s
            | some 10 => line fuel asItIs acc s next
            | some b => line fuel asItIs (b :: acc) s next
      | some b => line fuel asItIs (b :: acc) s next

/-- Copies bytes to the output, up to the end of the input or to so many line ends. -/
def copy : Nat → Option Nat → State → (State → Activity) → Activity
  | 0, _, _, _ => .exited 2
  | _ + 1, some 0, s, next => next s
  | fuel + 1, lines, s, next =>
    byte fuel 0 s fun b s =>
      match b with
      | none => next s
      | some b =>
        s.write 1 [b] fun s => copy fuel (if b = 10 then lines.map (· - 1) else lines) s next

def pieces : Nat → List Part → State → (List Piece → State → Activity) → Activity
  | 0, _, _, _ => .exited 2
  | _ + 1, [], s, next => next [] s
  | fuel + 1, part :: rest, s, next =>
    piece fuel part s fun ps s => pieces fuel rest s fun more s => next (ps ++ more) s

def piece : Nat → Part → State → (List Piece → State → Activity) → Activity
  | 0, _, _, _ => .exited 2
  | fuel + 1, part, s, next =>
    match part with
    | .text t => next [.plain t] s
    | .quoted t => next [.quoted t] s
    | .output c inQuotes =>
      let inner := { s with captured := [], routes := (1, .captured) :: s.routes.filter (·.1 ≠ 1) }
      run fuel c inner fun _ t =>
        next [.ofValue inQuotes (captureText t.captured)]
          { s with status := t.status, piped := t.piped }
    | .number expression inQuotes =>
      pieces fuel expression s fun ps s =>
        match Arithmetic.value? s.integer (Piece.joined ps) with
        | some n => next [.ofValue inQuotes (toString n)] s
        | none => s.complain "arithmetic expression: syntax error" 2 (finish fuel)
    | .variable name change inQuotes =>
      let value := s.value? name
      let text := value.getD ""
      let usable (evenIfEmpty : Bool) : Bool := value.isSome && !(evenIfEmpty && text.isEmpty)
      let quote (ps : List Piece) : List Piece := if inQuotes then ps.map Piece.inQuotes else ps
      let as (text : String) : List Piece := [.ofValue inQuotes text]
      match change with
      | .none =>
        if name = "@" || (name = "*" && !inQuotes) then next [.fields s.parameters] s
        else next (as text) s
      | .length => next (as (toString text.length)) s
      | .orElse evenIfEmpty w =>
        if usable evenIfEmpty then next (as text) s
        else pieces fuel w s fun ps s => next (quote ps) s
      | .assign evenIfEmpty w =>
        if usable evenIfEmpty then next (as text) s
        else
          pieces fuel w s fun ps s =>
            let text := Piece.joined ps
            next (as text) (s.set name text)
      | .instead evenIfEmpty w =>
        if usable evenIfEmpty then pieces fuel w s fun ps s => next (quote ps) s
        else next (as "") s
      | .cutStart longest w =>
        pieces fuel w s fun ps s =>
          next (as (String.ofList (Pattern.cutStart longest (Piece.pattern ps) text.toList))) s
      | .cutEnd longest w =>
        pieces fuel w s fun ps s =>
          next (as (String.ofList (Pattern.cutEnd longest (Piece.pattern ps) text.toList))) s

def fields : Nat → List Word → State → (List String → State → Activity) → Activity
  | 0, _, _, _ => .exited 2
  | _ + 1, [], s, next => next [] s
  | fuel + 1, w :: rest, s, next =>
    pieces fuel w s fun ps s =>
      fields fuel rest s fun more s => next (Piece.toFields s.separators ps ++ more) s

def settings : Nat → List (String × Word) → State → (List (String × String) → State → Activity) →
    Activity
  | 0, _, _, _ => .exited 2
  | _ + 1, [], s, next => next [] s
  | fuel + 1, (name, w) :: rest, s, next =>
    pieces fuel w s fun ps s =>
      settings fuel rest s fun more s => next ((name, Piece.joined ps) :: more) s

def places : Nat → List (Nat × Target) → State → (List (Nat × State.Place) → State → Activity) →
    Activity
  | 0, _, _, _ => .exited 2
  | _ + 1, [], s, next => next [] s
  | fuel + 1, (fd, target) :: rest, s, next =>
    let found (place : State.Place) (s : State) : Activity :=
      places fuel rest s fun more s => next ((fd, place) :: more) s
    match target with
    | .close => found .close s
    | .copy source => found (.copy source) s
    | .file path reading => pieces fuel path s fun ps s => found (.file (Piece.joined ps) reading) s

def run : Nat → Command → State → Next → Activity
  | 0, _, _, _ => .exited 2
  | fuel + 1, c, s, next =>
    match c with
    | .nothing => next .on (s.ended 0)
    | .simple assigned words redirections =>
      fields fuel words s fun names s =>
      settings fuel assigned s fun values s =>
      places fuel redirections s fun rs s =>
        let put (s : State) : State := values.foldl (fun s v => s.set v.1 v.2) s
        match s.redirect rs with
        | .error text => s.complain text 2 (next .on)
        | .ok inner =>
          match names with
          | [] => next .on (put (s.ended 0))
          | "exec" :: [] =>
            closing (s.released inner) fun _ => next .on (put (inner.ended 0))
          | "exec" :: name :: args =>
            closing (s.released inner) fun _ =>
              invoke fuel name args (put inner) fun _ s => .exited s.status
          | name :: args =>
            invoke fuel name args (put inner) fun flow t =>
              next flow (t.restored s (values.map Prod.fst))
    | .inOrder a b =>
      run fuel a s fun flow s => if flow = .on then run fuel b s next else next flow s
    | .both a b =>
      run fuel a s fun flow s =>
        if flow = .on && s.status = 0 then run fuel b s next else next flow s
    | .either a b =>
      run fuel a s fun flow s =>
        if flow = .on && s.status ≠ 0 then run fuel b s next else next flow s
    | .negated a =>
      run fuel a s fun flow s => next flow (s.ended (if s.status = 0 then 1 else 0))
    | .pipe a b =>
      let first := { s with captured := [], routes := (1, .captured) :: s.routes.filter (·.1 ≠ 1) }
      run fuel a first fun _ t =>
        let second := { s with
          piped := t.captured
          routes := (0, .piped) :: s.routes.filter (·.1 ≠ 0) }
        run fuel b second fun _ t =>
          next .on { s with status := t.status, captured := t.captured }
    | .subshell a =>
      run fuel a s fun _ t =>
        next .on { s with status := t.status, captured := t.captured, piped := t.piped }
    | .redirected a redirections =>
      places fuel redirections s fun rs s =>
        match s.redirect rs with
        | .error text => s.complain text 2 (next .on)
        | .ok inner => run fuel a inner fun flow t => next flow (t.restored s [])
    | .branch condition yes no =>
      run fuel condition s fun flow s =>
        if flow ≠ .on then next flow s
        else if s.status = 0 then run fuel yes s next
        else run fuel no s next
    | .loop whileOk condition body => turns fuel whileOk condition body 0 s next
    | .forEach name words body =>
      match words with
      | none => each fuel name body s.parameters (s.ended 0) next
      | some ws => fields fuel ws s fun values s => each fuel name body values (s.ended 0) next
    | .choice w cases =>
      pieces fuel w s fun ps s => choose fuel (Piece.joined ps).toList cases (s.ended 0) next
    | .define name body =>
      next .on { s with functions := (name, body) :: s.functions, status := 0 }

/-- The turns of a loop; `last` is how the turn before ended. -/
def turns : Nat → Bool → Command → Command → Nat → State → Next → Activity
  | 0, _, _, _, _, _, _ => .exited 2
  | fuel + 1, whileOk, condition, body, last, s, next =>
    .step fun _ =>
      run fuel condition s fun flow s =>
        if flow ≠ .on then next flow s
        else if (s.status == 0) != whileOk then next .on (s.ended last)
        else
          run fuel body s fun flow s =>
            match flow with
            | .on => turns fuel whileOk condition body s.status s next
            | .again 0 => turns fuel whileOk condition body s.status s next
            | .again (n + 1) => next (.again n) s
            | .leave 0 => next .on (s.ended 0)
            | .leave (n + 1) => next (.leave n) s
            | flow => next flow s

/-- The turns of a loop over values. -/
def each : Nat → String → Command → List String → State → Next → Activity
  | 0, _, _, _, _, _ => .exited 2
  | _ + 1, _, _, [], s, next => next .on s
  | fuel + 1, name, body, value :: rest, s, next =>
    run fuel body (s.set name value) fun flow s =>
      match flow with
      | .on => each fuel name body rest s next
      | .again 0 => each fuel name body rest s next
      | .again (n + 1) => next (.again n) s
      | .leave 0 => next .on (s.ended 0)
      | .leave (n + 1) => next (.leave n) s
      | flow => next flow s

/-- Runs the first case that fits. -/
def choose : Nat → List Char → List (List Word × Command) → State → Next → Activity
  | 0, _, _, _, _ => .exited 2
  | _ + 1, _, [], s, next => next .on s
  | fuel + 1, value, (ps, body) :: rest, s, next =>
    fitsAny fuel value ps s fun fits s =>
      if fits then run fuel body s next else choose fuel value rest s next

/-- Whether a text fits one of some patterns. -/
def fitsAny : Nat → List Char → List Word → State → (Bool → State → Activity) → Activity
  | 0, _, _, _, _ => .exited 2
  | _ + 1, _, [], s, next => next false s
  | fuel + 1, value, w :: rest, s, next =>
    pieces fuel w s fun ps s =>
      if Pattern.fits (Piece.pattern ps) value then next true s
      else fitsAny fuel value rest s next

/-- Runs a function, a command of the shell or a program by its name. -/
def invoke : Nat → String → List String → State → Next → Activity
  | 0, _, _, _, _ => .exited 2
  | fuel + 1, name, args, s, next =>
    match s.functions.lookup name with
    | some body =>
      run fuel body { s with parameters := args } fun flow t =>
        next (if flow = .back then .on else flow) { t with parameters := s.parameters }
    | none =>
      match name, args with
      | ":", _ => next .on (s.ended 0)
      | "exit", args => next .quit (s.ended (numberOr s.status args.head?))
      | "return", args => next .back (s.ended (numberOr s.status args.head?))
      | "break", args => next (.leave (numberOr 1 args.head? - 1)) (s.ended 0)
      | "continue", args => next (.again (numberOr 1 args.head? - 1)) (s.ended 0)
      | "shift", args =>
        next .on { s with parameters := s.parameters.drop (numberOr 1 args.head?), status := 0 }
      | "set", "--" :: args => next .on { s with parameters := args, status := 0 }
      | "set", args =>
        if args.any fun a => a.startsWith "-" || a.startsWith "+" then next .on (s.ended 0)
        else next .on { s with parameters := args, status := 0 }
      | "export", args => next .on ((args.foldl State.export s).ended 0)
      | "local", args =>
        next .on ((args.foldl (fun s a =>
          match setting? a with
          | some (name, value) => s.set name value
          | none => s) s).ended 0)
      | "unset", args => next .on ((args.foldl State.unset s).ended 0)
      | "cd", args =>
        let directory := pathFrom s.directory (args.headD "/root")
        if Test.isDirectory directory then
          next .on ({ s with directory }.set "PWD" directory |>.ended 0)
        else s.complain ("cd: can't cd to " ++ args.headD "") 2 (next .on)
      | "eval", args =>
        match Command.parse? (" ".intercalate args) with
        | some c => run fuel c s next
        | none => s.complain "eval: syntax error" 2 (next .quit)
      | "trap", "-" :: signals => next .on ((s.trapped none signals).ended 0)
      | "trap", action :: signals => next .on ((s.trapped (some action) signals).ended 0)
      | "trap", [] => next .on (s.ended 0)
      | "wait", _ => next .on (s.ended 0)
      | "kill", args =>
        match sentSignal args with
        | (none, _) => s.complain "kill: bad signal" 2 (next .on)
        | (some signal, processes) =>
          if processes.map some ≠ [s.value? "$"] then
            s.complain "kill: No such process" 1 (next .on)
          else if signal = 0 || (signal = Activity.termination && s.isDeaf) then
            next .on (s.ended 0)
          else if signal = Activity.termination then
            terminated fuel s fun s => next .on (s.ended 0)
          else .signalled signal
      | "command", name :: args => invoke fuel name args s next
      | "read", args =>
        let (options, names) := args.partition fun a => a.startsWith "-"
        let names := if names.isEmpty then ["REPLY"] else names
        line fuel (options.any fun o => o.toList.contains 'r') [] s fun bytes isOver s =>
          let values := cutLine s.separators names.length (Text.decode bytes.reverse)
          let s := (names.zip values).foldl (fun s v => s.set v.1 v.2) s
          next .on (s.ended (if isOver then 1 else 0))
      | name, args => program fuel (programName name) name args s (next .on)

def program : Nat → String → String → List String → State → (State → Activity) → Activity
  | 0, _, _, _, _, _ => .exited 2
  | fuel + 1, program, name, args, s, next =>
    match program, args with
    | "true", _ => next (s.ended 0)
    | "false", _ => next (s.ended 1)
    | "echo", args => s.write 1 (Format.echo args) fun s => next (s.ended 0)
    | "printf", format :: args => s.write 1 (Format.printf format args) fun s => next (s.ended 0)
    | "printf", [] => s.complain "printf: usage: printf format [arg ...]" 2 next
    | "pwd", _ => s.write 1 (Text.encode (s.directory ++ "\n")) fun s => next (s.ended 0)
    | "test", words =>
      match Test.holds words with
      | some holds => next (s.ended (if holds then 0 else 1))
      | none => s.complain "test: unexpected operator" 2 next
    | "[", words =>
      match Test.holds words.dropLast with
      | some holds => next (s.ended (if holds then 0 else 1))
      | none => s.complain "[: unexpected operator" 2 next
    | "sleep", args =>
      .sleep ((args.map duration).sum) s.isDeaf
        (fun _ => terminated fuel s fun s => next (s.ended 0)) fun _ => next (s.ended 0)
    | "cat", args =>
      if args.all fun a => a = "-" then copy fuel none s fun s => next (s.ended 0)
      else if args.all fun a => a = "/dev/null" then next (s.ended 0)
      else s.complain ("cat: " ++ args.headD "" ++ ": No such file or directory") 1 next
    | "head", args =>
      let count :=
        match args with
        | ["-n", n] => numberOr 10 (some n)
        | [option] => numberOr 10 (some (option.drop 1).toString)
        | _ => 10
      copy fuel (some count) s fun s => next (s.ended 0)
    | "seq", args =>
      let (first, last) :=
        match args with
        | first :: last :: _ => (numberOr 0 (some first), numberOr 0 (some last))
        | args => (1, numberOr 0 args.head?)
      let numbers := (List.range (last + 1 - first)).map (first + ·)
      s.write 1 (Text.encode (String.join (numbers.map fun n => toString n ++ "\n"))) fun s =>
        next (s.ended 0)
    | "env", args =>
      let (bare, args) :=
        match args with
        | "-i" :: rest => (true, rest)
        | args => (false, args)
      let assigned := args.takeWhile fun a => (setting? a).isSome
      let inner := assigned.foldl State.export (if bare then { s with exported := [] } else s)
      match args.drop assigned.length with
      | [] =>
        let text := String.join (inner.environment.map fun v => v.1 ++ "=" ++ v.2 ++ "\n")
        s.write 1 (Text.encode text) fun s => next (s.ended 0)
      | name :: args =>
        Shell.program fuel (programName name) name args inner fun t =>
          next { s with status := t.status, captured := t.captured, piped := t.piped }
    | "sh", args => script fuel args s next
    | "dash", args => script fuel args s next
    | _, _ => s.complain (name ++ ": not found") 127 next

/-- Runs a shell of its own on a script among its arguments. -/
def script : Nat → List String → State → (State → Activity) → Activity
  | 0, _, _, _ => .exited 2
  | fuel + 1, args, s, next =>
    match args with
    | option :: text :: rest =>
      if option.startsWith "-" && option.toList.contains 'c' then
        match Command.parse? text with
        | none => s.complain "Syntax error" 2 next
        | some c =>
          let fresh := State.initial (rest.headD "sh") (rest.drop 1) s.environment s.directory
          let inner := { fresh with
            routes := s.routes
            captured := s.captured
            piped := s.piped
            onTerm := s.onTerm.filter (· = "") }
          run fuel c inner fun _ t =>
            next { s with status := t.status, captured := t.captured, piped := t.piped }
      else s.complain ("cannot open " ++ option ++ ": No such file") 2 next
    | _ => copy fuel none { s with routes := s.routes.filter (·.1 ≠ 1) } fun _ => next (s.ended 0)

end

/-- More steps than a script takes. -/
def plenty : Nat := 1000000

/-- A shell that runs a script. -/
def start (text name : String) (parameters : List String) (environment : List (String × String))
    (directory : String) : Activity :=
  let s := State.initial name parameters environment directory
  match Command.parse? text with
  | some c => run plenty c s fun _ s => finish plenty s
  | none => s.complain "Syntax error" 2 fun s => .exited s.status

/-- The process that a program with arguments becomes; none where there is no such program. -/
def launch (name : String) (args : List String) (environment : List (String × String))
    (directory : String) : Option Activity :=
  if !isProgram name || !Test.isDirectory directory then none
  else
    match programName name, args with
    | "sh", option :: text :: rest =>
      if option.startsWith "-" && option.toList.contains 'c' then
        some (start text (rest.headD name) (rest.drop 1) environment (Test.normal directory))
      else some (.exited 2)
    | program, args =>
      let s := State.initial name [] environment (Test.normal directory)
      some (Shell.program plenty program name args s fun s => .exited s.status)

end Mcp.Shell
