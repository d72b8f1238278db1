import Mcp.Command.Basic
import Mcp.CommandLine.Grammar
import Mcp.Config.Load

/-!
The command line of the client: what is wanted of which server, and what takes precedence over the
settings.
-/

namespace Mcp

namespace CommandLine

/-- Why a text is no key with a value. -/
structure PairFault where
  text : String
  deriving DecidableEq, Repr

def PairFault.message (f : PairFault) : String := "expected key=value, got \x60" ++ f.text ++ "\x60"

/-- A key and a value around the first equals sign of a text. The key must not be empty. -/
def pair (text : String) : Except PairFault (String × String) :=
  let cs := text.toList
  match cs.takeWhile (· ≠ '='), cs.dropWhile (· ≠ '=') with
  | [], _ => .error ⟨text⟩
  | _, [] => .error ⟨text⟩
  | key, _ :: value => .ok (String.ofList key, String.ofList value)

def isPair (text : String) : Bool :=
  match pair text with
  | .ok _ => true
  | .error _ => false

structure Options where
  config : String
  verbose : Bool
  json : Bool
  requestTimeout : Option Nat
  logLevel : Option String
  command : Option Command
  deriving Repr

def Options.overrides (o : Options) : Config.Overrides := ⟨o.requestTimeout, o.logLevel, o.verbose⟩

/-- Where the settings are if nothing else is said. -/
def defaultConfig : String := "config/mcplink.yaml"

def anyText (_ : String) : Bool := true

def jsonRule : Rule := ⟨none, "json", .flag⟩

def helpRule : Rule := ⟨some 'h', "help", .help⟩

/-- The words before a command. -/
def outer : Grammar where
  rules :=
    [⟨some 'c', "config", .value anyText⟩, ⟨some 'v', "verbose", .flag⟩, jsonRule,
      ⟨none, "request-timeout", .value fun text => (Config.seconds? text).isSome⟩,
      ⟨none, "log-level", .value anyText⟩, helpRule, ⟨some 'V', "version", .version⟩]
  positionals := []
  commands :=
    ["servers", "info", "tools", "call", "resources", "read", "templates", "prompts", "prompt",
      "ping", "help"]

/-- The words behind a command. -/
def inner (positionals : List String) (rules : List Rule) : Grammar :=
  ⟨rules ++ [jsonRule, helpRule], positionals, []⟩

/-- The words behind each command, and the command that they make. -/
def commandForms : List (String × Grammar × (Reading → Command)) :=
  [("servers", inner [] [], fun _ => .servers),
    ("info", inner ["server"] [], fun r => .info (r.value "server")),
    ("tools", inner ["server"] [], fun r => .tools (r.value "server")),
    ("call", inner ["server", "tool"] [⟨some 'a', "args", .value anyText⟩],
      fun r => .call (r.value "server") (r.value "tool") (r.value? "args")),
    ("resources", inner ["server"] [], fun r => .resources (r.value "server")),
    ("read", inner ["server", "uri"] [], fun r => .read (r.value "server") (r.value "uri")),
    ("templates", inner ["server"] [], fun r => .templates (r.value "server")),
    ("prompts", inner ["server"] [], fun r => .prompts (r.value "server")),
    ("prompt", inner ["server", "name"] [⟨some 'a', "arg", .values isPair⟩],
      fun r =>
        .prompt (r.value "server") (r.value "name")
          ((r.values "arg").filterMap fun text => (pair text).toOption)),
    ("ping", inner ["server"] [], fun r => .ping (r.value "server"))]

def helpOn : List String → Fault
  | [] => .help
  | [name] => if outer.commands.contains name then .help else .unknownCommand
  | _ => .unknownCommand

/-- A command with its words, and whether JSON is wanted. -/
def readCommand (name : String) (rest : List String) : Except Fault (Command × Bool) :=
  match commandForms.lookup name with
  | none => .error (helpOn rest)
  | some (g, make) => do
    let (r, _) ← Reading.words g rest .start
    let r ← r.finish g
    .ok (make r, r.has "json")

def Options.parse (args : List String) : Except Fault Options := do
  let (r, next) ← Reading.words outer args .start
  let found ←
    match next with
    | some (name, rest) => (readCommand name rest).map some
    | none => .ok none
  let r ← r.finish outer
  .ok
    { config := (r.value? "config").getD defaultConfig
      verbose := r.has "verbose"
      json := r.has "json" || found.any Prod.snd
      requestTimeout := (r.value? "request-timeout").bind Config.seconds?
      logLevel := r.value? "log-level"
      command := found.map Prod.fst }

end CommandLine

end Mcp
