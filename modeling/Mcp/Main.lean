import Mcp.CommandLine.Options
import Mcp.Logging.Filter
import Mcp.Scenario.Command

/-!
The program: it reads its command line, its settings and its environment, carries the command out
and writes what comes of it. Servers are scripts that the shell of this library runs.
-/

namespace Mcp.Main

def usage : String :=
  "Usage: mcplink [OPTIONS] [COMMAND]\n\nCommands:\n" ++
    String.join (CommandLine.outer.commands.map fun name => "  " ++ name ++ "\n")

/-- What stands at the place where the settings should be. -/
def readFile (path : String) : IO Config.File := do
  try
    let content ← IO.FS.readBinFile path
    pure (.bytes content.toList)
  catch e =>
    match e with
    | .noFileOrDirectory .. => pure .missing
    | _ => pure .unreadable

def readEnvironment : IO Config.Environment := do
  let values ← Config.Environment.names.mapM fun name => do pure (name, ← IO.getEnv name)
  pure (.ofVariables fun name => (values.lookup name).join)

/-- The variables that servers inherit. -/
def inherited : IO (List (String × String)) := do
  let found ← ["HOME", "LANG", "PATH"].mapM fun name => do
    pure ((← IO.getEnv name).map fun value => (name, value))
  pure (found.filterMap id)

/-- The settings, once nothing is wrong with them. -/
def settle (file : Config.File) (environment : Config.Environment) (options : CommandLine.Options)
    (filter : Option String) : Except Error Config := do
  let c ← Config.load file environment options.overrides
  c.check
  let _ ← Logging.Filter.choose filter c.logging.level
  pure c

def fail (e : Error) : IO UInt32 := do
  (← IO.getStderr).putStrLn ("Error: " ++ e.message)
  pure 1

def run (options : CommandLine.Options) : IO UInt32 := do
  let file ← readFile options.config
  match settle file (← readEnvironment) options (← IO.getEnv "RUST_LOG") with
  | .error e => fail e
  | .ok config =>
    match options.command with
    | none =>
      (← IO.getStdout).putStrLn usage
      pure 0
    | some command =>
      let (result, events) := Scenario.Commands.play (← inherited) config options.json command
      (← IO.getStdout).putStr (Scenario.Commands.output toString events)
      match result with
      | .ok () => pure 0
      | .error e => fail e

end Mcp.Main

def main (args : List String) : IO UInt32 := do
  match Mcp.CommandLine.Options.parse args with
  | .ok options => Mcp.Main.run options
  | .error .help =>
    (← IO.getStdout).putStr Mcp.Main.usage
    pure 0
  | .error .version =>
    (← IO.getStdout).putStrLn "mcplink 0.1.0"
    pure 0
  | .error _ =>
    (← IO.getStderr).putStr Mcp.Main.usage
    pure 2
