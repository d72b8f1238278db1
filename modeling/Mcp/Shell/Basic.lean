/-!
Shell commands: the words that they are made of and the forms in which they are put together.
-/

namespace Mcp.Shell

mutual

inductive Part where
  | text (s : String)
  /-- Text in quotes, in which no character has a meaning of its own. -/
  | quoted (s : String)
  | variable (name : String) (change : Change) (inQuotes : Bool)
  /-- What a command writes. -/
  | output (command : Command) (inQuotes : Bool)
  /-- The value of an expression. -/
  | number (expression : List Part) (inQuotes : Bool)

/-- What is done with the value of a variable. With `evenIfEmpty` an empty one counts as unset. -/
inductive Change where
  | none
  | length
  | orElse (evenIfEmpty : Bool) (word : List Part)
  | assign (evenIfEmpty : Bool) (word : List Part)
  | instead (evenIfEmpty : Bool) (word : List Part)
  | cutStart (longest : Bool) (pattern : List Part)
  | cutEnd (longest : Bool) (pattern : List Part)

inductive Command where
  | nothing
  | simple (assignments : List (String × List Part)) (words : List (List Part))
      (redirections : List (Nat × Target))
  | inOrder (first second : Command)
  /-- The second runs if the first succeeds. -/
  | both (first second : Command)
  /-- The second runs if the first fails. -/
  | either (first second : Command)
  | negated (command : Command)
  /-- The second reads what the first writes. -/
  | pipe (first second : Command)
  | subshell (command : Command)
  | redirected (command : Command) (redirections : List (Nat × Target))
  | branch (condition yes no : Command)
  /-- Runs while the condition succeeds, or until it does. -/
  | loop (whileOk : Bool) (condition body : Command)
  /-- Runs for each word; without words, for each parameter. -/
  | forEach (name : String) (words : Option (List (List Part))) (body : Command)
  | choice (word : List Part) (cases : List (List (List Part) × Command))
  | define (name : String) (body : Command)

/-- Where a redirection leads. -/
inductive Target where
  | close
  /-- To where another number leads. -/
  | copy (fd : Nat)
  | file (path : List Part) (reading : Bool)

end

abbrev Word := List Part

end Mcp.Shell
