import Mcp.Shell.Basic

/-!
Reading shell commands from a text.
-/

namespace Mcp.Shell.Parser

/-! ### Characters -/

def isBlank (c : Char) : Bool := c = ' ' || c = '\t'

def isNameStart (c : Char) : Bool := c.isAlpha || c = '_'

def isNameChar (c : Char) : Bool := c.isAlphanum || c = '_'

def endsWord (c : Char) : Bool :=
  isBlank c || c = '\n' || c = ';' || c = '&' || c = '|' || c = '<' || c = '>' || c = '(' || c = ')'

/-- Steps over blanks, joined lines and comments. -/
def skipBlanks : List Char → List Char
  | ' ' :: rest => skipBlanks rest
  | '\t' :: rest => skipBlanks rest
  | '\\' :: '\n' :: rest => skipBlanks rest
  | cs => cs

def skipComment : List Char → List Char
  | '#' :: rest => rest.dropWhile (· ≠ '\n')
  | cs => cs

/-- Steps over all that separates words in a line. -/
def skipSpace (cs : List Char) : List Char := skipComment (skipBlanks cs)

/-- Steps over the ends of lines too. -/
def skipLines : Nat → List Char → List Char
  | 0, cs => cs
  | fuel + 1, cs =>
    match skipSpace cs with
    | '\n' :: rest => skipLines fuel rest
    | cs => cs

def takeName (cs : List Char) : String × List Char :=
  (String.ofList (cs.takeWhile isNameChar), cs.dropWhile isNameChar)

/-- The name of a variable behind a dollar sign: a name, or one character. -/
def variableName? : List Char → Option (String × List Char)
  | [] => none
  | c :: rest =>
    if isNameStart c then some (takeName (c :: rest))
    else if c.isDigit || ['@', '*', '#', '?', '-', '$', '!'].contains c then
      some (String.singleton c, rest)
    else none

/-- The words that end a part of a command, or separate its parts. -/
def closers : List String := ["then", "else", "elif", "fi", "do", "done", "esac", "\x7d"]

/-- A plain word, as far as it goes, with nothing but letters and braces. -/
def keyword (cs : List Char) : String × List Char :=
  (String.ofList (cs.takeWhile fun c => !endsWord c), cs.dropWhile fun c => !endsWord c)

/-- Whether a list of commands ends here. -/
def atEnd (cs : List Char) : Bool :=
  match cs with
  | [] => true
  | ')' :: _ => true
  | ';' :: ';' :: _ => true
  | cs => closers.contains (keyword cs).1

/-- Steps over a word that must stand here. -/
def expect (word : String) (cs : List Char) : Option (List Char) :=
  let (found, rest) := keyword (skipLines cs.length cs)
  if found = word then some rest else none

/-- Puts a character at the end of a word. -/
def addText (parts : List Part) (c : Char) : List Part :=
  match parts with
  | .text s :: rest => .text (s.push c) :: rest
  | parts => .text (String.singleton c) :: parts

def addQuoted (parts : List Part) (c : Char) : List Part :=
  match parts with
  | .quoted s :: rest => .quoted (s.push c) :: rest
  | parts => .quoted (String.singleton c) :: parts

/-- The text of an expression up to the two brackets that close it. -/
def expressionText : Nat → Nat → List Char → Option (List Char × List Char)
  | 0, _, _ => none
  | _, _, [] => none
  | _ + 1, 0, ')' :: ')' :: rest => some ([], rest)
  | fuel + 1, depth, c :: rest => do
    let depth :=
      if c = '(' then depth + 1 else if c = ')' then depth - 1 else depth
    let (more, rest) ← expressionText fuel depth rest
    some (c :: more, rest)

/-- The text between backquotes. -/
def backquoted : List Char → Option (List Char × List Char)
  | [] => none
  | '\x60' :: rest => some ([], rest)
  | '\\' :: c :: rest => do
    let (more, rest) ← backquoted rest
    if c = '\x60' || c = '\\' || c = '$' then some (c :: more, rest)
    else some ('\\' :: c :: more, rest)
  | c :: rest => do
    let (more, rest) ← backquoted rest
    some (c :: more, rest)

/-- Whether parts are a plain word that can be the name of something. -/
def plainName? : List Part → Option String
  | [.text s] => if s.toList.head?.any isNameStart && s.toList.all isNameChar then some s else none
  | _ => none

/-- A variable and the word that it is set to, if a word is of that form. -/
def assignment? : List Part → Option (String × List Part)
  | .text s :: rest =>
    let name := s.toList.takeWhile isNameChar
    match s.toList.drop name.length with
    | '=' :: value =>
      if name.head?.any isNameStart then
        some (String.ofList name,
          if value.isEmpty then rest else .text (String.ofList value) :: rest)
      else none
    | _ => none
  | _ => none

/-- What follows the brackets behind a name that is being defined. -/
def definition? (name : String) (cs : List Char) : Option (List Char) :=
  match plainName? [.text name], skipBlanks cs with
  | some _, '(' :: rest =>
    match skipBlanks rest with
    | ')' :: rest => some (skipLines rest.length rest)
    | _ => none
  | _, _ => none

/-- Puts commands one after another. -/
def sequence (first second : Command) : Command :=
  match second with
  | .nothing => first
  | second => .inOrder first second

/-! ### Words and commands -/

mutual

/-- A word, its parts in reverse. With `inBraces` a closing brace ends it and nothing else. -/
def word (inBraces : Bool) : Nat → List Part → List Char → Option (List Part × List Char)
  | 0, _, _ => none
  | fuel + 1, parts, cs =>
    match cs with
    | [] => if inBraces then none else some (parts.reverse, [])
    | '\\' :: '\n' :: rest => word inBraces fuel parts rest
    | '\\' :: c :: rest => word inBraces fuel (.quoted (String.singleton c) :: parts) rest
    | '\x27' :: rest =>
      match rest.dropWhile (· ≠ '\x27') with
      | _ :: after =>
        word inBraces fuel (.quoted (String.ofList (rest.takeWhile (· ≠ '\x27'))) :: parts) after
      | [] => none
    | '\x22' :: rest => do
      let (inner, rest) ← doubleQuoted fuel [.quoted ""] rest
      word inBraces fuel (inner ++ parts) rest
    | '$' :: rest => do
      let (part, rest) ← dollar false fuel rest
      word inBraces fuel (part :: parts) rest
    | '\x60' :: rest => do
      let (text, rest) ← backquoted rest
      let (c, _) ← list fuel text
      word inBraces fuel (.output c false :: parts) rest
    | c :: rest =>
      if inBraces then
        if c = '\x7d' then some (parts.reverse, rest) else word inBraces fuel (addText parts c) rest
      else if endsWord c then some (parts.reverse, cs)
      else word inBraces fuel (addText parts c) rest

def doubleQuoted : Nat → List Part → List Char → Option (List Part × List Char)
  | 0, _, _ => none
  | fuel + 1, parts, cs =>
    match cs with
    | [] => none
    | '\x22' :: rest => some (parts, rest)
    | '\\' :: '\n' :: rest => doubleQuoted fuel parts rest
    | '\\' :: c :: rest =>
      if ['$', '\x60', '\x22', '\\'].contains c then doubleQuoted fuel (addQuoted parts c) rest
      else doubleQuoted fuel (addQuoted (addQuoted parts '\\') c) rest
    | '$' :: rest => do
      let (part, rest) ← dollar true fuel rest
      doubleQuoted fuel (part :: parts) rest
    | '\x60' :: rest => do
      let (text, rest) ← backquoted rest
      let (c, _) ← list fuel text
      doubleQuoted fuel (.output c true :: parts) rest
    | c :: rest => doubleQuoted fuel (addQuoted parts c) rest

/-- What a dollar sign makes of what follows it. -/
def dollar (inQuotes : Bool) : Nat → List Char → Option (Part × List Char)
  | 0, _ => none
  | fuel + 1, cs =>
    match cs with
    | '(' :: '(' :: rest => do
      let (text, rest) ← expressionText (rest.length + 1) 0 rest
      let (parts, _) ← doubleQuoted fuel [] (text ++ ['\x22'])
      some (.number parts.reverse inQuotes, rest)
    | '(' :: rest => do
      let (c, rest) ← list fuel rest
      match skipLines rest.length rest with
      | ')' :: rest => some (.output c inQuotes, rest)
      | _ => none
    | '\x7b' :: '#' :: '\x7d' :: rest => some (.variable "#" .none inQuotes, rest)
    | '\x7b' :: '#' :: rest => do
      let (name, rest) ← variableName? rest
      match rest with
      | '\x7d' :: rest => some (.variable name .length inQuotes, rest)
      | _ => none
    | '\x7b' :: rest => do
      let (name, rest) ← variableName? rest
      let (change, rest) ← change fuel rest
      some (.variable name change inQuotes, rest)
    | cs =>
      match variableName? cs with
      | some (name, rest) => some (.variable name .none inQuotes, rest)
      | none => some (.quoted "$", cs)

/-- What is done with a variable, up to the closing brace. -/
def change : Nat → List Char → Option (Change × List Char)
  | 0, _ => none
  | fuel + 1, cs =>
    let withWord (make : List Part → Change) (rest : List Char) :
        Option (Change × List Char) := do
      let (w, rest) ← word true fuel [] rest
      some (make w, rest)
    match cs with
    | '\x7d' :: rest => some (.none, rest)
    | ':' :: '-' :: rest => withWord (.orElse true) rest
    | '-' :: rest => withWord (.orElse false) rest
    | ':' :: '=' :: rest => withWord (.assign true) rest
    | '=' :: rest => withWord (.assign false) rest
    | ':' :: '+' :: rest => withWord (.instead true) rest
    | '+' :: rest => withWord (.instead false) rest
    | '#' :: '#' :: rest => withWord (.cutStart true) rest
    | '#' :: rest => withWord (.cutStart false) rest
    | '%' :: '%' :: rest => withWord (.cutEnd true) rest
    | '%' :: rest => withWord (.cutEnd false) rest
    | _ => none

/-- The redirections that stand here. -/
def redirections : Nat → List Char → Option (List (Nat × Target) × List Char)
  | 0, _ => none
  | fuel + 1, cs =>
    let cs := skipBlanks cs
    let digits := cs.takeWhile Char.isDigit
    let fd := (String.ofList digits).toNat?
    let target (reading : Bool) (fd : Nat) (rest : List Char) :
        Option (List (Nat × Target) × List Char) := do
      let (t, rest) ←
        match rest with
        | '&' :: '-' :: rest => some (Target.close, rest)
        | '&' :: c :: rest => if c.isDigit then some (Target.copy (c.toNat - 48), rest) else none
        | rest => do
          let (w, rest) ← word false fuel [] (skipBlanks rest)
          if w.isEmpty then none else some (Target.file w reading, rest)
      let (more, rest) ← redirections fuel rest
      some ((fd, t) :: more, rest)
    match cs.drop digits.length with
    | '>' :: '>' :: rest => target false (fd.getD 1) rest
    | '>' :: '|' :: rest => target false (fd.getD 1) rest
    | '>' :: rest => target false (fd.getD 1) rest
    | '<' :: '<' :: _ => none
    | '<' :: rest => target true (fd.getD 0) rest
    | _ => some ([], cs)

def simple : Nat → List (String × List Part) → List (List Part) → List (Nat × Target) →
    List Char → Option (Command × List Char)
  | 0, _, _, _, _ => none
  | fuel + 1, settings, words, rs, cs => do
    let (more, cs) ← redirections fuel (skipSpace cs)
    let rs := rs ++ more
    let (w, rest) ← word false fuel [] (skipSpace cs)
    if w.isEmpty then some (.simple settings words rs, rest)
    else
      match if words.isEmpty then assignment? w else none with
      | some a => simple fuel (settings ++ [a]) words rs rest
      | none => simple fuel settings (words ++ [w]) rs rest

def command : Nat → List Char → Option (Command × List Char)
  | 0, _ => none
  | fuel + 1, cs => do
    let (c, rest) ← form fuel cs
    match c with
    | .simple .. => some (c, rest)
    | c => do
      let (rs, rest) ← redirections fuel rest
      if rs.isEmpty then some (c, rest) else some (.redirected c rs, rest)

/-- One command without redirections of the whole. -/
def form : Nat → List Char → Option (Command × List Char)
  | 0, _ => none
  | fuel + 1, cs =>
    match cs with
    | '(' :: rest => do
      let (c, rest) ← list fuel rest
      match skipLines rest.length rest with
      | ')' :: rest => some (.subshell c, rest)
      | _ => none
    | cs =>
      let (name, rest) := keyword cs
      match name with
      | "\x7b" => do
        let (c, rest) ← list fuel rest
        some (c, ← expect "\x7d" rest)
      | "if" => branch fuel rest
      | "while" => loop true fuel rest
      | "until" => loop false fuel rest
      | "for" => do
        let (name, rest) := takeName (skipSpace rest)
        let (listed, rest) ←
          match keyword (skipLines rest.length rest) with
          | ("in", rest) => do
            let (ws, rest) ← words fuel rest
            some (some ws, rest)
          | _ => some (none, rest)
        let rest :=
          match skipSpace rest with
          | ';' :: rest => rest
          | rest => rest
        let (body, rest) ← list fuel (← expect "do" rest)
        some (.forEach name listed body, ← expect "done" rest)
      | "case" => do
        let (w, rest) ← word false fuel [] (skipSpace rest)
        let (cases, rest) ← cases fuel (← expect "in" rest)
        some (.choice w cases, rest)
      | name =>
        match definition? name rest with
        | some rest => do
          let (body, rest) ← command fuel rest
          some (.define name body, rest)
        | none => simple fuel [] [] [] cs

def words : Nat → List Char → Option (List (List Part) × List Char)
  | 0, _ => none
  | fuel + 1, cs => do
    let (w, rest) ← word false fuel [] (skipSpace cs)
    if w.isEmpty then some ([], rest)
    else
      let (more, rest) ← words fuel rest
      some (w :: more, rest)

def branch : Nat → List Char → Option (Command × List Char)
  | 0, _ => none
  | fuel + 1, cs => do
    let (condition, rest) ← list fuel cs
    let (yes, rest) ← list fuel (← expect "then" rest)
    match keyword (skipLines rest.length rest) with
    | ("elif", rest) => do
      let (no, rest) ← branch fuel rest
      some (.branch condition yes no, rest)
    | ("else", rest) => do
      let (no, rest) ← list fuel rest
      some (.branch condition yes no, ← expect "fi" rest)
    | ("fi", rest) => some (.branch condition yes .nothing, rest)
    | _ => none

def loop (whileOk : Bool) : Nat → List Char → Option (Command × List Char)
  | 0, _ => none
  | fuel + 1, cs => do
    let (condition, rest) ← list fuel cs
    let (body, rest) ← list fuel (← expect "do" rest)
    some (.loop whileOk condition body, ← expect "done" rest)

/-- The cases of a choice up to its end. -/
def cases : Nat → List Char → Option (List (List (List Part) × Command) × List Char)
  | 0, _ => none
  | fuel + 1, cs =>
    let cs := skipLines cs.length cs
    match keyword cs with
    | ("esac", rest) => some ([], rest)
    | _ => do
      let cs :=
        match cs with
        | '(' :: rest => rest
        | cs => cs
      let (ps, rest) ← patterns fuel cs
      let (body, rest) ← list fuel rest
      match skipLines rest.length rest with
      | ';' :: ';' :: rest => do
        let (more, rest) ← cases fuel rest
        some ((ps, body) :: more, rest)
      | rest => some ([(ps, body)], ← expect "esac" rest)

/-- The patterns of a case, and the bracket behind them. -/
def patterns : Nat → List Char → Option (List (List Part) × List Char)
  | 0, _ => none
  | fuel + 1, cs => do
    let (w, rest) ← word false fuel [] (skipSpace cs)
    match skipSpace rest with
    | '|' :: rest => do
      let (more, rest) ← patterns fuel rest
      some (w :: more, rest)
    | ')' :: rest => some ([w], rest)
    | _ => none

def pipeline : Nat → List Char → Option (Command × List Char)
  | 0, _ => none
  | fuel + 1, cs => do
    match keyword cs with
    | ("!", rest) =>
      let (c, rest) ← pipeline fuel (skipSpace rest)
      some (.negated c, rest)
    | _ =>
      let (c, rest) ← command fuel cs
      match skipSpace rest with
      | '|' :: '|' :: _ => some (c, rest)
      | '|' :: rest => do
        let (d, rest) ← pipeline fuel (skipLines rest.length rest)
        some (.pipe c d, rest)
      | _ => some (c, rest)

/-- More commands behind one, each under the condition that the sign before it names. -/
def conditional : Nat → Command → List Char → Option (Command × List Char)
  | 0, _, _ => none
  | fuel + 1, c, cs =>
    match skipSpace cs with
    | '&' :: '&' :: rest => do
      let (d, rest) ← pipeline fuel (skipLines rest.length rest)
      conditional fuel (.both c d) rest
    | '|' :: '|' :: rest => do
      let (d, rest) ← pipeline fuel (skipLines rest.length rest)
      conditional fuel (.either c d) rest
    | rest => some (c, rest)

/-- Commands up to the end of the text, or to a word that ends a part of a command. -/
def list : Nat → List Char → Option (Command × List Char)
  | 0, _ => none
  | fuel + 1, cs =>
    let cs := skipLines cs.length cs
    if atEnd cs then some (.nothing, cs)
    else do
      let (c, rest) ← pipeline fuel cs
      let (c, rest) ← conditional fuel c rest
      match skipSpace rest with
      | ';' :: ';' :: rest => some (c, ';' :: ';' :: rest)
      | ';' :: rest => do
        let (more, rest) ← list fuel rest
        some (sequence c more, rest)
      | '\n' :: rest => do
        let (more, rest) ← list fuel rest
        some (sequence c more, rest)
      | rest => some (c, rest)

end

end Mcp.Shell.Parser

namespace Mcp.Shell

def Command.parse? (text : String) : Option Command :=
  let cs := text.toList
  match Parser.list (8 * cs.length + 16) cs with
  | some (c, []) => some c
  | _ => none

end Mcp.Shell
