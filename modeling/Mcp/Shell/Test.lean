/-!
Conditions of the shell.
-/

namespace Mcp.Shell.Test

def directories : List String :=
  ["/", "/bin", "/dev", "/etc", "/home", "/lib", "/opt", "/proc", "/root", "/run", "/sbin", "/srv",
    "/sys", "/tmp", "/usr", "/usr/bin", "/usr/lib", "/usr/local", "/usr/local/bin", "/usr/sbin",
    "/var", "/var/log", "/var/tmp"]

/-- A path without a slash at its end. -/
def normal (path : String) : String :=
  match path.toList.reverse.dropWhile (· = '/') with
  | [] => if path.isEmpty then "" else "/"
  | cs => String.ofList cs.reverse

def isDirectory (path : String) : Bool := directories.contains (normal path)

def integers (a b : String) (holds : Int → Int → Bool) : Bool :=
  match a.toInt?, b.toInt? with
  | some a, some b => holds a b
  | _, _ => false

def unary (operator a : String) : Option Bool :=
  match operator with
  | "-n" => some !a.isEmpty
  | "-z" => some a.isEmpty
  | "-d" => some (isDirectory a)
  | "-e" => some (isDirectory a || a = "/dev/null")
  | "-f" => some false
  | "-r" => some (isDirectory a || a = "/dev/null")
  | "-t" => some false
  | _ => none

def binary (a operator b : String) : Option Bool :=
  match operator with
  | "=" => some (a = b)
  | "==" => some (a = b)
  | "!=" => some (a ≠ b)
  | "-eq" => some (integers a b fun a b => a = b)
  | "-ne" => some (integers a b fun a b => a ≠ b)
  | "-lt" => some (integers a b fun a b => a < b)
  | "-le" => some (integers a b fun a b => a ≤ b)
  | "-gt" => some (integers a b fun a b => a > b)
  | "-ge" => some (integers a b fun a b => a ≥ b)
  | _ => none

/-- A condition without a conjunction. -/
def simple : List String → Option Bool
  | [] => some false
  | [a] => some !a.isEmpty
  | ["!", a] => some a.isEmpty
  | [operator, a] => unary operator a
  | [a, operator, b] =>
    match binary a operator b with
    | some r => some r
    | none => if a = "!" then (unary operator b).map not else none
  | ["!", a, operator, b] => (binary a operator b).map not
  | _ => none

/-- Words between those that are a given one. -/
def cut (word : String) : List String → List (List String)
  | [] => [[]]
  | w :: rest =>
    match cut word rest with
    | first :: more => if w = word then [] :: first :: more else (w :: first) :: more
    | [] => [[w]]

/-- A condition; none if it cannot be read as one. -/
def holds (words : List String) : Option Bool :=
  match simple words with
  | some r => some r
  | none => do
    let alternatives ← (cut "-o" words).mapM fun ws => do
      let parts ← (cut "-a" ws).mapM simple
      some (parts.all id)
    some (alternatives.any id)

end Mcp.Shell.Test
