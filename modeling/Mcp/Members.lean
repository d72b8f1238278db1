/-!
Members: values under keys, in a list. Reading takes the first value under a key; putting in keeps
ascending keys ascending.
-/

namespace Mcp.Members

variable {ν : Type}

/-- The value under a key. -/
def lookup (members : List (String × ν)) (key : String) : Option ν :=
  match members with
  | [] => none
  | (k, v) :: rest => if k = key then some v else lookup rest key

def contains (members : List (String × ν)) (key : String) : Bool := (lookup members key).isSome

/-- Puts a member into members whose keys ascend, in the place of one with the same key. -/
def insert (members : List (String × ν)) (key : String) (value : ν) : List (String × ν) :=
  match members with
  | [] => [(key, value)]
  | (k, v) :: rest =>
    if key < k then (key, value) :: (k, v) :: rest
    else if key = k then (key, value) :: rest
    else (k, v) :: insert rest key value

/-- Members with ascending keys, of two with one key the last. -/
def ofList (members : List (String × ν)) : List (String × ν) :=
  members.foldl (fun acc m => insert acc m.1 m.2) []

end Mcp.Members
