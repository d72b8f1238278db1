import Mcp.Members
import Mcp.Yaml.Tree

/-!
Nodes: what a document says, with every number replaced by the node that has it. Only what a reader
will look at is gone through, and how many numbers may be replaced on the way is limited by the
size of the document: so a short text cannot stand for a huge one.
-/

namespace Mcp.Yaml

inductive Node where
  | scalar (text : String) (style : Style) (tag : Option Tag)
  | sequence (items : List Node) (tag : Option Tag)
  | mapping (members : List (Node × Node)) (tag : Option Tag)
  deriving Repr, Inhabited

namespace Node

def blank : Node := .scalar "" .plain none

def text? : Node → Option String
  | .scalar text _ _ => some text
  | _ => none

def tag : Node → Option Tag
  | .scalar _ _ tag => tag
  | .sequence _ tag => tag
  | .mapping _ tag => tag

end Node

/-- What of a node a reader looks at. Of a mapping it always looks at the keys. -/
inductive Extent where
  /-- All that stands in it. -/
  | whole
  /-- An extent of each item of a sequence. -/
  | items (each : Extent)
  /-- An extent of the value of each member of a mapping. -/
  | members (each : Extent)
  /-- An extent of the values under some keys of a mapping. -/
  | fields (known : List (String × Extent))

namespace Extent

def item : Extent → Extent
  | .items each => each
  | _ => .whole

/-- What is looked at of the value under a key, if anything is. -/
def member? (e : Extent) (key : Node) : Option Extent :=
  match e with
  | .members each => some each
  | .fields known => key.text?.bind (Members.lookup known)
  | _ => some .whole

end Extent

namespace Tree

mutual

/-- The nodes with numbers, outer ones and earlier ones first. -/
def anchors : Tree → List (Nat × Tree)
  | .scalar .. => []
  | .sequence items _ => anchorsOfItems items
  | .mapping members _ => anchorsOfMembers members
  | .anchored number node => (number, node) :: node.anchors
  | .alias _ => []

def anchorsOfItems : List Tree → List (Nat × Tree)
  | [] => []
  | n :: rest => n.anchors ++ anchorsOfItems rest

def anchorsOfMembers : List (Tree × Tree) → List (Nat × Tree)
  | [] => []
  | (k, v) :: rest => k.anchors ++ v.anchors ++ anchorsOfMembers rest

end

mutual

/-- The size of a document: a collection counts where it starts and where it ends. -/
def size : Tree → Nat
  | .scalar .. => 1
  | .sequence items _ => sizeOfItems items + 2
  | .mapping members _ => sizeOfMembers members + 2
  | .anchored _ node => node.size
  | .alias _ => 1

def sizeOfItems : List Tree → Nat
  | [] => 0
  | n :: rest => n.size + sizeOfItems rest

def sizeOfMembers : List (Tree × Tree) → Nat
  | [] => 0
  | (k, v) :: rest => k.size + v.size + sizeOfMembers rest

end

/-- How many more numbers may be replaced. -/
abbrev Resolving := StateT Nat Option

/-- The node that is meant where a number or a node with a number stands. -/
def target (anchors : List (Nat × Tree)) : Tree → Resolving Tree
  | .alias number => do
    let left ← get
    match left, anchors.lookup number with
    | left + 1, some n =>
      set left
      return n
    | _, _ => failure
  | .anchored _ n => return n
  | n => return n

/-- Replaces the numbers in what is looked at, where no more than so many collections may stand
inside one another. What is not looked at is left blank. -/
def resolve (anchors : List (Nat × Tree)) : Nat → Extent → Tree → Resolving Node
  | depth, e, n => do
    match depth, ← target anchors n with
    | _, .scalar text style tag => return .scalar text style tag
    | depth + 1, .sequence items tag =>
      return .sequence (← items.mapM (resolve anchors depth e.item)) tag
    | depth + 1, .mapping members tag =>
      let members ← members.mapM fun (k, v) => do
        let key ← resolve anchors depth .whole k
        match e.member? key with
        | some e => return (key, ← resolve anchors depth e v)
        | none => return (key, .blank)
      return .mapping members tag
    | _, _ => failure

end Tree

namespace Node

/-- How many collections may stand inside one another. -/
def maxDepth : Nat := 128

/-- How many numbers may be replaced for each part of a document. -/
def repetition : Nat := 100

/-- What a tree says within an extent. Of several nodes with one number the last is meant. -/
def ofTree? (e : Extent) (t : Tree) : Option Node :=
  ((t.resolve t.anchors.reverse maxDepth e).run (repetition * t.size)).map Prod.fst

def parse? (e : Extent) (text : String) : Option Node := do
  let t ← Tree.parse? text
  ofTree? e t

end Node

end Mcp.Yaml
