import CodeAtlas.Script.Outline
import CodeAtlas.Script.Parse
import CodeAtlas.Text.Rows

/-! Cutting a function out of Python source. Every node is told which one it stands below; then
the tree is searched in breadth, so a definition nearer to the top wins over one that is nested more
deeply. -/

namespace CodeAtlas.Excerpt

open Script

/-- An outline in which every node has the label of the node above it at hand. -/
inductive Attached where
  | node (parent label : Label) (children : List Attached)

namespace Attached

def parent : Attached → Label
  | .node parent _ _ => parent

def label : Attached → Label
  | .node _ label _ => label

def children : Attached → List Attached
  | .node _ _ children => children

end Attached

mutual

/-- Attach parents throughout an outline. -/
def attach (parent : Label) : Outline → Attached
  | .node label children => .node parent label (attachAll label children)

def attachAll (parent : Label) : List Outline → List Attached
  | [] => []
  | o :: rest => attach parent o :: attachAll parent rest

end

mutual

/-- Number of nodes of an outline. -/
def size : Outline → Nat
  | .node _ children => sizeAll children + 1

def sizeAll : List Outline → Nat
  | [] => 0
  | o :: rest => size o + sizeAll rest

end

/-- Go through nodes with a queue: the first one comes next, and those below it go to the end. -/
def walk : Nat → List Attached → List Attached
  | n + 1, a :: queue => a :: walk n (queue ++ a.children)
  | _, _ => []

/-- The rows of a function with the given name; with a class, only one that is
defined right in that class. -/
def rowsOf? (method : String) (cls : Option String) (parent own : Label) : Option (Nat × Nat) :=
  match own with
  | .function name first last =>
    if name = method then
      match cls with
      | none => some (first, last)
      | some c => if parent = .classDef c then some (first, last) else none
    else none
  | _ => none

/-- An empty class name asks for no class. -/
def askedClass (cls : Option String) : Option String :=
  cls.filter (· ≠ "")

/-- First and last row of the function to cut out. -/
def findFunction? (o : Outline) (method : String) (cls : Option String) : Option (Nat × Nat) :=
  (walk (size o) [attach .other o]).findSome? fun a =>
    rowsOf? method (askedClass cls) a.parent a.label

/-- The source of a function, or nothing. -/
def indented (code method : String) (cls : Option String) : String :=
  match parse code.toList with
  | .error _ => ""
  | .ok body =>
    match findFunction? (outlineOf body) method cls with
    | none => ""
    | some (first, last) => String.ofList (Text.rowsBetween (Text.rows code.toList) first last)

end CodeAtlas.Excerpt
