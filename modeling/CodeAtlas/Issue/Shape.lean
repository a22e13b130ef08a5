import CodeAtlas.Issue.Basic
import CodeAtlas.Node

/-! Issues that the shape of a syntax tree shows: long functions, deep nesting and
long parameter lists. -/

namespace CodeAtlas.Issue

/-- Rows that a function may span. -/
def longFunctionRows : Nat := 50

/-- Parameters that a function may have. -/
def maxParams : Nat := 5

/-- Nesting that code may have. -/
def maxDepth : Nat := 4

/-- The kind of node that defines a function. -/
def functionKind : Language → String
  | .python => "function_definition"
  | .java => "method_declaration"

/-- Kinds of node that nest code. -/
def nestingKinds : Language → List String
  | .python =>
    ["if_statement", "for_statement", "while_statement", "try_statement", "with_statement",
      "function_definition", "class_definition"]
  | .java =>
    ["if_statement", "for_statement", "while_statement", "try_statement", "switch_statement",
      "method_declaration", "class_declaration"]

/-- The kind of node that holds a function's parameters, and that of one of them. -/
def paramKinds : Language → String × String
  | .python => ("parameters", "identifier")
  | .java => ("formal_parameters", "formal_parameter")

/-- A function that spans too many rows. -/
def longFunction? (lang : Language) (n : Node) : Option Issue :=
  if n.kind = functionKind lang ∧ n.first + longFunctionRows < n.last then
    some ⟨lang, .longFunction (n.last - n.first) (n.first + 1) (n.last + 1)⟩
  else none

def longFunctions (lang : Language) (tree : Node) : List Issue :=
  tree.preorder.filterMap (longFunction? lang)

/-- Number of parameters in a function's first parameter list, if it has one. -/
def paramCount? (lang : Language) (n : Node) : Option Nat :=
  let (listKind, paramKind) := paramKinds lang
  if n.kind = functionKind lang then
    (n.children.find? (·.kind = listKind)).map fun ps =>
      (ps.children.filter (·.kind = paramKind)).length
  else none

/-- A function with too many parameters. -/
def manyParams? (lang : Language) (n : Node) : Option Issue :=
  match paramCount? lang n with
  | some count => if maxParams < count then some ⟨lang, .manyParams count (n.first + 1)⟩ else none
  | none => none

def manyParams (lang : Language) (tree : Node) : List Issue :=
  tree.preorder.filterMap (manyParams? lang)

mutual

/-- Nodes nested too deeply, below `depth` nesting nodes; of one that is reported
nothing further is said. -/
def deepNestingFrom (lang : Language) (depth : Nat) : Node → List Issue
  | .mk kind first last _ _ children =>
    let depth := if (nestingKinds lang).contains kind then depth + 1 else depth
    if maxDepth < depth then [⟨lang, .deepNesting depth (first + 1) (last + 1)⟩]
    else deepNestingAll lang depth children

def deepNestingAll (lang : Language) (depth : Nat) : List Node → List Issue
  | [] => []
  | n :: rest => deepNestingFrom lang depth n ++ deepNestingAll lang depth rest

end

def deepNesting (lang : Language) (tree : Node) : List Issue :=
  deepNestingFrom lang 0 tree

end CodeAtlas.Issue
