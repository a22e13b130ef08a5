import CodeAtlas.Script.Tree

/-! The outline of a source: its statements as a tree that keeps only which of
them are functions and classes. Blocks of `except` and `case` are nodes of their
own, so that depths are those of the syntax tree. -/

namespace CodeAtlas.Script

inductive Label where
  /-- A function with its first and last row. -/
  | function (name : String) (first last : Nat)
  | classDef (name : String)
  | other
  deriving Repr, DecidableEq

inductive Outline where
  | node (label : Label) (children : List Outline)
  deriving Repr

def Outline.label : Outline → Label
  | .node l _ => l

def Outline.children : Outline → List Outline
  | .node _ cs => cs

mutual

def Stmt.outline : Stmt → Outline
  | .function span isAsync name _ body _ _ =>
    .node (if isAsync then .other else .function name span.line span.lastLine) (outlines body)
  | .classDef _ name _ _ body _ => .node (.classDef name) (outlines body)
  | .loop _ _ _ body orelse => .node .other (outlines body ++ outlines orelse)
  | .repeatWhile _ _ body orelse => .node .other (outlines body ++ outlines orelse)
  | .branch _ _ body orelse => .node .other (outlines body ++ outlines orelse)
  | .within _ _ body => .node .other (outlines body)
  | .select _ _ cases => .node .other (caseOutlines cases)
  | .guarded _ _ body handlers orelse final =>
    .node .other (outlines body ++ handlerOutlines handlers ++ outlines orelse ++ outlines final)
  | _ => .node .other []

def outlines : List Stmt → List Outline
  | [] => []
  | s :: rest => s.outline :: outlines rest

def handlerOutlines : List Handler → List Outline
  | [] => []
  | .mk _ _ _ body :: rest => .node .other (outlines body) :: handlerOutlines rest

def caseOutlines : List Case → List Outline
  | [] => []
  | .mk _ _ body :: rest => .node .other (outlines body) :: caseOutlines rest

end

/-- The outline of a whole source. -/
def outlineOf (body : List Stmt) : Outline :=
  .node .other (outlines body)

end CodeAtlas.Script
