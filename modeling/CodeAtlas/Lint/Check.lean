import CodeAtlas.Lint.Leftover
import CodeAtlas.Lint.Visit
import CodeAtlas.Script.Parse
import CodeAtlas.Text.Search

/-! Checking a source without running it. Statements are visited in order; the bodies of
functions wait until everything around them has been seen, and so do types written as texts. -/

namespace CodeAtlas.Lint

open Script

/-- Nodes from which the nodes below are reached in one step less. -/
def isPlain : Node → Bool
  | .stmt s =>
    match s with
    | .delete _ _ | .loop _ _ _ _ _ | .repeatWhile _ _ _ _ | .within _ _ _ | .expr _ _
    | .assign _ _ _ | .select _ _ _ | .result _ _ | .augment _ _ _ | .classDef _ _ _ _ _ _
    | .guarded _ _ _ _ _ _ => true
    | _ => false
  | .expr e =>
    match e with
    | .boolean _ _ | .unary _ _ | .set _ _ | .attribute _ _ _ _ | .starred _ _ _
    | .assigned _ _ _ | .slice _ _ _ _ | .embedded _ _ _ | .yielded _ _ | .yieldedFrom _ _
    | .awaited _ _ | .lambda _ _ _ => true
    | _ => false
  | .pattern p =>
    match p with
    | .value _ _ | .sequence _ _ | .classOf _ _ _ _ | .either _ _ => true
    | _ => false
  | .case _ | .keyword _ | .generator _ | .opened _ _ => true
  | .handler _ | .params _ | .param _ => false

/-- Statements that may stand in front of a feature that is switched on. -/
def isPreamble : Node → Bool
  | .stmt (.importFrom _ _ _ _) | .stmt (.expr _ (.constant _ (.text _))) => true
  | _ => false

/-- Note that a node is visited, and where it stands. -/
def enter (c : Context) (part : Part) (node : Node) : Walk Site := do
  if c.depth == 0 && c.beyond.isEmpty && !isPreamble node then
    modify fun s => { s with atStart := false }
  let id := (← get).visited
  modify fun s => { s with visited := id + 1 }
  let position := c.pinned.getD ((node.span?.map Position.ofSpan).getD ⟨1, 0⟩)
  pure (.inside id (c.depth + 1) part node position c.outer)

/-- Visit a node and all below it, with a number of steps left to go down. -/
def visit : Nat → Visit
  | n + 3, c, part, node => do
    let site ← enter c part node
    let c := { c with outer := site, depth := c.depth + 1 }
    visitAny (if isPlain node then visit (n + 1) else visit n) c site node
  | _, _, _, _ => throw .tooDeep

/-- The most steps that a visit goes down. -/
def maxSteps : Nat := 990

/-- Half of a surrogate pair cannot be read as source. -/
def halfPair? (points : List Nat) : Option Trouble :=
  (points.zipIdx.find? fun (n, _) => !n.isValidChar).map fun (n, i) => .halfPair n i

/-- Read a type that was written as a text; everything in it stands where the text does. -/
def runTextType (c : Context) (points : List Nat) (position : Position) : Walk Unit := do
  match halfPair? points with
  | some trouble => throw trouble
  | none =>
    match parse (Text.ofPoints points) with
    | .ok [.expr _ e] =>
      visit maxSteps { c with types := .text, pinned := some position } .other (.expr e)
    | .ok _ | .error (.malformed _ _) => report c.outer.position (.malformedType points)
    | .error fault => throw (.unreadable fault)

def runTask (c : Context) : Task → Walk Unit
  | .body =>
    match c.outer.node? with
    | some node => inScope c .function fun c =>
        visitParts (visit maxSteps) c node [.decorator, .returns]
    | none => pure ()
  | .textType points position => runTextType c points position
  | .type e => visit maxSteps { c with types := .bare } .other (.expr e)

/-- Do what has been put off, first come first served, `fuel` tasks at most. -/
def runWaiting : Nat → Walk Unit
  | 0 => pure ()
  | fuel + 1 => do
    let s ← get
    let (queue, arrived) :=
      if s.waiting.isEmpty then (s.arrived.reverse, []) else (s.waiting, s.arrived)
    match queue with
    | [] => pure ()
    | d :: rest =>
      set { s with waiting := rest, arrived := arrived }
      runTask d.context d.task
      runWaiting fuel

/-- Follow the names of a whole module. -/
def walkModule (fuel : Nat) (body : List Stmt) : Walk Unit := do
  builtins.forM fun name => enterBinding 0 ⟨name, .builtin, none, none, []⟩
  let c : Context := ⟨.top, 0, 0, [], .off, false, [], none⟩
  body.forM fun s => visit maxSteps c .body (.stmt s)
  runWaiting fuel
  modify fun s => { s with left := 0 :: s.left }

/-- What is known before anything has been seen. -/
def Names.initial (file : String) : Names where
  scopes := #[.ofKind .module]
  bindings := #[]
  left := []
  waiting := []
  arrived := []
  reports := []
  visited := 0
  atStart := true
  futureTypes := false
  file := file

/-- All reports on a source in the order of their rows. -/
def check (file : String) (fuel : Nat) (body : List Stmt) : Except Trouble (List Report) := do
  let base := String.ofList (Text.afterLast '/' file.toList)
  let ((), s) ← (walkModule fuel body).run (.initial base)
  let rest ← leftovers s
  pure ((s.reports.reverse ++ rest).mergeSort fun a b => a.position.line ≤ b.position.line)

end CodeAtlas.Lint
