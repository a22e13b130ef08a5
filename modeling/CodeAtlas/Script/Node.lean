import CodeAtlas.Script.Tree

/-! The nodes of a syntax tree under one type. Every node lists the nodes right below it in
the order in which they take effect: what is read comes before what is bound to it. -/

namespace CodeAtlas.Script

inductive Node where
  | stmt (s : Stmt)
  | expr (e : Expr)
  | pattern (p : Pattern)
  | handler (h : Handler)
  | case (c : Case)
  | keyword (k : Keyword)
  | generator (g : Generator)
  | params (p : Params)
  | param (p : Param)
  /-- What a `with` block opens, and the target for it. -/
  | opened (e : Expr) (target : Option Expr)
  deriving Repr, Inhabited

/-- The part that a node plays in the one above it. Handlers and cases are numbered. -/
inductive Part where
  | body
  | orelse
  | final
  | handler (i : Nat)
  | case (i : Nat)
  | decorator
  | returns
  | params
  | default
  | args
  | keywords
  | items
  | keys
  | values
  | value
  | other
  deriving Repr, DecidableEq, Inhabited

def exprParts (part : Part) (es : List Expr) : List (Part × Node) :=
  es.map fun e => (part, .expr e)

def stmtParts (part : Part) (ss : List Stmt) : List (Part × Node) :=
  ss.map fun s => (part, .stmt s)

def patternParts (ps : List Pattern) : List (Part × Node) :=
  ps.map fun p => (.other, .pattern p)

def Expr.parts : Expr → List (Part × Node)
  | .name _ _ _ | .constant _ _ => []
  | .joined _ pieces => exprParts .values pieces
  | .embedded _ value format => exprParts .value [value] ++ exprParts .other format.toList
  | .attribute _ _ value _ => exprParts .value [value]
  | .subscript _ _ value index => exprParts .value [value] ++ exprParts .other [index]
  | .call _ func args keywords =>
    exprParts .other [func] ++ exprParts .args args ++ keywords.map fun k => (.keywords, .keyword k)
  | .tuple _ _ items | .list _ _ items | .set _ items => exprParts .items items
  | .dict _ keys values => exprParts .keys (keys.filterMap id) ++ exprParts .values values
  | .starred _ _ value => exprParts .value [value]
  | .binary _ _ left right => exprParts .other [left, right]
  | .unary _ operand => exprParts .other [operand]
  | .boolean _ operands => exprParts .values operands
  | .compare _ left _ rights => exprParts .other (left :: rights)
  | .conditional _ test body orelse => exprParts .other [test, body, orelse]
  | .lambda _ params body => [(.params, .params params), (.body, .expr body)]
  | .assigned _ target value => exprParts .value [value] ++ exprParts .other [target]
  | .comprehension _ _ elements generators =>
    (generators.map fun g => (.other, .generator g)) ++ exprParts .other elements
  | .yielded _ value => exprParts .value value.toList
  | .yieldedFrom _ value => exprParts .value [value]
  | .awaited _ value => exprParts .value [value]
  | .slice _ lower upper step => exprParts .other (lower.toList ++ upper.toList ++ step.toList)

def Pattern.parts : Pattern → List (Part × Node)
  | .value _ e => exprParts .value [e]
  | .singleton _ | .star _ _ => []
  | .sequence _ items | .either _ items => patternParts items
  | .mapping _ keys items _ => exprParts .keys keys ++ patternParts items
  | .classOf _ cls items named => exprParts .other [cls] ++ patternParts items ++ patternParts named
  | .capture _ inner _ => patternParts inner.toList

def Stmt.parts : Stmt → List (Part × Node)
  | .function _ _ _ params body decorators returns =>
    [(.params, .params params)] ++ stmtParts .body body ++ exprParts .decorator decorators ++
      exprParts .returns returns.toList
  | .classDef _ _ bases keywords body decorators =>
    exprParts .other bases ++ (keywords.map fun k => (.keywords, .keyword k)) ++
      stmtParts .body body ++ exprParts .decorator decorators
  | .result _ value => exprParts .value value.toList
  | .delete _ targets => exprParts .other targets
  | .assign _ targets value => exprParts .value [value] ++ exprParts .other targets
  | .augment _ target value => exprParts .value [value] ++ exprParts .other [target]
  | .annotate _ target typeNote value =>
    exprParts .value value.toList ++ exprParts .other [target, typeNote]
  | .loop _ target source body orelse =>
    exprParts .other [source, target] ++ stmtParts .body body ++ stmtParts .orelse orelse
  | .repeatWhile _ test body orelse | .branch _ test body orelse =>
    exprParts .other [test] ++ stmtParts .body body ++ stmtParts .orelse orelse
  | .within _ items body =>
    (items.map fun (e, target) => (.items, .opened e target)) ++ stmtParts .body body
  | .select _ subject cases =>
    exprParts .other [subject] ++
      cases.zipIdx.map fun (c, i) => (.case i, .case c)
  | .throwing _ exception cause => exprParts .other (exception.toList ++ cause.toList)
  | .guarded _ _ body handlers orelse final =>
    stmtParts .body body ++ (handlers.zipIdx.map fun (h, i) => (.handler i, .handler h)) ++
      stmtParts .orelse orelse ++ stmtParts .final final
  | .assertion _ test message => exprParts .other (test :: message.toList)
  | .expr _ value => exprParts .value [value]
  | .importNames _ _ | .importFrom _ _ _ _ | .outerNames _ _ | .idle _ | .leave _ | .resume _ => []

/-- Parameters in the order in which they are bound, then the default values. -/
def Params.parts : Params → List (Part × Node)
  | .mk positional plain rest named namedRest defaults namedDefaults =>
    ((positional ++ plain ++ rest.toList ++ named ++ namedRest.toList).map fun p =>
      (.other, .param p)) ++ exprParts .default (defaults ++ namedDefaults)

/-- The nodes right below a node. -/
def Node.parts : Node → List (Part × Node)
  | .stmt s => s.parts
  | .expr e => e.parts
  | .pattern p => p.parts
  | .handler (.mk _ kind _ body) => exprParts .other kind.toList ++ stmtParts .body body
  | .case (.mk p guard body) =>
    patternParts [p] ++ exprParts .other guard.toList ++ stmtParts .body body
  | .keyword (.mk _ _ value) => exprParts .value [value]
  | .generator (.mk target source conditions) => exprParts .other (source :: target :: conditions)
  | .params p => p.parts
  | .param (.mk _ _ typeNote) => exprParts .other typeNote.toList
  | .opened e target => exprParts .other (e :: target.toList)

def Stmt.span : Stmt → Span
  | .function s _ _ _ _ _ _ | .classDef s _ _ _ _ _ | .result s _ | .delete s _ | .assign s _ _
  | .augment s _ _ | .annotate s _ _ _ | .loop s _ _ _ _ | .repeatWhile s _ _ _ | .branch s _ _ _
  | .within s _ _ | .select s _ _ | .throwing s _ _ | .guarded s _ _ _ _ _ | .assertion s _ _
  | .importNames s _ | .importFrom s _ _ _ | .outerNames s _ | .expr s _ | .idle s | .leave s
  | .resume s => s

/-- Where a node stands; parts of statements that have no place of their own have none. -/
def Node.span? : Node → Option Span
  | .stmt s => s.span
  | .expr e => e.span
  | .pattern p => p.span
  | .handler (.mk s _ _ _) | .keyword (.mk s _ _) | .param (.mk s _ _) => s
  | .case _ | .generator _ | .params _ | .opened _ _ => none

/-- Whether no branch below a node has more than `n` levels, the node itself included. -/
def Node.fits : Nat → Node → Bool
  | 0, _ => false
  | n + 1, node => node.parts.all fun p => p.2.fits n

end CodeAtlas.Script
