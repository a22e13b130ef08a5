import CodeAtlas.Script.Grammar.Target

/-! Productions of statements. -/

namespace CodeAtlas.Script.Grammar

/-- The statements of a whole source. -/
def file : Production := fresh [
  alt [.optional (r .statements), .kind .finish] (give 0)]

def statements : Production := fresh [
  alt [.several (r .statement)] (value fun vs => .list ((vs.at 0).items.flatMap Value.items))]

def statement : Production := fresh [
  alt [r .compoundStatement] (value fun vs => .list [vs.at 0]),
  only .simpleStatements]

def newline : Peg := .kind .newline

def simpleStatements : Production := fresh [
  alt [r .simpleStatement, .notAhead (m ";"), newline] (value fun vs => .list [vs.at 0]),
  alt [.separated (m ";") (r .simpleStatement), .optional (m ";"), newline] (give 0)]

/-- A statement that starts with one of several tokens. -/
def startedBy (starts : List Peg) (rule : Rule) : Alternative :=
  match starts with
  | [start] => alt [.ahead start, r rule] (give 0)
  | starts => alt [.ahead (oneOf starts), r rule] (give 0)

def simpleStatement : Production := kept [
  only .assignment,
  alt [r .starExpressions] (stmt fun s vs => .expr s (vs.expr 0)),
  startedBy [w "return"] .returnStatement,
  startedBy [w "import", w "from"] .importStatement,
  startedBy [w "raise"] .raiseStatement,
  alt [w "pass"] (stmt fun s _ => .idle s),
  startedBy [w "del"] .delStatement,
  startedBy [w "yield"] .yieldStatement,
  startedBy [w "assert"] .assertStatement,
  alt [w "break"] (stmt fun s _ => .leave s),
  alt [w "continue"] (stmt fun s _ => .resume s),
  startedBy [w "global"] .globalStatement,
  startedBy [w "nonlocal"] .nonlocalStatement]

def compoundStatement : Production := fresh [
  startedBy [w "def", m "@", w "async"] .functionDef,
  startedBy [w "if"] .ifStatement,
  startedBy [w "class", m "@"] .classDef,
  startedBy [w "with", w "async"] .withStatement,
  startedBy [w "for", w "async"] .forStatement,
  startedBy [w "try"] .tryStatement,
  startedBy [w "while"] .whileStatement,
  only .matchStatement]

/-! ### Simple statements -/

def yieldOrExpressions : Peg := oneOf [r .yieldExpr, r .starExpressions]

/-- The value after an equals sign. -/
def assignedValue : Peg := .optional (within [m "=", r .annotatedValue] 1)

def assignment : Production := fresh [
  alt [name, m ":", r .expression, assignedValue]
    (stmt fun s vs => .annotate s ((vs.expr 0).withUse .bind) (vs.expr 2) (vs.expr? 3)),
  alt [.group [alt [m "(", r .singleTarget, m ")"] (give 1), only .singleSubscriptAttribute],
      m ":", r .expression, assignedValue]
    (stmt fun s vs => .annotate s (vs.expr 0) (vs.expr 2) (vs.expr? 3)),
  alt [.several (within [r .starTargets, m "="] 0), yieldOrExpressions, .notAhead (m "=")]
    (stmt fun s vs => .assign s (vs.exprs 0) (vs.expr 1)),
  alt [r .singleTarget, r .augmentation, .commit, yieldOrExpressions]
    (stmt fun s vs => .augment s (vs.expr 0) (vs.expr 2)),
  misuse .badAssignment]

def annotatedValue : Production := fresh [only .yieldExpr, only .starExpressions]

def augmentation : Production := fresh
  (["+=", "-=", "*=", "@=", "/=", "%=", "&=", "|=", "^=", "<<=", ">>=", "**=", "//="].map
    fun mark => alt [m mark] (give 0))

def returnStatement : Production := fresh [
  alt [w "return", .optional (r .starExpressions)] (stmt fun s vs => .result s (vs.expr? 1))]

def raiseStatement : Production := fresh [
  alt [w "raise", r .expression, .optional (within [w "from", r .expression] 1)]
    (stmt fun s vs => .throwing s (vs.expr? 1) (vs.expr? 2)),
  alt [w "raise"] (stmt fun s _ => .throwing s none none)]

def namesStatement (word : String) : Production := fresh [
  alt [w word, .separated (m ",") name]
    (stmt fun s vs => .outerNames s ((vs.at 1).items.map Value.name))]

def delStatement : Production := fresh [
  alt [w "del", r .delTargets, .ahead (oneOf [m ";", newline])]
    (stmt fun s vs => .delete s (vs.exprs 1)),
  misuse .badDelStatement]

def yieldStatement : Production := fresh [
  alt [r .yieldExpr] (stmt fun s vs => .expr s (vs.expr 0))]

def assertStatement : Production := fresh [
  alt [w "assert", r .expression, .optional (within [m ",", r .expression] 1)]
    (stmt fun s vs => .assertion s (vs.expr 1) (vs.expr? 2))]

/-! ### Imports -/

def aliases (v : Value) : List Alias := v.items.filterMap Value.asAlias?

/-- Number of packages to go up. -/
def dots (v : Value) : Nat :=
  v.items.foldl (fun n t => n + t.asToken.text.length) 0

def dot : Peg := oneOf [m ".", m "..."]

def importStatement : Production := fresh [only .importName, only .importFrom]

def importName : Production := fresh [
  alt [w "import", r .dottedAsNames] (stmt fun s vs => .importNames s (aliases (vs.at 1)))]

def importFrom : Production := fresh [
  alt [w "from", .many dot, r .dottedName, w "import", r .importTargets]
    (stmt fun s vs => .importFrom s (dots (vs.at 1)) (some (vs.at 2).name) (aliases (vs.at 4))),
  alt [w "from", .several dot, w "import", r .importTargets]
    (stmt fun s vs => .importFrom s (dots (vs.at 1)) none (aliases (vs.at 3)))]

def importTargets : Production := fresh [
  alt [m "(", r .importAsNames, .optional (m ","), m ")"] (give 1),
  alt [r .importAsNames, .notAhead (m ",")] (give 0),
  alt [m "*"] (value fun _ => .list [.imported ⟨"*", none⟩]),
  misuse .badImportTargets]

def importAsNames : Production := fresh [
  alt [.separated (m ",") (r .importAsName)] (give 0)]

/-- A name under which an import is known. -/
def renamed : Peg := .optional (within [w "as", name] 1)

def aliasOf (vs : Fields) : Value := .imported ⟨(vs.at 0).name, (vs.at 1).name?⟩

def importAsName : Production := fresh [alt [name, renamed] (value aliasOf)]

def dottedAsNames : Production := fresh [
  alt [.separated (m ",") (r .dottedAsName)] (give 0)]

def dottedAsName : Production := fresh [alt [r .dottedName, renamed] (value aliasOf)]

def dottedName : Production := grown [
  alt [r .dottedName, m ".", name]
    (expr fun s vs => .name s .read ((vs.at 0).name ++ "." ++ (vs.at 2).name)),
  alt [name] (give 0)]

/-! ### Blocks -/

def block : Production := kept [
  alt [newline, .kind .indent, r .statements, .kind .dedent] (give 2),
  only .simpleStatements,
  misuse .badBlock]

def decorators : Production := fresh [
  alt [.several (within [m "@", r .namedExpression, newline] 1)] (give 0)]

/-- A definition with decorators in front. -/
def decorate (decorators : List Expr) : Value → Value
  | .stmt (.function s isAsync name params body _ returns) =>
    .stmt (.function s isAsync name params body decorators returns)
  | .stmt (.classDef s name bases keywords body _) =>
    .stmt (.classDef s name bases keywords body decorators)
  | v => v

def definition (plain : Rule) : Production := fresh [
  alt [r .decorators, r plain] (value fun vs => decorate (vs.exprs 0) (vs.at 1)),
  only plain]

/-- The bases of a class in their parentheses. -/
def bases : Peg := .optional (within [m "(", .optional (r .arguments), m ")"] 1)

def plainClassDef : Production := fresh [
  misuse .badClassDef,
  alt [w "class", name, bases, m ":", r .block]
    (stmt fun s vs =>
      .classDef s (vs.at 1).name (vs.arguments 2).1 (vs.arguments 2).2 (vs.at 4).stmts [])]

/-- A function whose name is the part at a position. -/
def functionOf (isAsync : Bool) (i : Nat) : Act :=
  stmt fun s vs =>
    let params :=
      match vs.at (i + 2) with
      | .params p => p
      | _ => .mk [] [] none [] none [] []
    .function s isAsync (vs.at i).name params (vs.at (i + 6)).stmts [] (vs.expr? (i + 4))

/-- A function from its name on. -/
def functionParts : List Peg :=
  [name, .required "(", .optional (r .params), m ")",
    .optional (within [m "->", r .expression] 1), .required ":", r .block]

def plainFunctionDef : Production := fresh [
  misuse .badFunctionDef,
  alt (w "def" :: functionParts) (functionOf false 1),
  alt (w "async" :: w "def" :: functionParts) (functionOf true 2)]

def params : Production := fresh [misuse .badParameters, only .parameters]

def ifLike (word : String) (bad : Rule) : Production := fresh [
  misuse bad,
  alt [w word, r .namedExpression, m ":", r .block, r .elifStatement]
    (stmt fun s vs => .branch s (vs.expr 1) (vs.at 3).stmts (Value.list [vs.at 4]).stmts),
  alt [w word, r .namedExpression, m ":", r .block, .optional (r .elseBlock)]
    (stmt fun s vs => .branch s (vs.expr 1) (vs.at 3).stmts (vs.at 4).stmts)]

def elseBlock : Production := fresh [
  misuse .badElseBlock,
  alt [w "else", .required ":", r .block] (give 2)]

def whileStatement : Production := fresh [
  misuse .badWhileStatement,
  alt [w "while", r .namedExpression, m ":", r .block, .optional (r .elseBlock)]
    (stmt fun s vs => .repeatWhile s (vs.expr 1) (vs.at 3).stmts (vs.at 4).stmts)]

/-- A loop from its first word on. -/
def forParts : List Peg :=
  [w "for", r .starTargets, w "in", .commit, r .starExpressions, m ":", r .block,
    .optional (r .elseBlock)]

def forOf (i : Nat) : Act :=
  stmt fun s vs =>
    .loop s (vs.expr (i + 1)) (vs.expr (i + 3)) (vs.at (i + 5)).stmts (vs.at (i + 6)).stmts

def forStatement : Production := fresh [
  misuse .badForStatement,
  alt forParts (forOf 0),
  alt (w "async" :: forParts) (forOf 1),
  misuse .badForTarget]

def contexts (v : Value) : List (Expr × Option Expr) :=
  v.items.filterMap fun
    | .context e t => some (e, t)
    | _ => none

def withOf (items body : Nat) : Act :=
  stmt fun s vs => .within s (contexts (vs.at items)) (vs.at body).stmts

def withParens : List Peg :=
  [w "with", m "(", .separated (m ",") (r .withItem), .optional (m ","), m ")", m ":", r .block]

def withPlain : List Peg := [w "with", .separated (m ",") (r .withItem), m ":", r .block]

def withStatement : Production := fresh [
  misuse .badWithBlock,
  alt withParens (withOf 2 6),
  alt withPlain (withOf 1 3),
  alt (w "async" :: withParens) (withOf 3 7),
  alt (w "async" :: withPlain) (withOf 2 4),
  misuse .badWithStatement]

/-- What ends the target of a `with` item. -/
def withEnd : Peg := .ahead (oneOf [m ",", m ")", m ":"])

def withItem : Production := fresh [
  alt [r .expression, w "as", r .starTarget, withEnd]
    (value fun vs => .context (vs.expr 0) (some (vs.expr 2))),
  misuse .badWithItem,
  alt [r .expression] (value fun vs => .context (vs.expr 0) none)]

def tryParts (handlers : Rule) : List Peg :=
  [w "try", .required ":", r .block, .several (r handlers), .optional (r .elseBlock),
    .optional (r .finallyBlock)]

def tryOf (isGroup : Bool) : Act :=
  stmt fun s vs =>
    .guarded s isGroup (vs.at 2).stmts ((vs.at 3).items.filterMap Value.asHandler?)
      (vs.at 4).stmts (vs.at 5).stmts

def tryStatement : Production := fresh [
  misuse .badTryStatement,
  alt [w "try", .required ":", r .block, r .finallyBlock]
    (stmt fun s vs => .guarded s false (vs.at 2).stmts [] [] (vs.at 3).stmts),
  alt (tryParts .exceptBlock) (tryOf false),
  alt (tryParts .exceptStarBlock) (tryOf true)]

/-- A handler whose kind and name stand at a position. -/
def handlerOf (i : Nat) : Act := fun sc vs =>
  .yields (.handler (.mk sc.span (vs.expr? i) (vs.at (i + 1)).name? (vs.at (i + 3)).stmts))

def exceptBlock : Production := fresh [
  misuse .badExceptBlock,
  alt [w "except", r .expression, renamed, m ":", r .block] (handlerOf 1),
  alt [w "except", m ":", r .block]
    fun sc vs => .yields (.handler (.mk sc.span none none (vs.at 2).stmts)),
  misuse .badExceptStatement]

def exceptStarBlock : Production := fresh [
  misuse .badExceptStarBlock,
  alt [w "except", m "*", r .expression, renamed, m ":", r .block] (handlerOf 2),
  misuse .badExceptStatement]

def finallyBlock : Production := fresh [
  misuse .badFinallyBlock,
  alt [w "finally", .required ":", r .block] (give 2)]

end CodeAtlas.Script.Grammar
