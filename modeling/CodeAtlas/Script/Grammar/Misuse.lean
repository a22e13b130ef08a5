import CodeAtlas.Script.Grammar.Matching
import CodeAtlas.Script.Grammar.Parameter

/-! Productions of sources that are not accepted, with the words for what is wrong. -/

namespace CodeAtlas.Script.Grammar

/-! ### Names for expressions -/

/-- What an expression is called in a message. -/
def called : Expr → String
  | .attribute .. => "attribute"
  | .subscript .. => "subscript"
  | .starred .. => "starred"
  | .name .. => "name"
  | .list .. => "list"
  | .tuple .. => "tuple"
  | .lambda .. => "lambda"
  | .call .. => "function call"
  | .boolean .. | .binary .. | .unary .. => "expression"
  | .comprehension _ .generator .. => "generator expression"
  | .comprehension _ .list .. => "list comprehension"
  | .comprehension _ .set .. => "set comprehension"
  | .comprehension _ .dict .. => "dict comprehension"
  | .yielded .. | .yieldedFrom .. => "yield expression"
  | .awaited .. => "await expression"
  | .dict .. => "dict literal"
  | .set .. => "set display"
  | .joined .. | .embedded .. => "f-string expression"
  | .constant _ .nothing => "None"
  | .constant _ (.truth true) => "True"
  | .constant _ (.truth false) => "False"
  | .constant _ .ellipsis => "ellipsis"
  | .constant .. => "literal"
  | .compare .. => "comparison"
  | .conditional .. => "conditional expression"
  | .assigned .. => "named expression"
  | .slice .. => "slice"

/-- Where targets stand. -/
inductive TargetPlace where
  | assigned
  | loop
  | deleted
  deriving DecidableEq

mutual

/-- The first part of an expression that cannot be a target. -/
def badTarget? (place : TargetPlace) : Expr → Option Expr
  | .list _ _ items => badTargets? place items
  | .tuple _ _ items => badTargets? place items
  | .starred s u value =>
    if place = .deleted then some (.starred s u value) else badTarget? place value
  | .compare s left ops rights =>
    if place = .loop then
      match ops with
      | .within :: _ => badTarget? place left
      | _ => none
    else some (.compare s left ops rights)
  | .name .. => none
  | .subscript .. => none
  | .attribute .. => none
  | e => some e

def badTargets? (place : TargetPlace) : List Expr → Option Expr
  | [] => none
  | e :: rest =>
    match badTarget? place e with
    | some bad => some bad
    | none => badTargets? place rest

end

/-- A fault told at the part of an expression that cannot be a target. -/
def wrongTarget (place : TargetPlace) (i : Nat) : Act := fun sc vs =>
  match badTarget? place (vs.expr i) with
  | some e =>
    sc.wrongAt e.span
      ((if place = .deleted then "cannot delete " else "cannot assign to ") ++ called e)
  | none => .refuses

/-! ### Arguments -/

def parenthesize : String := "Generator expression must be parenthesized"

def meantComparison : String :=
  "invalid syntax. Maybe you meant '==' or ':=' instead of '='?"

def badArguments : Production := fresh [
  alt [.group [
        alt [.group [alt [.separated (m ",") positionalArg, m ",", r .keywordArgs] nod]] (give 0),
        only .keywordArgs],
      m ",", .separated (m ",") (.group [alt [r .starredExpression, .notAhead (m "=")] (give 0)])]
    (wrongToken 1 "iterable argument unpacking follows keyword argument unpacking"),
  alt [r .expression, r .forClauses, m ",",
      .optional (.group [only .args, alt [r .expression, r .forClauses] nod])]
    (wrongAt 0 parenthesize),
  alt [name, m "=", r .expression, r .forClauses] (wrongAt 0 meantComparison),
  alt [r .args, r .forClauses] fun sc vs =>
    match (vs.arguments 0).1.getLast? with
    | some e => if (vs.arguments 0).1.length ≤ 1 then .refuses else sc.wrongAt e.span parenthesize
    | none => .refuses,
  alt [r .args, m ",", r .expression, r .forClauses] (wrongAt 2 parenthesize),
  alt [r .args, m ",", r .args] fun sc vs =>
    let unpacks := (vs.arguments 0).2.any fun
      | .mk _ name _ => name.isNone
    sc.wrong (if unpacks then "positional argument follows keyword argument unpacking"
      else "positional argument follows keyword argument")]

def badKeyword : Production := fresh [
  alt [oneOf [w "True", w "False", w "None"], m "="]
    fun sc vs => sc.wrongToken (vs.token 0) ("cannot assign to " ++ (vs.token 0).text),
  alt [name, m "=", r .expression, r .forClauses] (wrongAt 0 meantComparison),
  alt [.notAhead (.group [alt [name, m "="] nod]), r .expression, m "="]
    (wrongAt 0 "expression cannot contain assignment, perhaps you meant \"==\"?")]

/-! ### Expressions -/

def isLegacy (e : Expr) : Bool :=
  match e with
  | .name _ _ id => id == "print" || id == "exec"
  | _ => false

def badLegacyExpression : Production := fresh [
  alt [name, .notAhead (m "("), r .starExpressions] fun sc vs =>
    let word := (vs.at 0).name
    if isLegacy (vs.expr 0) then
      sc.wrongAt (vs.expr 0).span
        ("Missing parentheses in call to '" ++ word ++ "'. Did you mean " ++ word ++ "(...)?")
    else .refuses]

def badExpression : Production := fresh [
  alt [.notAhead (.group [alt [name, .kind .text] nod, alt [.softWord] nod]), r .disjunction,
      r .quietExpression]
    fun sc vs =>
      if isLegacy (vs.expr 0) then .refuses
      else if (sc.tokens.getD (sc.after - 1) default).level == 0 then .refuses
      else sc.wrongAt (vs.expr 0).span "invalid syntax. Perhaps you forgot a comma?",
  alt [r .disjunction, w "if", r .disjunction, .notAhead (oneOf [w "else", m ":"])]
    (wrongAt 0 "expected 'else' after 'if' expression")]

/-- What would make a comparison or an assignment of a comparison. -/
def noEquals : Peg := .notAhead (oneOf [m "=", m ":="])

def badNamedExpression : Production := kept [
  alt [r .expression, m ":=", r .expression] fun sc vs =>
    sc.wrongAt (vs.expr 0).span
      ("cannot use assignment expressions with " ++ called (vs.expr 0)),
  alt [name, m "=", r .bitOr, noEquals] (wrongAt 0 meantComparison),
  alt [.notAhead (oneOf [r .list, r .tuple, r .generatorExp, w "True", w "None", w "False"]),
      r .bitOr, m "=", r .bitOr, noEquals]
    fun sc vs =>
      sc.wrongAt (vs.expr 0).span
        ("cannot assign to " ++ called (vs.expr 0) ++
          " here. Maybe you meant '==' instead of '='?")]

def targetEquals : Peg := .many (.group [alt [r .starTargets, m "="] nod])

def badAssignment : Production := fresh [
  alt [r .badAnnotationTarget, m ":", r .expression] fun sc vs =>
    sc.wrongAt (vs.expr 0).span
      ("only single target (not " ++ called (vs.expr 0) ++ ") can be annotated"),
  alt [r .starNamedExpression, m ",", .many (r .starNamedExpressions), m ":", r .expression]
    (wrongAt 0 "only single target (not tuple) can be annotated"),
  alt [r .expression, m ":", r .expression] (wrongAt 0 "illegal target for annotation"),
  alt [targetEquals, r .starExpressions, m "="] (wrongTarget .assigned 1),
  alt [targetEquals, r .yieldExpr, m "="]
    (wrongAt 1 "assignment to yield expression not possible"),
  alt [r .starExpressions, r .augmentation, yieldOrExpressions] fun sc vs =>
    sc.wrongAt (vs.expr 0).span
      ("'" ++ called (vs.expr 0) ++ "' is an illegal expression for augmented assignment")]

def badAnnotationTarget : Production := fresh [
  only .list,
  only .tuple,
  alt [m "(", r .badAnnotationTarget, m ")"] (give 1)]

def badDelStatement : Production := fresh [
  alt [w "del", r .starExpressions] (wrongTarget .deleted 1)]

def noIndent : Peg := .notAhead (.kind .indent)

def badBlock : Production := fresh [
  alt [newline, noIndent] (wrong "expected an indented block")]

def forgotParens : String := "did you forget parentheses around the comprehension target?"

def badComprehension : Production := fresh [
  alt [oneOf [m "[", m "(", m "\x7b"], r .starredExpression, r .forClauses]
    (wrongAt 1 "iterable unpacking cannot be used in comprehension"),
  alt [oneOf [m "[", m "\x7b"], r .starNamedExpression, m ",", r .starNamedExpressions,
      r .forClauses]
    (wrongAt 1 forgotParens),
  alt [oneOf [m "[", m "\x7b"], r .starNamedExpression, m ",", r .forClauses]
    (wrongAt 1 forgotParens)]

def badDictComprehension : Production := fresh [
  alt [m "\x7b", m "**", r .bitOr, r .forClauses, m "\x7d"]
    (wrongToken 1 "dict unpacking cannot be used in dict comprehension")]

def badGroup : Production := fresh [
  alt [m "(", r .starredExpression, m ")"] (wrongAt 1 "cannot use starred expression here"),
  alt [m "(", m "**", r .expression, m ")"]
    (wrongToken 1 "cannot use double starred expression here")]

def starredValue : Alternative :=
  alt [r .expression, m ":", m "*", r .bitOr]
    (wrongToken 2 "cannot use a starred expression in a dictionary value")

def missingValue : Alternative :=
  alt [r .expression, m ":", .ahead (oneOf [m "\x7d", m ","])]
    (wrongToken 1 "expression expected after dictionary key and ':'")

def badKeyValues : Production := fresh [
  alt [.separated (m ",") (r .keyValue), m ",", r .badKeyValue] nod,
  starredValue,
  missingValue]

def badKeyValue : Production := fresh [
  alt [r .expression, .notAhead (m ":")] fun sc vs =>
    let s := (vs.expr 0).span
    .faults (sc.source.fault sc.latest.reached "':' expected after dictionary key" s.line
      s.lastCol),
  starredValue,
  missingValue]

/-! ### Parameters -/

/-- What stands before a second slash. -/
def slashes (p : ParamRules) : Peg := oneOf [r p.slashNoDefault, r p.slashWithDefault]

/-- A fault told at the part at a position that is a parameter. -/
def wrongParam (i : Nat) (message : String) : Act := fun sc vs =>
  match vs.at i with
  | .param (.mk s _ _) => sc.wrongAt s message
  | _ => .refuses

def badParameters (p : ParamRules) (head : Rule) (parenthesized : List Peg) (what : String) :
    Production := fresh [
  alt [.many (r p.noDefault), r head, r p.noDefault]
    (wrongParam 2 "non-default argument follows default argument"),
  alt ([.many (r p.noDefault), m "("] ++ parenthesized ++ [.optional (m ","), m ")"])
    (wrongToken 1 (what ++ " parameters cannot be parenthesized")),
  alt [m "/", m ","] (wrongToken 0 "at least one argument must precede /"),
  alt [slashes p, .many (r p.maybeDefault), m "/"] (wrongToken 2 "/ may appear only once"),
  alt [.optional (slashes p), .many (r p.maybeDefault), m "*",
      oneOf [m ",", r p.noDefault], .many (r p.maybeDefault), m "/"]
    (wrongToken 5 "/ must be ahead of *"),
  alt [.several (r p.maybeDefault), m "/", m "*"]
    (wrongToken 2 "expected comma between / and *")]

def badFunctionParameters : Production :=
  badParameters functionParams .badParametersHead [.several (r .paramNoDefault)] "Function"

def badLambdaParameters : Production :=
  badParameters lambdaParams .badLambdaParametersHead [.separated (m ",") (r .lambdaParam)]
    "Lambda expression"

def badParametersHead (p : ParamRules) : Production := fresh [
  only p.slashWithDefault,
  alt [.several (r p.withDefault)] (give 0)]

def badDefault : Production := fresh [
  alt [m "=", .ahead (oneOf [m ")", m ","])] (wrongToken 0 "expected default value expression")]

def bareStarMessage : String := "named arguments must follow bare *"

/-- A star that no parameter given by name follows. -/
def endAfterStar (p : ParamRules) : Peg := .group [
  alt [m p.closing] nod,
  alt [m ",", oneOf [m p.closing, m "**"]] nod]

def badStars (p : ParamRules) (bare : Act) : Production := fresh [
  alt [m "*", endAfterStar p] bare,
  alt [m "*", r p.one, m "="] (wrongToken 2 "var-positional argument cannot have default value"),
  alt [m "*", oneOf [r p.noDefault, m ","], .many (r p.maybeDefault), m "*",
      oneOf [r p.noDefault, m ","]]
    (wrongToken 3 "* argument may appear only once")]

def badStarParams : Production := badStars functionParams (wrongToken 0 bareStarMessage)

def badLambdaStarParams : Production := badStars lambdaParams (wrong bareStarMessage)

def afterKeywords : String := "arguments cannot follow var-keyword argument"

def badKeywordParams (p : ParamRules) : Production := fresh [
  alt [m "**", r p.one, m "="] (wrongToken 2 "var-keyword argument cannot have default value"),
  alt [m "**", r p.one, m ",", r p.one] (wrongParam 3 afterKeywords),
  alt [m "**", r p.one, m ",", oneOf [m "*", m "**", m "/"]] (wrongToken 3 afterKeywords)]

/-! ### Statements -/

def expectedColon : Act := wrong "expected ':'"

def badWithItem : Production := fresh [
  alt [r .expression, w "as", r .expression, withEnd] (wrongTarget .assigned 2)]

def badForTarget : Production := fresh [
  alt [.optional (w "async"), w "for", r .starExpressions] (wrongTarget .loop 2)]

def badImportTargets : Production := fresh [
  alt [r .importAsNames, m ",", newline]
    (wrong "trailing comma not allowed without surrounding parentheses")]

/-- Items of a `with` statement, read loosely. -/
def looseItems (rule : Rule) : Peg :=
  .separated (m ",") (.group [
    alt [r rule, .optional (.group [alt [w "as", r .starTarget] nod])] nod])

def looseWith (rest : List Peg) : List Peg :=
  [.optional (w "async"), w "with", looseItems .expression] ++ rest

def looseWithParens (rest : List Peg) : List Peg :=
  [.optional (w "async"), w "with", m "(", looseItems .expressions, .optional (m ","), m ")"]
    ++ rest

def badWithStatement : Production := fresh [
  alt (looseWith [newline]) expectedColon,
  alt (looseWithParens [newline]) expectedColon]

def badWithBlock : Production := fresh [
  alt (looseWith [m ":", newline, noIndent]) (noBlock 1 "'with' statement"),
  alt (looseWithParens [m ":", newline, noIndent]) (noBlock 1 "'with' statement")]

/-- A name after `as`, if there is one. -/
def asName : Peg := .optional (.group [alt [w "as", name] nod])

def bothKinds : String := "cannot have both 'except' and 'except*' on the same 'try'"

def badTryStatement : Production := fresh [
  alt [w "try", m ":", newline, noIndent] (noBlock 0 "'try' statement"),
  alt [w "try", m ":", r .block, .notAhead (oneOf [w "except", w "finally"])]
    (wrong "expected 'except' or 'finally' block"),
  alt [w "try", m ":", .many (r .block), .several (r .exceptBlock), w "except", m "*",
      r .expression, asName, m ":"]
    (wrongToken 4 bothKinds),
  alt [w "try", m ":", .many (r .block), .several (r .exceptStarBlock), w "except",
      .optional (.group [alt [r .expression, asName] nod]), m ":"]
    (wrongToken 4 bothKinds)]

def badExceptStatement : Production := fresh [
  alt [w "except", .optional (m "*"), r .expression, m ",", r .expressions, asName, m ":"]
    (wrongAt 2 "multiple exception types must be parenthesized"),
  alt [w "except", .optional (m "*"), r .expression, asName, newline] expectedColon,
  alt [w "except", newline] expectedColon,
  alt [w "except", m "*", oneOf [newline, m ":"]]
    (wrong "expected one or more exception types")]

def badFinallyBlock : Production := fresh [
  alt [w "finally", m ":", newline, noIndent] (noBlock 0 "'finally' statement")]

def badExceptBlock : Production := fresh [
  alt [w "except", r .expression, asName, m ":", newline, noIndent]
    (noBlock 0 "'except' statement"),
  alt [w "except", m ":", newline, noIndent] (noBlock 0 "'except' statement")]

def badExceptStarBlock : Production := fresh [
  alt [w "except", m "*", r .expression, asName, m ":", newline, noIndent]
    (noBlock 0 "'except*' statement")]

def badMatchStatement : Production := fresh [
  alt [w "match", r .subject, newline] expectedColon,
  alt [w "match", r .subject, m ":", newline, noIndent] (noBlock 0 "'match' statement")]

def badCaseBlock : Production := fresh [
  alt [w "case", r .patterns, .optional (r .guard), newline] expectedColon,
  alt [w "case", r .patterns, .optional (r .guard), m ":", newline, noIndent]
    (noBlock 0 "'case' statement")]

def badAsPattern : Production := fresh [
  alt [r .orPattern, w "as", w "_"] (wrongToken 2 "cannot use '_' as a target"),
  alt [r .orPattern, w "as", .notAhead name, r .expression]
    (wrongAt 2 "invalid pattern target")]

def badClassPattern : Production := fresh [
  alt [r .nameOrDotted, m "(", r .badClassArguments] fun sc vs =>
    match (vs.at 2).patterns with
    | p :: _ => sc.wrongAt p.span "positional patterns follow keyword patterns"
    | [] => .refuses]

def badClassArguments : Production := fresh [
  alt [.optional (.group [alt [r .positionalPatterns, m ","] nod]), r .keywordPatterns, m ",",
      r .positionalPatterns]
    (give 3)]

/-- A statement that starts with a word and a condition. -/
def badCondition (word : String) : Production := fresh [
  alt [w word, r .namedExpression, newline] expectedColon,
  alt [w word, r .namedExpression, m ":", newline, noIndent]
    (noBlock 0 ("'" ++ word ++ "' statement"))]

def badElseBlock : Production := fresh [
  alt [w "else", m ":", newline, noIndent] (noBlock 0 "'else' statement")]

def badForStatement : Production := fresh [
  alt [.optional (w "async"), w "for", r .starTargets, w "in", r .starExpressions, newline]
    expectedColon,
  alt [.optional (w "async"), w "for", r .starTargets, w "in", r .starExpressions, m ":",
      newline, noIndent]
    (noBlock 1 "'for' statement")]

def badFunctionDef : Production := fresh [
  alt [.optional (w "async"), w "def", name, m "(", .optional (r .params), m ")",
      .optional (.group [alt [m "->", r .expression] nod]), m ":", newline, noIndent]
    (noBlock 1 "function definition")]

def looseBases : Peg := .optional (.group [alt [m "(", .optional (r .arguments), m ")"] nod])

def badClassDef : Production := fresh [
  alt [w "class", name, looseBases, newline] expectedColon,
  alt [w "class", name, looseBases, m ":", newline, noIndent] (noBlock 0 "class definition")]

end CodeAtlas.Script.Grammar
