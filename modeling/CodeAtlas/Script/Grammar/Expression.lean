import CodeAtlas.Script.Grammar.Making
import CodeAtlas.Script.Literal

/-! Productions of expressions. -/

namespace CodeAtlas.Script.Grammar

/-- A value in front of a list. -/
def inFront (vs : Fields) (i j : Nat) : List Expr := vs.expr i :: vs.exprs j

def expressions : Production := fresh [
  alt [r .expression, .several (within [m ",", r .expression] 1), .optional (m ",")]
    (expr fun s vs => .tuple s .read (inFront vs 0 1)),
  alt [r .expression, m ","] (expr fun s vs => .tuple s .read [vs.expr 0]),
  only .expression]

def conditional : Alternative :=
  alt [r .disjunction, w "if", r .disjunction, w "else", r .expression]
    (expr fun s vs => .conditional s (vs.expr 2) (vs.expr 0) (vs.expr 4))

def expression : Production := kept [
  misuse .badExpression,
  misuse .badLegacyExpression,
  conditional,
  only .disjunction,
  only .lambda]

def quietExpression : Production :=
  ⟨.fresh, true, [conditional, only .disjunction, only .lambda]⟩

def yieldExpr : Production := fresh [
  alt [w "yield", w "from", r .expression] (expr fun s vs => .yieldedFrom s (vs.expr 2)),
  alt [w "yield", .optional (r .starExpressions)] (expr fun s vs => .yielded s (vs.expr? 1))]

def starExpressions : Production := fresh [
  alt [r .starExpression, .several (within [m ",", r .starExpression] 1), .optional (m ",")]
    (expr fun s vs => .tuple s .read (inFront vs 0 1)),
  alt [r .starExpression, m ","] (expr fun s vs => .tuple s .read [vs.expr 0]),
  only .starExpression]

def starred : Alternative :=
  alt [m "*", r .bitOr] (expr fun s vs => .starred s .read (vs.expr 1))

def starExpression : Production := kept [starred, only .expression]

def starNamedExpressions : Production := fresh [
  alt [.separated (m ",") (r .starNamedExpression), .optional (m ",")] (give 0)]

def starNamedExpression : Production := fresh [starred, only .namedExpression]

def assignmentExpression : Production := fresh [
  alt [name, m ":=", .commit, r .expression]
    (expr fun s vs => .assigned s ((vs.expr 0).withUse .bind) (vs.expr 2))]

def namedExpression : Production := fresh [
  only .assignmentExpression,
  misuse .badNamedExpression,
  alt [r .expression, .notAhead (m ":=")] (give 0)]

/-- Operands joined by a word. -/
def joinedBy (word : String) (operand : Rule) : Production := kept [
  alt [r operand, .several (within [w word, r operand] 1)]
    (expr fun s vs => .boolean s (inFront vs 0 1)),
  only operand]

def inversion : Production := kept [
  alt [w "not", r .inversion] (expr fun s vs => .unary s (vs.expr 1)),
  only .comparison]

def operatorOf : Value → Option Comparison
  | .comparison op _ => some op
  | _ => none

def operandOf : Value → Option Expr
  | .comparison _ e => some e
  | _ => none

def comparison : Production := fresh [
  alt [r .bitOr, .several (r .comparisonPair)]
    (expr fun s vs =>
      .compare s (vs.expr 0) ((vs.at 1).items.filterMap operatorOf)
        ((vs.at 1).items.filterMap operandOf)),
  only .bitOr]

def comparisonPair : Production := fresh [
  only .equalTo, only .notEqualTo, only .lessEqual, only .less, only .greaterEqual,
  only .greater, only .notIn, only .isIn, only .isNot, only .isSame]

/-- A comparison with what follows one or two words. -/
def compared (parts : List Peg) (op : Comparison) : Production := fresh [
  alt (parts ++ [r .bitOr]) (value fun vs => .comparison op (vs.expr parts.length))]

/-- The unequal sign; its old form is read as one token but never fits. -/
def unequal : Peg := .group [alt [m "!="] (give 0)]

/-- An operator between operands of two rules, the first of which is the rule itself. -/
def operator (left right : Rule) (mark : String) (op : BinaryOp) : Alternative :=
  alt [r left, m mark, r right] (expr fun s vs => .binary s op (vs.expr 0) (vs.expr 2))

def bitOr : Production := grown [operator .bitOr .bitXor "|" .bitOr, only .bitXor]

def bitXor : Production := grown [operator .bitXor .bitAnd "^" .bitXor, only .bitAnd]

def bitAnd : Production := grown [operator .bitAnd .shift "&" .bitAnd, only .shift]

def shift : Production := grown [
  operator .shift .sum "<<" .shiftLeft, operator .shift .sum ">>" .shiftRight, only .sum]

def sum : Production := grown [
  operator .sum .term "+" .add, operator .sum .term "-" .subtract, only .term]

def term : Production := grown [
  operator .term .factor "*" .multiply, operator .term .factor "/" .divide,
  operator .term .factor "//" .floorDivide, operator .term .factor "%" .modulo,
  operator .term .factor "@" .matrixMultiply, only .factor]

def signed (mark : String) : Alternative :=
  alt [m mark, r .factor] (expr fun s vs => .unary s (vs.expr 1))

def factor : Production := kept [signed "+", signed "-", signed "~", only .power]

def power : Production := fresh [operator .awaited .factor "**" .power, only .awaited]

def awaited : Production := kept [
  alt [w "await", r .primary] (expr fun s vs => .awaited s (vs.expr 1)),
  only .primary]

/-- The arguments that stand between parentheses, if there are any. -/
def Fields.arguments (vs : Fields) (i : Nat) : List Expr × List Keyword :=
  match vs.at i with
  | .arguments args keywords => (args, keywords)
  | _ => ([], [])

def attributeOf (s : Span) (use : Use) (vs : Fields) : Expr :=
  .attribute s use (vs.expr 0) (vs.at 2).name

def subscriptOf (s : Span) (use : Use) (vs : Fields) : Expr :=
  .subscript s use (vs.expr 0) (vs.expr 2)

def callOf (s : Span) (vs : Fields) : Expr :=
  .call s (vs.expr 0) (vs.arguments 2).1 (vs.arguments 2).2

def generatorCallOf (s : Span) (vs : Fields) : Expr := .call s (vs.expr 0) [vs.expr 1] []

def primary : Production := grown [
  alt [r .primary, m ".", name] (expr fun s vs => attributeOf s .read vs),
  alt [r .primary, r .generatorExp] (expr generatorCallOf),
  alt [r .primary, m "(", .optional (r .arguments), m ")"] (expr callOf),
  alt [r .primary, m "[", r .slices, m "]"] (expr fun s vs => subscriptOf s .read vs),
  only .atom]

def slices : Production := fresh [
  alt [r .slice, .notAhead (m ",")] (give 0),
  alt [.separated (m ",") (oneOf [r .slice, r .starredExpression]), .optional (m ",")]
    (expr fun s vs => .tuple s .read (vs.exprs 0))]

def slice : Production := fresh [
  alt [.optional (r .expression), m ":", .optional (r .expression),
      .optional (within [m ":", .optional (r .expression)] 1)]
    (expr fun s vs => .slice s (vs.expr? 0) (vs.expr? 2) (vs.expr? 3)),
  only .namedExpression]

def constantWord (word : String) (c : Constant) : Alternative :=
  alt [w word] (expr fun s _ => .constant s c)

def atom : Production := fresh [
  alt [name] (give 0),
  constantWord "True" (.truth true),
  constantWord "False" (.truth false),
  constantWord "None" .nothing,
  alt [.ahead (.kind .text), r .strings] (give 0),
  alt [.kind .number] (give 0),
  alt [.ahead (m "("), oneOf [r .tuple, r .group, r .generatorExp]] (give 0),
  alt [.ahead (m "["), oneOf [r .list, r .listComp]] (give 0),
  alt [.ahead (m "\x7b"), oneOf [r .dict, r .set, r .dictComp, r .setComp]] (give 0),
  alt [m "..."] (expr fun s _ => .constant s .ellipsis)]

def group : Production := fresh [
  alt [m "(", oneOf [r .yieldExpr, r .namedExpression], m ")"] (give 1),
  misuse .badGroup]

/-- Text literals in a row. -/
def strings : Production := kept [
  alt [.several (.kind .text)] fun sc vs =>
    match Literal.joined sc ((vs.at 0).items.map Value.asToken) with
    | .ok e => .yields (.expr e)
    | .error f => .faults f]

def list : Production := fresh [
  alt [m "[", .optional (r .starNamedExpressions), m "]"]
    (expr fun s vs => .list s .read (vs.exprs 1))]

def tuple : Production := fresh [
  alt [m "(",
      .optional (.group [
        alt [r .starNamedExpression, m ",", .optional (r .starNamedExpressions)]
          (value fun vs => .list (vs.at 0 :: (vs.at 2).items))]),
      m ")"]
    (expr fun s vs => .tuple s .read (vs.exprs 1))]

def set : Production := fresh [
  alt [m "\x7b", r .starNamedExpressions, m "\x7d"] (expr fun s vs => .set s (vs.exprs 1))]

def keyOf : Value → Option Expr
  | .pair key _ => key
  | _ => none

def valueOf : Value → Expr
  | .pair _ v => v
  | _ => default

def dict : Production := fresh [
  alt [m "\x7b", .optional (r .keyValues), m "\x7d"]
    (expr fun s vs => .dict s ((vs.at 1).items.map keyOf) ((vs.at 1).items.map valueOf)),
  alt [m "\x7b", r .badKeyValues, m "\x7d"] nod]

def keyValues : Production := fresh [
  alt [.separated (m ",") (r .keyValue), .optional (m ",")] (give 0)]

def keyValue : Production := fresh [
  alt [m "**", r .bitOr] (value fun vs => .pair none (vs.expr 1)),
  only .plainKeyValue]

def plainKeyValue : Production := fresh [
  alt [r .expression, m ":", r .expression]
    (value fun vs => .pair (some (vs.expr 0)) (vs.expr 2))]

/-! ### Comprehensions -/

def forClauses : Production := fresh [alt [.several (r .forClause)] (give 0)]

/-- One clause, whose target is the part at a position. -/
def clauseOf (i : Nat) : Act :=
  value fun vs => .generator (.mk (vs.expr i) (vs.expr (i + 2)) (vs.exprs (i + 3)))

def conditions : Peg := .many (within [w "if", r .disjunction] 1)

def forClause : Production := fresh [
  alt [w "async", w "for", r .starTargets, w "in", .commit, r .disjunction, conditions]
    (clauseOf 2),
  alt [w "for", r .starTargets, w "in", .commit, r .disjunction, conditions] (clauseOf 1),
  misuse .badForTarget]

def listComp : Production := fresh [
  alt [m "[", r .namedExpression, r .forClauses, m "]"]
    (expr fun s vs => .comprehension s .list [vs.expr 1] (vs.at 2).generators),
  misuse .badComprehension]

def setComp : Production := fresh [
  alt [m "\x7b", r .namedExpression, r .forClauses, m "\x7d"]
    (expr fun s vs => .comprehension s .set [vs.expr 1] (vs.at 2).generators),
  misuse .badComprehension]

/-- An expression that may bind a name, but not by a plain comparison with one. -/
def assignable : Peg := .group [
  only .assignmentExpression,
  alt [r .expression, .notAhead (m ":=")] (give 0)]

def generatorExp : Production := fresh [
  alt [m "(", assignable, r .forClauses, m ")"]
    (expr fun s vs => .comprehension s .generator [vs.expr 1] (vs.at 2).generators),
  misuse .badComprehension]

def dictComp : Production := fresh [
  alt [m "\x7b", r .plainKeyValue, r .forClauses, m "\x7d"]
    (expr fun s vs =>
      .comprehension s .dict ((keyOf (vs.at 1)).toList ++ [valueOf (vs.at 1)])
        (vs.at 2).generators),
  misuse .badDictComprehension]

/-! ### Arguments -/

def arguments : Production := kept [
  alt [r .args, .optional (m ","), .ahead (m ")")] (give 0),
  misuse .badArguments]

/-- A positional argument. -/
def positionalArg : Peg := .group [
  only .starredExpression,
  alt [assignable, .notAhead (m "=")] (give 0)]

def keywordOf? : Value → Option Keyword
  | .keyword k => some k
  | _ => none

def argumentsOf (positional named : List Value) : Value :=
  .arguments ((positional ++ named).filterMap Value.asExpr?) (named.filterMap keywordOf?)

def args : Production := fresh [
  alt [.separated (m ",") positionalArg, .optional (within [m ",", r .keywordArgs] 1)]
    (value fun vs => argumentsOf (vs.at 0).items (vs.at 1).items),
  alt [r .keywordArgs] (value fun vs => argumentsOf [] (vs.at 0).items)]

def keywordArgs : Production := fresh [
  alt [.separated (m ",") (r .keywordOrStarred), m ",",
      .separated (m ",") (r .keywordOrDoubleStarred)]
    (value fun vs => .list ((vs.at 0).items ++ (vs.at 2).items)),
  alt [.separated (m ",") (r .keywordOrStarred)] (give 0),
  alt [.separated (m ",") (r .keywordOrDoubleStarred)] (give 0)]

def starredExpression : Production := fresh [
  alt [m "*", r .expression] (expr fun s vs => .starred s .read (vs.expr 1)),
  alt [m "*"] (wrong "Invalid star expression")]

def byName : Alternative :=
  alt [name, m "=", r .expression]
    fun sc vs => .yields (.keyword (.mk sc.span (some (vs.at 0).name) (vs.expr 2)))

def keywordOrStarred : Production := fresh [
  misuse .badKeyword,
  byName,
  only .starredExpression]

def keywordOrDoubleStarred : Production := fresh [
  misuse .badKeyword,
  byName,
  alt [m "**", r .expression] fun sc vs => .yields (.keyword (.mk sc.span none (vs.expr 1)))]

end CodeAtlas.Script.Grammar
