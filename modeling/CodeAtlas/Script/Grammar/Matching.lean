import CodeAtlas.Script.Grammar.Statement

/-! Productions of `match` statements and their patterns. -/

namespace CodeAtlas.Script.Grammar

def matchStatement : Production := fresh [
  alt [w "match", r .subject, m ":", newline, .kind .indent, .several (r .caseBlock),
      .kind .dedent]
    (stmt fun s vs => .select s (vs.expr 1) ((vs.at 5).items.filterMap Value.asCase?)),
  misuse .badMatchStatement]

def subject : Production := fresh [
  alt [r .starNamedExpression, m ",", .optional (r .starNamedExpressions)]
    (expr fun s vs => .tuple s .read (inFront vs 0 2)),
  only .namedExpression]

def Fields.pattern (vs : Fields) (i : Nat) : Pattern := (vs.at i).asPattern?.getD default

def caseBlock : Production := fresh [
  misuse .badCaseBlock,
  alt [w "case", r .patterns, .optional (r .guard), m ":", r .block]
    (value fun vs => .case (.mk (vs.pattern 1) (vs.expr? 2) (vs.at 4).stmts))]

def guard : Production := fresh [alt [w "if", r .namedExpression] (give 1)]

def patterns : Production := fresh [
  alt [r .openSequencePattern] (pattern fun s vs => .sequence s (vs.at 0).patterns),
  only .pattern]

def anyPattern : Production := fresh [only .asPattern, only .orPattern]

def asPattern : Production := fresh [
  alt [r .orPattern, w "as", r .captureTarget]
    (pattern fun s vs => .capture s (some (vs.pattern 0)) (vs.at 2).name?),
  misuse .badAsPattern]

def orPattern : Production := fresh [
  alt [.separated (m "|") (r .closedPattern)]
    (pattern fun s vs =>
      match (vs.at 0).patterns with
      | [p] => p
      | ps => .either s ps)]

def closedPattern : Production := kept [
  only .literalPattern, only .capturePattern, only .wildcardPattern, only .valuePattern,
  only .groupPattern, only .sequencePattern, only .mappingPattern, only .classPattern]

def noSign : Peg := .notAhead (oneOf [m "+", m "-"])

def valuePatternOf : Act := pattern fun s vs => .value s (vs.expr 0)

def literalPattern : Production := fresh [
  alt [r .signedNumber, noSign] valuePatternOf,
  alt [r .complexNumber] valuePatternOf,
  alt [r .strings] valuePatternOf,
  alt [w "None"] (pattern fun s _ => .singleton s),
  alt [w "True"] (pattern fun s _ => .singleton s),
  alt [w "False"] (pattern fun s _ => .singleton s)]

def literalExpr : Production := fresh [
  alt [r .signedNumber, noSign] (give 0),
  only .complexNumber,
  only .strings,
  constantWord "None" .nothing,
  constantWord "True" (.truth true),
  constantWord "False" (.truth false)]

def complexNumber : Production := fresh [
  operator .signedRealNumber .imaginaryNumber "+" .add,
  operator .signedRealNumber .imaginaryNumber "-" .subtract]

def negated (rule : Peg) : Alternative :=
  alt [m "-", rule] (expr fun s vs => .unary s (vs.expr 1))

def number : Peg := .kind .number

def signedNumber : Production := fresh [alt [number] (give 0), negated number]

def signedRealNumber : Production := fresh [only .realNumber, negated (r .realNumber)]

def isImaginary : Expr → Bool
  | .constant _ (.imaginary _) => true
  | _ => false

def realNumber : Production := fresh [
  alt [number] fun sc vs =>
    if isImaginary (vs.expr 0) then
      sc.wrongAt (vs.expr 0).span "real number required in complex literal"
    else .yields (vs.at 0)]

def imaginaryNumber : Production := fresh [
  alt [number] fun sc vs =>
    if isImaginary (vs.expr 0) then .yields (vs.at 0)
    else sc.wrongAt (vs.expr 0).span "imaginary number required in complex literal"]

def capturePattern : Production := fresh [
  alt [r .captureTarget] (pattern fun s vs => .capture s none (vs.at 0).name?)]

/-- What cannot follow a name or a value that stands for itself. -/
def noMore : Peg := .notAhead (oneOf [m ".", m "(", m "="])

def captureTarget : Production := fresh [
  alt [.notAhead (w "_"), name, noMore]
    fun _ vs => .yields (.expr ((vs.expr 0).withUse .bind))]

def wildcardPattern : Production := fresh [
  alt [w "_"] (pattern fun s _ => .capture s none none)]

def valuePattern : Production := fresh [alt [r .dottedValue, noMore] valuePatternOf]

def dottedValue : Production := grown [
  alt [r .nameOrDotted, m ".", name] (expr fun s vs => attributeOf s .read vs)]

def nameOrDotted : Production := fresh [only .dottedValue, alt [name] (give 0)]

def groupPattern : Production := fresh [alt [m "(", r .pattern, m ")"] (give 1)]

def sequencePattern : Production := fresh [
  alt [m "[", .optional (r .maybeSequencePattern), m "]"]
    (pattern fun s vs => .sequence s (vs.at 1).patterns),
  alt [m "(", .optional (r .openSequencePattern), m ")"]
    (pattern fun s vs => .sequence s (vs.at 1).patterns)]

def openSequencePattern : Production := fresh [
  alt [r .maybeStarPattern, m ",", .optional (r .maybeSequencePattern)]
    (value fun vs => .list (vs.at 0 :: (vs.at 2).items))]

def maybeSequencePattern : Production := fresh [
  alt [.separated (m ",") (r .maybeStarPattern), .optional (m ",")] (give 0)]

def maybeStarPattern : Production := fresh [only .starPattern, only .pattern]

def starPattern : Production := kept [
  alt [m "*", r .captureTarget] (pattern fun s vs => .star s (vs.at 1).name?),
  alt [m "*", r .wildcardPattern] (pattern fun s _ => .star s none)]

def keysOf (v : Value) : List Expr :=
  v.items.filterMap fun
    | .keyPattern key _ => some key
    | _ => none

def keyedPatterns (v : Value) : List Pattern :=
  v.items.filterMap fun
    | .keyPattern _ p => some p
    | .namedPattern p => some p
    | _ => none

def mappingOf (s : Span) (items rest : Value) : Pattern :=
  .mapping s (keysOf items) (keyedPatterns items) rest.name?

def mappingPattern : Production := fresh [
  alt [m "\x7b", m "\x7d"] (pattern fun s _ => mappingOf s .nothing .nothing),
  alt [m "\x7b", r .doubleStarPattern, .optional (m ","), m "\x7d"]
    (pattern fun s vs => mappingOf s .nothing (vs.at 1)),
  alt [m "\x7b", r .itemsPattern, m ",", r .doubleStarPattern, .optional (m ","), m "\x7d"]
    (pattern fun s vs => mappingOf s (vs.at 1) (vs.at 3)),
  alt [m "\x7b", r .itemsPattern, .optional (m ","), m "\x7d"]
    (pattern fun s vs => mappingOf s (vs.at 1) .nothing)]

def itemsPattern : Production := fresh [
  alt [.separated (m ",") (r .keyValuePattern)] (give 0)]

def keyValuePattern : Production := fresh [
  alt [oneOf [r .literalExpr, r .dottedValue], m ":", r .pattern]
    (value fun vs => .keyPattern (vs.expr 0) (vs.pattern 2))]

def doubleStarPattern : Production := fresh [alt [m "**", r .captureTarget] (give 1)]

def classOf (positional named : Option Nat) : Act :=
  pattern fun s vs =>
    .classOf s (vs.expr 0) ((positional.map vs.at).getD .nothing).patterns
      (keyedPatterns ((named.map vs.at).getD .nothing))

def classPattern : Production := fresh [
  alt [r .nameOrDotted, m "(", m ")"] (classOf none none),
  alt [r .nameOrDotted, m "(", r .positionalPatterns, .optional (m ","), m ")"]
    (classOf (some 2) none),
  alt [r .nameOrDotted, m "(", r .keywordPatterns, .optional (m ","), m ")"]
    (classOf none (some 2)),
  alt [r .nameOrDotted, m "(", r .positionalPatterns, m ",", r .keywordPatterns,
      .optional (m ","), m ")"]
    (classOf (some 2) (some 4)),
  misuse .badClassPattern]

def positionalPatterns : Production := fresh [
  alt [.separated (m ",") (r .pattern)] (give 0)]

def keywordPatterns : Production := fresh [
  alt [.separated (m ",") (r .keywordPattern)] (give 0)]

def keywordPattern : Production := fresh [
  alt [name, m "=", r .pattern] (value fun vs => .namedPattern (vs.pattern 2))]

end CodeAtlas.Script.Grammar
