import CodeAtlas.Script.Grammar.Making

/-! Productions of parameters, of functions and of lambda expressions. The two differ in
what ends them and in that the former can have type notes. -/

namespace CodeAtlas.Script.Grammar

/-- The parts that stand for parameters in one of the two places. -/
structure ParamRules where
  noDefault : Rule
  withDefault : Rule
  maybeDefault : Rule
  slashNoDefault : Rule
  slashWithDefault : Rule
  starParams : Rule
  keywordParams : Rule
  one : Rule
  /-- The mark that ends the parameters. -/
  closing : String
  /-- What is looked at after a comma. -/
  afterComma : List Peg

/-- The next token is looked at whatever it is: a note on the type could stand there. -/
def peek : Peg := .ahead (.optional (.kind .broken))

def functionParams : ParamRules :=
  ⟨.paramNoDefault, .paramWithDefault, .paramMaybeDefault, .slashNoDefault, .slashWithDefault,
    .starParams, .keywordParams, .param, ")", [peek]⟩

def lambdaParams : ParamRules :=
  ⟨.lambdaParamNoDefault, .lambdaParamWithDefault, .lambdaParamMaybeDefault,
    .lambdaSlashNoDefault, .lambdaSlashWithDefault, .lambdaStarParams, .lambdaKeywordParams,
    .lambdaParam, ":", []⟩

/-- All parameters together. -/
def paramsOf (positional : List Param) (positionalDefaulted : List Defaulted)
    (plain : List Param) (plainDefaulted : List Defaulted) (remainder : Value) : Value :=
  let (rest, named, namedRest) :=
    match remainder with
    | .remainder r => (r.rest, r.named, r.namedRest)
    | _ => (none, [], none)
  .params (.mk (positional ++ positionalDefaulted.map (·.param))
    (plain ++ plainDefaulted.map (·.param)) rest (named.map (·.param)) namedRest
    ((positionalDefaulted ++ plainDefaulted).filterMap (·.value)) (named.filterMap (·.value)))

def beforeSlash : Value → List Param × List Defaulted
  | .positional plain others => (plain, others)
  | _ => ([], [])

/-- Parameters in each order that is allowed. -/
def parameters (p : ParamRules) : Production := fresh [
  alt [r p.slashNoDefault, .many (r p.noDefault), .many (r p.withDefault),
      .optional (r p.starParams)]
    (value fun vs =>
      paramsOf (beforeSlash (vs.at 0)).1 [] (vs.at 1).paramList (vs.at 2).defaultedList (vs.at 3)),
  alt [r p.slashWithDefault, .many (r p.withDefault), .optional (r p.starParams)]
    (value fun vs =>
      paramsOf (beforeSlash (vs.at 0)).1 (beforeSlash (vs.at 0)).2 [] (vs.at 1).defaultedList
        (vs.at 2)),
  alt [.several (r p.noDefault), .many (r p.withDefault), .optional (r p.starParams)]
    (value fun vs => paramsOf [] [] (vs.at 0).paramList (vs.at 1).defaultedList (vs.at 2)),
  alt [.several (r p.withDefault), .optional (r p.starParams)]
    (value fun vs => paramsOf [] [] [] (vs.at 0).defaultedList (vs.at 1)),
  alt [r p.starParams] (value fun vs => paramsOf [] [] [] [] (vs.at 0))]

def slashNoDefault (p : ParamRules) : Production :=
  let act := value fun vs => .positional (vs.at 0).paramList []
  fresh [
    alt [.several (r p.noDefault), m "/", m ","] act,
    alt [.several (r p.noDefault), m "/", .ahead (m p.closing)] act]

def slashWithDefault (p : ParamRules) : Production :=
  let act := value fun vs => .positional (vs.at 0).paramList (vs.at 1).defaultedList
  fresh [
    alt [.many (r p.noDefault), .several (r p.withDefault), m "/", m ","] act,
    alt [.many (r p.noDefault), .several (r p.withDefault), m "/", .ahead (m p.closing)] act]

/-- What follows a star: the parameter for the rest, those given by name only, and the
one for the rest of these. -/
def remainderOf (rest named namedRest : Value) : Value :=
  .remainder ⟨rest.asParam?, named.defaultedList, namedRest.asParam?⟩

def starRest (p : ParamRules) (rest : Rule) : Alternative :=
  alt [m "*", r rest, .many (r p.maybeDefault), .optional (r p.keywordParams)]
    (value fun vs => remainderOf (vs.at 1) (vs.at 2) (vs.at 3))

def bareStar (p : ParamRules) : Alternative :=
  alt [m "*", m ",", .several (r p.maybeDefault), .optional (r p.keywordParams)]
    (value fun vs => remainderOf .nothing (vs.at 2) (vs.at 3))

def onlyKeywords (p : ParamRules) : Alternative :=
  alt [r p.keywordParams] (value fun vs => remainderOf .nothing .nothing (vs.at 0))

def starParams : Production := fresh [
  misuse .badStarParams,
  starRest functionParams .paramNoDefault,
  starRest functionParams .paramNoDefaultStarred,
  bareStar functionParams,
  onlyKeywords functionParams]

def lambdaStarParams : Production := fresh [
  misuse .badLambdaStarParams,
  starRest lambdaParams .lambdaParamNoDefault,
  bareStar lambdaParams,
  onlyKeywords lambdaParams]

def keywordParams (bad noDefault : Rule) : Production := fresh [
  misuse bad,
  alt [m "**", r noDefault] (give 1)]

/-- A parameter that a comma follows, or the end. -/
def paramNoDefault (p : ParamRules) (one : Rule) : Production := fresh [
  alt ([r one, m ","] ++ p.afterComma) (give 0),
  alt [r one, .ahead (m p.closing)] (give 0)]

def defaultedOf (vs : Fields) : Value :=
  match vs.at 0 with
  | .param p => .defaulted ⟨p, vs.expr? 1⟩
  | _ => .nothing

def paramWithDefault (p : ParamRules) : Production := fresh [
  alt ([r p.one, r .defaultValue, m ","] ++ p.afterComma) (value defaultedOf),
  alt [r p.one, r .defaultValue, .ahead (m p.closing)] (value defaultedOf)]

def paramMaybeDefault (p : ParamRules) : Production := fresh [
  alt ([r p.one, .optional (r .defaultValue), m ","] ++ p.afterComma) (value defaultedOf),
  alt [r p.one, .optional (r .defaultValue), .ahead (m p.closing)] (value defaultedOf)]

def paramOf (sc : Scene) (vs : Fields) : Verdict :=
  .yields (.param (.mk sc.span (vs.at 0).name (vs.expr? 1)))

def param : Production := fresh [alt [name, .optional (r .typeNote)] paramOf]

def paramStarred : Production := fresh [alt [name, r .starredTypeNote] paramOf]

def lambdaParam : Production := fresh [alt [name] paramOf]

def typeNote : Production := fresh [alt [m ":", r .expression] (give 1)]

def starredTypeNote : Production := fresh [alt [m ":", r .starExpression] (give 1)]

def defaultValue : Production := fresh [
  alt [m "=", r .expression] (give 1),
  misuse .badDefault]

def lambda : Production := fresh [
  alt [w "lambda", .optional (r .lambdaParams), m ":", r .expression]
    (expr fun s vs =>
      match vs.at 1 with
      | .params p => .lambda s p (vs.expr 3)
      | _ => .lambda s (.mk [] [] none [] none [] []) (vs.expr 3))]

end CodeAtlas.Script.Grammar
