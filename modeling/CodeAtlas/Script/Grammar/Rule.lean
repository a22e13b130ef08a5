/-! The names of the grammar's rules. Rules whose name starts with `bad` describe sources
that are not accepted, so that the fault can be told in words that fit. -/

namespace CodeAtlas.Script.Grammar

inductive Rule where
  | file | embedded
  -- statements
  | statements | statement | simpleStatements | simpleStatement | compoundStatement
  | assignment | annotatedValue | augmentation | returnStatement | raiseStatement
  | globalStatement | nonlocalStatement | delStatement | yieldStatement | assertStatement
  | importStatement | importName | importFrom | importTargets | importAsNames | importAsName
  | dottedAsNames | dottedAsName | dottedName
  | block | decorators | classDef | plainClassDef | functionDef | plainFunctionDef
  | params | parameters | slashNoDefault | slashWithDefault | starParams | keywordParams
  | paramNoDefault | paramNoDefaultStarred | paramWithDefault | paramMaybeDefault | param
  | paramStarred | typeNote | starredTypeNote | defaultValue
  | ifStatement | elifStatement | elseBlock | whileStatement | forStatement | withStatement
  | withItem | tryStatement | exceptBlock | exceptStarBlock | finallyBlock
  -- matching
  | matchStatement | subject | caseBlock | guard | patterns | pattern | asPattern | orPattern
  | closedPattern | literalPattern | literalExpr | complexNumber | signedNumber
  | signedRealNumber | realNumber | imaginaryNumber | capturePattern | captureTarget
  | wildcardPattern | valuePattern | dottedValue | nameOrDotted | groupPattern
  | sequencePattern | openSequencePattern | maybeSequencePattern | maybeStarPattern
  | starPattern | mappingPattern | itemsPattern | keyValuePattern | doubleStarPattern
  | classPattern | positionalPatterns | keywordPatterns | keywordPattern
  -- expressions
  | expressions | expression | yieldExpr | starExpressions | starExpression
  | starNamedExpressions | starNamedExpression | assignmentExpression | namedExpression
  | disjunction | conjunction | inversion | comparison | comparisonPair | equalTo | notEqualTo
  | lessEqual | less | greaterEqual | greater | notIn | isIn | isNot | isSame
  | bitOr | bitXor | bitAnd | shift | sum | term | factor | power | awaited | primary
  | slices | slice | atom | group | lambda | lambdaParams | lambdaParameters
  | lambdaSlashNoDefault | lambdaSlashWithDefault | lambdaStarParams | lambdaKeywordParams
  | lambdaParamNoDefault | lambdaParamWithDefault | lambdaParamMaybeDefault | lambdaParam
  | strings | list | tuple | set | dict | keyValues | keyValue | plainKeyValue | forClauses
  | forClause | listComp | setComp | generatorExp | dictComp | arguments | args | keywordArgs
  | starredExpression | keywordOrStarred | keywordOrDoubleStarred
  -- targets
  | starTargets | starTargetsList | starTargetsTuple | starTarget | targetWithStarAtom
  | starAtom | singleTarget | singleSubscriptAttribute | targetPrimary | targetAhead
  | delTargets | delTarget | delAtom
  -- sources that are not accepted
  | badArguments | badKeyword | quietExpression | badLegacyExpression | badExpression
  | badNamedExpression | badAssignment | badAnnotationTarget | badDelStatement | badBlock
  | badComprehension | badDictComprehension | badParameters | badParametersHead | badDefault
  | badStarParams | badKeywordParams | badLambdaParameters | badLambdaParametersHead
  | badLambdaStarParams | badLambdaKeywordParams | badWithItem | badForTarget | badGroup
  | badImportTargets | badWithStatement | badWithBlock | badTryStatement | badExceptStatement
  | badFinallyBlock | badExceptBlock | badExceptStarBlock | badMatchStatement | badCaseBlock
  | badAsPattern | badClassPattern | badClassArguments | badIfStatement | badElifStatement
  | badElseBlock | badWhileStatement | badForStatement | badFunctionDef | badClassDef
  | badKeyValues | badKeyValue
  deriving Repr, DecidableEq, Hashable, Inhabited

end CodeAtlas.Script.Grammar
