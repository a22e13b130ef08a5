import CodeAtlas.Script.Grammar.Misuse

/-! The grammar: the production of every rule. -/

namespace CodeAtlas.Script.Grammar

def production : Rule → Production
  | .file => file
  | .embedded => fresh [only .starExpressions]
  | .statements => statements
  | .statement => statement
  | .simpleStatements => simpleStatements
  | .simpleStatement => simpleStatement
  | .compoundStatement => compoundStatement
  | .assignment => assignment
  | .annotatedValue => annotatedValue
  | .augmentation => augmentation
  | .returnStatement => returnStatement
  | .raiseStatement => raiseStatement
  | .globalStatement => namesStatement "global"
  | .nonlocalStatement => namesStatement "nonlocal"
  | .delStatement => delStatement
  | .yieldStatement => yieldStatement
  | .assertStatement => assertStatement
  | .importStatement => importStatement
  | .importName => importName
  | .importFrom => importFrom
  | .importTargets => importTargets
  | .importAsNames => importAsNames
  | .importAsName => importAsName
  | .dottedAsNames => dottedAsNames
  | .dottedAsName => dottedAsName
  | .dottedName => dottedName
  | .block => block
  | .decorators => decorators
  | .classDef => definition .plainClassDef
  | .plainClassDef => plainClassDef
  | .functionDef => definition .plainFunctionDef
  | .plainFunctionDef => plainFunctionDef
  | .params => params
  | .parameters => parameters functionParams
  | .slashNoDefault => slashNoDefault functionParams
  | .slashWithDefault => slashWithDefault functionParams
  | .starParams => starParams
  | .keywordParams => keywordParams .badKeywordParams .paramNoDefault
  | .paramNoDefault => paramNoDefault functionParams .param
  | .paramNoDefaultStarred => paramNoDefault functionParams .paramStarred
  | .paramWithDefault => paramWithDefault functionParams
  | .paramMaybeDefault => paramMaybeDefault functionParams
  | .param => param
  | .paramStarred => paramStarred
  | .typeNote => typeNote
  | .starredTypeNote => starredTypeNote
  | .defaultValue => defaultValue
  | .ifStatement => ifLike "if" .badIfStatement
  | .elifStatement => ifLike "elif" .badElifStatement
  | .elseBlock => elseBlock
  | .whileStatement => whileStatement
  | .forStatement => forStatement
  | .withStatement => withStatement
  | .withItem => withItem
  | .tryStatement => tryStatement
  | .exceptBlock => exceptBlock
  | .exceptStarBlock => exceptStarBlock
  | .finallyBlock => finallyBlock
  | .matchStatement => matchStatement
  | .subject => subject
  | .caseBlock => caseBlock
  | .guard => guard
  | .patterns => patterns
  | .pattern => anyPattern
  | .asPattern => asPattern
  | .orPattern => orPattern
  | .closedPattern => closedPattern
  | .literalPattern => literalPattern
  | .literalExpr => literalExpr
  | .complexNumber => complexNumber
  | .signedNumber => signedNumber
  | .signedRealNumber => signedRealNumber
  | .realNumber => realNumber
  | .imaginaryNumber => imaginaryNumber
  | .capturePattern => capturePattern
  | .captureTarget => captureTarget
  | .wildcardPattern => wildcardPattern
  | .valuePattern => valuePattern
  | .dottedValue => dottedValue
  | .nameOrDotted => nameOrDotted
  | .groupPattern => groupPattern
  | .sequencePattern => sequencePattern
  | .openSequencePattern => openSequencePattern
  | .maybeSequencePattern => maybeSequencePattern
  | .maybeStarPattern => maybeStarPattern
  | .starPattern => starPattern
  | .mappingPattern => mappingPattern
  | .itemsPattern => itemsPattern
  | .keyValuePattern => keyValuePattern
  | .doubleStarPattern => doubleStarPattern
  | .classPattern => classPattern
  | .positionalPatterns => positionalPatterns
  | .keywordPatterns => keywordPatterns
  | .keywordPattern => keywordPattern
  | .expressions => expressions
  | .expression => expression
  | .yieldExpr => yieldExpr
  | .starExpressions => starExpressions
  | .starExpression => starExpression
  | .starNamedExpressions => starNamedExpressions
  | .starNamedExpression => starNamedExpression
  | .assignmentExpression => assignmentExpression
  | .namedExpression => namedExpression
  | .disjunction => joinedBy "or" .conjunction
  | .conjunction => joinedBy "and" .inversion
  | .inversion => inversion
  | .comparison => comparison
  | .comparisonPair => comparisonPair
  | .equalTo => compared [m "=="] .equal
  | .notEqualTo => compared [unequal] .notEqual
  | .lessEqual => compared [m "<="] .lessEqual
  | .less => compared [m "<"] .less
  | .greaterEqual => compared [m ">="] .greaterEqual
  | .greater => compared [m ">"] .greater
  | .notIn => compared [w "not", w "in"] .notWithin
  | .isIn => compared [w "in"] .within
  | .isNot => compared [w "is", w "not"] .notSame
  | .isSame => compared [w "is"] .same
  | .bitOr => bitOr
  | .bitXor => bitXor
  | .bitAnd => bitAnd
  | .shift => shift
  | .sum => sum
  | .term => term
  | .factor => factor
  | .power => power
  | .awaited => awaited
  | .primary => primary
  | .slices => slices
  | .slice => slice
  | .atom => atom
  | .group => group
  | .lambda => lambda
  | .lambdaParams => fresh [misuse .badLambdaParameters, only .lambdaParameters]
  | .lambdaParameters => parameters lambdaParams
  | .lambdaSlashNoDefault => slashNoDefault lambdaParams
  | .lambdaSlashWithDefault => slashWithDefault lambdaParams
  | .lambdaStarParams => lambdaStarParams
  | .lambdaKeywordParams => keywordParams .badLambdaKeywordParams .lambdaParamNoDefault
  | .lambdaParamNoDefault => paramNoDefault lambdaParams .lambdaParam
  | .lambdaParamWithDefault => paramWithDefault lambdaParams
  | .lambdaParamMaybeDefault => paramMaybeDefault lambdaParams
  | .lambdaParam => lambdaParam
  | .strings => strings
  | .list => list
  | .tuple => tuple
  | .set => set
  | .dict => dict
  | .keyValues => keyValues
  | .keyValue => keyValue
  | .plainKeyValue => plainKeyValue
  | .forClauses => forClauses
  | .forClause => forClause
  | .listComp => listComp
  | .setComp => setComp
  | .generatorExp => generatorExp
  | .dictComp => dictComp
  | .arguments => arguments
  | .args => args
  | .keywordArgs => keywordArgs
  | .starredExpression => starredExpression
  | .keywordOrStarred => keywordOrStarred
  | .keywordOrDoubleStarred => keywordOrDoubleStarred
  | .starTargets => starTargets
  | .starTargetsList => starTargetsList
  | .starTargetsTuple => starTargetsTuple
  | .starTarget => starTarget
  | .targetWithStarAtom => targetWithStarAtom
  | .starAtom => starAtom
  | .singleTarget => singleTarget
  | .singleSubscriptAttribute => singleSubscriptAttribute
  | .targetPrimary => targetPrimary
  | .targetAhead => targetAhead
  | .delTargets => delTargets
  | .delTarget => delTarget
  | .delAtom => delAtom
  | .badArguments => badArguments
  | .badKeyword => badKeyword
  | .quietExpression => quietExpression
  | .badLegacyExpression => badLegacyExpression
  | .badExpression => badExpression
  | .badNamedExpression => badNamedExpression
  | .badAssignment => badAssignment
  | .badAnnotationTarget => badAnnotationTarget
  | .badDelStatement => badDelStatement
  | .badBlock => badBlock
  | .badComprehension => badComprehension
  | .badDictComprehension => badDictComprehension
  | .badParameters => badFunctionParameters
  | .badParametersHead => badParametersHead functionParams
  | .badDefault => badDefault
  | .badStarParams => badStarParams
  | .badKeywordParams => badKeywordParams functionParams
  | .badLambdaParameters => badLambdaParameters
  | .badLambdaParametersHead => badParametersHead lambdaParams
  | .badLambdaStarParams => badLambdaStarParams
  | .badLambdaKeywordParams => badKeywordParams lambdaParams
  | .badWithItem => badWithItem
  | .badForTarget => badForTarget
  | .badGroup => badGroup
  | .badImportTargets => badImportTargets
  | .badWithStatement => badWithStatement
  | .badWithBlock => badWithBlock
  | .badTryStatement => badTryStatement
  | .badExceptStatement => badExceptStatement
  | .badFinallyBlock => badFinallyBlock
  | .badExceptBlock => badExceptBlock
  | .badExceptStarBlock => badExceptStarBlock
  | .badMatchStatement => badMatchStatement
  | .badCaseBlock => badCaseBlock
  | .badAsPattern => badAsPattern
  | .badClassPattern => badClassPattern
  | .badClassArguments => badClassArguments
  | .badIfStatement => badCondition "if"
  | .badElifStatement => badCondition "elif"
  | .badElseBlock => badElseBlock
  | .badWhileStatement => badCondition "while"
  | .badForStatement => badForStatement
  | .badFunctionDef => badFunctionDef
  | .badClassDef => badClassDef
  | .badKeyValues => badKeyValues
  | .badKeyValue => badKeyValue

end CodeAtlas.Script.Grammar
