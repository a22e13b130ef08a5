import CodeAtlas.Script.Grammar.Expression

/-! Productions of what can be bound or deleted. -/

namespace CodeAtlas.Script.Grammar

/-- An attribute at the end of a target. -/
def lastAttribute (use : Use) : Alternative :=
  alt [r .targetPrimary, m ".", name, .notAhead (r .targetAhead)]
    (expr fun s vs => attributeOf s use vs)

/-- A subscript at the end of a target. -/
def lastSubscript (use : Use) : Alternative :=
  alt [r .targetPrimary, m "[", r .slices, m "]", .notAhead (r .targetAhead)]
    (expr fun s vs => subscriptOf s use vs)

/-- The part at a position, put to another use. -/
def usedAs (i : Nat) (use : Use) : Act := fun _ vs => .yields (.expr ((vs.expr i).withUse use))

def starTargets : Production := fresh [
  alt [r .starTarget, .notAhead (m ",")] (give 0),
  alt [r .starTarget, .many (within [m ",", r .starTarget] 1), .optional (m ",")]
    (expr fun s vs => .tuple s .bind (inFront vs 0 1))]

def starTargetsList : Production := fresh [
  alt [.separated (m ",") (r .starTarget), .optional (m ",")] (give 0)]

def starTargetsTuple : Production := fresh [
  alt [r .starTarget, .several (within [m ",", r .starTarget] 1), .optional (m ",")]
    (value fun vs => .list (vs.at 0 :: (vs.at 1).items)),
  alt [r .starTarget, m ","] (value fun vs => .list [vs.at 0])]

def starTarget : Production := kept [
  alt [m "*", .group [alt [.notAhead (m "*"), r .starTarget] (give 0)]]
    (expr fun s vs => .starred s .bind ((vs.expr 1).withUse .bind)),
  only .targetWithStarAtom]

def targetWithStarAtom : Production := kept [
  lastAttribute .bind, lastSubscript .bind, only .starAtom]

def starAtom : Production := fresh [
  alt [name] (usedAs 0 .bind),
  alt [m "(", r .targetWithStarAtom, m ")"] (usedAs 1 .bind),
  alt [m "(", .optional (r .starTargetsTuple), m ")"]
    (expr fun s vs => .tuple s .bind (vs.exprs 1)),
  alt [m "[", .optional (r .starTargetsList), m "]"]
    (expr fun s vs => .list s .bind (vs.exprs 1))]

def singleTarget : Production := fresh [
  only .singleSubscriptAttribute,
  alt [name] (usedAs 0 .bind),
  alt [m "(", r .singleTarget, m ")"] (give 1)]

def singleSubscriptAttribute : Production := fresh [lastAttribute .bind, lastSubscript .bind]

def targetPrimary : Production := grown [
  alt [r .targetPrimary, m ".", name, .ahead (r .targetAhead)]
    (expr fun s vs => attributeOf s .read vs),
  alt [r .targetPrimary, m "[", r .slices, m "]", .ahead (r .targetAhead)]
    (expr fun s vs => subscriptOf s .read vs),
  alt [r .targetPrimary, r .generatorExp, .ahead (r .targetAhead)] (expr generatorCallOf),
  alt [r .targetPrimary, m "(", .optional (r .arguments), m ")", .ahead (r .targetAhead)]
    (expr callOf),
  alt [r .atom, .ahead (r .targetAhead)] (give 0)]

/-- What goes on with a target. -/
def targetAhead : Production := fresh [
  alt [m "("] (give 0), alt [m "["] (give 0), alt [m "."] (give 0)]

def delTargets : Production := fresh [
  alt [.separated (m ",") (r .delTarget), .optional (m ",")] (give 0)]

def delTarget : Production := kept [
  lastAttribute .delete, lastSubscript .delete, only .delAtom]

def delAtom : Production := fresh [
  alt [name] (usedAs 0 .delete),
  alt [m "(", r .delTarget, m ")"] (usedAs 1 .delete),
  alt [m "(", .optional (r .delTargets), m ")"]
    (expr fun s vs => .tuple s .delete (vs.exprs 1)),
  alt [m "[", .optional (r .delTargets), m "]"]
    (expr fun s vs => .list s .delete (vs.exprs 1))]

end CodeAtlas.Script.Grammar
