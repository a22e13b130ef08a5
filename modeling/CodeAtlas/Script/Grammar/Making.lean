import CodeAtlas.Script.Grammar.Peg

/-! Short forms in which the productions are written down. -/

namespace CodeAtlas.Script.Grammar

def r (rule : Rule) : Peg := .rule rule

def m (mark : String) : Peg := .mark mark

def w (word : String) : Peg := .word word

def name : Peg := .kind .name

/-- A value that a production passes on. -/
def give (i : Nat) : Act := fun _ vs => .yields (vs.at i)

/-- A production that only says that its parts are there. -/
def nod : Act := fun _ _ => .yields .nothing

def expr (make : Span → Fields → Expr) : Act := fun sc vs => .yields (.expr (make sc.span vs))

def stmt (make : Span → Fields → Stmt) : Act := fun sc vs => .yields (.stmt (make sc.span vs))

def pattern (make : Span → Fields → Pattern) : Act :=
  fun sc vs => .yields (.pattern (make sc.span vs))

def value (make : Fields → Value) : Act := fun _ vs => .yields (make vs)

def alt (parts : List Peg) (act : Act) : Alternative := .mk false parts act

def only (rule : Rule) : Alternative := alt [r rule] (give 0)

def misuse (rule : Rule) : Alternative := .mk true [r rule] (give 0)

def fresh (alternatives : List Alternative) : Production := ⟨.fresh, false, alternatives⟩

def kept (alternatives : List Alternative) : Production := ⟨.kept, false, alternatives⟩

def grown (alternatives : List Alternative) : Production := ⟨.grown, false, alternatives⟩

/-- One of several parts. -/
def oneOf (parts : List Peg) : Peg := .group (parts.map fun p => alt [p] (give 0))

/-- Parts in a row, of which one counts. -/
def within (parts : List Peg) (i : Nat) : Peg := .group [alt parts (give i)]

/-- A fault told at the last token that was looked at. -/
def wrong (message : String) : Act := fun sc _ => sc.wrong message

/-- A fault told at an expression of the production. -/
def wrongAt (i : Nat) (message : String) : Act := fun sc vs => sc.wrongAt (vs.expr i).span message

/-- A fault told at a token of the production. -/
def wrongToken (i : Nat) (message : String) : Act :=
  fun sc vs => sc.wrongToken (vs.token i) message

/-- A block that is missing after the statement that a token starts. -/
def noBlock (i : Nat) (what : String) : Act := fun sc vs =>
  sc.wrong ("expected an indented block after " ++ what ++ " on line " ++
    toString (vs.token i).line)

end CodeAtlas.Script.Grammar
