import CodeAtlas.Script.Fault
import CodeAtlas.Script.Tree

/-! What the parts of a production stand for, and what a production has at hand to make a
node of them. -/

namespace CodeAtlas.Script

/-- The stretch of source that a token covers. -/
def Token.span (t : Token) : Span := ⟨t.line, t.col.toNat, t.lastLine, t.lastCol.toNat⟩

namespace Grammar

/-- A parameter with its default value, if it has one. -/
structure Defaulted where
  param : Param
  value : Option Expr
  deriving Repr

/-- What follows the plain parameters. -/
structure Remainder where
  rest : Option Param
  named : List Defaulted
  namedRest : Option Param
  deriving Repr

inductive Value where
  | nothing
  | token (t : Token)
  | expr (e : Expr)
  | stmt (s : Stmt)
  | pattern (p : Pattern)
  | list (vs : List Value)
  | operator (op : BinaryOp)
  | comparison (op : Comparison) (e : Expr)
  /-- A key and its value; an unpacked mapping has no key. -/
  | pair (key : Option Expr) (value : Expr)
  | generator (g : Generator)
  | keyword (k : Keyword)
  | arguments (args : List Expr) (keywords : List Keyword)
  | imported (a : Alias)
  | param (p : Param)
  | defaulted (d : Defaulted)
  | remainder (r : Remainder)
  /-- Parameters before a slash. -/
  | positional (plain : List Param) (others : List Defaulted)
  | params (p : Params)
  | context (e : Expr) (target : Option Expr)
  | handler (h : Handler)
  | case (c : Case)
  | keyPattern (key : Expr) (p : Pattern)
  | namedPattern (p : Pattern)
  deriving Repr, Inhabited

/-- The values of the parts of a production, in order. -/
abbrev Fields := List Value

/-- What a production has at hand: the tokens, the first of its own and the one after its
last, how many have been looked at so far, and how to read an embedded expression that
stands at a row and column. -/
structure Scene where
  source : Source
  tokens : Array Token
  first : Nat
  after : Nat
  seen : Nat
  embed : List Char → Nat → Nat → Except Fault Expr

/-- What comes of a production that fits: a value, a refusal, or a fault. -/
inductive Verdict where
  | yields (v : Value)
  | refuses
  | faults (f : Fault)

abbrev Act := Scene → Fields → Verdict

/-! ### Parts -/

def Value.asExpr : Value → Expr
  | .expr e => e
  | _ => default

def Value.asExpr? : Value → Option Expr
  | .expr e => some e
  | _ => none

def Value.items : Value → List Value
  | .list vs => vs
  | _ => []

def Value.exprs (v : Value) : List Expr := v.items.filterMap Value.asExpr?

def Value.asStmt? : Value → Option Stmt
  | .stmt s => some s
  | _ => none

/-- The statements of a block. -/
def Value.stmts (v : Value) : List Stmt := v.items.filterMap Value.asStmt?

def Value.asPattern? : Value → Option Pattern
  | .pattern p => some p
  | _ => none

def Value.patterns (v : Value) : List Pattern := v.items.filterMap Value.asPattern?

def Value.asGenerator? : Value → Option Generator
  | .generator g => some g
  | _ => none

def Value.generators (v : Value) : List Generator := v.items.filterMap Value.asGenerator?

def Value.asAlias? : Value → Option Alias
  | .imported a => some a
  | _ => none

def Value.asParam? : Value → Option Param
  | .param p => some p
  | _ => none

def Value.paramList (v : Value) : List Param := v.items.filterMap Value.asParam?

def Value.asDefaulted? : Value → Option Defaulted
  | .defaulted d => some d
  | _ => none

def Value.defaultedList (v : Value) : List Defaulted := v.items.filterMap Value.asDefaulted?

def Value.asHandler? : Value → Option Handler
  | .handler h => some h
  | _ => none

def Value.asCase? : Value → Option Case
  | .case c => some c
  | _ => none

/-- The name that a name expression holds. -/
def Value.name (v : Value) : String :=
  match v with
  | .expr (.name _ _ id) => id
  | _ => ""

def Value.name? (v : Value) : Option String :=
  match v with
  | .expr (.name _ _ id) => some id
  | _ => none

def Value.asToken : Value → Token
  | .token t => t
  | _ => default

def Fields.at (vs : Fields) (i : Nat) : Value := vs.getD i .nothing

def Fields.expr (vs : Fields) (i : Nat) : Expr := (vs.at i).asExpr

def Fields.expr? (vs : Fields) (i : Nat) : Option Expr := (vs.at i).asExpr?

def Fields.exprs (vs : Fields) (i : Nat) : List Expr := (vs.at i).exprs

def Fields.token (vs : Fields) (i : Nat) : Token := (vs.at i).asToken

/-! ### Places -/

/-- The first token of the production. -/
def Scene.start (sc : Scene) : Token := sc.tokens.getD sc.first default

/-- The last token that was looked at. -/
def Scene.latest (sc : Scene) : Token := sc.tokens.getD (sc.seen - 1) default

/-- The last token before a position that is not of the layout. -/
def lastSolid (tokens : Array Token) : Nat → Token
  | 0 => tokens.getD 0 default
  | n + 1 =>
    let t := tokens.getD n default
    if t.kind.isLayout then (if n == 0 then t else lastSolid tokens n) else t

/-- The stretch of source that the production covers. -/
def Scene.span (sc : Scene) : Span :=
  let last := lastSolid sc.tokens sc.after
  ⟨sc.start.line, sc.start.col.toNat, last.lastLine, last.lastCol.toNat⟩

/-- A fault told at the last token that was looked at. -/
def Scene.wrong (sc : Scene) (message : String) : Verdict :=
  .faults (sc.source.faultAt sc.latest message)

/-- A fault told at the start of a node. -/
def Scene.wrongAt (sc : Scene) (span : Span) (message : String) : Verdict :=
  .faults (sc.source.fault sc.latest.reached message span.line (span.col + 1))

/-- A fault told at a token of the production. -/
def Scene.wrongToken (sc : Scene) (t : Token) (message : String) : Verdict :=
  .faults (sc.source.fault sc.latest.reached message t.line (t.col + 1))

end Grammar

end CodeAtlas.Script
