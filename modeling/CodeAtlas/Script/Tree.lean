/-! Syntax trees of Python source. Every node that a message can point at carries the
stretch of source it was read from. -/

namespace CodeAtlas.Script

/-- A stretch of source: rows are counted from one, columns in bytes. -/
structure Span where
  line : Nat
  col : Nat
  lastLine : Nat
  lastCol : Nat
  deriving Repr, DecidableEq, Inhabited

/-- What is done to a name, or to what is found under one, where it stands. -/
inductive Use where
  | read
  | bind
  | delete
  deriving Repr, DecidableEq, Inhabited

/-- A value written out. Texts are lists of code points, since an escape can write half
of a surrogate pair. -/
inductive Constant where
  | nothing
  | truth (b : Bool)
  | ellipsis
  | text (points : List Nat)
  | bytes (octets : List Nat)
  | int (n : Nat)
  | float (x : Float)
  | imaginary (x : Float)
  deriving Repr, Inhabited

inductive BinaryOp where
  | add
  | subtract
  | multiply
  | matrixMultiply
  | divide
  | floorDivide
  | modulo
  | power
  | shiftLeft
  | shiftRight
  | bitOr
  | bitXor
  | bitAnd
  deriving Repr, DecidableEq, Inhabited

inductive Comparison where
  | equal
  | notEqual
  | less
  | lessEqual
  | greater
  | greaterEqual
  | same
  | notSame
  | within
  | notWithin
  deriving Repr, DecidableEq, Inhabited

/-- What a comprehension makes. -/
inductive Collection where
  | list
  | set
  | dict
  | generator
  deriving Repr, DecidableEq, Inhabited

/-- A name that an import binds. -/
structure Alias where
  name : String
  renamed : Option String
  deriving Repr

mutual

inductive Expr where
  | name (span : Span) (use : Use) (id : String)
  | constant (span : Span) (value : Constant)
  /-- A text with embedded expressions, piece by piece. -/
  | joined (span : Span) (pieces : List Expr)
  /-- An embedded expression with its format, if it has one. -/
  | embedded (span : Span) (value : Expr) (format : Option Expr)
  | attribute (span : Span) (use : Use) (value : Expr) (attr : String)
  | subscript (span : Span) (use : Use) (value : Expr) (index : Expr)
  | call (span : Span) (func : Expr) (args : List Expr) (keywords : List Keyword)
  | tuple (span : Span) (use : Use) (items : List Expr)
  | list (span : Span) (use : Use) (items : List Expr)
  | set (span : Span) (items : List Expr)
  /-- Keys, with none before an unpacked mapping, and values. -/
  | dict (span : Span) (keys : List (Option Expr)) (values : List Expr)
  | starred (span : Span) (use : Use) (value : Expr)
  | binary (span : Span) (op : BinaryOp) (left right : Expr)
  | unary (span : Span) (operand : Expr)
  /-- Operands joined by `and`, or all by `or`. -/
  | boolean (span : Span) (operands : List Expr)
  | compare (span : Span) (left : Expr) (ops : List Comparison) (rights : List Expr)
  | conditional (span : Span) (test body orelse : Expr)
  | lambda (span : Span) (params : Params) (body : Expr)
  | assigned (span : Span) (target value : Expr)
  | comprehension (span : Span) (made : Collection) (elements : List Expr)
      (generators : List Generator)
  | yielded (span : Span) (value : Option Expr)
  | yieldedFrom (span : Span) (value : Expr)
  | awaited (span : Span) (value : Expr)
  | slice (span : Span) (lower upper step : Option Expr)
  deriving Repr, Inhabited

/-- An argument passed by name, or an unpacked mapping. -/
inductive Keyword where
  | mk (span : Span) (name : Option String) (value : Expr)
  deriving Repr

/-- One `for … in … if …` of a comprehension. -/
inductive Generator where
  | mk (target : Expr) (source : Expr) (conditions : List Expr)
  deriving Repr

inductive Param where
  | mk (span : Span) (name : String) (typeNote : Option Expr)
  deriving Repr

/-- Parameters: positional-only, plain, the rest of the positional ones, by name
only, the rest of the named ones; then the default values. -/
inductive Params where
  | mk (positional plain : List Param) (rest : Option Param) (named : List Param)
      (namedRest : Option Param) (defaults namedDefaults : List Expr)
  deriving Repr

end

inductive Pattern where
  /-- A literal or a dotted name. -/
  | value (span : Span) (e : Expr)
  /-- One of the constant words. -/
  | singleton (span : Span)
  | sequence (span : Span) (items : List Pattern)
  | mapping (span : Span) (keys : List Expr) (items : List Pattern) (rest : Option String)
  | classOf (span : Span) (cls : Expr) (items named : List Pattern)
  | star (span : Span) (name : Option String)
  /-- A name for what a pattern matches, or for anything. -/
  | capture (span : Span) (inner : Option Pattern) (name : Option String)
  | either (span : Span) (items : List Pattern)
  deriving Repr, Inhabited

mutual

inductive Stmt where
  | function (span : Span) (isAsync : Bool) (name : String) (params : Params)
      (body : List Stmt) (decorators : List Expr) (returns : Option Expr)
  | classDef (span : Span) (name : String) (bases : List Expr) (keywords : List Keyword)
      (body : List Stmt) (decorators : List Expr)
  | result (span : Span) (value : Option Expr)
  | delete (span : Span) (targets : List Expr)
  | assign (span : Span) (targets : List Expr) (value : Expr)
  | augment (span : Span) (target value : Expr)
  | annotate (span : Span) (target typeNote : Expr) (value : Option Expr)
  | loop (span : Span) (target source : Expr) (body orelse : List Stmt)
  | repeatWhile (span : Span) (test : Expr) (body orelse : List Stmt)
  | branch (span : Span) (test : Expr) (body orelse : List Stmt)
  | within (span : Span) (items : List (Expr × Option Expr)) (body : List Stmt)
  | select (span : Span) (subject : Expr) (cases : List Case)
  | throwing (span : Span) (exception cause : Option Expr)
  | guarded (span : Span) (isGroup : Bool) (body : List Stmt) (handlers : List Handler)
      (orelse final : List Stmt)
  | assertion (span : Span) (test : Expr) (message : Option Expr)
  | importNames (span : Span) (names : List Alias)
  | importFrom (span : Span) (level : Nat) (source : Option String) (names : List Alias)
  /-- `global` and `nonlocal`. -/
  | outerNames (span : Span) (names : List String)
  | expr (span : Span) (value : Expr)
  | idle (span : Span)
  /-- `break`. -/
  | leave (span : Span)
  /-- `continue`. -/
  | resume (span : Span)
  deriving Repr, Inhabited

inductive Handler where
  | mk (span : Span) (kind : Option Expr) (name : Option String) (body : List Stmt)
  deriving Repr

inductive Case where
  | mk (pattern : Pattern) (guard : Option Expr) (body : List Stmt)
  deriving Repr

end

def Expr.span : Expr → Span
  | .name s _ _ | .constant s _ | .joined s _ | .embedded s _ _ | .attribute s _ _ _
  | .subscript s _ _ _ | .call s _ _ _ | .tuple s _ _ | .list s _ _ | .set s _ | .dict s _ _
  | .starred s _ _ | .binary s _ _ _ | .unary s _ | .boolean s _ | .compare s _ _ _
  | .conditional s _ _ _ | .lambda s _ _ | .assigned s _ _ | .comprehension s _ _ _
  | .yielded s _ | .yieldedFrom s _ | .awaited s _ | .slice s _ _ _ => s

mutual

/-- The same expression where it is bound or deleted. -/
def Expr.withUse (use : Use) : Expr → Expr
  | .name s _ id => .name s use id
  | .attribute s _ value attr => .attribute s use value attr
  | .subscript s _ value index => .subscript s use value index
  | .tuple s _ items => .tuple s use (Expr.withUseAll use items)
  | .list s _ items => .list s use (Expr.withUseAll use items)
  | .starred s _ value => .starred s use (value.withUse use)
  | e => e

def Expr.withUseAll (use : Use) : List Expr → List Expr
  | [] => []
  | e :: rest => e.withUse use :: Expr.withUseAll use rest

end

def Pattern.span : Pattern → Span
  | .value s _ | .singleton s | .sequence s _ | .mapping s _ _ _ | .classOf s _ _ _
  | .star s _ | .capture s _ _ | .either s _ => s

end CodeAtlas.Script
