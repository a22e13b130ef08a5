import CodeAtlas.Lint.Site

/-! Names and what they are bound to. Bindings are numbered, and scopes hold the numbers, since
one binding can be known in several scopes. A scope keeps its names in the order in which they
were first bound; binding a name anew leaves it in its place. -/

namespace CodeAtlas.Lint

open Script

inductive ImportForm where
  /-- A module under its own name, or under another. -/
  | whole
  /-- A module inside a package, of which the package's name is bound. -/
  | inner
  /-- A member, with its module and its own name. -/
  | member (module name : String)
  /-- Everything that a module offers. -/
  | star
  deriving Repr, DecidableEq

/-- What an import brings in. -/
structure Import where
  form : ImportForm
  /-- The module, or the member with its module in front. -/
  fullName : String
  /-- How a message names it. -/
  shown : String
  deriving Repr

inductive Kind where
  | builtin
  | imported (i : Import)
  | argument
  | assignment
  /-- A name bound inside an expression. -/
  | inline
  /-- A declared type without a value. -/
  | typeNote
  /-- A loop variable, part of an unpacked value, or a name of an outer scope. -/
  | plain
  | definition
  /-- The list of names that a module exports. -/
  | exports (names : List (List Nat))
  deriving Repr

structure Binding where
  name : String
  kind : Kind
  /-- The node that binds the name; there is none for what every module knows. -/
  source : Option Site
  /-- The scope from which the name was last used, and the place. -/
  used : Option (Nat × Position)
  /-- Nodes that bind the name anew in scopes further in. -/
  redefined : List Site
  deriving Repr

namespace Binding

def isImport (b : Binding) : Bool :=
  match b.kind with
  | .imported _ => true
  | _ => false

def isStar (b : Binding) : Bool :=
  match b.kind with
  | .imported i => i.form == .star
  | _ => false

def isDefinition (b : Binding) : Bool :=
  match b.kind with
  | .builtin | .imported _ | .definition => true
  | _ => false

def isAssignment (b : Binding) : Bool :=
  match b.kind with
  | .assignment | .inline => true
  | _ => false

def line (b : Binding) : Nat :=
  (b.source.map (·.position.line)).getD 1

/-- Whether a binding puts another of the same name out of effect. A module inside a package
leaves the other modules of the package in effect. -/
def redefines (new old : Binding) : Bool :=
  match new.kind, old.kind with
  | .typeNote, _ => false
  | .imported i, .imported j =>
    if i.form == .inner || j.form == .inner then i.fullName == j.fullName else true
  | .definition, _ => old.isDefinition || old.isAssignment
  | _, _ => old.isDefinition

end Binding

inductive ScopeKind where
  | module
  | classBody
  | function
  | generator
  deriving Repr, DecidableEq

structure Scope where
  kind : ScopeKind
  names : List (String × Nat)
  /-- The local names are asked for as a whole. -/
  usesLocals : Bool
  /-- Some module was imported with everything in it. -/
  starred : Bool
  /-- Names that count as used in every function. -/
  exempt : List String
  deriving Repr

namespace Scope

def ofKind (kind : ScopeKind) : Scope :=
  ⟨kind, [], false, false, ["__tracebackhide__", "__traceback_info__", "__traceback_supplement__"]⟩

def get? (s : Scope) (name : String) : Option Nat := s.names.lookup name

def has (s : Scope) (name : String) : Bool := s.names.any (·.1 == name)

def put (s : Scope) (name : String) (binding : Nat) : Scope :=
  if s.has name then
    { s with names := s.names.map fun e => if e.1 == name then (name, binding) else e }
  else { s with names := s.names ++ [(name, binding)] }

def erase (s : Scope) (name : String) : Scope :=
  { s with names := s.names.filter (·.1 != name) }

end Scope

/-- Names that every module knows. -/
def builtins : List String := [
  "ArithmeticError", "AssertionError", "AttributeError", "BaseException", "BaseExceptionGroup",
  "BlockingIOError", "BrokenPipeError", "BufferError", "BytesWarning", "ChildProcessError",
  "ConnectionAbortedError", "ConnectionError", "ConnectionRefusedError", "ConnectionResetError",
  "DeprecationWarning", "EOFError", "Ellipsis", "EncodingWarning", "EnvironmentError",
  "Exception", "ExceptionGroup", "False", "FileExistsError", "FileNotFoundError",
  "FloatingPointError", "FutureWarning", "GeneratorExit", "IOError", "ImportError",
  "ImportWarning", "IndentationError", "IndexError", "InterruptedError", "IsADirectoryError",
  "KeyError", "KeyboardInterrupt", "LookupError", "MemoryError", "ModuleNotFoundError",
  "NameError", "None", "NotADirectoryError", "NotImplemented", "NotImplementedError", "OSError",
  "OverflowError", "PendingDeprecationWarning", "PermissionError", "ProcessLookupError",
  "RecursionError", "ReferenceError", "ResourceWarning", "RuntimeError", "RuntimeWarning",
  "StopAsyncIteration", "StopIteration", "SyntaxError", "SyntaxWarning", "SystemError",
  "SystemExit", "TabError", "TimeoutError", "True", "TypeError", "UnboundLocalError",
  "UnicodeDecodeError", "UnicodeEncodeError", "UnicodeError", "UnicodeTranslateError",
  "UnicodeWarning", "UserWarning", "ValueError", "Warning", "ZeroDivisionError",
  "__build_class__", "__debug__", "__doc__", "__import__", "__loader__", "__name__",
  "__package__", "__spec__", "abs", "aiter", "all", "anext", "any", "ascii", "bin", "bool",
  "breakpoint", "bytearray", "bytes", "callable", "chr", "classmethod", "compile", "complex",
  "copyright", "credits", "delattr", "dict", "dir", "divmod", "enumerate", "eval", "exec",
  "exit", "filter", "float", "format", "frozenset", "getattr", "globals", "hasattr", "hash",
  "help", "hex", "id", "input", "int", "isinstance", "issubclass", "iter", "len", "license",
  "list", "locals", "map", "max", "memoryview", "min", "next", "object", "oct", "open", "ord",
  "pow", "print", "property", "quit", "range", "repr", "reversed", "round", "set", "setattr",
  "slice", "sorted", "staticmethod", "str", "sum", "super", "tuple", "type", "vars", "zip",
  "__file__", "__builtins__", "__annotations__", "WindowsError"]

/-- Features of the language that can be switched on ahead of their time. -/
def futureFeatures : List String := [
  "nested_scopes", "generators", "division", "absolute_import", "with_statement",
  "print_function", "unicode_literals", "barry_as_FLUFL", "generator_stop", "annotations"]

/-- The last part of a dotted name. -/
def lastPart (s : String) : String :=
  String.ofList ((s.toList.reverse.takeWhile (· != '.')).reverse)

def firstPart (s : String) : String :=
  String.ofList (s.toList.takeWhile (· != '.'))

/-- An import under a name other than the last part of its own. -/
def Import.aliased (i : Import) (name : String) : Bool :=
  lastPart i.fullName != name

/-- `import module` or `import module as name`: the bound name and the import. -/
def Import.ofModule (module : String) : Option String → String × Import
  | none =>
    if module.toList.contains '.' then (firstPart module, ⟨.inner, module, module⟩)
    else (module, ⟨.whole, module, module⟩)
  | some name =>
    let shown := if lastPart module != name then module ++ " as " ++ name else module
    (name, ⟨.whole, module, shown⟩)

/-- `from module import member as name`; leading dots are part of the module. -/
def Import.ofMember (module member : String) (renamed : Option String) : String × Import :=
  let name := renamed.getD member
  let full :=
    if module.toList.getLast? == some '.' then module ++ member else module ++ "." ++ member
  let shown := if member != name then full ++ " as " ++ name else full
  (name, ⟨.member module member, full, shown⟩)

/-- `from module import *`. -/
def Import.ofStar (module : String) : String × Import :=
  let name := module ++ ".*"
  let shown := if module.toList.getLast? == some '.' then "from " ++ module ++ " import *" else name
  (name, ⟨.star, module, shown⟩)

end CodeAtlas.Lint
