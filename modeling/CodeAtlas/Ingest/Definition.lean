import CodeAtlas.Failure
import CodeAtlas.Language
import CodeAtlas.Node
import CodeAtlas.Text.Rows

/-! The definitions in a source file, with the calls and the names used inside each.
A definition's owner is the nearest definition around it. -/

namespace CodeAtlas.Ingest

/-- A class, function or the like. Rows are counted from one. -/
structure Definition where
  id : String
  type : String
  name : String
  startLine : Nat
  endLine : Nat
  parent : Option String
  fullCode : String
  truncatedCode : String
  deriving Repr, DecidableEq

/-- A name that occurs inside a definition, with how it occurs. -/
structure Mention where
  owner : String
  name : String
  how : String
  deriving Repr, DecidableEq

structure Extraction where
  definitions : List Definition
  calls : List Mention
  usages : List Mention
  deriving Repr

def Extraction.empty : Extraction := ⟨[], [], []⟩

/-- The symbols that a definition defines: its name. -/
def Extraction.definedBy (x : Extraction) (id : String) : List String :=
  ((x.definitions.find? (·.id == id)).map fun d => [d.name]).getD []

/-- The names used by a definition, in order. -/
def Extraction.usedBy (x : Extraction) (id : String) : List String :=
  (x.usages.filter (·.owner == id)).map (·.name)

/-- Kinds of node that define something, with the type of what they define. -/
def definitionKinds : Language → List (String × String)
  | .python => [("class_definition", "class"), ("function_definition", "function")]
  | .java =>
    [("class_declaration", "class"), ("interface_declaration", "interface"),
      ("enum_declaration", "enum"), ("method_declaration", "method"),
      ("constructor_declaration", "constructor")]

/-- Kinds of node that can name a definition. -/
def nameKinds : List String :=
  ["identifier", "scoped_type_identifier", "type_identifier", "field_identifier"]

/-- The first child that can name a node; a name that is not valid text is none. -/
def nameOf? (n : Node) : Option String :=
  (n.children.find? (nameKinds.contains ·.kind)).bind (·.text.toOption)

/-- The name of a definition; one without a name is called after its row. -/
def definitionName (n : Node) : String :=
  match nameOf? n with
  | some name => if name = "" then "unnamed_" ++ toString (n.first + 1) else name
  | none => "unnamed_" ++ toString (n.first + 1)

/-- Rows from `start` (counted from one) up to `stop`; a negative `stop` counts from
the end. -/
def rowsUpTo (rows : List (List Char)) (start : Nat) (stop : Int) : String :=
  let stop := if stop < 0 then (rows.length + stop).toNat else stop.toNat
  String.ofList (Text.rowsBetween rows start stop)

/-- Whether a call stands at a node: the role of its name, and how it is noted. -/
def callRole? : Language → String → Option (String × String)
  | .python, "call" => some ("function", "python_call")
  | .java, "method_invocation" => some ("name", "java_method_invocation")
  | _, _ => none

/-- Whether a name is used at a node, and how it is noted. -/
def usage? : Language → String → Option String
  | .python, "identifier" => some "python_identifier"
  | .java, "type_identifier" | .java, "scoped_type_identifier" | .java, "field_access" =>
    some "java_symbol_usage"
  | _, _ => none

/-- The text of a node that has to be valid. -/
def textOf (n : Node) : Except Failure String :=
  n.text.mapError .undecodable

/-- The call at a node inside a definition. -/
def callsAt (lang : Language) (owner : String) (n : Node) : Except Failure (List Mention) :=
  match callRole? lang n.kind with
  | none => .ok []
  | some (role, how) =>
    match n.child? role with
    | none => .ok []
    | some target => (textOf target).map fun s => [⟨owner, s, how⟩]

/-- The use of a name at a node inside a definition. -/
def usagesAt (lang : Language) (owner : String) (n : Node) : Except Failure (List Mention) :=
  match usage? lang n.kind with
  | none => .ok []
  | some how => (textOf n).map fun s => [⟨owner, s, how⟩]

/-- How definitions of a file are read. -/
structure Source where
  language : Language
  path : String
  rows : List (List Char)
  /-- Rows that a shortened definition may have. -/
  maxRows : Int

/-- The definition at a node, if it is one. -/
def definitionAt? (src : Source) (owner : Option String) (n : Node) : Option Definition :=
  ((definitionKinds src.language).lookup n.kind).map fun type =>
    let start := n.first + 1
    let name := definitionName n
    { id := src.path ++ ":" ++ name ++ ":" ++ toString start
      type, name
      startLine := start
      endLine := n.last + 1
      parent := owner
      fullCode := rowsUpTo src.rows start (n.last + 1)
      truncatedCode := rowsUpTo src.rows start (min (n.last + 1 : Int) (start + src.maxRows - 1)) }

/-- A walk over a tree: what has been found so far, and the ids of the definitions that the walk
is inside of, the innermost first. -/
structure Walk where
  found : Extraction
  scopes : List String
  deriving Repr

namespace Walk

/-- Enter the definition at a node, if there is one. -/
def enter (w : Walk) : Option Definition → Walk
  | none => w
  | some d => ⟨{ w.found with definitions := w.found.definitions ++ [d] }, d.id :: w.scopes⟩

/-- Leave the definition that was entered, if one was. -/
def leave (w : Walk) : Option Definition → Walk
  | none => w
  | some _ => { w with scopes := w.scopes.tail }

/-- Note the call at a node for the innermost definition. -/
def noteCalls (lang : Language) (n : Node) (w : Walk) : Except Failure Walk :=
  match w.scopes with
  | [] => .ok w
  | owner :: _ => do
    let calls ← callsAt lang owner n
    pure { w with found := { w.found with calls := w.found.calls ++ calls } }

/-- Note the use of a name at a node for the innermost definition. -/
def noteUsages (lang : Language) (n : Node) (w : Walk) : Except Failure Walk :=
  match w.scopes with
  | [] => .ok w
  | owner :: _ => do
    let usages ← usagesAt lang owner n
    pure { w with found := { w.found with usages := w.found.usages ++ usages } }

end Walk

/-- What happens at a node before its children are come to. -/
def visit (src : Source) (n : Node) (w : Walk) : Except Failure Walk := do
  let w ← (w.enter (definitionAt? src w.scopes.head? n)).noteCalls src.language n
  w.noteUsages src.language n

mutual

/-- Walk over everything at and below a node. -/
def walk (src : Source) : Node → Walk → Except Failure Walk
  | .mk kind first last text roles children, w => do
    let n : Node := .mk kind first last text roles children
    let inside ← visit src n w
    let after ← walkAll src children inside
    pure (after.leave (definitionAt? src w.scopes.head? n))

def walkAll (src : Source) : List Node → Walk → Except Failure Walk
  | [], w => .ok w
  | n :: rest, w => do
    let w ← walk src n w
    walkAll src rest w

end

/-- Rows that a shortened definition has unless told otherwise. -/
def defaultMaxRows : Int := 300

/-- The definitions of a file from its tree. -/
def extract (lang : Language) (content path : String) (maxRows : Int) (tree : Node) :
    Except Failure Extraction :=
  (walk ⟨lang, path, Text.rows content.toList, maxRows⟩ tree ⟨.empty, []⟩).map (·.found)

end CodeAtlas.Ingest
