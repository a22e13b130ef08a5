import CodeAtlas.Issue.Shape
import CodeAtlas.Lint.Listing
import CodeAtlas.Text.Blank
import CodeAtlas.Text.Pattern
import CodeAtlas.Text.Rows
import CodeAtlas.Text.Search

/-! Imports and variables that are never used. -/

namespace CodeAtlas.Issue

/-! ### From a lint listing -/

/-- The row named between the first two colons of a line of a listing. -/
def listedLine (row : List Char) : Except Failure Int :=
  match Text.splitAt ':' row with
  | _ :: number :: _ =>
    match Text.readInt (String.ofList number) with
    | .ok n => .ok n
    | .error e => .error (.unreadableNumber e)
  | _ => .error .outOfRange

/-- The issue in one line of a listing, if it holds one. -/
def listed? (row : List Char) : Except Failure (Option Issue) :=
  let issue := fun isVariable =>
    (listedLine row).map fun n =>
      some ⟨.python, .listed isVariable (String.ofList (Text.strip row)) n⟩
  if Text.occurs "assigned to but never used".toList row then issue true
  else if Text.occurs "imported but unused".toList row then issue false
  else .ok none

/-- The issues in a listing; the first line that cannot be read fails. -/
def listedIn : List (List Char) → Except Failure (List Issue)
  | [] => .ok []
  | row :: rest =>
    match listed? row with
    | .error e => .error e
    | .ok issue => (listedIn rest).map (issue.toList ++ ·)

def ofListing (listing : String) : Except Failure (List Issue) :=
  listedIn (Text.rows listing.toList)

/-- Why a source cannot be listed, among the failures of an operation. -/
def listingFailure : Lint.NoListing → Failure
  | .noRow => .outOfRange
  | .trouble .notExports => .noMember "Binding" "names"
  | .trouble (.adrift kind) => .noMember kind "_pyflakes_parent"
  | .trouble .misplacedFuture => .unmetAssumption
  | .trouble (.halfPair point place) => .unencodable point place
  | .trouble (.unreadable .tooDeep) => .exhausted
  | .trouble (.unreadable .untold) => .untold
  | .trouble .tooDeep | .trouble (.unreadable _) => .tooDeep

/-- The listing for a Python source. -/
def lint (file code : String) : Except Failure String :=
  (Lint.listing file code).mapError listingFailure

/-! ### From rows and trees -/

/-- An import of one class: the word, a dotted name and a semicolon. -/
def importPattern : Text.Pattern :=
  .sequence [.text "import".toList, .several (.one Text.isBlank),
    .several (.one fun c => Text.isWord c || c == '.'), .text [';']]

/-- The dotted name that a row imports. -/
def imported? (row : List Char) : Option (List Char) :=
  (importPattern.matchAt? (Text.Spot.startOf (Text.strip row))).map fun m =>
    (Text.dropBlanks (m.matched.drop 6)).dropLast

/-- Set the row of a name: one that is known keeps its place. -/
def setLine (name : String) (line : Nat) (known : List (String × Nat)) : List (String × Nat) :=
  if known.any (·.1 == name) then known.map fun e => if e.1 == name then (name, line) else e
  else known ++ [(name, line)]

/-- Imports with the last row on which each stands. -/
def importsFrom (line : Nat) (known : List (String × Nat)) :
    List (List Char) → List (String × Nat)
  | [] => known
  | row :: rest =>
    match imported? row with
    | some name => importsFrom (line + 1) (setLine (String.ofList name) line known) rest
    | none => importsFrom (line + 1) known rest

/-- A class is used where its short name occurs in a row that is no import. -/
def usesClass (rows : List (List Char)) (name : String) : Bool :=
  let short := Text.afterLast '.' name.toList
  rows.any fun row => Text.occurs short row && !"import ".toList.isPrefixOf (Text.strip row)

def unusedImports (code : String) : List Issue :=
  let rows := Text.rows code.toList
  (importsFrom 1 [] rows).filterMap fun (name, line) =>
    if usesClass rows name then none else some ⟨.java, .unusedImport name line⟩

/-- What the variables of methods come to: names declared, with the row of the last
declaration, and names used. -/
structure Locals where
  declared : List (String × Nat)
  used : List String

/-- The names that a declaration declares, row and all. -/
def declareAll (line : Nat) : List Node → Locals → Except Failure Locals
  | [], l => .ok l
  | n :: rest, l =>
    if n.kind = "variable_declarator" then
      match n.child? "name" with
      | none => declareAll line rest l
      | some name =>
        match name.text with
        | .error e => .error (.undecodable e)
        | .ok s => declareAll line rest { l with declared := setLine s line l.declared }
    else declareAll line rest l

/-- What one node inside a method adds. -/
def noteLocal (n : Node) (l : Locals) : Except Failure Locals := do
  let l ←
    if n.kind = "local_variable_declaration" then declareAll (n.first + 1) n.children l else pure l
  if n.kind = "identifier" ∨ n.kind = "type_identifier" then
    match n.text with
    | .error e => .error (.undecodable e)
    | .ok s => pure { l with used := s :: l.used }
  else pure l

mutual

/-- Walk a tree, noting what stands inside methods. -/
def localsFrom (inMethod : Bool) : Node → Locals → Except Failure Locals
  | .mk kind first last text roles children, l => do
    let inMethod := inMethod || kind == functionKind .java
    let l ← if inMethod then noteLocal (.mk kind first last text roles children) l else pure l
    localsAll inMethod children l

def localsAll (inMethod : Bool) : List Node → Locals → Except Failure Locals
  | [], l => .ok l
  | n :: rest, l => do
    let l ← localsFrom inMethod n l
    localsAll inMethod rest l

end

def unusedLocals (tree : Node) : Except Failure (List Issue) :=
  (localsFrom false tree ⟨[], []⟩).map fun l =>
    l.declared.filterMap fun (name, line) =>
      if l.used.contains name then none else some ⟨.java, .unusedVariable name line⟩

/-- Unused imports of Java code, then unused variables of its methods. -/
def unusedNames (tree : Node) (code : String) : Except Failure (List Issue) :=
  (unusedLocals tree).map (unusedImports code ++ ·)

end CodeAtlas.Issue
