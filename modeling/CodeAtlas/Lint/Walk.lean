import CodeAtlas.Lint.Scope

/-! Following the names of a source: what is known on the way, and what becomes of a name
that is bound, read or deleted. -/

namespace CodeAtlas.Lint

open Script

/-- Whether a type is being read, and if so whether from a text. -/
inductive TypeContext where
  | off
  | text
  | bare
  deriving Repr, DecidableEq

/-- What surrounds the node that is visited. -/
structure Context where
  outer : Site
  /-- Number of nodes that the walk has gone down since it set out. -/
  depth : Nat
  /-- The innermost scope, and the others that are visible. -/
  scope : Nat
  beyond : List Nat
  types : TypeContext
  /-- The node belongs to a text with embedded expressions. -/
  inText : Bool
  /-- Exceptions that are handled where the node stands. -/
  handled : List String
  /-- The place of everything in a type that was written as a text. -/
  pinned : Option Position

/-- Visible scopes, innermost first. -/
def Context.stack (c : Context) : List Nat := c.scope :: c.beyond

/-- Work put off until the rest of the source has been seen. -/
inductive Task where
  /-- The body of a function. -/
  | body
  /-- A type written as a text, with the place of the text. -/
  | textType (points : List Nat) (position : Position)
  | type (e : Expr)

/-- A task is done for a node, with the scopes that were visible when it was put off. -/
structure Deferred where
  task : Task
  context : Context

structure Names where
  scopes : Array Scope
  bindings : Array Binding
  /-- Scopes that have been left, newest first. -/
  left : List Nat
  /-- Tasks in order, and those that have arrived since, newest first. -/
  waiting : List Deferred
  arrived : List Deferred
  /-- Reports so far, newest first. -/
  reports : List Report
  /-- Number of nodes visited. -/
  visited : Nat
  /-- Only notes and imports have been seen so far. -/
  atStart : Bool
  /-- Types are not evaluated. -/
  futureTypes : Bool
  /-- The name of the file, without its folders. -/
  file : String

abbrev Walk := StateT Names (Except Trouble)

/-! ### Looking up -/

namespace Names

def scope (s : Names) (i : Nat) : Scope := s.scopes.getD i (.ofKind .module)

def binding? (s : Names) (scope : Nat) (name : String) : Option Binding :=
  ((s.scope scope).get? name).bind (s.bindings[·]?)

def kind? (s : Names) (n : Nat) : Option Kind := (s.bindings[n]?).map Binding.kind

/-- The first binding of a name, with its scope and number. -/
def visible? (s : Names) (c : Context) (name : String) : Option (Nat × Nat × Binding) :=
  c.stack.findSome? fun i => do
    let n ← (s.scope i).get? name
    let b ← s.bindings[n]?
    pure (i, n, b)

end Names

def kindOf (c : Context) : Walk ScopeKind := do
  pure ((← get).scope c.scope).kind

def modifyScope (i : Nat) (f : Scope → Scope) : Walk Unit :=
  modify fun s => { s with scopes := s.scopes.modify i f }

def modifyBinding (n : Nat) (f : Binding → Binding) : Walk Unit :=
  modify fun s => { s with bindings := s.bindings.modify n f }

def report (position : Position) (finding : Finding) : Walk Unit :=
  modify fun s => { s with reports := ⟨position, finding⟩ :: s.reports }

/-- Enter a new binding under its name in a scope. -/
def enterBinding (scope : Nat) (b : Binding) : Walk Unit := do
  let n := (← get).bindings.size
  modify fun s => { s with bindings := s.bindings.push b }
  modifyScope scope (·.put b.name n)

/-- Run with a new innermost scope, which is left afterwards. -/
def inScope (c : Context) (kind : ScopeKind) (body : Context → Walk Unit) : Walk Unit := do
  let i := (← get).scopes.size
  modify fun s => { s with scopes := s.scopes.push (.ofKind kind) }
  body { c with scope := i, beyond := c.stack }
  modify fun s => { s with left := i :: s.left }

/-- Put a task off; it is done in the scopes that are visible now. -/
def defer (c : Context) (task : Task) : Walk Unit :=
  let later := { c with depth := 0, types := .off, inText := false, handled := [] }
  modify fun s => { s with arrived := ⟨task, later⟩ :: s.arrived }

def typingModules : List String := ["typing", "typing_extensions"]

/-- The member of the typing library that an expression names. -/
def typingMember? (s : Names) (c : Context) : Expr → Option String
  | .name _ _ id =>
    match s.visible? c id with
    | some (_, _, ⟨_, .imported ⟨.member module member, _, _⟩, _, _, _⟩) =>
      if typingModules.contains module then some member else none
    | _ => none
  | .attribute _ _ (.name _ _ id) attr =>
    match s.visible? c id with
    | some (_, _, ⟨_, .imported i, _, _, _⟩) =>
      if typingModules.contains i.fullName then some attr else none
    | _ => none
  | _ => none

/-! ### Binding -/

/-- One of several variants of a function, of which only the types count. -/
def isOverload (s : Names) (c : Context) (b : Binding) : Bool :=
  match b.source.bind (·.node?) with
  | some (.stmt (.function _ _ _ _ _ decorators _)) =>
    decorators.any fun d => typingMember? s c d == some "overload"
  | _ => false

/-- What binding a name anew means for the binding that was visible so far. -/
def noteRedefinition (c : Context) (site : Site) (new : Binding) : Walk Unit := do
  let s ← get
  match s.visible? c new.name, new.source with
  | some (scope, n, old), some source =>
    match old.kind, old.source with
    | .builtin, _ | _, none => pure ()
    | _, some oldSource =>
      if site.exclude oldSource then pure ()
      else
        let around ← source.around
        if old.isImport && around.is isLoop then
          report site.position (.shadowedImport new.name old.line)
        else if scope == c.scope then
          if old.used.isNone && new.redefines old && (new.name != "_" || old.isImport) &&
              !isOverload s c old then
            report site.position (.redefinition new.name old.line)
        else if old.isImport && new.redefines old then
          modifyBinding n fun b => { b with redefined := b.redefined ++ [site] }
  | _, _ => pure ()

/-- The innermost scope that is not a generator's. -/
def outsideGenerators (s : Names) : List Nat → Nat
  | [] => 0
  | i :: rest => if (s.scope i).kind = .generator then outsideGenerators s rest else i

/-- Bind a name. One bound before in the same scope hands on whether it was used, and a declared
type does not replace a value. -/
def declare (c : Context) (site : Site) (b : Binding) : Walk Unit := do
  noteRedefinition c site b
  let s ← get
  let before := s.binding? c.scope b.name
  let b : Binding :=
    match before with
    | some old => { b with used := old.used }
    | none => b
  match b.kind, before with
  | .typeNote, some _ => pure ()
  | .inline, _ => enterBinding (outsideGenerators s c.stack) b
  | _, _ => enterBinding c.scope b

def exportedTexts (items : List Expr) : List (List Nat) :=
  items.filterMap fun e =>
    match e with
    | .constant _ (.text points) => some points
    | _ => none

/-- The names in an export list, also one put together from several. -/
def exportedNames : Expr → List (List Nat)
  | .list _ _ items | .tuple _ _ items => exportedTexts items
  | .binary _ _ left (.list _ _ items) | .binary _ _ left (.tuple _ _ items) =>
    exportedTexts items ++
      match left with
      | .list _ _ _ | .tuple _ _ _ | .binary _ _ _ _ => exportedNames left
      | _ => []
  | _ => []

/-- The export list that a statement makes of what it assigns; one that extends the list needs
one to extend. -/
def exportsOf (c : Context) : Node → Walk (Option (List (List Nat)))
  | .stmt (.assign _ _ value) => pure (some (exportedNames value))
  | .stmt (.annotate _ _ _ value) => pure (some ((value.map exportedNames).getD []))
  | .stmt (.augment _ _ value) => do
    match (← get).binding? c.scope "__all__" with
    | none => pure (some (exportedNames value))
    | some ⟨_, .exports names, _, _, _⟩ => pure (some (names ++ exportedNames value))
    | some _ => throw .notExports
  | _ => pure none

/-- Every target is a collection, and so is what is assigned to it. -/
def isSpread : Node → Bool
  | .stmt (.assign _ targets value) =>
    (value :: targets).all fun e =>
      match e with
      | .tuple _ _ _ | .list _ _ _ | .set _ _ => true
      | _ => false
  | _ => false

/-- A local variable may not be read before its assignment, under a name that was taken for one
of an outer scope. -/
def noteEarlyUse (c : Context) (name : String) : Walk Unit := do
  let s ← get
  let own := s.scope c.scope
  if own.kind = .function && !own.has name && !own.exempt.contains name then
    let seen := c.beyond.reverse.findSome? fun i => do
      if (s.scope i).kind = .function || (s.scope i).kind = .module then
        let b ← s.binding? i name
        let (from', position) ← b.used
        if from' == c.scope then some (position, b) else none
      else none
    match seen with
    | some (position, b) => report position (.earlyUse name (b.source.map (·.position.line)))
    | none => pure ()

/-- A name is assigned to: what is bound depends on the node around. -/
def store (c : Context) (site : Site) (name : String) : Walk Unit := do
  noteEarlyUse c name
  let around ← site.around
  let isBare : Node → Bool := fun n =>
    match n with
    | .stmt (.annotate _ _ _ none) => true
    | _ => false
  let isCycle : Node → Bool := fun n =>
    match n with
    | .stmt (.loop _ _ _ _ _) | .generator _ => true
    | _ => false
  let isInline : Node → Bool := fun n =>
    match n with
    | .expr (.assigned _ _ _) => true
    | _ => false
  if around.is isBare then declare c site ⟨name, .typeNote, site, none, []⟩
  else if around.is isCycle || (site.outer.is isSheer && !around.is isSpread) then
    declare c site ⟨name, .plain, site, none, []⟩
  else
    let exported ←
      if name == "__all__" && (← kindOf c) = .module then
        match site.outer.node? with
        | some n => exportsOf c n
        | none => pure none
      else pure none
    match exported with
    | some names => declare c site ⟨name, .exports names, site.outer, none, []⟩
    | none =>
      let kind := if around.is isInline then Kind.inline else .assignment
      declare c site ⟨name, kind, site, none, []⟩

/-! ### Reading -/

/-- How the search for a name goes on. -/
structure Search where
  /-- Whether the scopes so far were those of generators; unknown before the first. -/
  inGenerators : Option Bool
  starred : Bool

/-- Mark a binding as used, and a module that is known by its own name as well. -/
def useBinding (c : Context) (position : Position) (scope n : Nat) (name : String) : Walk Unit := do
  modifyBinding n fun b => { b with used := some (c.scope, position) }
  let s ← get
  match s.kind? n with
  | some (.imported i) =>
    if i.aliased name then
      match (s.scope scope).get? i.fullName with
      | some m => modifyBinding m fun b => { b with used := some (c.scope, position) }
      | none => pure ()
  | _ => pure ()

/-- Look for a name scope by scope, and mark its binding as used. Names of a class are seen only
from its own body and from generators in it; a declared type without a value is used, but the
search goes on. If nothing is found, the answer says whether some module was imported whole. -/
def useFrom (c : Context) (position : Position) (name : String) (shifted : Bool) :
    List Nat → Search → Walk (Option Bool)
  | [], found => pure (some found.starred)
  | i :: rest, found => do
    let s ← get
    let scope := s.scope i
    if scope.kind = .classBody && name == "__class__" then pure none
    else if scope.kind = .classBody && found.inGenerators == some false then
      useFrom c position name shifted rest found
    else
      match scope.get? name with
      | some n =>
        match s.kind? n with
        | some .typeNote =>
          if c.types = .text || s.futureTypes then do
            useBinding c position i n name
            pure none
          else do
            modifyBinding n fun b => { b with used := some (c.scope, position) }
            useFrom c position name shifted rest found
        | kind =>
          match kind with
          | some .builtin => if name == "print" && shifted then report position .shiftedPrint
          | _ => pure ()
          useBinding c position i n name
          pure none
      | none =>
        let inGenerators :=
          if found.inGenerators == some false then found.inGenerators
          else some (scope.kind = .generator)
        useFrom c position name shifted rest ⟨inGenerators, found.starred || scope.starred⟩

/-- Modules imported whole into the visible scopes; each counts as used. -/
def useStars (c : Context) (position : Position) : Walk (List String) := do
  let s ← get
  let stars := c.stack.flatMap fun i =>
    (s.scope i).names.filterMap fun (_, n) =>
      match s.bindings[n]? with
      | some b =>
        match b.kind with
        | .imported imp => if imp.form == .star then some (n, imp.fullName) else none
        | _ => none
      | none => none
  stars.forM fun (n, _) => modifyBinding n fun b => { b with used := some (c.scope, position) }
  pure ((stars.map (·.2)).mergeSort fun a b => !(b < a))

/-- A name is read. -/
def load (c : Context) (position : Position) (name : String) (shifted : Bool) : Walk Unit := do
  match ← useFrom c position name shifted c.stack ⟨none, false⟩ with
  | none => pure ()
  | some true =>
    let modules ← useStars c position
    report position (.perhapsImported (name.toList.map Char.toNat) modules)
  | some false =>
    if name == "__path__" && (← get).file == "__init__.py" then pure ()
    else if (name == "__module__" || name == "__qualname__") && (← kindOf c) = .classBody then
      pure ()
    else if c.handled.contains "NameError" then pure ()
    else report position (.undefinedName name)

/-! ### Deleting -/

/-- A name is forgotten if it is certain that it is deleted. -/
def delete (c : Context) (site : Site) (name : String) : Walk Unit := do
  if site.conditional then pure ()
  else
    let scope := (← get).scope c.scope
    if scope.kind = .function && scope.exempt.contains name then
      modifyScope c.scope fun s => { s with exempt := s.exempt.filter (· != name) }
    else if scope.has name then modifyScope c.scope (·.erase name)
    else report site.position (.undefinedName name)

/-- Names declared to belong to an outer scope. They are bound in every scope but the outermost,
there only if they are new, and count as used; that they were undefined is taken back. -/
def bindOuter (c : Context) (site : Site) (names : List String) : Walk Unit := do
  match c.stack.reverse with
  | [] | [_] => pure ()
  | top :: inner =>
    names.forM fun name => do
      let n := (← get).bindings.size
      modify fun s => { s with
        bindings := s.bindings.push ⟨name, .plain, site, some (top, site.position), []⟩
        reports := s.reports.filter fun r =>
          match r.finding with
          | .undefinedName other => other != name
          | _ => true }
      modifyScope top fun s => if s.has name then s else s.put name n
      inner.forM fun i => modifyScope i (·.put name n)

end CodeAtlas.Lint
