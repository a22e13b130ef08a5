import CodeAtlas.Lint.Walk

/-! What is left to say about a scope once everything has been seen: names that were bound and
never used, and exports that are not bound. -/

namespace CodeAtlas.Lint

/-- A scope as it was left, with the bindings of its names. -/
structure Final where
  scope : Scope
  bindings : List (String × Binding)
  /-- The name of the file, without its folders. -/
  file : String

namespace Final

def ofScope (s : Names) (i : Nat) : Final :=
  let scope := s.scope i
  ⟨scope, scope.names.filterMap fun (name, n) => (s.bindings[n]?).map fun b => (name, b), s.file⟩

def unusedNames (f : Final) (test : Binding → Bool) (finding : String → Finding) : List Report :=
  f.bindings.filterMap fun (name, b) =>
    if b.used.isNone && test b then
      b.source.map fun site => ⟨site.position, finding name⟩
    else none

/-- Local variables of a function that are assigned and never used. -/
def unusedVariables (f : Final) : List Report :=
  if f.scope.usesLocals then []
  else
    f.unusedNames (fun b => b.isAssignment && b.name != "_" && !f.scope.exempt.contains b.name)
      .unusedVariable

/-- Names of a function that have a type and no value, and are never used. -/
def unusedTypeNotes (f : Final) : List Report :=
  f.unusedNames (fun b => match b.kind with | .typeNote => true | _ => false) .unusedTypeNote

/-- The names that a scope exports, and the place of the list. -/
def exports (f : Final) : List (List Nat) × Position :=
  match f.bindings.lookup "__all__" with
  | some ⟨_, .exports names, some source, _, _⟩ => (names, source.position)
  | _ => ([], ⟨1, 0⟩)

def points (name : String) : List Nat := name.toList.map Char.toNat

/-- Exports that are not bound. -/
def missingExports (f : Final) : List (List Nat) :=
  f.exports.1.filter fun name => !f.bindings.any fun (n, _) => points n == name

/-- Modules imported whole. -/
def stars (f : Final) : List String :=
  (f.bindings.filterMap fun (_, b) =>
    match b.kind with
    | .imported i => if i.form == .star then some i.fullName else none
    | _ => none).mergeSort fun a b => !(b < a)

/-- Exports that are not bound are reported, unless the file stands for a package; where a
module was imported whole, they may come from it. -/
def exportReports (f : Final) : List Report :=
  let position := f.exports.2
  if f.scope.starred then
    f.missingExports.map fun name => ⟨position, .perhapsImported name f.stars⟩
  else if f.file == "__init__.py" then []
  else f.missingExports.map fun name => ⟨position, .undefinedExport name⟩

/-- Whether an import is used, be it only as an export. -/
def isUsed (f : Final) (b : Binding) : Bool :=
  b.used.isSome || f.exports.1.contains (points b.name) ||
    (b.isStar && f.scope.starred && !f.missingExports.isEmpty)

/-- An import that is bound anew in scopes further in. -/
def redefinitionReport (f : Final) (b : Binding) (site : Site) :
    Except Trouble (Option Report) := do
  let around ← site.around
  if around.is isLoop then pure (some ⟨site.position, .shadowedImport b.name b.line⟩)
  else if f.isUsed b then pure none
  else pure (some ⟨site.position, .redefinition b.name b.line⟩)

def importReports (f : Final) (b : Binding) : Except Trouble (List Report) :=
  match b.kind, b.source with
  | .imported i, some source => do
    let unused : List Report :=
      if f.isUsed b then [] else [⟨source.position, .unusedImport i.shown⟩]
    let redefined ← b.redefined.mapM (f.redefinitionReport b)
    pure (unused ++ redefined.filterMap id)
  | _, _ => pure []

/-- All reports on a scope; imports of a class are members of it. -/
def reports (f : Final) : Except Trouble (List Report) := do
  if f.scope.kind = .classBody then pure []
  else
    let own := if f.scope.kind = .function then f.unusedVariables ++ f.unusedTypeNotes else []
    let imports ← f.bindings.mapM fun (_, b) => f.importReports b
    pure (own ++ f.exportReports ++ imports.flatten)

end Final

/-- Reports on all scopes in the order in which they were left. -/
def leftovers (s : Names) : Except Trouble (List Report) := do
  let reports ← (s.left.reverse).mapM fun i => (Final.ofScope s i).reports
  pure reports.flatten

end CodeAtlas.Lint
