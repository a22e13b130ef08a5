import CodeAtlas.Ingest.Definition
import CodeAtlas.Proofs.Outcome

/-! The walk over a tree without its state. The walk keeps a stack of the definitions that it is
inside of and adds to what it has found. Here a node is given only the id of the definition around
it, and gives back what is found at and below it. Both come to the same: the top of the stack is
that id wherever the walk gets, and a node leaves the stack as it was. -/

namespace CodeAtlas.Ingest

def Extraction.append (a b : Extraction) : Extraction :=
  ⟨a.definitions ++ b.definitions, a.calls ++ b.calls, a.usages ++ b.usages⟩

theorem Extraction.empty_append (a : Extraction) : Extraction.empty.append a = a := rfl

theorem Extraction.append_empty (a : Extraction) : a.append .empty = a := by
  simp [Extraction.append, Extraction.empty]

theorem Extraction.append_assoc (a b c : Extraction) :
    (a.append b).append c = a.append (b.append c) := by
  simp [Extraction.append]

/-- What a node itself contributes, given the definition around it. -/
def contribution (src : Source) (owner : Option String) (d : Option Definition) (n : Node) :
    Except Failure Extraction :=
  match (d.map (·.id)).or owner with
  | none => .ok ⟨d.toList, [], []⟩
  | some owner => do
    let calls ← callsAt src.language owner n
    let usages ← usagesAt src.language owner n
    pure ⟨d.toList, calls, usages⟩

mutual

/-- Everything at and below a node. -/
def extractFrom (src : Source) (owner : Option String) : Node → Except Failure Extraction
  | .mk kind first last text roles children => do
    let n : Node := .mk kind first last text roles children
    let d := definitionAt? src owner n
    let own ← contribution src owner d n
    let below ← extractAll src ((d.map (·.id)).or owner) children
    pure (own.append below)

def extractAll (src : Source) (owner : Option String) : List Node → Except Failure Extraction
  | [] => .ok .empty
  | n :: rest => do
    let a ← extractFrom src owner n
    let b ← extractAll src owner rest
    pure (a.append b)

end

variable {src : Source}

/-! ### One node -/

/-- Inside of a definition the call and the use at a node are noted for it. -/
theorem note_cons (lang : Language) (n : Node) (found : Extraction) (owner : String)
    (scopes : List String) :
    (Walk.noteCalls lang n ⟨found, owner :: scopes⟩ >>= Walk.noteUsages lang n) = (do
      let calls ← callsAt lang owner n
      let usages ← usagesAt lang owner n
      pure ⟨found.append ⟨[], calls, usages⟩, owner :: scopes⟩) := by
  simp only [Walk.noteCalls]
  cases callsAt lang owner n with
  | error e => rfl
  | ok calls =>
    change Walk.noteUsages lang n ⟨_, owner :: scopes⟩ = _
    simp only [Walk.noteUsages, ok_bind]
    cases usagesAt lang owner n with
    | error e => rfl
    | ok usages => simp [Extraction.append]

/-- What a visit finds is what the node contributes inside of the definition on top of the stack.
It leaves the definition at the node on the stack. -/
theorem visit_eq (n : Node) (w : Walk) : visit src n w =
    (contribution src w.scopes.head? (definitionAt? src w.scopes.head? n) n).map fun own =>
      ⟨w.found.append own,
        ((definitionAt? src w.scopes.head? n).map (·.id)).toList ++ w.scopes⟩ := by
  obtain ⟨found, scopes⟩ := w
  rw [visit, contribution]
  cases definitionAt? src scopes.head? n with
  | some d =>
    change (Walk.noteCalls src.language n ⟨_, d.id :: scopes⟩ >>= _) = _
    rw [note_cons]
    simp only [Option.map_some, Option.some_or]
    cases callsAt src.language d.id n with
    | error e => rfl
    | ok calls =>
      cases usagesAt src.language d.id n with
      | error e => rfl
      | ok usages => simp [ok_bind, pure, Except.pure, map_ok, Extraction.append]
  | none =>
    cases scopes with
    | nil =>
      change Except.ok (⟨found, []⟩ : Walk) = .ok ⟨found.append .empty, []⟩
      rw [Extraction.append_empty]
    | cons owner scopes =>
      change (Walk.noteCalls src.language n ⟨found, owner :: scopes⟩ >>= _) = _
      rw [note_cons]
      simp only [Option.map_none, Option.none_or, List.head?_cons]
      cases callsAt src.language owner n with
      | error e => rfl
      | ok calls =>
        cases usagesAt src.language owner n with
        | error e => rfl
        | ok usages => rfl

theorem head?_toList_append (a : Option String) (scopes : List String) :
    (a.toList ++ scopes).head? = a.or scopes.head? := by
  cases a <;> rfl

/-- What was entered at a node is what is left after its children. -/
theorem Walk.leave_entered (found : Extraction) (d : Option Definition) (scopes : List String) :
    Walk.leave ⟨found, (d.map (·.id)).toList ++ scopes⟩ d = ⟨found, scopes⟩ := by
  cases d <;> rfl

/-! ### Whole trees -/

mutual

/-- The walk finds what the node alone gives for the id on top of the stack, and leaves the stack
as it was. -/
theorem walk_eq (n : Node) (w : Walk) : walk src n w =
    (extractFrom src w.scopes.head? n).map fun x => ⟨w.found.append x, w.scopes⟩ :=
  match n with
  | .mk kind first last text roles children => by
    rw [walk, visit_eq, extractFrom]
    generalize definitionAt? src w.scopes.head? _ = d
    cases contribution src w.scopes.head? d (.mk kind first last text roles children) with
    | error e => rfl
    | ok own =>
      simp only [map_ok, ok_bind, walkAll_eq, head?_toList_append]
      cases extractAll src ((d.map (·.id)).or w.scopes.head?) children with
      | error e => rfl
      | ok below =>
        rw [map_ok, ok_bind, ok_bind, Walk.leave_entered, Extraction.append_assoc]
        rfl

theorem walkAll_eq (ns : List Node) (w : Walk) : walkAll src ns w =
    (extractAll src w.scopes.head? ns).map fun x => ⟨w.found.append x, w.scopes⟩ :=
  match ns with
  | [] => by
    rw [walkAll, extractAll, map_ok, Extraction.append_empty]
  | n :: rest => by
    rw [walkAll, walk_eq, extractAll]
    cases extractFrom src w.scopes.head? n with
    | error e => rfl
    | ok a =>
      rw [map_ok, ok_bind, ok_bind, walkAll_eq]
      cases extractAll src w.scopes.head? rest with
      | error e => rfl
      | ok b =>
        rw [map_ok, ok_bind, Extraction.append_assoc]
        rfl

end

theorem extract_eq_extractFrom (lang : Language) (content path : String) (maxRows : Int)
    (tree : Node) : extract lang content path maxRows tree =
      extractFrom ⟨lang, path, Text.rows content.toList, maxRows⟩ none tree := by
  rw [extract, walk_eq]
  change ((extractFrom _ none tree).map _).map _ = _
  cases extractFrom ⟨lang, path, Text.rows content.toList, maxRows⟩ none tree with
  | error e => rfl
  | ok x => rfl

end CodeAtlas.Ingest
