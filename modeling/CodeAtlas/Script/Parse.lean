import CodeAtlas.Script.Grammar.Table
import CodeAtlas.Script.Node

/-! Reading Python source. A source that is not accepted is read a second time in search
of the words for what is wrong with it. -/

namespace CodeAtlas.Script

open Grammar

/-- The most levels that a reading may go down. -/
def maxLevels : Nat := 6000

/-- Read a source from a rule, with an embedded reader. -/
def readFrom (start : Rule) (source : Source)
    (embed : List Char → Nat → Nat → Except Fault Expr) : Except Fault Value :=
  let scanned := scan source
  let set : Setting := ⟨source, scanned, production, embed⟩
  let instead := fun (fault : Fault) (seen : Nat) =>
    (source.laterFault? scanned (set.tokenAt (seen - 1)).line).getD fault
  /- A fault that was found before the scanner came to an end can give way to one of the
  scanner's. -/
  let told := fun (fault : Fault) (seen : Nat) =>
    let last := set.tokenAt (seen - 1)
    if last.kind == .finish || last.kind == .broken then fault
    else
      match fault with
      | .malformed _ _ => instead fault seen
      | fault => fault
  match set.read maxLevels (.rule start) ⟨0, 0, false, {}⟩ with
  | .fault fault seen => .error (told fault seen)
  | .answer (some v) _ => .ok v
  | .answer none s =>
    let last := set.tokenAt (s.seen - 1)
    match set.read maxLevels (.rule start) ⟨0, s.seen, true, {}⟩ with
    | .fault fault seen => .error (told fault seen)
    | .answer _ s =>
      let latest := set.tokenAt (s.seen - 1)
      if last.kind == .indent then .error (source.faultAt latest "unexpected indent")
      else if last.kind == .dedent then .error (source.faultAt latest "unexpected unindent")
      else
        .error (instead (source.fault latest.reached "invalid syntax" last.line (last.col + 1))
          s.seen)

/-- Read an embedded expression, `fuel` texts deep at most. -/
def readEmbedded : Nat → List Char → Nat → Nat → Except Fault Expr
  | 0, _, _, _ => .error .tooDeep
  | fuel + 1, cs, line, col =>
    (readFrom .embedded ⟨normalize cs, line, col, true⟩ (readEmbedded fuel)).map Value.asExpr

/-- The most levels that the tree of a statement may have. -/
def maxHeight : Nat := 2978

/-- The statements of a source. -/
def parse (code : List Char) : Except Fault (List Stmt) :=
  if code.contains '\x00' then
    .error (.malformed "source code string cannot contain null bytes" none)
  else
    match readFrom .file ⟨normalize code, 1, 0, false⟩ (readEmbedded (code.length + 1)) with
    | .error fault => .error fault
    | .ok v =>
      if v.stmts.all fun s => (Node.stmt s).fits maxHeight then .ok v.stmts else .error .tooTall

end CodeAtlas.Script
