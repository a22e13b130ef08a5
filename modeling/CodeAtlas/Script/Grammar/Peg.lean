import CodeAtlas.Script.Grammar.Rule
import CodeAtlas.Script.Grammar.Value
import CodeAtlas.Text.Normal
import Std.Data.HashMap

/-! Grammars in which the alternatives of a rule are tried in order, and their reading.

Reading goes by levels: every rule, loop and group is a level below the one that uses it,
and there is a bound on the number of levels. What a rule has made of a position can be
kept, which also lets a rule begin with itself: its value is then grown until it covers no
more of the source. -/

namespace CodeAtlas.Script.Grammar

mutual

/-- A part of a production. -/
inductive Peg where
  | rule (r : Rule)
  /-- A token of a kind. -/
  | kind (k : TokenKind)
  /-- A keyword, or a name that is one only here. -/
  | word (w : String)
  | mark (m : String)
  /-- A name with which a word begins that is a keyword somewhere. -/
  | softWord
  | optional (p : Peg)
  | many (p : Peg)
  | several (p : Peg)
  | separated (separator element : Peg)
  | group (alternatives : List Alternative)
  | ahead (p : Peg)
  | notAhead (p : Peg)
  /-- A mark whose absence is a fault. -/
  | required (m : String)
  /-- From here on no other alternative is tried. -/
  | commit

/-- Parts in a row and what is made of them. A misuse is tried only in search of a
fault. -/
inductive Alternative where
  | mk (isMisuse : Bool) (parts : List Peg) (act : Act)

end

/-- How often a rule is read at a position. -/
inductive Keeping where
  | fresh
  | kept
  /-- The rule begins with itself. -/
  | grown
  deriving DecidableEq

structure Production where
  keeping : Keeping
  /-- No misuse is looked for inside. -/
  quiet : Bool
  alternatives : List Alternative

/-- What is one level below. -/
inductive Call where
  | rule (r : Rule)
  | body (r : Rule)
  | group (alternatives : List Alternative)
  | many (p : Peg)
  | several (p : Peg)
  | separated (separator element : Peg)
  | afterFirst (separator element : Peg)

/-- What a reading needs throughout. -/
structure Setting where
  source : Source
  scanned : Scanned
  production : Rule → Production
  embed : List Char → Nat → Nat → Except Fault Expr

structure State where
  pos : Nat
  /-- Number of tokens that have been looked at. -/
  seen : Nat
  misuses : Bool
  kept : Std.HashMap (Nat × Rule) (Option Value × Nat)

inductive Outcome where
  | fault (f : Fault) (seen : Nat)
  | answer (v : Option Value) (s : State)

abbrev Reading := Call → State → Outcome

/-- The token at a position; after the end there is nothing but the end. -/
def Setting.tokenAt (set : Setting) (n : Nat) : Token :=
  set.scanned.tokens.getD n (set.scanned.tokens.back?.getD default)

/-- Look at the token that comes next. -/
def Setting.look (set : Setting) (s : State) (k : Token → State → Outcome) : Outcome :=
  let t := set.tokenAt s.pos
  if s.pos < s.seen then k t s
  else if t.kind == .broken then
    .fault (set.source.troubleFault set.scanned t) (s.pos + 1)
  else k t { s with seen := s.pos + 1 }

def Setting.scene (set : Setting) (first : Nat) (s : State) : Scene :=
  ⟨set.source, set.scanned.tokens, first, s.pos, s.seen, set.embed⟩

def failAt (s : State) : Outcome := .answer none s

def State.pass (s : State) (v : Value) : Outcome := .answer (some v) { s with pos := s.pos + 1 }

/-- A name, in the form in which names are compared. -/
def nameOf (t : Token) : Expr :=
  .name t.span .read (String.ofList (Text.Normal.normalize t.text.toList))

/-- The value of a number, unless it has too many digits. -/
def Setting.number (set : Setting) (t : Token) (s : State) : Outcome :=
  match Numeral.value t.text.toList with
  | .ok c => s.pass (.expr (.constant t.span c))
  | .error n =>
    let message := (Text.NumeralError.tooLong n).message ++
      " - Consider hexadecimal for huge integer literals to avoid decimal conversion limits."
    .fault (set.source.fault (set.tokenAt (s.seen - 1)).reached message t.line 0) s.seen

/-- Read one part of a production. -/
def Setting.part (set : Setting) (below : Reading) : Peg → State → Outcome
  | .rule r, s => below (.rule r) s
  | .kind k, s =>
    set.look s fun t s =>
      if t.kind != k then failAt s
      else
        match k with
        | .name => s.pass (.expr (nameOf t))
        | .number => set.number t s
        | _ => s.pass (.token t)
  | .word w, s =>
    set.look s fun t s =>
      if (t.kind == .keyword || t.kind == .name) && t.text == w then s.pass (.token t)
      else failAt s
  | .mark m, s =>
    set.look s fun t s => if t.kind == .mark && t.text == m then s.pass (.token t) else failAt s
  | .softWord, s =>
    set.look s fun t s =>
      if t.kind == .name && softKeywords.any (t.text.toList.isPrefixOf ·.toList) then
        s.pass (.token t)
      else failAt s
  | .optional p, s =>
    match set.part below p s with
    | .answer none s => .answer (some .nothing) s
    | outcome => outcome
  | .many p, s => below (.many p) s
  | .several p, s => below (.several p) s
  | .separated separator element, s => below (.separated separator element) s
  | .group alternatives, s => below (.group alternatives) s
  | .ahead p, s =>
    match set.part below p s with
    | .answer v after => .answer v { after with pos := s.pos }
    | outcome => outcome
  | .notAhead p, s =>
    match set.part below p s with
    | .answer v after =>
      .answer (if v.isSome then none else some .nothing) { after with pos := s.pos }
    | outcome => outcome
  | .required m, s =>
    set.look s fun t s =>
      if t.kind == .mark && t.text == m then s.pass (.token t)
      else
        .fault
          (set.source.fault (set.tokenAt (s.seen - 1)).reached ("expected '" ++ m ++ "'") t.line
            (t.col + 1)) s.seen
  | .commit, s => .answer (some .nothing) s

/-- Whether a part leaves a value behind. -/
def Peg.isSilent : Peg → Bool
  | .ahead _ | .notAhead _ | .commit => true
  | _ => false

/-- What comes of the parts of an alternative. -/
inductive Row where
  | fault (f : Fault) (seen : Nat)
  | fits (values : Fields) (s : State)
  | differs (committed : Bool) (s : State)

/-- Read parts one after another. -/
def Setting.row (set : Setting) (below : Reading) : List Peg → Bool → Fields → State → Row
  | [], _, values, s => .fits values.reverse s
  | p :: rest, committed, values, s =>
    match set.part below p s with
    | .fault f seen => .fault f seen
    | .answer none s => .differs committed s
    | .answer (some v) s =>
      let committed := committed || (match p with | .commit => true | _ => false)
      set.row below rest committed (if p.isSilent then values else v :: values) s

/-- Try alternatives in order, each from the same position. -/
def Setting.choose (set : Setting) (below : Reading) (first : Nat) :
    List Alternative → State → Outcome
  | [], s => failAt { s with pos := first }
  | .mk isMisuse parts act :: rest, s =>
    if isMisuse && !s.misuses then set.choose below first rest s
    else
      match set.row below parts false [] s with
      | .fault f seen => .fault f seen
      | .fits values s =>
        match act (set.scene first s) values with
        | .yields v => .answer (some v) s
        | .refuses => failAt s
        | .faults f => .fault f s.seen
      | .differs committed s =>
        let s := { s with pos := first }
        if committed then failAt s else set.choose below first rest s

/-- Read a part as often as it fits. -/
def Setting.repeated (set : Setting) (below : Reading) (p : Peg) :
    Nat → Fields → State → Outcome
  | 0, values, s => .answer (some (.list values.reverse)) s
  | fuel + 1, values, s =>
    let first := s.pos
    match set.part below p s with
    | .answer (some v) s => set.repeated below p fuel (v :: values) s
    | .answer none s => .answer (some (.list values.reverse)) { s with pos := first }
    | outcome => outcome

/-- Read a separator and an element as often as both fit. -/
def Setting.repeatedAfter (set : Setting) (below : Reading) (separator element : Peg) :
    Nat → Fields → State → Outcome
  | 0, values, s => .answer (some (.list values.reverse)) s
  | fuel + 1, values, s =>
    let first := s.pos
    let stop := fun (s : State) =>
      Outcome.answer (some (.list values.reverse)) { s with pos := first }
    match set.part below separator s with
    | .answer (some _) s =>
      match set.part below element s with
      | .answer (some v) s => set.repeatedAfter below separator element fuel (v :: values) s
      | .answer none s => stop s
      | outcome => outcome
    | .answer none s => stop s
    | outcome => outcome

/-- Grow the value of a rule that begins with itself. -/
def Setting.grow (set : Setting) (below : Reading) (r : Rule) (first : Nat) :
    Nat → Option Value → Nat → State → Outcome
  | 0, v, reach, s => .answer v { s with pos := reach }
  | fuel + 1, v, reach, s =>
    match below (.body r) { s with kept := s.kept.insert (first, r) (v, reach), pos := first } with
    | .fault f seen => .fault f seen
    | .answer w s =>
      if w.isNone || s.pos ≤ reach then .answer v { s with pos := reach }
      else set.grow below r first fuel w s.pos s

/-- Read with misuses left out, then look for them again if they were looked for. -/
def quietly (misuses : Bool) : Outcome → Outcome
  | .answer v s => .answer v { s with misuses := misuses }
  | outcome => outcome

/-- One level of reading, given the one below. -/
def Setting.level (set : Setting) (below : Reading) : Call → State → Outcome
  | .rule r, s =>
    let production := set.production r
    match production.keeping with
    | .fresh =>
      if production.quiet then
        quietly s.misuses
          (set.choose below s.pos production.alternatives { s with misuses := false })
      else set.choose below s.pos production.alternatives s
    | .kept =>
      set.look s fun _ s =>
        match s.kept[(s.pos, r)]? with
        | some (v, reach) => .answer v { s with pos := reach }
        | none =>
          let first := s.pos
          match set.choose below first production.alternatives s with
          | .answer v s => .answer v { s with kept := s.kept.insert (first, r) (v, s.pos) }
          | outcome => outcome
    | .grown =>
      set.look s fun _ s =>
        match s.kept[(s.pos, r)]? with
        | some (v, reach) => .answer v { s with pos := reach }
        | none => set.grow below r s.pos (set.scanned.tokens.size + 1) none s.pos s
  | .body r, s => set.choose below s.pos (set.production r).alternatives s
  | .group alternatives, s => set.choose below s.pos alternatives s
  | .many p, s => set.repeated below p (set.scanned.tokens.size + 1) [] s
  | .several p, s =>
    match set.repeated below p (set.scanned.tokens.size + 1) [] s with
    | .answer (some (.list [])) s => failAt s
    | outcome => outcome
  | .separated separator element, s =>
    let first := s.pos
    match set.part below element s with
    | .answer (some v) s =>
      match below (.afterFirst separator element) s with
      | .answer (some rest) s => .answer (some (.list (v :: rest.items))) s
      | outcome => outcome
    | .answer none s => failAt { s with pos := first }
    | outcome => outcome
  | .afterFirst separator element, s =>
    set.repeatedAfter below separator element (set.scanned.tokens.size + 1) [] s

/-- Read with a number of levels. -/
def Setting.read (set : Setting) : Nat → Reading
  | 0 => fun _ s => .fault .tooDeep s.seen
  | n + 1 => set.level (set.read n)

end CodeAtlas.Script.Grammar
