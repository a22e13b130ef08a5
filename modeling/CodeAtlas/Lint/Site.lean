import CodeAtlas.Lint.Finding
import CodeAtlas.Script.Fault
import CodeAtlas.Script.Node

/-! Where a node stands in its tree. A site knows the nodes around it, as far as they were
noted on the way to it. -/

namespace CodeAtlas.Lint

open Script

/-- Sources that cannot be followed to their end. -/
inductive Trouble where
  /-- The list of exports is extended, but the name is bound to something else. -/
  | notExports
  /-- A feature of the language is switched on inside a definition. -/
  | misplacedFuture
  /-- The surroundings of a node are asked for that was reached without noting them. -/
  | adrift (kind : String)
  /-- The tree is nested too deeply to be followed. -/
  | tooDeep
  /-- A type written as a text holds half of a surrogate pair, at a place in the text. -/
  | halfPair (point place : Nat)
  /-- A type written as a text cannot be read. -/
  | unreadable (fault : Fault)
  deriving Repr

inductive Site where
  /-- The module as a whole. -/
  | top
  /-- A node whose surroundings were not noted. -/
  | adrift (node : Node)
  /-- A node with its number, the number of nodes that it is deep, and the part that it plays
  in the one around. -/
  | inside (id depth : Nat) (part : Part) (node : Node) (position : Position) (outer : Site)
  deriving Repr

namespace Site

def node? : Site → Option Node
  | .top => none
  | .adrift n | .inside _ _ _ n _ _ => some n

def position : Site → Position
  | .top => ⟨1, 0⟩
  | .adrift n => (n.span?.map Position.ofSpan).getD ⟨1, 0⟩
  | .inside _ _ _ _ p _ => p

/-- The site around, where it was noted. -/
def outer : Site → Site
  | .inside _ _ _ _ _ o => o
  | s => s

/-- Whether a test holds of the node at a site. -/
def is (test : Node → Bool) (s : Site) : Bool :=
  (s.node?.map test).getD false

end Site

/-- Names, what is reached through them, and collections: they are looked through in search of
the node that decides what becomes of a name. -/
def isSheer : Node → Bool
  | .expr (.name _ _ _) | .expr (.attribute _ _ _ _) | .expr (.subscript _ _ _ _)
  | .expr (.tuple _ _ _) | .expr (.list _ _ _) | .expr (.set _ _) | .expr (.starred _ _ _) => true
  | _ => false

def isLoop : Node → Bool
  | .stmt (.loop _ _ _ _ _) => true
  | _ => false

/-- A block that is run only on some condition. -/
def isConditional : Node → Bool
  | .stmt (.branch _ _ _ _) | .stmt (.repeatWhile _ _ _ _) | .stmt (.guarded _ false _ _ _ _)
  | .expr (.conditional _ _ _ _) => true
  | _ => false

/-- The name of a kind of node that can be looked through or that binds parameters. -/
def kindName : Node → String
  | .expr (.name _ _ _) => "Name"
  | .expr (.attribute _ _ _ _) => "Attribute"
  | .expr (.subscript _ _ _ _) => "Subscript"
  | .expr (.tuple _ _ _) => "Tuple"
  | .expr (.list _ _ _) => "List"
  | .expr (.set _ _) => "Set"
  | .expr (.starred _ _ _) => "Starred"
  | .expr (.lambda _ _ _) => "Lambda"
  | _ => "AST"

namespace Site

/-- The nearest node around that is not looked through. -/
def around : Site → Except Trouble Site
  | .top => .error (.adrift "Module")
  | .adrift n => .error (.adrift (kindName n))
  | .inside _ _ _ _ _ outer => if outer.is isSheer then outer.around else .ok outer

/-- Whether some block around is run only on a condition. -/
def conditional : Site → Bool
  | .inside _ _ _ _ _ outer => outer.is isConditional || outer.conditional
  | _ => false

/-- Whether a site is in the body of a loop of its own function or class. -/
def inLoop : Site → Bool
  | .inside _ _ part _ _ outer =>
    let repeats : Node → Bool := fun n =>
      match n with
      | .stmt (.loop _ _ _ _ _) | .stmt (.repeatWhile _ _ _ _) => true
      | _ => false
    let closes : Node → Bool := fun n =>
      match n with
      | .stmt (.function _ false _ _ _ _ _) | .stmt (.classDef _ _ _ _ _ _) => true
      | _ => false
    (outer.is repeats && part != .orelse) || (!outer.is closes && outer.inLoop)
  | _ => false

/-- A noted site on the way to the top. -/
structure Step where
  id : Nat
  depth : Nat
  part : Part
  node : Node

/-- A site and those around it, as far as they were noted. -/
def path : Site → List Step
  | .inside id depth part node _ outer => ⟨id, depth, part, node⟩ :: outer.path
  | _ => []

/-- Where two paths meet. The depths tell which of them has to go on. -/
def meet : List Step → List Step → Option Step
  | l :: ls, r :: rs =>
    if l.id == r.id then some l
    else if l.depth > r.depth then meet ls (r :: rs)
    else if l.depth < r.depth then meet (l :: ls) rs
    else meet ls rs
  | _, _ => none
termination_by ls rs => ls.length + rs.length

/-- Which of the alternatives of a node a part belongs to. -/
def alternative? : Node → Part → Option Nat
  | .stmt (.branch _ _ _ _), .body => some 0
  | .stmt (.guarded _ false _ _ _ _), .body | .stmt (.guarded _ false _ _ _ _), .orelse => some 0
  | .stmt (.guarded _ false _ _ _ _), .handler i => some (i + 1)
  | .stmt (.select _ _ _), .case i => some i
  | _, _ => none

/-- The alternative of a node that a path goes through. -/
def fork (common : Step) : List Step → Option Nat
  | s :: t :: rest =>
    if s.id == common.id then none
    else if s.depth > common.depth + 1 then fork common (t :: rest)
    else if s.depth == common.depth + 1 && t.id == common.id then alternative? common.node s.part
    else none
  | _ => none

/-- Whether two sites stand in different alternatives, of which only one is run. -/
def exclude (a b : Site) : Bool :=
  match meet a.path b.path with
  | none => false
  | some common => fork common a.path != fork common b.path

end Site

end CodeAtlas.Lint
