import CodeAtlas.Text.Utf8

/-! Concrete syntax trees as a language's parser gives them. -/

namespace CodeAtlas

/-- A node: its kind, first and last row counted from zero, its text (if
that is valid UTF-8), the children that have a role, and all children. -/
inductive Node where
  | mk (kind : String) (first last : Nat) (text : Except Text.Utf8.Malformed String)
      (roles : List (String × Nat)) (children : List Node)
  deriving Repr, Inhabited

namespace Node

def kind : Node → String
  | .mk k _ _ _ _ _ => k

def first : Node → Nat
  | .mk _ s _ _ _ _ => s

def last : Node → Nat
  | .mk _ _ e _ _ _ => e

def text : Node → Except Text.Utf8.Malformed String
  | .mk _ _ _ x _ _ => x

def children : Node → List Node
  | .mk _ _ _ _ _ cs => cs

/-- The child with a role. -/
def child? : Node → String → Option Node
  | .mk _ _ _ _ roles cs, role => (roles.lookup role).bind (cs[·]?)

mutual

/-- A node and everything below it, each node before its children. -/
def preorder : Node → List Node
  | .mk k s e x roles cs => .mk k s e x roles cs :: preorderAll cs

def preorderAll : List Node → List Node
  | [] => []
  | n :: rest => n.preorder ++ preorderAll rest

end

end Node

end CodeAtlas
