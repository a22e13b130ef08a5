import CodeAtlas.Json.Basic
import CodeAtlas.Text.Blank
import CodeAtlas.Text.Search

/-! Links between pieces of code, found by matching the symbols that one uses with
those that another defines. Ids, kinds and names are values as the database gives them back. -/

namespace CodeAtlas.Link

/-- The part after the last dot. -/
def lastPart (symbol : String) : String :=
  String.ofList (Text.afterLast '.' symbol.toList)

/-- The part after the last dot, without blanks around it. -/
def normalForm (symbol : String) : String :=
  Text.trim (lastPart symbol)

/-- A piece of code as far as linking looks at it. -/
structure Member where
  id : Json
  kind : Json
  name : Json
  defined : List String
  used : List String
  deriving Repr

inductive Relation where
  | calls
  | uses
  | implements
  | overrides
  deriving Repr, DecidableEq

def Relation.name : Relation → String
  | .calls => "CALLS"
  | .uses => "USES"
  | .implements => "IMPLEMENTS"
  | .overrides => "OVERRIDES"

/-- How sure a link of this kind is. -/
def Relation.confidence : Relation → Float
  | .calls => 0.6
  | .uses => 0.5
  | .implements => 0.75
  | .overrides => 0.8

structure SemanticLink where
  source : Json
  target : Json
  relation : Relation
  deriving Repr

/-- Links with equal ends and of one kind are the same. -/
def SemanticLink.same (a b : SemanticLink) : Bool :=
  a.source.same b.source && a.target.same b.target && a.relation == b.relation

/-- Kinds that can call. -/
def callerKinds : List String := ["function", "method"]

/-- Kinds that can be called. -/
def calleeKinds : List String := ["function", "method"]

/-- Kinds that can be used. -/
def usableKinds : List String := ["class", "interface", "enum", "function", "method"]

/-- Whether a value is one of several texts. -/
def isOneOf (v : Json) (texts : List String) : Bool :=
  match v with
  | .string s => texts.contains s
  | _ => false

def Member.isOneOf (m : Member) (kinds : List String) : Bool :=
  Link.isOneOf m.kind kinds

/-- Put an item under a symbol. A symbol that is new comes last. -/
def putUnder {α : Type} (a : α) (symbol : String) : List (String × List α) → List (String × List α)
  | [] => [(symbol, [a])]
  | (s, as) :: rest =>
    if s == symbol then (s, as ++ [a]) :: rest else (s, as) :: putUnder a symbol rest

/-- Go through items and put each under the normal forms of the symbols that it defines. -/
def indexBy {α : Type} (defined : α → List String) (items : List α) : List (String × List α) :=
  items.foldl (fun table a =>
    (defined a).foldl (fun table s => putUnder a (normalForm s) table) table) []

/-- What an index has under a symbol. -/
def definersIn {α : Type} (table : List (String × List α)) (symbol : String) : List α :=
  (table.lookup symbol).getD []

/-- The members by the symbols that they define. -/
def index (members : List Member) : List (String × List Member) :=
  indexBy Member.defined members

/-- The members that define a symbol in its normal form, once for each time. -/
def candidates (members : List Member) (symbol : String) : List Member :=
  definersIn (index members) symbol

/-- The first member of one of the given kinds. -/
def select (members : List Member) (kinds : List String) : Option Member :=
  members.find? (·.isOneOf kinds)

/-- A link to the first candidate of a fitting kind, unless it is the source. -/
def linkToFirst (members : List Member) (relation : Relation) (kinds : List String) (m : Member)
    (symbol : String) : Option SemanticLink :=
  match select (candidates members symbol) kinds with
  | none => none
  | some target => if target.id.same m.id then none else some ⟨m.id, target.id, relation⟩

/-- Calls: from functions and methods to the first function or method that defines
what they use. -/
def calls (members : List Member) : List SemanticLink :=
  (members.filter (·.isOneOf callerKinds)).flatMap fun m =>
    m.used.filterMap fun s => linkToFirst members .calls calleeKinds m (normalForm s)

/-- Uses: from anything to the first usable member that defines the last part of
what it uses. -/
def usages (members : List Member) : List SemanticLink :=
  members.flatMap fun m =>
    m.used.filterMap fun s => linkToFirst members .uses usableKinds m (lastPart s)

/-- Interfaces that a class uses. -/
def implementations (members : List Member) : List SemanticLink :=
  (members.filter (·.isOneOf ["class"])).flatMap fun m =>
    m.used.flatMap fun s =>
      ((candidates members (lastPart s)).filter (·.isOneOf ["interface"])).map fun target =>
        ⟨m.id, target.id, .implements⟩

/-- Methods of the same name that a method uses. -/
def overridings (members : List Member) : List SemanticLink :=
  (members.filter (·.isOneOf ["method"])).flatMap fun m =>
    m.used.flatMap fun s =>
      ((candidates members (lastPart s)).filter fun target =>
        target.isOneOf ["method"] && target.name.same m.name).map fun target =>
        ⟨m.id, target.id, .overrides⟩

/-- All links, those of one kind after those of another. -/
def all (members : List Member) : List SemanticLink :=
  calls members ++ usages members ++ implementations members ++ overridings members

/-- The first of all items with one key, in order. -/
def dedupeBy {α κ : Type} (same : κ → κ → Bool) (key : α → κ) (seen : List κ) : List α → List α
  | [] => []
  | a :: rest =>
    if seen.any (same (key a)) then dedupeBy same key seen rest
    else a :: dedupeBy same key (key a :: seen) rest

/-- Each link once. -/
def dedupe (links : List SemanticLink) : List SemanticLink :=
  dedupeBy SemanticLink.same id [] links

end CodeAtlas.Link
