import CodeAtlas.Graph.Catalogue
import CodeAtlas.Link.Collect

/-! Linking the code of a project: its records are read from the graph, and the
links found between them are written back in one go. -/

namespace CodeAtlas.Link

/-- Symbols have to be texts. -/
def symbol (v : Json) : Except Failure String :=
  match v with
  | .string s => .ok s
  | v => .error (.noMember v.typeName "split")

/-- The symbols under a property; without it there are none. -/
def symbols (r : Fields) (key : String) : Except Failure (List String) :=
  match r.get? key with
  | none => .ok []
  | some v => do
    let xs ← v.itemsIn
    xs.mapM symbol

/-- A record is an object. -/
def record (v : Json) : Except Failure Fields :=
  match v with
  | .object fs => .ok fs
  | v => .error (.noMember v.typeName "get")

/-- Records whose symbols can be told. -/
def records (vs : List Json) : Except Failure (List Fields) :=
  vs.mapM fun v => do
    let r ← record v
    let _ ← symbols r "symbols_defined"
    pure r

def kindOf (r : Fields) : Json := r.getOrNull "node_kind"

/-- The records that define a symbol, once for each time. -/
def definers (rs : List Fields) (symbol : String) : List Fields :=
  definersIn (indexBy (fun r => (symbols r "symbols_defined").toOption.getD []) rs) symbol

def hasKind (kinds : List String) (r : Fields) : Bool :=
  isOneOf (kindOf r) kinds

/-- Go through the symbols that a record uses, one after another. -/
def forUsed (r : Fields) (f : String → Except Failure Unit) : Except Failure Unit :=
  match r.get? "symbols_used" with
  | none => .ok ()
  | some v => do
    let xs ← v.itemsIn
    xs.forM fun x => do f (← symbol x)

/-- A record has an id. -/
def hasId (r : Fields) : Except Failure Unit := do
  let _ ← Graph.need r "node_id"

/-- The first record of a fitting kind; a kind that is looked up has to be a key. -/
def firstOfKind (kinds : List String) : List Fields → Except Failure (Option Fields)
  | [] => .ok none
  | r :: rest => do
    let kind ← (kindOf r).asKey
    if isOneOf kind kinds then pure (some r) else firstOfKind kinds rest

/-- The first record of a fitting kind that defines a symbol has an id. -/
def firstHasId (rs : List Fields) (kinds : List String) (symbol : String) :
    Except Failure Unit := do
  match ← firstOfKind kinds (definers rs symbol) with
  | none => pure ()
  | some r => hasId r

def checkCalls (rs : List Fields) : Except Failure Unit :=
  rs.forM fun r => do
    hasId r
    let kind ← (kindOf r).asKey
    if isOneOf kind callerKinds then
      forUsed r fun s => firstHasId rs calleeKinds (normalForm s)

def checkUsages (rs : List Fields) : Except Failure Unit :=
  rs.forM fun r => do
    hasId r
    forUsed r fun s => firstHasId rs usableKinds (lastPart s)

def checkImplementations (rs : List Fields) : Except Failure Unit :=
  rs.forM fun r => do
    if hasKind ["class"] r then
      hasId r
      forUsed r fun s => ((definers rs (lastPart s)).filter (hasKind ["interface"])).forM hasId

/-- A record that may be overridden has a name, and an id if the name is the same. -/
def checkParent (name : Json) (r : Fields) : Except Failure Unit := do
  let other ← Graph.need r "node_name"
  if name.same other then hasId r

def checkOverridings (rs : List Fields) : Except Failure Unit :=
  rs.forM fun r => do
    if hasKind ["method"] r then
      let name ← Graph.need r "node_name"
      hasId r
      forUsed r fun s => ((definers rs (lastPart s)).filter (hasKind ["method"])).forM
        (checkParent name)

/-- Whether records can be linked: what each kind of link needs, in turn. -/
def check (rs : List Fields) : Except Failure Unit := do
  checkCalls rs
  checkUsages rs
  checkImplementations rs
  checkOverridings rs

/-- A record as a member; fields that linking does not come to may be missing. -/
def member (r : Fields) : Member where
  id := r.getOrNull "node_id"
  kind := kindOf r
  name := r.getOrNull "node_name"
  defined := (symbols r "symbols_defined").toOption.getD []
  used := (symbols r "symbols_used").toOption.getD []

/-- The members of a project, if nothing is wrong with its records. -/
def members (rs : List Fields) : Except Failure (List Member) := do
  let rs ← records (rs.map .object)
  check rs
  pure (rs.map member)

/-- The ids of the records that define each symbol. -/
def indexRecords (vs : List Json) : Except Failure (List (String × List Json)) := do
  let rs ← records vs
  (rs.filter fun r => !(member r).defined.isEmpty).forM hasId
  pure ((index (rs.map member)).map fun (symbol, ms) => (symbol, ms.map (·.id)))

/-- The id of the first record of one of the given kinds, or null. -/
def selectAmong (kinds : List Json) : List Json → Except Failure Json
  | [] => .ok .null
  | v :: rest => do
    let r ← record v
    let kind ← (kindOf r).asKey
    if kinds.any kind.same then Graph.need r "node_id" else selectAmong kinds rest

/-- The id of the first record of one of the given kinds, which all have to be keys. -/
def selectRecord (kinds vs : List Json) : Except Failure Json := do
  selectAmong (← kinds.mapM Json.asKey) vs

/-- The normal forms of symbols. -/
def normalForms (vs : List Json) : Except Failure (List String) :=
  vs.mapM fun v => normalForm <$> symbol v

/-- When each link was made. -/
abbrev Times := SemanticLink → Float

/-- What a link carries besides its ends. -/
def props (relation : Relation) (created : Float) : Fields :=
  [("confidence", .float relation.confidence), ("source", .string "semantic_linker:v1"),
    ("created_at", .float created)]

/-- A link as the database takes it, with the time at which it was made. -/
def SemanticLink.toJson (created : Times) (l : SemanticLink) : Json :=
  .object [("from", l.source), ("to", l.target), ("type", .string l.relation.name),
    ("props", .object (props l.relation (created l)))]

/-- The fields of a value that is looked into by name. -/
def fieldsOf (v : Json) : Except Failure Fields :=
  match v with
  | .object fs => .ok fs
  | .string _ => .error (.wrongType "string indices must be integers, not 'str'")
  | .array _ => .error (.wrongType "list indices must be integers or slices, not str")
  | v => .error (.wrongType ("'" ++ v.typeName ++ "' object is not subscriptable"))

/-- The key of a link in JSON: its ends and type. -/
def keyOf (l : Json) : Except Failure (List Json) := do
  let fields ← fieldsOf l
  let parts ← ["from", "to", "type"].mapM (Graph.need fields)
  parts.mapM Json.asKey

/-- Links in JSON, each once by its ends and type. -/
def dedupeJson (links : List Json) : Except Failure (List Json) := do
  let keyed ← links.mapM fun l => do pure (← keyOf l, l)
  pure ((dedupeBy (fun a b => Json.sameAll a b) (·.1) [] keyed).map (·.2))

/-- The ends of a link have to be keys. -/
def checkEnds (links : List SemanticLink) : Except Failure Unit :=
  links.forM fun l => do
    let _ ← l.source.asKey
    let _ ← l.target.asKey

/-- Link a project. Each link has the time at which it was made. -/
def linkProject (project : String) (created : Times) : Dialogue Unit := do
  let rs ← Graph.nodesByProject (.string project)
  let ms ← (members rs : Except Failure (List Member))
  checkEnds (all ms)
  let links := dedupe (all ms)
  if links.isEmpty then pure ()
  else Graph.linkBatch (.array (links.map (SemanticLink.toJson created)))

end CodeAtlas.Link
