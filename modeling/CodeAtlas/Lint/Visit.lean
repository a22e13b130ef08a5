import CodeAtlas.Lint.Walk

/-! Visiting the nodes of a source. What is done at a node is defined here one kind of node at a
time, in terms of the visit to the nodes below it, which is handed in. -/

namespace CodeAtlas.Lint

open Script

/-- A visit to a node that plays a part in the node of the context. -/
abbrev Visit := Context → Part → Node → Walk Unit

/-- Visit the nodes below a node, except those in some parts. -/
def visitParts (next : Visit) (c : Context) (node : Node) (omitted : List Part) : Walk Unit :=
  node.parts.forM fun (part, n) => if omitted.contains part then pure () else next c part n

def visitExprs (next : Visit) (c : Context) (part : Part) (es : List Expr) : Walk Unit :=
  es.forM fun e => next c part (.expr e)

/-- Visit what is below a node that is itself passed over. -/
def visitBelow (next : Visit) (c : Context) (node : Node) (omitted : List Part) : Walk Unit :=
  visitParts next { c with outer := .adrift node } node omitted

/-! ### Types -/

/-- A type: one written as a text waits, and where types are not evaluated all do. -/
def visitType (next : Visit) (c : Context) (part : Part) (e : Expr) : Walk Unit := do
  match e with
  | .constant span (.text points) =>
    defer c (.textType points (c.pinned.getD (.ofSpan span)))
  | e =>
    if (← get).futureTypes then defer c (.type e)
    else next { c with types := .bare } part (.expr e)

def isNamed (name : String) : Expr → Bool
  | .name _ _ id => id == name
  | .attribute _ _ _ attr => attr == name
  | _ => false

/-- Something looked up under an index. For the members of the typing library the index is a
type, except where it lists values. -/
def visitSubscript (next : Visit) (c : Context) (node : Node) (value index : Expr) : Walk Unit := do
  if isNamed "Literal" value then visitParts next { c with types := .off } node []
  else if isNamed "Annotated" value then
    next c .value (.expr value)
    match index with
    | .tuple _ _ (first :: second :: rest) =>
      next c .other (.expr first)
      visitExprs next { c with types := .off } .other (second :: rest)
    | index => next c .other (.expr index)
  else if (typingMember? (← get) c value).isSome then
    visitParts next { c with types := .bare } node []
  else visitParts next c node []

/-! ### Calls -/

/-- How the arguments of a call of the typing library are visited: parts that are left out at
first, nodes passed over with the parts of theirs that are left out, and types. -/
structure TypingCall where
  omitted : List Part
  passedOver : List (Node × List Part)
  types : List Expr

/-- Pairs of a name and a type. -/
def fieldsOf? (fields : List Expr) : Option (List (Expr × Expr)) :=
  fields.mapM fun f =>
    match f with
    | .tuple _ _ [name, type] | .list _ _ [name, type] => some (name, type)
    | _ => none

def keywordValue : Keyword → Expr
  | .mk _ _ value => value

def keywordName : Keyword → Option String
  | .mk _ name _ => name

/-- Arguments passed over one by one; the second leaves out a part of its own. -/
def passedOver (omitted : Part) (args : List Expr) : List (Node × List Part) :=
  args.zipIdx.map fun (e, i) => (.expr e, if i == 1 then [omitted] else [])

/-- A type variable: the further arguments and the bound are types. -/
def typeVariable (args : List Expr) (keywords : List Keyword) : TypingCall where
  omitted := [.args, .keywords]
  types := args.drop 1 ++ (keywords.filter fun k => keywordName k == some "bound").map keywordValue
  passedOver := keywords.map fun k =>
    (.keyword k, if keywordName k == some "bound" then [.value] else [])

/-- A dictionary with declared types: the values of the second argument, and all arguments by
name, are types. -/
def typedDict (args : List Expr) (keywords : List Keyword) : TypingCall :=
  let named : TypingCall :=
    ⟨[.keywords], keywords.map fun k => (.keyword k, [.value]), keywords.map keywordValue⟩
  match args with
  | _ :: .dict _ _ values :: _ =>
    ⟨.args :: named.omitted, passedOver .values args ++ named.passedOver, values ++ named.types⟩
  | _ => named

/-- A tuple with named fields: the second of each pair, and all arguments by name, are types. -/
def namedTuple (args : List Expr) (keywords : List Keyword) : TypingCall :=
  let named : TypingCall :=
    ⟨[.keywords], keywords.map fun k => (.keyword k, [.value]), keywords.map keywordValue⟩
  let withFields := fun (fields : List Expr) =>
    match fieldsOf? fields with
    | some pairs =>
      { omitted := .args :: named.omitted
        passedOver :=
          (pairs.map fun (name, _) => (.expr name, [])) ++ passedOver .items args ++
            (fields.map fun f => (.expr f, [.items])) ++ named.passedOver
        types := pairs.map (·.2) ++ named.types }
    | none => named
  match args with
  | _ :: .tuple _ _ fields :: _ | _ :: .list _ _ fields :: _ => withFields fields
  | _ => named

/-- A text that is formatted with arguments. -/
def formatted? : Expr → Option (List Char)
  | .attribute _ _ (.constant _ (.text points)) "format" => some (Text.ofPoints points)
  | _ => none

def visitCall (next : Visit) (c : Context) (node : Node) (func : Expr) (args : List Expr)
    (keywords : List Keyword) : Walk Unit := do
  match formatted? func with
  | some text => (braceFaults text args keywords).forM fun f => report c.outer.position (.braces f)
  | none => pure ()
  let typing := fun (call : TypingCall) => do
    let plain := { c with types := .off }
    visitParts next plain node call.omitted
    call.passedOver.forM fun (n, omitted) => visitBelow next plain n omitted
    visitParts next plain node call.omitted
    visitExprs next { c with types := .bare } .args call.types
  match typingMember? (← get) c func with
  | some "cast" =>
    visitExprs next { c with types := .bare } .args (args.take 1)
    visitParts next c node []
  | some "TypeVar" => typing (typeVariable args keywords)
  | some "TypedDict" => typing (typedDict args keywords)
  | some "NamedTuple" => typing (namedTuple args keywords)
  | _ => visitParts next c node []

/-! ### Other expressions -/

def visitName (c : Context) (site : Site) (use : Use) (id : String) : Walk Unit := do
  match use with
  | .read =>
    let isShift : Node → Bool := fun n =>
      match n with
      | .expr (.binary _ .shiftRight _ _) => true
      | _ => false
    let isCall : Node → Bool := fun n =>
      match n with
      | .expr (.call _ _ _ _) => true
      | _ => false
    let around ← site.around
    load c site.position id (around.is isShift)
    -- a call that is handed the function for local names sees them all
    if id == "locals" && site.outer.is isCall && (← kindOf c) = .function then
      modifyScope c.scope fun s => { s with usesLocals := true }
  | .bind => store c site id
  | .delete => delete c site id

/-- Stars in a collection that is assigned to: one at most, and not too far back. -/
def noteStarred (position : Position) (items : List Expr) : Walk Unit := do
  let places := (items.zipIdx.filter fun (e, _) =>
    match e with | .starred _ _ _ => true | _ => false).map (·.2)
  if places.length > 1 then report position .twoStarred
  match places with
  | first :: _ =>
    if first ≥ 256 || items.length - first - 1 ≥ 16777216 then report position .manyBeforeStarred
  | [] => pure ()

mutual

/-- A value written out, or a tuple of such. -/
def isLiteral : Expr → Bool
  | .constant _ _ => true
  | .tuple _ _ items => areLiteral items
  | _ => false

def areLiteral : List Expr → Bool
  | [] => true
  | e :: rest => isLiteral e && areLiteral rest

end

/-- A literal of which there can be several that are equal. -/
def isComparable : Expr → Bool
  | .constant _ .nothing | .constant _ (.truth _) | .constant _ .ellipsis => false
  | e => isLiteral e

/-- Comparisons by identity with a literal on either side. -/
def literalIdentities : Expr → List Comparison → List Expr → Nat
  | left, op :: ops, right :: rights =>
    literalIdentities right ops rights +
      (if (op = .same || op = .notSame) && (isComparable left || isComparable right) then 1 else 0)
  | _, _, _ => 0

def isTupleTest : Expr → Bool
  | .tuple _ _ (_ :: _) => true
  | _ => false

/-- Parameters, with types and default values read where a function is defined; its body
waits. -/
def visitSignature (next : Visit) (c : Context) (params : Params) (returns : Option Expr)
    (typed : Bool) : Walk Unit := do
  match params with
  | .mk positional plain rest named namedRest defaults namedDefaults =>
    let own := positional ++ plain ++ named
    let wild := rest.toList ++ namedRest.toList
    let names := (own ++ wild).map fun | .mk _ name _ => name
    names.zipIdx.forM fun (name, i) =>
      if (names.take i).contains name then report c.outer.position (.repeatedParam name)
      else pure ()
    let typeNotes := (own ++ (if typed then wild else [])).filterMap fun | .mk _ _ t => t
    typeNotes.forM (visitType next c .other)
    match returns with
    | some e => visitType next c .returns e
    | none => pure ()
    visitExprs next c .default (defaults ++ namedDefaults)
    defer c .body

/-- What a `yield` or an `await` stands for is looked at only inside a function. -/
def visitYield (next : Visit) (c : Context) (value : Option Expr) : Walk Unit := do
  let kind ← kindOf c
  if kind = .module || kind = .classBody then report c.outer.position .yieldOutside
  else visitExprs next c .value value.toList

def visitExpr (next : Visit) (c : Context) (site : Site) (e : Expr) : Walk Unit := do
  let position := site.position
  let parts := visitParts next c (.expr e) []
  match e with
  | .name _ use id => visitName c site use id
  | .constant _ (.text points) =>
    if c.types ≠ .off then defer c (.textType points position)
  | .constant _ _ => pure ()
  | .joined _ pieces =>
    let hasFields := pieces.any fun p => match p with | .embedded _ _ _ => true | _ => false
    if !c.inText && !hasFields then report position .noPlaceholders
    visitParts next { c with inText := true } (.expr e) []
  | .subscript _ _ value index => visitSubscript next c (.expr e) value index
  | .call _ func args keywords => visitCall next c (.expr e) func args keywords
  | .tuple _ use items | .list _ use items =>
    if use = .bind then noteStarred position items
    parts
  | .dict _ keys values =>
    let known := keys.map fun k => (k.map Key.ofExpr).getD .unknown
    (repeatedKeys known (Key.ofExprs values)).forM fun (key, i) =>
      match keys[i]? with
      | some (some k) => report (c.pinned.getD (.ofSpan k.span)) (.repeatedKey key)
      | _ => pure ()
    parts
  | .binary _ .modulo (.constant _ (.text points)) right =>
    (percentFaults (Text.ofPoints points) right).forM fun f => report position (.percent f)
    parts
  | .compare _ left ops rights =>
    (List.replicate (literalIdentities left ops rights) ()).forM fun _ =>
      report position .literalIdentity
    parts
  | .conditional _ test _ _ =>
    if isTupleTest test then report position .tupleTest
    parts
  | .lambda _ params _ => visitSignature next c params none false
  | .comprehension _ _ _ _ => inScope c .generator fun c => visitParts next c (.expr e) []
  | .yielded _ value => visitYield next c value
  | .yieldedFrom _ value | .awaited _ value => visitYield next c (some value)
  | _ => parts

/-! ### Patterns -/

/-- Names that a pattern binds are assigned. -/
def visitPattern (next : Visit) (c : Context) (site : Site) (p : Pattern) : Walk Unit := do
  match p with
  | .mapping _ _ _ (some name) | .star _ (some name) | .capture _ _ (some name) =>
    store c site name
  | _ => pure ()
  visitParts next c (.pattern p) []

/-! ### Statements -/

def importNames (c : Context) (site : Site) (names : List Alias) : Walk Unit :=
  names.forM fun a =>
    let (name, i) := Import.ofModule a.name a.renamed
    declare c site ⟨name, .imported i, site, none, []⟩

/-- A feature of the language counts as used, and switches take effect at once. -/
def importFuture (c : Context) (site : Site) (a : Alias) : Walk Unit := do
  if !futureFeatures.contains a.name then report site.position (.unknownFuture a.name)
  if a.name == "annotations" then
    if (← kindOf c) = .module then modify fun s => { s with futureTypes := true }
    else throw .misplacedFuture
  let (name, i) := Import.ofMember "__future__" (a.renamed.getD a.name) none
  declare c site ⟨name, .imported i, site, some (c.scope, site.position), []⟩

def importFrom (c : Context) (site : Site) (level : Nat) (source : Option String)
    (names : List Alias) : Walk Unit := do
  let isFuture := source == some "__future__"
  let kind ← kindOf c
  if isFuture then
    if !((← get).atStart && c.beyond.isEmpty) then report site.position .lateFuture
  else if kind = .module then modify fun s => { s with atStart := false }
  let module := String.ofList (List.replicate level '.') ++ source.getD ""
  names.forM fun a => do
    if isFuture then importFuture c site a
    else if a.name == "*" then
      if kind = .module then
        modifyScope c.scope fun s => { s with starred := true }
        report site.position (.starImport module)
        let (name, i) := Import.ofStar module
        declare c site ⟨name, .imported i, site, none, []⟩
      else report site.position (.nestedStarImport module)
    else
      let (name, i) := Import.ofMember module a.name a.renamed
      declare c site ⟨name, .imported i, site, none, []⟩

/-- The exceptions that handlers name. -/
def handledNames (handlers : List Handler) : List String :=
  handlers.flatMap fun
    | .mk _ (some (.tuple _ _ items)) _ _ =>
      items.filterMap fun e => match e with | .name _ _ id => some id | _ => none
    | .mk _ (some (.name _ _ id)) _ _ => [id]
    | _ => []

/-- A guarded block: its exceptions are handled only in its body. -/
def visitGuarded (next : Visit) (c : Context) (node : Node) (body : List Stmt)
    (handlers : List Handler) : Walk Unit := do
  handlers.zipIdx.forM fun (.mk span kind _ _, i) =>
    if kind.isNone && i + 1 < handlers.length then
      report (c.pinned.getD (.ofSpan span)) .bareHandlerNotLast
    else pure ()
  body.forM fun s => next { c with handled := handledNames handlers } .body (.stmt s)
  visitParts next c node [.body]

/-- The name of a handler is bound for its block only; what it was bound to before comes back
afterwards. -/
def visitHandler (next : Visit) (c : Context) (site : Site) (h : Handler) : Walk Unit := do
  match h with
  | .mk _ _ none _ => visitParts next c (.handler h) []
  | .mk _ _ (some name) _ =>
    if ((← get).scope c.scope).has name then store c site name
    let before := ((← get).scope c.scope).get? name
    modifyScope c.scope (·.erase name)
    store c site name
    visitParts next c (.handler h) []
    match (← get).binding? c.scope name with
    | none => pure ()
    | some b =>
      modifyScope c.scope (·.erase name)
      if b.used.isNone then report site.position (.unusedVariable name)
    match before with
    | some n => modifyScope c.scope (·.put name n)
    | none => pure ()

def isNotImplemented : Expr → Bool
  | .name _ _ id => id == "NotImplemented"
  | .call _ (.name _ _ id) _ _ => id == "NotImplemented"
  | _ => false

def visitStmt (next : Visit) (c : Context) (site : Site) (s : Stmt) : Walk Unit := do
  let position := site.position
  let parts := visitParts next c (.stmt s) []
  match s with
  | .function _ _ name params _ decorators returns =>
    visitExprs next c .decorator decorators
    visitSignature next c params returns true
    declare c site ⟨name, .definition, site, none, []⟩
  | .classDef _ name bases keywords body decorators =>
    visitExprs next c .decorator decorators
    visitExprs next c .other bases
    keywords.forM fun k => next c .keywords (.keyword k)
    inScope c .classBody fun c => body.forM fun s => next c .body (.stmt s)
    declare c site ⟨name, .definition, site, none, []⟩
  | .result _ value =>
    let kind ← kindOf c
    if kind = .module || kind = .classBody then report position .returnOutside
    else visitExprs next c .value value.toList
  | .augment _ target value =>
    match target with
    | .name span _ id => load c (c.pinned.getD (.ofSpan span)) id false
    | _ => pure ()
    next c .value (.expr value)
    next c .other (.expr target)
  | .annotate _ target typeNote value =>
    visitType next c .other typeNote
    match value with
    | some v =>
      if typingMember? (← get) c typeNote == some "TypeAlias" then visitType next c .value v
      else next c .value (.expr v)
    | none => pure ()
    next c .other (.expr target)
  | .branch _ test _ _ =>
    if isTupleTest test then report position .tupleTest
    parts
  | .throwing _ exception _ =>
    match exception with
    | some e => if isNotImplemented e then report position .raisedNotImplemented
    | none => pure ()
    parts
  | .guarded _ _ body handlers _ _ => visitGuarded next c (.stmt s) body handlers
  | .assertion _ test _ =>
    if isTupleTest test then report position .tupleAssertion
    parts
  | .importNames _ names => importNames c site names
  | .importFrom _ level source names => importFrom c site level source names
  | .outerNames _ names => bindOuter c site names
  | .leave _ => if !site.inLoop then report position .breakOutside
  | .resume _ => if !site.inLoop then report position .continueOutside
  | _ => parts

/-! ### Any node -/

/-- A parameter is bound by the function around. -/
def visitParam (c : Context) (site : Site) : Param → Walk Unit
  | .mk _ name _ => declare c site ⟨name, .argument, site.outer.outer, none, []⟩

def visitAny (next : Visit) (c : Context) (site : Site) (node : Node) : Walk Unit :=
  match node with
  | .expr e => visitExpr next c site e
  | .stmt s => visitStmt next c site s
  | .pattern p => visitPattern next c site p
  | .handler h => visitHandler next c site h
  | .param p => visitParam c site p
  | .params _ => visitParts next c node [.default]
  | _ => visitParts next c node []

end CodeAtlas.Lint
