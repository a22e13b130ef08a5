import CodeAtlas.Dialogue
import CodeAtlas.Graph.Store
import CodeAtlas.Issue.Unused
import CodeAtlas.Json.Mapping
import CodeAtlas.Rehearsal.Disk

/-! A world for rehearsals: every answer is laid down beforehand, files are held in
memory, and what is asked is written down. -/

namespace CodeAtlas.Rehearsal

/-- What a scripted answer is: a value, or a fault with its text. -/
abbrev Scripted (α : Type) := Except String α

def Scripted.toResult {α : Type} : Scripted α → Except Failure α
  | .ok a => .ok a
  | .error text => .error (.reported text)

/-- An answer to statements that contain a text and have certain parameters. -/
structure Rule where
  pattern : String
  params : Fields
  once : Bool
  answer : Scripted (List Fields)

def Rule.fits (r : Rule) (text : String) (params : Fields) : Bool :=
  Text.contains r.pattern text && r.params.all fun p => p.2.same (params.getOrNull p.1)

/-- A reply of the language model: in one piece, in pieces, or none. -/
inductive ModelReply where
  | whole (text : String)
  | pieces (reply : Reply)
  | fault (text : String)

/-- A reply to prompts that contain a text. -/
structure PromptRule where
  pattern : String
  answer : Scripted String

/-- The number of a text that is a single character. -/
def codePoint (v : Json) : Except Failure Nat :=
  match v.string?.map String.toList with
  | some [c] => .ok c.toNat
  | _ => .error (.wrongType "a character is needed")

/-- Numbers that stand for a text: its length and the sum of its characters. Any value that
is made of characters has them. -/
def embedding (text : Json) : Except Failure (List Nat) := do
  let points ← (← text.itemsIn).mapM codePoint
  pure [points.length, points.foldl (· + ·) 0 % 1000]

/-- Something that was asked or shown. -/
inductive Event where
  | query (text : String) (params : Fields)
  | chat (stream : Bool) (messages : List Message)
  | generate (prompt : String)
  | opened (c : Collection)
  | added (c : Collection) (texts abouts ids : Json)
  | searched (c : Collection) (at_ : List Nat) (count filter : Json)
  | cloned (url folder : String)
  | said (line : String)
  | emitted (line : String)
  | displayed (item : Shown)

/-- The script of a rehearsal with what is left of it, and what has happened. -/
structure Stage where
  rules : List Rule := []
  /-- Answers to statements without a rule come from here, if it is there. -/
  store : Option Graph.Store := none
  replies : List ModelReply := []
  promptRules : List PromptRule := []
  nearest : Scripted Json := .ok .null
  label : Scripted String := .ok "python"
  disk : Disk := ⟨[]⟩
  parserFault : Option String := none
  tree : Option (Scripted Node) := none
  /-- Trees of certain contents. -/
  trees : List (String × Scripted Node) := []
  now : Float := 0.0
  listing : Option String := none
  opened : List Collection := []
  log : List Event := []

namespace Stage

def note (s : Stage) (e : Event) : Stage := { s with log := s.log ++ [e] }

/-- The statement's answer by the rules, or else from the store. -/
def answerGraph (s : Stage) (q : Graph.Query) : Except Failure (List Fields) × Stage :=
  let text := q.text
  let params := q.params
  let s := s.note (.query text params)
  match s.rules.findIdx? (·.fits text params) with
  | some i =>
    match s.rules[i]? with
    | some r => (r.answer.toResult, if r.once then { s with rules := s.rules.eraseIdx i } else s)
    | none => (.ok [], s)
  | none =>
    match s.store with
    | none => (.ok [], s)
    | some store =>
      let (rs, store) := store.answer q
      (.ok rs, { s with store := some store })

/-- The next reply of the language model. -/
def nextReply (s : Stage) : ModelReply × Stage :=
  match s.replies with
  | [] => (.fault "llm script exhausted", s)
  | r :: rest => (r, { s with replies := rest })

/-- The reply to a prompt; without a rule it tells the prompt's length. -/
def answerPrompt (s : Stage) (prompt : String) : Except Failure String :=
  match s.promptRules.find? fun r => Text.contains r.pattern prompt with
  | some r => r.answer.toResult
  | none => .ok ("  summary/" ++ toString prompt.length ++ "\n")

/-- Use of a collection; its first use is written down. -/
def use (s : Stage) (c : Collection) : Stage :=
  if s.opened.contains c then s else { s with opened := c :: s.opened }.note (.opened c)

/-- Search a collection for texts near to one. -/
def search (s : Stage) (c : Collection) (text count filter : Json) :
    Except Failure Json × Stage :=
  let s := s.use c
  match embedding text with
  | .ok numbers => (s.nearest.toResult, s.note (.searched c numbers count filter))
  | .error e => (.error e, s)

/-- A file's tree, by the script. -/
def treeOf (s : Stage) (code : String) : Except Failure Node :=
  match s.tree.or (s.trees.lookup code) with
  | some t => t.toResult
  | none => .ok (.mk "module" 0 0 (.ok "") [] [])

/-- When files were written for which nothing else is said. -/
def writtenAt : Float := 1760000000.0

/-- The seconds at which a file was changed. -/
def modifiedAt (s : Stage) (path : String) : Except Failure Float :=
  (s.disk.entry path).map fun
    | .file _ (some t) => t
    | _ => writtenAt

/-- Documents in columns. -/
def addColumns (s : Stage) (c : Collection) (texts abouts ids : Json) : Stage :=
  (s.use c).note (.added c texts abouts ids)

/-- The world of a stage. -/
def world : Dialogue.World Stage
  | .graph q, s => s.answerGraph q
  | .chat messages, s =>
    match (s.note (.chat false messages)).nextReply with
    | (.whole text, s) => (.ok text, s)
    | (.pieces _, s) => (.error (.noMember "generator" "message"), s)
    | (.fault text, s) => (.error (.reported text), s)
  | .chatStream messages, s =>
    match (s.note (.chat true messages)).nextReply with
    | (.whole _, s) => (.ok ⟨[], none⟩, s)
    | (.pieces r, s) => (.ok r, s)
    | (.fault text, s) => (.error (.reported text), s)
  | .generate prompt, s => (s.answerPrompt prompt, s.note (.generate prompt))
  | .addDocuments c columns, s =>
    (.ok (), s.addColumns c (.ofStrings columns.texts) (.array (columns.abouts.map .object))
      (.ofStrings columns.ids))
  | .addColumns c texts abouts ids, s => (.ok (), s.addColumns c texts abouts ids)
  | .nearest c text count filter, s => s.search c text count filter
  | .classify _, s => (s.label.toResult, s)
  | .loadParser _, s =>
    match s.parserFault with
    | none => (.ok (), s)
    | some text => (.error (.reported text), s)
  | .parseCode _ code, s => (s.treeOf code, s)
  | .readFile path lossy, s => (s.disk.read path >>= (decodeFile · lossy), s)
  | .pathKind path, s => (s.disk.kind path, s)
  | .modified path, s => (s.modifiedAt path, s)
  | .filesBelow folder, s => (s.disk.filesBelow folder, s)
  | .writeFile path text, s =>
    let bytes := text.toUTF8.toList.map UInt8.toNat
    (.ok (), { s with disk := s.disk.put (Paths.place path) (.file bytes none) })
  | .clone url folder, s => (.ok (), s.note (.cloned url folder))
  | .now, s => (.ok s.now, s)
  | .lint file code, s =>
    match s.listing with
    | some text => (.ok text, s)
    | none => (Issue.lint file code, s)
  | .say line, s => (.ok (), s.note (.said line))
  | .emit line, s => (.ok (), s.note (.emitted line))
  | .display item, s => (.ok (), s.note (.displayed item))

/-- Carry a dialogue out on a stage. -/
def perform {α : Type} (s : Stage) (d : Dialogue α) : Except Failure α × Stage :=
  d.run world s

/-- A stage with an empty log, and what was in it. -/
def takeLog (s : Stage) : List Event × Stage :=
  (s.log, { s with log := [] })

end Stage

end CodeAtlas.Rehearsal
