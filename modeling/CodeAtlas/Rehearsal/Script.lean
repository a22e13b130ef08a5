import CodeAtlas.Json.Access
import CodeAtlas.Json.Reader
import CodeAtlas.Rehearsal.Stage

/-! Scripts for rehearsals in JSON: what the databases, the language model and the
parsers answer, which files there are, and what time it is. -/

namespace CodeAtlas.Rehearsal

/-- Bytes from pairs of hexadecimal digits. -/
def bytesOfHex : List Char → List Nat
  | a :: b :: rest =>
    (((Json.hexDigit? a).getD 0) * 16 + (Json.hexDigit? b).getD 0) :: bytesOfHex rest
  | _ => []

/-- A scripted answer: an object with an error is a fault. -/
def scripted {α : Type} (j : Json) (f : Json → α) : Scripted α :=
  match j.text? "error" with
  | some e => .error e
  | none => .ok (f j)

/-! ### Trees -/

/-- The text of a node, given as it is or as bytes. -/
def nodeText (j : Json) : Except Text.Utf8.Malformed String :=
  match j.text? "hex" with
  | some h => Text.Utf8.decode (bytesOfHex h.toList)
  | none => .ok (j.text "x")

/-- The places of children that have a role. -/
def nodeRoles (j : Json) : List (String × Nat) :=
  (j.fields "f").map fun (name, i) => (name, (i.whole?.getD 0).toNat)

mutual

/-- A node: kind `t`, rows `s` to `e`, text, roles `f` and children `c`. -/
def nodeOf : Json → Node
  | .object fs =>
    let j := Json.object fs
    let first := j.wholeOr "s" 0
    .mk (j.text "t") first.toNat (j.wholeOr "e" first).toNat (nodeText j) (nodeRoles j)
      (childrenIn fs)
  | _ => .mk "" 0 0 (.ok "") [] []

def childrenIn : Fields → List Node
  | [] => []
  | (key, .array xs) :: rest => if key = "c" then nodesOf xs else childrenIn rest
  | _ :: rest => childrenIn rest

def nodesOf : List Json → List Node
  | [] => []
  | x :: xs => nodeOf x :: nodesOf xs

end

def scriptedTree (j : Json) : Scripted Node := scripted j nodeOf

/-! ### Answers -/

def ruleOf (j : Json) : Rule where
  pattern := j.text "match"
  params := j.fields "params"
  once := j.flag "once"
  answer := scripted j fun j => Json.objectsIn (j.items "records")

def replyOf (j : Json) : ModelReply :=
  match j.field? "stream", j.text? "error" with
  | some (.array pieces), e => .pieces ⟨pieces.map Json.string?, e.map Failure.reported⟩
  | _, some e => .fault e
  | _, none => .whole (j.text "content")

def promptRuleOf (j : Json) : PromptRule where
  pattern := j.text "match"
  answer := scripted j fun j => j.text "response"

/-- The classifier's label; Python if nothing is said. -/
def labelOf : Json → Scripted String
  | .string s => .ok s
  | .null => .ok "python"
  | j => scripted j fun _ => ""

/-- The vector database's answer; nothing is found if nothing is said. -/
def nearestOf : Json → Scripted Json
  | .null =>
    let empty := Json.array [.array []]
    .ok (.object [("documents", empty), ("metadatas", empty), ("distances", empty)])
  | j => scripted j id

/-! ### Files -/

/-- Write, make or delete what an entry says; a file may come with its tree. -/
def Stage.placeFile (s : Stage) (j : Json) : Stage :=
  let place := Paths.place (j.text "path")
  if j.flag "delete" then { s with disk := s.disk.delete place }
  else if j.flag "dir" then { s with disk := s.disk.addFolders place }
  else
    let bytes :=
      match j.text? "hex" with
      | some h => bytesOfHex h.toList
      | none => (j.text "text").toUTF8.toList.map UInt8.toNat
    let s := { s with
      disk := s.disk.put place (.file bytes ((j.field? "mtime").bind Json.number?)) }
    match j.field? "tree", decodeFile bytes true with
    | some t, .ok content => { s with trees := (content, scriptedTree t) :: s.trees }
    | _, _ => s

def Stage.placeFiles (s : Stage) (j : Json) : Stage :=
  (j.items "files").foldl placeFile s

/-! ### Whole scripts -/

/-- Replace the parts of the script that are given. -/
def Stage.rescript (s : Stage) (j : Json) : Stage :=
  let s := if (j.field? "graph").isSome then { s with rules := (j.items "graph").map ruleOf } else s
  let s :=
    if (j.field? "generate").isSome then
      { s with promptRules := (j.items "generate").map promptRuleOf }
    else s
  if (j.field? "predict").isSome then { s with label := labelOf (j.at_ "predict") } else s

/-- The stage that a script sets up, with or without a graph store. -/
def Stage.ofScript (j : Json) (store : Bool) : Stage :=
  let s : Stage := {
    rules := (j.items "graph").map ruleOf
    store := if store then some Graph.Store.empty else none
    replies := (j.items "llm").map replyOf
    promptRules := (j.items "generate").map promptRuleOf
    nearest := nearestOf (j.at_ "vector")
    label := labelOf (j.at_ "predict")
    parserFault := j.text? "parser_error"
    tree := (j.field? "tree").map scriptedTree
    now := j.numberOr "now" 0.0 }
  s.placeFiles j

end CodeAtlas.Rehearsal
