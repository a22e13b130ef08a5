import CodeAtlas.Proofs.Dialogue.Laws
import CodeAtlas.Proofs.Graph.Store
import CodeAtlas.Proofs.Ingest.Identity

/-! The world in which files are taken in: the graph store, and a journal of all that was
asked with whether it was carried out. The databases may refuse any request at any time, and
the language model may answer as it likes. Files, parsers and the terminal answer a request
in the same way each time. A request that is refused leaves the store alone. -/

namespace CodeAtlas.Columns

/-! ### Columns of documents -/

/-- The columns in which documents stand row by row. -/
def of (docs : List Document) : Columns :=
  ⟨docs.map (·.text), docs.map (·.about), docs.map (·.id)⟩

/-- The rows as documents. -/
def documents (c : Columns) : List Document :=
  (c.texts.zip (c.abouts.zip c.ids)).map fun row => ⟨row.2.2, row.1, row.2.1⟩

theorem documents_of (docs : List Document) : (of docs).documents = docs := by
  rw [documents, of, List.zip_map', List.zip_map', List.map_map]
  exact List.map_id docs

theorem of_nil : of [] = .empty := rfl

/-- Columns that are in step stay so when each of them grows. -/
theorem push_of (docs : List Document) (doc : Document) :
    (of docs).push doc = of (docs ++ [doc]) := by
  simp only [push, of, List.map_append, List.map_singleton]

theorem length_texts_of (docs : List Document) : (of docs).texts.length = docs.length :=
  List.length_map _

end CodeAtlas.Columns

namespace CodeAtlas.Ingest

open Dialogue

/-! ### The journal -/

/-- A request, and whether it was carried out. -/
structure Entry where
  request : Request
  accepted : Bool

abbrev Journal := List Entry

/-- What was linked as a part of what. -/
inductive Containment where
  | inProject (project id : String)
  | inNode (holder id : String)
  deriving DecidableEq

/-- The part. -/
def Containment.id : Containment → String
  | .inProject _ id | .inNode _ id => id

/-- The containment that a request asks to record. -/
def containment? : Request → Option Containment
  | .graph (.link (.string holder) (.string id) (.string relation) _) =>
    if relation = "CONTAINS" then some (.inNode holder id) else none
  | .graph (.linkProject (.string project) (.string id) (.string relation) _) =>
    if relation = "CONTAINS" then some (.inProject project id) else none
  | _ => none

/-- The id and the fingerprint that a request asks to store. -/
def write? : Request → Option (String × String)
  | .graph (.upsertNode props (.string hash)) =>
    ((props.getOrNull "node_id").string?).map fun id => (id, hash)
  | _ => none

/-- The documents of code that a request asks to add. -/
def documentsIn : Request → List Document
  | .addDocuments .code columns => columns.documents
  | _ => []

namespace Entry

def links (e : Entry) : List Containment :=
  if e.accepted then (containment? e.request).toList else []

def refusedLinks (e : Entry) : List Containment :=
  if e.accepted then [] else (containment? e.request).toList

def writes (e : Entry) : List (String × String) :=
  if e.accepted then (write? e.request).toList else []

def documents (e : Entry) : List Document :=
  if e.accepted then documentsIn e.request else []

/-- Nothing that matters for links, records or documents. -/
def Idle (e : Entry) : Prop :=
  e.links = [] ∧ e.refusedLinks = [] ∧ e.writes = [] ∧ e.documents = []

end Entry

namespace Journal

def links (es : Journal) : List Containment := es.flatMap Entry.links

def refusedLinks (es : Journal) : List Containment := es.flatMap Entry.refusedLinks

def writes (es : Journal) : List (String × String) := es.flatMap Entry.writes

def documents (es : Journal) : List Document := es.flatMap Entry.documents

@[simp] theorem links_append (es es' : Journal) : links (es ++ es') = links es ++ links es' :=
  List.flatMap_append

@[simp] theorem refusedLinks_append (es es' : Journal) :
    refusedLinks (es ++ es') = refusedLinks es ++ refusedLinks es' :=
  List.flatMap_append

@[simp] theorem writes_append (es es' : Journal) : writes (es ++ es') = writes es ++ writes es' :=
  List.flatMap_append

@[simp] theorem documents_append (es es' : Journal) :
    documents (es ++ es') = documents es ++ documents es' :=
  List.flatMap_append

def Idle (es : Journal) : Prop := ∀ e ∈ es, e.Idle

section Idle
variable {es es' : Journal}

theorem Idle.append (h : es.Idle) (h' : es'.Idle) : Journal.Idle (es ++ es') :=
  fun e he => (List.mem_append.mp he).elim (h e) (h' e)

theorem Idle.links (h : es.Idle) : es.links = [] :=
  List.flatMap_eq_nil_iff.mpr fun e he => (h e he).1

theorem Idle.refusedLinks (h : es.Idle) : es.refusedLinks = [] :=
  List.flatMap_eq_nil_iff.mpr fun e he => (h e he).2.1

theorem Idle.writes (h : es.Idle) : es.writes = [] :=
  List.flatMap_eq_nil_iff.mpr fun e he => (h e he).2.2.1

theorem Idle.documents (h : es.Idle) : es.documents = [] :=
  List.flatMap_eq_nil_iff.mpr fun e he => (h e he).2.2.2

end Idle

end Journal

/-! ### The world -/

structure Ledger where
  store : Graph.Store
  journal : Journal

/-- What stands around the databases, and how these behave. -/
structure Surroundings where
  /-- Answers of files, parsers, the classifier and the terminal. -/
  answer : (q : Request) → Except Failure q.Answer
  /-- The language model, which may go by all that has happened. -/
  reply : Journal → String → Except Failure String
  /-- Why a database does not carry a request out, if it does not. -/
  refusal : Journal → Request → Option Failure

namespace Ledger

def empty : Ledger := ⟨.empty, []⟩

/-- The store after a request was carried out. -/
def storeAfter (s : Ledger) : Request → Graph.Store
  | .graph q => (s.store.answer q).2
  | _ => s.store

def note (s : Ledger) (q : Request) (accepted : Bool) : Ledger :=
  ⟨if accepted then s.storeAfter q else s.store, s.journal ++ [⟨q, accepted⟩]⟩

end Ledger

namespace Surroundings

variable (w : Surroundings)

def result (s : Ledger) : (q : Request) → Except Failure q.Answer
  | .graph q =>
    match w.refusal s.journal (.graph q) with
    | some e => .error e
    | none => .ok (s.store.answer q).1
  | .addDocuments into columns =>
    match w.refusal s.journal (.addDocuments into columns) with
    | some e => .error e
    | none => .ok ()
  | .generate prompt => w.reply s.journal prompt
  | q => w.answer q

def world : World Ledger := fun q s => (w.result s q, s.note q (w.result s q).isOk)

/-- The databases carry everything out. -/
def Serves : Prop := ∀ es q, w.refusal es q = none

/-- A reply of the language model is a function of the prompt. -/
def Steady : Prop := ∀ es es' prompt, w.reply es prompt = w.reply es' prompt

variable {w}

theorem result_graph (s : Ledger) (q : Graph.Query) :
    w.result s (.graph q) =
      match w.refusal s.journal (.graph q) with
      | some e => .error e
      | none => .ok (s.store.answer q).1 := rfl

theorem result_addDocuments (s : Ledger) (into : Collection) (columns : Columns) :
    w.result s (.addDocuments into columns) =
      match w.refusal s.journal (.addDocuments into columns) with
      | some e => .error e
      | none => .ok () := rfl

theorem world_graph (s : Ledger) (q : Graph.Query) :
    w.world (.graph q) s =
      match w.refusal s.journal (.graph q) with
      | some e => (.error e, ⟨s.store, s.journal ++ [⟨.graph q, false⟩]⟩)
      | none =>
        (.ok (s.store.answer q).1, ⟨(s.store.answer q).2, s.journal ++ [⟨.graph q, true⟩]⟩) := by
  unfold world
  rw [result_graph]
  cases w.refusal s.journal (.graph q) <;> rfl

theorem world_addDocuments (s : Ledger) (into : Collection) (columns : Columns) :
    w.world (.addDocuments into columns) s =
      match w.refusal s.journal (.addDocuments into columns) with
      | some e => (.error e, ⟨s.store, s.journal ++ [⟨.addDocuments into columns, false⟩]⟩)
      | none => (.ok (), ⟨s.store, s.journal ++ [⟨.addDocuments into columns, true⟩]⟩) := by
  unfold world
  rw [result_addDocuments]
  cases w.refusal s.journal (.addDocuments into columns) <;> rfl

/-! ### Requests that reach no database -/

end Surroundings

/-- The request is for none of the databases. -/
def Quiet : Request → Prop
  | .graph _ | .addDocuments _ _ => False
  | _ => True

/-- The request is for no database and not for the language model. -/
def Plain : Request → Prop
  | .generate _ => False
  | q => Quiet q

theorem quiet_of_plain {q : Request} (h : Plain q) : Quiet q := by
  cases q <;> first | exact h | exact h.elim

theorem idle_of_quiet {e : Entry} (h : Quiet e.request) : e.Idle := by
  rcases e with ⟨q, _ | _⟩ <;> cases q <;> first | exact h.elim | exact ⟨rfl, rfl, rfl, rfl⟩

namespace Surroundings

variable {w w' : Surroundings} {α : Type} {post : α → Prop} {d : Dialogue α}

theorem world_quiet {q : Request} (h : Quiet q) (s : Ledger) :
    w.world q s = (w.result s q, ⟨s.store, s.journal ++ [⟨q, (w.result s q).isOk⟩]⟩) := by
  have hstore : s.storeAfter q = s.store := by
    cases q <;> first | exact h.elim | rfl
  simp only [world, Ledger.note, hstore, ite_self]

theorem result_plain {q : Request} (h : Plain q) (s : Ledger) : w.result s q = w.answer q := by
  cases q <;> first | exact h.elim | rfl

/-- Without a request to a database nothing changes but the journal. -/
theorem run_quiet (hd : Keeps w.world Quiet post d) (s : Ledger) :
    ∃ es, Journal.Idle es ∧ (d.run w.world s).2 = ⟨s.store, s.journal ++ es⟩ := by
  induction hd generalizing s with
  | done _ => exact ⟨[], by simp [Journal.Idle], by simp⟩
  | fail e => exact ⟨[], by simp [Journal.Idle], by simp⟩
  | @ask q next hq _ ih =>
    obtain ⟨es, hes, hrun⟩ := ih s (w.world q s).2
    rw [world_quiet hq] at hrun
    refine ⟨⟨q, (w.result s q).isOk⟩ :: es, ?_, ?_⟩
    · rintro e (_ | ⟨_, he⟩)
      · exact idle_of_quiet hq
      · exact hes e he
    · rw [run_ask, world_quiet hq, hrun]
      simp

theorem world_plain {q : Request} (h : Plain q) (s : Ledger) :
    w.world q s = (w.answer q, ⟨s.store, s.journal ++ [⟨q, (w.answer q).isOk⟩]⟩) := by
  rw [world_quiet (quiet_of_plain h), result_plain h]

/-- Plain requests are answered in the same way in every state. -/
theorem run_plain (hd : Keeps w.world Plain post d) (s : Ledger) :
    d.run w.world s = ((d.run w.world .empty).1,
      ⟨s.store, s.journal ++ (d.run w.world .empty).2.journal⟩) := by
  induction hd generalizing s with
  | done _ => simp [Ledger.empty]
  | fail e => simp [Ledger.empty]
  | @ask q next hq _ ih =>
    have hs := ih s ⟨s.store, s.journal ++ [⟨q, (w.answer q).isOk⟩]⟩
    have he := ih s ⟨.empty, [⟨q, (w.answer q).isOk⟩]⟩
    simp only [run_ask, world_plain hq, Ledger.empty, List.nil_append] at hs he ⊢
    rw [hs, he]
    simp

/-- Nor does it matter how the databases and the language model behave. -/
theorem run_plain_congr (hw : w'.answer = w.answer) (hd : Keeps w.world Plain post d)
    (s : Ledger) : d.run w'.world s = d.run w.world s := by
  induction hd generalizing s with
  | done _ => rfl
  | fail e => rfl
  | ask hq _ ih =>
    rw [run_ask, run_ask, world_plain hq, hw, ← world_plain hq]
    exact ih s _

/-- A dialogue of plain requests has one result. -/
theorem keeps_run_plain (hd : Keeps w.world Plain post d) :
    Keeps w.world Plain (fun a => (d.run w.world .empty).1 = .ok a) d := by
  induction hd with
  | done _ => exact .done rfl
  | fail e => exact .fail e
  | @ask q next hq hnext ih =>
    refine .ask hq fun s => (ih s).weaken (fun _ h => h) fun a ha => ?_
    rw [run_ask, run_plain (hnext .empty)]
    simpa only [world_plain hq] using ha

/-! ### Requests to the graph database -/

theorem run_execute (s : Ledger) (q : Graph.Query) :
    (Graph.execute q).run w.world s =
      match w.refusal s.journal (.graph q) with
      | some e => (.error e, ⟨s.store, s.journal ++ [⟨.graph q, false⟩]⟩)
      | none => (.ok (), ⟨(s.store.answer q).2, s.journal ++ [⟨.graph q, true⟩]⟩) := by
  rw [Graph.execute, bind_eq, run_bind, run_request, world_graph]
  cases w.refusal s.journal (.graph q) <;> rfl

/-- Looking a node up gives what the store has. -/
theorem run_getNode (s : Ledger) (id : String) :
    (Graph.getNode (.string id)).run w.world s =
      match w.refusal s.journal (.graph (.node (.string id))) with
      | some e => (.error e, ⟨s.store, s.journal ++ [⟨.graph (.node (.string id)), false⟩]⟩)
      | none => (.ok (s.store.get? id),
          ⟨s.store, s.journal ++ [⟨.graph (.node (.string id)), true⟩]⟩) := by
  have hrecords : (Graph.records (.node (.string id))).run w.world s =
      w.world (.graph (.node (.string id))) s := run_request ..
  rw [Graph.getNode, bind_eq, run_bind, Graph.firstRecord, bind_eq, run_bind, hrecords, world_graph]
  cases w.refusal s.journal (.graph (.node (.string id))) with
  | some e => rfl
  | none =>
    simp only [Graph.Store.answer_node]
    cases s.store.get? id <;> rfl

/-- A summary is made without the databases. -/
theorem keeps_summarize (code : String) :
    Keeps w.world Quiet (fun _ => True) (Assistant.summarize code) := by
  refine keeps_bind (keeps_attempt (keeps_request trivial fun _ => trivial)) fun r _ => ?_
  cases r with
  | ok text => exact .done trivial
  | error e => exact keeps_request_bind trivial fun _ => .done trivial

end Surroundings

/-! ### Fingerprints in the store -/

/-- A definition is up to date when the store has the fingerprint of its code. -/
theorem upToDate_iff (store : Graph.Store) (d : Definition) :
    SourceFile.upToDate d (store.get? d.id) = true ↔
      store.hash? d.id = some (fingerprint d.fullCode) := by
  rw [Graph.Store.hash?]
  cases store.get? d.id with
  | none => simp [SourceFile.upToDate]
  | some props =>
    simp only [SourceFile.upToDate, Bool.and_eq_true, same_string_iff, Option.bind_some]
    cases props <;> simp [Fields.getOrNull, Json.string?]

end CodeAtlas.Ingest
