import CodeAtlas.Proofs.Chat.StoredCode
import CodeAtlas.Proofs.Ingest.Lockstep

/-! Batches of documents. Taking a file in hands its documents to the vector database now and then,
as soon as there are enough of them, and hands over the rest at the end. Texts, descriptions and
ids are held back in three columns, which stay in step because each document adds a row to all of
them and they begin anew together. In all a run hands over one document for each definition that
is out of date when its turn comes, in the order of the definitions: none gets lost when a batch
is put away, and none is put away twice. -/

namespace CodeAtlas.Ingest

open Dialogue

/-! ### Batches -/

section Batched
variable {α : Type} {size : Int} {xs : List α} {cs : List (List α)}

/-- Items in batches of one size, but for a last one that may be smaller. -/
inductive Batched (size : Int) : List α → List (List α) → Prop where
  | nil : Batched size [] []
  | last {c : List α} (hne : c ≠ []) (hle : c.length ≤ size) : Batched size c [c]
  | cons {c xs : List α} {cs : List (List α)} (hc : c.length = size) (h : Batched size xs cs) :
    Batched size (c ++ xs) (c :: cs)

theorem Batched.flatten_eq (h : Batched size xs cs) : cs.flatten = xs := by
  induction h with
  | nil => rfl
  | last => exact List.append_nil _
  | cons _ _ ih => rw [List.flatten_cons, ih]

theorem Batched.ne_nil (h : Batched size xs cs) (hsize : 0 < size) : ∀ c ∈ cs, c ≠ [] := by
  induction h with
  | nil => simp
  | last hne _ => simpa using hne
  | @cons c xs cs hc _ ih =>
    refine List.forall_mem_cons.mpr ⟨?_, ih⟩
    rintro rfl
    simp at hc
    omega

theorem Batched.length_le (h : Batched size xs cs) : ∀ c ∈ cs, (c.length : Int) ≤ size := by
  induction h with
  | nil => simp
  | last _ hle => simpa using hle
  | cons hc _ ih => exact List.forall_mem_cons.mpr ⟨Int.le_of_eq hc, ih⟩

theorem Batched.length_eq (h : Batched size xs cs) :
    ∀ c ∈ cs.dropLast, (c.length : Int) = size := by
  induction h with
  | nil => simp
  | last => simp
  | @cons c xs cs hc _ ih =>
    cases cs with
    | nil => simp
    | cons c' cs => exact List.forall_mem_cons.mpr ⟨hc, ih⟩

end Batched

/-! ### What is handed over -/

/-- What the vector database is handed at once, in columns. -/
structure Insert extends Columns where
  into : Collection

def insert? : Exchange → Option Insert
  | ⟨.addDocuments into columns, _⟩ => some ⟨columns, into⟩
  | _ => none

def insertsOf (es : List Exchange) : List Insert := es.filterMap insert?

theorem insert?_eq_none (e : Exchange) (h : isInsert e.request = false) : insert? e = none := by
  obtain ⟨q, r⟩ := e
  cases q <;> first | rfl | cases h

namespace SourceFile

variable {f : SourceFile} {w : Surroundings} {d : Definition} {batchSize : Int}

theorem hands_nothing_ingestDefinition (f : SourceFile) (d : Definition) :
    Keeps w.world (fun q => isInsert q = false) (fun _ => True) (f.ingestDefinition d) := by
  refine keeps_bind (keeps_getNode rfl) fun existing _ => ?_
  split
  · exact .done trivial
  · have hsummary : Keeps w.world (fun q => isInsert q = false) (fun _ => True)
        (Assistant.summarize d.fullCode) :=
      (Surroundings.keeps_summarize d.fullCode).weaken
        (fun q hq => by cases q <;> first | rfl | exact hq.elim) fun _ _ => trivial
    refine keeps_bind hsummary fun summary _ => keeps_bind (keeps_execute rfl) fun _ _ => ?_
    rw [linkDefinition_eq]
    exact keeps_bind (keeps_execute rfl) fun _ _ => .done trivial

/-- A document of a definition, with a summary that was made of its code. -/
def Describes (f : SourceFile) (w : Surroundings) (d : Definition) (doc : Document) : Prop :=
  ∃ summary s t, (Assistant.summarize d.fullCode).run w.world s = (.ok summary, t) ∧
    doc = f.document d summary

theorem flushFull_bind (batchSize : Int) (batch : Columns) (next : Columns → Dialogue Unit) :
    (flushFull batchSize batch).bind next =
      if batchSize ≤ batch.texts.length then (addCode batch).bind fun _ => next .empty
      else next batch := by
  rw [flushFull_eq]
  split
  · exact bind_assoc ..
  · rfl

theorem inserts_addCode_bind {batch : Columns} {next : Unit → Dialogue Unit} {s t : Ledger}
    (h : ((addCode batch).bind next).run w.world s = (.ok (), t)) :
    ∃ s', s'.store = s.store ∧ (next ()).run w.world s' = (.ok (), t) ∧
      insertsOf (((addCode batch).bind next).transcript w.world s) =
        ⟨batch, .code⟩ :: insertsOf ((next ()).transcript w.world s') := by
  obtain ⟨r, s', hadd, hnext⟩ := run_bind_eq_ok _ h
  obtain ⟨r', es, hrun, -⟩ := run_addCode (w := w) batch s
  refine ⟨s', ?_, hnext, ?_⟩
  · rw [hrun] at hadd
    rw [← (Prod.mk.inj hadd).2]
  · rw [transcript_bind, hadd]
    have hsaid : (addCode batch).transcript w.world s = [⟨.addDocuments .code batch, _⟩] :=
      transcript_request ..
    rw [hsaid]
    rfl

/-- The dialogue hands over batches: those held back, and documents of the definitions in turn.
In every batch the columns are in step: they are those of one list of documents. -/
def HandsOver (f : SourceFile) (w : Surroundings) (batchSize : Int) (ds : List Definition)
    (batch : List Document) (d : Dialogue Unit) (s : Ledger) : Prop :=
  ∃ docs calls, List.Forall₂ (f.Describes w) ds docs ∧
    insertsOf (d.transcript w.world s) = calls.map (fun docs => ⟨.of docs, .code⟩) ∧
    Batched (max 1 batchSize) (batch ++ docs) calls

/-- What comes before without handing anything over does not matter. -/
theorem HandsOver.prepend {ds : List Definition} {batch : List Document} {α : Type} {a : α}
    {d : Dialogue α} {next : α → Dialogue Unit} {s s' : Ledger}
    (hd : Keeps w.world (fun q => isInsert q = false) (fun _ => True) d)
    (hrun : d.run w.world s = (.ok a, s')) (h : f.HandsOver w batchSize ds batch (next a) s') :
    f.HandsOver w batchSize ds batch (d.bind next) s := by
  rw [HandsOver, insertsOf, hd.filterMap_bind_ok insert?_eq_none hrun]
  exact h

/-- Columns in step get one more row each. A batch that gets its size is put away, and otherwise
it is held back. -/
theorem handsOver_goOn {ds rest : List Definition} {batch : List Document} {doc : Document}
    {s t : Ledger} (hdoc : f.Describes w d doc) (hbatch : (batch.length : Int) < max 1 batchSize)
    (hrest : ∀ batch s', s'.store = s.store → (batch.length : Int) < max 1 batchSize →
      (f.ingestAll (.full batchSize) rest (.of batch)).run w.world s' = (.ok (), t) →
      f.HandsOver w batchSize ds batch (f.ingestAll (.full batchSize) rest (.of batch)) s')
    (h : (f.goOn (.full batchSize) rest (.of batch) doc).run w.world s = (.ok (), t)) :
    f.HandsOver w batchSize (d :: ds) batch (f.goOn (.full batchSize) rest (.of batch) doc) s := by
  have hlength : ((batch ++ [doc]).length : Int) = batch.length + 1 := by simp
  rw [goOn, Columns.push_of, flushFull_bind, Columns.length_texts_of] at h ⊢
  split at h
  next hfull =>
    rw [if_pos hfull]
    obtain ⟨s', hstore, hnext, hinserts⟩ := inserts_addCode_bind h
    obtain ⟨docs, calls, hdocs, hcalls, hbatched⟩ :=
      hrest [] s' hstore (by rw [List.length_nil]; omega) hnext
    refine ⟨doc :: docs, (batch ++ [doc]) :: calls, .cons hdoc hdocs, ?_, ?_⟩
    · rw [hinserts, ← Columns.of_nil, hcalls, List.map_cons]
    · rw [← List.singleton_append, ← List.append_assoc]
      exact .cons (by omega) hbatched
  next hroom =>
    rw [if_neg hroom]
    obtain ⟨docs, calls, hdocs, hcalls, hbatched⟩ := hrest (batch ++ [doc]) s rfl (by omega) h
    refine ⟨doc :: docs, calls, .cons hdoc hdocs, hcalls, ?_⟩
    rwa [List.append_assoc, List.singleton_append] at hbatched

/-- With a batch held back that has not its size yet, the rest of a run hands over the batch and a
document of each definition that is out of date when its turn comes. -/
theorem handsOver_ingestAll {ds : List Definition} {batch : List Document} {s t : Ledger}
    (hbatch : (batch.length : Int) < max 1 batchSize)
    (h : (f.ingestAll (.full batchSize) ds (.of batch)).run w.world s = (.ok (), t)) :
    f.HandsOver w batchSize (outOfDate s.store.hash? ds) batch
      (f.ingestAll (.full batchSize) ds (.of batch)) s := by
  induction ds generalizing batch s with
  | nil =>
    cases batch with
    | nil => exact ⟨[], [], .nil, rfl, .nil⟩
    | cons doc batch =>
      refine ⟨[], [doc :: batch], .nil, ?_, ?_⟩
      · exact congrArg insertsOf
          (transcript_request w.world s (.addDocuments .code (.of (doc :: batch))))
      · rw [List.append_nil]
        exact .last (List.cons_ne_nil _ _) (Int.le_of_lt hbatch)
  | cons d rest ih =>
    rw [ingestAll_cons] at h
    obtain ⟨r, s', hrun, hrest⟩ := run_bind_eq_ok _ h
    rw [ingestAll_cons]
    refine .prepend (hands_nothing_ingestDefinition f d) hrun ?_
    have hturn := turn (w := w) f d s
    rw [hrun] at hturn
    cases hturn with
    | kept hup =>
      rw [outOfDate, if_pos hup]
      exact ih hbatch hrest
    | taken summary _ hstale =>
      obtain ⟨summary', s₁, t₁, hsummary, hdoc⟩ := Chat.exists_summary_of_ingestDefinition hrun
      rw [outOfDate, if_neg hstale, ← hash?_stored (f := f) s.store d summary]
      refine handsOver_goOn ⟨_, _, _, hsummary, hdoc⟩ hbatch (fun batch s₂ hstore hsmall hok => ?_)
        hrest
      have hrest := ih hsmall hok
      rwa [hstore] at hrest

theorem store_of_run_execute {q : Graph.Query} {s s' : Ledger} {u : Unit}
    (h : (Graph.execute q).run w.world s = (.ok u, s')) : s'.store = (s.store.answer q).2 := by
  rw [Surroundings.run_execute] at h
  split at h
  · cases h
  · rw [← (Prod.mk.inj h).2]

/-- The file's own record is stored before the definitions have their turns. -/
theorem handsOver_ingest {s t : Ledger}
    (h : (f.ingest (.full batchSize)).run w.world s = (.ok (), t)) :
    f.HandsOver w batchSize
      (outOfDate (noted s.store.hash? f.nodeId (fingerprint f.content)) f.extraction.definitions) []
      (f.ingest (.full batchSize)) s := by
  obtain ⟨_, s₁, hrecord, h⟩ := run_bind_eq_ok _ h
  obtain ⟨_, s₂, hproject, h⟩ := run_bind_eq_ok _ h
  have hstore : s₂.store = (f.opened s).store := by
    rw [store_of_run_execute hproject, store_of_run_execute hrecord]
    rfl
  have hempty : (([] : List Document).length : Int) < max 1 batchSize := by
    rw [List.length_nil]
    omega
  have hrest := handsOver_ingestAll hempty h
  rw [hstore, hash?_opened] at hrest
  exact .prepend (keeps_execute rfl) hrecord (.prepend (keeps_execute rfl) hproject hrest)

end SourceFile

/-- Batches in columns: each has columns of one length, and together they have all columns. -/
structure Insert.Carry (size : Int) (docs : List Document) (inserts : List Insert) : Prop where
  code : ∀ i ∈ inserts, i.into = .code
  nonempty : ∀ i ∈ inserts, i.texts ≠ []
  aligned : ∀ i ∈ inserts, i.abouts.length = i.texts.length ∧ i.ids.length = i.texts.length
  full : ∀ i ∈ inserts.dropLast, (i.texts.length : Int) = size
  small : ∀ i ∈ inserts, (i.texts.length : Int) ≤ size
  texts : inserts.flatMap (·.texts) = docs.map (·.text)
  abouts : inserts.flatMap (·.abouts) = docs.map (·.about)
  ids : inserts.flatMap (·.ids) = docs.map (·.id)

theorem Batched.carry {size : Int} {docs : List Document} {calls : List (List Document)}
    (h : Batched size docs calls) (hsize : 0 < size) :
    Insert.Carry size docs (calls.map fun docs => ⟨.of docs, .code⟩) where
  code := List.forall_mem_map.mpr fun _ _ => rfl
  nonempty := List.forall_mem_map.mpr fun c hc hnil =>
    h.ne_nil hsize c hc (List.map_eq_nil_iff.mp hnil)
  aligned := List.forall_mem_map.mpr fun _ _ => by simp [Columns.of]
  full := by
    rw [← List.map_dropLast]
    exact List.forall_mem_map.mpr fun c hc => by simpa [Columns.of] using h.length_eq c hc
  small := List.forall_mem_map.mpr fun c hc => by simpa [Columns.of] using h.length_le c hc
  texts := by rw [← h.flatten_eq, List.flatMap_map, List.map_flatten]; rfl
  abouts := by rw [← h.flatten_eq, List.flatMap_map, List.map_flatten]; rfl
  ids := by rw [← h.flatten_eq, List.flatMap_map, List.map_flatten]; rfl

theorem hands_nothing_readSource (w : Surroundings) (path project : String) :
    Keeps w.world (fun q => isInsert q = false) (fun _ => True) (readSource path project) :=
  (Surroundings.keeps_readSource path project).weaken
    (fun q hq => by cases q <;> first | rfl | exact hq.elim) fun _ _ => trivial

/-- What a full run that ends well hands to the vector database: documents of just those definitions
of the file that are out of date when their turn comes, one for each and in their order. It does so
in columns of one length, and all but the last ones have the size of a batch. -/
theorem ingestFile_hands_over_batches {w : Surroundings} {batchSize : Int} {path project : String}
    {s t : Ledger} (h : (ingestFile (.full batchSize) path project).run w.world s = (.ok (), t)) :
    ∃ docs, Insert.Carry (max 1 batchSize) docs
        (insertsOf ((ingestFile (.full batchSize) path project).transcript w.world s)) ∧
      ((w.source path project = .ok none ∧ docs = []) ∨
        ∃ f, w.source path project = .ok (some f) ∧
          List.Forall₂ (f.Describes w) (outOfDate
            (noted s.store.hash? f.nodeId (fingerprint f.content))
            f.extraction.definitions) docs) := by
  have hsize : 0 < max 1 batchSize := by omega
  rw [ingestFile_eq] at h ⊢
  obtain ⟨r, s', hread, hrest⟩ := run_bind_eq_ok _ h
  have hplain := hread
  rw [Surroundings.run_plain (Surroundings.keeps_readSource path project)] at hplain
  obtain ⟨hsource, rfl⟩ := Prod.mk.inj hplain
  rw [insertsOf, (hands_nothing_readSource w path project).filterMap_bind_ok insert?_eq_none hread]
  cases r with
  | none => exact ⟨[], Batched.nil.carry hsize, .inl ⟨hsource, rfl⟩⟩
  | some f =>
    obtain ⟨docs, calls, hdocs, hcalls, hbatched⟩ := SourceFile.handsOver_ingest hrest
    refine ⟨docs, ?_, .inr ⟨f, hsource, hdocs⟩⟩
    have hcarry := hbatched.carry hsize
    rwa [← hcalls] at hcarry

/-! ### Four functions in batches of two -/

namespace Shelf

/-- A function of one row. -/
def function (row : Nat) (name : String) : Node :=
  .mk "function_definition" row row (.ok "") [] [.mk "identifier" row row (.ok name) [] []]

/-- One of the functions, on its row. -/
def early : Surroundings :=
  .ofText "\ndef take(): pass" (.mk "module" 0 1 (.ok "") [] [function 1 "take"])

/-- All of them; the second one is as before. -/
def late : Surroundings :=
  .ofText "def add(): pass\ndef take(): pass\ndef drop(): pass\ndef count(): pass"
    (.mk "module" 0 3 (.ok "") [] [function 0 "add", function 1 "take", function 2 "drop",
      function 3 "count"])

/-- The store after the early file was taken in. -/
def stocked : Ledger := ((ingestFile .graphOnly "shelf.py" "shop").run early.world .empty).2

def fullRun : Except Failure Unit × Ledger :=
  (ingestFile (.full 2) "shelf.py" "shop").run late.world stocked

def handedOver : List Insert :=
  insertsOf ((ingestFile (.full 2) "shelf.py" "shop").transcript late.world stocked)

set_option maxRecDepth 10000 in
/-- The function that is stored already is passed over in the middle of the first batch. -/
theorem late_hands_over_batches :
    fullRun.1.isOk = true ∧
      handedOver.map (·.ids) = [["shelf.py:add:1", "shelf.py:drop:3"], ["shelf.py:count:4"]] ∧
      ∃ docs, Insert.Carry (max 1 2) docs handedOver ∧
        ((late.source "shelf.py" "shop" = .ok none ∧ docs = []) ∨
          ∃ f, late.source "shelf.py" "shop" = .ok (some f) ∧
            List.Forall₂ (f.Describes late) (outOfDate
              (noted stocked.store.hash? f.nodeId (fingerprint f.content))
              f.extraction.definitions) docs) := by
  have hok : fullRun.1.isOk = true := by decide +kernel
  exact ⟨hok, by decide +kernel, ingestFile_hands_over_batches (run_eq_of_isOk _ hok)⟩

end Shelf

end CodeAtlas.Ingest
