import CodeAtlas.Proofs.Dialogue.Transcript
import CodeAtlas.Proofs.Ingest.Turn

/-! Full and graph-only ingestion in lockstep. Taking a file in with documents asks just what
taking it in without them asks, and now and then puts a batch of documents away. The vector
database has no part in what the graph, the language model or the files answer, so both ways
leave the same graph behind, for every size of batches. A batch that cannot be put away ends
the full run early; the graph then has what it would have had at that point. -/

namespace CodeAtlas.Ingest

open Dialogue

/-- The request puts documents into the vector database. -/
def isInsert : Request → Bool
  | .addDocuments _ _ => true
  | _ => false

/-! ### Parts that are the same in both modes -/

theorem pads_execute (q : Graph.Query) : Pads isInsert (Graph.execute q) (Graph.execute q) :=
  (pads_request rfl).bind fun _ => .done ()

theorem pads_getNode (id : Json) : Pads isInsert (Graph.getNode id) (Graph.getNode id) := by
  have hfirst : Pads isInsert (Graph.firstRecord (.node id)) (Graph.firstRecord (.node id)) :=
    (pads_request rfl).bind fun _ => .done _
  refine hfirst.bind fun r => ?_
  cases r with
  | none => exact .done none
  | some r => exact (pads_ofExcept _).bind fun _ => .done _

theorem pads_summarize (code : String) :
    Pads isInsert (Assistant.summarize code) (Assistant.summarize code) := by
  refine (pads_attempt_request rfl).bind fun r => ?_
  cases r with
  | ok text => exact .done _
  | error e => exact (pads_request rfl).bind fun _ => .done _

theorem pads_extractDefinitions (language content path : String) (maxRows : Int) :
    Pads isInsert (extractDefinitions language content path maxRows)
      (extractDefinitions language content path maxRows) := by
  unfold extractDefinitions
  split
  · exact .done none
  next lang _ =>
    have hparse : Pads isInsert (parse lang content).attempt (parse lang content).attempt := by
      refine .ask rfl fun r => ?_
      cases r with
      | ok a => exact pads_attempt_request (q := .parseCode lang content) rfl
      | error e => exact .done _
    refine hparse.bind fun r => ?_
    cases r with
    | ok tree => exact (pads_ofExcept _).bind fun _ => .done _
    | error e => exact (pads_request rfl).bind fun _ => .done none

theorem pads_readSource (path project : String) :
    Pads isInsert (readSource path project) (readSource path project) := by
  refine (pads_attempt_request rfl).bind fun r => ?_
  cases r with
  | error e => exact (pads_request rfl).bind fun _ => .done none
  | ok content =>
    have hlanguage : Pads isInsert (detectLanguage (Paths.normalize path) content)
        (detectLanguage (Paths.normalize path) content) := by
      unfold detectLanguage
      split
      · exact .done _
      · exact pads_request (q := .classify content) rfl
    exact hlanguage.bind fun _ => (pads_extractDefinitions ..).bind fun _ => .done _

namespace SourceFile

variable (f : SourceFile)

theorem pads_ingestDefinition (d : Definition) :
    Pads isInsert (f.ingestDefinition d) (f.ingestDefinition d) := by
  refine (pads_getNode _).bind fun existing => ?_
  split
  · exact .done none
  · refine (pads_summarize d.fullCode).bind fun summary => (pads_execute _).bind fun _ => ?_
    rw [linkDefinition_eq]
    exact (pads_execute _).bind fun _ => .done _

/-! ### Batches in between -/

/-- Whether a batch is put away or held back, what comes after it is the same. -/
theorem pads_flushFull_bind (batchSize : Int) (batch : Columns)
    {next : Columns → Dialogue Unit} {d : Dialogue Unit}
    (h : ∀ batch, Pads isInsert (next batch) d) :
    Pads isInsert ((flushFull batchSize batch).bind next) d := by
  rw [flushFull_eq]
  split
  · exact .put (q := .addDocuments .code batch) rfl (fun _ => h .empty) fun _ => rfl
  · exact h batch

theorem pads_ingestAll (batchSize : Int) (ds : List Definition) (batch : Columns) :
    Pads isInsert (f.ingestAll (.full batchSize) ds batch) (f.ingestAll .graphOnly ds .empty) := by
  induction ds generalizing batch with
  | nil =>
    rcases f.ingestAll_nil (.full batchSize) batch with h | h
    · rw [h]
      exact .done ()
    · rw [h]
      exact .put rfl (fun _ => .done ()) fun _ => rfl
  | cons d rest ih =>
    rw [ingestAll_cons, ingestAll_cons]
    refine (f.pads_ingestDefinition d).bind fun r => ?_
    cases r with
    | none => exact ih batch
    | some doc => exact pads_flushFull_bind batchSize _ ih

theorem pads_ingest (batchSize : Int) :
    Pads isInsert (f.ingest (.full batchSize)) (f.ingest .graphOnly) :=
  (pads_execute _).bind fun _ => (pads_execute _).bind fun _ =>
    f.pads_ingestAll batchSize f.extraction.definitions .empty

end SourceFile

theorem pads_ingestFile (batchSize : Int) (path project : String) :
    Pads isInsert (ingestFile (.full batchSize) path project)
      (ingestFile .graphOnly path project) := by
  rw [ingestFile_eq, ingestFile_eq]
  refine (pads_readSource path project).bind fun r => ?_
  cases r with
  | none => exact .done ()
  | some f => exact f.pads_ingest batchSize

/-- Besides putting documents away, a full run asks what a graph-only run asks, in the same
order and with the same answers, and ends in the same way; if a batch cannot be put away, it
ends with that failure and has asked the first part of it. All graph statements with their
parameters and all prompts of summaries are among what is asked. -/
theorem ingestFile_lockstep {σ ν : Type} (world : World σ) (view : σ → ν)
    (hunseen : Unseen world isInsert view) (batchSize : Int) (path project : String) (s t : σ)
    (hst : view s = view t) :
    (ExtrasGoWell isInsert ((ingestFile (.full batchSize) path project).transcript world s) →
      besides isInsert ((ingestFile (.full batchSize) path project).transcript world s) =
        (ingestFile .graphOnly path project).transcript world t ∧
      ((ingestFile (.full batchSize) path project).run world s).1 =
        ((ingestFile .graphOnly path project).run world t).1 ∧
      view ((ingestFile (.full batchSize) path project).run world s).2 =
        view ((ingestFile .graphOnly path project).run world t).2) ∧
    ∀ e ∈ (ingestFile (.full batchSize) path project).transcript world s,
      isInsert e.request = true → ∀ why, e.answer = .error why →
      besides isInsert ((ingestFile (.full batchSize) path project).transcript world s) <+:
        (ingestFile .graphOnly path project).transcript world t ∧
      ((ingestFile (.full batchSize) path project).run world s).1 = .error why := by
  have hpads := pads_ingestFile batchSize path project
  refine ⟨fun hok => hpads.transcript_eq hunseen hst hok, fun e he hinsert why hfail => ?_⟩
  exact ⟨hpads.transcript_prefix hunseen hst, hpads.run_of_failed he hinsert hfail⟩

/-! ### Ledgers -/

/-- The journal without what was put into the vector database. -/
def Journal.withoutInserts (es : Journal) : Journal :=
  es.filter fun e => !isInsert e.request

/-- A ledger as everything but the vector database sees it. -/
def Ledger.graphSide (s : Ledger) : Graph.Store × Journal :=
  (s.store, s.journal.withoutInserts)

/-- The vector database may go by all that has happened, and nothing goes by the vector
database. -/
structure Surroundings.IgnoresInserts (w : Surroundings) : Prop where
  reply : ∀ es es' prompt, Journal.withoutInserts es = es'.withoutInserts →
    w.reply es prompt = w.reply es' prompt
  refusal : ∀ es es' q, isInsert q = false → Journal.withoutInserts es = es'.withoutInserts →
    w.refusal es q = w.refusal es' q

theorem Surroundings.IgnoresInserts.unseen {w : Surroundings} (h : w.IgnoresInserts) :
    Unseen w.world isInsert Ledger.graphSide where
  answer q s t hq hst := by
    obtain ⟨hstore, hjournal⟩ := Prod.mk.inj hst
    have hresult : w.result s q = w.result t q := by
      cases q with
      | graph q => rw [result_graph, result_graph, h.refusal _ _ _ hq hjournal, hstore]
      | generate prompt => exact h.reply _ _ _ hjournal
      | addDocuments into columns => cases hq
      | _ => rfl
    have hafter : s.storeAfter q = t.storeAfter q := by
      cases q with
      | graph q => exact congrArg (fun store => (store.answer q).2) hstore
      | _ => exact hstore
    refine ⟨hresult, ?_⟩
    change Ledger.graphSide (s.note q (w.result s q).isOk) = (t.note q (w.result t q).isOk).graphSide
    simp only [Ledger.graphSide, Ledger.note, Journal.withoutInserts, List.filter_append] at hjournal ⊢
    rw [hresult, hafter, hstore, hjournal]
  frame q s hq := by
    change Ledger.graphSide (s.note q (w.result s q).isOk) = s.graphSide
    have hafter : s.storeAfter q = s.store := by
      cases q with
      | addDocuments into columns => rfl
      | _ => cases hq
    simp [Ledger.graphSide, Ledger.note, Journal.withoutInserts, hafter, hq]

/-- Two functions of one row each, and a vector database that works or does not. -/
def counter (vectors : Bool) : Surroundings :=
  { Surroundings.ofText "def add(): pass\ndef take(): pass" (.mk "module" 0 1 (.ok "") []
      [.mk "function_definition" 0 0 (.ok "") [] [.mk "identifier" 0 0 (.ok "add") [] []],
        .mk "function_definition" 1 1 (.ok "") [] [.mk "identifier" 1 1 (.ok "take") [] []]]) with
    refusal _ q := if !vectors && isInsert q then some (.reported "no vectors") else none }

theorem counter_ignoresInserts (vectors : Bool) : (counter vectors).IgnoresInserts where
  reply _ _ _ _ := rfl
  refusal _ _ _ _ _ := rfl

set_option maxRecDepth 10000 in
/-- With batches of one document the second function is never come to when the first batch
cannot be put away. -/
theorem counter_lockstep :
    (besides isInsert ((ingestFile (.full 1) "till.py" "shop").transcript
        (counter true).world .empty) =
      (ingestFile .graphOnly "till.py" "shop").transcript (counter true).world .empty ∧
      ((ingestFile (.full 1) "till.py" "shop").transcript (counter true).world .empty).length = 15) ∧
    (besides isInsert ((ingestFile (.full 1) "till.py" "shop").transcript
        (counter false).world .empty) <+:
      (ingestFile .graphOnly "till.py" "shop").transcript (counter false).world .empty ∧
      ((ingestFile (.full 1) "till.py" "shop").transcript (counter false).world .empty).length = 10 ∧
      ((ingestFile .graphOnly "till.py" "shop").transcript (counter false).world .empty).length =
        13) := by
  have hwell : (((ingestFile (.full 1) "till.py" "shop").transcript (counter true).world .empty).all
      fun e => !isInsert e.request || e.answer.isOk) = true := by
    decide +kernel
  have hfailed : (((ingestFile (.full 1) "till.py" "shop").transcript
      (counter false).world .empty).any fun e => isInsert e.request && !e.answer.isOk) = true := by
    decide +kernel
  obtain ⟨e, he, hbad⟩ := List.any_eq_true.mp hfailed
  obtain ⟨hinsert, hbad⟩ := (Bool.and_eq_true ..).mp hbad
  refine ⟨⟨?_, by decide +kernel⟩, ?_, by decide +kernel, by decide +kernel⟩
  · refine ((ingestFile_lockstep _ _ (counter_ignoresInserts true).unseen 1 "till.py" "shop"
      .empty .empty rfl).1 fun e he hq => ?_).1
    simpa [hq] using List.all_eq_true.mp hwell e he
  · cases hr : e.answer with
    | ok a => simp [hr, Except.isOk, Except.toBool] at hbad
    | error why =>
      exact ((ingestFile_lockstep _ _ (counter_ignoresInserts false).unseen 1 "till.py" "shop"
        .empty .empty rfl).2 e he hinsert why hr).1

end CodeAtlas.Ingest
