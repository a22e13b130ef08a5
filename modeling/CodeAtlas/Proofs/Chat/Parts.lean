import CodeAtlas.Proofs.Chat.Stream

/-! An answer from both the graph and retrieved code carries what an answer from each alone would
show. The three are separate conversations: they agree because they look up the same things, and
the answers to these are taken to be fixed. What the model says to anything else is free, also in
the middle of the combined answer. -/

namespace CodeAtlas.Chat

open Dialogue

variable {σ : Type} {world : World σ} {q : Question}

/-! ### What a conversation shows -/

/-- How a conversation ended, the lines that were handed out, and the prompts of streamed
replies. -/
structure View where
  ended : Except Failure Unit
  lines : List String
  prompts : List (List Message)

def view (world : World σ) (d : Dialogue Unit) (s : σ) : View :=
  ⟨(d.run world s).1, linesOf (d.transcript world s), promptsOf (d.transcript world s)⟩

namespace View

/-- It failed before anything was handed out. -/
def FailsFirst (v : View) (e : Failure) : Prop :=
  v.ended = .error e ∧ v.lines = []

def Declines (v : View) : Prop :=
  v.lines = [refusalLine]

/-- The first line is this one, and is read back as it. -/
def BeginsWith (v : View) (l : Line) : Prop :=
  v.lines.head? = some l.text ∧ ∃ j, Json.read l.text = .ok j ∧ l.IsRead j

end View

section Bind
variable {α : Type} {d : Dialogue α} {s t : σ}

/-- Look-ups that go well do not show. -/
theorem view_bind_ok (hd : Keeps world Aside (fun _ => True) d) {a : α}
    (hrun : d.run world s = (.ok a, t)) (f : α → Dialogue Unit) :
    view world (d.bind f) s = view world (f a) t := by
  have hlines := hd.filterMap_bind_ok (fun e he => (unseen_of_aside e he).1) hrun f
  have hprompts := hd.filterMap_bind_ok (fun e he => (unseen_of_aside e he).2.2) hrun f
  rw [view, view, run_bind_of_ok world hrun, linesOf, hlines, promptsOf, hprompts]
  rfl

theorem view_bind_error (hd : Keeps world Aside (fun _ => True) d) {e : Failure}
    (hrun : d.run world s = (.error e, t)) (f : α → Dialogue Unit) :
    view world (d.bind f) s = ⟨.error e, [], []⟩ := by
  have hlines := hd.filterMap_bind_error (fun e he => (unseen_of_aside e he).1) hrun f
  have hprompts := hd.filterMap_bind_error (fun e he => (unseen_of_aside e he).2.2) hrun f
  rw [view, run_bind, hrun, linesOf, hlines, promptsOf, hprompts]

theorem chatsOf_bind_ok {a : α} {β : Type} (hrun : d.run world s = (.ok a, t))
    (f : α → Dialogue β) :
    chatsOf ((d.bind f).transcript world s) =
      chatsOf (d.transcript world s) ++ chatsOf ((f a).transcript world t) := by
  rw [transcript_bind, hrun, chatsOf, List.filterMap_append]
  rfl

end Bind

theorem view_refuse (world : World σ) (s : σ) :
    (view world refuse s).lines = [refusalLine] ∧ (view world refuse s).prompts = [] := by
  rw [view, refuse, transcript_emit]
  exact ⟨rfl, rfl⟩

/-! ### Streamed answers -/

/-- A streamed answer under a first line. -/
theorem view_answer (htakes : TakesLines world) (l : Line) (question instructions : String)
    (s : σ) :
    (view world ((emit l).bind fun _ => emitAnswer question instructions) s).BeginsWith l ∧
      (view world ((emit l).bind fun _ => emitAnswer question instructions) s).prompts =
        [Assistant.messages instructions question] ∧
      chatsOf (((emit l).bind fun _ => emitAnswer question instructions).transcript world s) =
        [] := by
  have htaken : world (.emit l.text) s = (.ok (), (world (.emit l.text) s).2) :=
    Prod.ext (htakes l.text s) rfl
  -- After the one request to the model only lines are handed out.
  rw [View.BeginsWith, view, transcript_emit_ok htaken, emitAnswer_eq, transcript_ask]
  refine ⟨⟨rfl, exists_isRead l⟩, ?_, ?_⟩
  · exact congrArg (_ :: ·)
      ((keeps_emitTexts _).filterMap_eq_nil (fun e he => (unseen_of_isEmit e he).2.1) _)
  · exact (keeps_emitTexts _).filterMap_eq_nil (fun e he => (unseen_of_isEmit e he).2.2) _

theorem not_declines_of_beginsWith {v : View} {intent : Intent}
    {files : Option (List RetrievedFile)} {graph : Option DependencyGraph}
    (h : v.BeginsWith (.metadata intent files graph)) : ¬ v.Declines := by
  intro hdeclines
  have hfirst := h.1
  rw [hdeclines] at hfirst
  exact metadata_ne_contentLine intent files graph _ (Option.some.inj hfirst).symm

theorem lines_ne_nil_of_beginsWith {v : View} {l : Line} (h : v.BeginsWith l) : v.lines ≠ [] := by
  intro hnil
  have hfirst := h.1
  rw [hnil] at hfirst
  cases hfirst

/-- The model's short answer never fails. -/
theorem run_answer (world : World σ) (question instructions : String) (s : σ) :
    ∃ text t, (Assistant.answer question instructions).run world s = (.ok text, t) ∧
      chatsOf ((Assistant.answer question instructions).transcript world s) =
        [Assistant.messages instructions question] := by
  unfold Assistant.answer Assistant.ask
  simp only [request, attempt, bind_eq, ask_bind, run_ask, transcript_ask]
  rcases world (.chat (Assistant.messages instructions question)) s with ⟨e | text, t⟩
  · exact ⟨_, _, rfl, rfl⟩
  · exact ⟨_, _, rfl, rfl⟩

/-! ### The graph's part -/

section Relations
variable {s t : σ} {descriptions : List String} {graph : DependencyGraph}

theorem chat?_of_isGraph (e : Exchange) (h : IsGraph e.request) : chat? e = none := by
  obtain ⟨q, r⟩ := e
  cases q <;> first | rfl | exact h.elim

theorem chatsOf_relations (s : σ) :
    chatsOf ((relations q).transcript world s) = [planMessages q] := by
  obtain ⟨next, hnext, hgraph⟩ := relations_eq_ask world q
  rw [hnext, transcript_ask]
  exact congrArg (_ :: ·) ((hgraph _).filterMap_eq_nil chat?_of_isGraph _)

theorem view_relations_error {e : Failure} (h : (relations q).run world s = (.error e, t)) :
    view world (answerByRelations q) s = ⟨.error e, [], []⟩ :=
  view_bind_error aside_relations h _

theorem view_relations_none (h : (relations q).run world s = (.ok none, t)) :
    view world (answerByRelations q) s = view world refuse t :=
  view_bind_ok aside_relations h _

theorem view_relations_some
    (h : (relations q).run world s = (.ok (some (descriptions, graph)), t)) :
    view world (answerByRelations q) s =
      view world ((emit (.metadata .graphReasoning none (some graph))).bind fun _ =>
        emitAnswer (relationsPrompt q.prompt descriptions) Assistant.Prompts.general) t :=
  view_bind_ok aside_relations h _

theorem relationsContext_error {e : Failure} (h : (relations q).run world s = (.error e, t)) :
    (relationsContext q).run world s = (.error e, t) := by
  rw [relationsContext, bind_eq, run_bind, h]

theorem relationsContext_none (h : (relations q).run world s = (.ok none, t)) :
    (relationsContext q).run world s = (.ok none, t) ∧
      chatsOf ((relationsContext q).transcript world s) = [planMessages q] := by
  rw [relationsContext, bind_eq, run_bind_of_ok world h, chatsOf_bind_ok h, chatsOf_relations]
  exact ⟨rfl, rfl⟩

theorem relationsContext_some
    (h : (relations q).run world s = (.ok (some (descriptions, graph)), t)) :
    ∃ text t', (relationsContext q).run world s = (.ok (some (text, graph)), t') ∧
      chatsOf ((relationsContext q).transcript world s) = [planMessages q,
        Assistant.messages Assistant.Prompts.general (relationsPrompt q.prompt descriptions)] := by
  obtain ⟨text, t', hanswer, hchats⟩ := run_answer world
    (relationsPrompt q.prompt descriptions) Assistant.Prompts.general t
  refine ⟨text, t', ?_, ?_⟩
  · rw [relationsContext, bind_eq, run_bind_of_ok world h]
    exact run_bind_of_ok world hanswer _
  · rw [relationsContext, bind_eq, chatsOf_bind_ok h, chatsOf_relations]
    have hrest := chatsOf_bind_ok hanswer fun text => .done (some (text, graph))
    rw [hchats] at hrest
    exact congrArg (_ :: ·) hrest

end Relations

/-! ### The part of retrieved code -/

section Retrieval
variable {s t : σ} {files : List RetrievedFile} {blocks : List String} {intent : Intent}

theorem view_retrieval_error {e : Failure} (h : (retrieve q).run world s = (.error e, t)) :
    view world (answerByRetrieval q intent) s = ⟨.error e, [], []⟩ :=
  view_bind_error aside_retrieve h _

theorem view_retrieval_nil (h : (retrieve q).run world s = (.ok ([], blocks), t)) :
    view world (answerByRetrieval q intent) s = view world refuse t :=
  view_bind_ok aside_retrieve h _

theorem view_retrieval_files (h : (retrieve q).run world s = (.ok (files, blocks), t))
    (hne : files ≠ []) :
    view world (answerByRetrieval q intent) s =
      view world ((emit (.metadata intent (some files) none)).bind fun _ => emitAnswer
        (retrievalPrompt q.prompt (joinBlocks blocks)) Assistant.Prompts.grounded) t := by
  rw [answerByRetrieval, bind_eq, view_bind_ok aside_retrieve h]
  simp [hne]

theorem retrievalContext_error {e : Failure} (h : (retrieve q).run world s = (.error e, t)) :
    (retrievalContext q).run world s = (.error e, t) := by
  rw [retrievalContext, bind_eq, run_bind, h]

theorem chatsOf_retrieve (s : σ) : chatsOf ((retrieve q).transcript world s) = [] := by
  have hnearest : Keeps world (fun r => ∃ text count filter, r = .nearest .code text count filter)
      (fun _ => True) (retrieve q) :=
    keeps_request_bind ⟨_, _, _, rfl⟩ fun _ => keeps_ofExcept fun _ _ => trivial
  refine hnearest.filterMap_eq_nil ?_ s
  rintro ⟨_, r⟩ ⟨text, count, filter, rfl⟩
  rfl

theorem retrievalContext_ok (h : (retrieve q).run world s = (.ok (files, blocks), t)) :
    ∃ text t', (retrievalContext q).run world s = (.ok (text, files), t') ∧
      chatsOf ((retrievalContext q).transcript world s) =
        [Assistant.messages Assistant.Prompts.grounded
          (retrievalPrompt q.prompt (joinBlocks blocks))] := by
  obtain ⟨text, t', hanswer, hchats⟩ := run_answer world
    (retrievalPrompt q.prompt (joinBlocks blocks)) Assistant.Prompts.grounded t
  refine ⟨text, t', ?_, ?_⟩
  · rw [retrievalContext, bind_eq, run_bind_of_ok world h]
    exact run_bind_of_ok world hanswer _
  · rw [retrievalContext, bind_eq, chatsOf_bind_ok h, chatsOf_retrieve, List.nil_append]
    have hrest := chatsOf_bind_ok hanswer fun text => .done (text, files)
    rw [hchats] at hrest
    exact hrest

end Retrieval

/-! ### Both parts -/

theorem View.FailsFirst.eq {v : View} {e e' : Failure} (h : v.FailsFirst e) (h' : v.FailsFirst e') :
    e = e' :=
  Except.error.inj (h.1.symm.trans h'.1)

section Fixed
variable (hfixed : ∀ r s t, LooksUp q r → (world r s).1 = (world r t).1)
  (htakes : TakesLines world)
include hfixed

/-- The look-ups of two conversations come to the same. -/
theorem run_fixed {α : Type} {d : Dialogue α} (hd : Keeps world (LooksUp q) (fun _ => True) d)
    {s s' : σ} {r : Except Failure α} (h : d.run world s = (r, s')) (t : σ) :
    ∃ t', d.run world t = (r, t') := by
  refine ⟨(d.run world t).2, Prod.ext ?_ rfl⟩
  rw [(hd.same_way hfixed t s).1, h]

include htakes

/-- The part from the graph fails as the answer from the graph does. Otherwise it comes with the
graph that this begins with, and asks the model what this asks. -/
theorem relationsContext_agrees (s u : σ) :
    (∃ e u', (relationsContext q).run world u = (.error e, u') ∧
      (view world (answerByRelations q) s).FailsFirst e) ∨
    ∃ found u', (relationsContext q).run world u = (.ok found, u') ∧
      ((relations q).run world s).1.map (Option.map (·.2)) = .ok (found.map (·.2)) ∧
      (view world (answerByRelations q) s).lines ≠ [] ∧
      (found = none ↔ (view world (answerByRelations q) s).Declines) ∧
      (∀ text graph, found = some (text, graph) → (view world (answerByRelations q) s).BeginsWith
        (.metadata .graphReasoning none (some graph))) ∧
      chatsOf ((relationsContext q).transcript world u) =
        planMessages q :: (view world (answerByRelations q) s).prompts := by
  -- The answer alone branches on what is found from `s`; from `u` the same is found.
  rcases hs : (relations q).run world s with ⟨e | _ | ⟨descriptions, graph⟩, s'⟩
  all_goals obtain ⟨u', hu⟩ := run_fixed hfixed keeps_relations hs u
  · rw [view_relations_error hs]
    exact .inl ⟨e, u', relationsContext_error hu, rfl, rfl⟩
  · obtain ⟨hlines, hprompts⟩ := view_refuse world s'
    obtain ⟨hrun, hchats⟩ := relationsContext_none hu
    rw [view_relations_none hs, hprompts]
    refine .inr ⟨none, u', hrun, rfl, by simp [hlines], iff_of_true rfl hlines, ?_, hchats⟩
    exact fun text graph h => by cases h
  · obtain ⟨hbegins, hprompts, -⟩ := view_answer htakes
      (.metadata .graphReasoning none (some graph)) (relationsPrompt q.prompt descriptions)
      Assistant.Prompts.general s'
    obtain ⟨text, u'', hrun, hchats⟩ := relationsContext_some hu
    rw [view_relations_some hs, hprompts]
    refine .inr ⟨_, u'', hrun, rfl, lines_ne_nil_of_beginsWith hbegins, ?_, ?_, hchats⟩
    · exact iff_of_false (by simp) (not_declines_of_beginsWith hbegins)
    · rintro _ _ ⟨⟩
      exact hbegins

/-- The part from retrieved code fails as the answer from retrieved code does. Otherwise it comes
with the files that this begins with; without any, this declines. -/
theorem retrievalContext_agrees (intent : Intent) (s u : σ) :
    (∃ e u', (retrievalContext q).run world u = (.error e, u') ∧
      (view world (answerByRetrieval q intent) s).FailsFirst e) ∨
    ∃ text files u', (retrievalContext q).run world u = (.ok (text, files), u') ∧
      ((retrieve q).run world s).1.map (·.1) = .ok files ∧
      (view world (answerByRetrieval q intent) s).lines ≠ [] ∧
      (files = [] ↔ (view world (answerByRetrieval q intent) s).Declines) ∧
      (files ≠ [] → (view world (answerByRetrieval q intent) s).BeginsWith
        (.metadata intent (some files) none)) ∧
      ∃ ms, chatsOf ((retrievalContext q).transcript world u) = [ms] ∧
        (files ≠ [] → (view world (answerByRetrieval q intent) s).prompts = [ms]) := by
  rcases hs : (retrieve q).run world s with ⟨e | ⟨files, blocks⟩, s'⟩
  all_goals obtain ⟨u', hu⟩ := run_fixed hfixed keeps_retrieve hs u
  · rw [view_retrieval_error hs]
    exact .inl ⟨e, u', retrievalContext_error hu, rfl, rfl⟩
  · obtain ⟨text, u'', hrun, hchats⟩ := retrievalContext_ok hu
    refine .inr ⟨text, files, u'', hrun, rfl, ?_⟩
    -- Without files the answer alone declines, while the part goes on and asks the model anyway.
    by_cases hfiles : files = []
    · subst hfiles
      obtain ⟨hlines, -⟩ := view_refuse world s'
      rw [view_retrieval_nil hs]
      exact ⟨by simp [hlines], iff_of_true rfl hlines, absurd rfl, _, hchats, absurd rfl⟩
    · obtain ⟨hbegins, hprompts, -⟩ := view_answer htakes (.metadata intent (some files) none)
        (retrievalPrompt q.prompt (joinBlocks blocks)) Assistant.Prompts.grounded s'
      rw [view_retrieval_files hs hfiles, hprompts]
      refine ⟨lines_ne_nil_of_beginsWith hbegins, ?_, fun _ => hbegins, _, hchats, fun _ => rfl⟩
      exact iff_of_false hfiles (not_declines_of_beginsWith hbegins)

end Fixed

/-- The combined answer fails as its parts do alone, the graph's part first. Otherwise its first
line is read back with the graph that the answer from the graph finds and shows, and none exactly
when that declines, and with the files that the answer from retrieved code finds and shows, and no
files exactly when that declines. Each part asks the model what it would stream alone. -/
theorem answerByBoth_carries_parts {world : World σ} {q : Question}
    (hfixed : ∀ r s t, LooksUp q r → (world r s).1 = (world r t).1) (htakes : TakesLines world)
    (intent : Intent) (s t u : σ) :
    (∀ e, (view world (answerByRelations q) s).FailsFirst e →
      (view world (answerByBoth q) u).FailsFirst e) ∧
    (∀ e, (∀ e', ¬ (view world (answerByRelations q) s).FailsFirst e') →
      (view world (answerByRetrieval q intent) t).FailsFirst e →
      (view world (answerByBoth q) u).FailsFirst e) ∧
    ((∀ e, ¬ (view world (answerByRelations q) s).FailsFirst e) →
      (∀ e, ¬ (view world (answerByRetrieval q intent) t).FailsFirst e) →
      ∃ files graph, ((retrieve q).run world t).1.map (·.1) = .ok files ∧
        ((relations q).run world s).1.map (Option.map (·.2)) = .ok graph ∧
        (view world (answerByBoth q) u).BeginsWith (.metadata .hybrid (some files) graph) ∧
        (graph = none ↔ (view world (answerByRelations q) s).Declines) ∧
        (∀ g, graph = some g → (view world (answerByRelations q) s).BeginsWith
          (.metadata .graphReasoning none (some g))) ∧
        (files = [] ↔ (view world (answerByRetrieval q intent) t).Declines) ∧
        (files ≠ [] → (view world (answerByRetrieval q intent) t).BeginsWith
          (.metadata intent (some files) none)) ∧
        ∃ ms, chatsOf ((answerByBoth q).transcript world u) =
            planMessages q :: (view world (answerByRelations q) s).prompts ++ [ms] ∧
          (files ≠ [] → (view world (answerByRetrieval q intent) t).prompts = [ms])) := by
  rcases relationsContext_agrees hfixed htakes s u with
    ⟨e, u₁, hrun, hfails⟩ | ⟨found, u₁, hrun, hfound, hlines, hnone, hsome, hchats⟩
  · refine ⟨fun e' he' => ?_, fun _ h => absurd hfails (h e), fun h => absurd hfails (h e)⟩
    rw [he'.eq hfails, answerByBoth, bind_eq, view_bind_error aside_relationsContext hrun]
    exact ⟨rfl, rfl⟩
  have hgoes : ∀ e, ¬ (view world (answerByRelations q) s).FailsFirst e := fun e h => hlines h.2
  rcases retrievalContext_agrees hfixed htakes intent t u₁ with
    ⟨e, u₂, hrun₂, hfails⟩ |
      ⟨text, files, u₂, hrun₂, hfound₂, hlines₂, hnil, hfiles, ms, hchats₂, hprompts⟩
  · refine ⟨fun e' h => absurd h (hgoes e'), fun e' _ he' => ?_, fun _ h => absurd hfails (h e)⟩
    rw [he'.eq hfails, answerByBoth, bind_eq, view_bind_ok aside_relationsContext hrun, bind_eq,
      view_bind_error aside_retrievalContext hrun₂]
    exact ⟨rfl, rfl⟩
  · refine ⟨fun e h => absurd h (hgoes e), fun e _ h => absurd h.2 hlines₂, fun _ _ => ?_⟩
    obtain ⟨hbegins, -, hquiet⟩ := view_answer htakes
      (.metadata .hybrid (some files) (found.map (·.2)))
      (hybridPrompt q.prompt (found.map (·.1)) text) Assistant.Prompts.grounded u₂
    refine ⟨files, found.map (·.2), hfound₂, hfound, ?_, ?_, ?_, hnil, hfiles, ms, ?_, hprompts⟩
    · rw [answerByBoth, bind_eq, view_bind_ok aside_relationsContext hrun, bind_eq,
        view_bind_ok aside_retrievalContext hrun₂]
      exact hbegins
    · rw [Option.map_eq_none_iff]
      exact hnone
    · intro g hg
      obtain ⟨⟨text', g'⟩, hfound, rfl⟩ := Option.map_eq_some_iff.mp hg
      exact hsome text' g' hfound
    · rw [answerByBoth, bind_eq, chatsOf_bind_ok hrun, hchats, bind_eq, chatsOf_bind_ok hrun₂,
        hchats₂]
      exact congrArg (fun rest => planMessages q :: _ ++ ([ms] ++ rest)) hquiet

/-! ### A question with both parts -/

def deskQuestion : Question := ⟨"Who uses add?", none⟩

def deskNode (id name : String) : Fields :=
  [("n", .object [("node_id", .string id), ("node_name", .string name),
    ("node_type", .string "function"), ("file_path", .string "desk.py"), ("start_line", .int 1)])]

/-- One function that uses another, and one text that is near. -/
def desk : World Unit
  | .chat _, _ =>
    (.ok "\x7b\"symbols\": [\"add\"], \"operation\": \"called_by\"\x7d", ())
  | .chatStream _, _ => (.ok ⟨[some "total does."], none⟩, ())
  | .graph (.nodesByName _ _ _), _ => (.ok [deskNode "1" "add"], ())
  | .graph _, _ => (.ok [deskNode "2" "total"], ())
  | .nearest _ _ _ _, _ =>
    (.ok (.object [("documents", .array [.array [.string "def add(): pass"]]),
      ("metadatas", .array [.array [.object [("file_path", .string "desk.py"),
        ("language", .string "python")]]]),
      ("distances", .array [.array [.int 0]])]), ())
  | .emit _, _ => (.ok (), ())
  | _, _ => (.error .untold, ())

theorem desk_answers :
    (view desk (answerByRelations deskQuestion) ()).lines ≠ [] ∧
      (view desk (answerByRetrieval deskQuestion .codeRetrieval) ()).lines ≠ [] := by
  decide +kernel

theorem desk_finds_edge :
    ((relations deskQuestion).run desk ()).1.toOption.map (Option.map (·.2.edges)) =
      some (some [⟨"add", "total"⟩]) := by
  decide +kernel

/-- At no distance the nearness is one. -/
theorem desk_finds_file :
    ((retrieve deskQuestion).run desk ()).1.toOption.map
        (fun r => r.1.map fun f => (f.path, f.content, Decimal.Binary.ofFloat f.relevance)) =
      some [("desk.py", "def add(): pass", .finite false 0x10000000000000 (-52) true)] := by
  decide +kernel

theorem desk_both_carries_parts :
    ∃ file graph ms, file.path = "desk.py" ∧ file.content = "def add(): pass" ∧
      Json.ReadsAs file.relevance 1 ∧ graph.edges = [⟨"add", "total"⟩] ∧
      (view desk (answerByBoth deskQuestion) ()).BeginsWith
        (.metadata .hybrid (some [file]) (some graph)) ∧
      (view desk (answerByRelations deskQuestion) ()).BeginsWith
        (.metadata .graphReasoning none (some graph)) ∧
      (view desk (answerByRetrieval deskQuestion .codeRetrieval) ()).BeginsWith
        (.metadata .codeRetrieval (some [file]) none) ∧
      chatsOf ((answerByBoth deskQuestion).transcript desk ()) = planMessages deskQuestion ::
        (view desk (answerByRelations deskQuestion) ()).prompts ++ [ms] ∧
      (view desk (answerByRetrieval deskQuestion .codeRetrieval) ()).prompts = [ms] := by
  obtain ⟨files, graph, hfound, hrelated, hboth, -, hsome, -, hfiles, ms, hchats, hprompts⟩ :=
    (answerByBoth_carries_parts (fun _ _ _ _ => rfl) (fun _ _ => rfl) .codeRetrieval () () ()).2.2
      (fun e h => desk_answers.1 h.2) fun e h => desk_answers.2 h.2
  obtain ⟨graph, rfl, hedges⟩ : ∃ g, graph = some g ∧ g.edges = [⟨"add", "total"⟩] := by
    have hedge := desk_finds_edge
    generalize ((relations deskQuestion).run desk ()).1 = found at hrelated hedge
    obtain _ | _ | ⟨descriptions, g⟩ := found
    · cases hrelated
    · cases hedge
    · cases hrelated
      exact ⟨g, rfl, by simpa [Except.toOption] using hedge⟩
  obtain ⟨file, rfl, hpath, hcontent, hone⟩ : ∃ f, files = [f] ∧ f.path = "desk.py" ∧
      f.content = "def add(): pass" ∧
      Decimal.Binary.ofFloat f.relevance = .finite false 0x10000000000000 (-52) true := by
    have hfile := desk_finds_file
    generalize ((retrieve deskQuestion).run desk ()).1 = found at hfound hfile
    obtain _ | ⟨_ | ⟨f, _ | ⟨f', more⟩⟩, blocks⟩ := found <;> cases hfound <;>
      simp [Except.toOption] at hfile
    exact ⟨f, rfl, hfile⟩
  have hread : Json.ReadsAs file.relevance 1 :=
    Json.readsAs_finite hone ⟨[1], [0], none⟩ (by decide +kernel)
  exact ⟨file, graph, ms, hpath, hcontent, hread, hedges, hboth, hsome graph rfl,
    hfiles (by simp), hchats, hprompts (by simp)⟩

end CodeAtlas.Chat
