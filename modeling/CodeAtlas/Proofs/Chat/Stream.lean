import CodeAtlas.Proofs.Chat.LookUps
import CodeAtlas.Proofs.Json.ReadBack
import CodeAtlas.Proofs.Json.Written

/-! The lines of a chat answer. Whatever the model and the databases do, a chat hands out
nothing, or one line that declines, or a first line about the answer and then its text. The text
is what the model's streamed reply brought, and a last piece if that reply failed. Every line
ends with its only newline, and a line of text is read back as the text. -/

namespace CodeAtlas.Chat

open Dialogue

variable {σ : Type} {world : World σ}

/-! ### What is handed out -/

/-- The line that is handed out. -/
def line? : Exchange → Option String
  | ⟨.emit line, _⟩ => some line
  | _ => none

/-- The reply to a request for a streamed one; it may have failed at once. -/
def reply? : Exchange → Option (Except Failure Reply)
  | ⟨.chatStream _, r⟩ => some r
  | _ => none

/-- The messages of a request for a streamed reply. -/
def prompt? : Exchange → Option (List Message)
  | ⟨.chatStream ms, _⟩ => some ms
  | _ => none

/-- The messages of a request for a short reply. -/
def chat? : Exchange → Option (List Message)
  | ⟨.chat ms, _⟩ => some ms
  | _ => none

def linesOf (es : List Exchange) : List String :=
  es.filterMap line?

def repliesOf (es : List Exchange) : List (Except Failure Reply) :=
  es.filterMap reply?

def promptsOf (es : List Exchange) : List (List Message) :=
  es.filterMap prompt?

def chatsOf (es : List Exchange) : List (List Message) :=
  es.filterMap chat?

/-- Nobody has turned a line down. -/
def AllTaken (es : List Exchange) : Prop :=
  ∀ e ∈ es, (line? e).isSome → e.answer.isOk = true

/-- The texts that a reply has brought. -/
def delivered : Except Failure Reply → List String
  | .ok r => r.pieces.filterMap id
  | .error _ => []

/-- Why a reply failed, at once or on the way. -/
def failure? : Except Failure Reply → Option Failure
  | .ok r => r.broken
  | .error e => some e

/-- What is told of a reply: its texts, and one more when it failed. -/
def told (r : Except Failure Reply) : List String :=
  delivered r ++ ((failure? r).map fun e => "Error generating answer: " ++ e.message).toList

def contentLine (text : String) : String :=
  (Line.content text).text

def refusalLine : String :=
  contentLine "Sorry, I can't answer that question"

/-- The lines of a chat with the replies that they come from, and how the chat ended. Only a
chat that failed can be without lines. After the first line it goes on to the end, unless a line
is turned down; the model is asked for a reply only after the line about the answer was taken. -/
inductive IsStream (ended : Except Failure Unit) (es : List Exchange) : Prop where
  | nothing (hended : ended.isOk = false) (hlines : linesOf es = []) (hreplies : repliesOf es = [])
  | refusal (hlines : linesOf es = [refusalLine]) (hreplies : repliesOf es = [])
    (hall : AllTaken es → ended = .ok ())
  | answer {intent : Intent} {files : Option (List RetrievedFile)} {graph : Option DependencyGraph}
    (texts : List String)
    (hlines : linesOf es = (Line.metadata intent files graph).text :: texts.map contentLine)
    (hreplies : (repliesOf es).length ≤ 1)
    (htexts : texts <+: (repliesOf es).flatMap told)
    (hall : AllTaken es → ended = .ok () ∧ ∃ r, repliesOf es = [r] ∧ texts = told r)

/-! ### Composition -/

theorem linesOf_append (es fs : List Exchange) : linesOf (es ++ fs) = linesOf es ++ linesOf fs :=
  List.filterMap_append

theorem repliesOf_append (es fs : List Exchange) :
    repliesOf (es ++ fs) = repliesOf es ++ repliesOf fs :=
  List.filterMap_append

theorem AllTaken.of_append {es fs : List Exchange} (h : AllTaken (es ++ fs)) : AllTaken fs :=
  fun e he => h e (List.mem_append_right _ he)

/-- What is asked aside is no part of the stream. -/
theorem unseen_of_aside (e : Exchange) (h : Aside e.request) :
    line? e = none ∧ reply? e = none ∧ prompt? e = none := by
  obtain ⟨q, r⟩ := e
  cases q <;> first | exact ⟨rfl, rfl, rfl⟩ | exact h.elim

theorem IsStream.prepend {ended : Except Failure Unit} {es fs : List Exchange}
    (hes : ∀ e ∈ es, Aside e.request) (hfs : IsStream ended fs) : IsStream ended (es ++ fs) := by
  have hlines : linesOf (es ++ fs) = linesOf fs := by
    rw [linesOf_append, linesOf,
      List.filterMap_eq_nil_iff.mpr fun e he => (unseen_of_aside e (hes e he)).1, List.nil_append]
  have hreplies : repliesOf (es ++ fs) = repliesOf fs := by
    rw [repliesOf_append, repliesOf,
      List.filterMap_eq_nil_iff.mpr fun e he => (unseen_of_aside e (hes e he)).2.1,
      List.nil_append]
  cases hfs with
  | nothing hended h h' => exact .nothing hended (hlines.trans h) (hreplies.trans h')
  | refusal h h' hall =>
    exact .refusal (hlines.trans h) (hreplies.trans h') fun htaken => hall htaken.of_append
  | answer texts h h' htexts hall =>
    refine .answer texts (hlines.trans h) (hreplies ▸ h') (hreplies ▸ htexts) fun htaken => ?_
    rw [hreplies]
    exact hall htaken.of_append

/-- Every run of a dialogue is the stream of a chat. -/
def Streams (world : World σ) (d : Dialogue Unit) : Prop :=
  ∀ s, IsStream (d.run world s).1 (d.transcript world s)

/-- What is only looked up comes before the stream and adds nothing to it. -/
theorem streams_bind {α : Type} {d : Dialogue α} {f : α → Dialogue Unit}
    (hd : Keeps world Aside (fun _ => True) d) (hf : ∀ a, Streams world (f a)) :
    Streams world (d.bind f) := by
  intro s
  rw [transcript_bind, run_bind]
  refine IsStream.prepend (fun e he => hd.allowed_of_mem_transcript he) ?_
  rcases d.run world s with ⟨_ | a, t⟩
  · exact .nothing rfl rfl rfl
  · exact hf a t

section Emit
variable {l : Line} {s t : σ} {f : Unit → Dialogue Unit}

theorem transcript_emit (l : Line) (s : σ) :
    (emit l).transcript world s = [⟨.emit l.text, (world (.emit l.text) s).1⟩] :=
  transcript_request world s (.emit l.text)

theorem run_emit (l : Line) (s : σ) : (emit l).run world s = world (.emit l.text) s :=
  run_request world s (.emit l.text)

theorem transcript_emit_ok {u : Unit} (h : world (.emit l.text) s = (.ok u, t)) :
    ((emit l).bind f).transcript world s = ⟨.emit l.text, .ok u⟩ :: (f u).transcript world t := by
  rw [transcript_bind, transcript_emit, run_emit, h]
  rfl

theorem run_emit_ok {u : Unit} (h : world (.emit l.text) s = (.ok u, t)) :
    ((emit l).bind f).run world s = (f u).run world t := by
  rw [run_bind, run_emit, h]

/-- With a line that is turned down a chat is over. -/
theorem transcript_emit_error {e : Failure} (h : world (.emit l.text) s = (.error e, t)) :
    ((emit l).bind f).transcript world s = [⟨.emit l.text, .error e⟩] := by
  rw [transcript_bind, transcript_emit, run_emit, h]
  rfl

theorem not_allTaken_of_error {e : Failure} {es : List Exchange} :
    ¬ AllTaken (⟨.emit l.text, .error e⟩ :: es) := by
  intro h
  cases h _ List.mem_cons_self rfl

end Emit

theorem streams_refuse : Streams world refuse := by
  intro s
  rw [refuse, transcript_emit, run_emit]
  refine .refusal rfl rfl fun htaken => ?_
  rcases hr : world (.emit (Line.content "Sorry, I can't answer that question").text) s with
    ⟨e | u, t⟩
  · rw [hr] at htaken
    exact absurd htaken not_allTaken_of_error
  · rfl

/-- Hand out texts, one line for each. -/
def emitTexts (texts : List String) : Dialogue Unit :=
  forEach texts fun t => emit (.content t)

theorem emitTexts_cons (t : String) (texts : List String) :
    emitTexts (t :: texts) = (emit (.content t)).bind fun _ => emitTexts texts := rfl

def IsEmit : Request → Prop
  | .emit _ => True
  | _ => False

theorem keeps_emitTexts (texts : List String) :
    Keeps world IsEmit (fun _ => True) (emitTexts texts) := by
  induction texts with
  | nil => exact .done trivial
  | cons t texts ih => exact keeps_request_bind trivial fun _ => ih

theorem unseen_of_isEmit (e : Exchange) (h : IsEmit e.request) :
    reply? e = none ∧ prompt? e = none ∧ chat? e = none := by
  obtain ⟨q, r⟩ := e
  cases q <;> first | exact ⟨rfl, rfl, rfl⟩ | exact h.elim

/-- Lines are handed out in order, up to the first that is turned down. -/
theorem lines_emitTexts (texts : List String) (s : σ) :
    ∃ sent, sent <+: texts ∧
      linesOf ((emitTexts texts).transcript world s) = sent.map contentLine ∧
      (AllTaken ((emitTexts texts).transcript world s) →
        ((emitTexts texts).run world s).1 = .ok () ∧ sent = texts) := by
  induction texts generalizing s with
  | nil => exact ⟨[], List.prefix_rfl, rfl, fun _ => ⟨rfl, rfl⟩⟩
  | cons t texts ih =>
    rw [emitTexts_cons]
    rcases hr : world (.emit (Line.content t).text) s with ⟨e | u, s'⟩
    · rw [transcript_emit_error hr]
      refine ⟨[t], (List.prefix_cons_inj t).mpr List.nil_prefix, rfl, fun htaken => ?_⟩
      exact absurd htaken not_allTaken_of_error
    · rw [transcript_emit_ok hr, run_emit_ok hr]
      obtain ⟨sent, hprefix, hlines, hall⟩ := ih s'
      refine ⟨t :: sent, (List.prefix_cons_inj t).mpr hprefix, ?_, fun htaken => ?_⟩
      · exact congrArg (contentLine t :: ·) hlines
      · obtain ⟨hended, rfl⟩ := hall fun e he => htaken e (List.mem_cons_of_mem _ he)
        exact ⟨hended, rfl⟩

/-- The model is asked once; all that is told of its reply follows. -/
theorem emitAnswer_eq (question instructions : String) :
    emitAnswer question instructions =
      .ask (.chatStream (Assistant.messages instructions question)) fun r =>
        emitTexts (told r) := by
  unfold emitAnswer Assistant.streamAnswer
  simp only [request, attempt, bind_eq, ask_bind]
  congr 1
  funext r
  cases r with
  | ok reply => rfl
  | error e => rfl

theorem streams_answer (intent : Intent) (files : Option (List RetrievedFile))
    (graph : Option DependencyGraph) (question instructions : String) :
    Streams world ((emit (.metadata intent files graph)).bind fun _ =>
      emitAnswer question instructions) := by
  intro s
  -- The model is not even asked when the first line is turned down.
  rcases hr : world (.emit (Line.metadata intent files graph).text) s with ⟨e | u, s₁⟩
  · rw [transcript_emit_error hr]
    exact .answer [] rfl (Nat.zero_le 1) List.prefix_rfl fun htaken =>
      absurd htaken not_allTaken_of_error
  · rw [transcript_emit_ok hr, run_emit_ok hr, emitAnswer_eq, transcript_ask, run_ask]
    obtain ⟨(r : Except Failure Reply), s₂⟩ :=
      world (.chatStream (Assistant.messages instructions question)) s₁
    obtain ⟨sent, hprefix, hlines, hall⟩ := lines_emitTexts (told r) s₂
    have hone : repliesOf (⟨.emit (Line.metadata intent files graph).text, .ok u⟩ ::
        ⟨.chatStream (Assistant.messages instructions question), r⟩ ::
          (emitTexts (told r)).transcript world s₂) = [r] :=
      congrArg (r :: ·)
        ((keeps_emitTexts _).filterMap_eq_nil (fun e he => (unseen_of_isEmit e he).1) _)
    refine .answer sent (congrArg (_ :: ·) hlines) (by rw [hone]; rfl) ?_ fun htaken => ?_
    · rw [hone, List.flatMap_singleton]
      exact hprefix
    · obtain ⟨hended, hsent⟩ := hall fun e he => htaken e (.tail _ (.tail _ he))
      exact ⟨hended, r, hone, hsent⟩

/-- Nobody turns a line down. -/
def TakesLines (world : World σ) : Prop :=
  ∀ line s, (world (.emit line) s).1 = .ok ()

theorem TakesLines.allTaken {α : Type} (h : TakesLines world) (d : Dialogue α) (s : σ) :
    AllTaken (d.transcript world s) := by
  rintro ⟨q, r⟩ he hline
  obtain ⟨t, hr⟩ := answer_of_mem_transcript world s he
  cases q with
  | emit line =>
    change r.isOk = true
    rw [show r = .ok () from hr.trans (h line t)]
    rfl
  | _ => cases hline

/-! ### Lines -/

/-- A line ends with its only newline. -/
theorem exists_body (l : Line) : ∃ body : String, l.text = body ++ "\n" ∧ '\n' ∉ body.toList := by
  refine ⟨l.toJson.write, rfl, ?_⟩
  rw [Json.write, String.toList_ofList]
  exact (Json.legible_writeChars l.toJson).newline_notMem

/-- A file as it is read. Its relevance is what the digits of the double say. -/
def IsFile (f : RetrievedFile) (j : Json) : Prop :=
  ∃ y, Json.ReadsAs f.relevance y ∧
    j = .object [("path", .string f.path), ("content", .string f.content), ("relevance", .float y)]

def AreFiles : Option (List RetrievedFile) → Json → Prop
  | none, j => j = .null
  | some files, j => ∃ items, j = .array items ∧ List.Forall₂ IsFile files items

/-- A graph as it is read. -/
def shownGraph (g : DependencyGraph) : Json :=
  .object [("nodes", .array (g.nodes.map .string)),
    ("edges", .array (g.edges.map fun e =>
      .object [("from", .string e.source), ("to", .string e.target)])),
    ("description", .string g.description)]

/-- What a line is read as. -/
def Line.IsRead : Line → Json → Prop
  | .metadata intent files graph, j => ∃ found, AreFiles files found ∧
    j = .object [("type", .string "metadata"), ("intent", .string intent.name),
      ("retrievedFiles", found), ("dependencyGraph", .ofOption (graph.map shownGraph))]
  | .content text, j => j = .object [("type", .string "content"), ("content", .string text)]

theorem exists_isFile (f : RetrievedFile) : ∃ j, f.toJson.Rereads j ∧ IsFile f j := by
  obtain ⟨y, hy⟩ := Json.exists_readsAs f.relevance
  refine ⟨_, Json.rereads_object ?_ (Json.rereadsFields_cons _ rfl (Json.rereadsFields_cons _ rfl
    (Json.rereadsFields_cons _ ⟨y, rfl, hy⟩ rfl))), y, hy, rfl⟩
  simp

theorem exists_areFiles (files : Option (List RetrievedFile)) :
    ∃ j, (Json.ofOption (files.map fun fs => .array (fs.map RetrievedFile.toJson))).Rereads j ∧
      AreFiles files j := by
  cases files with
  | none => exact ⟨.null, rfl, rfl⟩
  | some files =>
    choose shown hreads hshown using exists_isFile
    refine ⟨.array (files.map shown), Json.rereads_array ?_, _, rfl, ?_⟩
    · exact List.forall₂_map_left_iff.mpr (List.forall₂_map_right_iff.mpr
        (List.forall₂_same.mpr fun f _ => hreads f))
    · exact List.forall₂_map_right_iff.mpr (List.forall₂_same.mpr fun f _ => hshown f)

theorem rereads_shownGraph (graph : Option DependencyGraph) :
    (Json.ofOption (graph.map DependencyGraph.toJson)).Rereads
      (.ofOption (graph.map shownGraph)) := by
  cases graph with
  | none => rfl
  | some g =>
    have hedges : Json.Exact (.array (g.edges.map Edge.toJson)) := by
      refine Json.rereads_array (List.forall₂_same.mpr fun _ he => ?_)
      obtain ⟨e, -, rfl⟩ := List.mem_map.mp he
      exact Json.rereads_object (by simp)
        (Json.rereadsFields_cons _ rfl (Json.rereadsFields_cons _ rfl rfl))
    exact Json.rereads_object (by simp) (Json.rereadsFields_cons _ (Json.exact_ofStrings g.nodes)
      (Json.rereadsFields_cons _ hedges (Json.rereadsFields_cons _ rfl rfl)))

/-- Every line is read back with all that is on it. -/
theorem exists_isRead (l : Line) : ∃ j, Json.read l.text = .ok j ∧ l.IsRead j := by
  cases l with
  | metadata intent files graph =>
    obtain ⟨found, hfound, hfiles⟩ := exists_areFiles files
    refine ⟨_, Json.read_line (Json.rereads_object ?_ (Json.rereadsFields_cons _ rfl
      (Json.rereadsFields_cons _ rfl (Json.rereadsFields_cons _ hfound
        (Json.rereadsFields_cons _ (rereads_shownGraph graph) rfl))))), found, hfiles, rfl⟩
    simp
  | content text =>
    exact ⟨_, Json.read_line (Json.rereads_object (by simp)
      (Json.rereadsFields_cons _ rfl (Json.rereadsFields_cons _ rfl rfl))), rfl⟩

/-- A text is read back from its line. -/
theorem read_contentLine (text : String) :
    Json.read (contentLine text) =
      .ok (.object [("type", .string "content"), ("content", .string text)]) := by
  obtain ⟨j, hread, rfl⟩ := exists_isRead (.content text)
  exact hread

/-- The two kinds of lines name their kind. -/
theorem metadata_ne_contentLine (intent : Intent) (files : Option (List RetrievedFile))
    (graph : Option DependencyGraph) (text : String) :
    (Line.metadata intent files graph).text ≠ contentLine text := by
  intro h
  obtain ⟨j, hread, found, -, rfl⟩ := exists_isRead (.metadata intent files graph)
  rw [h, read_contentLine] at hread
  simp at hread

theorem IsStream.exists_line {ended : Except Failure Unit} {es : List Exchange}
    (h : IsStream ended es) {line : String} (hline : line ∈ linesOf es) :
    ∃ l : Line, line = l.text := by
  cases h with
  | nothing _ hlines _ =>
    rw [hlines] at hline
    cases hline
  | refusal hlines _ _ =>
    rw [hlines, List.mem_singleton] at hline
    exact ⟨_, hline⟩
  | answer texts hlines _ _ _ =>
    rw [hlines] at hline
    rcases List.mem_cons.mp hline with rfl | hline
    · exact ⟨_, rfl⟩
    · obtain ⟨t, -, rfl⟩ := List.mem_map.mp hline
      exact ⟨_, rfl⟩

/-- A stream with a line about the answer, of which no line is turned down, goes on with all that
is told of one reply. -/
theorem IsStream.told_of_taken {ended : Except Failure Unit} {es : List Exchange}
    (h : IsStream ended es) (htaken : AllTaken es) {intent : Intent}
    {files : Option (List RetrievedFile)} {graph : Option DependencyGraph}
    (hfirst : (linesOf es).head? = some (Line.metadata intent files graph).text) :
    ended = .ok () ∧ ∃ r, repliesOf es = [r] ∧
      linesOf es = (Line.metadata intent files graph).text :: (told r).map contentLine := by
  cases h with
  | nothing _ hlines _ =>
    rw [hlines] at hfirst
    cases hfirst
  | refusal hlines _ _ =>
    rw [hlines] at hfirst
    exact absurd (Option.some.inj hfirst).symm (metadata_ne_contentLine intent files graph _)
  | answer texts hlines _ _ hall =>
    obtain ⟨hended, r, hreplies, rfl⟩ := hall htaken
    rw [hlines] at hfirst ⊢
    exact ⟨hended, r, hreplies, congrArg (· :: _) (Option.some.inj hfirst)⟩

/-! ### Chats -/

theorem streams_answerWith (intent : Intent) (q : Question) :
    Streams world (answerWith intent q) := by
  have hretrieval : Streams world (answerByRetrieval q intent) := by
    refine streams_bind aside_retrieve ?_
    rintro ⟨files, blocks⟩
    dsimp only
    split
    · exact streams_refuse
    · exact streams_answer _ _ _ _ _
  cases intent with
  | graphReasoning =>
    refine streams_bind aside_relations fun found => ?_
    cases found with
    | none => exact streams_refuse
    | some found => exact streams_answer _ _ _ _ _
  | codeRetrieval => exact hretrieval
  | docsRetrieval => exact hretrieval
  | hybrid =>
    exact streams_bind aside_relationsContext fun _ =>
      streams_bind aside_retrievalContext fun _ => streams_answer _ _ _ _ _
  | testAnalysis => exact streams_bind aside_findTestGaps fun _ => streams_answer _ _ _ _ _
  | general => exact streams_answer _ _ _ _ _

/-- Whatever the model and the databases do, the lines of a chat are a stream; each ends with
its only newline, and a line of text is read back as that text. -/
theorem answer_stream (world : World σ) (q : Question) (s : σ) :
    IsStream ((answer q).run world s).1 ((answer q).transcript world s) ∧
      (∀ line ∈ linesOf ((answer q).transcript world s),
        ∃ body : String, line = body ++ "\n" ∧ '\n' ∉ body.toList) ∧
      ∀ text, Json.read (contentLine text) =
        .ok (.object [("type", .string "content"), ("content", .string text)]) := by
  have hstream : IsStream ((answer q).run world s).1 ((answer q).transcript world s) :=
    streams_bind (aside_classifyIntent q.prompt) (fun intent => streams_answerWith intent q) s
  refine ⟨hstream, fun line hline => ?_, read_contentLine⟩
  obtain ⟨l, rfl⟩ := hstream.exists_line hline
  exact exists_body l

/-- A model that greets, leaves a piece without content, and breaks off. -/
def greeter : World Unit
  | .chat _, _ => (.ok "general", ())
  | .chatStream _, _ => (.ok ⟨[some "Hi\n", none, some "😀"], some (.reported "gone")⟩, ())
  | .emit _, _ => (.ok (), ())
  | _, _ => (.error .untold, ())

example : linesOf ((answer ⟨"Hi", none⟩).transcript greeter ()) =
    [(Line.metadata .general none none).text, contentLine "Hi\n", contentLine "😀",
      contentLine "Error generating answer: gone"] := by
  decide +kernel

end CodeAtlas.Chat
