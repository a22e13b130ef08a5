import CodeAtlas.Chat.Router
import CodeAtlas.Proofs.Dialogue.Transcript
import CodeAtlas.Proofs.Graph.Scope

/-! What is asked on the way to an answer. The code graph and the vector database are only looked
up, the model is asked for short replies, and files may be read and analysed. Nothing is handed
out meanwhile, and no streamed reply is asked for. -/

namespace CodeAtlas

open Dialogue

variable {σ : Type} {world : World σ} {allowed : Request → Prop}

/-! ### The graph -/

namespace Graph

section
variable {q : Query} (hq : allowed (.graph q))
include hq

theorem keeps_records : Keeps world allowed (fun _ => True) (records q) :=
  keeps_request hq fun _ => trivial

theorem keeps_firstRecord : Keeps world allowed (fun _ => True) (firstRecord q) :=
  keeps_seq (keeps_records hq) fun _ => .done trivial

theorem keeps_nodes :
    Keeps world allowed (fun _ => True) ((records q).bind fun rs => ofExcept (nodesIn rs)) :=
  keeps_seq (keeps_records hq) fun _ => keeps_ofExcept fun _ _ => trivial

/-- A field of the first record, or a value in its place. -/
theorem keeps_firstField (key : String) (missing : Json) :
    Keeps world allowed (fun _ => True) ((firstRecord q).bind fun r =>
      match r with
      | none => .done missing
      | some r => ofExcept (need r key)) := by
  refine keeps_seq (keeps_firstRecord hq) fun r => ?_
  cases r with
  | none => exact .done trivial
  | some r => exact keeps_ofExcept fun _ _ => trivial

end

end Graph

/-! ### The model -/

theorem Assistant.keeps_answer (question instructions : String)
    (hchat : allowed (.chat (messages instructions question))) :
    Keeps world allowed (fun _ => True) (answer question instructions) := by
  refine keeps_bind (keeps_attempt (keeps_request hchat fun _ => trivial)) fun r _ => ?_
  cases r with
  | ok text => exact .done trivial
  | error e => exact .done trivial

namespace Chat

open Assistant (messages)

/-! ### Relations and retrieved code -/

/-- The messages that ask for a plan. -/
def planMessages (q : Question) : List Message :=
  messages Assistant.Prompts.queryPlan q.prompt

/-- What may be asked to find something about a question: a plan, the graph and the vector
database. -/
def LooksUp (q : Question) : Request → Prop
  | .graph _ | .nearest _ _ _ _ => True
  | .chat ms => ms = planMessages q
  | _ => False

def IsGraph : Request → Prop
  | .graph _ => True
  | _ => False

variable {q : Question}

theorem looksUp_of_isGraph (r : Request) (h : IsGraph r) : LooksUp q r := by
  cases r <;> first | exact trivial | exact h.elim

theorem keeps_follow (operation : Graph.Operation) (node : Fields) :
    Keeps world IsGraph (fun _ => True) (follow operation node) := by
  refine keeps_seq (keeps_ofExcept fun _ _ => trivial) fun name => ?_
  refine keeps_seq (keeps_ofExcept fun _ _ => trivial) fun id => ?_
  refine keeps_seq (Graph.keeps_nodes trivial) fun related => ?_
  exact keeps_ofExcept fun _ _ => trivial

theorem keeps_followAll (nodes : List Fields) (operation : Graph.Operation) :
    Keeps world IsGraph (fun _ => True) (followAll nodes operation) := by
  refine keeps_bind (keeps_collect fun node _ => keeps_follow operation node) fun findings _ => ?_
  exact keeps_seq (keeps_ofExcept fun _ _ => trivial) fun _ => .done trivial

theorem keeps_resolve (symbols : List String) (project : Option String) :
    Keeps world IsGraph (fun _ => True) (resolve symbols project) :=
  keeps_bind (keeps_collect fun _ _ => Graph.keeps_nodes trivial) fun _ _ => .done trivial

/-- A plan is asked for first, and then only the graph. -/
theorem relations_eq_ask (world : World σ) (q : Question) :
    ∃ next, relations q = .ask (.chat (planMessages q)) next ∧
      ∀ r, Keeps world IsGraph (fun _ => True) (next r) := by
  unfold relations Assistant.extractPlan Assistant.ask planMessages
  simp only [request, bind_eq]
  refine ⟨_, rfl, fun r => ?_⟩
  cases r with
  | error e => exact .fail e
  | ok reply =>
    have hread : Keeps world IsGraph (fun _ => True) (ofExcept (Assistant.planIn reply)) :=
      keeps_ofExcept fun _ _ => trivial
    refine keeps_seq hread fun plan => ?_
    cases plan with
    | none => exact .done trivial
    | some plan =>
      refine keeps_seq (keeps_resolve plan.symbols q.project) fun nodes => ?_
      split
      · exact .done trivial
      · exact keeps_seq (keeps_followAll nodes plan.operation) fun _ => .done trivial

theorem keeps_relations : Keeps world (LooksUp q) (fun _ => True) (relations q) := by
  obtain ⟨next, hnext, hgraph⟩ := relations_eq_ask world q
  rw [hnext]
  exact .ask rfl fun s => (hgraph _).weaken looksUp_of_isGraph fun _ _ => trivial

theorem keeps_retrieve : Keeps world (LooksUp q) (fun _ => True) (retrieve q) :=
  keeps_request_bind trivial fun _ => keeps_ofExcept fun _ _ => trivial

/-! ### All look-ups -/

/-- Requests besides the streamed answer: all but handing out a line and asking for a streamed
reply. -/
def Aside : Request → Prop
  | .emit _ | .chatStream _ => False
  | _ => True

theorem aside_of_looksUp (r : Request) (h : LooksUp q r) : Aside r := by
  cases r <;> first | exact trivial | exact h.elim

theorem aside_relations : Keeps world Aside (fun _ => True) (relations q) :=
  keeps_relations.weaken aside_of_looksUp fun _ _ => trivial

theorem aside_retrieve : Keeps world Aside (fun _ => True) (retrieve q) :=
  keeps_retrieve.weaken aside_of_looksUp fun _ _ => trivial

theorem aside_classifyIntent (question : String) :
    Keeps world Aside (fun _ => True) (Assistant.classifyIntent question) :=
  keeps_request_bind trivial fun _ => .done trivial

theorem aside_relationsContext : Keeps world Aside (fun _ => True) (relationsContext q) := by
  refine keeps_seq aside_relations fun found => ?_
  cases found with
  | none => exact .done trivial
  | some found => exact keeps_seq (Assistant.keeps_answer _ _ trivial) fun _ => .done trivial

theorem aside_retrievalContext : Keeps world Aside (fun _ => True) (retrievalContext q) :=
  keeps_seq aside_retrieve fun _ =>
    keeps_seq (Assistant.keeps_answer _ _ trivial) fun _ => .done trivial

/-! ### Methods that lack tests -/

/-- Requests besides the streamed answer that are not for the graph. -/
def OffGraph : Request → Prop
  | .graph _ => False
  | r => Aside r

theorem offGraph_analyze (code : String) :
    Keeps world OffGraph (fun _ => True) (Issue.analyze code) := by
  refine keeps_request_bind trivial fun label => ?_
  split
  · refine keeps_request_bind trivial fun _ => keeps_request_bind trivial fun tree => ?_
    refine keeps_seq ?_ fun unused => ?_
    · exact keeps_request_bind trivial fun _ => keeps_ofExcept fun _ _ => trivial
    · exact keeps_ofExcept fun _ _ => trivial
  · refine keeps_bind (keeps_attempt (keeps_request trivial fun _ => trivial)) fun r _ => ?_
    cases r with
    | error e => exact .fail _
    | ok _ =>
      refine keeps_request_bind trivial fun tree => ?_
      exact keeps_seq (keeps_ofExcept fun _ _ => trivial) fun _ => .done trivial
  · exact .done trivial

theorem offGraph_testSigns (path cls method : Json) :
    Keeps world OffGraph (fun _ => True) (Issue.testSigns path cls method) := by
  cases path with
  | string path =>
    refine keeps_bind (keeps_attempt (keeps_request trivial fun _ => trivial)) fun r _ => ?_
    cases r with
    | error e => exact .done trivial
    | ok code =>
      refine keeps_seq (keeps_ofExcept fun _ _ => trivial) fun part => ?_
      cases part with
      | none => exact .done trivial
      | some part => exact keeps_seq (offGraph_analyze part) fun _ => .done trivial
  | _ => exact .fail _

theorem offGraph_pathIsRecent (path : Json) :
    Keeps world OffGraph (fun _ => True) (pathIsRecent path) := by
  unfold pathIsRecent
  split
  · split
    · exact .done trivial
    · refine keeps_request_bind trivial fun kind => ?_
      split
      · exact .done trivial
      · exact keeps_request_bind trivial fun _ => keeps_request_bind trivial fun _ => .done trivial
  · split
    · exact .fail _
    · exact .done trivial

theorem mem_of_mapM_candidate {rs : List Fields} {cs : List Candidate}
    (h : rs.mapM candidate = .ok cs) {c : Candidate} (hc : c ∈ cs) :
    ∃ r ∈ rs, candidate r = .ok c := by
  induction rs generalizing cs with
  | nil =>
    cases h
    cases hc
  | cons r rs ih =>
    rw [List.mapM_cons] at h
    cases hr : candidate r with
    | error e =>
      rw [hr] at h
      cases h
    | ok c' =>
      rw [hr] at h
      cases hrs : rs.mapM candidate with
      | error e =>
        rw [hrs] at h
        cases h
      | ok cs' =>
        rw [hrs] at h
        cases h
        rcases List.mem_cons.mp hc with rfl | hc
        · exact ⟨r, List.mem_cons_self, hr⟩
        · obtain ⟨r', hr', heq⟩ := ih hrs hc
          exact ⟨r', List.mem_cons_of_mem _ hr', heq⟩

theorem eq_of_candidate_eq_ok {r : Fields} {c : Candidate} (h : candidate r = .ok c) :
    c.cls = r.getOrNull "class_name" ∧ c.method = r.getOrNull "method_name" := by
  unfold candidate Graph.need at h
  cases hmethod : r.get? "method_name" with
  | none =>
    rw [hmethod] at h
    cases h
  | some method =>
    rw [hmethod] at h
    cases h
    refine ⟨rfl, ?_⟩
    change _ = (r.get? "method_name").getD .null
    rw [hmethod]
    rfl

/-- It is allowed to look for methods in a project, and to ask about the methods that are known.
Those that the world finds in the project become known. -/
structure Permits (world : World σ) (allowed : Request → Prop) (project : Json)
    (known : Json → Json → Prop) : Prop where
  offGraph : ∀ r, OffGraph r → allowed r
  lookFor : ∀ query : Graph.Query, query.Scoped project → allowed (.graph query)
  askAbout : ∀ cls method, known cls method →
    ∀ query : Graph.Query, query.Unscoped cls method → allowed (.graph query)
  found : ∀ (query : Graph.Query) s (rs : List Fields), query.Scoped project →
    (world (.graph query) s).1 = .ok rs → ∀ r ∈ rs, query.TellsMethod r →
      known (r.getOrNull "class_name") (r.getOrNull "method_name")

section Permits
variable {project : Option String} {known : Json → Json → Prop}
  (h : Permits world allowed (.ofText? project) known)
include h

theorem Permits.keeps_tally {c : Candidate} (hc : known c.cls c.method) :
    Keeps world allowed (fun _ => True) (tally c) := by
  have hmany : Keeps world allowed (fun _ => True) (hasManyCollaborators c.cls) := by
    unfold hasManyCollaborators
    split
    next hcls =>
      have hquery := h.askAbout _ _ hc _ (.collaborators hcls)
      refine keeps_seq (Graph.keeps_firstField hquery _ _) fun count => ?_
      split
      · exact .done trivial
      · exact .fail _
    next => exact .done trivial
  have hoff : ∀ {α : Type} {d : Dialogue α}, Keeps world OffGraph (fun _ => True) d →
      Keeps world allowed (fun _ => True) d := fun hd => hd.weaken h.offGraph fun _ _ => trivial
  have houtside := h.askAbout _ _ hc _ .calledFromOutside
  refine keeps_seq (Graph.keeps_firstField houtside _ _) fun outside => ?_
  refine keeps_seq (hoff (offGraph_testSigns c.path c.cls c.method)) fun signs => ?_
  refine keeps_seq (hoff (offGraph_pathIsRecent c.path)) fun recent => ?_
  exact keeps_seq hmany fun many => .done trivial

theorem Permits.keeps_gap? {c : Candidate} (hc : known c.cls c.method) :
    Keeps world allowed (fun _ => True) (gap? c) := by
  refine keeps_seq (h.keeps_tally hc) fun t => ?_
  split
  · exact .done trivial
  · have hdependencies : Keeps world allowed (fun _ => True)
        (Graph.dependenciesOf c.cls c.method) :=
      keeps_seq (Graph.keeps_records (h.askAbout _ _ hc _ .dependenciesOf)) fun _ =>
        keeps_ofExcept fun _ _ => trivial
    refine keeps_seq hdependencies fun dependencies => ?_
    refine keeps_seq (keeps_ofExcept fun _ _ => trivial) fun focus => ?_
    exact keeps_seq (keeps_ofExcept fun _ _ => trivial) fun _ => .done trivial

theorem Permits.keeps_methodsOf (cls : Json) (method : Option String) :
    Keeps world allowed (fun cs => ∀ c ∈ cs, known c.cls c.method)
      (methodsOf cls method project) := by
  have hlist : Keeps world allowed
      (fun rs => ∀ r ∈ rs, known (r.getOrNull "class_name") (r.getOrNull "method_name"))
      (Graph.listMethods cls (.ofText? project)) := by
    refine keeps_bind (keeps_request_answer (h.lookFor _ (.methods cls))) fun rs hrs => .done ?_
    obtain ⟨s, hanswer⟩ := hrs
    intro r hr
    obtain ⟨hmem, htruthy⟩ := List.mem_filter.mp hr
    exact h.found _ s rs (.methods cls) hanswer r hmem htruthy
  refine keeps_bind hlist fun rs hrs => ?_
  have hcandidates : Keeps world allowed (fun cs => ∀ c ∈ cs, known c.cls c.method)
      (ofExcept (rs.mapM candidate)) := by
    refine keeps_ofExcept fun cs hcs c hc => ?_
    obtain ⟨r, hr, hcandidate⟩ := mem_of_mapM_candidate hcs hc
    obtain ⟨hcls, hmethod⟩ := eq_of_candidate_eq_ok hcandidate
    rw [hcls, hmethod]
    exact hrs r hr
  refine keeps_bind hcandidates fun cs hcs => ?_
  cases method with
  | none => exact .done hcs
  | some method =>
    refine .done fun c hc => hcs c ?_
    split at hc
    · exact hc
    · exact (List.mem_filter.mp hc).1

theorem Permits.keeps_candidates (names : Assistant.TestedNames) :
    Keeps world allowed (fun cs => ∀ c ∈ cs, known c.cls c.method)
      (candidates names project) := by
  have hnode : ∀ method, Keeps world allowed (fun r => ∀ x, r = some x →
      known (x.getOrNull "class_name") (x.getOrNull "method_name"))
      (Graph.methodNode method (.ofText? project)) := by
    intro method
    refine keeps_bind (keeps_request_answer (h.lookFor _ (.methodNode method))) fun rs hrs => ?_
    obtain ⟨s, hanswer⟩ := hrs
    refine .done fun r hr => ?_
    have hmem := List.mem_of_mem_head? (Option.eq_some_of_filter_eq_some hr)
    exact h.found _ s rs (.methodNode method) hanswer r hmem trivial
  unfold candidates
  split
  next =>
    refine keeps_seq (Graph.keeps_firstField (h.lookFor _ (.classOfMethod _)) _ _) fun cls => ?_
    split
    · refine keeps_bind (hnode _) fun r hr => ?_
      cases r with
      | none => exact .done fun c hc => by cases hc
      | some r =>
        refine keeps_bind (keeps_ofExcept fun c hc => eq_of_candidate_eq_ok hc) fun c hc => .done ?_
        intro c' hc'
        rw [List.mem_singleton.mp hc', hc.1, hc.2]
        exact hr r rfl
    · exact h.keeps_methodsOf _ _
  next => exact h.keeps_methodsOf _ _

end Permits

theorem Permits.keeps_findTestGaps {known : Json → Json → Prop}
    (h : Permits world allowed (.ofText? q.project) known) :
    Keeps world allowed (fun _ => True) (findTestGaps q) := by
  have hnames : Keeps world allowed (fun _ => True) (Assistant.extractNames q.prompt) :=
    keeps_request_bind (h.offGraph _ trivial) fun _ => keeps_ofExcept fun _ _ => trivial
  refine keeps_seq hnames fun names => ?_
  cases names with
  | none => exact .fail _
  | some names =>
    simp only
    split
    · exact .done trivial
    · refine keeps_bind (h.keeps_candidates names) fun cs hcs => ?_
      split
      · exact .done trivial
      · exact keeps_bind (keeps_collect fun c hc => h.keeps_gap? (hcs c hc)) fun _ _ =>
          .done trivial

theorem aside_of_offGraph (r : Request) (h : OffGraph r) : Aside r := by
  cases r <;> first | exact trivial | exact h.elim

theorem aside_findTestGaps : Keeps world Aside (fun _ => True) (findTestGaps q) := by
  have hpermits : Permits world Aside (.ofText? q.project) fun _ _ => True :=
    ⟨aside_of_offGraph, fun _ _ => trivial, fun _ _ _ _ _ => trivial,
      fun _ _ _ _ _ _ _ _ => trivial⟩
  exact hpermits.keeps_findTestGaps

end Chat

end CodeAtlas
