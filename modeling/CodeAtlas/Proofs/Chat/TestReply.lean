import CodeAtlas.Proofs.Assistant.Reply
import CodeAtlas.Proofs.Chat.Parts
import CodeAtlas.Proofs.Outcome

/-! Questions about tests. The model is asked first which class and method a question is about,
and what it says decides how the chat goes on. A reply that gives names leads to an answer,
whatever the names are, as long as the graph answers in the columns that it is asked for and the
code can be analysed. Any other reply ends the chat with a failure before its first line. -/

namespace CodeAtlas

open Dialogue

namespace Chat

open Assistant (TestedNames namesIn optionalText? objectIn jsonObject? unfence)

variable {σ : Type} {world : World σ} {q : Question} {reply : String}

/-! ### Replies -/

/-- A reply gives names: from its first opening to its last closing brace there is a JSON object
in which the class and the method are texts, null or left out. -/
def Gives (reply : String) (names : TestedNames) : Prop :=
  ∃ (cs : List Char) (fields : Fields), jsonObject? (unfence reply.toList) = some cs ∧
    Json.readChars cs = .ok (.object fields) ∧
    optionalText? (fields.getOrNull "class_name") = some names.cls ∧
    optionalText? (fields.getOrNull "method_name") = some names.method

theorem namesOf?_eq_some_iff {fields : Fields} {names : TestedNames} :
    Assistant.namesOf? fields = some names ↔
      optionalText? (fields.getOrNull "class_name") = some names.cls ∧
        optionalText? (fields.getOrNull "method_name") = some names.method := by
  unfold Assistant.namesOf?
  cases optionalText? (fields.getOrNull "class_name") with
  | none => simp
  | some cls =>
    cases optionalText? (fields.getOrNull "method_name") with
    | none => simp
    | some method =>
      cases names
      simp

theorem namesIn_eq {found : Option Fields} (h : objectIn reply = .ok found) :
    namesIn reply = .ok (found.bind Assistant.namesOf?) := by
  rw [namesIn, h]
  rfl

theorem Gives.namesIn_eq {names : TestedNames} (h : Gives reply names) :
    namesIn reply = .ok (some names) := by
  obtain ⟨cs, fields, hcs, hread, hnames⟩ := h
  have hholds : Assistant.Holds reply fields :=
    ⟨cs, (Assistant.jsonObject?_unfence _).symm.trans hcs, hread⟩
  have hobject := hholds.objectIn_eq
  rw [Chat.namesIn_eq hobject, Option.bind_some, namesOf?_eq_some_iff.mpr hnames]

/-- A reply gives names, or it counts as none, or it fails. -/
theorem namesIn_cases (reply : String) :
    (∃ names, Gives reply names) ∨ namesIn reply = .ok none ∨
      ∃ e, namesIn reply = .error e ∧ (e = .tooDeep ∨ ∃ n, e = .tooManyDigits n) := by
  rcases Assistant.objectIn_cases reply with
    ⟨fields, ⟨cs, hcs, hread⟩, hobject⟩ | hobject | ⟨why, ⟨hwhy, -⟩, hobject⟩
  · rw [namesIn_eq hobject, Option.bind_some]
    cases hnames : Assistant.namesOf? fields with
    | none => exact .inr (.inl rfl)
    | some names =>
      exact .inl ⟨names, cs, fields, (Assistant.jsonObject?_unfence _).trans hcs, hread,
        namesOf?_eq_some_iff.mp hnames⟩
  · exact .inr (.inl (namesIn_eq hobject))
  · have herror : namesIn reply = .error (Assistant.failureOf why) := by
      rw [namesIn, hobject]
      rfl
    cases why with
    | malformed => exact absurd rfl hwhy
    | tooDeep => exact .inr (.inr ⟨_, herror, .inl rfl⟩)
    | tooManyDigits n => exact .inr (.inr ⟨_, herror, .inr ⟨n, rfl⟩⟩)

/-! ### What the chat relies on -/

/-- A method in a record: its name and path are texts, and its class may be missing. -/
def IsMethod (r : Fields) : Prop :=
  ∃ cls method path, r.getOrNull "class_name" = .ofText? cls ∧
    r.get? "method_name" = some (.string method) ∧ r.getOrNull "file_path" = .string path

/-- A record has the columns that its query asks for. A class without methods is listed with a
method that is null. -/
def Fits : Graph.Query → Fields → Prop
  | .methods _ _, r => r.getOrNull "method_name" = .null ∨ IsMethod r
  | .methodNode _ _, r => IsMethod r
  | .classOfMethod _ _, r => ∃ cls, r.get? "class_name" = some (.ofText? cls)
  | .calledFromOutside _ _, r => ∃ v, r.get? "called_externally" = some v
  | .collaborators _, r => ∃ v, r.get? "collaborator_count" = some v ∧ v.number?.isSome
  | .dependenciesOf _ _, r => ∃ name, r.get? "dependency" = some (.string name)
  | _, _ => True

/-- Lines are taken, the model replies when it is asked for names, the graph answers each query
with records that fit it, code can be analysed and the times of files can be told. -/
structure Serves (world : World σ) (q : Question) (reply : String) : Prop where
  takes : TakesLines world
  replies : ∀ s,
    (world (.chat (Assistant.messages Assistant.Prompts.testedNames q.prompt)) s).1 = .ok reply
  records : ∀ query s, ∃ rs : List Fields,
    (world (.graph query) s).1 = .ok rs ∧ ∀ r ∈ rs, Fits query r
  signs : ∀ path cls method, EndsWell world (fun _ => True)
    (Issue.testSigns (.string path) (.ofText? cls) (.string method))
  times : ∀ path, EndsWell world (fun _ => True) (recentlyModified path recentDays)

/-- A method that was found, with texts for its name and path. -/
def Candidate.Sound (c : Candidate) : Prop :=
  ∃ cls method path, c = ⟨.ofText? cls, .string method, .string path⟩

theorem IsMethod.candidate {r : Fields} (h : IsMethod r) :
    ∃ c, candidate r = .ok c ∧ c.Sound := by
  obtain ⟨cls, method, path, hcls, hmethod, hpath⟩ := h
  refine ⟨⟨.ofText? cls, .string method, .string path⟩, ?_, cls, method, path, rfl⟩
  rw [Chat.candidate, need_eq_ok_iff.mpr hmethod, hcls, hpath]
  rfl

theorem exists_focusOn {ds : List Json} (hds : ∀ d ∈ ds, ∃ name, d = .string name) :
    ∃ focus, focusOn ds = .ok focus := by
  have hnames : ∃ names, ds.mapM Json.string? = some names := by
    induction ds with
    | nil => exact ⟨[], rfl⟩
    | cons d ds ih =>
      obtain ⟨name, rfl⟩ := hds d List.mem_cons_self
      obtain ⟨names, hnames⟩ := ih fun d hd => hds d (List.mem_cons_of_mem _ hd)
      refine ⟨name :: names, ?_⟩
      rw [List.mapM_cons, hnames]
      rfl
  obtain ⟨names, hnames⟩ := hnames
  rw [focusOn, hnames]
  split
  · exact ⟨_, rfl⟩
  · exact ⟨_, rfl⟩

section Serves
variable (h : Serves world q reply)
include h

theorem Serves.endsWell_records (query : Graph.Query) :
    EndsWell world (fun rs => ∀ r ∈ rs, Fits query r) (Graph.records query) :=
  endsWell_request (q := .graph query) (h.records query)

theorem Serves.endsWell_firstRecord (query : Graph.Query) :
    EndsWell world (fun r => ∀ x, r = some x → Fits query x) (Graph.firstRecord query) := by
  refine endsWell_bind (h.endsWell_records query) fun rs hrs => endsWell_done fun x hx => hrs x ?_
  exact List.mem_of_mem_head? (Option.eq_some_of_filter_eq_some hx)

theorem Serves.endsWell_calledFromOutside (cls method : Json) :
    EndsWell world (fun _ => True) (Graph.calledFromOutside cls method) := by
  refine endsWell_bind (h.endsWell_firstRecord _) fun r hr => ?_
  cases r with
  | none => exact endsWell_done trivial
  | some r =>
    obtain ⟨v, hv⟩ := hr r rfl
    exact endsWell_ofExcept ⟨v, need_eq_ok_iff.mpr hv, trivial⟩

theorem Serves.endsWell_hasManyCollaborators (cls : Json) :
    EndsWell world (fun _ => True) (hasManyCollaborators cls) := by
  have hcount : EndsWell world (fun v => v.number?.isSome) (Graph.collaboratorCount cls) := by
    refine endsWell_bind (h.endsWell_firstRecord _) fun r hr => ?_
    cases r with
    | none => exact endsWell_done rfl
    | some r =>
      obtain ⟨v, hv, hnumber⟩ := hr r rfl
      exact endsWell_ofExcept ⟨v, need_eq_ok_iff.mpr hv, hnumber⟩
  unfold hasManyCollaborators
  split
  · refine endsWell_bind hcount fun v hv => ?_
    rw [if_pos hv]
    exact endsWell_done trivial
  · exact endsWell_done trivial

theorem Serves.endsWell_tally {c : Candidate} (hc : c.Sound) :
    EndsWell world (fun _ => True) (tally c) := by
  obtain ⟨cls, method, path, rfl⟩ := hc
  have hrecent : EndsWell world (fun _ => True) (pathIsRecent (.string path)) := by
    unfold pathIsRecent
    dsimp only
    split
    · exact endsWell_done trivial
    · exact h.times path
  refine endsWell_bind (h.endsWell_calledFromOutside _ _) fun outside _ => ?_
  refine endsWell_bind (h.signs path cls method) fun signs _ => ?_
  refine endsWell_bind hrecent fun recent _ => ?_
  exact endsWell_bind (h.endsWell_hasManyCollaborators _) fun many _ => endsWell_done trivial

theorem Serves.endsWell_gap? {c : Candidate} (hc : c.Sound) :
    EndsWell world (fun _ => True) (gap? c) := by
  refine endsWell_bind (h.endsWell_tally hc) fun t _ => ?_
  split
  · exact endsWell_done trivial
  obtain ⟨cls, method, path, rfl⟩ := hc
  have hdependencies : EndsWell world (fun ds => ∀ d ∈ ds, ∃ name, d = .string name)
      (Graph.dependenciesOf (.ofText? cls) (.string method)) := by
    refine endsWell_bind (h.endsWell_records _) fun rs hrs => endsWell_ofExcept ?_
    refine exists_mapM_ok fun r hr => ?_
    obtain ⟨name, hname⟩ := hrs r hr
    exact ⟨.string name, need_eq_ok_iff.mpr hname, name, rfl⟩
  refine endsWell_bind hdependencies fun ds hds => ?_
  obtain ⟨focus, hfocus⟩ := exists_focusOn hds
  refine endsWell_bind (endsWell_ofExcept ⟨focus, hfocus, trivial⟩) fun focus (_ : True) => ?_
  have hgap : ∃ gap, gapOf ⟨.ofText? cls, .string method, .string path⟩ t focus = .ok gap := by
    cases cls with
    | none => exact ⟨_, rfl⟩
    | some cls => exact ⟨_, rfl⟩
  obtain ⟨gap, hgap⟩ := hgap
  exact endsWell_bind (endsWell_ofExcept ⟨gap, hgap, trivial⟩) fun _ (_ : True) =>
    endsWell_done trivial

theorem Serves.endsWell_methodsOf (cls : Json) (method project : Option String) :
    EndsWell world (fun cs => ∀ c ∈ cs, Candidate.Sound c) (methodsOf cls method project) := by
  have hlist : EndsWell world (fun rs => ∀ r ∈ rs, IsMethod r)
      (Graph.listMethods cls (.ofText? project)) := by
    refine endsWell_bind (h.endsWell_records _) fun rs hrs => endsWell_done fun r hr => ?_
    -- Rows of a class without methods are dropped before their columns are looked at.
    obtain ⟨hmem, htruthy⟩ := List.mem_filter.mp hr
    rcases hrs r hmem with hnull | hmethod
    · rw [hnull] at htruthy
      cases htruthy
    · exact hmethod
  refine endsWell_bind hlist fun rs hrs => ?_
  have hcandidates := exists_mapM_ok fun r hr => (hrs r hr).candidate
  refine endsWell_bind (endsWell_ofExcept hcandidates) fun cs hcs => ?_
  cases method with
  | none => exact endsWell_done hcs
  | some m =>
    refine endsWell_done fun c hc => hcs c ?_
    split at hc
    · exact hc
    · exact (List.mem_filter.mp hc).1

theorem Serves.endsWell_candidates (names : TestedNames) (project : Option String) :
    EndsWell world (fun cs => ∀ c ∈ cs, Candidate.Sound c) (candidates names project) := by
  have hclass : ∀ method, EndsWell world (fun _ => True)
      (Graph.classOfMethod (.string method) (.ofText? project)) := by
    intro method
    refine endsWell_bind (h.endsWell_firstRecord _) fun r hr => ?_
    cases r with
    | none => exact endsWell_done trivial
    | some r =>
      obtain ⟨cls, hcls⟩ := hr r rfl
      exact endsWell_ofExcept ⟨_, need_eq_ok_iff.mpr hcls, trivial⟩
  unfold candidates
  split
  · refine endsWell_bind (hclass _) fun cls _ => ?_
    split
    · refine endsWell_bind (h.endsWell_firstRecord _) fun r hr => ?_
      cases r with
      | none => exact endsWell_done fun c hc => by cases hc
      | some r =>
        refine endsWell_bind (endsWell_ofExcept (hr r rfl).candidate) fun c hc => endsWell_done ?_
        intro c' hc'
        rw [List.mem_singleton.mp hc']
        exact hc
    · exact h.endsWell_methodsOf _ _ _
  · exact h.endsWell_methodsOf _ _ _

theorem Serves.run_extractNames (s : σ) :
    ∃ t, (Assistant.extractNames q.prompt).run world s = (namesIn reply, t) := by
  let ask := Request.chat (Assistant.messages Assistant.Prompts.testedNames q.prompt)
  have hask : (Assistant.ask Assistant.Prompts.testedNames q.prompt).run world s =
      (.ok reply, (world ask s).2) :=
    (run_request world s ask).trans (Prod.ext (h.replies s) rfl)
  refine ⟨(world ask s).2, ?_⟩
  rw [Assistant.extractNames, bind_eq, run_bind_of_ok world hask]
  exact run_ofExcept world _ _

/-- Names are enough to find out which methods lack tests. -/
theorem Serves.endsWell_findTestGaps {names : TestedNames} (hnames : Gives reply names) :
    EndsWell world (fun _ => True) (findTestGaps q) := by
  have hextract : EndsWell world (fun r => r = some names) (Assistant.extractNames q.prompt) := by
    intro s
    obtain ⟨t, ht⟩ := h.run_extractNames s
    exact ⟨some names, t, by rw [ht, hnames.namesIn_eq], rfl⟩
  refine endsWell_bind hextract fun found hfound => ?_
  subst hfound
  dsimp only
  split
  · exact endsWell_done trivial
  · refine endsWell_bind (h.endsWell_candidates names q.project) fun cs hcs => ?_
    split
    · exact endsWell_done trivial
    · exact endsWell_bind (endsWell_collect fun c hc => h.endsWell_gap? (hcs c hc))
        fun _ _ => endsWell_done trivial

/-- Without names nothing is found out. -/
theorem Serves.run_findTestGaps (hnames : ¬ ∃ names, Gives reply names) (s : σ) :
    ∃ e t, (findTestGaps q).run world s = (.error e, t) ∧
      (e = .noMember "NoneType" "class_name" ∨ e = .tooDeep ∨ ∃ n, e = .tooManyDigits n) := by
  obtain ⟨t, ht⟩ := h.run_extractNames s
  rw [findTestGaps, bind_eq, run_bind, ht]
  rcases namesIn_cases reply with hgiven | hnone | ⟨e, herror, he⟩
  · exact absurd hgiven hnames
  · rw [hnone]
    exact ⟨_, t, rfl, .inl rfl⟩
  · rw [herror]
    exact ⟨e, t, rfl, .inr he⟩

end Serves

/-- Where all else goes well, the reply alone decides. A reply that gives names leads to the
line about the answer and all that is told of the streamed reply. Any other reply ends the chat
before its first line. -/
theorem answerByTestGaps_of_reply {world : World σ} {q : Question} {reply : String}
    (h : Serves world q reply) (s : σ) :
    ((∃ names, Gives reply names) → ((answerByTestGaps q).run world s).1 = .ok () ∧
      ∃ r, repliesOf ((answerByTestGaps q).transcript world s) = [r] ∧
        linesOf ((answerByTestGaps q).transcript world s) =
          (Line.metadata .testAnalysis none none).text :: (told r).map contentLine) ∧
    ((¬ ∃ names, Gives reply names) → ∃ e, (view world (answerByTestGaps q) s).FailsFirst e ∧
      (e = .noMember "NoneType" "class_name" ∨ e = .tooDeep ∨ ∃ n, e = .tooManyDigits n)) := by
  refine ⟨?_, fun hnames => ?_⟩
  · rintro ⟨names, hnames⟩
    obtain ⟨gaps, t, hrun, -⟩ := h.endsWell_findTestGaps hnames s
    obtain ⟨hbegins, -⟩ := view_answer h.takes (.metadata .testAnalysis none none)
      (testGapsPrompt gaps q.prompt) Assistant.Prompts.testAnalysis t
    have hview : (view world (answerByTestGaps q) s).BeginsWith
        (.metadata .testAnalysis none none) := by
      rw [answerByTestGaps, bind_eq, view_bind_ok aside_findTestGaps hrun]
      exact hbegins
    exact (streams_answerWith .testAnalysis q s).told_of_taken (h.takes.allTaken _ s) hview.1
  · obtain ⟨e, t, hrun, he⟩ := h.run_findTestGaps hnames s
    refine ⟨e, ?_, he⟩
    rw [answerByTestGaps, bind_eq, view_bind_error aside_findTestGaps hrun]
    exact ⟨rfl, rfl⟩

/-! ### A class with one method -/

def tillQuestion : Question := ⟨"Does Till need tests?", none⟩

/-- One class with one method that others call, and a file that is not there. -/
def till (reply : String) : World Unit
  | .chat _, _ => (.ok reply, ())
  | .chatStream _, _ => (.ok ⟨[some "Test add."], none⟩, ())
  | .graph (.methods _ _), _ =>
    (.ok [[("method_name", .string "add"), ("class_name", .string "Till"),
      ("file_path", .string "till.py")]], ())
  | .graph (.calledFromOutside _ _), _ => (.ok [[("called_externally", .bool true)]], ())
  | .graph (.collaborators _), _ => (.ok [[("collaborator_count", .int 4)]], ())
  | .graph (.dependenciesOf _ _), _ => (.ok [[("dependency", .string "log")]], ())
  | .graph _, _ => (.ok [], ())
  | .pathKind _, _ => (.ok .nothing, ())
  | .emit _, _ => (.ok (), ())
  | _, _ => (.error .untold, ())

theorem till_serves (reply : String) : Serves (till reply) tillQuestion reply where
  takes _ _ := rfl
  replies _ := rfl
  records query s := by
    cases query with
    | methods cls project =>
      refine ⟨_, rfl, List.forall_mem_singleton.mpr (.inr ?_)⟩
      exact ⟨some "Till", "add", "till.py", rfl, rfl, rfl⟩
    | calledFromOutside cls method => exact ⟨_, rfl, List.forall_mem_singleton.mpr ⟨_, rfl⟩⟩
    | collaborators cls => exact ⟨_, rfl, List.forall_mem_singleton.mpr ⟨_, rfl, rfl⟩⟩
    | dependenciesOf cls method => exact ⟨_, rfl, List.forall_mem_singleton.mpr ⟨_, rfl⟩⟩
    | _ => exact ⟨[], rfl, fun r hr => by cases hr⟩
  signs path cls method s := ⟨_, (), rfl, trivial⟩
  times path s := ⟨_, (), rfl, trivial⟩

/-- The names may be anywhere in the reply. -/
def tillReply : String := "Sure: \x7b\"class_name\": \"Till\", \"method_name\": null\x7d."

theorem namesIn_tillReply : namesIn tillReply = .ok (some ⟨some "Till", none⟩) := by
  have hnames : (namesIn tillReply).toOption = some (some ⟨some "Till", none⟩) := by
    decide +kernel
  cases h : namesIn tillReply with
  | error e =>
    rw [h] at hnames
    cases hnames
  | ok names =>
    rw [h] at hnames
    exact congrArg _ (Option.some.inj hnames)

theorem till_answered :
    Serves (till tillReply) tillQuestion tillReply ∧ Gives tillReply ⟨some "Till", none⟩ ∧
      ((answerByTestGaps tillQuestion).run (till tillReply) ()).1 = .ok () ∧
      ∃ r, repliesOf ((answerByTestGaps tillQuestion).transcript (till tillReply) ()) = [r] ∧
        linesOf ((answerByTestGaps tillQuestion).transcript (till tillReply) ()) =
          (Line.metadata .testAnalysis none none).text :: (told r).map contentLine := by
  let fields : Fields := [("class_name", .string "Till"), ("method_name", .null)]
  have hobject : jsonObject? (unfence tillReply.toList) =
      some ((Json.object fields).writeChars ++ []) := by
    decide +kernel
  have hexact : (Json.object fields).Exact := Json.rereads_object (by simp [fields])
    (Json.rereadsFields_cons _ rfl (Json.rereadsFields_cons _ rfl rfl))
  have hread : Json.readChars ((Json.object fields).writeChars ++ []) = .ok (.object fields) :=
    Json.readWithin_rereads hexact (by decide) fun c hc => by cases hc
  have hgives : Gives tillReply ⟨some "Till", none⟩ := ⟨_, fields, hobject, hread, rfl, rfl⟩
  exact ⟨till_serves tillReply, hgives,
    (answerByTestGaps_of_reply (till_serves tillReply) ()).1 ⟨_, hgives⟩⟩

/-- A reply without an object ends the chat, although everything else goes well. -/
theorem till_not_answered :
    Serves (till "I do not know.") tillQuestion "I do not know." ∧
      (view (till "I do not know.") (answerByTestGaps tillQuestion) ()).FailsFirst
        (.noMember "NoneType" "class_name") :=
  ⟨till_serves _, rfl, rfl⟩

end Chat

end CodeAtlas
