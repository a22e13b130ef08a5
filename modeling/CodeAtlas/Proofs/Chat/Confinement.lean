import CodeAtlas.Proofs.Chat.TestReply
import CodeAtlas.Proofs.Graph.Part

/-! What a report on missing tests depends on. Methods are looked for in the project that the
question names, but what is then asked about each of them names no project: whether it is called
from outside, what its class works with, and what it depends on. So the findings depend on the
project alone where it stands apart from the others, and a class of the same name elsewhere can
change them. -/

namespace CodeAtlas.Chat

open Dialogue
open CodeAtlas.Graph (Network Store Query)

variable {σ : Type} {q : Question} {project : Json}

/-! ### What is asked of the graph -/

/-- Besides looking for methods in the project, the graph is asked about known methods only. -/
def Concerns (project : Json) (known : Json → Json → Prop) : Request → Prop
  | .graph query =>
    query.Scoped project ∨ ∃ cls method, known cls method ∧ query.Unscoped cls method
  | _ => True

theorem permits_concerns {world : World σ} {known : Json → Json → Prop}
    (hfound : ∀ (query : Query) s (rs : List Fields), query.Scoped project →
      (world (.graph query) s).1 = .ok rs → ∀ r ∈ rs, query.TellsMethod r →
        known (r.getOrNull "class_name") (r.getOrNull "method_name")) :
    Permits world (Concerns project known) project known where
  offGraph r h := by cases r <;> first | exact trivial | exact h.elim
  lookFor query h := .inl h
  askAbout cls method hknown query h := .inr ⟨cls, method, hknown, h⟩
  found := hfound

/-- In any world, what is asked names the project only to look for methods. -/
theorem concerns_of_mem_transcript (world : World σ) (s : σ) {e : Exchange}
    (he : e ∈ (findTestGaps q).transcript world s) :
    Concerns (.ofText? q.project) (fun _ _ => True) e.request :=
  (permits_concerns fun _ _ _ _ _ _ _ _ => trivial).keeps_findTestGaps.allowed_of_mem_transcript he

/-! ### A project that stands apart -/

/-- The part of the network that belongs to the project is enough to answer what concerns it. -/
theorem serve_eq_of_concerns {g : Network} (hg : g.Apart project) (rest : World σ) (r : Request)
    (s : σ) (hr : Concerns project ((g.only project).HasMember project) r) :
    g.serve rest r s = (g.only project).serve rest r s := by
  cases r with
  | graph query =>
    have hanswer : (g.only project).answer query = g.answer query := by
      rcases hr with hscoped | ⟨cls, method, hmember, hunscoped⟩
      · exact hg.answer_of_scoped hscoped
      · exact hg.answer_of_unscoped hmember hunscoped
    rw [Network.serve, Network.serve, hanswer]
  | _ => rfl

/-- The findings are those of the project on its own. -/
theorem run_findTestGaps_only {g : Network} (hg : g.Apart (.ofText? q.project)) (rest : World σ)
    (s : σ) : (findTestGaps q).run (g.serve rest) s =
      (findTestGaps q).run ((g.only (.ofText? q.project)).serve rest) s := by
  let known := (g.only (.ofText? q.project)).HasMember (.ofText? q.project)
  have hpermits : Permits ((g.only (.ofText? q.project)).serve rest)
      (Concerns (.ofText? q.project) known) (.ofText? q.project) known := by
    refine permits_concerns fun query s rs hquery hanswer r hr htells => ?_
    rw [Network.eq_answer_of_serve hanswer] at hr
    exact Network.hasMember_of_mem_answer hquery hr htells
  exact hpermits.keeps_findTestGaps.run_congr (serve_eq_of_concerns hg rest) s

/-- The project is a parameter of the statements that look for methods, and of no other statement.
Networks with the same part for the project lead to the same findings, if it stands apart
in both. -/
theorem findTestGaps_confined (q : Question) :
    (∀ (σ : Type) (world : World σ) (s : σ), ∀ e ∈ (findTestGaps q).transcript world s,
      ∀ query, e.request = .graph query →
        query.Scoped (.ofText? q.project) ∧
            query.params.get? "project" = some (.ofText? q.project) ∨
          (∃ cls method, query.Unscoped cls method) ∧ query.params.get? "project" = none) ∧
    ∀ g g' : Network, g.Apart (.ofText? q.project) → g'.Apart (.ofText? q.project) →
      g.only (.ofText? q.project) = g'.only (.ofText? q.project) →
      ∀ (σ : Type) (rest : World σ) (s : σ),
        (findTestGaps q).run (g.serve rest) s = (findTestGaps q).run (g'.serve rest) s := by
  refine ⟨fun σ world s e he query hquery => ?_, fun g g' hg hg' hsame σ rest s => ?_⟩
  · have hconcerns := concerns_of_mem_transcript world s he
    rw [hquery] at hconcerns
    rcases hconcerns with hscoped | ⟨cls, method, -, hunscoped⟩
    · exact .inl ⟨hscoped, hscoped.get?_params⟩
    · exact .inr ⟨⟨cls, method, hunscoped⟩, hunscoped.get?_params⟩
  · rw [run_findTestGaps_only hg, hsame, ← run_findTestGaps_only hg']

/-! ### Two projects in one graph -/

/-- Code as the graph keeps it. -/
def unitOf (id kind name project : String) : String × Fields :=
  (id, [("node_kind", .string kind), ("node_name", .string name), ("project", .string project),
    ("file_path", .string "till.py")])

def partOf (source target : String) : Graph.Edge := ⟨.node source, target, "CONTAINS", []⟩

def linkOf (source target kind : String) : Graph.Edge :=
  ⟨.node source, target, "SEMANTIC_LINK", [("type", .string kind)]⟩

/-- In the shop there are the class `Till`, its method and a function. In the mall there are a
class with the given name, its method and four other classes. -/
def townStore (name : String) : Store :=
  ⟨[unitOf "till" "class" "Till" "shop", unitOf "add" "method" "add" "shop",
    unitOf "sell" "function" "sell" "shop", unitOf "desk" "class" name "mall",
    unitOf "sum" "method" "add" "mall", unitOf "ad" "class" "Ad" "mall",
    unitOf "bank" "class" "Bank" "mall", unitOf "card" "class" "Card" "mall",
    unitOf "day" "class" "Day" "mall"], []⟩

/-- The function calls the method in the shop, and the method in the mall uses the classes. -/
def townEdges : List Graph.Edge :=
  [partOf "till" "add", linkOf "sell" "add" "CALLS", partOf "desk" "sum",
    linkOf "sum" "ad" "USES", linkOf "sum" "bank" "USES", linkOf "sum" "card" "USES",
    linkOf "sum" "day" "USES"]

def town (name : String) : Network where
  store := townStore name
  edges := townEdges
  distinct := by
    change ["till", "add", "sell", "desk", "sum", "ad", "bank", "card", "day"].Nodup
    decide
  anchored e he x hx := by
    have hall : townEdges.all (fun e => e.ends.all (townStore name).has) = true := rfl
    exact List.all_eq_true.mp (List.all_eq_true.mp hall e he) x hx

def shopQuestion : Question := ⟨"Does Till need tests?", some "shop"⟩

/-- Classes elsewhere with other names make no difference. -/
theorem town_findings_same :
    (town "Desk").Apart (.string "shop") ∧ (town "Kiosk").Apart (.string "shop") ∧
      (town "Desk").only (.string "shop") = (town "Kiosk").only (.string "shop") ∧
      (findTestGaps shopQuestion).run ((town "Desk").serve (till tillReply)) () =
        (findTestGaps shopQuestion).run ((town "Kiosk").serve (till tillReply)) () :=
  have hdesk : (town "Desk").Apart (.string "shop") := by decide
  have hkiosk : (town "Kiosk").Apart (.string "shop") := by decide
  ⟨hdesk, hkiosk, rfl, (findTestGaps_confined shopQuestion).2 _ _ hdesk hkiosk rfl _ _ _⟩

theorem run_extractNames_till (g : Network) :
    (Assistant.extractNames shopQuestion.prompt).run (g.serve (till tillReply)) () =
      (.ok (some ⟨some "Till", none⟩), ()) := by
  rw [Assistant.extractNames, bind_eq, run_bind_of_ok _ (a := tillReply) rfl, ← namesIn_tillReply]
  exact run_ofExcept _ _ _

/-- The mall's class is taken for the shop's when it has the same name: the method is reported,
and the classes that the other method uses are to be stood in for. -/
theorem shop_findings_differ :
    (town "Desk").only (.string "shop") = (town "Till").only (.string "shop") ∧
      ((findTestGaps shopQuestion).run ((town "Desk").serve (till tillReply)) ()).1 = .ok none ∧
      ((findTestGaps shopQuestion).run ((town "Till").serve (till tillReply)) ()).1 =
        .ok (some [⟨some "Till", "add", [Signal.calledFromOutside.reason,
          Signal.manyCollaborators.reason], 2, some "Consider mocking: Ad, Bank, Card, Day"⟩]) ∧
      ∃ e ∈ (findTestGaps shopQuestion).transcript ((town "Till").serve (till tillReply)) (),
        ∃ query, e.request = .graph query ∧ query.params.get? "project" = none := by
  refine ⟨rfl, ?_, ?_, ?_⟩
  · rw [findTestGaps, bind_eq, run_bind_of_ok _ (run_extractNames_till _)]
    rfl
  · rw [findTestGaps, bind_eq, run_bind_of_ok _ (run_extractNames_till _)]
    rfl
  · rw [findTestGaps, bind_eq, transcript_bind, run_extractNames_till]
    let counted : Exchange :=
      ⟨.graph (.collaborators (.string "Till")), .ok [[("collaborator_count", .int 4)]]⟩
    refine ⟨counted, List.mem_append_right _ ?_, _, rfl, rfl⟩
    -- Before it come the methods, their callers, the code and the file.
    exact List.mem_of_getElem? (i := 4) rfl

end CodeAtlas.Chat
