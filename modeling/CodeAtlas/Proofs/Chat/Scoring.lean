import CodeAtlas.Proofs.Chat.TestReply
import CodeAtlas.Proofs.Lists

/-! Which methods are reported as lacking tests. For every method that a question is about, in
order, it is asked which of six signals hold. A score and a list of reasons grow with each one
that does, and stay in step. The reports are those of the methods for which two signals or more
hold, and a report tells just these. -/

namespace CodeAtlas.Chat

open Dialogue
open Assistant (TestedNames optionalText?)

variable {σ : Type} {world : World σ} {s t : σ}

/-! ### What is found out about a method -/

/-- A method with what is found out about it: whether others call it, the signs in its code, the
days since its file was changed if there is one, how many its class works with if it has one,
and, if it is reported, what it depends on. -/
structure Weighed where
  candidate : Candidate
  outside : Json
  signs : Issue.TestSigns
  age : Option Float
  collaborators : Option Json
  dependencies : List Json

/-- Whether a number is more than three. -/
def isMany : Json → Bool
  | .int n => decide (3 < n)
  | .float x => Json.compareWhole? 3 x == some .lt
  | _ => false

/-- Whether there is a file and it was changed lately, by the days since then. -/
def isFresh (age : Option Float) : Bool := age.any fun days => decide (days ≤ recentDays)

namespace Weighed

/-- Whether a signal holds for a method. -/
def holds (w : Weighed) : Signal → Bool
  | .calledFromOutside => w.outside.truthy
  | .longFunction => w.signs.longFunction
  | .deepNesting => w.signs.deepNesting
  | .manyParams count => w.signs.manyParams && count == w.signs.paramCount
  | .recentlyModified => isFresh w.age
  | .manyCollaborators => w.collaborators.any isMany

/-- The signals that hold, out of all six. -/
def held (w : Weighed) : List Signal :=
  [.calledFromOutside, .longFunction, .deepNesting, .manyParams w.signs.paramCount,
    .recentlyModified, .manyCollaborators].filter w.holds

/-- At least two signals hold. -/
def Qualifies (w : Weighed) : Prop := 2 ≤ w.held.length

instance (w : Weighed) : Decidable w.Qualifies := inferInstanceAs (Decidable (2 ≤ _))

theorem mem_held {w : Weighed} {g : Signal} : g ∈ w.held ↔ w.holds g = true := by
  rw [held, List.mem_filter, and_iff_right_iff_imp]
  intro hg
  cases g with
  | manyParams count =>
    obtain ⟨-, hcount⟩ := Bool.and_eq_true_iff.mp hg
    simp [eq_of_beq hcount]
  | _ => simp

end Weighed

/-- The days since a file was changed; there are none for a path that is empty or leads nowhere. -/
inductive Dated (world : World σ) : Json → σ → Option Float → σ → Prop where
  | unnamed {path : Json} (s : σ) (hpath : path.truthy = false) : Dated world path s none s
  | absent {path : String} {s t : σ} (hpath : path ≠ "")
    (hkind : world (.pathKind (Paths.normalize path)) s = (.ok .nothing, t)) :
    Dated world (.string path) s none t
  | present {path : String} {s s₁ s₂ t : σ} {kind : PathKind} {modified now : Float}
    (hpath : path ≠ "") (hkind : world (.pathKind (Paths.normalize path)) s = (.ok kind, s₁))
    (hthere : kind ≠ .nothing)
    (hmodified : world (.modified (Paths.normalize path)) s₁ = (.ok modified, s₂))
    (hnow : world .now s₂ = (.ok now, t)) :
    Dated world (.string path) s (some ((now - modified) / daySeconds)) t

/-- The collaborators of a class; there are none without a class. -/
inductive Counted (world : World σ) : Json → σ → Option Json → σ → Prop where
  | classless {cls : Json} (s : σ) (hcls : cls.truthy = false) : Counted world cls s none s
  | counted {cls count : Json} {s t : σ} (hcls : cls.truthy = true)
    (hcount : (Graph.collaboratorCount cls).run world s = (.ok count, t)) :
    Counted world cls s (some count) t

/-- Whether the signals hold is asked from one state on, one thing after another. -/
def Asked (world : World σ) (s : σ) (w : Weighed) (t : σ) : Prop :=
  ∃ s₁ s₂ s₃,
    (Graph.calledFromOutside w.candidate.cls w.candidate.method).run world s =
      (.ok w.outside, s₁) ∧
    (Issue.testSigns w.candidate.path w.candidate.cls w.candidate.method).run world s₁ =
      (.ok w.signs, s₂) ∧
    Dated world w.candidate.path s₂ w.age s₃ ∧
    Counted world w.candidate.cls s₃ w.collaborators t

/-- What a method depends on is asked only if it is reported. -/
def Weighs (world : World σ) (s : σ) (w : Weighed) (t : σ) : Prop :=
  ∃ s', Asked world s w s' ∧
    (w.Qualifies ∧ (Graph.dependenciesOf w.candidate.cls w.candidate.method).run world s' =
        (.ok w.dependencies, t) ∨
      ¬ w.Qualifies ∧ w.dependencies = [] ∧ t = s')

/-- The methods are looked at in order, each from the state that the one before leaves. -/
inductive WeighsAll (world : World σ) : σ → List Weighed → σ → Prop where
  | nil (s : σ) : WeighsAll world s [] s
  | cons {s s' t : σ} {w : Weighed} {ws : List Weighed} (hfirst : Weighs world s w s')
    (hrest : WeighsAll world s' ws t) : WeighsAll world s (w :: ws) t

/-- A report names the method and tells the signals that hold for it. -/
structure Reports (w : Weighed) (gap : TestGap) : Prop where
  cls : optionalText? w.candidate.cls = some gap.cls
  method : w.candidate.method = .string gap.method
  reasons : gap.reasons = w.held.map Signal.reason
  priority : gap.priority = w.held.length
  focus : focusOn w.dependencies = .ok gap.focus

/-! ### One method -/

theorem isMany_eq {count : Json} (h : count.number?.isSome) :
    (Json.compareNumber? (.int manyCollaborators) count == some .lt) = isMany count := by
  cases count with
  | int n =>
    change (some (compare 3 n) == some .lt) = decide (3 < n)
    rw [Bool.eq_iff_iff, beq_iff_eq, Option.some.injEq, decide_eq_true_iff]
    exact Int.compare_eq_lt
  | float x => rfl
  | bool b => cases b <;> rfl
  | null => cases h
  | string s => cases h
  | array xs => cases h
  | object fs => cases h

/-- A tally that is in step with a list of signals: it counts them and has their reasons. -/
structure Tally.InStep (t : Tally) (gs : List Signal) : Prop where
  score : t.score = gs.length
  reasons : t.reasons = gs.map Signal.reason

/-- The six places where a tally changes leave it in step, whether or not the signal holds. -/
theorem Tally.InStep.guard {t : Tally} {gs : List Signal} (h : t.InStep gs) (b : Bool)
    (g : Signal) :
    (if b then t.raise.note g.reason else t).InStep (gs ++ if b then [g] else []) := by
  cases b with
  | false => simpa using h
  | true =>
    refine ⟨?_, ?_⟩
    · change t.score + 1 = (gs ++ [g]).length
      rw [h.score, List.length_append, List.length_singleton]
    · change t.reasons ++ [g.reason] = (gs ++ [g]).map Signal.reason
      rw [h.reasons, List.map_append, List.map_singleton]

/-- One by one the signals that hold are added to those before. -/
theorem Weighed.held_eq (w : Weighed) :
    w.held = [] ++ (if w.outside.truthy then [.calledFromOutside] else []) ++
      (if w.signs.longFunction then [.longFunction] else []) ++
      (if w.signs.deepNesting then [.deepNesting] else []) ++
      (if w.signs.manyParams then [.manyParams w.signs.paramCount] else []) ++
      (if isFresh w.age then [.recentlyModified] else []) ++
      (if w.collaborators.any isMany then [.manyCollaborators] else []) := by
  have hcons : ∀ (g : Signal) (gs : List Signal),
      (g :: gs).filter w.holds = (if w.holds g then [g] else []) ++ gs.filter w.holds := by
    intro g gs
    cases hg : w.holds g <;> simp [hg]
  simp only [held, hcons, holds, List.filter_nil, List.append_nil, List.nil_append,
    List.append_assoc, beq_self_eq_true, Bool.and_true]
  rfl

theorem run_recentlyModified {path : String} {recent : Bool} (hpath : path ≠ "")
    (h : (recentlyModified path recentDays).run world s = (.ok recent, t)) :
    ∃ age, Dated world (.string path) s age t ∧ recent = isFresh age := by
  obtain ⟨kind, s₁, hkind, h⟩ := run_bind_eq_ok _ h
  rw [run_request] at hkind
  split at h
  next =>
    obtain ⟨rfl, rfl⟩ := run_done_eq_ok _ h
    exact ⟨none, .absent hpath hkind, rfl⟩
  next hthere =>
    obtain ⟨modified, s₂, hmodified, h⟩ := run_bind_eq_ok _ h
    obtain ⟨now, s₃, hnow, h⟩ := run_bind_eq_ok _ h
    have hmodified := (run_request world s₁ (.modified _)).symm.trans hmodified
    have hnow := (run_request world s₂ .now).symm.trans hnow
    obtain ⟨rfl, rfl⟩ := run_done_eq_ok _ h
    exact ⟨_, .present hpath hkind hthere hmodified hnow, rfl⟩

theorem run_pathIsRecent {path : Json} {recent : Bool}
    (h : (pathIsRecent path).run world s = (.ok recent, t)) :
    ∃ age, Dated world path s age t ∧ recent = isFresh age := by
  unfold pathIsRecent at h
  split at h
  next p =>
    split at h
    next hp =>
      obtain ⟨rfl, rfl⟩ := run_done_eq_ok _ h
      exact ⟨none, .unnamed s (by rw [hp]; rfl), rfl⟩
    next hp => exact run_recentlyModified hp h
  next =>
    split at h
    next => cases h
    next hfalse =>
      obtain ⟨rfl, rfl⟩ := run_done_eq_ok _ h
      exact ⟨none, .unnamed s (Bool.eq_false_iff.mpr hfalse), rfl⟩

theorem run_hasManyCollaborators {cls : Json} {many : Bool}
    (h : (hasManyCollaborators cls).run world s = (.ok many, t)) :
    ∃ collaborators, Counted world cls s collaborators t ∧ many = collaborators.any isMany := by
  unfold hasManyCollaborators at h
  split at h
  next hcls =>
    obtain ⟨count, s', hcount, h⟩ := run_bind_eq_ok _ h
    split at h
    next hnumber =>
      rw [isMany_eq hnumber] at h
      obtain ⟨rfl, rfl⟩ := run_done_eq_ok _ h
      exact ⟨some count, .counted hcls hcount, rfl⟩
    next => cases h
  next hcls =>
    obtain ⟨rfl, rfl⟩ := run_done_eq_ok _ h
    exact ⟨none, .classless s (Bool.eq_false_iff.mpr hcls), rfl⟩

/-- A tally ends in step with the signals that hold. -/
theorem run_tally {c : Candidate} {tallied : Tally}
    (h : (tally c).run world s = (.ok tallied, t)) :
    ∃ w : Weighed, w.candidate = c ∧ w.dependencies = [] ∧ Asked world s w t ∧
      tallied.InStep w.held := by
  obtain ⟨outside, s₁, houtside, h⟩ := run_bind_eq_ok _ h
  obtain ⟨signs, s₂, hsigns, h⟩ := run_bind_eq_ok _ h
  obtain ⟨recent, s₃, hrecent, h⟩ := run_bind_eq_ok _ h
  obtain ⟨many, s₄, hmany, h⟩ := run_bind_eq_ok _ h
  obtain ⟨age, hage, rfl⟩ := run_pathIsRecent hrecent
  obtain ⟨collaborators, hcollaborators, rfl⟩ := run_hasManyCollaborators hmany
  obtain ⟨rfl, rfl⟩ := run_done_eq_ok _ h
  let w : Weighed := ⟨c, outside, signs, age, collaborators, []⟩
  refine ⟨w, rfl, rfl, ⟨s₁, s₂, s₃, houtside, hsigns, hage, hcollaborators⟩, ?_⟩
  have hnone : Tally.InStep ⟨0, []⟩ [] := ⟨rfl, rfl⟩
  rw [w.held_eq]
  exact (((((hnone.guard outside.truthy _).guard signs.longFunction _).guard
    signs.deepNesting _).guard signs.manyParams _).guard (isFresh age) _).guard
    (collaborators.any isMany) _

theorem reports_of_gapOf {w : Weighed} {tallied : Tally} {focus : Option String} {gap : TestGap}
    (hstep : tallied.InStep w.held) (hfocus : focusOn w.dependencies = .ok focus)
    (h : gapOf w.candidate tallied focus = .ok gap) : Reports w gap := by
  unfold gapOf at h
  split at h
  next cls method hcls hmethod =>
    obtain rfl := Except.ok.inj h
    exact ⟨hcls, hmethod, hstep.reasons, hstep.score, hfocus⟩
  next => cases h

/-- What is found out about a method decides on its report. -/
theorem run_gap? {c : Candidate} {found : Option TestGap}
    (h : (gap? c).run world s = (.ok found, t)) :
    ∃ w : Weighed, w.candidate = c ∧ Weighs world s w t ∧
      (¬ w.Qualifies ∧ found = none ∨ w.Qualifies ∧ ∃ gap, found = some gap ∧ Reports w gap) := by
  obtain ⟨tallied, s', htally, h⟩ := run_bind_eq_ok _ h
  obtain ⟨w, rfl, hnone, hasked, hstep⟩ := run_tally htally
  split at h
  next hfew =>
    have hfails : ¬ w.Qualifies := Nat.not_le.mpr (hstep.score ▸ hfew)
    obtain ⟨rfl, rfl⟩ := run_done_eq_ok _ h
    exact ⟨w, rfl, ⟨s', hasked, .inr ⟨hfails, hnone, rfl⟩⟩, .inl ⟨hfails, rfl⟩⟩
  next hmany =>
    have hqualifies : w.Qualifies := Nat.not_lt.mp (hstep.score ▸ hmany)
    obtain ⟨dependencies, s₁, hdependencies, h⟩ := run_bind_eq_ok _ h
    obtain ⟨focus, s₂, hrun, h⟩ := run_bind_eq_ok _ h
    obtain ⟨hfocus, rfl⟩ := Prod.mk.inj ((run_ofExcept world _ _).symm.trans hrun)
    obtain ⟨gap, s₃, hrun, h⟩ := run_bind_eq_ok _ h
    obtain ⟨hgap, rfl⟩ := Prod.mk.inj ((run_ofExcept world _ _).symm.trans hrun)
    obtain ⟨rfl, rfl⟩ := run_done_eq_ok _ h
    -- The dependencies come last, and no signal depends on them.
    exact ⟨{ w with dependencies := dependencies }, rfl,
      ⟨s', hasked, .inl ⟨hqualifies, hdependencies⟩⟩,
      .inr ⟨hqualifies, gap, rfl, reports_of_gapOf hstep hfocus hgap⟩⟩

/-! ### All methods -/

/-- The reports are those of the methods with enough signals, in order. -/
theorem run_collect_gap? {cs : List Candidate} {found : List (Option TestGap)}
    (h : (collect cs gap?).run world s = (.ok found, t)) :
    ∃ ws, ws.map (·.candidate) = cs ∧ WeighsAll world s ws t ∧
      List.Forall₂ Reports (ws.filter (·.Qualifies)) (found.filterMap id) := by
  induction cs generalizing s found with
  | nil =>
    obtain ⟨rfl, rfl⟩ := run_done_eq_ok _ h
    exact ⟨[], rfl, .nil s, .nil⟩
  | cons c cs ih =>
    obtain ⟨first, s', hfirst, h⟩ := run_bind_eq_ok _ h
    obtain ⟨rest, s'', hrest, h⟩ := run_bind_eq_ok _ h
    obtain ⟨rfl, rfl⟩ := run_done_eq_ok _ h
    obtain ⟨w, rfl, hw, hcases⟩ := run_gap? hfirst
    obtain ⟨ws, rfl, hws, hreports⟩ := ih hrest
    refine ⟨w :: ws, rfl, .cons hw hws, ?_⟩
    rcases hcases with ⟨hfails, rfl⟩ | ⟨hqualifies, gap, rfl, hgap⟩
    · rw [List.filter_cons_of_neg (by simpa using hfails)]
      exact hreports
    · rw [List.filter_cons_of_pos (by simpa using hqualifies)]
      exact .cons hgap hreports

theorem WeighsAll.exists_asked {ws : List Weighed} (h : WeighsAll world s ws t) :
    ∀ w ∈ ws, ∃ s t, Asked world s w t := by
  induction h with
  | nil s => simp
  | cons hfirst _ ih =>
    obtain ⟨s', hasked, -⟩ := hfirst
    exact List.forall_mem_cons.mpr ⟨⟨_, s', hasked⟩, ih⟩

theorem Counted.eq_none {cls : Json} {collaborators : Option Json}
    (h : Counted world cls s collaborators t) (hcls : cls.truthy = false) :
    collaborators = none := by
  cases h with
  | classless => rfl
  | counted htrue => simp [hcls] at htrue

/-- Only a class can have many collaborators. -/
theorem Asked.not_manyCollaborators {w : Weighed} (h : Asked world s w t)
    (hcls : w.candidate.cls.truthy = false) : w.holds .manyCollaborators = false := by
  obtain ⟨s₁, s₂, s₃, -, -, -, hcounted⟩ := h
  rw [Weighed.holds, hcounted.eq_none hcls]
  rfl

/-! ### The model's task -/

theorem exists_describe_eq (gap : TestGap) : ∃ rest, gap.describe = "- Method: " ++ rest := by
  unfold TestGap.describe
  simp only [String.append_assoc]
  exact ⟨_, rfl⟩

/-- A list of reports never reads like a missing one. -/
theorem listed_ne_none (gap : TestGap) (gaps : List TestGap) :
    "\n".intercalate ((gap :: gaps).map TestGap.describe) ≠ "NONE" := by
  intro h
  obtain ⟨rest, hrest⟩ := exists_intercalate_eq "\n" gap.describe (gaps.map TestGap.describe)
  obtain ⟨text, htext⟩ := exists_describe_eq gap
  have hchars := congrArg String.toList (hrest.symm.trans h)
  rw [htext, String.append_assoc, String.toList_append] at hchars
  exact absurd (List.cons.inj hchars).1 (by decide)

theorem testGapsPrompt_eq_none_iff {gaps : Option (List TestGap)} {prompt : String} :
    testGapsPrompt gaps prompt =
        "\nUser question:\n" ++ prompt ++ "\n\nIdentified test gaps:\n" ++ "NONE" ++ "\n" ↔
      gaps.getD [] = [] := by
  unfold testGapsPrompt
  dsimp only
  rw [String.append_left_inj, String.append_right_inj]
  split
  next => exact iff_of_true rfl rfl
  next => exact iff_of_true rfl rfl
  next gaps hne =>
    cases gaps with
    | nil => exact absurd rfl hne
    | cons gap gaps => exact iff_of_false (listed_ne_none gap gaps) (List.cons_ne_nil _ _)

/-! ### A question -/

/-- A question that gives no names leads to no reports. -/
theorem run_findTestGaps_cases {q : Question} {gaps : Option (List TestGap)}
    (h : (findTestGaps q).run world s = (.ok gaps, t)) :
    ∃ names s₁, (Assistant.extractNames q.prompt).run world s = (.ok (some names), s₁) ∧
      (names = ⟨none, none⟩ ∧ gaps = some [] ∧ t = s₁ ∨
        names ≠ ⟨none, none⟩ ∧ ∃ cs s₂ found,
          (candidates names q.project).run world s₁ = (.ok cs, s₂) ∧
          (collect cs gap?).run world s₂ = (.ok found, t) ∧
          gaps.getD [] = found.filterMap id) := by
  obtain ⟨extracted, s₁, hextract, h⟩ := run_bind_eq_ok _ h
  split at h
  next => cases h
  next names =>
    refine ⟨names, s₁, hextract, ?_⟩
    split at h
    next hnone =>
      rw [Bool.and_eq_true, Option.isNone_iff_eq_none, Option.isNone_iff_eq_none] at hnone
      obtain ⟨rfl, rfl⟩ := run_done_eq_ok _ h
      exact .inl ⟨congr (congrArg TestedNames.mk hnone.1) hnone.2, rfl, rfl⟩
    next hsome =>
      obtain ⟨cs, s₂, hcs, h⟩ := run_bind_eq_ok _ h
      refine .inr ⟨fun hnone => hsome (by rw [hnone]; rfl), cs, s₂, ?_⟩
      split at h
      next hempty =>
        obtain ⟨rfl, rfl⟩ := run_done_eq_ok _ h
        obtain rfl := List.isEmpty_iff.mp hempty
        exact ⟨[], hcs, rfl, rfl⟩
      next =>
        obtain ⟨found, s₃, hfound, h⟩ := run_bind_eq_ok _ h
        obtain ⟨rfl, rfl⟩ := run_done_eq_ok _ h
        refine ⟨found, hcs, hfound, ?_⟩
        split
        next hempty => exact (List.isEmpty_iff.mp hempty).symm
        next => rfl

/-- The reports are, in the order of the methods that the question is about, those of the methods
for which two signals or more hold. A report tells the signals that hold, and its priority is
their number. The model is told that there are none just when no method has two signals. -/
theorem findTestGaps_reports_qualified {world : World σ} {q : Question} {s t : σ}
    {gaps : Option (List TestGap)} (h : (findTestGaps q).run world s = (.ok gaps, t)) :
    ∃ names s₁, (Assistant.extractNames q.prompt).run world s = (.ok (some names), s₁) ∧
      (names = ⟨none, none⟩ ∧ gaps = some [] ∧ t = s₁ ∨
        names ≠ ⟨none, none⟩ ∧ ∃ cs s₂ ws,
          (candidates names q.project).run world s₁ = (.ok cs, s₂) ∧
          ws.map (·.candidate) = cs ∧ WeighsAll world s₂ ws t ∧
          List.Forall₂ Reports (ws.filter (·.Qualifies)) (gaps.getD []) ∧
          (∀ gap ∈ gaps.getD [], gap.priority = gap.reasons.length ∧ 2 ≤ gap.priority ∧
            gap.priority ≤ 6) ∧
          (∀ w ∈ ws, w.candidate.cls.truthy = false → .manyCollaborators ∉ w.held) ∧
          (testGapsPrompt gaps q.prompt = "\nUser question:\n" ++ q.prompt ++
              "\n\nIdentified test gaps:\n" ++ "NONE" ++ "\n" ↔ ∀ w ∈ ws, ¬ w.Qualifies)) := by
  obtain ⟨names, s₁, hextract, hcases⟩ := run_findTestGaps_cases h
  refine ⟨names, s₁, hextract, hcases.imp_right ?_⟩
  rintro ⟨hnames, cs, s₂, found, hcs, hcollect, hgaps⟩
  obtain ⟨ws, hws, hweighs, hreports⟩ := run_collect_gap? hcollect
  rw [← hgaps] at hreports
  refine ⟨hnames, cs, s₂, ws, hcs, hws, hweighs, hreports, ?_, ?_, ?_⟩
  · intro gap hgap
    obtain ⟨w, hw, hreport⟩ := exists_left_of_forall₂ hreports hgap
    have hfew : w.held.length ≤ 6 := List.length_filter_le _ _
    have hmany : 2 ≤ w.held.length := of_decide_eq_true (List.mem_filter.mp hw).2
    rw [hreport.reasons, hreport.priority, List.length_map]
    exact ⟨rfl, hmany, hfew⟩
  · intro w hw hcls hheld
    obtain ⟨s, t, hasked⟩ := hweighs.exists_asked w hw
    rw [Weighed.mem_held, hasked.not_manyCollaborators hcls] at hheld
    cases hheld
  · rw [testGapsPrompt_eq_none_iff, ← List.length_eq_zero_iff, ← hreports.length_eq,
      List.length_eq_zero_iff, List.filter_eq_nil_iff]
    simp

/-! ### A class with two methods -/

def tillMethod (name path : String) : Fields :=
  [("method_name", .string name), ("class_name", .string "Till"), ("file_path", .string path)]

/-- A class that works with four others. Others call its first method, whose file was changed
yesterday; the second is called by none, and its file is not there. -/
def busyTill : World Unit
  | .graph (.methods _ _), _ => (.ok [tillMethod "add" "till.py", tillMethod "name" "label.py"], ())
  | .graph (.calledFromOutside _ method), _ =>
    (.ok [[("called_externally", .bool (method.same (.string "add")))]], ())
  | .pathKind path, _ => (.ok (if path = "till.py" then .file else .nothing), ())
  | .modified _, _ => (.ok (0.0 : Float), ())
  | .now, _ => (.ok daySeconds, ())
  | r, s => till tillReply r s

def addGap : TestGap where
  cls := some "Till"
  method := "add"
  reasons := [Signal.calledFromOutside, .recentlyModified, .manyCollaborators].map Signal.reason
  priority := 3
  focus := some "Consider mocking: log"

theorem run_extractNames_busyTill :
    (Assistant.extractNames tillQuestion.prompt).run busyTill () =
      (.ok (some ⟨some "Till", none⟩), ()) := by
  rw [Assistant.extractNames, bind_eq, run_bind_of_ok _ (a := tillReply) rfl, ← namesIn_tillReply]
  exact run_ofExcept _ _ _

theorem only_add_reported :
    (findTestGaps tillQuestion).run busyTill () = (.ok (some [addGap]), ()) ∧
      ∃ ws : List Weighed, ws.map (·.candidate.method) = [.string "add", .string "name"] ∧
        WeighsAll busyTill () ws () ∧ List.Forall₂ Reports (ws.filter (·.Qualifies)) [addGap] := by
  have hrun : (findTestGaps tillQuestion).run busyTill () = (.ok (some [addGap]), ()) := by
    rw [findTestGaps, bind_eq, run_bind_of_ok _ run_extractNames_busyTill]
    rfl
  refine ⟨hrun, ?_⟩
  obtain ⟨names, s₁, hnames, hcases⟩ := findTestGaps_reports_qualified hrun
  rw [run_extractNames_busyTill] at hnames
  obtain rfl := Option.some.inj (Except.ok.inj (Prod.mk.inj hnames).1)
  rcases hcases with ⟨hnone, -⟩ | ⟨-, cs, s₂, ws, hcs, hws, hweighs, hreports, -⟩
  · cases hnone
  · have hfound : cs.map (·.method) = [.string "add", .string "name"] := by
      obtain rfl := Except.ok.inj (Prod.mk.inj hcs).1
      rfl
    refine ⟨ws, ?_, hweighs, hreports⟩
    rw [← hfound, ← hws, List.map_map]
    rfl

end CodeAtlas.Chat
