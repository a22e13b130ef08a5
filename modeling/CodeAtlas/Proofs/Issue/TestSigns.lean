import CodeAtlas.Issue.TestSigns
import CodeAtlas.Proofs.Dialogue.Laws
import CodeAtlas.Proofs.Issue.Shape
import CodeAtlas.Proofs.Text.Pattern
import Mathlib.Data.List.Basic

/-! Signs that a method should be tested, and the tree that they come from. Issues of three kinds
set a flag each. The number of parameters goes the long way: it is written into a message and read
from it again, and of several numbers the last one stands. So what comes back is about the last
method of the tree that has too many parameters. -/

namespace CodeAtlas.Issue

open Dialogue

namespace TestSigns

/-! ### The count in a message -/

theorem digit?_of_isDigit {c : Char} (h : c.isDigit = true) :
    Text.digit? c = some (c.toNat - 0x30) := by
  rw [Text.digit?, if_pos h]

theorem ofDigits_filterMap_digit? {ds : List Char} (h : ∀ c ∈ ds, c.isDigit = true) :
    Text.ofDigits (ds.filterMap Text.digit?) = Nat.ofDigitChars 10 ds 0 := by
  have hvalues : ds.filterMap Text.digit? = ds.map fun c => c.toNat - 0x30 := by
    rw [← List.filterMap_eq_map]
    exact List.filterMap_congr fun c hc => digit?_of_isDigit (h c hc)
  rw [hvalues, Text.ofDigits, List.foldl_map]
  rfl

/-- The number in a message is read as it was written. -/
theorem countIn?_message (lang : Language) (count line : Nat) :
    countIn? (Issue.message ⟨lang, .manyParams count line⟩).toList = some count := by
  have hdigits : ∀ c ∈ Nat.toDigits 10 count, c.isDigit = true :=
    fun c hc => Nat.isDigit_of_mem_toDigits (by decide) (by decide) hc
  have htakes : countPattern.Takes (['('] ++ (Nat.toDigits 10 count ++ [')'])) ['.'] := by
    refine (Text.Pattern.takes_text _ _).seq
      (Text.Pattern.Takes.seq ?_ (Text.Pattern.takes_text _ _))
    refine Text.Pattern.takes_several (fun c hc => ?_) Nat.toDigits_ne_nil fun c hc => ?_
    · rw [digit?_of_isDigit (hdigits c hc)]
      rfl
    · obtain rfl : ')' = c := Option.some.inj hc
      rfl
  have hmessage : (Issue.message ⟨lang, .manyParams count line⟩).toList =
      "Function has too many parameters ".toList ++
        ((['('] ++ (Nat.toDigits 10 count ++ [')'])) ++ ['.']) := by
    simp [Issue.message, String.toList_append]
  have hbrackets : (['('] ++ (Nat.toDigits 10 count ++ [')'])).filterMap Text.digit? =
      (Nat.toDigits 10 count).filterMap Text.digit? := by
    have hopening : ['('].filterMap Text.digit? = [] := rfl
    have hclosing : [')'].filterMap Text.digit? = [] := rfl
    rw [List.filterMap_append, List.filterMap_append, hopening, hclosing, List.nil_append,
      List.append_nil]
  obtain ⟨m, hm, hmatched⟩ : ∃ m,
      countPattern.search? (Issue.message ⟨lang, .manyParams count line⟩).toList = some m ∧
        m.matched = ['('] ++ (Nat.toDigits 10 count ++ [')']) := by
    rw [hmessage]
    exact htakes.search? _ (by decide)
  rw [countIn?, hm, Option.map_some, hmatched, hbrackets, ofDigits_filterMap_digit? hdigits,
    Nat.ofDigitChars_ten_toDigits]

/-! ### Signs of issues -/

variable {issues : List Issue}

theorem foldl_note_eq_self (h : ∀ i ∈ issues, ∀ s, note s i = s) (s : TestSigns) :
    issues.foldl note s = s := by
  induction issues with
  | nil => rfl
  | cons i issues ih =>
    obtain ⟨hi, hrest⟩ := List.forall_mem_cons.mp h
    rw [List.foldl_cons, hi, ih hrest]

/-- If every issue takes back what another one adds, the last of them stands. -/
theorem foldl_note_eq_last (h : ∀ i ∈ issues, ∀ j ∈ issues, ∀ s, note (note s i) j = note s j)
    (s : TestSigns) : issues.foldl note s = (issues.getLast?.map (note s)).getD s := by
  induction issues using List.reverseRecOn with
  | nil => rfl
  | append_singleton issues j ih =>
    have hj : j ∈ issues ++ [j] := List.mem_append_right _ (List.mem_singleton.mpr rfl)
    have hlast := ih fun i hi k hk =>
      h i (List.mem_append_left _ hi) k (List.mem_append_left _ hk)
    rw [List.foldl_append, hlast, List.getLast?_concat]
    cases hi : issues.getLast? with
    | none => rfl
    | some i => exact h i (List.mem_append_left _ (List.mem_of_getLast? hi)) j hj s

theorem foldl_note_eq_ite {f : TestSigns → TestSigns} (h : ∀ i ∈ issues, ∀ s, note s i = f s)
    (hf : ∀ s, f (f s) = f s) (s : TestSigns) :
    issues.foldl note s = if issues.isEmpty then s else f s := by
  rw [foldl_note_eq_last fun i hi j hj s => by rw [h i hi, h j hj, h j hj, hf]]
  cases hlast : issues.getLast? with
  | none =>
    rw [List.getLast?_eq_none_iff.mp hlast]
    rfl
  | some i =>
    have hi := List.mem_of_getLast? hlast
    rw [Option.map_some, Option.getD_some, h i hi, if_neg]
    simpa using List.ne_nil_of_mem hi

end TestSigns

/-! ### Issues of each kind -/

open TestSigns (note countIn? foldl_note_eq_ite foldl_note_eq_last foldl_note_eq_self
  countIn?_message)

variable {lang : Language} {tree : Node} {i : Issue}

theorem note_of_mem_longFunctions (h : i ∈ longFunctions lang tree) (s : TestSigns) :
    note s i = { s with longFunction := true } := by
  obtain ⟨n, -, hn⟩ := List.mem_filterMap.mp h
  unfold longFunction? at hn
  split at hn
  · rw [← Option.some.inj hn]
    rfl
  · cases hn

theorem mem_deepNestingAll {depth : Nat} {cs : List Node} (h : i ∈ deepNestingAll lang depth cs) :
    ∃ c ∈ cs, i ∈ deepNestingFrom lang depth c := by
  induction cs with
  | nil => cases h
  | cons c cs ih =>
    rcases List.mem_append.mp h with hc | hrest
    · exact ⟨c, List.mem_cons_self, hc⟩
    · obtain ⟨d, hd, hi⟩ := ih hrest
      exact ⟨d, List.mem_cons_of_mem _ hd, hi⟩

theorem note_of_mem_deepNesting {depth : Nat} (h : i ∈ deepNestingFrom lang depth tree)
    (s : TestSigns) : note s i = { s with deepNesting := true } := by
  induction tree using Node.child_induction generalizing depth with
  | h n ih =>
    obtain ⟨kind, first, last, text, roles, children⟩ := n
    rw [deepNestingFrom] at h
    generalize (if (nestingKinds lang).contains kind = true then depth + 1 else depth) = d at h
    split at h
    · rw [List.mem_singleton.mp h]
      rfl
    · obtain ⟨c, hc, hi⟩ := mem_deepNestingAll h
      exact ih c hc hi

theorem note_of_mem_manyParams (h : i ∈ manyParams lang tree) (s : TestSigns) :
    note s i = { s with manyParams := true, paramCount := countIn? i.message.toList } := by
  obtain ⟨n, -, hn⟩ := List.mem_filterMap.mp h
  unfold manyParams? at hn
  split at hn
  · split at hn
    · rw [← Option.some.inj hn]
      rfl
    · cases hn
  · cases hn

theorem note_of_mem_repeatedBy {δ : Type} [BEq δ] {digest : List Char → δ} {rows : List (δ × Nat)}
    {blocks : List Block} (h : i ∈ repeatedBy digest lang rows blocks) (s : TestSigns) :
    note s i = s := by
  induction blocks generalizing rows with
  | nil => cases h
  | cons b blocks ih =>
    rw [repeatedBy] at h
    split at h
    · rcases List.mem_cons.mp h with rfl | hrest
      · rfl
      · exact ih hrest
    · exact ih h

theorem note_of_mem_duplicates {code : String} (h : i ∈ duplicates lang code) (s : TestSigns) :
    note s i = s := note_of_mem_repeatedBy h s

theorem note_of_mem_unusedNames {code : String} {unused : List Issue}
    (hunused : unusedNames tree code = .ok unused) (h : i ∈ unused) (s : TestSigns) :
    note s i = s := by
  unfold unusedNames unusedLocals at hunused
  cases hlocals : localsFrom false tree ⟨[], []⟩ with
  | error e =>
    rw [hlocals] at hunused
    cases hunused
  | ok l =>
    rw [hlocals] at hunused
    rw [← Except.ok.inj hunused] at h
    rcases List.mem_append.mp h with h | h
    all_goals
      obtain ⟨⟨name, line⟩, -, he⟩ := List.mem_filterMap.mp h
      dsimp only at he
      split at he
      · cases he
      · rw [← Option.some.inj he]
        rfl

/-! ### Signs of a tree -/

theorem foldl_longFunctions (s : TestSigns) : (longFunctions lang tree).foldl note s =
    { s with longFunction := s.longFunction || !(longFunctions lang tree).isEmpty } := by
  rw [foldl_note_eq_ite (fun _ hi => note_of_mem_longFunctions hi) fun _ => rfl]
  split <;> simp_all

theorem foldl_deepNesting (s : TestSigns) : (deepNesting lang tree).foldl note s =
    { s with deepNesting := s.deepNesting || !(deepNesting lang tree).isEmpty } := by
  rw [deepNesting, foldl_note_eq_ite (fun _ hi => note_of_mem_deepNesting hi) fun _ => rfl]
  split <;> simp_all

theorem foldl_manyParams (s : TestSigns) : (manyParams lang tree).foldl note s =
    { s with
      manyParams := s.manyParams || !(manyParams lang tree).isEmpty
      paramCount := ((manyParams lang tree).getLast?.map (countIn? ·.message.toList)).getD
        s.paramCount } := by
  rw [foldl_note_eq_last fun i hi j hj s => by
    rw [note_of_mem_manyParams hi, note_of_mem_manyParams hj, note_of_mem_manyParams hj]]
  cases hlast : (manyParams lang tree).getLast? with
  | none =>
    rw [List.getLast?_eq_none_iff.mp hlast]
    simp
  | some i =>
    have hi := List.mem_of_getLast? hlast
    rw [Option.map_some, Option.getD_some, note_of_mem_manyParams hi]
    simp [List.ne_nil_of_mem hi]

/-- Blocks that are repeated and names that are not used are no signs. -/
theorem ofIssues_eq {code : String} {unused : List Issue}
    (hunused : unusedNames tree code = .ok unused) :
    TestSigns.ofIssues (shapeIssues lang tree ++ duplicates lang code ++ unused) =
      ⟨!(deepNesting lang tree).isEmpty, !(longFunctions lang tree).isEmpty,
        !(manyParams lang tree).isEmpty,
        (manyParams lang tree).getLast?.bind (countIn? ·.message.toList)⟩ := by
  have hcount : ∀ o : Option Issue, (o.map (countIn? ·.message.toList)).getD none =
      o.bind (countIn? ·.message.toList) := by
    intro o
    cases o <;> rfl
  rw [TestSigns.ofIssues, shapeIssues]
  simp only [List.foldl_append]
  rw [foldl_note_eq_self fun _ hi => note_of_mem_unusedNames hunused hi,
    foldl_note_eq_self fun _ hi => note_of_mem_duplicates hi, foldl_longFunctions,
    foldl_deepNesting, foldl_manyParams]
  simp [TestSigns.none, hcount]

/-- A method with so many parameters in its first list, which are too many. -/
def Crowded (n : Node) (count : Nat) : Prop :=
  n.kind = "method_declaration" ∧
    ∃ ps, n.children.find? (·.kind = "formal_parameters") = some ps ∧
      ps.children.countP (·.kind = "formal_parameter") = count ∧ 5 < count

theorem manyParams?_eq_some_iff {n : Node} :
    manyParams? .java n = some i ↔
      ∃ count, Crowded n count ∧ i = ⟨.java, .manyParams count (n.first + 1)⟩ := by
  have hcrowded : ∀ count, Crowded n count ↔ paramCount? .java n = some count ∧ 5 < count := by
    intro count
    rw [paramCount?_eq_some_iff]
    constructor
    · rintro ⟨hkind, ps, hps, hcount, hmany⟩
      exact ⟨⟨ps, ⟨hkind, hps⟩, hcount⟩, hmany⟩
    · rintro ⟨⟨ps, ⟨hkind, hps⟩, hcount⟩, hmany⟩
      exact ⟨hkind, ps, hps, hcount, hmany⟩
  simp only [hcrowded, manyParams?]
  cases paramCount? .java n with
  | none => simp
  | some count =>
    by_cases hmany : 5 < count
    · simp [maxParams, hmany, eq_comm]
    · simp [maxParams, hmany]

theorem manyParams?_eq_none_iff_not_crowded {n : Node} :
    manyParams? .java n = none ↔ ∀ count, ¬ Crowded n count := by
  rw [Option.eq_none_iff_forall_ne_some]
  constructor
  · intro h count hcrowded
    exact h _ (manyParams?_eq_some_iff.mpr ⟨count, hcrowded, rfl⟩)
  · intro h i hi
    obtain ⟨count, hcrowded, -⟩ := manyParams?_eq_some_iff.mp hi
    exact h count hcrowded

/-- The last issue is about the last method in the tree that has too many parameters. -/
theorem getLast?_manyParams_iff :
    (manyParams .java tree).getLast? = some i ↔
      ∃ before n after, tree.preorder = before ++ n :: after ∧ manyParams? .java n = some i ∧
        ∀ m ∈ after, ∀ count, ¬ Crowded m count := by
  rw [manyParams, List.getLast?_filterMap, List.findSome?_eq_some_iff]
  simp only [List.reverse_eq_iff, List.reverse_append, List.reverse_cons, List.append_assoc,
    List.singleton_append, manyParams?_eq_none_iff_not_crowded]
  constructor
  · rintro ⟨later, n, earlier, hpreorder, hn, hlater⟩
    exact ⟨earlier.reverse, n, later.reverse, hpreorder, hn, by simpa using hlater⟩
  · rintro ⟨before, n, after, hpreorder, hn, hafter⟩
    exact ⟨after.reverse, n, before.reverse, by simpa using hpreorder, hn, by simpa using hafter⟩

/-- The signs are what the tree shows. -/
structure TestSigns.Tell (tree : Node) (s : TestSigns) : Prop where
  long : s.longFunction = true ↔
    ∃ n ∈ tree.preorder, n.kind = "method_declaration" ∧ 50 < n.last - n.first
  deep : s.deepNesting = true ↔ ∃ p ∈ tree.places, 4 < depthAt .java p
  crowded : s.manyParams = true ↔ ∃ n ∈ tree.preorder, ∃ count, Crowded n count
  count : ∀ count, s.paramCount = some count ↔
    ∃ before n after, tree.preorder = before ++ n :: after ∧ Crowded n count ∧
      ∀ m ∈ after, ∀ other, ¬ Crowded m other
  uncounted : s.paramCount = .none ↔ ∀ n ∈ tree.preorder, ∀ count, ¬ Crowded n count

theorem longFunctions_ne_nil_iff : longFunctions .java tree ≠ [] ↔
    ∃ n ∈ tree.preorder, n.kind = "method_declaration" ∧ 50 < n.last - n.first := by
  rw [Ne, longFunctions_eq_nil_iff]
  simp only [not_forall, exists_prop, functionKind, longFunctionRows]
  refine exists_congr fun n => and_congr_right fun _ => and_congr_right fun _ => ?_
  omega

theorem deepNesting_ne_nil_iff :
    deepNesting .java tree ≠ [] ↔ ∃ p ∈ tree.places, 4 < depthAt .java p := by
  rw [Ne, deepNesting_eq_nil_iff]
  simp only [not_forall, exists_prop, maxDepth, Nat.not_le]

theorem manyParams_ne_nil_iff :
    manyParams .java tree ≠ [] ↔ ∃ n ∈ tree.preorder, ∃ count, Crowded n count := by
  rw [Ne, manyParams, List.filterMap_eq_nil_iff]
  simp only [manyParams?_eq_none_iff_not_crowded, not_forall, not_not, exists_prop]

theorem tell_ofIssues {code : String} {unused : List Issue}
    (hunused : unusedNames tree code = .ok unused) :
    (TestSigns.ofIssues (shapeIssues .java tree ++ duplicates .java code ++ unused)).Tell tree := by
  have hsome : ∀ issues : List Issue, (!issues.isEmpty) = true ↔ issues ≠ [] := by simp
  have hcount : ∀ count, ((manyParams .java tree).getLast?.bind (countIn? ·.message.toList)) =
      some count ↔ ∃ before n after, tree.preorder = before ++ n :: after ∧ Crowded n count ∧
        ∀ m ∈ after, ∀ other, ¬ Crowded m other := by
    intro count
    simp only [Option.bind_eq_some_iff, getLast?_manyParams_iff, manyParams?_eq_some_iff]
    constructor
    · rintro ⟨i, ⟨before, n, after, hpreorder, ⟨told, hcrowded, rfl⟩, hafter⟩, hread⟩
      obtain rfl := Option.some.inj ((countIn?_message _ _ _).symm.trans hread)
      exact ⟨before, n, after, hpreorder, hcrowded, hafter⟩
    · rintro ⟨before, n, after, hpreorder, hcrowded, hafter⟩
      exact ⟨_, ⟨before, n, after, hpreorder, ⟨count, hcrowded, rfl⟩, hafter⟩,
        countIn?_message _ _ _⟩
  rw [ofIssues_eq hunused]
  refine ⟨(hsome _).trans longFunctions_ne_nil_iff, (hsome _).trans deepNesting_ne_nil_iff,
    (hsome _).trans manyParams_ne_nil_iff, hcount, ?_⟩
  have hnone : manyParams .java tree = [] ↔ ∀ n ∈ tree.preorder, ∀ count, ¬ Crowded n count := by
    rw [← not_iff_not, ← Ne, manyParams_ne_nil_iff]
    simp only [not_forall, not_not, exists_prop]
  rw [← hnone]
  constructor
  · intro hread
    by_contra hne
    obtain ⟨i, hi⟩ := Option.ne_none_iff_exists'.mp (mt List.getLast?_eq_none_iff.mp hne)
    obtain ⟨before, n, after, hpreorder, hn, hafter⟩ := getLast?_manyParams_iff.mp hi
    obtain ⟨count, hcrowded, -⟩ := manyParams?_eq_some_iff.mp hn
    have htold := (hcount count).mpr ⟨before, n, after, hpreorder, hcrowded, hafter⟩
    cases hread.symm.trans htold
  · intro hempty
    rw [hempty]
    rfl

/-! ### A run -/

/-- The code that is analysed: that of a method, if one is named. -/
def analysed (code : String) (cls method : Option String) : String :=
  match method with
  | none => code
  | some m => if m = "" then code else Excerpt.braced code m cls

/-- A file of Java code is read, what is analysed of it is told to be Java code, and it has a tree
in which all names can be read. -/
def ShowsTree {σ : Type} (world : World σ) (s : σ) (path : String) (cls method : Option String)
    (tree : Node) : Prop :=
  Paths.suffix path = ".java" ∧ ∃ (code label : String) (s₁ s₂ s₃ s₄ : σ) (unused : List Issue),
    world (.readFile (Paths.normalize path) false) s = (.ok code, s₁) ∧
    world (.classify (analysed code cls method)) s₁ = (.ok label, s₂) ∧
    Text.lower label = "java" ∧ world (.loadParser .java) s₂ = (.ok (), s₃) ∧
    world (.parseCode .java (analysed code cls method)) s₃ = (.ok tree, s₄) ∧
    unusedNames tree (analysed code cls method) = .ok unused

section Run
variable {σ : Type} {world : World σ} {s s₁ s₂ s₃ s₄ : σ} {path code label : String}
  {cls method : Option String} {unused : List Issue}

theorem run_analyzeJava (hload : world (.loadParser .java) s₂ = (.ok (), s₃))
    (hparse : world (.parseCode .java code) s₃ = (.ok tree, s₄))
    (hunused : unusedNames tree code = .ok unused) :
    (analyzeJava code).run world s₂ =
      (.ok (shapeIssues .java tree ++ duplicates .java code ++ unused), s₄) := by
  have hloaded : ((request (.loadParser .java)).attempt).run world s₂ = (.ok (.ok ()), s₃) := by
    rw [run_attempt, run_request, hload]
  have hparsed : (request (.parseCode .java code)).run world s₃ = (.ok tree, s₄) :=
    (run_request ..).trans hparse
  have hnames : (ofExcept (unusedNames tree code)).run world s₄ = (.ok unused, s₄) := by
    rw [run_ofExcept, hunused]
  exact (run_bind_of_ok world hloaded _).trans
    ((run_bind_of_ok world hparsed _).trans (run_bind_of_ok world hnames _))

theorem run_analyze (hclassify : world (.classify code) s₁ = (.ok label, s₂))
    (hlabel : Text.lower label = "java") :
    (analyze code).run world s₁ = (analyzeJava code).run world s₂ := by
  have hclassified : (request (.classify code)).run world s₁ = (.ok label, s₂) :=
    (run_request ..).trans hclassify
  refine (run_bind_of_ok world hclassified _).trans ?_
  rw [hlabel]
  rfl

theorem methodCode_java (code m : String) (cls : Option String) :
    methodCode ".java" code (.ofText? cls) (.string m) =
      .ok (some (Excerpt.braced code m cls)) := by
  have hclass : nameIn (.ofText? cls) = .ok cls := by
    cases cls <;> rfl
  unfold methodCode
  rw [if_neg (by decide), if_pos rfl, hclass]
  rfl

theorem part_eq (code : String) (cls method : Option String) :
    (if (Json.ofText? method).truthy then
        methodCode ".java" code (.ofText? cls) (.ofText? method)
      else .ok (some code)) = .ok (some (analysed code cls method)) := by
  cases method with
  | none => rfl
  | some m =>
    by_cases hm : m = ""
    · simp [Json.ofText?, Json.truthy, analysed, hm]
    · have htruthy : (Json.ofText? (some m)).truthy = true := by
        simp [Json.ofText?, Json.truthy, hm]
      rw [if_pos htruthy, analysed, if_neg hm]
      exact methodCode_java code m cls

/-- The signs that come back are those of the tree. -/
theorem testSigns_tell_tree (h : ShowsTree world s path cls method tree) :
    ∃ signs, ((testSigns (.string path) (.ofText? cls) (.ofText? method)).run world s).1 =
      .ok signs ∧ signs.Tell tree := by
  obtain ⟨hsuffix, code, label, s₁, s₂, s₃, s₄, unused, hread, hclassify, hlabel, hload, hparse,
    hunused⟩ := h
  have hreads : ((request (.readFile (Paths.normalize path) false)).attempt).run world s =
      (.ok (.ok code), s₁) := by
    rw [run_attempt, run_request, hread]
  have hpart := (run_ofExcept world s₁ _).trans (congrArg (·, s₁) (part_eq code cls method))
  rw [← hsuffix] at hpart
  have hanalyzed := (run_analyze hclassify hlabel).trans (run_analyzeJava hload hparse hunused)
  have hrun : (testSigns (.string path) (.ofText? cls) (.ofText? method)).run world s =
      (.ok (TestSigns.ofIssues (shapeIssues .java tree ++
        duplicates .java (analysed code cls method) ++ unused)), s₄) := by
    rw [testSigns, bind_eq, run_bind_of_ok world hreads]
    exact (run_bind_of_ok world hpart _).trans (run_bind_of_ok world hanalyzed _)
  exact ⟨_, congrArg Prod.fst hrun, tell_ofIssues hunused⟩

end Run

namespace Shop

/-- Every file can be read, and all code is Java code with this tree. -/
def shop (tree : Node) : World Unit
  | .readFile _ _, _ => (.ok "class Shop { }", ())
  | .classify _, _ => (.ok "Java", ())
  | .loadParser _, _ => (.ok (), ())
  | .parseCode _ _, _ => (.ok tree, ())
  | _, _ => (.error .untold, ())

def method (params : Nat) : Node :=
  .mk "method_declaration" 2 9 (.ok "") []
    [.mk "formal_parameters" 2 2 (.ok "") []
      (List.replicate params (.mk "formal_parameter" 2 2 (.ok "") [] []))]

/-- A class with three methods, two of which have too many parameters. -/
def stock : Node :=
  .mk "class_declaration" 0 30 (.ok "") [] [method 7, method 6, method 5]

theorem stock_shown (cls method : Option String) :
    ShowsTree (shop stock) () "Shop.java" cls method stock :=
  ⟨by decide, _, _, _, _, _, _, _, rfl, rfl, by decide, rfl, rfl, rfl⟩

theorem stock_told :
    ShowsTree (shop stock) () "Shop.java" (some "Shop") (some "add") stock ∧
      ∃ signs, ((testSigns (.string "Shop.java") (.string "Shop") (.string "add")).run
        (shop stock) ()).1 = .ok signs ∧ signs.Tell stock ∧ signs.paramCount = some 6 := by
  have hshown := stock_shown (some "Shop") (some "add")
  obtain ⟨signs, hrun, htell⟩ := testSigns_tell_tree hshown
  have hrest : ((method 6).preorder.tail ++ (method 5).preorder).all
      (fun m => (manyParams? .java m).isNone) = true := rfl
  refine ⟨hshown, signs, hrun, htell, (htell.count 6).mpr ⟨stock :: (method 7).preorder, method 6,
    (method 6).preorder.tail ++ (method 5).preorder, rfl, ⟨rfl, _, rfl, rfl, by decide⟩, ?_⟩⟩
  intro m hm
  have hnone := List.all_eq_true.mp hrest m hm
  exact manyParams?_eq_none_iff_not_crowded.mp (Option.isNone_iff_eq_none.mp hnone)

end Shop

end CodeAtlas.Issue
