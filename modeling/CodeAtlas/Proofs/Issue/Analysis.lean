import CodeAtlas.Proofs.Dialogue.Laws
import CodeAtlas.Proofs.Issue.Shape
import CodeAtlas.Proofs.Text.Search

/-! The analysis of Python code. It was to give the first issue of each kind and row, but it comes
to an end only if there is no issue at all, and any one makes it fail. So it keeps what it promises
just for code without faults: its tree is well shaped, no two of its functions are alike, and its
lint listing tells of no name that is not used. -/

namespace CodeAtlas.Issue

open Dialogue

/-! ### Repeated blocks -/

/-- Blocks that are the same but for blanks at their ends. -/
def Block.Alike (a b : Block) : Prop := Text.strip a.text = Text.strip b.text

/-- The row of the first block that is like another. -/
def earlierLine? (seen : List Block) (b : Block) : Option Nat :=
  (seen.find? fun a => Text.strip a.text == Text.strip b.text).map (·.line)

/-- Repeated blocks, given those that came before. -/
def repeatedFrom (lang : Language) (seen : List Block) : List Block → List Issue
  | [] => []
  | b :: rest =>
    match earlierLine? seen b with
    | some line => ⟨lang, .duplicate line b.line⟩ :: repeatedFrom lang seen rest
    | none => repeatedFrom lang (seen ++ [b]) rest

/-- No two of these texts have the same digest. -/
def NoCollision {δ : Type} (digest : List Char → δ) (texts : List (List Char)) : Prop :=
  ∀ a ∈ texts, ∀ b ∈ texts, digest a = digest b → a = b

section Digest
variable {δ : Type} [BEq δ] [LawfulBEq δ] {digest : List Char → δ}

theorem lookup_digest {seen : List Block} {b : Block}
    (h : NoCollision digest ((b :: seen).map Block.bare)) :
    (seen.map fun a => (digest a.bare, a.line)).lookup (digest b.bare) = earlierLine? seen b := by
  induction seen with
  | nil => rfl
  | cons a seen ih =>
    have hsame : digest b.bare = digest a.bare ↔ Text.strip a.text = Text.strip b.text :=
      ⟨fun heq => (h _ (by simp) _ (by simp) heq).symm, fun heq => congrArg digest heq.symm⟩
    have hrest : NoCollision digest ((b :: seen).map Block.bare) := by
      refine fun x hx y hy => h x ?_ y ?_ <;> grind
    rw [List.map_cons, List.lookup_cons, earlierLine?, List.find?_cons]
    by_cases heq : Text.strip a.text = Text.strip b.text
    · rw [beq_iff_eq.mpr (hsame.mpr heq), beq_iff_eq.mpr heq]
      rfl
    · rw [beq_false_of_ne (mt hsame.mp heq), beq_false_of_ne heq]
      exact ih hrest

/-- Where no two texts have the same digest, the rows that are noted for digests tell the same as
the blocks themselves. -/
theorem repeatedBy_eq (lang : Language) {seen bs : List Block}
    (h : NoCollision digest ((seen ++ bs).map Block.bare)) :
    repeatedBy digest lang (seen.map fun a => (digest a.bare, a.line)) bs =
      repeatedFrom lang seen bs := by
  induction bs generalizing seen with
  | nil => rfl
  | cons b bs ih =>
    have hseen : NoCollision digest ((b :: seen).map Block.bare) := by
      refine fun x hx y hy => h x ?_ y ?_ <;> grind
    rw [repeatedBy, repeatedFrom, lookup_digest hseen]
    cases earlierLine? seen b with
    | some line =>
      refine congrArg (_ :: ·) (ih fun x hx y hy => h x ?_ y ?_) <;> grind
    | none =>
      have hnoted : (seen ++ [b]).map (fun a => (digest a.bare, a.line)) =
          seen.map (fun a => (digest a.bare, a.line)) ++ [(digest b.bare, b.line)] :=
        List.map_append
      rw [List.append_cons] at h
      change repeatedBy digest lang (_ ++ [_]) bs = repeatedFrom lang (seen ++ [b]) bs
      rw [← hnoted, ih h]

theorem duplicates_eq (lang : Language) (code : String) :
    duplicates lang code = repeatedFrom lang [] (blocks lang code) := by
  have hown : NoCollision (fun text => text) (([] ++ blocks lang code).map Block.bare) :=
    fun _ _ _ _ heq => heq
  exact repeatedBy_eq lang hown

/-- Repeated blocks do not depend on the digest by which they are told. -/
theorem duplicatesBy_eq {lang : Language} {code : String}
    (h : NoCollision digest ((blocks lang code).map Block.bare)) :
    duplicatesBy digest lang code = duplicates lang code := by
  rw [← List.nil_append (blocks lang code)] at h
  exact (repeatedBy_eq lang h).trans (duplicates_eq lang code).symm

end Digest

theorem earlierLine?_eq_none_iff {seen : List Block} {b : Block} :
    earlierLine? seen b = none ↔ ∀ a ∈ seen, ¬ a.Alike b := by
  simp [earlierLine?, Block.Alike]

/-- No block is reported just when none is like one before it. -/
theorem repeatedFrom_eq_nil_iff {lang : Language} {seen bs : List Block} :
    repeatedFrom lang seen bs = [] ↔
      (∀ a ∈ seen, ∀ b ∈ bs, ¬ a.Alike b) ∧ bs.Pairwise fun a b => ¬ a.Alike b := by
  induction bs generalizing seen with
  | nil => simp [repeatedFrom]
  | cons b bs ih =>
    rw [repeatedFrom]
    cases hline : earlierLine? seen b with
    | some line =>
      refine iff_of_false (List.cons_ne_nil _ _) fun h => ?_
      have hnone := earlierLine?_eq_none_iff.mpr fun a ha => h.1 a ha b List.mem_cons_self
      rw [hline] at hnone
      cases hnone
    | none =>
      have hnew := earlierLine?_eq_none_iff.mp hline
      simp only [ih, List.forall_mem_append, List.forall_mem_singleton, List.forall_mem_cons,
        List.pairwise_cons]
      constructor
      · rintro ⟨⟨hseen, hb⟩, hbs⟩
        exact ⟨fun a ha => ⟨hnew a ha, hseen a ha⟩, hb, hbs⟩
      · rintro ⟨hseen, hb, hbs⟩
        exact ⟨⟨fun a ha => (hseen a ha).2, hb⟩, hbs⟩

/-! ### Names in a listing -/

/-- A row of a listing that tells of a name that is not used. -/
def TellsUnused (row : List Char) : Prop :=
  "assigned to but never used".toList <:+: row ∨ "imported but unused".toList <:+: row

/-- A row that can be read is an issue just when it tells of such a name. -/
theorem listed?_eq_none_iff {row : List Char} {issue : Option Issue} (h : listed? row = .ok issue) :
    issue = none ↔ ¬ TellsUnused row := by
  rw [TellsUnused, ← Text.occurs_iff, ← Text.occurs_iff]
  have hsome {isVariable : Bool} (hmap : (listedLine row).map (fun n =>
      some (⟨.python, .listed isVariable (String.ofList (Text.strip row)) n⟩ : Issue)) =
        .ok issue) : issue ≠ none := by
    cases hline : listedLine row with
    | error e =>
      rw [hline] at hmap
      cases hmap
    | ok n =>
      rw [hline] at hmap
      cases hmap
      exact Option.some_ne_none _
  rw [listed?] at h
  split at h
  next hvariable => exact iff_of_false (hsome h) fun hnot => hnot (.inl hvariable)
  next hvariable =>
    split at h
    next himport => exact iff_of_false (hsome h) fun hnot => hnot (.inr himport)
    next himport =>
      cases h
      exact iff_of_true rfl (not_or.mpr ⟨hvariable, himport⟩)

/-- A listing that can be read has an issue for each row that tells of such a name. -/
theorem listedIn_eq_nil_iff {rows : List (List Char)} {issues : List Issue}
    (h : listedIn rows = .ok issues) : issues = [] ↔ ∀ row ∈ rows, ¬ TellsUnused row := by
  induction rows generalizing issues with
  | nil =>
    cases h
    simp
  | cons row rest ih =>
    rw [listedIn] at h
    split at h
    next e _ => cases h
    next issue hissue =>
      cases hrest : listedIn rest with
      | error e =>
        rw [hrest] at h
        cases h
      | ok later =>
        rw [hrest] at h
        cases h
        rw [List.append_eq_nil_iff, Option.toList_eq_nil_iff, listed?_eq_none_iff hissue, ih hrest,
          List.forall_mem_cons]

/-! ### The analysis -/

/-- All issues, those that the tree shows first. -/
def findings (tree : Node) (code : String) (unused : List Issue) : List Issue :=
  shapeIssues .python tree ++ duplicates .python code ++ unused

/-- Issues with one key count as one. -/
def key (i : Issue) : String × Int := (i.id, i.lineStart)

/-- The first issue of each key, in order. -/
structure FirstOfEach (issues out : List Issue) : Prop where
  sublist : out.Sublist issues
  distinct : (out.map key).Nodup
  first : ∀ i ∈ issues, ∃ j ∈ out, issues.find? (fun k => key k = key i) = some j

theorem firstOfEach_nil_iff {issues : List Issue} : FirstOfEach issues [] ↔ issues = [] := by
  constructor
  · intro h
    refine List.eq_nil_iff_forall_not_mem.mpr fun i hi => ?_
    obtain ⟨j, hj, -⟩ := h.first i hi
    cases hj
  · rintro rfl
    exact ⟨List.Sublist.refl _, List.nodup_nil, fun i hi => by cases hi⟩

/-- Code in which there is nothing to find. -/
structure Faultless (tree : Node) (code listing : String) : Prop where
  shape : WellShaped .python tree
  different : (functionBlocks code.toList).Pairwise fun a b => ¬ a.Alike b
  used : ∀ row ∈ Text.rows listing.toList, ¬ TellsUnused row

theorem findings_eq_nil_iff {tree : Node} {code listing : String} {unused : List Issue}
    (h : ofListing listing = .ok unused) :
    findings tree code unused = [] ↔ Faultless tree code listing := by
  have hdup : duplicates .python code = [] ↔
      (functionBlocks code.toList).Pairwise fun a b => ¬ a.Alike b := by
    rw [duplicates_eq, repeatedFrom_eq_nil_iff]
    simp [blocks]
  rw [findings, List.append_eq_nil_iff, List.append_eq_nil_iff, shapeIssues_eq_nil_iff, hdup,
    listedIn_eq_nil_iff h]
  constructor
  · rintro ⟨⟨hshape, hdifferent⟩, hused⟩
    exact ⟨hshape, hdifferent, hused⟩
  · rintro ⟨hshape, hdifferent, hused⟩
    exact ⟨⟨hshape, hdifferent⟩, hused⟩

variable {σ : Type} {world : World σ} {s : σ} {tree : Node} {code listing : String}
  {unused : List Issue}

/-- What the analysis gets to see of some code: its tree and its lint listing. -/
structure Examined (world : World σ) (s : σ) (code : String) (tree : Node) (listing : String) :
    Prop where
  loads : (world (.loadParser .python) s).1 = .ok ()
  parses : (world (.parseCode .python code) (world (.loadParser .python) s).2).1 = .ok tree
  lints : (world (.lint inputName code)
    (world (.parseCode .python code) (world (.loadParser .python) s).2).2).1 = .ok listing

/-- An issue has no field for its place, so it has no key. -/
theorem placeKey_eq (i : Issue) : placeKey i = .error (.noMember "Issue" "location") := rfl

/-- The loop gets past no issue. -/
theorem keepFirst_eq (kept : List ((Json × Json) × Issue)) (issues : List Issue) :
    keepFirst kept issues =
      if issues = [] then .ok (kept.map (·.2)) else .error (.noMember "Issue" "location") := by
  cases issues with
  | nil => rfl
  | cons i issues =>
    rw [keepFirst, placeKey_eq]
    rfl

theorem run_analyzePython (h : Examined world s code tree listing)
    (hunused : ofListing listing = .ok unused) :
    ((analyzePython code).run world s).1 =
      if findings tree code unused = [] then .ok []
      else .error (.noMember "Issue" "location") := by
  have hload := run_request_of_ok world h.loads
  have hparse := run_request_of_ok world h.parses
  have hlint : (unusedInPython inputName code).run world
      (world (.parseCode .python code) (world (.loadParser .python) s).2).2 = (.ok unused, _) :=
    (run_bind_of_ok world (run_request_of_ok world h.lints) _).trans
      ((run_ofExcept world _ _).trans (congrArg (·, _) hunused))
  have hrun : (analyzePython code).run world s =
      (ofExcept (keepFirst [] (findings tree code unused))).run world _ :=
    (run_bind_of_ok world hload _).trans
      ((run_bind_of_ok world hparse _).trans (run_bind_of_ok world hlint _))
  rw [hrun, run_ofExcept, keepFirst_eq]
  rfl

/-- The analysis gives the first issue of each kind and row just when there is none, and otherwise
it fails over the place of the first one. -/
theorem analyzePython_keeps_first_iff (h : Examined world s code tree listing)
    (hunused : ofListing listing = .ok unused) :
    ((∃ out, ((analyzePython code).run world s).1 = .ok out ∧
        FirstOfEach (findings tree code unused) out) ↔ Faultless tree code listing) ∧
      (¬ Faultless tree code listing →
        ((analyzePython code).run world s).1 = .error (.noMember "Issue" "location")) := by
  rw [run_analyzePython h hunused, ← findings_eq_nil_iff hunused]
  refine ⟨⟨?_, fun hnone => ?_⟩, fun hsome => if_neg hsome⟩
  · rintro ⟨out, hrun, -⟩
    by_contra hsome
    rw [if_neg hsome] at hrun
    cases hrun
  · exact ⟨[], if_pos hnone, firstOfEach_nil_iff.mpr hnone⟩

/-! ### Two functions -/

namespace Desk

/-- Any code has this tree and this listing. -/
def desk (tree : Node) (listing : String) : World Unit
  | .loadParser _, _ => (.ok (), ())
  | .parseCode _ _, _ => (.ok tree, ())
  | .lint _ _, _ => (.ok listing, ())
  | _, _ => (.error .untold, ())

theorem examined (code : String) (tree : Node) (listing : String) :
    Examined (desk tree listing) () code tree listing := ⟨rfl, rfl, rfl⟩

def word (text : String) : Node := .mk "identifier" 0 0 (.ok text) [] []

/-- A module with a function that has the given parameters. -/
def function (params : List String) : Node :=
  .mk "module" 0 1 (.ok "") []
    [.mk "function_definition" 0 1 (.ok "") [("name", 0)]
      [word "top", .mk "parameters" 0 0 (.ok "") [] (params.map word)]]

def fine : String := "def top(a, b, c, d, e):\n    return f\n"

/-- The listing tells of a name, but not of one that is not used. -/
def fineListing : String := "<input>:2:12: undefined name 'f'\n"

theorem ofListing_fine : ofListing fineListing = .ok [] := by rfl

theorem fine_analyzed :
    ofListing fineListing = .ok [] ∧
      Faultless (function ["a", "b", "c", "d", "e"]) fine fineListing ∧
      ∃ out, ((analyzePython fine).run
          (desk (function ["a", "b", "c", "d", "e"]) fineListing) ()).1 = .ok out ∧
        FirstOfEach (findings (function ["a", "b", "c", "d", "e"]) fine []) out := by
  have hfine : Faultless (function ["a", "b", "c", "d", "e"]) fine fineListing :=
    (findings_eq_nil_iff ofListing_fine).mp (by decide +kernel)
  exact ⟨ofListing_fine, hfine,
    (analyzePython_keeps_first_iff (examined ..) ofListing_fine).1.mpr hfine⟩

def crowded : String := "def top(a, b, c, d, e, f):\n    return a\n"

def crowdedTree : Node := function ["a", "b", "c", "d", "e", "f"]

def tooMany : Issue := ⟨.python, .manyParams 6 1⟩

/-- With one parameter too many there is one issue to give, and the analysis fails. -/
theorem crowded_fails :
    ofListing "" = .ok [] ∧ findings crowdedTree crowded [] = [tooMany] ∧
      FirstOfEach [tooMany] [tooMany] ∧
      ((analyzePython crowded).run (desk crowdedTree "") ()).1 =
        .error (.noMember "Issue" "location") := by
  have hfound : findings crowdedTree crowded [] = [tooMany] := by decide +kernel
  have hlisting : ofListing "" = .ok [] := rfl
  refine ⟨hlisting, hfound, ⟨List.Sublist.refl _, by simp, by simp⟩, ?_⟩
  rw [run_analyzePython (examined ..) hlisting, hfound]
  exact if_neg (List.cons_ne_nil _ _)

end Desk

end CodeAtlas.Issue
