import CodeAtlas.Chat.Retrieval
import CodeAtlas.Ingest.File
import CodeAtlas.Proofs.Dialogue.Laws
import CodeAtlas.Proofs.Text.Search

/-! Code in stored texts. A definition is stored as its type, its name and its summary, each on rows
of its own, and then its code behind a marker. The code is looked for behind the first marker that
there is. So it comes back, freed of blanks, just when no row in front of it ends like the marker
does; a summary in the words of a language model may well have such a row. -/

namespace CodeAtlas

namespace Text

/-- Only blanks are taken away from the ends. -/
theorem countP_dropBlanks (s : List Char) :
    (dropBlanks s).countP (!isBlank ·) = s.countP (!isBlank ·) := by
  induction s with
  | nil => rfl
  | cons c s ih =>
    rw [dropBlanks, List.dropWhile_cons]
    split
    next hc => rw [List.countP_cons_of_neg (by simp [hc])]; exact ih
    next hc => rfl

theorem countP_strip (s : List Char) : (strip s).countP (!isBlank ·) = s.countP (!isBlank ·) := by
  rw [strip, List.countP_reverse, countP_dropBlanks, List.countP_reverse, countP_dropBlanks]

end Text

namespace Chat

open Dialogue Ingest

/-- What stands in front of the code: a word, and the end of a row. -/
def marker : List Char := "Code:".toList ++ ['\n']

/-- No row ends like the marker. -/
def Unmarked (part : String) : Prop := ¬ marker <:+: part.toList ++ ['\n']

instance : DecidablePred Unmarked := fun part =>
  inferInstanceAs (Decidable (¬ marker <:+: part.toList ++ ['\n']))

theorem codeIn_of_cut? {text : String} {before code : List Char}
    (h : Text.cut? marker text.toList = some (before, code)) :
    codeIn text = String.ofList (Text.strip code) := by
  have hcut : Text.cut? "Code:\n".toList text.toList = some (before, code) := h
  rw [codeIn, hcut]
  simp only [Text.trim, String.toList_ofList]

section Document
variable (d : Definition) (summary : String)

/-- A part as it is stored, with its label in front. -/
def row (label part : String) : List Char := label.toList ++ (part.toList ++ ['\n'])

/-- What is stored in front of the marker, but for the empty row right before it. -/
def lead : List Char :=
  row "Type: " d.type ++ (row "Name: " d.name ++ row "Summary: " summary)

theorem toList_documentText :
    (SourceFile.documentText d summary).toList =
      lead d summary ++ ['\n'] ++ marker ++ d.truncatedCode.toList := by
  have hname : "\nName: ".toList = ['\n'] ++ "Name: ".toList := rfl
  have hsummary : "\nSummary: ".toList = ['\n'] ++ "Summary: ".toList := rfl
  have hcode : "\n\nCode:\n".toList = ['\n'] ++ ['\n'] ++ marker := rfl
  simp only [SourceFile.documentText, String.toList_append, hname, hsummary, hcode, lead, row,
    List.append_assoc]

/-- A row brings a marker along, or what follows it does. -/
theorem marker_infix_row_iff {label part : String} {rest : List Char} (h : 'C' ∉ label.toList) :
    marker <:+: row label part ++ rest ↔ ¬ Unmarked part ∨ marker <:+: rest := by
  have hsplit : marker <:+: part.toList ++ '\n' :: rest ↔
      marker <:+: part.toList ++ ['\n'] ∨ marker <:+: rest := Text.infix_row_iff (by decide)
  rw [Unmarked, not_not, ← hsplit, row, List.append_assoc, List.append_assoc]
  exact Text.infix_append_iff_of_notMem h

theorem marker_infix_lead_iff :
    marker <:+: lead d summary ++ ['\n'] ↔
      ¬ Unmarked d.type ∨ ¬ Unmarked d.name ∨ ¬ Unmarked summary := by
  have hend : ¬ marker <:+: ['\n'] := by decide
  rw [lead, List.append_assoc, List.append_assoc, marker_infix_row_iff (by decide),
    marker_infix_row_iff (by decide), marker_infix_row_iff (by decide), or_iff_left hend]

theorem codeIn_of_unmarked (h : ¬ marker <:+: lead d summary ++ ['\n']) :
    codeIn (SourceFile.documentText d summary) = Text.trim d.truncatedCode := by
  have hcut : Text.cut? marker (SourceFile.documentText d summary).toList =
      some (lead d summary ++ ['\n'], d.truncatedCode.toList) := by
    rw [toList_documentText]
    exact Text.cut?_row (by decide) h _
  exact codeIn_of_cut? hcut

/-- With a marker before its own, the code comes back with more than blanks in front. -/
theorem codeIn_ne_of_marked (h : marker <:+: lead d summary ++ ['\n']) :
    codeIn (SourceFile.documentText d summary) ≠ Text.trim d.truncatedCode := by
  obtain ⟨before, after, hcut⟩ := Text.exists_cut?_append h (marker ++ d.truncatedCode.toList)
  rw [← List.append_assoc, ← toList_documentText] at hcut
  intro heq
  rw [codeIn_of_cut? hcut, Text.trim, String.ofList_inj] at heq
  have hcount := congrArg (List.countP (!Text.isBlank ·)) heq
  have hmarker : marker.countP (!Text.isBlank ·) = 5 := by decide
  rw [Text.countP_strip, Text.countP_strip, List.countP_append, List.countP_append,
    hmarker] at hcount
  omega

theorem codeIn_documentText_iff :
    codeIn (SourceFile.documentText d summary) = Text.trim d.truncatedCode ↔
      Unmarked d.type ∧ Unmarked d.name ∧ Unmarked summary := by
  by_cases h : marker <:+: lead d summary ++ ['\n']
  · have hsome := (marker_infix_lead_iff d summary).mp h
    exact iff_of_false (codeIn_ne_of_marked d summary h) (by tauto)
  · have hnone := mt (marker_infix_lead_iff d summary).mpr h
    exact iff_of_true (codeIn_of_unmarked d summary h) (by tauto)

end Document

/-! ### What is stored -/

variable {σ : Type} {world : World σ}

/-- A definition that is taken in is stored with the summary that the model gives of it. -/
theorem exists_summary_of_ingestDefinition {f : SourceFile} {d : Definition} {s t : σ}
    {doc : Document} (h : (f.ingestDefinition d).run world s = (.ok (some doc), t)) :
    ∃ summary s' t', (Assistant.summarize d.fullCode).run world s' = (.ok summary, t') ∧
      doc = f.document d summary := by
  obtain ⟨existing, s₁, -, h⟩ := run_bind_eq_ok world h
  split at h
  · cases h
  · obtain ⟨summary, s₂, hsummary, h⟩ := run_bind_eq_ok world h
    obtain ⟨_, s₃, -, h⟩ := run_bind_eq_ok world h
    obtain ⟨_, s₄, -, h⟩ := run_bind_eq_ok world h
    cases h
    exact ⟨summary, s₁, s₂, hsummary, rfl⟩

/-- The code of a definition is found again just when no row of its type, its name or its summary
ends like the marker. The summary is what the model had to say when the definition was taken in. -/
theorem stored_code_found_iff (world : World σ) :
    (∀ (d : Definition) (summary : String),
      codeIn (SourceFile.documentText d summary) = Text.trim d.truncatedCode ↔
        Unmarked d.type ∧ Unmarked d.name ∧ Unmarked summary) ∧
    ∀ (f : SourceFile) (d : Definition) (s t : σ) (doc : Document),
      (f.ingestDefinition d).run world s = (.ok (some doc), t) →
      ∃ summary s' t', (Assistant.summarize d.fullCode).run world s' = (.ok summary, t') ∧
        doc.text = SourceFile.documentText d summary := by
  refine ⟨codeIn_documentText_iff, fun f d s t doc h => ?_⟩
  obtain ⟨summary, s', t', hsummary, rfl⟩ := exists_summary_of_ingestDefinition h
  exact ⟨summary, s', t', hsummary, rfl⟩

namespace Scribe

/-- An empty graph, and a model that gives one summary of everything. -/
def sums (summary : String) : World Unit
  | .graph _, _ => (.ok [], ())
  | .generate _, _ => (.ok summary, ())
  | _, _ => (.error .untold, ())

def total : Definition where
  id := "shop.py:total:1"
  type := "function"
  name := "total"
  startLine := 1
  endLine := 2
  parent := none
  fullCode := "def total(xs):\n    return sum(xs)"
  truncatedCode := "def total(xs):\n    return sum(xs)"

def shop : SourceFile := ⟨"shop.py", "shop", "Python", total.fullCode, ⟨[total], [], []⟩⟩

/-- The document of the definition, with what the model tells of it. -/
def stored (text : String) : Document := shop.document total (Text.trim text)

theorem run_total (text : String) :
    (shop.ingestDefinition total).run (sums text) () = (.ok (some (stored text)), ()) := rfl

/-- It has the marker's word in it, but not at the end of a row. -/
def harmless : String := "Code: adds up.\n"

theorem total_found :
    (shop.ingestDefinition total).run (sums harmless) () = (.ok (some (stored harmless)), ()) ∧
      (∃ summary s' t',
        (Assistant.summarize total.fullCode).run (sums harmless) s' = (.ok summary, t') ∧
          (stored harmless).text = SourceFile.documentText total summary) ∧
      codeIn (stored harmless).text = Text.trim total.truncatedCode := by
  obtain ⟨hiff, hstored⟩ := stored_code_found_iff (sums harmless)
  refine ⟨run_total _, hstored shop total () () _ (run_total _), (hiff total _).mpr ?_⟩
  exact ⟨by decide, by decide, by decide +kernel⟩

/-- A summary that ends like the marker makes the marker a part of the code. -/
theorem total_found_with_marker :
    (shop.ingestDefinition total).run (sums "See Code:") () =
        (.ok (some (stored "See Code:")), ()) ∧
      codeIn (stored "See Code:").text = "Code:\ndef total(xs):\n    return sum(xs)" ∧
      codeIn (stored "See Code:").text ≠ Text.trim total.truncatedCode := by
  have hmore : codeIn (stored "See Code:").text =
      "Code:\ndef total(xs):\n    return sum(xs)" := by decide +kernel
  refine ⟨run_total _, hmore, ?_⟩
  rw [hmore]
  decide +kernel

end Scribe

end Chat

end CodeAtlas
